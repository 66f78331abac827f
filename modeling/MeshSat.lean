import MeshSat.Intents.Fallback
import MeshSat.Intents.Duplicates
import MeshSat.Hub.Retention
import MeshSat.Hub.Evidence
import MeshSat.Oob.Nonces
import MeshSat.Oob.HopReply
import MeshSat.Dtn.Reassembly
import MeshSat.Engine.Transform
import MeshSat.Routing.CodedSafety
import MeshSat.Routing.TransferCoded
import MeshSat.Rns.ResourceTransfer
import MeshSat.Rns.FreeOnly
import MeshSat.Rns.LeafIsolation
import MeshSat.Engine.HopFloor
import MeshSat.Engine.NoAck
import MeshSat.Engine.AuditLog
import MeshSat.Hub.Missing
import MeshSat.Hub.Handoff
import MeshSat.Intents.Clock
import MeshSat.Warnings.Relay
import MeshSat.Engine.Retry
import MeshSat.Hf10m.Reassembler
import MeshSat.Rns.LinkMtu
