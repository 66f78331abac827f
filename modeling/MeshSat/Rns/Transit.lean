import MeshSat.Library.TransitionSystem
import MeshSat.Reticulum.Token
import MeshSat.Rns.Router

/-!
# Packets in transit

What a node does with a packet it receives: packets in transport, packets and
proofs of links it carries, announces and path requests. What is addressed
to one of its own destinations or links is handed to them.
-/

namespace MeshSat.Rns

open Library Reticulum

def contextCacheRequest : UInt8 := 0x08
def contextChannel : UInt8 := 0x0E
def hopTimeout : Int := 6 * second

structure LinkChecks where
  /-- `LinkIDFromRequestPacket`. -/
  linkID : Header → Option TruncatedHash
  /-- The link proof is well formed and signed by the identity. -/
  validProof : Header → PublicKeys → Bool

/-- No link request has an id and no proof is valid. -/
def noLinks : LinkChecks := ⟨fun _ => none, fun _ _ => false⟩

/-! ## Rewriting -/

def rewriteForTransport (h : Header) (transportID : TruncatedHash) : Header :=
  { h with
    headerType := .type2
    transportType := .transport
    transportID := transportID }

def stripTransport (h : Header) : Header :=
  if h.headerType = .type2 then
    { h with
      headerType := .type1
      transportType := .broadcast
      transportID := FixedBytes.zero _ }
  else h

def signallingBytes (mtu : Nat) (mode : UInt8) : List UInt8 :=
  let v := mtu % 2 ^ 21 + (mode <<< 5).toNat * 2 ^ 16
  [UInt8.ofNat (v / 2 ^ 16), UInt8.ofNat (v / 2 ^ 8), UInt8.ofNat v]

/-- The MTU a link request signals, cut to those of the two interfaces. -/
def clampMTU (data : List UInt8) (nhMTU phMTU : Int) : List UInt8 :=
  if data.length = linkECPubSize + linkMTUSize then
    let keys := data.take linkECPubSize
    let (pathMTU, mode) := parseSignalling (data.drop linkECPubSize)
    if nhMTU = 0 then keys
    else
      let m : Int := if nhMTU < pathMTU then nhMTU else pathMTU
      let m := if 0 < phMTU ∧ phMTU < m then phMTU else m
      if m ≠ pathMTU then keys ++ signallingBytes m.toNat mode else data
  else data

/-! ## Forwarding -/

def Router.relay (pkt : Packet) (ifaceID : String) (h : Header) : Sent :=
  ⟨ifaceID, .transit, h.marshal, some pkt.iface⟩

def Router.putLink (r : Router) (e : PathEntry) (pkt : Packet) (linkID : TruncatedHash) : Router :=
  { r with
    linkTable := r.linkTable.put
      { linkID := linkID
        timestamp := r.now
        nextHop := e.nextHop
        nextHopIface := e.iface
        remainingHops := e.hops
        receivedIface := pkt.iface
        takenHops := pkt.hdr.hops.toNat
        destHash := pkt.hdr.destHash
        validated := false
        proofTimeout := r.now + hopTimeout * max 1 e.hops } }

def Packet.truncatedHash (pkt : Packet) : TruncatedHash :=
  FixedBytes.copy _ (pkt.hash.bytes.take truncatedHashLen)

section
variable (r : Router)

def Router.putReverse (e : PathEntry) (pkt : Packet) : Router :=
  { r with
    reverseTable := r.reverseTable.put ⟨pkt.truncatedHash, pkt.iface, e.iface, r.now⟩ }

def Router.usePath (dest : TruncatedHash) : Router :=
  { r with paths := r.paths.use dest r.now }

/-- A packet in transport that names this node. Nothing is returned when no
path is known. -/
def Router.forwardTransport (x : LinkChecks) (m : Medium) (pkt : Packet) : Option Routed :=
  let h := pkt.hdr
  match r.paths.get? h.destHash with
  | none => none
  | some e =>
    if r.crossesLeaf pkt.iface e.iface then some (r, [])
    else
      let out :=
        if e.direct then stripTransport h
        else rewriteForTransport h e.nextHop
      if h.packetType = .linkRequest then
        match x.linkID h with
        | none => some (r, [])
        | some id => some ((r.putLink e pkt id).usePath h.destHash, [Router.relay pkt e.iface
              { out with
                data := clampMTU h.data (m.hwmtu e.iface) (m.hwmtu pkt.iface) }])
      else
        some ((r.putReverse e pkt).usePath h.destHash, [Router.relay pkt e.iface out])

/-- A packet without a transport id from an interface whose peers cannot
address this node. -/
def Router.forwardHeader1 (x : LinkChecks) (pkt : Packet) : Routed :=
  let h := pkt.hdr
  if !r.forwardHeader1From.contains pkt.iface then (r, [])
  else
    match r.paths.get? h.destHash with
    | none => (r, [])
    | some e =>
      if e.iface = pkt.iface then (r, [])
      else if r.crossesLeaf pkt.iface e.iface then (r, [])
      else
        let out := if e.direct then h else rewriteForTransport h e.nextHop
        let r :=
          if h.packetType = .linkRequest then
            match x.linkID h with
            | some id => r.putLink e pkt id
            | none => r
          else r.putReverse e pkt
        (r, [Router.relay pkt e.iface out])

def Router.remember (hash : FullHash) : Router :=
  { r with hashlist := r.hashlist.insert hash }

end

def LinkEntry.otherEnd (e : LinkEntry) (pkt : Packet) : Option String :=
  let hops : Int := pkt.hdr.hops.toNat
  if e.nextHopIface = e.receivedIface then
    if hops = e.remainingHops ∨ hops = e.takenHops then some e.nextHopIface
    else none
  else if pkt.iface = e.nextHopIface then
    if hops = e.remainingHops then some e.receivedIface else none
  else if pkt.iface = e.receivedIface then
    if hops = e.takenHops then some e.nextHopIface else none
  else none

/-- Repeats packets of a link that is carried here. -/
def Router.linkTransit (r : Router) (pkt : Packet) : Option Routed :=
  match r.linkTable.get? pkt.hdr.destHash with
  | none => none
  | some e =>
    if !e.validated then some (r, [])
    else
      match e.otherEnd pkt with
      | none => some (r, [])
      | some ifaceID =>
        some ({ r with
              linkTable := r.linkTable.put { e with timestamp := r.now }
            }.remember pkt.hash,
            [Router.relay pkt ifaceID pkt.hdr])

/-- Passes on the proof of a link request that was forwarded here. -/
def Router.lrProofTransit (r : Router) (x : LinkChecks) (pkt : Packet) : Option Routed :=
  match r.linkTable.get? pkt.hdr.destHash with
  | none => none
  | some e =>
    if (pkt.hdr.hops.toNat : Int) ≠ e.remainingHops ∨ pkt.iface ≠ e.nextHopIface then
      some (r, [])
    else
      match (r.identities.get? e.destHash).bind KnownIdentity.identity with
      | none => some (r, [])
      | some keys =>
        if x.validProof pkt.hdr keys then
          some ({ r with
                linkTable := r.linkTable.put
                  { e with validated := true, timestamp := r.now } },
              [Router.relay pkt e.receivedIface pkt.hdr])
        else some (r, [])

/-- Passes on the proof of a packet that was forwarded here. -/
def Router.proofTransit (r : Router) (pkt : Packet) : Routed :=
  match r.reverseTable.get? pkt.hdr.destHash with
  | none => (r, [])
  | some e =>
    let r :=
      { r with
        reverseTable := r.reverseTable.deleteWhere fun other =>
          other.packetHash = pkt.hdr.destHash }
    if pkt.iface ≠ e.outboundIface then (r, [])
    else (r, [Router.relay pkt e.receivedIface pkt.hdr])

/-! ## Receiving -/

/-- An older node wrote a packet to a neighbour as if in transport. -/
def Router.unwrapNeighbour (r : Router) (h : Header) : Header :=
  if h.headerType = .type2 ∧ h.packetType ≠ .announce ∧
      h.transportID = h.destHash ∧ h.transportID ≠ r.idHash ∧ r.dests.contains h.destHash then
    stripTransport h
  else h

/-- The contexts that are let through unseen. -/
def repeatedContext (context : UInt8) : Bool :=
  context = contextKeepalive || context = contextResourceReq ||
    context = contextResourcePRF || context = contextResource ||
    context = contextCacheRequest || context = contextChannel

namespace Router

section
variable (r : Router)

def packetFilter (h : Header) (hash : FullHash) : Bool :=
  if h.headerType = .type2 ∧ h.packetType ≠ .announce ∧ h.transportID ≠ r.idHash then
    false
  else if repeatedContext h.context then true
  else if h.destType = .plain ∨ h.destType = .group then
    h.packetType ≠ .announce && decide (h.hops ≤ 1)
  else if hash ∈ r.hashlist ∨ hash ∈ r.hashlistPrev then
    h.packetType = .announce && h.destType = .single
  else true

def paidExtraHops (ifaceID : String) : Int :=
  match r.paid.get? ifaceID with
  | some p => p.extraHops
  | none => 0

/-- One hop more, or several on a paid interface. -/
def countHops (h : Header) (ifaceID : String) : Header :=
  let extra := r.paidExtraHops ifaceID
  if 0 < extra ∧ h.hops.toNat + 1 + extra ≤ 255 then
    { h with hops := h.hops + UInt8.ofInt extra + 1 }
  else { h with hops := h.hops + 1 }

section
variable (crypto : Crypto) (x : LinkChecks) (m : Medium)

/-- A packet that is neither in transport nor part of a link carried here. -/
def dispatch (pkt : Packet) : Routed :=
  let h := pkt.hdr
  match h.packetType with
  | .announce => r.handleAnnounce crypto m pkt
  | .linkRequest =>
    if h.destType ≠ .single ∨ r.dests.contains h.destHash then (r, [])
    else r.forwardHeader1 x pkt
  | .data =>
    match h.destType with
    | .link | .group => (r, [])
    | .plain =>
      if h.destHash = r.pathRequestDest then r.handlePathRequest m pkt
      else (r, [])
    | .single =>
      if r.dests.contains h.destHash then (r, [])
      else r.forwardHeader1 x pkt
  | .proof =>
    if h.context = contextLRProof then
      (r.lrProofTransit x pkt).getD (r, [])
    else if h.context = contextResourcePRF then (r, [])
    else r.proofTransit pkt

/-- After the packet was counted: transport, links, and the rest. -/
def route (pkt : Packet) : Routed :=
  let h := pkt.hdr
  let onward :=
    if h.packetType ≠ .announce ∧ h.packetType ≠ .linkRequest ∧ h.context ≠ contextLRProof then
      (r.linkTransit pkt).getD (r.dispatch crypto x m pkt)
    else r.dispatch crypto x m pkt
  if h.headerType = .type2 ∧ h.packetType ≠ .announce then
    if h.transportID ≠ r.idHash then (r, [])
    else
      match r.forwardTransport x m pkt with
      | some routed => routed
      | none => if h.packetType = .linkRequest then onward else (r, [])
  else onward

/-- `Inbound`, once the header is read. -/
def inbound (hdr : Header) (hash : FullHash) (ifaceID : String) : Routed :=
  let h := r.unwrapNeighbour hdr
  if !r.packetFilter h hash then (r, [])
  else
    let h := r.countHops h ifaceID
    let r :=
      if (r.linkTable.get? h.destHash).isNone && !(decide (h.packetType = .proof) &&
            decide (h.context = contextLRProof)) then
        r.remember hash
      else r
    r.route crypto x m ⟨h, hash, ifaceID⟩

end

end

end Router

/-! ## Steps -/

inductive RouterAction
  | inbound (m : Medium) (hdr : Header) (hash : FullHash) (ifaceID : String)
  | jobs (m : Medium)
  | flush (m : Medium) (ifaceID : String)
  | announce (m : Medium) (dest : TruncatedHash) (ifaceID : String) (pathResponse : Bool)
  | requestPath (m : Medium) (dest : TruncatedHash) (freeOnly : Bool)
      (channel : Nat) (tag : TruncatedHash)
  | stopWaiting (dest : TruncatedHash) (channel : Nat)
  | setPaidPolicy (p : PaidPolicy)
  | setLeaf (ifaceID : String) (leaf : Bool)
  | addDestination (dest : TruncatedHash)
  | putPath (e : PathEntry)
  | removePath (dest : TruncatedHash)
  /-- A packet of the node's own goes along the path. -/
  | usePath (dest : TruncatedHash)
  | rememberIdentity (k : KnownIdentity)
  | tick (elapsed : Nat)

def RouterAction.floodable : RouterAction → List String
  | .inbound m .. | .jobs m | .flush m _ | .announce m .. | .requestPath m .. => m.floodable
  | _ => []

def Router.step (crypto : Crypto) (x : LinkChecks) (r : Router) : RouterAction → Routed
  | .inbound m hdr hash ifaceID => r.inbound crypto x m hdr hash ifaceID
  | .jobs m => r.jobs m
  | .flush m ifaceID => r.flushAnnounceQueue m ifaceID
  | .announce m dest ifaceID pathResponse => r.announce m dest ifaceID pathResponse
  | .requestPath m dest freeOnly channel tag => r.requestPathWith m dest freeOnly channel tag
  | .stopWaiting dest channel => (r.stopWaiting dest channel, [])
  | .setPaidPolicy p => (r.setPaidPolicy p, [])
  | .setLeaf ifaceID leaf => ({ r with toNode := r.toNode.setLeaf ifaceID leaf }, [])
  | .addDestination dest => ({ r with dests := dest :: r.dests }, [])
  | .putPath e => ({ r with paths := r.paths.put e }, [])
  | .removePath dest => ({ r with paths := r.paths.remove dest }, [])
  | .usePath dest => (r.usePath dest, [])
  | .rememberIdentity k => ({ r with identities := r.identities.put k }, [])
  | .tick elapsed => ({ r with now := r.now + elapsed }, [])

/-- Every action can be taken in every state. -/
def routerSystem (crypto : Crypto) (x : LinkChecks) (start : Router) :
    TransitionSystem Router RouterAction where
  initial := start
  exec r action := some (r.step crypto x action).1

end MeshSat.Rns
