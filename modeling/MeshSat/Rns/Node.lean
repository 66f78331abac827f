import MeshSat.Library.Keyed
import MeshSat.Reticulum.Announce

/-!
# The tables of a transport node

The path table, the identities learned, the announces kept for another round,
the requests for paths and the policies of paid interfaces, with what sweeps
and leaf marks do to them. Times are in nanoseconds.
-/

namespace MeshSat.Rns

open Library Reticulum

def second : Int := 1000000000
def pathfinderR : Nat := 1
/-- `PathfinderG + PathfinderRW` seconds. -/
def rebroadcastDelay : Int := 5500000000
def localRebroadcastsMax : Nat := 2
def reverseTimeout : Int := 8 * 60 * second
def linkTimeout : Int := 2 * 60 * 60 * second
def pathRequestTimeout : Int := 15 * second
def maxRandomBlobs : Nat := 64
def leafDisplaceGrace : Int := reverseTimeout

/-! ## Paths -/

structure PathEntry where
  destHash : TruncatedHash
  timestamp : Int
  nextHop : TruncatedHash
  (hops expires : Int)
  randomBlobs : List (List UInt8)
  iface : String
  announce : Option Announce
  packetHash : FullHash
  unresponsive : Bool

def PathEntry.direct (e : PathEntry) : Bool :=
  decide (e.hops ≤ 1) || decide (e.nextHop = e.destHash)

def blobTimestamp (b : List UInt8) : Nat :=
  if b.length < 10 then 0 else valueBE ((b.drop 5).take 5)

def newerStamp (best : Nat) (b : List UInt8) : Nat :=
  if blobTimestamp b > best then blobTimestamp b else best

def PathEntry.emittedAt (e : PathEntry) : Nat := e.randomBlobs.foldl newerStamp 0

abbrev PathTable := Keyed PathEntry.destHash

section
variable (t : PathTable)

def PathTable.remove (dest : TruncatedHash) : PathTable := t.deleteWhere fun e => e.destHash = dest

def PathTable.removeIface (ifaceID : String) : PathTable := t.deleteWhere fun e => e.iface = ifaceID

/-- Expired entries are kept one more lifetime. -/
def PathTable.expire (ttl now : Int) : PathTable := t.deleteWhere fun e => now > e.expires + ttl

/-- A packet was sent or forwarded along the path. -/
def PathTable.use (dest : TruncatedHash) (now : Int) : PathTable :=
  t.updateWhere (fun e => e.destHash = dest) fun e => { e with timestamp := now }

end

/-! ## What else a node keeps -/

structure KnownIdentity where
  destHash : TruncatedHash
  publicKey : List UInt8
  identity : Option PublicKeys
  appData : List UInt8
  ratchet : Option (List UInt8)
  (ratchetAt lastSeen : Int)

/-- An announce kept for `dest`. -/
structure AnnounceEntry where
  dest : TruncatedHash
  (timestamp retransmitTimeout : Int)
  retries : Nat
  receivedFrom : TruncatedHash
  hops : Int
  ann : Announce
  sourceIface : String
  localRebroadcasts : Nat
  /-- Sent as a path response on `attachedIface` only. -/
  blockRebroadcasts : Bool
  attachedIface : String

structure LinkEntry where
  linkID : TruncatedHash
  timestamp : Int
  nextHop : TruncatedHash
  nextHopIface : String
  remainingHops : Int
  receivedIface : String
  takenHops : Int
  destHash : TruncatedHash
  validated : Bool
  proofTimeout : Int

structure ReverseEntry where
  packetHash : TruncatedHash
  (receivedIface outboundIface : String)
  timestamp : Int

structure DiscoveryEntry where
  dest : TruncatedHash
  timeout : Int
  requestingIfaces : List String
  engaged : Bool

structure PaidPolicy where
  iface : String
  dests : List TruncatedHash
  (minInterval bitrate extraHops : Int)

def PaidPolicy.allows (p : PaidPolicy) (dest : TruncatedHash) : Bool := p.dests.contains dest

inductive PaidKind
  | announce | pathRequest
  deriving DecidableEq

structure PaidKey where
  iface : String
  dest : TruncatedHash
  kind : PaidKind
  deriving DecidableEq

structure Stats where
  (announcesRx paidTx paidSuppressed : Nat)

structure Node where
  idHash : TruncatedHash
  (pathTTL now : Int)
  dests : List TruncatedHash
  paths : PathTable
  identities : Keyed KnownIdentity.destHash
  (announceTable heldAnnounces : Keyed AnnounceEntry.dest)
  linkTable : Keyed LinkEntry.linkID
  reverseTable : Keyed ReverseEntry.packetHash
  discoveryPRs : Keyed DiscoveryEntry.dest
  inflightPRs : Keyed (Prod.fst : TruncatedHash × Int → TruncatedHash)
  pathWaiters : Keyed (Prod.fst : TruncatedHash × List Nat → TruncatedHash)
  /-- The interfaces marked as leaves. -/
  leaf : List String
  paid : Keyed PaidPolicy.iface
  paidLast : Keyed (Prod.fst : PaidKey × Int → PaidKey)
  stats : Stats

/-- What a step does besides changing the tables. -/
inductive Effect
  | transmit (ifaceID : String) (raw : List UInt8)
  /-- An announce is due, on its interface or on those that are flooded. -/
  | rebroadcast (dest : TruncatedHash) (raw : List UInt8) (only : Option String) (source : String)
  | closeWaiter (channel : Nat)
  | pathChanged (entry : PathEntry)
  | announced (ann : Announce)

/-! ## Leaves -/

def Node.isLeaf (n : Node) (ifaceID : String) : Bool := n.leaf.contains ifaceID

def Node.withoutLeaves (n : Node) (ifaces : List String) : List String :=
  ifaces.filter fun id => !n.isLeaf id

/-- Either change of the mark forgets what is known about the interface. -/
def Node.setLeaf (n : Node) (ifaceID : String) (leaf : Bool) : Node :=
  if n.isLeaf ifaceID = leaf then n
  else
    { n with
      leaf :=
        if leaf then ifaceID :: n.leaf
        else n.leaf.filter fun id => id ≠ ifaceID
      linkTable := n.linkTable.deleteWhere fun e =>
        e.receivedIface = ifaceID ∨ e.nextHopIface = ifaceID
      reverseTable := n.reverseTable.deleteWhere fun e =>
        e.receivedIface = ifaceID ∨ e.outboundIface = ifaceID
      announceTable := n.announceTable.deleteWhere fun e =>
        e.sourceIface = ifaceID ∨ e.attachedIface = ifaceID
      heldAnnounces := n.heldAnnounces.deleteWhere fun e =>
        e.sourceIface = ifaceID ∨ e.attachedIface = ifaceID
      discoveryPRs := n.discoveryPRs.deleteWhere fun d =>
        d.requestingIfaces.contains ifaceID
      paths := n.paths.removeIface ifaceID }

/-! ## Paid interfaces -/

/-- The last send of the kind was less than the interval ago. -/
def Node.paidEarly (n : Node) (k : PaidKey) (now minInterval : Int) : Bool :=
  match n.paidLast.get? k with
  | some (_, last) => decide (now - last < minInterval)
  | none => false

section
variable (n : Node) (ifaceID : String) (dest : TruncatedHash) (kind : PaidKind)

def Node.paidBook (now : Int) : Node × Bool :=
  match n.paid.get? ifaceID with
  | none => (n, false)
  | some p =>
    let k : PaidKey := ⟨ifaceID, dest, kind⟩
    if n.paidEarly k now p.minInterval then
      ({ n with
          stats :=
            { n.stats with paidSuppressed := n.stats.paidSuppressed + 1 } },
        false)
    else
      ({ n with
          paidLast := n.paidLast.put (k, now)
          stats := { n.stats with paidTx := n.stats.paidTx + 1 } }, true)

/-- Decides one send on a named interface, and books it. -/
def Node.paidGate : Node × Bool :=
  match n.paid.get? ifaceID with
  | none => (n, true)
  | some p =>
    if p.allows dest then n.paidBook ifaceID dest kind n.now
    else
      ({ n with
          stats :=
            { n.stats with paidSuppressed := n.stats.paidSuppressed + 1 } },
        false)

end

/-! ## Sweeps -/

def Node.expireTables (n : Node) : Node :=
  { n with
    reverseTable := n.reverseTable.deleteWhere fun e =>
      n.now > e.timestamp + reverseTimeout
    linkTable := n.linkTable.deleteWhere fun e =>
      (!e.validated && decide (n.now > e.proofTimeout)) ||
        decide (n.now > e.timestamp + linkTimeout)
    paths := n.paths.expire n.pathTTL n.now }

def Node.expireDiscovery (n : Node) : Node :=
  { n with
    discoveryPRs := n.discoveryPRs.deleteWhere fun d => n.now > d.timeout
    inflightPRs := n.inflightPRs.deleteWhere fun request =>
      (match n.discoveryPRs.get? request.1 with
        | some d => decide (n.now > d.timeout)
        | none => false) ||
      decide (n.now > request.2 + pathRequestTimeout) }

end MeshSat.Rns
