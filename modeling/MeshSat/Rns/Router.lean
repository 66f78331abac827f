import Mathlib.Data.List.Sort
import Mathlib.Data.String.Basic
import MeshSat.Rns.Announces

/-!
# What a node sends of its own accord

Announces, their repetition, path responses and path requests, with the gates
of paid interfaces and the queues that keep announces on a slow interface to
their share of its time.

To tell relayed traffic from the node's own and to count, every packet sent carries the interface on
which its content was heard, and a log keeps when an announce or a path request was decided; the
code has only the interface of announces kept for repetition.
-/

namespace MeshSat.Rns

open Library Reticulum

def pathRequestGrace : Int := 400000000
def announceQueueMax : Nat := 16
def defaultPaidMinInterval : Int := 5 * 60 * second
def prTagsMax : Nat := 20000
def hashlistMax : Nat := 50000

/-! ## What is sent -/

inductive Traffic
  | announce (dest : TruncatedHash)
  | pathRequest (dest : TruncatedHash)
  /-- A packet of somebody else on its way. -/
  | transit
  deriving DecidableEq

structure Sent where
  iface : String
  traffic : Traffic
  raw : List UInt8
  /-- Where its content was heard. -/
  source : Option String

/-- An announce to be sent. -/
structure Announcement where
  dest : TruncatedHash
  raw : List UInt8
  source : Option String

def Announcement.sentOn (a : Announcement) (ifaceID : String) : Sent :=
  ⟨ifaceID, .announce a.dest, a.raw, a.source⟩

/-- Announces that wait for their share of an interface. -/
structure AnnounceQueue where
  iface : String
  /-- No time yet means at once. -/
  allowedAt : Option Int
  pending : List Announcement

/-- An announce or a path request was decided, with the interval the policy of
the interface asked for. -/
structure Booking where
  key : PaidKey
  (time interval : Int)

/-- What one step sees of its surroundings. -/
structure Medium where
  /-- The online interfaces that may carry broadcast traffic. -/
  floodable : List String
  online : String → Bool
  (bitrate hwmtu : String → Int)
  /-- How long a packet of a length keeps an interface of a bit rate from the
  next announce. -/
  wait : Nat → Int → Int
  /-- A new announce of a local destination, as a path response or not. -/
  fresh : TruncatedHash → Bool → Option (List UInt8)
  /-- The random wait before an announce is repeated. -/
  delay : Int
  /-- Maps are visited in the order of these numbers. -/
  rank : TruncatedHash → Nat

structure Router extends Node where
  pathRequestDest : TruncatedHash
  /-- The interfaces whose peers cannot address a transport node. -/
  forwardHeader1From : List String
  (hashlist hashlistPrev : List FullHash)
  (prTags prTagsPrev : List (TruncatedHash × TruncatedHash))
  announceQueue : Keyed AnnounceQueue.iface
  /-- Where the announce was heard that a path response repeats. -/
  answerFrom : TruncatedHash → String
  /-- The newest first. -/
  log : List Booking

def Router.new (idHash pathRequestDest : TruncatedHash) (pathTTL now : Int)
    (forwardHeader1From : List String) : Router where
  idHash := idHash
  pathTTL := pathTTL
  now := now
  dests := []
  paths := .empty
  identities := .empty
  announceTable := .empty
  heldAnnounces := .empty
  linkTable := .empty
  reverseTable := .empty
  discoveryPRs := .empty
  inflightPRs := .empty
  pathWaiters := .empty
  leaf := []
  paid := .empty
  paidLast := .empty
  stats := ⟨0, 0, 0⟩
  pathRequestDest := pathRequestDest
  forwardHeader1From := forwardHeader1From
  hashlist := []
  hashlistPrev := []
  prTags := []
  prTagsPrev := []
  announceQueue := .empty
  answerFrom := fun _ => ""
  log := []

abbrev Routed := Router × List Sent

/-! ## Paid interfaces -/

def Router.setPaidPolicy (r : Router) (p : PaidPolicy) : Router :=
  if p.dests = [] then
    { r with paid := r.paid.deleteWhere fun q => q.iface = p.iface }
  else
    { r with
      paid := r.paid.put
        { p with
          minInterval :=
            if p.minInterval ≤ 0 then defaultPaidMinInterval
            else p.minInterval } }

/-- Books the sends on those of the interfaces that are online and whose last
send is long enough ago. -/
def Node.paidBookAll (n : Node) (online : String → Bool)
    (dest : TruncatedHash) (kind : PaidKind) : List String → Node × List String
  | [] => (n, [])
  | id :: rest =>
    if !online id then n.paidBookAll online dest kind rest
    else
      let (booked, allowed) := n.paidBook id dest kind n.now
      let (last, ids) := booked.paidBookAll online dest kind rest
      (last, if allowed then id :: ids else ids)

/-- The paid interfaces, other than `other`, that are open to `dest`. -/
def Node.paidOpen (n : Node) (dest : TruncatedHash) (other : String) : List String :=
  ((n.paid.entries.filter fun p =>
    decide (p.iface ≠ other) && p.allows dest).map PaidPolicy.iface).insertionSort (· ≤ ·)

def Node.paidTake (n : Node) (online : String → Bool) (dest : TruncatedHash)
    (kind : PaidKind) (other : String) : Node × List String :=
  n.paidBookAll online dest kind (n.paidOpen dest other)

def Router.paidTake (r : Router) (m : Medium) (dest : TruncatedHash)
    (kind : PaidKind) (other : String) : Router × List String :=
  let (n, ids) := r.toNode.paidTake m.online dest kind other
  ({ r with toNode := n }, ids)

def Router.paidGate (r : Router) (ifaceID : String) (dest : TruncatedHash)
    (kind : PaidKind) : Router × Bool :=
  let (n, allowed) := r.toNode.paidGate ifaceID dest kind
  ({ r with toNode := n }, allowed)

def Node.paidInterval (n : Node) (ifaceID : String) : Int :=
  match n.paid.get? ifaceID with
  | some p => p.minInterval
  | none => 0

def Router.note (r : Router) (ifaceID : String) (dest : TruncatedHash) (kind : PaidKind) : Router :=
  { r with
    log := ⟨⟨ifaceID, dest, kind⟩, r.now, r.paidInterval ifaceID⟩ :: r.log }

/-! ## Announces -/

def Router.announceBitrate (r : Router) (m : Medium) (ifaceID : String) : Int :=
  if 0 < m.bitrate ifaceID then m.bitrate ifaceID
  else
    match r.paid.get? ifaceID with
    | some p => p.bitrate
    | none => 0

def Router.queueOf (r : Router) (ifaceID : String) : AnnounceQueue :=
  match r.announceQueue.get? ifaceID with
  | some q => q
  | none => ⟨ifaceID, none, []⟩

def AnnounceQueue.ready (q : AnnounceQueue) (now : Int) : Bool :=
  q.pending.isEmpty &&
    match q.allowedAt with
    | none => true
    | some allowedAt => decide (now > allowedAt)

namespace Router

/-- Announces beyond the share of an interface are queued. -/
def sendAnnounceOn (r : Router) (m : Medium) (a : Announcement) (ifaceID : String) : Routed :=
  let r := r.note ifaceID a.dest .announce
  let bitrate := r.announceBitrate m ifaceID
  if bitrate ≤ 0 then (r, [a.sentOn ifaceID])
  else
    let q := r.queueOf ifaceID
    if q.ready r.now then
      ({ r with
          announceQueue := r.announceQueue.put
            { q with allowedAt := some (r.now + m.wait a.raw.length bitrate) } },
        [a.sentOn ifaceID])
    else if q.pending.length ≥ announceQueueMax then (r, [])
    else
      ({ r with
          announceQueue := r.announceQueue.put
            { q with pending := q.pending ++ [a] } }, [])

/-- The first of the announces that wait on an interface. -/
def flushAnnounceQueue (r : Router) (m : Medium) (ifaceID : String) : Routed :=
  let q := r.queueOf ifaceID
  match q.pending with
  | [] => (r, [])
  | a :: rest =>
    let bitrate := r.announceBitrate m ifaceID
    ({ r with
        announceQueue := r.announceQueue.put
          { q with
            pending := rest
            allowedAt := some (if 0 < bitrate then r.now + m.wait a.raw.length bitrate
              else r.now) } },
      [a.sentOn ifaceID])

def announceOn (r : Router) (m : Medium) (a : Announcement) : List String → Routed
  | [] => (r, [])
  | id :: rest =>
    let (r, first) := r.sendAnnounceOn m a id
    let (r, others) := r.announceOn m a rest
    (r, first ++ others)

/-- `Announce`, on one interface or on all that are flooded or open to the
destination. -/
def announce (r : Router) (m : Medium) (dest : TruncatedHash)
    (ifaceID : String) (pathResponse : Bool) : Routed :=
  match m.fresh dest pathResponse with
  | none => (r, [])
  | some raw =>
    if ifaceID ≠ "" then
      let (r, allowed) := r.paidGate ifaceID dest .announce
      if allowed then r.sendAnnounceOn m ⟨dest, raw, none⟩ ifaceID
      else (r, [])
    else
      let (r, paid) := r.paidTake m dest .announce ""
      r.announceOn m ⟨dest, raw, none⟩ (m.floodable ++ paid)

/-- Repeats an announce that is due, or sends the path response. -/
def rebroadcast (r : Router) (m : Medium) : Effect → Routed
  | .rebroadcast dest raw none source =>
    let (r, paid) := r.paidTake m dest .announce source
    r.announceOn m ⟨dest, raw, some source⟩ (r.withoutLeaves (m.floodable ++ paid))
  | .rebroadcast dest raw (some attached) _ =>
    if r.isLeaf attached then (r, [])
    else
      let (r, allowed) := r.paidGate attached dest .announce
      if allowed then
        r.sendAnnounceOn m ⟨dest, raw, some (r.answerFrom dest)⟩ attached
      else (r, [])
  | _ => (r, [])

def rebroadcastAll (r : Router) (m : Medium) : List Effect → Routed
  | [] => (r, [])
  | effect :: rest =>
    let (r, first) := r.rebroadcast m effect
    let (r, others) := r.rebroadcastAll m rest
    (r, first ++ others)

end Router

def Effect.rank (m : Medium) : Effect → Nat
  | .rebroadcast dest .. => m.rank dest
  | _ => 0

def Router.processAnnounces (r : Router) (m : Medium) : Routed :=
  let (n, due) := r.toNode.processAnnounceTable
  { r with toNode := n }.rebroadcastAll m (due.insertionSort fun a b => a.rank m ≤ b.rank m)

/-- Half of what is remembered is dropped when there is too much. -/
def Router.rotate (r : Router) : Router :=
  let r :=
    if r.hashlist.length > hashlistMax then
      { r with hashlistPrev := r.hashlist, hashlist := [] }
    else r
  if r.prTags.length > prTagsMax then
    { r with prTagsPrev := r.prTags, prTags := [] }
  else r

def Router.jobs (r : Router) (m : Medium) : Routed :=
  let (r, sent) := r.processAnnounces m
  ({ r with toNode := r.toNode.expireTables.expireDiscovery }.rotate, sent)

/-! ## Path requests -/

structure PathRequest where
  dest : TruncatedHash
  requestor : Option TruncatedHash
  tag : List UInt8

/-- Nothing if it is too short or has no tag. -/
def parsePathRequest (data : List UInt8) : Option PathRequest :=
  let dest := FixedBytes.copy truncatedHashLen (data.take truncatedHashLen)
  let rest := data.drop truncatedHashLen
  if data.length > 2 * truncatedHashLen then
    some
      { dest := dest
        requestor := some (FixedBytes.copy _ (rest.take truncatedHashLen))
        tag := (rest.drop truncatedHashLen).take truncatedHashLen }
  else if data.length > truncatedHashLen then
    some { dest := dest, requestor := none, tag := rest.take truncatedHashLen }
  else none

def Router.pathRequestRaw (r : Router) (dest tag : TruncatedHash) : List UInt8 :=
  { headerType := .type1
    contextFlag := false
    transportType := .broadcast
    destType := .plain
    packetType := .data
    hops := 0
    transportID := FixedBytes.zero _
    destHash := r.pathRequestDest
    context := contextNone
    data := dest.bytes ++ r.idHash.bytes ++ tag.bytes : Header }.marshal

/-- `sendPathRequest` on one interface after the other. -/
def Router.sendPathRequests (r : Router) (dest tag : TruncatedHash)
    (source : Option String) : List String → Routed
  | [] => (r, [])
  | id :: rest =>
    let (r, others) := (r.note id dest .pathRequest).sendPathRequests dest tag source rest
    (r, ⟨id, .pathRequest dest, r.pathRequestRaw dest tag, source⟩ :: others)

def Router.resolveInflight (r : Router) (dest : TruncatedHash) : Router :=
  { r with inflightPRs := r.inflightPRs.deleteWhere fun p => p.1 = dest }

def DiscoveryEntry.askedOn (d : DiscoveryEntry) (ifaceID : String) : DiscoveryEntry :=
  if d.requestingIfaces.contains ifaceID then d
  else { d with requestingIfaces := d.requestingIfaces ++ [ifaceID] }

def Router.putDiscovery (r : Router) (d : DiscoveryEntry) : Router :=
  { r with discoveryPRs := r.discoveryPRs.put d }

/-- The request joins the search that is under way. -/
def Router.batch (r : Router) (dest : TruncatedHash) (ifaceID : String) : Router :=
  let d :=
    match r.discoveryPRs.get? dest with
    | some d => d
    | none => ⟨dest, r.now + pathRequestTimeout, [], false⟩
  r.putDiscovery (d.askedOn ifaceID)

def Router.queueAnswer (r : Router) (e : PathEntry) (ann : Announce)
    (dest : TruncatedHash) (ifaceID : String) : Router :=
  let held :=
    match r.announceTable.get? dest with
    | some held =>
      if held.blockRebroadcasts then r.heldAnnounces
      else r.heldAnnounces.put held
    | none => r.heldAnnounces
  { r with
    heldAnnounces := held
    announceTable := r.announceTable.put
      { dest := dest
        timestamp := r.now
        retransmitTimeout := r.now + pathRequestGrace
        retries := pathfinderR
        receivedFrom := e.nextHop
        hops := e.hops
        ann := ann
        sourceIface := ""
        localRebroadcasts := 0
        blockRebroadcasts := true
        attachedIface := ifaceID }
    answerFrom := Function.update r.answerFrom dest e.iface }

/-- Relaying from one interface to the other would carry traffic into or out
of a leaf. -/
def Node.crossesLeaf (n : Node) (input output : String) : Bool := n.isLeaf input || n.isLeaf output

section
variable (r : Router) (m : Medium) (q : PathRequest) (ifaceID : String)

/-- The request is passed on with its tag. -/
def Router.search : Routed :=
  match r.discoveryPRs.get? q.dest with
  | some ⟨dest, timeout, ifaces, true⟩ =>
    (r.putDiscovery ((⟨dest, timeout, ifaces, true⟩ : DiscoveryEntry).askedOn ifaceID), [])
  | found =>
    let ifaces :=
      match found with
      | some d => d.requestingIfaces
      | none => []
    let r := r.putDiscovery ((⟨q.dest, r.now + pathRequestTimeout, ifaces, true⟩ :
        DiscoveryEntry).askedOn ifaceID)
    let (r, paid) := r.paidTake m q.dest .pathRequest ifaceID
    r.sendPathRequests q.dest (FixedBytes.copy _ q.tag) (some ifaceID)
      ((r.withoutLeaves (m.floodable ++ paid)).filter fun id => id ≠ ifaceID)

def Router.answerOrSearch : Routed :=
  match r.paths.get? q.dest with
  | none => r.search m q ifaceID
  | some e =>
    match e.announce with
    | none => r.search m q ifaceID
    | some ann =>
      if q.requestor = some e.nextHop then (r.resolveInflight q.dest, [])
      else if r.crossesLeaf ifaceID e.iface then
        (r.resolveInflight q.dest, [])
      else
        ((r.queueAnswer e ann q.dest ifaceID).resolveInflight q.dest, [])

end

def Router.handlePathRequest (r : Router) (m : Medium) (pkt : Packet) : Routed :=
  match parsePathRequest pkt.hdr.data with
  | none => (r, [])
  | some q =>
    let unique := (q.dest, FixedBytes.copy truncatedHashLen q.tag)
    if unique ∈ r.prTags ∨ unique ∈ r.prTagsPrev then (r, [])
    else
      let r := { r with prTags := unique :: r.prTags }
      if r.isLeaf pkt.iface then
        -- A leaf hears about local destinations only.
        if r.dests.contains q.dest then r.announce m q.dest pkt.iface true
        else (r, [])
      else if (r.inflightPRs.get? q.dest).isSome then
        (r.batch q.dest pkt.iface, [])
      else
        let r := { r with inflightPRs := r.inflightPRs.put (q.dest, r.now) }
        if r.dests.contains q.dest then
          let (r, sent) := r.announce m q.dest pkt.iface true
          (r.resolveInflight q.dest, sent)
        else r.answerOrSearch m q pkt.iface

def Node.hasPath (n : Node) (dest : TruncatedHash) : Bool :=
  match n.paths.get? dest with
  | none => false
  | some e => decide (n.now < e.expires)

/-- `RequestPathWith` until it waits: under `FreeOnly` no paid interface is
asked. -/
def Router.requestPathWith (r : Router) (m : Medium) (dest : TruncatedHash)
    (freeOnly : Bool) (channel : Nat) (tag : TruncatedHash) : Routed :=
  if r.hasPath dest then (r, [])
  else
    let waiting :=
      match r.pathWaiters.get? dest with
      | some (_, channels) => channels ++ [channel]
      | none => [channel]
    let r := { r with pathWaiters := r.pathWaiters.put (dest, waiting) }
    let (r, paid) :=
      if freeOnly then (r, []) else r.paidTake m dest .pathRequest ""
    r.sendPathRequests dest tag none (m.floodable ++ paid)

def Router.stopWaiting (r : Router) (dest : TruncatedHash) (channel : Nat) : Router :=
  match r.pathWaiters.get? dest with
  | none => r
  | some (_, channels) =>
    { r with
      pathWaiters := r.pathWaiters.put (dest, channels.erase channel) }

/-! ## Announces that are heard -/

/-- The path responses that handling an announce sends. -/
def Router.noteAnswers (r : Router) (dest : TruncatedHash) (source : String) : List Effect → Routed
  | [] => (r, [])
  | .transmit ifaceID raw :: rest =>
    let (r, others) := (r.note ifaceID dest .announce).noteAnswers dest source rest
    (r, ⟨ifaceID, .announce dest, raw, some source⟩ :: others)
  | _ :: rest => r.noteAnswers dest source rest

def Router.handleAnnounce (r : Router) (crypto : Crypto) (m : Medium) (pkt : Packet) : Routed :=
  let (n, effects) := r.toNode.handleAnnounce crypto m.delay pkt
  { r with toNode := n }.noteAnswers pkt.hdr.destHash pkt.iface effects

end MeshSat.Rns
