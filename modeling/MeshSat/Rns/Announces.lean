import MeshSat.Rns.Node

/-!
# Announces

An announce is checked against the path known for its destination, and learned
if it is newer. A node keeps the random blobs of the last announces learned,
whose time stamps decide. Along every run in which a path stays in the table
and does not expire, the announces learned for it are emitted at later and later
times.
-/

variable {emitted limit : Nat}

namespace MeshSat.Rns

open Library Reticulum List Node Keyed PathTable AnnounceEntry

structure Packet where
  hdr : Header
  hash : FullHash
  iface : String

/-! ## Handling an announce -/

def parseAnnounce (crypto : Crypto) (h : Header) : Option Announce :=
  match unmarshalAnnouncePayload crypto h.data h.destHash h.hops h.contextFlag with
  | .error _ => none
  | .ok ann =>
    match ann.verify crypto with
    | .error _ => none
    | .ok () => some { ann with context := h.context }

/-- Counts a repetition of an announce that is kept here. -/
def AnnounceEntry.countRebroadcast (e : AnnounceEntry) (hops : Int) : AnnounceEntry :=
  if hops - 1 = e.hops then
    { e with localRebroadcasts := e.localRebroadcasts + 1 }
  else e

/-- The repetition makes another one unnecessary. -/
def AnnounceEntry.superseded (e : AnnounceEntry) (hops now : Int) : Bool :=
  (decide (hops - 1 = e.hops) && decide (e.retries > 0) &&
    decide (e.localRebroadcasts + 1 ≥ localRebroadcastsMax)) ||
  (decide (hops - 1 = e.hops + 1) && decide (e.retries > 0) && decide (now < e.retransmitTimeout))

/-- Another node repeated an announce that is kept here. -/
def Node.rebroadcastNoted (n : Node) (pkt : Packet) : Keyed dest :=
  let h := pkt.hdr
  let hops : Int := h.hops.toNat
  if h.headerType = .type2 ∧ n.isLeaf pkt.iface = false then
    match n.announceTable.get? h.destHash with
    | none => n.announceTable
    | some e =>
      if e.superseded hops n.now then
        n.announceTable.deleteWhere fun e => e.dest = h.destHash
      else n.announceTable.put (e.countRebroadcast hops)
  else n.announceTable

def Node.noteAnnounce (n : Node) (pkt : Packet) : Node :=
  { n with
    announceTable := n.rebroadcastNoted pkt
    stats := { n.stats with announcesRx := n.stats.announcesRx + 1 } }

/-- The loop over the blobs, which ends early once one is not older. -/
def pathEmitted (emitted : Nat) : Nat → List (List UInt8) → Nat
  | best, [] => best
  | best, b :: rest =>
    let best := newerStamp best b
    if best ≥ emitted then best else pathEmitted emitted best rest

/-- Whether an announce for `hops` hops replaces the path. -/
def shouldReplace (now hops : Int) (randomBlob : List UInt8) (existing : PathEntry) : Bool :=
  let emitted := blobTimestamp randomBlob
  let blobs := existing.randomBlobs
  if hops ≤ existing.hops then
    !blobs.contains randomBlob && decide (emitted > existing.emittedAt)
  else
    let newest := pathEmitted emitted 0 blobs
    if now ≥ existing.expires then !blobs.contains randomBlob
    else if emitted > newest then !blobs.contains randomBlob
    else decide (emitted = newest) && existing.unresponsive

def Node.shouldAdd (n : Node) (pkt : Packet) (randomBlob : List UInt8) : Bool :=
  let hops : Int := pkt.hdr.hops.toNat
  let emitted := blobTimestamp randomBlob
  if hops < pathfinderM + 1 then
    match n.paths.get? pkt.hdr.destHash with
    | none => true
    | some existing =>
      shouldReplace n.now hops randomBlob existing &&
        (if n.isLeaf pkt.iface && !n.isLeaf existing.iface && decide (n.now < existing.expires) then
          decide (emitted > existing.emittedAt) && (!existing.direct ||
              decide (n.now - existing.timestamp ≥ leafDisplaceGrace))
        else true)
  else false

/-- The newest blobs, with the one heard now. -/
def keepBlob (blobs : List (List UInt8)) (randomBlob : List UInt8) : List (List UInt8) :=
  if blobs.contains randomBlob then blobs
  else
    let blobs := blobs ++ [randomBlob]
    blobs.drop (blobs.length - maxRandomBlobs)

def receivedFrom (h : Header) : TruncatedHash :=
  if h.headerType = .type2 then h.transportID else h.destHash

namespace Node

def learnedPath (n : Node) (pkt : Packet) (ann : Announce) : PathEntry :=
  let blobs :=
    match n.paths.get? pkt.hdr.destHash with
    | none => []
    | some existing => existing.randomBlobs
  { destHash := pkt.hdr.destHash
    timestamp := n.now
    nextHop := receivedFrom pkt.hdr
    hops := pkt.hdr.hops.toNat
    expires := n.now + n.pathTTL
    randomBlobs := keepBlob blobs ann.random.bytes
    iface := pkt.iface
    announce := some ann
    packetHash := pkt.hash
    unresponsive := false }

def learnedIdentity (n : Node) (crypto : Crypto) (ann : Announce)
    (dest : TruncatedHash) : KnownIdentity :=
  let k :=
    match n.identities.get? dest with
    | some k => k
    | none =>
      { destHash := dest
        publicKey := []
        identity := none
        appData := []
        ratchet := none
        ratchetAt := 0
        lastSeen := 0 }
  { destHash := dest
    publicKey := ann.publicKey
    identity := (parsePublicKeys crypto ann.publicKey).toOption
    appData := ann.appData
    ratchet := if ann.contextFlag then some ann.ratchet.bytes else k.ratchet
    ratchetAt := if ann.contextFlag then n.now else k.ratchetAt
    lastSeen := n.now }

/-- Path responses on interfaces that waited for the destination. -/
def answer (n : Node) (dest : TruncatedHash) (raw : List UInt8) : List String → Node × List Effect
  | [] => (n, [])
  | ifc :: rest =>
    let (booked, allowed) := n.paidGate ifc dest .announce
    let (last, effects) := booked.answer dest raw rest
    (last, if allowed then .transmit ifc raw :: effects else effects)

/-- The tables with an accepted announce; `delay` is the random wait before it
is repeated. -/
def learnTables (n : Node) (crypto : Crypto) (delay : Int) (pkt : Packet) (ann : Announce) : Node :=
  let dest := pkt.hdr.destHash
  let fromLeaf := n.isLeaf pkt.iface
  let queued : AnnounceEntry :=
    { dest := dest
      timestamp := n.now
      retransmitTimeout := n.now + delay
      retries := 0
      receivedFrom := receivedFrom pkt.hdr
      hops := pkt.hdr.hops.toNat
      ann := ann
      sourceIface := pkt.iface
      localRebroadcasts := 0
      blockRebroadcasts := false
      attachedIface := "" }
  { n with
    announceTable :=
      if pkt.hdr.context ≠ contextPathResponse ∧ fromLeaf = false then
        n.announceTable.put queued
      else n.announceTable
    discoveryPRs :=
      if fromLeaf then n.discoveryPRs
      else n.discoveryPRs.deleteWhere fun d => d.dest = dest
    paths := n.paths.put (n.learnedPath pkt ann)
    identities := n.identities.put (n.learnedIdentity crypto ann dest)
    pathWaiters := n.pathWaiters.deleteWhere fun w => w.1 = dest
    inflightPRs := n.inflightPRs.deleteWhere fun r => r.1 = dest }

def answerOn (n : Node) (pkt : Packet) : List String :=
  match n.discoveryPRs.get? pkt.hdr.destHash with
  | some d => if n.isLeaf pkt.iface then [] else d.requestingIfaces
  | none => []

def waiters (n : Node) (dest : TruncatedHash) : List Nat :=
  match n.pathWaiters.get? dest with
  | some (_, channels) => channels
  | none => []

section
variable (n : Node) (crypto : Crypto) (delay : Int) (pkt : Packet)

def learn (ann : Announce) : Node × List Effect :=
  let dest := pkt.hdr.destHash
  let raw := ann.marshalPacketTransport n.idHash pkt.hdr.hops contextPathResponse
  let (answered, sent) := (n.learnTables crypto delay pkt ann).answer dest raw
    (n.withoutLeaves (n.answerOn pkt))
  (answered, sent ++ (n.waiters dest).map .closeWaiter ++
      [.pathChanged (n.learnedPath pkt ann), .announced ann])

def handleAnnounce : Node × List Effect :=
  match parseAnnounce crypto pkt.hdr with
  | none => (n, [])
  | some ann =>
    if n.dests.contains pkt.hdr.destHash then
      ({ n with
          stats := { n.stats with announcesRx := n.stats.announcesRx + 1 } },
        [])
    else
      let noted := n.noteAnnounce pkt
      if noted.shouldAdd pkt ann.random.bytes then
        noted.learn crypto delay pkt ann
      else (noted, [])

end

end Node

/-! ## Repeating announces -/

/-- What becomes of an entry when the table is gone through. -/
def Node.processEntry (n : Node) (e : AnnounceEntry) : Option AnnounceEntry :=
  if e.retries > 0 ∧ e.retries ≥ localRebroadcastsMax then none
  else if e.retries > pathfinderR then none
  else if n.now > e.retransmitTimeout then
    match n.heldAnnounces.get? e.dest with
    | some held => some held
    | none =>
      some
        { e with
          retransmitTimeout := n.now + rebroadcastDelay
          retries := e.retries + 1 }
  else some e

def Node.due (n : Node) (e : AnnounceEntry) : Bool :=
  !(decide (e.retries > 0) && decide (e.retries ≥ localRebroadcastsMax)) &&
    !decide (e.retries > pathfinderR) && decide (n.now > e.retransmitTimeout)

/-- Of an announce that is repeated these columns stay. -/
structure AnnounceEntry.Repeats (e next : AnnounceEntry) : Prop where
  attached : next.attachedIface = e.attachedIface
  source : next.sourceIface = e.sourceIface
  blocked : next.blockRebroadcasts = e.blockRebroadcasts
  dest : next.dest = e.dest

lemma AnnounceEntry.Repeats.refl (e : AnnounceEntry) : e.Repeats e := ⟨rfl, rfl, rfl, rfl⟩

variable {pkt : Packet}

lemma Node.mem_noteAnnounce {n : Node} {e : AnnounceEntry}
    (stored : e ∈ (n.noteAnnounce pkt).announceTable.entries) :
    ∃ kept ∈ n.announceTable.entries, kept.Repeats e := by
  rw [noteAnnounce, rebroadcastNoted] at stored
  split at stored
  · split at stored
    · exact ⟨e, stored, .refl e⟩
    rename_i kept found
    split at stored
    · exact ⟨e, (mem_deleteWhere.mp stored).1, .refl e⟩
    rcases mem_put.mp stored with rfl | ⟨before, _⟩
    · refine ⟨kept, mem_of_get? found, ?_⟩
      rw [countRebroadcast]
      split
      · exact ⟨rfl, rfl, rfl, rfl⟩
      · exact ⟨rfl, rfl, rfl, rfl⟩
    · exact ⟨e, before, .refl e⟩
  · exact ⟨e, stored, .refl e⟩

section
variable {n : Node} {e next : AnnounceEntry} (processed : n.processEntry e = some next)

include processed

lemma Node.processEntry_cases :
    (next ∈ n.heldAnnounces.entries ∧ next.dest = e.dest) ∨ e.Repeats next := by
  rw [processEntry] at processed
  split at processed
  · cases processed
  split at processed
  · cases processed
  split at processed
  · split at processed
    · rename_i held found
      cases processed
      exact .inl ⟨mem_of_get? found, key_of_get? found⟩
    · cases processed
      exact .inr ⟨rfl, rfl, rfl, rfl⟩
  · cases processed
    exact .inr (.refl e)

lemma Node.dest_of_processEntry : next.dest = e.dest := by
  rcases processEntry_cases processed with ⟨_, dest⟩ | repeats
  · exact dest
  · exact repeats.dest

end

lemma Node.dests_processed (n : Node) (entries : List AnnounceEntry) :
    (entries.filterMap n.processEntry).map dest |>.Sublist (entries.map dest) := by
  induction entries with
  | nil => exact List.Sublist.refl []
  | cons e rest induction =>
    rw [map_cons, filterMap_cons]
    cases processed : n.processEntry e with
    | none => exact induction.cons _
    | some next =>
      rw [map_cons, dest_of_processEntry processed]
      exact induction.cons_cons _

def Node.processAnnounceTable (n : Node) : Node × List Effect :=
  let due := n.announceTable.entries.filter n.due
  ({ n with
      announceTable :=
        { entries := n.announceTable.entries.filterMap n.processEntry
          nodup := n.announceTable.nodup.sublist (n.dests_processed _) }
      heldAnnounces := n.heldAnnounces.deleteWhere fun held =>
        due.any fun e => e.dest = held.dest },
    due.map fun e =>
      .rebroadcast e.dest (e.ann.marshalPacketTransport n.idHash (UInt8.ofInt e.hops)
          (if e.blockRebroadcasts then contextPathResponse else contextNone))
        (if e.attachedIface = "" then none else some e.attachedIface) e.sourceIface)

/-! ## Runs -/

inductive Event
  | announce (delay : Int) (pkt : Packet)
  /-- The clock advances. -/
  | tick (elapsed : Nat)
  /-- The periodic jobs on the tables. -/
  | sweep
  | setLeaf (ifaceID : String) (leaf : Bool)
  | removePath (dest : TruncatedHash)
  /-- A packet goes along the path. -/
  | usePath (dest : TruncatedHash)

def Node.step (crypto : Crypto) (n : Node) : Event → Node
  | .announce delay pkt => (n.handleAnnounce crypto delay pkt).1
  | .tick elapsed => { n with now := n.now + elapsed }
  | .sweep => n.processAnnounceTable.1.expireTables.expireDiscovery
  | .setLeaf ifaceID leaf => n.setLeaf ifaceID leaf
  | .removePath dest => { n with paths := n.paths.remove dest }
  | .usePath dest => { n with paths := n.paths.use dest n.now }

def Node.runFrom (crypto : Crypto) (n : Node) (events : List Event) : Node :=
  events.foldl (Node.step crypto) n

def Node.Live (n : Node) (dest : TruncatedHash) : Prop :=
  ∃ e, n.paths.get? dest = some e ∧ n.now < e.expires

inductive LiveRun (crypto : Crypto) (dest : TruncatedHash) : Node → List Event → Node → Prop
  | nil {n : Node} (live : n.Live dest) : LiveRun crypto dest n [] n
  | cons {n last : Node} {event : Event} {rest : List Event} (live : n.Live dest)
      (later : LiveRun crypto dest (n.step crypto event) rest last) :
      LiveRun crypto dest n (event :: rest) last

/-! ## Emission times -/

variable {e : PathEntry}

section
variable {blobs : List (List UInt8)} {randomBlob : List UInt8}

lemma newerStamp_lt_iff : newerStamp best b < limit ↔ best < limit ∧ blobTimestamp b < limit := by
  rw [newerStamp]
  split <;> omega

lemma foldl_newerStamp_lt : blobs.foldl newerStamp start < limit ↔
    start < limit ∧ ∀ b ∈ blobs, blobTimestamp b < limit := by
  induction blobs generalizing start with
  | nil => simp
  | cons b rest induction =>
    rw [foldl_cons, induction, newerStamp_lt_iff, forall_mem_cons, and_assoc]

lemma PathEntry.emittedAt_lt_iff : e.emittedAt < limit ↔ 0 < limit ∧
    ∀ b ∈ e.randomBlobs, blobTimestamp b < limit :=
  foldl_newerStamp_lt

lemma PathEntry.blobTimestamp_le (kept : b ∈ e.randomBlobs) : blobTimestamp b ≤ e.emittedAt := by
  by_contra newer
  have below := PathEntry.emittedAt_lt_iff.mp (not_le.mp newer)
  exact lt_irrefl _ (below.2 b kept)

lemma lt_of_pathEmitted_lt (newer : pathEmitted emitted best blobs < emitted) :
    best < emitted ∧ ∀ b ∈ blobs, blobTimestamp b < emitted := by
  induction blobs generalizing best with
  | nil => exact ⟨newer, fun b member => absurd member not_mem_nil⟩
  | cons b rest induction =>
    rw [pathEmitted] at newer
    split at newer
    · omega
    obtain ⟨below, later⟩ := induction newer
    obtain ⟨start, first⟩ := newerStamp_lt_iff.mp below
    exact ⟨start, forall_mem_cons.mpr ⟨first, later⟩⟩

lemma mem_keepBlob : randomBlob ∈ keepBlob blobs randomBlob := by
  rw [keepBlob]
  split
  · rename_i kept
    exact contains_iff_mem.mp kept
  rw [drop_append, mem_append]
  right
  rw [length_append, length_singleton, maxRandomBlobs]
  have first : blobs.length + 1 - 64 - blobs.length = 0 := by omega
  rw [first]
  exact mem_singleton.mpr rfl

end

lemma emittedAt_lt_of_shouldReplace {now hops : Int} {randomBlob : List UInt8}
    {existing : PathEntry} (live : now < existing.expires)
    (responsive : existing.unresponsive = false)
    (replaces : shouldReplace now hops randomBlob existing = true) :
    existing.emittedAt < blobTimestamp randomBlob := by
  rw [shouldReplace] at replaces
  split at replaces
  · exact of_decide_eq_true (Bool.and_eq_true_iff.mp replaces).2
  rw [if_neg (by omega)] at replaces
  split at replaces
  · rename_i newer
    exact PathEntry.emittedAt_lt_iff.mpr (lt_of_pathEmitted_lt newer)
  rw [responsive, Bool.and_false] at replaces
  cases replaces

/-! ## One announce -/

section
variable {crypto : Crypto} {n : Node} {pkt : Packet} {delay : Int}
  {ann : Announce} {dest : TruncatedHash}

def Node.accepts (n : Node) (crypto : Crypto) (pkt : Packet) : Option Announce :=
  (parseAnnounce crypto pkt.hdr).filter fun ann =>
    !n.dests.contains pkt.hdr.destHash && n.shouldAdd pkt ann.random.bytes

/-- What is as before when an announce is not learned. -/
structure Unlearned (n next : Node) : Prop where
  paths_eq : next.paths = n.paths
  identities_eq : next.identities = n.identities
  now_eq : next.now = n.now
  held_eq : next.heldAnnounces = n.heldAnnounces
  /-- Nothing is queued; at most another node's repetition is counted. -/
  queued : ∀ e ∈ next.announceTable, ∃ old ∈ n.announceTable,
    e = { old with localRebroadcasts := e.localRebroadcasts }

namespace Node

lemma noteAnnounce_unlearned (n : Node) (pkt : Packet) : Unlearned n (n.noteAnnounce pkt) := by
  refine ⟨rfl, rfl, rfl, rfl, ?_⟩
  intro queued member
  have noted : queued ∈ n.rebroadcastNoted pkt := member
  rw [rebroadcastNoted] at noted
  split at noted
  · split at noted
    · exact ⟨queued, noted, rfl⟩
    rename_i e found
    split at noted
    · exact ⟨queued, (mem_deleteWhere.mp noted).1, rfl⟩
    rcases mem_put.mp noted with same | ⟨other, _⟩
    · refine ⟨e, mem_of_get? found, ?_⟩
      rw [same, countRebroadcast]
      split <;> rfl
    · exact ⟨queued, other, rfl⟩
  · exact ⟨queued, noted, rfl⟩

lemma handleAnnounce_none (delay : Int) (refused : n.accepts crypto pkt = none) :
    Unlearned n (n.handleAnnounce crypto delay pkt).1 ∧
    (n.handleAnnounce crypto delay pkt).2 = [] := by
  rw [accepts] at refused
  rw [handleAnnounce]
  cases parsed : parseAnnounce crypto pkt.hdr with
  | none => exact ⟨⟨rfl, rfl, rfl, rfl, fun e member => ⟨e, member, rfl⟩⟩, rfl⟩
  | some ann =>
    rw [parsed, Option.filter_some] at refused
    dsimp only
    split
    · exact ⟨⟨rfl, rfl, rfl, rfl, fun e member => ⟨e, member, rfl⟩⟩, rfl⟩
    rename_i remote
    split
    · rename_i added
      have kept : n.shouldAdd pkt ann.random.bytes = true := added
      rw [Bool.eq_false_of_not_eq_true remote, kept] at refused
      cases refused
    · exact ⟨n.noteAnnounce_unlearned pkt, rfl⟩

lemma paths_paidGate (n : Node) (ifc : String) (dest : TruncatedHash) (kind : PaidKind) :
    (n.paidGate ifc dest kind).1.paths = n.paths ∧ (n.paidGate ifc dest kind).1.now = n.now := by
  rw [paidGate]
  split
  · exact ⟨rfl, rfl⟩
  split
  · rw [paidBook]
    split
    · exact ⟨rfl, rfl⟩
    dsimp only
    split
    · exact ⟨rfl, rfl⟩
    · exact ⟨rfl, rfl⟩
  · exact ⟨rfl, rfl⟩

lemma paths_answer (n : Node) (dest : TruncatedHash) (raw : List UInt8) (ifaces : List String) :
    (n.answer dest raw ifaces).1.paths = n.paths ∧ (n.answer dest raw ifaces).1.now = n.now := by
  induction ifaces generalizing n with
  | nil => exact ⟨rfl, rfl⟩
  | cons ifc rest induction =>
    obtain ⟨paths, now⟩ := n.paths_paidGate ifc dest .announce
    obtain ⟨later, laterNow⟩ := induction (n.paidGate ifc dest .announce).1
    exact ⟨later.trans paths, laterNow.trans now⟩

lemma handleAnnounce_some (delay : Int) (accepted : n.accepts crypto pkt = some ann) :
    n.handleAnnounce crypto delay pkt = (n.noteAnnounce pkt).learn crypto delay pkt ann := by
  obtain ⟨parsed, kept⟩ := Option.filter_eq_some_iff.mp accepted
  obtain ⟨foreign, added⟩ := Bool.and_eq_true_iff.mp kept
  rw [Bool.not_eq_true'] at foreign
  have noted : (n.noteAnnounce pkt).shouldAdd pkt ann.random.bytes = true :=
    added
  rw [handleAnnounce, parsed]
  dsimp only
  rw [foreign, noted, if_neg Bool.false_ne_true, if_pos rfl]

lemma paths_learn (n : Node) (delay : Int) : (n.learn crypto delay pkt ann).1.paths =
    n.paths.put (n.learnedPath pkt ann) ∧ (n.learn crypto delay pkt ann).1.now = n.now :=
  (n.learnTables crypto delay pkt ann).paths_answer _ _ _

lemma get?_handleAnnounce (delay : Int) (accepted : n.accepts crypto pkt = some ann) :
    (n.handleAnnounce crypto delay pkt).1.paths.get? pkt.hdr.destHash =
    some (n.learnedPath pkt ann) := by
  rw [handleAnnounce_some delay accepted, (paths_learn _ delay).1, get?_put]
  exact if_pos rfl

lemma announced_answer (n : Node) (dest : TruncatedHash) (raw : List UInt8) (ifaces : List String)
    (ann : Announce) : .announced ann ∉ (n.answer dest raw ifaces).2 := by
  induction ifaces generalizing n with
  | nil => exact not_mem_nil
  | cons ifc rest induction =>
    have later := induction (n.paidGate ifc dest .announce).1
    intro member
    rw [answer] at member
    dsimp only at member
    split at member
    · rcases mem_cons.mp member with same | among
      · cases same
      · exact later among
    · exact later member

lemma announced_iff (delay : Int) : .announced ann ∈ (n.handleAnnounce crypto delay pkt).2 ↔
    n.accepts crypto pkt = some ann := by
  constructor
  · intro called
    cases accepted : n.accepts crypto pkt with
    | none =>
      rw [(handleAnnounce_none delay accepted).2] at called
      exact absurd called not_mem_nil
    | some other =>
      rw [handleAnnounce_some delay accepted, learn] at called
      rw [mem_append, mem_append, mem_map] at called
      rcases called with (sent | ⟨channel, _, same⟩) | last
      · exact absurd sent (announced_answer _ _ _ _ _)
      · cases same
      simp only [mem_cons, reduceCtorEq, Effect.announced.injEq,
        not_mem_nil, or_false, false_or] at last
      rw [last]
  intro accepted
  rw [handleAnnounce_some delay accepted, learn]
  apply mem_append_right
  simp

end Node

end

/-! ## Paths along a run -/

section
variable {crypto : Crypto} {n last : Node} {dest : TruncatedHash}

namespace Node

/-- Where the path after a step comes from: it is the one before, but for its
last use, or that of an announce learned. -/
lemma step_path (found : (n.step crypto event).paths.get? dest = some e) :
    (∃ old, n.paths.get? dest = some old ∧ e.randomBlobs = old.randomBlobs ∧
      e.unresponsive = old.unresponsive) ∨
    ∃ delay pkt ann, event = .announce delay pkt ∧ pkt.hdr.destHash = dest ∧
      n.accepts crypto pkt = some ann ∧ e = n.learnedPath pkt ann := by
  cases event with
  | announce delay pkt =>
    have result : (n.handleAnnounce crypto delay pkt).1.paths.get? dest = some e := found
    cases accepted : n.accepts crypto pkt with
    | none =>
      have unlearned := (handleAnnounce_none delay accepted).1
      rw [unlearned.paths_eq] at result
      exact .inl ⟨e, result, rfl, rfl⟩
    | some ann =>
      rw [handleAnnounce_some delay accepted, (paths_learn _ delay).1, get?_put] at result
      split at result
      · rename_i same
        cases result
        exact .inr ⟨delay, pkt, ann, rfl, same.symm, accepted, rfl⟩
      · exact .inl ⟨e, result, rfl, rfl⟩
  | tick elapsed => exact .inl ⟨e, found, rfl, rfl⟩
  | sweep =>
    have kept : (n.paths.expire n.pathTTL n.now).get? dest = some e := found
    rw [expire, get?_deleteWhere] at kept
    exact .inl ⟨e, (Option.filter_eq_some_iff.mp kept).1, rfl, rfl⟩
  | setLeaf ifaceID leaf =>
    have kept : (n.setLeaf ifaceID leaf).paths.get? dest = some e := found
    rw [setLeaf] at kept
    split at kept
    · exact .inl ⟨e, kept, rfl, rfl⟩
    rw [removeIface, get?_deleteWhere] at kept
    exact .inl ⟨e, (Option.filter_eq_some_iff.mp kept).1, rfl, rfl⟩
  | removePath other =>
    have kept : (n.paths.remove other).get? dest = some e := found
    rw [remove, get?_deleteWhere] at kept
    exact .inl ⟨e, (Option.filter_eq_some_iff.mp kept).1, rfl, rfl⟩
  | usePath other =>
    have used : (n.paths.use other n.now).get? dest = some e := found
    rw [use, get?_updateWhere] at used
    obtain ⟨old, before, changed⟩ := Option.map_eq_some_iff.mp used
    refine .inl ⟨old, before, ?_⟩
    rw [← changed]
    split
    · exact ⟨rfl, rfl⟩
    · exact ⟨rfl, rfl⟩

def Responsive (n : Node) : Prop := ∀ dest e, n.paths.get? dest = some e → e.unresponsive = false

lemma Responsive.step (responsive : n.Responsive) (event : Event) :
    (n.step crypto event).Responsive := by
  intro dest e found
  rcases step_path found with
    ⟨old, before, _, same⟩ | ⟨_, _, _, _, _, _, learned⟩
  · rw [same]
    exact responsive dest old before
  rw [learned]
  rfl

lemma Responsive.runFrom (responsive : n.Responsive)
    (events : List Event) : (n.runFrom crypto events).Responsive := by
  induction events generalizing n with
  | nil => exact responsive
  | cons event rest induction => exact induction (responsive.step event)

lemma Live.emittedAt_lt (live : n.Live dest) (responsive : n.Responsive) {ann : Announce}
    (same : pkt.hdr.destHash = dest) (accepted : n.accepts crypto pkt = some ann) : ∃ e,
    n.paths.get? dest = some e ∧ e.emittedAt < blobTimestamp ann.random.bytes := by
  obtain ⟨e, found, unexpired⟩ := live
  refine ⟨e, found, ?_⟩
  obtain ⟨_, kept⟩ := Option.filter_eq_some_iff.mp accepted
  have added := (Bool.and_eq_true_iff.mp kept).2
  rw [shouldAdd, same, found] at added
  split at added
  · exact emittedAt_lt_of_shouldReplace unexpired (responsive dest e found)
      (Bool.and_eq_true_iff.mp added).1
  · cases added

lemma live_of_accepts {ann : Announce} {delay : Int}
    (lasting : 0 < n.pathTTL) (accepted : n.accepts crypto pkt = some ann) :
    (n.step crypto (.announce delay pkt)).Live pkt.hdr.destHash := by
  refine ⟨n.learnedPath pkt ann, get?_handleAnnounce delay accepted, ?_⟩
  rw [step, handleAnnounce_some delay accepted, (paths_learn _ delay).2]
  show n.now < n.now + n.pathTTL
  omega

/-- The path is not older than an announce. -/
def Covers (n : Node) (dest : TruncatedHash) (emitted : Nat) : Prop :=
  ∀ e, n.paths.get? dest = some e → emitted ≤ e.emittedAt

lemma learnedPath_emittedAt (n : Node) (pkt : Packet) (ann : Announce) :
    blobTimestamp ann.random.bytes ≤ (n.learnedPath pkt ann).emittedAt := by
  apply PathEntry.blobTimestamp_le
  exact mem_keepBlob

lemma Covers.step (covers : n.Covers dest emitted) (live : n.Live dest)
    (responsive : n.Responsive) (event : Event) : (n.step crypto event).Covers dest emitted := by
  intro e found
  rcases step_path found with
    ⟨old, before, blobs, _⟩ | ⟨delay, pkt, ann, _, same, accepted, learned⟩
  · have known := covers old before
    rw [PathEntry.emittedAt, blobs]
    exact known
  obtain ⟨old, before, newer⟩ := live.emittedAt_lt responsive same accepted
  have known := covers old before
  have stamp := n.learnedPath_emittedAt pkt ann
  rw [learned]
  omega

end Node

lemma LiveRun.covers (run : LiveRun crypto dest n events last) (covers : n.Covers dest emitted)
    (responsive : n.Responsive) : last.Live dest ∧ last.Responsive ∧ last.Covers dest emitted := by
  induction run with
  | nil live => exact ⟨live, responsive, covers⟩
  | cons live later induction => exact induction (covers.step live responsive _) (responsive.step _)

end

/-- Along every run, from a path learned from one announce to another announce
for the same destination, through which the path stays live: the other announce
is learned only if it was emitted later; and if it was not, it leaves the paths
and the identities as they are, sends nothing and is not queued. -/
theorem path_freshness (crypto : Crypto) (start : Node)
    (responsive : start.Responsive) (before between : List Event)
    (first second : Packet) (delay again : Int) (earlier : Announce)
    (last : Node) (same : second.hdr.destHash = first.hdr.destHash) (accepted : .announced earlier ∈
      ((start.runFrom crypto before).handleAnnounce crypto delay first).2)
    (live : LiveRun crypto first.hdr.destHash
      ((start.runFrom crypto before).step crypto (.announce delay first)) between last) : (∀ later,
      .announced later ∈ (last.handleAnnounce crypto again second).2 →
      blobTimestamp earlier.random.bytes < blobTimestamp later.random.bytes) ∧
    ∀ ann, parseAnnounce crypto second.hdr = some ann →
      blobTimestamp ann.random.bytes ≤ blobTimestamp earlier.random.bytes →
      Unlearned last (last.handleAnnounce crypto again second).1 ∧
        (last.handleAnnounce crypto again second).2 = [] := by
  have reached : (start.runFrom crypto before).Responsive := responsive.runFrom before
  have learned := (announced_iff delay).mp accepted
  have covers : ((start.runFrom crypto before).step crypto
      (.announce delay first)).Covers first.hdr.destHash (blobTimestamp earlier.random.bytes) := by
    intro e found
    have path := (get?_handleAnnounce delay learned).symm.trans found
    cases path
    exact learnedPath_emittedAt _ first earlier
  obtain ⟨current, fresh, known⟩ := live.covers covers (reached.step _)
  have newer : ∀ later, last.accepts crypto second = some later →
      blobTimestamp earlier.random.bytes < blobTimestamp later.random.bytes := by
    intro later taken
    obtain ⟨e, found, above⟩ := current.emittedAt_lt fresh same taken
    have below := known e found
    omega
  constructor
  · intro later called
    exact newer later ((announced_iff again).mp called)
  intro ann parsed old
  apply handleAnnounce_none
  cases taken : last.accepts crypto second with
  | none => rfl
  | some later =>
    have above := newer later taken
    obtain ⟨read, _⟩ := Option.filter_eq_some_iff.mp taken
    rw [parsed] at read
    cases read
    omega

/-- Cryptography for small examples, in which every announce is valid. -/
def permissiveCrypto : Crypto where
  sha256 := fun _ => FixedBytes.zero _
  newPublicKey := fun _ => none
  verify := fun _ _ _ => true

def stampedAnnounce (stamp : UInt8) : Packet where
  hdr :=
    { headerType := .type1
      contextFlag := false
      transportType := .broadcast
      destType := .single
      packetType := .announce
      hops := 1
      transportID := FixedBytes.zero _
      destHash := FixedBytes.zero _
      context := contextNone
      data := List.replicate 83 0 ++ [stamp] ++ List.replicate 64 0 }
  hash := FixedBytes.zero _
  iface := "mesh_0"

def newNode : Node where
  idHash := FixedBytes.copy _ [1]
  pathTTL := 604800 * second
  now := 0
  dests := []
  paths := empty
  identities := empty
  announceTable := empty
  heldAnnounces := empty
  linkTable := empty
  reverseTable := empty
  discoveryPRs := empty
  inflightPRs := empty
  pathWaiters := empty
  leaf := []
  paid := empty
  paidLast := empty
  stats := ⟨0, 0, 0⟩

theorem path_freshness_replay : ((newNode.step permissiveCrypto (.announce 0 (stampedAnnounce 5))
      ).handleAnnounce permissiveCrypto 0 (stampedAnnounce 3)).2 = [] := by
  have fresh : (newNode.accepts permissiveCrypto (stampedAnnounce 5)).map
      (fun ann => blobTimestamp ann.random.bytes) = some 5 := by
    decide +kernel
  have late : (parseAnnounce permissiveCrypto (stampedAnnounce 3).hdr).map
      (fun ann => blobTimestamp ann.random.bytes) = some 3 := by
    decide +kernel
  obtain ⟨earlier, learned, emitted⟩ := Option.map_eq_some_iff.mp fresh
  obtain ⟨ann, parsed, stale⟩ := Option.map_eq_some_iff.mp late
  exact ((path_freshness permissiveCrypto newNode
    (fun dest e found => by cases found) [] [] (stampedAnnounce 5)
    (stampedAnnounce 3) 0 0 earlier _ rfl ((announced_iff 0).mpr learned)
    (.nil (live_of_accepts (by decide) learned))).2 ann parsed (by omega)).2

end MeshSat.Rns
