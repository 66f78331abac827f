import Mathlib.Data.List.Perm.Subperm
import MeshSat.Library.TransitionSystem

/-!
# Failover on a missing acknowledgement

A member of a failover group that sent a message and heard no acknowledgement
hands it to the first other member that is up. The new row has fresh retries
and the visited list of the old one, in which no member of the group is ever
entered: the message may go back to a member it came from.
-/

namespace MeshSat.Engine

open Library List

/-! ## The group -/

/-- What is known of the interfaces at one moment. -/
structure LinkView where
  (known online enabled excluded : String → Bool)

def LinkView.carries (v : LinkView) (id : String) : Bool :=
  v.known id && v.online id && !v.excluded id

/-- `Resolve`, of a group with these members in the order of priority. -/
def LinkView.resolve (v : LinkView) (members : List String) : String :=
  match members.find? v.carries with
  | some id => id
  | none => (members.find? fun id => v.known id && v.enabled id).getD ""

/-- `ResolveExcluding`; there are no members when the target is no group. -/
def LinkView.resolveExcluding (v : LinkView) (members : List String) (exclude : String) : String :=
  (members.find? fun id => id ≠ exclude && v.carries id).getD ""

/-! ## Rows -/

inductive RowStatus
  | queued | retry | dead
  deriving DecidableEq

structure RuleDelivery where
  id : Nat
  msgRef : String
  ruleID : Option Nat
  channel : String
  status : RowStatus
  priority : Int
  payload : List UInt8
  textPreview : String
  (retries maxRetries : Nat)
  /-- The interfaces its JSON array names; none when it cannot be read. -/
  visited : List String
  ttlSeconds : Nat
  expiresAt : Option String
  (qosLevel seqNum : Int)
  signature : List UInt8
  (signerID precedence class_ lastError : String)

/-- The interface `dispatchAccess` queues a message on and the visited list
of the row, when the message is not one that would loop. -/
def dispatchTo (v : LinkView) (members : List String) (source : String)
    (visited : List String) : Option (String × List String) :=
  let dest := v.resolve members
  if dest = "" ∨ dest = source ∨ dest ∈ visited then none
  else some (dest, (source :: visited).eraseDups)

/-- What the store answers: the members of the group the row's rule forwards
to, the stored row, the sequence number and the id of the new row. -/
structure FailoverStore where
  members : Option (List String)
  orig : Option RuleDelivery
  seqNum : Option Int
  newID : Option Nat

/-- `failOverToNextMember`: the row it closes and the one it queues. -/
def failOverToNextMember (v : LinkView) (db : FailoverStore)
    (del : RuleDelivery) (reason : String) : Option (RuleDelivery × RuleDelivery) := do
  let _ ← del.ruleID
  let members ← db.members
  let next := v.resolveExcluding members del.channel
  if next = "" ∨ next = del.channel ∨ next ∈ del.visited then none
  else
    let orig ← db.orig
    let newID ← db.newID
    let moved : RuleDelivery :=
      { orig with
        id := newID, channel := next, status := .queued, retries := 0
        seqNum := db.seqNum.getD 0, lastError := "" }
    let detail := s!"{reason}; moved to {next} as delivery {newID}"
    some ({ orig with status := .dead, lastError := detail }, moved)

/-- What `handleFailure` makes of a row without an acknowledgement. -/
inductive NoAckOutcome
  | moved (closed moved : RuleDelivery)
  | stays (row : RuleDelivery)

def handleNoAck (v : LinkView) (db : FailoverStore) (del : RuleDelivery)
    (errMsg : String) : NoAckOutcome :=
  match failOverToNextMember v db del errMsg with
  | some (closed, moved) => .moved closed moved
  | none =>
    if del.qosLevel = 0 ∨ 0 < del.maxRetries ∧ del.maxRetries ≤ del.retries + 1 then
      .stays { del with status := .dead, lastError := errMsg }
    else
      .stays { del with
        status := .retry, retries := del.retries + 1, lastError := errMsg }

/-! ## The way of one message -/

/-- The rows of one message: the last one and those that were closed. -/
structure Relay where
  live : RuleDelivery
  closed : List RuleDelivery

def Relay.queuedOn (r : Relay) : List String := (r.live :: r.closed).map RuleDelivery.channel

/-- The member sends the message and hears no acknowledgement. -/
structure NoAck where
  view : LinkView
  errMsg : String
  seqNum : Option Int
  newID : Nat

def Relay.noAck (members : List String) (r : Relay) (e : NoAck) : Option Relay :=
  if r.live.status = .dead then none
  else
    match handleNoAck e.view ⟨some members, some r.live, e.seqNum, some e.newID⟩
        r.live e.errMsg with
    | .moved closed moved => some ⟨moved, closed :: r.closed⟩
    | .stays row => some ⟨row, r.closed⟩

def noAckSystem (members : List String) (first : RuleDelivery) : TransitionSystem Relay NoAck where
  initial := ⟨first, []⟩
  exec := Relay.noAck members

structure RuleDelivery.Dispatched (members : List String) (first : RuleDelivery) : Prop where
  rule : first.ruleID.isSome = true
  queued : first.status = .queued
  resolved : ∃ v source visited,
    dispatchTo v members source visited = some (first.channel, first.visited)

section
variable {members : List String} {first : RuleDelivery}

lemma LinkView.resolve_mem {v : LinkView} (named : v.resolve members ≠ "") :
    v.resolve members ∈ members := by
  rw [LinkView.resolve] at named ⊢
  split
  case h_1 id found => exact mem_of_find?_eq_some found
  case h_2 none =>
    rw [none] at named
    cases found : members.find? fun id => v.known id && v.enabled id with
    | none => simp [found] at named
    | some id => exact mem_of_find?_eq_some found

lemma RuleDelivery.Dispatched.spec (dispatched : first.Dispatched members) :
    first.channel ∈ members ∧ first.channel ≠ "" ∧ first.channel ∉ first.visited := by
  obtain ⟨v, source, visited, resolved⟩ := dispatched.resolved
  simp only [dispatchTo, Option.ite_none_left_eq_some, not_or,
    Option.some.injEq, Prod.mk.injEq] at resolved
  obtain ⟨⟨named, other, fresh⟩, channel, list⟩ := resolved
  rw [← channel, ← list]
  refine ⟨LinkView.resolve_mem named, named, ?_⟩
  simp [mem_eraseDups, other, fresh]

end

section
variable {members : List String} {r : Relay}

def LinkView.only (target : String) : LinkView where
  known _ := true
  online id := id = target
  enabled _ := true
  excluded _ := false

open LinkView

lemma LinkView.resolveExcluding_only (member : target ∈ members)
    (other : target ≠ exclude) : (only target).resolveExcluding members exclude = target := by
  rw [resolveExcluding]
  cases found : members.find? fun id =>
      id ≠ exclude && (only target).carries id with
  | none =>
    have refused := List.find?_eq_none.mp found target member
    simp [carries, only, other] at refused
  | some id =>
    have chosen := List.find?_some found
    simp only [carries, only, Bool.true_and,
      Bool.not_false, Bool.and_true, Bool.and_eq_true, decide_eq_true_eq] at chosen
    exact chosen.2

structure Relay.Live (visited : List String) (r : Relay) : Prop where
  rule : r.live.ruleID.isSome = true
  open_ : r.live.status ≠ .dead
  visited : r.live.visited = visited

lemma Relay.Live.moves {visited : List String} (live : r.Live visited) {target : String}
    (member : target ∈ members) (named : target ≠ "") (other : target ≠ r.live.channel)
    (fresh : target ∉ visited) : ∃ e next, r.noAck members e = some next ∧ next.Live visited ∧
    next.live.channel = target ∧ next.queuedOn = target :: r.queuedOn := by
  obtain ⟨rule, found⟩ := Option.isSome_iff_exists.mp live.rule
  have resolved := resolveExcluding_only member other
  refine ⟨⟨.only target, "", none, 0⟩, ?_⟩
  simp only [Relay.noAck, live.open_, if_false, handleNoAck,
    failOverToNextMember, found, Option.bind_eq_bind, Option.bind_some,
    resolved, named, other, live.visited, fresh, or_self]
  exact ⟨_, rfl, ⟨rfl, nofun, rfl⟩, rfl, rfl⟩

/-- The row that was dispatched is still the only one. -/
structure Relay.Still (first : RuleDelivery) (r : Relay) : Prop where
  closed : r.closed = []
  channel : r.live.channel = first.channel
  visited : r.live.visited = first.visited

lemma Relay.Still.noAck {next : Relay} (still : r.Still first)
    (nowhere : ∀ m ∈ members, m ≠ "" → m ≠ first.channel → m ∈ first.visited)
    (executed : r.noAck members e = some next) : next.Still first := by
  obtain ⟨closed, channel, visited⟩ := still
  rw [← channel, ← visited] at nowhere
  have refused (orig : Option RuleDelivery) (seqNum : Option Int)
      (newID : Option Nat) (reason : String) :
      failOverToNextMember e.view ⟨some members, orig, seqNum, newID⟩ r.live reason = none := by
    rw [failOverToNextMember]
    cases r.live.ruleID with
    | none => rfl
    | some rule =>
      simp only [Option.bind_eq_bind, Option.bind_some]
      apply if_pos
      rw [resolveExcluding]
      cases found : members.find? fun id =>
          id ≠ r.live.channel && e.view.carries id with
      | none => exact .inl rfl
      | some m =>
        by_cases named : m = ""
        · exact .inl named
        have chosen := List.find?_some found
        simp only [Bool.and_eq_true, decide_eq_true_eq] at chosen
        exact .inr (.inr (nowhere m (mem_of_find?_eq_some found) named chosen.1))
  simp only [Relay.noAck, handleNoAck, refused] at executed
  split at executed
  · cases executed
  by_cases given : r.live.qosLevel = 0 ∨ 0 < r.live.maxRetries ∧
      r.live.maxRetries ≤ r.live.retries + 1
  · simp only [given, if_true, Option.some.injEq] at executed
    exact executed ▸ ⟨closed, channel, visited⟩
  simp only [given, if_false, Option.some.injEq] at executed
  exact executed ▸ ⟨closed, channel, visited⟩

end

section
variable {members : List String} {first : RuleDelivery}

lemma RuleDelivery.Dispatched.pingPong (dispatched : first.Dispatched members) {other : String}
    (member : other ∈ members) (named : other ≠ "") (different : other ≠ first.channel)
    (fresh : other ∉ first.visited) (count : Nat) : ∃ r, (noAckSystem members first).Reachable r ∧
    r.closed.length = count ∧ r.Live first.visited ∧ ∀ channel ∈ r.queuedOn,
    channel = first.channel ∨ channel = other := by
  obtain ⟨among, firstNamed, unvisited⟩ := dispatched.spec
  induction count with
  | zero =>
    refine ⟨⟨first, []⟩, .refl _, rfl, ⟨dispatched.rule, ?_, rfl⟩, ?_⟩
    · simp [dispatched.queued]
    intro channel queued
    exact .inl (mem_singleton.mp queued)
  | succ count induction =>
    obtain ⟨r, reached, length, live, between⟩ := induction
    -- the message goes to whichever of the two it is not on
    have goes : ∃ target, (target = first.channel ∨ target = other) ∧
        target ∈ members ∧ target ≠ "" ∧ target ≠ r.live.channel ∧ target ∉ first.visited := by
      by_cases here : r.live.channel = other
      · exact ⟨first.channel, .inl rfl, among, firstNamed,
          fun same => different (here.symm.trans same.symm), unvisited⟩
      · exact ⟨other, .inr rfl, member, named, Ne.symm here, fresh⟩
    obtain ⟨target, which, inGroup, isNamed, elsewhere, isFresh⟩ := goes
    obtain ⟨e, next, executed, nextLive, -, queued⟩ := live.moves inGroup isNamed elsewhere isFresh
    refine ⟨next, .step e reached trivial executed, ?_, nextLive, ?_⟩
    · have longer := congrArg List.length queued
      simp only [Relay.queuedOn, length_map, length_cons, length] at longer
      omega
    intro channel channelQueued
    rw [queued] at channelQueued
    rcases mem_cons.mp channelQueued with rfl | before
    · exact which
    · exact between channel before

/-- Each member has the message at most once, whatever goes up and down,
only where the message can go to no other member at all; elsewhere it may
move without end. -/
theorem noAck_once_each_iff (dispatched : first.Dispatched members) :
    ((∀ r, (noAckSystem members first).Reachable r → r.queuedOn.Nodup ∧ r.closed.length ≤
            (members.filter (· ≠ first.channel)).length) ↔
      ∀ m ∈ members, m ≠ "" → m ≠ first.channel → m ∈ first.visited) ∧
    ((∃ m ∈ members, m ≠ "" ∧ m ≠ first.channel ∧ m ∉ first.visited) →
      ∀ count, ∃ r, (noAckSystem members first).Reachable r ∧ r.closed.length = count) := by
  refine ⟨⟨?_, ?_⟩, ?_⟩
  · intro once m member named different
    by_contra fresh
    obtain ⟨r, reached, length, -, between⟩ := dispatched.pingPong member named different fresh 2
    have inside : r.queuedOn ⊆ [first.channel, m] := by
      intro channel queued
      simpa using between channel queued
    have short := (subperm_of_subset (once r reached).1 inside).length_le
    simp [Relay.queuedOn, length] at short
  · intro nowhere r reached
    have still : r.Still first :=
      reached.invariant (⟨rfl, rfl, rfl⟩ : Relay.Still first ⟨first, []⟩)
        fun _ _ _ still executed => still.noAck nowhere executed
    simp [Relay.queuedOn, still.closed]
  rintro ⟨m, member, named, different, fresh⟩ count
  obtain ⟨r, reached, length, -⟩ := dispatched.pingPong member named different fresh count
  exact ⟨r, reached, length⟩

end

/-- A text that came in from the mesh for a group of two. -/
def pairedRow : RuleDelivery :=
  { id := 1, msgRef := "", ruleID := some 1, channel := "aprs_0"
    status := .queued, priority := 10, payload := [104, 105]
    textPreview := "hi", retries := 0, maxRetries := 3
    visited := ["mesh_0"], ttlSeconds := 0, expiresAt := none, qosLevel := 1
    seqNum := 1, signature := [], signerID := "", precedence := ""
    class_ := "", lastError := "" }

lemma pairedRow_dispatched : pairedRow.Dispatched ["aprs_0", "tetra_0"] :=
  ⟨rfl, rfl, .only "aprs_0", "mesh_0", [], by decide⟩

theorem noAck_once_each_pair : ¬ ∀ r, (noAckSystem ["aprs_0", "tetra_0"] pairedRow).Reachable r →
      r.queuedOn.Nodup ∧ r.closed.length ≤ 1 := by
  intro once
  have listed := (noAck_once_each_iff pairedRow_dispatched).1.mp once
    "tetra_0" (by decide) (by decide) (by decide)
  exact absurd listed (by decide)

/-- The peer hears neither link while both are up: the text is back on the
first one after two moves. -/
theorem noAck_returns_to_first :
    (((noAckSystem ["aprs_0", "tetra_0"] pairedRow).execAll ⟨pairedRow, []⟩
      [⟨⟨fun _ => true, fun _ => true, fun _ => true, fun _ => false⟩, "no ack", none, 2⟩,
        ⟨⟨fun _ => true, fun _ => true, fun _ => true, fun _ => false⟩,
          "no ack", none, 3⟩]).map fun r => (r.queuedOn, r.live.retries)) =
      some (["aprs_0", "tetra_0", "aprs_0"], 0) := by
  decide

end MeshSat.Engine
