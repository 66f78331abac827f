import Mathlib.Data.Finset.Sort
import Mathlib.Data.String.Basic
import MeshSat.Hub.Contract
import MeshSat.Library.Keyed

/-!
# The evidence of an operation

The Hub reports on an operation with events, in any order and as often as it
likes. The reducer keeps the valid ones, one for each event id, and derives
the operation's state from them.

What the projection reads of the events kept is compared by `Covered`: every
event of one list has a copy in the other that says the same. Two lists that
cover each other have one projection, and a longer list covers a shorter one.
-/

namespace MeshSat.Hub

open Library List

/-- One piece of evidence about an operation. `source` is where the receiving
party took it from; it is not published. -/
structure Event where
  v : Int := 0
  source : String := ""
  opID : String
  mid : String := ""
  recipient : String := ""
  eventID : String
  rev : Int := 0
  (eventClass kind : String)
  reason : String := ""
  authority : String
  scope : String := ""
  detail : String := ""
  occurredAt : String := ""
  deriving DecidableEq

open Event

/-- What an event must name to join an operation's evidence. -/
structure Operation where
  (opID mid recipient : String)
  deriving DecidableEq

structure Projection where
  state : String
  conflict : Bool
  (failedReasons evidence rejected : List String)
  deriving DecidableEq

/-- Which kind may carry which class under which authority. -/
def allowedKinds : List (String × String × String) :=
  [("hub_broker_puback", "accepted", "local"), ("hub_forwarded", "forwarded", "hub"),
    ("recipient_app_stored", "completed", "recipient"),
    ("recipient_refused", "failed", "recipient"), ("recipient_refused", "expired", "recipient"),
    ("hub_refused", "failed", "hub"), ("hub_expired", "expired", "hub"),
    ("hub_unknown", "unknown", "hub"), ("recipient_busy", "unknown", "recipient")]

/-- Where evidence of each authority may come from; empty for no authority. -/
def sourceOf (authority : String) : String :=
  if authority = "local" then "local"
  else if authority = "hub" then "status_topic"
  else if authority = "recipient" then "status_topic"
  else ""

/-- The strength of the classes, strongest first. -/
def projectionOrder : List String :=
  ["completed", "failed", "expired", "forwarded", "unknown", "accepted", "pending"]

/-- The event may join the operation's evidence. -/
def valid (op : Operation) (e : Event) : Bool :=
  e.opID = op.opID && e.mid = op.mid && e.recipient = op.recipient &&
    allowedKinds.contains (e.kind, e.eventClass, e.authority) &&
    sourceOf e.authority ≠ "" && sourceOf e.authority = e.source && validV7 e.eventID

/-! ## The reducer -/

/-- The valid events by event id, and the ids of the others. -/
structure Reduction where
  held : Keyed eventID
  rejected : List String

/-- The first valid copy of an event id is held. -/
def Reduction.add (op : Operation) (reduction : Reduction) (e : Event) : Reduction :=
  if valid op e then
    { reduction with held := reduction.held.insertOrIgnore e }
  else
    { reduction with rejected := reduction.rejected.insert e.eventID }

def scan (op : Operation) (events : List Event) : Reduction :=
  events.foldl (Reduction.add op) ⟨.empty, []⟩

def hasClass (held : List Event) (eventClass : String) : Bool :=
  held.any fun e => e.eventClass = eventClass

def failedReasons (held : List Event) : List String :=
  (held.filter fun e =>
    (e.eventClass = "failed" || e.eventClass = "expired") && e.reason ≠ "")
    |>.map reason

def project (held : List Event) (rejected : List String) : Projection where
  state := (projectionOrder.find? (hasClass held)).getD "pending"
  conflict := hasClass held "completed" && hasClass held "failed"
  failedReasons := (failedReasons held).toFinset.sort
  evidence := (held.map eventID).toFinset.sort
  rejected := (rejected.filter fun id =>
    !(held.map eventID).contains id).toFinset.sort

def reduce (op : Operation) (events : List Event) : Projection :=
  project (scan op events).held.entries (scan op events).rejected

/-! ## What is held -/

section
variable {op : Operation} {events : List Event}

lemma scan_append_singleton (op : Operation) (events : List Event) (e : Event) :
    scan op (events ++ [e]) = (scan op events).add op e := by
  rw [scan, foldl_append]
  rfl

variable {reduction : Reduction}

lemma mem_held_add : other ∈ (reduction.add op e).held ↔ other ∈ reduction.held ∨
    valid op e = true ∧ reduction.held.get? e.eventID = none ∧ other = e := by
  unfold Reduction.add
  split
  next isValid => rw [Keyed.mem_insertOrIgnore, isValid, eq_self, true_and]
  next invalid => simp [invalid]

variable {e : Event}

lemma mem_rejected_add {id : String} : id ∈ (reduction.add op e).rejected ↔
    id ∈ reduction.rejected ∨ valid op e = false ∧ e.eventID = id := by
  unfold Reduction.add
  split
  next isValid => simp [isValid]
  next invalid => simp [invalid, or_comm, eq_comm]

lemma valid_of_held (held : e ∈ (scan op events).held) : e ∈ events ∧ valid op e = true := by
  induction events using List.reverseRecOn with
  | nil => cases held
  | append_singleton events last induction =>
    rw [scan_append_singleton, mem_held_add] at held
    rcases held with old | ⟨isValid, _, rfl⟩
    · obtain ⟨member, isValid⟩ := induction old
      exact ⟨mem_append_left _ member, isValid⟩
    · exact ⟨mem_append_right _ mem_cons_self, isValid⟩

lemma held_of_valid (member : e ∈ events) (isValid : valid op e = true) :
    ∃ first ∈ (scan op events).held, first.eventID = e.eventID := by
  induction events using List.reverseRecOn with
  | nil => cases member
  | append_singleton events last induction =>
    rw [scan_append_singleton]
    rcases mem_append.mp member with old | new
    · obtain ⟨first, held, named⟩ := induction old
      exact ⟨first, mem_held_add.mpr (.inl held), named⟩
    · cases mem_singleton.mp new
      cases found : (scan op events).held.get? e.eventID with
      | none => exact ⟨e, mem_held_add.mpr (.inr ⟨isValid, found, rfl⟩), rfl⟩
      | some first =>
        obtain ⟨held, named⟩ := Keyed.get?_eq_some_iff.mp found
        exact ⟨first, mem_held_add.mpr (.inl held), named⟩

lemma held_append (held : e ∈ (scan op events).held) : e ∈ (scan op (events ++ more)).held := by
  induction more using List.reverseRecOn with
  | nil =>
    rw [append_nil]
    exact held
  | append_singleton more last induction =>
    rw [← append_assoc, scan_append_singleton]
    exact mem_held_add.mpr (.inl induction)

lemma mem_rejected {id : String} : id ∈ (scan op events).rejected ↔ ∃ e ∈ events,
    valid op e = false ∧ e.eventID = id := by
  induction events using List.reverseRecOn with
  | nil => simp [scan]
  | append_singleton events last induction =>
    rw [scan_append_singleton, mem_rejected_add, induction]
    simp [or_and_right, exists_or]

end

/-! ## What the projection reads -/

/-- Every event of the first list has a copy in the second that says the
same. -/
def Covered (held other : List Event) : Prop :=
  ∀ e ∈ held, ∃ copy ∈ other, copy.eventID = e.eventID ∧
    copy.eventClass = e.eventClass ∧ copy.reason = e.reason

section
variable {held other : List Event}
variable {eventClass : String}

lemma hasClass_iff : hasClass held eventClass = true ↔ ∃ e ∈ held, e.eventClass = eventClass := by
  simp [hasClass]

variable {reason : String}

lemma mem_failedReasons : reason ∈ failedReasons held ↔ ∃ e ∈ held,
    (e.eventClass = "failed" ∨ e.eventClass = "expired") ∧ e.reason ≠ "" ∧ e.reason = reason := by
  simp [failedReasons, and_assoc]

section
variable (covered : Covered held other)

include covered

lemma Covered.hasClass
    (has : hasClass held eventClass = true) : hasClass other eventClass = true := by
  obtain ⟨e, member, named⟩ := hasClass_iff.mp has
  obtain ⟨copy, copyMember, _, same, _⟩ := covered e member
  exact hasClass_iff.mpr ⟨copy, copyMember, same.trans named⟩

lemma Covered.failedReasons (member : reason ∈ failedReasons held) :
    reason ∈ failedReasons other := by
  obtain ⟨e, eMember, failed, given, named⟩ := mem_failedReasons.mp member
  obtain ⟨copy, copyMember, _, sameClass, sameReason⟩ := covered e eMember
  rw [← sameClass] at failed
  rw [← sameReason] at given named
  exact mem_failedReasons.mpr ⟨copy, copyMember, failed, given, named⟩

lemma Covered.eventID {id : String} (member : id ∈ held.map eventID) : id ∈ other.map eventID := by
  obtain ⟨e, eMember, named⟩ := mem_map.mp member
  obtain ⟨copy, copyMember, same, _⟩ := covered e eMember
  exact mem_map.mpr ⟨copy, copyMember, same.trans named⟩

end

/-- The projection is a function of what the events held say and of the
rejected ids that are not held. -/
lemma project_congr (forth : Covered held other) (back : Covered other held)
    (same : ∀ id, id ∉ held.map eventID → (id ∈ rejected ↔ id ∈ otherRejected)) :
    project held rejected = project other otherRejected := by
  have classes : hasClass held = hasClass other := by
    funext eventClass
    exact Bool.eq_iff_iff.mpr ⟨forth.hasClass, back.hasClass⟩
  have reasons : (failedReasons held).toFinset = (failedReasons other).toFinset := by
    ext reason
    rw [mem_toFinset, mem_toFinset]
    exact ⟨forth.failedReasons, back.failedReasons⟩
  have sameIDs : ∀ id, id ∈ held.map eventID ↔
      id ∈ other.map eventID := fun id => ⟨forth.eventID, back.eventID⟩
  have evidence : (held.map eventID).toFinset = (other.map eventID).toFinset := by
    ext id
    rw [mem_toFinset, mem_toFinset]
    exact sameIDs id
  have rejects : (rejected.filter fun id =>
        !(held.map eventID).contains id).toFinset = (otherRejected.filter fun id =>
        !(other.map eventID).contains id).toFinset := by
    ext id
    simp only [mem_toFinset, mem_filter, Bool.not_eq_true',
      contains_eq_mem, decide_eq_false_iff_not, ← sameIDs]
    exact and_congr_left (same id)
  rw [project, project, classes, reasons, evidence, rejects]

lemma idxOf_find?_le {α : Type} [DecidableEq α] {list : List α}
    {test : α → Bool} {first other : α} (found : list.find? test = some first)
    (holds : test other = true) : list.idxOf first ≤ list.idxOf other := by
  induction list with
  | nil => cases found
  | cons head tail induction =>
    rw [List.find?_cons] at found
    split at found
    · cases found
      rw [idxOf_cons_self]
      exact Nat.zero_le _
    next fails =>
    have notFirst : head ≠ first := by
      rintro rfl
      rw [List.find?_some found] at fails
      cases fails
    have notOther : head ≠ other := by
      rintro rfl
      rw [holds] at fails
      cases fails
    rw [idxOf_cons_ne _ notFirst, idxOf_cons_ne _ notOther]
    exact Nat.succ_le_succ (induction found)

lemma idxOf_projectionOrder_le (known : eventClass ∈ projectionOrder) :
    projectionOrder.idxOf eventClass ≤ projectionOrder.idxOf "pending" :=
  (by decide : ∀ c ∈ projectionOrder,
    projectionOrder.idxOf c ≤ projectionOrder.idxOf "pending") _ known

lemma Covered.state (covered : Covered held other) (rejected otherRejected : List String) :
    projectionOrder.idxOf (project other otherRejected).state ≤
    projectionOrder.idxOf (project held rejected).state := by
  simp only [project]
  cases found : projectionOrder.find? (Hub.hasClass held) with
  | none =>
    apply idxOf_projectionOrder_le
    cases otherFound : projectionOrder.find? (Hub.hasClass other) with
    | none => decide
    | some first => exact mem_of_find?_eq_some otherFound
  | some old =>
    have kept := covered.hasClass (List.find?_some found)
    cases otherFound : projectionOrder.find? (Hub.hasClass other) with
    | none => exact absurd kept (List.find?_eq_none.mp otherFound old (mem_of_find?_eq_some found))
    | some first => exact idxOf_find?_le otherFound kept

end

/-! ## The order of the events -/

def CopiesAgree (op : Operation) (events : List Event) : Prop :=
  ∀ e ∈ events, ∀ other ∈ events, valid op e = true →
    valid op other = true → other.eventID = e.eventID →
    other.eventClass = e.eventClass ∧ other.reason = e.reason

lemma CopiesAgree.covered (agree : CopiesAgree op left) (same : ∀ e, e ∈ left ↔ e ∈ right) :
    Covered (scan op left).held.entries (scan op right).held.entries := by
  intro e held
  obtain ⟨member, isValid⟩ := valid_of_held held
  obtain ⟨copy, copyHeld, named⟩ := held_of_valid ((same e).mp member) isValid
  obtain ⟨copyMember, copyValid⟩ := valid_of_held copyHeld
  obtain ⟨sameClass, sameReason⟩ := agree e member copy
    ((same copy).mpr copyMember) isValid copyValid named
  exact ⟨copy, copyHeld, named, sameClass, sameReason⟩

/-- The evidence of an operation does not depend on the order in which it
comes.

Two lists of events with the same elements have one projection, where copies
of one valid event agree in class and reason. Whatever events follow, the
state does not get weaker, a conflict stays and no evidence goes. -/
theorem reduce_order_independent (op : Operation) :
    (∀ left right, CopiesAgree op left → (∀ e, e ∈ left ↔ e ∈ right) →
      reduce op left = reduce op right) ∧ ∀ events more,
      projectionOrder.idxOf (reduce op (events ++ more)).state ≤
        projectionOrder.idxOf (reduce op events).state ∧ ((reduce op events).conflict = true →
        (reduce op (events ++ more)).conflict = true) ∧ ∀ id ∈ (reduce op events).evidence,
        id ∈ (reduce op (events ++ more)).evidence := by
  constructor
  · intro left right agree same
    have otherAgree : CopiesAgree op right := by
      intro e member other otherMember
      exact agree e ((same e).mpr member) other ((same other).mpr otherMember)
    apply project_congr (agree.covered same) (otherAgree.covered fun e => (same e).symm)
    intro id _
    rw [mem_rejected, mem_rejected]
    simp [same]
  intro events more
  have covered : Covered (scan op events).held.entries
      (scan op (events ++ more)).held.entries := fun e held =>
    ⟨e, held_append held, rfl, rfl, rfl⟩
  refine ⟨covered.state _ _, ?_, ?_⟩
  · intro conflict
    obtain ⟨completed, failed⟩ := Bool.and_eq_true_iff.mp conflict
    exact Bool.and_eq_true_iff.mpr ⟨covered.hasClass completed, covered.hasClass failed⟩
  intro id member
  simp only [reduce, project, Finset.mem_sort, mem_toFinset] at *
  exact covered.eventID member

/-! ## Copies that differ -/

def sampleOperation : Operation where
  opID := "01920000-0000-7000-8000-000000000001"
  mid := "01920000-0000-7000-8000-00000000000a"
  recipient := "bridge:b"

def storedEvent (eventID : String) : Event where
  source := "status_topic"
  opID := sampleOperation.opID
  mid := sampleOperation.mid
  recipient := sampleOperation.recipient
  eventID
  eventClass := "completed"
  kind := "recipient_app_stored"
  authority := "recipient"

def refusedEvent (eventID : String) : Event where
  source := "status_topic"
  opID := sampleOperation.opID
  mid := sampleOperation.mid
  recipient := sampleOperation.recipient
  eventID
  eventClass := "failed"
  kind := "recipient_refused"
  reason := "mid_conflict"
  authority := "recipient"

def firstEvent : String := "01920000-0000-7000-8000-0000000000e1"

def secondEvent : String := "01920000-0000-7000-8000-0000000000e2"

/-- A repeated completion and a refusal, in two orders. -/
theorem reduce_order_independent_conflict :
    reduce sampleOperation [storedEvent firstEvent, refusedEvent secondEvent,
        storedEvent firstEvent] = reduce sampleOperation
        [refusedEvent secondEvent, storedEvent firstEvent] := by
  refine (reduce_order_independent sampleOperation).1 _ _ ?_ ?_
  · unfold CopiesAgree
    decide +kernel
  intro e
  simp only [mem_cons, not_mem_nil, or_false]
  tauto

/-- Two valid events under one id: the first decides. -/
theorem reduce_order_matters : (reduce sampleOperation
        [storedEvent firstEvent, refusedEvent firstEvent]).state = "completed" ∧
      (reduce sampleOperation [refusedEvent firstEvent, storedEvent firstEvent]).state =
        "failed" := by
  decide +kernel

end MeshSat.Hub
