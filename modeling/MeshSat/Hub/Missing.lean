import MeshSat.Hub.Route

/-!
# The missing events of an operation

A missing row is struck when its event is kept, when a completion of its
operation is, or with the operation. Event ids are unique over all
operations, and two of the statements that strike a row look for its event
under any operation.
-/

namespace MeshSat.Hub

open Library TransitionSystem Keyed Option

namespace OpsDB

/-- The share of `resolve` in the database. -/
def resolve (opID : String) (kept : KeptEvent) (db : OpsDB) : OpsDB :=
  if kept.valid && kept.eventClass = "completed" then db.resolveCompletedHubOp opID
  else db.resolveHubOpMissing opID kept.eventID

/-- `ResolveKeptHubOpMissing`, with the number of rows it deletes. -/
def resolveKeptHubOpMissing (db : OpsDB) : Nat × OpsDB :=
  let unkept := db.missing.deleteWhere fun m =>
    m.eventID ≠ "" && db.events.entries.any fun row => row.eventID = m.eventID
  let missing := unkept.deleteWhere fun m => db.hubOpCompleted m.opID
  (db.missing.entries.length - missing.entries.length,
    { db with
      missing
      ops := db.ops.updateWhere (fun op => op.replayAt.isSome &&
        !missing.entries.any fun m => m.opID = op.opID) notOwed notOwed_key })

end OpsDB

inductive MissingAction where
  | put (op : HubOp)
  /-- `WantHubOpReplay`. -/
  | want (opID eventID : String) (now : Int64)
  /-- `AddHubOpEvent` and, if it can be written, `resolve`. -/
  | keep (e : Event) (valid : Bool) (now : Int64) (resolves : Bool)
  | resolveKept
  | prune (now : Int64)

def execMissing (db : OpsDB) : MissingAction → Option OpsDB
  | .put op => db.putHubOp op
  | .want opID eventID now => some (db.wantHubOpReplay opID eventID now)
  | .keep e valid now resolves =>
    let (kept, db) := db.addHubOpEvent e valid now
    some (if resolves then db.resolve e.opID kept else db)
  | .resolveKept => some db.resolveKeptHubOpMissing.2
  | .prune now => some (db.pruneHubOps now)

def missingSystem : TransitionSystem OpsDB MissingAction where
  initial := ⟨.empty, .empty, .empty⟩
  exec := execMissing

namespace OpsDB

/-- Why a missing row may be struck. -/
def EndsFor (db next : OpsDB) (m : MissingEvent) : Prop :=
  (∃ row ∈ next.events, row.eventID = m.eventID ∧ row.opID = m.opID) ∨
    next.hubOpCompleted m.opID = true ∨
    (db.getHubOp m.opID).isSome = true ∧ next.getHubOp m.opID = none

/-- An event kept under the id of a missing one is of the same operation. -/
def Unshared (db next : OpsDB) : Prop :=
  ∀ m ∈ db.missing, ∀ row ∈ next.events, row.eventID = m.eventID → row.opID = m.opID

/-- An operation that is owed a repeat has a missing event. -/
def Owes (db : OpsDB) : Prop :=
  ∀ opID op, db.getHubOp opID = some op → op.replayAt.isSome = true →
    ∃ m ∈ db.missing, m.opID = opID

variable {db next : OpsDB} {m : MissingEvent} {opID : String}

/-! ## Causes -/

variable {missing : Keyed MissingEvent.key}

lemma hubOpCompleted_updated {selected : HubOp → Bool}
    {ops : Table HubOp.key} (updated : ops = db.ops.updateWhere selected notOwed notOwed_key) :
    hubOpCompleted opID { db with ops, missing } = db.hubOpCompleted opID := by
  subst updated
  simp [hubOpCompleted, getHubOp]

lemma struck_resolve (present : m ∈ db.missing)
    (struck : m ∉ (db.resolve opID kept).missing) : m.opID = opID ∧
    (m.eventID = kept.eventID ∨ (db.resolve opID kept).hubOpCompleted opID = true) := by
  unfold resolve at struck ⊢
  split at struck
  · next completed =>
    simp only [resolveCompletedHubOp, clearIdleReplay, mem_deleteWhere, present, true_and,
      Bool.not_eq_false, Bool.and_eq_true, decide_eq_true_eq] at struck
    simp only [if_pos completed]
    exact ⟨struck.1, .inr ((hubOpCompleted_updated rfl).trans struck.2)⟩
  simp only [resolveHubOpMissing, clearIdleReplay, mem_deleteWhere, present, true_and,
    Bool.not_eq_false, Bool.and_eq_true, decide_eq_true_eq] at struck
  exact ⟨struck.1, .inl struck.2⟩

lemma events_resolve (opID : String) (kept : KeptEvent) (db : OpsDB) :
    (db.resolve opID kept).events = db.events := by
  unfold resolve
  split
  · rfl
  · rfl

lemma struck_resolveKept (present : m ∈ db.missing)
    (struck : m ∉ db.resolveKeptHubOpMissing.2.missing) :
    (∃ row ∈ db.events, row.eventID = m.eventID) ∨
      db.resolveKeptHubOpMissing.2.hubOpCompleted m.opID = true := by
  have completed : db.resolveKeptHubOpMissing.2.hubOpCompleted m.opID =
      db.hubOpCompleted m.opID := hubOpCompleted_updated rfl
  rw [completed]
  simp only [resolveKeptHubOpMissing, mem_deleteWhere, present, true_and, not_and,
    Bool.not_eq_false, Bool.and_eq_false_iff, List.any_eq_false, decide_eq_true_eq] at struck
  by_cases named : ∃ row ∈ db.events, row.eventID = m.eventID
  · exact .inl named
  · refine .inr (struck (.inr fun row member same => named ⟨row, member, same⟩))

lemma opID_of_getHubOp (found : db.getHubOp opID = some op) : op.opID = opID := by
  have named : op.key = opID := Table.key_of_get? found
  exact named

lemma pruned_iff : db.pruned now opID = true ↔
    ∃ op, db.getHubOp opID = some op ∧ pastRetention now op = true := by
  simp only [pruned, List.any_eq_true, Bool.and_eq_true, decide_eq_true_eq]
  constructor
  · rintro ⟨op, member, rfl, past⟩
    exact ⟨op, Table.get?_of_mem member, past⟩
  rintro ⟨op, found, past⟩
  exact ⟨op, Table.mem_of_get? found, opID_of_getHubOp found, past⟩

lemma kept_mem (db : OpsDB) (e : Event) (valid : Bool) (now : Int64) :
    (db.addHubOpEvent e valid now).1 ∈ (db.addHubOpEvent e valid now).2.events := by
  have named : e.eventID = (e.row valid now).eventID := rfl
  have found : (db.addHubOpEvent e valid now).2.events.get? e.eventID =
      some (db.addHubOpEvent e valid now).1 := by
    simp [addHubOpEvent, get?_insertOrIgnore, ← named]
  exact mem_of_get? found

variable {action : MissingAction}

lemma endsFor_of_struck (executed : execMissing db action = some next)
    (unshared : db.Unshared next) (present : m ∈ db.missing) (struck : m ∉ next.missing) :
    db.EndsFor next m := by
  cases action with
  | put op =>
    simp only [execMissing, putHubOp, dite_none_left_eq_some, Option.some.injEq] at executed
    obtain ⟨fresh, rfl⟩ := executed
    exact absurd present struck
  | want opID eventID now =>
    cases executed
    refine absurd ?_ struck
    simp only [wantHubOpReplay]
    split
    · exact Keyed.mem_insertOrIgnore.mpr (.inl present)
    · exact present
  | keep e valid now resolves =>
    cases executed
    cases resolves with
    | false => exact absurd present struck
    | true =>
      have still : m ∈ (db.addHubOpEvent e valid now).2.missing := present
      have member := kept_mem db e valid now
      rw [← events_resolve e.opID (db.addHubOpEvent e valid now).1] at member
      obtain ⟨owner, named | completed⟩ := struck_resolve still struck
      · exact .inl ⟨_, member, named.symm, unshared m present _ member named.symm⟩
      · exact .inr (.inl (owner ▸ completed))
  | resolveKept =>
    cases executed
    rcases struck_resolveKept present struck with ⟨row, member, same⟩ | completed
    · exact .inl ⟨row, member, same, unshared m present row member same⟩
    · exact .inr (.inl completed)
  | prune now =>
    cases executed
    simp only [pruneHubOps, mem_deleteWhere, present, true_and, Bool.not_eq_false] at struck
    obtain ⟨op, found, past⟩ := pruned_iff.mp struck
    refine .inr (.inr ⟨by rw [found]; rfl, ?_⟩)
    have kept : db.ops.get? m.opID = some op := found
    simp [pruneHubOps, getHubOp, kept, past]

/-! ## What is owed -/

lemma Owes.cleared (owes : db.Owes) {idle : HubOp → Bool}
    {events : Keyed KeptEvent.eventID}
    (clears : ∀ op, op.replayAt.isSome = true → ∀ m ∈ db.missing, m.opID = op.opID →
      idle op = true ∨ ∃ other ∈ missing, other.opID = op.opID) :
    Owes { ops := db.ops.updateWhere idle notOwed notOwed_key, events, missing } := by
  intro opID op found isOwed
  simp only [getHubOp, Table.get?_updateWhere, map_eq_some_iff] at found
  obtain ⟨old, kept, rfl⟩ := found
  split at isOwed
  · cases isOwed
  · next busy =>
    have named : old.opID = opID := opID_of_getHubOp kept
    obtain ⟨m, member, same⟩ := owes opID old kept isOwed
    rcases clears old isOwed m member (same.trans named.symm) with idle | ⟨other, there, same⟩
    · exact absurd idle busy
    · exact ⟨other, there, same.trans named⟩

lemma Owes.resolve (owes : db.Owes) (kept : KeptEvent) : (db.resolve opID kept).Owes := by
  have struck (selected : MissingEvent → Bool) (only : ∀ m, selected m = true → m.opID = opID) :
      Owes (clearIdleReplay opID { db with missing := db.missing.deleteWhere selected }) := by
    refine owes.cleared fun op isOwed m member same => ?_
    by_cases left : ∃ other ∈ db.missing.deleteWhere selected, other.opID = op.opID
    · exact .inr left
    refine .inl ?_
    have gone : selected m = true := by
      by_contra stays
      exact left ⟨m, Keyed.mem_deleteWhere.mpr ⟨member, by simpa using stays⟩, same⟩
    simp only [Bool.and_eq_true, decide_eq_true_eq, isOwed, and_true, Bool.not_eq_true',
      List.any_eq_false]
    exact ⟨same.symm.trans (only m gone), fun other there equal => left ⟨other, there, equal⟩⟩
  unfold OpsDB.resolve
  split
  · exact struck _ fun m selected => (by simpa using selected : _ ∧ _).1
  · exact struck _ fun m selected => (by simpa using selected : _ ∧ _).1

lemma Owes.step (owes : db.Owes) (executed : execMissing db action = some next) : next.Owes := by
  cases action with
  | put op =>
    simp only [execMissing, putHubOp, dite_none_left_eq_some, Option.some.injEq] at executed
    obtain ⟨fresh, rfl⟩ := executed
    intro opID kept found isOwed
    simp only [getHubOp, Table.get?_insert] at found
    split at found
    · cases found
      cases isOwed
    · exact owes opID kept found isOwed
  | want opID eventID now =>
    cases executed
    intro other op found isOwed
    simp only [wantHubOpReplay, getHubOp, Table.get?_updateWhere, map_eq_some_iff] at found
    obtain ⟨old, kept, rfl⟩ := found
    simp only [wantHubOpReplay]
    have named : old.opID = other := opID_of_getHubOp kept
    split at isOwed
    · next same =>
      have same : other = opID := named.symm.trans (of_decide_eq_true same)
      subst same
      rw [if_pos (by rw [getHubOp, kept]; rfl)]
      have present := get?_insertOrIgnore db.missing ⟨other, eventID, now⟩ (other, eventID)
      rw [MissingEvent.key, if_pos rfl] at present
      exact ⟨_, mem_of_get? present, congrArg Prod.fst (key_of_get? present)⟩
    obtain ⟨m, member, same⟩ := owes other old kept isOwed
    refine ⟨m, ?_, same⟩
    split
    · exact Keyed.mem_insertOrIgnore.mpr (.inl member)
    · exact member
  | keep e valid now resolves =>
    cases executed
    have added : (db.addHubOpEvent e valid now).2.Owes := owes
    cases resolves with
    | false => exact added
    | true => exact added.resolve _
  | resolveKept =>
    cases executed
    refine owes.cleared fun op isOwed m member same => ?_
    rw [isOwed, Bool.true_and, Bool.not_eq_true', List.any_eq_false]
    by_cases left : ∃ other ∈ db.resolveKeptHubOpMissing.2.missing, other.opID = op.opID
    · exact .inr left
    · exact .inl fun other there equal => left ⟨other, there, by simpa using equal⟩
  | prune now =>
    cases executed
    intro opID op found isOwed
    simp only [pruneHubOps, getHubOp, Table.get?_deleteWhere, filter_eq_some_iff] at found
    obtain ⟨m, member, rfl⟩ := owes opID op found.1 isOwed
    refine ⟨m, Keyed.mem_deleteWhere.mpr ⟨member, ?_⟩, rfl⟩
    rw [← Bool.not_eq_true, pruned_iff]
    rintro ⟨other, kept, past⟩
    cases found.1.symm.trans kept
    simp [past] at found

lemma owes_of_reachable (reachable : missingSystem.Reachable db) : db.Owes := by
  induction reachable with
  | refl =>
    intro opID op found
    cases found
  | step action _ _ executed before => exact before.step executed

end OpsDB

/-- A step under which no event is kept with the id of another operation's
missing one strikes a row for cause only; and whatever the steps were, an
operation with nothing missing is owed nothing. -/
theorem missing_ends_for_cause {db next : OpsDB} (reachable : missingSystem.Reachable db)
    {action : MissingAction} (executed : missingSystem.exec db action = some next) :
    (db.Unshared next → ∀ m ∈ db.missing, m ∉ next.missing → db.EndsFor next m) ∧
      ∀ opID op, next.getHubOp opID = some op → (∀ m ∈ next.missing, m.opID ≠ opID) →
        op.replayAt = none := by
  constructor
  · intro unshared m present struck
    exact OpsDB.endsFor_of_struck executed unshared present struck
  intro opID op found nothing
  have owes : next.Owes := (OpsDB.owes_of_reachable reachable).step executed
  by_contra isOwed
  obtain ⟨m, member, same⟩ := owes opID op found (Option.isSome_iff_ne_none.mpr isOwed)
  exact nothing m member same

def missingOp (opID : String) : HubOp where
  opID
  mid := "m"
  recipient := "r"
  intentID := "i"
  expiresAt := 0
  createdAt := 0
  submission := "s"

/-- The first of two operations has a missing event, and one is kept under its
id. -/
def oneMissing (owner : String) : OpsDB :=
  missingSystem.runFrom missingSystem.initial
    [.put (missingOp "a"), .put (missingOp "b"), .want "a" "e" 0,
      .keep ⟨1, "", owner, "m", "r", "e", 0, "relayed", "k", "", "hub", "", "", ""⟩ true 0 false]

lemma oneMissing_reachable (owner : String) : missingSystem.Reachable (oneMissing owner) :=
  .of_runFrom rfl

theorem missing_ends_for_cause_own : (⟨"a", "e", 0⟩ : MissingEvent) ∈ (oneMissing "a").missing ∧
      (oneMissing "a").EndsFor (oneMissing "a").resolveKeptHubOpMissing.2 ⟨"a", "e", 0⟩ := by
  have present : (⟨"a", "e", 0⟩ : MissingEvent) ∈ (oneMissing "a").missing.entries := by
    decide +kernel
  have struck : (⟨"a", "e", 0⟩ : MissingEvent) ∉
      (oneMissing "a").resolveKeptHubOpMissing.2.missing.entries := by decide +kernel
  have unshared : ∀ m ∈ (oneMissing "a").missing.entries, ∀ row ∈
      (oneMissing "a").resolveKeptHubOpMissing.2.events.entries,
      row.eventID = m.eventID → row.opID = m.opID := by decide +kernel
  have executed : missingSystem.exec (oneMissing "a") .resolveKept =
      some (oneMissing "a").resolveKeptHubOpMissing.2 := rfl
  exact ⟨present, (missing_ends_for_cause (oneMissing_reachable "a") executed).1 unshared _
    present struck⟩

/-- The other operation's event strikes the row. -/
theorem missing_ends_for_shared : missingSystem.Reachable (oneMissing "b") ∧
    (⟨"a", "e", 0⟩ : MissingEvent) ∈ (oneMissing "b").missing.entries ∧
    (⟨"a", "e", 0⟩ : MissingEvent) ∉ (oneMissing "b").resolveKeptHubOpMissing.2.missing.entries ∧
    (∀ row ∈ (oneMissing "b").resolveKeptHubOpMissing.2.events.entries, row.opID = "b") ∧
    ((oneMissing "b").resolveKeptHubOpMissing.2.getHubOp "a").isSome = true := by
  exact ⟨oneMissing_reachable "b", by decide +kernel⟩

end MeshSat.Hub
