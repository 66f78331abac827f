import MeshSat.Intents.Review

/-!
# The duplicate warning

When two attempts of one message each left the device, or may have, the
recipient may get it twice, and the intent says so. The warning is folded in
by every decision of the Escalator and by every review of a closed intent. A
cancellation folds nothing in, and clears the mark that would have brought the
review.
-/

namespace MeshSat.Intents

open Library TransitionSystem

/-! ## Two attempts that were sent -/

/-- Two rows each have a transmission that reached the adapter, was not
reported unsent, and was not dropped. -/
def duplicated (evidence : List DeliveryEvidence)
    (transmissions : List DeliveryTransmission) : Bool :=
  2 ≤ ((transmissions.filter fun t =>
    !droppedTransmission evidence t.id && t.reached).map
      DeliveryTransmission.attemptID).dedup.length

lemma possibleDuplicate_eq (s : IntentSnapshot) : possibleDuplicate s =
    (s.intent.possibleDuplicate || duplicated s.evidence s.transmissions) := rfl

lemma duplicated_iff : duplicated evidence transmissions = true ↔ ∃ left ∈ transmissions,
    ∃ right ∈ transmissions, (droppedTransmission evidence left.id = false ∧ left.reached = true) ∧
    (droppedTransmission evidence right.id = false ∧ right.reached = true) ∧
    left.attemptID ≠ right.attemptID := by
  rw [duplicated, decide_eq_true_eq, ← List.card_toFinset, Nat.succ_le_iff, Finset.one_lt_card]
  simp only [List.mem_toFinset, List.mem_map, List.mem_filter, Bool.and_eq_true, Bool.not_eq_true']
  constructor
  · rintro ⟨_, ⟨left, ⟨leftMember, leftSent⟩, rfl⟩,
      _, ⟨right, ⟨rightMember, rightSent⟩, rfl⟩, different⟩
    exact ⟨left, leftMember, right, rightMember, leftSent, rightSent, different⟩
  rintro ⟨left, leftMember, right, rightMember, leftSent, rightSent, different⟩
  exact ⟨_, ⟨left, ⟨leftMember, leftSent⟩, rfl⟩,
    _, ⟨right, ⟨rightMember, rightSent⟩, rfl⟩, different⟩

lemma duplicated_nothing : duplicated [] [] = false := rfl

section
variable {evidence otherEvidence : List DeliveryEvidence}
  {transmissions others : List DeliveryTransmission}

section
variable (same : SameRecord evidence otherEvidence transmissions others)

include same

lemma SameRecord.symm : SameRecord otherEvidence evidence others transmissions := by
  have back {t other : DeliveryTransmission}
      (quiet : QuietTransmission t other) : QuietTransmission other t := by
    unfold QuietTransmission at quiet ⊢
    rw [quiet]
  constructor
  · intro ev isMatched
    exact (same.evidence ev isMatched).symm
  · intro other member
    obtain ⟨t, found, quiet⟩ := same.back other member
    exact ⟨t, found, back quiet⟩
  intro t member
  obtain ⟨other, found, quiet⟩ := same.forth t member
  exact ⟨other, found, back quiet⟩

lemma SameRecord.duplicated_imp (twice : duplicated evidence transmissions = true) :
    duplicated otherEvidence others = true := by
  have moved (t : DeliveryTransmission) (member : t ∈ transmissions)
      (sent : droppedTransmission evidence t.id = false ∧ t.reached = true) :
      ∃ other ∈ others, (droppedTransmission otherEvidence other.id = false ∧
        other.reached = true) ∧ other.attemptID = t.attemptID := by
    obtain ⟨other, found, quiet⟩ := same.forth t member
    refine ⟨other, found, ⟨?_, ?_⟩, ?_⟩
    · rw [← same.dropped, quiet]
      exact sent.1
    · rw [quiet]
      exact sent.2
    · rw [quiet]
  obtain ⟨left, leftMember, right, rightMember, leftSent, rightSent,
    different⟩ := duplicated_iff.mp twice
  obtain ⟨leftOther, leftFound, leftMoved, leftSame⟩ := moved left leftMember leftSent
  obtain ⟨rightOther, rightFound, rightMoved, rightSame⟩ := moved right rightMember rightSent
  refine duplicated_iff.mpr ⟨leftOther, leftFound, rightOther, rightFound,
    leftMoved, rightMoved, ?_⟩
  rw [leftSame, rightSame]
  exact different

lemma SameRecord.duplicated :
    duplicated evidence transmissions = duplicated otherEvidence others := by
  rw [Bool.eq_iff_iff]
  exact ⟨same.duplicated_imp, same.symm.duplicated_imp⟩

end

end

def DB.duplicated (db : DB) (intentID : String) : Bool :=
  Intents.duplicated (db.evidenceOf intentID) (db.transmissionsOf intentID)

variable {snap : IntentSnapshot} {change : IntentChange}
variable {db : DB} {intentID : String}

lemma duplicated_snapshot (loaded : loadSnapshot db intentID = some snap) :
    duplicated snap.evidence snap.transmissions = db.duplicated intentID :=
  (sameRecord_snapshot loaded).duplicated

/-! ## The flag -/

def Op.cancels (intentID : String) : Op → Bool
  | .cancel cancelled _ _ _ => cancelled = intentID
  | _ => false

/-- What a transaction may do to the duplicate flag of an intent. -/
inductive DuplicateStep (db : DB) (op : Op) (intentID : String)
    (intent later : DeliveryIntent) : Prop where
  | kept : later.possibleDuplicate = intent.possibleDuplicate →
      (later.state = .closed → later.dirty = false → intent.state = .closed ∧
            (intent.dirty = false ∨ op.looksAt intentID = true) ∨
          intent.state = .active ∧ op.cancels intentID = true) →
      DuplicateStep db op intentID intent later
  | folded (snap : IntentSnapshot) : loadSnapshot db intentID = some snap →
      later.possibleDuplicate = possibleDuplicate snap → DuplicateStep db op intentID intent later

lemma noteDuplicate_getD (s : IntentSnapshot) (silent : change.possibleDuplicate = none) :
    (noteDuplicate s change).possibleDuplicate.getD
      s.intent.possibleDuplicate = possibleDuplicate s := by
  unfold noteDuplicate
  split
  · rfl
  next same =>
    rw [silent]
    exact (not_not.mp same).symm

/-- Whatever `decideIntent` chooses folds the flag in. -/
lemma Decision.folds (decision : Decision snap now eligible change) :
    change.possibleDuplicate.getD snap.intent.possibleDuplicate = possibleDuplicate snap := by
  cases decision with
  | close _ _ _ _ => exact noteDuplicate_getD snap rfl
  | improve _ _ => exact noteDuplicate_getD snap rfl
  | advance _ _ _ _ _ _ _ _ _ _ => exact noteDuplicate_getD snap rfl
  | bookkeeping => exact noteDuplicate_getD snap rfl

variable {op : Op}

lemma Chosen.folds (chosen : Chosen intentID snap op change) :
    change.possibleDuplicate.getD snap.intent.possibleDuplicate = possibleDuplicate snap ∨
    snap.intent.state = .active ∧ change.possibleDuplicate = none ∧
    change.transition.isSome = true ∧ op.cancels intentID = true := by
  cases chosen with
  | evaluated decided => exact .inl (decideIntent_cases decided).2.folds
  | cancelled decided =>
    obtain ⟨active, _, moves, _, _, _, _, _, _, silent, _⟩ := decideCancel_cases decided
    exact .inr ⟨active, silent, by rw [moves]; rfl, by simp [Op.cancels]⟩

section
variable {op : Op} {db : DB} {intentID : String} {intent later : DeliveryIntent}

lemma Op.duplicateStep (found : db.intents.get? intentID = some intent)
    (after : (op.run db).intents.get? intentID = some later) :
    DuplicateStep db op intentID intent later := by
  cases Op.judged found after with
  | left state _ flag mark =>
    exact .kept flag fun closed clean =>
      .inl ⟨state ▸ closed, .inl (mark clean)⟩
  | looked looks => exact .kept rfl fun closed _ => .inl ⟨closed, .inr looks⟩
  | @noted snap change loaded current chosen quiet =>
    rcases chosen.folds with folds | ⟨_, _, moves, _⟩
    · refine .folded snap loaded ?_
      rw [← folds, current]
      rfl
    rw [quiet] at moves
    cases moves
  | @changed snap change _ _ loaded current chosen _ =>
    rcases chosen.folds with folds | ⟨active, silent, _, cancels⟩
    · refine .folded snap loaded ?_
      rw [← folds, current]
      rfl
    refine .kept ?_ fun _ _ => .inr ⟨current ▸ active, cancels⟩
    simp only [IntentChange.applyTo, silent]
    rfl
  | @reviewed snap loaded _ _ =>
    refine .folded snap loaded ?_
    unfold reviewedIntent
    split
    · rfl
    · rfl

/-- The flag after a transaction is the flag before it, or what the snapshot
says; so it is never taken back. -/
lemma DuplicateStep.monotone (step : DuplicateStep db op intentID intent later)
    (found : db.intents.get? intentID = some intent) (flagged : intent.possibleDuplicate = true) :
    later.possibleDuplicate = true := by
  cases step with
  | kept same _ => exact same.trans flagged
  | folded snap loaded same =>
    have current := (loadSnapshot_eq_some loaded).1
    rw [found] at current
    cases current
    rw [same, possibleDuplicate_eq, flagged]
    rfl

end

variable {intent : DeliveryIntent}

lemma NewIntentRow.unflagged (new : NewIntentRow op intent) : intent.possibleDuplicate = false := by
  obtain ⟨sub, intents, _, new, _, rfl⟩ := new
  rfl

lemma Op.flagged (after : (op.run db).intents.get? intentID = some later)
    (flagged : later.possibleDuplicate = true) : ∃ snap, loadSnapshot db intentID = some snap ∧
      possibleDuplicate snap = true := by
  rcases (op.intentsStep _).backward intentID later after with
    ⟨intent, found, _⟩ | ⟨_, new⟩
  · cases Op.duplicateStep found after with
    | kept same _ =>
      obtain ⟨snap, loaded, rfl⟩ : ∃ snap, loadSnapshot db intentID =
          some snap ∧ snap.intent = intent := by
        unfold loadSnapshot
        rw [found]
        exact ⟨_, rfl, rfl⟩
      refine ⟨snap, loaded, ?_⟩
      rw [possibleDuplicate_eq, ← same, flagged]
      rfl
    | folded snap loaded same => exact ⟨snap, loaded, same ▸ flagged⟩
  rw [new.unflagged] at flagged
  cases flagged

/-! ## Closed intents -/

def cancelsFolded (db : DB) : Op → Bool
  | .cancel intentID _ _ _ => (loadSnapshot db intentID).all fun snap =>
    !(snap.intent.state = .active && duplicated snap.evidence snap.transmissions &&
      !snap.intent.possibleDuplicate)
  | _ => true

/-- No mark is lost, and no cancellation closes an intent whose duplicate flag
is still to be set. -/
def duplicatesFolded (db : DB) (op : Op) : Bool := looksFresh db op && cancelsFolded db op

lemma cancelsFolded_flagged (folded : cancelsFolded db op = true)
    (cancels : op.cancels intentID = true) (found : db.intents.get? intentID = some intent)
    (active : intent.state = .active) (twice : db.duplicated intentID = true) :
    intent.possibleDuplicate = true := by
  cases op with
  | cancel cancelled _ _ _ =>
    have same : cancelled = intentID := by simpa [Op.cancels] using cancels
    subst same
    cases loaded : loadSnapshot db cancelled with
    | none =>
      unfold loadSnapshot at loaded
      rw [found] at loaded
      cases loaded
    | some snap =>
      have current := (loadSnapshot_eq_some loaded).1
      rw [found] at current
      cases current
      simpa [cancelsFolded, loaded, active, duplicated_snapshot loaded, twice] using folded
  | _ => cases cancels

/-- A closed intent that nothing marks, and whose transmissions are done, says
so if two of its attempts were sent. -/
def Warned (db : DB) : Prop :=
  ∀ intentID intent, db.intents.get? intentID = some intent →
    intent.state = .closed → intent.dirty = false → db.AllDone intentID →
    db.duplicated intentID = true → intent.possibleDuplicate = true

lemma Warned.step (warned : Warned db)
    (recorded : Recorded db) (folded : duplicatesFolded db op = true) : Warned (op.run db) := by
  simp only [duplicatesFolded, Bool.and_eq_true] at folded
  intro intentID later after closed clean done twice
  obtain ⟨doneBefore, record⟩ := Op.record_still after clean done
  have twiceBefore : db.duplicated intentID = true := record.duplicated.trans twice
  rcases (op.intentsStep _).backward intentID later after with
    ⟨intent, found, _⟩ | ⟨unused, _⟩
  · cases Op.duplicateStep found after with
    | kept same stays =>
      rw [same]
      rcases stays closed clean with ⟨wasClosed, marked⟩ | ⟨active, cancels⟩
      · have unmarked : intent.dirty = false := by
          rcases marked with unmarked | looks
          · exact unmarked
          · exact looksFresh_clean folded.1 looks found wasClosed
        exact warned intentID intent found wasClosed unmarked doneBefore twiceBefore
      · exact cancelsFolded_flagged folded.2 cancels found active twiceBefore
    | folded snap loaded same =>
      rw [same, possibleDuplicate_eq, duplicated_snapshot loaded, twiceBefore]
      exact Bool.or_true _
  have none := (recorded.unused unused).duplicated
  rw [duplicated_nothing] at none
  exact (Bool.false_ne_true (none.symm.trans twiceBefore)).elim

/-- The duplicate warning is durable.

In every run in which no mark of a closed intent is taken away unseen, and no
cancellation closes an intent before a decision has folded in that two of its
rows were sent, a closed intent that nothing marks, and whose transmissions
are all done, has the flag that its record gives now. In every run at all the
flag is set only where the snapshot has it, and is never cleared. -/
theorem duplicate_warning_durable (s : State) : (ReachesWith duplicatesFolded system.initial s →
      ∀ intentID snap, loadSnapshot s.db intentID = some snap →
        snap.intent.state = .closed → snap.intent.dirty = false →
        (∀ t ∈ snap.transmissions, t.state = .done) →
        snap.intent.possibleDuplicate = possibleDuplicate snap) ∧ (system.Reachable s →
      ∀ action next, system.exec s action = some next →
      ∀ intentID later, next.db.intents.get? intentID = some later →
        later.possibleDuplicate = true → ∃ snap, loadSnapshot s.db intentID = some snap ∧
          possibleDuplicate snap = true) ∧ (system.Reachable s →
      ∀ later, system.Reaches anything s later →
      ∀ intentID intent kept, s.db.intents.get? intentID = some intent →
        intent.possibleDuplicate = true → later.db.intents.get? intentID = some kept →
        kept.possibleDuplicate = true) := by
  refine ⟨?_, ?_, ?_⟩
  · intro run intentID snap loaded closed clean done
    have kept : Recorded s.db ∧ Warned s.db := by
      refine (run.refines (.refl _)).preserves (fun db => Recorded db ∧ Warned db) ?_
        ⟨.empty, fun _ _ found => by cases found⟩
      rintro db op ⟨recorded, warned⟩ enabled folded
      exact ⟨recorded.step enabled, warned.step recorded folded⟩
    rw [possibleDuplicate_eq, duplicated_snapshot loaded]
    cases twice : s.db.duplicated intentID with
    | false => exact (Bool.or_false _).symm
    | true =>
      rw [Bool.or_true]
      refine kept.2 intentID snap.intent (loadSnapshot_eq_some loaded).1 closed clean ?_ twice
      intro txID t found owner
      have named : t.id = txID := Table.key_of_get? found
      exact done t ((mem_snapshot_transmissions loaded).mpr ⟨named ▸ found, owner⟩)
  · intro reachable action next executed intentID later after flagged
    obtain ⟨well, attempts⟩ := reachable_consistent reachable
    rcases (exec_refines well attempts executed).1 with
      unchanged | ⟨op, _, _, written⟩
    · rw [unchanged] at after
      refine ⟨_, by rw [loadSnapshot, after]; rfl, ?_⟩
      rw [possibleDuplicate_eq, flagged]
      rfl
    rw [written] at after
    exact Op.flagged after flagged
  intro reachable later run intentID intent kept found flagged keptFound
  have still : later.db.Still intentID fun kept =>
      kept.possibleDuplicate = true := by
    refine (Reaches.refines reachable run).preserves (fun db => db.Still intentID fun kept =>
        kept.possibleDuplicate = true) ?_ (.start found flagged)
    intro db op still _ _
    exact still.step fun old later oldFound after flagged =>
      (Op.duplicateStep oldFound after).monotone oldFound flagged
  exact still.2 kept keptFound

def bothAccepted : List Action :=
  submitted bothBearers ++ sendRow 1 1 0 ++
    [.worker 1 (.finish { outcome := .accepted, acceptedBy := "radio" } 15),
      .claim 2, .worker 2 .reread, .worker 2 (.authorize "msg" 1 0),
      .worker 2 (.handOff { kind := "aprs", value := "A1" } 16),
      .worker 2 (.finish { outcome := .accepted, acceptedBy := "tnc" } 20)]

/-- The Escalator looks at the intent before the sender cancels it. -/
theorem duplicate_warning_durable_cancelled :
    let s := system.runFrom system.initial (bothAccepted ++
      [.evaluate "intent" 30 (fun _ => true), .act 1 40, .cancel "intent" 50 "", .act 2 60])
    ∃ snap, loadSnapshot s.db "intent" = some snap ∧ snap.intent.lastTransition = .t13 ∧
      snap.intent.possibleDuplicate = possibleDuplicate snap ∧ possibleDuplicate snap = true := by
  intro s
  have run : ReachesWith duplicatesFolded system.initial s := Reaches.of_guarded_runFrom (by decide)
  have closed : (loadSnapshot s.db "intent").map (fun snap =>
      (snap.intent.state, snap.intent.dirty, snap.intent.lastTransition,
        snap.intent.possibleDuplicate, snap.transmissions.all fun t => t.state = .done)) =
      some (.closed, false, .t13, true, true) := by
    decide
  obtain ⟨snap, loaded, columns⟩ := Option.map_eq_some_iff.mp closed
  simp only [Prod.mk.injEq, List.all_eq_true, decide_eq_true_eq] at columns
  obtain ⟨isClosed, clean, transition, flagged, done⟩ := columns
  have same := (duplicate_warning_durable s).1 run "intent" snap loaded isClosed clean done
  exact ⟨snap, loaded, transition, same, same.symm.trans flagged⟩

/-- The sender cancels before the Escalator has looked. -/
def cancelledUnseen : State :=
  system.runFrom system.initial (bothAccepted ++ [.cancel "intent" 30 "", .act 1 40])

/-- Both rows were accepted, nothing marks the closed intent, and it does not
say that the message may arrive twice. -/
theorem cancellation_loses_warning : system.Reachable cancelledUnseen ∧
      (loadSnapshot cancelledUnseen.db "intent").map (fun snap =>
        (snap.intent.state, snap.intent.dirty, snap.intent.lastTransition,
          snap.transmissions.all DeliveryTransmission.acceptedDone,
          snap.intent.possibleDuplicate, possibleDuplicate snap)) =
        some (.closed, false, .t13, true, false, true) :=
  ⟨.of_runFrom (by decide), by decide⟩

end MeshSat.Intents
