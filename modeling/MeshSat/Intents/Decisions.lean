import MeshSat.Intents.Effects

/-!
# What the Escalator's transactions write

The decision procedure can only close an intent, record a better outcome of a
message sent on all bearers, advance an ordered fallback by one route, or do
its bookkeeping; the sender's cancel closes. `Applied` lists what the
database looks like after each of these.
-/

namespace MeshSat.Intents

open Library Table

lemma outcomeRule_ne_pending (s : IntentSnapshot) : outcomeRule s ≠ .pending := by
  unfold outcomeRule
  cases firstCompletion s.evidence with
  | some completion => cases completion <;> simp [Completion.outcome]
  | none =>
    dsimp only
    split
    · simp
    split
    · simp
    · simp

/-! ## The changes -/

section
variable (s : IntentSnapshot)

/-- Only the mark of a possible duplicate is added. -/
@[simp] lemma noteDuplicate_eq (change : IntentChange) : noteDuplicate s change = { change with
      possibleDuplicate :=
        if possibleDuplicate s ≠ s.intent.possibleDuplicate then some (possibleDuplicate s)
        else change.possibleDuplicate } := by
  unfold noteDuplicate
  split <;> rfl

def IntentSnapshot.activeFacts (now : Int) : List RowFacts :=
  (factsOf (s.stamped now)).filter fun f => f.row.round = s.intent.activeRound

def ClosingOutcome (outcome : Outcome) : Prop :=
  outcome = outcomeRule s ∨ outcomeRule s = .failed ∧ (outcome = .expired ∨ outcome = .cancelled)

end

/-- Every change `decideIntent` can choose for a snapshot. -/
inductive Decision (s : IntentSnapshot) (now : Int) (eligible : Nat → Bool) :
    IntentChange → Prop where
  | close (transition : Transition) (outcome : Outcome) (reason : String) :
      ClosingOutcome s outcome → Decision s now eligible (closeWith s now transition outcome reason)
  | improve : s.intent.effectiveStrategy = .allBearers →
      (factsOf (s.stamped now)).any RowFacts.completed = true →
      Decision s now eligible (noteDuplicate s { lookedAt s now with
        transition := some .t10
        setOutcome := some (outcomeRule s) })
  | advance (f : RowFacts) (next : RoutePlanEntry) (transition : Transition) (reason : String) :
      s.intent.effectiveStrategy = .orderedFallback → s.activeFacts now = [f] →
      nextRoute s.intent.routePlan f.entry.routeIndex eligible = some next →
      f.row.status ≠ .sending → (f.row.status = .unknown → f.entry.paid = false) →
      (factsOf (s.stamped now)).any RowFacts.completed = false →
      Decision s now eligible (advance s now transition next reason)
  | bookkeeping : Decision s now eligible (noteDuplicate s (lookedAt s now))

variable {s : IntentSnapshot} {now : Int} {eligible : Nat → Bool}
  {change : IntentChange} {db next : DB} {intentID : String}
  {transition : Transition} {row : MessageDelivery} {intent : DeliveryIntent}

lemma decideCompletion_cases
    (decided : decideCompletion s (factsOf (s.stamped now)) now = some change) :
    Decision s now eligible change := by
  unfold decideCompletion at decided
  split at decided
  next completed =>
    split at decided
    · cases decided
      exact .close .t9 _ _ (.inl rfl)
    rename_i bearers
    split at decided
    · cases decided
      exact .improve (not_not.mp bearers) completed
    · cases decided
  · cases decided

lemma decideExpiry_cases (decided : decideExpiry s now = some change) :
    Decision s now eligible change := by
  unfold decideExpiry at decided
  split at decided
  · cases decided
    apply Decision.close
    split
    next nothing =>
      simp only [Bool.or_eq_true, decide_eq_true_eq, outcomeRule_ne_pending, or_false] at nothing
      exact .inr ⟨nothing, .inl rfl⟩
    · exact .inl rfl
  · cases decided

lemma decideUnknown_cases (decided : decideUnknown s (s.activeFacts now) now = some change) :
    Decision s now eligible change := by
  unfold decideUnknown at decided
  split at decided
  · cases decided
    exact .close .t7 _ _ (.inl rfl)
  · cases decided

lemma decideFallback_cases (incomplete : s.intent.effectiveStrategy = .orderedFallback →
      (factsOf (s.stamped now)).any RowFacts.completed = false)
    (decided : decideFallback s (s.activeFacts now) now eligible = some change) :
    Decision s now eligible change := by
  unfold decideFallback at decided
  split at decided
  next f strategy only =>
    have incomplete := incomplete strategy
    dsimp only at decided
    split at decided
    next next status found =>
      cases decided
      exact .advance f _ _ _ strategy only found (by simp [status]) (by simp [status]) incomplete
    next next status found =>
      split at decided
      · cases decided
      rename_i unpaid
      cases decided
      exact .advance f _ _ _ strategy only found (by simp [status])
        (fun _ => by simpa using unpaid) incomplete
    next _ _ status =>
      split at decided
      · split at decided
        next route _ found =>
          cases decided
          exact .advance f _ _ _ strategy only found
            (by simp [status]) (by simp [status]) incomplete
        split at decided
        · cases decided
          exact .close .t6 _ _ (.inl rfl)
        · cases decided
      · cases decided
    next status route found _ _ _ =>
      split at decided
      next waits =>
        cases decided
        have waiting : f.row.status.unclaimed = true := by
          simp only [Bool.and_eq_true] at waits
          exact waits.1.1
        exact .advance f _ _ _ strategy only found
          (by intro sending; rw [sending] at waiting; cases waiting)
          (by intro unknown; rw [unknown] at waiting; cases waiting) incomplete
      · cases decided
    · cases decided
  · cases decided

lemma decideSettled_cases (decided : decideSettled s (s.activeFacts now) now = some change) :
    Decision s now eligible change := by
  unfold decideSettled at decided
  split at decided
  · cases decided
    exact .close .t11 _ _ (.inl rfl)
  · cases decided

lemma decideBookkeeping_cases (decided : decideBookkeeping s now = some change) :
    Decision s now eligible change := by
  unfold decideBookkeeping at decided
  split at decided
  · cases decided
    exact .bookkeeping
  · cases decided

lemma decideIntent_cases (decided : decideIntent s now eligible = some change) :
    s.intent.state = .active ∧ Decision s now eligible change := by
  unfold decideIntent at decided
  split at decided
  · cases decided
  next active =>
  refine ⟨not_not.mp active, ?_⟩
  dsimp only at decided
  cases completion : decideCompletion s (factsOf (s.stamped now)) now with
  | some other =>
    rw [completion] at decided
    cases decided
    exact decideCompletion_cases completion
  | none =>
  rw [completion] at decided
  change (decideExpiry s now <|> _) = _ at decided
  cases expiry : decideExpiry s now with
  | some other =>
    rw [expiry] at decided
    cases decided
    exact decideExpiry_cases expiry
  | none =>
  rw [expiry] at decided
  change (decideUnknown s (s.activeFacts now) now <|> _) = _ at decided
  cases unknown : decideUnknown s (s.activeFacts now) now with
  | some other =>
    rw [unknown] at decided
    cases decided
    exact decideUnknown_cases unknown
  | none =>
  rw [unknown] at decided
  change (decideFallback s (s.activeFacts now) now eligible <|> _) = _ at decided
  cases fallback : decideFallback s (s.activeFacts now) now eligible with
  | some other =>
    rw [fallback] at decided
    cases decided
    refine decideFallback_cases ?_ fallback
    intro strategy
    unfold decideCompletion at completion
    by_contra completed
    simp [Bool.not_eq_false _ ▸ completed, strategy] at completion
  | none =>
  rw [fallback] at decided
  change (decideSettled s (s.activeFacts now) now <|> _) = _ at decided
  cases settled : decideSettled s (s.activeFacts now) now with
  | some other =>
    rw [settled] at decided
    cases decided
    exact decideSettled_cases settled
  | none =>
    rw [settled] at decided
    exact decideBookkeeping_cases decided

lemma Decision.expectVersion (decision : Decision s now eligible change) :
    change.expectVersion = s.intent.version := by
  cases decision with
  | close transition outcome reason _ => simp [closeWith, lookedAt]
  | improve _ _ => simp [lookedAt]
  | advance f next transition reason _ _ _ _ _ _ => simp [Intents.advance, lookedAt]
  | bookkeeping => simp [lookedAt]

inductive IntentChange.Shape (s : IntentSnapshot) (change : IntentChange) : Prop where
  | closes : change.close = true → change.retireAll = true → change.newRow = none → Shape s change
  | stays : change.close = false → change.newRow = none → Shape s change
  | advances (next : RoutePlanEntry) : change.close = false →
      change.newRow = some (buildRow s.intent next (s.intent.activeRound + 1)
        (maxAttemptNo s + 1)) → change.newActiveRound = s.intent.activeRound + 1 →
      change.retire = [s.intent.activeRound] → Shape s change

lemma Decision.shape (decision : Decision s now eligible change) : change.Shape s := by
  cases decision with
  | close transition outcome reason _ =>
    exact .closes (by simp [closeWith]) (by simp [closeWith]) (by simp [closeWith, lookedAt])
  | improve _ _ => exact .stays (by simp [lookedAt]) (by simp [lookedAt])
  | advance f next transition reason _ _ _ _ _ _ =>
    exact .advances next (by simp [Intents.advance, lookedAt])
      (by simp [Intents.advance]) (by simp [Intents.advance]) (by simp [Intents.advance])
  | bookkeeping => exact .stays (by simp [lookedAt]) (by simp [lookedAt])

lemma IntentChange.Shape.round (shape : change.Shape s) (added : change.newRow.isSome = true) :
    change.newActiveRound = s.intent.activeRound + 1 := by
  cases shape with
  | closes _ _ none | stays _ none =>
    rw [none] at added
    cases added
  | advances next _ _ round _ => exact round

section
variable {reason : String} (decided : decideCancel s now reason = some change)

include decided

lemma decideCancel_cases : s.intent.state = .active ∧ change.expectVersion = s.intent.version ∧
    change.transition = some .t13 ∧ change.stampAccepted = [] ∧ change.retireAll = true ∧
    change.retireStatus = some .cancelled ∧ change.newRow = none ∧ change.close = true ∧
    change.cancelReason ≠ "" ∧ change.possibleDuplicate = none ∧ ∃ outcome,
    ClosingOutcome s outcome ∧ change.setOutcome = some outcome := by
  unfold decideCancel at decided
  split at decided
  · cases decided
  rename_i active
  cases decided
  refine ⟨not_not.mp active, rfl, rfl, rfl, rfl, rfl, rfl, rfl, ?_, rfl, _, ?_, rfl⟩
  · dsimp only
    split
    · decide
    · assumption
  split
  next failed => exact .inr ⟨failed, .inr rfl⟩
  · exact .inl rfl

lemma decideCancel_shape : change.Shape s := by
  obtain ⟨_, _, _, _, retireAll, _, none, close, _⟩ := decideCancel_cases decided
  exact .closes close retireAll none

end

/-! ## Applying a decision -/

lemma loadSnapshot_eq_some (loaded : loadSnapshot db intentID = some snap) :
    db.intents.get? intentID = some snap.intent ∧
      snap.rows = orderBy MessageDelivery.attemptNo (db.rowsOf intentID) ∧
      snap.transmissions = orderBy DeliveryTransmission.attemptID
        (orderBy DeliveryTransmission.gen (db.transmissionsOf intentID)) ∧
      snap.evidence = orderBy DeliveryEvidence.id (db.evidenceOf intentID) := by
  unfold loadSnapshot at loaded
  obtain ⟨intent, found, rfl⟩ := Option.map_eq_some_iff.mp loaded
  exact ⟨found, rfl, rfl, rfl⟩

section
variable (change : IntentChange) (intentID : String)

def IntentChange.changedRow (row : MessageDelivery) : MessageDelivery :=
  let row := stampOne intentID change.stampAccepted row
  if change.retires intentID row then change.retireRow row else row

def IntentChange.changedRows (db : DB) : Table MessageDelivery.id :=
  (retireTx intentID change (stampAcceptedTx intentID change.stampAccepted db)).deliveries

lemma IntentChange.get?_changedRows (db : DB) (id : Nat) :
    (change.changedRows intentID db).get? id =
    (db.deliveries.get? id).map (change.changedRow intentID) := by
  simp only [IntentChange.changedRows, retireTx, stampAcceptedTx, get?_updateWhere, Option.map_map]
  rfl

end

structure Transitioned (intentID : String) (change : IntentChange)
    (transition : Transition) (now : Int) (db next : DB) : Prop where
  submissions : next.submissions = db.submissions
  transmissions : next.transmissions = db.transmissions
  evidence : next.evidence = db.evidence
  intents : next.intents = db.intents.update intentID
    fun intent => change.applyTo transition now (setClean intent)
  unchanged : change.newRow = none →
    next.deliveries = change.changedRows intentID db
  extended : ∀ row, change.newRow = some row → (∀ id other, db.deliveries.get? id = some other →
      other.intentID = row.intentID → other.attemptNo ≠ row.attemptNo) ∧
    next.deliveries = (change.changedRows intentID db).insertNext (storedAttempt row)
      (storedAttempt_id row)

section
variable (written : Transitioned intentID change transition now db next)

include written

lemma Transitioned.row_before {id : Nat} (found : next.deliveries.get? id = some row) :
    (∃ old, db.deliveries.get? id = some old ∧ row = change.changedRow intentID old) ∨ ∃ new,
    change.newRow = some new ∧ row = storedAttempt new id := by
  have kept (found : (change.changedRows intentID db).get? id = some row) :
      ∃ old, db.deliveries.get? id = some old ∧ row = change.changedRow intentID old := by
    rw [change.get?_changedRows] at found
    obtain ⟨old, oldFound, same⟩ := Option.map_eq_some_iff.mp found
    exact ⟨old, oldFound, same.symm⟩
  cases added : change.newRow with
  | none => exact .inl (kept (written.unchanged added ▸ found))
  | some new =>
    rw [(written.extended new added).2, get?_insertNext] at found
    split at found
    next isNew =>
      cases found
      exact .inr ⟨new, rfl, isNew ▸ rfl⟩
    · exact .inl (kept found)

lemma Transitioned.get?_extended (added : change.newRow = some new) (id : Nat) :
    next.deliveries.get? id = if id = db.deliveries.nextKey then
        some (storedAttempt new db.deliveries.nextKey)
      else (db.deliveries.get? id).map (change.changedRow intentID) := by
  rw [(written.extended new added).2, get?_insertNext, change.get?_changedRows]
  rfl

lemma Transitioned.self (found : db.intents.get? intentID = some intent) :
    next.intents.get? intentID = some (change.applyTo transition now (setClean intent)) := by
  rw [written.intents, get?_update_self, found]
  rfl

lemma Transitioned.other {other : String} (different : other ≠ intentID) :
    next.intents.get? other = db.intents.get? other := by
  rw [written.intents, get?_update_ne _ different]

end

/-- Every way a decision's transaction can end. -/
inductive Applied (intentID : String)
    (decide : IntentSnapshot → Option IntentChange) (now : Int) (db : DB) : DB → Prop where
  | nothing : Applied intentID decide now db db
  | looked {snap : IntentSnapshot} : loadSnapshot db intentID = some snap → decide snap = none →
      Applied intentID decide now db (db.clearDirty intentID)
  | noted {snap : IntentSnapshot} {change : IntentChange} :
      loadSnapshot db intentID = some snap → decide snap = some change → change.transition = none →
      Applied intentID decide now db
        { stampAcceptedTx intentID change.stampAccepted db with
          intents := db.intents.update intentID fun intent => change.note (setClean intent) }
  | transitioned {snap : IntentSnapshot} {change : IntentChange}
      {transition : Transition} {next : DB} :
      loadSnapshot db intentID = some snap → decide snap = some change →
      change.transition = some transition → Transitioned intentID change transition now db next →
      Applied intentID decide now db next

lemma changedRow_columns (change : IntentChange) (intentID : String) (row : MessageDelivery) :
    (change.changedRow intentID row).intentID = row.intentID ∧
    (change.changedRow intentID row).round = row.round ∧
    (change.changedRow intentID row).attemptNo = row.attemptNo ∧
    (change.changedRow intentID row).routeIndex = row.routeIndex ∧
    (change.changedRow intentID row).claimGen = row.claimGen := by
  have stamped : ∀ stamps, (stampOne intentID stamps row).intentID =
        row.intentID ∧ (stampOne intentID stamps row).round = row.round ∧
      (stampOne intentID stamps row).attemptNo = row.attemptNo ∧
      (stampOne intentID stamps row).routeIndex = row.routeIndex ∧
      (stampOne intentID stamps row).claimGen = row.claimGen := by
    intro stamps
    unfold stampOne
    split <;> exact ⟨rfl, rfl, rfl, rfl, rfl⟩
  unfold IntentChange.changedRow
  dsimp only
  split
  · exact stamped _
  · exact stamped _

lemma insertAttemptTx_ok (inserted : insertAttemptTx row db = .ok result) :
    row.intentID.isSome = true ∧ (∀ id other, db.deliveries.get? id = some other →
        other.intentID = row.intentID → other.attemptNo ≠ row.attemptNo) ∧
      result = (db.deliveries.nextKey, { db with
        deliveries := db.deliveries.insertNext (storedAttempt row) (storedAttempt_id row) }) := by
  unfold insertAttemptTx at inserted
  split at inserted
  · cases inserted
  rename_i owned
  split at inserted
  · cases inserted
  rename_i unique
  cases inserted
  refine ⟨?_, ?_, rfl⟩
  · cases owner : row.intentID with
    | none => simp [owner] at owned
    | some intentID => rfl
  intro id other found owner same
  apply unique
  rw [List.any_eq_true]
  exact ⟨other, mem_of_get? found, by simp [owner, same]⟩

lemma applyTransitionTx_ok (applied : applyTransitionTx intentID change transition now
      (stampAcceptedTx intentID change.stampAccepted (db.clearDirty intentID)) = .ok next) :
    Transitioned intentID change transition now db next := by
  obtain ⟨inserted, first, finished⟩ := bind_ok applied
  cases finished
  cases newRow : change.newRow with
  | none =>
    rw [newRow] at first
    cases first
    refine ⟨rfl, rfl, rfl, ?_, fun _ => rfl, ?_⟩
    · exact update_update _ _ setClean (change.applyTo transition now) (fun _ => rfl) (fun _ => rfl)
    intro row impossible
    rw [newRow] at impossible
    cases impossible
  | some row =>
    rw [newRow] at first
    obtain ⟨⟨id, stored⟩, insertion, done⟩ := bind_ok first
    cases done
    obtain ⟨owned, unique, written⟩ := insertAttemptTx_ok insertion
    cases written
    refine ⟨rfl, rfl, rfl, ?_, ?_, ?_⟩
    · exact update_update _ _ setClean (change.applyTo transition now) (fun _ => rfl) (fun _ => rfl)
    · intro impossible
      rw [newRow] at impossible
      cases impossible
    intro other same
    rw [newRow] at same
    cases same
    refine ⟨?_, rfl⟩
    intro id old found owner
    have stored : (change.changedRows intentID db).get? id =
        some (change.changedRow intentID old) := by
      rw [change.get?_changedRows, found]
      rfl
    have columns := changedRow_columns change intentID old
    rw [← columns.2.2.1]
    exact unique id _ stored (columns.1.trans owner)

lemma applyBookkeepingTx_eq (found : db.intents.get? intentID = some intent)
    (active : intent.state = .active) (change : IntentChange) (stamps : List (Nat × Int)) :
    applyBookkeepingTx intentID change (stampAcceptedTx intentID stamps (db.clearDirty intentID)) =
      { stampAcceptedTx intentID stamps db with
        intents := db.intents.update intentID fun intent => change.note (setClean intent) } := by
  have cleaned : (db.intents.update intentID setClean).get? intentID = some (setClean intent) := by
    rw [get?_update_self, found]
    rfl
  have named : intent.id = intentID := key_of_get? found
  have same := updateWhere_eq_update cleaned
    (fun intent => intent.id = intentID && intent.state = .active)
    (by simp [setClean, named, active]) (by intro other chosen; simp at chosen; exact chosen.1)
    change.note (fun _ => rfl)
  have twice := update_update db.intents intentID setClean change.note (fun _ => rfl) (fun _ => rfl)
  exact congrArg (fun intents => { stampAcceptedTx intentID stamps db with intents })
    (same.trans twice)

lemma applyIntentChange_applied (intentID : String)
    (decide : IntentSnapshot → Option IntentChange) (now : Int) (db : DB)
    (current : ∀ snap change, decide snap = some change → snap.intent.state = .active ∧
        change.expectVersion = snap.intent.version) : Applied intentID decide now db
      (applyIntentChange intentID decide now db).2 := by
  unfold applyIntentChange
  rcases withTx_cases (applyIntentChangeTx intentID decide now) db with
    ⟨error, _, failed⟩ | ⟨result, next, succeeded, written⟩
  · rw [failed]
    exact .nothing
  rw [written]
  unfold applyIntentChangeTx at succeeded
  cases loaded : loadSnapshot db intentID with
  | none => simp [loaded] at succeeded
  | some snap =>
    simp only [loaded] at succeeded
    cases decided : decide snap with
    | none =>
      simp only [decided] at succeeded
      cases succeeded
      exact .looked loaded decided
    | some change =>
      obtain ⟨active, version⟩ := current snap change decided
      simp only [decided] at succeeded
      cases transition : change.transition with
      | none =>
        simp only [transition] at succeeded
        cases succeeded
        rw [applyBookkeepingTx_eq (loadSnapshot_eq_some loaded).1 active]
        exact .noted loaded decided transition
      | some transition =>
        simp only [transition, version, active, decide_true, Bool.and_self, if_true] at succeeded
        obtain ⟨applied, first, finished⟩ := bind_ok succeeded
        cases finished
        exact .transitioned loaded decided transition (applyTransitionTx_ok first)

lemma evaluate_applied (intentID : String) (elapsed : Int)
    (eligible : Nat → Bool) (now : Int) (db : DB) :
    Applied intentID (fun s => decideIntent s elapsed eligible) now db
      ((Op.evaluate intentID elapsed eligible now).run db) := by
  apply applyIntentChange_applied
  intro snap change decided
  obtain ⟨active, decision⟩ := decideIntent_cases decided
  exact ⟨active, decision.expectVersion⟩

lemma cancel_applied (intentID : String) (elapsed : Int) (reason : String) (now : Int) (db : DB) :
    Applied intentID (fun s => decideCancel s elapsed reason) now db
      ((Op.cancel intentID elapsed reason now).run db) := by
  apply applyIntentChange_applied
  intro snap change decided
  obtain ⟨active, version, _⟩ := decideCancel_cases decided
  exact ⟨active, version⟩

structure Reviewed (intentID : String) (db : DB) (snap : IntentSnapshot) (next : DB) : Prop where
  loaded : loadSnapshot db intentID = some snap
  closed : snap.intent.state = .closed
  written : next = { db with
    intents := db.intents.update intentID
      (reviewedIntent (closedOutcome snap) (possibleDuplicate snap)
        (outcomeStrength snap.intent.outcome < outcomeStrength (closedOutcome snap) ||
          correctsAcceptance (closedOutcome snap) snap.intent.outcome))
      (reviewedIntent_id _ _ _) }

lemma evaluateClosed_cases (intentID : String) (db : DB) : (evaluateClosed intentID db).2 = db ∨
    ∃ snap, Reviewed intentID db snap (evaluateClosed intentID db).2 := by
  unfold evaluateClosed reviewClosedIntent withTx reviewClosedIntentTx
  cases loaded : loadSnapshot db intentID with
  | none => exact .inl rfl
  | some snap =>
    by_cases closed : snap.intent.state = .closed
    · right
      refine ⟨snap, loaded, closed, ?_⟩
      simp [closed]
    left
    simp [closed]

end MeshSat.Intents
