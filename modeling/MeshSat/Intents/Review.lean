import MeshSat.Intents.Marks
import MeshSat.Intents.NoResend

/-!
# Reviewing closed intents

An intent is closed with the outcome its record has at that moment. Whatever
comes later marks it, and a review brings the outcome up to date. The mark is
lost in one way: a decision that read the intent while it was active clears
the mark in its transaction even if the intent was closed in between, and then
decides nothing.
-/

namespace MeshSat.Intents

open Library TransitionSystem Table IntentChange DeliveryIntent

/-! ## Outcomes -/

/-- No decision taken of an active intent is applied to one that is closed and
marked in the meantime. -/
def looksFresh (db : DB) : Op → Bool
  | .evaluate intentID _ _ _ | .cancel intentID _ _ _ =>
    (db.intents.get? intentID).all fun intent =>
      !(intent.state = .closed && intent.dirty)
  | _ => true

variable {db : DB} {op : Op} {intentID : String}

lemma looksFresh_clean (fresh : looksFresh db op = true) (looks : op.looksAt intentID = true)
    (found : db.intents.get? intentID = some intent)
    (closed : intent.state = .closed) : intent.dirty = false := by
  cases op with
  | evaluate looked _ _ _ | cancel looked _ _ _ =>
    have same : looked = intentID := by simpa [Op.looksAt] using looks
    subst same
    simpa [looksFresh, found, closed] using fresh
  | _ => cases looks

/-- The change that the transaction chooses for an intent it read. -/
inductive Chosen (intentID : String) (snap : IntentSnapshot) : Op → IntentChange → Prop where
  | evaluated {elapsed : Int} {eligible : Nat → Bool} {now : Int} {change : IntentChange} :
      decideIntent snap elapsed eligible = some change →
      Chosen intentID snap (.evaluate intentID elapsed eligible now) change
  | cancelled {elapsed : Int} {reason : String} {now : Int} {change : IntentChange} :
      decideCancel snap elapsed reason = some change →
      Chosen intentID snap (.cancel intentID elapsed reason now) change

variable {snap : IntentSnapshot}

lemma Chosen.looks (chosen : Chosen intentID snap op change) : op.looksAt intentID = true := by
  cases chosen with
  | evaluated _ => exact decide_eq_true rfl
  | cancelled _ => exact decide_eq_true rfl

/-- What a transaction may do to an intent, as far as its state, outcome, flag
and mark go. -/
inductive Judged (db : DB) (op : Op) (intentID : String)
    (intent : DeliveryIntent) : DeliveryIntent → Prop where
  | left {later : DeliveryIntent} : later.state = intent.state → later.outcome = intent.outcome →
      later.possibleDuplicate = intent.possibleDuplicate →
      (later.dirty = false → intent.dirty = false) → Judged db op intentID intent later
  | looked : op.looksAt intentID = true → Judged db op intentID intent (setClean intent)
  | noted {snap : IntentSnapshot} {change : IntentChange} :
      loadSnapshot db intentID = some snap → snap.intent = intent →
      Chosen intentID snap op change → change.transition = none →
      Judged db op intentID intent (change.note (setClean intent))
  | changed {snap : IntentSnapshot} {change : IntentChange} {transition : Transition} {now : Int} :
      loadSnapshot db intentID = some snap → snap.intent = intent →
      Chosen intentID snap op change → change.transition = some transition →
      Judged db op intentID intent (change.applyTo transition now (setClean intent))
  | reviewed {snap : IntentSnapshot} : loadSnapshot db intentID = some snap → snap.intent = intent →
      intent.state = .closed → Judged db op intentID intent
        (reviewedIntent (closedOutcome snap) (possibleDuplicate snap)
          (outcomeStrength intent.outcome < outcomeStrength (closedOutcome snap) ||
            correctsAcceptance (closedOutcome snap) intent.outcome) intent)

section
variable {op : Op} {db next : DB} {intentID : String} {intent later : DeliveryIntent}

lemma Judged.of_same (same : later = intent) : Judged db op intentID intent later := by
  subst same
  exact .left rfl rfl rfl id

lemma Judged.of_get? (found : db.intents.get? intentID = some intent)
    (after : next.intents.get? intentID = some later) (same : next.intents = db.intents) :
    Judged db op intentID intent later := by
  rw [same, found] at after
  cases after
  exact .of_same rfl

/-- A write that keeps the state, the outcome and the flag, and does not take
a mark away. -/
lemma Judged.of_update (change : DeliveryIntent → DeliveryIntent)
    (keeps : ∀ intent, (change intent).id = intent.id)
    (written : next.intents = db.intents.updateWhere selected change keeps)
    (kept : ∀ intent, (change intent).state = intent.state ∧
      (change intent).outcome = intent.outcome ∧
      (change intent).possibleDuplicate = intent.possibleDuplicate)
    (mark : ∀ intent, (change intent).dirty = false → intent.dirty = false)
    (found : db.intents.get? intentID = some intent)
    (after : next.intents.get? intentID = some later) : Judged db op intentID intent later := by
  rw [written, get?_updateWhere, found, Option.map_some, Option.some.injEq] at after
  subst after
  split
  · obtain ⟨state, outcome, flag⟩ := kept intent
    exact .left state outcome flag (mark intent)
  · exact .of_same rfl

lemma Reported.judged (reported : Reported db next) (found : db.intents.get? intentID = some intent)
    (after : next.intents.get? intentID = some later) : Judged db op intentID intent later := by
  cases reported with
  | nothing | unmatched _ _ _ => exact .of_get? found after rfl
  | matched _ _ _ t _ _ _ =>
    exact .of_update setDirty (fun _ => rfl) rfl
      (fun _ => ⟨rfl, rfl, rfl⟩) (fun _ clean => by cases clean) found after

section
variable {evaluated : String} {decide : IntentSnapshot → Option IntentChange} {now : Int}
  (applied : Applied evaluated decide now db next)

include applied

lemma Applied.other (different : intentID ≠ evaluated) :
    next.intents.get? intentID = db.intents.get? intentID := by
  cases applied with
  | nothing => rfl
  | looked _ _ | noted _ _ _ => simp only [DB.clearDirty, get?_update_ne _ different]
  | transitioned _ _ _ written => exact written.other different

lemma Applied.judged (looks : op.looksAt evaluated = true)
    (chosen : ∀ snap change, decide snap = some change → Chosen evaluated snap op change)
    (found : db.intents.get? intentID = some intent)
    (after : next.intents.get? intentID = some later) : Judged db op intentID intent later := by
  by_cases same : intentID = evaluated
  · subst same
    have current {snap : IntentSnapshot} (loaded : loadSnapshot db intentID = some snap) :
        snap.intent = intent :=
      Option.some.inj ((loadSnapshot_eq_some loaded).1.symm.trans found)
    cases applied with
    | nothing => exact .of_get? found after rfl
    | looked _ _ =>
      simp only [DB.clearDirty, get?_update_self, found,
        Option.map_some, Option.some.injEq] at after
      subst after
      exact .looked looks
    | @noted snap change loaded decided quiet =>
      simp only [get?_update_self, found, Option.map_some, Option.some.injEq] at after
      subst after
      exact .noted loaded (current loaded) (chosen snap change decided) quiet
    | @transitioned snap change _ _ loaded decided moves written =>
      rw [written.self found] at after
      cases after
      exact .changed loaded (current loaded) (chosen snap change decided) moves
  rw [applied.other same, found] at after
  cases after
  exact .of_same rfl

end

lemma Reviewed.judged (reviewed : Reviewed looked db snap next)
    (found : db.intents.get? intentID = some intent)
    (after : next.intents.get? intentID = some later) : Judged db op intentID intent later := by
  rw [reviewed.written] at after
  by_cases same : intentID = looked
  · subst same
    have current := (loadSnapshot_eq_some reviewed.loaded).1
    rw [found] at current
    cases current
    simp only [get?_update_self, found, Option.map_some, Option.some.injEq] at after
    subst after
    exact .reviewed reviewed.loaded rfl reviewed.closed
  simp only [get?_update_ne _ same, found, Option.some.injEq] at after
  exact .of_same after.symm

lemma Op.judged (found : db.intents.get? intentID = some intent)
    (after : (op.run db).intents.get? intentID = some later) :
    Judged db op intentID intent later := by
  have effect := op.effect db
  generalize op.run db = next at effect after
  cases effect with
  | created created =>
    rcases created.intents.forward intentID intent found with
      ⟨other, kept, same⟩ | ⟨_, none⟩
    · rw [kept] at after
      cases after
      exact .of_same same.symm
    · exact none.elim
  | @authorized _ _ _ _ minor _ _ _ granted =>
    exact .of_update (reserveMinor minor) (fun _ => rfl)
      (by rw [granted.written]; rfl) (fun _ => ⟨rfl, rfl, rfl⟩) (fun _ clean => clean) found after
  | @finalized _ r _ t _ finalized =>
    exact .of_update (settleIntent t r) (fun _ => rfl) finalized.intents
      (fun _ => ⟨rfl, rfl, rfl⟩) (fun _ clean => by cases clean) found after
  | evaluated applied =>
    exact applied.judged (by simp [Op.looksAt]) (fun _ _ decided => .evaluated decided) found after
  | cancelled applied =>
    exact applied.judged (by simp [Op.looksAt]) (fun _ _ decided => .cancelled decided) found after
  | reviewed reviewed => exact reviewed.judged found after
  | reported reported => exact reported.judged found after
  | @clock _ elapsed =>
    exact .of_update (fun intent => { intent with elapsedMs := elapsed intent.elapsedMs })
      (fun _ => rfl) rfl (fun _ => ⟨rfl, rfl, rfl⟩) (fun _ clean => clean) found after
  | pruned =>
    simp only [pruneClosedIntents, get?_deleteWhere, found,
      Option.filter_eq_some_iff, Option.some.injEq] at after
    exact .of_same after.1.symm
  | nothing | claimed _ _ | handedOff _ _ | ended _ _ _ | proofExpected
  | rows _ => exact .of_get? found after rfl

end

inductive OutcomeStep (db : DB) (op : Op) (intentID : String)
    (intent later : DeliveryIntent) : Prop where
  | kept : later.outcome = intent.outcome → later.state = intent.state →
      (intent.state = .closed → later.dirty = false →
        intent.dirty = false ∨ op.looksAt intentID = true) → OutcomeStep db op intentID intent later
  | decided (snap : IntentSnapshot) : op.looksAt intentID = true →
      loadSnapshot db intentID = some snap → intent.state = .active →
      ClosingOutcome snap later.outcome → OutcomeStep db op intentID intent later
  | reviewed (snap : IntentSnapshot) :
      loadSnapshot db intentID = some snap → intent.state = .closed →
      later.outcome = (if outcomeStrength intent.outcome < outcomeStrength (closedOutcome snap) ||
          correctsAcceptance (closedOutcome snap) intent.outcome then
        closedOutcome snap else intent.outcome) → OutcomeStep db op intentID intent later

/-- A decision sets the outcome the rule gives, or leaves it. -/
def IntentChange.Outcomes (snap : IntentSnapshot) (change : IntentChange) : Prop :=
  change.setOutcome = none ∧ change.close = false ∨
    ∃ outcome, ClosingOutcome snap outcome ∧ change.setOutcome = some outcome

variable {snap : IntentSnapshot} {change : IntentChange} {op : Op} {db : DB}
  {intent : DeliveryIntent}

lemma Decision.outcomes (decision : Decision snap now eligible change) : change.Outcomes snap := by
  cases decision with
  | close transition outcome reason closing => exact .inr ⟨outcome, closing, by simp [closeWith]⟩
  | improve _ _ => exact .inr ⟨outcomeRule snap, .inl rfl, by simp⟩
  | advance f next transition reason _ _ _ _ _ _ =>
    exact .inl ⟨by simp [Intents.advance, lookedAt], by simp [Intents.advance, lookedAt]⟩
  | bookkeeping => exact .inl ⟨by simp [lookedAt], by simp [lookedAt]⟩

lemma Chosen.outcomes (chosen : Chosen intentID snap op change) :
    snap.intent.state = .active ∧ change.Outcomes snap := by
  cases chosen with
  | evaluated decided =>
    obtain ⟨active, decision⟩ := decideIntent_cases decided
    exact ⟨active, decision.outcomes⟩
  | cancelled decided =>
    obtain ⟨active, _, _, _, _, _, _, _, _, _, closes⟩ := decideCancel_cases decided
    exact ⟨active, .inr closes⟩

lemma Op.outcomeStep (found : db.intents.get? intentID = some intent)
    (after : (op.run db).intents.get? intentID = some later) :
    OutcomeStep db op intentID intent later := by
  cases Op.judged found after with
  | left state outcome _ mark => exact .kept outcome state fun _ clean => .inl (mark clean)
  | looked looks => exact .kept rfl rfl fun _ _ => .inr looks
  | noted _ _ chosen _ => exact .kept rfl rfl fun _ _ => .inr chosen.looks
  | @changed snap change _ _ loaded current chosen _ =>
    obtain ⟨active, outcomes⟩ := chosen.outcomes
    rcases outcomes with ⟨none, stays⟩ | ⟨outcome, closing, set⟩
    · refine .kept ?_ ?_ fun _ _ => .inr chosen.looks
      · simp only [applyTo, none]
        rfl
      simp only [applyTo, stays]
      rfl
    refine .decided snap chosen.looks loaded (current ▸ active) ?_
    simpa only [applyTo, set, Option.getD_some] using closing
  | @reviewed snap loaded _ closed =>
    refine .reviewed snap loaded closed ?_
    unfold reviewedIntent
    split <;> rfl

lemma NewIntentRow.outcome (enabled : op.Enabled db) (new : NewIntentRow op intent) :
    intent.state = .active ∧ intent.outcome = .pending ∨ intent.outcome = .failed := by
  obtain ⟨sub, intents, rfl, prepared, member, rfl⟩ := new
  cases enabled prepared member with
  | routed routed =>
    left
    rw [(prepareIntent_ok routed).1]
    exact ⟨rfl, rfl⟩
  | refused => exact .inr rfl

lemma NewIntentRow.not_completed (enabled : op.Enabled db)
    (new : NewIntentRow op intent) : outcomeStrength intent.outcome ≠ 4 := by
  rcases new.outcome enabled with ⟨_, pending⟩ | failed
  · rw [pending]
    decide
  rw [failed]
  decide

/-! ## Completions -/

section
variable {op : Op} {db : DB} {intentID : String} {later : DeliveryIntent}

lemma DB.Completed.step (completed : db.Completed intentID)
    (kept : (op.run db).intents.get? intentID = some later) : (op.run db).Completed intentID := by
  obtain ⟨id, ev, found, owner, completes⟩ := completed
  exact ⟨id, ev, (op.evidenceKept db intentID).kept id ev found
    (isCompletion_iff.mp completes).1 owner ⟨later, kept⟩, owner, completes⟩

variable {completion : Completion}

lemma DB.FirstIs.step (first : db.FirstIs intentID completion)
    (kept : (op.run db).intents.get? intentID = some later) (inOrder : matchesInOrder db op = true)
    (given : op.looksAt intentID = true ∨ (db.intents.get? intentID).any answered = true) :
    (op.run db).FirstIs intentID completion := by
  have evidence := op.evidenceKept db intentID
  obtain ⟨id, ev, found, owner, isMatched, completes, least⟩ := first
  refine ⟨id, ev, evidence.kept id ev found isMatched owner ⟨later, kept⟩,
    owner, isMatched, completes, ?_⟩
  intro otherID other otherFound otherOwner holds
  rcases evidence.news otherID other otherFound (isCompletion_iff.mp holds).1
    otherOwner with old | news
  · exact least otherID other old otherOwner holds
  have below := lt_nextKey (used_of_get? found)
  have above := news.order inOrder given holds
  omega

variable {outcome : Outcome}

lemma ClosingOutcome.first (closing : ClosingOutcome snap outcome)
    (loaded : loadSnapshot db intentID = some snap) (first : db.FirstIs intentID completion) :
    outcome = completion.outcome := by
  have rule := outcomeRule_first ((firstCompletion_iff loaded).mpr first)
  rcases closing with same | ⟨failed, _⟩
  · exact same.trans rule
  rw [rule] at failed
  cases completion <;> cases failed

lemma closedOutcome_closing (snap : IntentSnapshot) : ClosingOutcome snap (closedOutcome snap) := by
  unfold closedOutcome
  split
  next failed =>
    split
    · exact .inr ⟨failed, .inr rfl⟩
    split
    · exact .inr ⟨failed, .inl rfl⟩
    · exact .inl failed.symm
  · exact .inl rfl

lemma ClosingOutcome.firstIs
    (closing : ClosingOutcome snap outcome) (loaded : loadSnapshot db intentID = some snap)
    (strength : outcomeStrength outcome = 4) : ∃ completion, outcome = completion.outcome ∧
      db.FirstIs intentID completion := by
  rw [closing.strength] at strength
  obtain ⟨completion, first⟩ := outcomeRule_completion strength
  have isFirst := (firstCompletion_iff loaded).mp first
  exact ⟨completion, closing.first loaded isFirst, isFirst⟩

end

/-- Transmissions and matched evidence belong to intents that were stored, and
an outcome of completion strength has its evidence. -/
structure Recorded (db : DB) : Prop where
  known : db.Known
  transmissions : ∀ txID t, db.transmissions.get? txID = some t → t.intentID ∈ db.intents.used
  evidence : ∀ id ev intentID, db.evidence.get? id = some ev →
    ev.matched = true → ev.intentID = some intentID → intentID ∈ db.intents.used
  completed : ∀ intentID intent, db.intents.get? intentID = some intent →
    outcomeStrength intent.outcome = 4 → db.Completed intentID

lemma Recorded.empty : Recorded .empty where
  known := .empty
  transmissions _ _ found := by cases found
  evidence _ _ _ found := by cases found
  completed _ _ found := by cases found

lemma Recorded.unused (recorded : Recorded db) (unused : intentID ∉ db.intents.used) :
    SameRecord (db.evidenceOf intentID) [] (db.transmissionsOf intentID) [] := by
  constructor
  · intro ev isMatched
    refine ⟨fun member => ?_, fun none => by cases none⟩
    obtain ⟨found, owner⟩ := DB.mem_evidenceOf.mp member
    exact (unused (recorded.evidence ev.id ev intentID found isMatched owner)).elim
  · intro t member
    obtain ⟨found, rfl⟩ := DB.mem_transmissionsOf.mp member
    exact (unused (recorded.transmissions t.id t found)).elim
  intro t none
  cases none

lemma OutcomeStep.completed (step : OutcomeStep db op intentID intent later)
    (before : outcomeStrength intent.outcome = 4 → db.Completed intentID)
    (strength : outcomeStrength later.outcome = 4) : db.Completed intentID := by
  cases step with
  | kept same _ _ => exact before (same ▸ strength)
  | decided snap looks loaded _ closing =>
    rw [closing.strength, strength_snapshot loaded] at strength
    exact DB.recordStrength_eq_four.mp strength
  | reviewed snap loaded _ written =>
    rw [written] at strength
    split at strength
    · rw [strength_closedOutcome, strength_snapshot loaded] at strength
      exact DB.recordStrength_eq_four.mp strength
    · exact before strength

lemma Recorded.step (recorded : Recorded db) (enabled : op.Enabled db) : Recorded (op.run db) where
  known := recorded.known.step enabled
  transmissions txID t found := by
    apply (op.intentsStep _).used
    rcases (op.transmissionsStep db).backward txID t found with
      ⟨old, before, step⟩ | ⟨_, new⟩
    · rw [step.intentID]
      exact recorded.transmissions txID old before
    obtain ⟨row, rowFound, _, _, owner⟩ := new.claim
    exact recorded.known _ row _ rowFound owner
  evidence id ev intentID found isMatched owner := by
    apply (op.intentsStep _).used
    rcases (op.evidenceKept db intentID).news id ev found isMatched owner with
      old | news
    · exact recorded.evidence id ev intentID old isMatched owner
    obtain ⟨txID, t, txFound, rfl⟩ := news.sent
    exact recorded.transmissions txID t txFound
  completed intentID later after strength := by
    rcases (op.intentsStep _).backward intentID later after with
      ⟨intent, found, _⟩ | ⟨_, new⟩
    · exact ((Op.outcomeStep found after).completed
        (recorded.completed intentID intent found) strength).step after
    · exact (new.not_completed enabled strength).elim

/-! ## Closed intents -/

/-- The outcome of a closed intent that nothing marks, and whose transmissions
are done, is as strong as what is recorded. -/
def UpToDate (db : DB) : Prop :=
  ∀ intentID intent, db.intents.get? intentID = some intent →
    intent.state = .closed → intent.dirty = false → db.AllDone intentID →
    outcomeStrength intent.outcome = db.recordStrength intentID

variable {current best : Outcome}

lemma strength_of_unchanged (stays : ¬(outcomeStrength current < outcomeStrength best ||
      correctsAcceptance best current) = true) (answered : 1 ≤ outcomeStrength best)
    (completed : outcomeStrength current = 4 → outcomeStrength best = 4) :
    outcomeStrength current = outcomeStrength best := by
  cases current <;> cases best <;> simp_all [outcomeStrength, correctsAcceptance]

lemma UpToDate.step (upToDate : UpToDate db) (recorded : Recorded db) (enabled : op.Enabled db)
    (fresh : looksFresh db op = true) : UpToDate (op.run db) := by
  intro intentID later after closed clean done
  obtain ⟨doneBefore, record⟩ := Op.record_still after clean done
  rw [DB.recordStrength, ← record.strength]
  change _ = db.recordStrength intentID
  rcases (op.intentsStep _).backward intentID later after with
    ⟨intent, found, _⟩ | ⟨unused, new⟩
  · cases Op.outcomeStep found after with
    | kept outcome state mark =>
      rw [state] at closed
      have unmarked : intent.dirty = false := by
        rcases mark closed clean with unmarked | looks
        · exact unmarked
        · exact looksFresh_clean fresh looks found closed
      rw [outcome]
      exact upToDate intentID intent found closed unmarked doneBefore
    | decided snap looks loaded _ closing => rw [closing.strength, strength_snapshot loaded]
    | reviewed snap loaded _ written =>
      have best : outcomeStrength (closedOutcome snap) = db.recordStrength intentID := by
        rw [strength_closedOutcome, strength_snapshot loaded]
      rw [written, ← best]
      split
      · rfl
      rename_i stays
      apply strength_of_unchanged stays
      · rw [best]
        exact db.recordStrength_pos intentID
      intro strength
      rw [best]
      exact DB.recordStrength_eq_four.mpr (recorded.completed intentID intent found strength)
  rw [DB.recordStrength, (recorded.unused unused).strength, recordStrength_nothing]
  rcases new.outcome enabled with ⟨active, _⟩ | failed
  · rw [active] at closed
    cases closed
  rw [failed]
  rfl

/-! ## Runs -/

lemma completion_unreplaced (strength : outcomeStrength current = 4) :
    (outcomeStrength current < outcomeStrength best ||
      correctsAcceptance best current) = false := by
  have bounded : outcomeStrength best ≤ 4 := by cases best <;> decide
  have kept : correctsAcceptance best current = false := by
    cases current <;> first | rfl | cases strength
  simp only [kept, strength, Bool.or_false, decide_eq_false_iff_not]
  omega

/-- The intent has the outcome of a completion, which is the first one as long
as the intent is active. -/
structure Names (db : DB) (intentID : String) (completion : Completion)
    (intent : DeliveryIntent) : Prop where
  outcome : intent.outcome = completion.outcome
  first : intent.state = .active → db.FirstIs intentID completion

section
variable {op : Op} {db : DB} {intentID : String} {intent later : DeliveryIntent}

section
variable {completion : Completion} (names : Names db intentID completion intent)

include names

lemma Names.strength : outcomeStrength intent.outcome = 4 := by
  rw [names.outcome]
  exact outcomeStrength_completion completion

lemma Names.step
    (inOrder : matchesInOrder db op = true) (found : db.intents.get? intentID = some intent)
    (after : (op.run db).intents.get? intentID = some later) :
    Names (op.run db) intentID completion later := by
  have closes := (Op.intent_after found after).closed
  have first (active : intent.state = .active) : (op.run db).FirstIs intentID completion := by
    refine (names.first active).step after inOrder (.inr ?_)
    simp [found, answered, active, names.strength]
  have wasActive (active : later.state = .active) : intent.state = .active := by
    cases state : intent.state with
    | active => rfl
    | closed =>
      rw [closes state] at active
      cases active
  refine ⟨?_, fun active => first (wasActive active)⟩
  cases Op.outcomeStep found after with
  | kept same _ _ => exact same.trans names.outcome
  | decided snap _ loaded active closing => exact closing.first loaded (names.first active)
  | reviewed snap _ _ written =>
    rw [completion_unreplaced names.strength, if_neg Bool.false_ne_true] at written
    exact written.trans names.outcome

end

/-- An outcome that becomes one of completion strength is the first
completion's. -/
lemma OutcomeStep.names (step : OutcomeStep db op intentID intent later)
    (inOrder : matchesInOrder db op = true) (found : db.intents.get? intentID = some intent)
    (after : (op.run db).intents.get? intentID = some later)
    (before : outcomeStrength intent.outcome ≠ 4) (strength : outcomeStrength later.outcome = 4) :
    ∃ completion, Names (op.run db) intentID completion later := by
  cases step with
  | kept same _ _ =>
    rw [same] at strength
    exact (before strength).elim
  | decided snap looks loaded _ closing =>
    obtain ⟨completion, same, first⟩ := closing.firstIs loaded strength
    exact ⟨completion, same, fun _ => first.step after inOrder (.inl looks)⟩
  | reviewed snap loaded closed written =>
    have isClosed := (Op.intent_after found after).closed closed
    have upgraded : later.outcome = closedOutcome snap := by
      rw [written]
      apply if_pos
      by_contra stays
      rw [written, if_neg stays] at strength
      exact before strength
    rw [upgraded] at strength
    obtain ⟨completion, same, _⟩ := (closedOutcome_closing snap).firstIs loaded strength
    refine ⟨completion, upgraded.trans same, fun active => ?_⟩
    rw [isClosed] at active
    cases active

end

def AllNamed (db : DB) : Prop :=
  ∀ intentID intent, db.intents.get? intentID = some intent → outcomeStrength intent.outcome = 4 →
    ∃ completion, Names db intentID completion intent

variable {db : DB} {intentID : String} {intent : DeliveryIntent} {property : DeliveryIntent → Prop}

lemma AllNamed.step (named : AllNamed db) (enabled : op.Enabled db)
    (inOrder : matchesInOrder db op = true) : AllNamed (op.run db) := by
  intro intentID later after strength
  rcases (op.intentsStep _).backward intentID later after with
    ⟨intent, found, _⟩ | ⟨_, new⟩
  · by_cases before : outcomeStrength intent.outcome = 4
    · obtain ⟨completion, names⟩ := named intentID intent found before
      exact ⟨completion, names.step inOrder found after⟩
    · exact (Op.outcomeStep found after).names inOrder found after before strength
  · exact (new.not_completed enabled strength).elim

/-- The intent, as long as it is kept, has the property. -/
def DB.Still (db : DB) (intentID : String) (property : DeliveryIntent → Prop) : Prop :=
  intentID ∈ db.intents.used ∧ ∀ intent, db.intents.get? intentID = some intent → property intent

lemma DB.Still.start (found : db.intents.get? intentID = some intent)
    (holds : property intent) : db.Still intentID property := by
  refine ⟨used_of_get? found, fun other otherFound => ?_⟩
  rw [found] at otherFound
  cases otherFound
  exact holds

lemma DB.Still.step (still : db.Still intentID property)
    (keeps : ∀ intent later, db.intents.get? intentID = some intent →
      (op.run db).intents.get? intentID = some later → property intent → laterProperty later) :
    (op.run db).Still intentID laterProperty := by
  refine ⟨(op.intentsStep _).used _ still.1, fun later after => ?_⟩
  rcases (op.intentsStep _).backward intentID later after with
    ⟨intent, found, _⟩ | ⟨unused, _⟩
  · exact keeps intent later found after (still.2 intent found)
  · exact (unused still.1).elim

variable {start finish : DB}

/-- In an order in which nothing completes an active intent by evidence older
than what completed it first, a completion is never replaced. -/
lemma AllNamed.run (run : LedgerRun (fun db op => matchesInOrder db op = true) start finish)
    (named : AllNamed start) (found : start.intents.get? intentID = some intent)
    (strength : outcomeStrength intent.outcome = 4) :
    finish.Still intentID fun kept => kept.outcome = intent.outcome := by
  obtain ⟨completion, names⟩ := named intentID intent found strength
  have kept : finish.Still intentID (Names finish intentID completion) := by
    refine run.preserves (fun db => db.Still intentID (Names db intentID completion)) ?_
      (.start found names)
    intro db op still _ inOrder
    exact still.step fun old later oldFound after names =>
      names.step inOrder oldFound after
  refine ⟨kept.1, fun later laterFound => ?_⟩
  exact (kept.2 later laterFound).outcome.trans names.outcome.symm

/-- Whatever happens, a completion is replaced at most by a completion, and
not once the intent is closed. -/
lemma Recorded.run (run : LedgerRun anyOp start finish)
    (recorded : Recorded start) (found : start.intents.get? intentID = some intent)
    (strength : outcomeStrength intent.outcome = 4) :
    finish.Still intentID fun kept => outcomeStrength kept.outcome = 4 ∧ (intent.state = .closed →
        kept.state = .closed ∧ kept.outcome = intent.outcome) := by
  have kept : Recorded finish ∧ finish.Still intentID fun kept =>
      outcomeStrength kept.outcome = 4 ∧ (intent.state = .closed →
        kept.state = .closed ∧ kept.outcome = intent.outcome) := by
    refine run.preserves (fun db => Recorded db ∧ db.Still intentID fun kept =>
      outcomeStrength kept.outcome = 4 ∧ (intent.state = .closed →
        kept.state = .closed ∧ kept.outcome = intent.outcome)) ?_
      ⟨recorded, .start found ⟨strength, fun closed => ⟨closed, rfl⟩⟩⟩
    rintro db op ⟨recorded, still⟩ enabled _
    refine ⟨recorded.step enabled, still.step ?_⟩
    rintro old later oldFound after ⟨strong, same⟩
    have record : db.recordStrength intentID = 4 :=
      DB.recordStrength_eq_four.mpr (recorded.completed intentID old oldFound strong)
    cases Op.outcomeStep oldFound after with
    | kept outcome state _ =>
      rw [outcome, state]
      exact ⟨strong, same⟩
    | decided snap looks loaded active closing =>
      rw [closing.strength, strength_snapshot loaded]
      refine ⟨record, fun closed => ?_⟩
      rw [(same closed).1] at active
      cases active
    | reviewed snap _ closed written =>
      rw [completion_unreplaced strong, if_neg Bool.false_ne_true] at written
      rw [written]
      refine ⟨strong, fun wasClosed => ⟨?_, (same wasClosed).2⟩⟩
      exact (Op.intent_after oldFound after).closed closed
  exact kept.2

/-- The outcome of a closed intent is durable.

In every run in which no decision taken of an active intent reaches its
transaction after the intent was closed and marked, a closed intent that
nothing marks, and whose transmissions are all done, has an outcome exactly as
strong as the one its record gives now. In every run in which no finalization
completes, by evidence stored before, an active intent that has the outcome of
a completion, an outcome of completion strength is never replaced. In every
run at all it is replaced at most by another completion, and by none once the
intent is closed. -/
theorem closed_outcomes_reviewed (s : State) : (ReachesWith looksFresh system.initial s →
      ∀ intentID snap, loadSnapshot s.db intentID = some snap →
        snap.intent.state = .closed → snap.intent.dirty = false →
        (∀ t ∈ snap.transmissions, t.state = .done) → outcomeStrength snap.intent.outcome =
          outcomeStrength (closedOutcome snap)) ∧ (ReachesWith matchesInOrder system.initial s →
      ∀ later, ReachesWith matchesInOrder s later →
      ∀ intentID intent kept, s.db.intents.get? intentID = some intent →
        outcomeStrength intent.outcome = 4 → later.db.intents.get? intentID = some kept →
        kept.outcome = intent.outcome) ∧ (system.Reachable s →
      ∀ later, system.Reaches anything s later →
      ∀ intentID intent kept, s.db.intents.get? intentID = some intent →
        outcomeStrength intent.outcome = 4 → later.db.intents.get? intentID = some kept →
        outcomeStrength kept.outcome = 4 ∧
          (intent.state = .closed → kept.outcome = intent.outcome)) := by
  refine ⟨?_, ?_, ?_⟩
  · intro run intentID snap loaded closed clean done
    have kept : Recorded s.db ∧ UpToDate s.db := by
      refine (run.refines (.refl _)).preserves (fun db => Recorded db ∧ UpToDate db) ?_
        ⟨.empty, fun _ _ found => by cases found⟩
      rintro db op ⟨recorded, upToDate⟩ enabled fresh
      exact ⟨recorded.step enabled, upToDate.step recorded enabled fresh⟩
    rw [strength_closedOutcome, strength_snapshot loaded]
    refine kept.2 intentID snap.intent (loadSnapshot_eq_some loaded).1 closed clean ?_
    intro txID t found owner
    have named : t.id = txID := key_of_get? found
    exact done t ((mem_snapshot_transmissions loaded).mpr ⟨named ▸ found, owner⟩)
  · intro first later second intentID intent kept found strength keptFound
    have named : AllNamed s.db :=
      (first.refines (.refl _)).preserves AllNamed
        (fun _ _ named enabled inOrder => named.step enabled inOrder)
        fun _ _ found => by cases found
    exact (named.run (second.refines (Reaches.reachable first)) found strength).2 kept keptFound
  intro reachable later run intentID intent kept found strength keptFound
  have recorded : Recorded s.db :=
    (reachable_refines reachable).preserves Recorded
      (fun _ _ recorded enabled _ => recorded.step enabled) .empty
  obtain ⟨strong, closed⟩ := (recorded.run (Reaches.refines reachable run)
    found strength).2 kept keptFound
  exact ⟨strong, fun isClosed => (closed isClosed).2⟩

/-- The sender cancels while the adapter is being called. The call comes back
with an acknowledgement, and the closed intent is reviewed. -/
def acknowledgedLate : List Action :=
  submitted (twoRoutes .orderedFallback none) ++ sendRow 1 1 0 ++
    [.cancel "intent" 10 "", .act 1 20, .worker 1 (.finish acknowledged 30),
      .evaluate "intent" 40 (fun _ => true), .act 2 50]

theorem closed_outcomes_reviewed_late :
    let s := system.runFrom system.initial acknowledgedLate
    (∃ snap, loadSnapshot s.db "intent" = some snap ∧ snap.intent.lastTransition = .t14 ∧
      outcomeStrength snap.intent.outcome = outcomeStrength (closedOutcome snap)) ∧
    ∀ later kept, ReachesWith matchesInOrder s later → later.db.intents.get? "intent" = some kept →
      kept.outcome = .ackedStation := by
  intro s
  have fresh : ReachesWith looksFresh system.initial s := Reaches.of_guarded_runFrom (by decide)
  have inOrder : ReachesWith matchesInOrder system.initial s :=
    Reaches.of_guarded_runFrom (by decide)
  have reviewed : (loadSnapshot s.db "intent").map (fun snap =>
      (snap.intent.state, snap.intent.dirty, snap.intent.lastTransition, snap.intent.outcome,
        snap.transmissions.all fun t => t.state = .done)) =
      some (.closed, false, .t14, .ackedStation, true) := by
    decide
  obtain ⟨snap, loaded, columns⟩ := Option.map_eq_some_iff.mp reviewed
  simp only [Prod.mk.injEq, List.all_eq_true, decide_eq_true_eq] at columns
  obtain ⟨closed, clean, transition, outcome, done⟩ := columns
  refine ⟨⟨snap, loaded, transition, (closed_outcomes_reviewed s).1 fresh
    "intent" snap loaded closed clean done⟩, ?_⟩
  intro later kept run keptFound
  have found := (loadSnapshot_eq_some loaded).1
  rw [← outcome]
  exact (closed_outcomes_reviewed s).2.1 inOrder later run "intent"
    snap.intent kept found (by rw [outcome]; rfl) keptFound

/-- `Evaluate` has read the intent. Before its transaction the sender cancels
and the adapter's call comes back: the transaction takes the mark away. -/
def markLost : State :=
  system.runFrom system.initial (submitted (twoRoutes .orderedFallback none) ++ sendRow 1 1 0 ++
      [.evaluate "intent" 10 (fun _ => true), .cancel "intent" 10 "", .act 2 20,
        .worker 1 (.finish { outcome := .accepted, acceptedBy := "radio" } 30), .act 1 40])

def aprsRoute : RoutePlanEntry where
  kind := some .aprs
  interfaceID := "aprs_0"
  destination := "N0CALL"
  adapterMode := .aprs
  completionRule := some .ackedStation
  receiptAllowS := 60
  queueAllowS := 60
  admitted := true

def bothBearers : Recipient :=
  { twoRoutes .allBearers none with
    addresses :=
      [{ kind := .meshtastic, value := "!0a", primaryRank := 0 },
        { kind := .aprs, value := "N0CALL", primaryRank := 1 }]
    admission := fun address =>
      if address.kind = .meshtastic then meshRoute else aprsRoute }

/-- `classifyMeshReceipt`, of an answer with no error. -/
def classifyMeshAck : EvidenceReclassifier := fun t e =>
  if e.corr.peer = t.corr.peer then
    { event := "ack", source := "destination_node",
      trust := "unauthenticated", completes := some .deliveredDevice }
  else
    { event := "relay_ack", source := "radio", trust := "unauthenticated",
      completes := none }

/-- An answer without an error under the packet's id. -/
def meshAnswer : Report where
  source := "radio"
  event := "routing:0:NONE"
  trust := "unauthenticated"
  corr := meshPacket

/-- The answer is already stored when the mesh row is handed off. The APRS
row is acknowledged first. -/
def acknowledgedByStation : State :=
  system.runFrom system.initial (submitted bothBearers ++ [.recordEvidence meshAnswer 0 none 5] ++
      sendRow 1 1 0 ++ [.claim 2, .worker 2 .reread, .worker 2 (.authorize "msg" 1 0),
        .worker 2 (.handOff { kind := "aprs", value := "A1" } 10),
        .worker 2 (.finish acknowledged 20), .evaluate "intent" 30 (fun _ => true), .act 1 40])

/-- The mesh call comes back, and the answer is matched to it. -/
def acknowledgedByDevice : State :=
  system.runFrom acknowledgedByStation [.worker 1 (.finish
        { outcome := .accepted, reconcile := some classifyMeshAck } 50),
      .evaluate "intent" 60 (fun _ => true), .act 2 70]

/-- A closed intent that nothing marks stays at `may_have_been_sent` although
its one transmission was accepted; and a completion of an intent sent on all
bearers is replaced by one with an older number. -/
theorem mark_lost_and_completion_replaced : (system.Reachable markLost ∧
      (loadSnapshot markLost.db "intent").map (fun snap =>
        (snap.intent.state, snap.intent.dirty, snap.transmissions.map DeliveryTransmission.state,
          outcomeStrength snap.intent.outcome, outcomeStrength (closedOutcome snap))) =
        some (.closed, false, [.done], 2, 3)) ∧ system.Reachable acknowledgedByStation ∧
    system.Reaches anything acknowledgedByStation acknowledgedByDevice ∧
    (acknowledgedByStation.db.intents.get? "intent").map outcome = some .ackedStation ∧
    (acknowledgedByDevice.db.intents.get? "intent").map outcome = some .deliveredDevice := by
  refine ⟨⟨.of_runFrom (by decide), by decide⟩, .of_runFrom (by decide),
    .of_runFrom (by decide), by decide, by decide⟩

end MeshSat.Intents
