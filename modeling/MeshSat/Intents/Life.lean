import MeshSat.Intents.Refinement

/-!
# What any transaction may do to a row, a transmission and an intent

Three step lemmas, one per table, which hold of every transaction of the
ledger. An attempt waits, is claimed, and is settled from `sending`; it keeps
its place in its intent, and once it has an outcome it never moves again. A
transmission appears only under a claim that is being sent. An intent keeps
its plan and its cap, and once closed keeps its round.
-/

namespace MeshSat.Intents

open Library Table Table.Step

/-! ## Rows -/

variable {db next : DB} {id : Nat} {row other : MessageDelivery} {op : Op}
  {intentID : String} {decide : IntentSnapshot → Option IntentChange}
  {now : Int} {intent later : DeliveryIntent}

lemma live_eq (found : db.deliveries.get? id = some row) : db.live id = db.fenceOpen row := by
  simp only [DB.live, found]

lemma settledStatus_live (waits : (settledStatus r live retries maxRetries).unclaimed = true) :
    live = true := by
  unfold settledStatus at waits
  cases outcome : r.outcome with
  | accepted | unknown => simp [outcome, Status.unclaimed] at waits
  | notSent =>
    simp only [outcome] at waits
    split at waits
    · split at waits
      · assumption
      · cases waits
    · cases waits

lemma endedStatus_live (waits : (endedStatus live retryable).unclaimed = true) : live = true := by
  cases live with
  | true => rfl
  | false => cases retryable <;> cases waits

lemma claimable_fence (claimable : db.claimable row = true)
    (owned : row.intentID.isSome = true) : db.fenceOpen row = true := by
  have unowned : row.intentID.isNone = false := by simpa using owned
  simp only [DB.claimable, unowned, Bool.false_or, Bool.and_eq_true] at claimable
  exact claimable.2

/-- How a transaction moves the status and the claim of an attempt whose fence
is or is not open, and which the recovery does or does not put back unasked:
it is claimed, and goes back to wait, only while its fence is open. -/
inductive Moves (opened released : Prop) : Status → Nat → Status → Nat → Prop where
  | quiet {before after : Status} {gen : Nat} :
      before.Quiet after → Moves opened released before gen after gen
  | claimed {before : Status} {gen : Nat} : opened → before.unclaimed = true →
      Moves opened released before gen .sending (gen + 1)
  | settled {after : Status} {gen : Nat} : (after.unclaimed = true → opened ∨ released) →
      Moves opened released .sending gen after gen

/-- The recovery puts this row back to wait. -/
def Op.releases : Op → Nat → Bool
  | .release released _, id => released = id
  | _, _ => false

structure RowStep (db : DB) (op : Op) (row other : MessageDelivery) : Prop where
  intentID : other.intentID = row.intentID
  attempt : row.intentID.isSome = true → other.round = row.round ∧ other.attemptNo = row.attemptNo ∧
      other.routeIndex = row.routeIndex ∧
      Moves (db.fenceOpen row = true) (op.releases row.id = true) row.status
        row.claimGen other.status other.claimGen

lemma QuietRow.rowStep (quiet : QuietRow row other) : RowStep db op row other := by
  refine ⟨quiet.intentID, fun owned => ?_⟩
  obtain ⟨round, number, route, claim, status⟩ := quiet.attempt owned
  exact ⟨round, number, route, claim ▸ .quiet status⟩

lemma RowStep.refl (row : MessageDelivery) : RowStep db op row row := (QuietRow.refl row).rowStep

/-- Every row after a transaction, as it was before. -/
def RowsStep (op : Op) (db next : DB) : Prop :=
  db.deliveries.Step (RowStep db op) (fun _ => True) Table.nothing
    next.deliveries

lemma RowsStep.of_eq (same : next.deliveries = db.deliveries) : RowsStep op db next := by
  unfold RowsStep
  rw [same]
  exact .refl _ RowStep.refl

lemma Op.rowsStep (op : Op) (db : DB) : RowsStep op db (op.run db) := by
  by_cases quiet : op.quiet = true
  · exact (Op.rowsQuiet quiet db).mono (fun _ _ change => change.rowStep)
      (fun _ _ => trivial) fun _ none => none
  have effect := op.effect db
  generalize run : op.run db = next at effect ⊢
  cases effect with
  | claimed found claimable =>
    refine update ?_ RowStep.refl
    intro other otherFound
    rw [found] at otherFound
    cases otherFound
    refine ⟨rfl, fun owned => ⟨rfl, rfl, rfl, .claimed (claimable_fence claimable owned) ?_⟩⟩
    rcases claimable_status claimable with waiting | waiting <;> rw [waiting] <;> rfl
  | @finalized _ r now t _ finalized =>
    cases flying : db.inFlight t.attemptID t.gen with
    | none => exact .of_eq (finalized.lost flying)
    | some row =>
      obtain ⟨found, sending, claim⟩ := inFlight_eq_some.mp flying
      unfold RowsStep
      rw [(finalized.followed row flying).1]
      refine update ?_ RowStep.refl (settleRow_id _ _ _ _)
      intro other otherFound
      rw [found] at otherFound
      cases otherFound
      obtain ⟨owner, round, number, route, sameClaim, status⟩ :=
        settleRow_columns r (r.correlation t.corr).value (db.live t.attemptID) now row
      refine ⟨owner, fun _ => ⟨round, number, route, ?_⟩⟩
      rw [sending, sameClaim]
      refine .settled fun waits => .inl ?_
      rw [status] at waits
      rw [← live_eq found]
      exact settledStatus_live waits
  | ended found sending claim =>
    refine update ?_ RowStep.refl
    intro other otherFound
    rw [found] at otherFound
    cases otherFound
    refine ⟨rfl, fun _ => ⟨rfl, rfl, rfl, ?_⟩⟩
    rw [sending, ← live_eq found]
    exact .settled fun waits => .inl (endedStatus_live waits)
  | rows only =>
    cases op with
    | release id now =>
      rw [← run]
      refine updateWhere ?_ RowStep.refl
      intro row released
      simp only [Bool.and_eq_true, decide_eq_true_eq] at released
      refine ⟨rfl, fun _ => ⟨rfl, rfl, rfl, ?_⟩⟩
      rw [released.2]
      exact .settled fun _ => .inr (by simp [Op.releases, released.1])
    | hold _ _ | unhold _ _ | nudge _ _ _ | queue _ | legacy _ _ => exact (quiet rfl).elim
    | _ => cases only
  | authorized granted => exact .of_eq (by rw [granted.written])
  | reported reported => exact .of_eq reported.deliveries
  | nothing | handedOff _ _ => exact .of_eq rfl
  | created _ | evaluated _ | cancelled _ | reviewed _ | proofExpected
  | clock | pruned => exact (quiet rfl).elim

section
variable {opened released : Prop} {before after : Status} {gen later : Nat}
  (moves : Moves opened released before gen after later)

include moves

lemma Moves.of_ended (ended : before.unfinished = false) : after = before ∧ later = gen := by
  cases moves with
  | quiet quiet =>
    rcases quiet with same | ⟨unclaimed, _⟩
    · exact ⟨same, rfl⟩
    · simp [Status.unfinished, unclaimed] at ended
  | claimed _ unclaimed => simp [Status.unfinished, unclaimed] at ended
  | settled _ => cases ended

lemma Moves.of_waits
    (waits : after.unclaimed = true) : before.unclaimed = true ∨ opened ∨ released := by
  cases moves with
  | quiet quiet =>
    rcases quiet with same | ⟨unclaimed, _⟩
    · exact .inl (same ▸ waits)
    · exact .inl unclaimed
  | claimed _ _ => cases waits
  | settled back => exact .inr (back waits)

end

lemma Op.row_after (op : Op) (found : db.deliveries.get? id = some row) :
    ∃ other, (op.run db).deliveries.get? id = some other ∧ RowStep db op row other := by
  rcases (op.rowsStep db).forward id row found with kept | ⟨_, none⟩
  · exact kept
  · exact none.elim

lemma Op.row_before (op : Op) (found : (op.run db).deliveries.get? id = some other) :
    (∃ row, db.deliveries.get? id = some row ∧ RowStep db op row other) ∨
      id ∉ db.deliveries.used := by
  rcases (op.rowsStep db).backward id other found with kept | ⟨new, _⟩
  · exact .inl kept
  · exact .inr new

/-! ## New rows -/

/-- A row no transaction has touched since it was added: the first round of
an intent never seen before, or the next round of an active one. -/
structure NewRow (db next : DB) (intentID : String) (row : MessageDelivery) : Prop where
  known : intentID ∈ next.intents.used
  queued : row.status = .queued
  unclaimed : row.claimGen = 0
  round : intentID ∉ db.intents.used ∧ row.round = 1 ∨
    ∃ intent, db.intents.get? intentID = some intent ∧
      intent.state = .active ∧ row.round = intent.activeRound + 1

def Op.adds : Op → Bool
  | .createSubmission _ _ | .evaluate _ _ _ _ | .queue _ => true
  | _ => false

lemma Applied.used_rows (applied : Applied intentID decide now db next)
    (none : ∀ snap change, decide snap = some change → change.newRow = none) :
    next.deliveries.used = db.deliveries.used := by
  cases applied with
  | nothing => rfl
  | looked _ _ => rfl
  | noted _ _ _ => rfl
  | transitioned _ decided _ written =>
    rw [written.unchanged (none _ _ decided)]
    rfl

lemma Op.used_rows (op : Op) (db : DB) (adds : op.adds = false) :
    (op.run db).deliveries.used = db.deliveries.used := by
  have effect := op.effect db
  generalize run : op.run db = next at effect ⊢
  cases effect with
  | created _ | evaluated _ => cases adds
  | authorized granted => rw [granted.written]
  | @finalized _ _ _ t _ finalized =>
    cases flying : db.inFlight t.attemptID t.gen with
    | none => rw [finalized.lost flying]
    | some row =>
      rw [(finalized.followed row flying).1]
      rfl
  | cancelled applied =>
    apply applied.used_rows
    intro snap change decided
    exact (decideCancel_cases decided).2.2.2.2.2.2.1
  | reviewed reviewed => rw [reviewed.deliveries]
  | reported reported => rw [reported.deliveries]
  | rows only =>
    rw [← run]
    cases op with
    | queue _ => cases adds
    | release _ _ | hold _ _ | unhold _ _ | nudge _ _ _ | legacy _ _ => rfl
    | _ => cases only
  | nothing | claimed _ _ | handedOff _ _ | ended _ _ _ | proofExpected
  | clock | pruned => rfl

def Op.extends : Op → Bool
  | .createSubmission _ _ | .evaluate _ _ _ _ => true
  | _ => false

lemma Op.attempt_used (stays : op.extends = false)
    (found : (op.run db).deliveries.get? id = some row)
    (owned : row.intentID.isSome = true) : id ∈ db.deliveries.used := by
  cases adds : op.adds with
  | false => exact op.used_rows db adds ▸ used_of_get? found
  | true =>
    cases op with
    | createSubmission _ _ | evaluate _ _ _ _ => cases stays
    | queue queued =>
      simp only [Op.run, queueDelivery, get?_insertNext] at found
      split at found
      · cases found
        cases owned
      · exact used_of_get? found
    | _ => cases adds

lemma buildRows_first {round attemptNo : Nat} {routes : List RoutePlanEntry}
    (member : row ∈ buildRows intent round attemptNo routes) :
    row.status = .queued ∧ row.intentID = some intent.id ∧ row.round = round := by
  induction routes generalizing attemptNo with
  | nil => cases member
  | cons p rest induction =>
    rcases List.mem_cons.mp member with rfl | later
    · exact ⟨rfl, rfl, rfl⟩
    · exact induction later

variable {new : NewIntent}

lemma prepareIntent_ok {id subID : String}
    (prepared : prepareIntent req contact id subID = .ok new) :
    new.intent = draftIntent req contact id subID
        ((contact.plan req).map (stampWire contact.wireTimestampMs)) ∧
      new.firstRows = buildRows new.intent 1 1 (firstRound new.intent.routePlan contact.effective
          (excludedRoutes contact.routeExcluded (contact.plan req))) := by
  unfold prepareIntent at prepared
  dsimp only at prepared
  split at prepared
  · cases prepared
  · cases prepared
    exact ⟨rfl, rfl⟩

lemma NewIntent.Prepared.first_rows (prepared : new.Prepared) (member : row ∈ new.firstRows) :
    row.status = .queued ∧ row.intentID = some new.intent.id ∧ row.round = 1 := by
  cases prepared with
  | routed prepared =>
    rw [(prepareIntent_ok prepared).2] at member
    exact buildRows_first member
  | refused req id subID effective plan expiryAllowS now _ => cases member

lemma createSubmission_newRow {sub : DeliverySubmission}
    (prepared : ∀ new ∈ intents, new.Prepared) (created : Created sub.id intents db next)
    (found : next.deliveries.get? id = some row) (new : id ∉ db.deliveries.used)
    (owner : row.intentID = some intentID) : NewRow db next intentID row := by
  rcases created.deliveries.backward id row found with
    ⟨old, oldFound, _⟩ | ⟨_, submitted, member, first, firstMember, stored⟩
  · exact (new (used_of_get? oldFound)).elim
  obtain ⟨queued, owned, round⟩ := (prepared submitted member).first_rows firstMember
  have same : submitted.intent.id = intentID := by
    rw [stored] at owner
    exact Option.some.inj (owned.symm.trans owner)
  have known := used_of_get? (created.stored submitted member).1
  rw [stored]
  exact ⟨same ▸ known, queued, rfl, .inl ⟨same ▸ created.fresh submitted member, round⟩⟩

lemma evaluate_newRow
    (applied : Applied evaluated (fun s => decideIntent s elapsed eligible) now db next)
    (found : next.deliveries.get? id = some row) (new : id ∉ db.deliveries.used)
    (owner : row.intentID = some intentID) : NewRow db next intentID row := by
  have unchanged (same : next.deliveries.used = db.deliveries.used) : NewRow db next intentID row :=
    (new (same ▸ used_of_get? found)).elim
  cases applied with
  | nothing => exact unchanged rfl
  | looked _ _ => exact unchanged rfl
  | noted _ _ _ => exact unchanged rfl
  | @transitioned snap change transition _ loaded decided _ written =>
    obtain ⟨active, decision⟩ := decideIntent_cases decided
    obtain ⟨intentFound, _⟩ := loadSnapshot_eq_some loaded
    rcases written.row_before found with
      ⟨old, oldFound, _⟩ | ⟨added, isNew, stored⟩
    · exact (new (used_of_get? oldFound)).elim
    cases decision.shape with
    | closes _ _ none | stays _ none =>
      rw [none] at isNew
      cases isNew
    | advances route _ adds _ _ =>
      rw [adds] at isNew
      cases isNew
      rw [stored] at owner ⊢
      have named : snap.intent.id = evaluated := key_of_get? intentFound
      have same : snap.intent.id = intentID := Option.some.inj owner
      rw [same] at named
      subst named
      have known := used_of_get? intentFound
      refine ⟨?_, rfl, rfl, .inr ⟨snap.intent, intentFound, active, rfl⟩⟩
      rw [written.intents]
      exact known

lemma Op.newRow (enabled : op.Enabled db)
    (found : (op.run db).deliveries.get? id = some row) (new : id ∉ db.deliveries.used)
    (owner : row.intentID = some intentID) : NewRow db (op.run db) intentID row := by
  cases more : op.extends with
  | false => exact (new (Op.attempt_used more found (by rw [owner]; rfl))).elim
  | true =>
    cases op with
    | createSubmission sub intents =>
      rcases createSubmission_cases sub intents db with same | created
      · change (Intents.createSubmission sub intents db).2.deliveries.get? id = some row at found
        rw [same] at found
        exact (new (used_of_get? found)).elim
      · exact createSubmission_newRow enabled created found new owner
    | evaluate evaluated elapsed eligible now =>
      exact evaluate_newRow (evaluate_applied evaluated elapsed eligible now db) found new owner
    | _ => cases more

/-! ## Transmissions -/

structure TransmissionStep (t later : DeliveryTransmission) : Prop where
  attemptID : later.attemptID = t.attemptID
  intentID : later.intentID = t.intentID
  gen : later.gen = t.gen
  done : t.state = .done → QuietTransmission t later

lemma QuietTransmission.step {t later : DeliveryTransmission}
    (quiet : QuietTransmission t later) : TransmissionStep t later := by
  refine ⟨?_, ?_, ?_, fun _ => quiet⟩ <;> rw [quiet]

lemma TransmissionStep.refl (t : DeliveryTransmission) : TransmissionStep t t :=
  (QuietTransmission.refl t).step

structure NewTransmission (db : DB) (t : DeliveryTransmission) : Prop where
  authorized : t.state = .authorized
  unsent : db.Unsent t.attemptID t.gen
  claim : ∃ row, db.deliveries.get? t.attemptID = some row ∧
    row.status = .sending ∧ row.claimGen = t.gen ∧ row.intentID = some t.intentID

def TransmissionsStep (db next : DB) : Prop :=
  db.transmissions.Step TransmissionStep (NewTransmission db)
    (fun t => db.Pruned next t.intentID) next.transmissions

lemma TransmissionsStep.of_eq (same : next.transmissions = db.transmissions) :
    TransmissionsStep db next := by
  unfold TransmissionsStep
  rw [same]
  exact .refl _ TransmissionStep.refl

lemma Op.transmissionsStep (op : Op) (db : DB) : TransmissionsStep db (op.run db) := by
  by_cases quiet : op.quiet = true
  · exact (Op.transmissionsQuiet quiet db).mono
      (fun _ _ change => change.step) (fun _ none => none.elim) fun _ pruned => pruned
  have effect := op.effect db
  generalize op.run db = next at effect ⊢
  cases effect with
  | @authorized _ _ _ _ _ row _ _ granted =>
    rw [granted.written]
    exact insertNext ⟨rfl, granted.unsent, row, granted.found, granted.sending,
        granted.claim, granted.intent⟩ TransmissionStep.refl
  | handedOff found authorized =>
    refine update ?_ TransmissionStep.refl
    intro other otherFound
    rw [found] at otherFound
    cases otherFound
    refine ⟨rfl, rfl, rfl, fun done => ?_⟩
    rw [authorized] at done
    cases done
  | finalized finalized =>
    unfold TransmissionsStep
    rw [finalized.transmissions]
    refine update ?_ TransmissionStep.refl
    intro other otherFound
    rw [finalized.found] at otherFound
    cases otherFound
    exact ⟨rfl, rfl, rfl, fun done => (finalized.pending done).elim⟩
  | reported reported => exact .of_eq reported.transmissions
  | nothing | claimed _ _ | ended _ _ _ | rows _ => exact .of_eq rfl
  | created _ | evaluated _ | cancelled _ | reviewed _ | proofExpected
  | clock | pruned => exact (quiet rfl).elim

/-! ## Intents -/

/-- Every write to an intent but a reservation and its end. -/
inductive IntentWrite (intent : DeliveryIntent) : DeliveryIntent → Prop where
  | same : IntentWrite intent intent
  | dirty : IntentWrite intent (setDirty intent)
  | clean : IntentWrite intent (setClean intent)
  | noted (change : IntentChange) : IntentWrite intent (change.note (setClean intent))
  | applied (change : IntentChange) (transition : Transition) (now : Int) : intent.state = .active →
      (change.newRow.isSome = true → change.newActiveRound = intent.activeRound + 1) →
      IntentWrite intent (change.applyTo transition now (setClean intent))
  | reviewed (best : Outcome) (dup upgrades : Bool) :
      IntentWrite intent (reviewedIntent best dup upgrades intent)
  | elapsed (ms : Int → Int) : IntentWrite intent { intent with elapsedMs := ms intent.elapsedMs }

def NewIntentRow (op : Op) (intent : DeliveryIntent) : Prop :=
  ∃ sub intents, op = .createSubmission sub intents ∧
    ∃ new ∈ intents, intent = storedIntent sub.id new.intent

def IntentsWritten (op : Op) (db next : DB) : Prop :=
  db.intents.Step IntentWrite (NewIntentRow op) (fun intent => intent.state = .closed) next.intents

lemma IntentsWritten.of_eq (same : next.intents = db.intents) : IntentsWritten op db next := by
  unfold IntentsWritten
  rw [same]
  exact .refl _ fun _ => .same

lemma Applied.intentsWritten (applied : Applied intentID decide now db next)
    (sound : ∀ snap change, decide snap = some change →
      snap.intent.state = .active ∧ (change.newRow.isSome = true →
        change.newActiveRound = snap.intent.activeRound + 1)) : IntentsWritten op db next := by
  cases applied with
  | nothing => exact .of_eq rfl
  | looked _ _ => exact update (fun _ _ => .clean) fun _ => .same
  | @noted _ change _ _ _ => exact update (fun _ _ => .noted change) fun _ => .same
  | @transitioned snap change transition _ loaded decided _ written =>
    obtain ⟨active, round⟩ := sound snap change decided
    obtain ⟨found, _⟩ := loadSnapshot_eq_some loaded
    unfold IntentsWritten
    rw [written.intents]
    refine update ?_ fun _ => .same
    intro intent intentFound
    rw [found] at intentFound
    cases intentFound
    exact .applied change transition now active round

lemma Reported.intentsWritten (reported : Reported db next) : IntentsWritten op db next := by
  cases reported with
  | nothing => exact .of_eq rfl
  | unmatched _ _ _ => exact .of_eq rfl
  | matched _ _ _ t _ _ _ => exact update (fun _ _ => .dirty) fun _ => .same

/-- Authorizations reserve, and finalizations end what was reserved. -/
def Op.pays : Op → Bool
  | .authorize _ _ _ _ _ | .finalize _ _ _ => true
  | _ => false

lemma Op.intentsWritten (db : DB) (pays : op.pays = false) : IntentsWritten op db (op.run db) := by
  have effect := op.effect db
  generalize op.run db = next at effect ⊢
  cases effect with
  | authorized _ | finalized _ => cases pays
  | @created sub intents _ created =>
    refine created.intents.mono ?_ ?_ fun _ none => none.elim
    · rintro intent _ rfl
      exact .same
    rintro intent ⟨new, member, same⟩
    exact ⟨sub, intents, rfl, new, member, same⟩
  | evaluated applied =>
    apply applied.intentsWritten
    intro snap change decided
    obtain ⟨active, decision⟩ := decideIntent_cases decided
    exact ⟨active, decision.shape.round⟩
  | cancelled applied =>
    apply applied.intentsWritten
    intro snap change decided
    exact ⟨(decideCancel_cases decided).1, (decideCancel_shape decided).round⟩
  | reviewed reviewed =>
    rw [reviewed.written]
    exact update (fun _ _ => .reviewed _ _ _) (fun _ => .same) (reviewedIntent_id _ _ _)
  | reported reported => exact reported.intentsWritten
  | @clock _ elapsed => exact updateWhere (fun _ _ => .elapsed elapsed) fun _ => .same
  | pruned => exact deleteWhere (fun _ => prunable_closed) fun _ => .same
  | nothing | claimed _ _ | handedOff _ _ | ended _ _ _ | proofExpected
  | rows _ => exact .of_eq rfl

/-- An intent keeps its plan, strategy and cap; a closed one stays closed and
keeps its round. -/
structure IntentStep (intent later : DeliveryIntent) : Prop where
  routePlan : later.routePlan = intent.routePlan
  strategy : later.effectiveStrategy = intent.effectiveStrategy
  capMinor : later.capMinor = intent.capMinor
  closed : intent.state = .closed → later.state = .closed
  round : later.activeRound = intent.activeRound ∨
    intent.state = .active ∧ later.activeRound = intent.activeRound + 1

lemma IntentStep.refl (intent : DeliveryIntent) : IntentStep intent intent :=
  ⟨rfl, rfl, rfl, id, .inl rfl⟩

lemma IntentWrite.step (written : IntentWrite intent later) : IntentStep intent later := by
  cases written with
  | same | dirty | clean | noted _ | elapsed _ => exact ⟨rfl, rfl, rfl, id, .inl rfl⟩
  | applied change transition now active round =>
    refine ⟨rfl, rfl, rfl, ?_, ?_⟩
    · intro closed
      rw [active] at closed
      cases closed
    simp only [IntentChange.applyTo, setClean]
    split
    next added => exact .inr ⟨active, round added⟩
    · exact .inl rfl
  | reviewed best dup upgrades => cases upgrades <;> exact ⟨rfl, rfl, rfl, id, .inl rfl⟩

def IntentsStep (op : Op) (db next : DB) : Prop :=
  db.intents.Step IntentStep (NewIntentRow op) (fun intent => intent.state = .closed) next.intents

lemma Op.intentsStep (op : Op) (db : DB) : IntentsStep op db (op.run db) := by
  cases pays : op.pays with
  | false =>
    exact (Op.intentsWritten db pays).mono (fun _ _ written => written.step) (fun _ new => new)
      fun _ closed => closed
  | true =>
    have effect := op.effect db
    generalize op.run db = next at effect ⊢
    cases effect with
    | nothing => exact .refl _ IntentStep.refl
    | authorized granted =>
      rw [granted.written]
      refine update (fun intent _ => ?_) IntentStep.refl
      exact ⟨rfl, rfl, rfl, id, .inl rfl⟩
    | finalized finalized =>
      unfold IntentsStep
      rw [finalized.intents]
      refine update (fun intent _ => ?_) IntentStep.refl
      exact ⟨rfl, rfl, rfl, id, .inl rfl⟩
    | reported reported =>
      exact reported.intentsWritten.mono (fun _ _ written => written.step) (fun _ new => new)
        fun _ closed => closed
    | rows _ => exact .refl _ IntentStep.refl
    | _ => cases pays

lemma Op.intent_after (found : db.intents.get? intentID = some intent)
    (after : (op.run db).intents.get? intentID = some later) : IntentStep intent later := by
  rcases (op.intentsStep _).forward intentID intent found with
    ⟨other, otherFound, step⟩ | ⟨gone, _⟩
  · rw [after] at otherFound
    cases otherFound
    exact step
  rw [after] at gone
  cases gone

/-! ## Attempts of stored intents -/

/-- Every attempt's intent was stored at some time. -/
def DB.Known (db : DB) : Prop :=
  ∀ id row intentID, db.deliveries.get? id = some row →
    row.intentID = some intentID → intentID ∈ db.intents.used

lemma DB.Known.step (known : db.Known) (enabled : op.Enabled db) : (op.run db).Known := by
  intro id other intentID found owner
  rcases op.row_before found with ⟨row, before, step⟩ | new
  · exact (op.intentsStep db).used _ (known id row intentID before (step.intentID ▸ owner))
  · exact (Op.newRow enabled found new owner).known

lemma DB.Known.empty : DB.Known .empty := by
  intro id row intentID found
  cases found

end MeshSat.Intents
