import MeshSat.Intents.Decisions

/-!
# What the remaining transactions write

Submissions only add records under keys never used before. A report adds
evidence and marks its intent. `Effect` then lists every way any transaction
can end: what is kept by all of them is proved by going through it.

Holding, releasing and retiring rows, the acceptance stamps and every write to
deliveries of no intent leave an attempt's claim alone and only ever move it
between statuses in which nothing of it is in flight: such a change is `Quiet`.
-/

variable {classify : Option EvidenceClassifier} {report : Report}

namespace MeshSat.Intents

open Library List Op Table.Step Table

/-! ## Submissions -/

variable {rows : List MessageDelivery} {db next : DB} {ids : List Nat}
  {now : Int} {change : IntentChange} {intentID : String}
  {decide : IntentSnapshot → Option IntentChange} {snap : IntentSnapshot}

lemma insertAttempts_ok (inserted : insertAttempts rows db = .ok (ids, next)) :
    next = { db with deliveries := next.deliveries } ∧ db.deliveries.Step Eq
        (fun row => ∃ first ∈ rows, row = storedAttempt first row.id)
        nothing next.deliveries ∧ ∀ first ∈ rows, ∃ id, next.deliveries.get? id =
        some (storedAttempt first id) := by
  induction rows generalizing db ids with
  | nil =>
    cases inserted
    exact ⟨rfl, .refl _ fun _ => rfl, by simp⟩
  | cons row rest induction =>
    obtain ⟨⟨id, middle⟩, first, others⟩ := bind_ok inserted
    obtain ⟨⟨later, last⟩, second, finished⟩ := bind_ok others
    cases finished
    obtain ⟨_, _, written⟩ := insertAttemptTx_ok first
    cases written
    obtain ⟨frame, step, stored⟩ := induction second
    refine ⟨frame, ?_, ?_⟩
    · have inserts : db.deliveries.Step Eq (fun other => ∃ first ∈ row :: rest,
            other = storedAttempt first other.id) nothing
          (db.deliveries.insertNext (storedAttempt row) (storedAttempt_id row)) :=
        .insertNext ⟨row, mem_cons_self, rfl⟩ fun _ => rfl
      refine inserts.trans (step.mono (fun _ _ same => same) ?_
        fun _ impossible => impossible) ?_ ?_ ?_
      · rintro other ⟨first, member, same⟩
        exact ⟨first, mem_cons_of_mem _ member, same⟩
      · rintro _ _ _ rfl rfl
        rfl
      · rintro _ _ added rfl
        exact added
      rintro _ _ rfl impossible
      exact impossible
    intro other member
    rcases mem_cons.mp member with rfl | later
    · have present : (db.deliveries.insertNext (storedAttempt other) (storedAttempt_id other)).get?
            db.deliveries.nextKey = some (storedAttempt other db.deliveries.nextKey) := by
        simp [get?_insertNext]
      rcases step.forward _ _ present with
        ⟨same, kept, rfl⟩ | ⟨_, impossible⟩
      · exact ⟨_, kept⟩
      · exact impossible.elim
    · exact stored other later

def DB.AttemptsNumbered (db : DB) : Prop :=
  ∀ left right row other, db.deliveries.get? left = some row →
    db.deliveries.get? right = some other → row.intentID.isSome = true →
    other.intentID = row.intentID → other.attemptNo = row.attemptNo → left = right

lemma AttemptsNumbered.insert (numbered : db.AttemptsNumbered)
    (unique : ∀ id other, db.deliveries.get? id = some other →
      other.intentID = row.intentID → other.attemptNo ≠ row.attemptNo) :
    DB.AttemptsNumbered { db with
      deliveries := db.deliveries.insertNext (storedAttempt row) (storedAttempt_id row) } := by
  intro left right first second leftFound rightFound owned owner number
  dsimp only at leftFound rightFound
  rw [get?_insertNext] at leftFound rightFound
  by_cases newLeft : left = db.deliveries.nextKey
  · by_cases newRight : right = db.deliveries.nextKey
    · exact newLeft.trans newRight.symm
    rw [if_pos newLeft] at leftFound
    rw [if_neg newRight] at rightFound
    cases leftFound
    exact (unique right second rightFound owner number).elim
  rw [if_neg newLeft] at leftFound
  split at rightFound
  · cases rightFound
    exact (unique left first leftFound owner.symm number.symm).elim
  exact numbered left right first second leftFound rightFound owned owner number

lemma insertAttempts_numbered (inserted : insertAttempts rows db = .ok (ids, next))
    (numbered : db.AttemptsNumbered) : next.AttemptsNumbered := by
  induction rows generalizing db ids with
  | nil =>
    cases inserted
    exact numbered
  | cons row rest induction =>
    obtain ⟨⟨id, middle⟩, first, others⟩ := bind_ok inserted
    obtain ⟨⟨later, last⟩, second, finished⟩ := bind_ok others
    cases finished
    obtain ⟨_, unique, written⟩ := insertAttemptTx_ok first
    cases written
    exact induction second (AttemptsNumbered.insert numbered unique)

structure Created (subID : String) (submitted : List NewIntent) (db next : DB) : Prop where
  transmissions : next.transmissions = db.transmissions
  evidence : next.evidence = db.evidence
  intents : db.intents.Step Eq
    (fun intent => ∃ new ∈ submitted, intent = storedIntent subID new.intent)
    nothing next.intents
  deliveries : db.deliveries.Step Eq (fun row => ∃ new ∈ submitted, ∃ first ∈ new.firstRows,
      row = storedAttempt first row.id) nothing next.deliveries
  fresh : ∀ new ∈ submitted, new.intent.id ∉ db.intents.used
  stored : ∀ new ∈ submitted,
    next.intents.get? new.intent.id = some (storedIntent subID new.intent) ∧
      ∀ first ∈ new.firstRows, ∃ id, next.deliveries.get? id = some (storedAttempt first id)
  numbered : db.AttemptsNumbered → next.AttemptsNumbered

variable {subID : String}

lemma insertIntentTx_ok (inserted : insertIntentTx subID new db = .ok (ids, next)) :
    Created subID [new] db next := by
  unfold insertIntentTx at inserted
  split at inserted
  next fresh =>
    obtain ⟨frame, step, stored⟩ := insertAttempts_ok inserted
    have numbered := insertAttempts_numbered inserted
    rw [frame] at numbered ⊢
    refine ⟨rfl, rfl, ?_, ?_, ?_, ?_, numbered⟩
    · exact .insert fresh ⟨new, mem_singleton_self _, rfl⟩ fun _ => rfl
    · refine step.mono (fun _ _ same => same) ?_ fun _ none => none
      rintro row ⟨first, member, same⟩
      exact ⟨new, mem_singleton_self _, first, member, same⟩
    · intro other member
      rw [mem_singleton.mp member]
      exact fresh
    intro other member
    rw [mem_singleton.mp member]
    refine ⟨?_, stored⟩
    have named : new.intent.id = DeliveryIntent.id (storedIntent subID new.intent) := rfl
    dsimp only
    rw [get?_insert, if_pos named]
  · cases inserted

lemma Created.append {next : DB} (before : Created subID first db middle)
    (after : Created subID second middle next) : Created subID (first ++ second) db next where
  transmissions := after.transmissions.trans before.transmissions
  evidence := after.evidence.trans before.evidence
  intents := by
    refine trans (before.intents.mono (fun _ _ same => same) ?_ fun _ none => none)
      (after.intents.mono (fun _ _ same => same) ?_ fun _ none => none) ?_ ?_ ?_
    · rintro intent ⟨new, member, same⟩
      exact ⟨new, mem_append_left _ member, same⟩
    · rintro intent ⟨new, member, same⟩
      exact ⟨new, mem_append_right _ member, same⟩
    · rintro _ _ _ rfl rfl
      rfl
    · rintro _ _ added rfl
      exact added
    rintro _ _ rfl none
    exact none
  deliveries := by
    refine trans (before.deliveries.mono (fun _ _ same => same) ?_ fun _ none => none)
      (after.deliveries.mono (fun _ _ same => same) ?_ fun _ none => none) ?_ ?_ ?_
    · rintro row ⟨new, member, added⟩
      exact ⟨new, mem_append_left _ member, added⟩
    · rintro row ⟨new, member, added⟩
      exact ⟨new, mem_append_right _ member, added⟩
    · rintro _ _ _ rfl rfl
      rfl
    · rintro _ _ added rfl
      exact added
    rintro _ _ rfl none
    exact none
  fresh new member := by
    rcases mem_append.mp member with left | right
    · exact before.fresh new left
    · exact fun used => after.fresh new right (before.intents.used _ used)
  stored new member := by
    rcases mem_append.mp member with left | right
    · obtain ⟨intent, rows⟩ := before.stored new left
      refine ⟨?_, ?_⟩
      · rcases after.intents.forward _ _ intent with
          ⟨same, kept, rfl⟩ | ⟨_, none⟩
        · exact kept
        · exact none.elim
      intro first firstMember
      obtain ⟨id, found⟩ := rows first firstMember
      rcases after.deliveries.forward _ _ found with
        ⟨same, kept, rfl⟩ | ⟨_, none⟩
      · exact ⟨id, kept⟩
      · exact none.elim
    · exact after.stored new right
  numbered := fun numbered => after.numbered (before.numbered numbered)

lemma insertIntents_ok (inserted : insertIntents subID intents db = .ok (rowIDs, next)) :
    Created subID intents db next := by
  induction intents generalizing db rowIDs with
  | nil =>
    cases inserted
    exact ⟨rfl, rfl, .refl _ fun _ => rfl, .refl _ fun _ => rfl, by simp,
      by simp, fun numbered => numbered⟩
  | cons new rest induction =>
    obtain ⟨⟨ids, middle⟩, first, others⟩ := bind_ok inserted
    obtain ⟨⟨otherIDs, last⟩, second, finished⟩ := bind_ok others
    cases finished
    exact (insertIntentTx_ok first).append (induction second)

lemma createSubmission_cases (sub : DeliverySubmission) (intents : List NewIntent) (db : DB) :
    (createSubmission sub intents db).2 = db ∨
    Created sub.id intents db (createSubmission sub intents db).2 := by
  unfold createSubmission
  rcases withTx_cases (createSubmissionTx sub intents) db with
    ⟨error, _, failed⟩ | ⟨result, next, succeeded, written⟩
  · rw [failed]
    exact .inl rfl
  rw [written]
  unfold createSubmissionTx at succeeded
  split at succeeded
  · split at succeeded
    · cases succeeded
    · cases succeeded
      exact .inl rfl
  split at succeeded
  · obtain ⟨⟨rowIDs, done⟩, first, finished⟩ := bind_ok succeeded
    cases finished
    have created := insertIntents_ok first
    exact .inr { created with }
  · cases succeeded

/-! ## Reports -/

/-- What a report stores, and whose intent it marks. -/
inductive Reported (db : DB) : DB → Prop where
  | nothing : Reported db db
  | unmatched (e : DeliveryEvidence) (now : Int) : e.matched = false → Reported db { db with
        evidence := db.evidence.insertNext (storedEvidence e now) (storedEvidence_id e now) }
  | matched (e : DeliveryEvidence) (now : Int) (txID : Nat)
      (t : DeliveryTransmission) : e.matched = true →
      db.transmissions.get? txID = some t → e.intentID = some t.intentID →
      Reported db { db with
        intents := db.intents.update t.intentID setDirty setDirty_id
        evidence := db.evidence.insertNext (storedEvidence e now) (storedEvidence_id e now) }

lemma matchEvidence_names (stored : ∀ t ∈ candidates, t ∈ db.transmissions)
    (isMatched : (matchEvidence report.evidence classify candidates).matched = true) :
    ∃ t ∈ db.transmissions, (matchEvidence report.evidence classify candidates).intentID =
        some t.intentID := by
  match candidates with
  | [] => cases isMatched
  | [t] =>
    refine ⟨t, stored t (mem_singleton_self _), ?_⟩
    cases classify with
    | none => rfl
    | some classify => rfl
  | _ :: _ :: _ => cases isMatched

lemma candidatesTx_stored : ∀ t ∈ candidatesTx db corr receivedAt windowS, t ∈ db.transmissions :=
  fun _ member => mem_of_mem_filter member

lemma recordEvidence_reported : Reported db (recordEvidence report windowS classify now db).2 := by
  unfold recordEvidence
  rcases withTx_cases (recordEvidenceTx report windowS classify now) db with
    ⟨error, _, failed⟩ | ⟨result, next, succeeded, written⟩
  · rw [failed]
    exact .nothing
  rw [written]
  unfold recordEvidenceTx at succeeded
  dsimp only at succeeded
  split at succeeded
  · cases succeeded
    exact .nothing
  obtain ⟨⟨id, stored⟩, inserted, finished⟩ := bind_ok succeeded
  have evidence := insertEvidenceTx_ok inserted
  cases evidence
  dsimp only at finished
  split at finished
  next intentID isMatched owner =>
    cases finished
    obtain ⟨t, member, named⟩ :=
      matchEvidence_names candidatesTx_stored isMatched
    have found := get?_of_mem member
    rw [owner] at named
    cases named
    exact .matched _ now t.id t isMatched found owner
  rename_i unnamed
  cases finished
  apply Reported.unmatched
  by_contra isMatched
  rw [Bool.not_eq_false] at isMatched
  obtain ⟨t, _, named⟩ :=
    matchEvidence_names candidatesTx_stored isMatched
  exact unnamed t.intentID isMatched named

lemma proofEvidenceTx_reported (stored : proofEvidenceTx txID now db = .ok result) :
    Reported db result.2 := by
  unfold proofEvidenceTx at stored
  split at stored
  · cases stored
    exact .nothing
  split at stored
  · cases stored
  rename_i t found
  obtain ⟨⟨id, inserted⟩, first, finished⟩ := bind_ok stored
  have evidence := insertEvidenceTx_ok first
  cases evidence
  cases finished
  exact .matched _ now txID t rfl found rfl

lemma withTx_proof_reported : Reported db (withTx (proofEvidenceTx txID now) db).2 := by
  rcases withTx_cases (proofEvidenceTx txID now) db with
    ⟨error, _, failed⟩ | ⟨result, next, succeeded, written⟩
  · rw [failed]
    exact .nothing
  rw [written]
  exact proofEvidenceTx_reported succeeded

lemma recordProofEvidence_reported {hash : String} {whole : Bool} {valid : String → String → Bool}
    {now : Int} {db : DB} : Reported db (recordProofEvidence hash whole valid now db).2 := by
  unfold recordProofEvidence
  dsimp only
  split
  · exact withTx_proof_reported
  · exact .nothing

lemma recordLateDelivery_reported : Reported db (recordLateDelivery attemptID gen now db).2 := by
  unfold recordLateDelivery
  dsimp only
  split
  · exact .nothing
  · exact withTx_proof_reported

/-! ## Every transaction -/

/-- Transactions that write delivery rows and nothing else, and read no other
table to do so. -/
def Op.rowsOnly : Op → Bool
  | .release _ _ | .hold _ _ | .unhold _ _ | .nudge _ _ _ | .queue _
  | .legacy _ _ => true
  | _ => false

/-- Every way a transaction can end. -/
inductive Effect (db : DB) : Op → DB → Prop where
  | nothing (op : Op) : Effect db op db
  | created {sub : DeliverySubmission} {intents : List NewIntent} {next : DB} :
      Created sub.id intents db next → Effect db (.createSubmission sub intents) next
  | claimed {id : Nat} {row : MessageDelivery} :
      db.deliveries.get? id = some row → db.claimable row = true → Effect db (.claim id)
        { db with deliveries := db.deliveries.update id claimRow claimRow_id }
  | authorized {attemptID gen : Nat} {unitKind : String} {units minor : Int}
      {row : MessageDelivery} {intentID : String} {next : DB} :
      Authorized attemptID gen unitKind units minor db row intentID next →
      Effect db (.authorize attemptID gen unitKind units minor) next
  | handedOff {txID : Nat} {corr : Correlation} {now : Int} {t : DeliveryTransmission} :
      db.transmissions.get? txID = some t → t.state = .authorized →
      Effect db (.handOff txID corr now) { db with
        transmissions := db.transmissions.update txID
          (handOffTransmission corr now) (handOffTransmission_id corr now) }
  | finalized {txID : Nat} {r : TransmissionResult} {now : Int}
      {t : DeliveryTransmission} {next : DB} :
      Finalized txID r now db t next → Effect db (.finalize txID r now) next
  | ended {attemptID gen : Nat} {reason detail : String} {retryable : Bool}
      {retryAt : Option Int} {now : Int} {row : MessageDelivery} :
      db.deliveries.get? attemptID = some row → row.status = .sending → row.claimGen = gen →
      Effect db (.endAttempt attemptID gen reason detail retryable retryAt now)
        { db with
          deliveries := db.deliveries.update attemptID
            (endRow (db.live attemptID) retryable reason detail retryAt now)
            (endRow_id (db.live attemptID) retryable reason detail retryAt now) }
  | evaluated {intentID : String} {elapsed : Int} {eligible : Nat → Bool} {now : Int} {next : DB} :
      Applied intentID (fun s => decideIntent s elapsed eligible) now db next →
      Effect db (.evaluate intentID elapsed eligible now) next
  | cancelled {intentID : String} {elapsed : Int} {reason : String} {now : Int} {next : DB} :
      Applied intentID (fun s => decideCancel s elapsed reason) now db next →
      Effect db (.cancel intentID elapsed reason now) next
  | reviewed {intentID : String} {snap : IntentSnapshot} {next : DB} :
      Reviewed intentID db snap next → Effect db (.evaluateClosed intentID) next
  | reported {op : Op} {next : DB} : Reported db next → Effect db op next
  | proofExpected {attemptID gen : Nat} {proofHash proofKey : String} :
      Effect db (.setTransmissionProof attemptID gen proofHash proofKey)
        (setTransmissionProof attemptID gen proofHash proofKey db)
  | clock {intentID : String} {elapsed : Int → Int} :
      Effect db (.setElapsed intentID elapsed) (setElapsed intentID elapsed db)
  | pruned {cutoff : Int} : Effect db (.prune cutoff) (pruneClosedIntents cutoff db)
  | rows {op : Op} {deliveries : Table MessageDelivery.id} :
      op.rowsOnly = true → Effect db op { db with deliveries }

lemma Op.effect (op : Op) (db : DB) : Effect db op (op.run db) := by
  cases op with
  | createSubmission sub intents =>
    rcases createSubmission_cases sub intents db with same | created
    · simp only [run, same]
      exact .nothing _
    · exact .created created
  | claim id =>
    rcases claim_cases id db with ⟨row, found, claimable, written⟩ | same
    · simp only [run, written]
      exact .claimed found claimable
    simp only [run, same]
    exact .nothing _
  | authorize attemptID gen unitKind units minor =>
    rcases authorize_cases attemptID gen unitKind units minor db with
      ⟨error, same⟩ | ⟨row, intentID, next, written, authorized⟩
    · simp only [run, same]
      exact .nothing _
    simp only [run, written]
    exact .authorized authorized
  | handOff txID corr now =>
    rcases handOff_cases txID corr now db with
      same | ⟨t, found, authorized, written⟩
    · simp only [run, same]
      exact .nothing _
    simp only [run, written]
    exact .handedOff found authorized
  | finalize txID r now =>
    rcases finalize_cases txID r now db with
      ⟨error, same⟩ | ⟨t, next, written, finalized⟩
    · simp only [run, same]
      exact .nothing _
    simp only [run, written]
    exact .finalized finalized
  | endAttempt attemptID gen reason detail retryable retryAt now =>
    rcases endAttempt_cases attemptID gen reason detail retryable retryAt now
      db with same | ⟨row, found, sending, claim, written⟩
    · simp only [run, same]
      exact .nothing _
    simp only [run, written]
    exact .ended found sending claim
  | evaluate intentID elapsed eligible now =>
    exact .evaluated (evaluate_applied intentID elapsed eligible now db)
  | cancel intentID elapsed reason now =>
    exact .cancelled (cancel_applied intentID elapsed reason now db)
  | evaluateClosed intentID =>
    rcases evaluateClosed_cases intentID db with same | ⟨snap, reviewed⟩
    · simp only [run, same]
      exact .nothing _
    · exact .reviewed reviewed
  | recordEvidence report windowS classify now =>
    exact .reported recordEvidence_reported
  | recordProofEvidence hash whole valid now =>
    exact .reported recordProofEvidence_reported
  | recordLateDelivery attemptID gen now =>
    exact .reported recordLateDelivery_reported
  | setTransmissionProof attemptID gen proofHash proofKey => exact .proofExpected
  | setElapsed intentID elapsed => exact .clock
  | prune cutoff => exact .pruned
  | release _ _ | hold _ _ | unhold _ _ | nudge _ _ _ | queue _
  | legacy _ _ => exact .rows rfl

/-! ## Quiet changes of rows -/

/-- A status changes only among those in which nothing is in flight and
nothing is settled, or is retired from one of them. -/
def Status.Quiet (before after : Status) : Prop :=
  after = before ∨ before.unclaimed = true ∧
    (after.unclaimed = true ∨ after = .superseded ∨ after = .cancelled)

structure QuietRow (row other : MessageDelivery) : Prop where
  intentID : other.intentID = row.intentID
  attempt : row.intentID.isSome = true → other.round = row.round ∧ other.attemptNo = row.attemptNo ∧
      other.routeIndex = row.routeIndex ∧ other.claimGen = row.claimGen ∧
      row.status.Quiet other.status

open QuietRow

lemma QuietRow.refl (row : MessageDelivery) : QuietRow row row :=
  ⟨rfl, fun _ => ⟨rfl, rfl, rfl, rfl, .inl rfl⟩⟩

/-- Rows change only quietly; new ones may be added. -/
def RowsQuiet (db next : DB) : Prop :=
  db.deliveries.Step QuietRow (fun _ => True) nothing next.deliveries

lemma RowsQuiet.of_eq (same : next.deliveries = db.deliveries) : RowsQuiet db next := by
  unfold RowsQuiet
  rw [same]
  exact .refl _ refl

lemma stampOne_quiet (intentID : String) (stamps : List (Nat × Int))
    (row : MessageDelivery) : QuietRow row (stampOne intentID stamps row) := by
  unfold stampOne
  split
  · exact ⟨rfl, fun _ => ⟨rfl, rfl, rfl, rfl, .inl rfl⟩⟩
  · exact .refl row

def IntentChange.Retires (change : IntentChange) : Prop :=
  change.retireStatus.getD .superseded = .superseded ∨
    change.retireStatus.getD .superseded = .cancelled

lemma changedRow_status (change : IntentChange) (intentID : String) (row : MessageDelivery) :
    (change.changedRow intentID row).status =
    if change.retires intentID row then change.retireStatus.getD .superseded else row.status := by
  have stamped : (stampOne intentID change.stampAccepted row).status = row.status := by
    unfold stampOne
    split <;> rfl
  have same : change.retires intentID (stampOne intentID change.stampAccepted row) =
        change.retires intentID row := by
    unfold IntentChange.retires stampOne
    split <;> rfl
  unfold IntentChange.changedRow
  dsimp only
  rw [same]
  split
  · rfl
  · exact stamped

lemma changedRow_quiet (retires : change.Retires) (intentID : String) (row : MessageDelivery) :
    QuietRow row (change.changedRow intentID row) := by
  obtain ⟨owner, round, attempt, route, claim⟩ := changedRow_columns change intentID row
  refine ⟨owner, fun _ => ⟨round, attempt, route, claim, ?_⟩⟩
  rw [changedRow_status]
  split
  next retired =>
    right
    simp only [IntentChange.retires, Bool.and_eq_true] at retired
    exact ⟨retired.1.2, .inr retires⟩
  · exact .inl rfl

lemma changedRows_step (each : ∀ row, changed row (change.changedRow intentID row)) :
    db.deliveries.Step changed added removed (change.changedRows intentID db) where
  forward id row found := .inl ⟨_, by rw [change.get?_changedRows, found]; rfl, each row⟩
  backward id other found := by
    rw [change.get?_changedRows] at found
    obtain ⟨row, old, rfl⟩ := Option.map_eq_some_iff.mp found
    exact .inl ⟨row, old, each row⟩
  used _ member := member

lemma Decision.retires (decision : Decision s now eligible change) : change.Retires := by
  left
  cases decision with
  | close transition outcome reason _ => simp [closeWith]
  | improve _ _ => simp [lookedAt]
  | advance f next transition reason _ _ _ _ _ _ => simp [Intents.advance]
  | bookkeeping => simp [lookedAt]

lemma Applied.rowsQuiet (applied : Applied intentID decide now db next)
    (retires : ∀ snap change, decide snap = some change → change.Retires) : RowsQuiet db next := by
  cases applied with
  | nothing => exact .of_eq rfl
  | looked _ _ => exact .of_eq rfl
  | noted _ _ _ =>
    exact .updateWhere (fun row _ => stampOne_quiet _ _ row) refl (stampOne_id _ _)
  | @transitioned snap change transition _ loaded decided _ written =>
    have quiet := changedRow_quiet (retires snap change decided) intentID
    cases newRow : change.newRow with
    | none =>
      unfold RowsQuiet
      rw [written.unchanged newRow]
      exact changedRows_step quiet
    | some row =>
      unfold RowsQuiet
      rw [(written.extended row newRow).2]
      exact (changedRows_step quiet).then_insertNext trivial

/-- Transactions after which every row of an attempt is as it was, up to a
quiet change. -/
def Op.quiet : Op → Bool
  | .claim _ | .authorize _ _ _ _ _ | .handOff _ _ _ | .finalize _ _ _
  | .endAttempt _ _ _ _ _ _ _ | .release _ _ => false
  | _ => true

lemma Reported.deliveries (reported : Reported db next) : next.deliveries = db.deliveries := by
  cases reported <;> rfl

lemma Reported.transmissions (reported : Reported db next) :
    next.transmissions = db.transmissions := by
  cases reported <;> rfl

lemma Reviewed.deliveries (reviewed : Reviewed intentID db snap next) :
    next.deliveries = db.deliveries := by
  rw [reviewed.written]

lemma Reviewed.transmissions (reviewed : Reviewed intentID db snap next) :
    next.transmissions = db.transmissions := by
  rw [reviewed.written]

lemma Op.rowsQuiet {op : Op} (quiet : op.quiet = true) (db : DB) : RowsQuiet db (op.run db) := by
  have effect := op.effect db
  generalize run : op.run db = next at effect ⊢
  cases effect with
  | claimed _ _ | authorized _ | handedOff _ _ | finalized _ | ended _ _ _ => cases quiet
  | created created =>
    refine created.deliveries.mono ?_ (fun _ _ => trivial) fun _ none => none
    rintro row _ rfl
    exact .refl row
  | evaluated applied =>
    apply applied.rowsQuiet
    intro snap change decided
    exact (decideIntent_cases decided).2.retires
  | cancelled applied =>
    apply applied.rowsQuiet
    intro snap change decided
    right
    rw [(decideCancel_cases decided).2.2.2.2.2.1]
    rfl
  | reviewed reviewed => exact .of_eq reviewed.deliveries
  | reported reported => exact .of_eq reported.deliveries
  | rows only =>
    rw [← run]
    cases op with
    | release _ _ => cases quiet
    | hold channel now =>
      refine updateWhere ?_ refl
      intro row waiting
      refine ⟨rfl, fun _ => ⟨rfl, rfl, rfl, rfl, .inr ⟨?_, .inl rfl⟩⟩⟩
      simp only [Bool.and_eq_true, Bool.or_eq_true, decide_eq_true_eq] at waiting
      rcases waiting.2 with queued | retry
      · rw [queued]
        rfl
      rw [retry]
      rfl
    | unhold channel now =>
      refine updateWhere ?_ refl
      intro row waiting
      refine ⟨rfl, fun _ => ⟨rfl, rfl, rfl, rfl, .inr ⟨?_, .inl rfl⟩⟩⟩
      simp only [Bool.and_eq_true, decide_eq_true_eq] at waiting
      rw [waiting.2]
      rfl
    | nudge channel destinations now =>
      refine updateWhere ?_ refl
      intro row _
      exact ⟨rfl, fun _ => ⟨rfl, rfl, rfl, rfl, .inl rfl⟩⟩
    | queue row =>
      simp only [RowsQuiet, Op.run, queueDelivery]
      exact .insertNext trivial QuietRow.refl
    | legacy selected change =>
      refine updateWhere ?_ QuietRow.refl
      intro row chosen
      simp only [Bool.and_eq_true, Option.isNone_iff_eq_none] at chosen
      refine ⟨chosen.1.symm, fun owned => ?_⟩
      rw [chosen.1] at owned
      cases owned
    | _ => cases only
  | nothing | proofExpected | clock | pruned => exact .of_eq rfl

/-! ## Quiet changes of transmissions -/

/-- Only the proof expected for a transmission changes. -/
def QuietTransmission (t other : DeliveryTransmission) : Prop :=
  other = { t with proofHash := other.proofHash, proofKey := other.proofKey }

lemma QuietTransmission.refl (t : DeliveryTransmission) : QuietTransmission t t := rfl

def DB.Closed (db : DB) (intentID : String) : Prop :=
  ∃ intent, db.intents.get? intentID = some intent ∧ intent.state = .closed

def DB.Pruned (db next : DB) (intentID : String) : Prop :=
  db.Closed intentID ∧ next.intents.get? intentID = none

/-- Transmissions are removed only with their intent. -/
def TransmissionsQuiet (db next : DB) : Prop :=
  db.transmissions.Step QuietTransmission nothing
    (fun t => db.Pruned next t.intentID) next.transmissions

lemma TransmissionsQuiet.of_eq (same : next.transmissions = db.transmissions) :
    TransmissionsQuiet db next := by
  unfold TransmissionsQuiet
  rw [same]
  exact .refl _ QuietTransmission.refl

lemma Applied.transmissions (applied : Applied intentID decide now db next) :
    next.transmissions = db.transmissions := by
  cases applied with
  | nothing => rfl
  | looked _ _ => rfl
  | noted _ _ _ => rfl
  | transitioned _ _ _ written => exact written.transmissions

lemma Applied.evidence (applied : Applied intentID decide now db next) :
    next.evidence = db.evidence := by
  cases applied with
  | nothing => rfl
  | looked _ _ => rfl
  | noted _ _ _ => rfl
  | transitioned _ _ _ written => exact written.evidence

lemma prunable_closed {intent : DeliveryIntent}
    (prunable : intent.prunable cutoff = true) : intent.state = .closed := by
  simp only [DeliveryIntent.prunable, Bool.and_eq_true, decide_eq_true_eq] at prunable
  exact prunable.1

lemma prune_prunes {cutoff : Int} (pruned : intentID ∈ db.pruned cutoff) :
    db.Pruned (pruneClosedIntents cutoff db) intentID := by
  obtain ⟨intent, member, rfl⟩ := mem_map.mp pruned
  obtain ⟨stored, prunable⟩ := mem_filter.mp member
  have found := get?_of_mem stored
  refine ⟨⟨intent, found, prunable_closed prunable⟩, ?_⟩
  simp [pruneClosedIntents, found, prunable]

lemma Op.transmissionsQuiet {op : Op} (quiet : op.quiet = true) (db : DB) :
    TransmissionsQuiet db (op.run db) := by
  have effect := op.effect db
  generalize op.run db = next at effect ⊢
  cases effect with
  | claimed _ _ | authorized _ | handedOff _ _ | finalized _ | ended _ _ _ => cases quiet
  | created created => exact .of_eq created.transmissions
  | evaluated applied | cancelled applied => exact .of_eq applied.transmissions
  | reviewed reviewed => exact .of_eq reviewed.transmissions
  | reported reported => exact .of_eq reported.transmissions
  | proofExpected =>
    refine updateWhere ?_ QuietTransmission.refl
    intro t _
    rfl
  | pruned =>
    refine .deleteWhere (fun t pruned => ?_) QuietTransmission.refl
    exact prune_prunes (contains_iff_mem.mp pruned)
  | nothing | clock | rows _ => exact .of_eq rfl

end MeshSat.Intents
