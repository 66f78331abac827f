import MeshSat.Intents.Operations

/-!
# What the worker's transactions write

One inversion lemma for each transaction of a delivery worker and of the
recovery: either nothing was written, or the guards held and the database
changed in exactly this way.
-/

namespace MeshSat.Intents

open Library List Table DeliveryEvidence

lemma withTx_cases (body : DB → Except DBError (α × DB)) (db : DB) :
    (∃ error, body db = .error error ∧ withTx body db = (.error error, db)) ∨ ∃ result next,
    body db = .ok (result, next) ∧ withTx body db = (.ok result, next) := by
  cases outcome : body db with
  | error error => exact .inl ⟨error, rfl, by simp [withTx, outcome]⟩
  | ok pair => exact .inr ⟨pair.1, pair.2, rfl, by simp [withTx, outcome]⟩

lemma bind_ok {α β : Type} {first : Except DBError α} {rest : α → Except DBError β} {result : β}
    (succeeded : (first >>= rest) = .ok result) :
    ∃ middle, first = .ok middle ∧ rest middle = .ok result := by
  cases first with
  | error error => cases succeeded
  | ok middle => exact ⟨middle, rfl, succeeded⟩

/-! ## Claims -/

variable {db next : DB} {row : MessageDelivery} {intentID : String} {id : Nat}
  {before middle after table : Table DeliveryEvidence.id} {e : DeliveryEvidence}
  {now : Int} {corr : Correlation} {t : DeliveryTransmission} {r : TransmissionResult}

lemma claimable_status (claimable : db.claimable row = true) :
    row.status = .queued ∨ row.status = .retry := by
  simp only [DB.claimable, Bool.and_eq_true, Bool.or_eq_true, decide_eq_true_eq] at claimable
  exact claimable.1

lemma claim_cases (id : Nat) (db : DB) :
    (∃ row, db.deliveries.get? id = some row ∧ db.claimable row = true ∧
      claimDeliveryForSending id db = (true, { db with
          deliveries := db.deliveries.update id claimRow claimRow_id })) ∨
      claimDeliveryForSending id db = (false, db) := by
  by_cases claims : ∃ row, db.deliveries.get? id = some row ∧ db.claimable row = true
  · left
    obtain ⟨row, found, claimable⟩ := claims
    refine ⟨row, found, claimable, ?_⟩
    have named : row.id = id := key_of_get? found
    have some : (db.deliveries.entries.any fun row =>
        row.id = id && db.claimable row) = true := by
      rw [any_eq_true]
      exact ⟨row, mem_of_get? found, by simp [named, claimable]⟩
    have same := updateWhere_eq_update found (fun row => row.id = id && db.claimable row)
      (by simp [named, claimable]) (by intro other chosen; simp at chosen; exact chosen.1)
      claimRow (fun _ => rfl)
    simp [claimDeliveryForSending, some, same]
  right
  have unselected : ∀ row ∈ db.deliveries, (row.id = id && db.claimable row) = false := by
    intro row member
    by_contra selected
    simp only [Bool.not_eq_false, Bool.and_eq_true, decide_eq_true_eq] at selected
    obtain ⟨rfl, claimable⟩ := selected
    exact claims ⟨row, get?_of_mem member, claimable⟩
  have none : (db.deliveries.entries.any fun row =>
      row.id = id && db.claimable row) = false := by
    rw [any_eq_false]
    intro row member
    simp [unselected row member]
  have same := db.deliveries.updateWhere_eq_self
    (fun row => row.id = id && db.claimable row) claimRow (fun _ => rfl)
    (by intro row member chosen; simp [unselected row member] at chosen)
  simp [claimDeliveryForSending, none, same]

/-! ## Authorization and handoff -/

variable {attemptID gen : Nat}

lemma inFlight_eq_some : db.inFlight attemptID gen = some row ↔
    db.deliveries.get? attemptID = some row ∧ row.status = .sending ∧ row.claimGen = gen := by
  simp [DB.inFlight, Option.filter_eq_some_iff]

/-- What a granted authorization found and wrote. -/
structure Authorized (attemptID gen : Nat) (unitKind : String)
    (units minor : Int) (db : DB) (row : MessageDelivery) (intentID : String)
    (next : DB) : Prop where
  found : db.deliveries.get? attemptID = some row
  sending : row.status = .sending
  claim : row.claimGen = gen
  intent : row.intentID = some intentID
  unsent : db.Unsent attemptID gen
  nonneg : 0 ≤ minor
  allowed : 0 < minor → ∃ intent, db.intents.get? intentID = some intent ∧
    intent.allows minor = true
  written : next = { db with
    intents := db.intents.update intentID (reserveMinor minor) (reserveMinor_id minor)
    transmissions := db.transmissions.insertNext
      (newTransmission attemptID intentID gen unitKind units minor) }

lemma reserve_zero (table : Table DeliveryIntent.id) (intentID : String) :
    table.update intentID (reserveMinor 0) (reserveMinor_id 0) = table := by
  apply updateWhere_eq_self
  intro intent _ _
  simp [reserveMinor]

lemma reserveTx_ok (nonneg : 0 ≤ minor) (reserved : reserveTx intentID minor db = .ok next) :
    (0 < minor → ∃ found, db.intents.get? intentID = some found ∧ found.allows minor = true) ∧
    next = { db with
      intents := db.intents.update intentID (reserveMinor minor) (reserveMinor_id minor) } := by
  unfold reserveTx at reserved
  by_cases paid : 0 < minor
  · simp only [paid, if_true] at reserved
    cases found : db.intents.get? intentID with
    | none => simp [found] at reserved
    | some intent =>
      simp only [found] at reserved
      by_cases allows : intent.allows minor = true
      · simp only [allows, if_true, Except.ok.injEq] at reserved
        exact ⟨fun _ => ⟨intent, rfl, allows⟩, reserved.symm⟩
      · simp [allows] at reserved
  have free : minor = 0 := by omega
  subst free
  simp only [lt_self_iff_false, if_false, Except.ok.injEq] at reserved
  refine ⟨fun impossible => (paid impossible).elim, ?_⟩
  rw [reserve_zero, ← reserved]

variable {result : Nat × DB}

lemma insertTransmissionTx_ok
    (inserted : insertTransmissionTx attemptID intentID gen unitKind units minor db = .ok result) :
    db.Unsent attemptID gen ∧ result = (db.transmissions.nextKey, { db with
        transmissions := db.transmissions.insertNext
          (newTransmission attemptID intentID gen unitKind units minor) }) := by
  unfold insertTransmissionTx at inserted
  split at inserted
  · cases inserted
  rename_i absent
  cases inserted
  refine ⟨?_, rfl⟩
  intro txID t found owner gens
  apply absent
  rw [any_eq_true]
  exact ⟨t, mem_of_get? found, by simp [owner, gens]⟩

lemma authorize_cases (attemptID gen : Nat) (unitKind : String) (units minor : Int) (db : DB) :
    (∃ error, authorizeTransmission attemptID gen unitKind units minor db = (.error error, db)) ∨
    ∃ row intentID next, authorizeTransmission attemptID gen unitKind units minor db =
    (.ok db.transmissions.nextKey, next) ∧
    Authorized attemptID gen unitKind units minor db row intentID next := by
  by_cases bad : (minor < 0 || units < 0) = true
  · left
    exact ⟨.badAmount, by simp only [authorizeTransmission, bad, if_true]⟩
  have body : authorizeTransmission attemptID gen unitKind units minor db =
      withTx (authorizeTx attemptID gen unitKind units minor) db := by
    simp only [authorizeTransmission, bad]
    simp
  rw [body]
  rcases withTx_cases (authorizeTx attemptID gen unitKind units minor) db
    with ⟨error, _, failed⟩ | ⟨txID, next, succeeded, written⟩
  · exact .inl ⟨error, failed⟩
  right
  rw [written]
  unfold authorizeTx at succeeded
  cases claimed : (db.inFlight attemptID gen).bind MessageDelivery.intentID with
  | none => simp [claimed] at succeeded
  | some intentID =>
    simp only [claimed] at succeeded
    obtain ⟨row, flying, owner⟩ := Option.bind_eq_some_iff.mp claimed
    obtain ⟨found, sending, claim⟩ := inFlight_eq_some.mp flying
    obtain ⟨reserved, first, second⟩ := bind_ok succeeded
    have nonneg : 0 ≤ minor := by
      simp only [Bool.or_eq_true, decide_eq_true_eq, not_or] at bad
      omega
    obtain ⟨allowed, rfl⟩ := reserveTx_ok nonneg first
    obtain ⟨unsent, inserted⟩ := insertTransmissionTx_ok second
    cases inserted
    exact ⟨row, intentID, _, rfl, ⟨found, sending, claim, owner, unsent, nonneg, allowed, rfl⟩⟩

lemma handOff_cases (txID : Nat) (corr : Correlation) (now : Int) (db : DB) :
    markTransmissionHandedOffWith txID corr now db = (.error (.notAuthorized txID), db) ∨
    ∃ t, db.transmissions.get? txID = some t ∧ t.state = .authorized ∧
      markTransmissionHandedOffWith txID corr now db = (.ok (), { db with
          transmissions := db.transmissions.update txID
            (handOffTransmission corr now) (handOffTransmission_id corr now) }) := by
  unfold markTransmissionHandedOffWith
  cases found : db.transmissions.get? txID with
  | none => exact .inl rfl
  | some t =>
    by_cases authorized : t.state = .authorized
    · right
      exact ⟨t, rfl, authorized, by simp only [authorized, if_true]⟩
    left
    simp [authorized]

/-! ## Ending and releasing an attempt -/

lemma endAttempt_cases (attemptID gen : Nat) (reason detail : String)
    (retryable : Bool) (retryAt : Option Int) (now : Int) (db : DB) :
    endAttemptNotSent attemptID gen reason detail retryable retryAt now db =
      (.error .claimLost, db) ∨
    ∃ row, db.deliveries.get? attemptID = some row ∧ row.status = .sending ∧ row.claimGen = gen ∧
      endAttemptNotSent attemptID gen reason detail retryable retryAt now db = (.ok (), { db with
          deliveries := db.deliveries.update attemptID
            (endRow (db.live attemptID) retryable reason detail retryAt now)
            (endRow_id (db.live attemptID) retryable reason detail retryAt now) }) := by
  unfold endAttemptNotSent withTx endAttemptTx
  cases flying : db.inFlight attemptID gen with
  | none => exact .inl rfl
  | some row =>
    right
    obtain ⟨found, sending, claim⟩ := inFlight_eq_some.mp flying
    exact ⟨row, found, sending, claim, rfl⟩

lemma release_eq (found : db.deliveries.get? id = some row)
    (sending : row.status = .sending) (now : Int) :
    releaseRow id now db = { db with
      deliveries := db.deliveries.update id (releasedRow now) (releasedRow_id now) } := by
  have named : row.id = id := key_of_get? found
  have same := updateWhere_eq_update found (fun row => row.id = id && row.status = .sending)
    (by simp [named, sending]) (by intro other chosen; simp at chosen; exact chosen.1)
    (releasedRow now) (fun _ => rfl)
  exact congrArg (fun deliveries => { db with deliveries }) same

/-! ## Evidence -/

/-- How a transaction about one intent may change the stored evidence: what
is matched stays as it is, and what becomes matched is that intent's. -/
structure EvidenceStep (intentID : String) (before after : Table DeliveryEvidence.id) : Prop where
  matched : ∀ id e, before.get? id = some e → e.matched = true → after.get? id = some e
  foreign : ∀ id e, after.get? id = some e → e.matched = true →
    e.intentID ≠ some intentID → before.get? id = some e
  used : ∀ id ∈ before.used, id ∈ after.used

lemma EvidenceStep.refl (intentID : String) (table : Table DeliveryEvidence.id) :
    EvidenceStep intentID table table :=
  ⟨fun _ _ found _ => found, fun _ _ found _ _ => found, fun _ used => used⟩

lemma EvidenceStep.trans (first : EvidenceStep intentID before middle)
    (second : EvidenceStep intentID middle after) : EvidenceStep intentID before after where
  matched id e found isMatched := second.matched id e (first.matched id e found isMatched) isMatched
  foreign id e found isMatched other :=
    first.foreign id e (second.foreign id e found isMatched other) isMatched other
  used id member := second.used id (first.used id member)

lemma EvidenceStep.update (found : table.get? id = some e)
    (unmatched : e.matched = false) (change : DeliveryEvidence → DeliveryEvidence)
    (keeps : ∀ e, (change e).id = e.id)
    (names : (change e).matched = true → (change e).intentID = some intentID) :
    EvidenceStep intentID table (table.update id change keeps) := by
  refine ⟨?_, ?_, fun _ used => used⟩
  · intro other stored storedFound isMatched
    by_cases same : other = id
    · subst same
      rw [found] at storedFound
      cases storedFound
      rw [unmatched] at isMatched
      cases isMatched
    rw [get?_update_ne _ same]
    exact storedFound
  intro other stored storedFound isMatched foreign
  by_cases same : other = id
  · subst same
    rw [get?_update_self, found] at storedFound
    cases storedFound
    exact (foreign (names isMatched)).elim
  · rwa [get?_update_ne _ same] at storedFound

lemma EvidenceStep.insertNext (table : Table DeliveryEvidence.id)
    (make : Nat → DeliveryEvidence) (numbers : ∀ id, (make id).id = id)
    (names : ∀ id, (make id).matched = true → (make id).intentID = some intentID) :
    EvidenceStep intentID table (table.insertNext make numbers) := by
  refine ⟨?_, ?_, ?_⟩
  · intro id e found _
    have old : id ≠ table.nextKey := by
      intro same
      exact table.nextKey_unused (same ▸ used_of_get? found)
    rw [get?_insertNext, if_neg old]
    exact found
  · intro id e found isMatched foreign
    rw [get?_insertNext] at found
    by_cases new : id = table.nextKey
    · rw [if_pos new] at found
      cases found
      exact (foreign (names _ isMatched)).elim
    · rwa [if_neg new] at found
  intro id member
  exact mem_cons_of_mem _ member

/-- Evidence that newly completes something has a number not given before. -/
structure InOrder (before after : Table DeliveryEvidence.id) : Prop where
  old : ∀ id e, after.get? id = some e → e.isCompletion = true →
    before.get? id = some e ∨ before.nextKey ≤ id
  next : before.nextKey ≤ after.nextKey

lemma InOrder.refl (table : Table DeliveryEvidence.id) : InOrder table table :=
  ⟨fun _ _ found _ => .inl found, le_rfl⟩

lemma InOrder.trans (first : InOrder before middle) (second : InOrder middle after) :
    InOrder before after where
  old id e found completes := by
    rcases second.old id e found completes with known | new
    · exact first.old id e known completes
    · exact .inr (le_trans first.next new)
  next := le_trans first.next second.next

lemma InOrder.update (change : DeliveryEvidence → DeliveryEvidence)
    (keeps : ∀ e, (change e).id = e.id)
    (nothing : ∀ e, table.get? id = some e → (change e).isCompletion = false) :
    InOrder table (table.update id change keeps) := by
  refine ⟨?_, le_rfl⟩
  intro other e found completes
  rw [get?_update] at found
  split at found
  next same =>
    subst same
    obtain ⟨old, oldFound, rfl⟩ := Option.map_eq_some_iff.mp found
    rw [nothing old oldFound] at completes
    cases completes
  · exact .inl found

lemma InOrder.insertNext (table : Table DeliveryEvidence.id) (make : Nat → DeliveryEvidence)
    (numbers : ∀ id, (make id).id = id) : InOrder table (table.insertNext make numbers) := by
  refine ⟨?_, nextKey_mono ?_⟩
  · intro id e found _
    rw [get?_insertNext] at found
    split at found
    next new => exact .inr (Nat.le_of_eq new.symm)
    · exact .inl found
  intro id member
  exact mem_cons_of_mem _ member

lemma insertEvidenceTx_ok (inserted : insertEvidenceTx e now db = .ok result) :
    result = (db.evidence.nextKey, { db with
      evidence := db.evidence.insertNext (storedEvidence e now) (storedEvidence_id e now) }) := by
  unfold insertEvidenceTx at inserted
  split at inserted
  · cases inserted
  · cases inserted
    rfl

/-- What matching stored evidence to a transmission may write. -/
structure Reconciled (intentID : String) (before after : DB) : Prop where
  submissions : after.submissions = before.submissions
  intents : after.intents = before.intents ∨
    after.intents = before.intents.update intentID setDirty setDirty_id
  deliveries : after.deliveries = before.deliveries
  transmissions : after.transmissions = before.transmissions
  evidence : EvidenceStep intentID before.evidence after.evidence

lemma setDirty_twice (table : Table DeliveryIntent.id) (intentID : String) :
    (table.update intentID setDirty setDirty_id).update intentID setDirty setDirty_id =
      table.update intentID setDirty setDirty_id := by
  rw [update_update]
  rfl

lemma Reconciled.refl (intentID : String) (db : DB) : Reconciled intentID db db :=
  ⟨rfl, .inl rfl, rfl, rfl, .refl _ _⟩

lemma Reconciled.trans {before middle after : DB} (first : Reconciled intentID before middle)
    (second : Reconciled intentID middle after) : Reconciled intentID before after where
  submissions := second.submissions.trans first.submissions
  intents := by
    rcases first.intents with same | dirty <;> rcases second.intents with sameAgain | dirtyAgain
    · exact .inl (sameAgain.trans same)
    · exact .inr (by rw [dirtyAgain, same])
    · exact .inr (sameAgain.trans dirty)
    · exact .inr (by rw [dirtyAgain, dirty, setDirty_twice])
  deliveries := second.deliveries.trans first.deliveries
  transmissions := second.transmissions.trans first.transmissions
  evidence := first.evidence.trans second.evidence

lemma reconcileOne_writes (t : DeliveryTransmission) (classify : EvidenceReclassifier)
    (windowS : Int) (found : db.evidence.get? e.id = some e) (unmatched : e.matched = false) :
    Reconciled t.intentID db (reconcileOne t classify windowS db e) ∧ ∀ id,
    id ≠ e.id → (reconcileOne t classify windowS db e).evidence.get? id = db.evidence.get? id := by
  unfold reconcileOne
  split
  · exact ⟨.refl _ _, fun _ _ => rfl⟩
  · split
    · refine ⟨⟨rfl, .inr rfl, rfl, rfl, ?_⟩, ?_⟩
      · exact .update found unmatched (DeliveryEvidence.matchedTo t _) (fun _ => rfl) (fun _ => rfl)
      intro id different
      dsimp [DB.markDirty]
      exact get?_update_ne _ different
    · exact ⟨.refl _ _, fun _ _ => rfl⟩
  refine ⟨⟨rfl, .inl rfl, rfl, rfl, ?_⟩, ?_⟩
  · refine .update found unmatched (DeliveryEvidence.ambiguousAmong _) (fun _ => rfl) ?_
    intro isMatched
    exact Bool.noConfusion (unmatched.symm.trans isMatched)
  intro id different
  dsimp only
  exact get?_update_ne _ different

/-- What holds of matching one piece of evidence holds of matching all that is
open: each is still as it was stored when its turn comes. -/
lemma reconcileAll_related (related : DB → DB → Prop)
    (t : DeliveryTransmission) (classify : EvidenceReclassifier)
    (windowS : Int) (pending : List DeliveryEvidence) (db : DB)
    (distinct : (pending.map DeliveryEvidence.id).Nodup)
    (stored : ∀ e ∈ pending, db.evidence.get? e.id = some e ∧ e.matched = false)
    (reflexive : ∀ db, related db db) (transitive : ∀ before middle after, related before middle →
      related middle after → related before after)
    (one : ∀ db, ∀ e ∈ pending, db.evidence.get? e.id = some e →
      e.matched = false → related db (reconcileOne t classify windowS db e)) :
    related db (pending.foldl (reconcileOne t classify windowS) db) := by
  induction pending generalizing db with
  | nil => exact reflexive db
  | cons e rest induction =>
    obtain ⟨found, unmatched⟩ := stored e mem_cons_self
    obtain ⟨_, others⟩ := reconcileOne_writes t classify windowS found unmatched
    rw [map_cons, nodup_cons] at distinct
    apply transitive _ _ _ (one db e mem_cons_self found unmatched)
    apply induction _ distinct.2
    · intro later member
      have different : later.id ≠ e.id := by
        intro same
        exact distinct.1 (same ▸ mem_map_of_mem member)
      rw [others later.id different]
      exact stored later (mem_cons_of_mem _ member)
    exact fun db later member =>
      one db later (mem_cons_of_mem _ member)

lemma openEvidence_distinct (db : DB) (corr : Correlation) :
    ((db.evidence.entries.filter fun e => e.openFor corr).map DeliveryEvidence.id).Nodup :=
  db.evidence.nodup.sublist (filter_sublist.map DeliveryEvidence.id)

lemma openEvidence_stored (member : e ∈ db.evidence.entries.filter fun e => e.openFor corr) :
    db.evidence.get? e.id = some e ∧ e.matched = false := by
  obtain ⟨stored, isOpen⟩ := mem_filter.mp member
  refine ⟨get?_of_mem stored, ?_⟩
  simp only [openFor, Bool.and_eq_true, Bool.not_eq_true'] at isOpen
  exact isOpen.1.1.1.1

section
variable (t : DeliveryTransmission)

lemma reconcileTx_writes (classify : EvidenceReclassifier) (windowS : Int) (db : DB) :
    Reconciled t.intentID db (reconcileTx t classify windowS db) := by
  apply reconcileAll_related (Reconciled t.intentID)
  · exact openEvidence_distinct db t.corr
  · exact fun e => openEvidence_stored
  · exact Reconciled.refl t.intentID
  · exact fun _ _ _ => Reconciled.trans
  intro db e _ found unmatched
  exact (reconcileOne_writes t classify windowS found unmatched).1

lemma reconcileOne_inOrder (windowS : Int) (found : db.evidence.get? e.id = some e)
    (unmatched : e.matched = false) (nothing : (classify t e).completes = none) :
    InOrder db.evidence (reconcileOne t classify windowS db e).evidence := by
  unfold reconcileOne
  split
  · exact .refl _
  · split
    · refine .update (DeliveryEvidence.matchedTo t (classify t e)) (fun _ => rfl) fun _ _ => ?_
      simp [isCompletion, matchedTo, nothing]
    · exact .refl _
  refine .update (DeliveryEvidence.ambiguousAmong _) (fun _ => rfl) ?_
  intro other otherFound
  rw [found] at otherFound
  cases otherFound
  simp [isCompletion, ambiguousAmong, unmatched]

lemma reconcileTx_inOrder (classify : EvidenceReclassifier)
    (windowS : Int) {before : DB} (same : db.evidence = before.evidence)
    (nothing : ∀ e ∈ before.evidence.entries, e.openFor t.corr = true →
      (classify t e).completes = none) :
    InOrder before.evidence (reconcileTx t classify windowS db).evidence := by
  rw [← same] at nothing ⊢
  refine reconcileAll_related
    (fun before after => InOrder before.evidence after.evidence) t classify
    windowS _ db (openEvidence_distinct db t.corr)
    (fun e => openEvidence_stored) (fun db => InOrder.refl db.evidence)
    (fun _ _ _ => InOrder.trans) ?_
  intro middle e member found unmatched
  obtain ⟨stored, isOpen⟩ := mem_filter.mp member
  exact reconcileOne_inOrder t windowS found unmatched (nothing e stored isOpen)

end

lemma insertReturned_ok {returned : List DeliveryEvidence}
    (inserted : insertReturned t corr now returned db = .ok next) :
    next = { db with evidence := next.evidence } ∧
      EvidenceStep t.intentID db.evidence next.evidence ∧ InOrder db.evidence next.evidence ∧
      ∀ ev ∈ returned, ∃ id, next.evidence.get? id =
        some (storedEvidence (returnedEvidence t corr ev) now id) := by
  induction returned generalizing db with
  | nil =>
    cases inserted
    exact ⟨rfl, .refl _ _, .refl _, by simp⟩
  | cons ev rest induction =>
    obtain ⟨⟨first, middle⟩, stored, others⟩ := bind_ok inserted
    have written := insertEvidenceTx_ok stored
    cases written
    obtain ⟨frame, step, order, all⟩ := induction others
    refine ⟨frame, ?_, ?_, ?_⟩
    · refine EvidenceStep.trans ?_ step
      exact .insertNext _ _ (fun _ => rfl) (fun _ _ => rfl)
    · exact InOrder.trans (.insertNext _ _ fun _ => rfl) order
    intro other member
    rcases mem_cons.mp member with rfl | later
    · refine ⟨db.evidence.nextKey, ?_⟩
      apply step.matched
      · simp [get?_insertNext]
      · rfl
    · exact all other later

/-! ## Finalization -/

section
variable (t : DeliveryTransmission) (r : TransmissionResult)

def settleIntent (intent : DeliveryIntent) : DeliveryIntent :=
  settleReservation t.reservedMinor r.chargedMinor (r.possible t.reservedMinor) (setDirty intent)

lemma settleTransmission_writes (now : Int) (db : DB) :
    let next := settleTransmission t r now db
    next.submissions = db.submissions ∧
      next.intents = db.intents.update t.intentID (settleIntent t r) ∧
      next.deliveries = db.deliveries ∧
      next.transmissions = db.transmissions.update t.id
        (finishTransmission r t.reservedMinor t.corr now)
        (finishTransmission_id r t.reservedMinor t.corr now) ∧
      EvidenceStep t.intentID db.evidence next.evidence := by
  obtain ⟨after, reconciled, written⟩ : ∃ after, Reconciled t.intentID (({ db with
          transmissions := db.transmissions.update t.id
            (finishTransmission r t.reservedMinor t.corr now)
            (finishTransmission_id r t.reservedMinor t.corr now) } : DB).markDirty t.intentID)
          after ∧
      settleTransmission t r now db = { after with
        intents := after.intents.update t.intentID (settleReservation t.reservedMinor
          r.chargedMinor (r.possible t.reservedMinor)) } := by
    unfold settleTransmission
    dsimp only
    split
    · exact ⟨_, .refl _ _, rfl⟩
    split
    · exact ⟨_, .refl _ _, rfl⟩
    · exact ⟨_, reconcileTx_writes { t with corr := r.correlation t.corr } _ _ _, rfl⟩
  have dirty : after.intents = db.intents.update t.intentID setDirty setDirty_id := by
    rcases reconciled.intents with same | again
    · exact same
    · exact again.trans (setDirty_twice _ _)
  dsimp only
  rw [written]
  refine ⟨reconciled.submissions, ?_, reconciled.deliveries, reconciled.transmissions,
    reconciled.evidence⟩
  dsimp only
  rw [dirty, update_update]
  rfl

end

/-- No evidence that is stored already would complete the transmission once
its correlation is known. -/
def TransmissionResult.completesNothing (r : TransmissionResult)
    (t : DeliveryTransmission) (db : DB) : Bool :=
  match r.reconcile with
  | none => true
  | some classify =>
    !db.evidence.entries.any fun e =>
      e.openFor (r.correlation t.corr) &&
        (classify { t with corr := r.correlation t.corr } e).completes.isSome

lemma settleTransmission_inOrder (now : Int) (nothing : r.completesNothing t db = true) :
    InOrder db.evidence (settleTransmission t r now db).evidence := by
  unfold settleTransmission
  dsimp only
  unfold TransmissionResult.completesNothing at nothing
  split
  · exact .refl _
  rename_i classify reconcile
  split
  · exact .refl _
  simp only [reconcile, Bool.not_eq_true', any_eq_false,
    Bool.and_eq_true, not_and, Option.not_isSome_iff_eq_none] at nothing
  exact reconcileTx_inOrder { t with corr := r.correlation t.corr }
    classify r.matchWindowS rfl nothing

lemma fenceOpen_congr {left right : DB} (same : ∀ intentID, row.intentID = some intentID →
      (right.intents.get? intentID).map (fun intent => (intent.state, intent.activeRound)) =
        (left.intents.get? intentID).map fun intent => (intent.state, intent.activeRound)) :
    right.fenceOpen row = left.fenceOpen row := by
  unfold DB.fenceOpen
  cases owner : row.intentID with
  | none => rfl
  | some intentID =>
    have agree := same intentID owner
    simp only [Option.bind_some]
    cases leftFound : left.intents.get? intentID with
    | none =>
      rw [leftFound, Option.map_none, Option.map_eq_none_iff] at agree
      rw [agree]
    | some intent =>
      rw [leftFound, Option.map_some, Option.map_eq_some_iff] at agree
      obtain ⟨other, rightFound, columns⟩ := agree
      rw [rightFound]
      simp only [Prod.mk.injEq] at columns
      simp [columns.1, columns.2]

structure Finalized (txID : Nat) (r : TransmissionResult) (now : Int)
    (db : DB) (t : DeliveryTransmission) (next : DB) : Prop where
  found : db.transmissions.get? txID = some t
  pending : t.state ≠ .done
  charged : 0 ≤ r.chargedMinor
  submissions : next.submissions = db.submissions
  intents : next.intents = db.intents.update t.intentID (settleIntent t r)
  transmissions : next.transmissions = db.transmissions.update txID
    (finishTransmission r t.reservedMinor t.corr now)
  evidence : EvidenceStep t.intentID db.evidence next.evidence
  order : r.completesNothing t db = true → InOrder db.evidence next.evidence
  /-- The row follows its transmission, and what came back is stored, if the
  row is still in flight under the transmission's claim. -/
  followed : ∀ row, db.inFlight t.attemptID t.gen = some row →
    next.deliveries = db.deliveries.update t.attemptID
      (settleRow r (r.correlation t.corr).value (db.live t.attemptID) now) (settleRow_id _ _ _ _) ∧
    ∀ ev ∈ r.evidence, ∃ id, next.evidence.get? id =
      some (storedEvidence (returnedEvidence t (r.correlation t.corr) ev) now id)
  lost : db.inFlight t.attemptID t.gen = none →
    next.deliveries = db.deliveries

lemma finalizeTx_ok {txID : Nat} (finalized : finalizeTx txID r now db = .ok (intentID, next)) :
    ∃ t, intentID = t.intentID ∧ Finalized txID r now db t next := by
  unfold finalizeTx at finalized
  cases found : db.transmissions.get? txID with
  | none => simp [found] at finalized
  | some t =>
    simp only [found] at finalized
    by_cases isDone : t.state = .done
    · simp [isDone] at finalized
    rw [if_neg isDone] at finalized
    by_cases bad : (r.chargedMinor < 0 || r.chargedUnits < 0) = true
    · simp [bad] at finalized
    rw [if_neg bad] at finalized
    have charged : 0 ≤ r.chargedMinor := by
      simp only [Bool.or_eq_true, decide_eq_true_eq, not_or] at bad
      omega
    have named : t.id = txID := key_of_get? found
    obtain ⟨submissions, intents, deliveries, transmissions, evidence⟩ :=
      settleTransmission_writes t r now db
    rw [named] at transmissions
    have sameFlight : (settleTransmission t r now db).inFlight t.attemptID
        t.gen = db.inFlight t.attemptID t.gen := by
      simp [DB.inFlight, deliveries]
    have sameLive : (settleTransmission t r now db).live t.attemptID = db.live t.attemptID := by
      simp only [DB.live, deliveries]
      cases db.deliveries.get? t.attemptID with
      | none => rfl
      | some row =>
        apply fenceOpen_congr
        intro owner _
        rw [intents, get?_update]
        split
        · cases db.intents.get? owner with
          | none => rfl
          | some intent => rfl
        · rfl
    cases flying : db.inFlight t.attemptID t.gen with
    | none =>
      rw [sameFlight, flying] at finalized
      cases finalized
      refine ⟨t, rfl, found, isDone, charged, submissions, intents,
        transmissions, evidence, settleTransmission_inOrder now, ?_, fun _ => deliveries⟩
      intro row impossible
      rw [flying] at impossible
      cases impossible
    | some row =>
      rw [sameFlight, flying] at finalized
      obtain ⟨stored, inserted, finished⟩ := bind_ok finalized
      cases finished
      obtain ⟨frame, step, order, all⟩ := insertReturned_ok inserted
      rw [frame]
      refine ⟨t, rfl, found, isDone, charged, submissions, intents,
        transmissions, evidence.trans step,
        fun nothing => (settleTransmission_inOrder now nothing).trans order, ?_, ?_⟩
      · intro _ _
        refine ⟨?_, all⟩
        simp [deliveries, sameLive]
      intro impossible
      rw [flying] at impossible
      cases impossible

lemma finalize_cases (txID : Nat) (r : TransmissionResult) (now : Int) (db : DB) :
    (∃ error, finalizeTransmission txID r now db = (.error error, db)) ∨ ∃ t next,
    finalizeTransmission txID r now db = (.ok t.intentID, next) ∧
    Finalized txID r now db t next := by
  unfold finalizeTransmission
  rcases withTx_cases (finalizeTx txID r now) db with
    ⟨error, _, failed⟩ | ⟨intentID, next, succeeded, written⟩
  · exact .inl ⟨error, failed⟩
  obtain ⟨t, rfl, finalized⟩ := finalizeTx_ok succeeded
  exact .inr ⟨t, next, written, finalized⟩

end MeshSat.Intents
