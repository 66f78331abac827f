import MeshSat.Intents.Attempts

/-!
# The system refines the ledger

A worker's call owns the row it claimed: the row stays `sending` under that
claim until the call itself, or the recovery after a stop, moves it. From
this the guards of the ledger machine follow, and with them every step of the
system is one of its transactions or writes nothing.
-/

namespace MeshSat.Intents

open Library List Table

/-! ## What a transaction leaves of another call's claim -/

/-- The row of a claim, its transmissions and the known transmission ids are
not disturbed. -/
structure KeepsClaim (id : Nat) (db next : DB) : Prop where
  row : ∀ row, db.deliveries.get? id = some row → row.status = .sending →
    row.intentID.isSome = true → ∃ other, next.deliveries.get? id = some other ∧
      other.status = .sending ∧ other.intentID = row.intentID ∧ other.claimGen = row.claimGen
  unsent : ∀ gen, db.Unsent id gen → next.Unsent id gen
  used : ∀ txID ∈ db.transmissions.used, txID ∈ next.transmissions.used
  attempt : ∀ txID later, txID ∈ db.transmissions.used →
    next.transmissions.get? txID = some later →
    ∃ t, db.transmissions.get? txID = some t ∧ later.attemptID = t.attemptID

lemma KeepsClaim.refl (id : Nat) (db : DB) : KeepsClaim id db db where
  row row found sending _ := ⟨row, found, sending, rfl, rfl⟩
  unsent _ unsent := unsent
  used _ member := member
  attempt _ later _ found := ⟨later, found, rfl⟩

/-- Transmissions change without moving to another attempt or claim. -/
def SameClaims (db next : DB) : Prop :=
  db.transmissions.Step (fun t later => later.attemptID = t.attemptID ∧ later.gen = t.gen)
    Table.nothing (fun _ => True) next.transmissions

variable {id attemptID : Nat} {db : DB} {next s : State} {row : MessageDelivery}
  {req : IntentRequest} {contact : Recipient} {subID : String}

lemma KeepsClaim.of_same {next : DB}
    (row : ∀ row, db.deliveries.get? id = some row → row.status = .sending →
      row.intentID.isSome = true → ∃ other, next.deliveries.get? id = some other ∧
        other.status = .sending ∧ other.intentID = row.intentID ∧
        other.claimGen = row.claimGen) (transmissions : SameClaims db next) :
    KeepsClaim id db next where
  row := row
  unsent gen unsent txID later found attempt := by
    rcases transmissions.backward txID later found with
      ⟨t, old, sameAttempt, sameGen⟩ | ⟨_, none⟩
    · rw [sameGen]
      exact unsent txID t old (sameAttempt ▸ attempt)
    · exact none.elim
  used := transmissions.used
  attempt txID later member found := by
    rcases transmissions.backward txID later found with
      ⟨t, old, sameAttempt, _⟩ | ⟨_, none⟩
    · exact ⟨t, old, sameAttempt⟩
    · exact none.elim

lemma SameClaims.of_eq {next : DB} (same : next.transmissions = db.transmissions) :
    SameClaims db next := by
  unfold SameClaims
  rw [same]
  exact .refl _ fun _ => ⟨rfl, rfl⟩

lemma SameClaims.of_quiet {next : DB} (quiet : TransmissionsQuiet db next) :
    SameClaims db next := by
  refine Table.Step.mono quiet ?_ (fun _ none => none) fun _ _ => trivial
  intro t later same
  rw [same]
  exact ⟨rfl, rfl⟩

lemma RowsQuiet.sending {next : DB} (quiet : RowsQuiet db next) (id : Nat) (row : MessageDelivery)
    (found : db.deliveries.get? id = some row) (sending : row.status = .sending)
    (owned : row.intentID.isSome = true) : ∃ other, next.deliveries.get? id = some other ∧
    other.status = .sending ∧ other.intentID = row.intentID ∧ other.claimGen = row.claimGen := by
  rcases quiet.forward id row found with
    ⟨other, otherFound, change⟩ | ⟨_, none⟩
  · obtain ⟨_, _, _, claim, status⟩ := change.attempt owned
    refine ⟨other, otherFound, ?_, change.intentID, claim⟩
    rcases status with same | ⟨unclaimed, _⟩
    · exact same.trans sending
    rw [sending] at unclaimed
    cases unclaimed
  · exact none.elim

lemma update_other (other : id ≠ target) (change : MessageDelivery → MessageDelivery)
    (keeps : ∀ row, (change row).id = row.id) : ∀ row,
    db.deliveries.get? id = some row → row.status = .sending → row.intentID.isSome = true → ∃ later,
    (db.deliveries.update target change keeps).get? id = some later ∧ later.status = .sending ∧
    later.intentID = row.intentID ∧ later.claimGen = row.claimGen := by
  intro row found sending _
  exact ⟨row, by rw [get?_update_ne _ other]; exact found, sending, rfl, rfl⟩

/-- The row a transaction moves out of `sending`, or authorizes for. -/
def Op.target (db : DB) : Op → Option Nat
  | .authorize attemptID _ _ _ _ => some attemptID
  | .finalize txID _ _ => (db.transmissions.get? txID).map DeliveryTransmission.attemptID
  | .endAttempt attemptID _ _ _ _ _ _ => some attemptID
  | .release id _ => some id
  | _ => none

lemma claim_keeps (claimed id : Nat) (db : DB) :
    KeepsClaim id db (claimDeliveryForSending claimed db).2 := by
  rcases claim_cases claimed db with
    ⟨row, found, claimable, written⟩ | unchanged
  · rw [written]
    refine .of_same ?_ (.of_eq rfl)
    intro other otherFound sending owned
    have different : id ≠ claimed := by
      rintro rfl
      rw [found] at otherFound
      cases otherFound
      rcases claimable_status claimable with queued | retry <;> simp_all
    exact update_other different claimRow (fun _ => rfl) other otherFound sending owned
  rw [unchanged]
  exact .refl id db

lemma authorize_keeps (other : attemptID ≠ id) :
    KeepsClaim id db (authorizeTransmission attemptID gen unitKind units minor db).2 := by
  rcases authorize_cases attemptID gen unitKind units minor db with
    ⟨error, unchanged⟩ | ⟨row, intentID, next, answer, granted⟩
  · rw [unchanged]
    exact .refl id db
  rw [answer, granted.written]
  refine ⟨fun row found sending _ => ⟨row, found, sending, rfl, rfl⟩, ?_, ?_, ?_⟩
  · intro claim unsent txID t found attempt
    rw [get?_insertNext] at found
    split at found
    · cases found
      exact (other attempt).elim
    · exact unsent txID t found attempt
  · intro txID member
    rw [used_insertNext]
    exact mem_cons_of_mem _ member
  intro txID later member found
  rw [get?_insertNext] at found
  split at found
  next new =>
    rw [new] at member
    exact (nextKey_unused _ member).elim
  · exact ⟨later, found, rfl⟩

lemma handOff_keeps {txID : Nat} {corr : Correlation} {now : Int} {id : Nat} {db : DB} :
    KeepsClaim id db (markTransmissionHandedOffWith txID corr now db).2 := by
  rcases handOff_cases txID corr now db with
    unchanged | ⟨t, found, _, written⟩
  · rw [unchanged]
    exact .refl id db
  rw [written]
  refine .of_same (fun row found sending _ => ⟨row, found, sending, rfl, rfl⟩) ?_
  exact Table.Step.update (fun _ _ => ⟨rfl, rfl⟩) fun _ => ⟨rfl, rfl⟩

variable {txID : Nat}

lemma finalize_keeps
    (other : (db.transmissions.get? txID).map DeliveryTransmission.attemptID ≠ some id)
    (r : TransmissionResult) (now : Int) :
    KeepsClaim id db (finalizeTransmission txID r now db).2 := by
  rcases finalize_cases txID r now db with
    ⟨error, unchanged⟩ | ⟨t, next, answer, finalized⟩
  · rw [unchanged]
    exact .refl id db
  rw [answer]
  have different : id ≠ t.attemptID := by
    intro same
    apply other
    rw [finalized.found, same]
    rfl
  refine .of_same ?_ ?_
  · cases flying : db.inFlight t.attemptID t.gen with
    | none =>
      rw [finalized.lost flying]
      exact fun row found sending _ => ⟨row, found, sending, rfl, rfl⟩
    | some row =>
      rw [(finalized.followed row flying).1]
      exact update_other different _ _
  unfold SameClaims
  rw [finalized.transmissions]
  exact .update (fun _ _ => ⟨rfl, rfl⟩) fun _ => ⟨rfl, rfl⟩

lemma endAttempt_keeps (other : attemptID ≠ id) (gen : Nat) (reason detail : String)
    (retryable : Bool) (retryAt : Option Int) (now : Int) (db : DB) :
    KeepsClaim id db (endAttemptNotSent attemptID gen reason detail retryable
      retryAt now db).2 := by
  rcases endAttempt_cases attemptID gen reason detail retryable retryAt now db
    with unchanged | ⟨row, _, _, _, written⟩
  · rw [unchanged]
    exact .refl id db
  rw [written]
  exact .of_same (update_other other.symm
    (endRow (db.live attemptID) retryable reason detail retryAt now) fun _ => rfl) (.of_eq rfl)

lemma release_keeps {released : Nat} (other : released ≠ id) (now : Int) (db : DB) :
    KeepsClaim id db (releaseRow released now db) := by
  refine .of_same ?_ (.of_eq rfl)
  intro row found sending _
  have named : row.id = id := key_of_get? found
  refine ⟨row, ?_, sending, rfl, rfl⟩
  simp [releaseRow, found, named, other.symm]

lemma Op.keepsClaim (op : Op) {id : Nat} {db : DB}
    (other : op.target db ≠ some id) : KeepsClaim id db (op.run db) := by
  by_cases quiet : op.quiet = true
  · exact .of_same ((Op.rowsQuiet quiet db).sending id) (.of_quiet (Op.transmissionsQuiet quiet db))
  · cases op with
    | claim row => exact claim_keeps row id db
    | authorize attemptID gen unitKind units minor =>
      exact authorize_keeps (fun same => other (congrArg some same))
    | handOff txID corr now => exact handOff_keeps
    | finalize txID r now => exact finalize_keeps other r now
    | endAttempt attemptID gen reason detail retryable retryAt now =>
      exact endAttempt_keeps (fun same => other (congrArg some same)) gen
        reason detail retryable retryAt now db
    | release row now => exact release_keeps (fun same => other (congrArg some same)) now db
    | _ => exact (quiet rfl).elim

/-! ## Calls own their rows -/

/-- What a call knows about the row it claimed. -/
def Pc.Holds (row : MessageDelivery) (db : DB) : Pc → Prop
  | .claimed => db.Unsent row.id row.claimGen
  | .checked gen | .overCap gen => gen = row.claimGen ∧ db.Unsent row.id gen
  | .authorized txID | .handoffFailed txID | .handedOff txID =>
    txID ∈ db.transmissions.used ∧ ∀ t, db.transmissions.get? txID = some t → t.attemptID = row.id

/-- A row is `sending` for an intent. -/
def DB.Sending (db : DB) (id : Nat) (row : MessageDelivery) : Prop :=
  db.deliveries.get? id = some row ∧ row.status = .sending ∧ row.intentID.isSome = true

structure WellRun (s : State) : Prop where
  calls : ∀ id call, s.calls.get? id = some call →
    ∃ row, s.db.Sending call.row row ∧ call.pc.Holds row s.db
  distinct : ∀ left right call other, s.calls.get? left = some call →
    s.calls.get? right = some other → other.row = call.row → left = right
  idle : s.phase ≠ .running → ∀ id, s.calls.get? id = none
  todo : ∀ todo, s.phase = .recovering todo → (todo.map Stale.id).Nodup ∧
      ∀ stale ∈ todo, ∃ row, s.db.Sending stale.id row ∧ row.claimGen = stale.gen

lemma WellRun.initial : WellRun initial := by
  refine ⟨?_, ?_, fun _ _ => rfl, ?_⟩
  · intro id call found
    cases found
  · intro left right call other found
    cases found
  intro todo phase
  cases phase

lemma KeepsClaim.sending {next : DB} (keeps : KeepsClaim id db next) (sending : db.Sending id row) :
    ∃ other, next.Sending id other ∧ other.claimGen = row.claimGen := by
  obtain ⟨found, status, owned⟩ := sending
  obtain ⟨other, otherFound, otherStatus, owner, claim⟩ := keeps.row row found status owned
  exact ⟨other, ⟨otherFound, otherStatus, by rw [owner]; exact owned⟩, claim⟩

lemma KeepsClaim.call {next : DB} {call : Call} (keeps : KeepsClaim call.row db next)
    (sending : db.Sending call.row row) (holds : call.pc.Holds row db) :
    ∃ other, next.Sending call.row other ∧ call.pc.Holds other next := by
  obtain ⟨other, otherSending, claim⟩ := keeps.sending sending
  refine ⟨other, otherSending, ?_⟩
  have named : row.id = call.row := key_of_get? sending.1
  have otherNamed : other.id = call.row := key_of_get? otherSending.1
  have transmission (txID : Nat) (known : txID ∈ db.transmissions.used ∧
      ∀ t, db.transmissions.get? txID = some t → t.attemptID = row.id) :
      txID ∈ next.transmissions.used ∧ ∀ t, next.transmissions.get? txID = some t →
          t.attemptID = other.id := by
    refine ⟨keeps.used txID known.1, ?_⟩
    intro later found
    obtain ⟨t, old, sameAttempt⟩ := keeps.attempt txID later known.1 found
    rw [sameAttempt, known.2 t old, named, otherNamed]
  cases pc : call.pc with
  | claimed =>
    rw [pc] at holds
    change db.Unsent row.id row.claimGen at holds
    change next.Unsent other.id other.claimGen
    rw [named] at holds
    rw [otherNamed, claim]
    exact keeps.unsent _ holds
  | checked gen | overCap gen =>
    rw [pc] at holds
    obtain ⟨same, unsent⟩ := holds
    rw [named] at unsent
    refine ⟨same.trans claim.symm, ?_⟩
    rw [otherNamed]
    exact keeps.unsent _ unsent
  | authorized txID | handoffFailed txID | handedOff txID =>
    rw [pc] at holds
    exact transmission txID holds

lemma WellRun.of_keeps (well : WellRun s) (looks : Table Look.id)
    (keeps : ∀ id, KeepsClaim id s.db db) : WellRun { s with db, looks } := by
  refine ⟨?_, well.distinct, well.idle, ?_⟩
  · intro id call found
    obtain ⟨row, sending, holds⟩ := well.calls id call found
    exact (keeps call.row).call sending holds
  intro todo phase
  obtain ⟨distinct, rows⟩ := well.todo todo phase
  refine ⟨distinct, ?_⟩
  intro stale member
  obtain ⟨row, sending, claim⟩ := rows stale member
  obtain ⟨other, otherSending, otherClaim⟩ := (keeps stale.id).sending sending
  exact ⟨other, otherSending, otherClaim.trans claim⟩

section
variable (well : WellRun s) (running : s.phase = .running) {call : Call}
  (found : s.calls.get? id = some call)

include well running found

section
variable (keeps : ∀ other, other ≠ call.row → KeepsClaim other s.db db)

include keeps

lemma WellRun.endCall : WellRun (s.endCall call db) := by
  have named : call.id = id := key_of_get? found
  have kept (name : Nat) (other : Call)
      (otherFound : (s.endCall call db).calls.get? name = some other) :
      s.calls.get? name = some other ∧ other.row ≠ call.row := by
    simp only [State.endCall, get?_deleteWhere,
      Option.filter_eq_some_iff, Bool.not_eq_true', decide_eq_false_iff_not] at otherFound
    refine ⟨otherFound.1, ?_⟩
    intro same
    have sameName := well.distinct name id other call otherFound.1 found same.symm
    have otherNamed : other.id = name := key_of_get? otherFound.1
    exact otherFound.2 (by rw [otherNamed, sameName, named])
  refine ⟨?_, ?_, ?_, ?_⟩
  · intro name other otherFound
    obtain ⟨old, different⟩ := kept name other otherFound
    obtain ⟨row, sending, holds⟩ := well.calls name other old
    exact (keeps other.row different).call sending holds
  · intro left right first second leftFound rightFound
    exact well.distinct left right first second (kept left first leftFound).1
      (kept right second rightFound).1
  · intro notRunning
    exact (notRunning running).elim
  intro todo phase
  rw [show (s.endCall call db).phase = s.phase from rfl, running] at phase
  cases phase

lemma WellRun.moveTo (own : ∃ row, db.Sending call.row row ∧ pc.Holds row db) : WellRun
    (s.moveTo call pc db) := by
  have named : call.id = id := key_of_get? found
  have before (name : Nat) (later : Call)
      (laterFound : (s.moveTo call pc db).calls.get? name = some later) :
      ∃ old, s.calls.get? name = some old ∧ later.row = old.row ∧
        (name = id ∧ later.pc = pc ∨ name ≠ id ∧ later = old) := by
    simp only [State.moveTo, get?_update, named] at laterFound
    split at laterFound
    next same =>
      obtain ⟨old, oldFound, rfl⟩ := Option.map_eq_some_iff.mp laterFound
      exact ⟨old, oldFound, rfl, .inl ⟨same, rfl⟩⟩
    next different =>
      exact ⟨later, laterFound, rfl, .inr ⟨different, rfl⟩⟩
  refine ⟨?_, ?_, ?_, ?_⟩
  · intro name later laterFound
    obtain ⟨old, oldFound, sameRow, moved | kept⟩ := before name later laterFound
    · obtain ⟨same, isPc⟩ := moved
      rw [same, found] at oldFound
      cases oldFound
      rw [sameRow, isPc]
      exact own
    obtain ⟨different, rfl⟩ := kept
    obtain ⟨row, sending, holds⟩ := well.calls name later oldFound
    refine (keeps later.row ?_).call sending holds
    intro same
    exact different (well.distinct name id later call oldFound found same.symm)
  · intro left right first second leftFound rightFound sameRow
    obtain ⟨old, oldFound, oldRow, _⟩ := before left first leftFound
    obtain ⟨other, otherFound, otherRow, _⟩ := before right second rightFound
    exact well.distinct left right old other oldFound otherFound
      (by rw [← oldRow, ← otherRow, sameRow])
  · intro notRunning
    exact (notRunning running).elim
  intro todo phase
  rw [show (s.moveTo call pc db).phase = s.phase from rfl, running] at phase
  cases phase

end

end

variable {gen : Nat}

lemma transmissionOfClaim_none
    (absent : db.transmissionOfClaim attemptID gen = none) : db.Unsent attemptID gen := by
  intro txID t found attempt same
  have unmatched := List.find?_eq_none.mp absent t (mem_of_get? found)
  simp [attempt, same] at unmatched

lemma transmissionOfClaim_some (present : db.transmissionOfClaim attemptID gen = some t) :
    db.transmissions.get? t.id = some t ∧ t.attemptID = attemptID ∧ t.gen = gen := by
  have member : t ∈ db.transmissions := mem_of_find?_eq_some present
  have named := List.find?_some present
  simp only [Bool.and_eq_true, decide_eq_true_eq] at named
  exact ⟨get?_of_mem member, named.1, named.2⟩

/-! ## Every step -/

/-- A step either writes nothing or makes the transaction `opOf` names, with
its guard met. -/
def Simulated (s : State) (action : Action) (next : State) : Prop :=
  next.db = s.db ∨ ∃ op, opOf s action = some op ∧ op.Enabled s.db ∧ next.db = op.run s.db

/-- In the recovery a row is released, or its transmission finalized; the
replay of a finished transmission never happens. -/
lemma recoverRow_run (attempts : Attempts db) (sending : db.Sending stale.id row)
    (claim : row.claimGen = stale.gen) (now : Int) : ∃ op, opOfRecovery db stale now = some op ∧
    op.Enabled db ∧ op.target db = some stale.id ∧
    (withTx (recoverRow stale now) db).2 = op.run db := by
  unfold opOfRecovery
  cases present : db.transmissionOfClaim stale.id stale.gen with
  | none =>
    refine ⟨_, rfl, ⟨row, sending.1, sending.2.1, sending.2.2, ?_⟩, rfl, ?_⟩
    · rw [claim]
      exact transmissionOfClaim_none present
    · simp [withTx, recoverRow, present, Op.run]
  | some t =>
    obtain ⟨found, attempt, gen⟩ := transmissionOfClaim_some present
    have finalizes (r : TransmissionResult) (kind : RecoverCase) (body : recoverRow stale now db =
          (finalizeTx t.id r now db).bind fun pair => .ok (kind, pair.2)) :
        (withTx (recoverRow stale now) db).2 = (Op.finalize t.id r now).run db := by
      simp only [withTx, body, Op.run, finalizeTransmission]
      cases finalizeTx t.id r now db with
      | error error => rfl
      | ok pair => rfl
    have target (r : TransmissionResult) : (Op.finalize t.id r now).target db = some stale.id := by
      simp [Op.target, found, attempt]
    cases state : t.state with
    | authorized =>
      refine ⟨.finalize t.id recoveredAuthorized now, ?_, trivial, target _,
        finalizes _ .authorized ?_⟩
      · simp [state]
      simp only [recoverRow, present, state]
      rfl
    | handedOff =>
      refine ⟨.finalize t.id recoveredHandedOff now, ?_, trivial, target _,
        finalizes _ .handedOff ?_⟩
      · simp [state]
      simp only [recoverRow, present, state]
      rfl
    | done =>
      obtain ⟨other, otherFound, agrees⟩ := attempts.owned t.id t found
      rw [attempt, sending.1] at otherFound
      cases otherFound
      have settled := agrees.current (gen.trans claim.symm)
      rw [sending.2.1] at settled
      exact (settled.1 state).elim

lemma simulated_write (op : Op) (written : s.write db = some next) (isOp : opOf s action = some op)
    (enabled : op.Enabled s.db) (run : db = op.run s.db) : Simulated s action next := by
  unfold State.write at written
  split at written
  · cases written
  · cases written
    exact .inr ⟨op, isOp, enabled, run⟩

lemma create_db :
    (create req subID now intents db).2 = (opOfCreate req subID now intents).run db := by
  unfold create opOfCreate
  simp only [Op.run]
  split <;> simp_all

variable {now : Int}

lemma submit_simulated {id : String}
    (written : s.write (submit req contact id subID now s.db).2 = some next) :
    Simulated s (.submit req contact id subID now) next := by
  have unchanged (same : (submit req contact id subID now s.db).2 = s.db) :
      Simulated s (.submit req contact id subID now) next := by
    unfold State.write at written
    split at written
    · cases written
    · cases written
      exact .inl same
  cases again : repeated req s.db with
  | some answer => exact unchanged (by simp [submit, again])
  | none =>
    cases prepared : prepareIntent req contact id subID with
    | error refusal => exact unchanged (by simp [submit, again, prepared])
    | ok new =>
      refine simulated_write (opOfCreate req subID now [new]) written ?_ ?_ ?_
      · simp [opOf, again, prepared]
      · intro other member
        rw [mem_singleton.mp member]
        exact .routed prepared
      simp only [submit, again, prepared]
      exact create_db

lemma firstRound_isEmpty (none : (firstRound plan .orderedFallback excluded).isEmpty = true) :
    ∀ p ∈ plan, p.admitted = false := by
  intro p member
  by_contra admitted
  have kept : p ∈ plan.filter RoutePlanEntry.admitted :=
    mem_filter.mpr ⟨member, by simpa using admitted⟩
  unfold firstRound at none
  dsimp only at none
  split at none
  · rw [List.isEmpty_iff, List.take_eq_nil_iff] at none
    rcases none with impossible | nothing
    · cases impossible
    rw [nothing] at kept
    cases kept
  · cases none

lemma prepareIntent_error {id : String}
    (refused : prepareIntent req contact id subID = .error refusal) :
    refusal.effective = .orderedFallback → ∀ p ∈ refusal.plan, p.admitted = false := by
  unfold prepareIntent at refused
  dsimp only at refused
  split at refused
  next none =>
    cases refused
    intro strategy
    dsimp only at strategy
    rw [strategy] at none
    exact firstRound_isEmpty none
  · cases refused

lemma memberIntent_prepared : (memberIntent req subID now member).1.Prepared := by
  cases member with
  | addressed id contact =>
    cases prepared : prepareIntent req contact id subID with
    | ok new =>
      simp only [memberIntent, prepared]
      exact .routed prepared
    | error refusal =>
      simp only [memberIntent, prepared]
      exact .refused _ _ _ _ _ _ _ (prepareIntent_error prepared)
  | noAddress id conflicts expiryAllowS => exact .refused _ _ _ _ _ _ _ (by simp)

lemma submitTeam_simulated
    (written : s.write (submitTeam req members subID now s.db).2 = some next) :
    Simulated s (.submitTeam req members subID now) next := by
  have unchanged (same : (submitTeam req members subID now s.db).2 = s.db) :
      Simulated s (.submitTeam req members subID now) next := by
    unfold State.write at written
    split at written
    · cases written
    · cases written
      exact .inl same
  cases again : repeated req s.db with
  | some answer => exact unchanged (by simp [submitTeam, again])
  | none =>
    by_cases empty : members.isEmpty = true
    · exact unchanged (by simp [submitTeam, again, empty])
    by_cases refused : ((members.map (memberIntent req subID now)).all
        fun result => result.2.isSome) = true
    · exact unchanged (by
        simp only [submitTeam, again, empty, refused]
        simp)
    refine simulated_write (opOfCreate req subID now
      ((members.map (memberIntent req subID now)).map Prod.fst)) written ?_ ?_ ?_
    · simp only [opOf, again, empty, refused]
      simp
    · intro new member
      obtain ⟨pair, pairMember, rfl⟩ := mem_map.mp member
      obtain ⟨one, _, rfl⟩ := mem_map.mp pairMember
      exact memberIntent_prepared
    simp only [submitTeam, again, empty, refused]
    exact create_db

/-! ## The worker's steps -/

/-- A step of a call: it makes the transaction `opOfWorker` names or none, and
calls still own their rows. -/
structure CallStep (s : State) (call : Call) (step : WorkerStep) (next : State) : Prop where
  simulated : next.db = s.db ∨ ∃ op, opOfWorker call call.pc step = some op ∧ op.Enabled s.db ∧
      next.db = op.run s.db
  well : WellRun next

section
variable {s : State} (well : WellRun s) (running : s.phase = .running)
  {id : Nat} {call : Call} (found : s.calls.get? id = some call)

include well running found

lemma call_abandons (step : WorkerStep) : CallStep s call step (s.endCall call s.db) :=
  ⟨.inl rfl, well.endCall running found fun other _ => .refl other s.db⟩

variable {step : WorkerStep}

lemma call_ends (op : Op) (isOp : opOfWorker call call.pc step = some op)
    (enabled : op.Enabled s.db) (own : ∀ other, op.target s.db = some other → other = call.row) :
    CallStep s call step (s.endCall call (op.run s.db)) := by
  refine ⟨.inr ⟨op, isOp, enabled, rfl⟩, well.endCall running found ?_⟩
  intro other different
  exact op.keepsClaim fun target => different (own other target)

lemma call_authorizes (pc : call.pc = .checked gen)
    (unitKind : String) (units minor : Int) : CallStep s call (.authorize unitKind units minor)
      (afterAuthorize s call gen
        (authorizeTransmission call.row gen unitKind units minor s.db)) := by
  have isOp : opOfWorker call call.pc (.authorize unitKind units minor) =
      some (.authorize call.row gen unitKind units minor) := by
    rw [pc]
    rfl
  obtain ⟨row, sending, holds⟩ := well.calls id call found
  have named : row.id = call.row := key_of_get? sending.1
  have others : ∀ other, other ≠ call.row → KeepsClaim other s.db
      (authorizeTransmission call.row gen unitKind units minor s.db).2 :=
    fun other different =>
      authorize_keeps different.symm
  rcases authorize_cases call.row gen unitKind units minor s.db with
    ⟨error, refused⟩ | ⟨claimed, intentID, next, answer, granted⟩
  · rw [refused] at others ⊢
    cases error with
    | overCap =>
      refine ⟨.inl rfl, well.moveTo running found others ⟨row, sending, ?_⟩⟩
      rw [pc] at holds
      exact holds
    | _ => exact ⟨.inl rfl, well.endCall running found others⟩
  rw [answer] at others ⊢
  refine ⟨.inr ⟨_, isOp, trivial, (congrArg Prod.snd answer).symm⟩,
    well.moveTo running found others ⟨row, ?_, ?_⟩⟩
  · rw [granted.written]
    exact sending
  rw [granted.written]
  refine ⟨?_, ?_⟩
  · rw [used_insertNext]
    exact mem_cons_self
  intro t txFound
  rw [get?_insertNext, if_pos rfl] at txFound
  cases txFound
  exact named.symm

lemma call_hands_off (pc : call.pc = .authorized txID)
    (corr : Correlation) (now : Int) : CallStep s call (.handOff corr now) (afterHandOff s call txID
        (markTransmissionHandedOffWith txID corr now s.db)) := by
  have isOp : opOfWorker call call.pc (.handOff corr now) = some (.handOff txID corr now) := by
    rw [pc]
    rfl
  obtain ⟨row, sending, holds⟩ := well.calls id call found
  have keeps : ∀ other, KeepsClaim other s.db
      (markTransmissionHandedOffWith txID corr now s.db).2 :=
    fun other => handOff_keeps
  have own := (keeps call.row).call sending holds
  rw [pc] at own
  have moves : ∀ later, (later = .handedOff txID ∨
      later = .handoffFailed txID) → WellRun (s.moveTo call later
        (markTransmissionHandedOffWith txID corr now s.db).2) := by
    rintro later (rfl | rfl) <;> exact well.moveTo running found (fun other _ => keeps other) own
  rcases handOff_cases txID corr now s.db with refused | ⟨_, _, _, recorded⟩
  · refine ⟨.inl (by rw [refused]; rfl), ?_⟩
    have after := moves (.handoffFailed txID) (.inr rfl)
    rw [refused] at after ⊢
    exact after
  refine ⟨.inr ⟨_, isOp, trivial, ?_⟩, ?_⟩
  · change _ = (markTransmissionHandedOffWith txID corr now s.db).2
    rw [recorded]
    rfl
  have after := moves (.handedOff txID) (.inl rfl)
  rw [recorded] at after ⊢
  exact after

lemma call_finalizes (isOp : opOfWorker call call.pc step = some (.finalize txID r now))
    (known : ∀ t, s.db.transmissions.get? txID = some t → t.attemptID = call.row) :
    CallStep s call step (s.endCall call (finalizeTransmission txID r now s.db).2) := by
  refine call_ends well running found _ isOp trivial ?_
  intro other target
  obtain ⟨t, txFound, rfl⟩ := Option.map_eq_some_iff.mp target
  exact known t txFound

lemma execCall_step {next : State} (executed : execCall s call call.pc step = some next) :
    CallStep s call step next := by
  obtain ⟨row, sending, holds⟩ := well.calls id call found
  have named : row.id = call.row := key_of_get? sending.1
  cases pc : call.pc with
  | claimed =>
    rw [pc] at executed holds
    cases step with
    | abandon =>
      cases executed
      exact call_abandons well running found _
    | reread =>
      simp only [execCall, sending.1] at executed
      cases executed
      refine ⟨.inl rfl, well.moveTo running found
        (fun other _ => .refl other s.db) ⟨row, sending, rfl, holds⟩⟩
    | _ => cases executed
  | checked gen =>
    rw [pc] at executed holds
    obtain ⟨_, unsent⟩ := holds
    rw [named] at unsent
    cases step with
    | abandon =>
      cases executed
      exact call_abandons well running found _
    | refuse reason detail retryable retryAt now =>
      cases executed
      refine call_ends well running found
        (.endAttempt call.row gen reason detail retryable retryAt now) ?_ unsent ?_
      · rw [pc]
        rfl
      intro other target
      exact (Option.some.inj target).symm
    | authorize unitKind units minor =>
      cases executed
      exact call_authorizes well running found pc unitKind units minor
    | _ => cases executed
  | overCap gen =>
    rw [pc] at executed holds
    obtain ⟨_, unsent⟩ := holds
    rw [named] at unsent
    cases step with
    | abandon =>
      cases executed
      exact call_abandons well running found _
    | endOverCap reason detail now =>
      cases executed
      refine call_ends well running found (.endAttempt call.row gen reason detail false none now)
        ?_ unsent ?_
      · rw [pc]
        rfl
      intro other target
      exact (Option.some.inj target).symm
    | _ => cases executed
  | authorized txID =>
    rw [pc] at executed holds
    have known := named ▸ holds.2
    cases step with
    | abandon =>
      cases executed
      exact call_abandons well running found _
    | noCorrelation mesh detail now =>
      cases executed
      exact call_finalizes well running found (by rw [pc]; rfl) known
    | handOff corr now =>
      cases executed
      exact call_hands_off well running found pc corr now
    | handOffFails =>
      cases executed
      exact ⟨.inl rfl, well.moveTo running found
        (fun other _ => .refl other s.db) ⟨row, sending, holds⟩⟩
    | _ => cases executed
  | handoffFailed txID =>
    rw [pc] at executed holds
    have known := named ▸ holds.2
    cases step with
    | abandon =>
      cases executed
      exact call_abandons well running found _
    | endHandOff detail now =>
      cases executed
      exact call_finalizes well running found (by rw [pc]; rfl) known
    | _ => cases executed
  | handedOff txID =>
    rw [pc] at executed holds
    have known := named ▸ holds.2
    cases step with
    | abandon =>
      cases executed
      exact call_abandons well running found _
    | finish result now =>
      cases executed
      exact call_finalizes well running found (by rw [pc]; rfl) known
    | _ => cases executed

end

/-! ## Claiming, starting and recovering -/

variable {s next : State} {db : DB} {now : Int} {action : Action}

lemma WellRun.claim (well : WellRun s) (attempts : Attempts s.db) {id : Nat}
    (executed : execClaim s id = some next) :
    next.db = (claimDeliveryForSending id s.db).2 ∧ WellRun next := by
  unfold execClaim at executed
  split at executed
  next row running found =>
    split at executed
    next owned =>
      have keeps (other : Nat) := claim_keeps id other s.db
      rcases claim_cases id s.db with
        ⟨claimed, claimedFound, claimable, written⟩ | refused
      · rw [found] at claimedFound
        cases claimedFound
        rw [written] at executed
        cases executed
        refine ⟨by rw [written], ?_⟩
        have notSending : row.status ≠ .sending := by
          rcases claimable_status claimable with queued | retry <;> simp_all
        have free (name : Nat) (call : Call)
            (called : s.calls.get? name = some call) : call.row ≠ id := by
          rintro rfl
          obtain ⟨other, sending, _⟩ := well.calls name call called
          obtain ⟨otherFound, status, _⟩ := sending
          rw [found] at otherFound
          cases otherFound
          exact notSending status
        rw [written] at keeps
        have kept := well.of_keeps s.looks keeps
        refine ⟨?_, ?_, ?_, kept.todo⟩
        · intro name call called
          rw [get?_insertNext] at called
          split at called
          · cases called
            refine ⟨claimRow row, ⟨?_, rfl, owned⟩, ?_⟩
            · dsimp [newCall]
              rw [get?_update_self, found]
              rfl
            intro txID t txFound attempt gen
            obtain ⟨other, otherFound, agrees⟩ := attempts.owned txID t txFound
            have named : row.id = id := key_of_get? found
            change t.attemptID = row.id at attempt
            rw [attempt, named, found] at otherFound
            cases otherFound
            have bound := agrees.bound
            change t.gen = row.claimGen + 1 at gen
            omega
          · exact kept.calls name call called
        · intro left right call other leftFound rightFound sameRow
          rw [get?_insertNext] at leftFound rightFound
          split at leftFound
          next newLeft =>
            cases leftFound
            split at rightFound
            next newRight => exact newLeft.trans newRight.symm
            · exact (free right other rightFound sameRow).elim
          · split at rightFound
            · cases rightFound
              exact (free left call leftFound sameRow.symm).elim
            · exact well.distinct left right call other leftFound rightFound sameRow
        intro notRunning
        exact (notRunning running).elim
      rw [refused] at executed
      cases executed
      exact ⟨by rw [refused], well⟩
    · cases executed
  · cases executed

lemma DB.staleRows_nodup (db : DB) : (db.staleRows.map Stale.id).Nodup := by
  simp only [DB.staleRows, map_map]
  exact db.deliveries.nodup.sublist (filter_sublist.map MessageDelivery.id)

lemma DB.staleRows_sending (member : stale ∈ db.staleRows) :
    ∃ row, db.Sending stale.id row ∧ row.claimGen = stale.gen := by
  obtain ⟨row, rowMember, rfl⟩ := mem_map.mp member
  obtain ⟨stored, selected⟩ := mem_filter.mp rowMember
  simp only [Bool.and_eq_true, decide_eq_true_eq] at selected
  exact ⟨row, ⟨get?_of_mem stored, selected.1, selected.2⟩, rfl⟩

lemma WellRun.start (well : WellRun s) (stopped : s.phase = .stopped) :
    WellRun { s with phase := .recovering s.db.staleRows } := by
  have idle := well.idle (by simp [stopped])
  refine ⟨well.calls, well.distinct, fun _ => idle, ?_⟩
  rintro todo phase
  cases phase
  exact ⟨s.db.staleRows_nodup, fun _ => DB.staleRows_sending⟩

lemma WellRun.run (well : WellRun s) (notRunning : s.phase ≠ .running) :
    WellRun { s with db, phase := .running } := by
  have idle := well.idle notRunning
  refine ⟨?_, well.distinct, fun _ => idle, ?_⟩
  · intro id call found
    rw [show s.calls.get? id = none from idle id] at found
    cases found
  intro todo phase
  cases phase

lemma WellRun.stop (s : State) :
    WellRun { s with calls := .empty, looks := .empty, phase := .stopped } := by
  refine ⟨?_, ?_, fun _ _ => rfl, ?_⟩
  · intro id call found
    cases found
  · intro left right call other found
    cases found
  intro todo phase
  cases phase

lemma WellRun.recoverRow (well : WellRun s) (attempts : Attempts s.db)
    (executed : execRecoverRow s now = some next) :
    Simulated s (.recoverRow now) next ∧ WellRun next := by
  unfold execRecoverRow at executed
  split at executed
  next stale rest phase =>
    obtain ⟨distinct, rows⟩ := well.todo _ phase
    obtain ⟨row, sending, claim⟩ := rows stale mem_cons_self
    obtain ⟨op, isOp, enabled, target, written⟩ := recoverRow_run attempts sending claim now
    have named : opOf s (.recoverRow now) = some op := by
      simp only [opOf, phase]
      exact isOp
    have notRunning : s.phase ≠ .running := by simp [phase]
    split at executed
    next db answer =>
      cases executed
      rw [answer] at written
      refine ⟨.inr ⟨op, named, enabled, written⟩, ?_⟩
      have idle := well.idle notRunning
      refine ⟨?_, well.distinct, fun _ => idle, ?_⟩
      · intro id call found
        rw [show s.calls.get? id = none from idle id] at found
        cases found
      rintro todo same
      cases same
      rw [map_cons, nodup_cons] at distinct
      refine ⟨distinct.2, ?_⟩
      intro other member
      obtain ⟨otherRow, otherSending, otherClaim⟩ := rows other (mem_cons_of_mem _ member)
      have different : op.target s.db ≠ some other.id := by
        rw [target]
        intro same
        apply distinct.1
        rw [Option.some.inj same]
        exact mem_map_of_mem member
      obtain ⟨later, laterSending, laterClaim⟩ := (op.keepsClaim different).sending otherSending
      rw [← written] at laterSending
      exact ⟨later, laterSending, laterClaim.trans otherClaim⟩
    rename_i db answer
    cases executed
    rw [answer] at written
    exact ⟨.inr ⟨op, named, enabled, written⟩, well.run notRunning⟩
  · cases executed

/-! ## The refinement -/

lemma runJob_eq : runJob intentID now db job = (opOfJob intentID now job).run db := by
  cases job with
  | evaluate elapsed eligible => rfl
  | cancel elapsed reason => rfl
  | evaluateClosed => rfl

section
variable (well : WellRun s)

include well

lemma WellRun.of_write (written : s.write db = some next) (simulated : Simulated s action next)
    (free : ∀ op, opOf s action = some op → op.target s.db = none) :
    Simulated s action next ∧ WellRun next := by
  refine ⟨simulated, ?_⟩
  unfold State.write at written
  split at written
  · cases written
  cases written
  refine well.of_keeps s.looks ?_
  intro id
  rcases simulated with unchanged | ⟨op, isOp, _, run⟩
  · change db = s.db at unchanged
    rw [unchanged]
    exact .refl id s.db
  change db = op.run s.db at run
  rw [run]
  exact op.keepsClaim (by simp [free op isOp])

lemma WellRun.write (op : Op) (written : s.write (op.run s.db) = some next)
    (isOp : opOf s action = some op) (enabled : op.Enabled s.db) (free : op.target s.db = none) :
    Simulated s action next ∧ WellRun next := by
  refine well.of_write written (simulated_write op written isOp enabled rfl) ?_
  intro other isOther
  rw [isOp] at isOther
  cases isOther
  exact free

lemma WellRun.evaluate (executed : execEvaluate s intentID now eligible = some next) :
    next.db = s.db ∧ WellRun next := by
  obtain ⟨intent, _, rfl⟩ := Option.map_eq_some_iff.mp executed
  cases intent.state with
  | active => exact ⟨rfl, well.of_keeps _ fun id => .refl id s.db⟩
  | closed => exact ⟨rfl, well.of_keeps _ fun id => .refl id s.db⟩

lemma WellRun.cancel (executed : execCancel s intentID now reason = some next) :
    next.db = s.db ∧ WellRun next := by
  obtain ⟨intent, _, rfl⟩ := Option.map_eq_some_iff.mp executed
  cases intent.state with
  | active => exact ⟨rfl, well.of_keeps _ fun id => .refl id s.db⟩
  | closed => exact ⟨rfl, well⟩

lemma WellRun.act {id : Nat} (executed : exec s (.act id now) = some next) :
    Simulated s (.act id now) next ∧ WellRun next := by
  obtain ⟨look, found, rfl⟩ := Option.map_eq_some_iff.mp executed
  have isOp : opOf s (.act id now) = some (opOfJob look.intentID now look.job) := by
    simp [opOf, found]
  refine ⟨.inr ⟨_, isOp, ?_, runJob_eq⟩, well.of_keeps _ ?_⟩
  · cases look.job <;> trivial
  intro other
  rw [runJob_eq]
  apply Op.keepsClaim
  cases look.job <;> simp [opOfJob, Op.target]

/-- Every step of the system is a transaction of the ledger or writes
nothing, and keeps calls in possession of their rows. -/
lemma exec_refines (attempts : Attempts s.db)
    (executed : exec s action = some next) : Simulated s action next ∧ WellRun next := by
  cases action with
  | start =>
    simp only [exec] at executed
    split at executed
    next stopped =>
      cases executed
      exact ⟨.inl rfl, well.start stopped⟩
    · cases executed
  | recoverRow now => exact well.recoverRow attempts executed
  | recovered | recoverFails =>
    simp only [exec] at executed
    split at executed
    next phase =>
      cases executed
      exact ⟨.inl rfl, well.run (by simp [phase])⟩
    · cases executed
  | stop =>
    cases executed
    exact ⟨.inl rfl, .stop s⟩
  | submit req contact id subID now =>
    refine well.of_write executed (submit_simulated executed) ?_
    intro op isOp
    simp only [opOf] at isOp
    split at isOp
    · cases isOp
      rfl
    · cases isOp
  | submitTeam req members subID now =>
    refine well.of_write executed (submitTeam_simulated executed) ?_
    intro op isOp
    simp only [opOf] at isOp
    split at isOp
    · cases isOp
    · cases isOp
      rfl
  | claim row =>
    obtain ⟨written, after⟩ := well.claim attempts executed
    exact ⟨.inr ⟨.claim row, rfl, trivial, written⟩, after⟩
  | worker id step =>
    obtain ⟨call, found, moved⟩ := Option.bind_eq_some_iff.mp executed
    have running : s.phase = .running := by
      by_contra notRunning
      rw [well.idle notRunning id] at found
      cases found
    obtain ⟨simulated, after⟩ := execCall_step well running found moved
    refine ⟨?_, after⟩
    rcases simulated with unchanged | ⟨op, isOp, enabled, run⟩
    · exact .inl unchanged
    · exact .inr ⟨op, by simp [opOf, found, isOp], enabled, run⟩
  | evaluate intentID now eligible =>
    obtain ⟨unchanged, after⟩ := well.evaluate executed
    exact ⟨.inl unchanged, after⟩
  | cancel intentID now reason =>
    obtain ⟨unchanged, after⟩ := well.cancel executed
    exact ⟨.inl unchanged, after⟩
  | act id now => exact well.act executed
  | dropLook id =>
    obtain ⟨look, _, rfl⟩ := Option.map_eq_some_iff.mp executed
    exact ⟨.inl rfl, well.of_keeps _ fun id => .refl id s.db⟩
  | recordEvidence | recordProofEvidence | recordLateDelivery | setTransmissionProof | hold
  | unhold | nudge | persistIntentClock | setIntentElapsed | prune | queue | legacy =>
    refine well.write _ ?_ rfl trivial rfl
    exact executed

end

/-- Calls own their rows, and rows agree with their transmissions. -/
def Consistent (s : State) : Prop := WellRun s ∧ Attempts s.db

lemma Consistent.step (consistent : Consistent s) (executed : exec s action = some next) :
    Consistent next := by
  obtain ⟨well, attempts⟩ := consistent
  obtain ⟨simulated, after⟩ := exec_refines well attempts executed
  refine ⟨after, ?_⟩
  rcases simulated with unchanged | ⟨op, _, enabled, run⟩
  · rw [unchanged]
    exact attempts
  rw [run]
  exact attempts.step op enabled

lemma reachable_consistent (reachable : system.Reachable s) : Consistent s :=
  reachable.invariant ⟨.initial, .empty⟩ fun _ _ _ consistent executed => consistent.step executed

variable {start finish : State}

/-- The refinement: a run of the system is, on its database, a run of the
ledger, and a condition on the transactions of the one is a condition on the
transactions of the other. -/
lemma run_refines
    (implies : ∀ s action op, allowed s action → opOf s action = some op → condition s.db op)
    (reachable : system.Reachable start)
    (run : system.Reaches allowed start finish) : LedgerRun condition start.db finish.db := by
  have kept (s : State) (action : Action) (next : State)
      (consistent : Consistent s) (_ : allowed s action)
      (executed : system.exec s action = some next) : Consistent next :=
    consistent.step executed
  refine TransitionSystem.Reaches.simulates State.db kept ?_ (reachable_consistent reachable) run
  intro s action next consistent permitted executed
  rcases (exec_refines consistent.1 consistent.2 executed).1 with
    unchanged | ⟨op, isOp, enabled, written⟩
  · exact .inl unchanged
  refine .inr ⟨op, ⟨enabled, implies s action op permitted isOp⟩, ?_⟩
  exact congrArg some written.symm

/-- The transaction a step makes, if it makes one, meets a condition. -/
def stepMeets (condition : DB → Op → Bool) (s : State) (action : Action) : Bool :=
  (opOf s action).all (condition s.db)

def ReachesWith (condition : DB → Op → Bool) (start finish : State) : Prop :=
  system.Reaches (fun s action => stepMeets condition s action = true) start finish

lemma ReachesWith.refines (reachable : system.Reachable start)
    (run : ReachesWith condition start finish) :
    LedgerRun (fun db op => condition db op = true) start.db finish.db := by
  refine run_refines ?_ reachable run
  intro s action op meets isOp
  simp only [stepMeets, isOp, Option.all_some] at meets
  exact meets

def anyOp (_ : DB) (_ : Op) : Prop := True

lemma Reaches.refines (reachable : system.Reachable s)
    (run : system.Reaches TransitionSystem.anything s later) : LedgerRun anyOp s.db later.db :=
  run_refines (fun _ _ _ _ _ => trivial) reachable run

lemma reachable_refines (reachable : system.Reachable s) : LedgerRun anyOp .empty s.db :=
  Reaches.refines (.refl _) reachable

end MeshSat.Intents
