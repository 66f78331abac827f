import MeshSat.Intents.Money

/-!
# Recovery after a stop

Wherever the process stopped, the recovery settles every row that was left in
flight from the transmission its claim owns: one that reached the adapter is
unknown and keeps its price as a possible charge, one that was only
authorized was not sent and gives it back. Nothing else moves, and a second
recovery finds nothing to do.
-/

namespace MeshSat.Intents

open Library TransitionSystem List Table

def recoveredTransmission (now : Int) (t : DeliveryTransmission) : DeliveryTransmission :=
  match t.state with
  | .authorized => finishTransmission recoveredAuthorized t.reservedMinor t.corr now t
  | .handedOff => finishTransmission recoveredHandedOff t.reservedMinor t.corr now t
  | .done => t

variable {t : DeliveryTransmission} {id : Nat} {db : DB}
  {r : TransmissionResult} {row : MessageDelivery}

lemma recoveredTransmission_done (done : t.state = .done) (now : Int) :
    recoveredTransmission now t = t := by
  simp [recoveredTransmission, done]

section
variable (now : Int) (t : DeliveryTransmission)

@[simp] lemma recoveredTransmission_state : (recoveredTransmission now t).state = .done := by
  cases state : t.state <;> simp [recoveredTransmission, state, finishTransmission]

@[simp] lemma recoveredTransmission_owner : (recoveredTransmission now t).attemptID = t.attemptID ∧
    (recoveredTransmission now t).intentID = t.intentID := by
  cases state : t.state <;> simp [recoveredTransmission, state, finishTransmission]

end

/-- The transmission after the recovery of these rows. -/
def recoveredAmong (ids : List Nat) (now : Int) (t : DeliveryTransmission) : DeliveryTransmission :=
  if t.attemptID ∈ ids then recoveredTransmission now t else t

/-- The database after the recovery of some rows. -/
structure Recovered (now : Int) (ids : List Nat) (db next : DB) : Prop where
  transmissions : ∀ txID, next.transmissions.get? txID =
    (db.transmissions.get? txID).map (recoveredAmong ids now)
  intents : ∀ intentID, (next.intents.get? intentID).isSome = (db.intents.get? intentID).isSome
  others : ∀ id, id ∉ ids →
    next.deliveries.get? id = db.deliveries.get? id
  rows : ∀ id ∈ ids, ∃ row, next.deliveries.get? id = some row ∧ row.status ≠ .sending ∧
    ∀ txID t, db.transmissions.get? txID = some t → t.attemptID = id →
      t.state = .handedOff → row.status = .unknown

lemma recoveredAmong_cons (new : id ∉ ids) (now : Int) (t : DeliveryTransmission) :
    recoveredAmong ids now (recoveredAmong [id] now t) = recoveredAmong (id :: ids) now t := by
  by_cases same : t.attemptID = id
  · have absent : t.attemptID ∉ ids := same ▸ new
    simp [recoveredAmong, same, new]
  · simp [recoveredAmong, same]

lemma Recovered.nil (now : Int) (db : DB) : Recovered now [] db db where
  transmissions txID := by
    have unchanged : recoveredAmong [] now = id := by
      funext t
      simp [recoveredAmong]
    rw [unchanged, Option.map_id_fun, id]
  intents _ := rfl
  others _ _ := rfl
  rows _ member := by cases member

variable {now : Int}

lemma Recovered.cons {ids : List Nat} {middle next : DB} (new : id ∉ ids)
    (first : Recovered now [id] db middle) (rest : Recovered now ids middle next) :
    Recovered now (id :: ids) db next where
  transmissions txID := by
    rw [rest.transmissions, first.transmissions, Option.map_map]
    congr 1
    funext t
    exact recoveredAmong_cons new now t
  intents intentID := (rest.intents intentID).trans (first.intents intentID)
  others other absent := by
    rw [mem_cons, not_or] at absent
    rw [rest.others other absent.2]
    exact first.others other (by simp [absent.1])
  rows other member := by
    rcases mem_cons.mp member with rfl | later
    · obtain ⟨row, found, settled, unknown⟩ := first.rows other (mem_singleton_self _)
      exact ⟨row, (rest.others other new).trans found, settled, unknown⟩
    obtain ⟨row, found, settled, unknown⟩ := rest.rows other later
    refine ⟨row, found, settled, ?_⟩
    intro txID t txFound attempt handedOff
    apply unknown txID t ?_ attempt handedOff
    have different : t.attemptID ≠ id := by
      rintro rfl
      exact new (attempt ▸ later)
    rw [first.transmissions, txFound]
    simp [recoveredAmong, different]

/-! ## One row -/

variable {txID : Nat}

lemma finalizeTx_succeeds (found : db.transmissions.get? txID = some t)
    (pending : t.state ≠ .done) (charged : 0 ≤ r.chargedMinor)
    (units : 0 ≤ r.chargedUnits) (nothing : r.evidence = []) (now : Int) :
    ∃ next, finalizeTx txID r now db = .ok (t.intentID, next) ∧ Finalized txID r now db t next := by
  have amounts : ¬ (r.chargedMinor < 0 || r.chargedUnits < 0) = true := by
    simp only [Bool.or_eq_true, decide_eq_true_eq]
    omega
  obtain ⟨next, finished⟩ : ∃ next, finalizeTx txID r now db = .ok (t.intentID, next) := by
    simp only [finalizeTx, found]
    rw [if_neg pending, if_neg amounts, nothing]
    split
    · exact ⟨_, rfl⟩
    · exact ⟨_, rfl⟩
  obtain ⟨other, _, finalized⟩ := finalizeTx_ok finished
  cases found.symm.trans finalized.found
  exact ⟨next, finished, finalized⟩

section
variable (attempts : Attempts db)

include attempts

lemma Attempts.done_of_ne (found : db.transmissions.get? txID = some t)
    (rowFound : db.deliveries.get? t.attemptID = some row)
    (different : t.gen ≠ row.claimGen) : t.state = .done := by
  obtain ⟨other, otherFound, agrees⟩ := attempts.owned txID t found
  rw [rowFound] at otherFound
  cases otherFound
  exact (agrees.earlier (Nat.lt_of_le_of_ne agrees.bound different)).1

lemma release_recovers (sending : db.Sending id row) (unsent : db.Unsent id row.claimGen)
    (now : Int) : Recovered now [id] db (releaseRow id now db) := by
  have done (txID : Nat) (t : DeliveryTransmission) (found : db.transmissions.get? txID = some t)
      (attempt : t.attemptID = id) : t.state = .done :=
    attempts.done_of_ne found (attempt ▸ sending.1) (unsent txID t found attempt)
  rw [release_eq sending.1 sending.2.1]
  refine ⟨?_, fun _ => rfl, ?_, ?_⟩
  · intro txID
    change db.transmissions.get? txID = _
    cases found : db.transmissions.get? txID with
    | none => rfl
    | some t =>
      by_cases attempt : t.attemptID = id
      · simp [recoveredAmong, attempt, recoveredTransmission_done (done txID t found attempt)]
      · simp [recoveredAmong, attempt]
  · intro other absent
    dsimp only
    rw [get?_update_ne _ (by simpa using absent)]
  intro other member
  rw [mem_singleton.mp member]
  refine ⟨releasedRow now row, ?_, by simp [releasedRow], ?_⟩
  · dsimp only
    rw [get?_update_self, sending.1]
    rfl
  intro txID t found attempt handedOff
  rw [done txID t found attempt] at handedOff
  cases handedOff

lemma finalize_recovers {next : DB} (sending : db.Sending id row) (attempt : t.attemptID = id)
    (claim : t.gen = row.claimGen)
    (finalized : Finalized t.id r now db t next) (result : recoveredTransmission now t =
      finishTransmission r t.reservedMinor t.corr now t) (settled : ∀ live retries maxRetries,
      settledStatus r live retries maxRetries ≠ .sending ∧ (t.state = .handedOff →
          settledStatus r live retries maxRetries = .unknown)) : Recovered now [id] db next := by
  subst attempt
  have flying : db.inFlight t.attemptID t.gen = some row :=
    inFlight_eq_some.mpr ⟨sending.1, sending.2.1, claim.symm⟩
  have only (txID : Nat) (other : DeliveryTransmission)
      (found : db.transmissions.get? txID = some other) (attempt : other.attemptID = t.attemptID)
      (pending : other.state ≠ .done) : txID = t.id := by
    have current : other.gen = row.claimGen := by
      by_contra different
      exact pending (attempts.done_of_ne found (attempt ▸ sending.1) different)
    exact (attempts.single t.id txID t other finalized.found found attempt
      (current.trans claim.symm)).symm
  refine ⟨?_, ?_, ?_, ?_⟩
  · intro txID
    rw [finalized.transmissions, get?_update]
    split
    next same =>
      rw [same, finalized.found]
      simp [recoveredAmong, result]
    rename_i different
    cases found : db.transmissions.get? txID with
    | none => rfl
    | some other =>
      by_cases attempt : other.attemptID = t.attemptID
      · have done : other.state = .done := by
          by_contra pending
          exact different (only txID other found attempt pending)
        simp [recoveredAmong, attempt, recoveredTransmission_done done]
      · simp [recoveredAmong, attempt]
  · intro intentID
    rw [finalized.intents, get?_update]
    split
    · rw [Option.isSome_map]
    · rfl
  · intro other absent
    rw [(finalized.followed row flying).1]
    exact get?_update_ne _ (by simpa using absent)
  intro other member
  rw [mem_singleton.mp member, (finalized.followed row flying).1]
  obtain ⟨_, _, _, _, _, status⟩ := settleRow_columns r
    (r.correlation t.corr).value (db.live t.attemptID) now row
  refine ⟨_, by rw [get?_update_self, sending.1]; rfl, ?_, ?_⟩
  · rw [status]
    exact (settled _ _ _).1
  intro txID found txFound attempt handedOff
  have same := only txID found txFound attempt (by simp [handedOff])
  rw [same, finalized.found] at txFound
  cases txFound
  rw [status]
  exact (settled _ _ _).2 handedOff

lemma recoverRow_recovers {stale : Stale}
    (sending : db.Sending stale.id row) (claim : row.claimGen = stale.gen) (now : Int) :
    ∃ kind next, withTx (recoverRow stale now) db = (.ok kind, next) ∧
      kind ≠ .replayed ∧ Recovered now [stale.id] db next := by
  cases present : db.transmissionOfClaim stale.id stale.gen with
  | none =>
    refine ⟨.neverAuthorized, releaseRow stale.id now db, ?_, by decide, ?_⟩
    · simp [withTx, recoverRow, present]
    · exact release_recovers attempts sending (claim ▸ transmissionOfClaim_none present) now
  | some t =>
    obtain ⟨found, attempt, gen⟩ := transmissionOfClaim_some present
    have current : t.gen = row.claimGen := gen.trans claim.symm
    cases state : t.state with
    | authorized =>
      obtain ⟨next, finished, finalized⟩ := finalizeTx_succeeds
        (r := recoveredAuthorized) found (by simp [state]) (Int.le_refl 0) (Int.le_refl 0) rfl now
      refine ⟨.authorized, next, ?_, by decide,
        finalize_recovers attempts sending attempt current finalized ?_ ?_⟩
      · simp [withTx, recoverRow, present, state, finished, bind, Except.bind]
      · simp [recoveredTransmission, state]
      intro live retries maxRetries
      refine ⟨?_, fun handedOff => ?_⟩
      · cases live <;> simp [settledStatus, recoveredAuthorized]
      rw [state] at handedOff
      cases handedOff
    | handedOff =>
      obtain ⟨next, finished, finalized⟩ := finalizeTx_succeeds
        (r := recoveredHandedOff) found (by simp [state]) (Int.le_refl 0) (Int.le_refl 0) rfl now
      refine ⟨.handedOff, next, ?_, by decide,
        finalize_recovers attempts sending attempt current finalized ?_ ?_⟩
      · simp [withTx, recoverRow, present, state, finished, bind, Except.bind]
      · simp [recoveredTransmission, state]
      intro live retries maxRetries
      simp [settledStatus, recoveredHandedOff]
    | done =>
      obtain ⟨other, otherFound, agrees⟩ := attempts.owned t.id t found
      rw [attempt, sending.1] at otherFound
      cases otherFound
      have settled := agrees.current current
      rw [sending.2.1] at settled
      exact (settled.1 state).elim

end

/-! ## All rows -/

lemma RecoverStats.count_replayed (stats : RecoverStats)
    (other : kind ≠ .replayed) : (stats.count kind).replayed = stats.replayed := by
  cases kind with
  | replayed => exact (other rfl).elim
  | _ => rfl

variable {todo : List Stale}

lemma recoverRows_recovers (now : Int) (sound : Sound db) (distinct : (todo.map Stale.id).Nodup)
    (rows : ∀ stale ∈ todo, ∃ row, db.Sending stale.id row ∧ row.claimGen = stale.gen)
    (stats : RecoverStats) : ∃ counted next, recoverRows now todo stats db = (.ok counted, next) ∧
      counted.replayed = stats.replayed ∧ Sound next ∧
      Recovered now (todo.map Stale.id) db next := by
  induction todo generalizing db stats with
  | nil => exact ⟨stats, db, rfl, rfl, sound, .nil now db⟩
  | cons stale rest induction =>
    obtain ⟨row, sending, claim⟩ := rows stale mem_cons_self
    obtain ⟨kind, middle, answer, notReplayed, first⟩ :=
      recoverRow_recovers sound.attempts sending claim now
    obtain ⟨op, _, enabled, _, written⟩ := recoverRow_run sound.attempts sending claim now
    rw [answer] at written
    rw [map_cons, nodup_cons] at distinct
    have after : ∀ other ∈ rest, ∃ row, middle.Sending other.id row ∧ row.claimGen = other.gen := by
      intro other member
      obtain ⟨otherRow, ⟨found, status, owned⟩, otherClaim⟩ := rows other (mem_cons_of_mem _ member)
      have different : other.id ∉ [stale.id] := by
        rw [mem_singleton]
        intro same
        exact distinct.1 (same ▸ mem_map_of_mem member)
      refine ⟨otherRow, ⟨?_, status, owned⟩, otherClaim⟩
      rw [first.others other.id different]
      exact found
    have middleSound : Sound middle := by
      change middle = _ at written
      rw [written]
      exact sound.step enabled
    obtain ⟨counted, next, done, replayed, nextSound, others⟩ :=
      induction middleSound distinct.2 after (stats.count kind)
    refine ⟨counted, next, ?_, replayed.trans (stats.count_replayed notReplayed), nextSound,
      first.cons distinct.1 others⟩
    simp only [recoverRows, answer]
    exact done

lemma mem_staleRows : id ∈ db.staleRows.map Stale.id ↔ ∃ row, db.Sending id row := by
  simp only [DB.staleRows, map_map, mem_map, mem_filter,
    Bool.and_eq_true, decide_eq_true_eq, Function.comp_apply]
  constructor
  · rintro ⟨row, ⟨member, sending, owned⟩, rfl⟩
    exact ⟨row, get?_of_mem member, sending, owned⟩
  rintro ⟨row, found, sending, owned⟩
  exact ⟨row, ⟨mem_of_get? found, sending, owned⟩, key_of_get? found⟩

lemma recoverIntentDeliveries_recovers (now : Int) (sound : Sound db) : ∃ stats next,
    recoverIntentDeliveries now db = (.ok stats, next) ∧ stats.replayed = 0 ∧ Sound next ∧
    Recovered now (db.staleRows.map Stale.id) db next := by
  exact recoverRows_recovers now sound db.staleRows_nodup (fun _ => DB.staleRows_sending) {}

section
variable {now : Int} {db next : DB} (sound : Sound db)
  (recovered : Recovered now (db.staleRows.map Stale.id) db next)

include sound recovered

lemma Recovered.get? (txID : Nat) :
    next.transmissions.get? txID =
      (db.transmissions.get? txID).map (recoveredTransmission now) := by
  rw [recovered.transmissions]
  cases found : db.transmissions.get? txID with
  | none => rfl
  | some t =>
    by_cases stale : t.attemptID ∈ db.staleRows.map Stale.id
    · simp [recoveredAmong, stale]
    have done : t.state = .done := by
      by_contra pending
      apply stale
      obtain ⟨row, flying, agrees⟩ := sound.attempts.inFlight found pending
      obtain ⟨rowFound, sending, _⟩ := inFlight_eq_some.mp flying
      exact mem_staleRows.mpr ⟨row, rowFound, sending, by rw [agrees.owner]; rfl⟩
    simp [recoveredAmong, stale, recoveredTransmission_done done]

lemma Recovered.all_done (found : next.transmissions.get? txID = some later) :
    later.state = .done := by
  rw [recovered.get? sound] at found
  obtain ⟨t, _, rfl⟩ := Option.map_eq_some_iff.mp found
  exact recoveredTransmission_state now t

omit sound in
lemma Recovered.none_sending {id : Nat} (found : next.deliveries.get? id = some row)
    (owned : row.intentID.isSome = true) : row.status ≠ .sending := by
  intro sending
  by_cases stale : id ∈ db.staleRows.map Stale.id
  · obtain ⟨other, otherFound, settled, _⟩ := recovered.rows id stale
    rw [found] at otherFound
    cases otherFound
    exact settled sending
  rw [recovered.others id stale] at found
  exact stale (mem_staleRows.mpr ⟨row, found, sending, owned⟩)

omit sound in
lemma Recovered.again (later : Int) : recoverIntentDeliveries later next = (.ok {}, next) := by
  have nothing : next.staleRows = [] := by
    have noIDs : next.staleRows.map Stale.id = [] := by
      rw [eq_nil_iff_forall_not_mem]
      intro id member
      obtain ⟨row, found, sending, owned⟩ := mem_staleRows.mp member
      exact recovered.none_sending found owned sending
    exact map_eq_nil_iff.mp noIDs
  unfold recoverIntentDeliveries
  rw [nothing]
  rfl

lemma Recovered.sumOf (intentID : String) (amount : DeliveryTransmission → Int) :
    next.sumOf intentID amount = db.sumOf intentID fun t =>
      amount (recoveredTransmission now t) := by
  unfold DB.sumOf
  rw [total_of_get?_map (recovered.get? sound)]
  congr 1
  funext t
  simp [amountFor]

end

/-! ## What the recovery does to the amounts -/

section
variable {t : DeliveryTransmission}

lemma recoveredTransmission_handedOff (handedOff : t.state = .handedOff) (account : Account t) :
    (recoveredTransmission now t).outcomeClass = some .unknown ∧
      (recoveredTransmission now t).reservedMinor = 0 ∧
      (recoveredTransmission now t).chargedMinor = 0 ∧
      (recoveredTransmission now t).possibleMinor = t.reservedMinor := by
  have result : recoveredTransmission now t =
      finishTransmission recoveredHandedOff t.reservedMinor t.corr now t := by
    simp [recoveredTransmission, handedOff]
  rw [result]
  refine ⟨rfl, rfl, rfl, ?_⟩
  change recoveredHandedOff.possible t.reservedMinor = t.reservedMinor
  have reserved := account.reserved
  by_cases paid : 0 < t.reservedMinor
  · simp [TransmissionResult.possible, recoveredHandedOff, paid]
  have free : t.reservedMinor = 0 := by omega
  rw [free]
  rfl

lemma recoveredTransmission_authorized (authorized : t.state = .authorized) :
    (recoveredTransmission now t).outcomeClass = some .notSent ∧
      (recoveredTransmission now t).reservedMinor = 0 ∧
      (recoveredTransmission now t).chargedMinor = 0 ∧
      (recoveredTransmission now t).possibleMinor = 0 := by
  simp [recoveredTransmission, authorized, finishTransmission,
    recoveredAuthorized, TransmissionResult.possible]

lemma recoveredTransmission_charged (account : Account t) (now : Int) :
    (recoveredTransmission now t).chargedMinor = t.chargedMinor := by
  cases state : t.state with
  | authorized =>
    rw [(recoveredTransmission_authorized state).2.2.1, (account.pending (by simp [state])).1]
  | handedOff =>
    rw [(recoveredTransmission_handedOff state account).2.2.1,
      (account.pending (by simp [state])).1]
  | done => rw [recoveredTransmission_done state]

end

/-- What a transmission adds to its intent's possible charges in a
recovery. -/
def openReservation (t : DeliveryTransmission) : Int :=
  if t.state = .handedOff then t.reservedMinor else 0

lemma recoveredTransmission_possible (account : Account t) (now : Int) :
    (recoveredTransmission now t).possibleMinor = t.possibleMinor + openReservation t := by
  unfold openReservation
  cases state : t.state with
  | authorized =>
    rw [(recoveredTransmission_authorized state).2.2.2, (account.pending (by simp [state])).2]
    simp
  | handedOff =>
    rw [(recoveredTransmission_handedOff state account).2.2.2,
      (account.pending (by simp [state])).2]
    simp
  | done =>
    rw [recoveredTransmission_done state]
    simp

lemma sumOf_congr (balanced : Balanced db) (same : ∀ t, Account t → amount t = other t) :
    db.sumOf intentID amount = db.sumOf intentID other := by
  unfold DB.sumOf Table.total
  congr 1
  apply map_congr_left
  intro t member
  have account := balanced.accounts t.id t (get?_of_mem member)
  simp only [amountFor, same t account]

lemma sumOf_add (db : DB) (intentID : String) (amount other : DeliveryTransmission → Int) :
    db.sumOf intentID (fun t => amount t + other t) =
    db.sumOf intentID amount + db.sumOf intentID other := by
  unfold DB.sumOf Table.total
  rw [← sum_map_add]
  congr 1
  apply map_congr_left
  intro t _
  unfold amountFor
  split <;> simp

variable {s : State}

/-- Take any reachable state and run the recovery: it succeeds without
replaying anything, nothing is left in flight or reserved, what was handed
off is unknown and possibly charged, what was only authorized was not sent
and is free again, and everything that was done stays as it is. Running it
again changes nothing. -/
theorem recovery_settles (reachable : system.Reachable s) (now : Int) :
    ∃ stats next, recoverIntentDeliveries now s.db = (.ok stats, next) ∧ stats.replayed = 0 ∧
      (∀ id row, next.deliveries.get? id = some row →
        row.intentID.isSome = true → row.status ≠ .sending) ∧
      (∀ txID t, next.transmissions.get? txID = some t → t.state = .done) ∧
      (∀ txID t, s.db.transmissions.get? txID = some t → t.state = .handedOff →
        (∃ later, next.transmissions.get? txID = some later ∧
          later.outcomeClass = some .unknown ∧ later.reservedMinor = 0 ∧
          later.chargedMinor = 0 ∧ later.possibleMinor = t.reservedMinor) ∧
        ∃ row, next.deliveries.get? t.attemptID = some row ∧ row.status = .unknown) ∧
      (∀ txID t, s.db.transmissions.get? txID = some t → t.state = .authorized →
        ∃ later, next.transmissions.get? txID = some later ∧
          later.outcomeClass = some .notSent ∧ later.reservedMinor = 0 ∧
          later.chargedMinor = 0 ∧ later.possibleMinor = 0) ∧
      (∀ txID t row, s.db.transmissions.get? txID = some t →
        s.db.deliveries.get? t.attemptID = some row → t.state = .done ∨ t.gen < row.claimGen →
        next.transmissions.get? txID = some t) ∧
      (∀ intentID intent, s.db.intents.get? intentID = some intent →
        ∃ later, next.intents.get? intentID = some later ∧ later.reservedMinor = 0 ∧
          later.incurredMinor = intent.incurredMinor ∧ later.possibleMinor = intent.possibleMinor +
            (((s.db.transmissionsOf intentID).filter fun t => t.state = .handedOff).map
                DeliveryTransmission.reservedMinor).sum) ∧
      ∀ later, recoverIntentDeliveries later next = (.ok {}, next) := by
  have sound := reachable_sound reachable
  obtain ⟨stats, next, answer, replayed, nextSound, recovered⟩ :=
    recoverIntentDeliveries_recovers now sound
  have after (txID : Nat) (t : DeliveryTransmission)
      (found : s.db.transmissions.get? txID = some t) :
      next.transmissions.get? txID = some (recoveredTransmission now t) := by
    rw [recovered.get? sound, found]
    rfl
  refine ⟨stats, next, answer, replayed, fun _ _ found owned => recovered.none_sending found owned,
    fun _ _ found => recovered.all_done sound found, ?_, ?_, ?_, ?_, recovered.again⟩
  · intro txID t found handedOff
    have account := sound.balanced.accounts txID t found
    refine ⟨⟨_, after txID t found, recoveredTransmission_handedOff handedOff account⟩, ?_⟩
    obtain ⟨row, flying, agrees⟩ := sound.attempts.inFlight found (by simp [handedOff])
    obtain ⟨rowFound, sending, _⟩ := inFlight_eq_some.mp flying
    obtain ⟨later, laterFound, _, unknown⟩ := recovered.rows t.attemptID
      (mem_staleRows.mpr ⟨row, rowFound, sending, by rw [agrees.owner]; rfl⟩)
    exact ⟨later, laterFound, unknown txID t found rfl handedOff⟩
  · intro txID t found authorized
    exact ⟨_, after txID t found, recoveredTransmission_authorized authorized⟩
  · intro txID t row found rowFound ended
    have done : t.state = .done := by
      rcases ended with done | earlier
      · exact done
      · exact sound.attempts.done_of_ne found rowFound (by omega)
    rw [after txID t found, recoveredTransmission_done done]
  intro intentID intent kept
  have stays := recovered.intents intentID
  rw [kept, Option.isSome_some, Option.isSome_iff_exists] at stays
  obtain ⟨later, laterKept⟩ := stays
  have before := sound.balanced.books intentID intent kept
  have books := nextSound.balanced.books intentID later laterKept
  refine ⟨later, laterKept, ?_, ?_, ?_⟩
  · rw [books.reserved]
    apply total_eq_zero
    intro t member
    have found := get?_of_mem member
    unfold amountFor
    split
    · exact (nextSound.balanced.accounts t.id t found).done (recovered.all_done sound found)
    · rfl
  · rw [books.incurred, before.incurred, recovered.sumOf sound]
    exact sumOf_congr sound.balanced fun t account => recoveredTransmission_charged account now
  rw [books.possible, before.possible, recovered.sumOf sound, sumOf_congr sound.balanced
      fun t account => recoveredTransmission_possible account now,
    sumOf_add, sum_filter_map, ← DB.sum_transmissionsOf _ _ openReservation]
  simp only [decide_eq_true_eq]
  rfl

/-- A process that stopped while the paid send was at the adapter. -/
def stoppedRun : List Action := paidRun ++ [.stop]

theorem recovery_settles_paid : ∃ stats next, recoverIntentDeliveries 100
        (system.runFrom system.initial stoppedRun).db = (.ok stats, next) ∧ stats.replayed = 0 ∧
      ∃ later, next.intents.get? "intent" = some later ∧
        later.reservedMinor = 0 ∧ later.possibleMinor = 40 := by
  obtain ⟨stats, next, answer, replayed, _, _, _, _, _, intents, _⟩ :=
    recovery_settles (s := system.runFrom system.initial stoppedRun) (.of_runFrom (by decide)) 100
  have amounts : ((system.runFrom system.initial stoppedRun).db.intents.get?
      "intent").map DeliveryIntent.possibleMinor = some 0 := by decide
  obtain ⟨intent, kept, possible⟩ := Option.map_eq_some_iff.mp amounts
  obtain ⟨later, laterKept, reserved, _, laterPossible⟩ := intents "intent" intent kept
  refine ⟨stats, next, answer, replayed, later, laterKept, reserved, ?_⟩
  rw [laterPossible, possible]
  decide

/-! ## The recovery as steps of the system -/

lemma recoverRows_run
    (phase : s.phase = .recovering todo) {stats counted : RecoverStats} {next : DB}
    (done : recoverRows now todo stats s.db = (.ok counted, next)) :
    system.Reaches anything s { s with db := next, phase := .recovering [] } := by
  induction todo generalizing s stats with
  | nil =>
    cases done
    rw [← phase]
    exact .refl s
  | cons stale rest induction =>
    simp only [recoverRows] at done
    split at done
    next kind middle answer =>
      have first : system.exec s (.recoverRow now) =
          some { s with db := middle, phase := .recovering rest } := by
        simp [system, exec, execRecoverRow, phase, answer]
      have others := induction (s := { s with db := middle, phase := .recovering rest }) rfl done
      exact (Reaches.step _ (.refl s) trivial first).trans others
    · cases done

end MeshSat.Intents
