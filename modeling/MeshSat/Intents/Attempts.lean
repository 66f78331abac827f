import MeshSat.Intents.Frames

/-!
# Attempts and their transmissions

The joint invariant of rows, claims and transmissions. Every transmission
belongs to a kept row and to one of its claims. A transmission of an earlier
claim is done and was not sent. The transmission of the current claim is in
flight exactly while the row is `sending`, and otherwise its outcome is the
row's status.
-/

namespace MeshSat.Intents

open Library Table

/-- What the transmission of the current claim looks like, by the row's
status. -/
def Settled : Status → TxState → Option OutcomeClass → Prop
  | .sending, state, outcome => state ≠ .done ∧ outcome = none
  | .accepted, state, outcome => state = .done ∧ outcome = some .accepted
  | .unknown, state, outcome => state = .done ∧ outcome = some .unknown
  | _, state, outcome => state = .done ∧ outcome = some .notSent

structure Agrees (row : MessageDelivery) (t : DeliveryTransmission) : Prop where
  owner : row.intentID = some t.intentID
  bound : t.gen ≤ row.claimGen
  earlier : t.gen < row.claimGen → t.state = .done ∧ t.outcomeClass = some .notSent
  current : t.gen = row.claimGen → Settled row.status t.state t.outcomeClass

structure Attempts (db : DB) : Prop where
  owned : ∀ txID t, db.transmissions.get? txID = some t →
    ∃ row, db.deliveries.get? t.attemptID = some row ∧ Agrees row t
  single : ∀ left right t other, db.transmissions.get? left = some t →
    db.transmissions.get? right = some other →
    other.attemptID = t.attemptID → other.gen = t.gen → left = right

lemma Attempts.empty : Attempts .empty := by
  constructor
  · intro txID t found
    cases found
  intro left right t other found
  cases found

variable {row : MessageDelivery} {t : DeliveryTransmission} {db : DB} {id txID : Nat}

/-- Only the transmission of the current claim is not over unsent. -/
lemma Agrees.claim (agrees : Agrees row t)
    (sent : t.state = .done → t.outcomeClass ≠ some .notSent) : t.gen = row.claimGen := by
  rcases Nat.lt_or_eq_of_le agrees.bound with earlier | same
  · obtain ⟨done, notSent⟩ := agrees.earlier earlier
    exact absurd notSent (sent done)
  · exact same

lemma Agrees.of_pending (agrees : Agrees row t) (pending : t.state ≠ .done) :
    row.status = .sending ∧ row.claimGen = t.gen := by
  have claim := agrees.claim fun done => absurd done pending
  have settled := agrees.current claim
  refine ⟨?_, claim.symm⟩
  by_contra notSending
  cases status : row.status <;> simp_all [Settled]

/-- Where nothing is in flight and nothing was sent, every transmission is
done and was not sent. -/
lemma Agrees.not_sent (agrees : Agrees row t)
    (idle : row.status ≠ .sending ∧ row.status ≠ .accepted ∧ row.status ≠ .unknown) :
    t.state = .done ∧ t.outcomeClass = some .notSent := by
  rcases Nat.lt_or_eq_of_le agrees.bound with earlier | same
  · exact agrees.earlier earlier
  have settled := agrees.current same
  obtain ⟨notSending, notAccepted, notUnknown⟩ := idle
  cases status : row.status <;> simp_all [Settled]

/-! ## Quiet transactions -/

lemma Settled.quiet (quiet : before.Quiet after)
    (settled : Settled before state outcome) : Settled after state outcome := by
  rcases quiet with same | ⟨unclaimed, moved⟩
  · rw [same]
    exact settled
  have notSent : state = .done ∧ outcome = some .notSent := by
    cases before <;> simp_all [Status.unclaimed, Settled]
  rcases moved with waiting | superseded | cancelled
  · cases after <;> simp_all [Status.unclaimed, Settled]
  · rw [superseded]
    exact notSent
  rw [cancelled]
  exact notSent

lemma Agrees.quiet (agrees : Agrees row t)
    (rowQuiet : QuietRow row other) (txQuiet : QuietTransmission t later) : Agrees other later := by
  have owned : row.intentID.isSome = true := by rw [agrees.owner]; rfl
  obtain ⟨_, _, _, claim, status⟩ := rowQuiet.attempt owned
  rw [txQuiet]
  refine ⟨rowQuiet.intentID.trans agrees.owner, ?_, ?_, ?_⟩
  · rw [claim]
    exact agrees.bound
  · rw [claim]
    exact agrees.earlier
  rw [claim]
  intro same
  exact (agrees.current same).quiet status

namespace Attempts

lemma of_quiet (attempts : Attempts db)
    (rows : RowsQuiet db next) (transmissions : TransmissionsQuiet db next) : Attempts next := by
  have before (txID : Nat) (later : DeliveryTransmission)
      (found : next.transmissions.get? txID = some later) :
      ∃ t, db.transmissions.get? txID = some t ∧ QuietTransmission t later := by
    rcases transmissions.backward txID later found with kept | ⟨_, none⟩
    · exact kept
    · exact none.elim
  refine ⟨?_, ?_⟩
  · intro txID later found
    obtain ⟨t, old, txQuiet⟩ := before txID later found
    obtain ⟨row, rowFound, agrees⟩ := attempts.owned txID t old
    rcases rows.forward _ row rowFound with
      ⟨other, otherFound, rowQuiet⟩ | ⟨_, none⟩
    · have sameRow : later.attemptID = t.attemptID := by rw [txQuiet]
      rw [sameRow]
      exact ⟨other, otherFound, agrees.quiet rowQuiet txQuiet⟩
    · exact none.elim
  intro left right first second leftFound rightFound attempt gen
  obtain ⟨t, leftOld, leftQuiet⟩ := before left first leftFound
  obtain ⟨other, rightOld, rightQuiet⟩ := before right second rightFound
  rw [leftQuiet, rightQuiet] at attempt gen
  exact attempts.single left right t other leftOld rightOld attempt gen

/-! ## Moving one row -/

section
variable (attempts : Attempts db)

include attempts

/-- Rewriting one row keeps the invariant when it still agrees with each of
its transmissions. -/
lemma update_row (change : MessageDelivery → MessageDelivery)
    (keeps : ∀ row, (change row).id = row.id)
    (agree : ∀ row txID t, db.deliveries.get? id = some row →
      db.transmissions.get? txID = some t → t.attemptID = id →
      Agrees row t → Agrees (change row) t) :
    Attempts { db with deliveries := db.deliveries.update id change keeps } := by
  refine ⟨?_, attempts.single⟩
  intro txID t found
  obtain ⟨row, rowFound, agrees⟩ := attempts.owned txID t found
  by_cases same : t.attemptID = id
  · refine ⟨change row, ?_, ?_⟩
    · rw [same] at rowFound ⊢
      rw [get?_update_self, rowFound]
      rfl
    · exact agree row txID t (same ▸ rowFound) found same agrees
  refine ⟨row, ?_, agrees⟩
  rw [get?_update_ne _ same]
  exact rowFound

lemma claim (id : Nat) : Attempts ((Op.claim id).run db) := by
  change Attempts (claimDeliveryForSending id db).2
  rcases claim_cases id db with ⟨row, found, claimable, written⟩ | unchanged
  · rw [written]
    apply attempts.update_row
    intro other txID t otherFound _ _ agrees
    rw [found] at otherFound
    cases otherFound
    have waiting : row.status ≠ .sending ∧ row.status ≠ .accepted ∧ row.status ≠ .unknown := by
      rcases claimable_status claimable with queued | retry <;> simp_all
    have notSent := agrees.not_sent waiting
    refine ⟨agrees.owner, Nat.le_succ_of_le agrees.bound, fun _ => notSent, ?_⟩
    intro impossible
    have bound := agrees.bound
    change t.gen = row.claimGen + 1 at impossible
    omega
  rw [unchanged]
  exact attempts

lemma end_row (found : db.deliveries.get? id = some row) (unsent : db.Unsent id row.claimGen)
    (change : MessageDelivery → MessageDelivery) (keeps : ∀ row, (change row).id = row.id)
    (owner : (change row).intentID = row.intentID) (claim : (change row).claimGen = row.claimGen) :
    Attempts { db with deliveries := db.deliveries.update id change keeps } := by
  apply attempts.update_row
  intro other txID t otherFound txFound attempt agrees
  rw [found] at otherFound
  cases otherFound
  have different : t.gen ≠ row.claimGen := unsent txID t txFound attempt
  refine ⟨owner.trans agrees.owner, ?_, ?_, ?_⟩
  · rw [claim]
    exact agrees.bound
  · rw [claim]
    exact agrees.earlier
  rw [claim]
  exact fun same => (different same).elim

lemma endAttempt (attemptID gen : Nat) (reason detail : String) (retryable : Bool)
    (retryAt : Option Int) (now : Int) (unsent : db.Unsent attemptID gen) :
    Attempts ((Op.endAttempt attemptID gen reason detail retryable retryAt now).run db) := by
  change Attempts (endAttemptNotSent attemptID gen reason detail retryable retryAt now db).2
  rcases endAttempt_cases attemptID gen reason detail retryable retryAt now db
    with unchanged | ⟨row, found, _, claim, written⟩
  · rw [unchanged]
    exact attempts
  rw [written]
  subst claim
  exact attempts.end_row found unsent _ _ rfl rfl

lemma release (found : db.deliveries.get? id = some row) (sending : row.status = .sending)
    (unsent : db.Unsent id row.claimGen) (now : Int) : Attempts ((Op.release id now).run db) := by
  change Attempts (releaseRow id now db)
  rw [release_eq found sending now]
  exact attempts.end_row found unsent _ _ rfl rfl

end

/-! ## Moving a transmission -/

lemma authorize (attempts : Attempts db) (attemptID gen : Nat) (unitKind : String)
    (units minor : Int) : Attempts ((Op.authorize attemptID gen unitKind units minor).run db) := by
  change Attempts (authorizeTransmission attemptID gen unitKind units minor db).2
  rcases authorize_cases attemptID gen unitKind units minor db with
    ⟨error, unchanged⟩ | ⟨row, intentID, next, answer, granted⟩
  · rw [unchanged]
    exact attempts
  rw [answer]
  obtain ⟨found, sending, claim, owner, unsent, _, _, written⟩ := granted
  rw [written]
  refine ⟨?_, ?_⟩
  · intro txID t txFound
    rw [get?_insertNext] at txFound
    split at txFound
    · cases txFound
      refine ⟨row, found, owner, Nat.le_of_eq claim.symm, ?_, ?_⟩
      · intro earlier
        change gen < row.claimGen at earlier
        omega
      intro _
      rw [sending]
      exact ⟨fun done => TxState.noConfusion done, rfl⟩
    · exact attempts.owned txID t txFound
  intro left right first second leftFound rightFound attempt gens
  rw [get?_insertNext] at leftFound rightFound
  by_cases newLeft : left = db.transmissions.nextKey
  · by_cases newRight : right = db.transmissions.nextKey
    · exact newLeft.trans newRight.symm
    rw [if_pos newLeft] at leftFound
    rw [if_neg newRight] at rightFound
    cases leftFound
    exact (unsent right second rightFound attempt gens).elim
  rw [if_neg newLeft] at leftFound
  split at rightFound
  · cases rightFound
    exact (unsent left first leftFound attempt.symm gens.symm).elim
  exact attempts.single left right first second leftFound rightFound attempt gens

lemma single_update (attempts : Attempts db)
    (change : DeliveryTransmission → DeliveryTransmission) (keeps : ∀ t, (change t).id = t.id)
    (attempt : ∀ t, (change t).attemptID = t.attemptID)
    (gens : ∀ t, (change t).gen = t.gen) (left right : Nat) (t other : DeliveryTransmission)
    (leftFound : (db.transmissions.update txID change keeps).get? left = some t)
    (rightFound : (db.transmissions.update txID change keeps).get? right = some other)
    (sameAttempt : other.attemptID = t.attemptID) (sameGen : other.gen = t.gen) : left = right := by
  have before (id : Nat) (later : DeliveryTransmission)
      (found : (db.transmissions.update txID change keeps).get? id = some later) :
      ∃ old, db.transmissions.get? id = some old ∧
        later.attemptID = old.attemptID ∧ later.gen = old.gen := by
    rw [get?_update] at found
    split at found
    · obtain ⟨old, oldFound, rfl⟩ := Option.map_eq_some_iff.mp found
      exact ⟨old, oldFound, attempt old, gens old⟩
    · exact ⟨later, found, rfl, rfl⟩
  obtain ⟨first, firstFound, firstAttempt, firstGen⟩ := before left t leftFound
  obtain ⟨second, secondFound, secondAttempt, secondGen⟩ := before right other rightFound
  refine attempts.single left right first second firstFound secondFound ?_ ?_
  · rw [← firstAttempt, ← secondAttempt, sameAttempt]
  · rw [← firstGen, ← secondGen, sameGen]

lemma handOff (attempts : Attempts db) (txID : Nat) (corr : Correlation) (now : Int) :
    Attempts ((Op.handOff txID corr now).run db) := by
  change Attempts (markTransmissionHandedOffWith txID corr now db).2
  rcases handOff_cases txID corr now db with
    unchanged | ⟨t, found, authorized, written⟩
  · rw [unchanged]
    exact attempts
  rw [written]
  refine ⟨?_, ?_⟩
  · intro id later laterFound
    rw [get?_update] at laterFound
    split at laterFound
    next same =>
      subst same
      rw [found] at laterFound
      cases laterFound
      obtain ⟨row, rowFound, agrees⟩ := attempts.owned _ t found
      obtain ⟨sending, claim⟩ := agrees.of_pending (by simp [authorized])
      refine ⟨row, rowFound, agrees.owner, agrees.bound, ?_, ?_⟩
      · intro earlier
        change t.gen < row.claimGen at earlier
        omega
      intro _
      have unsettled := agrees.current claim.symm
      rw [sending] at unsettled ⊢
      exact ⟨fun done => TxState.noConfusion done, unsettled.2⟩
    · exact attempts.owned id later laterFound
  exact attempts.single_update (handOffTransmission corr now)
    (fun _ => rfl) (fun _ => rfl) (fun _ => rfl)

end Attempts

lemma settleRow_columns (r : TransmissionResult) (channelRef : String)
    (live : Bool) (now : Int) (row : MessageDelivery) :
    (settleRow r channelRef live now row).intentID = row.intentID ∧
      (settleRow r channelRef live now row).round = row.round ∧
      (settleRow r channelRef live now row).attemptNo = row.attemptNo ∧
      (settleRow r channelRef live now row).routeIndex = row.routeIndex ∧
      (settleRow r channelRef live now row).claimGen = row.claimGen ∧
      (settleRow r channelRef live now row).status = settledStatus r live
          (if r.consumeRetry then row.retries + 1 else row.retries)
          row.maxRetries := by
  unfold settleRow
  generalize (if r.consumeRetry then row.retries + 1 else row.retries) = retries
  cases r.outcome with
  | accepted => exact ⟨rfl, rfl, rfl, rfl, rfl, rfl⟩
  | unknown => exact ⟨rfl, rfl, rfl, rfl, rfl, rfl⟩
  | notSent =>
    dsimp only
    split <;> exact ⟨rfl, rfl, rfl, rfl, rfl, rfl⟩

lemma settled_finished (r : TransmissionResult) (live : Bool)
    (retries maxRetries : Nat) (reserved : Int) (prepared : Correlation)
    (now : Int) (t : DeliveryTransmission) : Settled (settledStatus r live retries maxRetries)
      (finishTransmission r reserved prepared now t).state
      (finishTransmission r reserved prepared now t).outcomeClass := by
  unfold settledStatus
  cases outcome : r.outcome with
  | accepted => exact ⟨rfl, congrArg some outcome⟩
  | unknown => exact ⟨rfl, congrArg some outcome⟩
  | notSent =>
    dsimp only
    split
    · split <;> exact ⟨rfl, congrArg some outcome⟩
    · exact ⟨rfl, congrArg some outcome⟩

/-- In a ledger that keeps the invariant a transmission that is not done is
in flight under its claim. -/
lemma Attempts.inFlight (attempts : Attempts db)
    (found : db.transmissions.get? txID = some t) (pending : t.state ≠ .done) :
    ∃ row, db.inFlight t.attemptID t.gen = some row ∧ Agrees row t := by
  obtain ⟨row, rowFound, agrees⟩ := attempts.owned txID t found
  obtain ⟨sending, claim⟩ := agrees.of_pending pending
  exact ⟨row, inFlight_eq_some.mpr ⟨rowFound, sending, claim⟩, agrees⟩

lemma Attempts.of_finalized (attempts : Attempts db) (finalized : Finalized txID r now db t next) :
    Attempts next := by
  obtain ⟨row, flying, agrees⟩ := attempts.inFlight finalized.found finalized.pending
  obtain ⟨rowFound, sending, claim⟩ := inFlight_eq_some.mp flying
  have deliveries := (finalized.followed row flying).1
  obtain ⟨owner, _, _, _, sameClaim, status⟩ := settleRow_columns r
    (r.correlation t.corr).value (db.live t.attemptID) now row
  have rowAfter : next.deliveries.get? t.attemptID = some
      (settleRow r (r.correlation t.corr).value (db.live t.attemptID) now row) := by
    rw [deliveries, get?_update_self, rowFound]
    rfl
  refine ⟨?_, ?_⟩
  · intro id later laterFound
    rw [finalized.transmissions, get?_update] at laterFound
    split at laterFound
    next same =>
      subst same
      rw [finalized.found] at laterFound
      cases laterFound
      refine ⟨_, rowAfter, owner.trans agrees.owner, ?_, ?_, ?_⟩
      · rw [sameClaim]
        exact agrees.bound
      · rw [sameClaim]
        intro earlier
        change t.gen < row.claimGen at earlier
        omega
      intro _
      rw [status]
      exact settled_finished _ _ _ _ _ _ _ _
    rename_i different
    obtain ⟨old, oldFound, oldAgrees⟩ := attempts.owned id later laterFound
    by_cases sameRow : later.attemptID = t.attemptID
    · rw [sameRow] at oldFound ⊢
      rw [rowFound] at oldFound
      cases oldFound
      -- The claim's only transmission is the one being finalized.
      have otherGen : later.gen ≠ t.gen := by
        intro same
        exact different (attempts.single id txID later t laterFound
          finalized.found sameRow.symm same.symm)
      refine ⟨_, rowAfter, owner.trans oldAgrees.owner, ?_, ?_, ?_⟩
      · rw [sameClaim]
        exact oldAgrees.bound
      · rw [sameClaim]
        exact oldAgrees.earlier
      · rw [sameClaim, claim]
        exact fun same => (otherGen same).elim
    refine ⟨old, ?_, oldAgrees⟩
    rw [deliveries, get?_update_ne _ sameRow]
    exact oldFound
  intro left right first second leftFound rightFound
  rw [finalized.transmissions] at leftFound rightFound
  exact attempts.single_update (finishTransmission r t.reservedMinor t.corr now) (fun _ => rfl)
    (fun _ => rfl) (fun _ => rfl) left right first second leftFound rightFound

lemma Attempts.finalize (attempts : Attempts db) (txID : Nat) (r : TransmissionResult)
    (now : Int) : Attempts ((Op.finalize txID r now).run db) := by
  change Attempts (finalizeTransmission txID r now db).2
  rcases finalize_cases txID r now db with
    ⟨error, unchanged⟩ | ⟨t, next, answer, finalized⟩
  · rw [unchanged]
    exact attempts
  rw [answer]
  exact attempts.of_finalized finalized

/-! ## Every transaction -/

lemma Attempts.step (attempts : Attempts db) (op : Op) (enabled : op.Enabled db) :
    Attempts (op.run db) := by
  by_cases quiet : op.quiet = true
  · exact attempts.of_quiet (Op.rowsQuiet quiet db) (Op.transmissionsQuiet quiet db)
  · cases op with
    | claim id => exact attempts.claim id
    | authorize attemptID gen unitKind units minor =>
      exact attempts.authorize attemptID gen unitKind units minor
    | handOff txID corr now => exact attempts.handOff txID corr now
    | finalize txID r now => exact attempts.finalize txID r now
    | endAttempt attemptID gen reason detail retryable retryAt now =>
      exact attempts.endAttempt attemptID gen reason detail retryable retryAt now enabled
    | release id now =>
      obtain ⟨row, found, sending, _, unsent⟩ := enabled
      exact attempts.release found sending unsent now
    | _ => exact (quiet rfl).elim

end MeshSat.Intents
