import MeshSat.Intents.Queue

/-!
# Closed intents

Three statements keep a closed intent silent: the guard and version check of a
decision, the state guard of a review, and the claim fence. Together they
leave a closed intent only what was claimed before it closed: no row is added
to it, none is claimed, and a transmission of it is authorized only under a
claim the closing found in flight.
-/

namespace MeshSat.Intents

open Library TransitionSystem

/-- An attempt whose fence is closed keeps its claim, and is being sent only
if it was before. -/
lemma Moves.of_closed (moves : Moves opened released before gen after later) (closed : ¬opened) :
    later = gen ∧ (after = .sending → before = .sending) := by
  cases moves with
  | quiet quiet =>
    refine ⟨rfl, fun sending => ?_⟩
    rcases quiet with same | ⟨_, waits | retired | retired⟩
    · exact same ▸ sending
    · rw [sending] at waits
      cases waits
    · rw [sending] at retired
      cases retired
    rw [sending] at retired
    cases retired
  | claimed opened _ => exact (closed opened).elim
  | settled _ => exact ⟨rfl, fun _ => rfl⟩

/-- What may have become of an intent that was closed, in round `round`, when
the database was `start`. -/
structure Silent (start : DB) (intentID : String) (round : Nat) (db : DB) : Prop where
  known : intentID ∈ db.intents.used
  closed : ∀ kept, db.intents.get? intentID = some kept →
    kept.state = .closed ∧ kept.activeRound = round
  rows : ∀ id row, db.deliveries.get? id = some row → row.intentID = some intentID →
    ∃ old, start.deliveries.get? id = some old ∧
      old.intentID = some intentID ∧ row.claimGen = old.claimGen ∧
      (row.status = .sending → old.status = .sending)
  transmissions : ∀ txID t, db.transmissions.get? txID = some t → t.intentID = intentID →
    (∃ old, start.transmissions.get? txID = some old ∧ old.intentID = intentID) ∨
    ∃ old, start.deliveries.get? t.attemptID = some old ∧
      old.intentID = some intentID ∧ old.status = .sending ∧ old.claimGen = t.gen

lemma Silent.start (found : db.intents.get? intentID = some intent)
    (closed : intent.state = .closed) :
    Silent db intentID intent.activeRound db where
  known := Table.used_of_get? found
  closed kept keptFound := by
    rw [found] at keptFound
    cases keptFound
    exact ⟨closed, rfl⟩
  rows id row rowFound owner := ⟨row, rowFound, owner, rfl, fun same => same⟩
  transmissions txID t txFound owner := .inl ⟨t, txFound, owner⟩

section
variable {start db : DB} {intentID : String} {round : Nat}

section
variable (silent : Silent start intentID round db)

include silent

namespace Silent

variable {row : MessageDelivery}

lemma fence (owner : row.intentID = some intentID) : ¬db.fenceOpen row = true := by
  intro opened
  obtain ⟨other, intent, named, found, active, _⟩ := fenceOpen_iff.mp opened
  rw [owner] at named
  cases named
  rw [(silent.closed intent found).1] at active
  cases active

variable {op : Op}

lemma closed_step (found : (op.run db).intents.get? intentID = some kept) :
    kept.state = .closed ∧ kept.activeRound = round := by
  rcases (op.intentsStep _).backward intentID kept found with
    ⟨intent, before, step⟩ | ⟨new, _⟩
  · obtain ⟨closed, sameRound⟩ := silent.closed intent before
    refine ⟨step.closed closed, ?_⟩
    rcases step.round with same | ⟨active, _⟩
    · exact same.trans sameRound
    rw [closed] at active
    cases active
  · exact (new silent.known).elim

lemma rows_step (enabled : op.Enabled db) {id : Nat}
    (found : (op.run db).deliveries.get? id = some other) (owner : other.intentID = some intentID) :
    ∃ old, start.deliveries.get? id = some old ∧
      old.intentID = some intentID ∧ other.claimGen = old.claimGen ∧
      (other.status = .sending → old.status = .sending) := by
  rcases op.row_before found with ⟨row, before, step⟩ | new
  · have rowOwner : row.intentID = some intentID := step.intentID ▸ owner
    obtain ⟨_, _, _, moves⟩ := step.attempt (by rw [rowOwner]; rfl)
    obtain ⟨sameClaim, sending⟩ := moves.of_closed (silent.fence rowOwner)
    obtain ⟨old, oldFound, oldOwner, claim, wasSending⟩ := silent.rows id row before rowOwner
    exact ⟨old, oldFound, oldOwner, sameClaim.trans claim,
      fun isSending => wasSending (sending isSending)⟩
  rcases (Op.newRow enabled found new owner).round with
    ⟨unused, _⟩ | ⟨intent, intentFound, active, _⟩
  · exact (unused silent.known).elim
  rw [(silent.closed intent intentFound).1] at active
  cases active

lemma transmissions_step (op : Op)
    (found : (op.run db).transmissions.get? txID = some later) (owner : later.intentID = intentID) :
    (∃ old, start.transmissions.get? txID = some old ∧ old.intentID = intentID) ∨
    ∃ old, start.deliveries.get? later.attemptID = some old ∧
      old.intentID = some intentID ∧ old.status = .sending ∧ old.claimGen = later.gen := by
  rcases (op.transmissionsStep db).backward txID later found with
    ⟨t, before, step⟩ | ⟨_, new⟩
  · rw [step.attemptID, step.gen]
    exact silent.transmissions txID t before (step.intentID.symm.trans owner)
  obtain ⟨row, rowFound, sending, claim, rowOwner⟩ := new.claim
  rw [owner] at rowOwner
  obtain ⟨old, oldFound, oldOwner, sameClaim, wasSending⟩ :=
    silent.rows later.attemptID row rowFound rowOwner
  exact .inr ⟨old, oldFound, oldOwner, wasSending sending, sameClaim.symm.trans claim⟩

lemma step (enabled : op.Enabled db) : Silent start intentID round (op.run db) where
  known := (op.intentsStep _).used _ silent.known
  closed _ found := silent.closed_step found
  rows _ _ found owner := silent.rows_step enabled found owner
  transmissions _ _ found owner := silent.transmissions_step op found owner

lemma refuses {id : Nat} (found : db.deliveries.get? id = some row)
    (owner : row.intentID = some intentID) : claimDeliveryForSending id db = (false, db) := by
  rcases claim_cases id db with ⟨other, otherFound, claimable, _⟩ | refused
  · rw [found] at otherFound
    cases otherFound
    have opened := claimable_fence claimable (by rw [owner]; rfl)
    exact (silent.fence owner opened).elim
  · exact refused

end Silent

end

end

/-- A step gives a row a new claim, or takes it into `sending`, only while its
intent is active and in the row's round. -/
lemma claimed_live (reachable : system.Reachable s) (executed : system.exec s action = some next)
    {id : Nat} (found : s.db.deliveries.get? id = some row)
    (owned : row.intentID.isSome = true) (after : next.db.deliveries.get? id = some other)
    (claimed : other.claimGen ≠ row.claimGen ∨ other.status = .sending ∧ row.status ≠ .sending) :
    s.db.fenceOpen row = true := by
  obtain ⟨well, attempts⟩ := reachable_consistent reachable
  by_contra closed
  have silent : other.claimGen = row.claimGen ∧
      (other.status = .sending → row.status = .sending) := by
    rcases (exec_refines well attempts executed).1 with
      unchanged | ⟨op, _, _, written⟩
    · rw [unchanged, found] at after
      cases after
      exact ⟨rfl, fun same => same⟩
    obtain ⟨later, laterFound, step⟩ := op.row_after found
    rw [written, laterFound] at after
    cases after
    exact (step.attempt owned).2.2.2.of_closed closed
  rcases claimed with newClaim | ⟨sending, wasNot⟩
  · exact newClaim silent.1
  · exact wasNot (silent.2 sending)

/-- Once an intent is closed it stays closed in its round for as long as it is
kept, and no row is ever added to it again, none of its rows is claimed, and
what is authorized for it is authorized under a claim that was in flight when
it was found closed. And no row of an intent that is not active, or of a
round that is not the active one, is ever claimed. -/
theorem closed_silent {s : State} (reachable : system.Reachable s) :
    (∀ intentID intent, s.db.intents.get? intentID = some intent → intent.state = .closed →
      ∀ later, system.Reaches anything s later →
        (∀ kept, later.db.intents.get? intentID = some kept →
          kept.state = .closed ∧ kept.activeRound = intent.activeRound) ∧
        (∀ id row, later.db.deliveries.get? id = some row → row.intentID = some intentID →
          (∃ old, s.db.deliveries.get? id = some old ∧
            old.intentID = some intentID ∧ row.claimGen = old.claimGen) ∧
          claimDeliveryForSending id later.db = (false, later.db)) ∧
        ∀ txID t, later.db.transmissions.get? txID = some t → t.intentID = intentID →
          (∃ old, s.db.transmissions.get? txID = some old ∧ old.intentID = intentID) ∨
          ∃ old, s.db.deliveries.get? t.attemptID = some old ∧
            old.intentID = some intentID ∧ old.status = .sending ∧ old.claimGen = t.gen) ∧
    ∀ action next, system.exec s action = some next →
      ∀ id row other, s.db.deliveries.get? id = some row → row.intentID.isSome = true →
        next.db.deliveries.get? id = some other → (other.claimGen ≠ row.claimGen ∨
          other.status = .sending ∧ row.status ≠ .sending) →
        ∃ intentID intent, row.intentID = some intentID ∧ s.db.intents.get? intentID = some intent ∧
          intent.state = .active ∧ intent.activeRound = row.round := by
  refine ⟨?_, ?_⟩
  · intro intentID intent found closed later run
    have silent : Silent s.db intentID intent.activeRound later.db :=
      (Reaches.refines reachable run).preserves (Silent s.db intentID intent.activeRound)
        (fun _ _ silent enabled _ => silent.step enabled) (.start found closed)
    refine ⟨silent.closed, ?_, silent.transmissions⟩
    intro id row rowFound owner
    obtain ⟨old, oldFound, oldOwner, claim, _⟩ := silent.rows id row rowFound owner
    exact ⟨⟨old, oldFound, oldOwner, claim⟩, silent.refuses rowFound owner⟩
  intro action next executed id row other found owned after claimed
  exact fenceOpen_iff.mp (claimed_live reachable executed found owned after claimed)

/-- The sender cancels while the worker holds its claim. -/
def claimedThenClosed : State :=
  system.runFrom system.initial (submitted (twoRoutes .orderedFallback none) ++
      [.claim 1, .cancel "intent" 10 "", .act 1 20])

/-- The worker's call goes on and authorizes its transmission. -/
def authorizedLate : State :=
  system.runFrom claimedThenClosed [.worker 1 .reread, .worker 1 (.authorize "msg" 1 0)]

theorem closed_silent_claimed : ∃ t, authorizedLate.db.transmissions.get? 1 = some t ∧
      claimedThenClosed.db.transmissions.get? 1 = none ∧
      ∃ old, claimedThenClosed.db.deliveries.get? t.attemptID = some old ∧
        old.status = .sending ∧ old.claimGen = t.gen := by
  have reachable : system.Reachable claimedThenClosed := Reaches.of_runFrom (by decide)
  have later : system.Reaches anything claimedThenClosed authorizedLate :=
    Reaches.of_runFrom (by decide)
  have isClosed : (claimedThenClosed.db.intents.get? "intent").map
      DeliveryIntent.state = some .closed := by
    decide
  have authorized : (authorizedLate.db.transmissions.get? 1).map
      DeliveryTransmission.intentID = some "intent" := by
    decide
  have before : claimedThenClosed.db.transmissions.get? 1 = none := by decide
  obtain ⟨intent, found, closed⟩ := Option.map_eq_some_iff.mp isClosed
  obtain ⟨t, txFound, owner⟩ := Option.map_eq_some_iff.mp authorized
  refine ⟨t, txFound, before, ?_⟩
  rcases ((closed_silent reachable).1 "intent" intent found closed
    authorizedLate later).2.2 1 t txFound owner with
    ⟨old, oldFound, _⟩ | ⟨old, oldFound, _, sending, claim⟩
  · rw [before] at oldFound
    cases oldFound
  · exact ⟨old, oldFound, sending, claim⟩

end MeshSat.Intents
