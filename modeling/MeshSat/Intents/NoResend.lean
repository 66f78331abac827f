import MeshSat.Intents.Life

/-!
# No blind resend

A row goes back to wait only when nothing of it can have left the device, and
a row that was sent, or may have been, is never sent again. What came back
within an adapter's call is always stored, because the row is still in flight
when the call's transmission is finalized.
-/

namespace MeshSat.Intents

open Library TransitionSystem

/-- The row is an attempt that has its outcome. -/
def DB.Ended (db : DB) (id : Nat) : Prop :=
  ∃ row, db.deliveries.get? id = some row ∧ row.intentID.isSome = true ∧
    row.status.unfinished = false

lemma Agrees.ended (agrees : Agrees row t) (done : t.state = .done)
    (sent : t.outcomeClass = some .accepted ∨
      t.outcomeClass = some .unknown) : row.status.unfinished = false := by
  have settled := agrees.current (agrees.claim fun _ notSent => by simp [notSent] at sent)
  cases status : row.status <;> simp_all [Settled, Status.unfinished, Status.unclaimed]

section
variable {db : DB} {id : Nat} (ended : db.Ended id)

include ended

lemma DB.Ended.step (op : Op) : (op.run db).Ended id := by
  obtain ⟨row, found, owned, finished⟩ := ended
  obtain ⟨other, otherFound, step⟩ := op.row_after found
  obtain ⟨same, _⟩ := (step.attempt owned).2.2.2.of_ended finished
  exact ⟨other, otherFound, step.intentID ▸ owned, same ▸ finished⟩

lemma DB.Ended.not_inFlight (gen : Nat) : db.inFlight id gen = none := by
  obtain ⟨row, found, _, finished⟩ := ended
  cases flying : db.inFlight id gen with
  | none => rfl
  | some other =>
    obtain ⟨otherFound, sending, _⟩ := inFlight_eq_some.mp flying
    rw [found] at otherFound
    cases otherFound
    rw [sending] at finished
    cases finished

lemma DB.Ended.refuses (gen : Nat) (unitKind : String) (units minor : Int) :
    ∃ error, authorizeTransmission id gen unitKind units minor db = (.error error, db) := by
  rcases authorize_cases id gen unitKind units minor db with
    refused | ⟨row, intentID, next, _, granted⟩
  · exact refused
  have flying := inFlight_eq_some.mpr ⟨granted.found, granted.sending, granted.claim⟩
  rw [ended.not_inFlight] at flying
  cases flying

lemma DB.Ended.transmission_before (op : Op)
    (found : (op.run db).transmissions.get? txID = some later) (attempt : later.attemptID = id) :
    ∃ t, db.transmissions.get? txID = some t ∧ TransmissionStep t later := by
  rcases (op.transmissionsStep db).backward txID later found with
    kept | ⟨_, new⟩
  · exact kept
  obtain ⟨row, rowFound, sending, claim, _⟩ := new.claim
  have flying := inFlight_eq_some.mpr ⟨rowFound, sending, claim⟩
  rw [attempt, ended.not_inFlight] at flying
  cases flying

end

lemma DB.Ended.run {id : Nat} (ended : start.Ended id) (run : LedgerRun condition start finish) :
    finish.Ended id ∧ ∀ txID t, finish.transmissions.get? txID = some t → t.attemptID = id → ∃ old,
    start.transmissions.get? txID = some old ∧ old.attemptID = id := by
  refine run.preserves (fun db => db.Ended id ∧
    ∀ txID t, db.transmissions.get? txID = some t → t.attemptID = id →
      ∃ old, start.transmissions.get? txID = some old ∧
        old.attemptID = id) ?_ ⟨ended, fun txID t found attempt =>
          ⟨t, found, attempt⟩⟩
  rintro db op ⟨stillEnded, known⟩ _ _
  refine ⟨stillEnded.step op, ?_⟩
  intro txID later found attempt
  obtain ⟨t, before, step⟩ := stillEnded.transmission_before op found attempt
  exact known txID t before (step.attemptID.symm.trans attempt)

/-! ## A kit with two routes

A contact with a free mesh route and a paid satellite route after it. -/

def meshRoute : RoutePlanEntry where
  kind := some .meshtastic
  interfaceID := "mesh_0"
  destination := "!0a"
  adapterMode := .meshUnicast
  completionRule := some .deliveredDevice
  receiptAllowS := 60
  queueAllowS := 60
  admitted := true

def imtRoute : RoutePlanEntry where
  kind := some .iridiumIMT
  interfaceID := "imt_0"
  destination := "88160"
  adapterMode := .imt
  estMinor := 40
  paid := true
  receiptAllowS := 600
  queueAllowS := 600
  admitted := true

def twoRoutes (effective : Strategy) (capMinor : Option Int) : Recipient where
  addresses :=
    [{ kind := .meshtastic, value := "!0a", primaryRank := 0 },
      { kind := .iridiumIMT, value := "88160", primaryRank := 1 }]
  admission address :=
    if address.kind = .meshtastic then meshRoute else imtRoute
  effective
  capMinor
  routeExcluded _ := false
  wireTimestampMs _ := 0
  expiryAllowS := 3600

def sampleRequest : IntentRequest where
  source := "api"
  idempotencyKey := some "key"
  requestSHA256 := "hash"
  body := "position"
  precedence := "Routine"
  strategy := some .orderedFallback

def submitted (contact : Recipient) : List Action :=
  [.start, .recovered, .submit sampleRequest contact "intent" "sub" 0]

def meshPacket : Correlation where
  kind := "mesh_packet_id"
  value := "00000007"
  scope := "mesh_0"
  peer := "!0a"

/-- The worker's call `call` takes a row up to the adapter. -/
def sendRow (row call : Nat) (minor : Int) : List Action :=
  [.claim row, .worker call .reread, .worker call (.authorize "msg" 1 minor),
    .worker call (.handOff meshPacket 10)]

/-- In every reachable state a row that waits has only transmissions that are
done and were not sent. Once a transmission of a row ended accepted or
unknown, every later state has only the transmissions of that row which it
already had, and refuses every authorization for it. -/
theorem no_blind_resend {s : State} (reachable : system.Reachable s) :
    (∀ id row, s.db.deliveries.get? id = some row → row.intentID.isSome = true →
      row.status = .queued ∨ row.status = .retry ∨ row.status = .held →
      ∀ txID t, s.db.transmissions.get? txID = some t → t.attemptID = id →
        t.state = .done ∧ t.outcomeClass = some .notSent) ∧
    ∀ txID t, s.db.transmissions.get? txID = some t → t.state = .done →
      t.outcomeClass = some .accepted ∨ t.outcomeClass = some .unknown →
      ∀ later, system.Reaches anything s later →
        (∀ otherID other, later.db.transmissions.get? otherID = some other →
          other.attemptID = t.attemptID → ∃ old, s.db.transmissions.get? otherID = some old ∧
            old.attemptID = t.attemptID) ∧ ∀ gen unitKind units minor, ∃ error,
          authorizeTransmission t.attemptID gen unitKind units minor later.db =
            (.error error, later.db) := by
  obtain ⟨_, attempts⟩ := reachable_consistent reachable
  refine ⟨?_, ?_⟩
  · intro id row found _ waiting txID t txFound attempt
    obtain ⟨other, otherFound, agrees⟩ := attempts.owned txID t txFound
    rw [attempt, found] at otherFound
    cases otherFound
    apply agrees.not_sent
    rcases waiting with status | status | status <;> simp [status]
  intro txID t txFound done sent later run
  obtain ⟨row, rowFound, agrees⟩ := attempts.owned txID t txFound
  have ended : s.db.Ended t.attemptID :=
    ⟨row, rowFound, by rw [agrees.owner]; rfl, agrees.ended done sent⟩
  obtain ⟨still, known⟩ := ended.run (Reaches.refines reachable run)
  exact ⟨known, still.refuses⟩

def acceptedRun : List Action :=
  submitted (twoRoutes .orderedFallback none) ++ sendRow 1 1 0 ++
    [.worker 1 (.finish { outcome := .accepted, acceptedBy := "radio" } 20)]

def acceptedState : State := system.runFrom system.initial acceptedRun

lemma acceptedState_reachable : system.Reachable acceptedState := .of_runFrom (by decide)

theorem no_blind_resend_accepted : (acceptedState.db.transmissions.get? 1).map
        DeliveryTransmission.outcomeClass = some (some .accepted) ∧
      ∃ error, authorizeTransmission 1 2 "msg" 1 0 acceptedState.db =
        (.error error, acceptedState.db) := by
  have ended : (acceptedState.db.transmissions.get? 1).map
      (fun t => (t.state, t.outcomeClass, t.attemptID)) =
        some (.done, some .accepted, 1) := by decide
  obtain ⟨t, found, columns⟩ := Option.map_eq_some_iff.mp ended
  simp only [Prod.mk.injEq] at columns
  obtain ⟨done, accepted, attempt⟩ := columns
  have later := (no_blind_resend acceptedState_reachable).2 1 t found done
    (.inl accepted) acceptedState (.refl _)
  refine ⟨by rw [found, Option.map_some, accepted], ?_⟩
  rw [← attempt]
  exact later.2 2 "msg" 1 0

/-! ## In flight -/

/-- A transmission that is not done belongs to a row that is `sending` under
its claim, and is the only such transmission of the row. So a finalization
that succeeds finds its row in flight, and stores all the evidence the call
returned. -/
theorem finalization_stores_evidence {s : State} (reachable : system.Reachable s) :
    (∀ txID t, s.db.transmissions.get? txID = some t → t.state ≠ .done →
      ∃ row, s.db.deliveries.get? t.attemptID = some row ∧
        row.status = .sending ∧ row.claimGen = t.gen) ∧
    (∀ left right t other, s.db.transmissions.get? left = some t →
      s.db.transmissions.get? right = some other → t.state ≠ .done →
      other.state ≠ .done → other.attemptID = t.attemptID → left = right) ∧
    ∀ txID r now intentID next, finalizeTransmission txID r now s.db = (.ok intentID, next) →
      ∃ t, s.db.transmissions.get? txID = some t ∧
        (settleTransmission t r now s.db).inFlight t.attemptID t.gen ≠ none ∧
        ∀ ev ∈ r.evidence, ∃ id, next.evidence.get? id =
          some (storedEvidence (returnedEvidence t (r.correlation t.corr) ev) now id) := by
  obtain ⟨_, attempts⟩ := reachable_consistent reachable
  have flying (txID : Nat) (t : DeliveryTransmission)
      (found : s.db.transmissions.get? txID = some t) (pending : t.state ≠ .done) :
      ∃ row, s.db.inFlight t.attemptID t.gen = some row := by
    obtain ⟨row, flying, _⟩ := attempts.inFlight found pending
    exact ⟨row, flying⟩
  refine ⟨?_, ?_, ?_⟩
  · intro txID t found pending
    obtain ⟨row, inFlight⟩ := flying txID t found pending
    exact ⟨row, inFlight_eq_some.mp inFlight⟩
  · intro left right t other leftFound rightFound leftPending rightPending same
    obtain ⟨row, inFlight⟩ := flying left t leftFound leftPending
    obtain ⟨otherRow, otherFlight⟩ := flying right other rightFound rightPending
    obtain ⟨rowFound, _, claim⟩ := inFlight_eq_some.mp inFlight
    obtain ⟨otherFound, _, otherClaim⟩ := inFlight_eq_some.mp otherFlight
    rw [same, rowFound] at otherFound
    cases otherFound
    exact attempts.single left right t other leftFound rightFound same (otherClaim.symm.trans claim)
  intro txID r now intentID next answered
  rcases finalize_cases txID r now s.db with
    ⟨error, failed⟩ | ⟨t, written, answer, finalized⟩
  · rw [failed] at answered
    cases answered
  rw [answer] at answered
  cases answered
  obtain ⟨row, inFlight⟩ := flying txID t finalized.found finalized.pending
  refine ⟨t, finalized.found, ?_, (finalized.followed row inFlight).2⟩
  have rows := (settleTransmission_writes t r now s.db).2.2.1
  have same : (settleTransmission t r now s.db).inFlight t.attemptID t.gen =
      s.db.inFlight t.attemptID t.gen := by
    simp only [DB.inFlight, rows]
  rw [same, inFlight]
  exact Option.some_ne_none row

def handedOffState : State :=
  system.runFrom system.initial (submitted (twoRoutes .orderedFallback none) ++ sendRow 1 1 0)

lemma handedOffState_reachable : system.Reachable handedOffState := .of_runFrom (by decide)

def acknowledged : TransmissionResult where
  outcome := .accepted
  evidence := [{
    source := "station", event := "ack", completes := some .ackedStation }]

theorem finalization_stores_acknowledgement : ∃ ev id, (finalizeTransmission 1 acknowledged 20
        handedOffState.db).2.evidence.get? id = some ev ∧ ev.event = "ack" ∧ ev.matched = true := by
  have answered : (finalizeTransmission 1 acknowledged 20
      handedOffState.db).1 = .ok "intent" := by decide
  obtain ⟨t, _, _, stored⟩ :=
    (finalization_stores_evidence handedOffState_reachable).2.2 1 acknowledged
      20 "intent" _ (Prod.ext answered rfl)
  obtain ⟨id, found⟩ := stored _ (List.mem_singleton_self _)
  exact ⟨_, id, found, rfl, rfl⟩

end MeshSat.Intents
