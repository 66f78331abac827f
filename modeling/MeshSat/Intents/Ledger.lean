import MeshSat.Intents.Evidence

/-!
# Transactions of the delivery worker

Fetching and claiming a row, authorizing a transmission against the intent's
cap, handing it off, finalizing it, ending an attempt without one, holding and
releasing a channel, and settling after a restart what a stop left in flight.
-/

namespace MeshSat.Intents

open Library

/-! ## Fetching -/

def precedenceRank (precedence : String) : Nat :=
  if precedence = "Override" then 0
  else if precedence = "Flash" then 1
  else if precedence = "Immediate" then 2
  else if precedence = "Priority" then 3
  else if precedence = "Deferred" then 5
  else 4

/-- Ready for processing on a channel. -/
def MessageDelivery.pending (channel : String) (now : Int) (row : MessageDelivery) : Bool :=
  row.channel = channel && (row.status = .queued || row.status = .retry) &&
    row.nextRetry.all (fun due => due ≤ now) &&
    (row.priority = 0 || row.expiresAt.all fun deadline => now < deadline)

open MessageDelivery

/-- What a worker fetches: by precedence, then priority, then age. -/
def getPendingDeliveries (channel : String) (limit now : Int) (db : DB) : List MessageDelivery :=
  let ready := db.deliveries.entries.filter (pending channel now)
  let ordered := orderBy (fun row => precedenceRank row.precedence) (orderBy priority ready)
  ordered.take (if limit ≤ 0 then 10 else limit.toNat)

def queueDepth (channel : String) (db : DB) : Nat :=
  (db.deliveries.entries.filter fun row =>
    row.channel = channel && row.status.unfinished).length

/-! ## The claim fence -/

/-- The row's intent is kept, active and in the row's round. -/
def DB.fenceOpen (db : DB) (row : MessageDelivery) : Bool :=
  match row.intentID.bind db.intents.get? with
  | none => false
  | some intent => intent.state = .active && intent.activeRound = row.round

/-- A retry of this attempt would still pass the claim fence. -/
def DB.live (db : DB) (attemptID : Nat) : Bool :=
  match db.deliveries.get? attemptID with
  | none => false
  | some row => db.fenceOpen row

def DB.claimable (db : DB) (row : MessageDelivery) : Bool :=
  (row.status = .queued || row.status = .retry) && (row.intentID.isNone || db.fenceOpen row)

def claimRow (row : MessageDelivery) : MessageDelivery :=
  { row with
    status := .sending
    lastError := ""
    channelRef := ""
    claimGen := row.claimGen + 1 }

lemma claimRow_id (row : MessageDelivery) : (claimRow row).id = row.id := rfl

/-- Mark a row `sending` if it is still waiting and, for an attempt, the
intent's fence is open; each claim counts `claimGen` up. -/
def claimDeliveryForSending (id : Nat) (db : DB) : Bool × DB :=
  let claims (row : MessageDelivery) := row.id = id && db.claimable row
  (db.deliveries.entries.any claims,
    { db with
      deliveries := db.deliveries.updateWhere claims claimRow claimRow_id })

/-! ## Authorization and handoff -/

/-- The row, if it is `sending` under this claim. -/
def DB.inFlight (db : DB) (attemptID gen : Nat) : Option MessageDelivery :=
  (db.deliveries.get? attemptID).filter fun row =>
    row.status = .sending && row.claimGen = gen

def DeliveryIntent.allows (intent : DeliveryIntent) (minor : Int) : Bool :=
  match intent.capMinor with
  | none => true
  | some cap => intent.reservedMinor + intent.incurredMinor + intent.possibleMinor + minor ≤ cap

def reserveMinor (minor : Int) (intent : DeliveryIntent) : DeliveryIntent :=
  { intent with reservedMinor := intent.reservedMinor + minor }

lemma reserveMinor_id (minor : Int) (intent : DeliveryIntent) :
    (reserveMinor minor intent).id = intent.id :=
  rfl

/-- Reserve an amount against the intent's cap; nothing to do for a free
route. -/
def reserveTx (intentID : String) (minor : Int) (db : DB) : Except DBError DB :=
  if 0 < minor then
    match db.intents.get? intentID with
    | none => .error .overCap
    | some intent =>
      if intent.allows minor then
        .ok { db with
          intents := db.intents.update intentID (reserveMinor minor) (reserveMinor_id minor) }
      else .error .overCap
  else .ok db

section
variable (attemptID : Nat) (intentID : String) (gen : Nat) (unitKind : String) (units minor : Int)

def newTransmission (id : Nat) : DeliveryTransmission where
  id
  attemptID
  intentID
  gen
  state := .authorized
  unitKind
  reservedUnits := units
  authorizedMinor := minor
  reservedMinor := minor
  handoffAt := none
  outcomeClass := none
  retryable := false
  acceptedBy := ""
  corr := {}
  chargedUnits := 0
  chargedMinor := 0
  possibleMinor := 0
  chargeState := .none
  detail := ""
  proofHash := ""
  proofKey := ""
  finishedAt := none

def insertTransmissionTx (db : DB) : Except DBError (Nat × DB) :=
  if db.transmissions.entries.any (fun t => t.attemptID = attemptID && t.gen = gen) then
    .error .constraint
  else
    .ok (db.transmissions.nextKey,
      { db with
        transmissions := db.transmissions.insertNext
          (newTransmission attemptID intentID gen unitKind units minor) })

end

section
variable (attemptID gen : Nat) (unitKind : String) (units reservedMinor : Int) (db : DB)

def authorizeTx : Except DBError (Nat × DB) :=
  match (db.inFlight attemptID gen).bind intentID with
  | none => .error .claimLost
  | some intentID => do
      let reserved ← reserveTx intentID reservedMinor db
      insertTransmissionTx attemptID intentID gen unitKind units reservedMinor reserved

/-- Record transmission `gen` of an attempt claimed under claim `gen`,
reserving its price against the intent's cap in the same transaction. -/
def authorizeTransmission : Except DBError Nat × DB :=
  if reservedMinor < 0 || units < 0 then (.error .badAmount, db)
  else withTx (authorizeTx attemptID gen unitKind units reservedMinor) db

end

section
variable (corr : Correlation) (now : Int) (t : DeliveryTransmission)

def handOffTransmission : DeliveryTransmission :=
  { t with state := .handedOff, handoffAt := some now, corr }

lemma handOffTransmission_id : (handOffTransmission corr now t).id = t.id :=
  rfl

end

/-- Record that the adapter is about to be called, with the correlation the
send will carry. -/
def markTransmissionHandedOffWith (txID : Nat) (corr : Correlation) (now : Int)
    (db : DB) : Except DBError Unit × DB :=
  match db.transmissions.get? txID with
  | none => (.error (.notAuthorized txID), db)
  | some t =>
    if t.state = .authorized then
      (.ok (), { db with
        transmissions := db.transmissions.update txID
          (handOffTransmission corr now) (handOffTransmission_id corr now) })
    else (.error (.notAuthorized txID), db)

/-! ## Finalization -/

/-- What the adapter reported for one transmission. -/
structure TransmissionResult where
  outcome : OutcomeClass
  retryable : Bool := false
  /-- A retryable not-sent result spends one of the row's retries. -/
  consumeRetry : Bool := false
  retryAt : Option Int := none
  acceptedBy : String := ""
  corr : Correlation := {}
  chargedUnits : Int := 0
  chargedMinor : Int := 0
  /-- The charge is the provider's, not an estimate. -/
  confirmed : Bool := false
  detail : String := ""
  reason : String := ""
  /-- Evidence that came back within the call. -/
  evidence : List DeliveryEvidence := []
  acceptedElapsedMs : Option Int := none
  reconcile : Option EvidenceReclassifier := none
  matchWindowS : Int := 0

section
variable (r : TransmissionResult)

/-- What an unknown outcome with no charge leaves open of a reservation. -/
def TransmissionResult.possible (reserved : Int) : Int :=
  if 0 < r.chargedMinor then 0
  else if r.outcome = .unknown && 0 < reserved then reserved
  else 0

def TransmissionResult.chargeState (reserved : Int) : ChargeState :=
  if 0 < r.chargedMinor then
    if r.confirmed then .confirmed else .estimated
  else if r.outcome = .unknown && 0 < reserved then .possible
  else .none

/-- A correlation prepared at the handoff stays when the result names none. -/
def TransmissionResult.correlation (prepared : Correlation) : Correlation :=
  if r.corr.kind = "" then prepared else r.corr

section
variable (reserved : Int) (prepared : Correlation) (now : Int) (t : DeliveryTransmission)

def finishTransmission : DeliveryTransmission :=
  { t with
    state := .done
    outcomeClass := some r.outcome
    retryable := r.retryable
    acceptedBy := r.acceptedBy
    corr := r.correlation prepared
    chargedUnits := r.chargedUnits
    chargedMinor := r.chargedMinor
    possibleMinor := r.possible reserved
    reservedMinor := 0
    chargeState := r.chargeState reserved
    detail := r.detail
    finishedAt := some now }

lemma finishTransmission_id : (finishTransmission r reserved prepared now t).id = t.id :=
  rfl

end

end

/-- The end of a reservation in the intent's aggregates. -/
def settleReservation (reserved charged possible : Int)
    (intent : DeliveryIntent) : DeliveryIntent :=
  { intent with
    reservedMinor := intent.reservedMinor - reserved
    incurredMinor := intent.incurredMinor + charged
    possibleMinor := intent.possibleMinor + possible }

/-- The status a row takes from its finalized transmission. A retryable
not-sent result puts it back to wait for its next claim, if the claim fence
would still let it. -/
def settledStatus (r : TransmissionResult) (live : Bool) (retries maxRetries : Nat) : Status :=
  match r.outcome with
  | .accepted => .accepted
  | .unknown => .unknown
  | .notSent =>
    if r.retryable && (!r.consumeRetry || retries < maxRetries) then
      if live then .retry else .superseded
    else .notSent

section
variable (r : TransmissionResult) (channelRef : String) (live : Bool) (now : Int)
  (row : MessageDelivery)

def settleRow : MessageDelivery :=
  let retries := if r.consumeRetry then row.retries + 1 else row.retries
  let status := settledStatus r live retries row.maxRetries
  match r.outcome with
  | .accepted =>
    { row with
      status
      outcomeClass := some .accepted
      acceptedAt := some now
      acceptedElapsedMs := r.acceptedElapsedMs
      lastError := ""
      channelRef
      reason := "sent" }
  | .unknown =>
    { row with
      status
      outcomeClass := some .unknown
      lastError := r.detail
      reason := "withheld_outcome_unknown" }
  | .notSent =>
    if r.retryable && (!r.consumeRetry || retries < row.maxRetries) then
      { row with
        status
        outcomeClass := some .notSent
        retries
        nextRetry := some (r.retryAt.getD now)
        lastError := r.detail
        reason := if live then "" else "superseded" }
    else
      { row with
        status
        outcomeClass := some .notSent
        retries
        lastError := r.detail
        reason := if r.reason = "" then "not_sent" else r.reason }

@[simp] lemma settleRow_id : (settleRow r channelRef live now row).id = row.id := by
  unfold settleRow
  cases r.outcome with
  | accepted => rfl
  | unknown => rfl
  | notSent =>
    dsimp only
    generalize (if r.consumeRetry then row.retries + 1 else row.retries) = retries
    split
    · rfl
    · rfl

end

/-- Evidence that came back in the call, as it is stored for its
transmission. -/
def returnedEvidence (t : DeliveryTransmission) (corr : Correlation)
    (ev : DeliveryEvidence) : DeliveryEvidence :=
  { ev with
    intentID := some t.intentID
    attemptID := some t.attemptID
    transmissionID := some t.id
    matched := true
    corr := if ev.corr.kind = "" then corr else ev.corr }

def insertReturned (t : DeliveryTransmission) (corr : Correlation) (now : Int) :
    List DeliveryEvidence → DB → Except DBError DB
  | [], db => .ok db
  | ev :: rest, db => do
      let (_, stored) ← insertEvidenceTx (returnedEvidence t corr ev) now db
      insertReturned t corr now rest stored

/-- The transmission's own account: its outcome, correlation and charge, the
end of its reservation, and the evidence stored before its correlation was
known. -/
def settleTransmission (t : DeliveryTransmission) (r : TransmissionResult)
    (now : Int) (db : DB) : DB :=
  let corr := r.correlation t.corr
  let finished := { db with
    transmissions := db.transmissions.update t.id
      (finishTransmission r t.reservedMinor t.corr now) }
  let dirty := finished.markDirty t.intentID
  let reconciled := match r.reconcile with
    | none => dirty
    | some classify =>
      if corr.kind = "" then dirty
      else reconcileTx { t with corr } classify r.matchWindowS dirty
  { reconciled with
    intents := reconciled.intents.update t.intentID
      (settleReservation t.reservedMinor r.chargedMinor (r.possible t.reservedMinor)) }

section
variable (txID : Nat) (r : TransmissionResult) (now : Int) (db : DB)

def finalizeTx : Except DBError (String × DB) :=
  match db.transmissions.get? txID with
  | none => .error (.noTransmission txID)
  | some t =>
    if t.state = .done then .error (.alreadyDone txID)
    else if r.chargedMinor < 0 || r.chargedUnits < 0 then .error .badAmount
    else
      let settled := settleTransmission t r now db
      match settled.inFlight t.attemptID t.gen with
      -- Nothing in flight for this claim: the record above is the account.
      | none => .ok (t.intentID, settled)
      | some _ => do
          let corr := r.correlation t.corr
          let followed := { settled with
            deliveries := settled.deliveries.update t.attemptID
              (settleRow r corr.value (settled.live t.attemptID) now)
              (by intro row; exact settleRow_id _ _ _ _ row) }
          let stored ← insertReturned t corr now r.evidence followed
          .ok (t.intentID, stored)

def finalizeTransmission : Except DBError String × DB := withTx (finalizeTx txID r now) db

end

/-! ## Ending an attempt without a transmission -/

/-- The status an attempt ends with before any transmission. -/
def endedStatus (live retryable : Bool) : Status :=
  if retryable then (if live then .retry else .superseded) else .notSent

section
variable (live retryable : Bool) (reason detail : String) (retryAt : Option Int) (now : Int)
  (row : MessageDelivery)

def endRow : MessageDelivery :=
  { row with
    status := endedStatus live retryable
    outcomeClass := some .notSent
    reason := if retryable && !live then "superseded" else reason
    lastError := detail
    nextRetry := some (retryAt.getD now) }

lemma endRow_id : (endRow live retryable reason detail retryAt now row).id = row.id :=
  rfl

end

section
variable (attemptID gen : Nat) (reason detail : String) (retryable : Bool) (retryAt : Option Int)
  (now : Int) (db : DB)

def endAttemptTx : Except DBError (Unit × DB) :=
  match db.inFlight attemptID gen with
  | none => .error .claimLost
  | some _ =>
    .ok ((), { db with
      deliveries := db.deliveries.update attemptID
        (endRow (db.live attemptID) retryable reason detail retryAt now)
            (endRow_id (db.live attemptID) retryable reason detail retryAt now) })

/-- End an attempt the worker refused before authorizing any transmission. -/
def endAttemptNotSent : Except DBError Unit × DB :=
  withTx (endAttemptTx attemptID gen reason detail retryable retryAt now) db

end

/-! ## Holding a channel -/

def holdDeliveriesForChannel (channel : String) (now : Int) (db : DB) : DB :=
  { db with
    deliveries := db.deliveries.updateWhere (fun row => row.channel = channel &&
        (row.status = .queued || row.status = .retry))
      fun row => { row with status := .held, heldAt := some now } }

/-- A rule delivery's deadline moves by the time it was held. -/
def unheldExpiry (row : MessageDelivery) (now : Int) : Option Int :=
  match row.expiresAt, row.heldAt, row.ruleID with
  | some expires, some held, some _ => some (expires + (now - held))
  | expires, _, _ => expires

def unholdDeliveriesForChannel (channel : String) (now : Int) (db : DB) : DB :=
  { db with
    deliveries := db.deliveries.updateWhere (fun row => row.channel = channel && row.status = .held)
      fun row =>
        { row with
          status := .queued
          expiresAt := unheldExpiry row now
          heldAt := none } }

/-- Every delivery that waits for a retry to one of the destinations is due
now. -/
def nudgeDeliveries (channel : String) (destinations : List String) (now : Int) (db : DB) : DB :=
  { db with
    deliveries := db.deliveries.updateWhere
      (fun row => row.channel = channel && row.status = .retry &&
        destinations.contains row.destination)
      fun row => { row with nextRetry := some now } }

/-! ## Recovery after a stop -/

inductive RecoverCase where
  | neverAuthorized | authorized | handedOff | replayed
  deriving DecidableEq, Repr

structure RecoverStats where
  neverAuthorized : Nat := 0
  authorized : Nat := 0
  handedOff : Nat := 0
  replayed : Nat := 0
  deriving DecidableEq, Repr

def RecoverStats.count (stats : RecoverStats) : RecoverCase → RecoverStats
  | .neverAuthorized => { stats with neverAuthorized := stats.neverAuthorized + 1 }
  | .authorized => { stats with authorized := stats.authorized + 1 }
  | .handedOff => { stats with handedOff := stats.handedOff + 1 }
  | .replayed => { stats with replayed := stats.replayed + 1 }

/-- A row a stop left `sending`, with the claim it is under. -/
structure Stale where
  (id gen : Nat)
  deriving DecidableEq, Repr

def DB.staleRows (db : DB) : List Stale :=
  (db.deliveries.entries.filter fun row =>
    row.status = .sending && row.intentID.isSome).map fun row =>
      { id := row.id, gen := row.claimGen }

def recoveredAuthorized : TransmissionResult where
  outcome := .notSent
  retryable := true
  detail := "recovered after restart: authorized, never handed to the adapter"

def recoveredHandedOff : TransmissionResult where
  outcome := .unknown
  detail := "recovered after restart: handed to the adapter, its outcome never recorded"

section
variable (t : DeliveryTransmission)

def replayedStatus : Status :=
  match t.outcomeClass with
  | some .accepted => .accepted
  | some .unknown => .unknown
  | _ => if t.retryable then .retry else .notSent

def replayedRow (row : MessageDelivery) : MessageDelivery :=
  { row with status := replayedStatus t, outcomeClass := t.outcomeClass }

lemma replayedRow_id (row : MessageDelivery) : (replayedRow t row).id = row.id :=
  rfl

end

def DB.transmissionOfClaim (db : DB) (attemptID gen : Nat) : Option DeliveryTransmission :=
  db.transmissions.entries.find? fun t => t.attemptID = attemptID && t.gen = gen

def releasedRow (now : Int) (row : MessageDelivery) : MessageDelivery :=
  { row with
    status := .retry
    nextRetry := some now
    lastError := "recovered after restart: claimed, never sent" }

lemma releasedRow_id (now : Int) (row : MessageDelivery) : (releasedRow now row).id = row.id := rfl

/-- A row that was claimed and never authorized goes back to wait. -/
def releaseRow (id : Nat) (now : Int) (db : DB) : DB :=
  { db with
    deliveries := db.deliveries.updateWhere
      (fun row => row.id = id && row.status = .sending) (releasedRow now) (releasedRow_id now) }

/-- Settle one row from the transmission its current claim owns. -/
def recoverRow (stale : Stale) (now : Int) (db : DB) : Except DBError (RecoverCase × DB) :=
  match db.transmissionOfClaim stale.id stale.gen with
  | none => .ok (.neverAuthorized, releaseRow stale.id now db)
  | some t =>
    match t.state with
    | .authorized => do
        let (_, settled) ← finalizeTx t.id recoveredAuthorized now db
        .ok (.authorized, settled)
    | .handedOff => do
        let (_, settled) ← finalizeTx t.id recoveredHandedOff now db
        .ok (.handedOff, settled)
    | .done =>
      -- A finalized transmission with its row still sending: the recorded
      -- result is replayed into the row, never another call.
      .ok (.replayed, { db with
        deliveries := db.deliveries.updateWhere
          (fun row => row.id = stale.id && row.status = .sending) (replayedRow t)
          (replayedRow_id t) })

/-- One transaction per row; an error ends the recovery. -/
def recoverRows (now : Int) : List Stale → RecoverStats → DB → Except DBError RecoverStats × DB
  | [], stats, db => (.ok stats, db)
  | stale :: rest, stats, db =>
    match withTx (recoverRow stale now) db with
    | (.ok settled, next) => recoverRows now rest (stats.count settled) next
    | (.error error, next) => (.error error, next)

def recoverIntentDeliveries (now : Int) (db : DB) : Except DBError RecoverStats × DB :=
  recoverRows now db.staleRows {} db

/-! ## Clocks and retention -/

def setElapsed (intentID : String) (elapsed : Int → Int) (db : DB) : DB :=
  { db with
    intents := db.intents.updateWhere (fun intent => intent.id = intentID && intent.state = .active)
      fun intent => { intent with elapsedMs := elapsed intent.elapsedMs } }

def persistIntentClock (intentID : String) (ms : Int) (db : DB) : DB :=
  setElapsed intentID (fun elapsed => max elapsed ms) db

/-- The restart adjustment of an active intent's elapsed time. -/
def setIntentElapsed (intentID : String) (ms : Int) (db : DB) : DB :=
  setElapsed intentID (fun _ => ms) db

def DeliveryIntent.prunable (cutoff : Int) (intent : DeliveryIntent) : Bool :=
  intent.state = .closed &&
    match intent.closedAt with
    | none => false
    | some closedAt => closedAt < cutoff

def DB.pruned (db : DB) (cutoff : Int) : List String :=
  (db.intents.entries.filter (DeliveryIntent.prunable cutoff)).map DeliveryIntent.id

/-- Remove the intents closed before the cutoff with their transmissions and
evidence; attempt rows stay, as every delivery row does. -/
def pruneClosedIntents (cutoff : Int) (db : DB) : DB :=
  let ids := db.pruned cutoff
  let intents := db.intents.deleteWhere (DeliveryIntent.prunable cutoff)
  { db with
    intents
    evidence := (db.evidence.deleteWhere fun e =>
        match e.intentID with
        | none => false
        | some intentID => ids.contains intentID).deleteWhere fun e =>
          e.intentID.isNone && e.receivedAt < cutoff
    transmissions := db.transmissions.deleteWhere fun t =>
      ids.contains t.intentID
    submissions := db.submissions.deleteWhere fun sub =>
      sub.createdAt < cutoff && !intents.entries.any fun intent => intent.submissionID = sub.id }

end MeshSat.Intents
