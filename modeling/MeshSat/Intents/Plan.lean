import MeshSat.Intents.Evidence

/-!
# Submission

From a send request to an intent with its route plan and its first round of
attempts. The plan is ordered by the contact's ranks, numbered, and names no
interface twice; it is frozen with the intent. Whether a route can carry the
message at all (`admission`) depends on the radios and the configuration of the
kit and is a parameter here.
-/

namespace MeshSat.Intents

open Library

/-! ## The route plan -/

def reasonSameInterface : String := "skipped_same_interface"
def reasonAddressHeld : String := "skipped_address_held_locally"
def reasonOversize : String := "skipped_oversize"
def reasonBudget : String := "skipped_budget"
def reasonNoAddress : String := "skipped_no_address"

/-- The stored text of a kind, which also breaks ties between addresses. -/
def Kind.text : Kind → String
  | .sms => "SMS"
  | .meshtastic => "MESHTASTIC"
  | .aprs => "APRS"
  | .iridiumSBD => "IRIDIUM_SBD"
  | .iridiumIMT => "IRIDIUM_IMT"
  | .cellular => "CELLULAR"
  | .tak => "TAK"
  | .reticulum => "RETICULUM"
  | .zigBee => "ZIGBEE"
  | .ble => "BLE"
  | .webhook => "WEBHOOK"
  | .email => "EMAIL"
  | .mqtt => "MQTT"
  | .tetra => "TETRA"
  | .cell => "CELL"

structure Address where
  kind : Kind
  value : String
  primaryRank : Int
  deriving DecidableEq, Repr

def Address.before (a b : Address) : Bool :=
  if a.primaryRank ≠ b.primaryRank then a.primaryRank < b.primaryRank
  else a.kind.text < b.kind.text

def RoutePlanEntry.isHub (p : RoutePlanEntry) : Bool := p.admitted && p.adapterMode = .hub

/-- The admitted Hub routes before the local order. -/
def hubFirst (plan : List RoutePlanEntry) : List RoutePlanEntry :=
  plan.filter RoutePlanEntry.isHub ++ plan.filter fun p => !p.isHub

/-- Number the routes from `index` on; an interface that an earlier route
uses (`seen`) is not admitted again. -/
def numberRoutes : Nat → List String → List RoutePlanEntry → List RoutePlanEntry
  | _, _, [] => []
  | index, seen, p :: rest =>
    if p.admitted && seen.contains p.interfaceID then
      { p with
        routeIndex := index
        admitted := false
        reason := reasonSameInterface } :: numberRoutes (index + 1) seen rest
    else
      { p with routeIndex := index } :: numberRoutes (index + 1)
        (if p.admitted then p.interfaceID :: seen else seen) rest

def routePlan (admission : Address → RoutePlanEntry) (addrs : List Address)
    (hubRouteFirst : Bool) : List RoutePlanEntry :=
  -- A stable sort: an address stays before one it is not after.
  let sorted := addrs.insertionSort fun a b => b.before a = false
  let admitted := sorted.map admission
  numberRoutes 1 [] (if hubRouteFirst then hubFirst admitted else admitted)

/-- A paid route whose one submission costs more than the cap is never
tried. -/
def withinBudget (capMinor : Option Int) (p : RoutePlanEntry) : RoutePlanEntry :=
  match capMinor with
  | none => p
  | some cap =>
    if p.admitted && p.paid && cap < p.estMinor then
      { p with admitted := false, reason := reasonBudget }
    else p

/-- The route gate's answer for each admitted route. -/
def excludedRoutes (routeExcluded : String → Bool)
    (plan : List RoutePlanEntry) (index : Nat) : Bool :=
  plan.any fun p =>
    p.routeIndex = index && p.admitted && routeExcluded p.interfaceID

def firstRound (plan : List RoutePlanEntry) (effective : Strategy)
    (excluded : Nat → Bool) : List RoutePlanEntry :=
  let admitted := plan.filter RoutePlanEntry.admitted
  let preferred := admitted.filter fun p => !excluded p.routeIndex
  match effective with
  | .primaryOnly => (plan.take 1).filter RoutePlanEntry.admitted
  | .orderedFallback =>
    -- A verdict of the gate can be wrong and the message must still leave.
    match preferred with
    | [] => admitted.take 1
    | p :: _ => [p]
  | _ =>
    match preferred with
    | [] => admitted
    | _ => preferred

/-- The route's wire timestamp, allocated once at submission. -/
def stampWire (wireTimestampMs : Nat → Int) (p : RoutePlanEntry) : RoutePlanEntry :=
  if p.admitted && p.adapterMode = .lxmf then
    { p with wireTimestampMs := wireTimestampMs p.routeIndex }
  else p

/-! ## Attempts -/

/-- An attempt row for one route of an intent, built from the intent's
payload, never from another attempt's bytes. -/
def buildRow (intent : DeliveryIntent) (p : RoutePlanEntry)
    (round attemptNo : Nat) : MessageDelivery where
  id := 0
  msgRef := "intent-" ++ intent.id ++ "-" ++ toString attemptNo
  ruleID := none
  channel := p.interfaceID
  status := .queued
  priority := 1
  payload :=
    if p.adapterMode = .lxmf then
      .lxmf intent.payload (if 0 < p.wireTimestampMs then some p.wireTimestampMs else none) true
    else .text intent.payload
  precedence := intent.precedence
  retries := 0
  maxRetries := 3
  nextRetry := none
  lastError := ""
  channelRef := ""
  expiresAt := none
  heldAt := none
  destination := p.destination
  deliveryClass := if p.adapterMode = .lxmf then .lxmf else .message
  intentID := some intent.id
  round
  attemptNo
  routeIndex := p.routeIndex
  outcomeClass := none
  claimGen := 0
  reason := ""
  acceptedAt := none
  acceptedElapsedMs := none

section
variable (row : MessageDelivery)

def storedAttempt (id : Nat) : MessageDelivery :=
  { row with
    id
    precedence := if row.precedence = "" then "Routine" else row.precedence
    ruleID := none
    retries := 0
    nextRetry := none
    lastError := ""
    channelRef := ""
    expiresAt := none
    heldAt := none
    outcomeClass := none
    claimGen := 0
    reason := ""
    acceptedAt := none
    acceptedElapsedMs := none }

lemma storedAttempt_id (id : Nat) : (storedAttempt row id).id = id :=
  rfl

/-- An intent's attempt numbers are unique. -/
def insertAttemptTx (db : DB) : Except DBError (Nat × DB) :=
  if row.intentID.isNone then .error .noIntent
  else if db.deliveries.entries.any (fun other =>
      other.intentID = row.intentID && other.attemptNo = row.attemptNo) then
    .error .constraint
  else
    .ok (db.deliveries.nextKey,
      { db with deliveries := db.deliveries.insertNext (storedAttempt row) (storedAttempt_id row) })

end

/-! ## Preparing an intent -/

/-- A send as it is handed to the intent path; `requestSHA256` is the hash of
the canonical request. -/
structure IntentRequest where
  source : String
  idempotencyKey : Option String
  (requestSHA256 body precedence : String)
  strategy : Option Strategy

/-- What a submission reads about its recipient before anything is written:
the contact's addresses, the strategy and cap of the request or its policy,
and the state of the kit's routes. -/
structure Recipient where
  addresses : List Address
  admission : Address → RoutePlanEntry
  effective : Strategy
  capMinor : Option Int
  routeExcluded : String → Bool
  wireTimestampMs : Nat → Int
  expiryAllowS : Int

/-- An intent to be written with its round-1 attempts. -/
structure NewIntent where
  intent : DeliveryIntent
  firstRows : List MessageDelivery

structure NoRouteError where
  plan : List RoutePlanEntry
  oversize : Bool
  detail : String
  effective : Strategy
  deriving DecidableEq, Repr

/-- The contact's plan as it is frozen with the intent, before the wire
timestamps. -/
def Recipient.plan (contact : Recipient) (req : IntentRequest) : List RoutePlanEntry :=
  let hubRouteFirst := req.strategy.isNone &&
    (contact.effective = .orderedFallback || contact.effective = .allBearers)
  (routePlan contact.admission contact.addresses hubRouteFirst).map (withinBudget contact.capMinor)

def draftIntent (req : IntentRequest) (contact : Recipient) (id subID : String)
    (plan : List RoutePlanEntry) : DeliveryIntent where
  id
  submissionID := subID
  payload := req.body
  precedence := req.precedence
  effectiveStrategy := contact.effective
  routePlan := plan
  state := .active
  outcome := .pending
  possibleDuplicate := false
  version := 1
  activeRound := 1
  roundStartedMs := 0
  capMinor := contact.capMinor
  reservedMinor := 0
  incurredMinor := 0
  possibleMinor := 0
  elapsedMs := 0
  expiryAllowS := contact.expiryAllowS
  cancelledAt := none
  cancelReason := ""
  lastTransition := .t1
  closedAt := none
  dirty := false

/-- Number a first round's routes as attempts, from `attemptNo` on. -/
def buildRows (intent : DeliveryIntent) (round : Nat) :
    Nat → List RoutePlanEntry → List MessageDelivery
  | _, [] => []
  | attemptNo, p :: rest =>
    buildRow intent p round attemptNo :: buildRows intent round (attemptNo + 1) rest

/-- One recipient's intent and its round-1 attempts, or why no route
admits. -/
def prepareIntent (req : IntentRequest) (contact : Recipient) (id subID : String) :
    Except NoRouteError NewIntent :=
  let plan := contact.plan req
  let excluded := excludedRoutes contact.routeExcluded plan
  if (firstRound plan contact.effective excluded).isEmpty then
    .error {
      plan
      oversize := plan.all fun p => p.reason = reasonOversize
      detail :=
        if contact.effective = .primaryOnly then
          "PRIMARY_ONLY sends on the contact's primary route only"
        else ""
      effective := contact.effective }
  else
    let stamped := plan.map (stampWire contact.wireTimestampMs)
    let intent := draftIntent req contact id subID stamped
    .ok {
      intent
      firstRows := buildRows intent 1 1 (firstRound stamped contact.effective excluded) }

/-! ## Writing a submission -/

def DB.submissionByKey (db : DB) (source : String) (key : Option String) :
    Option DeliverySubmission :=
  if key.isNone then none
  else db.submissions.entries.find? fun sub =>
    sub.source = source && sub.idempotencyKey = key

/-- The columns an intent is written with: active and pending, or closed at
once when no route of a team member admits. -/
def storedIntent (subID : String) (intent : DeliveryIntent) : DeliveryIntent :=
  { intent with
    submissionID := subID
    outcome := if intent.state = .closed then intent.outcome else .pending
    lastTransition := if intent.state = .closed then .t2 else .t1
    closedAt := if intent.state = .closed then intent.closedAt else none
    possibleDuplicate := false
    version := 1
    activeRound := 1
    roundStartedMs := 0
    reservedMinor := 0
    incurredMinor := 0
    possibleMinor := 0
    elapsedMs := 0
    cancelledAt := none
    cancelReason := ""
    dirty := false }

def insertAttempts : List MessageDelivery → DB → Except DBError (List Nat × DB)
  | [], db => .ok ([], db)
  | row :: rest, db => do
      let (id, inserted) ← insertAttemptTx row db
      let (ids, done) ← insertAttempts rest inserted
      .ok (id :: ids, done)

def insertIntentTx (subID : String) (new : NewIntent) (db : DB) : Except DBError (List Nat × DB) :=
  if fresh : (storedIntent subID new.intent).id ∉ db.intents.used then
    insertAttempts new.firstRows { db with
      intents := db.intents.insert (storedIntent subID new.intent) fresh }
  else .error .constraint

def insertIntents (subID : String) : List NewIntent → DB → Except DBError (List (List Nat) × DB)
  | [], db => .ok ([], db)
  | new :: rest, db => do
      let (ids, inserted) ← insertIntentTx subID new db
      let (others, done) ← insertIntents subID rest inserted
      .ok (ids :: others, done)

/-- What a submission wrote, or found under its key. -/
inductive Submitted where
  | existing (sub : DeliverySubmission)
  | created (rowIDs : List (List Nat))
  deriving DecidableEq, Repr

section
variable (sub : DeliverySubmission) (intents : List NewIntent) (db : DB)

def createSubmissionTx : Except DBError (Submitted × DB) :=
  match db.submissionByKey sub.source sub.idempotencyKey with
  | some prev =>
    if prev.requestSHA256 ≠ sub.requestSHA256 then
      .error .idempotencyConflict
    else .ok (.existing prev, db)
  | none =>
    if fresh : sub.id ∉ db.submissions.used then do
      let (rowIDs, done) ← insertIntents sub.id intents { db with
        submissions := db.submissions.insert sub fresh }
      .ok (.created rowIDs, done)
    else .error .constraint

/-- A submission, every intent and their round-1 attempts in one transaction,
or nothing. -/
def createSubmission : Except DBError Submitted × DB := withTx (createSubmissionTx sub intents) db

end

inductive SubmitError where
  | noRoute (refusal : NoRouteError)
  | emptyTeam
  | teamNoRoute (plans : List (List RoutePlanEntry))
  | database (error : DBError)
  deriving DecidableEq, Repr

section
variable (req : IntentRequest) (subID : String) (now : Int) (intents : List NewIntent)

def submissionOf : DeliverySubmission where
  id := subID
  source := req.source
  idempotencyKey := req.idempotencyKey
  requestSHA256 := req.requestSHA256
  intentIDs := intents.map fun new => new.intent.id
  createdAt := now

/-- Write prepared intents, unless the same request was already submitted
under its key. -/
def create (db : DB) : Except SubmitError Submitted × DB :=
  match createSubmission (submissionOf req subID now intents) intents db with
  | (.ok submitted, next) => (.ok submitted, next)
  | (.error error, next) => (.error (.database error), next)

end

/-- The answer to a request whose idempotency key was already used. -/
def repeated (req : IntentRequest) (db : DB) : Option (Except SubmitError Submitted) :=
  (db.submissionByKey req.source req.idempotencyKey).map fun prev =>
    if prev.requestSHA256 ≠ req.requestSHA256 then
      .error (.database .idempotencyConflict)
    else .ok (.existing prev)

def submit (req : IntentRequest) (contact : Recipient) (id subID : String)
    (now : Int) (db : DB) : Except SubmitError Submitted × DB :=
  match repeated req db with
  | some answer => (answer, db)
  | none =>
    match prepareIntent req contact id subID with
    | .error refusal => (.error (.noRoute refusal), db)
    | .ok new => create req subID now [new] db

/-! ## Team sends -/

/-- An address the Hub sent for a member that another contact holds. -/
structure AddressConflict where
  kind : Kind
  (value holderContactID : String)
  deriving DecidableEq, Repr

/-- A team member as the directory resolves it, with the id its intent
gets. -/
inductive Member where
  | addressed (id : String) (contact : Recipient)
  | noAddress (id : String) (conflicts : List AddressConflict) (expiryAllowS : Int)

def heldPlan : Nat → List AddressConflict → List RoutePlanEntry
  | _, [] => []
  | index, conflict :: rest =>
    { routeIndex := index
      kind := some conflict.kind
      destination := conflict.value
      reason := reasonAddressHeld
      heldBy := conflict.holderContactID } :: heldPlan (index + 1) rest

def noAddressPlan : List AddressConflict → List RoutePlanEntry
  | [] => [{ reason := reasonNoAddress }]
  | conflicts => heldPlan 0 conflicts

section
variable (req : IntentRequest)

def failedMemberIntent (id subID : String)
    (effective : Strategy) (plan : List RoutePlanEntry) (expiryAllowS now : Int) :
    NewIntent where
  intent :=
    { id
      submissionID := subID
      payload := req.body
      precedence := req.precedence
      effectiveStrategy := effective
      routePlan := plan
      state := .closed
      outcome := .failed
      possibleDuplicate := false
      version := 1
      activeRound := 1
      roundStartedMs := 0
      capMinor := none
      reservedMinor := 0
      incurredMinor := 0
      possibleMinor := 0
      elapsedMs := 0
      expiryAllowS
      cancelledAt := none
      cancelReason := ""
      lastTransition := .t2
      closedAt := some now
      dirty := false }
  firstRows := []

def memberIntent (subID : String) (now : Int) : Member → NewIntent × Option (List RoutePlanEntry)
  | .addressed id contact =>
    match prepareIntent req contact id subID with
    | .ok new => (new, none)
    | .error refusal =>
      (failedMemberIntent req id subID refusal.effective refusal.plan
        contact.expiryAllowS now, some refusal.plan)
  | .noAddress id conflicts expiryAllowS =>
    (failedMemberIntent req id subID .unset (noAddressPlan conflicts)
      expiryAllowS now, some (noAddressPlan conflicts))

/-- A send to a team: one submission with an intent per member, or nothing
when no member has a route. -/
def submitTeam (members : List Member) (subID : String)
    (now : Int) (db : DB) : Except SubmitError Submitted × DB :=
  match repeated req db with
  | some answer => (answer, db)
  | none =>
    let prepared := members.map (memberIntent req subID now)
    if members.isEmpty then (.error .emptyTeam, db)
    else if prepared.all fun result => result.2.isSome then
      (.error (.teamNoRoute (prepared.filterMap Prod.snd)), db)
    else create req subID now (prepared.map Prod.fst) db

end

end MeshSat.Intents
