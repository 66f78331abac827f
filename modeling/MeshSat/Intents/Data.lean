import MeshSat.Library.Table

/-!
# The delivery ledger

One row of each table the delivery intents live in. A submission holds one
intent per recipient. An intent holds the message, its route plan (frozen at
submission) and its state; its attempts are ordinary delivery rows with
`intentID` set. A transmission is one physical submission of an attempt,
generation `gen` of the claim the worker holds. Evidence is what came back.

Amounts are unbounded integers in minor units, wall-clock times are whole
seconds, elapsed times are milliseconds.
-/

namespace MeshSat.Intents

open Library

inductive IntentState where
  | active | closed
  deriving DecidableEq, Repr

inductive Outcome where
  | pending | deliveredHandset | deliveredDevice | acceptedDestinationNode | ackedStation
  | acceptedUnconfirmed | mayHaveBeenSent | failed | expired | cancelled | deliveredApp
  deriving DecidableEq, Repr

/-- The outcomes a receipt can establish. Every adapter and classifier that
fills the `completes` column of a piece of evidence names one of these. -/
inductive Completion where
  | deliveredHandset | deliveredDevice | acceptedDestinationNode | ackedStation | deliveredApp
  deriving DecidableEq, Repr

def Completion.outcome : Completion → Outcome
  | .deliveredHandset => .deliveredHandset
  | .deliveredDevice => .deliveredDevice
  | .acceptedDestinationNode => .acceptedDestinationNode
  | .ackedStation => .ackedStation
  | .deliveredApp => .deliveredApp

inductive OutcomeClass where
  | notSent | accepted | unknown
  deriving DecidableEq, Repr

inductive TxState where
  | authorized | handedOff | done
  deriving DecidableEq, Repr

/-- Status of a delivery row. The last six belong to rows of no intent. -/
inductive Status where
  | queued | retry | held | sending | accepted | notSent | unknown | superseded | cancelled | sent
  | delivered | failed | denied | dead | expired
  deriving DecidableEq, Repr

/-- Not claimed by a worker: `queued`, `retry` or `held`. -/
def Status.unclaimed : Status → Bool
  | .queued | .retry | .held => true
  | _ => false

def Status.unfinished (status : Status) : Bool := status.unclaimed || status = .sending

inductive ChargeState where
  | none | confirmed | estimated | possible
  deriving DecidableEq, Repr

/-- Dispatch strategy; `unset` is the empty string a team member without an
address is stored with. -/
inductive Strategy where
  | primaryOnly | anyReachable | orderedFallback | hembBonded | allBearers | unset
  deriving DecidableEq, Repr

inductive AdapterMode where
  | none | meshUnicast | lxmf | aprs | sms | imt | sbd | tetra | cell | zigbee | hub
  deriving DecidableEq, Repr

inductive Transition where
  | t1 | t2 | t3 | t4 | t5 | t6 | t7 | t8 | t9 | t10 | t11 | t12 | t13 | t14
  deriving DecidableEq, Repr

/-- Kind of a contact's address. -/
inductive Kind where
  | sms | meshtastic | aprs | iridiumSBD | iridiumIMT | cellular | tak | reticulum | zigBee | ble
  | webhook | email | mqtt | tetra | cell
  deriving DecidableEq, Repr

structure RoutePlanEntry where
  routeIndex : Nat := 0
  kind : Option Kind := none
  interfaceID : String := ""
  destination : String := ""
  adapterMode : AdapterMode := .none
  estMinor : Int := 0
  paid : Bool := false
  /-- The outcome a matched receipt on this route establishes. -/
  completionRule : Option Completion := none
  wireTimestampMs : Int := 0
  queueAllowS : Int := 0
  receiptAllowS : Int := 0
  escalateUnconfirmed : Bool := false
  admitted : Bool := false
  reason : String := ""
  /-- The contact that holds an address the Hub sent for this one. -/
  heldBy : String := ""
  deriving DecidableEq, Repr

structure DeliverySubmission where
  (id source : String)
  idempotencyKey : Option String
  requestSHA256 : String
  intentIDs : List String
  createdAt : Int
  deriving DecidableEq, Repr

structure DeliveryIntent where
  (id submissionID payload precedence : String)
  effectiveStrategy : Strategy
  routePlan : List RoutePlanEntry
  state : IntentState
  outcome : Outcome
  possibleDuplicate : Bool
  (version activeRound : Nat)
  roundStartedMs : Int
  capMinor : Option Int
  (reservedMinor incurredMinor possibleMinor elapsedMs expiryAllowS : Int)
  cancelledAt : Option Int
  cancelReason : String
  lastTransition : Transition
  closedAt : Option Int
  /-- Something was written about the intent since the Escalator looked. -/
  dirty : Bool
  deriving DecidableEq, Repr

inductive DeliveryClass where
  | message | lxmf
  deriving DecidableEq, Repr

/-- The bytes of a row: a message body as it is, or the LXMF envelope around
one, with the wire timestamp its route was allocated. -/
inductive Payload where
  | text (body : String)
  | lxmf (content : String) (timestampMs : Option Int) (freeOnly : Bool)
  deriving DecidableEq, Repr

/-- A delivery row. `intentID` is empty on every row that is no attempt. -/
structure MessageDelivery where
  id : Nat
  msgRef : String
  ruleID : Option Nat
  channel : String
  status : Status
  priority : Nat
  payload : Payload
  precedence : String
  (retries maxRetries : Nat)
  nextRetry : Option Int
  (lastError channelRef : String)
  (expiresAt heldAt : Option Int)
  destination : String
  deliveryClass : DeliveryClass
  intentID : Option String
  (round attemptNo routeIndex : Nat)
  outcomeClass : Option OutcomeClass
  claimGen : Nat
  reason : String
  (acceptedAt acceptedElapsedMs : Option Int)
  deriving DecidableEq, Repr

/-- What later evidence must carry to name a transmission: kind and value
within a scope (the interface); `peer` is who it went to. An empty kind is
no correlation. -/
structure Correlation where
  kind : String := ""
  value : String := ""
  scope : String := ""
  peer : String := ""
  deriving DecidableEq, Repr

structure DeliveryTransmission where
  (id attemptID : Nat)
  intentID : String
  gen : Nat
  state : TxState
  unitKind : String
  (reservedUnits authorizedMinor reservedMinor : Int)
  handoffAt : Option Int
  outcomeClass : Option OutcomeClass
  retryable : Bool
  acceptedBy : String
  corr : Correlation
  (chargedUnits chargedMinor possibleMinor : Int)
  chargeState : ChargeState
  (detail proofHash proofKey : String)
  finishedAt : Option Int
  deriving DecidableEq, Repr

open DeliveryTransmission

structure DeliveryEvidence where
  id : Nat := 0
  intentID : Option String := none
  attemptID : Option Nat := none
  transmissionID : Option Nat := none
  (source event : String)
  /-- The outcome it establishes, if it is completion evidence. -/
  completes : Option Completion := none
  corr : Correlation := {}
  trust : String := ""
  matched : Bool := false
  ambiguous : Bool := false
  candidates : List Nat := []
  receivedAt : Int := 0
  dedupKey : Option String := none
  deriving DecidableEq, Repr

/-- The database, as far as delivery intents go. -/
structure DB where
  submissions : Table DeliverySubmission.id
  intents : Table DeliveryIntent.id
  deliveries : Table MessageDelivery.id
  transmissions : Table DeliveryTransmission.id
  evidence : Table DeliveryEvidence.id

def DB.empty : DB where
  submissions := .empty
  intents := .empty
  deliveries := .empty
  transmissions := .empty
  evidence := .empty

inductive DBError where
  /-- A unique index refused an insert. -/
  | constraint | idempotencyConflict | claimLost | overCap | badAmount | intentNotFound | noIntent
  | noTransmission (txID : Nat)
  | notAuthorized (txID : Nat)
  | alreadyDone (txID : Nat)
  deriving DecidableEq, Repr

/-- Run a transaction: committed when the body succeeds, rolled back
otherwise. -/
def withTx {α : Type} (body : DB → Except DBError (α × DB)) (db : DB) : Except DBError α × DB :=
  match body db with
  | .ok (result, next) => (.ok result, next)
  | .error error => (.error error, db)

/-! ## Reading an intent with everything that belongs to it -/

/-- An intent with its rows, transmissions and matched evidence, read in one
transaction. -/
structure IntentSnapshot where
  intent : DeliveryIntent
  rows : List MessageDelivery
  transmissions : List DeliveryTransmission
  evidence : List DeliveryEvidence

section
variable (db : DB) (intentID : String)

def DB.rowsOf : List MessageDelivery :=
  db.deliveries.entries.filter fun row => row.intentID = some intentID

def DB.transmissionsOf : List DeliveryTransmission :=
  db.transmissions.entries.filter fun t => t.intentID = intentID

def DB.evidenceOf : List DeliveryEvidence :=
  db.evidence.entries.filter fun ev => ev.intentID = some intentID

def loadSnapshot : Option IntentSnapshot :=
  (db.intents.get? intentID).map fun intent =>
    { intent
      rows := orderBy MessageDelivery.attemptNo (db.rowsOf intentID)
      transmissions := orderBy attemptID (orderBy gen (db.transmissionsOf intentID))
      evidence := orderBy DeliveryEvidence.id (db.evidenceOf intentID) }

end

end MeshSat.Intents
