import MeshSat.Intents.Escalator
import MeshSat.Library.TransitionSystem

/-!
# The system

Everything that runs against the delivery ledger: the workers' calls, the
Escalator and the senders' cancels, the sinks that store evidence, the
channels that go up and down, retention, and the process that stops at any
point and recovers when it starts again.

One step is one database transaction, or one read that a later transaction of the same goroutine
depends on, with any steps of the others between them. What the hardware answers, what
the clocks show and when a database call fails is left open.
-/

namespace MeshSat.Intents

open Library

/-- Where a `deliverIntent` call is between two of its steps. -/
inductive Pc where
  /-- The row is claimed and not yet read again. -/
  | claimed
  /-- Read again under claim `gen`; the checks and the price follow. -/
  | checked (gen : Nat)
  /-- The cap refused the authorization. -/
  | overCap (gen : Nat)
  | authorized (txID : Nat)
  /-- The handoff could not be recorded. -/
  | handoffFailed (txID : Nat)
  /-- The adapter is being called. -/
  | handedOff (txID : Nat)
  deriving DecidableEq, Repr

/-- A `deliverIntent` call in progress. -/
structure Call where
  (id row : Nat)
  pc : Pc
  deriving DecidableEq, Repr

/-- The transaction an Escalator goroutine is about to make. -/
inductive Job where
  | evaluate (now : Int) (eligible : Nat → Bool)
  | cancel (now : Int) (reason : String)
  | evaluateClosed

/-- An `Evaluate` or a `Cancel` that has read the intent and not yet begun its
transaction. -/
structure Look where
  id : Nat
  intentID : String
  job : Job

inductive Phase where
  | stopped
  /-- The rows the recovery still has to settle. -/
  | recovering (todo : List Stale)
  | running
  deriving DecidableEq, Repr

structure State where
  db : DB
  calls : Table Call.id
  looks : Table Look.id
  phase : Phase

inductive WorkerStep where
  | reread
  /-- A pre-send check or the price refuses. -/
  | refuse (reason detail : String) (retryable : Bool) (retryAt : Option Int) (now : Int)
  | authorize (unitKind : String) (units reservedMinor : Int)
  | endOverCap (reason detail : String) (now : Int)
  /-- No correlation, or no packet id of the mesh, could be reserved. -/
  | noCorrelation (mesh : Bool) (detail : String) (now : Int)
  | handOff (corr : Correlation) (now : Int)
  | handOffFails
  | endHandOff (detail : String) (now : Int)
  /-- The adapter answered. -/
  | finish (result : TransmissionResult) (now : Int)
  /-- A database call failed: the row is left as it is. -/
  | abandon

inductive Action where
  | start
  | recoverRow (now : Int)
  | recovered | recoverFails | stop
  | submit (req : IntentRequest) (contact : Recipient) (id subID : String) (now : Int)
  | submitTeam (req : IntentRequest) (members : List Member) (subID : String) (now : Int)
  | claim (row : Nat)
  | worker (call : Nat) (step : WorkerStep)
  /-- `Evaluate` reads the intent, its elapsed time and the usable routes. -/
  | evaluate (intentID : String) (now : Int) (eligible : Nat → Bool)
  | cancel (intentID : String) (now : Int) (reason : String)
  /-- The transaction of an `Evaluate` or `Cancel` that has read its intent. -/
  | act (look : Nat) (now : Int)
  | dropLook (look : Nat)
  | recordEvidence (report : Report) (windowS : Int)
      (classify : Option EvidenceClassifier) (now : Int)
  | recordProofEvidence (hash : String) (whole : Bool) (valid : String → String → Bool) (now : Int)
  | recordLateDelivery (attemptID gen : Nat) (now : Int)
  | setTransmissionProof (attemptID gen : Nat) (proofHash proofKey : String)
  | hold (channel : String) (now : Int)
  | unhold (channel : String) (now : Int)
  | nudge (channel : String) (destinations : List String) (now : Int)
  | persistIntentClock (intentID : String) (ms : Int)
  | setIntentElapsed (intentID : String) (ms : Int)
  | prune (cutoff : Int)
  | queue (row : MessageDelivery)
  /-- Any write to deliveries of no intent. -/
  | legacy (selected : MessageDelivery → Bool) (change : MessageDelivery → MessageDelivery)

/-! ## Worker calls -/

def State.moveTo (s : State) (call : Call) (pc : Pc) (db : DB) : State :=
  { s with
    db
    calls := s.calls.update call.id fun call => { call with pc } }

def State.endCall (s : State) (call : Call) (db : DB) : State :=
  { s with
    db
    calls := s.calls.deleteWhere fun other => other.id = call.id }

def newCall (row call : Nat) : Call := { id := call, row, pc := .claimed }

lemma newCall_id (row call : Nat) : (newCall row call).id = call := rfl

/-- A worker claims a row it fetched as pending. -/
def execClaim (s : State) (id : Nat) : Option State :=
  match s.phase, s.db.deliveries.get? id with
  | .running, some row =>
    if row.intentID.isSome then
      match claimDeliveryForSending id s.db with
      | (true, db) =>
        some { s with
          db
          calls := s.calls.insertNext (newCall id) (newCall_id id) }
      | (false, db) => some { s with db }
    else none
  | _, _ => none

def resultNoCorrelation (mesh : Bool) (detail : String) : TransmissionResult where
  outcome := .notSent
  retryable := true
  consumeRetry := true
  detail := (if mesh then "no packet id: " else "no correlation: ") ++ detail

def resultHandOffFailed (detail : String) : TransmissionResult where
  outcome := .notSent
  retryable := true
  detail := "handoff not recorded: " ++ detail

section
variable (s : State) (call : Call)

/-- What the worker does with the answer to its authorization. -/
def afterAuthorize (gen : Nat) : Except DBError Nat × DB → State
  | (.ok txID, db) => s.moveTo call (.authorized txID) db
  | (.error .overCap, db) => s.moveTo call (.overCap gen) db
  | (.error _, db) => s.endCall call db

def afterHandOff (txID : Nat) : Except DBError Unit × DB → State
  | (.ok _, db) => s.moveTo call (.handedOff txID) db
  | (.error _, db) => s.moveTo call (.handoffFailed txID) db

/-- The next step of a call; each belongs to one place of `deliverIntent`. -/
def execCall : Pc → WorkerStep → Option State
  | _, .abandon => some (s.endCall call s.db)
  | .claimed, .reread =>
    match s.db.deliveries.get? call.row with
    | none => some (s.endCall call s.db)
    | some row => some (s.moveTo call (.checked row.claimGen) s.db)
  | .checked gen, .refuse reason detail retryable retryAt now =>
    some (s.endCall call (endAttemptNotSent call.row gen reason detail retryable retryAt now
        s.db).2)
  | .checked gen, .authorize unitKind units reservedMinor =>
    some (afterAuthorize s call gen
      (authorizeTransmission call.row gen unitKind units reservedMinor s.db))
  | .overCap gen, .endOverCap reason detail now =>
    some (s.endCall call (endAttemptNotSent call.row gen reason detail false none now s.db).2)
  | .authorized txID, .noCorrelation mesh detail now =>
    some (s.endCall call (finalizeTransmission txID (resultNoCorrelation mesh detail) now s.db).2)
  | .authorized txID, .handOff corr now =>
    some (afterHandOff s call txID (markTransmissionHandedOffWith txID corr now s.db))
  | .authorized txID, .handOffFails => some (s.moveTo call (.handoffFailed txID) s.db)
  | .handoffFailed txID, .endHandOff detail now =>
    some (s.endCall call (finalizeTransmission txID (resultHandOffFailed detail) now s.db).2)
  | .handedOff txID, .finish result now =>
    some (s.endCall call (finalizeTransmission txID result now s.db).2)
  | _, _ => none

end

/-! ## The Escalator's goroutines -/

def State.look (s : State) (intentID : String) (job : Job) : State :=
  { s with
    looks := s.looks.insertNext fun look => { id := look, intentID, job } }

section
variable (s : State) (intentID : String) (now : Int)

/-- `Evaluate`'s read: a closed intent is only reviewed. -/
def execEvaluate (eligible : Nat → Bool) : Option State :=
  (s.db.intents.get? intentID).map fun intent =>
    match intent.state with
    | .active => s.look intentID (.evaluate now eligible)
    | .closed => s.look intentID .evaluateClosed

/-- `Cancel`'s read: a closed intent is refused. -/
def execCancel (reason : String) : Option State :=
  (s.db.intents.get? intentID).map fun intent =>
    match intent.state with
    | .active => s.look intentID (.cancel now reason)
    | .closed => s

end

def runJob (intentID : String) (now : Int) (db : DB) : Job → DB
  | .evaluate elapsed eligible =>
    (applyIntentChange intentID (fun s => decideIntent s elapsed eligible) now db).2
  | .cancel elapsed reason =>
    (applyIntentChange intentID (fun s => decideCancel s elapsed reason) now db).2
  | .evaluateClosed => (evaluateClosed intentID db).2

def State.endLook (s : State) (look : Look) (db : DB) : State :=
  { s with
    db
    looks := s.looks.deleteWhere fun other => other.id = look.id }

/-! ## Starting and stopping -/

/-- One row of the recovery; an error ends it, and the workers start all the
same. -/
def execRecoverRow (s : State) (now : Int) : Option State :=
  match s.phase with
  | .recovering (stale :: rest) =>
    match withTx (recoverRow stale now) s.db with
    | (.ok _, db) => some { s with db, phase := .recovering rest }
    | (.error _, db) => some { s with db, phase := .running }
  | _ => none

/-! ## Deliveries of no intent -/

def queueDelivery (row : MessageDelivery) (db : DB) : DB :=
  { db with
    deliveries := db.deliveries.insertNext fun id =>
      { row with id, intentID := none } }

def legacyWrite (selected : MessageDelivery → Bool)
    (change : MessageDelivery → MessageDelivery) (db : DB) : DB :=
  { db with
    deliveries := db.deliveries.updateWhere (fun row => row.intentID.isNone && selected row)
      fun row => { change row with id := row.id, intentID := none } }

/-! ## Transitions -/

/-- A write that any goroutine of a running process may make. -/
def State.write (s : State) (db : DB) : Option State :=
  if s.phase = .stopped then none else some { s with db }

def exec (s : State) : Action → Option State
  | .start =>
    match s.phase with
    | .stopped => some { s with phase := .recovering s.db.staleRows }
    | _ => none
  | .recoverRow now => execRecoverRow s now
  | .recovered =>
    match s.phase with
    | .recovering [] => some { s with phase := .running }
    | _ => none
  | .recoverFails =>
    match s.phase with
    | .recovering _ => some { s with phase := .running }
    | _ => none
  | .stop => some { s with calls := .empty, looks := .empty, phase := .stopped }
  | .submit req contact id subID now => s.write (submit req contact id subID now s.db).2
  | .submitTeam req members subID now => s.write (submitTeam req members subID now s.db).2
  | .claim row => execClaim s row
  | .worker id step => (s.calls.get? id).bind fun call => execCall s call call.pc step
  | .evaluate intentID now eligible => execEvaluate s intentID now eligible
  | .cancel intentID now reason => execCancel s intentID now reason
  | .act id now =>
    (s.looks.get? id).map fun look =>
      s.endLook look (runJob look.intentID now s.db look.job)
  | .dropLook id => (s.looks.get? id).map fun look => s.endLook look s.db
  | .recordEvidence report windowS classify now =>
    s.write (recordEvidence report windowS classify now s.db).2
  | .recordProofEvidence hash whole valid now =>
    s.write (recordProofEvidence hash whole valid now s.db).2
  | .recordLateDelivery attemptID gen now => s.write (recordLateDelivery attemptID gen now s.db).2
  | .setTransmissionProof attemptID gen proofHash proofKey =>
    s.write (setTransmissionProof attemptID gen proofHash proofKey s.db)
  | .hold channel now => s.write (holdDeliveriesForChannel channel now s.db)
  | .unhold channel now => s.write (unholdDeliveriesForChannel channel now s.db)
  | .nudge channel destinations now => s.write (nudgeDeliveries channel destinations now s.db)
  | .persistIntentClock intentID ms => s.write (persistIntentClock intentID ms s.db)
  | .setIntentElapsed intentID ms => s.write (setIntentElapsed intentID ms s.db)
  | .prune cutoff => s.write (pruneClosedIntents cutoff s.db)
  | .queue row => s.write (queueDelivery row s.db)
  | .legacy selected change => s.write (legacyWrite selected change s.db)

def initial : State where
  db := .empty
  calls := .empty
  looks := .empty
  phase := .stopped

def system : TransitionSystem State Action where
  initial
  exec

end MeshSat.Intents
