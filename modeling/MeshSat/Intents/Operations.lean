import MeshSat.Intents.System

/-!
# The ledger as a machine of its own

Every step of the system makes at most one transaction. `Op` names the
transactions, `Op.run` is what one does to the database, and `opOf` says
which one a step makes. `Op.Enabled` is what the control flow around a
transaction guarantees and the transaction itself does not check: only an
attempt with no transmission is ended or released, and only what
`prepareIntent` or a refused team member made is submitted.

Properties of the database are proved for the runs of this machine; the
system refines it.
-/

namespace MeshSat.Intents

open Library

inductive Op where
  | createSubmission (sub : DeliverySubmission) (intents : List NewIntent)
  | claim (row : Nat)
  | authorize (attemptID gen : Nat) (unitKind : String) (units reservedMinor : Int)
  | handOff (txID : Nat) (corr : Correlation) (now : Int)
  | finalize (txID : Nat) (result : TransmissionResult) (now : Int)
  | endAttempt (attemptID gen : Nat) (reason detail : String)
      (retryable : Bool) (retryAt : Option Int) (now : Int)
  /-- Recovery of a row that was claimed and never authorized. -/
  | release (row : Nat) (now : Int)
  | evaluate (intentID : String) (elapsed : Int) (eligible : Nat → Bool) (now : Int)
  | cancel (intentID : String) (elapsed : Int) (reason : String) (now : Int)
  | evaluateClosed (intentID : String)
  | recordEvidence (report : Report) (windowS : Int)
      (classify : Option EvidenceClassifier) (now : Int)
  | recordProofEvidence (hash : String) (whole : Bool) (valid : String → String → Bool) (now : Int)
  | recordLateDelivery (attemptID gen : Nat) (now : Int)
  | setTransmissionProof (attemptID gen : Nat) (proofHash proofKey : String)
  | hold (channel : String) (now : Int)
  | unhold (channel : String) (now : Int)
  | nudge (channel : String) (destinations : List String) (now : Int)
  | setElapsed (intentID : String) (elapsed : Int → Int)
  | prune (cutoff : Int)
  | queue (row : MessageDelivery)
  | legacy (selected : MessageDelivery → Bool) (change : MessageDelivery → MessageDelivery)

def Op.run (db : DB) : Op → DB
  | .createSubmission sub intents => (Intents.createSubmission sub intents db).2
  | .claim row => (claimDeliveryForSending row db).2
  | .authorize attemptID gen unitKind units reservedMinor =>
    (authorizeTransmission attemptID gen unitKind units reservedMinor db).2
  | .handOff txID corr now => (markTransmissionHandedOffWith txID corr now db).2
  | .finalize txID result now => (finalizeTransmission txID result now db).2
  | .endAttempt attemptID gen reason detail retryable retryAt now =>
    (endAttemptNotSent attemptID gen reason detail retryable retryAt now db).2
  | .release row now => releaseRow row now db
  | .evaluate intentID elapsed eligible now =>
    (applyIntentChange intentID (fun s => decideIntent s elapsed eligible) now db).2
  | .cancel intentID elapsed reason now =>
    (applyIntentChange intentID (fun s => decideCancel s elapsed reason) now db).2
  | .evaluateClosed intentID => (Intents.evaluateClosed intentID db).2
  | .recordEvidence report windowS classify now =>
    (Intents.recordEvidence report windowS classify now db).2
  | .recordProofEvidence hash whole valid now =>
    (Intents.recordProofEvidence hash whole valid now db).2
  | .recordLateDelivery attemptID gen now => (Intents.recordLateDelivery attemptID gen now db).2
  | .setTransmissionProof attemptID gen proofHash proofKey =>
    Intents.setTransmissionProof attemptID gen proofHash proofKey db
  | .hold channel now => holdDeliveriesForChannel channel now db
  | .unhold channel now => unholdDeliveriesForChannel channel now db
  | .nudge channel destinations now => nudgeDeliveries channel destinations now db
  | .setElapsed intentID elapsed => Intents.setElapsed intentID elapsed db
  | .prune cutoff => pruneClosedIntents cutoff db
  | .queue row => queueDelivery row db
  | .legacy selected change => legacyWrite selected change db

/-- What `Submit` and `SubmitTeam` hand over to be written. -/
inductive NewIntent.Prepared : NewIntent → Prop where
  | routed {req : IntentRequest} {contact : Recipient} {id subID : String} {new : NewIntent} :
      prepareIntent req contact id subID = .ok new → Prepared new
  | refused (req : IntentRequest) (id subID : String) (effective : Strategy)
      (plan : List RoutePlanEntry) (expiryAllowS now : Int) :
      (effective = .orderedFallback → ∀ p ∈ plan, p.admitted = false) →
      Prepared (failedMemberIntent req id subID effective plan expiryAllowS now)

/-- No transmission was ever authorized for this claim. -/
def DB.Unsent (db : DB) (attemptID gen : Nat) : Prop :=
  ∀ txID t, db.transmissions.get? txID = some t → t.attemptID = attemptID → t.gen ≠ gen

def Op.Enabled (db : DB) : Op → Prop
  | .createSubmission _ intents => ∀ new ∈ intents, new.Prepared
  | .endAttempt attemptID gen _ _ _ _ _ => db.Unsent attemptID gen
  | .release id _ =>
    ∃ row, db.deliveries.get? id = some row ∧ row.status = .sending ∧
      row.intentID.isSome ∧ db.Unsent id row.claimGen
  | _ => True

def ledger : TransitionSystem DB Op where
  initial := .empty
  exec db op := some (op.run db)

/-- The runs of the ledger whose transactions all meet `condition`. -/
def LedgerRun (condition : DB → Op → Prop) (start finish : DB) : Prop :=
  ledger.Reaches (fun db op => op.Enabled db ∧ condition db op) start finish

lemma LedgerRun.preserves (run : LedgerRun condition start finish) (property : DB → Prop)
    (kept : ∀ db (op : Op), property db → op.Enabled db → condition db op → property (op.run db))
    (initially : property start) : property finish := by
  refine TransitionSystem.Reaches.preserves run ?_ initially
  rintro db op next holds ⟨enabled, permitted⟩ executed
  cases executed
  exact kept db op holds enabled permitted

/-! ## The transaction of a step -/

def opOfWorker (call : Call) : Pc → WorkerStep → Option Op
  | .checked gen, .refuse reason detail retryable retryAt now =>
    some (.endAttempt call.row gen reason detail retryable retryAt now)
  | .checked gen, .authorize unitKind units reservedMinor =>
    some (.authorize call.row gen unitKind units reservedMinor)
  | .overCap gen, .endOverCap reason detail now =>
    some (.endAttempt call.row gen reason detail false none now)
  | .authorized txID, .noCorrelation mesh detail now =>
    some (.finalize txID (resultNoCorrelation mesh detail) now)
  | .authorized txID, .handOff corr now => some (.handOff txID corr now)
  | .handoffFailed txID, .endHandOff detail now =>
    some (.finalize txID (resultHandOffFailed detail) now)
  | .handedOff txID, .finish result now => some (.finalize txID result now)
  | _, _ => none

def opOfJob (intentID : String) (now : Int) : Job → Op
  | .evaluate elapsed eligible => .evaluate intentID elapsed eligible now
  | .cancel elapsed reason => .cancel intentID elapsed reason now
  | .evaluateClosed => .evaluateClosed intentID

def opOfRecovery (db : DB) (stale : Stale) (now : Int) : Option Op :=
  match db.transmissionOfClaim stale.id stale.gen with
  | none => some (.release stale.id now)
  | some t =>
    match t.state with
    | .authorized => some (.finalize t.id recoveredAuthorized now)
    | .handedOff => some (.finalize t.id recoveredHandedOff now)
    | .done => none

def opOfCreate (req : IntentRequest) (subID : String) (now : Int) (intents : List NewIntent) : Op :=
  .createSubmission (submissionOf req subID now intents) intents

/-- The transaction a step of the system makes, if it makes one. -/
def opOf (s : State) : Action → Option Op
  | .recoverRow now =>
    match s.phase with
    | .recovering (stale :: _) => opOfRecovery s.db stale now
    | _ => none
  | .submit req contact id subID now =>
    match repeated req s.db, prepareIntent req contact id subID with
    | none, .ok new => some (opOfCreate req subID now [new])
    | _, _ => none
  | .submitTeam req members subID now =>
    let prepared := members.map (memberIntent req subID now)
    if (repeated req s.db).isSome || members.isEmpty ||
        prepared.all (fun result => result.2.isSome) then none
    else some (opOfCreate req subID now (prepared.map Prod.fst))
  | .claim row => some (.claim row)
  | .worker id step => (s.calls.get? id).bind fun call => opOfWorker call call.pc step
  | .act id now => (s.looks.get? id).map fun look => opOfJob look.intentID now look.job
  | .recordEvidence report windowS classify now =>
    some (.recordEvidence report windowS classify now)
  | .recordProofEvidence hash whole valid now => some (.recordProofEvidence hash whole valid now)
  | .recordLateDelivery attemptID gen now => some (.recordLateDelivery attemptID gen now)
  | .setTransmissionProof attemptID gen proofHash proofKey =>
    some (.setTransmissionProof attemptID gen proofHash proofKey)
  | .hold channel now => some (.hold channel now)
  | .unhold channel now => some (.unhold channel now)
  | .nudge channel destinations now => some (.nudge channel destinations now)
  | .persistIntentClock intentID ms => some (.setElapsed intentID fun elapsed => max elapsed ms)
  | .setIntentElapsed intentID ms => some (.setElapsed intentID fun _ => ms)
  | .prune cutoff => some (.prune cutoff)
  | .queue row => some (.queue row)
  | .legacy selected change => some (.legacy selected change)
  | _ => none

end MeshSat.Intents
