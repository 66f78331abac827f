import MeshSat.Hub.Inbox
import MeshSat.Hub.Reducer

/-!
# The sender's operations and their evidence

A bridge keeps every operation it publishes. A status from the Hub is read
against its operation, kept under its event id and then given to the ledger;
what the ledger did not take stays pending and is applied again. An event
that cannot be kept is recorded as missing, in the database or else in memory.
-/

namespace MeshSat.Hub

open Library TransitionSystem

/-! ## The tables -/

/-- One operation this bridge published. -/
structure HubOp extends Operation where
  intentID : String
  (expiresAt createdAt : Int64)
  /-- The payload, kept to publish again unchanged. -/
  submission : String
  /-- When its events were first found owed again. -/
  replayAt : Option Int64 := none
  /-- When this bridge stopped asking. -/
  replayGivenUpAt : Option Int64 := none
  deriving DecidableEq

def HubOp.key (op : HubOp) : String := op.opID

/-- An event as this bridge keeps it: the first copy under its id decides what
it says and whether it is valid. -/
structure KeptEvent where
  (eventID opID : String)
  rev : Int
  (eventClass kind reason authority occurredAt : String)
  valid : Bool
  receivedAt : Int64
  /-- When the ledger took it. -/
  appliedAt : Option Int64 := none
  deriving DecidableEq

/-- `scanHubOpEvent`. -/
def KeptEvent.event (row : KeptEvent) : Event where
  opID := row.opID
  eventID := row.eventID
  rev := row.rev
  eventClass := row.eventClass
  kind := row.kind
  reason := row.reason
  authority := row.authority
  occurredAt := row.occurredAt

def Event.row (e : Event) (valid : Bool) (receivedAt : Int64) : KeptEvent where
  eventID := e.eventID
  opID := e.opID
  rev := e.rev
  eventClass := e.eventClass
  kind := e.kind
  reason := e.reason
  authority := e.authority
  occurredAt := e.occurredAt
  valid
  receivedAt

structure MissingEvent where
  (opID eventID : String)
  since : Int64
  deriving DecidableEq

/-- `PRIMARY KEY (op_id, event_id)`. -/
def MissingEvent.key (m : MissingEvent) : String × String := (m.opID, m.eventID)

structure OpsDB where
  /-- An operation id is new each time. -/
  ops : Table HubOp.key
  /-- `PRIMARY KEY (event_id)`, over all operations. -/
  events : Keyed KeptEvent.eventID
  missing : Keyed MissingEvent.key

namespace OpsDB

def getHubOp (db : OpsDB) (opID : String) : Option HubOp := db.ops.get? opID

/-- `INSERT OR IGNORE`, then the row as it is kept. -/
def addHubOpEvent (e : Event) (valid : Bool) (now : Int64) (db : OpsDB) : KeptEvent × OpsDB :=
  let events := db.events.insertOrIgnore (e.row valid now)
  ((events.get? e.eventID).getD (e.row valid now), { db with events })

def applied (now : Int64) (row : KeptEvent) : KeptEvent :=
  { row with appliedAt := some now }

def markHubOpEventApplied (eventID : String) (now : Int64) (db : OpsDB) : OpsDB :=
  { db with
    events := db.events.updateWhere (fun row => row.eventID = eventID && row.appliedAt.isNone)
      (applied now) }

/-- `ORDER BY received_at, event_id`. -/
def receivedBefore (left right : KeptEvent) : Bool :=
  left.receivedAt.toInt < right.receivedAt.toInt ||
    left.receivedAt = right.receivedAt && left.eventID ≤ right.eventID

/-- The valid events the ledger does not have yet, of operations still kept,
oldest first. -/
def pendingHubOpEvents (limit : Nat) (db : OpsDB) : List KeptEvent :=
  ((db.events.entries.filter fun row =>
      row.appliedAt.isNone && row.valid && (db.getHubOp row.opID).isSome)
    |>.insertionSort fun left right => receivedBefore left right = true)
    |>.take limit

/-- `ORDER BY rev, event_id`. -/
def revisionBefore (left right : KeptEvent) : Bool :=
  left.rev < right.rev || left.rev = right.rev && left.eventID ≤ right.eventID

/-- An operation's kept events, with whether they are valid. -/
def hubOpEvents (opID : String) (db : OpsDB) : List (Event × Bool) :=
  ((db.events.entries.filter fun row => row.opID = opID)
    |>.insertionSort fun left right => revisionBefore left right = true)
    |>.map fun row => (row.event, row.valid)

/-! ### Missing events -/

def owed (now : Int64) (op : HubOp) : HubOp :=
  { op with replayAt := some (op.replayAt.getD now) }

def wantHubOpReplay (opID eventID : String) (now : Int64) (db : OpsDB) : OpsDB :=
  { db with
    ops := db.ops.updateWhere (fun op => op.opID = opID) (owed now)
    missing :=
      if (db.getHubOp opID).isSome then
        db.missing.insertOrIgnore ⟨opID, eventID, now⟩
      else db.missing }

def notOwed (op : HubOp) : HubOp := { op with replayAt := none }

lemma notOwed_key (op : HubOp) : (notOwed op).key = op.key := rfl

/-- `replay_at` of an operation with nothing missing any more. -/
def clearIdleReplay (opID : String) (db : OpsDB) : OpsDB :=
  { db with
    ops := db.ops.updateWhere (fun op => op.opID = opID && op.replayAt.isSome &&
        !db.missing.entries.any fun m => m.opID = op.opID) notOwed }

def resolveHubOpMissing (opID eventID : String) (db : OpsDB) : OpsDB :=
  { db with
    missing := db.missing.deleteWhere fun m =>
      m.opID = opID && m.eventID = eventID }.clearIdleReplay opID

def hubOpCompleted (opID : String) (db : OpsDB) : Bool :=
  (db.getHubOp opID).isSome && db.events.entries.any fun row =>
    row.opID = opID && row.valid && row.eventClass = "completed"

def resolveCompletedHubOp (opID : String) (db : OpsDB) : OpsDB :=
  { db with
    missing := db.missing.deleteWhere fun m =>
      m.opID = opID && db.hubOpCompleted opID }.clearIdleReplay opID

/-! ### Operations come and go -/

def asPut (op : HubOp) : HubOp :=
  { op with replayAt := none, replayGivenUpAt := none }

def putHubOp (op : HubOp) (db : OpsDB) : Option OpsDB :=
  if fresh : (asPut op).key ∈ db.ops.used then none
  else some { db with ops := db.ops.insert (asPut op) fresh }

def pastRetention (now : Int64) (op : HubOp) : Bool :=
  op.expiresAt.toInt < now.toInt - skewMs.toInt - retentionAfterExpiryMs

def pruned (now : Int64) (db : OpsDB) (opID : String) : Bool :=
  db.ops.entries.any fun op => op.opID = opID && pastRetention now op

def pruneHubOps (now : Int64) (db : OpsDB) : OpsDB where
  events := db.events.deleteWhere fun row => db.pruned now row.opID
  missing := db.missing.deleteWhere fun m => db.pruned now m.opID
  ops := db.ops.deleteWhere (pastRetention now)

end OpsDB

/-! ## What comes on `msg/status` -/

/-- The Hub's answer to a submission it did not take. -/
structure Refusal where
  (opID mid reason : String)
  deriving DecidableEq

/-- The payload as read: an event, and the type that tells a refusal. -/
structure StatusMessage where
  event : Event
  messageType : String := ""

inductive Status where
  | event (ev : Event)
  | refusal (ref : Refusal)

def parseStatus : Option StatusMessage → Option Status
  | none => none
  | some m =>
    if m.event.v ≠ 1 then none
    else if m.messageType = "refusal" then
      some (.refusal ⟨m.event.opID, m.event.mid, m.event.reason⟩)
    else if m.messageType ≠ "" then none
    else some (.event { m.event with source := "" })

def refusalEventID (opID reason : String) : String := "refusal:" ++ opID ++ ":" ++ reason

def isRefusal (e : Event) : Bool := "refusal:".toList.isPrefixOf e.eventID.toList

def Status.opID : Status → String
  | .event ev => ev.opID
  | .refusal ref => ref.opID

def Status.eventID : Status → String
  | .event ev => ev.eventID
  | .refusal ref => refusalEventID ref.opID ref.reason

def Event.onStatusTopic (ev : Event) : Event :=
  { ev with source := "status_topic" }

def refusalEvent (op : Operation) (ref : Refusal) (occurredAt : String) : Event where
  opID := op.opID
  eventID := refusalEventID op.opID ref.reason
  eventClass := "failed"
  kind := "hub_refusal"
  reason := ref.reason
  authority := "hub"
  occurredAt

/-- What a status is kept as, with whether it is valid. A refusal that names
another message is nothing. -/
def Status.kept (op : Operation) (occurredAt : String) : Status → Option (Event × Bool)
  | .refusal ref =>
    if ref.mid ≠ op.mid then none
    else some (refusalEvent op ref occurredAt, true)
  | .event ev => some (ev.onStatusTopic, valid op ev.onStatusTopic)

/-! ## Receipts -/

structure IntentReceipt where
  (corrKind corrValue scope peer source event completes trust key : String)
  deriving DecidableEq

def receiptFor (op : Operation) (e : Event) : IntentReceipt :=
  let receipt (source event completes : String) : IntentReceipt :=
    { corrKind := "hub_op"
      corrValue := op.opID
      scope := "hub_0"
      peer := op.recipient
      source
      event
      completes
      trust := "session"
      key := "hub_event:" ++ e.eventID }
  if isRefusal e then receipt "hub" ("dropped:hub_refusal:" ++ e.reason) ""
  else if e.eventClass = "completed" then
    receipt "recipient_app" e.kind "delivered_app"
  else if e.eventClass = "failed" || e.eventClass = "expired" then
    receipt e.authority ("nak:" ++ e.kind ++ ":" ++ e.reason) ""
  else receipt e.authority e.kind ""

/-! ## The route -/

/-- The route, with what it published, received and handed to the ledger. -/
structure Route where
  db : OpsDB
  /-- In memory: the missing events whose mark could not be kept. -/
  replay : List (String × String) := []
  published : List Operation := []
  /-- The events received while their operation was kept, in order. -/
  received : List Event := []
  refusals : List Refusal := []
  handed : List IntentReceipt := []

inductive Sink where
  | takes | fails | unset
  deriving DecidableEq

/-- What fails while a status is handled. -/
structure Faults where
  read : Bool := false
  keep : Bool := false
  resolve : Bool := false
  want : Bool := false
  mark : Bool := false
  sink : Sink := .takes

structure Clock where
  ms : Int64
  text : String := ""

namespace Route

def oweReplay (opID eventID : String) (clock : Clock) (faults : Faults) (r : Route) : Route :=
  if faults.want then
    { r with replay := r.replay.insert (opID, eventID) }
  else { r with db := r.db.wantHubOpReplay opID eventID clock.ms }

/-- A kept event ends the obligation that named it, and a valid completion
every obligation of the operation. -/
def resolve (opID : String) (kept : KeptEvent) (faults : Faults) (r : Route) : Route :=
  let completed := kept.valid && kept.eventClass = "completed"
  { r with
    db :=
      if faults.resolve then r.db
      else if completed then r.db.resolveCompletedHubOp opID
      else r.db.resolveHubOpMissing opID kept.eventID
    replay := r.replay.filter fun named =>
      !(named.1 = opID && (completed || named.2 = kept.eventID)) }

/-- Give a kept event to the ledger, and mark it once the ledger has it. -/
def apply (op : Operation) (e : Event) (clock : Clock) (faults : Faults) (r : Route) : Route :=
  match faults.sink with
  | .unset => r
  | .fails => { r with handed := receiptFor op e :: r.handed }
  | .takes => { r with
      db :=
        if faults.mark then r.db
        else r.db.markHubOpEventApplied e.eventID clock.ms
      handed := receiptFor op e :: r.handed }

/-- Keep an event first; the ledger gets it next. -/
def keep (op : Operation) (e : Event) (valid : Bool) (clock : Clock)
    (faults : Faults) (r : Route) : Route :=
  if faults.keep then r.oweReplay op.opID e.eventID clock faults
  else
    let (kept, db) := r.db.addHubOpEvent e valid clock.ms
    let r := { r with db }.resolve op.opID kept faults
    if !kept.valid then r
    else if kept.appliedAt.isSome then r
    else r.apply op kept.event clock faults

def record (r : Route) : Status → Route
  | .event ev => { r with received := r.received ++ [ev] }
  | .refusal ref => { r with refusals := r.refusals ++ [ref] }

def handleStatus (payload : Option StatusMessage) (clock : Clock)
    (faults : Faults) (r : Route) : Route :=
  match parseStatus payload with
  | none => r
  | some status =>
    if faults.read then
      r.oweReplay status.opID status.eventID clock faults
    else
      match r.db.getHubOp status.opID with
      | none => r
      | some op =>
        match status.kept op.toOperation clock.text with
        | none => r
        | some (e, valid) => (r.record status).keep op.toOperation e valid clock faults

section
variable (clock : Clock) (faults : String → Faults) (r : Route)

def applyKept (row : KeptEvent) : Route :=
  if (faults row.eventID).read then r
  else
    match r.db.getHubOp row.opID with
    | none => r
    | some op => r.apply op.toOperation row.event clock (faults row.eventID)

def applyPending : Route := (r.db.pendingHubOpEvents 100).foldl (applyKept clock faults) r

end

end Route

inductive RouteAction where
  /-- `PutHubOp`, before the operation is published. -/
  | put (op : HubOp)
  | status (payload : Option StatusMessage) (clock : Clock) (faults : Faults)
  | applyPending (clock : Clock) (faults : String → Faults)
  | prune (now : Int64)
  /-- What is in memory only is lost. -/
  | restart

def execRoute (r : Route) : RouteAction → Option Route
  | .put op => do
      let db ← r.db.putHubOp op
      some { r with db, published := r.published ++ [op.toOperation] }
  | .status payload clock faults => some (r.handleStatus payload clock faults)
  | .applyPending clock faults => some (r.applyPending clock faults)
  | .prune now => some { r with db := r.db.pruneHubOps now }
  | .restart => some { r with replay := [] }

def routeSystem : TransitionSystem Route RouteAction where
  initial := { db := ⟨.empty, .empty, .empty⟩ }
  exec := execRoute

end MeshSat.Hub
