import MeshSat.Hub.Contract
import MeshSat.Library.Table
import MeshSat.Library.TransitionSystem

/-!
# The receiver's inbox

What a delivery on this bridge's `msg/in` commits, and what the bridge answers
on its `msg/ack`. The commit key is the origin and the operation; the message
is stored once per origin and message id as long as an entry of it is kept.
Every answer is that of one transaction, and a transaction that fails leaves
the database as it was and answers nothing.
-/

namespace MeshSat.Hub

open Library TransitionSystem

/-! ## The tables -/

/-- The clock skew a commit allows past an operation's deadline. -/
def skewMs : Int64 := 120000

/-- How long after deadline plus skew an entry is kept. -/
def retentionAfterExpiryMs : Int := 24 * 60 * 60 * 1000

def defaultCapacity : Nat := 50000

/-- One committed operation. -/
structure InboxEntry where
  (origin opID mid recipient contentType : String)
  (midExpiresAt expiresAt : Int64)
  contentSHA256 : String
  messageID : Nat
  /-- The receiver's clock at the commit. -/
  committedAt : Int64
  /-- Committed after the deadline but within the skew. -/
  withinSkew : Bool
  /-- Committed while the receiver's clock was not established. -/
  unjudged : Bool
  deriving DecidableEq

/-- `PRIMARY KEY (origin, op_id)`. -/
def InboxEntry.key (e : InboxEntry) : String × String := (e.origin, e.opID)

/-- `expires_at + ? < ?`, which a query computes without wrapping. -/
def InboxEntry.pastRetention (now : Int64) (e : InboxEntry) : Bool :=
  e.expiresAt.toInt + (skewMs.toInt + retentionAfterExpiryMs) < now.toInt

structure Message where
  id : Nat
  (fromNode toNode decodedText : String)
  rxTime : Int64
  transport : String
  deriving DecidableEq

inductive HandoffState where
  | pending | done
  deriving DecidableEq

/-- A stored message on its way to the access rules. -/
structure Handoff where
  messageID : Nat
  state : HandoffState
  createdAt : Int64
  doneAt : Option Int64 := none
  deriving DecidableEq

structure InboxDB where
  inbox : Keyed InboxEntry.key
  messages : Table Message.id
  handoffs : Keyed Handoff.messageID

/-! ## The inbox inside one transaction -/

def InboxDB.byOp (db : InboxDB) (origin opID : String) : Option InboxEntry :=
  db.inbox.get? (origin, opID)

/-- `WHERE origin = ? AND mid = ? ORDER BY committed_at LIMIT 1`. -/
def InboxDB.byMid (db : InboxDB) (origin mid : String) : Option InboxEntry :=
  ((db.inbox.entries.filter fun e => e.origin = origin && e.mid = mid)
    |>.insertionSort fun left right =>
      left.committedAt.toInt ≤ right.committedAt.toInt).head?

def InboxDB.count (db : InboxDB) : Nat := db.inbox.entries.length

def InboxDB.pruneBefore (now : Int64) (db : InboxDB) : InboxDB :=
  { db with inbox := db.inbox.deleteWhere (InboxEntry.pastRetention now) }

section
variable (e : InboxEntry)

def hubMessage (body : String) (id : Nat) : Message where
  id
  fromNode := e.origin
  toNode := e.recipient
  decodedText := body
  rxTime := e.committedAt / 1000
  transport := "hub"

lemma hubMessage_id (body : String) (id : Nat) : (hubMessage e body id).id = id :=
  rfl

def InboxDB.storeMessage (body : String) (now : Int64) (db : InboxDB) : Option InboxDB :=
  if (db.handoffs.get? db.messages.nextKey).isSome then none
  else some { db with
    messages := db.messages.insertNext (hubMessage e body) (hubMessage_id e body)
    handoffs := db.handoffs.insertOrIgnore {
      messageID := db.messages.nextKey
      state := .pending
      createdAt := now } }

def InboxDB.insertRow (db : InboxDB) : Option InboxDB :=
  if (db.inbox.get? e.key).isSome then none
  else some { db with inbox := db.inbox.insertOrIgnore e }

/-- Write an entry; with `store` also the message, whose row it then has. -/
def InboxDB.insert (store : Bool) (body : String)
    (now : Int64) (db : InboxDB) : Option (InboxEntry × InboxDB) :=
  if store then do
    let stored ← db.storeMessage e body now
    let e := { e with messageID := db.messages.nextKey }
    let written ← stored.insertRow e
    some (e, written)
  else do
    let written ← db.insertRow e
    some (e, written)

end

/-! ## The commit -/

/-- What the clock says of a delivery: too late, or whether it is within the
skew and whether it was judged at all. The sum wraps around. -/
def judge (d : Delivery) (now : Int64) (clockEstablished : Bool) : Option (Bool × Bool) :=
  if !clockEstablished then some (false, true)
  else if now > d.expiresAt + skewMs then none
  else some (now > d.expiresAt, false)

def Delivery.entry (d : Delivery) (now : Int64) (withinSkew unjudged : Bool)
    (messageID : Nat) : InboxEntry where
  origin := d.origin
  opID := d.opID
  mid := d.mid
  recipient := d.recipient
  contentType := d.contentType
  midExpiresAt := d.midExpiresAt
  expiresAt := d.expiresAt
  contentSHA256 := d.contentSHA256
  messageID
  committedAt := now
  withinSkew
  unjudged

def effectiveCapacity (capacity : Int) : Nat :=
  if capacity ≤ 0 then defaultCapacity else capacity.toNat

/-- An entry past its retention goes first; a live entry is never evicted. -/
def InboxDB.makeRoom (now : Int64) (capacity : Nat) (db : InboxDB) : InboxDB :=
  if capacity ≤ db.count then db.pruneBefore now else db

/-- The rest of a commit, of an operation that is not known. -/
def commitNew (d : Delivery) (now : Int64) (clockEstablished : Bool)
    (capacity : Nat) (db : InboxDB) : Option (Answer × InboxDB) :=
  let known := db.byMid d.origin d.mid
  if known.any fun e => e.contentSHA256 ≠ d.contentSHA256 then
    -- Never an acknowledgement of the stored message for another payload.
    some (refusedAnswer .midConflict, db)
  else
    match judge d now clockEstablished with
    | none => some (refusedAnswer .expiredAtRecipient, db)
    | some (withinSkew, unjudged) =>
      let room := db.makeRoom now capacity
      if capacity ≤ room.count then
        some (refusedAnswer .receiverBusy, room)
      else do
        let store := known.isNone
        let e := d.entry now withinSkew unjudged ((known.map InboxEntry.messageID).getD 0)
        let (written, next) ← room.insert e store d.body now
        some ({
          result := .stored
          storedNow := store
          withinSkew
          unjudged
          messageID := written.messageID }, next)

section
variable (sha256 : List UInt8 → List UInt8)

/-- Decide one delivery, in the contract's order: valid ids, the digest
recomputed from the delivered fields, the deadline within the message's, a
known operation, a known message, the deadline at commit, the capacity. -/
def commit (d : Delivery) (now : Int64) (clockEstablished : Bool)
    (capacity : Int) (db : InboxDB) : Option (Answer × InboxDB) :=
  if !validV7 d.opID || !validV7 d.mid then
    some (refusedAnswer .badID, db)
  else if d.digest sha256 ≠ some d.contentSHA256 then
    some (refusedAnswer .digestMismatch, db)
  else if d.expiresAt > d.midExpiresAt then
    some (refusedAnswer .badExpiry, db)
  else
    match db.byOp d.origin d.opID with
    | some e =>
      if e.mid = d.mid && e.contentSHA256 = d.contentSHA256 then
        -- Committed before: acknowledged again, after its deadline too.
        some ({ result := .stored, messageID := e.messageID }, db)
      else some (refusedAnswer .opConflict, db)
    | none => commitNew d now clockEstablished (effectiveCapacity capacity) db

/-! ## Runs -/

/-- The receiver, with the answers it gave, newest first. -/
structure Receiver where
  db : InboxDB
  /-- The clock at the last delivery or prune. -/
  clock : Int64
  answers : List (Delivery × Answer)

inductive InboxAction where
  /-- `CommitHubDelivery`. -/
  | deliver (d : Delivery) (now : Int64) (clockEstablished : Bool)
  /-- `PruneHubInbox`. -/
  | prune (now : Int64)
  /-- `MarkHubHandoffDone`. -/
  | handedOff (messageID : Nat) (now : Int64)
  /-- A message that came another way is stored. -/
  | otherMessage (make : Nat → Message)
  /-- Messages past their own retention are deleted. -/
  | forgetMessages (selected : Message → Bool)

def finishHandoff (now : Int64) (h : Handoff) : Handoff :=
  { h with state := .done, doneAt := some now }

def otherNumbered (make : Nat → Message) (id : Nat) : Message :=
  { make id with id }

def execInbox (capacity : Int) (s : Receiver) : InboxAction → Option Receiver
  | .deliver d now clockEstablished => do
      let (answer, db) ← commit sha256 d now clockEstablished capacity s.db
      some { db, clock := now, answers := (d, answer) :: s.answers }
  | .prune now => some { s with db := s.db.pruneBefore now, clock := now }
  | .handedOff messageID now => some { s with
      db := { s.db with
        handoffs := s.db.handoffs.updateWhere
          (fun h => h.messageID = messageID && h.state = .pending)
          (finishHandoff now) } }
  | .otherMessage make => some { s with
      db := { s.db with
        messages := s.db.messages.insertNext (otherNumbered make) } }
  | .forgetMessages selected => some { s with
      db := { s.db with messages := s.db.messages.deleteWhere selected } }

def inboxSystem (capacity : Int) : TransitionSystem Receiver InboxAction where
  initial := { db := ⟨.empty, .empty, .empty⟩, clock := 0, answers := [] }
  exec := execInbox sha256 capacity

end

end MeshSat.Hub
