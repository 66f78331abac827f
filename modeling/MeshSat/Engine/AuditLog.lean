import MeshSat.Library.TransitionSystem

/-!
# The audit log

Every entry is stored with the hash of the one before it and with a hash of
its own. `VerifyChain` recomputes the second from the entry itself and never
looks at the first, so it sees changed entries but not missing ones.
-/

namespace MeshSat.Engine

open Library

structure AuditLogEntry where
  id : Int
  timestamp : String
  (interfaceID direction : Option String)
  eventType : String
  (seqNum deliveryID ruleID : Option Int)
  (detail prevHash hash : String)
  deriving DecidableEq

/-- What is hashed of an entry, one field after the other. -/
def AuditLogEntry.text (e : AuditLogEntry) : String :=
  e.prevHash ++ e.timestamp ++ e.eventType ++ e.detail

/-- The arguments of `AuditEvent`. -/
structure AuditEvent where
  eventType : String
  (interfaceID direction : Option String)
  (deliveryID ruleID : Option Int)
  detail : String

/-- The table, the newest row first, and the service of the process. -/
structure SigningService where
  rows : List AuditLogEntry
  nextID : Int
  lastHash : String

section
variable (sha256Hex : String → String)

def SigningService.auditEvent (ss : SigningService) (now : String) (event : AuditEvent)
    (inserted : Bool) : SigningService :=
  let hash := sha256Hex (ss.lastHash ++ now ++ event.eventType ++ event.detail)
  if inserted then
    { rows :=
        { id := ss.nextID
          timestamp := now
          interfaceID := event.interfaceID
          direction := event.direction
          eventType := event.eventType
          seqNum := none
          deliveryID := event.deliveryID
          ruleID := event.ruleID
          detail := event.detail
          prevHash := ss.lastHash
          hash := hash } :: ss.rows
      nextID := ss.nextID + 1
      lastHash := hash }
  else ss

/-- `NewSigningService` goes on from the newest row, if it can be read. -/
def SigningService.restart (ss : SigningService) (reads : Bool) : SigningService :=
  { ss with
    lastHash :=
      match reads, ss.rows with
      | true, newest :: _ => newest.hash
      | _, _ => "" }

/-- `GetAuditLog`; a negative limit is none. -/
def getAuditLog (rows : List AuditLogEntry) (limit : Int) : List AuditLogEntry :=
  if limit < 0 then rows else rows.take limit.toNat

/-- The loop of `VerifyChain`, from the oldest entry on. -/
def verifyFrom (i : Nat) : List AuditLogEntry → Int × Int
  | [] => (i, -1)
  | e :: rest => if e.hash ≠ sha256Hex e.text then (i, i) else verifyFrom (i + 1) rest

/-- `VerifyChain`: how many entries are valid, and where the first is not. -/
def verifyChain (rows : List AuditLogEntry) (limit : Int) : Int × Int :=
  verifyFrom sha256Hex 0 (getAuditLog rows limit).reverse

inductive AuditAction
  | event (now : String) (event : AuditEvent) (inserted : Bool)
  | restart (reads : Bool)

def SigningService.step (ss : SigningService) : AuditAction → SigningService
  | .event now event inserted => ss.auditEvent sha256Hex now event inserted
  | .restart reads => ss.restart reads

def auditSystem : TransitionSystem SigningService AuditAction where
  initial := ⟨[], 1, ""⟩
  exec ss action := some (ss.step sha256Hex action)

def AuditLogEntry.Sealed (e : AuditLogEntry) : Prop := e.hash = sha256Hex e.text

variable {sha256Hex} {rows : List AuditLogEntry} {limit : Int}

lemma getAuditLog_whole (whole : limit < 0 ∨ (rows.length : Int) ≤ limit) :
    getAuditLog rows limit = rows := by
  unfold getAuditLog
  split
  · rfl
  apply List.take_of_length_le
  omega

lemma verifyFrom_iff (i : Nat) (entries : List AuditLogEntry) :
    (verifyFrom sha256Hex i entries).2 = -1 ↔ ∀ e ∈ entries, e.Sealed sha256Hex := by
  induction entries generalizing i with
  | nil => simp [verifyFrom]
  | cons e rest induction =>
    by_cases sealed_ : e.hash = sha256Hex e.text
    · simp [verifyFrom, AuditLogEntry.Sealed, sealed_, induction]
    · simp [verifyFrom, AuditLogEntry.Sealed, sealed_]

lemma verifyChain_iff (whole : limit < 0 ∨ (rows.length : Int) ≤ limit) :
    (verifyChain sha256Hex rows limit).2 = -1 ↔ ∀ e ∈ rows, e.Sealed sha256Hex := by
  simp [verifyChain, getAuditLog_whole whole, verifyFrom_iff]

lemma SigningService.sealed_step {ss : SigningService} (action : AuditAction)
    (before : ∀ e ∈ ss.rows, e.Sealed sha256Hex) :
    ∀ e ∈ (ss.step sha256Hex action).rows, e.Sealed sha256Hex := by
  cases action with
  | restart reads => exact before
  | event now event inserted =>
    cases inserted with
    | false => exact before
    | true =>
      intro e member
      rcases List.mem_cons.mp member with rfl | old
      · rfl
      · exact before e old

section
variable {ss : SigningService} (reachable : (auditSystem sha256Hex).Reachable ss)

include reachable

lemma SigningService.sealed_of_reachable : ∀ e ∈ ss.rows, e.Sealed sha256Hex := by
  induction reachable with
  | refl => exact List.forall_mem_nil _
  | step action _ _ executed before =>
    cases executed
    exact SigningService.sealed_step action before

end

end

def twoEvents : SigningService :=
  (auditSystem id).runFrom (auditSystem id).initial
    [.event "t1" ⟨"login", none, none, none, none, "a"⟩ true,
      .event "t2" ⟨"logout", none, none, none, none, "b"⟩ true]

end MeshSat.Engine
