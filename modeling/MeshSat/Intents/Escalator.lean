import MeshSat.Intents.Ledger
import MeshSat.Intents.Plan

/-!
# The Escalator

It reads an intent with its rows, transmissions and evidence, chooses at most
one transition, and applies it in the same transaction. A decision is a pure
function of that snapshot, the intent's elapsed time and the routes that are
usable now.
-/

namespace MeshSat.Intents

open Library

/-! ## What a snapshot says -/

/-- What is known of one attempt. -/
structure RowFacts where
  row : MessageDelivery
  entry : RoutePlanEntry
  /-- A transmission of this row reached the adapter. -/
  handedOff : Bool
  /-- Matched completion evidence on one of its transmissions. -/
  completed : Bool
  /-- Matched evidence that no receipt will come. -/
  noReceipt : Bool

def planEntry (plan : List RoutePlanEntry) (index : Nat) : RoutePlanEntry :=
  (plan.find? fun p => p.routeIndex = index).getD { routeIndex := index }

/-- The transmission reached the adapter, and may have left the device. -/
def DeliveryTransmission.reached (t : DeliveryTransmission) : Bool :=
  t.state = .handedOff || (t.state = .done && t.outcomeClass ≠ some .notSent)

def DeliveryEvidence.isCompletion (ev : DeliveryEvidence) : Bool :=
  ev.matched && ev.completes.isSome

/-- A refusal: a NAK, or our own radio's report that it sent nothing. -/
def DeliveryEvidence.isRefusal (ev : DeliveryEvidence) : Bool :=
  ev.matched && ev.completes.isNone && (hasPrefix ev.event "nak" || hasPrefix ev.event "dropped")

def rowFacts (s : IntentSnapshot) (row : MessageDelivery) : RowFacts where
  row
  entry := planEntry s.intent.routePlan row.routeIndex
  handedOff := s.transmissions.any fun t => t.attemptID = row.id && t.reached
  completed := s.evidence.any fun ev =>
    ev.attemptID = some row.id && ev.isCompletion
  noReceipt := s.evidence.any fun ev =>
    ev.attemptID = some row.id && ev.isRefusal

def factsOf (s : IntentSnapshot) : List RowFacts := s.rows.map (rowFacts s)

def receiptEnded (f : RowFacts) (now : Int) : Bool :=
  f.noReceipt ||
    match f.row.acceptedElapsedMs with
    | none => false
    | some accepted => f.entry.receiptAllowS * 1000 ≤ now - accepted

/-- Nothing more is expected of this attempt. -/
def settled (f : RowFacts) (now : Int) : Bool :=
  match f.row.status with
  | .notSent | .unknown | .superseded | .cancelled => true
  | .accepted =>
    f.completed || (f.entry.completionRule.isNone && !f.entry.escalateUnconfirmed) ||
      receiptEnded f now
  | _ => false

/-- The route's rule expects a receipt and the route is free, or the policy
opts in. -/
def mayEscalateAfterAcceptance (p : RoutePlanEntry) : Bool :=
  if p.completionRule.isSome then !p.paid || p.escalateUnconfirmed
  else p.escalateUnconfirmed

/-- The next admitted route after `index` that is still usable. -/
def nextRoute (plan : List RoutePlanEntry) (index : Nat)
    (eligible : Nat → Bool) : Option RoutePlanEntry :=
  plan.find? fun p =>
    index < p.routeIndex && p.admitted && eligible p.routeIndex

def maxAttemptNo (s : IntentSnapshot) : Nat :=
  s.rows.foldr (fun row most => max row.attemptNo most) 0

/-! ## Outcomes -/

/-- Our own radio refused the transmission and sent nothing of it; completion
evidence for the same transmission wins over the refusal. -/
def droppedTransmission (evidence : List DeliveryEvidence) (txID : Nat) : Bool :=
  evidence.any (fun ev => ev.matched && ev.transmissionID = some txID &&
    ev.completes.isNone && hasPrefix ev.event "dropped") &&
  !evidence.any fun ev => ev.transmissionID = some txID && ev.isCompletion

/-- The outcome of the first matched completion evidence, if there is one. -/
def firstCompletion (evidence : List DeliveryEvidence) : Option Completion :=
  (evidence.find? DeliveryEvidence.isCompletion).bind DeliveryEvidence.completes

def DeliveryTransmission.acceptedDone (t : DeliveryTransmission) : Bool :=
  t.state = .done && t.outcomeClass = some .accepted

def DeliveryTransmission.perhapsSent (t : DeliveryTransmission) : Bool :=
  (t.state = .done && t.outcomeClass = some .unknown) || t.state = .handedOff

open DeliveryTransmission

/-- The first matched completion evidence's outcome; else accepted if any
transmission was; else maybe sent if any is unknown; else failed. -/
def outcomeRule (s : IntentSnapshot) : Outcome :=
  match firstCompletion s.evidence with
  | some completion => completion.outcome
  | none =>
    let kept := s.transmissions.filter fun t =>
      !droppedTransmission s.evidence t.id
    if kept.any acceptedDone then .acceptedUnconfirmed
    else if kept.any perhapsSent then .mayHaveBeenSent
    else .failed

def closedOutcome (s : IntentSnapshot) : Outcome :=
  match outcomeRule s with
  | .failed =>
    if s.intent.cancelledAt.isSome then .cancelled
    else if s.intent.lastTransition = .t12 || (0 < s.intent.expiryAllowS &&
          s.intent.expiryAllowS * 1000 ≤ s.intent.elapsedMs) then .expired
    else .failed
  | outcome => outcome

/-- A weaker outcome replacing one that an accepted or possibly sent
transmission made. -/
def correctsAcceptance (next current : Outcome) : Bool :=
  match current with
  | .acceptedUnconfirmed =>
    next = .mayHaveBeenSent || next = .failed || next = .cancelled ||
      next = .expired
  | .mayHaveBeenSent => next = .failed || next = .cancelled || next = .expired
  | _ => false

/-- Evidence beats acceptance beats possibly sent beats the rest. -/
def outcomeStrength : Outcome → Nat
  | .deliveredHandset | .deliveredDevice | .acceptedDestinationNode
  | .ackedStation | .deliveredApp => 4
  | .acceptedUnconfirmed => 3
  | .mayHaveBeenSent => 2
  | .failed | .expired | .cancelled => 1
  | .pending => 0

/-- Two or more rows each have a transmission that was accepted or whose
outcome is unknown. Once set it stays set. -/
def possibleDuplicate (s : IntentSnapshot) : Bool :=
  s.intent.possibleDuplicate ||
    let rows := ((s.transmissions.filter fun t =>
      !droppedTransmission s.evidence t.id && t.reached).map attemptID).dedup
    2 ≤ rows.length

/-! ## The decision -/

/-- What the Escalator decided for one intent. A transition is applied only
when the intent is still at `expectVersion`; with none only the bookkeeping
is. -/
structure IntentChange where
  transition : Option Transition := none
  expectVersion : Nat
  /-- Per attempt row, the elapsed time at which it was seen accepted. -/
  stampAccepted : List (Nat × Int) := []
  /-- Retire the unclaimed rows of these rounds, or of every round. -/
  retire : List Nat := []
  retireAll : Bool := false
  retireStatus : Option Status := none
  retireReason : String := ""
  /-- The next round's attempt. -/
  newRow : Option MessageDelivery := none
  newActiveRound : Nat := 0
  roundStartedMs : Int := 0
  setOutcome : Option Outcome := none
  possibleDuplicate : Option Bool := none
  close : Bool := false
  cancelReason : String := ""
  elapsedMs : Int

def unstamped (row : MessageDelivery) : Bool :=
  row.status = .accepted && row.acceptedElapsedMs.isNone

def stampRow (now : Int) (row : MessageDelivery) : MessageDelivery :=
  if unstamped row then { row with acceptedElapsedMs := some now } else row

section
variable (s : IntentSnapshot)

/-- The snapshot as the decision sees it: every accepted row has its
acceptance stamped. -/
def IntentSnapshot.stamped (now : Int) : IntentSnapshot :=
  { s with rows := s.rows.map (stampRow now) }

def noteDuplicate (change : IntentChange) : IntentChange :=
  if possibleDuplicate s ≠ s.intent.possibleDuplicate then
    { change with possibleDuplicate := some (possibleDuplicate s) }
  else change

def lookedAt (now : Int) : IntentChange where
  expectVersion := s.intent.version
  elapsedMs := now
  stampAccepted := (s.rows.filter unstamped).map fun row => (row.id, now)

def closeWith (now : Int) (transition : Transition)
    (outcome : Outcome) (retireReason : String) : IntentChange :=
  noteDuplicate s { lookedAt s now with
    transition := some transition
    close := true
    setOutcome := some outcome
    retireAll := true
    retireStatus := some .superseded
    retireReason }

def advance (now : Int) (transition : Transition)
    (next : RoutePlanEntry) (retireReason : String) : IntentChange :=
  noteDuplicate s { lookedAt s now with
    transition := some transition
    newRow := some (buildRow s.intent next (s.intent.activeRound + 1) (maxAttemptNo s + 1))
    newActiveRound := s.intent.activeRound + 1
    roundStartedMs := now
    retire := [s.intent.activeRound]
    retireStatus := some .superseded
    retireReason }

/-- T9 and T10: matched completion evidence from any transmission the intent
owns, in any round. -/
def decideCompletion (facts : List RowFacts) (now : Int) : Option IntentChange :=
  if facts.any RowFacts.completed then
    if s.intent.effectiveStrategy ≠ .allBearers then
      some (closeWith s now .t9 (outcomeRule s) "superseded")
    else if s.intent.outcome ≠ outcomeRule s then
      some (noteDuplicate s { lookedAt s now with
        transition := some .t10
        setOutcome := some (outcomeRule s) })
    else none
  else none

def decideExpiry (now : Int) : Option IntentChange :=
  if 0 < s.intent.expiryAllowS && s.intent.expiryAllowS * 1000 ≤ now then
    let outcome :=
      if outcomeRule s = .failed || outcomeRule s = .pending then .expired
      else outcomeRule s
    some (closeWith s now .t12 outcome "expired")
  else none

section
variable (active : List RowFacts) (now : Int)

/-- T7: a paid route's outcome is unknown. -/
def decideUnknown : Option IntentChange :=
  if s.intent.effectiveStrategy ≠ .allBearers &&
      active.any (fun f => f.row.status = .unknown && f.entry.paid) then
    some (closeWith s now .t7 (outcomeRule s) "withheld_outcome_unknown")
  else none

/-- T3, T8, T4, T5 and T6: the one route of an ordered fallback is done with,
and the next one takes over. -/
def decideFallback (eligible : Nat → Bool) : Option IntentChange :=
  match s.intent.effectiveStrategy, active with
  | .orderedFallback, [f] =>
    let next := nextRoute s.intent.routePlan f.entry.routeIndex eligible
    match f.row.status, next with
    | .notSent, some next => some (advance s now .t3 next "superseded")
    | .unknown, some next =>
      if f.entry.paid then none
      else some (advance s now .t8 next "superseded")
    | .accepted, next =>
      if !f.completed && receiptEnded f now then
        match mayEscalateAfterAcceptance f.entry, next with
        | true, some next => some (advance s now .t5 next "superseded")
        | _, _ =>
          if f.entry.paid && f.entry.completionRule.isSome && !f.entry.escalateUnconfirmed then
            some (closeWith s now .t6 (outcomeRule s) "superseded")
          else none
      else none
    | status, some next =>
      if status.unclaimed && !f.handedOff &&
          f.entry.queueAllowS * 1000 ≤ now - s.intent.roundStartedMs then
        some (advance s now .t4 next "skipped_offline")
      else none
    | _, none => none
  | _, _ => none

/-- T11: every row of the active round is settled, and there is no next
route. -/
def decideSettled : Option IntentChange :=
  if !active.isEmpty && active.all (fun f => settled f now) then
    some (closeWith s now .t11 (outcomeRule s) "superseded")
  else none

end

def decideBookkeeping (now : Int) : Option IntentChange :=
  if !(lookedAt s now).stampAccepted.isEmpty ||
      possibleDuplicate s ≠ s.intent.possibleDuplicate then
    some (noteDuplicate s (lookedAt s now))
  else none

/-- At most one transition for an intent's durable state. -/
def decideIntent (now : Int) (eligible : Nat → Bool) : Option IntentChange :=
  if s.intent.state ≠ .active then none
  else
    let facts := factsOf (s.stamped now)
    let active := facts.filter fun f => f.row.round = s.intent.activeRound
    decideCompletion s facts now <|> decideExpiry s now <|> decideUnknown s active now
      <|> decideFallback s active now eligible <|> decideSettled s active now
      <|> decideBookkeeping s now

/-- T13: the sender cancels. An attempt in flight finishes and is
recorded. -/
def decideCancel (now : Int) (reason : String) : Option IntentChange :=
  if s.intent.state ≠ .active then none
  else
    some {
      transition := some .t13
      expectVersion := s.intent.version
      elapsedMs := now
      retireAll := true
      retireStatus := some .cancelled
      retireReason := "cancelled"
      setOutcome := some (if outcomeRule s = .failed then .cancelled else outcomeRule s)
      close := true
      cancelReason :=
        if reason = "" then "cancelled by the sender" else reason }

end

/-! ## Applying it -/

def setClean (intent : DeliveryIntent) : DeliveryIntent :=
  { intent with dirty := false }

/-- Whatever made it dirty is in the decision that follows. -/
def DB.clearDirty (db : DB) (intentID : String) : DB :=
  { db with intents := db.intents.update intentID setClean }

section
variable (intentID : String) (stamps : List (Nat × Int))

def stampOne (row : MessageDelivery) : MessageDelivery :=
  if row.intentID = some intentID && row.acceptedElapsedMs.isNone then
    { row with acceptedElapsedMs := stamps.lookup row.id }
  else row

@[simp] lemma stampOne_id (row : MessageDelivery) : (stampOne intentID stamps row).id = row.id := by
  unfold stampOne
  split
  · rfl
  · rfl

def stampAcceptedTx (db : DB) : DB :=
  { db with
    deliveries := db.deliveries.updateWhere (fun _ => true) (stampOne intentID stamps)
      (by intro row; exact stampOne_id _ _ row) }

end

def IntentChange.retires (change : IntentChange) (intentID : String)
    (row : MessageDelivery) : Bool :=
  row.intentID = some intentID && row.status.unclaimed &&
    (change.retireAll || change.retire.contains row.round)

def IntentChange.retireRow (change : IntentChange) (row : MessageDelivery) : MessageDelivery :=
  let status := change.retireStatus.getD .superseded
  let reason :=
    if change.retireReason = "" then
      (if status = .cancelled then "cancelled" else "superseded")
    else change.retireReason
  { row with status, reason, heldAt := none }

def retireTx (intentID : String) (change : IntentChange) (db : DB) : DB :=
  { db with
    deliveries := db.deliveries.updateWhere (change.retires intentID) change.retireRow }

def insertNewRowTx (newRow : Option MessageDelivery) (db : DB) : Except DBError DB :=
  match newRow with
  | none => .ok db
  | some row => do
      let (_, inserted) ← insertAttemptTx row db
      .ok inserted

def IntentChange.applyTo (change : IntentChange) (transition : Transition)
    (now : Int) (intent : DeliveryIntent) : DeliveryIntent :=
  { intent with
    version := intent.version + 1
    lastTransition := transition
    activeRound :=
      if change.newRow.isSome then change.newActiveRound
      else intent.activeRound
    roundStartedMs :=
      if change.newRow.isSome then change.roundStartedMs
      else intent.roundStartedMs
    outcome := change.setOutcome.getD intent.outcome
    possibleDuplicate := change.possibleDuplicate.getD intent.possibleDuplicate
    cancelledAt :=
      if change.cancelReason = "" then intent.cancelledAt else some now
    cancelReason :=
      if change.cancelReason = "" then intent.cancelReason
      else change.cancelReason
    state := if change.close then .closed else intent.state
    closedAt := if change.close then some now else intent.closedAt
    elapsedMs :=
      if change.close then max intent.elapsedMs change.elapsedMs
      else intent.elapsedMs }

def applyTransitionTx (intentID : String) (change : IntentChange)
    (transition : Transition) (now : Int) (db : DB) : Except DBError DB := do
  let inserted ← insertNewRowTx change.newRow (retireTx intentID change db)
  .ok { inserted with
    intents := inserted.intents.update intentID (change.applyTo transition now) }

def IntentChange.note (change : IntentChange) (intent : DeliveryIntent) : DeliveryIntent :=
  { intent with
    possibleDuplicate := change.possibleDuplicate.getD intent.possibleDuplicate }

/-- Bookkeeping, not a transition: no version change. -/
def applyBookkeepingTx (intentID : String) (change : IntentChange) (db : DB) : DB :=
  { db with
    intents := db.intents.updateWhere (fun intent => intent.id = intentID && intent.state = .active)
      change.note }

section
variable (intentID : String) (decide : IntentSnapshot → Option IntentChange) (now : Int) (db : DB)

def applyIntentChangeTx : Except DBError (Option IntentChange × DB) :=
  match loadSnapshot db intentID with
  | none => .error .intentNotFound
  | some snap =>
    let looked := db.clearDirty intentID
    match decide snap with
    | none => .ok (none, looked)
    | some change =>
      let stamped := stampAcceptedTx intentID change.stampAccepted looked
      match change.transition with
      | none => .ok (some change, applyBookkeepingTx intentID change stamped)
      | some transition =>
        if snap.intent.version = change.expectVersion && snap.intent.state = .active then do
          let applied ← applyTransitionTx intentID change transition now stamped
          .ok (some change, applied)
        -- Stale: another transition came first.
        else .ok (none, stamped)

/-- Read an intent, let `decide` choose a change from that snapshot, and apply
it, all in one transaction. -/
def applyIntentChange : Except DBError (Option IntentChange) × DB :=
  withTx (applyIntentChangeTx intentID decide now) db

end

def reviewedIntent (best : Outcome) (dup : Bool) (upgrades : Bool)
    (intent : DeliveryIntent) : DeliveryIntent :=
  if upgrades then
    { intent with
      dirty := false
      possibleDuplicate := dup
      outcome := best
      version := intent.version + 1
      lastTransition := .t14 }
  else { intent with dirty := false, possibleDuplicate := dup }

@[simp] lemma reviewedIntent_id (best : Outcome) (dup upgrades : Bool) (intent : DeliveryIntent) :
    (reviewedIntent best dup upgrades intent).id = intent.id := by
  cases upgrades with
  | false => rfl
  | true => rfl

section
variable (intentID : String) (decide : IntentSnapshot → Outcome × Bool)
  (stronger : Outcome → Outcome → Bool) (db : DB)

def reviewClosedIntentTx : Except DBError (Option Outcome × DB) :=
  match loadSnapshot db intentID with
  | none => .error .intentNotFound
  | some snap =>
    if snap.intent.state ≠ .closed then .ok (none, db)
    else
      let (best, dup) := decide snap
      let upgrades := stronger best snap.intent.outcome
      .ok (if upgrades then some best else none, { db with
        intents := db.intents.update intentID (reviewedIntent best dup upgrades)
          (by intro intent; exact reviewedIntent_id _ _ _ intent) })

/-- Look at a closed intent in one transaction: a stronger outcome is
recorded, never a reopen, never a send. -/
def reviewClosedIntent : Except DBError (Option Outcome) × DB :=
  withTx (reviewClosedIntentTx intentID decide stronger) db

end

/-- T14: evidence, or an in-flight attempt's outcome, that arrives after an
intent closed. -/
def evaluateClosed (intentID : String) (db : DB) : Except DBError (Option Outcome) × DB :=
  reviewClosedIntent intentID (fun s => (closedOutcome s, possibleDuplicate s))
    (fun next current => outcomeStrength current < outcomeStrength next ||
      correctsAcceptance next current) db

end MeshSat.Intents
