import MeshSat.Intents.Data

/-!
# Evidence

Storing a report about a transmission and matching it by the correlation it
carries itself. Matched evidence is never matched again: only rows that are
neither matched nor ambiguous are looked at later.
-/

namespace MeshSat.Intents

open Library

/-- `strings.HasPrefix`, and `substr(text, 1, length) = start` in a query. -/
def hasPrefix (text start : String) : Bool := start.toList.isPrefixOf text.toList

def setDirty (intent : DeliveryIntent) : DeliveryIntent :=
  { intent with dirty := true }

lemma setDirty_id (intent : DeliveryIntent) : (setDirty intent).id = intent.id := rfl

/-- `UPDATE delivery_intents SET dirty = 1 WHERE id = intentID`. -/
def DB.markDirty (db : DB) (intentID : String) : DB :=
  { db with intents := db.intents.update intentID setDirty setDirty_id }

section
variable (e : DeliveryEvidence) (now : Int)

def storedEvidence (id : Nat) : DeliveryEvidence :=
  { e with
    id
    trust := if e.trust = "" then "unauthenticated" else e.trust
    receivedAt := now }

lemma storedEvidence_id (id : Nat) : (storedEvidence e now id).id = id :=
  rfl

def insertEvidenceTx (db : DB) : Except DBError (Nat × DB) :=
  if e.dedupKey.isSome && db.evidence.entries.any (fun stored => stored.dedupKey = e.dedupKey) then
    .error .constraint
  else
    .ok (db.evidence.nextKey, { db with
      evidence := db.evidence.insertNext (storedEvidence e now) (storedEvidence_id e now) })

end

/-- What a classifier says a piece of evidence proves of the transmission it
names. -/
structure Classified where
  (event source trust : String)
  completes : Option Completion

abbrev EvidenceClassifier := DeliveryTransmission → Classified

abbrev EvidenceReclassifier := DeliveryTransmission → DeliveryEvidence → Classified

/-- Handed off no longer than `windowS` before the evidence arrived; a window
of 0 is no bound. -/
def withinWindow (handoffAt : Option Int) (receivedAt windowS : Int) : Bool :=
  if 0 < windowS then
    match handoffAt with
    | none => false
    | some handoff => handoff ≤ receivedAt && receivedAt ≤ handoff + windowS
  else true

/-- The transmissions a piece of evidence can name. -/
def candidatesTx (db : DB) (corr : Correlation) (receivedAt windowS : Int) :
    List DeliveryTransmission :=
  db.transmissions.entries.filter fun t =>
    t.corr.kind = corr.kind && t.corr.value = corr.value &&
      t.corr.scope = corr.scope && withinWindow t.handoffAt receivedAt windowS

/-- Stored evidence a later correlation may still be matched to. -/
def DeliveryEvidence.openFor (e : DeliveryEvidence) (corr : Correlation) : Bool :=
  !e.matched && !e.ambiguous && e.corr.kind = corr.kind &&
    e.corr.value = corr.value && e.corr.scope = corr.scope

/-- Evidence that turned out to name one transmission. -/
def DeliveryEvidence.matchedTo (t : DeliveryTransmission)
    (verdict : Classified) (e : DeliveryEvidence) : DeliveryEvidence :=
  { e with
    matched := true
    intentID := some t.intentID
    attemptID := some t.attemptID
    transmissionID := some t.id
    event := verdict.event
    source := verdict.source
    trust := verdict.trust
    completes := verdict.completes }

def DeliveryEvidence.ambiguousAmong (several : List DeliveryTransmission)
    (e : DeliveryEvidence) : DeliveryEvidence :=
  { e with
    ambiguous := true
    candidates := several.map DeliveryTransmission.id }

section
variable (t : DeliveryTransmission) (classify : EvidenceReclassifier) (windowS : Int) (db : DB)

def reconcileOne (e : DeliveryEvidence) : DB :=
  match candidatesTx db e.corr e.receivedAt windowS with
  | [] => db
  | [only] =>
    if only.id = t.id then
      let matched := { db with
        evidence := db.evidence.update e.id (DeliveryEvidence.matchedTo t (classify t e)) }
      matched.markDirty t.intentID
    else db
  | several =>
    { db with
      evidence := db.evidence.update e.id (DeliveryEvidence.ambiguousAmong several) }

/-- Match the unmatched evidence stored for a correlation that is only now
known: matched when `t` is its only candidate, ambiguous when there are
more. -/
def reconcileTx : DB :=
  (db.evidence.entries.filter fun e => e.openFor t.corr).foldl (reconcileOne t classify windowS) db

end

/-- The row `RecordEvidence` stores for a report with these candidates. -/
def matchEvidence (e : DeliveryEvidence) (classify : Option EvidenceClassifier) :
    List DeliveryTransmission → DeliveryEvidence
  | [] => { e with matched := false, completes := none }
  | [t] =>
    match classify with
    | none =>
      { e with
        matched := true
        intentID := some t.intentID
        attemptID := some t.attemptID
        transmissionID := some t.id }
    | some classify => e.matchedTo t (classify t)
  | several =>
    { e with
      ambiguous := true
      matched := false
      completes := none
      candidates := e.candidates ++ several.map DeliveryTransmission.id }

/-- An answer as a sink hands it over: nothing about it is matched yet. -/
structure Report where
  (source event : String)
  completes : Option Completion := none
  corr : Correlation
  trust : String := ""
  dedupKey : Option String := none

def Report.evidence (report : Report) : DeliveryEvidence where
  source := report.source
  event := report.event
  completes := report.completes
  corr := report.corr
  trust := report.trust
  dedupKey := report.dedupKey

section
variable (report : Report) (windowS : Int) (classify : Option EvidenceClassifier) (now : Int)
  (db : DB)

def recordEvidenceTx : Except DBError (DeliveryEvidence × DB) :=
  let earlier := db.evidence.entries.find? fun stored =>
    report.dedupKey.isSome && stored.dedupKey = report.dedupKey
  match earlier with
  | some previous => .ok (previous, db)
  | none => do
      let e := matchEvidence report.evidence classify (candidatesTx db report.corr now windowS)
      let (id, stored) ← insertEvidenceTx e now db
      let e := { e with id }
      match e.matched, e.intentID with
      | true, some intentID => .ok (e, stored.markDirty intentID)
      | _, _ => .ok (e, stored)

def recordEvidence : Except DBError DeliveryEvidence × DB :=
  withTx (recordEvidenceTx report windowS classify now) db

end

/-! ## Proofs that come after the send stopped waiting -/

def DeliveryEvidence.isProofOf (e : DeliveryEvidence) (txID : Nat) : Bool :=
  e.transmissionID = some txID && e.event = "proof" && e.matched

/-- A destination's signed proof for a transmission, once per transmission. -/
def proofEvidenceTx (txID : Nat) (now : Int) (db : DB) : Except DBError (Unit × DB) :=
  if db.evidence.entries.any (fun e => e.isProofOf txID) then .ok ((), db)
  else
    match db.transmissions.get? txID with
    | none => .error (.noTransmission txID)
    | some t => do
        let e : DeliveryEvidence :=
          { source := "destination_node"
            event := "proof"
            completes := some .acceptedDestinationNode
            trust := "signed"
            matched := true
            transmissionID := some txID
            attemptID := some t.attemptID
            intentID := some t.intentID
            corr := t.corr }
        let (_, stored) ← insertEvidenceTx e now db
        .ok ((), stored.markDirty t.intentID)

/-- A proof no waiting send took: the one kept transmission it proves gets it.
`whole` says whether `hash` is the full packet hash or only its start. -/
def recordProofEvidence (hash : String) (whole : Bool)
    (valid : String → String → Bool) (now : Int) (db : DB) : Except DBError Unit × DB :=
  let proven := db.transmissions.entries.filter fun t =>
    (if whole then t.proofHash = hash
      else t.proofHash ≠ "" && hasPrefix t.proofHash hash) && valid t.proofHash t.proofKey
  match proven with
  | [t] => withTx (proofEvidenceTx t.id now) db
  | _ => (.ok (), db)

/-- The proof of a resource transfer that came after the send stopped
waiting. -/
def recordLateDelivery (attemptID gen : Nat) (now : Int) (db : DB) : Except DBError Unit × DB :=
  let named := db.transmissions.entries.find? fun t =>
    t.attemptID = attemptID && t.gen = gen
  match named with
  | none => (.error (.noTransmission 0), db)
  | some t => withTx (proofEvidenceTx t.id now) db

/-- Store, on the handed-off transmission of this generation, the packet hash
its proof will name and the key that must sign it. -/
def setTransmissionProof (attemptID gen : Nat) (proofHash proofKey : String) (db : DB) : DB :=
  { db with
    transmissions := db.transmissions.updateWhere
      (fun t => t.attemptID = attemptID && t.gen = gen && t.state = .handedOff)
      fun t => { t with proofHash, proofKey } }

end MeshSat.Intents
