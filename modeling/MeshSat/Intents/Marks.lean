import MeshSat.Intents.Outcomes

/-!
# What marks an intent

Evidence that is matched to an intent, and a transmission of it that ends, mark
the intent in the same transaction. So while an intent stays unmarked, what it
is reviewed from stays as it is.
-/

namespace MeshSat.Intents

open Library Table

/-! ## Evidence -/

def DeliveryIntent.answered (intent : DeliveryIntent) : Bool :=
  intent.state = .active && outcomeStrength intent.outcome = 4

/-- No finalization finds a completion, among evidence that is already stored,
for an active intent that has the outcome of one. -/
def matchesInOrder (db : DB) : Op → Bool
  | .finalize txID r _ =>
    (db.transmissions.get? txID).all fun t =>
      !(db.intents.get? t.intentID).any DeliveryIntent.answered || r.completesNothing t db
  | _ => true

/-- Transactions that read the intent while it was active. -/
def Op.looksAt (intentID : String) : Op → Bool
  | .evaluate looked _ _ _ | .cancel looked _ _ _ => looked = intentID
  | _ => false

/-- Evidence that a transaction matches to an intent. -/
structure News (op : Op) (db next : DB) (intentID : String) (id : Nat)
    (e : DeliveryEvidence) : Prop where
  dirty : ∀ intent, next.intents.get? intentID = some intent → intent.dirty = true
  sent : ∃ txID t, db.transmissions.get? txID = some t ∧ t.intentID = intentID
  order : matchesInOrder db op = true → op.looksAt intentID = true ∨
      (db.intents.get? intentID).any DeliveryIntent.answered = true →
    e.isCompletion = true → db.evidence.nextKey ≤ id

/-- The matched evidence of an intent that is kept stays, and what is added to
it marks the intent. -/
structure EvidenceKept (op : Op) (db next : DB) (intentID : String) : Prop where
  kept : ∀ id e, db.evidence.get? id = some e → e.matched = true → e.intentID = some intentID →
    (∃ later, next.intents.get? intentID = some later) →
    next.evidence.get? id = some e
  news : ∀ id e, next.evidence.get? id = some e → e.matched = true → e.intentID = some intentID →
    db.evidence.get? id = some e ∨ News op db next intentID id e

section
variable {op : Op} {db next : DB} {intentID : String}

lemma EvidenceKept.of_eq (same : next.evidence = db.evidence) :
    EvidenceKept op db next intentID := by
  refine ⟨?_, ?_⟩
  · intro id e found _ _ _
    rw [same]
    exact found
  intro id e found _ _
  rw [same] at found
  exact .inl found

lemma dirty_of_update {table : Table DeliveryIntent.id} (change : DeliveryIntent → DeliveryIntent)
    (keeps : ∀ intent, (change intent).id = intent.id)
    (marks : ∀ intent, (change intent).dirty = true) {later : DeliveryIntent}
    (found : (table.update intentID change keeps).get? intentID =
      some later) : later.dirty = true := by
  rw [get?_update_self] at found
  obtain ⟨intent, _, rfl⟩ := Option.map_eq_some_iff.mp found
  exact marks intent

lemma Reported.evidenceKept (reported : Reported db next) : EvidenceKept op db next intentID := by
  have stays (make : Nat → DeliveryEvidence)
      (numbers : ∀ id, (make id).id = id) {id : Nat} {e : DeliveryEvidence}
      (found : db.evidence.get? id = some e) :
      (db.evidence.insertNext make numbers).get? id = some e := by
    have old : id ≠ db.evidence.nextKey := fun same =>
      db.evidence.nextKey_unused (same ▸ used_of_get? found)
    rw [get?_insertNext, if_neg old]
    exact found
  cases reported with
  | nothing => exact .of_eq rfl
  | unmatched e now unmatched =>
    refine ⟨fun _ _ found _ _ _ =>
      stays (storedEvidence e now) (fun _ => rfl) found, ?_⟩
    intro id stored found isMatched _
    dsimp only at found
    rw [get?_insertNext] at found
    split at found
    · cases found
      rw [show (storedEvidence e now _).matched = e.matched from rfl, unmatched] at isMatched
      cases isMatched
    · exact .inl found
  | matched e now txID t _ txFound owner =>
    refine ⟨fun _ _ found _ _ _ =>
      stays (storedEvidence e now) (fun _ => rfl) found, ?_⟩
    intro id stored found _ storedOwner
    dsimp only at found
    rw [get?_insertNext] at found
    split at found
    next new =>
      cases found
      have same : t.intentID = intentID := Option.some.inj (owner.symm.trans storedOwner)
      subst same
      refine .inr ⟨?_, ⟨txID, t, txFound, rfl⟩, ?_⟩
      · intro intent intentFound
        exact dirty_of_update setDirty (fun _ => rfl) (fun _ => rfl) intentFound
      · exact fun _ _ _ => Nat.le_of_eq new.symm
    · exact .inl found

lemma Finalized.evidenceKept (finalized : Finalized txID r now db t next) :
    EvidenceKept (.finalize txID r now) db next intentID := by
  refine ⟨fun id e found isMatched _ _ =>
    finalized.evidence.matched id e found isMatched, ?_⟩
  intro id e found isMatched owner
  by_cases same : t.intentID = intentID
  · subst same
    by_cases stored : db.evidence.get? id = some e
    · exact .inl stored
    refine .inr ⟨?_, ⟨txID, t, finalized.found, rfl⟩, ?_⟩
    · intro intent intentFound
      rw [finalized.intents] at intentFound
      exact dirty_of_update (settleIntent t r) _ (fun _ => rfl) intentFound
    rintro inOrder (looks | answered) completes
    · cases looks
    simp only [matchesInOrder, finalized.found, Option.all_some, answered,
      Bool.not_true, Bool.false_or] at inOrder
    rcases (finalized.order inOrder).old id e found completes with
      known | new
    · exact (stored known).elim
    · exact new
  left
  apply finalized.evidence.foreign id e found isMatched
  rw [owner]
  exact fun named => same (Option.some.inj named).symm

lemma prune_evidenceKept (cutoff : Int) :
    EvidenceKept op db (pruneClosedIntents cutoff db) intentID := by
  refine ⟨?_, ?_⟩
  · rintro id e found _ owner ⟨later, kept⟩
    have notPruned : intentID ∉ db.pruned cutoff := by
      intro pruned
      have gone := (prune_prunes pruned).2
      rw [kept] at gone
      cases gone
    simp [pruneClosedIntents, found, owner, notPruned]
  intro id e found _ _
  simp only [pruneClosedIntents, get?_deleteWhere, Option.filter_eq_some_iff] at found
  exact .inl found.1.1

end

lemma Op.evidenceKept (op : Op) (db : DB) (intentID : String) :
    EvidenceKept op db (op.run db) intentID := by
  have effect := op.effect db
  generalize op.run db = next at effect ⊢
  cases effect with
  | created created => exact .of_eq created.evidence
  | authorized granted => exact .of_eq (by rw [granted.written])
  | finalized finalized => exact finalized.evidenceKept
  | evaluated applied | cancelled applied => exact .of_eq applied.evidence
  | reviewed reviewed => exact .of_eq (by rw [reviewed.written])
  | reported reported => exact reported.evidenceKept
  | pruned => exact prune_evidenceKept _
  | nothing | claimed _ _ | handedOff _ _ | ended _ _ _ | proofExpected
  | clock | rows _ => exact .of_eq rfl

/-! ## What an intent is reviewed from -/

variable {txID : Nat}

lemma Op.finished {op : Op} {db : DB} {t later : DeliveryTransmission}
    (before : db.transmissions.get? txID = some t)
    (after : (op.run db).transmissions.get? txID = some later) (done : later.state = .done) :
    QuietTransmission t later ∨ ∀ intent, (op.run db).intents.get? t.intentID = some intent →
        intent.dirty = true := by
  have effect := op.effect db
  generalize op.run db = next at effect after ⊢
  have unchanged (same : next.transmissions = db.transmissions) : QuietTransmission t later := by
    rw [same, before] at after
    cases after
    exact .refl t
  cases effect with
  | created created => exact .inl (unchanged created.transmissions)
  | evaluated applied | cancelled applied => exact .inl (unchanged applied.transmissions)
  | reviewed reviewed => exact .inl (unchanged (by rw [reviewed.written]))
  | reported reported =>
    cases reported with
    | nothing | unmatched _ _ _ | matched _ _ _ _ _ _ _ => exact .inl (unchanged rfl)
  | nothing | claimed _ _ | ended _ _ _ | clock | rows _ => exact .inl (unchanged rfl)
  | authorized granted =>
    have old : txID ≠ db.transmissions.nextKey := fun same =>
      db.transmissions.nextKey_unused (same ▸ used_of_get? before)
    rw [granted.written, get?_insertNext, if_neg old, before] at after
    cases after
    exact .inl (.refl t)
  | @handedOff handed _ _ _ _ _ =>
    dsimp only at after
    by_cases same : txID = handed
    · subst same
      rw [get?_update_self, before] at after
      cases after
      cases done
    rw [get?_update_ne _ same, before] at after
    cases after
    exact .inl (.refl t)
  | @finalized ended r _ _ _ finalized =>
    rw [finalized.transmissions] at after
    by_cases same : txID = ended
    · subst same
      have found := finalized.found
      rw [before] at found
      cases found
      right
      intro intent intentFound
      rw [finalized.intents] at intentFound
      exact dirty_of_update (settleIntent t r) _ (fun _ => rfl) intentFound
    rw [get?_update_ne _ same, before] at after
    cases after
    exact .inl (.refl t)
  | proofExpected =>
    simp only [Intents.setTransmissionProof, get?_updateWhere, before,
      Option.map_some, Option.some.injEq] at after
    subst after
    left
    split
    · rfl
    · exact .refl t
  | pruned =>
    simp only [pruneClosedIntents, get?_deleteWhere, before, Option.filter_eq_some_iff] at after
    cases after.1
    exact .inl (.refl t)

def DB.AllDone (db : DB) (intentID : String) : Prop :=
  ∀ txID t, db.transmissions.get? txID = some t → t.intentID = intentID → t.state = .done

section
variable {op : Op} {db : DB} {intentID : String} {later : DeliveryIntent}
  (kept : (op.run db).intents.get? intentID = some later) (clean : later.dirty = false)

include kept clean

lemma Op.evidence_still (isMatched : ev.matched = true) :
    ev ∈ db.evidenceOf intentID ↔ ev ∈ (op.run db).evidenceOf intentID := by
  have evidence := op.evidenceKept db intentID
  rw [DB.mem_evidenceOf, DB.mem_evidenceOf]
  constructor
  · rintro ⟨found, owner⟩
    exact ⟨evidence.kept ev.id ev found isMatched owner ⟨later, kept⟩, owner⟩
  rintro ⟨found, owner⟩
  refine ⟨?_, owner⟩
  rcases evidence.news ev.id ev found isMatched owner with old | news
  · exact old
  rw [news.dirty later kept] at clean
  cases clean

variable (done : (op.run db).AllDone intentID)

include done

lemma Op.transmission_still {t : DeliveryTransmission}
    (before : db.transmissions.get? txID = some t) (owner : t.intentID = intentID) : ∃ other,
    (op.run db).transmissions.get? txID = some other ∧ other.intentID = intentID ∧
    QuietTransmission t other := by
  rcases (op.transmissionsStep db).forward txID t before with
    ⟨other, after, step⟩ | ⟨_, _, gone⟩
  · have same := step.intentID.trans owner
    refine ⟨other, after, same, ?_⟩
    rcases Op.finished before after (done txID other after same) with
      quiet | marked
    · exact quiet
    rw [marked later (owner ▸ kept)] at clean
    cases clean
  rw [owner, kept] at gone
  cases gone

lemma Op.transmission_known (after : (op.run db).transmissions.get? txID = some other)
    (owner : other.intentID = intentID) :
    ∃ t, db.transmissions.get? txID = some t ∧ t.intentID = intentID ∧
      QuietTransmission t other := by
  rcases (op.transmissionsStep db).backward txID other after with
    ⟨t, before, step⟩ | ⟨_, new⟩
  · have same := step.intentID.symm.trans owner
    obtain ⟨found, afterFound, _, quiet⟩ := Op.transmission_still kept clean done before same
    rw [after] at afterFound
    cases afterFound
    exact ⟨t, before, same, quiet⟩
  have ended := done txID other after owner
  rw [new.authorized] at ended
  cases ended

/-- What an unmarked intent with only ended transmissions is reviewed from is
what it was before the transaction. -/
lemma Op.record_still : db.AllDone intentID ∧
    SameRecord (db.evidenceOf intentID) ((op.run db).evidenceOf intentID)
      (db.transmissionsOf intentID) ((op.run db).transmissionsOf intentID) := by
  constructor
  · intro txID t before owner
    obtain ⟨other, after, same, quiet⟩ := Op.transmission_still kept clean done before owner
    have ended := done txID other after same
    rw [quiet] at ended
    exact ended
  constructor
  · intro ev isMatched
    exact Op.evidence_still kept clean isMatched
  · intro t member
    obtain ⟨before, owner⟩ := DB.mem_transmissionsOf.mp member
    obtain ⟨other, after, same, quiet⟩ := Op.transmission_still kept clean done before owner
    have named : other.id = t.id := key_of_get? after
    exact ⟨other, DB.mem_transmissionsOf.mpr ⟨named ▸ after, same⟩, quiet⟩
  intro other member
  obtain ⟨after, owner⟩ := DB.mem_transmissionsOf.mp member
  obtain ⟨t, before, same, quiet⟩ := Op.transmission_known kept clean done after owner
  have named : t.id = other.id := key_of_get? before
  exact ⟨t, DB.mem_transmissionsOf.mpr ⟨named ▸ before, same⟩, quiet⟩

end

end MeshSat.Intents
