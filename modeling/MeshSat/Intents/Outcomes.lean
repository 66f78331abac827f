import MeshSat.Intents.Life

/-!
# Outcomes

How strong the outcome rule's answer is depends only on which evidence is
matched and on what became of the transmissions: on no order, on no row, and
on nothing an intent closed with. Which completion it names is the one of the
lowest number.
-/

namespace MeshSat.Intents

open Library List DeliveryEvidence Table DeliveryTransmission

lemma outcomeStrength_completion (completion : Completion) :
    outcomeStrength completion.outcome = 4 := by
  cases completion <;> rfl

lemma strength_closedOutcome (s : IntentSnapshot) :
    outcomeStrength (closedOutcome s) = outcomeStrength (outcomeRule s) := by
  unfold closedOutcome
  split
  next failed =>
    rw [failed]
    split
    · rfl
    split
    · rfl
    · rfl
  · rfl

lemma ClosingOutcome.strength (closing : ClosingOutcome s outcome) :
    outcomeStrength outcome = outcomeStrength (outcomeRule s) := by
  rcases closing with rfl | ⟨failed, rfl | rfl⟩
  · rfl
  · rw [failed]
    rfl
  rw [failed]
  rfl

/-! ## The strength of a record -/

lemma firstCompletion_eq_none :
    firstCompletion evidence = none ↔ evidence.any isCompletion = false := by
  unfold firstCompletion
  cases found : evidence.find? isCompletion with
  | none =>
    have none := List.find?_eq_none.mp found
    simpa using none
  | some ev =>
    have completion := List.find?_some found
    have member := mem_of_find?_eq_some found
    have some : evidence.any isCompletion = true := any_eq_true.mpr ⟨ev, member, completion⟩
    simp only [isCompletion, Bool.and_eq_true] at completion
    obtain ⟨completed, completes⟩ := Option.isSome_iff_exists.mp completion.2
    simp [some, completes]

def recordStrength (evidence : List DeliveryEvidence)
    (transmissions : List DeliveryTransmission) : Nat :=
  let holds (looks : DeliveryTransmission → Bool) :=
    transmissions.any fun t =>
      !droppedTransmission evidence t.id && looks t
  if evidence.any isCompletion then 4
  else if holds acceptedDone then 3
  else if holds perhapsSent then 2
  else 1

lemma strength_outcomeRule (s : IntentSnapshot) :
    outcomeStrength (outcomeRule s) = recordStrength s.evidence s.transmissions := by
  unfold outcomeRule recordStrength
  cases first : firstCompletion s.evidence with
  | some completion =>
    have completed : s.evidence.any isCompletion = true := by
      by_contra none
      rw [firstCompletion_eq_none.mpr (by simpa using none)] at first
      cases first
    simp only [completed, if_true]
    exact outcomeStrength_completion completion
  | none =>
    rw [firstCompletion_eq_none.mp first]
    simp only [any_filter, Bool.false_eq_true, if_false]
    split
    · rfl
    split
    · rfl
    · rfl

/-- The same matched evidence, and the same transmissions up to what a proof
expected for them changes: all that a review reads of a record. -/
structure SameRecord (evidence otherEvidence : List DeliveryEvidence)
    (transmissions others : List DeliveryTransmission) : Prop where
  evidence : ∀ ev, ev.matched = true → (ev ∈ evidence ↔ ev ∈ otherEvidence)
  forth : ∀ t ∈ transmissions, ∃ other ∈ others, QuietTransmission t other
  back : ∀ other ∈ others, ∃ t ∈ transmissions, QuietTransmission t other

section
variable {evidence otherEvidence : List DeliveryEvidence}
  {transmissions others : List DeliveryTransmission}

section
variable (same : SameRecord evidence otherEvidence transmissions others)

include same

lemma SameRecord.dropped
    (txID : Nat) : droppedTransmission evidence txID = droppedTransmission otherEvidence txID := by
  unfold droppedTransmission
  congr 1
  · refine any_congr_mem fun ev holds => same.evidence ev ?_
    simp only [Bool.and_eq_true] at holds
    exact holds.1.1.1
  congr 1
  refine any_congr_mem fun ev holds => same.evidence ev ?_
  simp only [isCompletion, Bool.and_eq_true] at holds
  exact holds.2.1

lemma SameRecord.strength :
    recordStrength evidence transmissions = recordStrength otherEvidence others := by
  have completion : evidence.any isCompletion = otherEvidence.any isCompletion :=
    any_congr_mem fun ev holds => same.evidence ev (by
      simp only [isCompletion, Bool.and_eq_true] at holds
      exact holds.1)
  have sent (looks : DeliveryTransmission → Bool) (alike : ∀ t other, QuietTransmission t other →
        looks other = looks t) : (transmissions.any fun t =>
        !droppedTransmission evidence t.id && looks t) = others.any fun t =>
        !droppedTransmission otherEvidence t.id && looks t := by
    simp only [same.dropped]
    refine any_congr_related same.forth same.back fun t other quiet => ?_
    have sameID : other.id = t.id := by rw [quiet]
    rw [sameID, alike t other quiet]
  have accepted := sent acceptedDone fun t other quiet => by rw [quiet]; rfl
  have perhaps := sent perhapsSent fun t other quiet => by rw [quiet]; rfl
  unfold recordStrength
  simp [completion, accepted, perhaps]

end

end

lemma recordStrength_nothing : recordStrength [] [] = 1 := rfl

/-! ## The first completion -/

/-- The completion that the matched evidence of the lowest number names. -/
def DB.FirstIs (db : DB) (intentID : String) (completion : Completion) : Prop :=
  ∃ id ev, db.evidence.get? id = some ev ∧ ev.intentID = some intentID ∧
    ev.matched = true ∧ ev.completes = some completion ∧
    ∀ otherID other, db.evidence.get? otherID = some other →
      other.intentID = some intentID → other.isCompletion = true → id ≤ otherID

variable {db : DB} {intentID : String} {ev : DeliveryEvidence}
  {t : DeliveryTransmission} {snap s : IntentSnapshot} {completion : Completion}

lemma DB.mem_evidenceOf : ev ∈ db.evidenceOf intentID ↔ db.evidence.get? ev.id = some ev ∧
    ev.intentID = some intentID := by
  rw [DB.evidenceOf, mem_filter, decide_eq_true_eq, get?_eq_some_iff]
  simp [mem_def]

lemma DB.mem_transmissionsOf : t ∈ db.transmissionsOf intentID ↔
    db.transmissions.get? t.id = some t ∧ t.intentID = intentID := by
  rw [DB.transmissionsOf, mem_filter, decide_eq_true_eq, get?_eq_some_iff]
  simp [mem_def]

lemma mem_snapshot_evidence (loaded : loadSnapshot db intentID = some snap) :
    ev ∈ snap.evidence ↔ db.evidence.get? ev.id = some ev ∧ ev.intentID = some intentID := by
  rw [(loadSnapshot_eq_some loaded).2.2.2, mem_orderBy, DB.mem_evidenceOf]

lemma mem_snapshot_transmissions (loaded : loadSnapshot db intentID = some snap) :
    t ∈ snap.transmissions ↔ db.transmissions.get? t.id = some t ∧ t.intentID = intentID := by
  rw [(loadSnapshot_eq_some loaded).2.2.1, mem_orderBy, mem_orderBy, DB.mem_transmissionsOf]

lemma isCompletion_iff : ev.isCompletion = true ↔ ev.matched = true ∧ ∃ completion,
    ev.completes = some completion := by
  simp [isCompletion, Option.isSome_iff_exists]

lemma firstCompletion_iff (loaded : loadSnapshot db intentID = some snap) :
    firstCompletion snap.evidence = some completion ↔ db.FirstIs intentID completion := by
  have order := (loadSnapshot_eq_some loaded).2.2.2
  have least {first other : DeliveryEvidence}
      (found : snap.evidence.find? isCompletion = some first)
      (member : other ∈ snap.evidence) (holds : other.isCompletion = true) :
      first.id ≤ other.id := by
    rw [order] at found member
    exact find?_orderBy_le found (mem_orderBy.mp member) holds
  constructor
  · intro first
    obtain ⟨ev, found, completes⟩ := Option.bind_eq_some_iff.mp first
    obtain ⟨stored, owner⟩ := (mem_snapshot_evidence loaded).mp (mem_of_find?_eq_some found)
    obtain ⟨isMatched, _⟩ := isCompletion_iff.mp (List.find?_some found)
    refine ⟨ev.id, ev, stored, owner, isMatched, completes, ?_⟩
    intro otherID other otherFound otherOwner holds
    have named : other.id = otherID := key_of_get? otherFound
    rw [← named] at otherFound ⊢
    exact least found ((mem_snapshot_evidence loaded).mpr ⟨otherFound, otherOwner⟩) holds
  rintro ⟨id, ev, stored, owner, isMatched, completes, first⟩
  have named : ev.id = id := key_of_get? stored
  rw [← named] at stored first
  have member := (mem_snapshot_evidence loaded).mpr ⟨stored, owner⟩
  have holds : ev.isCompletion = true := isCompletion_iff.mpr ⟨isMatched, completion, completes⟩
  cases found : snap.evidence.find? isCompletion with
  | none => exact (List.find?_eq_none.mp found ev member holds).elim
  | some other =>
    obtain ⟨otherFound, otherOwner⟩ := (mem_snapshot_evidence loaded).mp
      (mem_of_find?_eq_some found)
    have below := least found member holds
    have above := first other.id other otherFound otherOwner (List.find?_some found)
    rw [Nat.le_antisymm below above, stored] at otherFound
    cases otherFound
    simp [firstCompletion, found, completes]

lemma outcomeRule_first (first : firstCompletion s.evidence = some completion) :
    outcomeRule s = completion.outcome := by
  unfold outcomeRule
  rw [first]

lemma outcomeRule_completion (strength : outcomeStrength (outcomeRule s) = 4) :
    ∃ completion, firstCompletion s.evidence = some completion := by
  cases first : firstCompletion s.evidence with
  | some completion => exact ⟨completion, rfl⟩
  | none =>
    rw [strength_outcomeRule, recordStrength, firstCompletion_eq_none.mp first] at strength
    simp only [Bool.false_eq_true, if_false] at strength
    split at strength
    · cases strength
    split at strength
    · cases strength
    · cases strength

/-! ## What is recorded about an intent -/

def DB.Completed (db : DB) (intentID : String) : Prop :=
  ∃ id ev, db.evidence.get? id = some ev ∧ ev.intentID = some intentID ∧ ev.isCompletion = true

def DB.recordStrength (db : DB) (intentID : String) : Nat :=
  Intents.recordStrength (db.evidenceOf intentID) (db.transmissionsOf intentID)

lemma sameRecord_snapshot (loaded : loadSnapshot db intentID = some snap) :
    SameRecord snap.evidence (db.evidenceOf intentID) snap.transmissions
      (db.transmissionsOf intentID) := by
  constructor
  · intro ev _
    rw [mem_snapshot_evidence loaded, DB.mem_evidenceOf]
  · intro t member
    refine ⟨t, ?_, .refl t⟩
    rwa [mem_snapshot_transmissions loaded, ← DB.mem_transmissionsOf] at member
  intro t member
  refine ⟨t, ?_, .refl t⟩
  rwa [mem_snapshot_transmissions loaded, ← DB.mem_transmissionsOf]

lemma strength_snapshot (loaded : loadSnapshot db intentID = some snap) :
    outcomeStrength (outcomeRule snap) = db.recordStrength intentID := by
  rw [strength_outcomeRule]
  exact (sameRecord_snapshot loaded).strength

lemma DB.recordStrength_pos (db : DB) (intentID : String) : 1 ≤ db.recordStrength intentID := by
  unfold DB.recordStrength Intents.recordStrength
  dsimp only
  split_ifs <;> decide

lemma DB.recordStrength_eq_four : db.recordStrength intentID = 4 ↔ db.Completed intentID := by
  have completed : (db.evidenceOf intentID).any isCompletion = true ↔ db.Completed intentID := by
    rw [any_eq_true]
    constructor
    · rintro ⟨ev, member, completes⟩
      obtain ⟨found, owner⟩ := DB.mem_evidenceOf.mp member
      exact ⟨ev.id, ev, found, owner, completes⟩
    rintro ⟨id, ev, found, owner, completes⟩
    have named : ev.id = id := key_of_get? found
    exact ⟨ev, DB.mem_evidenceOf.mpr ⟨named ▸ found, owner⟩, completes⟩
  rw [← completed]
  unfold DB.recordStrength Intents.recordStrength
  dsimp only
  split_ifs <;> simp_all

end MeshSat.Intents
