import Mathlib.Data.List.Nodup
import Mathlib.Data.List.Perm.Subperm

/-!
# Keyed lists

A keyed list holds at most one record of each key, in the order in which the records were written: a
table with a natural primary key, or a map. A key may come back after its record was deleted.

Reading after a write is expressed through `get?`.
-/

namespace Library

open List

structure Keyed {α κ : Type} (key : α → κ) where
  entries : List α
  nodup : (entries.map key).Nodup

namespace Keyed

variable {α κ : Type} {key : α → κ}

def empty : Keyed key where
  entries := []
  nodup := nodup_nil

instance : Membership α (Keyed key) where
  mem keyed entry := entry ∈ keyed.entries

variable {keyed : Keyed key} {entry : α} {selected : α → Bool}

lemma mem_def : entry ∈ keyed ↔ entry ∈ keyed.entries := Iff.rfl

lemma eq_of_key_eq (keyed : Keyed key) (leftMember : left ∈ keyed)
    (rightMember : right ∈ keyed) (same : key left = key right) : left = right :=
  inj_on_of_nodup_map keyed.nodup leftMember rightMember same

/-- `DELETE ... WHERE selected`. -/
def deleteWhere (keyed : Keyed key) (selected : α → Bool) : Keyed key where
  entries := keyed.entries.filter fun entry => !selected entry
  nodup := keyed.nodup.sublist (filter_sublist.map key)

@[simp] lemma mem_deleteWhere : entry ∈ keyed.deleteWhere selected ↔ entry ∈ keyed ∧
    selected entry = false := by
  rw [mem_def, mem_def, deleteWhere, mem_filter, Bool.not_eq_true']

/-- `UPDATE ... SET change WHERE selected`. -/
def updateWhere (keyed : Keyed key) (selected : α → Bool) (change : α → α)
    (keeps : ∀ entry, key (change entry) = key entry := by
      as_aux_lemma => intro _; rfl) : Keyed key where
  entries := keyed.entries.map fun entry =>
    if selected entry then change entry else entry
  nodup := by
    have sameKeys : (keyed.entries.map fun entry =>
        if selected entry then change entry else entry).map key = keyed.entries.map key := by
      rw [map_map]
      apply map_congr_left
      intro entry _
      by_cases chosen : selected entry = true
      · simp [chosen, keeps]
      · simp [chosen]
    rw [sameKeys]
    exact keyed.nodup

lemma mem_updateWhere : entry ∈ keyed.updateWhere selected change keeps ↔ ∃ old ∈ keyed,
        (if selected old then change old else old) = entry := by
  rw [mem_def, updateWhere, mem_map]
  rfl

lemma length_le_of_keys {names : List κ} (keys : ∀ entry ∈ keyed, key entry ∈ names) :
    keyed.entries.length ≤ names.length := by
  rw [← length_map key]
  refine (keyed.nodup.subperm fun name member => ?_).length_le
  obtain ⟨entry, listed, rfl⟩ := mem_map.mp member
  exact keys entry listed

variable [DecidableEq κ]

def get? (keyed : Keyed key) (name : κ) : Option α :=
  keyed.entries.find? fun entry => key entry = name

variable {keyed : Keyed key} {name : κ} {entry : α}

lemma key_of_get? (found : keyed.get? name = some entry) : key entry = name := by
  simpa using List.find?_some found

lemma mem_of_get? (found : keyed.get? name = some entry) : entry ∈ keyed :=
  mem_of_find?_eq_some found

lemma get?_eq_none_iff : keyed.get? name = none ↔ ∀ entry ∈ keyed, key entry ≠ name := by
  rw [get?, List.find?_eq_none]
  simp [mem_def]

lemma get?_of_mem (member : entry ∈ keyed) : keyed.get? (key entry) = some entry := by
  cases found : keyed.get? (key entry) with
  | none => exact (get?_eq_none_iff.mp found entry member rfl).elim
  | some other => rw [keyed.eq_of_key_eq (mem_of_get? found) member (key_of_get? found)]

lemma get?_eq_some_iff : keyed.get? name = some entry ↔ entry ∈ keyed ∧ key entry = name := by
  constructor
  · intro found
    exact ⟨mem_of_get? found, key_of_get? found⟩
  rintro ⟨member, rfl⟩
  exact get?_of_mem member

/-- `INSERT OR IGNORE`: a record whose key is taken is not written. -/
def insertOrIgnore (keyed : Keyed key) (entry : α) : Keyed key :=
  if absent : keyed.get? (key entry) = none then
    { entries := keyed.entries ++ [entry]
      nodup := by
        rw [map_append, nodup_append]
        refine ⟨keyed.nodup, by simp, ?_⟩
        intro left leftMember right rightMember
        obtain ⟨old, oldMember, rfl⟩ := mem_map.mp leftMember
        simp only [map_cons, map_nil, mem_singleton] at rightMember
        subst rightMember
        exact get?_eq_none_iff.mp absent old oldMember }
  else keyed

/-- A record written in place of the one with its key. -/
def put (keyed : Keyed key) (entry : α) : Keyed key :=
  (keyed.deleteWhere fun old => key old = key entry).insertOrIgnore entry

lemma mem_insertOrIgnore : other ∈ keyed.insertOrIgnore entry ↔ other ∈ keyed ∨
    keyed.get? (key entry) = none ∧ other = entry := by
  unfold insertOrIgnore
  split
  next absent => simp [mem_def, absent]
  next taken => simp [taken]

section
variable (keyed : Keyed key)

lemma get?_insertOrIgnore (entry : α) (name : κ) : (keyed.insertOrIgnore entry).get? name =
    if name = key entry then some ((keyed.get? name).getD entry) else keyed.get? name := by
  apply Option.ext
  intro other
  rw [get?_eq_some_iff, mem_insertOrIgnore]
  by_cases same : name = key entry
  · subst same
    rw [if_pos rfl]
    cases found : keyed.get? (key entry) with
    | none =>
      have absent := get?_eq_none_iff.mp found
      simp only [true_and, Option.getD_none, Option.some.injEq]
      constructor
      · rintro ⟨member | rfl, named⟩
        · exact (absent other member named).elim
        · rfl
      rintro rfl
      exact ⟨.inr rfl, rfl⟩
    | some old =>
      simp only [reduceCtorEq, false_and, or_false, Option.getD_some, Option.some.injEq]
      rw [← get?_eq_some_iff, found, Option.some.injEq]
  rw [if_neg same, get?_eq_some_iff]
  constructor
  · rintro ⟨member | ⟨_, rfl⟩, named⟩
    · exact ⟨member, named⟩
    · exact (same named.symm).elim
  rintro ⟨member, named⟩
  exact ⟨.inl member, named⟩

@[simp] lemma get?_deleteWhere (selected : α → Bool) (name : κ) :
    (keyed.deleteWhere selected).get? name =
    (keyed.get? name).filter fun entry => !selected entry := by
  apply Option.ext
  intro entry
  rw [Option.filter_eq_some_iff, get?_eq_some_iff, get?_eq_some_iff,
    mem_deleteWhere, Bool.not_eq_true']
  tauto

@[simp] lemma get?_updateWhere (selected : α → Bool)
    (change : α → α) (keeps : ∀ entry, key (change entry) = key entry) (name : κ) :
    (keyed.updateWhere selected change keeps).get? name = (keyed.get? name).map fun entry =>
        if selected entry then change entry else entry := by
  have sameTest : (fun entry => decide (key entry = name)) ∘
      (fun entry => if selected entry then change entry else entry) =
        fun entry => decide (key entry = name) := by
    funext entry
    by_cases chosen : selected entry = true
    · simp [chosen, keeps]
    · simp [chosen]
  simp only [get?, updateWhere, List.find?_map, sameTest]

lemma get?_put (entry : α) (name : κ) :
    (keyed.put entry).get? name = if name = key entry then some entry else keyed.get? name := by
  rw [put, get?_insertOrIgnore, get?_deleteWhere]
  by_cases same : name = key entry
  · subst same
    cases found : keyed.get? (key entry) with
    | none => simp
    | some old => simp [Option.filter, key_of_get? found]
  · cases found : keyed.get? name with
    | none => simp [same]
    | some old => simp [Option.filter, same, key_of_get? found]

end

lemma mem_put : other ∈ keyed.put entry ↔ other = entry ∨ other ∈ keyed ∧
    key other ≠ key entry := by
  have free : (keyed.deleteWhere fun old => key old = key entry).get? (key entry) = none := by
    apply get?_eq_none_iff.mpr
    intro old member
    simpa using (mem_deleteWhere.mp member).2
  rw [put, mem_insertOrIgnore, mem_deleteWhere, decide_eq_false_iff_not]
  constructor
  · rintro (kept | ⟨_, rfl⟩)
    · exact .inr kept
    · exact .inl rfl
  rintro (rfl | kept)
  · exact .inr ⟨free, rfl⟩
  · exact .inl kept

lemma forall_mem_put {p : α → Prop} (new : p entry) (old : ∀ other ∈ keyed, p other) :
    ∀ other ∈ keyed.put entry, p other := by
  intro other stored
  rcases mem_put.mp stored with rfl | ⟨before, _⟩
  · exact new
  · exact old other before

/-! ## Counting -/

lemma length_lt_of_missing {names : List κ}
    (keys : ∀ entry ∈ keyed, key entry ∈ names) (named : name ∈ names)
    (missing : keyed.get? name = none) : keyed.entries.length < names.length := by
  have others : ∀ entry ∈ keyed, key entry ∈ names.erase name := by
    intro entry member
    apply (mem_erase_of_ne ?_).mpr (keys entry member)
    exact get?_eq_none_iff.mp missing entry member
  have shorter := length_le_of_keys others
  rw [length_erase_of_mem named] at shorter
  have positive := length_pos_of_mem named
  omega

lemma le_length_of_all {names : List κ} (nodup : names.Nodup)
    (all : ∀ name ∈ names, keyed.get? name ≠ none) : names.length ≤ keyed.entries.length := by
  rw [← length_map key]
  refine (nodup.subperm fun name member => ?_).length_le
  obtain ⟨entry, found⟩ := Option.ne_none_iff_exists'.mp (all name member)
  exact mem_map.mpr ⟨entry, mem_of_get? found, key_of_get? found⟩

end Keyed

end Library
