import Mathlib
import MeshSat.Library.Keyed

/-!
# Tables with a primary key

A table is a keyed list that remembers its used keys: a key is never handed out again, also after
its record was deleted, as with an `AUTOINCREMENT` column or fresh universal identifiers.

Reading after a write is expressed through `get?`. A write changes a total over a table only through
the records it touches.
-/

namespace Library

open List

structure Table {α κ : Type} (key : α → κ) where
  entries : List α
  /-- Every key a record of this table ever had. -/
  used : List κ
  nodup : (entries.map key).Nodup
  recorded : ∀ entry ∈ entries, key entry ∈ used

namespace Table

variable {α κ : Type} {key : α → κ}

def empty : Table key where
  entries := []
  used := []
  nodup := nodup_nil
  recorded := by simp

instance : Membership α (Table key) where
  mem table entry := entry ∈ table.entries

lemma mem_def {table : Table key} : entry ∈ table ↔ entry ∈ table.entries := Iff.rfl

/-- The records by key, without the memory of the keys used. -/
def keyed (table : Table key) : Keyed key where
  entries := table.entries
  nodup := table.nodup

lemma eq_of_key_eq (table : Table key) (leftMember : left ∈ table)
    (rightMember : right ∈ table) (same : key left = key right) : left = right :=
  table.keyed.eq_of_key_eq leftMember rightMember same

lemma ext {left right : Table key} (entries : left.entries = right.entries)
    (used : left.used = right.used) : left = right := by
  cases left
  cases right
  cases entries
  cases used
  rfl

/-! ## Writing -/

section
variable (table : Table key)

/-- `UPDATE ... SET change WHERE selected`. -/
def updateWhere (selected : α → Bool) (change : α → α)
    (keeps : ∀ entry, key (change entry) = key entry := by
      as_aux_lemma => intro _; rfl) : Table key where
  entries := table.entries.map fun entry =>
    if selected entry then change entry else entry
  used := table.used
  nodup := by
    have sameKeys : (table.entries.map fun entry =>
        if selected entry then change entry else entry).map key = table.entries.map key := by
      rw [map_map]
      apply map_congr_left
      intro entry _
      by_cases chosen : selected entry = true
      · simp [chosen, keeps]
      · simp [chosen]
    rw [sameKeys]
    exact table.nodup
  recorded := by
    intro entry member
    obtain ⟨old, oldMember, rfl⟩ := mem_map.mp member
    by_cases chosen : selected old = true
    · simpa [chosen, keeps] using table.recorded old oldMember
    · simpa [chosen] using table.recorded old oldMember

/-- `DELETE ... WHERE selected`. -/
def deleteWhere (selected : α → Bool) : Table key where
  entries := table.entries.filter fun entry => !selected entry
  used := table.used
  nodup := table.nodup.sublist (filter_sublist.map key)
  recorded := by
    intro entry member
    exact table.recorded entry (mem_of_mem_filter member)

/-- `INSERT` of a record whose key was never used. -/
def insert (entry : α) (fresh : key entry ∉ table.used) : Table key where
  entries := table.entries ++ [entry]
  used := key entry :: table.used
  nodup := by
    rw [map_append, nodup_append]
    refine ⟨table.nodup, by simp, ?_⟩
    intro left leftMember right rightMember
    obtain ⟨old, oldMember, rfl⟩ := mem_map.mp leftMember
    simp only [map_cons, map_nil, mem_singleton] at rightMember
    subst rightMember
    intro same
    exact fresh (same ▸ table.recorded old oldMember)
  recorded := by
    intro other member
    rcases mem_append.mp member with old | new
    · exact mem_cons_of_mem _ (table.recorded other old)
    rw [mem_singleton.mp new]
    exact mem_cons_self

lemma updateWhere_eq_self (selected : α → Bool)
    (change : α → α) (keeps : ∀ entry, key (change entry) = key entry)
    (unchanged : ∀ entry ∈ table, selected entry = true → change entry = entry) :
    table.updateWhere selected change keeps = table := by
  apply ext
  · have same : ∀ entry ∈ table.entries,
        (if selected entry then change entry else entry) = entry := by
      intro entry member
      by_cases chosen : selected entry = true
      · simp [chosen, unchanged entry member chosen]
      · simp [chosen]
    simp only [updateWhere]
    rw [map_congr_left same, map_id']
  · rfl

end

/-! ## Reading -/

section
variable [DecidableEq κ]

section
variable (table : Table key) (name : κ)

def get? : Option α := table.entries.find? fun entry => key entry = name

/-- `UPDATE ... SET change WHERE key = name`. -/
def update (change : α → α) (keeps : ∀ entry, key (change entry) = key entry := by
      as_aux_lemma => intro _; rfl) : Table key :=
  table.updateWhere (fun entry => key entry = name) change keeps

lemma get?_keyed : table.keyed.get? name = table.get? name :=
  rfl

end

variable {table : Table key} {name : κ} {entry : α}

lemma key_of_get? (found : table.get? name = some entry) : key entry = name := by
  rw [← get?_keyed] at found
  exact Keyed.key_of_get? found

lemma mem_of_get? (found : table.get? name = some entry) : entry ∈ table := by
  rw [← get?_keyed] at found
  exact Keyed.mem_of_get? found

lemma get?_eq_some_iff : table.get? name = some entry ↔ entry ∈ table ∧ key entry = name := by
  rw [← get?_keyed]
  exact Keyed.get?_eq_some_iff

lemma get?_of_mem (member : entry ∈ table) : table.get? (key entry) = some entry :=
  get?_eq_some_iff.mpr ⟨member, rfl⟩

lemma used_of_get? (found : table.get? name = some entry) : name ∈ table.used := by
  rw [← key_of_get? found]
  exact table.recorded entry (mem_of_get? found)

section
variable (table : Table key)

@[simp] lemma get?_updateWhere (selected : α → Bool)
    (change : α → α) (keeps : ∀ entry, key (change entry) = key entry) (name : κ) :
    (table.updateWhere selected change keeps).get? name = (table.get? name).map fun entry =>
        if selected entry then change entry else entry :=
  table.keyed.get?_updateWhere selected change keeps name

section
variable (target : κ) (change : α → α) (keeps : ∀ entry, key (change entry) = key entry)

lemma get?_update (name : κ) : (table.update target change keeps).get? name =
      if name = target then (table.get? name).map change
      else table.get? name := by
  rw [update, get?_updateWhere]
  cases found : table.get? name with
  | none => simp
  | some entry =>
    have named := key_of_get? found
    by_cases same : name = target
    · simp [same, named ▸ same]
    · simp [same, named]

@[simp] lemma get?_update_self :
    (table.update target change keeps).get? target = (table.get? target).map change := by
  simp [get?_update]

end

lemma get?_update_ne (different : name ≠ target) :
    (table.update target change keeps).get? name = table.get? name := by
  simp [get?_update, different]

@[simp] lemma get?_deleteWhere (selected : α → Bool) (name : κ) :
    (table.deleteWhere selected).get? name =
    (table.get? name).filter fun entry => !selected entry :=
  table.keyed.get?_deleteWhere selected name

end

lemma updateWhere_eq_update (found : table.get? name = some entry)
    (selected : α → Bool) (chosen : selected entry = true)
    (only : ∀ other, selected other = true → key other = name) (change : α → α)
    (keeps : ∀ entry, key (change entry) = key entry) : table.updateWhere selected change keeps =
      table.update name change keeps := by
  apply ext
  · have same : ∀ other ∈ table.entries, (if selected other then change other else other) =
          if decide (key other = name) then change other else other := by
      intro other member
      by_cases named : key other = name
      · have equality : other = entry :=
          table.eq_of_key_eq member (mem_of_get? found) (named.trans (key_of_get? found).symm)
        subst equality
        simp [chosen, named]
      have unselected : ¬ selected other = true :=
        fun selectedOther => named (only other selectedOther)
      simp [unselected, named]
    exact map_congr_left same
  · rfl

lemma update_update (table : Table key) (name : κ) (first second : α → α)
    (keepsFirst : ∀ entry, key (first entry) = key entry)
    (keepsSecond : ∀ entry, key (second entry) = key entry) :
    (table.update name first keepsFirst).update name second keepsSecond =
      table.update name (fun entry => second (first entry))
        (fun entry => (keepsSecond (first entry)).trans (keepsFirst entry)) := by
  apply ext
  · simp only [update, updateWhere, map_map]
    apply map_congr_left
    intro entry _
    by_cases named : key entry = name
    · simp [named, keepsFirst]
    · simp [named]
  · rfl

lemma get?_insert (table : Table key) (entry : α) (fresh : key entry ∉ table.used) (name : κ) :
    (table.insert entry fresh).get? name =
      if name = key entry then some entry else table.get? name := by
  by_cases same : name = key entry
  · subst same
    simp only [if_true]
    apply get?_of_mem
    exact mem_append_right _ mem_cons_self
  have reverse : ¬ key entry = name := fun equality => same equality.symm
  simp [get?, insert, List.find?_append, same, reverse]

end

/-! ## Numbered records -/

section
variable {number : α → Nat}

/-- The number the next record gets: one past the largest ever used. -/
def nextKey (table : Table number) : Nat := table.used.foldr max 0 + 1

lemma le_foldr_max {name : Nat} {names : List Nat} (member : name ∈ names) :
    name ≤ names.foldr max 0 := by
  induction names with
  | nil => simp at member
  | cons head tail induction =>
    rcases mem_cons.mp member with same | later
    · subst same
      exact Nat.le_max_left _ _
    · exact le_trans (induction later) (Nat.le_max_right _ _)

lemma lt_nextKey {table : Table number} {name : Nat}
    (member : name ∈ table.used) : name < table.nextKey :=
  Nat.lt_succ_of_le (le_foldr_max member)

lemma nextKey_mono {before after : Table number}
    (kept : ∀ name ∈ before.used, name ∈ after.used) : before.nextKey ≤ after.nextKey := by
  have bounded : ∀ names : List Nat, (∀ name ∈ names, name ∈ after.used) →
      names.foldr max 0 < after.nextKey := by
    intro names used
    induction names with
    | nil => exact Nat.succ_pos _
    | cons head tail induction =>
      exact Nat.max_lt.mpr ⟨lt_nextKey (used head mem_cons_self), induction fun name member =>
          used name (mem_cons_of_mem _ member)⟩
  exact bounded before.used kept

section
variable (table : Table number)

lemma nextKey_unused : table.nextKey ∉ table.used := fun member =>
  lt_irrefl _ (lt_nextKey member)

/-- `INSERT` into a table that numbers its records itself. -/
def insertNext (make : Nat → α) (numbers : ∀ name, number (make name) = name := by
      as_aux_lemma => intro _; rfl) : Table number :=
  table.insert (make table.nextKey) (by rw [numbers]; exact table.nextKey_unused)

section
variable (make : Nat → α) (numbers : ∀ name, number (make name) = name)

@[simp] lemma used_insertNext :
    (table.insertNext make numbers).used = table.nextKey :: table.used := by
  simp [insertNext, insert, numbers]

lemma get?_insertNext (name : Nat) : (table.insertNext make numbers).get? name =
      if name = table.nextKey then some (make table.nextKey)
      else table.get? name := by
  rw [insertNext, get?_insert, numbers]

end

end

end

/-! ## How a write may change a table -/

section
variable [DecidableEq κ]

/-- Every record is kept, changed as `changed` says, or was one that may be
removed; every new record has a key never used before and is as `added`
says. -/
structure Step (changed : α → α → Prop) (added removed : α → Prop)
    (before after : Table key) : Prop where
  forward : ∀ name entry, before.get? name = some entry →
    (∃ other, after.get? name = some other ∧ changed entry other) ∨
      (after.get? name = none ∧ removed entry)
  backward : ∀ name other, after.get? name = some other →
    (∃ entry, before.get? name = some entry ∧ changed entry other) ∨
      (name ∉ before.used ∧ added other)
  used : ∀ name ∈ before.used, name ∈ after.used

def nothing (_ : α) : Prop := False

variable {changed : α → α → Prop} {added removed : α → Prop}

lemma Step.refl (table : Table key) (reflexive : ∀ entry, changed entry entry) :
    Step changed added removed table table where
  forward _ entry found := .inl ⟨entry, found, reflexive entry⟩
  backward _ entry found := .inl ⟨entry, found, reflexive entry⟩
  used _ member := member

variable {before table : Table key} {selected : α → Bool}

lemma Step.mono {weaker : α → α → Prop} {more fewer : α → Prop} {after : Table key}
    (step : Step changed added removed before after)
    (changes : ∀ entry other, changed entry other → weaker entry other)
    (additions : ∀ entry, added entry → more entry)
    (removals : ∀ entry, removed entry → fewer entry) : Step weaker more fewer before after where
  forward name entry found := by
    rcases step.forward name entry found with
      ⟨other, kept, change⟩ | ⟨gone, removal⟩
    · exact .inl ⟨other, kept, changes _ _ change⟩
    · exact .inr ⟨gone, removals _ removal⟩
  backward name other found := by
    rcases step.backward name other found with
      ⟨entry, old, change⟩ | ⟨fresh, addition⟩
    · exact .inl ⟨entry, old, changes _ _ change⟩
    · exact .inr ⟨fresh, additions _ addition⟩
  used := step.used

lemma Step.updateWhere (chosen : ∀ entry, selected entry = true → changed entry (change entry))
    (reflexive : ∀ entry, changed entry entry)
    (keeps : ∀ entry, key (change entry) = key entry := by as_aux_lemma => intro _; rfl) :
    Step changed added removed table (table.updateWhere selected change keeps) := by
  have written (entry : α) : changed entry (if selected entry then change entry else entry) := by
    by_cases isChosen : selected entry = true
    · simpa [isChosen] using chosen entry isChosen
    · simpa [isChosen] using reflexive entry
  refine ⟨?_, ?_, fun _ member => member⟩
  · intro name entry found
    exact .inl ⟨_, by rw [get?_updateWhere, found]; rfl, written entry⟩
  intro name other found
  rw [get?_updateWhere] at found
  obtain ⟨entry, old, rfl⟩ := Option.map_eq_some_iff.mp found
  exact .inl ⟨entry, old, written entry⟩

lemma Step.update (chosen : ∀ entry, table.get? target = some entry → changed entry (change entry))
    (reflexive : ∀ entry, changed entry entry)
    (keeps : ∀ entry, key (change entry) = key entry := by as_aux_lemma => intro _; rfl) :
    Step changed added removed table (table.update target change keeps) := by
  refine ⟨?_, ?_, fun _ member => member⟩
  · intro name entry found
    by_cases same : name = target
    · subst same
      exact .inl ⟨_, by rw [get?_update_self, found]; rfl, chosen entry found⟩
    · exact .inl ⟨entry, by rw [get?_update_ne _ same]; exact found, reflexive entry⟩
  intro name other found
  by_cases same : name = target
  · subst same
    rw [get?_update_self] at found
    obtain ⟨entry, old, rfl⟩ := Option.map_eq_some_iff.mp found
    exact .inl ⟨entry, old, chosen entry old⟩
  rw [get?_update_ne _ same] at found
  exact .inl ⟨other, found, reflexive other⟩

lemma Step.insert (fresh : key entry ∉ table.used) (new : added entry)
    (reflexive : ∀ entry, changed entry entry) :
    Step changed added removed table (table.insert entry fresh) := by
  refine ⟨?_, ?_, fun _ member => mem_cons_of_mem _ member⟩
  · intro name old found
    have different : name ≠ key entry := by
      rintro rfl
      exact fresh (used_of_get? found)
    exact .inl ⟨old, by rw [get?_insert, if_neg different]; exact found, reflexive old⟩
  intro name other found
  rw [get?_insert] at found
  by_cases same : name = key entry
  · subst same
    rw [if_pos rfl] at found
    cases found
    exact .inr ⟨fresh, new⟩
  rw [if_neg same] at found
  exact .inl ⟨other, found, reflexive other⟩

lemma Step.deleteWhere (gone : ∀ entry, selected entry = true → removed entry)
    (reflexive : ∀ entry, changed entry entry) :
    Step changed added removed table (table.deleteWhere selected) := by
  refine ⟨?_, ?_, fun _ member => member⟩
  · intro name entry found
    by_cases chosen : selected entry = true
    · exact .inr ⟨by simp [found, chosen], gone entry chosen⟩
    · exact .inl ⟨entry, by simp [found, chosen], reflexive entry⟩
  intro name other found
  rw [get?_deleteWhere, Option.filter_eq_some_iff] at found
  exact .inl ⟨other, found.1, reflexive other⟩

/-- One write after another. A record added by the first and changed by the
second counts as added. -/
lemma Step.trans {middle after : Table key} (first : Step changed added removed before middle)
    (second : Step changed added removed middle after)
    (transitive : ∀ entry other last, changed entry other → changed other last → changed entry last)
    (stays : ∀ entry other, added entry → changed entry other → added other)
    (removedFirst : ∀ entry other, changed entry other → removed other → removed entry) :
    Step changed added removed before after where
  forward name entry found := by
    rcases first.forward name entry found with
      ⟨other, kept, change⟩ | ⟨gone, removal⟩
    · rcases second.forward name other kept with
        ⟨last, keptAgain, changeAgain⟩ | ⟨goneThen, removal⟩
      · exact .inl ⟨last, keptAgain, transitive _ _ _ change changeAgain⟩
      · exact .inr ⟨goneThen, removedFirst _ _ change removal⟩
    · cases again : after.get? name with
      | none => exact .inr ⟨rfl, removal⟩
      | some last =>
        rcases second.backward name last again with
          ⟨other, old, _⟩ | ⟨fresh, _⟩
        · rw [gone] at old
          cases old
        · exact (fresh (first.used name (used_of_get? found))).elim
  backward name last found := by
    rcases second.backward name last found with
      ⟨other, old, change⟩ | ⟨fresh, addition⟩
    · rcases first.backward name other old with
        ⟨entry, older, changeBefore⟩ | ⟨fresh, addition⟩
      · exact .inl ⟨entry, older, transitive _ _ _ changeBefore change⟩
      · exact .inr ⟨fresh, stays _ _ addition change⟩
    · exact .inr ⟨fun old => fresh (first.used name old), addition⟩
  used name member := second.used name (first.used name member)

end

variable {number : α → Nat} {changed : α → α → Prop} {added removed : α → Prop}
  {before after table : Table key} {weight : α → Int} {make : Nat → α}

lemma Step.insertNext {table : Table number}
    (new : added (make table.nextKey)) (reflexive : ∀ entry, changed entry entry)
    (numbers : ∀ name, number (make name) = name := by as_aux_lemma => intro _; rfl) :
    Step changed added removed table (table.insertNext make numbers) :=
  Step.insert _ new reflexive

lemma Step.then_insertNext {before middle : Table number}
    (step : Step changed added removed before middle) (new : added (make middle.nextKey))
    (numbers : ∀ name, number (make name) = name := by as_aux_lemma => intro _; rfl) :
    Step changed added removed before (middle.insertNext make numbers) where
  forward name entry found := by
    have old : name ≠ middle.nextKey := fun same =>
      middle.nextKey_unused (same ▸ step.used name (used_of_get? found))
    rw [get?_insertNext, if_neg old]
    exact step.forward name entry found
  backward name other found := by
    rw [get?_insertNext] at found
    split at found
    next isNew =>
      cases found
      refine .inr ⟨fun member => ?_, new⟩
      exact middle.nextKey_unused (isNew ▸ step.used name member)
    · exact step.backward name other found
  used name member := by
    exact mem_cons_of_mem _ (step.used name member)

/-! ## Totals -/

/-- The total of a column over the whole table. -/
def total (table : Table key) (weight : α → Int) : Int := (table.entries.map weight).sum

lemma sum_filter_map (entries : List α) (selected : α → Bool) (weight : α → Int) :
    ((entries.filter selected).map weight).sum = (entries.map fun entry =>
        if selected entry then weight entry else 0).sum := by
  induction entries with
  | nil => rfl
  | cons entry entries induction =>
    by_cases chosen : selected entry = true
    · simp [chosen, induction]
    · simp [chosen, induction]

lemma total_insert (table : Table key) (entry : α) (fresh : key entry ∉ table.used)
    (weight : α → Int) :
    (table.insert entry fresh).total weight = table.total weight + weight entry := by
  simp [total, insert]

lemma total_insertNext (table : Table number) (make : Nat → α)
    (numbers : ∀ name, number (make name) = name) (weight : α → Int) :
    (table.insertNext make numbers).total weight =
    table.total weight + weight (make table.nextKey) :=
  total_insert table _ _ weight

/-- What a key contributes to a total; a missing record contributes
nothing. -/
def share [DecidableEq κ] (table : Table key) (weight : α → Int) (name : κ) : Int :=
  ((table.get? name).map weight).getD 0

lemma total_eq_shares [DecidableEq κ] (table : Table key) (weight : α → Int) (names : Finset κ)
    (covers : (table.entries.map key).toFinset ⊆ names) :
    table.total weight = ∑ name ∈ names, table.share weight name := by
  have exactly : table.total weight = ∑ name ∈ (table.entries.map key).toFinset,
        table.share weight name := by
    rw [sum_toFinset _ table.nodup, map_map, total]
    congr 1
    apply map_congr_left
    intro entry member
    have found : table.get? (key entry) = some entry := get?_of_mem member
    simp [share, found]
  rw [exactly]
  apply Finset.sum_subset covers
  intro name _ absent
  have missing : table.get? name = none := by
    cases found : table.get? name with
    | none => rfl
    | some entry =>
      refine (absent ?_).elim
      rw [mem_toFinset]
      exact mem_map.mpr ⟨entry, mem_of_get? found, key_of_get? found⟩
  simp [share, missing]

lemma total_eq_of_shares [DecidableEq κ]
    (same : ∀ name, after.share later name = before.share weight name) :
    after.total later = before.total weight := by
  let names := (before.entries.map key).toFinset ∪ (after.entries.map key).toFinset
  rw [total_eq_shares after later names Finset.subset_union_right,
    total_eq_shares before weight names Finset.subset_union_left]
  exact Finset.sum_congr rfl fun name _ => same name

/-- Two tables whose records weigh the same, key by key but for `name`. -/
lemma total_eq_of_shares_but [DecidableEq κ] (before after : Table key)
    (weight : α → Int) (name : κ) (same : ∀ other, other ≠ name →
      after.share weight other = before.share weight other) : after.total weight =
      before.total weight - before.share weight name + after.share weight name := by
  let names := Insert.insert name ((before.entries.map key).toFinset ∪
    (after.entries.map key).toFinset)
  have member : name ∈ names := Finset.mem_insert_self _ _
  have coversBefore : (before.entries.map key).toFinset ⊆ names :=
    Finset.subset_union_left.trans (Finset.subset_insert _ _)
  have coversAfter : (after.entries.map key).toFinset ⊆ names :=
    Finset.subset_union_right.trans (Finset.subset_insert _ _)
  have rest : ∑ other ∈ names.erase name, after.share weight other =
      ∑ other ∈ names.erase name, before.share weight other :=
    Finset.sum_congr rfl fun other inside =>
      same other (Finset.ne_of_mem_erase inside)
  rw [total_eq_shares after weight names coversAfter,
    total_eq_shares before weight names coversBefore,
    ← Finset.add_sum_erase _ _ member, ← Finset.add_sum_erase _ _ member, rest]
  omega

lemma total_update [DecidableEq κ] (found : table.get? name = some entry) (change : α → α)
    (keeps : ∀ entry, key (change entry) = key entry) (weight : α → Int) :
    (table.update name change keeps).total weight =
      table.total weight - weight entry + weight (change entry) := by
  rw [total_eq_of_shares_but table _ weight name]
  · simp [share, found]
  intro other different
  simp [share, get?_update_ne table different]

/-- An evolution under which every record weighs `later` what it weighed
before, and which adds and removes only weightless records, keeps the
total. -/
lemma Step.total [DecidableEq κ] (step : Step changed added removed before after)
    (kept : ∀ entry other, changed entry other → later other = weight entry)
    (addition : ∀ entry, added entry → later entry = 0)
    (removal : ∀ entry, removed entry → weight entry = 0) :
    after.total later = before.total weight := by
  have same (name : κ) : after.share later name = before.share weight name := by
    cases found : before.get? name with
    | some entry =>
      rcases step.forward name entry found with
        ⟨other, otherFound, change⟩ | ⟨gone, isRemoved⟩
      · simp [share, found, otherFound, kept entry other change]
      · simp [share, found, gone, removal entry isRemoved]
    | none =>
      cases laterFound : after.get? name with
      | none => simp [share, found, laterFound]
      | some other =>
        rcases step.backward name other laterFound with
          ⟨entry, old, _⟩ | ⟨_, isAdded⟩
        · rw [found] at old
          cases old
        · simp [share, found, laterFound, addition other isAdded]
  exact total_eq_of_shares same

lemma total_of_get?_map [DecidableEq κ]
    (written : ∀ name, after.get? name = (before.get? name).map change) (weight : α → Int) :
    after.total weight = before.total fun entry => weight (change entry) := by
  apply total_eq_of_shares
  intro name
  rw [share, share, written, Option.map_map]
  rfl

lemma total_nonneg (nonneg : ∀ entry ∈ table, 0 ≤ weight entry) : 0 ≤ table.total weight := by
  apply sum_nonneg
  intro value member
  obtain ⟨entry, entryMember, rfl⟩ := mem_map.mp member
  exact nonneg entry entryMember

lemma total_eq_zero (zero : ∀ entry ∈ table, weight entry = 0) : table.total weight = 0 := by
  apply sum_eq_zero
  intro value member
  obtain ⟨entry, entryMember, rfl⟩ := mem_map.mp member
  exact zero entry entryMember

end Table

/-! ## Ordering a selection -/

/-- `ORDER BY` a numeric column; records with equal numbers keep their order. -/
def orderBy {α : Type} (number : α → Nat) (entries : List α) : List α :=
  entries.insertionSort fun left right => number left ≤ number right

variable {α : Type}

@[simp] lemma mem_orderBy : entry ∈ orderBy number entries ↔ entry ∈ entries :=
  mem_insertionSort _

lemma pairwise_orderBy (number : α → Nat) (entries : List α) :
    (orderBy number entries).Pairwise fun left right => number left ≤ number right := by
  have total : Std.Total fun left right : α => number left ≤ number right :=
    ⟨fun left right => Nat.le_total (number left) (number right)⟩
  have trans : IsTrans α fun left right => number left ≤ number right :=
    ⟨fun _ _ _ first second => le_trans first second⟩
  exact pairwise_insertionSort _ entries

lemma find?_orderBy_le (found : (orderBy number entries).find? looks = some first)
    (member : entry ∈ entries) (holds : looks entry = true) : number first ≤ number entry := by
  have ordered := pairwise_orderBy number entries
  have listed : entry ∈ orderBy number entries := mem_orderBy.mpr member
  generalize orderBy number entries = sorted at found ordered listed
  induction sorted with
  | nil => cases listed
  | cons head tail induction =>
    rw [pairwise_cons] at ordered
    rw [List.find?_cons] at found
    split at found
    · cases found
      rcases mem_cons.mp listed with rfl | later
      · exact le_rfl
      · exact ordered.1 entry later
    rename_i other
    rcases mem_cons.mp listed with rfl | later
    · rw [holds] at other
      cases other
    · exact induction found ordered.2 later

/-! ## Selections that agree -/

section
variable {α : Type} {left right : List α} {looks : α → Bool}

lemma any_congr_mem (same : ∀ entry, looks entry = true → (entry ∈ left ↔ entry ∈ right)) :
    left.any looks = right.any looks := by
  rw [Bool.eq_iff_iff, any_eq_true, any_eq_true]
  constructor
  · rintro ⟨entry, member, holds⟩
    exact ⟨entry, (same entry holds).mp member, holds⟩
  rintro ⟨entry, member, holds⟩
  exact ⟨entry, (same entry holds).mpr member, holds⟩

lemma any_congr_related
    {related : α → α → Prop} (forth : ∀ entry ∈ left, ∃ other ∈ right, related entry other)
    (back : ∀ other ∈ right, ∃ entry ∈ left, related entry other)
    (alike : ∀ entry other, related entry other → looks other = looks entry) :
    left.any looks = right.any looks := by
  rw [Bool.eq_iff_iff, any_eq_true, any_eq_true]
  constructor
  · rintro ⟨entry, member, holds⟩
    obtain ⟨other, otherMember, relation⟩ := forth entry member
    exact ⟨other, otherMember, (alike entry other relation).trans holds⟩
  rintro ⟨other, member, holds⟩
  obtain ⟨entry, entryMember, relation⟩ := back other member
  exact ⟨entry, entryMember, (alike entry other relation).symm.trans holds⟩

end

end Library
