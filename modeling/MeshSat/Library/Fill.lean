import MeshSat.Library.Checked

/-!
# Tables filled from the left

A table of the length of a list that holds the first elements of the list and
a blank, or what it held before, in every other place.
-/

namespace Library

open List

variable {α : Type}

def fill (list : List α) (blank : α) (count : Nat) : List α :=
  list.take count ++ List.replicate (list.length - count) blank

section
variable {list : List α} {blank : α} {count : Nat}

@[simp] lemma length_fill : (fill list blank count).length = list.length := by
  rw [fill, length_append, length_take, length_replicate]
  omega

lemma fill_zero : fill list blank 0 = List.replicate list.length blank := by
  rw [fill, take_zero, nil_append, Nat.sub_zero]

lemma fill_all (all : list.length ≤ count) : fill list blank count = list := by
  rw [fill, take_of_length_le all, Nat.sub_eq_zero_of_le all, replicate_zero, append_nil]

lemma getElem?_fill_lt (filled : i < count) : (fill list blank count)[i]? = list[i]? := by
  rcases Nat.lt_or_ge i list.length with inside | outside
  · rw [fill, List.getElem?_append_left, List.getElem?_take_of_lt filled]
    rw [length_take]
    omega
  rw [List.getElem?_eq_none, List.getElem?_eq_none outside]
  rw [length_fill]
  exact outside

lemma getElem?_fill_ge (blanked : count ≤ i) (inside : i < list.length) :
    (fill list blank count)[i]? = some blank := by
  rw [fill, List.getElem?_append_right, List.getElem?_replicate, if_pos]
  · rw [length_take]
    omega
  rw [length_take]
  omega

lemma set_fill (found : list[count]? = some element) :
    (fill list blank count).set count element = fill list blank (count + 1) := by
  obtain ⟨inside, same⟩ := List.getElem?_eq_some_iff.mp found
  have taken : (list.take count).length = count := by
    rw [length_take]
    omega
  obtain ⟨rest, left⟩ : ∃ rest, list.length - count = rest + 1 :=
    ⟨list.length - count - 1, by omega⟩
  rw [fill, fill, set_append_right _ _ (Nat.le_of_eq taken), taken, Nat.sub_self,
    left, replicate_succ, set_cons_zero, take_add_one, found,
    Option.toList_some, append_assoc]
  rw [show list.length - (count + 1) = rest by omega]
  rfl

end

/-! ## Tables overwritten in place -/

/-- The first elements of a list, and the rest of an older one. -/
def overwrite (old list : List α) (count : Nat) : List α := list.take count ++ old.drop count

section
variable {old list : List α} {count : Nat}

section
variable (same : old.length = list.length)

include same

lemma overwrite_all (all : list.length ≤ count) : overwrite old list count = list := by
  rw [overwrite, take_of_length_le all, drop_eq_nil_of_le (same ▸ all), append_nil]

lemma length_overwrite : (overwrite old list count).length = list.length := by
  rw [overwrite, length_append, length_take, length_drop]
  omega

lemma getElem?_overwrite : (overwrite old list count)[count]? = old[count]? := by
  rcases Nat.lt_or_ge count list.length with inside | outside
  · rw [overwrite, List.getElem?_append_right, List.getElem?_drop]
    · rw [length_take]
      congr 1
      omega
    rw [length_take]
    omega
  rw [List.getElem?_eq_none, List.getElem?_eq_none]
  · omega
  rw [length_overwrite same]
  exact outside

end

lemma set_overwrite (same : old.length = list.length) (found : list[count]? = some element) :
    (overwrite old list count).set count element = overwrite old list (count + 1) := by
  obtain ⟨inside, -⟩ := List.getElem?_eq_some_iff.mp found
  have taken : (list.take count).length = count := by
    rw [length_take]
    omega
  have left := drop_eq_getElem_cons (show count < old.length by omega)
  rw [overwrite, overwrite, set_append_right _ _ (Nat.le_of_eq taken),
    taken, Nat.sub_self, left, set_cons_zero, take_add_one, found,
    Option.toList_some, append_assoc]
  rfl

lemma forRange_overwrite (same : old.length = list.length)
    (each : ∀ (i : Nat) (out : List α) (element : α),
      list[i]? = some element → out.length = list.length →
      out[i]? = old[i]? → body i out = .ok (.next (out.set i element))) :
    Checked.forRange 0 list.length body old = .ok list := by
  apply Checked.Returns.eq_ok
  refine Checked.returns_forRange (fun i out => out = overwrite old list i.toNat) rfl ?_ ?_
  · intro i out low high holds
    obtain ⟨n, rfl⟩ := Int.eq_ofNat_of_zero_le low
    have found := List.getElem?_eq_getElem (show n < list.length by omega)
    rw [Int.toNat_natCast] at holds
    subst holds
    rw [each n _ _ found (length_overwrite same) (getElem?_overwrite same)]
    exact Checked.returns_ok.mpr (set_overwrite same found)
  intro out holds
  rw [holds, overwrite_all same]
  omega

end

end Library
