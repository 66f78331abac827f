import Mathlib.Data.List.Nodup
import Mathlib.Data.List.Perm.Subperm

/-!
# Gathering and scattering

The items of a list taken in an order of positions, and put back to the
positions they were taken from.
-/

namespace Library

open List

section
variable {α : Type}

def gather (order : List Nat) (items : List α) : List α :=
  order.filterMap fun position => items[position]?

section
variable (order : List Nat) (values blank : List α)

/-- Each value written to its position, over a list that is already there. -/
def scatter : List α := (order.zip values).foldl (fun out entry => out.set entry.1 entry.2) blank

@[simp] lemma length_scatter : (scatter order values blank).length = blank.length := by
  apply List.foldlRecOn (motive := fun out : List α =>
    out.length = blank.length)
  · rfl
  intro out same entry _
  rw [length_set, same]

end

lemma getElem?_foldl_set {entries : List (Nat × α)} {position : Nat}
    {value : α} (distinct : (entries.map Prod.fst).Nodup)
    (among : (position, value) ∈ entries) {blank : List α} (inside : position < blank.length) :
    (entries.foldl (fun out entry => out.set entry.1 entry.2) blank)[position]? = some value := by
  have keeps : ∀ (rest : List (Nat × α)) (out : List α), position ∉ rest.map Prod.fst →
      (rest.foldl (fun out entry => out.set entry.1 entry.2) out)[position]? = out[position]? := by
    intro rest
    induction rest with
    | nil => exact fun _ _ => rfl
    | cons entry rest induction =>
      intro out absent
      rw [map_cons, mem_cons, not_or] at absent
      rw [foldl_cons, induction _ absent.2, List.getElem?_set_ne (Ne.symm absent.1)]
  induction entries generalizing blank with
  | nil => exact nomatch among
  | cons entry rest induction =>
    rw [map_cons, nodup_cons] at distinct
    rw [foldl_cons]
    rcases mem_cons.mp among with first | later
    · subst first
      rw [keeps rest _ distinct.1, List.getElem?_set_self inside]
    apply induction distinct.2 later
    rw [length_set]
    exact inside

section
variable {order : List Nat} {items : List α} (inside : ∀ position ∈ order, position < items.length)

include inside

lemma zip_gather : order.zip (gather order items) = order.filterMap fun position =>
        items[position]?.map fun item => (position, item) := by
  induction order with
  | nil => rfl
  | cons position order induction =>
    have first := inside position mem_cons_self
    have rest := induction fun other among =>
      inside other (mem_cons_of_mem _ among)
    simp only [gather, filterMap_cons, List.getElem?_eq_getElem first,
      zip_cons_cons, Option.map_some] at rest ⊢
    rw [rest]

lemma length_gather : (gather order items).length = order.length := by
  induction order with
  | nil => rfl
  | cons position order induction =>
    have first := inside position mem_cons_self
    have rest := induction fun other among =>
      inside other (mem_cons_of_mem _ among)
    simp only [gather, filterMap_cons, List.getElem?_eq_getElem first, length_cons] at rest ⊢
    rw [rest]

end

lemma scatter_gather {order : List Nat} {items blank : List α}
    (all : order.Perm (List.range items.length)) (sized : blank.length = items.length) :
    scatter order (gather order items) blank = items := by
  have inside : ∀ position ∈ order, position < items.length :=
    fun position among => mem_range.mp (all.subset among)
  have distinct : ((order.zip (gather order items)).map Prod.fst).Nodup := by
    rw [map_fst_zip (Nat.le_of_eq (length_gather inside).symm)]
    exact all.nodup_iff.mpr nodup_range
  apply ext_getElem?
  intro position
  by_cases small : position < items.length
  · have visited := all.symm.subset (mem_range.mpr small)
    rw [List.getElem?_eq_getElem small]
    apply getElem?_foldl_set distinct
    · rw [zip_gather inside, mem_filterMap]
      exact ⟨position, visited, by simp [small]⟩
    rw [sized]
    exact small
  have long := Nat.le_of_not_lt small
  rw [List.getElem?_eq_none long, List.getElem?_eq_none]
  rw [length_scatter, sized]
  exact long

lemma gather_range (items : List α) : gather (List.range items.length) items = items := by
  induction items with
  | nil => rfl
  | cons item items induction =>
    rw [gather] at induction ⊢
    rw [length_cons, range_succ_eq_map, filterMap_cons, filterMap_map]
    exact congrArg (item :: ·) induction

end

/-! ## Column by column -/

/-- The positions below `n` of a table with rows of the given width, one column
after the other. -/
def columnOrder (n width rows : Nat) : List Nat :=
  (List.range width).flatMap fun column =>
    (List.range rows).filterMap fun row =>
      let position := row * width + column
      if position < n then some position else none

lemma mem_columnOrder : position ∈ columnOrder n width rows ↔
    position < n ∧ ∃ column < width, ∃ row < rows, row * width + column = position := by
  simp only [columnOrder, mem_flatMap, mem_filterMap, mem_range,
    Option.ite_none_right_eq_some, Option.some.injEq]
  constructor
  · rintro ⟨column, inside, row, above, small, rfl⟩
    exact ⟨small, column, inside, row, above, rfl⟩
  rintro ⟨small, column, inside, row, above, rfl⟩
  exact ⟨column, inside, row, above, small, rfl⟩

lemma cell_unique {width row column row' column' : Nat}
    (inside : column < width) (inside' : column' < width)
    (same : row * width + column = row' * width + column') : row = row' ∧ column = column' := by
  have columns : column = column' := by
    have remainders := congrArg (· % width) same
    simpa [Nat.mod_eq_of_lt inside, Nat.mod_eq_of_lt inside'] using remainders
  have positive : 0 < width := Nat.lt_of_le_of_lt (Nat.zero_le _) inside
  rw [columns] at same
  exact ⟨Nat.eq_of_mul_eq_mul_right positive (Nat.add_right_cancel same), columns⟩

lemma nodup_columnOrder (n width rows : Nat) : (columnOrder n width rows).Nodup := by
  rw [columnOrder, nodup_flatMap]
  constructor
  · intro column inside
    rw [mem_range] at inside
    apply nodup_range.filterMap
    intro left right position visitedLeft visitedRight
    simp only [Option.mem_def, Option.ite_none_right_eq_some,
      Option.some.injEq] at visitedLeft visitedRight
    exact (cell_unique inside inside (visitedLeft.2.trans visitedRight.2.symm)).1
  apply nodup_range.imp_of_mem
  intro left right insideLeft insideRight different position visitedLeft visitedRight
  rw [mem_range] at insideLeft insideRight
  simp only [mem_filterMap, Option.ite_none_right_eq_some,
    Option.some.injEq] at visitedLeft visitedRight
  obtain ⟨leftRow, -, -, leftCell⟩ := visitedLeft
  obtain ⟨rightRow, -, -, rightCell⟩ := visitedRight
  exact different (cell_unique insideLeft insideRight (leftCell.trans rightCell.symm)).2

lemma length_columnOrder_le (n width rows : Nat) : (columnOrder n width rows).length ≤ n := by
  have few := (nodup_columnOrder n width rows).subperm
    (fun position among => mem_range.mpr (mem_columnOrder.mp among).1)
  calc (columnOrder n width rows).length
      ≤ (List.range n).length := few.length_le
    _ = n := length_range

lemma length_gather_columnOrder_le (items : List α) (width rows : Nat) :
    (gather (columnOrder items.length width rows) items).length ≤ items.length := by
  rw [length_gather fun position among => (mem_columnOrder.mp among).1]
  exact length_columnOrder_le _ _ _

lemma columnOrder_no_rows (n width : Nat) : columnOrder n width 0 = [] := by
  simp [columnOrder]

lemma columnOrder_one_row (wide : n ≤ width) : columnOrder n width 1 = List.range n := by
  have inside : ∀ column ∈ List.range n, (if column < n then [column] else []) = [column] :=
    fun column among => if_pos (mem_range.mp among)
  have outside : ∀ column ∈ (List.range (width - n)).map (n + ·),
      (if column < n then [column] else []) = [] := by
    intro column among
    obtain ⟨further, -, rfl⟩ := mem_map.mp among
    exact if_neg (by omega)
  have columns : columnOrder n width 1 = (List.range width).flatMap
      fun column => if column < n then [column] else [] := by
    rw [columnOrder]
    congr 1
    funext column
    by_cases small : column < n
    · simp [small]
    · simp [small]
  rw [columns, ← Nat.add_sub_of_le wide, range_add, flatMap_append,
    flatMap_congr inside, flatMap_congr outside]
  simp

lemma perm_columnOrder (enough : n ≤ rows * width) :
    (columnOrder n width rows).Perm (List.range n) := by
  apply (perm_ext_iff_of_nodup (nodup_columnOrder n width rows) nodup_range).mpr
  intro position
  rw [mem_columnOrder, mem_range]
  constructor
  · exact And.left
  intro small
  have positive : 0 < width := by
    apply Nat.pos_of_ne_zero
    intro zero
    rw [zero, Nat.mul_zero] at enough
    omega
  refine ⟨small, position % width, Nat.mod_lt _ positive, position / width, ?_, ?_⟩
  · apply Nat.div_lt_of_lt_mul
    rw [Nat.mul_comm]
    omega
  rw [Nat.mul_comm]
  exact Nat.div_add_mod position width

end Library
