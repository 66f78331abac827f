import Mathlib.LinearAlgebra.Matrix.Rank

/-!
# Gauss-Jordan elimination

Rows of a module are reduced column by column: a row with a nonzero entry is
moved to the diagonal, scaled, and a multiple of it taken from every other row.
No step changes which linear functions vanish on all rows, so the solutions of
a system and the rank of its coefficients can be read off at the end.
-/

namespace Library

open Equiv LinearMap

section
variable {F V : Type*} [Field F] [AddCommGroup V] [Module F V] {n k : Nat}

/-- Moves row `s` to `r`, scales it, and takes a multiple of it from every
other row. -/
def pivotStep (rows : Fin n → V) (r s : Fin n) (scale : F) (factor : Fin n → F) : Fin n → V :=
  fun i =>
    if i = r then scale • rows s
    else rows (swap r s i) - factor i • scale • rows s

lemma pivotStep_vanish (rows : Fin n → V) (r s : Fin n)
    (nonzero : scale ≠ 0) (factor : Fin n → F) (function : V →ₗ[F] F) :
    (∀ i, function (pivotStep rows r s scale factor i) = 0) ↔ ∀ i, function (rows i) = 0 := by
  constructor
  · intro vanishes
    have pivot : function (rows s) = 0 := by
      have scaled := vanishes r
      rw [pivotStep, if_pos rfl, map_smul, smul_eq_mul] at scaled
      exact (mul_eq_zero.mp scaled).resolve_left nonzero
    intro i
    by_cases moved : swap r s i = r
    · have same : i = s := by rw [← swap_apply_self r s i, moved, swap_apply_left]
      rw [same, pivot]
    have reduced := vanishes (swap r s i)
    rw [pivotStep, if_neg moved, swap_apply_self, map_sub, map_smul,
      map_smul, pivot, smul_zero, smul_zero, sub_zero] at reduced
    exact reduced
  intro vanishes i
  rw [pivotStep]
  split
  · rw [map_smul, vanishes, smul_zero]
  · rw [map_sub, map_smul, map_smul, vanishes, vanishes, smul_zero, smul_zero, sub_zero]

section
variable (entry : Fin k → V →ₗ[F] F) (rows : Fin n → V)

/-- The first columns are those of the identity. -/
def Cleared (columns : Nat) : Prop :=
  ∀ (j : Fin k) (i : Fin n), j.val < columns → entry j (rows i) = if i.val = j.val then 1 else 0

lemma cleared_zero : Cleared entry rows 0 := fun _ _ none => absurd none (Nat.not_lt_zero _)

end

lemma Cleared.pivotStep {entry : Fin k → V →ₗ[F] F} {rows : Fin n → V}
    {column : Fin k} (cleared : Cleared entry rows column.val) {r s : Fin n}
    (diagonal : r.val = column.val) (below : column.val ≤ s.val)
    (pivot : entry column (rows s) ≠ 0) : Cleared entry
      (pivotStep rows r s (entry column (rows s))⁻¹ fun i => entry column (rows (swap r s i)))
      (column.val + 1) := by
  intro j i early
  rw [Library.pivotStep]
  by_cases last : j = column
  · subst last
    split
    next same =>
      rw [map_smul, smul_eq_mul, inv_mul_cancel₀ pivot, if_pos]
      rw [same, diagonal]
    rename_i other
    rw [map_sub, map_smul, map_smul, smul_eq_mul, smul_eq_mul,
      inv_mul_cancel₀ pivot, mul_one, sub_self, if_neg]
    intro same
    exact other (Fin.ext (same.trans diagonal.symm))
  have before : j.val < column.val := by
    have different : j.val ≠ column.val := fun same => last (Fin.ext same)
    omega
  have selected : entry j (rows s) = 0 := by
    rw [cleared j s before, if_neg]
    omega
  split
  next same =>
    rw [map_smul, selected, smul_zero, if_neg]
    rw [same, diagonal]
    omega
  rename_i other
  rw [map_sub, map_smul, map_smul, selected, smul_zero, smul_zero, sub_zero, cleared j _ before]
  by_cases second : i = s
  · rw [second, swap_apply_right, if_neg (by omega), if_neg (by omega)]
  · rw [swap_apply_of_ne_of_ne other second]

section
variable (entry : Fin k → V →ₗ[F] F) (v : Fin k → F)

/-- The linear function of a row that a vector of coefficients stands for. -/
noncomputable def combination : V →ₗ[F] F := ∑ j, v j • entry j

lemma combination_apply (row : V) : combination entry v row = ∑ j, entry j row * v j := by
  simp [combination, mul_comm]

end

section
variable {entry : Fin k → V →ₗ[F] F} {rows : Fin n → V}

lemma Cleared.combination_eq (cleared : Cleared entry rows k) (v : Fin k → F)
    (inside : i.val < k) : combination entry v (rows i) = v ⟨i.val, inside⟩ := by
  rw [combination_apply]
  have single : ∀ j, entry j (rows i) * v j =
      if j = ⟨i.val, inside⟩ then v j else 0 := by
    intro j
    rw [cleared j i j.isLt]
    by_cases same : i.val = j.val
    · rw [if_pos same, one_mul, if_pos (Fin.ext same.symm)]
    rw [if_neg same, zero_mul, if_neg]
    intro equal
    exact same (congrArg Fin.val equal).symm
  simp [single]

/-- With a column that has nothing on or below the diagonal, some combination
vanishes on every row. -/
lemma Cleared.exists_combination (cleared : Cleared entry rows column.val) (many : k ≤ n)
    (stuck : ∀ i : Fin n, column.val ≤ i.val → entry column (rows i) = 0) :
    ∃ v : Fin k → F, v ≠ 0 ∧ ∀ i, combination entry v (rows i) = 0 := by
  -- The column is the combination of the cleared ones with its own entries.
  let v : Fin k → F := fun j =>
    if j = column then 1
    else if j < column then
      - entry column (rows ⟨j.val, lt_of_lt_of_le j.isLt many⟩)
    else 0
  refine ⟨v, ?_, ?_⟩
  · intro zero
    have one := congrFun zero column
    simp [v] at one
  intro i
  rw [combination_apply]
  by_cases above : i.val < column.val
  · have inside : i.val < k := lt_trans above column.isLt
    have different : (⟨i.val, inside⟩ : Fin k) ≠ column := by
      intro same
      exact absurd (congrArg Fin.val same) (above.ne)
    rw [Fintype.sum_eq_add ⟨i.val, inside⟩ column different]
    · have diagonal := cleared ⟨i.val, inside⟩ i above
      have before : (⟨i.val, inside⟩ : Fin k) < column := above
      rw [if_pos rfl] at diagonal
      simp [v, diagonal, different, before]
    intro j other
    by_cases early : j < column
    · rw [cleared j i early, if_neg, zero_mul]
      intro same
      exact other.1 (Fin.ext same.symm)
    · simp [v, other.2, early]
  apply Finset.sum_eq_zero
  intro j _
  by_cases last : j = column
  · rw [last, stuck i (not_lt.mp above), zero_mul]
  by_cases early : j < column
  · rw [cleared j i early, if_neg (by omega), zero_mul]
  · simp [v, last, early]

end

end

/-! ## Rank -/

section
variable {F : Type*} [Field F] {n k : Nat} (A : Matrix (Fin n) (Fin k) F)

include A

lemma rank_eq_iff : A.rank = k ↔ ∀ v, A.mulVec v = 0 → v = 0 := by
  have total := finrank_range_add_finrank_ker A.mulVecLin
  rw [Module.finrank_fin_fun] at total
  constructor
  · intro full v zero
    have kernel : Module.finrank F (ker A.mulVecLin) = 0 := by
      rw [Matrix.rank] at full
      omega
    have trivial := Submodule.finrank_eq_zero.mp kernel
    exact ker_eq_bot'.mp trivial v zero
  intro injective
  have trivial : ker A.mulVecLin = ⊥ := ker_eq_bot'.mpr injective
  rw [trivial, finrank_bot, add_zero] at total
  exact total

lemma rank_lt_iff : A.rank < k ↔ ∃ v, v ≠ 0 ∧ A.mulVec v = 0 := by
  have bound : A.rank ≤ k := A.rank_le_width
  constructor
  · intro less
    by_contra none
    have full := (rank_eq_iff A).mpr fun v zero => by
      by_contra nonzero
      exact none ⟨v, nonzero, zero⟩
    omega
  rintro ⟨v, nonzero, zero⟩
  apply lt_of_le_of_ne bound
  intro full
  exact nonzero ((rank_eq_iff A).mp full v zero)

end

end Library
