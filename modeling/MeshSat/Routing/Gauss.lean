import Mathlib.Data.List.GetD
import MeshSat.Library.Buffers
import MeshSat.Library.GaussJordan
import MeshSat.Routing.Gf256

/-!
# Solving for the original segments

Coded packets carry linear combinations of segments. The decoder copies the
coefficients and payloads, reduces both column by column in place, and returns
the payload rows on the diagonal. Buffers are modelled by their addresses, so
that writing to a copy and writing to an argument are different things.
-/

namespace MeshSat.Routing

open Library List Buffers GF256 Equiv Function LinearMap

abbrev Heap : Type := Buffers UInt8

/-- A matrix in row-major order; its elements are in a buffer. -/
structure GFMatrix where
  (rows cols data : Nat)

def newGFMatrix (heap : Heap) (rows cols : Nat) : Heap × GFMatrix :=
  ((heap.make (rows * cols)).1, ⟨rows, cols, (heap.make (rows * cols)).2⟩)

def GFMatrix.get (m : GFMatrix) (heap : Heap) (row col : Nat) : UInt8 :=
  heap.read m.data (row * m.cols + col)

inductive GaussError
  | tooFewRows (rows need : Nat)
  | payloadCount (count rows : Nat)
  | payloadLength (i length expected : Nat)
  | noPivot (col : Nat)
  deriving Repr, DecidableEq

def errRankDeficient : String := "rlnc: rank deficient — not enough independent packets"

def GaussError.text : GaussError → String
  | tooFewRows n k => s!"{errRankDeficient}: have {n} rows, need {k}"
  | payloadCount count n => s!"rlnc: payload count {count} != row count {n}"
  | payloadLength i length expected =>
    s!"rlnc: payload {i} has length {length}, expected {expected}"
  | noPivot col => s!"{errRankDeficient}: column {col} has no pivot"

/-- The error wraps `ErrRankDeficient`. -/
def GaussError.isRankDeficient : GaussError → Bool
  | tooFewRows _ _ => true
  | payloadCount _ _ => false
  | payloadLength _ _ _ => false
  | noPivot _ => true

/-- How a call ends: with slices, with an error, or in the panic of
`gfInv`. -/
inductive Eliminated
  | returned (result : List Nat)
  | failed (error : GaussError)
  | panicked
  deriving Repr, DecidableEq

/-- The heap and the slices `pld` of the function. -/
structure Elimination where
  heap : Heap
  pld : List Nat

namespace Elimination

section
variable (mat : GFMatrix)

def combineRow (payloadLen : Nat) (op : UInt8 → UInt8 → UInt8) (row other : Nat) (s : Elimination) :
    Elimination :=
  { s with
    heap :=
      (s.heap.combine op mat.data (row * mat.cols) mat.data (other * mat.cols)
          mat.cols).combine op (s.pld.getD row 0) 0 (s.pld.getD other 0) 0
        payloadLen }

def findPivot (col : Nat) (s : Elimination) : Option Nat :=
  (List.range' col (mat.rows - col)).find? fun row =>
    mat.get s.heap row col != 0

def swapPivot (col pivotRow : Nat) (s : Elimination) : Elimination :=
  if pivotRow = col then s
  else
    { heap := s.heap.swapRange mat.data (col * mat.cols) (pivotRow * mat.cols)
        mat.cols
      pld := (s.pld.set col (s.pld.getD pivotRow 0)).set pivotRow (s.pld.getD col 0) }

section
variable (payloadLen col : Nat)

def scalePivot (inv : UInt8) (s : Elimination) : Elimination :=
  s.combineRow mat payloadLen (fun x _ => gfMul x inv) col col

def eliminateRow (s : Elimination) (row : Nat) : Elimination :=
  if row = col then s
  else
    let factor := mat.get s.heap row col
    if factor = 0 then s
    else
      s.combineRow mat payloadLen (fun x y => gfAdd x (gfMul factor y)) row col

/-- One turn of the loop over columns; a failure ends the function. -/
def eliminateColumn (s : Elimination) : Elimination × Option Eliminated :=
  match s.findPivot mat col with
  | none => (s, some (.failed (.noPivot col)))
  | some pivotRow =>
    let swapped := s.swapPivot mat col pivotRow
    match gfInv (mat.get swapped.heap col col) with
    | none => (swapped, some .panicked)
    | some inv =>
      ((List.range mat.rows).foldl (eliminateRow mat payloadLen col)
        (swapped.scalePivot mat payloadLen col inv), none)

end

end

def eliminateColumns (mat : GFMatrix) (payloadLen : Nat) :
    List Nat → Elimination → Elimination × Option Eliminated
  | [], s => (s, none)
  | col :: rest, s =>
    match s.eliminateColumn mat payloadLen col with
    | (s, some ended) => (s, some ended)
    | (s, none) => s.eliminateColumns mat payloadLen rest

end Elimination

/-- Deep copies of the payloads, in order. -/
def copyPayloads (payloadLen : Nat) : List Nat → Elimination → Elimination
  | [], s => s
  | payload :: rest, s =>
    copyPayloads payloadLen rest
      { heap := (s.heap.make payloadLen).1.copy (s.heap.make payloadLen).2
          payload
        pld := s.pld ++ [(s.heap.make payloadLen).2] }

/-- The heap when the function ends, and how it ends. -/
def gaussianEliminate (heap : Heap) (coeffs : GFMatrix) (payloads : List Nat) : Heap × Eliminated :=
  let n := coeffs.rows
  let k := coeffs.cols
  if n < k then (heap, .failed (.tooFewRows n k))
  else if payloads.length ≠ n then
    (heap, .failed (.payloadCount payloads.length n))
  else if k = 0 then (heap, .returned [])
  else
    let len i := (heap.buffer (payloads.getD i 0)).length
    match (List.range' 1 (n - 1)).find? fun i => len i != len 0 with
    | some i => (heap, .failed (.payloadLength i (len i) (len 0)))
    | none =>
      let (heap, mat) := newGFMatrix heap n k
      let s := copyPayloads (len 0) payloads ⟨heap.copy mat.data coeffs.data, []⟩
      match s.eliminateColumns mat (len 0) (List.range k) with
      | (s, some ended) => (s.heap, ended)
      | (s, none) => (s.heap, .returned (s.pld.take k))

/-! ## The copies are apart from the arguments -/

/-- The copies have their sizes and lie beyond the buffers of `before`, which
are unchanged. -/
structure Elimination.Shape (before : Heap) (mat : GFMatrix)
    (payloadLen : Nat) (s : Elimination) : Prop where
  kept : ∀ address < before.cells.length, s.heap.buffer address = before.buffer address
  fresh_data : before.cells.length ≤ mat.data
  length_data : (s.heap.buffer mat.data).length = mat.rows * mat.cols
  length_pld : s.pld.length = mat.rows
  nodup_pld : s.pld.Nodup
  fresh_pld : ∀ address ∈ s.pld, mat.data < address
  length_payload : ∀ address ∈ s.pld, (s.heap.buffer address).length = payloadLen

def Elimination.view (mat : GFMatrix) (payloadLen : Nat) (s : Elimination)
    (i : Fin mat.rows) : Fin mat.cols ⊕ Fin payloadLen → UInt8
  | .inl c => mat.get s.heap i.val c.val
  | .inr j => s.heap.read (s.pld.getD i.val 0) j.val

section
variable {before : Heap} {mat : GFMatrix} {payloadLen : Nat} {s : Elimination}

section
variable (shape : s.Shape before mat payloadLen)

include shape

lemma Elimination.Shape.getD_mem (i : Fin mat.rows) : s.pld.getD i.val 0 ∈ s.pld := by
  have inside : i.val < s.pld.length := by
    rw [shape.length_pld]
    exact i.isLt
  rw [getD_eq_getElem _ _ inside]
  exact getElem_mem inside

lemma Elimination.Shape.getD_inj
    {i j : Fin mat.rows} (same : s.pld.getD i.val 0 = s.pld.getD j.val 0) : i = j := by
  have first : i.val < s.pld.length := by
    rw [shape.length_pld]
    exact i.isLt
  have second : j.val < s.pld.length := by
    rw [shape.length_pld]
    exact j.isLt
  rw [getD_eq_getElem _ _ first, getD_eq_getElem _ _ second] at same
  exact Fin.ext (shape.nodup_pld.getElem_inj_iff.mp same)

lemma Elimination.Shape.of_heap {heap : Heap}
    (lengths : ∀ address, (heap.buffer address).length = (s.heap.buffer address).length)
    (kept : ∀ address < mat.data, heap.buffer address = s.heap.buffer address) :
    Elimination.Shape before mat payloadLen { s with heap := heap } :=
  { shape with
    kept address old := by
      rw [← shape.kept address old]
      exact kept address (lt_of_lt_of_le old shape.fresh_data)
    length_data := by rw [lengths, shape.length_data]
    length_payload address member := by
      rw [lengths, shape.length_payload address member] }

lemma Elimination.Shape.combineRow (op : UInt8 → UInt8 → UInt8) (row : Fin mat.rows) (other : Nat) :
    (s.combineRow mat payloadLen op row.val other).Shape before mat payloadLen := by
  apply shape.of_heap
  · intro address
    rw [Buffers.length_buffer_combine, Buffers.length_buffer_combine]
  intro address old
  have above := shape.fresh_pld _ (shape.getD_mem row)
  rw [buffer_combine_of_ne _ _ _ (by omega), buffer_combine_of_ne _ _ _ (by omega)]

end

lemma row_end_le (i : Fin rows) : i.val * cols + cols ≤ rows * cols := by
  rw [← add_one_mul]
  exact Nat.mul_le_mul_right cols i.isLt

lemma mem_row_iff {i row cols c : Nat} (inside : c < cols) :
    (row * cols ≤ i * cols + c ∧ i * cols + c < row * cols + cols) ↔ i = row := by
  constructor
  · rintro ⟨lower, upper⟩
    have below : row * cols < (i + 1) * cols := by
      rw [add_one_mul]
      omega
    have above : i * cols < (row + 1) * cols := by
      rw [add_one_mul]
      omega
    have first := Nat.lt_of_mul_lt_mul_right below
    have second := Nat.lt_of_mul_lt_mul_right above
    omega
  intro same
  subst same
  omega

lemma rows_apart {row other cols : Nat} (different : row ≠ other) :
    ∀ i < cols, ∀ j < cols, row * cols + i ≠ other * cols + j := by
  intro i inside j within same
  apply different
  apply (mem_row_iff inside).mp
  omega

lemma Elimination.view_combineRow (shape : s.Shape before mat payloadLen)
    (op : UInt8 → UInt8 → UInt8) (row other : Fin mat.rows) :
    (s.combineRow mat payloadLen op row.val other.val).view mat payloadLen =
      update (s.view mat payloadLen) row fun x =>
        op (s.view mat payloadLen row x) (s.view mat payloadLen other x) := by
  have aboveRow := shape.fresh_pld _ (shape.getD_mem row)
  have aboveOther := shape.fresh_pld _ (shape.getD_mem other)
  have matrixApart : mat.data = mat.data → ∀ i < mat.cols, ∀ j < i,
      other.val * mat.cols + i ≠ row.val * mat.cols + j := by
    intro _ i inside j before
    by_cases same : other.val = row.val
    · rw [same]
      omega
    · exact rows_apart same i inside j (by omega)
  have matrixRoom : row.val * mat.cols + mat.cols ≤ (s.heap.buffer mat.data).length := by
    rw [shape.length_data]
    exact row_end_le row
  have payloadRoom : 0 + payloadLen ≤ ((s.heap.combine op mat.data
      (row.val * mat.cols) mat.data (other.val * mat.cols)
      mat.cols).buffer (s.pld.getD row.val 0)).length := by
    rw [length_buffer_combine, shape.length_payload _ (shape.getD_mem row), zero_add]
  funext i x
  cases x with
  | inl c =>
    have here := @mem_row_iff i.val row.val mat.cols c.val c.isLt
    simp only [Elimination.view, combineRow, GFMatrix.get]
    rw [Buffers.read, Buffers.buffer_combine_of_ne _ _ _ (by omega),
      ← Buffers.read, Buffers.read_combine _ _ matrixRoom matrixApart]
    by_cases same : i = row
    · subst same
      rw [if_pos ⟨rfl, here.mpr rfl⟩, update_self, Nat.add_sub_cancel_left]
    rw [if_neg, update_of_ne same]
    · rfl
    intro both
    exact same (Fin.ext (here.mp both.2))
  | inr j =>
    have old : ∀ r : Fin mat.rows, (s.heap.combine op mat.data (row.val * mat.cols) mat.data
          (other.val * mat.cols) mat.cols).read (s.pld.getD r.val 0) j.val =
        s.heap.read (s.pld.getD r.val 0) j.val := by
      intro r
      have above := shape.fresh_pld _ (shape.getD_mem r)
      rw [Buffers.read, Buffers.buffer_combine_of_ne _ _ _ (by omega)]
      rfl
    simp only [Elimination.view, combineRow]
    rw [read_combine _ _ payloadRoom (fun _ i _ j before => by omega)]
    by_cases same : i = row
    · subst same
      rw [if_pos ⟨rfl, Nat.zero_le _, by omega⟩, update_self, zero_add, Nat.sub_zero, old, old]
    rw [if_neg, old, update_of_ne same]
    · rfl
    intro both
    exact same (shape.getD_inj both.1)

lemma Elimination.Shape.swapPivot (shape : s.Shape before mat payloadLen)
    (col pivotRow : Fin mat.rows) :
    (s.swapPivot mat col.val pivotRow.val).Shape before mat payloadLen := by
  rw [Elimination.swapPivot]
  split
  · exact shape
  have first : col.val < s.pld.length := by
    rw [shape.length_pld]
    exact col.isLt
  have second : pivotRow.val < s.pld.length := by
    rw [shape.length_pld]
    exact pivotRow.isLt
  have permuted := set_set_perm first second
  rw [← getD_eq_getElem s.pld 0 first, ← getD_eq_getElem s.pld 0 second] at permuted
  constructor
  · intro address old
    have below := lt_of_lt_of_le old shape.fresh_data
    rw [buffer_swapRange_of_ne _ _ (by omega)]
    exact shape.kept address old
  · exact shape.fresh_data
  · rw [length_buffer_swapRange, shape.length_data]
  · rw [permuted.length_eq, shape.length_pld]
  · exact permuted.nodup_iff.mpr shape.nodup_pld
  · intro address member
    exact shape.fresh_pld address (permuted.mem_iff.mp member)
  intro address member
  rw [length_buffer_swapRange]
  exact shape.length_payload address (permuted.mem_iff.mp member)

lemma getD_set_set {l : List Nat} {i j : Nat} (first : i < l.length)
    (second : j < l.length) (position : Nat) :
    ((l.set i (l.getD j 0)).set j (l.getD i 0)).getD position 0 = l.getD (swap i j position) 0 := by
  by_cases right : position = j
  · subst right
    rw [swap_apply_right, getD_eq_getElem?_getD,
      List.getElem?_set_self (by rwa [length_set]), Option.getD_some]
  rw [getD_eq_getElem?_getD, List.getElem?_set_ne (Ne.symm right)]
  by_cases left : position = i
  · subst left
    rw [List.getElem?_set_self first, swap_apply_left, Option.getD_some]
  rw [List.getElem?_set_ne (Ne.symm left), swap_apply_of_ne_of_ne left right, getD_eq_getElem?_getD]

lemma val_swap (a b i : Fin n) : (swap a b i).val = swap a.val b.val i.val := by
  by_cases left : i = a
  · rw [left, swap_apply_left, swap_apply_left]
  by_cases right : i = b
  · rw [right, swap_apply_right, swap_apply_right]
  rw [swap_apply_of_ne_of_ne left right, swap_apply_of_ne_of_ne (fun same => left (Fin.ext same))
      (fun same => right (Fin.ext same))]

lemma Elimination.view_swapPivot (shape : s.Shape before mat payloadLen)
    (col pivotRow : Fin mat.rows) (i : Fin mat.rows) :
    (s.swapPivot mat col.val pivotRow.val).view mat payloadLen i =
    s.view mat payloadLen (swap col pivotRow i) := by
  rw [Elimination.swapPivot]
  split
  next same =>
    rw [Fin.ext same, Equiv.swap_self]
    rfl
  rename_i different
  have first : col.val < s.pld.length := by
    rw [shape.length_pld]
    exact col.isLt
  have second : pivotRow.val < s.pld.length := by
    rw [shape.length_pld]
    exact pivotRow.isLt
  funext x
  cases x with
  | inl c =>
    have room : ∀ r : Fin mat.rows, r.val * mat.cols + mat.cols ≤
        (s.heap.buffer mat.data).length := by
      intro r
      rw [shape.length_data]
      exact row_end_le r
    simp only [Elimination.view, GFMatrix.get]
    rw [read_swapRange _ (room col) (room pivotRow) (rows_apart (Ne.symm different)), val_swap]
    congr 1
    by_cases left : i.val = col.val
    · rw [if_pos ((mem_row_iff c.isLt).mpr left), left, swap_apply_left, Nat.add_sub_cancel_left]
    rw [if_neg (fun inside => left ((mem_row_iff c.isLt).mp inside))]
    by_cases right : i.val = pivotRow.val
    · rw [if_pos ((mem_row_iff c.isLt).mpr right), right, swap_apply_right, Nat.add_sub_cancel_left]
    rw [if_neg (fun inside => right ((mem_row_iff c.isLt).mp inside)),
      swap_apply_of_ne_of_ne left right]
  | inr j =>
    have above := shape.fresh_pld _ (shape.getD_mem (swap col pivotRow i))
    rw [val_swap] at above
    simp only [Elimination.view]
    rw [getD_set_set first second, val_swap, Buffers.read, buffer_swapRange_of_ne _ _ (by omega)]
    rfl

/-! ## Clearing a column -/

lemma gfAdd_gfMul_zero (x y : UInt8) : gfAdd x (gfMul 0 y) = x := by
  rw [gfMul, if_pos (Or.inl rfl), gfAdd, UInt8.xor_zero]

namespace Elimination

section
variable (shape : s.Shape before mat payloadLen)

include shape

lemma Shape.eliminateRow (col row : Fin mat.rows) :
    (s.eliminateRow mat payloadLen col.val row.val).Shape before mat payloadLen := by
  rw [Elimination.eliminateRow]
  split
  · exact shape
  dsimp only
  split
  · exact shape
  · exact shape.combineRow _ row col.val

lemma view_eliminateRow (col row : Fin mat.rows) (inside : col.val < mat.cols) :
    (s.eliminateRow mat payloadLen col.val row.val).view mat payloadLen =
      if row = col then s.view mat payloadLen
      else
        update (s.view mat payloadLen) row fun x =>
          gfAdd (s.view mat payloadLen row x)
            (gfMul (s.view mat payloadLen row (.inl ⟨col.val, inside⟩))
              (s.view mat payloadLen col x)) := by
  rw [eliminateRow]
  by_cases same : row = col
  · rw [if_pos (congrArg Fin.val same), if_pos same]
  rw [if_neg (fun equal => same (Fin.ext equal)), if_neg same]
  dsimp only
  split
  next zero =>
    -- Nothing is done for a zero factor, and adding nothing is the same.
    have factor : s.view mat payloadLen row (.inl ⟨col.val, inside⟩) = 0 :=
      zero
    rw [factor]
    simp only [gfAdd_gfMul_zero]
    exact (update_eq_self row _).symm
  · exact view_combineRow shape _ row col

lemma view_eliminateRows
    (col : Fin mat.rows) (inside : col.val < mat.cols) {count : Nat} (bounded : count ≤ mat.rows) :
    ((List.range count).foldl (eliminateRow mat payloadLen col.val) s).Shape before mat payloadLen ∧
      ((List.range count).foldl (eliminateRow mat payloadLen col.val) s).view mat payloadLen =
        fun i =>
          if i ≠ col ∧ i.val < count then
            fun x =>
              gfAdd (s.view mat payloadLen i x)
                (gfMul (s.view mat payloadLen i (.inl ⟨col.val, inside⟩))
                  (s.view mat payloadLen col x))
          else s.view mat payloadLen i := by
  induction count with
  | zero =>
    refine ⟨shape, ?_⟩
    funext i
    rw [if_neg (fun both => Nat.not_lt_zero _ both.2)]
    rfl
  | succ count induction =>
    obtain ⟨kept, passed⟩ := induction (by omega)
    rw [range_succ, foldl_append, foldl_cons, foldl_nil]
    refine ⟨kept.eliminateRow col ⟨count, bounded⟩, ?_⟩
    rw [view_eliminateRow kept col ⟨count, bounded⟩ inside, passed]
    funext i
    split
    next pivot =>
      have same : (i ≠ col ∧ i.val < count) ↔ (i ≠ col ∧ i.val < count + 1) := by
        constructor
        · rintro ⟨other, early⟩
          exact ⟨other, by omega⟩
        rintro ⟨other, early⟩
        have last : i.val ≠ count := by
          intro last
          exact other (Eq.trans (Fin.ext last) pivot)
        exact ⟨other, by omega⟩
      simp [same]
    rename_i pivot
    by_cases last : i = ⟨count, bounded⟩
    · subst last
      rw [update_self, if_pos ⟨pivot, Nat.lt_succ_self count⟩]
      simp
    have other : i.val ≠ count := fun equal => last (Fin.ext equal)
    have same : (i ≠ col ∧ i.val < count) ↔ (i ≠ col ∧ i.val < count + 1) := by
      constructor
      · rintro ⟨apart, early⟩
        exact ⟨apart, by omega⟩
      rintro ⟨apart, early⟩
      exact ⟨apart, by omega⟩
    rw [update_of_ne last]
    simp [same]

end

noncomputable def fieldRows (mat : GFMatrix) (payloadLen : Nat)
    (s : Elimination) (i : Fin mat.rows) : Fin mat.cols ⊕ Fin payloadLen → GF256 :=
  fun x => GF256.ofByte (s.view mat payloadLen i x)

lemma findPivot_none (none : s.findPivot mat col.val = none) (i : Fin mat.rows)
    (below : col.val ≤ i.val) : s.fieldRows mat payloadLen i (.inl col) = 0 := by
  have zero := List.find?_eq_none.mp none i.val (by
    rw [mem_range'_1]
    omega)
  have byte : mat.get s.heap i.val col.val = 0 := by simpa using zero
  show GF256.ofByte (mat.get s.heap i.val col.val) = 0
  rw [byte, ofByte_zero]

lemma findPivot_some {col : Fin mat.cols} {pivotRow : Nat}
    (found : s.findPivot mat col.val = some pivotRow) : col.val ≤ pivotRow ∧ pivotRow < mat.rows ∧
    mat.get s.heap pivotRow col.val ≠ 0 := by
  have nonzero := List.find?_some found
  have member := mem_of_find?_eq_some found
  rw [mem_range'_1] at member
  refine ⟨member.1, by omega, ?_⟩
  simpa using nonzero

end Elimination

lemma GF256.sub_eq_add (a b : GF256) : a - b = a + b := by
  have negation : -b = b := neg_eq_of_add_eq_zero_left (add_self b)
  rw [sub_eq_add_neg, negation]

namespace Elimination

/-- A turn of the loop either stops at a column without a pivot or is a pivot
step; the inverse it takes is of a nonzero byte. -/
lemma eliminateColumn_cases
    (shape : s.Shape before mat payloadLen) (col : Fin mat.cols) (many : mat.cols ≤ mat.rows) :
    (s.eliminateColumn mat payloadLen col.val = (s, some (.failed (.noPivot col.val))) ∧
      ∀ i : Fin mat.rows, col.val ≤ i.val → s.fieldRows mat payloadLen i (.inl col) = 0) ∨
    ∃ (cleared : Elimination) (pivot : Fin mat.rows),
      s.eliminateColumn mat payloadLen col.val = (cleared, none) ∧
      cleared.Shape before mat payloadLen ∧ col.val ≤ pivot.val ∧
      s.fieldRows mat payloadLen pivot (.inl col) ≠ 0 ∧ cleared.fieldRows mat payloadLen =
        pivotStep (s.fieldRows mat payloadLen) ⟨col.val, lt_of_lt_of_le col.isLt many⟩ pivot
          (s.fieldRows mat payloadLen pivot (.inl col))⁻¹ (fun i => s.fieldRows mat payloadLen
            (swap ⟨col.val, lt_of_lt_of_le col.isLt many⟩ pivot i) (.inl col)) := by
  let r : Fin mat.rows := ⟨col.val, lt_of_lt_of_le col.isLt many⟩
  cases found : s.findPivot mat col.val with
  | none =>
    left
    refine ⟨?_, fun i => findPivot_none found i⟩
    rw [eliminateColumn, found]
  | some pivotRow =>
    right
    obtain ⟨below, inside, nonzero⟩ := findPivot_some found
    let pivot : Fin mat.rows := ⟨pivotRow, inside⟩
    have swappedShape := shape.swapPivot r pivot
    have swappedView := view_swapPivot shape r pivot
    have diagonal : mat.get (s.swapPivot mat col.val pivotRow).heap col.val
        col.val = mat.get s.heap pivotRow col.val := by
      have moved := congrFun (swappedView r) (.inl col)
      rw [swap_apply_left] at moved
      exact moved
    obtain ⟨inv, inverted, inverse⟩ := gfInv_eq nonzero
    have scaledShape := swappedShape.combineRow (fun x _ => gfMul x inv) r col.val
    have scaledView := view_combineRow swappedShape (fun x _ => gfMul x inv) r r
    obtain ⟨finalShape, finalView⟩ := view_eliminateRows
      scaledShape r col.isLt (Nat.le_refl mat.rows)
    refine ⟨_, pivot, ?_, finalShape, below, ?_, ?_⟩
    · rw [eliminateColumn, found]
      dsimp only
      rw [diagonal, inverted]
      rfl
    · intro zero
      exact nonzero (ofByte_eq_zero zero)
    funext i x
    have shown := congrFun (congrFun finalView i) x
    rw [fieldRows, shown, pivotStep]
    by_cases same : i = r
    · subst same
      rw [if_neg (fun both : r ≠ r ∧ _ => both.1 rfl), if_pos rfl,
        scaledView, update_self, swappedView,
        swap_apply_left, ofByte_gfMul, inverse, mul_comm]
      rfl
    rw [if_pos (⟨same, i.isLt⟩ : i ≠ r ∧ i.val < mat.rows),
      if_neg same, scaledView, update_of_ne same,
      update_self, swappedView, swappedView,
      swap_apply_left, ofByte_gfAdd, ofByte_gfMul,
      ofByte_gfMul, inverse, Pi.sub_apply, sub_eq_add,
      mul_comm (ofByte (s.view mat payloadLen pivot x))]
    rfl

end Elimination

/-! ## All columns -/

/-- An entry of a row, as a linear function of the row. -/
noncomputable def entry (payloadLen : Nat) (c : Fin mat.cols) :
    (Fin mat.cols ⊕ Fin payloadLen → GF256) →ₗ[GF256] GF256 :=
  proj (.inl c)

/-- The same linear functions vanish on the rows of two states. -/
def Elimination.SameZeros (mat : GFMatrix) (payloadLen : Nat) (first second : Elimination) : Prop :=
  ∀ function : (Fin mat.cols ⊕ Fin payloadLen → GF256) →ₗ[GF256] GF256,
    (∀ i, function (first.fieldRows mat payloadLen i) = 0) ↔
      ∀ i, function (second.fieldRows mat payloadLen i) = 0

/-- The loop stops at a column with nothing on or below the diagonal. -/
structure Elimination.Stopped (before : Heap) (mat : GFMatrix)
    (payloadLen : Nat) (s stopped : Elimination) (column : Fin mat.cols) : Prop where
  shape : stopped.Shape before mat payloadLen
  zeros : stopped.SameZeros mat payloadLen s
  cleared : Cleared (entry payloadLen) (stopped.fieldRows mat payloadLen) column.val
  stuck : ∀ i : Fin mat.rows, column.val ≤ i.val →
    entry payloadLen column (stopped.fieldRows mat payloadLen i) = 0

/-- The loop passes every column. -/
structure Elimination.Finished (before : Heap) (mat : GFMatrix)
    (payloadLen : Nat) (s done : Elimination) : Prop where
  shape : done.Shape before mat payloadLen
  zeros : done.SameZeros mat payloadLen s
  cleared : Cleared (entry payloadLen) (done.fieldRows mat payloadLen) mat.cols

lemma Elimination.Shape.eliminateColumns_cases
    (shape : s.Shape before mat payloadLen) (many : mat.cols ≤ mat.rows)
    {col count : Nat} (rest : col + count = mat.cols)
    (cleared : Cleared (entry payloadLen) (s.fieldRows mat payloadLen) col) : (∃ stopped column,
      s.eliminateColumns mat payloadLen (List.range' col count) =
        (stopped, some (.failed (.noPivot column.val))) ∧
      Elimination.Stopped before mat payloadLen s stopped column) ∨ ∃ done,
      s.eliminateColumns mat payloadLen (List.range' col count) = (done, none) ∧
      Elimination.Finished before mat payloadLen s done := by
  induction count generalizing s col with
  | zero =>
    right
    refine ⟨s, rfl, shape, fun _ => Iff.rfl, ?_⟩
    intro j i inside
    exact cleared j i (by omega)
  | succ count induction =>
    have inside : col < mat.cols := by omega
    rw [List.range'_succ, Elimination.eliminateColumns]
    rcases Elimination.eliminateColumn_cases shape ⟨col, inside⟩ many with
      ⟨ended, stuck⟩ | ⟨next, pivot, continued, kept, below, nonzero, step⟩
    · left
      refine ⟨s, ⟨col, inside⟩, ?_, shape, fun _ => Iff.rfl, cleared, stuck⟩
      rw [ended]
    rw [continued]
    have further : Cleared (entry payloadLen) (next.fieldRows mat payloadLen) (col + 1) := by
      rw [step]
      exact @Cleared.pivotStep _ _ _ _ _ _ _ _ _ ⟨col, inside⟩ cleared _ _ rfl below nonzero
    have zeros : next.SameZeros mat payloadLen s := by
      intro function
      rw [step]
      exact pivotStep_vanish _ _ _ (inv_ne_zero nonzero) _ function
    rcases induction kept (by omega) further with
      ⟨stopped, column, ended, facts⟩ | ⟨done, ended, facts⟩
    · left
      refine ⟨stopped, column, ended, facts.shape, ?_, facts.cleared, facts.stuck⟩
      intro function
      exact (facts.zeros function).trans (zeros function)
    right
    refine ⟨done, ended, facts.shape, ?_, facts.cleared⟩
    intro function
    exact (facts.zeros function).trans (zeros function)

end

/-! ## The copies -/

lemma copyPayloads_spec (payloadLen : Nat) (payloads : List Nat) (s : Elimination)
    (sources : ∀ payload ∈ payloads, payload < s.heap.cells.length ∧
      (s.heap.buffer payload).length = payloadLen) : (copyPayloads payloadLen payloads s).pld =
        s.pld ++ List.range' s.heap.cells.length payloads.length ∧ (∀ address < s.heap.cells.length,
        (copyPayloads payloadLen payloads s).heap.buffer address = s.heap.buffer address) ∧
      ∀ i < payloads.length, (copyPayloads payloadLen payloads s).heap.buffer
            (s.heap.cells.length + i) = s.heap.buffer (payloads.getD i 0) := by
  induction payloads generalizing s with
  | nil =>
    refine ⟨(append_nil s.pld).symm, fun _ _ => rfl, ?_⟩
    intro i none
    exact absurd none (Nat.not_lt_zero i)
  | cons payload rest induction =>
    let copied : Elimination :=
      { heap := (s.heap.make payloadLen).1.copy (s.heap.make payloadLen).2
          payload
        pld := s.pld ++ [(s.heap.make payloadLen).2] }
    have size : copied.heap.cells.length = s.heap.cells.length + 1 := by
      rw [length_cells_copy, length_cells_make]
    have kept : ∀ address < s.heap.cells.length,
        copied.heap.buffer address = s.heap.buffer address := by
      intro address old
      have different : address ≠ (s.heap.make payloadLen).2 := by
        rw [make_address]
        omega
      rw [buffer_copy_of_ne _ different, buffer_make _ _ old]
    obtain ⟨old, length⟩ := sources payload mem_cons_self
    have fresh : copied.heap.buffer s.heap.cells.length = s.heap.buffer payload := by
      have room : (s.heap.make payloadLen).2 < (s.heap.make payloadLen).1.cells.length := by
        rw [length_cells_make, make_address]
        omega
      rw [← buffer_make _ payloadLen old]
      apply buffer_copy _ room
      rw [buffer_make_new, length_replicate, buffer_make _ _ old, length]
    obtain ⟨pld, untouched, contents⟩ := induction copied (by
      intro other member
      obtain ⟨allocated, long⟩ := sources other (mem_cons_of_mem _ member)
      refine ⟨by omega, ?_⟩
      rw [kept other allocated, long])
    refine ⟨?_, ?_, ?_⟩
    · show (copyPayloads payloadLen rest copied).pld = _
      rw [pld, size, length_cons, List.range'_succ, append_assoc]
      rfl
    · intro address before
      show (copyPayloads payloadLen rest copied).heap.buffer address = _
      rw [untouched address (by omega), kept address before]
    intro i inside
    show (copyPayloads payloadLen rest copied).heap.buffer _ = _
    cases i with
    | zero =>
      rw [add_zero, untouched _ (by omega), fresh]
      rfl
    | succ i =>
      have within : i < rest.length := by
        rw [length_cons] at inside
        omega
      have place : s.heap.cells.length + (i + 1) = copied.heap.cells.length + i := by omega
      obtain ⟨allocated, _⟩ := sources (rest.getD i 0) (by
        rw [getD_eq_getElem _ _ within]
        exact mem_cons_of_mem _ (getElem_mem within))
      rw [place, contents i within, kept _ allocated]
      rfl

/-- Arguments as the function expects them: the elements of the matrix, and as
many payloads as it has rows, all of one length. -/
structure LinearSystem (heap : Heap) (coeffs : GFMatrix)
    (payloads : List Nat) (payloadLen : Nat) : Prop where
  data_allocated : coeffs.data < heap.cells.length
  length_data : (heap.buffer coeffs.data).length = coeffs.rows * coeffs.cols
  length_payloads : payloads.length = coeffs.rows
  payload_allocated : ∀ payload ∈ payloads, payload < heap.cells.length
  length_payload : ∀ payload ∈ payloads, (heap.buffer payload).length = payloadLen

noncomputable def coefficients (heap : Heap) (coeffs : GFMatrix) :
    Matrix (Fin coeffs.rows) (Fin coeffs.cols) GF256 :=
  fun i c => GF256.ofByte (coeffs.get heap i.val c.val)

/-- The payloads are the coefficients times `X`. -/
def Solution (heap : Heap) (coeffs : GFMatrix) (payloads : List Nat)
    (payloadLen : Nat) (X : Fin coeffs.cols → Fin payloadLen → UInt8) : Prop :=
  ∀ (i : Fin coeffs.rows) (j : Fin payloadLen),
    GF256.ofByte (heap.read (payloads.getD i.val 0) j.val) =
      ∑ c, coefficients heap coeffs i c * GF256.ofByte (X c j)

section
variable {heap : Heap} {coeffs : GFMatrix} {payloads : List Nat} {payloadLen : Nat}

/-- The state in which the loop over columns starts. -/
def Elimination.start (heap : Heap) (coeffs : GFMatrix) (payloads : List Nat)
    (payloadLen : Nat) : Elimination :=
  copyPayloads payloadLen payloads ⟨(newGFMatrix heap coeffs.rows coeffs.cols).1.copy
      (newGFMatrix heap coeffs.rows coeffs.cols).2.data coeffs.data, []⟩

abbrev copiedMatrix (heap : Heap) (coeffs : GFMatrix) : GFMatrix :=
  ⟨coeffs.rows, coeffs.cols, heap.cells.length⟩

section
variable (system : LinearSystem heap coeffs payloads payloadLen)

include system

namespace LinearSystem

lemma start : (Elimination.start heap coeffs payloads payloadLen).Shape heap
        (copiedMatrix heap coeffs) payloadLen ∧
      (Elimination.start heap coeffs payloads payloadLen).heap.buffer
          heap.cells.length = heap.buffer coeffs.data ∧ ∀ i < coeffs.rows,
        (Elimination.start heap coeffs payloads payloadLen).heap.buffer
            ((Elimination.start heap coeffs payloads payloadLen).pld.getD i 0) =
          heap.buffer (payloads.getD i 0) := by
  let copied : Elimination :=
    ⟨(newGFMatrix heap coeffs.rows coeffs.cols).1.copy
      (newGFMatrix heap coeffs.rows coeffs.cols).2.data coeffs.data, []⟩
  have size : copied.heap.cells.length = heap.cells.length + 1 := by
    rw [length_cells_copy]
    exact length_cells_make _ _
  have kept : ∀ address < heap.cells.length, copied.heap.buffer address = heap.buffer address := by
    intro address old
    have different : address ≠ (copiedMatrix heap coeffs).data := old.ne
    exact (buffer_copy_of_ne _ different _).trans (buffer_make _ _ old)
  have matrix : copied.heap.buffer heap.cells.length = heap.buffer coeffs.data := by
    have room : heap.cells.length < (heap.make (coeffs.rows * coeffs.cols)).1.cells.length := by
      rw [length_cells_make]
      omega
    rw [← buffer_make _ (coeffs.rows * coeffs.cols) system.data_allocated]
    apply buffer_copy _ room
    rw [buffer_make _ _ system.data_allocated, system.length_data]
    have fresh := buffer_make_new heap (coeffs.rows * coeffs.cols)
    rw [make_address] at fresh
    rw [fresh, length_replicate]
  obtain ⟨pld, untouched, contents⟩ := copyPayloads_spec payloadLen payloads copied (by
      intro payload member
      have allocated := system.payload_allocated payload member
      refine ⟨by omega, ?_⟩
      rw [kept payload allocated, system.length_payload payload member])
  have addresses : (Elimination.start heap coeffs payloads payloadLen).pld =
      List.range' (heap.cells.length + 1) coeffs.rows := by
    rw [← size, ← system.length_payloads]
    exact pld
  have payloadAt : ∀ i < coeffs.rows,
      (Elimination.start heap coeffs payloads payloadLen).heap.buffer
          (heap.cells.length + 1 + i) = heap.buffer (payloads.getD i 0) := by
    intro i inside
    have within : i < payloads.length := by
      rw [system.length_payloads]
      exact inside
    have allocated := system.payload_allocated (payloads.getD i 0) (by
      rw [getD_eq_getElem _ _ within]
      exact getElem_mem within)
    rw [← kept _ allocated, ← size]
    exact contents i within
  have data : (Elimination.start heap coeffs payloads payloadLen).heap.buffer
      heap.cells.length = heap.buffer coeffs.data := by
    rw [← matrix]
    exact untouched _ (by omega)
  refine ⟨?_, data, ?_⟩
  · constructor
    · intro address old
      rw [← kept address old]
      exact untouched address (by omega)
    · exact le_rfl
    · show (Buffers.buffer _ heap.cells.length).length = _
      rw [data, system.length_data]
    · rw [addresses, length_range']
    · rw [addresses]
      exact nodup_range'
    · intro address member
      rw [addresses, mem_range'_1] at member
      exact member.1
    intro address member
    rw [addresses, mem_range'_1] at member
    have inside : address - (heap.cells.length + 1) < coeffs.rows := by omega
    have place := payloadAt _ inside
    rw [Nat.add_sub_cancel' member.1] at place
    have within : address - (heap.cells.length + 1) < payloads.length := by
      rw [system.length_payloads]
      exact inside
    rw [place, system.length_payload]
    rw [getD_eq_getElem _ _ within]
    exact getElem_mem within
  intro i inside
  rw [addresses, getD_eq_getElem _ _ (by
    rw [length_range']
    exact inside), getElem_range', one_mul, payloadAt i inside]

lemma fieldRows_inl (i : Fin coeffs.rows) (c : Fin coeffs.cols) :
    (Elimination.start heap coeffs payloads payloadLen).fieldRows
        (copiedMatrix heap coeffs) payloadLen i (.inl c) = coefficients heap coeffs i c := by
  have data := system.start.2.1
  show GF256.ofByte (Buffers.read _ heap.cells.length _) = _
  rw [Buffers.read, data]
  rfl

lemma fieldRows_inr (i : Fin coeffs.rows) (j : Fin payloadLen) :
    (Elimination.start heap coeffs payloads payloadLen).fieldRows
        (copiedMatrix heap coeffs) payloadLen i (.inr j) =
      GF256.ofByte (heap.read (payloads.getD i.val 0) j.val) := by
  have payload := system.start.2.2 i.val i.isLt
  show GF256.ofByte (Buffers.read _ _ _) = _
  rw [Buffers.read, payload]
  rfl

lemma combination_eq (v : Fin coeffs.cols → GF256) (i : Fin coeffs.rows) :
    combination (@entry (copiedMatrix heap coeffs) payloadLen) v
        ((Elimination.start heap coeffs payloads payloadLen).fieldRows
          (copiedMatrix heap coeffs) payloadLen i) = (coefficients heap coeffs).mulVec v i := by
  have entries : ∀ c, entry payloadLen c
      ((Elimination.start heap coeffs payloads payloadLen).fieldRows
        (copiedMatrix heap coeffs) payloadLen i) =
      coefficients heap coeffs i c := system.fieldRows_inl i
  rw [combination_apply, Matrix.mulVec, dotProduct]
  simp [entries]

section
variable (many : coeffs.cols ≤ coeffs.rows)

include many

variable {done : Elimination}

lemma rank_of_finished (finished : Elimination.Finished heap (copiedMatrix heap coeffs) payloadLen
      (Elimination.start heap coeffs payloads payloadLen) done) :
    (coefficients heap coeffs).rank = coeffs.cols := by
  rw [rank_eq_iff]
  intro v zero
  have vanishes := (finished.zeros (combination (entry payloadLen) v)).mpr (by
    intro i
    rw [system.combination_eq, zero, Pi.zero_apply])
  funext c
  have diagonal := finished.cleared.combination_eq v
    (i := ⟨c.val, lt_of_lt_of_le c.isLt many⟩) c.isLt
  rw [vanishes] at diagonal
  exact diagonal.symm

lemma rank_of_stopped (facts : Elimination.Stopped heap (copiedMatrix heap coeffs) payloadLen
      (Elimination.start heap coeffs payloads payloadLen) stopped column) :
    (coefficients heap coeffs).rank < coeffs.cols := by
  rw [rank_lt_iff]
  obtain ⟨v, nonzero, vanishes⟩ := facts.cleared.exists_combination many facts.stuck
  refine ⟨v, nonzero, ?_⟩
  funext i
  rw [← system.combination_eq]
  exact (facts.zeros _).mp vanishes i

section
variable
  (finished : Elimination.Finished heap (copiedMatrix heap coeffs) payloadLen
    (Elimination.start heap coeffs payloads payloadLen) done)
  {X : Fin coeffs.cols → Fin payloadLen → UInt8}
  (solves : Solution heap coeffs payloads payloadLen X)

include finished solves

lemma payload_of_finished (c : Fin coeffs.cols) (j : Fin payloadLen) :
    done.heap.read (done.pld.getD c.val 0) j.val = X c j := by
  -- Each position of the payloads is a combination of the entries.
  let error : (Fin coeffs.cols ⊕ Fin payloadLen → GF256) →ₗ[GF256] GF256 :=
    combination (@entry (copiedMatrix heap coeffs) payloadLen)
      (fun c => GF256.ofByte (X c j)) - proj (.inr j)
  have vanishes := (finished.zeros error).mpr (by
    intro i
    rw [LinearMap.sub_apply, system.combination_eq, LinearMap.proj_apply,
      system.fieldRows_inr, solves i j]
    exact sub_self _)
  have row := vanishes ⟨c.val, lt_of_lt_of_le c.isLt many⟩
  rw [LinearMap.sub_apply, finished.cleared.combination_eq _ c.isLt, proj_apply, sub_eq_zero] at row
  exact (ofByte_injective row).symm

lemma payload_of_result :
    (done.pld.take coeffs.cols).map done.heap.buffer = List.ofFn fun c => List.ofFn (X c) := by
  have count : done.pld.length = coeffs.rows := finished.shape.length_pld
  apply List.ext_getElem
  · rw [length_map, length_take, length_ofFn, count]
    omega
  intro c inside within
  rw [length_ofFn] at within
  have present : c < done.pld.length := by omega
  have payload := system.payload_of_finished many finished solves ⟨c, within⟩
  have length := finished.shape.length_payload done.pld[c] (List.getElem_mem present)
  rw [List.getElem_map, List.getElem_take, List.getElem_ofFn]
  apply List.ext_getElem
  · rw [length, List.length_ofFn]
  intro j inner bounded
  rw [List.length_ofFn] at bounded
  rw [List.getElem_ofFn, ← payload ⟨j, bounded⟩, List.getD_eq_getElem _ _ present, Buffers.read,
    List.getD_eq_getElem _ _ inner]

end

lemma gaussianEliminate_eq (columns : coeffs.cols ≠ 0) : gaussianEliminate heap coeffs payloads =
      match (Elimination.start heap coeffs payloads
          payloadLen).eliminateColumns (copiedMatrix heap coeffs) payloadLen
          (List.range coeffs.cols) with
      | (s, some ended) => (s.heap, ended)
      | (s, none) => (s.heap, .returned (s.pld.take coeffs.cols)) := by
  have lengths : ∀ i < coeffs.rows, (heap.buffer (payloads.getD i 0)).length = payloadLen := by
    intro i inside
    rw [← system.length_payloads] at inside
    apply system.length_payload
    rw [getD_eq_getElem _ _ inside]
    exact getElem_mem inside
  have first := lengths 0 (by omega)
  have equal : ((List.range' 1 (coeffs.rows - 1)).find? fun i =>
      (heap.buffer (payloads.getD i 0)).length !=
        (heap.buffer (payloads.getD 0 0)).length) = none := by
    rw [List.find?_eq_none]
    intro i member
    rw [mem_range'_1] at member
    rw [first, lengths i (by omega)]
    simp
  rw [gaussianEliminate, if_neg (not_lt.mpr many),
    if_neg (not_not.mpr system.length_payloads), if_neg columns]
  dsimp only
  rw [equal]
  dsimp only
  rw [first]
  rfl

/-- How elimination ends: at a column without a pivot, or with every column
passed. -/
lemma outcome (columns : coeffs.cols ≠ 0) : (∃ stopped column,
      gaussianEliminate heap coeffs payloads = (stopped.heap, .failed (.noPivot column.val)) ∧
      Elimination.Stopped heap (copiedMatrix heap coeffs) payloadLen
        (Elimination.start heap coeffs payloads payloadLen) stopped column) ∨ ∃ done,
      gaussianEliminate heap coeffs payloads = (done.heap, .returned (done.pld.take coeffs.cols)) ∧
      Elimination.Finished heap (copiedMatrix heap coeffs) payloadLen
        (Elimination.start heap coeffs payloads payloadLen) done := by
  have passes := system.start.1.eliminateColumns_cases many (zero_add _) (cleared_zero _ _)
  rw [← range_eq_range'] at passes
  rw [system.gaussianEliminate_eq many columns]
  rcases passes with ⟨stopped, column, ended, facts⟩ | ⟨done, ended, facts⟩
  · left
    refine ⟨stopped, column, ?_, facts⟩
    rw [ended]
  right
  refine ⟨done, ?_, facts⟩
  rw [ended]

end

lemma eliminated :
    ∃ after, (∀ address < heap.cells.length, after.buffer address = heap.buffer address) ∧
      (((coefficients heap coeffs).rank < coeffs.cols ∧
        ∃ error, gaussianEliminate heap coeffs payloads =
            (after, .failed error) ∧ error.isRankDeficient = true) ∨
      ((coefficients heap coeffs).rank = coeffs.cols ∧
        ∃ result, gaussianEliminate heap coeffs payloads =
            (after, .returned result) ∧ result.length = coeffs.cols ∧
          ∀ X, Solution heap coeffs payloads payloadLen X →
            result.map after.buffer = List.ofFn fun c => List.ofFn (X c))) := by
  by_cases few : coeffs.rows < coeffs.cols
  · have bound := (coefficients heap coeffs).rank_le_height
    refine ⟨heap, fun _ _ => rfl, .inl ⟨by omega, .tooFewRows coeffs.rows coeffs.cols, ?_, rfl⟩⟩
    rw [gaussianEliminate, if_pos few]
  have many := not_lt.mp few
  by_cases none : coeffs.cols = 0
  · have bound := (coefficients heap coeffs).rank_le_width
    refine ⟨heap, fun _ _ => rfl, .inr ⟨by omega, [], ?_, none.symm, ?_⟩⟩
    · rw [gaussianEliminate, if_neg few, if_neg (not_not.mpr system.length_payloads), if_pos none]
    intro X _
    symm
    apply eq_nil_of_length_eq_zero
    rw [length_ofFn, none]
  rcases system.outcome many none with
    ⟨stopped, column, ended, facts⟩ | ⟨done, ended, facts⟩
  · exact ⟨stopped.heap, facts.shape.kept,
      .inl ⟨system.rank_of_stopped many facts, .noPivot column.val, ended, rfl⟩⟩
  have count : done.pld.length = coeffs.rows := facts.shape.length_pld
  refine ⟨done.heap, facts.shape.kept, .inr ⟨system.rank_of_finished many facts, _, ended, ?_,
      fun X solves => system.payload_of_result many facts solves⟩⟩
  rw [length_take, count]
  omega

end LinearSystem

end

end

/-- The solver returns the solution of a system of full rank and reports a rank
deficiency otherwise, over the field that the tables multiply in; the arguments
are not written and no inverse of zero is taken. -/
theorem gaussianEliminate_correct (heap : Heap) (coeffs : GFMatrix)
    (payloads : List Nat) (payloadLen : Nat)
    (system : LinearSystem heap coeffs payloads payloadLen) :
    (∀ a b, GF256.ofByte (gfMul a b) = GF256.ofByte a * GF256.ofByte b) ∧
    ((coefficients heap coeffs).rank = coeffs.cols →
      ∀ X, Solution heap coeffs payloads payloadLen X → ∃ result,
          (gaussianEliminate heap coeffs payloads).2 = .returned result ∧
          result.map (gaussianEliminate heap coeffs payloads).1.buffer =
            List.ofFn fun c => List.ofFn (X c)) ∧ ((coefficients heap coeffs).rank < coeffs.cols →
      ∃ error, (gaussianEliminate heap coeffs payloads).2 = .failed error ∧
        error.isRankDeficient = true) ∧ (∀ address < heap.cells.length,
      (gaussianEliminate heap coeffs payloads).1.buffer address = heap.buffer address) ∧
    (gaussianEliminate heap coeffs payloads).2 ≠ .panicked := by
  refine ⟨GF256.ofByte_gfMul, ?_⟩
  obtain ⟨after, kept, ⟨less, error, ended, deficient⟩ |
    ⟨full, result, ended, _, solved⟩⟩ := system.eliminated
  · rw [ended]
    refine ⟨?_, ?_, kept, by simp⟩
    · intro full
      omega
    intro _
    exact ⟨error, rfl, deficient⟩
  rw [ended]
  refine ⟨?_, ?_, kept, by simp⟩
  · intro _ X solves
    exact ⟨result, rfl, solved X solves⟩
  intro less
  omega

/-- Two packets that are the segments themselves, and two that carry nothing. -/
theorem gaussianEliminate_unit_packets : (∃ result,
      (gaussianEliminate ⟨[[1, 0, 0, 1], [5], [7]]⟩ ⟨2, 2, 0⟩ [1, 2]).2 = .returned result ∧
      result.map (gaussianEliminate ⟨[[1, 0, 0, 1], [5], [7]]⟩ ⟨2, 2, 0⟩ [1, 2]).1.buffer =
        [[5], [7]]) ∧ ∃ error, (gaussianEliminate ⟨[[0, 0, 0, 0], [0], [0]]⟩ ⟨2, 2, 0⟩ [1, 2]).2 =
        .failed error ∧ error.isRankDeficient = true := by
  constructor
  · have system : LinearSystem ⟨[[1, 0, 0, 1], [5], [7]]⟩ ⟨2, 2, 0⟩ [1, 2] 1 :=
      ⟨by decide, by decide, by decide, by decide, by decide⟩
    have identity : coefficients ⟨[[1, 0, 0, 1], [5], [7]]⟩ ⟨2, 2, 0⟩ =
        (1 : Matrix (Fin 2) (Fin 2) GF256) := by
      ext i c
      fin_cases i <;> fin_cases c <;>
        simp [coefficients, GFMatrix.get, Buffers.read, Buffers.buffer]
    have full : (coefficients ⟨[[1, 0, 0, 1], [5], [7]]⟩ ⟨2, 2, 0⟩).rank = 2 := by
      rw [identity, Matrix.rank_one, Fintype.card_fin]
    have solves : Solution ⟨[[1, 0, 0, 1], [5], [7]]⟩ ⟨2, 2, 0⟩ [1, 2] 1
        (fun c _ => if c.val = 0 then 5 else 7) := by
      intro i j
      rw [identity]
      fin_cases i <;> fin_cases j <;> simp [Matrix.one_apply, Buffers.read, Buffers.buffer]
    exact (gaussianEliminate_correct _ _ _ _ system).2.1 full _ solves
  have system : LinearSystem ⟨[[0, 0, 0, 0], [0], [0]]⟩ ⟨2, 2, 0⟩ [1, 2] 1 :=
    ⟨by decide, by decide, by decide, by decide, by decide⟩
  have zero : coefficients ⟨[[0, 0, 0, 0], [0], [0]]⟩ ⟨2, 2, 0⟩ =
      (0 : Matrix (Fin 2) (Fin 2) GF256) := by
    ext i c
    fin_cases i <;> fin_cases c <;>
      simp [coefficients, GFMatrix.get, Buffers.read, Buffers.buffer]
  have deficient : (coefficients ⟨[[0, 0, 0, 0], [0], [0]]⟩ ⟨2, 2, 0⟩).rank < 2 := by
    rw [zero, Matrix.rank_zero]
    decide
  exact (gaussianEliminate_correct _ _ _ _ system).2.2.1 deficient

end MeshSat.Routing
