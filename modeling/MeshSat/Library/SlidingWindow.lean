import Mathlib.Data.Set.Insert

/-!
# A sliding window over an unbounded set

A window keeps the highest counter accepted and a mask: bit `i` tells whether
the counter `i` below the highest was accepted. It answers exactly for the
counters above it and inside it, and refuses what is below it. Counter 0 is
never accepted.
-/

namespace Library

structure SlidingWindow (width : Nat) where
  high : Nat
  mask : BitVec width

namespace SlidingWindow

variable {width : Nat}

def empty : SlidingWindow width where
  high := 0
  mask := 0

section
variable (window : SlidingWindow width) (counter : Nat)

def check : Bool :=
  if counter = 0 then false
  else if window.high < counter then true
  else if width ≤ window.high - counter then false
  else !window.mask.getLsbD (window.high - counter)

def mark : SlidingWindow width :=
  if counter = 0 then window
  else if window.high < counter then
    { high := counter
      mask := window.mask <<< (counter - window.high) ||| BitVec.ofNat width 1 }
  else
    { window with
      mask := window.mask ||| BitVec.ofNat width 1 <<< (window.high - counter) }

end

structure Represents (window : SlidingWindow width) (accepted : Set Nat) : Prop where
  positive : 0 ∉ accepted
  le_high : ∀ counter ∈ accepted, counter ≤ window.high
  high_mem : window.high = 0 ∨ window.high ∈ accepted
  bits : ∀ below < width, window.mask.getLsbD below = true ↔
    below < window.high ∧ window.high - below ∈ accepted

lemma represents_empty : (empty : SlidingWindow width).Represents ∅ where
  positive := Set.notMem_empty 0
  le_high _ member := member.elim
  high_mem := .inl rfl
  bits below _ := by simp [empty]

variable {window : SlidingWindow width} {accepted : Set Nat} {counter : Nat}

section
variable (represents : window.Represents accepted)

include represents

lemma Represents.check_iff : window.check counter = true ↔ counter ≠ 0 ∧ counter ∉ accepted ∧
    (window.high < counter ∨ window.high - counter < width) := by
  unfold check
  split
  next isZero => simp [isZero]
  next positive =>
  split
  next above =>
    have fresh : counter ∉ accepted := fun member =>
      not_lt.mpr (represents.le_high counter member) above
    simp [positive, above, fresh]
  next notAbove =>
  split
  next outside => simp [notAbove, not_lt.mpr outside]
  next inside =>
  have bit := represents.bits (window.high - counter) (not_le.mp inside)
  have named : window.high - (window.high - counter) = counter := by omega
  have lower : window.high - counter < window.high := by omega
  rw [named] at bit
  rw [Bool.not_eq_true', Bool.eq_false_iff, Ne, bit]
  simp [positive, lower, notAbove, not_le.mp inside]

lemma Represents.mark_above
    (above : window.high < counter) : (⟨counter, window.mask <<< (counter - window.high) |||
        BitVec.ofNat width 1⟩ : SlidingWindow width).Represents (insert counter accepted) where
  positive := by
    rintro (rfl | member)
    · exact Nat.not_lt_zero _ above
    · exact represents.positive member
  le_high other member := by
    rcases member with rfl | old
    · exact le_rfl
    · exact le_trans (represents.le_high other old) (above.le)
  high_mem := .inr (Set.mem_insert _ _)
  bits below inside := by
    dsimp only
    have bit : (window.mask <<< (counter - window.high) |||
        BitVec.ofNat width 1).getLsbD below = true ↔ below = 0 ∨ ¬ below < counter - window.high ∧
          window.mask.getLsbD (below - (counter - window.high)) = true := by
      rw [BitVec.getLsbD_or, BitVec.getLsbD_shiftLeft, BitVec.getLsbD_one]
      have nonempty : 0 < width := lt_of_le_of_lt (Nat.zero_le _) inside
      simp [inside, nonempty, or_comm]
    have old := represents.bits (below - (counter - window.high))
      (lt_of_le_of_lt (Nat.sub_le _ _) inside)
    rw [bit, old]
    constructor
    · rintro (rfl | ⟨shifted, lower, member⟩)
      · exact ⟨lt_of_le_of_lt (Nat.zero_le _) above, .inl rfl⟩
      have same : window.high - (below - (counter - window.high)) = counter - below := by omega
      exact ⟨by omega, .inr (same ▸ member)⟩
    rintro ⟨lower, new | member⟩
    · left
      omega
    have bounded := represents.le_high _ member
    have same : window.high - (below - (counter - window.high)) = counter - below := by omega
    exact .inr ⟨by omega, by omega, same.symm ▸ member⟩

lemma Represents.mark_below
    (positive : counter ≠ 0) (notAbove : counter ≤ window.high) : (⟨window.high, window.mask |||
        BitVec.ofNat width 1 <<< (window.high - counter)⟩ :
      SlidingWindow width).Represents (insert counter accepted) where
  positive := by
    rintro (isZero | member)
    · exact positive isZero.symm
    · exact represents.positive member
  le_high other member := by
    rcases member with rfl | old
    · exact notAbove
    · exact represents.le_high other old
  high_mem := represents.high_mem.imp_right (Set.mem_insert_of_mem _)
  bits below inside := by
    dsimp only
    have bit : (window.mask ||| BitVec.ofNat width 1 <<< (window.high - counter)).getLsbD below =
          true ↔ window.mask.getLsbD below = true ∨ below = window.high - counter := by
      rw [BitVec.getLsbD_or, BitVec.getLsbD_shiftLeft, BitVec.getLsbD_one]
      have nonempty : 0 < width := lt_of_le_of_lt (Nat.zero_le _) inside
      simp only [Bool.or_eq_true, inside, nonempty, decide_true,
        Bool.true_and, Bool.and_eq_true, Bool.not_eq_true',
        decide_eq_false_iff_not, decide_eq_true_eq]
      exact or_congr_right (by omega)
    rw [bit, represents.bits below inside]
    constructor
    · rintro (⟨lower, member⟩ | rfl)
      · exact ⟨lower, .inr member⟩
      · exact ⟨by omega, .inl (by omega)⟩
    rintro ⟨lower, new | member⟩
    · right
      omega
    · exact .inl ⟨lower, member⟩

/-- Marking a counter adds it to the set, whether or not it is in reach of the
window. -/
lemma Represents.mark (positive : counter ≠ 0) :
    (window.mark counter).Represents (insert counter accepted) := by
  unfold SlidingWindow.mark
  rw [if_neg positive]
  split
  next above => exact represents.mark_above above
  next notAbove =>
    exact represents.mark_below positive (not_lt.mp notAbove)

end

lemma le_high_mark (window : SlidingWindow width) (counter : Nat) :
    window.high ≤ (window.mark counter).high := by
  unfold mark
  split
  · exact le_rfl
  split
  next above => exact above.le
  · exact le_rfl

lemma Represents.high_eq (represents : window.Represents accepted)
    (le : ∀ counter ∈ accepted, counter ≤ highest)
    (member : highest = 0 ∨ highest ∈ accepted) : window.high = highest := by
  apply Nat.le_antisymm
  · rcases represents.high_mem with isZero | own
    · rw [isZero]
      exact Nat.zero_le _
    · exact le _ own
  rcases member with isZero | own
  · rw [isZero]
    exact Nat.zero_le _
  · exact represents.le_high _ own

end SlidingWindow

end Library
