import MeshSat.Library.SlidingWindow
import MeshSat.Library.TransitionSystem

/-!
# The replay window

A peer's receive window is a 32-bit counter and a 64-bit mask, and stands for
the set of all counters marked. The specification keeps that set.
-/

namespace MeshSat.Oob

open Library TransitionSystem

def windowSize : UInt32 := 64

/-- Bit `i` of the bitmap is set when counter `high - i` was accepted. -/
structure Window where
  high : UInt32 := 0
  bitmap : UInt64 := 0
  deriving DecidableEq

namespace Window

def check (w : Window) (ctr : UInt32) : Bool :=
  if ctr = 0 then false
  else if ctr > w.high then true
  else
    let diff := w.high - ctr
    if diff ≥ windowSize then false
    else w.bitmap &&& ((1 : UInt64) <<< diff.toUInt64) = 0

def mark (w : Window) (ctr : UInt32) : Window :=
  if ctr = 0 then w
  else if ctr > w.high then
    let shift := ctr - w.high
    { high := ctr
      bitmap := (if shift ≥ windowSize then 0 else w.bitmap <<< shift.toUInt64) ||| 1 }
  else
    let diff := w.high - ctr
    if diff < windowSize then
      { w with bitmap := w.bitmap ||| (1 : UInt64) <<< diff.toUInt64 }
    else w

/-! ## The window as a sliding window -/

def view (w : Window) : SlidingWindow 64 where
  high := w.high.toNat
  mask := w.bitmap.toBitVec

lemma toBitVec_shiftLeft {bits : UInt64} {shift : UInt32} (small : shift.toNat < 64) :
    (bits <<< shift.toUInt64).toBitVec = bits.toBitVec <<< shift.toNat := by
  rw [UInt64.toBitVec_shiftLeft, BitVec.shiftLeft_eq']
  congr 1
  simp [Nat.mod_eq_of_lt small]

lemma and_bit_eq_zero (inside : below < 64) :
    bits &&& BitVec.ofNat 64 1 <<< below = 0 ↔ bits.getLsbD below = false := by
  constructor
  · intro none
    have bit := congrArg (fun mask => mask.getLsbD below) none
    simpa [inside] using bit
  intro clear
  apply BitVec.eq_of_getLsbD_eq
  intro i _
  by_cases same : i = below
  · subst same
    simp [clear]
  simp
  omega

variable {ctr : UInt32}

lemma toNat_eq_zero : ctr.toNat = 0 ↔ ctr = 0 :=
  ⟨fun same => UInt32.toNat_inj.mp same, fun same => same ▸ rfl⟩

lemma windowSize_le : diff ≥ windowSize ↔ 64 ≤ diff.toNat := UInt32.le_iff_toNat_le

lemma lt_windowSize : diff < windowSize ↔ diff.toNat < 64 := UInt32.lt_iff_toNat_lt

lemma high_lt {w : Window} : w.view.high < ctr.toNat ↔ ctr > w.high := UInt32.lt_iff_toNat_lt.symm

lemma toNat_diff {w : Window} (notAbove : ¬ ctr > w.high) :
    (w.high - ctr).toNat = w.view.high - ctr.toNat :=
  UInt32.toNat_sub_of_le _ _ (UInt32.not_lt.mp notAbove)

lemma check_eq (w : Window) (ctr : UInt32) : w.check ctr = w.view.check ctr.toNat := by
  unfold check SlidingWindow.check
  dsimp only
  by_cases isZero : ctr = 0
  · rw [if_pos isZero, if_pos (toNat_eq_zero.mpr isZero)]
  rw [if_neg isZero, if_neg (mt toNat_eq_zero.mp isZero)]
  by_cases above : ctr > w.high
  · rw [if_pos above, if_pos (high_lt.mpr above)]
  rw [if_neg above, if_neg (mt high_lt.mp above)]
  have diff := toNat_diff above
  by_cases outside : w.high - ctr ≥ windowSize
  · rw [if_pos outside, if_pos (diff ▸ windowSize_le.mp outside)]
  have inside := mt windowSize_le.mpr outside
  rw [if_neg outside, if_neg (diff ▸ inside), ← diff]
  have small := not_le.mp inside
  rw [Bool.eq_iff_iff, decide_eq_true_eq, Bool.not_eq_true',
    ← UInt64.toBitVec_inj, UInt64.toBitVec_and, toBitVec_shiftLeft small]
  exact and_bit_eq_zero small

lemma view_mark (w : Window) (ctr : UInt32) : (w.mark ctr).view = w.view.mark ctr.toNat := by
  unfold mark SlidingWindow.mark
  dsimp only
  by_cases isZero : ctr = 0
  · rw [if_pos isZero, if_pos (toNat_eq_zero.mpr isZero)]
  rw [if_neg isZero, if_neg (mt toNat_eq_zero.mp isZero)]
  by_cases above : ctr > w.high
  · have shift : (ctr - w.high).toNat = ctr.toNat - w.view.high :=
      UInt32.toNat_sub_of_le _ _ (UInt32.le_of_lt above)
    rw [if_pos above, if_pos (high_lt.mpr above), ← shift]
    simp only [view, UInt64.toBitVec_or]
    congr 2
    split
    next far =>
      exact (BitVec.shiftLeft_eq_zero (windowSize_le.mp far)).symm
    rename_i far
    exact toBitVec_shiftLeft (not_le.mp (mt windowSize_le.mpr far))
  rw [if_neg above, if_neg (mt high_lt.mp above), ← toNat_diff above]
  by_cases inside : w.high - ctr < windowSize
  · have small := lt_windowSize.mp inside
    rw [if_pos inside]
    simp only [view, UInt64.toBitVec_or, toBitVec_shiftLeft small]
    rfl
  -- A counter below the window changes nothing, here as there.
  have outside := windowSize_le.mp (UInt32.not_lt.mp inside)
  rw [if_neg inside, BitVec.shiftLeft_eq_zero outside, BitVec.or_zero]

end Window

/-! ## The specification -/

def highest (marked : List UInt32) : UInt32 := marked.foldr max 0

/-- A counter is acceptable when it is new, and above the highest or at most
the window below it. -/
def acceptable (marked : List UInt32) (ctr : UInt32) : Bool :=
  ctr ≠ 0 && !marked.contains ctr && (highest marked < ctr || highest marked - ctr < windowSize)

lemma highest_cons (head : UInt32) (tail : List UInt32) : highest (head :: tail) =
      if head ≤ highest tail then highest tail else head := rfl

lemma le_highest (member : ctr ∈ marked) : ctr ≤ highest marked := by
  induction marked with
  | nil => cases member
  | cons head tail induction =>
    rw [highest_cons]
    rcases List.mem_cons.mp member with rfl | old
    · split
      · assumption
      · exact UInt32.le_refl _
    split
    · exact induction old
    next above =>
      exact UInt32.le_trans (induction old) (UInt32.le_of_lt (UInt32.not_le.mp above))

lemma highest_mem (marked : List UInt32) : highest marked = 0 ∨ highest marked ∈ marked := by
  induction marked with
  | nil => exact .inl rfl
  | cons head tail induction =>
    rw [highest_cons]
    split
    · exact induction.imp_right (List.mem_cons_of_mem _)
    · exact .inr List.mem_cons_self

def Window.Holds (w : Window) (marked : List UInt32) : Prop :=
  w.view.Represents {n | ∃ ctr ∈ marked, ctr.toNat = n}

namespace Window.Holds

variable {w : Window} {marked : List UInt32}

lemma fresh : Window.Holds {} [] := by
  have none : {n | ∃ ctr ∈ ([] : List UInt32), ctr.toNat = n} = ∅ := by
    ext n
    simp
  unfold Window.Holds
  rw [none]
  exact SlidingWindow.represents_empty

section
variable (holds : w.Holds marked)

include holds

lemma mark (positive : ctr ≠ 0) : (w.mark ctr).Holds (ctr :: marked) := by
  have more : {n | ∃ other ∈ ctr :: marked, other.toNat = n} =
      insert ctr.toNat {n | ∃ other ∈ marked, other.toNat = n} := by
    ext n
    simp [eq_comm]
  unfold Window.Holds
  rw [more, view_mark]
  exact SlidingWindow.Represents.mark holds (mt toNat_eq_zero.mp positive)

lemma high_eq : w.high = highest marked := by
  apply UInt32.toNat_inj.mp
  apply SlidingWindow.Represents.high_eq holds
  · rintro _ ⟨ctr, member, rfl⟩
    exact UInt32.le_iff_toNat_le.mp (le_highest member)
  rcases highest_mem marked with isZero | member
  · exact .inl (toNat_eq_zero.mpr isZero)
  · exact .inr ⟨_, member, rfl⟩

lemma check_eq (ctr : UInt32) : w.check ctr = acceptable marked ctr := by
  have member : ctr.toNat ∈ {n | ∃ other ∈ marked, other.toNat = n} ↔ ctr ∈ marked := by
    constructor
    · rintro ⟨other, listed, same⟩
      exact UInt32.toNat_inj.mp same ▸ listed
    intro listed
    exact ⟨ctr, listed, rfl⟩
  have reach : (w.view.high < ctr.toNat ∨ w.view.high - ctr.toNat < 64) ↔
      (w.high < ctr ∨ w.high - ctr < windowSize) := by
    rw [high_lt]
    by_cases above : ctr > w.high
    · simp [above]
    refine or_congr_right ?_
    rw [← toNat_diff above]
    exact lt_windowSize.symm
  rw [Bool.eq_iff_iff, Window.check_eq,
    SlidingWindow.Represents.check_iff holds, member, reach, holds.high_eq]
  simp [acceptable, toNat_eq_zero, and_assoc]

end

end Window.Holds

/-! ## Calls -/

inductive WindowCall where
  | check (ctr : UInt32)
  | mark (ctr : UInt32)

/-- A guard in use: what is kept of the counters, those that a check allowed,
those marked, and the answers given. -/
structure Guarded (σ : Type) where
  kept : σ
  allowed : List UInt32 := []
  marked : List UInt32 := []
  answers : List (UInt32 × Bool) := []

/-- A counter is marked only after a check allowed it. -/
def callGuard {σ : Type} (check : σ → UInt32 → Bool) (mark : σ → UInt32 → σ)
    (s : Guarded σ) : WindowCall → Option (Guarded σ)
  | .check ctr => some { s with
      allowed := if check s.kept ctr then ctr :: s.allowed else s.allowed
      answers := (ctr, check s.kept ctr) :: s.answers }
  | .mark ctr =>
    if s.allowed.contains ctr then some { s with
      kept := mark s.kept ctr
      marked := ctr :: s.marked }
    else none

def windowSystem : TransitionSystem (Guarded Window) WindowCall where
  initial := { kept := {} }
  exec := callGuard Window.check Window.mark

/-- The specification keeps the full set of marked counters. -/
def acceptedSystem : TransitionSystem (Guarded (List UInt32)) WindowCall where
  initial := { kept := [] }
  exec := callGuard acceptable fun marked ctr => ctr :: marked

/-- The same calls and answers, with the full set. -/
def Guarded.accepted (s : Guarded Window) : Guarded (List UInt32) :=
  { s with kept := s.marked }

structure Guarded.Exact (s : Guarded Window) : Prop where
  holds : s.kept.Holds s.marked
  allowed : ∀ ctr ∈ s.allowed, ctr ≠ 0

lemma Guarded.Exact.step (exact : s.Exact) (executed : windowSystem.exec s call = some next) :
    next.Exact ∧ acceptedSystem.exec s.accepted call = some next.accepted := by
  cases call with
  | check ctr =>
    cases executed
    have same := exact.holds.check_eq ctr
    refine ⟨⟨exact.holds, fun other member => ?_⟩, ?_⟩
    · dsimp only at member
      split at member
      next allowed =>
        rcases List.mem_cons.mp member with rfl | old
        · rintro rfl
          cases allowed
        · exact exact.allowed other old
      · exact exact.allowed other member
    · simp only [acceptedSystem, callGuard, Guarded.accepted, ← same]
  | mark ctr =>
    simp only [windowSystem, callGuard, Option.ite_none_right_eq_some] at executed
    obtain ⟨allowed, same⟩ := executed
    cases same
    have positive := exact.allowed ctr (by simpa using allowed)
    refine ⟨⟨exact.holds.mark positive, exact.allowed⟩, ?_⟩
    simp only [acceptedSystem, callGuard, Guarded.accepted]
    rw [if_pos allowed]

/-- The replay window is exact.

After any sequence of checks and marks on a fresh window in which a counter is
marked only after a check allowed it, the check allows a counter just when it
is not 0, was not marked, and is above the highest marked counter or within
the window below it. The same calls on the full set of marked counters give
the same answers. -/
theorem replay_window_exact {s : Guarded Window} (reachable : windowSystem.Reachable s) :
    (∀ ctr, s.kept.check ctr = true ↔ ctr ≠ 0 ∧ ctr ∉ s.marked ∧
      (highest s.marked < ctr ∨ highest s.marked - ctr < windowSize)) ∧
    acceptedSystem.Reachable s.accepted := by
  have initially : windowSystem.initial.Exact := ⟨.fresh, fun ctr member => by cases member⟩
  constructor
  · intro ctr
    have exact : s.Exact := reachable.invariant initially
      fun _ _ _ exact executed => (exact.step executed).1
    rw [exact.holds.check_eq]
    simp [acceptable, and_assoc]
  refine Reaches.simulates Guarded.accepted
    (fun _ _ _ exact _ executed => (exact.step executed).1) ?_ initially reachable
  intro state call next exact _ executed
  exact .inr ⟨call, trivial, (exact.step executed).2⟩

/-- A jump of more than the window, and a late counter. -/
theorem replay_window_exact_jump :
    let s := windowSystem.runFrom windowSystem.initial
      [.check 1, .check 100, .mark 1, .mark 100, .check 50, .mark 50]
    s.marked = [50, 100, 1] ∧ s.kept.check 36 = false ∧
      (s.kept.check 37 = true ↔ (37 : UInt32) ≠ 0 ∧ 37 ∉ s.marked ∧
        (highest s.marked < 37 ∨ highest s.marked - 37 < windowSize)) := by
  intro s
  have reachable : windowSystem.Reachable s := .of_runFrom (by decide)
  exact ⟨by decide, by decide, (replay_window_exact reachable).1 37⟩

end MeshSat.Oob
