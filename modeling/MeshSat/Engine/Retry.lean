import Mathlib

/-!
# The wait before the next try

The wait of a failed delivery is computed in 64-bit nanoseconds and cut to the channel's maximum at
the end, when a product may have wrapped.
-/

namespace MeshSat.Engine

/-- How the wait grows with the tries; any text but the first two is linear. -/
inductive BackoffFunc
  | isu | exponential | linear

structure RetryConfig where
  (initialWait maxWait : Int)
  backoffFunc : BackoffFunc

/-- A duration, in 64 bits. -/
def wrap64 (duration : Int) : Int := duration.bmod (2 ^ 64)

namespace RetryConfig

def second : Int := 1000000000

def minute : Int := 60 * second

variable (c : RetryConfig)

/-- The wait before it is cut to the maximum. -/
def backoff (initial : Int) (retries : Nat) : Int :=
  match c.backoffFunc with
  | .isu => if initial < 3 * minute then 3 * minute else initial
  | .exponential => (fun wait => wrap64 (wait * 2))^[retries - 1] initial
  | .linear => wrap64 (initial * retries)

/-- What is added to the clock. -/
def calculateNextRetry (retries : Nat) : Int :=
  let initial := if c.initialWait = 0 then 5 * second else c.initialWait
  let maxWait := if c.maxWait = 0 then 5 * minute else c.maxWait
  let wait := c.backoff initial retries
  if wait > maxWait then maxWait else wait

/-- The wait in integers that do not wrap. -/
def unwrapped (retries : Nat) : Int :=
  match c.backoffFunc with
  | .isu => max c.initialWait (3 * minute)
  | .exponential => c.initialWait * 2 ^ (retries - 1)
  | .linear => c.initialWait * retries

/-- The wait is positive, within the maximum and no shorter than for a smaller count. -/
def InRange (retries : Nat) : Prop :=
  0 < c.calculateNextRetry retries ∧ c.calculateNextRetry retries ≤ c.maxWait ∧
    ∀ fewer, 1 ≤ fewer → fewer ≤ retries → c.calculateNextRetry fewer ≤ c.calculateNextRetry retries

lemma wrap64_eq (positive : 0 < wait) (fits : wait < 2 ^ 63) : wrap64 wait = wait :=
  Int.bmod_eq_of_le (by omega) (by omega)

lemma wrap64_neg (wrapped : 2 ^ 63 ≤ wait) (once : wait < 2 ^ 64) : wrap64 wait < 0 := by
  rw [wrap64, Int.bmod_def]
  split <;> omega

section

variable {c} (initial : 0 < c.initialWait) (fits : c.initialWait < 2 ^ 63) {fewer retries : Nat}

include initial fits

lemma backoff_eq (retries : Nat) :
    c.backoff c.initialWait retries = wrap64 (c.unwrapped retries) := by
  unfold backoff unwrapped
  cases c.backoffFunc with
  | isu =>
    have : 3 * minute < 2 ^ 63 := by decide
    dsimp only
    rw [wrap64_eq (by omega) (by omega)]
    split <;> omega
  | exponential =>
    dsimp only
    induction retries - 1 with
    | zero => rw [pow_zero, mul_one, wrap64_eq initial fits]; rfl
    | succ count induction =>
      rw [Function.iterate_succ_apply', induction, wrap64, wrap64, Int.bmod_mul_bmod, pow_succ,
        mul_assoc]
      rfl
  | linear => rfl

/-- With both waits given, the defaults are not read. -/
lemma calculateNextRetry_eq (longest : 0 < c.maxWait) (retries : Nat) :
    c.calculateNextRetry retries = min (wrap64 (c.unwrapped retries)) c.maxWait := by
  simp only [calculateNextRetry, if_neg initial.ne', if_neg longest.ne', backoff_eq initial fits]
  split <;> omega

lemma unwrapped_one : 0 < c.unwrapped 1 ∧ c.unwrapped 1 < 2 ^ 63 := by
  have : 3 * minute < 2 ^ 63 := by decide
  unfold unwrapped
  cases c.backoffFunc <;> dsimp only <;> omega

omit fits in
lemma unwrapped_succ (tried : 1 ≤ retries) : c.unwrapped retries ≤ c.unwrapped (retries + 1) ∧
    c.unwrapped (retries + 1) ≤ 2 * c.unwrapped retries := by
  obtain ⟨before, rfl⟩ := Nat.exists_eq_add_of_le' tried
  unfold unwrapped
  cases c.backoffFunc with
  | isu => dsimp only; omega
  | exponential =>
    have := Int.mul_pos initial (pow_pos (by decide : (0 : Int) < 2) before)
    simp only [Nat.add_sub_cancel, pow_succ]
    rw [← mul_assoc]
    omega
  | linear =>
    have := Int.mul_nonneg initial.le (Int.natCast_nonneg before)
    push_cast
    simp only [mul_add, mul_one]
    omega

omit fits in
lemma unwrapped_mono (tried : 1 ≤ fewer) (order : fewer ≤ retries) :
    c.unwrapped fewer ≤ c.unwrapped retries := by
  induction retries, order using Nat.le_induction with
  | base => exact le_rfl
  | succ retries order induction =>
    exact induction.trans (unwrapped_succ initial (tried.trans order)).1

/-- The waits of the counts up to `retries` are in range exactly when the last does not wrap. -/
theorem backoff_in_range_iff (longest : 0 < c.maxWait) (tried : 1 ≤ retries) :
    (∀ count, 1 ≤ count → count ≤ retries → c.InRange count) ↔ c.unwrapped retries < 2 ^ 63 := by
  have first := unwrapped_one initial fits
  simp only [InRange, calculateNextRetry_eq initial fits longest]
  constructor
  · intro holds
    induction retries, tried using Nat.le_induction with
    | base => exact first.2
    | succ retries tried induction =>
      -- the count before does not wrap, so this one has wrapped at most once, below zero
      have before := induction fun count low high => holds count low (by omega)
      have := (unwrapped_succ initial tried).2
      have positive := (lt_min_iff.mp (holds (retries + 1) (by omega) le_rfl).1).1
      by_contra wraps
      exact absurd positive (wrap64_neg (by omega) (by omega)).not_gt
  · intro last count low high
    have positive (count : Nat) (low : 1 ≤ count) : 0 < c.unwrapped count :=
      first.1.trans_le (unwrapped_mono initial le_rfl low)
    have whole (count : Nat) (low : 1 ≤ count) (high : count ≤ retries) :
        wrap64 (c.unwrapped count) = c.unwrapped count :=
      wrap64_eq (positive count low) ((unwrapped_mono initial low high).trans_lt last)
    rw [whole count low high]
    refine ⟨lt_min (positive count low) longest, min_le_right _ _, ?_⟩
    intro fewer start order
    rw [whole fewer start (order.trans high)]
    exact min_le_min_right _ (unwrapped_mono initial start order)

end

/-- The retries of the Iridium IMT channel. -/
def iridiumImt : RetryConfig := ⟨30 * second, 5 * minute, .exponential⟩

theorem backoff_in_range_ten : iridiumImt.InRange 10 :=
  (backoff_in_range_iff (by decide) (by decide) (by decide) (by decide)).mpr (by decide) 10
    (by decide) le_rfl

/-- A row queued to retry for ever: the thirtieth wait is negative, the sixty-fifth is nothing. -/
theorem backoff_wraps :
    iridiumImt.calculateNextRetry 30 < 0 ∧ iridiumImt.calculateNextRetry 65 = 0 := by
  decide +kernel

end RetryConfig

end MeshSat.Engine
