import Mathlib.Logic.Equiv.Basic
import Mathlib.Data.List.Basic

/-!
# Buffers by address

A store of buffers that programs allocate, read and overwrite in place. The
loops here rewrite one buffer element by element; each has one lemma for the
elements it rewrites and one for the buffers it leaves alone.
-/

variable {other : Nat}

namespace Library

open List

variable {α : Type*}

/-- The allocated buffers, the address of each being its position. -/
structure Buffers (α : Type*) where
  cells : List (List α)

namespace Buffers

def buffer (store : Buffers α) (address : Nat) : List α := store.cells.getD address []

def read [Inhabited α] (store : Buffers α) (address index : Nat) : α :=
  (store.buffer address).getD index default

def write (store : Buffers α) (address index : Nat) (value : α) : Buffers α :=
  ⟨store.cells.set address ((store.buffer address).set index value)⟩

def make [Inhabited α] (store : Buffers α) (count : Nat) : Buffers α × Nat :=
  (⟨store.cells ++ [List.replicate count default]⟩, store.cells.length)

def copy (store : Buffers α) (target source : Nat) : Buffers α :=
  ⟨store.cells.set target ((store.buffer source).take (store.buffer target).length ++
      (store.buffer target).drop (store.buffer source).length)⟩

def combine [Inhabited α] (op : α → α → α)
    (address base other otherBase count : Nat) (store : Buffers α) : Buffers α :=
  (List.range count).foldl (fun store i =>
      store.write address (base + i)
        (op (store.read address (base + i)) (store.read other (otherBase + i)))) store

def swap [Inhabited α] (store : Buffers α) (address i j : Nat) : Buffers α :=
  (store.write address i (store.read address j)).write address j (store.read address i)

def swapRange [Inhabited α] (address base otherBase count : Nat) (store : Buffers α) : Buffers α :=
  (List.range count).foldl (fun store i => store.swap address (base + i) (otherBase + i)) store

/-! ## Single operations -/

section
variable (store : Buffers α)

include store

lemma buffer_write_of_ne (different : other ≠ address) (index : Nat)
    (value : α) : (store.write address index value).buffer other = store.buffer other := by
  simp [write, buffer, getD_eq_getElem?_getD, List.getElem?_set_ne different.symm]

lemma buffer_write (address index : Nat) (value : α) :
    (store.write address index value).buffer address = (store.buffer address).set index value := by
  by_cases allocated : address < store.cells.length
  · simp [write, buffer, getD_eq_getElem?_getD, allocated]
  have missing : store.cells.length ≤ address := Nat.le_of_not_lt allocated
  simp [write, buffer, getD_eq_getElem?_getD, missing]

@[simp] lemma length_buffer_write (address index other : Nat) (value : α) :
    ((store.write address index value).buffer other).length = (store.buffer other).length := by
  by_cases same : other = address
  · rw [same, buffer_write, length_set]
  · rw [buffer_write_of_ne store same]

lemma buffer_copy_of_ne (different : address ≠ target) (source : Nat) :
    (store.copy target source).buffer address = store.buffer address := by
  simp [copy, buffer, getD_eq_getElem?_getD, List.getElem?_set_ne different.symm]

@[simp] lemma length_cells_copy (target source : Nat) :
    (store.copy target source).cells.length = store.cells.length := by
  simp [copy]

lemma buffer_copy (allocated : target < store.cells.length)
    (same : (store.buffer target).length = (store.buffer source).length) :
    (store.copy target source).buffer target = store.buffer source := by
  rw [buffer, copy, getD_eq_getElem?_getD,
    List.getElem?_set_self allocated, Option.getD_some, same, take_length,
    ← same, drop_length, append_nil]

end

variable [Inhabited α]
variable {address base otherBase elsewhere : Nat}

lemma read_write (store : Buffers α)
    (inside : index < (store.buffer address).length) (value : α) (other position : Nat) :
    (store.write address index value).read other position =
      if other = address ∧ position = index then value else store.read other position := by
  rw [read, read]
  by_cases same : other = address
  · subst same
    rw [buffer_write, getD_eq_getElem?_getD, getD_eq_getElem?_getD]
    by_cases here : position = index
    · subst here
      rw [List.getElem?_set_self inside, if_pos ⟨rfl, rfl⟩, Option.getD_some]
    rw [List.getElem?_set_ne (Ne.symm here), if_neg]
    exact fun both => here both.2
  rw [buffer_write_of_ne store same, if_neg]
  exact fun both => same both.1

section
variable (store : Buffers α) (count : Nat)

include store count

lemma buffer_make (allocated : address < store.cells.length) :
    (store.make count).1.buffer address = store.buffer address := by
  simp [make, buffer, getD_eq_getElem?_getD, List.getElem?_append_left allocated]

@[simp] lemma buffer_make_new :
    (store.make count).1.buffer (store.make count).2 = List.replicate count default := by
  simp [make, buffer, getD_eq_getElem?_getD]

@[simp] lemma length_cells_make : (store.make count).1.cells.length = store.cells.length + 1 := by
  simp [make]

lemma make_address : (store.make count).2 = store.cells.length :=
  rfl

end

/-! ## Loops -/

section
variable (op : α → α → α)

lemma combine_succ (address base other otherBase count : Nat) (store : Buffers α) :
    combine op address base other otherBase (count + 1) store =
      (combine op address base other otherBase count store).write address (base + count)
        (op ((combine op address base other otherBase count store).read address (base + count))
          ((combine op address base other otherBase count store).read other
            (otherBase + count))) := by
  rw [combine, combine, range_succ, foldl_append, foldl_cons, foldl_nil]

lemma buffer_combine_of_ne (count : Nat) (store : Buffers α) (different : elsewhere ≠ address) :
    (combine op address base other otherBase count store).buffer elsewhere =
    store.buffer elsewhere := by
  induction count with
  | zero => rfl
  | succ count induction => rw [combine_succ, buffer_write_of_ne _ different, induction]

@[simp] lemma length_buffer_combine
    (address base other otherBase count : Nat) (store : Buffers α) (elsewhere : Nat) :
    ((combine op address base other otherBase count store).buffer
      elsewhere).length = (store.buffer elsewhere).length := by
  induction count with
  | zero => rfl
  | succ count induction => rw [combine_succ, length_buffer_write, induction]

lemma read_combine (store : Buffers α) {count : Nat}
    (room : base + count ≤ (store.buffer address).length)
    (apart : other = address → ∀ i < count, ∀ j < i, otherBase + i ≠ base + j)
    (elsewhere position : Nat) : (combine op address base other otherBase count store).read
        elsewhere position = if elsewhere = address ∧ base ≤ position ∧ position < base + count then
        op (store.read address position) (store.read other (otherBase + (position - base)))
      else store.read elsewhere position := by
  induction count generalizing elsewhere position with
  | zero =>
    rw [if_neg]
    · rfl
    rintro ⟨_, lower, upper⟩
    omega
  | succ count induction =>
    have earlier := induction (by omega) (fun same i inside => apart same i (by omega))
    have room' : base + count < ((combine op address base other otherBase
        count store).buffer address).length := by
      rw [length_buffer_combine]
      omega
    rw [combine_succ, read_write _ room', earlier address (base + count),
      earlier other (otherBase + count), earlier elsewhere position]
    have own : ¬ (address = address ∧ base ≤ base + count ∧ base + count < base + count) := by
      rintro ⟨_, _, upper⟩
      omega
    have source : ¬ (other = address ∧ base ≤ otherBase + count ∧
        otherBase + count < base + count) := by
      rintro ⟨same, lower, upper⟩
      apply apart same count (by omega) (otherBase + count - base) (by omega)
      omega
    rw [if_neg own, if_neg source]
    by_cases here : elsewhere = address ∧ position = base + count
    · obtain ⟨rfl, rfl⟩ := here
      rw [if_pos ⟨rfl, rfl⟩, if_pos ⟨rfl, by omega, by omega⟩, Nat.add_sub_cancel_left]
    rw [if_neg here]
    by_cases covered : elsewhere = address ∧ base ≤ position ∧ position < base + count
    · rw [if_pos covered, if_pos ⟨covered.1, covered.2.1, by omega⟩]
    rw [if_neg covered, if_neg]
    rintro ⟨same, lower, upper⟩
    have last : position ≠ base + count := fun last => here ⟨same, last⟩
    exact covered ⟨same, lower, by omega⟩

end

section
variable (store : Buffers α)

lemma buffer_swap_of_ne (different : elsewhere ≠ address) (i j : Nat) :
    (store.swap address i j).buffer elsewhere = store.buffer elsewhere := by
  rw [swap, buffer_write_of_ne _ different, buffer_write_of_ne _ different]

@[simp] lemma length_buffer_swap (address i j elsewhere : Nat) :
    ((store.swap address i j).buffer elsewhere).length = (store.buffer elsewhere).length := by
  rw [swap, length_buffer_write, length_buffer_write]

lemma read_swap (first : i < (store.buffer address).length)
    (second : j < (store.buffer address).length) (position : Nat) :
    (store.swap address i j).read address position =
    store.read address (Equiv.swap i j position) := by
  have second' : j < ((store.write address i (store.read address j)).buffer address).length := by
    rwa [length_buffer_write]
  rw [swap, read_write _ second', read_write _ first]
  by_cases right : position = j
  · rw [if_pos ⟨rfl, right⟩, right, Equiv.swap_apply_right]
  rw [if_neg (fun both => right both.2)]
  by_cases left : position = i
  · rw [if_pos ⟨rfl, left⟩, left, Equiv.swap_apply_left]
  · rw [if_neg (fun both => left both.2), Equiv.swap_apply_of_ne_of_ne left right]

end

lemma swapRange_succ (address base otherBase count : Nat) (store : Buffers α) :
    swapRange address base otherBase (count + 1) store =
      (swapRange address base otherBase count store).swap address
        (base + count) (otherBase + count) := by
  rw [swapRange, swapRange, range_succ, foldl_append, foldl_cons, foldl_nil]

lemma buffer_swapRange_of_ne (count : Nat) (store : Buffers α) (different : elsewhere ≠ address) :
    (swapRange address base otherBase count store).buffer elsewhere = store.buffer elsewhere := by
  induction count with
  | zero => rfl
  | succ count induction => rw [swapRange_succ, buffer_swap_of_ne _ different, induction]

@[simp] lemma length_buffer_swapRange (address base otherBase count : Nat)
    (store : Buffers α) (elsewhere : Nat) :
    ((swapRange address base otherBase count store).buffer elsewhere).length =
      (store.buffer elsewhere).length := by
  induction count with
  | zero => rfl
  | succ count induction => rw [swapRange_succ, length_buffer_swap, induction]

lemma read_swapRange (store : Buffers α) {count : Nat}
    (room : base + count ≤ (store.buffer address).length)
    (otherRoom : otherBase + count ≤ (store.buffer address).length)
    (apart : ∀ i < count, ∀ j < count, base + i ≠ otherBase + j) (position : Nat) :
    (swapRange address base otherBase count store).read address position = store.read address
        (if base ≤ position ∧ position < base + count then
          otherBase + (position - base)
        else if otherBase ≤ position ∧ position < otherBase + count then
          base + (position - otherBase)
        else position) := by
  induction count generalizing position with
  | zero =>
    rw [if_neg (by omega), if_neg (by omega)]
    rfl
  | succ count induction =>
    have earlier := induction (by omega) (by omega)
      (fun i inside j within => apart i (by omega) j (by omega))
    rw [swapRange_succ, read_swap _ (by rw [length_buffer_swapRange]; omega)
      (by rw [length_buffer_swapRange]; omega), earlier]
    congr 1
    by_cases left : position = base + count
    · subst left
      have outside : ¬ (base ≤ otherBase + count ∧ otherBase + count < base + count) := by
        rintro ⟨lower, upper⟩
        apply apart (otherBase + count - base) (by omega) count (by omega)
        omega
      rw [Equiv.swap_apply_left, if_neg outside, if_neg (by omega), if_pos (by omega)]
      omega
    by_cases right : position = otherBase + count
    · subst right
      have outside : ¬ (otherBase ≤ base + count ∧ base + count < otherBase + count) := by
        rintro ⟨lower, upper⟩
        apply apart count (by omega) (base + count - otherBase) (by omega)
        omega
      have before : ¬ (base ≤ otherBase + count ∧ otherBase + count < base + (count + 1)) := by
        rintro ⟨lower, upper⟩
        apply apart (otherBase + count - base) (by omega) count (by omega)
        omega
      rw [Equiv.swap_apply_right, if_neg (by omega), if_neg outside,
        if_neg before, if_pos (by omega)]
      omega
    rw [Equiv.swap_apply_of_ne_of_ne left right]
    have first : (base ≤ position ∧ position < base + (count + 1)) ↔
        (base ≤ position ∧ position < base + count) := by omega
    have second : (otherBase ≤ position ∧ position < otherBase + (count + 1)) ↔
          (otherBase ≤ position ∧ position < otherBase + count) := by
      omega
    simp only [first, second]

end Buffers

end Library
