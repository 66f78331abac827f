import Mathlib.Data.List.Basic

/-!
# Texts written as codes

A reader takes one code from the front of its input and gives the piece of
text that the code stands for. What a writer has put down is a sequence of
codes, each of which is read as its piece whatever follows it.
-/

namespace Library

open List

section
variable {α β ε : Type}

/-- Reads codes until the input ends; the reader is told the position it reads
from and returns the number of input items of the code. -/
def readAll (read : Nat → List α → Except ε (List β × Nat)) :
    Nat → Nat → List α → List β → Except ε (List β)
  | 0, _, _, text => .ok text
  | _ + 1, _, [], text => .ok text
  | fuel + 1, position, item :: items, text =>
    match read position (item :: items) with
    | .error error => .error error
    | .ok (piece, size) =>
      readAll read fuel (position + size) ((item :: items).drop size) (text ++ piece)

structure ReadsAs (read : Nat → List α → Except ε (List β × Nat))
    (code : List α) (piece : List β) : Prop where
  nonempty : code ≠ []
  reads : ∀ position rest, read position (code ++ rest) = .ok (piece, code.length)

/-- A sequence of codes and the text it stands for. -/
inductive Written (Code : List α → List β → Prop) : List α → List β → Prop where
  | empty : Written Code [] []
  | append {codes : List α} {text : List β} {code : List α} {piece : List β} :
      Written Code codes text → Code code piece → Written Code (codes ++ code) (text ++ piece)

variable {read : Nat → List α → Except ε (List β × Nat)}
variable {Code : List α → List β → Prop}

lemma ReadsAs.readAll_append {piece : List β} (readsAs : ReadsAs read code piece)
    (fuel position : Nat) (rest : List α) (text : List β) :
    readAll read (fuel + 1) position (code ++ rest) text =
    readAll read fuel (position + code.length) rest (text ++ piece) := by
  have reads := readsAs.reads position rest
  cases code with
  | nil => exact absurd rfl readsAs.nonempty
  | cons item items =>
    rw [cons_append] at reads ⊢
    rw [readAll, reads]
    dsimp only
    rw [← cons_append, drop_left]

section
variable {codes : List α} {text : List β} (written : Written Code codes text)

include written

section
variable (readsAs : ∀ {code piece}, Code code piece → ReadsAs read code piece)

include readsAs

lemma Written.readAll_append : ∃ steps ≤ codes.length, ∀ fuel position rest before,
    readAll read (fuel + steps) position (codes ++ rest) before =
    readAll read fuel (position + codes.length) rest (before ++ text) := by
  induction written with
  | empty => exact ⟨0, Nat.le_refl 0, fun fuel position rest before => by simp⟩
  | @append codes text code piece written coded induction =>
    obtain ⟨steps, few, passes⟩ := induction
    have long := length_pos_of_ne_nil (readsAs coded).nonempty
    refine ⟨steps + 1, by rw [length_append]; omega, ?_⟩
    intro fuel position rest before
    calc readAll read (fuel + (steps + 1)) position (codes ++ code ++ rest) before
        = readAll read (fuel + 1 + steps) position (codes ++ (code ++ rest))
            before := by
          rw [append_assoc, Nat.add_assoc, Nat.add_comm 1 steps]
      _ = readAll read (fuel + 1) (position + codes.length) (code ++ rest)
            (before ++ text) := passes _ _ _ _
      _ = readAll read fuel (position + codes.length + code.length) rest
            (before ++ text ++ piece) :=
          (readsAs coded).readAll_append _ _ _ _
      _ = _ := by
          rw [length_append, Nat.add_assoc, append_assoc]

lemma Written.readAll_eq (position : Nat) :
    readAll read codes.length position codes [] = .ok text := by
  obtain ⟨steps, few, passes⟩ := written.readAll_append readsAs
  have passed := passes (codes.length - steps) position [] []
  rw [Nat.sub_add_cancel few, append_nil, nil_append] at passed
  rw [passed]
  cases codes.length - steps <;> rfl

end

lemma Written.length_le (bound : ∀ {code piece}, Code code piece →
    code.length ≤ factor * piece.length) : codes.length ≤ factor * text.length := by
  induction written with
  | empty => simp
  | append written coded induction =>
    have more := bound coded
    rw [length_append, length_append, Nat.mul_add]
    omega

end

end

end Library
