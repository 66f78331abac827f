import Mathlib.Tactic.Ring

/-!
# Numbers as bytes

Numbers of a fixed width written as bytes, least significant first or last,
and read back; arrays of bytes of a fixed length; and a long text cut into
pieces of one size and joined again.
-/

namespace Library

open List

/-- The lowest `width` bytes of a number, least significant first. -/
def bytesLE : Nat → Nat → List UInt8
  | 0, _ => []
  | width + 1, n => UInt8.ofNat n :: bytesLE width (n / 256)

def valueLE : List UInt8 → Nat
  | [] => 0
  | byte :: bytes => byte.toNat + 256 * valueLE bytes

/-- The lowest `width` bytes of a number, most significant first. -/
def bytesBE (width n : Nat) : List UInt8 := (bytesLE width n).reverse

def valueBE (bytes : List UInt8) : Nat := valueLE bytes.reverse

section
variable (width n : Nat)

@[simp] lemma length_bytesLE : (bytesLE width n).length = width := by
  induction width generalizing n with
  | zero => rfl
  | succ width induction => simp [bytesLE, induction]

@[simp] lemma length_bytesBE : (bytesBE width n).length = width := by
  simp [bytesBE]

lemma valueLE_bytesLE : valueLE (bytesLE width n) = n % 256 ^ width := by
  induction width generalizing n with
  | zero => simp [bytesLE, valueLE, Nat.mod_one]
  | succ width induction =>
    have byte : (UInt8.ofNat n).toNat = n % 256 := by simp
    rw [bytesLE, valueLE, induction, byte, Nat.pow_succ', Nat.mod_mul]

lemma valueBE_bytesBE : valueBE (bytesBE width n) = n % 256 ^ width := by
  rw [valueBE, bytesBE, reverse_reverse, valueLE_bytesLE]

end

lemma bytesBE_injective (leftFits : left < 256 ^ width) (rightFits : right < 256 ^ width)
    (same : bytesBE width left = bytesBE width right) : left = right := by
  have values := congrArg valueBE same
  rw [valueBE_bytesBE, valueBE_bytesBE, Nat.mod_eq_of_lt leftFits,
    Nat.mod_eq_of_lt rightFits] at values
  exact values

lemma toList_loop_eq (bytes : ByteArray) (i : Nat) (taken : List UInt8) :
    ByteArray.toList.loop bytes i taken = taken.reverse ++ bytes.data.toList.drop i := by
  induction h : bytes.size - i generalizing i taken with
  | zero =>
    rw [ByteArray.toList.loop, if_neg (by omega), drop_eq_nil_of_le, append_nil]
    have : bytes.data.toList.length = bytes.size := rfl
    omega
  | succ n induction =>
    have inside : i < bytes.data.toList.length := by
      have : bytes.data.toList.length = bytes.size := rfl
      omega
    rw [ByteArray.toList.loop, if_pos (by omega), induction _ _ (by omega),
      drop_eq_getElem_cons inside]
    have : bytes.get! i = bytes.data.toList[i] := by
      simp [ByteArray.get!, getElem!_pos bytes.data i (by simpa using inside)]
    simp [this]

lemma toUTF8_toList_injective {s t : String} (same : s.toUTF8.toList = t.toUTF8.toList) :
    s = t := by
  rw [ByteArray.toList, ByteArray.toList, toList_loop_eq, toList_loop_eq] at same
  apply String.toByteArray_inj.mp
  apply ByteArray.ext
  apply Array.toList_inj.mp
  simpa using same

lemma valueLE_bytesLE_of_lt (fits : n < 256 ^ width) : valueLE (bytesLE width n) = n := by
  rw [valueLE_bytesLE, Nat.mod_eq_of_lt fits]

lemma bytesLE_valueLE (sized : bytes.length = width) : bytesLE width (valueLE bytes) = bytes := by
  induction bytes generalizing width with
  | nil =>
    subst sized
    rfl
  | cons byte bytes induction =>
    subst sized
    have small := byte.toNat_lt
    have head : UInt8.ofNat (byte.toNat + 256 * valueLE bytes) = byte := by
      apply UInt8.toNat_inj.mp
      simp
    have rest : (byte.toNat + 256 * valueLE bytes) / 256 = valueLE bytes := by omega
    rw [length_cons, valueLE, bytesLE, head, rest, induction rfl]

lemma forall_byte {property : UInt8 → Prop}
    (all : ∀ n : Fin 256, property (UInt8.ofNat n.val)) (byte : UInt8) : property byte := by
  have holds := all ⟨byte.toNat, byte.toNat_lt⟩
  rwa [UInt8.ofNat_toNat] at holds

/-! ## Arrays of bytes -/

@[ext] structure FixedBytes (n : Nat) where
  bytes : List UInt8
  length_eq : bytes.length = n
  deriving DecidableEq

namespace FixedBytes

variable {n : Nat}

/-- A new array with as much of the source as fits, and zeros after it. -/
def copy (n : Nat) (source : List UInt8) : FixedBytes n where
  bytes := (source ++ List.replicate n 0).take n
  length_eq := by
    rw [length_take, length_append, length_replicate]
    omega

def zero (n : Nat) : FixedBytes n := copy n []

lemma copy_append (array : FixedBytes n) (rest : List UInt8) :
    copy n (array.bytes ++ rest) = array := by
  apply FixedBytes.ext
  show (array.bytes ++ rest ++ List.replicate n 0).take n = array.bytes
  rw [append_assoc, take_left' array.length_eq]

@[simp] lemma copy_bytes (array : FixedBytes n) : copy n array.bytes = array := by
  have copied := copy_append array []
  rwa [append_nil] at copied

end FixedBytes

/-! ## Pieces -/

section
variable {α : Type}

lemma take_drop_flatten (before : List (List α)) (field : List α) (after : List (List α))
    (starts : before.flatten.length = start) (sized : field.length = size) :
    ((before ++ field :: after).flatten.drop start).take size = field := by
  rw [flatten_append, flatten_cons, drop_left' starts, take_left' sized]

section
variable (size : Nat) (list : List α)

def piece (position : Nat) : List α := (list.drop (position * size)).take size

lemma length_piece_le (position : Nat) : (piece size list position).length ≤ size :=
  length_take_le _ _

lemma flatMap_piece_range (count : Nat) :
    (List.range count).flatMap (piece size list) = list.take (count * size) := by
  induction count with
  | zero => simp
  | succ count induction =>
    rw [range_succ, flatMap_append, induction, Nat.succ_mul, take_add]
    simp [piece]

end

variable {size : Nat}

lemma flatMap_piece_eq {list : List α} {count : Nat} (enough : list.length ≤ count * size) :
    (List.range count).flatMap (piece size list) = list := by
  rw [flatMap_piece_range, take_of_length_le enough]

lemma map_piece_flatten {parts : List (List α)} (sized : ∀ part ∈ parts, part.length = size) :
    (List.range parts.length).map (piece size parts.flatten) = parts := by
  induction parts with
  | nil => rfl
  | cons part parts induction =>
    have first := sized part mem_cons_self
    have rest := induction fun other among =>
      sized other (mem_cons_of_mem _ among)
    rw [length_cons, range_succ_eq_map, map_cons, map_map, flatten_cons]
    congr 1
    · rw [piece, Nat.zero_mul, drop_zero, take_left' first]
    refine (map_congr_left ?_).trans rest
    intro position _
    rw [Function.comp_apply, piece, piece, Nat.succ_mul, add_comm, ← drop_drop, drop_left' first]

lemma length_piece {list : List α} {position count : Nat} (long : list.length = count * size)
    (inside : position < count) : (piece size list position).length = size := by
  have enough : position * size + size ≤ count * size := by
    rw [← Nat.succ_mul]
    exact Nat.mul_le_mul_right size inside
  rw [piece, length_take, length_drop]
  omega

end

end Library
