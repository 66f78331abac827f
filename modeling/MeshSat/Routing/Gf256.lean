import Mathlib.Algebra.Field.ZMod
import Mathlib.FieldTheory.Finiteness
import Mathlib.RingTheory.AdjoinRoot
import MeshSat.Library.Bytes

/-!
# Arithmetic of bytes as field elements

The coding layer adds bytes by exclusive or and multiplies them through two
tables filled at start-up with the powers of three. Read as a polynomial over
two elements, modulo the polynomial of the source, every byte is an element of
a field with 256 elements, and the tables compute that field's product and
inverse.
-/

namespace MeshSat.Routing

open Library List AdjoinRoot

/-! ## The tables of the source -/

/-- The two tables, as the package variables hold them. -/
structure GfTables where
  (gfExp gfLog : List UInt8)

/-- Multiplies the loop variable of `initGFTables` by the generator. -/
def timesGenerator (x : UInt16) : UInt16 :=
  let hi := x <<< 1
  let hi := if hi ≥ 256 then hi ^^^ 0x11B else hi
  hi ^^^ x

/-- The variables of the first loop of `initGFTables`. -/
structure GfLoop where
  x : UInt16
  tables : GfTables

def GfLoop.step (loop : GfLoop) (i : Nat) : GfLoop :=
  { x := timesGenerator loop.x
    tables :=
      { gfExp := loop.tables.gfExp.set i loop.x.toUInt8
        gfLog := loop.tables.gfLog.set loop.x.toUInt8.toNat (UInt8.ofNat i) } }

def GfLoop.start : GfLoop :=
  { x := 1
    tables :=
      { gfExp := List.replicate 512 0, gfLog := List.replicate 256 0 } }

def GfTables.duplicate (tables : GfTables) (i : Nat) : GfTables :=
  { tables with
    gfExp := tables.gfExp.set (i + 255) (tables.gfExp.getD i 0) }

open GfTables

def initGFTables : GfTables :=
  (List.range 255).foldl duplicate ((List.range 255).foldl GfLoop.step GfLoop.start).tables

def gfAdd (a b : UInt8) : UInt8 := a ^^^ b

def gfMul (a b : UInt8) : UInt8 :=
  if a = 0 ∨ b = 0 then 0
  else
    initGFTables.gfExp.getD ((initGFTables.gfLog.getD a.toNat 0).toNat +
        (initGFTables.gfLog.getD b.toNat 0).toNat) 0

/-- The inverse of a byte; zero has none, and the source panics. -/
def gfInv (a : UInt8) : Option UInt8 :=
  if a = 0 then none
  else
    some (initGFTables.gfExp.getD (255 - (initGFTables.gfLog.getD a.toNat 0).toNat) 0)

/-! ## The field -/

open Polynomial

/-- The polynomial `0x11B` of the source. -/
noncomputable def modulus : (ZMod 2)[X] := X ^ 8 + X ^ 4 + X ^ 3 + X + 1

lemma modulus_natDegree : modulus.natDegree = 8 := by
  unfold modulus
  compute_degree!

lemma modulus_monic : modulus.Monic := by
  unfold modulus
  monicity!

/-- Polynomials over two elements modulo the source's polynomial. -/
abbrev GF256 : Type := AdjoinRoot modulus

lemma GF256.add_self (a : GF256) : a + a = 0 := by
  have two : (2 : ZMod 2) • a = a + a := two_smul (ZMod 2) a
  rw [← two, show (2 : ZMod 2) = 0 from rfl, zero_smul]

lemma GF256.root_pow_eight :
    (root modulus : GF256) ^ 8 = root modulus ^ 4 + root modulus ^ 3 + root modulus + 1 := by
  have zero : mk modulus (X ^ 8 + X ^ 4 + X ^ 3 + X + 1) = 0 :=
    mk_self
  simp only [map_add, map_pow, mk_X, map_one] at zero
  have same := GF256.add_self (root modulus ^ 4 + root modulus ^ 3 + root modulus + 1)
  linear_combination zero - same

def bitAt (a : UInt8) (i : Nat) : ZMod 2 :=
  if a.toNat.testBit i then 1 else 0

lemma bitAt_xor (a b : UInt8) (i : Nat) : bitAt (a ^^^ b) i = bitAt a i + bitAt b i := by
  rw [bitAt, bitAt, bitAt, UInt8.toNat_xor, Nat.testBit_xor]
  cases a.toNat.testBit i <;> cases b.toNat.testBit i <;> decide

variable {a : UInt8} {i count : Nat}

lemma eq_zero_of_bitAt (zero : ∀ i < 8, bitAt a i = 0) : a = 0 := by
  apply UInt8.toNat_inj.mp
  apply Nat.eq_of_testBit_eq
  intro i
  by_cases inside : i < 8
  · have unset := zero i inside
    simpa [bitAt] using unset
  have small : a.toNat < 2 ^ i :=
    lt_of_lt_of_le a.toNat_lt (Nat.pow_le_pow_right (by decide) (not_lt.mp inside))
  simp [Nat.testBit_lt_two_pow small]

noncomputable def bytePolynomial (a : UInt8) : (ZMod 2)[X] :=
  ∑ i ∈ Finset.range 8, C (bitAt a i) * X ^ i

lemma bytePolynomial_coeff (a : UInt8) (inside : i < 8) :
    (bytePolynomial a).coeff i = bitAt a i := by
  rw [bytePolynomial, finsetSum_coeff]
  simp [coeff_X_pow, inside]

lemma bytePolynomial_degree (a : UInt8) : (bytePolynomial a).degree < 8 := by
  rw [bytePolynomial]
  apply (degree_sum_le _ _).trans_lt
  rw [Finset.sup_lt_iff (by decide)]
  intro i inside
  apply (degree_C_mul_X_pow_le _ _).trans_lt
  exact_mod_cast Finset.mem_range.mp inside

/-- The element of the field that a byte stands for. -/
noncomputable def GF256.ofByte (a : UInt8) : GF256 := mk modulus (bytePolynomial a)

lemma bytePolynomial_xor (a b : UInt8) :
    bytePolynomial (a ^^^ b) = bytePolynomial a + bytePolynomial b := by
  rw [bytePolynomial, bytePolynomial, bytePolynomial, ← Finset.sum_add_distrib]
  apply Finset.sum_congr rfl
  intro i _
  rw [bitAt_xor, C_add, add_mul]

lemma GF256.ofByte_xor (a b : UInt8) : ofByte (a ^^^ b) = ofByte a + ofByte b := by
  rw [ofByte, bytePolynomial_xor, map_add]
  rfl

lemma GF256.ofByte_gfAdd (a b : UInt8) : ofByte (gfAdd a b) = ofByte a + ofByte b := ofByte_xor a b

@[simp] lemma GF256.ofByte_zero : ofByte 0 = 0 := by
  simp [ofByte, bytePolynomial, bitAt]

@[simp] lemma GF256.ofByte_one : ofByte 1 = 1 := by
  have bits : ∀ i ∈ Finset.range 8, C (bitAt 1 i) * X ^ i =
        if i = 0 then (1 : (ZMod 2)[X]) else 0 := by
    intro i inside
    rcases i with _ | i
    · simp [bitAt]
    · simp [bitAt, Nat.testBit_add_one]
  rw [ofByte, bytePolynomial, Finset.sum_congr rfl bits]
  simp

lemma GF256.ofByte_eq_zero (zero : ofByte a = 0) : a = 0 := by
  have divides := mk_eq_zero.mp zero
  have vanishes : bytePolynomial a = 0 := by
    apply eq_zero_of_dvd_of_degree_lt divides
    rw [degree_eq_natDegree modulus_monic.ne_zero, modulus_natDegree]
    exact bytePolynomial_degree a
  apply eq_zero_of_bitAt
  intro i inside
  rw [← bytePolynomial_coeff a inside, vanishes, coeff_zero]

lemma GF256.ofByte_injective : Function.Injective ofByte := by
  intro a b same
  have zero : ofByte (a ^^^ b) = 0 := by rw [ofByte_xor, same, GF256.add_self]
  have equal := GF256.ofByte_eq_zero zero
  exact UInt8.xor_eq_zero_iff.mp equal

lemma natCard_byte : Nat.card UInt8 = 256 := by
  have bytes : UInt8 ≃ Fin 256 := ⟨UInt8.toFin, UInt8.ofFin, fun _ => rfl, fun _ => rfl⟩
  rw [Nat.card_congr bytes, Nat.card_eq_fintype_card, Fintype.card_fin]

lemma GF256.ofByte_surjective : Function.Surjective ofByte := by
  have finite : Module.Finite (ZMod 2) GF256 :=
    Module.Finite.of_basis (powerBasis' modulus_monic).basis
  have elements : Finite GF256 := Module.finite_of_finite (ZMod 2)
  have size : Nat.card GF256 = 256 := by
    rw [Module.natCard_eq_pow_finrank (K := ZMod 2), PowerBasis.finrank (powerBasis' modulus_monic),
      powerBasis'_dim, modulus_natDegree, Nat.card_zmod]
    rfl
  have bijective := GF256.ofByte_injective.bijective_of_nat_card_le (by rw [size, natCard_byte])
  exact bijective.surjective

/-! ## Powers of the generator -/

section
variable (a : UInt8)

def nextPower : UInt8 := (timesGenerator a.toUInt16).toUInt8

lemma timesGenerator_byte : timesGenerator a.toUInt16 = (nextPower a).toUInt16 := by
  revert a
  apply forall_byte
  decide +kernel

/-- Shifting adds the bit below; the bit shifted out comes back as the lower
terms of the polynomial. -/
lemma bitAt_nextPower (i : Fin 8) : bitAt (nextPower a) i.val =
      (if i.val = 0 then 0 else bitAt a (i.val - 1)) +
        (if i.val ∈ [0, 1, 3, 4] then bitAt a 7 else 0) + bitAt a i.val := by
  revert a
  apply forall_byte
  revert i
  decide +kernel

lemma GF256.ofByte_eq_sum : ofByte a = ∑ i : Fin 8,
    of modulus (bitAt a i.val) * root modulus ^ i.val := by
  rw [ofByte, bytePolynomial, Finset.sum_range, map_sum]
  simp

lemma GF256.ofByte_nextPower : ofByte (nextPower a) = (root modulus + 1) * ofByte a := by
  rw [GF256.ofByte_eq_sum, GF256.ofByte_eq_sum]
  simp [bitAt_nextPower, Fin.sum_univ_eight]
  linear_combination - of modulus (bitAt a 7) * GF256.root_pow_eight

end

def generatorPower : Nat → UInt8
  | 0 => 1
  | n + 1 => nextPower (generatorPower n)

lemma GF256.ofByte_generatorPower (n : Nat) :
    ofByte (generatorPower n) = (root modulus + 1) ^ n := by
  induction n with
  | zero => rw [generatorPower, ofByte_one, pow_zero]
  | succ n induction => rw [generatorPower, ofByte_nextPower, induction, pow_succ']

lemma GF256.generator_pow_eq_one_iff (n : Nat) :
    (root modulus + 1 : GF256) ^ n = 1 ↔ generatorPower n = 1 := by
  rw [← ofByte_generatorPower, ← ofByte_one]
  exact ofByte_injective.eq_iff

lemma GF256.orderOf_generator : orderOf (root modulus + 1 : GF256) = 255 := by
  apply orderOf_eq_of_pow_and_pow_div_prime (by decide)
  · rw [generator_pow_eq_one_iff]
    decide +kernel
  intro p prime divides
  rw [Ne, generator_pow_eq_one_iff]
  have factors : p ∣ 3 * 5 * 17 := divides
  rw [prime.dvd_mul, prime.dvd_mul, Nat.prime_dvd_prime_iff_eq prime Nat.prime_three,
    Nat.prime_dvd_prime_iff_eq prime Nat.prime_five,
    Nat.prime_dvd_prime_iff_eq prime (by decide)] at factors
  rcases factors with (three | five) | seventeen
  · subst three
    decide +kernel
  · subst five
    decide +kernel
  subst seventeen
  decide +kernel

lemma generatorPower_injective (first : i < 255) (second : j < 255)
    (same : generatorPower i = generatorPower j) : i = j := by
  apply pow_injOn_Iio_orderOf (x := (root modulus + 1 : GF256))
  · rw [GF256.orderOf_generator]
    exact first
  · rw [GF256.orderOf_generator]
    exact second
  show (root modulus + 1 : GF256) ^ i = _ ^ j
  rw [← GF256.ofByte_generatorPower, same, GF256.ofByte_generatorPower]

lemma generatorPower_add_order (i : Nat) : generatorPower (i + 255) = generatorPower i := by
  apply GF256.ofByte_injective
  have cycle := pow_orderOf_eq_one (root modulus + 1 : GF256)
  rw [GF256.orderOf_generator] at cycle
  rw [GF256.ofByte_generatorPower, GF256.ofByte_generatorPower, pow_add, cycle, mul_one]

lemma generatorPower_ne_zero (i : Nat) : generatorPower i ≠ 0 := by
  intro zero
  have power := GF256.ofByte_generatorPower i
  have cycle := pow_orderOf_eq_one (root modulus + 1 : GF256)
  rw [GF256.orderOf_generator] at cycle
  rw [zero, GF256.ofByte_zero] at power
  have one : (1 : GF256) = 0 :=
    calc (1 : GF256) = ((root modulus + 1) ^ 255) ^ i := by
          rw [cycle, one_pow]
      _ = ((root modulus + 1) ^ i) ^ 255 := pow_right_comm _ _ _
      _ = 0 := by rw [← power, zero_pow (by decide)]
  rw [← GF256.ofByte_one, ← GF256.ofByte_zero] at one
  exact absurd (GF256.ofByte_injective one) (by decide)

lemma exists_generatorPower (nonzero : a ≠ 0) : ∃ i < 255, generatorPower i = a := by
  -- Zero and the 255 powers are as many bytes as there are.
  let enumerate : Option (Fin 255) → UInt8
    | none => 0
    | some i => generatorPower i.val
  have injective : Function.Injective enumerate := by
    intro first second same
    cases first with
    | none =>
      cases second with
      | none => rfl
      | some j => exact absurd same.symm (generatorPower_ne_zero j.val)
    | some i =>
      cases second with
      | none => exact absurd same (generatorPower_ne_zero i.val)
      | some j =>
        have equal := generatorPower_injective i.isLt j.isLt same
        rw [Fin.ext equal]
  have finite : Finite UInt8 := Nat.finite_of_card_ne_zero (by
    rw [natCard_byte]
    decide)
  have bijective := injective.bijective_of_nat_card_le (by
    rw [natCard_byte, Nat.card_eq_fintype_card, Fintype.card_option, Fintype.card_fin])
  obtain ⟨found, reached⟩ := bijective.surjective a
  cases found with
  | none => exact absurd reached.symm nonzero
  | some i => exact ⟨i.val, i.isLt, reached⟩

/-! ## The quotient is a field -/

lemma GF256.isField : IsField GF256 where
  exists_pair_ne := ⟨ofByte 0, ofByte 1, fun same =>
    absurd (ofByte_injective same) (by decide)⟩
  mul_comm := mul_comm
  mul_inv_cancel := by
    intro x nonzero
    obtain ⟨a, rfl⟩ := ofByte_surjective x
    have some : a ≠ 0 := by
      intro zero
      rw [zero, ofByte_zero] at nonzero
      exact nonzero rfl
    obtain ⟨i, inside, rfl⟩ := exists_generatorPower some
    refine ⟨ofByte (generatorPower (255 - i)), ?_⟩
    rw [ofByte_generatorPower, ofByte_generatorPower, ← pow_add,
      Nat.add_sub_cancel' (inside.le), ← orderOf_generator, pow_orderOf_eq_one]

lemma modulus_irreducible : Irreducible modulus := by
  have maximal := Ideal.Quotient.maximal_of_isField _ GF256.isField
  have prime := (Ideal.span_singleton_prime modulus_monic.ne_zero).mp maximal.isPrime
  exact prime.irreducible

instance : Fact (Irreducible modulus) := ⟨modulus_irreducible⟩

/-! ## What the tables hold -/

/-- The first loop has written the powers below `count`. -/
structure GfLoop.Filled (loop : GfLoop) (count : Nat) : Prop where
  x_eq : loop.x = (generatorPower count).toUInt16
  length_exp : loop.tables.gfExp.length = 512
  length_log : loop.tables.gfLog.length = 256
  exp_eq : ∀ i < count, loop.tables.gfExp.getD i 0 = generatorPower i
  log_eq : ∀ i < count, loop.tables.gfLog.getD (generatorPower i).toNat 0 = UInt8.ofNat i

lemma GfLoop.Filled.step {loop : GfLoop} (filled : loop.Filled count) (inside : count < 255) :
    (loop.step count).Filled (count + 1) := by
  have byte : loop.x.toUInt8 = generatorPower count := by rw [filled.x_eq, UInt8.toUInt8_toUInt16]
  constructor
  · rw [GfLoop.step, filled.x_eq, timesGenerator_byte, generatorPower]
  · simp [GfLoop.step, filled.length_exp]
  · simp [GfLoop.step, filled.length_log]
  · intro i early
    by_cases last : i = count
    · subst last
      simp [GfLoop.step, byte, getD_eq_getElem?_getD, filled.length_exp, lt_trans inside]
    have before := filled.exp_eq i (by omega)
    rw [getD_eq_getElem?_getD] at before
    simp [GfLoop.step, getD_eq_getElem?_getD, Ne.symm last, before]
  intro i early
  have small : (generatorPower count).toNat < 256 := UInt8.toNat_lt _
  by_cases last : i = count
  · subst last
    simp [GfLoop.step, byte, getD_eq_getElem?_getD, filled.length_log, small]
  have before := filled.log_eq i (by omega)
  -- Another power is another place of the table.
  have other : (generatorPower count).toNat ≠ (generatorPower i).toNat := by
    intro same
    have equal := generatorPower_injective inside (by omega) (UInt8.toNat_inj.mp same)
    exact last equal.symm
  rw [getD_eq_getElem?_getD] at before
  simp [GfLoop.step, byte, getD_eq_getElem?_getD, other, before]

lemma GfLoop.filled_foldl (bounded : count ≤ 255) :
    ((List.range count).foldl GfLoop.step GfLoop.start).Filled count := by
  induction count with
  | zero =>
    constructor
    · rfl
    · exact length_replicate
    · exact length_replicate
    · intro i none
      exact absurd none (Nat.not_lt_zero i)
    intro i none
    exact absurd none (Nat.not_lt_zero i)
  | succ count induction =>
    rw [range_succ, foldl_append, foldl_cons, foldl_nil]
    exact (induction (by omega)).step (by omega)

/-- The second loop has copied the powers below `count`. -/
lemma GfTables.duplicate_foldl (long : tables.gfExp.length = 512)
    (powers : ∀ i < 255, tables.gfExp.getD i 0 = generatorPower i) (bounded : count ≤ 255) :
    ((List.range count).foldl duplicate tables).gfExp.length = 512 ∧
      ((List.range count).foldl duplicate tables).gfLog = tables.gfLog ∧ ∀ i < 255 + count,
        ((List.range count).foldl duplicate tables).gfExp.getD i 0 = generatorPower i := by
  induction count with
  | zero => exact ⟨long, rfl, powers⟩
  | succ count induction =>
    rw [range_succ, foldl_append, foldl_cons, foldl_nil]
    obtain ⟨length, log, filled⟩ := induction (by omega)
    refine ⟨?_, log, ?_⟩
    · simp [duplicate, length]
    intro i early
    rw [duplicate, filled count (by omega)]
    by_cases last : i = count + 255
    · subst last
      rw [generatorPower_add_order]
      have room : count + 255 < ((List.range count).foldl duplicate tables).gfExp.length := by omega
      simp [getD_eq_getElem?_getD, List.getElem?_set_self room]
    have before := filled i (by omega)
    rw [getD_eq_getElem?_getD] at before
    simp [getD_eq_getElem?_getD, Ne.symm last, before]

lemma gfExp_eq (inside : i < 510) : initGFTables.gfExp.getD i 0 = generatorPower i := by
  have filled := GfLoop.filled_foldl (Nat.le_refl 255)
  exact (duplicate_foldl filled.length_exp filled.exp_eq (Nat.le_refl 255)).2.2 i inside

lemma gfLog_eq (inside : i < 255) :
    (initGFTables.gfLog.getD (generatorPower i).toNat 0).toNat = i := by
  have filled := GfLoop.filled_foldl (Nat.le_refl 255)
  have log := (duplicate_foldl filled.length_exp filled.exp_eq (Nat.le_refl 255)).2.1
  rw [initGFTables, log, filled.log_eq i inside, UInt8.toNat_ofNat']
  omega

/-! ## The operations are the field's -/

lemma GF256.ofByte_gfMul (a b : UInt8) : ofByte (gfMul a b) = ofByte a * ofByte b := by
  rw [gfMul]
  split
  next either =>
    rcases either with zero | zero
    · rw [zero, ofByte_zero, zero_mul]
    · rw [zero, ofByte_zero, mul_zero]
  rename_i neither
  obtain ⟨first, second⟩ := not_or.mp neither
  obtain ⟨i, small, rfl⟩ := exists_generatorPower first
  obtain ⟨j, little, rfl⟩ := exists_generatorPower second
  rw [gfLog_eq small, gfLog_eq little, gfExp_eq (by omega),
    ofByte_generatorPower, ofByte_generatorPower, ofByte_generatorPower, pow_add]

lemma gfInv_eq (nonzero : a ≠ 0) :
    ∃ inv, gfInv a = some inv ∧ GF256.ofByte inv = (GF256.ofByte a)⁻¹ := by
  obtain ⟨i, inside, rfl⟩ := exists_generatorPower nonzero
  refine ⟨generatorPower (255 - i), ?_, ?_⟩
  · rw [gfInv, if_neg nonzero, gfLog_eq inside, gfExp_eq (by omega)]
  apply eq_inv_of_mul_eq_one_left
  rw [GF256.ofByte_generatorPower, GF256.ofByte_generatorPower, ← pow_add,
    Nat.sub_add_cancel (inside.le), ← GF256.orderOf_generator, pow_orderOf_eq_one]

end MeshSat.Routing
