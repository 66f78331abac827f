import Mathlib.Tactic.IntervalCases
import MeshSat.Library.Fill
import MeshSat.Reticulum.Packet

/-!
# Interface access codes

Two peers that share a network name or a passphrase add a part of a signature
to every packet and mask the packet with a key stream derived from it. The
key stream has a largest length, and asking for more ends the process.
-/

namespace MeshSat.Reticulum

open Library Library.Checked List

/-! ## Codes -/

structure IfacPrimitives where
  sha256 : List UInt8 → List UInt8
  /-- The first bytes of the key stream of a key, a salt and an info. -/
  expand : Nat → List UInt8 → List UInt8 → List UInt8 → List UInt8
  length_expand : ∀ length ikm salt info, (expand length ikm salt info).length = length
  sign : List UInt8 → List UInt8 → List UInt8
  length_sign : ∀ seed message, (sign seed message).length = signatureLen

def hkdfMax : Nat := 255 * 32

/-- `HKDF`, with a panic for a length over the most. -/
def hkdf (x : IfacPrimitives) (length : Nat) (ikm salt info : List UInt8) : Checked (List UInt8) :=
  let salt := if salt = [] then List.replicate 32 0 else salt
  if hkdfMax < length then .error .raised
  else .ok (x.expand length ikm salt info)

def ifacSalt : List UInt8 :=
  [0xad, 0xf5, 0x4d, 0x88, 0x2c, 0x9a, 0x9b, 0x80, 0x77, 0x1e, 0xb4, 0x99,
    0x5d, 0x70, 0x2d, 0x4a, 0x3e, 0x73, 0x33, 0x91, 0xb2, 0xa0, 0xf5, 0x3f,
    0x41, 0x6d, 0x9f, 0x90, 0x7e, 0x55, 0xcf, 0xf8]

inductive IfacError
  | invalid | unnamed | size
  deriving DecidableEq

def IfacError.text : IfacError → String
  | invalid => "reticulum: invalid IFAC"
  | unnamed => "reticulum: IFAC needs a network name or passphrase"
  | size => "reticulum: IFAC size must be 1..64 bytes"

def ifacKey (x : IfacPrimitives) (netname netkey : String) : Checked (List UInt8) :=
  let part (text : String) : List UInt8 :=
    if text = "" then [] else x.sha256 text.toUTF8.data.toList
  hkdf x 64 (x.sha256 (part netname ++ part netkey)) ifacSalt []

/-- The access code of one interface. -/
structure Ifac where
  key : List UInt8
  size : Nat
  seed : List UInt8
  some : ifacMinSize ≤ size
  fits : size ≤ signatureLen

def newIFAC (x : IfacPrimitives) (netname netkey : String) (size : Int) :
    Checked (Except IfacError Ifac) :=
  if netname = "" ∧ netkey = "" then .ok (.error .unnamed)
  else if range : size < ifacMinSize ∨ 64 < size then .ok (.error .size)
  else do
    let key ← ifacKey x netname netkey
    let seed ← slice key 32 key.length
    pure (.ok ⟨key, size.toNat, seed, by omega, by rw [signatureLen]; omega⟩)

section
variable (x : IfacPrimitives) (f : Ifac)

/-- The last bytes of the signature of a clean packet. -/
def Ifac.tag (clean : List UInt8) : Checked (List UInt8) :=
  let sig := x.sign f.seed clean
  slice sig (sig.length - f.size) sig.length

/-- A byte of a packet that is being masked, unless it belongs to the code. -/
def Ifac.maskByte (mask : List UInt8) (i : Int) (out : List UInt8) : Checked (Next (List UInt8)) :=
  if 2 ≤ i ∧ i < 2 + f.size then pure (.next out)
  else do
    let b ← fetch out i
    let m ← fetch mask i
    let out ← store out i (b ^^^ m)
    pure (.next out)

def Ifac.wrap (raw : List UInt8) : Checked (List UInt8) :=
  if raw.length < 2 then .ok raw
  else do
    let ifac ← f.tag x raw
    let mask ← hkdf x (raw.length + f.size) ifac f.key []
    let first ← fetch raw 0
    let second ← fetch raw 1
    let rest ← slice raw 2 raw.length
    let out := (first ||| 0x80) :: second :: (ifac ++ rest)
    let out ← forRange 0 out.length (f.maskByte mask) out
    let first ← fetch out 0
    store out 0 (first ||| 0x80)

def Ifac.unmaskByte (raw mask : List UInt8) (i : Int)
    (unmasked : List UInt8) : Checked (Next (List UInt8)) := do
  let b ← fetch raw i
  if 2 ≤ i ∧ i < 2 + f.size then
    let unmasked ← store unmasked i b
    pure (.next unmasked)
  else
    let m ← fetch mask i
    let unmasked ← store unmasked i (b ^^^ m)
    pure (.next unmasked)

/-- `Unwrap`. The key stream is asked for before anything is verified. -/
def Ifac.unwrap (raw : List UInt8) : Checked (Except IfacError (List UInt8)) :=
  if raw.length ≤ 2 + f.size then .ok (.error .invalid)
  else do
    let first ← fetch raw 0
    if first &&& 0x80 = 0 then pure (.error .invalid)
    else
      let ifac ← slice raw 2 (2 + f.size)
      let mask ← hkdf x raw.length ifac f.key []
      let unmasked ← forRange 0 raw.length (f.unmaskByte raw mask) (List.replicate raw.length 0)
      let first ← fetch unmasked 0
      let second ← fetch unmasked 1
      let rest ← slice unmasked (2 + f.size) unmasked.length
      let clean := (first &&& 0x7F) :: second :: rest
      let tag ← f.tag x clean
      if tag ≠ ifac then pure (.error .invalid) else pure (.ok clean)

end

def hasIFACFlag (raw : List UInt8) : Bool := raw.getD 0 0 &&& 0x80 != 0

/-! ## Masking -/

/-- A byte of a packet crossed with a mask, unless it belongs to the code. -/
def crossByte (size : Nat) (mask : List UInt8) (i : Nat) (b : UInt8) : UInt8 :=
  if 2 ≤ i ∧ i < 2 + size then b else b ^^^ mask.getD i 0

def crossed (size : Nat) (text mask : List UInt8) : List UInt8 := text.mapIdx (crossByte size mask)

section
variable {size : Nat} {text mask : List UInt8}

@[simp] lemma length_crossed : (crossed size text mask).length = text.length :=
  length_mapIdx

lemma getElem?_crossed (i : Nat) :
    (crossed size text mask)[i]? = text[i]?.map (crossByte size mask i) :=
  List.getElem?_mapIdx

lemma crossByte_crossByte (i : Nat) (b : UInt8) :
    crossByte size mask i (crossByte size mask i b) = b := by
  rw [crossByte, crossByte]
  split
  · rfl
  · rw [UInt8.xor_assoc, UInt8.xor_self, UInt8.xor_zero]

lemma crossed_crossed : crossed size (crossed size text mask) mask = text := by
  apply ext_getElem?
  intro i
  rw [getElem?_crossed, getElem?_crossed]
  cases text[i]? with
  | none => rfl
  | some b => exact congrArg some (crossByte_crossByte i b)

lemma crossed_set_zero (b : UInt8) :
    crossed size (text.set 0 b) mask = (crossed size text mask).set 0 (b ^^^ mask.getD 0 0) := by
  cases text with
  | nil => rfl
  | cons first rest => simp [crossed, mapIdx_cons, crossByte]

lemma crossed_code : ((crossed size text mask).drop 2).take size = (text.drop 2).take size := by
  apply ext_getElem?
  intro i
  rcases lt_or_ge i size with inside | outside
  · rw [List.getElem?_take_of_lt inside, List.getElem?_take_of_lt inside,
      List.getElem?_drop, List.getElem?_drop, getElem?_crossed]
    cases text[2 + i]? with
    | none => rfl
    | some b =>
      have kept : crossByte size mask (2 + i) b = b := if_pos ⟨by omega, by omega⟩
      exact congrArg some kept
  · rw [List.getElem?_take_eq_none outside, List.getElem?_take_eq_none outside]

end

section
variable {f : Ifac} {raw mask : List UInt8}

lemma fetch_mask {i : Nat} {b : UInt8} (enough : mask.length = raw.length)
    (found : raw[i]? = some b) : fetch mask i = .ok (mask.getD i 0) := by
  obtain ⟨inside, -⟩ := List.getElem?_eq_some_iff.mp found
  apply fetch_eq_ok
  rw [getD_eq_getElem?_getD, List.getElem?_eq_getElem (enough ▸ inside)]
  rfl

lemma store_eq_ok {out : List UInt8} {i : Nat} {b : UInt8}
    (inside : i < out.length) : store out i b = .ok (out.set i b) := by
  rw [store, if_pos (by omega), Int.toNat_natCast]

lemma Ifac.forRange_maskByte (enough : mask.length = raw.length) :
    forRange 0 raw.length (f.maskByte mask) raw = .ok (crossed f.size raw mask) := by
  have loop := @forRange_overwrite _ raw (crossed f.size raw mask)
    (f.maskByte mask) length_crossed.symm
  rw [length_crossed] at loop
  apply loop
  intro i out element result long here
  rw [getElem?_crossed] at result
  obtain ⟨b, found, rfl⟩ := Option.map_eq_some_iff.mp result
  have inside : i < out.length := by
    rw [long]
    exact (List.getElem?_eq_some_iff.mp found).1
  rw [found] at here
  rw [Ifac.maskByte, crossByte]
  by_cases code : 2 ≤ i ∧ i < 2 + f.size
  · obtain ⟨_, same⟩ := List.getElem?_eq_some_iff.mp here
    rw [if_pos (by omega), if_pos code, ← same, set_getElem_self]
    rfl
  rw [if_neg (by omega), if_neg code, fetch_eq_ok here, fetch_mask enough found]
  simp only [ok_bind, store_eq_ok inside]
  rfl

lemma Ifac.forRange_unmaskByte (enough : mask.length = raw.length) :
    forRange 0 raw.length (f.unmaskByte raw mask)
      (List.replicate raw.length 0) = .ok (crossed f.size raw mask) := by
  have loop := @forRange_overwrite _ (List.replicate raw.length 0)
    (crossed f.size raw mask) (f.unmaskByte raw mask)
    (by rw [length_replicate, length_crossed])
  rw [length_crossed] at loop
  apply loop
  intro i out element result long here
  rw [getElem?_crossed] at result
  obtain ⟨b, found, rfl⟩ := Option.map_eq_some_iff.mp result
  have inside : i < out.length := by
    rw [long]
    exact (List.getElem?_eq_some_iff.mp found).1
  rw [Ifac.unmaskByte, crossByte, fetch_eq_ok found]
  by_cases code : 2 ≤ i ∧ i < 2 + f.size
  · rw [if_pos code, ok_bind, if_pos (by omega), store_eq_ok inside]
    rfl
  rw [if_neg code, ok_bind, if_neg (by omega), fetch_mask enough found]
  simp only [ok_bind, store_eq_ok inside]
  rfl

end

/-! ## What is accepted -/

section
variable {b : UInt8}

lemma flagged_bit (flagged : b &&& 0x80 ≠ 0) : b.toBitVec.getLsbD 7 = true := by
  by_contra clear
  apply flagged
  apply UInt8.eq_of_toBitVec_eq
  apply BitVec.eq_of_getLsbD_eq
  intro i bound
  interval_cases i <;> simp_all

lemma unflagged_bit (unflagged : b &&& 0x80 = 0) : b.toBitVec.getLsbD 7 = false := by
  have same := congrArg (fun byte => byte.toBitVec.getLsbD 7) unflagged
  simpa using same

lemma mask_flagged (m : UInt8) (flagged : b &&& 0x80 ≠ 0) :
    ((((b ^^^ m) &&& 0x7F) ||| 0x80) ^^^ m) ||| 0x80 = b := by
  have high := flagged_bit flagged
  apply UInt8.eq_of_toBitVec_eq
  apply BitVec.eq_of_getLsbD_eq
  intro i bound
  interval_cases i <;> simp_all

lemma unmask_unflagged (m : UInt8) (unflagged : b &&& 0x80 = 0) :
    ((((b ||| 0x80) ^^^ m) ||| 0x80) ^^^ m) &&& 0x7F = b := by
  have high := unflagged_bit unflagged
  apply UInt8.eq_of_toBitVec_eq
  apply BitVec.eq_of_getLsbD_eq
  intro i bound
  interval_cases i <;> simp_all

lemma flagged_or (b : UInt8) : (b ||| 0x80) &&& 0x80 ≠ 0 := by
  intro clear
  have high := unflagged_bit clear
  simp at high

end

section
variable (x : IfacPrimitives) (f : Ifac)

def Ifac.mask (length : Nat) (code : List UInt8) : List UInt8 :=
  x.expand length code (if f.key = [] then List.replicate 32 0 else f.key) []

def Ifac.codeOf (clean : List UInt8) : List UInt8 :=
  (x.sign f.seed clean).drop (signatureLen - f.size)

/-- A packet that carries a code, in its masked form. -/
structure Ifac.Wraps (clean raw : List UInt8) : Prop where
  long : 2 < clean.length
  unflagged : clean.getD 0 0 &&& 0x80 = 0
  wrapped : f.wrap x clean = .ok raw

/-- The key stream that takes the packet apart is not too long. -/
def Ifac.Unmaskable (raw : List UInt8) : Prop :=
  raw.length ≤ 2 + f.size ∨ raw.getD 0 0 &&& 0x80 = 0 ∨ raw.length ≤ hkdfMax

variable {x f}

@[simp] lemma Ifac.length_codeOf (clean : List UInt8) : (f.codeOf x clean).length = f.size := by
  have fits := f.fits
  rw [Ifac.codeOf, length_drop, x.length_sign]
  omega

lemma Ifac.tag_eq (clean : List UInt8) : f.tag x clean = .ok (f.codeOf x clean) := by
  have fits := f.fits
  rw [Ifac.tag, slice, x.length_sign, if_pos (by omega), Int.toNat_natCast,
    take_of_length_le (Nat.le_of_eq (x.length_sign _ _)), Ifac.codeOf]
  congr 2
  omega

lemma Ifac.hkdf_eq {length : Nat} {code : List UInt8} (fits : length ≤ hkdfMax) :
    hkdf x length code f.key [] = .ok (f.mask x length code) := by
  rw [hkdf, if_neg (by omega)]
  rfl

lemma hkdf_long {length : Nat} {ikm salt info : List UInt8} (long : hkdfMax < length) :
    hkdf x length ikm salt info = .error .raised :=
  if_pos long

lemma Ifac.length_mask (length : Nat) (code : List UInt8) :
    (f.mask x length code).length = length :=
  x.length_expand _ _ _ _

section
variable {a b first second : UInt8} {code body plain mask : List UInt8}

lemma crossed_shape (size : code.length = f.size) : ∃ second plain,
      crossed f.size (a :: b :: (code ++ body)) mask =
        (a ^^^ mask.getD 0 0) :: second :: (code ++ plain) ∧ plain.length = body.length := by
  obtain ⟨rest, whole⟩ : ∃ rest, crossed f.size (a :: b :: (code ++ body)) mask =
        (a ^^^ mask.getD 0 0) :: (b ^^^ mask.getD 1 0) :: rest := by
    rw [crossed, mapIdx_cons, mapIdx_cons]
    exact ⟨_, rfl⟩
  have kept := @crossed_code f.size (a :: b :: (code ++ body)) mask
  have long := @length_crossed f.size (a :: b :: (code ++ body)) mask
  rw [whole] at kept long
  simp only [drop_succ_cons, drop_zero] at kept
  rw [take_left' size] at kept
  have parts := take_append_drop f.size rest
  rw [kept] at parts
  refine ⟨b ^^^ mask.getD 1 0, rest.drop f.size, ?_, ?_⟩
  · rw [whole, parts]
  simp only [length_cons, length_append] at long
  rw [length_drop]
  omega

lemma longer (a b : UInt8) (size : code.length = f.size) (some : body ≠ []) :
    ¬ (a :: b :: (code ++ body)).length ≤ 2 + f.size := by
  have positive := length_pos_of_ne_nil some
  simp only [length_cons, length_append]
  omega

lemma fetch_one : fetch (first :: second :: body) 1 = .ok second :=
  @fetch_eq_ok _ (first :: second :: body) 1 second rfl

namespace Ifac

section
variable (size : code.length = f.size) (some : body ≠ []) (flagged : a &&& 0x80 ≠ 0)

include size some flagged

lemma unwrap_eq (fits : (a :: b :: (code ++ body)).length ≤ hkdfMax)
    (unmasked : crossed f.size (a :: b :: (code ++ body))
      (f.mask x (a :: b :: (code ++ body)).length code) = first :: second :: (code ++ plain)) :
    f.unwrap x (a :: b :: (code ++ body)) = .ok
      (if f.codeOf x ((first &&& 0x7F) :: second :: plain) ≠ code then
        .error .invalid
      else .ok ((first &&& 0x7F) :: second :: plain)) := by
  have long := longer a b size some
  have cut : slice (a :: b :: (code ++ body)) 2 (2 + f.size) = .ok code :=
    slice_append [a, b] code body rfl (by rw [size]; rfl)
  have rest : slice (first :: second :: (code ++ plain)) (2 + f.size)
      (first :: second :: (code ++ plain)).length = .ok plain :=
    slice_end (first :: second :: code) plain (by
      simp only [length_cons, size]
      omega)
  rw [unwrap, if_neg long, fetch_zero rfl, ok_bind, if_neg flagged, cut,
    ok_bind, hkdf_eq fits, ok_bind,
    forRange_unmaskByte (length_mask _ _), unmasked, ok_bind,
    fetch_zero rfl, ok_bind, fetch_one, ok_bind, rest, ok_bind]
  dsimp only
  rw [tag_eq, ok_bind]
  split
  · rfl
  · rfl

lemma unwrap_long (long : hkdfMax < (a :: b :: (code ++ body)).length) :
    f.unwrap x (a :: b :: (code ++ body)) = .error .raised := by
  have beyond := longer a b size some
  have cut : slice (a :: b :: (code ++ body)) 2 (2 + f.size) = .ok code :=
    slice_append [a, b] code body rfl (by rw [size]; rfl)
  rw [unwrap, if_neg beyond, fetch_zero rfl, ok_bind, if_neg flagged, cut, ok_bind, hkdf_long long]
  rfl

end

lemma wrap_eq (fits : (a :: b :: plain).length + f.size ≤ hkdfMax) (masked : crossed f.size
      ((a ||| 0x80) :: b :: (f.codeOf x (a :: b :: plain) ++ plain))
      (f.mask x ((a :: b :: plain).length + f.size) (f.codeOf x (a :: b :: plain))) =
        first :: second :: body) : f.wrap x (a :: b :: plain) =
      .ok ((first ||| 0x80) :: second :: body) := by
  have long : ¬ (a :: b :: plain).length < 2 := by
    simp only [length_cons]
    omega
  have rest : slice (a :: b :: plain) 2 (a :: b :: plain).length = .ok plain :=
    slice_end [a, b] plain rfl
  have enough : (f.mask x ((a :: b :: plain).length + f.size)
      (f.codeOf x (a :: b :: plain))).length =
      ((a ||| 0x80) :: b :: (f.codeOf x (a :: b :: plain) ++ plain)).length := by
    rw [length_mask]
    simp only [length_cons, length_append, length_codeOf]
    omega
  rw [wrap, if_neg long, tag_eq, ok_bind, hkdf_eq fits,
    ok_bind, fetch_zero rfl, ok_bind, fetch_one, ok_bind, rest, ok_bind]
  dsimp only
  rw [forRange_maskByte enough, masked, ok_bind, fetch_zero rfl, ok_bind]
  exact store_eq_ok (Nat.succ_pos _)

lemma wrap_long (long : hkdfMax < (a :: b :: plain).length + f.size) :
    f.wrap x (a :: b :: plain) = .error .raised := by
  have beyond : ¬ (a :: b :: plain).length < 2 := by
    simp only [length_cons]
    omega
  rw [wrap, if_neg beyond, tag_eq, ok_bind, hkdf_long long]
  rfl

lemma wraps_unmasked (size : code.length = f.size) (some : body ≠ []) (flagged : a &&& 0x80 ≠ 0)
    (fits : (a :: b :: (code ++ body)).length ≤ hkdfMax) (same : plain.length = body.length)
    (unmasked : crossed f.size (a :: b :: (code ++ body))
      (f.mask x (a :: b :: (code ++ body)).length code) =
        (a ^^^ (f.mask x (a :: b :: (code ++ body)).length code).getD 0 0) ::
          second :: (code ++ plain)) (valid : f.codeOf x
      (((a ^^^ (f.mask x (a :: b :: (code ++ body)).length code).getD 0 0)
        &&& 0x7F) :: second :: plain) = code) : f.Wraps x
      (((a ^^^ (f.mask x (a :: b :: (code ++ body)).length code).getD 0 0)
        &&& 0x7F) :: second :: plain) (a :: b :: (code ++ body)) := by
  have whole : ∀ first : UInt8, (first :: second :: plain).length + f.size =
      (a :: b :: (code ++ body)).length := by
    intro first
    simp only [length_cons, length_append]
    omega
  refine ⟨?_, ?_, ?_⟩
  · have positive := length_pos_of_ne_nil some
    simp only [length_cons]
    omega
  · rw [getD_cons_zero, UInt8.and_assoc]
    exact UInt8.and_zero
  obtain ⟨mask, masked⟩ : ∃ mask, f.mask x (a :: b :: (code ++ body)).length code = mask := ⟨_, rfl⟩
  rw [masked] at unmasked valid ⊢
  -- Only the flag of the first byte is not what unmasking gave.
  have again : crossed f.size ((((a ^^^ mask.getD 0 0) &&& 0x7F) ||| 0x80) :: second ::
        (code ++ plain)) mask = ((((a ^^^ mask.getD 0 0) &&& 0x7F) ||| 0x80) ^^^ mask.getD 0 0) ::
        b :: (code ++ body) := by
    have back := @crossed_set_zero f.size (crossed f.size (a :: b :: (code ++ body)) mask) mask
      (((a ^^^ mask.getD 0 0) &&& 0x7F) ||| 0x80)
    rw [crossed_crossed, unmasked] at back
    exact back
  rw [← mask_flagged (mask.getD 0 0) flagged]
  apply wrap_eq
  · rw [whole]
    exact fits
  rw [mask_flagged _ flagged, valid, whole, masked]
  exact again

end Ifac

end

variable {raw clean : List UInt8}

namespace Ifac

lemma exists_parts (long : ¬ raw.length ≤ 2 + f.size) :
    ∃ a b code body, raw = a :: b :: (code ++ body) ∧ code.length = f.size ∧ body ≠ [] := by
  match raw, long with
  | [], long => exact absurd (Nat.zero_le _) long
  | [a], long => exact absurd (Nat.le_add_right_of_le (Nat.le_succ 1)) long
  | a :: b :: rest, long =>
    simp only [length_cons] at long
    refine ⟨a, b, rest.take f.size, rest.drop f.size, ?_, ?_, ?_⟩
    · rw [take_append_drop]
    · rw [length_take]
      omega
    rw [← length_pos_iff, length_drop]
    omega

lemma unwrap_short (short : raw.length ≤ 2 + f.size) : f.unwrap x raw = .ok (.error .invalid) :=
  if_pos short

lemma unwrap_unflagged (unflagged : raw.getD 0 0 &&& 0x80 = 0) :
    f.unwrap x raw = .ok (.error .invalid) := by
  by_cases short : raw.length ≤ 2 + f.size
  · exact unwrap_short short
  obtain ⟨a, b, code, body, rfl, -, -⟩ := exists_parts short
  rw [unwrap, if_neg short, fetch_zero rfl, ok_bind]
  exact if_pos unflagged

lemma exists_flagged (long : ¬ raw.length ≤ 2 + f.size) (flagged : ¬ raw.getD 0 0 &&& 0x80 = 0) :
    ∃ a b code body, raw = a :: b :: (code ++ body) ∧ code.length = f.size ∧ body ≠ [] ∧
    a &&& 0x80 ≠ 0 := by
  obtain ⟨a, b, code, body, rfl, size, some⟩ := exists_parts long
  exact ⟨a, b, code, body, rfl, size, some, flagged⟩

lemma returns_unwrap_iff : Returns (f.unwrap x raw) (fun _ => True) ↔ f.Unmaskable raw := by
  by_cases short : raw.length ≤ 2 + f.size
  · rw [unwrap_short short]
    exact ⟨fun _ => .inl short, fun _ => returns_ok.mpr trivial⟩
  by_cases unflagged : raw.getD 0 0 &&& 0x80 = 0
  · rw [unwrap_unflagged unflagged]
    exact ⟨fun _ => .inr (.inl unflagged), fun _ => returns_ok.mpr trivial⟩
  have onlyLength : f.Unmaskable raw ↔ raw.length ≤ hkdfMax :=
    ⟨fun unmaskable =>
      (unmaskable.resolve_left short).resolve_left unflagged,
      fun fits => .inr (.inr fits)⟩
  rw [onlyLength]
  obtain ⟨a, b, code, body, rfl, size, some, flagged⟩ := exists_flagged short unflagged
  constructor
  · intro returned
    by_contra long
    rw [unwrap_long size some flagged (not_le.mp long)] at returned
    obtain ⟨_, fault, -⟩ := returned
    cases fault
  intro fits
  obtain ⟨second, plain, unmasked, -⟩ := crossed_shape size
  rw [unwrap_eq size some flagged fits unmasked]
  exact returns_ok.mpr trivial

lemma returns_wrap_iff : Returns (f.wrap x clean) (fun _ => True) ↔ clean.length < 2 ∨
    clean.length + f.size ≤ hkdfMax := by
  by_cases short : clean.length < 2
  · rw [wrap, if_pos short]
    exact ⟨fun _ => .inl short, fun _ => returns_ok.mpr trivial⟩
  match clean, short with
  | [], short => exact absurd Nat.zero_lt_two short
  | [_], short => exact absurd Nat.one_lt_two short
  | a :: b :: plain, short =>
    constructor
    · intro returned
      refine .inr (not_lt.mp fun long => ?_)
      rw [wrap_long long] at returned
      obtain ⟨_, fault, -⟩ := returned
      cases fault
    intro fits
    obtain ⟨second, body, masked, -⟩ := crossed_shape (f.length_codeOf (a :: b :: plain))
    rw [wrap_eq (fits.resolve_left short) masked]
    exact returns_ok.mpr trivial

lemma wraps_of_unwrap (accepted : f.unwrap x raw = .ok (.ok clean)) : f.Wraps x clean raw := by
  by_cases short : raw.length ≤ 2 + f.size
  · rw [unwrap_short short] at accepted
    cases accepted
  by_cases unflagged : raw.getD 0 0 &&& 0x80 = 0
  · rw [unwrap_unflagged unflagged] at accepted
    cases accepted
  obtain ⟨a, b, code, body, rfl, size, some, flagged⟩ := exists_flagged short unflagged
  rcases lt_or_ge hkdfMax (a :: b :: (code ++ body)).length with
    long | fits
  · rw [unwrap_long size some flagged long] at accepted
    cases accepted
  obtain ⟨second, plain, unmasked, same⟩ := crossed_shape size
  rw [unwrap_eq size some flagged fits unmasked] at accepted
  split at accepted
  · cases accepted
  rename_i valid
  cases accepted
  exact wraps_unmasked size some flagged fits same unmasked (not_not.mp valid)

lemma Wraps.unwrap (wraps : f.Wraps x clean raw) : f.unwrap x raw = .ok (.ok clean) := by
  obtain ⟨long, unflagged, wrapped⟩ := wraps
  match clean, long with
  | c :: d :: plain, long =>
    have some : plain ≠ [] := by
      rintro rfl
      exact absurd long (Nat.lt_irrefl 2)
    rcases lt_or_ge hkdfMax ((c :: d :: plain).length + f.size) with
      beyond | fits
    · rw [wrap_long beyond] at wrapped
      cases wrapped
    obtain ⟨code, coded⟩ : ∃ code, f.codeOf x (c :: d :: plain) = code := ⟨_, rfl⟩
    have size : code.length = f.size := coded ▸ length_codeOf _
    obtain ⟨mask, masked⟩ : ∃ mask, f.mask x ((c :: d :: plain).length + f.size) code = mask :=
      ⟨_, rfl⟩
    obtain ⟨second, body, crossing, same⟩ := @crossed_shape f (c ||| 0x80) d code plain mask size
    have whole : ∀ first : UInt8, (first :: second :: (code ++ body)).length =
          (c :: d :: plain).length + f.size := by
      intro first
      simp only [length_cons, length_append]
      omega
    rw [wrap_eq fits (by rw [coded, masked, crossing])] at wrapped
    cases wrapped
    have back := @crossed_set_zero f.size
      (crossed f.size ((c ||| 0x80) :: d :: (code ++ plain)) mask) mask
      (((c ||| 0x80) ^^^ mask.getD 0 0) ||| 0x80)
    rw [crossed_crossed, crossing] at back
    rw [unwrap_eq size (by
        rw [← length_pos_iff, same]
        exact length_pos_of_ne_nil some) (flagged_or _)
      (by rw [whole]; exact fits) (by rw [whole, masked]; exact back)]
    rw [getD_cons_zero] at unflagged
    rw [unmask_unflagged _ unflagged, coded]
    exact congrArg _ (if_neg (not_not.mpr rfl))

lemma unwrap_eq_ok_iff : f.unwrap x raw = .ok (.ok clean) ↔ f.Wraps x clean raw :=
  ⟨wraps_of_unwrap, Wraps.unwrap⟩

lemma Wraps.tag_eq (wraps : f.Wraps x clean raw) :
    f.tag x clean = .ok ((raw.drop 2).take f.size) := by
  obtain ⟨long, -, wrapped⟩ := wraps
  match clean, long with
  | c :: d :: plain, long =>
    have fits := ((returns_wrap_iff (x := x) (f := f)).mp ⟨raw, wrapped, trivial⟩).resolve_left
      (by omega)
    obtain ⟨second, body, masked, -⟩ := crossed_shape (f.length_codeOf (c :: d :: plain))
    rw [wrap_eq fits masked] at wrapped
    cases wrapped
    rw [tag_eq]
    simp

theorem access_code_exact (x : IfacPrimitives) (f : Ifac) :
    (∀ packet : List UInt8, 3 ≤ packet.length → packet.getD 0 0 &&& 0x80 = 0 →
      packet.length + f.size ≤ hkdfMax →
        ∃ raw, f.wrap x packet = .ok raw ∧ f.unwrap x raw = .ok (.ok packet)) ∧
    (∀ raw clean, f.unwrap x raw = .ok (.ok clean) →
      f.tag x clean = .ok ((raw.drop 2).take f.size)) ∧
    ∀ raw, (∃ clean, f.unwrap x raw = .ok (.ok clean)) ↔ ∃ packet : List UInt8,
      3 ≤ packet.length ∧ packet.getD 0 0 &&& 0x80 = 0 ∧ f.wrap x packet = .ok raw := by
  refine ⟨?_, ?_, ?_⟩
  · intro packet long unflagged fits
    obtain ⟨raw, wrapped, -⟩ := returns_wrap_iff.mpr (.inr fits)
    exact ⟨raw, wrapped, Wraps.unwrap ⟨long, unflagged, wrapped⟩⟩
  · intro raw clean accepted
    exact (wraps_of_unwrap accepted).tag_eq
  intro raw
  constructor
  · rintro ⟨clean, accepted⟩
    obtain ⟨long, unflagged, wrapped⟩ := wraps_of_unwrap accepted
    exact ⟨clean, long, unflagged, wrapped⟩
  rintro ⟨packet, long, unflagged, wrapped⟩
  exact ⟨packet, Wraps.unwrap ⟨long, unflagged, wrapped⟩⟩

end Ifac

end

end MeshSat.Reticulum
