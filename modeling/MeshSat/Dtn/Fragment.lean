import MeshSat.Library.Bytes

/-!
# Bundle fragments

A payload that is longer than an interface carries is cut into fragments, each
with a header that names the bundle, the fragment's index, their number and
the size of the payload.
-/

namespace MeshSat.Dtn

open Library List

/-! ## The header -/

def bundleVersion : UInt8 := 0x01
def bundleHeaderLen : Nat := 25
def maxFragments : Int := 65535

structure BundleID where
  bytes : List UInt8
  length_eq : bytes.length = 16
  deriving DecidableEq

structure BundleHeader where
  version : UInt8
  bundleID : BundleID
  (fragIndex fragTotal : UInt16)
  totalSize : UInt32
  deriving DecidableEq

def marshalBundleHeader (h : BundleHeader) : List UInt8 :=
  h.version :: (h.bundleID.bytes ++ bytesLE 2 h.fragIndex.toNat ++
    bytesLE 2 h.fragTotal.toNat ++ bytesLE 4 h.totalSize.toNat)

inductive HeaderError where
  | tooShort (length : Nat)
  | badVersion (version : UInt8)
  | zeroTotal
  | badIndex (index total : UInt16)
  deriving DecidableEq

def hexByte (byte : UInt8) : String :=
  String.ofList [Nat.digitChar (byte.toNat / 16), Nat.digitChar (byte.toNat % 16)]

def HeaderError.text : HeaderError → String
  | .tooShort length =>
    "bundle header too short: " ++ toString length ++ " bytes (minimum " ++
      toString bundleHeaderLen ++ ")"
  | .badVersion version =>
    "unsupported bundle version: 0x" ++ hexByte version ++ " (expected 0x" ++
      hexByte bundleVersion ++ ")"
  | .zeroTotal => "bundle header has zero frag_total"
  | .badIndex index total =>
    "bundle frag_index " ++ toString index ++ " >= frag_total " ++ toString total

def unmarshalBundleHeader (data : List UInt8) : Except HeaderError BundleHeader :=
  if short : data.length < bundleHeaderLen then
    .error (.tooShort data.length)
  else if data.headD 0 ≠ bundleVersion then
    .error (.badVersion (data.headD 0))
  else
    let h : BundleHeader :=
      { version := data.headD 0
        bundleID :=
          { bytes := (data.drop 1).take 16
            length_eq := by
              rw [length_take, length_drop]
              unfold bundleHeaderLen at short
              omega }
        fragIndex := UInt16.ofNat (valueLE ((data.drop 17).take 2))
        fragTotal := UInt16.ofNat (valueLE ((data.drop 19).take 2))
        totalSize := UInt32.ofNat (valueLE ((data.drop 21).take 4)) }
    if h.fragTotal = 0 then .error .zeroTotal
    else if h.fragIndex ≥ h.fragTotal then
      .error (.badIndex h.fragIndex h.fragTotal)
    else .ok h

lemma length_marshalBundleHeader (h : BundleHeader) :
    (marshalBundleHeader h).length = bundleHeaderLen := by
  simp [marshalBundleHeader, h.bundleID.length_eq, bundleHeaderLen]

lemma unmarshal_marshal (version : h.version = bundleVersion) (index : h.fragIndex < h.fragTotal)
    (rest : List UInt8) : unmarshalBundleHeader (marshalBundleHeader h ++ rest) = .ok h := by
  have idLength := h.bundleID.length_eq
  have layout : marshalBundleHeader h ++ rest =
      [[h.version], h.bundleID.bytes, bytesLE 2 h.fragIndex.toNat,
        bytesLE 2 h.fragTotal.toNat, bytesLE 4 h.totalSize.toNat, rest].flatten := by
    simp [marshalBundleHeader]
  have head : (marshalBundleHeader h ++ rest).headD 0 = bundleVersion := version
  have id : ((marshalBundleHeader h ++ rest).drop 1).take 16 = h.bundleID.bytes := by
    rw [layout]
    exact take_drop_flatten [_] _ _ rfl idLength
  have fragIndex : ((marshalBundleHeader h ++ rest).drop 17).take 2 =
      bytesLE 2 h.fragIndex.toNat := by
    rw [layout]
    exact take_drop_flatten [_, _] _ _ (by simp [idLength]) (by simp)
  have fragTotal : ((marshalBundleHeader h ++ rest).drop 19).take 2 =
      bytesLE 2 h.fragTotal.toNat := by
    rw [layout]
    exact take_drop_flatten [_, _, _] _ _ (by simp [idLength]) (by simp)
  have totalSize : ((marshalBundleHeader h ++ rest).drop 21).take 4 =
      bytesLE 4 h.totalSize.toNat := by
    rw [layout]
    exact take_drop_flatten [_, _, _, _] _ _ (by simp [idLength]) (by simp)
  have long : ¬ (marshalBundleHeader h ++ rest).length < bundleHeaderLen := by
    rw [length_append, length_marshalBundleHeader]
    omega
  have read : ∀ total : UInt16, valueLE (bytesLE 2 total.toNat) =
      total.toNat := fun total => valueLE_bytesLE_of_lt total.toNat_lt
  have readSize : valueLE (bytesLE 4 h.totalSize.toNat) =
      h.totalSize.toNat := valueLE_bytesLE_of_lt h.totalSize.toNat_lt
  have someTotal : h.fragTotal ≠ 0 := by
    rintro none
    rw [none] at index
    exact UInt16.not_lt_zero index
  unfold unmarshalBundleHeader
  rw [dif_neg long, if_neg (not_not.mpr head)]
  simp only [head, id, fragIndex, fragTotal, totalSize, read, readSize,
    UInt16.ofNat_toNat, UInt32.ofNat_toNat]
  rw [if_neg someTotal, if_neg (UInt16.not_le.mpr index), ← version]

/-! ## Cutting a payload -/

inductive FragmentError where
  | mtuTooSmall (mtu : Int64)
  | tooMany (count : Int)
  /-- The random source failed. -/
  | noBundleID
  /-- `make` with a negative length panics. -/
  | negativeCount (count : Int)
  deriving DecidableEq

def FragmentError.text : FragmentError → String
  | .mtuTooSmall mtu =>
    "MTU " ++ toString mtu.toInt ++ " too small (must be > " ++
      toString bundleHeaderLen ++ " header bytes)"
  | .tooMany count =>
    "payload requires " ++ toString count ++ " fragments (max " ++ toString maxFragments ++ ")"
  | .noBundleID => "generate bundle ID"
  | .negativeCount _ => "makeslice: len out of range"

/-- A slice is shorter than the address space the runtime allocates from. -/
def maxAlloc : Nat := 2 ^ 48

/-- The version and variant bits of a random UUID. -/
def BundleID.asVersion4 (id : BundleID) : BundleID where
  bytes := (id.bytes.set 6 (id.bytes.getD 6 0 &&& 0x0f ||| 0x40)).set 8
    (id.bytes.getD 8 0 &&& 0x3f ||| 0x80)
  length_eq := by
    rw [length_set, length_set]
    exact id.length_eq

/-- How many fragments: the quotient is that of 64-bit integers, whose sum may
wrap around, and which divide towards zero. -/
def fragCount (length : Nat) (mtu : Int64) : Int :=
  let maxPayloadPerFrag := mtu.toInt - bundleHeaderLen
  let quotient := (((length : Int) + maxPayloadPerFrag - 1).bmod (2 ^ 64)).tdiv maxPayloadPerFrag
  if quotient = 0 then 1 else quotient

def fragmentHeader (length : Nat) (id : BundleID) (count i : Nat) : BundleHeader where
  version := bundleVersion
  bundleID := id
  fragIndex := UInt16.ofNat i
  fragTotal := UInt16.ofNat count
  totalSize := UInt32.ofNat length

section
variable (payload : List UInt8)

/-- `payload[start:end]`. -/
def fragmentPayload (size i : Nat) : List UInt8 :=
  let start := i * size
  let finish := min (start + size) payload.length
  (payload.drop start).take (finish - start)

def fragmentAt (id : BundleID) (size count i : Nat) : List UInt8 :=
  marshalBundleHeader (fragmentHeader payload.length id count i) ++ fragmentPayload payload size i

/-- `Fragment`, with what the random source gave. -/
def fragment (mtu : Int64) (random : Option BundleID) :
    Except FragmentError (BundleID × List (List UInt8)) :=
  if mtu.toInt ≤ bundleHeaderLen then .error (.mtuTooSmall mtu)
  else
    let count := fragCount payload.length mtu
    if count > maxFragments then .error (.tooMany count)
    else
      match random with
      | none => .error .noBundleID
      | some bytes =>
        let id := bytes.asVersion4
        if count < 0 then .error (.negativeCount count)
        else
          let size := (mtu.toInt - bundleHeaderLen).toNat
          .ok (id, (List.range count.toNat).map (fragmentAt payload id size count.toNat))

end

/-! ## What the fragments are -/

lemma fragmentPayload_eq (payload : List UInt8) (size i : Nat) :
    fragmentPayload payload size i = piece size payload i := by
  unfold fragmentPayload piece
  dsimp only
  have bound : min (i * size + size) payload.length - i * size =
      min size (payload.drop (i * size)).length := by
    rw [length_drop]
    omega
  rw [bound, ← take_eq_take_min]

lemma le_ceil_mul (length : Int) (positive : 0 < size) :
    length ≤ (length + size - 1) / size * size := by
  have above := Int.lt_ediv_add_one_mul_self (length + size - 1) positive
  rw [Int.add_mul] at above
  omega

variable {length size : Int}

lemma quotient_spec (nonnegative : 0 ≤ length)
    (positive : 0 < size) (fits : length + size - 1 < 2 ^ 63) :
    ((length + size - 1).bmod (2 ^ 64)).tdiv size = (length + size - 1) / size := by
  rw [Int.bmod_def, Int.emod_eq_of_lt (by omega) (by omega),
    if_pos (by omega), Int.tdiv_eq_ediv_of_nonneg (by omega)]

lemma quotient_wrapped (short : length < 2 ^ 48) (positive : 0 < size) (bounded : size < 2 ^ 63)
    (wraps : 2 ^ 63 ≤ length + size - 1) : ((length + size - 1).bmod (2 ^ 64)).tdiv size ≤ 0 := by
  rw [Int.bmod_def, Int.emod_eq_of_lt (by omega) (by omega),
    if_neg (by omega), ← Int.neg_neg (_ - _), Int.neg_tdiv]
  have := Int.tdiv_nonneg (a := -(length + size - 1 - (2 ^ 64 : Nat)))
    (by omega) (Int.le_of_lt positive)
  omega

/-- There are enough fragments, or the count is negative: the sum wraps only
where the whole payload fits in one. -/
lemma fragCount_spec {length : Nat} {mtu : Int64} (large : ¬ mtu.toInt ≤ bundleHeaderLen)
    (allocated : length < maxAlloc) (nonnegative : ¬ fragCount length mtu < 0) :
    0 < fragCount length mtu ∧ length ≤ fragCount length mtu * (mtu.toInt - bundleHeaderLen) := by
  have high : mtu.toInt < 2 ^ 63 := mtu.toInt_lt
  have positive : 0 < mtu.toInt - bundleHeaderLen := by omega
  have bounded : mtu.toInt - bundleHeaderLen < 2 ^ 63 := by omega
  have short : (length : Int) < 2 ^ 48 := by
    unfold maxAlloc at allocated
    omega
  unfold fragCount at *
  dsimp only at *
  generalize mtu.toInt - bundleHeaderLen = size at *
  by_cases fits : (length : Int) + size - 1 < 2 ^ 63
  · rw [quotient_spec (by omega) positive fits] at *
    have covered := le_ceil_mul length positive
    split
    next none =>
      rw [none] at covered
      omega
    next some =>
      rw [if_neg some] at nonnegative
      exact ⟨by omega, covered⟩
  have wrapped := quotient_wrapped short positive bounded (by omega)
  split
  · omega
  next some =>
    rw [if_neg some] at nonnegative
    omega

structure Cut (payload : List UInt8) (id : BundleID) (size count : Nat)
    (fragments : List (List UInt8)) : Prop where
  positive : 0 < count
  few : count < 2 ^ 16
  enough : payload.length ≤ count * size
  eq : fragments = (List.range count).map (fragmentAt payload id size count)

lemma fragment_spec {payload : List UInt8} {mtu : Int64} {id : BundleID}
    (allocated : payload.length < maxAlloc)
    (accepted : fragment payload mtu random = .ok (id, fragments)) : ∃ size count : Nat,
    size + bundleHeaderLen = mtu.toInt ∧ Cut payload id size count fragments := by
  unfold fragment at accepted
  dsimp only at accepted
  split at accepted
  · cases accepted
  next large =>
  split at accepted
  · cases accepted
  next few =>
  split at accepted
  · cases accepted
  next bytes =>
  split at accepted
  · cases accepted
  next nonnegative =>
  cases accepted
  obtain ⟨positive, enough⟩ := fragCount_spec large allocated nonnegative
  refine ⟨_, _, ?_, ⟨?_, ?_, ?_, rfl⟩⟩
  · omega
  · omega
  · unfold maxFragments at few
    omega
  apply Int.ofNat_le.mp
  rw [Int.natCast_mul, Int.toNat_of_nonneg (by omega), Int.toNat_of_nonneg (by omega)]
  exact enough

namespace Cut

variable {payload : List UInt8} {id : BundleID} {size count : Nat} {fragments : List (List UInt8)}

section
variable (cut : Cut payload id size count fragments)

include cut

variable {data : List UInt8}

lemma mem_iff : data ∈ fragments ↔ ∃ i < count, fragmentAt payload id size count i = data := by
  rw [cut.eq, mem_map]
  simp only [mem_range]

lemma length_le (member : data ∈ fragments) : data.length ≤ bundleHeaderLen + size := by
  obtain ⟨i, _, rfl⟩ := cut.mem_iff.mp member
  rw [fragmentAt, length_append, length_marshalBundleHeader, fragmentPayload_eq]
  exact Nat.add_le_add_left (length_piece_le size payload i) _

lemma unmarshal (inside : i < count) : unmarshalBundleHeader (fragmentAt payload id size count i) =
    .ok (fragmentHeader payload.length id count i) := by
  refine unmarshal_marshal rfl ?_ _
  have few := cut.few
  apply UInt16.lt_iff_toNat_lt.mpr
  simp only [fragmentHeader, UInt16.toNat_ofNat']
  rw [Nat.mod_eq_of_lt (Nat.lt_trans inside few), Nat.mod_eq_of_lt few]
  exact inside

end

lemma drop_header (i : Nat) :
    (fragmentAt payload id size count i).drop bundleHeaderLen = piece size payload i := by
  rw [fragmentAt, drop_left' (length_marshalBundleHeader _), fragmentPayload_eq]

lemma joined (cut : Cut payload id size count fragments) :
    (List.range count).flatMap (piece size payload) = payload :=
  flatMap_piece_eq cut.enough

end Cut

end MeshSat.Dtn
