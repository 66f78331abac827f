import MeshSat.Library.Bytes

/-!
# Wire forms of resource transfers

A resource is advertised with its hash, size and segments, requested by a
bitmap of segments, sent segment by segment and confirmed by its hash.
-/

namespace MeshSat.Routing

open Library List

def fullHashLen : Nat := 32
def maxResourceSize : Nat := 1 <<< 20

structure FullHash where
  bytes : List UInt8
  length_eq : bytes.length = fullHashLen
  deriving DecidableEq

/-- `copy(hash[:], data[:FullHashLen])`. -/
def FullHash.copy (data : List UInt8) (long : fullHashLen ≤ data.length) : FullHash where
  bytes := data.take fullHashLen
  length_eq := by
    rw [length_take]
    exact Nat.min_eq_left long

lemma FullHash.copy_append (hash : FullHash) (rest : List UInt8)
    (long : fullHashLen ≤ (hash.bytes ++ rest).length) :
    FullHash.copy (hash.bytes ++ rest) long = hash := by
  obtain ⟨bytes, length⟩ := hash
  simp only [FullHash.copy]
  congr 1
  exact take_left' length

structure ResourceAdvertisement where
  resourceHash : FullHash
  totalSize : UInt32
  (segmentSize segmentCount : UInt16)
  deriving DecidableEq

structure ResourceRequest where
  resourceHash : FullHash
  bitmap : List UInt8
  deriving DecidableEq

structure ResourceSegment where
  resourceHash : FullHash
  segmentIndex : UInt16
  data : List UInt8
  deriving DecidableEq

structure ResourceProof where
  resourceHash : FullHash
  deriving DecidableEq

/-- `ErrResourceTooShort` with what the message says was needed. -/
inductive ResourceError
  | advertisementTooShort (got : Nat)
  | requestTooShort | segmentTooShort | proofTooShort
  deriving Repr, DecidableEq

def errResourceTooShort : String := "reticulum: resource packet too short"

def ResourceError.text : ResourceError → String
  | advertisementTooShort got => s!"{errResourceTooShort}: need 40 bytes, got {got}"
  | requestTooShort => s!"{errResourceTooShort}: need at least 33 bytes"
  | segmentTooShort => s!"{errResourceTooShort}: need at least 35 bytes"
  | proofTooShort => s!"{errResourceTooShort}: need 32 bytes"

def marshalResourceAdv (adv : ResourceAdvertisement) : List UInt8 :=
  adv.resourceHash.bytes ++ bytesLE 4 adv.totalSize.toNat ++
    bytesLE 2 adv.segmentSize.toNat ++ bytesLE 2 adv.segmentCount.toNat

def unmarshalResourceAdv (data : List UInt8) : Except ResourceError ResourceAdvertisement :=
  if short : data.length < fullHashLen + 4 + 2 + 2 then
    .error (.advertisementTooShort data.length)
  else
    .ok
      { resourceHash := FullHash.copy data (by omega)
        totalSize := UInt32.ofNat (valueLE ((data.drop fullHashLen).take 4))
        segmentSize := UInt16.ofNat (valueLE ((data.drop (fullHashLen + 4)).take 2))
        segmentCount := UInt16.ofNat (valueLE ((data.drop (fullHashLen + 6)).take 2)) }

def marshalResourceReq (req : ResourceRequest) : List UInt8 := req.resourceHash.bytes ++ req.bitmap

def unmarshalResourceReq (data : List UInt8) : Except ResourceError ResourceRequest :=
  if short : data.length < fullHashLen + 1 then .error .requestTooShort
  else
    .ok
      { resourceHash := FullHash.copy data (by omega)
        bitmap := data.drop fullHashLen }

def marshalResourceSegment (seg : ResourceSegment) : List UInt8 :=
  seg.resourceHash.bytes ++ bytesLE 2 seg.segmentIndex.toNat ++ seg.data

def unmarshalResourceSegment (data : List UInt8) : Except ResourceError ResourceSegment :=
  if short : data.length < fullHashLen + 2 + 1 then .error .segmentTooShort
  else
    .ok
      { resourceHash := FullHash.copy data (by omega)
        segmentIndex := UInt16.ofNat (valueLE ((data.drop fullHashLen).take 2))
        data := data.drop (fullHashLen + 2) }

def marshalResourceProof (prf : ResourceProof) : List UInt8 :=
  prf.resourceHash.bytes

def unmarshalResourceProof (data : List UInt8) : Except ResourceError ResourceProof :=
  if short : data.length < fullHashLen then .error .proofTooShort
  else .ok { resourceHash := FullHash.copy data (by omega) }

lemma unmarshal_marshalResourceAdv (adv : ResourceAdvertisement) :
    unmarshalResourceAdv (marshalResourceAdv adv) = .ok adv := by
  have hashLength := adv.resourceHash.length_eq
  have layout : marshalResourceAdv adv = [adv.resourceHash.bytes, bytesLE 4 adv.totalSize.toNat,
        bytesLE 2 adv.segmentSize.toNat, bytesLE 2 adv.segmentCount.toNat].flatten := by
    simp [marshalResourceAdv]
  have totalSize : ((marshalResourceAdv adv).drop fullHashLen).take 4 =
      bytesLE 4 adv.totalSize.toNat := by
    rw [layout]
    exact take_drop_flatten [_] _ _ (by simp [hashLength]) (by simp)
  have segmentSize : ((marshalResourceAdv adv).drop (fullHashLen + 4)).take 2 =
      bytesLE 2 adv.segmentSize.toNat := by
    rw [layout]
    exact take_drop_flatten [_, _] _ _ (by simp [hashLength]) (by simp)
  have segmentCount : ((marshalResourceAdv adv).drop (fullHashLen + 6)).take 2 =
        bytesLE 2 adv.segmentCount.toNat := by
    rw [layout]
    exact take_drop_flatten [_, _, _] _ _ (by simp [hashLength]) (by simp)
  have long : ¬ (marshalResourceAdv adv).length < fullHashLen + 4 + 2 + 2 := by
    simp [marshalResourceAdv, hashLength, fullHashLen]
  have hash : ∀ enough, FullHash.copy (marshalResourceAdv adv) enough = adv.resourceHash := by
    rw [marshalResourceAdv, append_assoc, append_assoc]
    exact FullHash.copy_append _ _
  rw [unmarshalResourceAdv, dif_neg long, totalSize, segmentSize, segmentCount,
    hash, valueLE_bytesLE_of_lt adv.totalSize.toNat_lt,
    valueLE_bytesLE_of_lt adv.segmentSize.toNat_lt,
    valueLE_bytesLE_of_lt adv.segmentCount.toNat_lt, UInt32.ofNat_toNat,
    UInt16.ofNat_toNat, UInt16.ofNat_toNat]

lemma unmarshal_marshalResourceSegment (some : seg.data ≠ []) :
    unmarshalResourceSegment (marshalResourceSegment seg) = .ok seg := by
  have hashLength := seg.resourceHash.length_eq
  have dataLength := length_pos_iff.mpr some
  have index : ((marshalResourceSegment seg).drop fullHashLen).take 2 =
      bytesLE 2 seg.segmentIndex.toNat := by
    rw [marshalResourceSegment, append_assoc, drop_left' hashLength, take_left' (by simp)]
  have data : (marshalResourceSegment seg).drop (fullHashLen + 2) = seg.data := by
    rw [marshalResourceSegment, drop_left']
    simp [hashLength, fullHashLen]
  have long : ¬ (marshalResourceSegment seg).length < fullHashLen + 2 + 1 := by
    simp only [marshalResourceSegment, length_append, hashLength, length_bytesLE, fullHashLen]
    omega
  have hash : ∀ enough, FullHash.copy (marshalResourceSegment seg) enough = seg.resourceHash := by
    rw [marshalResourceSegment, append_assoc]
    exact FullHash.copy_append _ _
  rw [unmarshalResourceSegment, dif_neg long, index, data, hash,
    valueLE_bytesLE_of_lt seg.segmentIndex.toNat_lt, UInt16.ofNat_toNat]

/-! ## Segments -/

def computeSegmentCount (totalSize segmentSize : Nat) : Nat :=
  if segmentSize = 0 ∨ totalSize = 0 then 0
  else (totalSize + segmentSize - 1) / segmentSize

section
variable {totalSize segmentSize : Nat} (sized : 0 < segmentSize)

include sized

lemma computeSegmentCount_pos (some : 0 < totalSize) :
    0 < computeSegmentCount totalSize segmentSize := by
  rw [computeSegmentCount, if_neg (by omega)]
  exact Nat.div_pos (by omega) sized

lemma le_computeSegmentCount_mul :
    totalSize ≤ computeSegmentCount totalSize segmentSize * segmentSize := by
  rw [computeSegmentCount]
  split
  · omega
  have cut := Nat.div_add_mod (totalSize + segmentSize - 1) segmentSize
  have left := Nat.mod_lt (totalSize + segmentSize - 1) sized
  rw [mul_comm] at cut
  omega

end

lemma mul_lt_of_lt_computeSegmentCount {totalSize segmentSize i : Nat} (sized : 0 < segmentSize)
    (inside : i < computeSegmentCount totalSize segmentSize) : i * segmentSize < totalSize := by
  rw [computeSegmentCount] at inside
  split at inside
  · omega
  have below := (Nat.lt_div_iff_mul_lt sized).mp inside
  omega

/-! ## Bitmaps -/

/-- `1 << bitIdx` in a byte. -/
def bitMask (index : Nat) : UInt8 := 1 <<< UInt8.ofNat (index % 8)

/-- Unused high bits in the last byte are clear. -/
def newBitmap (segmentCount : Nat) : List UInt8 :=
  let bm := List.replicate ((segmentCount + 7) / 8) 0xFF
  if segmentCount % 8 ≠ 0 then
    bm.set (bm.length - 1) (bitMask (segmentCount % 8) - 1)
  else bm

section
variable (bitmap : List UInt8)

def bitmapGet (index : Nat) : Bool :=
  if index / 8 ≥ bitmap.length then false
  else bitmap.getD (index / 8) 0 &&& bitMask index != 0

def bitmapClear (index : Nat) : List UInt8 :=
  if index / 8 < bitmap.length then
    bitmap.set (index / 8) (bitmap.getD (index / 8) 0 &&& ~~~ bitMask index)
  else bitmap

def bitmapAllClear : Bool := bitmap.all fun b => b == 0

end

lemma byte_clear (b : UInt8) (i j : Fin 8) : ((b &&& ~~~ bitMask i.val) &&& bitMask j.val != 0) =
    ((b &&& bitMask j.val != 0) && decide (i ≠ j)) := by
  revert b
  apply forall_byte
  revert i j
  decide +kernel

lemma byte_eq_zero (clear : ∀ i : Fin 8, b &&& bitMask i.val = 0) : b = 0 := by
  revert b
  apply forall_byte
  decide +kernel

lemma byte_full (i : Fin 8) : ((0xFF : UInt8) &&& bitMask i.val != 0) = true := by
  revert i
  decide

lemma byte_low (count i : Fin 8) (some : count.val ≠ 0) :
    ((bitMask count.val - 1) &&& bitMask i.val != 0) = decide (i.val < count.val) := by
  revert count i
  decide

lemma bitMask_mod (index : Nat) : bitMask (index % 8) = bitMask index := by
  rw [bitMask, bitMask, Nat.mod_mod]

lemma bitmapGet_newBitmap (segmentCount index : Nat) :
    bitmapGet (newBitmap segmentCount) index = decide (index < segmentCount) := by
  have bit : index % 8 < 8 := Nat.mod_lt _ (by decide)
  have full := byte_full ⟨index % 8, bit⟩
  rw [bitMask_mod] at full
  rw [newBitmap]
  by_cases whole : segmentCount % 8 = 0
  · simp only [whole, ne_eq, not_true_eq_false, if_false]
    rw [bitmapGet, length_replicate]
    by_cases beyond : (segmentCount + 7) / 8 ≤ index / 8
    · rw [if_pos beyond, eq_comm, decide_eq_false_iff_not]
      omega
    rw [if_neg beyond, getD_eq_getElem?_getD,
      List.getElem?_replicate_of_lt (by omega), Option.getD_some, full,
      eq_comm, decide_eq_true_eq]
    omega
  simp only [ne_eq, whole, not_false_eq_true, if_true]
  rw [bitmapGet, length_set, length_replicate]
  by_cases beyond : (segmentCount + 7) / 8 ≤ index / 8
  · rw [if_pos beyond, eq_comm, decide_eq_false_iff_not]
    omega
  rw [if_neg beyond, getD_eq_getElem?_getD]
  by_cases last : (segmentCount + 7) / 8 - 1 = index / 8
  · have low := byte_low ⟨segmentCount % 8, Nat.mod_lt _ (by decide)⟩ ⟨index % 8, bit⟩ whole
    rw [bitMask_mod index] at low
    rw [last, List.getElem?_set_self (by
      rw [length_replicate]
      omega), Option.getD_some, low, decide_eq_decide]
    show index % 8 < segmentCount % 8 ↔ _
    omega
  rw [List.getElem?_set_ne last, List.getElem?_replicate_of_lt (by omega), Option.getD_some, full,
    eq_comm, decide_eq_true_eq]
  omega

lemma bitmapGet_bitmapClear (bitmap : List UInt8) (index other : Nat) :
    bitmapGet (bitmapClear bitmap index) other =
    (bitmapGet bitmap other && decide (index ≠ other)) := by
  rw [bitmapClear]
  split
  next inside =>
    have cleared := byte_clear (bitmap.getD (index / 8) 0)
      ⟨index % 8, Nat.mod_lt _ (by decide)⟩ ⟨other % 8, Nat.mod_lt _ (by decide)⟩
    rw [bitMask_mod, bitMask_mod] at cleared
    rw [bitmapGet, bitmapGet, length_set]
    by_cases beyond : bitmap.length ≤ other / 8
    · rw [if_pos beyond, if_pos beyond, Bool.false_and]
    rw [if_neg beyond, if_neg beyond]
    by_cases same : index / 8 = other / 8
    · have byte : (bitmap.set (index / 8) (bitmap.getD (index / 8) 0 &&& ~~~ bitMask index)).getD
            (index / 8) 0 = bitmap.getD (index / 8) 0 &&& ~~~ bitMask index := by
        rw [getD_eq_getElem?_getD, List.getElem?_set_self inside, Option.getD_some]
      rw [← same, byte, cleared]
      congr 1
      rw [decide_eq_decide, Ne, Ne, Fin.mk.injEq]
      omega
    have different : index ≠ other := fun equal => same (by rw [equal])
    rw [getD_eq_getElem?_getD, List.getElem?_set_ne same,
      ← getD_eq_getElem?_getD, decide_eq_true different, Bool.and_true]
  rename_i outside
  by_cases same : index = other
  · subst same
    rw [bitmapGet, if_pos (not_lt.mp outside), Bool.false_and]
  · rw [decide_eq_true same, Bool.and_true]

lemma bitmapAllClear_iff (bitmap : List UInt8) :
    bitmapAllClear bitmap = true ↔ ∀ index, bitmapGet bitmap index = false := by
  rw [bitmapAllClear, all_eq_true]
  constructor
  · intro zero index
    rw [bitmapGet]
    split
    · rfl
    rename_i inside
    have byte := zero (bitmap.getD (index / 8) 0) (by
      rw [getD_eq_getElem?_getD, List.getElem?_eq_getElem (not_le.mp inside), Option.getD_some]
      exact getElem_mem _)
    rw [eq_of_beq byte, UInt8.zero_and]
    rfl
  intro clear b member
  obtain ⟨position, inside, rfl⟩ := getElem_of_mem member
  have zero : bitmap[position] = 0 := by
    apply byte_eq_zero
    intro i
    have bit := clear (position * 8 + i.val)
    have byteIndex : (position * 8 + i.val) / 8 = position := by omega
    have mask : bitMask (position * 8 + i.val) = bitMask i.val := by
      rw [bitMask, bitMask]
      congr 2
      omega
    rw [bitmapGet, byteIndex, if_neg (not_le.mpr inside), mask,
      getD_eq_getElem?_getD, List.getElem?_eq_getElem inside, Option.getD_some] at bit
    simpa using bit
  rw [zero]
  rfl

end MeshSat.Routing
