import Mathlib
import MeshSat.Library.Gather
import MeshSat.Dtn.Fragment

/-!
# Forward error correction

A payload is cut into data shards, to which a Reed-Solomon coder adds parity
shards; a header says how many there are, how long they are and how their
bytes are interleaved. The coder is a library of its own.
-/

namespace MeshSat.Engine

open Library List
open MeshSat.Dtn (hexByte)

def fecVersion1 : UInt8 := 0x01
def fecVersion2 : UInt8 := 0x02
def fecHeaderLenV1 : Nat := 5
def fecHeaderLenV2 : Nat := 6
def fecFlagInterleaved : UInt8 := 0x01
def fecOrigLenTrailer : Nat := 4

inductive FecError where
  | dataShards (got : Int)
  | parityShards (got : Int)
  | shardSum
  | createEncoder (cause : String)
  | encode (cause : String)
  | shardSizeMax (size : Nat)
  | headerShort (length : Nat)
  | version (version : UInt8)
  | shardCounts (k m : Nat)
  | shardSize (size : Nat)
  | headerShortV2 (length : Nat)
  | payloadShort (need got : Nat)
  | createDecoder (cause : String)
  | reconstruct (cause : String)
  | noPrefix
  | origLen (origLen length : Nat)
  deriving DecidableEq

def FecError.text : FecError → String
  | .dataShards got => "fec: data_shards must be 1-255 (got " ++ toString got ++ ")"
  | .parityShards got => "fec: parity_shards must be 1-255 (got " ++ toString got ++ ")"
  | .shardSum => "fec: data_shards + parity_shards must be <= 256"
  | .createEncoder cause => "fec: create encoder: " ++ cause
  | .encode cause => "fec: encode: " ++ cause
  | .shardSizeMax size => "fec: shard size " ++ toString size ++ " exceeds uint16 max"
  | .headerShort length => "fec: data too short for header (" ++ toString length ++ " bytes)"
  | .version found => "fec: unsupported version 0x" ++ hexByte found
  | .shardCounts k m => "fec: invalid shard counts k=" ++ toString k ++ " m=" ++ toString m
  | .shardSize size => "fec: invalid shard size " ++ toString size
  | .headerShortV2 length => "fec: v2 data too short for header (" ++ toString length ++ " bytes)"
  | .payloadShort need got =>
    "fec: payload too short (need " ++ toString need ++ ", got " ++ toString got ++ ")"
  | .createDecoder cause => "fec: create decoder: " ++ cause
  | .reconstruct cause => "fec: reconstruct failed: " ++ cause
  | .noPrefix => "fec: decoded data too short for length prefix"
  | .origLen stated length =>
    "fec: original length " ++ toString stated ++ " exceeds decoded data " ++ toString length

/-! ## The Reed-Solomon library -/

/-- A coder for some numbers of data and parity shards. -/
structure Encoder where
  encode : List (List UInt8) → Except String (List (List UInt8))
  verify : List (List UInt8) → Except String Bool
  reconstruct : List (List UInt8) → Except String (List (List UInt8))

structure ReedSolomon where
  new : Nat → Nat → Except String Encoder

/-! ## Interleaving -/

/-- The positions below `n` in the order in which both loops visit them. The
stride is computed in 64 bits. -/
def interleaveOrder (n : Nat) (depth : Int) : List Nat :=
  let stride := (Int.bmod (n + depth - 1) (2 ^ 64)).tdiv depth
  columnOrder n depth.toNat stride.toNat

def fecInterleave (data : List UInt8) (depth : Int) : List UInt8 :=
  if depth ≤ 1 ∨ data = [] then data
  else gather (interleaveOrder data.length depth) data

def fecDeinterleave (data : List UInt8) (depth : Int) : List UInt8 :=
  if depth ≤ 1 ∨ data = [] then data
  else scatter (interleaveOrder data.length depth) data (List.replicate data.length 0)

/-! ## Encoding -/

structure EncodeOpts where
  interleave : Bool
  interleaveDepth : Int
  deriving DecidableEq

/-- The length and the payload, filled up to a multiple of the shards. -/
def fecPadded (data : List UInt8) (dataShards : Nat) : List UInt8 :=
  let prefixed := bytesLE fecOrigLenTrailer data.length ++ data
  let rem := prefixed.length % dataShards
  if rem ≠ 0 then prefixed ++ List.replicate (dataShards - rem) 0 else prefixed

/-- Bit 0 says that the shards are interleaved, bits 1 to 4 how deep: 0 to 15
for 1 to 16. -/
def fecFlags (opt : EncodeOpts) : UInt8 :=
  if opt.interleave ∧ opt.interleaveDepth > 0 then
    let depthEnc := min (max (opt.interleaveDepth - 1) 0) 15
    fecFlagInterleaved ||| (UInt8.ofNat (depthEnc.toNat <<< 1) &&& 0x1E)
  else 0

def fecHeader (dataShards parityShards shardSize : Nat) (flags : UInt8) : List UInt8 :=
  [fecVersion2, UInt8.ofNat dataShards, UInt8.ofNat parityShards] ++ bytesLE 2 shardSize ++ [flags]

/-- The shards one after the other, the interleaved bytes copied over them. -/
def fecBody (shards : List (List UInt8)) (flags : UInt8) (depth : Int) : List UInt8 :=
  let shardData := shards.flatten
  if flags &&& fecFlagInterleaved ≠ 0 then
    let interleaved := fecInterleave shardData depth
    interleaved ++ shardData.drop interleaved.length
  else shardData

def fecShards (padded : List UInt8) (dataShards parityShards : Nat) : List (List UInt8) :=
  let shardSize := padded.length / dataShards
  (List.range dataShards).map (piece shardSize padded) ++
    List.replicate parityShards (List.replicate shardSize 0)

def fecEncode (rs : ReedSolomon) (data : List UInt8)
    (dataShards parityShards : Int) (opts : List EncodeOpts) : Except FecError (List UInt8) :=
  if dataShards < 1 ∨ dataShards > 255 then .error (.dataShards dataShards)
  else if parityShards < 1 ∨ parityShards > 255 then
    .error (.parityShards parityShards)
  else if dataShards + parityShards > 256 then .error .shardSum
  else
    let k := dataShards.toNat
    let m := parityShards.toNat
    let opt := opts.headD { interleave := false, interleaveDepth := 0 }
    match rs.new k m with
    | .error cause => .error (.createEncoder cause)
    | .ok enc =>
      let padded := fecPadded data k
      let shardSize := padded.length / k
      match enc.encode (fecShards padded k m) with
      | .error cause => .error (.encode cause)
      | .ok shards =>
        if shardSize > 65535 then .error (.shardSizeMax shardSize)
        else
          let flags := fecFlags opt
          .ok (fecHeader k m shardSize flags ++ fecBody shards flags opt.interleaveDepth)

/-! ## Decoding -/

/-- The shards as they are, if they verify, or as the coder repairs them. -/
def fecVerified (enc : Encoder) (shards : List (List UInt8)) :
    Except FecError (List (List UInt8)) :=
  match enc.verify shards with
  | .ok true => .ok shards
  | _ => (enc.reconstruct shards).mapError .reconstruct

def fecPayload (shards : List (List UInt8)) (dataShards : Nat) : Except FecError (List UInt8) :=
  let result := (shards.take dataShards).flatten
  if result.length < fecOrigLenTrailer then .error .noPrefix
  else
    let origLen := valueLE (result.take fecOrigLenTrailer)
    let rest := result.drop fecOrigLenTrailer
    if origLen > rest.length then .error (.origLen origLen rest.length)
    else .ok (rest.take origLen)

def fecDecodeShards (rs : ReedSolomon) (dataShards parityShards shardSize : Nat)
    (shardData : List UInt8) : Except FecError (List UInt8) :=
  match rs.new dataShards parityShards with
  | .error cause => .error (.createDecoder cause)
  | .ok enc =>
    let shards := (List.range (dataShards + parityShards)).map (piece shardSize shardData)
    match fecVerified enc shards with
    | .error error => .error error
    | .ok shards => fecPayload shards dataShards

def fecDepth (flags : UInt8) : Int :=
  if flags &&& fecFlagInterleaved ≠ 0 then
    (((flags >>> 1) &&& 0x0F).toNat + 1 : Nat)
  else 0

def fecDecode (rs : ReedSolomon) (data : List UInt8) : Except FecError (List UInt8) :=
  if data.length < fecHeaderLenV1 then .error (.headerShort data.length)
  else
    let version := data.getD 0 0
    if version ≠ fecVersion1 ∧ version ≠ fecVersion2 then
      .error (.version version)
    else
      let dataShards := (data.getD 1 0).toNat
      let parityShards := (data.getD 2 0).toNat
      let shardSize := valueLE ((data.drop 3).take 2)
      if dataShards < 1 ∨ parityShards < 1 then
        .error (.shardCounts dataShards parityShards)
      else if shardSize < 1 then .error (.shardSize shardSize)
      else if version = fecVersion2 ∧ data.length < fecHeaderLenV2 then
        .error (.headerShortV2 data.length)
      else
        let headerLen :=
          if version = fecVersion2 then fecHeaderLenV2 else fecHeaderLenV1
        let depth := if version = fecVersion2 then fecDepth (data.getD 5 0) else 0
        let total := (dataShards + parityShards) * shardSize
        if data.length < headerLen + total then
          .error (.payloadShort (headerLen + total) data.length)
        else
          let shardData := (data.drop headerLen).take total
          let ordered :=
            if depth > 0 then fecDeinterleave shardData depth else shardData
          fecDecodeShards rs dataShards parityShards shardSize ordered

/-! ## Interleaving and back -/

variable {depth : Int} {data : List UInt8} {k : Nat} {shards : List (List UInt8)}

lemma perm_interleaveOrder {n : Nat} (positive : 1 ≤ depth) (fits : n + depth ≤ 2 ^ 63) :
    (interleaveOrder n depth).Perm (List.range n) := by
  obtain ⟨d, rfl⟩ := Int.eq_ofNat_of_zero_le (Int.le_of_lt positive)
  have sum : Int.bmod (n + d - 1) (2 ^ 64) = (n + d - 1 : Nat) := by
    rw [Int.bmod_eq_of_le] <;> omega
  apply perm_columnOrder
  rw [sum, ← Int.ofNat_tdiv, Int.toNat_natCast, Int.toNat_natCast]
  have division := Nat.div_add_mod' (n + d - 1) d
  have remainder := Nat.mod_lt (n + d - 1) (y := d) (by omega)
  omega

lemma length_fecInterleave (fits : data.length + depth ≤ 2 ^ 63) :
    (fecInterleave data depth).length = data.length := by
  rw [fecInterleave]
  split
  · rfl
  rename_i deep
  rw [not_or] at deep
  have order := perm_interleaveOrder (by omega) fits
  rw [length_gather fun position among =>
    mem_range.mp (order.subset among), order.length_eq,
    length_range]

lemma length_fecInterleave_le (data : List UInt8) (depth : Int) :
    (fecInterleave data depth).length ≤ data.length := by
  rw [fecInterleave]
  split
  · exact le_rfl
  · exact length_gather_columnOrder_le _ _ _

lemma length_fecBody (shards : List (List UInt8)) (flags : UInt8) (depth : Int) :
    (fecBody shards flags depth).length = shards.flatten.length := by
  simp only [fecBody]
  split
  · have few := length_fecInterleave_le shards.flatten depth
    rw [length_append, length_drop]
    omega
  · rfl

lemma fecDeinterleave_fecInterleave (fits : data.length + depth ≤ 2 ^ 63) :
    fecDeinterleave (fecInterleave data depth) depth = data := by
  have length := length_fecInterleave fits
  by_cases trivial : depth ≤ 1 ∨ data = []
  · rw [fecInterleave, if_pos trivial, fecDeinterleave, if_pos trivial]
  rw [not_or] at trivial
  have interleaved : fecInterleave data depth = gather (interleaveOrder data.length depth) data :=
    if_neg (by simp [trivial.1, trivial.2])
  have nonempty : fecInterleave data depth ≠ [] := by
    rw [← length_pos_iff, length]
    exact length_pos_of_ne_nil trivial.2
  rw [fecDeinterleave, if_neg (by simp [trivial.1, nonempty]), length, interleaved]
  apply scatter_gather
  · exact perm_interleaveOrder (by omega) fits
  · rw [length_replicate]

lemma length_fecDeinterleave (data : List UInt8) (depth : Int) :
    (fecDeinterleave data depth).length = data.length := by
  rw [fecDeinterleave]
  split
  · rfl
  · rw [length_scatter, length_replicate]

/-- Both loops visit every position once, each with an index of its own. The sum is not to exceed
64 bits, and no index is out of range where it does. -/
theorem interleave_undone (data : List UInt8) (depth : Int) :
    (data.length + depth ≤ 2 ^ 63 → fecDeinterleave (fecInterleave data depth) depth = data ∧
      (fecInterleave data depth).length = data.length) ∧
    (fecDeinterleave data depth).length = data.length ∧
    ∀ idx position, (interleaveOrder data.length depth)[idx]? = some position →
      idx < data.length ∧ position < data.length := by
  refine ⟨fun fits => ⟨fecDeinterleave_fecInterleave fits, length_fecInterleave fits⟩,
    length_fecDeinterleave data depth, ?_⟩
  intro idx position visited
  obtain ⟨among, rfl⟩ := List.getElem?_eq_some_iff.mp visited
  constructor
  · exact among.trans_le (length_columnOrder_le _ _ _)
  · exact (mem_columnOrder.mp (getElem_mem among)).1

/-- Nothing is visited where the stride is negative. -/
theorem interleave_loses : fecInterleave [1, 2] (2 ^ 63 - 1) = [] ∧
    fecDeinterleave (fecInterleave [1, 2] (2 ^ 63 - 1)) (2 ^ 63 - 1) ≠ [1, 2] := by
  have none : fecInterleave [1, 2] (2 ^ 63 - 1) = [] :=
    congrArg (gather · _) (columnOrder_no_rows 2 (2 ^ 63 - 1))
  rw [none]
  exact ⟨rfl, by simp [fecDeinterleave]⟩

/-! ## The header -/

lemma fecDepth_fecFlags (interleave : opt.interleave)
    (positive : opt.interleaveDepth > 0) : fecFlags opt &&& fecFlagInterleaved ≠ 0 ∧
    fecDepth (fecFlags opt) = min opt.interleaveDepth 16 := by
  have stated : ∀ depthEnc < 16,
      (fecFlagInterleaved ||| (UInt8.ofNat (depthEnc <<< 1) &&& 0x1E)) &&& fecFlagInterleaved ≠ 0 ∧
        fecDepth (fecFlagInterleaved |||
          (UInt8.ofNat (depthEnc <<< 1) &&& 0x1E)) = (depthEnc + 1 : Nat) := by
    decide
  obtain ⟨flagged, depth⟩ := stated (min (max (opt.interleaveDepth - 1) 0) 15).toNat (by omega)
  rw [fecFlags, if_pos ⟨interleave, positive⟩]
  exact ⟨flagged, by rw [depth]; omega⟩

lemma toNat_shards {count : Nat} (few : count ≤ 255) : (UInt8.ofNat count).toNat = count := by
  rw [UInt8.toNat_ofNat', Nat.mod_eq_of_lt (by omega)]

lemma fecDecode_header (rs : ReedSolomon) {m size : Nat} {flags : UInt8}
    {body : List UInt8} (data : 1 ≤ k ∧ k ≤ 255) (parity : 1 ≤ m ∧ m ≤ 255)
    (sized : 1 ≤ size ∧ size ≤ 65535) (long : body.length = (k + m) * size) :
    fecDecode rs (fecHeader k m size flags ++ body) = fecDecodeShards rs k m size
        (if fecDepth flags > 0 then fecDeinterleave body (fecDepth flags)
        else body) := by
  have layout : fecHeader k m size flags ++ body =
      [[fecVersion2, UInt8.ofNat k, UInt8.ofNat m], bytesLE 2 size, [flags], body].flatten := by
    simp [fecHeader]
  have stated : ((fecHeader k m size flags ++ body).drop 3).take 2 = bytesLE 2 size := by
    rw [layout]
    exact take_drop_flatten [_] _ _ rfl (by simp)
  have behind : (fecHeader k m size flags ++ body).drop 6 = body := drop_left' (by simp [fecHeader])
  have length : (fecHeader k m size flags ++ body).length = 6 + (k + m) * size := by
    rw [length_append, long]
    simp [fecHeader]
  have value : valueLE (bytesLE 2 size) = size := valueLE_bytesLE_of_lt (by omega)
  have version : (fecHeader k m size flags ++ body).getD 0 0 = fecVersion2 :=
    rfl
  have dataShards : (fecHeader k m size flags ++ body).getD 1 0 = UInt8.ofNat k := rfl
  have parityShards : (fecHeader k m size flags ++ body).getD 2 0 = UInt8.ofNat m := rfl
  have flagged : (fecHeader k m size flags ++ body).getD 5 0 = flags := rfl
  simp only [fecDecode, length, version, dataShards, parityShards, flagged,
    stated, value, toNat_shards data.2, toNat_shards parity.2, if_true,
    fecHeaderLenV1, fecHeaderLenV2, behind, ← long, take_length]
  rw [if_neg (by omega), if_neg (by simp), if_neg (by omega),
    if_neg (by omega), if_neg (by omega), if_neg (by omega)]

/-! ## The shards -/

section
variable (data : List UInt8)

lemma fecPadded_eq (k : Nat) : ∃ padding,
    fecPadded data k = bytesLE 4 data.length ++ data ++ List.replicate padding 0 := by
  simp only [fecPadded]
  split
  · exact ⟨_, rfl⟩
  · exact ⟨0, (append_nil _).symm⟩

lemma dvd_length_fecPadded (positive : 1 ≤ k) : k ∣ (fecPadded data k).length := by
  simp only [fecPadded]
  generalize bytesLE fecOrigLenTrailer data.length ++ data = prefixed
  split
  next rest =>
    have small := Nat.mod_lt prefixed.length positive
    have division := Nat.div_add_mod prefixed.length k
    refine ⟨prefixed.length / k + 1, ?_⟩
    rw [length_append, length_replicate, Nat.mul_succ]
    omega
  next whole => exact Nat.dvd_of_mod_eq_zero (not_not.mp whole)

lemma length_fecPadded (positive : 1 ≤ k) :
    (fecPadded data k).length = k * ((fecPadded data k).length / k) :=
  (Nat.mul_div_cancel' (dvd_length_fecPadded data positive)).symm

lemma length_le_fecPadded (k : Nat) : 4 + data.length ≤ (fecPadded data k).length := by
  obtain ⟨padding, padded⟩ := fecPadded_eq data k
  rw [padded]
  simp

end

def Sized (count size : Nat) (shards : List (List UInt8)) : Prop :=
  shards.length = count ∧ ∀ shard ∈ shards, shard.length = size

lemma Sized.length_flatten {count size : Nat} (sized : Sized count size shards) :
    shards.flatten.length = count * size := by
  obtain ⟨rfl, sized⟩ := sized
  induction shards with
  | nil => simp
  | cons shard shards induction =>
    have first := sized shard mem_cons_self
    have rest := induction fun other among =>
      sized other (mem_cons_of_mem _ among)
    rw [flatten_cons, length_append, rest, first, length_cons, add_one_mul, add_comm]

lemma sized_fecShards (data : List UInt8) (m : Nat) (positive : 1 ≤ k) :
    Sized (k + m) ((fecPadded data k).length / k) (fecShards (fecPadded data k) k m) := by
  constructor
  · simp [fecShards]
  intro shard among
  rcases mem_append.mp among with dataShard | parityShard
  · obtain ⟨position, inside, rfl⟩ := mem_map.mp dataShard
    exact length_piece (length_fecPadded data positive) (mem_range.mp inside)
  · rw [eq_of_mem_replicate parityShard, length_replicate]

lemma fecPayload_fecShards (positive : 1 ≤ k) (fits : data.length < 2 ^ 32)
    (kept : shards.take k = (fecShards (fecPadded data k) k m).take k) :
    fecPayload shards k = .ok data := by
  have first : (fecShards (fecPadded data k) k m).take k =
      (List.range k).map (piece ((fecPadded data k).length / k) (fecPadded data k)) := by
    rw [fecShards]
    exact take_left' (by simp)
  have whole : (shards.take k).flatten = fecPadded data k := by
    rw [kept, first, ← flatMap_def]
    exact flatMap_piece_eq (Nat.le_of_eq (length_fecPadded data positive))
  have long := length_le_fecPadded data k
  obtain ⟨padding, padded⟩ := fecPadded_eq data k
  have stated : (fecPadded data k).take 4 = bytesLE 4 data.length := by
    rw [padded, append_assoc]
    exact take_left' (by simp)
  have behind : (fecPadded data k).drop 4 = data ++ List.replicate padding 0 := by
    rw [padded, append_assoc]
    exact drop_left' (by simp)
  have value : valueLE (bytesLE 4 data.length) = data.length := valueLE_bytesLE_of_lt fits
  have enough : ¬ data.length > (data ++ List.replicate padding 0).length := by
    rw [length_append]
    omega
  simp only [fecPayload, fecOrigLenTrailer, whole, stated, behind, value]
  rw [if_neg (by omega), if_neg enough, take_left]

/-! ## What the coder is taken to do -/

/-- The coder takes the numbers and shards it is made for, keeps the data
shards, verifies what it encoded, and repairs nothing where nothing is
missing. -/
structure ReedSolomon.Lawful (rs : ReedSolomon) : Prop where
  new : ∀ k m, 1 ≤ k → 1 ≤ m → k + m ≤ 256 → ∃ enc, rs.new k m = .ok enc
  encode : ∀ k m enc, rs.new k m = .ok enc → ∀ size shards, 1 ≤ size →
    Sized (k + m) size shards → ∃ coded, enc.encode shards = .ok coded ∧
      Sized (k + m) size coded ∧ coded.take k = shards.take k ∧ enc.verify coded = .ok true
  reconstruct : ∀ k m enc, rs.new k m = .ok enc → ∀ size shards, 1 ≤ size →
    Sized (k + m) size shards → enc.reconstruct shards = .ok shards

/-- The option that counts is the first. -/
def EncodeOpts.ofList (opts : List EncodeOpts) : EncodeOpts :=
  opts.headD { interleave := false, interleaveDepth := 0 }

open EncodeOpts

/-- Everything that an accepted payload went through. -/
structure Encoded (rs : ReedSolomon) (data : List UInt8) (k m : Nat)
    (opt : EncodeOpts) (out : List UInt8) (enc : Encoder) (shards : List (List UInt8)) : Prop where
  dataShards : 1 ≤ k ∧ k ≤ 255
  parityShards : 1 ≤ m ∧ m ≤ 255
  sum : k + m ≤ 256
  new : rs.new k m = .ok enc
  encode : enc.encode (fecShards (fecPadded data k) k m) = .ok shards
  size : (fecPadded data k).length / k ≤ 65535
  out_eq : out = fecHeader k m ((fecPadded data k).length / k) (fecFlags opt) ++
    fecBody shards (fecFlags opt) opt.interleaveDepth

variable {dataShards parityShards : Int} {out : List UInt8}

lemma fecEncode_eq_ok (encoded : fecEncode rs data dataShards parityShards opts = .ok out) :
    ∃ enc shards,
    Encoded rs data dataShards.toNat parityShards.toNat (.ofList opts) out enc shards := by
  simp only [fecEncode] at encoded
  split at encoded
  · exact nomatch encoded
  split at encoded
  · exact nomatch encoded
  split at encoded
  · exact nomatch encoded
  split at encoded
  · exact nomatch encoded
  rename_i enc new
  split at encoded
  · exact nomatch encoded
  rename_i shards encode
  split at encoded
  · exact nomatch encoded
  next small =>
    exact ⟨enc, shards, by omega, by omega, by omega, new, encode,
      by omega, (Except.ok.inj encoded).symm⟩

section
variable {rs : ReedSolomon} {data out : List UInt8} {k m : Nat}
variable {opt : EncodeOpts} {enc : Encoder} {shards : List (List UInt8)}

section
variable (encoded : Encoded rs data k m opt out enc shards)

include encoded

lemma Encoded.one_le_size : 1 ≤ (fecPadded data k).length / k := by
  have long := length_le_fecPadded data k
  have whole := length_fecPadded data encoded.dataShards.1
  apply Nat.pos_of_ne_zero
  intro zero
  rw [zero, mul_zero] at whole
  omega

lemma Encoded.length_lt : data.length < 2 ^ 32 := by
  have long := length_le_fecPadded data k
  have whole := length_fecPadded data encoded.dataShards.1
  have bound := Nat.mul_le_mul encoded.dataShards.2 encoded.size
  omega

lemma Encoded.coded (lawful : rs.Lawful) : Sized (k + m) ((fecPadded data k).length / k) shards ∧
    shards.take k = (fecShards (fecPadded data k) k m).take k ∧ enc.verify shards = .ok true := by
  obtain ⟨coded, same, laws⟩ := lawful.encode k m enc encoded.new _ _
    encoded.one_le_size (sized_fecShards data m encoded.dataShards.1)
  rw [encoded.encode] at same
  rw [Except.ok.inj same]
  exact laws

lemma Encoded.length_shards (lawful : rs.Lawful) : shards.flatten.length ≤ 2 ^ 24 := by
  have bound := Nat.mul_le_mul encoded.sum encoded.size
  rw [(encoded.coded lawful).1.length_flatten]
  omega

end

end

/-- The bytes behind the header, in the order the decoder puts them. -/
def fecOrdered (shards : List (List UInt8)) (opt : EncodeOpts) : List UInt8 :=
  let body := fecBody shards (fecFlags opt) opt.interleaveDepth
  if fecDepth (fecFlags opt) > 0 then
    fecDeinterleave body (fecDepth (fecFlags opt))
  else body

variable {shards : List (List UInt8)} {opt : EncodeOpts} {rs : ReedSolomon}
  {data : List UInt8} {k m : Nat} {enc : Encoder} {opts : List EncodeOpts}

lemma fecOrdered_eq (few : shards.flatten.length ≤ 2 ^ 24)
    (stated : opt.interleave → opt.interleaveDepth ≤ 16) :
    fecOrdered shards opt = shards.flatten := by
  by_cases interleaved : opt.interleave ∧ opt.interleaveDepth > 0
  · obtain ⟨flagged, depth⟩ := fecDepth_fecFlags interleaved.1 interleaved.2
    have shallow := stated interleaved.1
    have fits : shards.flatten.length + opt.interleaveDepth ≤ 2 ^ 63 := by omega
    have whole : fecBody shards (fecFlags opt) opt.interleaveDepth =
        fecInterleave shards.flatten opt.interleaveDepth := by
      simp only [fecBody]
      rw [if_pos flagged, length_fecInterleave fits, drop_length, append_nil]
    rw [Int.min_eq_left shallow] at depth
    simp only [fecOrdered]
    rw [whole, depth, if_pos interleaved.2, fecDeinterleave_fecInterleave fits]
  have plain : fecFlags opt = 0 := if_neg interleaved
  rw [fecOrdered, plain]
  rfl

lemma Encoded.fecDecode_eq (encoded : Encoded rs data k m opt out enc shards) (lawful : rs.Lawful) :
    fecDecode rs out = fecDecodeShards rs k m ((fecPadded data k).length / k)
      (fecOrdered shards opt) := by
  rw [encoded.out_eq]
  apply fecDecode_header
  · exact encoded.dataShards
  · exact encoded.parityShards
  · exact ⟨encoded.one_le_size, encoded.size⟩
  · rw [length_fecBody, (encoded.coded lawful).1.length_flatten]

lemma fecDecode_fecEncode (lawful : rs.Lawful) (stated : (ofList opts).interleave →
      (ofList opts).interleaveDepth ≤ 16)
    (accepted : fecEncode rs data dataShards parityShards opts = .ok out) :
    fecDecode rs out = .ok data := by
  obtain ⟨enc, shards, encoded⟩ := fecEncode_eq_ok accepted
  obtain ⟨sized, kept, verified⟩ := encoded.coded lawful
  rw [encoded.fecDecode_eq lawful, fecOrdered_eq (encoded.length_shards lawful) stated]
  have pieces := map_piece_flatten sized.2
  rw [sized.1] at pieces
  simp only [fecDecodeShards, encoded.new, pieces, fecVerified, verified]
  exact fecPayload_fecShards encoded.dataShards.1 encoded.length_lt kept

/-! ## Depths that the header does not state -/

/-- As deep as the bytes are many, interleaving moves nothing: one row, or
none where the stride's sum does not fit 64 bits. -/
lemma interleaveOrder_deep {n : Nat} {depth : Int} (positive : 0 < depth) (deep : n ≤ depth) :
    interleaveOrder n depth = List.range n ∨ interleaveOrder n depth = [] := by
  have sum : Int.bmod (n + depth - 1) (2 ^ 64) ≤ n + depth - 1 := by
    rw [Int.bmod_def]
    norm_num
    split <;> omega
  have stride : ((Int.bmod (n + depth - 1) (2 ^ 64)).tdiv depth).toNat ≤ 1 := by
    generalize Int.bmod (n + depth - 1) (2 ^ 64) = total at sum
    have few : total.tdiv depth ≤ 1 := by
      by_cases negative : total < 0
      · have opposite := Int.tdiv_nonneg (a := -total) (b := depth) (by omega)
          (Int.le_of_lt positive)
        rw [Int.neg_tdiv] at opposite
        omega
      rw [Int.tdiv_eq_ediv_of_nonneg (by omega)]
      apply Int.lt_add_one_iff.mp
      apply Int.ediv_lt_of_lt_mul positive
      omega
    omega
  rw [interleaveOrder]
  generalize ((Int.bmod (n + depth - 1) (2 ^ 64)).tdiv depth).toNat = rows at stride
  match rows, stride with
  | 0, _ => exact .inr (columnOrder_no_rows _ _)
  | 1, _ => exact .inl (columnOrder_one_row (by omega))

lemma fecBody_deep (positive : 0 < depth)
    (deep : shards.flatten.length ≤ depth) : fecBody shards flags depth = shards.flatten := by
  simp only [fecBody]
  split
  · rw [fecInterleave]
    split
    · rw [drop_length, append_nil]
    · rcases interleaveOrder_deep positive deep with all | nothing
      · rw [all, gather_range, drop_length, append_nil]
      rw [nothing]
      rfl
  · rfl

lemma interleaveOrder_18_16 : interleaveOrder 18 16 =
    [0, 16, 1, 17, 2, 3, 4, 5, 6, 7, 8, 9, 10, 11, 12, 13, 14, 15] := by
  decide +kernel

lemma interleaveOrder_18_17 : interleaveOrder 18 17 =
    [0, 17, 1, 2, 3, 4, 5, 6, 7, 8, 9, 10, 11, 12, 13, 14, 15, 16] := by
  decide +kernel

def fiveShard : List UInt8 := [5, 0, 0, 0, 1, 0, 0, 0, 0]

/-- With two shards of nine bytes and a depth above sixteen, the byte behind
the length comes to stand in it. -/
lemma fecOrdered_long (sized : parity.length = 9) (interleave : opt.interleave)
    (deep : 16 < opt.interleaveDepth) : (fecOrdered [fiveShard, parity] opt).length = 18 ∧
    65536 ≤ valueLE ((fecOrdered [fiveShard, parity] opt).take 4) := by
  obtain ⟨flagged, depth⟩ := fecDepth_fecFlags interleave (by omega)
  rw [Int.min_eq_right (by omega)] at depth
  match parity, sized with
  | [p0, p1, p2, p3, p4, p5, p6, p7, p8], _ =>
    rw [fecOrdered, depth, if_pos (by decide)]
    by_cases seventeen : opt.interleaveDepth = 17
    · simp [fecBody, flagged, seventeen, fecInterleave, fecDeinterleave,
        fiveShard, interleaveOrder_18_16, interleaveOrder_18_17, gather, scatter, valueLE]
    rw [fecBody_deep (by omega) (by simp [fiveShard]; omega)]
    simp [fecDeinterleave, fiveShard, interleaveOrder_18_16, scatter, valueLE]

lemma fecDecodeShards_complete (lawful : rs.Lawful)
    (new : rs.new k m = .ok enc) (positive : 1 ≤ size)
    (long : shardData.length = (k + m) * size) : fecDecodeShards rs k m size shardData =
      fecPayload ((List.range (k + m)).map (piece size shardData)) k := by
  have sized : Sized (k + m) size ((List.range (k + m)).map (piece size shardData)) := by
    constructor
    · simp
    intro shard among
    obtain ⟨position, inside, rfl⟩ := mem_map.mp among
    exact length_piece long (mem_range.mp inside)
  have complete := lawful.reconstruct k m enc new size _ positive sized
  have verified : fecVerified enc ((List.range (k + m)).map (piece size shardData)) =
        .ok ((List.range (k + m)).map (piece size shardData)) := by
    rw [fecVerified]
    split
    · rfl
    · rw [complete]
      rfl
  simp [fecDecodeShards, new, verified]

lemma fecEncode_eq (opts : List EncodeOpts) (dataShards : 1 ≤ k ∧ k ≤ 255)
    (parityShards : 1 ≤ m ∧ m ≤ 255) (sum : k + m ≤ 256) (new : rs.new k m = .ok enc)
    (encode : enc.encode (fecShards (fecPadded data k) k m) = .ok shards)
    (size : (fecPadded data k).length / k ≤ 65535) : fecEncode rs data k m opts =
      .ok (fecHeader k m ((fecPadded data k).length / k) (fecFlags (.ofList opts)) ++
        fecBody shards (fecFlags (.ofList opts)) (ofList opts).interleaveDepth) := by
  simp only [fecEncode, Int.toNat_natCast, new, encode]
  rw [if_neg (by omega), if_neg (by omega), if_neg (by omega), if_neg (by omega)]
  rfl

lemma fecDecode_deep (lawful : rs.Lawful) (interleave : (ofList opts).interleave)
    (deep : 16 < (ofList opts).interleaveDepth) : ∃ out,
    fecEncode rs [1, 0, 0, 0, 0] 1 1 opts = .ok out ∧ fecDecode rs out ≠ .ok [1, 0, 0, 0, 0] := by
  obtain ⟨enc, new⟩ := lawful.new 1 1 (by decide) (by decide) (by decide)
  obtain ⟨shards, encode, -⟩ := lawful.encode 1 1 enc new 9
    (fecShards (fecPadded [1, 0, 0, 0, 0] 1) 1 1) (by decide)
    (sized_fecShards [1, 0, 0, 0, 0] 1 (by decide))
  have accepted := fecEncode_eq opts (by decide) (by decide) (by decide) new encode (by decide)
  refine ⟨_, accepted, ?_⟩
  obtain ⟨enc, shards, encoded⟩ := fecEncode_eq_ok accepted
  obtain ⟨⟨two, sized⟩, kept, -⟩ := encoded.coded lawful
  rw [encoded.fecDecode_eq lawful]
  have size : (fecPadded [1, 0, 0, 0, 0] 1).length / 1 = 9 := by decide
  have shard : (fecShards (fecPadded [1, 0, 0, 0, 0] 1) 1 1).take 1 = [fiveShard] := by decide
  simp only [Nat.cast_one, Int.toNat_one, size, shard] at two sized kept ⊢
  obtain ⟨first, parity, rfl⟩ := length_eq_two.mp two
  obtain ⟨rfl, -⟩ := List.cons.inj kept
  obtain ⟨long, stated⟩ := fecOrdered_long (sized parity (by simp)) interleave deep
  rw [fecDecodeShards_complete lawful new (by decide) long]
  generalize fecOrdered [fiveShard, parity] (.ofList opts) = ordered at long stated
  have prefixed : ((ordered.take 9).take 4) = ordered.take 4 := by
    rw [take_take]
    rfl
  have rest : ((ordered.take 9).drop 4).length = 5 := by simp [long]
  simp only [fecPayload, fecOrigLenTrailer, piece, range_succ,
    range_zero, nil_append, map_cons, cons_append,
    take_succ_cons, take_zero, Nat.zero_mul,
    drop_zero, flatten_cons, flatten_nil, append_nil, prefixed, rest]
  rw [if_neg (by simp [long]), if_pos (by omega)]
  intro impossible
  cases impossible

/-! ## Frames with altered shard bytes -/

/-- What the decoder joins of the bytes behind a header: the data shards, in
their order. -/
def fecJoined (k size : Nat) (flags : UInt8) (body : List UInt8) : List UInt8 :=
  (if fecDepth flags > 0 then fecDeinterleave body (fecDepth flags) else body).take (k * size)

lemma length_ordered (flags : UInt8) (body : List UInt8) :
    (if fecDepth flags > 0 then fecDeinterleave body (fecDepth flags) else body).length =
    body.length := by
  split
  · exact length_fecDeinterleave _ _
  · rfl

section
variable {out body : List UInt8} (encoded : Encoded rs data k m opt out enc shards)
  (lawful : rs.Lawful) (present : body.length = (out.drop fecHeaderLenV2).length)

include encoded lawful present

lemma Encoded.length_altered : body.length = (k + m) * ((fecPadded data k).length / k) := by
  have behind : out.drop fecHeaderLenV2 = fecBody shards (fecFlags opt) opt.interleaveDepth := by
    rw [encoded.out_eq]
    exact drop_left' (by simp [fecHeader, fecHeaderLenV2])
  rw [present, behind, length_fecBody, (encoded.coded lawful).1.length_flatten]

/-- With every shard there, nothing is repaired: the shards that fail the check
are joined as they are. -/
lemma Encoded.fecDecode_altered : fecDecode rs (out.take fecHeaderLenV2 ++ body) =
    fecPayload [fecJoined k ((fecPadded data k).length / k) (fecFlags opt) body] 1 := by
  have front : out.take fecHeaderLenV2 =
      fecHeader k m ((fecPadded data k).length / k) (fecFlags opt) := by
    rw [encoded.out_eq]
    exact take_left' (by simp [fecHeader, fecHeaderLenV2])
  have long := encoded.length_altered lawful present
  have joined : ∀ bytes : List UInt8, (((List.range (k + m)).map
      (piece ((fecPadded data k).length / k) bytes)).take k).flatten =
        bytes.take (k * ((fecPadded data k).length / k)) := by
    intro bytes
    rw [← map_take, take_range, Nat.min_eq_left (Nat.le_add_right k m),
      ← flatMap_def, flatMap_piece_range]
  rw [front, fecDecode_header rs encoded.dataShards encoded.parityShards
    ⟨encoded.one_le_size, encoded.size⟩ long, fecDecodeShards_complete lawful encoded.new
    encoded.one_le_size ((length_ordered _ body).trans long)]
  simp [fecPayload, fecJoined, joined, take_succ_cons, flatten_cons, flatten_nil]

lemma Encoded.four_le_joined :
    4 ≤ (fecJoined k ((fecPadded data k).length / k) (fecFlags opt) body).length := by
  have padded := length_le_fecPadded data k
  have whole := length_fecPadded data encoded.dataShards.1
  rw [fecJoined, length_take, length_ordered, encoded.length_altered lawful present, Nat.add_mul]
  omega

end

lemma fecPayload_joined (long : 4 ≤ joined.length) (fits : payload.length < 2 ^ 32) :
    ((∃ error, fecPayload [joined] 1 = .error error) ∨ fecPayload [joined] 1 = .ok payload) ↔
    (joined.length < 4 + valueLE (joined.take 4) ∨
    joined.take (4 + payload.length) = bytesLE 4 payload.length ++ payload) := by
  have whole : ([joined].take 1).flatten = joined := by simp
  simp only [fecPayload, fecOrigLenTrailer, whole]
  rw [if_neg (by omega)]
  split
  next beyond =>
    rw [length_drop] at beyond
    simp
    omega
  rename_i within
  rw [length_drop] at within
  have split : joined.take (4 + payload.length) =
      joined.take 4 ++ (joined.drop 4).take payload.length := take_add
  rw [split]
  constructor
  · rintro (⟨error, impossible⟩ | decoded)
    · cases impossible
    have read := Except.ok.inj decoded
    have count : valueLE (joined.take 4) = payload.length := by
      rw [← read, length_take, length_drop]
      omega
    have stated : joined.take 4 = bytesLE 4 payload.length := by
      rw [← count]
      exact (bytesLE_valueLE (by simp; omega)).symm
    rw [count] at read
    exact .inr (by rw [stated, read])
  rintro (beyond | unaltered)
  · omega
  obtain ⟨stated, read⟩ := append_inj unaltered (by simp; omega)
  rw [stated, valueLE_bytesLE_of_lt fits, read]
  exact .inr rfl

/-- A coder whose parity shards all repeat the first data shard, as the library
itself does for one data shard. -/
def repetition : ReedSolomon :=
  { new := fun k m =>
      if 1 ≤ k ∧ 1 ≤ m ∧ k + m ≤ 256 then
        .ok
          { encode := fun shards =>
              .ok (shards.take k ++ List.replicate m (shards.headD []))
            verify := fun shards =>
              .ok (shards.drop k = List.replicate m (shards.headD []))
            reconstruct := fun shards => .ok shards }
      else .error "invalid number of shards" }

lemma repetition_new (new : repetition.new k m = .ok enc) : 1 ≤ k ∧ enc =
      { encode := fun shards =>
          .ok (shards.take k ++ List.replicate m (shards.headD []))
        verify := fun shards =>
          .ok (shards.drop k = List.replicate m (shards.headD []))
        reconstruct := fun shards => .ok shards } := by
  simp only [repetition] at new
  split at new
  next valid => exact ⟨valid.1, (Except.ok.inj new).symm⟩
  · exact nomatch new

lemma repetition_lawful : repetition.Lawful := by
  constructor
  · intro k m data parity sum
    exact ⟨_, if_pos ⟨data, parity, sum⟩⟩
  · intro k m enc new size shards _ sized
    obtain ⟨positive, rfl⟩ := repetition_new new
    obtain ⟨count, sized⟩ := sized
    match shards with
    | [] =>
      rw [length_nil] at count
      omega
    | first :: rest =>
      have taken : ((first :: rest).take k).length = k := by
        rw [length_take]
        omega
      have head : ((first :: rest).take k ++ List.replicate m first).headD [] = first := by
        rw [← Nat.sub_add_cancel positive]
        rfl
      refine ⟨_, rfl, ⟨?_, ?_⟩, take_left' taken, ?_⟩
      · rw [length_append, taken, length_replicate]
      · intro shard among
        rcases mem_append.mp among with kept | repeated
        · exact sized shard (mem_of_mem_take kept)
        rw [eq_of_mem_replicate repeated]
        exact sized first mem_cons_self
      · simp only [headD_cons, head, drop_left' taken, decide_true]
  intro k m enc new size shards _ _
  obtain ⟨-, rfl⟩ := repetition_new new
  rfl

/-- The payload comes back for every choice of shards exactly where the header
states the interleaving. -/
theorem fec_round_trip_iff (rs : ReedSolomon) (lawful : rs.Lawful) (opts : List EncodeOpts) :
    (∀ payload, payload ≠ [] → ∀ dataShards parityShards out,
      fecEncode rs payload dataShards parityShards opts = .ok out →
        fecDecode rs out = .ok payload) ↔ ((ofList opts).interleave = true →
        (ofList opts).interleaveDepth ≤ 16) := by
  constructor
  · intro roundTrip interleave
    apply not_lt.mp
    intro deep
    obtain ⟨out, accepted, lost⟩ := fecDecode_deep lawful interleave deep
    exact lost (roundTrip _ (cons_ne_nil _ _) 1 1 out accepted)
  intro stated payload _ dataShards parityShards out accepted
  exact fecDecode_fecEncode lawful stated accepted

theorem fec_round_trip_lora : repetition.Lawful ∧ ∃ out, fecEncode repetition [1, 0, 0, 0, 0] 1 1
        [{ interleave := true, interleaveDepth := 8 }] = .ok out ∧
      fecDecode repetition out = .ok [1, 0, 0, 0, 0] := by
  have stated := (fec_round_trip_iff repetition repetition_lawful
    [{ interleave := true, interleaveDepth := 8 }]).mpr fun _ => by decide
  exact ⟨repetition_lawful, _, rfl, stated _ (cons_ne_nil _ _) 1 1 _ rfl⟩

/-- Interleaved seventeen deep, five bytes do not come back. -/
theorem fec_depth_seventeen : repetition.Lawful ∧ ∃ out, fecEncode repetition [1, 0, 0, 0, 0] 1 1
        [{ interleave := true, interleaveDepth := 17 }] = .ok out ∧
      fecDecode repetition out = .error (.origLen 16777221 5) :=
  ⟨repetition_lawful, _, rfl, by decide +kernel⟩

/-- A frame whose shard bytes alone are altered is answered with the payload or
an error exactly where the length and the payload among the data shards are
unaltered, or the length leads past them. -/
theorem fec_altered_iff (rs : ReedSolomon) (lawful : rs.Lawful) (opts : List EncodeOpts)
    (payload : List UInt8) (dataShards parityShards : Int) (out : List UInt8)
    (accepted : fecEncode rs payload dataShards parityShards opts = .ok out)
    (body : List UInt8) (present : body.length = (out.drop fecHeaderLenV2).length) :
    let k := dataShards.toNat
    let joined := fecJoined k ((fecPadded payload k).length / k) (fecFlags (.ofList opts)) body
    ((∃ error, fecDecode rs (out.take fecHeaderLenV2 ++ body) = .error error) ∨
        fecDecode rs (out.take fecHeaderLenV2 ++ body) = .ok payload) ↔
      (joined.length < 4 + valueLE (joined.take 4) ∨
        joined.take (4 + payload.length) = bytesLE 4 payload.length ++ payload) := by
  intro k joined
  obtain ⟨enc, shards, encoded⟩ := fecEncode_eq_ok accepted
  rw [encoded.fecDecode_altered lawful present]
  exact fecPayload_joined (encoded.four_le_joined lawful present) encoded.length_lt

theorem fec_altered_parity : repetition.Lawful ∧ ∃ out, fecEncode repetition [1, 2] 1 1 [] =
      .ok out ∧ ((∃ error, fecDecode repetition (out.take 6 ++
          [2, 0, 0, 0, 1, 2, 2, 0, 0, 0, 9, 9]) = .error error) ∨
        fecDecode repetition (out.take 6 ++ [2, 0, 0, 0, 1, 2, 2, 0, 0, 0, 9, 9]) = .ok [1, 2]) :=
  ⟨repetition_lawful, _, rfl, (fec_altered_iff repetition repetition_lawful [] [1, 2] 1 1 _ rfl
    [2, 0, 0, 0, 1, 2, 2, 0, 0, 0, 9, 9] (by decide)).mpr (.inr (by decide))⟩

/-- One altered byte of a data shard comes back as part of the payload. -/
theorem fec_altered_data : repetition.Lawful ∧ ∃ out, fecEncode repetition [1, 2] 1 1 [] =
      .ok out ∧ out.drop 6 = [2, 0, 0, 0, 1, 2, 2, 0, 0, 0, 1, 2] ∧
      fecDecode repetition (out.take 6 ++ [2, 0, 0, 0, 1, 3, 2, 0, 0, 0, 1, 2]) = .ok [1, 3] :=
  ⟨repetition_lawful, _, rfl, by decide, by decide +kernel⟩

end MeshSat.Engine
