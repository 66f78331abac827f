import MeshSat.Library.Bytes

/-!
# MessagePack

The encoder of `umsgpack` for the shapes of values that Reticulum and LXMF use,
and the decoder. A value is read back from its encoding in front of any bytes.
-/

namespace MeshSat.Msgpack

open Library List Nat

/-- Floats are bit patterns, texts are bytes, and an extension value keeps its
bytes as they came. -/
inductive Value
  | nil
  | bool (b : Bool)
  | int (i : Int64)
  | uint (u : UInt64)
  | float (bits : UInt64)
  | str (s : List UInt8)
  | bin (b : List UInt8)
  | array (items : List Value)
  | map (entries : List (Value × Value))
  | ext (raw : List UInt8)

/-- `Int`. -/
def Value.ofInt (i : Int64) : Value :=
  if i ≥ 0 then .uint i.toUInt64 else .int i

def Value.asInt : Value → Option Int64
  | .int i => some i
  | .uint u => if u.toNat < 2 ^ 63 then some u.toInt64 else none
  | _ => none

/-- The `Bin` field, which is empty for other kinds. -/
def Value.binField : Value → List UInt8
  | .bin b => b
  | _ => []

/-! ## Encoding -/

/-- The type byte with the count in it if it is below `limit`, otherwise one of
the given type bytes and the count in 1, 2 or 4 bytes. -/
def packCount (fix : UInt8) (limit : Nat) (narrow : Option UInt8)
    (middle wide : UInt8) (n : Nat) : List UInt8 :=
  if n < limit then [fix ||| UInt8.ofNat n]
  else
    match narrow with
    | some byte =>
      if n < 2 ^ 8 then byte :: bytesBE 1 n
      else if n < 2 ^ 16 then middle :: bytesBE 2 n
      else wide :: bytesBE 4 n
    | none =>
      if n < 2 ^ 16 then middle :: bytesBE 2 n
      else wide :: bytesBE 4 n

def packUint (u : UInt64) : List UInt8 :=
  if u.toNat < 128 then bytesBE 1 u.toNat
  else if u.toNat < 2 ^ 8 then 0xCC :: bytesBE 1 u.toNat
  else if u.toNat < 2 ^ 16 then 0xCD :: bytesBE 2 u.toNat
  else if u.toNat < 2 ^ 32 then 0xCE :: bytesBE 4 u.toNat
  else 0xCF :: bytesBE 8 u.toNat

/-- The low bytes of a negative number are those of its two's complement. -/
def packInt (i : Int64) : List UInt8 :=
  if i ≥ 0 then packUint i.toUInt64
  else if i.toInt ≥ -32 then bytesBE 1 i.toUInt64.toNat
  else if i.toInt ≥ -2 ^ 7 then 0xD0 :: bytesBE 1 i.toUInt64.toNat
  else if i.toInt ≥ -2 ^ 15 then 0xD1 :: bytesBE 2 i.toUInt64.toNat
  else if i.toInt ≥ -2 ^ 31 then 0xD2 :: bytesBE 4 i.toUInt64.toNat
  else 0xD3 :: bytesBE 8 i.toUInt64.toNat

mutual

def pack : Value → List UInt8
  | .nil => [0xC0]
  | .bool b => if b then [0xC3] else [0xC2]
  | .uint u => packUint u
  | .int i => packInt i
  | .float bits => 0xCB :: bytesBE 8 bits.toNat
  | .str s => packCount 0xA0 32 (some 0xD9) 0xDA 0xDB s.length ++ s
  | .bin b => packCount 0x00 0 (some 0xC4) 0xC5 0xC6 b.length ++ b
  | .array items => packCount 0x90 16 none 0xDC 0xDD items.length ++ packAll items
  | .map entries => packCount 0x80 16 none 0xDE 0xDF entries.length ++ packEntries entries
  | .ext raw => raw

def packAll : List Value → List UInt8
  | [] => []
  | item :: rest => pack item ++ packAll rest

def packEntries : List (Value × Value) → List UInt8
  | [] => []
  | (key, val) :: rest => pack key ++ pack val ++ packEntries rest

end

/-! ## Decoding -/

inductive DecodeError
  | malformed
  | unsupported (typeByte : UInt8)
  deriving DecidableEq

/-- What a type byte announces; widths are in bytes. -/
inductive Tag
  | fixint | negative
  | fixstr (length : Nat)
  | fixarray (count : Nat)
  | fixmap (count : Nat)
  | nil
  | bool (b : Bool)
  | bin (width : Nat)
  | float32 | float64
  | uint (width : Nat)
  | int (width : Nat)
  | str (width : Nat)
  | array (width : Nat)
  | map (width : Nat)
  | fixext (length : Nat)
  | ext (width : Nat)
  | unsupported
  deriving DecidableEq

/-- The type bytes that stand alone. -/
def typeTag (h : UInt8) : Tag :=
  match h with
  | 0xC0 => .nil
  | 0xC2 => .bool false
  | 0xC3 => .bool true
  | 0xC4 => .bin 1
  | 0xC5 => .bin 2
  | 0xC6 => .bin 4
  | 0xC7 => .ext 1
  | 0xC8 => .ext 2
  | 0xC9 => .ext 4
  | 0xCA => .float32
  | 0xCB => .float64
  | 0xCC => .uint 1
  | 0xCD => .uint 2
  | 0xCE => .uint 4
  | 0xCF => .uint 8
  | 0xD0 => .int 1
  | 0xD1 => .int 2
  | 0xD2 => .int 4
  | 0xD3 => .int 8
  | 0xD4 => .fixext 1
  | 0xD5 => .fixext 2
  | 0xD6 => .fixext 4
  | 0xD7 => .fixext 8
  | 0xD8 => .fixext 16
  | 0xD9 => .str 1
  | 0xDA => .str 2
  | 0xDB => .str 4
  | 0xDC => .array 2
  | 0xDD => .array 4
  | 0xDE => .map 2
  | 0xDF => .map 4
  | _ => .unsupported

def tag (h : UInt8) : Tag :=
  if h ≤ 0x7F then .fixint
  else if h ≥ 0xE0 then .negative
  else if h &&& 0xE0 = 0xA0 then .fixstr (h &&& 0x1F).toNat
  else if h &&& 0xF0 = 0x90 then .fixarray (h &&& 0x0F).toNat
  else if h &&& 0xF0 = 0x80 then .fixmap (h &&& 0x0F).toNat
  else typeTag h

/-- What was read and the bytes that follow it. -/
abbrev Decoded (α : Type) := Except DecodeError (α × List UInt8)

def need (n : Nat) (b : List UInt8) : Decoded (List UInt8) :=
  if n ≤ b.length then .ok (b.take n, b.drop n) else .error .malformed

def readNumber (width : Nat) (b : List UInt8) : Decoded Nat :=
  match need width b with
  | .error e => .error e
  | .ok (bytes, rest) => .ok (valueBE bytes, rest)

/-- `length`. -/
def readLength (width : Nat) (b : List UInt8) : Decoded Nat :=
  match readNumber width b with
  | .error e => .error e
  | .ok (u, rest) => if u > 2 ^ 31 then .error .malformed else .ok (u, rest)

/-- The number of `width` bytes with the sign of its top bit. -/
def signExtend (width u : Nat) : Int64 :=
  Int64.ofInt (if u < 2 ^ (8 * width - 1) then u else u - 2 ^ (8 * width))

def readBytes (width : Nat) (b : List UInt8) : Decoded (List UInt8) :=
  match readLength width b with
  | .error e => .error e
  | .ok (n, rest) => need n rest

/-- An extension value of the given length, with its type byte. -/
def readExt (h : UInt8) (front : List UInt8) (n : Nat) (b : List UInt8) : Decoded Value :=
  match need (1 + n) b with
  | .error e => .error e
  | .ok (body, rest) => .ok (.ext (h :: front ++ body), rest)

section
variable (decode : List UInt8 → Decoded Value)

def readArray : Nat → List UInt8 → Decoded (List Value)
  | 0, b => .ok ([], b)
  | n + 1, b =>
    match decode b with
    | .error e => .error e
    | .ok (item, rest) =>
      match readArray n rest with
      | .error e => .error e
      | .ok (items, rest) => .ok (item :: items, rest)

def readMap : Nat → List UInt8 → Decoded (List (Value × Value))
  | 0, b => .ok ([], b)
  | n + 1, b =>
    match decode b with
    | .error e => .error e
    | .ok (key, rest) =>
      match decode rest with
      | .error e => .error e
      | .ok (val, rest) =>
        match readMap n rest with
        | .error e => .error e
        | .ok (entries, rest) => .ok ((key, val) :: entries, rest)

end

def Decoded.map {α β : Type} (f : α → β) : Decoded α → Decoded β
  | .error e => .error e
  | .ok (x, rest) => .ok (f x, rest)

/-- What follows a type byte; `decode` reads a value inside, and `widen` makes a
double of the bits of a float. -/
def readTagged (widen : Nat → UInt64) (decode : List UInt8 → Decoded Value)
    (h : UInt8) (b : List UInt8) : Tag → Decoded Value
  | .fixint => .ok (.uint (UInt64.ofNat h.toNat), b)
  | .negative => .ok (.int (signExtend 1 h.toNat), b)
  | .fixstr n => (need n b).map .str
  | .fixarray n => (readArray decode n b).map .array
  | .fixmap n => (readMap decode n b).map .map
  | .nil => .ok (.nil, b)
  | .bool v => .ok (.bool v, b)
  | .bin width => (readBytes width b).map .bin
  | .float32 => (readNumber 4 b).map fun bits => .float (widen bits)
  | .float64 => (readNumber 8 b).map fun bits => .float (UInt64.ofNat bits)
  | .uint width => (readNumber width b).map fun u => .uint (UInt64.ofNat u)
  | .int width => (readNumber width b).map fun u => .int (signExtend width u)
  | .str width => (readBytes width b).map .str
  | .array width =>
    match readLength width b with
    | .error e => .error e
    | .ok (n, rest) => (readArray decode n rest).map .array
  | .map width =>
    match readLength width b with
    | .error e => .error e
    | .ok (n, rest) => (readMap decode n rest).map .map
  | .fixext n => readExt h [] n b
  | .ext width =>
    match readLength width b with
    | .error e => .error e
    | .ok (n, rest) => readExt h (b.take width) n rest
  | .unsupported => .error (.unsupported h)

/-- One value, nested less than `depth` deep. -/
def value (widen : Nat → UInt64) : Nat → List UInt8 → Decoded Value
  | 0, _ => .error .malformed
  | _ + 1, [] => .error .malformed
  | depth + 1, h :: b => readTagged widen (value widen depth) h b (tag h)

/-- The first value and the number of bytes consumed. A value is nested less
deep than there are bytes. -/
def unpackValue (widen : Nat → UInt64) (b : List UInt8) : Except DecodeError (Value × Nat) :=
  match value widen (b.length + 1) b with
  | .error e => .error e
  | .ok (v, rest) => .ok (v, b.length - rest.length)

/-! ## Reading numbers and bytes back -/

section
variable {width n : Nat} {rest : List UInt8}

lemma need_append (bytes : List UInt8) (sized : bytes.length = n) :
    need n (bytes ++ rest) = .ok (bytes, rest) := by
  rw [need, if_pos (by rw [length_append]; omega), take_left' sized, drop_left' sized]

lemma readNumber_bytesBE :
    readNumber width (bytesBE width n ++ rest) = .ok (n % 256 ^ width, rest) := by
  rw [readNumber, need_append _ (length_bytesBE width n)]
  dsimp only
  rw [valueBE_bytesBE]

lemma readLength_bytesBE (fits : n < 256 ^ width) (bounded : n ≤ 2 ^ 31) :
    readLength width (bytesBE width n ++ rest) = .ok (n, rest) := by
  rw [readLength, readNumber_bytesBE, mod_eq_of_lt fits]
  exact if_neg (not_lt.mpr bounded)

lemma readBytes_bytesBE (fits : bytes.length < 256 ^ width) (bounded : bytes.length ≤ 2 ^ 31) :
    readBytes width (bytesBE width bytes.length ++ (bytes ++ rest)) = .ok (bytes, rest) := by
  rw [readBytes, readLength_bytesBE fits bounded]
  exact need_append bytes rfl

end

lemma tag_fixint (small : h.toNat < 128) : tag h = .fixint := by
  have bound : h ≤ 0x7F := by
    rw [UInt8.le_iff_toNat_le]
    exact le_of_lt_succ small
  rw [tag, if_pos bound]

lemma tag_negative (large : 224 ≤ h.toNat) : tag h = .negative := by
  have above : h ≥ 0xE0 := by
    rw [ge_iff_le, UInt8.le_iff_toNat_le]
    exact large
  have beyond : ¬ h ≤ 0x7F := by
    rw [UInt8.le_iff_toNat_le]
    show ¬ h.toNat ≤ 127
    omega
  rw [tag, if_neg beyond, if_pos above]

variable {n : Nat}

lemma tag_fixstr (small : n < 32) : tag (0xA0 ||| UInt8.ofNat n) = .fixstr n := by
  have all : ∀ n : Fin 32, tag (0xA0 ||| UInt8.ofNat n.val) = .fixstr n.val := by decide +kernel
  exact all ⟨n, small⟩

lemma tag_fixarray (small : n < 16) : tag (0x90 ||| UInt8.ofNat n) = .fixarray n := by
  have all : ∀ n : Fin 16, tag (0x90 ||| UInt8.ofNat n.val) = .fixarray n.val := by decide +kernel
  exact all ⟨n, small⟩

lemma tag_fixmap (small : n < 16) : tag (0x80 ||| UInt8.ofNat n) = .fixmap n := by
  have all : ∀ n : Fin 16, tag (0x80 ||| UInt8.ofNat n.val) = .fixmap n.val := by decide +kernel
  exact all ⟨n, small⟩

/-! ## Round trip -/

mutual

/-- Lengths are small enough to be read, and there are no extension values. -/
def Value.Fits : Value → Prop
  | .str s => s.length ≤ 2 ^ 31
  | .bin b => b.length ≤ 2 ^ 31
  | .array items => items.length ≤ 2 ^ 31 ∧ Value.FitsAll items
  | .map entries => entries.length ≤ 2 ^ 31 ∧ Value.FitsEntries entries
  | .ext _ => False
  | _ => True

def Value.FitsAll : List Value → Prop
  | [] => True
  | item :: rest => item.Fits ∧ Value.FitsAll rest

def Value.FitsEntries : List (Value × Value) → Prop
  | [] => True
  | (key, val) :: rest => key.Fits ∧ val.Fits ∧ Value.FitsEntries rest

end

mutual

/-- Integers that are not negative are of the other kind. -/
def Value.normal : Value → Value
  | .int i => Value.ofInt i
  | .array items => .array (Value.normalAll items)
  | .map entries => .map (Value.normalEntries entries)
  | v => v

def Value.normalAll : List Value → List Value
  | [] => []
  | item :: rest => item.normal :: Value.normalAll rest

def Value.normalEntries : List (Value × Value) → List (Value × Value)
  | [] => []
  | (key, val) :: rest => (key.normal, val.normal) :: Value.normalEntries rest

end

mutual

def Value.depth : Value → Nat
  | .array items => Value.depthAll items + 1
  | .map entries => Value.depthEntries entries + 1
  | _ => 0

def Value.depthAll : List Value → Nat
  | [] => 0
  | item :: rest => max item.depth (Value.depthAll rest)

def Value.depthEntries : List (Value × Value) → Nat
  | [] => 0
  | (key, val) :: rest => max (max key.depth val.depth) (Value.depthEntries rest)

end

section
variable (widen : Nat → UInt64) (depth : Nat) (rest : List UInt8)
variable {h : UInt8} {width n : Nat} {i : Int64}

lemma value_of_tag (known : tag h = t) (b : List UInt8) :
    value widen (depth + 1) (h :: b) = readTagged widen (value widen depth) h b t := by
  rw [value, known]

lemma value_uint_of_tag (known : tag h = .uint width) (fits : u.toNat < 256 ^ width) :
    value widen (depth + 1) (h :: bytesBE width u.toNat ++ rest) = .ok (.uint u, rest) := by
  rw [cons_append, value_of_tag widen depth known, readTagged,
    readNumber_bytesBE, mod_eq_of_lt fits, Decoded.map, UInt64.ofNat_toNat]

lemma bytesBE_one (n : Nat) : bytesBE 1 n = [UInt8.ofNat n] := rfl

lemma value_uint (u : UInt64) :
    value widen (depth + 1) (packUint u ++ rest) = .ok (.uint u, rest) := by
  have bound := u.toNat_lt
  rw [packUint]
  split
  · rename_i small
    have byte : (UInt8.ofNat u.toNat).toNat = u.toNat :=
      UInt8.toNat_ofNat_of_lt' (show u.toNat < 256 by omega)
    rw [bytesBE_one, singleton_append,
      value_of_tag widen depth (tag_fixint (byte.trans_lt small)), readTagged,
      byte, UInt64.ofNat_toNat]
  split
  · apply value_uint_of_tag widen depth rest rfl
    omega
  split
  · apply value_uint_of_tag widen depth rest rfl
    omega
  split
  · apply value_uint_of_tag widen depth rest rfl
    omega
  apply value_uint_of_tag widen depth rest rfl
  omega

lemma toInt_of_neg (negative : ¬ i ≥ 0) :
    i.toInt = (i.toUInt64.toNat : Int) - 2 ^ 64 ∧ i.toInt < 0 := by
  have below : i.toInt < 0 := by
    have less := Int64.lt_iff_toInt_lt.mp (Int64.not_le.mp negative)
    exact less
  refine ⟨?_, below⟩
  have value : i.toInt = if 2 * i.toUInt64.toNat < 2 ^ 64 then
      (i.toUInt64.toNat : Int) else i.toUInt64.toNat - (2 ^ 64 : Nat) :=
    BitVec.toInt_eq_toNat_cond _
  split at value
  · omega
  rw [value]
  norm_cast

lemma value_int_of_tag (known : tag h = .int width)
    (extended : signExtend width (i.toUInt64.toNat % 256 ^ width) = i) :
    value widen (depth + 1) (h :: bytesBE width i.toUInt64.toNat ++ rest) = .ok (.int i, rest) := by
  rw [cons_append, value_of_tag widen depth known, readTagged,
    readNumber_bytesBE, Decoded.map, extended]

lemma signExtend_eq {u : Nat} (top : 2 ^ (8 * width - 1) ≤ u)
    (value : i.toInt = (u : Int) - 2 ^ (8 * width)) : signExtend width u = i := by
  rw [signExtend, if_neg (not_lt.mpr top), ← value, Int64.ofInt_toInt]

lemma value_int (i : Int64) :
    value widen (depth + 1) (packInt i ++ rest) = .ok (Value.ofInt i, rest) := by
  rw [packInt, Value.ofInt]
  split
  · exact value_uint widen depth rest i.toUInt64
  rename_i negative
  obtain ⟨value, below⟩ := toInt_of_neg negative
  have bound := i.toUInt64.toNat_lt
  have least := i.le_toInt
  split
  · have byte : (UInt8.ofNat i.toUInt64.toNat).toNat = i.toUInt64.toNat % 256 := UInt8.toNat_ofNat'
    have tagged : tag (UInt8.ofNat i.toUInt64.toNat) = .negative := by
      apply tag_negative
      omega
    rw [bytesBE_one, singleton_append, value_of_tag widen depth tagged, readTagged, byte,
      signExtend_eq (i := i)]
    · omega
    · omega
  split
  · apply value_int_of_tag widen depth rest rfl
    apply signExtend_eq <;> omega
  split
  · apply value_int_of_tag widen depth rest rfl
    apply signExtend_eq <;> omega
  split
  · apply value_int_of_tag widen depth rest rfl
    apply signExtend_eq <;> omega
  apply value_int_of_tag widen depth rest rfl
  apply signExtend_eq <;> omega

lemma value_str_of_tag (known : tag h = .str width)
    (fits : s.length < 256 ^ width) (bounded : s.length ≤ 2 ^ 31) :
    value widen (depth + 1) (h :: bytesBE width s.length ++ (s ++ rest)) = .ok (.str s, rest) := by
  rw [cons_append, value_of_tag widen depth known, readTagged,
    readBytes_bytesBE fits bounded, Decoded.map]

lemma value_str (bounded : s.length ≤ 2 ^ 31) : value widen (depth + 1)
        (packCount 0xA0 32 (some 0xD9) 0xDA 0xDB s.length ++ s ++ rest) = .ok (.str s, rest) := by
  rw [packCount, append_assoc]
  split
  · rename_i small
    rw [singleton_append, value_of_tag widen depth (tag_fixstr small),
      readTagged, need_append s rfl, Decoded.map]
  split
  · exact value_str_of_tag widen depth rest rfl (by omega) bounded
  split
  · exact value_str_of_tag widen depth rest rfl (by omega) bounded
  · exact value_str_of_tag widen depth rest rfl (by omega) bounded

lemma value_bin_of_tag (known : tag h = .bin width)
    (fits : b.length < 256 ^ width) (bounded : b.length ≤ 2 ^ 31) :
    value widen (depth + 1) (h :: bytesBE width b.length ++ (b ++ rest)) = .ok (.bin b, rest) := by
  rw [cons_append, value_of_tag widen depth known, readTagged,
    readBytes_bytesBE fits bounded, Decoded.map]

lemma value_bin (bounded : b.length ≤ 2 ^ 31) : value widen (depth + 1)
        (packCount 0x00 0 (some 0xC4) 0xC5 0xC6 b.length ++ b ++ rest) = .ok (.bin b, rest) := by
  rw [packCount, append_assoc, if_neg (not_lt_zero _)]
  split
  · exact value_bin_of_tag widen depth rest rfl (by omega) bounded
  split
  · exact value_bin_of_tag widen depth rest rfl (by omega) bounded
  · exact value_bin_of_tag widen depth rest rfl (by omega) bounded

lemma value_array_of_tag (known : tag h = .array width) (fits : n < 256 ^ width)
    (bounded : n ≤ 2 ^ 31) : value widen (depth + 1) (h :: bytesBE width n ++ rest) =
    (readArray (value widen depth) n rest).map .array := by
  rw [cons_append, value_of_tag widen depth known, readTagged, readLength_bytesBE fits bounded]

lemma value_array (bounded : n ≤ 2 ^ 31) :
    value widen (depth + 1) (packCount 0x90 16 none 0xDC 0xDD n ++ rest) =
    (readArray (value widen depth) n rest).map .array := by
  rw [packCount]
  split
  · rename_i small
    rw [singleton_append, value_of_tag widen depth (tag_fixarray small), readTagged]
  split
  · exact value_array_of_tag widen depth rest rfl (by omega) bounded
  · exact value_array_of_tag widen depth rest rfl (by omega) bounded

lemma value_map_of_tag (known : tag h = .map width) (fits : n < 256 ^ width)
    (bounded : n ≤ 2 ^ 31) : value widen (depth + 1) (h :: bytesBE width n ++ rest) =
      (readMap (value widen depth) n rest).map .map := by
  rw [cons_append, value_of_tag widen depth known, readTagged, readLength_bytesBE fits bounded]

lemma value_map (bounded : n ≤ 2 ^ 31) :
    value widen (depth + 1) (packCount 0x80 16 none 0xDE 0xDF n ++ rest) =
    (readMap (value widen depth) n rest).map .map := by
  rw [packCount]
  split
  · rename_i small
    rw [singleton_append, value_of_tag widen depth (tag_fixmap small), readTagged]
  split
  · exact value_map_of_tag widen depth rest rfl (by omega) bounded
  · exact value_map_of_tag widen depth rest rfl (by omega) bounded

end

mutual

lemma value_pack {widen : Nat → UInt64} : ∀ (v : Value) (depth : Nat)
    (rest : List UInt8), v.Fits → v.depth < depth →
      value widen depth (pack v ++ rest) = .ok (v.normal, rest)
  | .nil, depth + 1, rest, _, _ => rfl
  | .bool true, depth + 1, rest, _, _ => rfl
  | .bool false, depth + 1, rest, _, _ => rfl
  | .int i, depth + 1, rest, _, _ => value_int widen depth rest i
  | .uint u, depth + 1, rest, _, _ => value_uint widen depth rest u
  | .float bits, depth + 1, rest, _, _ => by
      have bound := bits.toNat_lt
      have known : tag 0xCB = .float64 := rfl
      rw [pack, cons_append, value_of_tag widen depth known, readTagged,
        readNumber_bytesBE, mod_eq_of_lt (by omega), Decoded.map, UInt64.ofNat_toNat]
      rfl
  | .str s, depth + 1, rest, fits, _ => value_str widen depth rest fits
  | .bin b, depth + 1, rest, fits, _ => value_bin widen depth rest fits
  | .array items, depth + 1, rest, fits, deep => by
      rw [Value.Fits] at fits
      rw [Value.depth] at deep
      rw [pack, append_assoc, value_array widen depth _ fits.1,
        readArray_packAll items depth rest fits.2 (by omega), Decoded.map, Value.normal]
  | .map entries, depth + 1, rest, fits, deep => by
      rw [Value.Fits] at fits
      rw [Value.depth] at deep
      rw [pack, append_assoc, value_map widen depth _ fits.1,
        readMap_packEntries entries depth rest fits.2 (by omega), Decoded.map, Value.normal]

lemma readArray_packAll {widen : Nat → UInt64} : ∀ (items : List Value)
    (depth : Nat) (rest : List UInt8), Value.FitsAll items → Value.depthAll items < depth →
      readArray (value widen depth) items.length (packAll items ++ rest) =
        .ok (Value.normalAll items, rest)
  | [], _, _, _, _ => rfl
  | item :: tail, depth, rest, fits, deep => by
      rw [Value.FitsAll] at fits
      rw [Value.depthAll] at deep
      rw [packAll, append_assoc, length_cons, readArray, value_pack item depth _ fits.1 (by omega)]
      dsimp only
      rw [readArray_packAll tail depth rest fits.2 (by omega), Value.normalAll]

lemma readMap_packEntries {widen : Nat → UInt64} :
    ∀ (entries : List (Value × Value)) (depth : Nat) (rest : List UInt8),
      Value.FitsEntries entries → Value.depthEntries entries < depth →
      readMap (value widen depth) entries.length (packEntries entries ++ rest) =
        .ok (Value.normalEntries entries, rest)
  | [], _, _, _, _ => rfl
  | (key, val) :: tail, depth, rest, fits, deep => by
      rw [Value.FitsEntries] at fits
      rw [Value.depthEntries] at deep
      rw [packEntries, append_assoc, append_assoc, length_cons,
        readMap, value_pack key depth _ fits.1 (by omega)]
      dsimp only
      rw [value_pack val depth _ fits.2.1 (by omega)]
      dsimp only
      rw [readMap_packEntries tail depth rest fits.2.2 (by omega), Value.normalEntries]

end

lemma length_packCount_pos (fix : UInt8) (limit : Nat) (narrow : Option UInt8) (middle wide : UInt8)
    (n : Nat) : 0 < (packCount fix limit narrow middle wide n).length := by
  rw [packCount.eq_def]
  split
  · exact zero_lt_one
  split
  · split
    · exact zero_lt_succ _
    split
    · exact zero_lt_succ _
    · exact zero_lt_succ _
  split
  · exact zero_lt_succ _
  · exact zero_lt_succ _

mutual

lemma depth_le_length : ∀ v : Value, v.depth ≤ (pack v).length
  | .nil | .bool _ | .int _ | .uint _ | .float _ | .str _ | .bin _ | .ext _ => zero_le _
  | .array items => by
      have head := length_packCount_pos 0x90 16 none 0xDC 0xDD items.length
      have inner := depthAll_le_length items
      rw [Value.depth, pack, length_append]
      omega
  | .map entries => by
      have head := length_packCount_pos 0x80 16 none 0xDE 0xDF entries.length
      have inner := depthEntries_le_length entries
      rw [Value.depth, pack, length_append]
      omega

lemma depthAll_le_length : ∀ items : List Value, Value.depthAll items ≤ (packAll items).length
  | [] => zero_le _
  | item :: rest => by
      have first := depth_le_length item
      have others := depthAll_le_length rest
      rw [Value.depthAll, packAll, length_append]
      omega

lemma depthEntries_le_length : ∀ entries : List (Value × Value),
    Value.depthEntries entries ≤ (packEntries entries).length
  | [] => zero_le _
  | (key, val) :: rest => by
      have first := depth_le_length key
      have second := depth_le_length val
      have others := depthEntries_le_length rest
      rw [Value.depthEntries, packEntries, length_append, length_append]
      omega

end

variable {v : Value}

lemma unpackValue_pack (widen : Nat → UInt64) (fits : v.Fits) (rest : List UInt8) :
    unpackValue widen (pack v ++ rest) = .ok (v.normal, (pack v).length) := by
  have shallow := depth_le_length v
  rw [unpackValue, value_pack v _ rest fits (by
    rw [length_append]
    omega)]
  dsimp only
  rw [length_append, Nat.add_sub_cancel]

/-! ## What the decoder consumes -/

/-- Whatever is read, the bytes that follow it end the bytes there were. -/
def Decoded.Within {α : Type} (b : List UInt8) (decoded : Decoded α) : Prop :=
  ∀ x rest, decoded = .ok (x, rest) → rest <:+ b

section
variable {α β : Type} {b : List UInt8} {decode : List UInt8 → Decoded Value}

lemma Decoded.Within.map {decoded : Decoded α} (within : decoded.Within b) (f : α → β) :
    (decoded.map f).Within b := by
  intro x rest read
  cases decoded with
  | error e => cases read
  | ok pair =>
    cases read
    exact within _ _ rfl

lemma need_within : (need n b).Within b := by
  intro x rest read
  rw [need] at read
  split at read
  · cases read
    exact drop_suffix n b
  · cases read

lemma readNumber_within : (readNumber width b).Within b := by
  intro x rest read
  rw [readNumber] at read
  split at read
  · cases read
  · next bytes left needed =>
    cases read
    exact need_within _ _ needed

lemma readLength_within : (readLength width b).Within b := by
  intro x rest read
  rw [readLength] at read
  split at read
  · cases read
  · next u left number =>
    split at read
    · cases read
    · cases read
      exact readNumber_within _ _ number

lemma readBytes_within (width : Nat) : (readBytes width b).Within b := by
  intro x rest read
  rw [readBytes] at read
  split at read
  · cases read
  · next n left length =>
    exact (need_within _ _ read).trans (readLength_within _ _ length)

lemma readExt_within (h : UInt8) (front : List UInt8) (n : Nat) :
    (readExt h front n b).Within b := by
  intro x rest read
  rw [readExt] at read
  split at read
  · cases read
  · next body left needed =>
    cases read
    exact need_within _ _ needed

lemma readArray_within (decodes : ∀ b, (decode b).Within b) (n : Nat) :
    (readArray decode n b).Within b := by
  induction n generalizing b with
  | zero =>
    intro x rest read
    cases read
    exact suffix_refl b
  | succ n induction =>
    intro x rest read
    rw [readArray] at read
    split at read
    · cases read
    · next item left first =>
      split at read
      · cases read
      · next items after others =>
        cases read
        exact (induction _ _ others).trans (decodes b _ _ first)

lemma readMap_within (decodes : ∀ b, (decode b).Within b) (n : Nat) :
    (readMap decode n b).Within b := by
  induction n generalizing b with
  | zero =>
    intro x rest read
    cases read
    exact suffix_refl b
  | succ n induction =>
    intro x rest read
    rw [readMap] at read
    split at read
    · cases read
    · next key left first =>
      split at read
      · cases read
      · next val behind second =>
        split at read
        · cases read
        · next entries after others =>
          cases read
          exact ((induction _ _ others).trans (decodes _ _ _ second)).trans (decodes b _ _ first)

lemma readTagged_within (widen : Nat → UInt64) (decodes : ∀ b, (decode b).Within b) (h : UInt8)
    (t : Tag) : (readTagged widen decode h b t).Within b := by
  have plain : ∀ v : Value, Decoded.Within b (.ok (v, b)) := by
    intro v x rest read
    cases read
    exact suffix_refl b
  have counted : ∀ (width : Nat) (next : Nat → List UInt8 → Decoded Value),
      (∀ n b, (next n b).Within b) → Decoded.Within b (match readLength width b with
        | .error e => .error e
        | .ok (n, rest) => next n rest) := by
    intro width next within x rest read
    split at read
    · cases read
    · next n left length =>
      exact (within _ _ _ _ read).trans (readLength_within _ _ length)
  cases t with
  | fixint | negative | nil | bool => exact plain _
  | fixstr n => exact need_within.map _
  | fixarray n => exact (readArray_within decodes n).map _
  | fixmap n => exact (readMap_within decodes n).map _
  | bin width | str width => exact (readBytes_within width).map _
  | float32 | float64 => exact readNumber_within.map _
  | uint width | int width => exact readNumber_within.map _
  | array width => exact counted width _ fun n b => (readArray_within decodes n).map _
  | map width => exact counted width _ fun n b => (readMap_within decodes n).map _
  | fixext n => exact readExt_within h [] n
  | ext width => exact counted width _ fun n _ => readExt_within h _ n
  | unsupported =>
    intro x rest read
    cases read

lemma value_within (widen : Nat → UInt64) (depth : Nat) (b : List UInt8) :
    (value widen depth b).Within b := by
  induction depth generalizing b with
  | zero =>
    intro x rest read
    cases read
  | succ depth induction =>
    cases b with
    | nil =>
      intro x rest read
      cases read
    | cons h b =>
      intro x rest read
      exact (readTagged_within widen induction h (tag h) x rest read).trans (suffix_cons h b)

/-- A value takes its type byte at least. -/
lemma value_consumes (read : value widen depth b = .ok (v, rest)) : rest.length < b.length := by
  cases depth with
  | zero => cases read
  | succ depth =>
    cases b with
    | nil => cases read
    | cons h b =>
      have within := readTagged_within widen (value_within widen depth) h (tag h) v rest read
      exact lt_succ_of_le within.length_le

end

lemma unpackValue_consumes (unpacked : unpackValue widen b = .ok (v, n)) :
    1 ≤ n ∧ n ≤ b.length := by
  rw [unpackValue] at unpacked
  split at unpacked
  · cases unpacked
  · next read =>
    have consumed := value_consumes read
    cases unpacked
    omega

end MeshSat.Msgpack
