import MeshSat.Library.Bytes

/-!
# The Hub messaging contract

Identifiers, the content digest and what travels on the Hub's topics. Texts
are those of the wire. A time is a number of milliseconds in 64 bits, as it
is there.
-/

namespace MeshSat.Hub

open Library List Char

/-! ## Identifiers -/

def hexDigit (c : Char) : Option Nat :=
  if '0' ≤ c ∧ c ≤ '9' then some (c.toNat - '0'.toNat)
  else if 'a' ≤ c ∧ c ≤ 'f' then some (c.toNat - 'a'.toNat + 10)
  else if 'A' ≤ c ∧ c ≤ 'F' then some (c.toNat - 'A'.toNat + 10)
  else none

/-- `hex.Decode`. -/
def hexDecode : List Char → Option (List UInt8)
  | [] => some []
  | [_] => none
  | high :: low :: digits => do
      let high ← hexDigit high
      let low ← hexDigit low
      let bytes ← hexDecode digits
      some (UInt8.ofNat (16 * high + low) :: bytes)

def hexChar (n : Nat) : Char :=
  if n < 10 then ofNat ('0'.toNat + n)
  else ofNat ('a'.toNat + (n - 10))

/-- `hex.EncodeToString`. -/
def hexEncode (bytes : List UInt8) : String :=
  String.ofList (bytes.flatMap fun byte =>
    [hexChar (byte.toNat / 16), hexChar (byte.toNat % 16)])

/-- The 16 bytes of a UUID in its canonical text: lower case, 8-4-4-4-12. -/
def parseCanonical (s : String) : Option (List UInt8) :=
  let chars := s.toList
  if chars.length ≠ 36 || chars[8]? ≠ some '-' || chars[13]? ≠ some '-' ||
      chars[18]? ≠ some '-' || chars[23]? ≠ some '-' then none
  else
    let digits := chars.take 8 ++ (chars.drop 9).take 4 ++
      (chars.drop 14).take 4 ++ (chars.drop 19).take 4 ++ chars.drop 24
    if digits.map toLower ≠ digits then none else hexDecode digits

/-- A UUIDv7 in canonical text with the RFC variant. -/
def validV7 (s : String) : Bool :=
  match parseCanonical s with
  | none => false
  | some bytes => bytes.getD 8 0 >>> 6 = 0b10 && bytes.getD 6 0 >>> 4 = 7

/-! ## The content digest -/

/-- The first field of the digest's preimage. -/
def contentTag : String := "meshsat.content/1"

def textBytes (s : String) : List UInt8 := s.toUTF8.toList

def preimageField (field : List UInt8) : List UInt8 :=
  bytesBE 4 field.length ++ field

/-- What `content_sha256` hashes. -/
def contentPreimage (mid recipient contentType : String)
    (midExpiresAt : Int64) (body : List UInt8) : Option (List UInt8) :=
  match parseCanonical mid with
  | none => none
  | some m =>
    if midExpiresAt < 0 then none
    else
      let fields := [textBytes contentTag, m, textBytes recipient,
        textBytes contentType, bytesBE 8 midExpiresAt.toNatClampNeg, body]
      if fields.any fun field => 2 ^ 32 - 1 < field.length then none
      else some (fields.flatMap preimageField)

/-- A lower-case digit is the one its value is written with. -/
lemma hexChar_of_hexDigit (digit : hexDigit c = some n)
    (lower : c.toLower = c) : n < 16 ∧ hexChar n = c := by
  have table : ∀ k : Fin 103, ∀ n ∈ hexDigit (ofNat k),
      (ofNat k).toLower = ofNat k → n < 16 ∧ hexChar n = ofNat k := by
    decide +kernel
  have small : c.toNat < 103 := by
    by_contra large
    simp [hexDigit, le_def, UInt32.le_iff_toNat_le] at digit
    rw [if_neg (by omega), if_neg (by omega), if_neg (by omega)] at digit
    cases digit
  have found := table ⟨c.toNat, small⟩ n
  simp only [ofNat_toNat] at found
  exact found digit lower

variable {bytes : List UInt8}

/-- What a canonical text's digits decode to is written with those digits. -/
lemma digits_of_hexDecode (decoded : hexDecode digits = some bytes)
    (lower : digits.map toLower = digits) : digits = (hexEncode bytes).toList := by
  induction digits using hexDecode.induct generalizing bytes with
  | case1 =>
    cases decoded
    rfl
  | case2 => cases decoded
  | case3 high low digits induction =>
    rw [hexDecode] at decoded
    obtain ⟨top, topDigit, decoded⟩ := Option.bind_eq_some_iff.mp decoded
    obtain ⟨bottom, bottomDigit, decoded⟩ := Option.bind_eq_some_iff.mp decoded
    obtain ⟨rest, restDecoded, decoded⟩ := Option.bind_eq_some_iff.mp decoded
    cases decoded
    simp only [map_cons, List.cons.injEq] at lower
    obtain ⟨topSmall, topChar⟩ := hexChar_of_hexDigit topDigit lower.1
    obtain ⟨bottomSmall, bottomChar⟩ := hexChar_of_hexDigit bottomDigit lower.2.1
    have byte : (UInt8.ofNat (16 * top + bottom)).toNat = 16 * top + bottom := by
      simp
      omega
    rw [induction restDecoded lower.2.2, hexEncode, hexEncode, String.toList_ofList,
      String.toList_ofList, flatMap_cons, byte,
      show (16 * top + bottom) / 16 = top by omega,
      show (16 * top + bottom) % 16 = bottom by omega, topChar, bottomChar]
    rfl

lemma drop_dash {chars : List Char} {n : Nat} (dash : chars[n]? = some '-') (k : Nat) :
    chars.drop n = '-' :: ((chars.drop (n + 1)).take k ++ chars.drop (n + 1 + k)) := by
  obtain ⟨inside, dash⟩ := List.getElem?_eq_some_iff.mp dash
  rw [drop_eq_getElem_cons inside, dash, ← drop_drop (i := k), take_append_drop]

lemma parseCanonical_injective {s t : String}
    (left : parseCanonical s = some bytes) (right : parseCanonical t = some bytes) : s = t := by
  unfold parseCanonical at left right
  dsimp only at left right
  split at left
  · cases left
  split at left
  · cases left
  split at right
  · cases right
  split at right
  · cases right
  rename_i leftShape leftLower rightShape rightLower
  have same := (digits_of_hexDecode left (not_not.mp leftLower)).trans
    (digits_of_hexDecode right (not_not.mp rightLower)).symm
  simp only [ne_eq, Bool.or_eq_true, decide_eq_true_eq, not_or, not_not] at leftShape rightShape
  obtain ⟨⟨⟨⟨leftSize, left8⟩, left13⟩, left18⟩, left23⟩ := leftShape
  obtain ⟨⟨⟨⟨rightSize, right8⟩, right13⟩, right18⟩, right23⟩ := rightShape
  -- The groups of digits agree one by one, from the last to the first.
  obtain ⟨same, fifth⟩ := append_inj' same (by simp [leftSize, rightSize])
  obtain ⟨same, fourth⟩ := append_inj' same (by simp [leftSize, rightSize])
  obtain ⟨same, third⟩ := append_inj' same (by simp [leftSize, rightSize])
  obtain ⟨first, second⟩ := append_inj' same (by simp [leftSize, rightSize])
  apply String.toList_injective
  rw [← take_append_drop 8 s.toList, ← take_append_drop 8 t.toList, drop_dash left8 4,
    drop_dash left13 4, drop_dash left18 4, drop_dash left23 0, drop_dash right8 4,
    drop_dash right13 4, drop_dash right18 4, drop_dash right23 0, first, second, third, fourth]
  simp [fifth]

lemma preimageField_append (short : a.length < 2 ^ 32) (fits : b.length < 2 ^ 32)
    (same : preimageField a ++ x = preimageField b ++ y) : a = b ∧ x = y := by
  simp only [preimageField, append_assoc] at same
  obtain ⟨counts, rest⟩ := append_inj same (by simp)
  exact append_inj rest (bytesBE_injective short fits counts)

/-- Fields short enough for their count are told apart by what they are
written as. -/
lemma fields_eq {left right : List (List UInt8)} (sized : left.length = right.length)
    (short : ¬left.any fun field => 2 ^ 32 - 1 < field.length)
    (fits : ¬right.any fun field => 2 ^ 32 - 1 < field.length)
    (same : left.flatMap preimageField = right.flatMap preimageField) : left = right := by
  induction left generalizing right with
  | nil => exact (length_eq_zero_iff.mp sized.symm).symm
  | cons field fields induction =>
    cases right with
    | nil => cases sized
    | cons other others =>
      simp only [any_cons, Bool.or_eq_true, decide_eq_true_eq, not_or] at short fits
      obtain ⟨heads, tails⟩ := preimageField_append (by omega) (by omega) same
      rw [heads, induction (Nat.succ.inj sized) short.2 fits.2 tails]

lemma toNatClampNeg_injective {a b : Int64} (left : ¬a < 0) (right : ¬b < 0)
    (same : bytesBE 8 a.toNatClampNeg = bytesBE 8 b.toNatClampNeg) : a = b := by
  have zero : (0 : Int64).toInt = 0 := rfl
  have fits := a.toInt_lt
  have otherFits := b.toInt_lt
  rw [Int64.lt_iff_toInt_lt] at left right
  have values := bytesBE_injective (by unfold Int64.toNatClampNeg; omega)
    (by unfold Int64.toNatClampNeg; omega) same
  unfold Int64.toNatClampNeg at values
  apply Int64.toInt_inj.mp
  omega

theorem contentPreimage_injective (mid recipient contentType : String) (midExpiresAt : Int64)
    (body : List UInt8) (mid' recipient' contentType' : String) (midExpiresAt' : Int64)
    (body' preimage : List UInt8)
    (accepted : contentPreimage mid recipient contentType midExpiresAt body = some preimage)
    (accepted' : contentPreimage mid' recipient' contentType' midExpiresAt' body' = some preimage) :
    mid = mid' ∧ recipient = recipient' ∧ contentType = contentType' ∧
      midExpiresAt = midExpiresAt' ∧ body = body' := by
  unfold contentPreimage at accepted accepted'
  split at accepted
  · cases accepted
  rename_i m parsed
  split at accepted'
  · cases accepted'
  rename_i m' parsed'
  split at accepted
  · cases accepted
  rename_i positive
  split at accepted'
  · cases accepted'
  rename_i positive'
  dsimp only at accepted accepted'
  split at accepted
  · cases accepted
  rename_i short
  split at accepted'
  · cases accepted'
  rename_i short'
  have same := fields_eq (by rfl) short short'
    ((Option.some.inj accepted).trans (Option.some.inj accepted').symm)
  simp only [List.cons.injEq, true_and, and_true] at same
  obtain ⟨mids, recipients, types, times, bodies⟩ := same
  subst mids
  exact ⟨parseCanonical_injective parsed parsed', toUTF8_toList_injective recipients,
    toUTF8_toList_injective types, toNatClampNeg_injective positive positive' times, bodies⟩

theorem contentPreimage_injective_hello : ∃ mid preimage,
    contentPreimage mid "ops" "text/plain" 9 (textBytes "hello") = some preimage ∧
      mid = "01890a5d-ac96-774b-bcce-b302099a8057" := by
  have accepted : (contentPreimage "01890a5d-ac96-774b-bcce-b302099a8057" "ops" "text/plain" 9
      (textBytes "hello")).isSome := by
    decide +kernel
  obtain ⟨preimage, accepted⟩ := Option.isSome_iff_exists.mp accepted
  exact ⟨_, preimage, accepted,
    (contentPreimage_injective _ _ _ _ _ _ _ _ _ _ _ accepted accepted).1⟩

/-- The digest, in lower-case hexadecimal. The hash function is SHA-256. -/
def contentSHA256 (sha256 : List UInt8 → List UInt8)
    (mid recipient contentType : String) (midExpiresAt : Int64)
    (body : List UInt8) : Option String :=
  (contentPreimage mid recipient contentType midExpiresAt body).map fun p =>
    hexEncode (sha256 p)

/-! ## Deliveries -/

/-- What the Hub publishes on a recipient's `msg/in`: `From` is the origin of
the recipient's commit key, `To` the recipient. -/
structure Delivery where
  (opID mid origin recipient contentType : String)
  (midExpiresAt expiresAt : Int64)
  (contentSHA256 body : String)
  deriving DecidableEq

def Delivery.digest (sha256 : List UInt8 → List UInt8) (d : Delivery) : Option String :=
  Hub.contentSHA256 sha256 d.mid d.recipient d.contentType d.midExpiresAt (textBytes d.body)

inductive Result where
  | stored | refused
  deriving DecidableEq

/-- Why a delivery is refused. -/
inductive Reason where
  | badID | digestMismatch | badExpiry | opConflict | midConflict | expiredAtRecipient
  | receiverBusy
  deriving DecidableEq

def Reason.text : Reason → String
  | .badID => "bad_id"
  | .digestMismatch => "digest_mismatch"
  | .badExpiry => "bad_expiry"
  | .opConflict => "op_conflict"
  | .midConflict => "mid_conflict"
  | .expiredAtRecipient => "expired_at_recipient"
  | .receiverBusy => "receiver_busy"

/-- What the receiver commits and answers for one delivery. -/
structure Answer where
  result : Result
  reason : Option Reason := none
  storedNow : Bool := false
  withinSkew : Bool := false
  unjudged : Bool := false
  /-- The stored message's row on a stored answer. -/
  messageID : Nat := 0
  deriving DecidableEq

def refusedAnswer (reason : Reason) : Answer where
  result := .refused
  reason := some reason

end MeshSat.Hub
