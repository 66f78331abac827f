import MeshSat.Reticulum.Packet

/-!
# Tokens and link requests

A token is an initial vector, the padded and encrypted data and a message
authentication code. A link request may signal the MTU of the link.
-/

namespace MeshSat.Reticulum

open Library List

def aesBlockSize : Nat := 16
def hmacLen : Nat := 32

/-- AES-CBC and HMAC-SHA256 under the two halves of a token's key. -/
structure Token where
  (cbcEncrypt cbcDecrypt : FixedBytes aesBlockSize → List UInt8 → List UInt8)
  hmac : List UInt8 → FullHash
  length_cbcEncrypt : ∀ iv data, (cbcEncrypt iv data).length = data.length
  decrypt_encrypt : ∀ iv data, data.length % aesBlockSize = 0 →
    cbcDecrypt iv (cbcEncrypt iv data) = data

inductive TokenError
  | tooShort (length : Nat)
  | invalidHMAC | notAligned | invalidPadding
  deriving DecidableEq

def TokenError.text : TokenError → String
  | tooShort length => s!"reticulum: token too short ({length} bytes)"
  | invalidHMAC => "reticulum: token HMAC was invalid"
  | notAligned => "reticulum: token ciphertext not block-aligned"
  | invalidPadding => "reticulum: invalid PKCS7 padding"

def padLen (data : List UInt8) : Nat := aesBlockSize - data.length % aesBlockSize

def padData (data : List UInt8) : List UInt8 :=
  data ++ List.replicate (padLen data) (UInt8.ofNat (padLen data))

/-- `iv` is drawn at random. -/
def Token.encrypt (t : Token) (iv : FixedBytes aesBlockSize) (data : List UInt8) : List UInt8 :=
  let out := iv.bytes ++ t.cbcEncrypt iv (padData data)
  out ++ (t.hmac out).bytes

def Token.verifyHMAC (t : Token) (token : List UInt8) : Bool :=
  decide (token.drop (token.length - hmacLen) =
    (t.hmac (token.take (token.length - hmacLen))).bytes)

/-- The padding says its own length in each of its bytes. -/
def unpad (pt : List UInt8) : Except TokenError (List UInt8) :=
  let pad := pt.getLastD 0
  if pad = 0 ∨ pad.toNat > aesBlockSize ∨ pad.toNat > pt.length then
    .error .invalidPadding
  else if (pt.drop (pt.length - pad.toNat)).any fun byte => byte != pad then
    .error .invalidPadding
  else .ok (pt.take (pt.length - pad.toNat))

def Token.decrypt (t : Token) (token : List UInt8) : Except TokenError (List UInt8) :=
  if token.length < aesBlockSize + aesBlockSize + hmacLen then
    .error (.tooShort token.length)
  else if !t.verifyHMAC token then .error .invalidHMAC
  else
    let body := token.take (token.length - hmacLen)
    let ct := body.drop aesBlockSize
    if ct.length % aesBlockSize ≠ 0 then .error .notAligned
    else unpad (t.cbcDecrypt (FixedBytes.copy _ (body.take aesBlockSize)) ct)

section
variable (t : Token) (iv : FixedBytes aesBlockSize) (data : List UInt8)

lemma length_padData : (padData data).length = data.length + padLen data := by
  rw [padData, length_append, length_replicate]

lemma padLen_bounds : 0 < padLen data ∧ padLen data ≤ 16 ∧
    (data.length + padLen data) % 16 = 0 := by
  rw [padLen, aesBlockSize]
  omega

lemma Token.length_encrypt : (t.encrypt iv data).length = 48 + (data.length + padLen data) := by
  have ivLength : iv.bytes.length = 16 := iv.length_eq
  rw [Token.encrypt, length_append, length_append,
    t.length_cbcEncrypt, length_padData, ivLength, FixedBytes.length_eq, fullHashLen]
  omega

lemma unpad_padData : unpad (padData data) = .ok data := by
  obtain ⟨positive, small, _⟩ := padLen_bounds data
  have byte : (UInt8.ofNat (padLen data)).toNat = padLen data :=
    UInt8.toNat_ofNat_of_lt' (show padLen data < 256 by omega)
  have last : (padData data).getLastD 0 = UInt8.ofNat (padLen data) := by
    rw [padData, getLastD_eq_getLast?, List.getLast?_append,
      List.getLast?_replicate, if_neg (by omega)]
    rfl
  have start : (padData data).length - padLen data = data.length := by
    rw [length_padData]
    omega
  have valid : ¬ (UInt8.ofNat (padLen data) = 0 ∨ (UInt8.ofNat (padLen data)).toNat > aesBlockSize ∨
      (UInt8.ofNat (padLen data)).toNat > (padData data).length) := by
    have some : UInt8.ofNat (padLen data) ≠ 0 := by
      intro zero
      rw [zero, UInt8.toNat_zero] at byte
      omega
    rw [byte, length_padData]
    rintro (zero | large | long)
    · exact some zero
    · exact Nat.not_lt.mpr small large
    · omega
  have same : ((padData data).drop data.length).any
      (fun other => other != UInt8.ofNat (padLen data)) = false := by
    rw [padData, drop_left, any_eq_false]
    intro other member
    rw [eq_of_mem_replicate member, bne_self_eq_false]
    exact Bool.false_ne_true
  rw [unpad, last, if_neg valid, byte, start, same, if_neg Bool.false_ne_true, padData, take_left]

lemma Token.decrypt_encrypt_eq : t.decrypt (t.encrypt iv data) = .ok data := by
  obtain ⟨_, _, aligned⟩ := padLen_bounds data
  have ivLength : iv.bytes.length = aesBlockSize := iv.length_eq
  have cipherLength : (t.cbcEncrypt iv (padData data)).length = data.length + padLen data := by
    rw [t.length_cbcEncrypt, length_padData]
  have length := t.length_encrypt iv data
  have cut : (t.encrypt iv data).length - hmacLen =
      (iv.bytes ++ t.cbcEncrypt iv (padData data)).length := by
    rw [length, length_append, ivLength, cipherLength, hmacLen, aesBlockSize]
    omega
  have body : (t.encrypt iv data).take ((t.encrypt iv data).length - hmacLen) =
      iv.bytes ++ t.cbcEncrypt iv (padData data) := by
    rw [cut, Token.encrypt, take_left]
  have authentic : t.verifyHMAC (t.encrypt iv data) = true := by
    rw [Token.verifyHMAC, body]
    apply decide_eq_true
    rw [cut, Token.encrypt, drop_left]
  have long : ¬ (t.encrypt iv data).length < aesBlockSize + aesBlockSize + hmacLen := by
    rw [length, aesBlockSize, hmacLen]
    omega
  rw [Token.decrypt, if_neg long, authentic, body]
  dsimp only
  rw [drop_left' ivLength, take_left' ivLength, cipherLength,
    FixedBytes.copy_bytes, t.decrypt_encrypt iv _ (by
      rw [length_padData]
      exact aligned), unpad_padData]
  simp [aesBlockSize, aligned]

/-- What is encrypted is decrypted again; a token is in whole blocks. -/
theorem token_round_trip : t.decrypt (t.encrypt iv data) = .ok data ∧
    (t.encrypt iv data).length = 64 + data.length / 16 * 16 := by
  refine ⟨t.decrypt_encrypt_eq iv data, ?_⟩
  rw [t.length_encrypt, padLen, aesBlockSize]
  omega

end

/-! ## Link requests -/

def linkECPubSize : Nat := 64
def linkMTUSize : Nat := 3
def linkModeAES256CBC : UInt8 := 0x01

/-- The MTU in 21 bits and the mode in the three above them. -/
def parseSignalling (s : List UInt8) : Nat × UInt8 :=
  if s.length < linkMTUSize then (mtu, linkModeAES256CBC)
  else
    (valueBE (s.take linkMTUSize) % 2 ^ 21, (s.getD 0 0 &&& 0xE0) >>> 5)

structure RNSLinkRequest where
  (ephPub ephSigPub : List UInt8)
  mtu : Nat
  mode : UInt8
  signalled : Bool
  deriving DecidableEq

inductive LinkRequestError
  | wrongLength (length : Nat)
  | badEphemeralKey (cause : String)
  | modeNotEnabled (mode : UInt8)
  deriving DecidableEq

def LinkRequestError.text : LinkRequestError → String
  | wrongLength length =>
    s!"reticulum: packet too short: link request must be {linkECPubSize} or " ++
      s!"{linkECPubSize + linkMTUSize} bytes, got {length}"
  | badEphemeralKey cause => "reticulum: bad link ephemeral key: " ++ cause
  | modeNotEnabled mode => s!"reticulum: link mode {mode.toNat} not enabled"

/-- `newPublicKey` is the error of `X25519().NewPublicKey`, if any. -/
def unmarshalRNSLinkRequest (newPublicKey : List UInt8 → Option String)
    (data : List UInt8) : Except LinkRequestError RNSLinkRequest :=
  if data.length ≠ linkECPubSize ∧ data.length ≠ linkECPubSize + linkMTUSize then
    .error (.wrongLength data.length)
  else
    match newPublicKey (data.take encryptionPubLen) with
    | some cause => .error (.badEphemeralKey cause)
    | none =>
      let signalled := decide (data.length = linkECPubSize + linkMTUSize)
      let (linkMTU, mode) :=
        if signalled then parseSignalling (data.drop linkECPubSize)
        else (mtu, linkModeAES256CBC)
      if mode ≠ linkModeAES256CBC then .error (.modeNotEnabled mode)
      else
        .ok
          { ephPub := data.take encryptionPubLen
            ephSigPub := (data.drop encryptionPubLen).take (linkECPubSize - encryptionPubLen)
            mtu := linkMTU
            mode := mode
            signalled := signalled }

end MeshSat.Reticulum
