import MeshSat.Reticulum.Packet

/-!
# Announces

An announce is signed by the identity it is about. Its random hash ends with
the time at which it was emitted.
-/

namespace MeshSat.Reticulum

open Library

/-- The cryptography that the wire forms rest on. -/
structure Crypto where
  sha256 : List UInt8 → FullHash
  /-- The error of `X25519().NewPublicKey`, if it does not take a key. -/
  newPublicKey : List UInt8 → Option String
  /-- `ed25519.Verify` of a key, a text and a signature. -/
  verify : List UInt8 → List UInt8 → List UInt8 → Bool

structure PublicKeys where
  (encPub sigPub : List UInt8)
  deriving DecidableEq

structure Announce where
  destHash : TruncatedHash
  hops : UInt8
  /-- Whether a ratchet is present. -/
  contextFlag : Bool
  context : UInt8
  publicKey : List UInt8
  nameHash : FixedBytes nameHashLen
  random : FixedBytes randomHashLen
  ratchet : FixedBytes ratchetKeyLen
  (signature appData : List UInt8)
  keys : PublicKeys
  deriving DecidableEq

inductive AnnounceError
  | tooShort (length minSize : Nat)
  | publicKeySize (length : Nat)
  | publicKey (cause : String)
  | destHashMismatch | invalidSignature
  deriving DecidableEq

def AnnounceError.text : AnnounceError → String
  | tooShort length minSize =>
    s!"reticulum: packet too short: announce payload {length} bytes, " ++
      s!"need at least {minSize}"
  | publicKeySize length =>
    "parse announce public keys: invalid public key size: " ++
      s!"expected {identityKeySize}, got {length}"
  | publicKey cause => "parse announce public keys: invalid x25519 public key: " ++ cause
  | destHashMismatch => "destination hash mismatch"
  | invalidSignature => "invalid announce signature"

section
variable (crypto : Crypto)

def parsePublicKeys (pub : List UInt8) : Except AnnounceError PublicKeys :=
  if pub.length ≠ identityKeySize then .error (.publicKeySize pub.length)
  else
    match crypto.newPublicKey (pub.take encryptionPubLen) with
    | some cause => .error (.publicKey cause)
    | none => .ok ⟨pub.take encryptionPubLen, pub.drop encryptionPubLen⟩

def computeIdentityHash (keys : PublicKeys) : TruncatedHash :=
  FixedBytes.copy _ ((crypto.sha256 (keys.encPub ++ keys.sigPub)).bytes.take truncatedHashLen)

def computeDestHash (nameHash : FixedBytes nameHashLen)
    (identityHash : TruncatedHash) : TruncatedHash :=
  FixedBytes.copy _ ((crypto.sha256 (nameHash.bytes ++ identityHash.bytes)).bytes.take
      truncatedHashLen)

def verifySignature (pubKey data signature : List UInt8) : Bool :=
  pubKey.length = 32 && signature.length = 64 && crypto.verify pubKey data signature

def announceMinPayload : Nat := identityKeySize + nameHashLen + randomHashLen + signatureLen

def announceRatchetPayload : Nat := announceMinPayload + ratchetKeyLen

def unmarshalAnnouncePayload (data : List UInt8) (destHash : TruncatedHash)
    (hops : UInt8) (contextFlag : Bool) : Except AnnounceError Announce :=
  let minSize :=
    if contextFlag then announceRatchetPayload else announceMinPayload
  if data.length < minSize then .error (.tooShort data.length minSize)
  else
    let publicKey := data.take identityKeySize
    let data := data.drop identityKeySize
    match parsePublicKeys crypto publicKey with
    | .error error => .error error
    | .ok keys =>
      let nameHash := data.take nameHashLen
      let data := data.drop nameHashLen
      let random := data.take randomHashLen
      let data := data.drop randomHashLen
      let ratchet := if contextFlag then data.take ratchetKeyLen else []
      let data := if contextFlag then data.drop ratchetKeyLen else data
      .ok
        { destHash := destHash
          hops := hops
          contextFlag := contextFlag
          context := 0
          publicKey := publicKey
          nameHash := FixedBytes.copy _ nameHash
          random := FixedBytes.copy _ random
          ratchet := FixedBytes.copy _ ratchet
          signature := data.take signatureLen
          appData := data.drop signatureLen
          keys := keys }

def Announce.signableBody (a : Announce) : List UInt8 :=
  a.destHash.bytes ++ a.publicKey ++ a.nameHash.bytes ++ a.random.bytes ++
    (if a.contextFlag then a.ratchet.bytes else []) ++ a.appData

def Announce.verify (a : Announce) : Except AnnounceError Unit :=
  let identityHash := computeIdentityHash crypto a.keys
  if computeDestHash crypto a.nameHash identityHash ≠ a.destHash then
    .error .destHashMismatch
  else if !verifySignature crypto a.keys.sigPub a.signableBody a.signature then
    .error .invalidSignature
  else .ok ()

end

def Announce.marshalPayload (a : Announce) : List UInt8 :=
  a.publicKey ++ a.nameHash.bytes ++ a.random.bytes ++
    (if a.contextFlag then a.ratchet.bytes else []) ++ a.signature ++ a.appData

def Announce.marshalPacketTransport (a : Announce) (transportID : TruncatedHash)
    (hops context : UInt8) : List UInt8 :=
  Header.marshal
    { headerType := .type2
      contextFlag := a.contextFlag
      transportType := .transport
      destType := .single
      packetType := .announce
      hops := hops
      transportID := transportID
      destHash := a.destHash
      context := context
      data := a.marshalPayload }

end MeshSat.Reticulum
