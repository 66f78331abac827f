import MeshSat.Library.Bytes

/-!
# Management frames

A frame is a 9-byte header, a body and a 16-byte tag. The nonce is derived
from the header and from who sends, and is never transmitted. The cipher is
AES-256-GCM, taken as given.
-/

variable {f : Frame} {wire key : List UInt8}

namespace MeshSat.Oob

open Library

/-! ## Wire constants -/

def magic : UInt8 := 0x4F
def version : UInt8 := 1
def flagEnc : UInt8 := 0x01
def flagReply : UInt8 := 0x02
def flagNoReply : UInt8 := 0x04
/-- The body starts with the time after which the frame must not be acted
on. -/
def flagExpiry : UInt8 := 0x08

def expiryLen : Nat := 4
def headerLen : Nat := 9
def tagLen : Nat := 16
def minFrameLen : Nat := headerLen + tagLen
def maxArgs : Nat := 73
def maxFrameLen : Nat := headerLen + maxArgs + tagLen
def keyLen : Nat := 32

/-- The last counter; a sender at this value refuses to send. -/
def maxCounter : UInt32 := 0xFFFFFFFF

inductive Direction where
  | request | reply
  deriving DecidableEq

def Direction.byte : Direction → UInt8
  | .request => 0
  | .reply => 1

/-- The side of a key relationship a kit sits on. Both sides use one key. -/
inductive Role where
  | issuer | importer
  deriving DecidableEq

def Role.byte : Role → UInt8
  | .issuer => 0
  | .importer => 1

def Role.other : Role → Role
  | .issuer => .importer
  | .importer => .issuer

structure Frame where
  enc : Bool
  reply : Bool := false
  noReply : Bool := false
  peerID : UInt16
  counter : UInt32
  cmd : UInt8
  /-- Without the expiry field. -/
  args : List UInt8 := []
  /-- Unix time; 0 for none. -/
  expiresAt : UInt32 := 0
  deriving DecidableEq

/-- The expiry lies more than the skew before now, in nanoseconds. -/
def Frame.expired (f : Frame) (now skew : Int) : Bool :=
  f.expiresAt ≠ 0 && f.expiresAt.toNat * 1000000000 + skew < now

def Frame.direction (f : Frame) : Direction :=
  if f.reply then .reply else .request

/-- What is read without a key. -/
structure Header where
  flags : UInt8
  peerID : UInt16
  counter : UInt32
  cmd : UInt8
  bodyLen : Nat
  deriving DecidableEq

namespace Header

def has (h : Header) (flag : UInt8) : Bool := h.flags &&& flag ≠ 0

def version (h : Header) : UInt8 := h.flags >>> 4

end Header

inductive FrameError where
  | tooShort | tooLong | badMagic | badVersion | badKey | badPeer | badCounter | argsLen | auth
  | badExpiry
  deriving DecidableEq

/-! ## The codec -/

def parseHeader (wire : List UInt8) : Except FrameError Header :=
  if wire.length < minFrameLen then .error .tooShort
  else if wire.length > maxFrameLen then .error .tooLong
  else if wire.head? ≠ some magic then .error .badMagic
  else
    let h : Header :=
      { flags := wire.getD 1 0
        peerID := UInt16.ofNat (valueBE ((wire.drop 2).take 2))
        counter := UInt32.ofNat (valueBE ((wire.drop 4).take 4))
        cmd := wire.getD 8 0
        bodyLen := wire.length - headerLen - tagLen }
    if h.version ≠ version then .error .badVersion else .ok h

def nonce (peerID : UInt16) (senderRole : Role) (dir : Direction) (counter : UInt32) : List UInt8 :=
  bytesBE 2 peerID.toNat ++ [senderRole.byte <<< 1 ||| dir.byte] ++
    bytesBE 4 counter.toNat ++ List.replicate 5 0

/-- An authenticated cipher: key, nonce, text and additional data. -/
structure Cipher where
  encrypt : List UInt8 → List UInt8 → List UInt8 → List UInt8 → List UInt8
  decrypt : List UInt8 → List UInt8 → List UInt8 → List UInt8 → Option (List UInt8)

def Frame.body (f : Frame) : List UInt8 :=
  if f.expiresAt ≠ 0 then bytesBE expiryLen f.expiresAt.toNat ++ f.args
  else f.args

def Frame.flags (f : Frame) : UInt8 :=
  version <<< 4 ||| (if f.enc then flagEnc else 0) ||| (if f.reply then flagReply else 0) |||
    (if f.noReply then flagNoReply else 0) ||| (if f.expiresAt ≠ 0 then flagExpiry else 0)

def Frame.header (f : Frame) : List UInt8 :=
  [magic, f.flags] ++ bytesBE 2 f.peerID.toNat ++ bytesBE 4 f.counter.toNat ++ [f.cmd]

/-- `Seal`: the wire form, by the kit that sends. -/
def sealFrame (cipher : Cipher) (f : Frame) (key : List UInt8)
    (senderRole : Role) : Except FrameError (List UInt8) :=
  if f.peerID = 0 then .error .badPeer
  else if f.counter = 0 then .error .badCounter
  else if f.body.length > maxArgs then .error .argsLen
  else if key.length ≠ keyLen then .error .badKey
  else
    let n := nonce f.peerID senderRole f.direction f.counter
    if f.enc then .ok (f.header ++ cipher.encrypt key n f.body f.header)
    else
      -- A clear body joins the additional data; only the tag is sealed.
      .ok (f.header ++ f.body ++ cipher.encrypt key n [] (f.header ++ f.body))

def splitExpiry (h : Header) (f : Frame) (body : List UInt8) : Except FrameError Frame :=
  if h.has flagExpiry then
    if body.length < expiryLen then .error .badExpiry
    else
      let expiresAt := UInt32.ofNat (valueBE (body.take expiryLen))
      if expiresAt = 0 then .error .badExpiry
      else .ok { f with expiresAt, args := body.drop expiryLen }
  else .ok { f with args := body }

/-- `Open`: the frame, with the role of the side that sent it. -/
def openFrame (cipher : Cipher) (wire key : List UInt8) (senderRole : Role) :
    Except FrameError Frame := do
  let h ← parseHeader wire
  if h.peerID = 0 then .error .badPeer
  else if h.counter = 0 then .error .badCounter
  else if key.length ≠ keyLen then .error .badKey
  else
    let f : Frame :=
      { enc := h.has flagEnc
        reply := h.has flagReply
        noReply := h.has flagNoReply
        peerID := h.peerID
        counter := h.counter
        cmd := h.cmd }
    let n := nonce h.peerID senderRole f.direction h.counter
    let hdr := wire.take headerLen
    let body ←
      if h.has flagEnc then
        match cipher.decrypt key n (wire.drop headerLen) hdr with
        | none => Except.error .auth
        | some args => .ok args
      else
        let clear := (wire.drop headerLen).take h.bodyLen
        let tag := wire.drop (wire.length - tagLen)
        match cipher.decrypt key n tag (hdr ++ clear) with
        | none => .error .auth
        | some _ => .ok clear
    splitExpiry h f body

/-! ## What a frame carries over -/

lemma nonce_injective (same : nonce peerID role dir counter =
      nonce otherPeer otherRole otherDir other) :
    peerID = otherPeer ∧ role = otherRole ∧ dir = otherDir ∧ counter = other := by
  simp only [nonce, List.append_assoc] at same
  obtain ⟨peers, same⟩ := List.append_inj same (by simp)
  obtain ⟨bits, same⟩ := List.append_inj same rfl
  obtain ⟨counters, _⟩ := List.append_inj same (by simp)
  have samePeer : peerID = otherPeer := UInt16.toNat_inj.mp
    (bytesBE_injective peerID.toNat_lt otherPeer.toNat_lt peers)
  have sameCounter : counter = other := UInt32.toNat_inj.mp
    (bytesBE_injective counter.toNat_lt other.toNat_lt counters)
  have sameBits : role = otherRole ∧ dir = otherDir := by
    cases role <;> cases otherRole <;> cases dir <;> cases otherDir <;> revert bits <;> decide
  exact ⟨samePeer, sameBits.1, sameBits.2, sameCounter⟩

lemma splitExpiry_header (split : splitExpiry h f body = .ok opened) :
    opened.peerID = f.peerID ∧ opened.counter = f.counter := by
  unfold splitExpiry at split
  dsimp only at split
  split at split
  · split at split
    · cases split
    split at split
    · cases split
    · cases split
      exact ⟨rfl, rfl⟩
  · cases split
    exact ⟨rfl, rfl⟩

variable {cipher : Cipher} {senderRole : Role}

lemma openFrame_header (parsed : parseHeader wire = .ok h)
    (opened : openFrame cipher wire key senderRole = .ok f) :
    f.peerID = h.peerID ∧ f.counter = h.counter := by
  simp only [openFrame, parsed, bind, Except.bind] at opened
  split at opened
  · cases opened
  split at opened
  · cases opened
  split at opened
  · cases opened
  split at opened
  · split at opened
    · cases opened
    · exact splitExpiry_header opened
  split at opened
  · cases opened
  · exact splitExpiry_header opened

lemma sealFrame_counter
    (isSealed : sealFrame cipher f key senderRole = .ok wire) : f.counter ≠ 0 := by
  intro isZero
  simp only [sealFrame, isZero, if_true] at isSealed
  split at isSealed
  · cases isSealed
  · cases isSealed

end MeshSat.Oob
