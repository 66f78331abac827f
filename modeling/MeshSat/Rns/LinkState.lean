import MeshSat.Library.Checked
import MeshSat.Library.Keyed
import MeshSat.Msgpack.Codec
import MeshSat.Reticulum.Token

/-!
# Links

A link and the resources sent and received on it, with the one function that
puts a packet of the link on its interface. Times are in nanoseconds.
-/

namespace MeshSat.Rns

open Library Reticulum

/-! ## Resources -/

def resourceMapHashLen : Nat := 4
def resourceRandomHashLen : Nat := 4
def resourceWindow : Int := 4
def resourceWindowMin : Int := 2
def resourceWindowMaxSlow : Int := 10
def resourceWindowMaxFast : Int := 75
def resourceWindowFlex : Int := 4
def resourceMaxAdvRetries : Int := 4
def resourceMaxRetries : Int := 16
def resourceMaxSize : Int := 1 * 1024 * 1024 - 1
def resourceHashmapNotExh : UInt8 := 0x00
def resourceHashmapExh : UInt8 := 0xFF
def resourceProcessingGrac : Int := 1000000000
def resourceRetryGrace : Int := 250000000
def resourcePerRetryDelay : Int := 500000000
def resourceSenderGrace : Int := 10000000000
/-- `(431 - resourceAdvOverhead) / resourceMapHashLen`. -/
def resourceHashmapMaxLen : Int := 74
def resourceCollisionGuard : Int := 2 * resourceWindowMaxFast + resourceHashmapMaxLen

abbrev MapHash := FixedBytes resourceMapHashLen
abbrev RandomHash := FixedBytes resourceRandomHashLen

inductive LinkError
  | paidRefused | notActive | resourceTooLarge | noKey
  | token (cause : TokenError)
  | exceedsMDU | cannotIdentify
  deriving DecidableEq

def LinkError.text : LinkError → String
  | paidRefused =>
    "rns: this send may use free interfaces only, and its path leaves on " ++ "a paid one"
  | notActive => "rns: link not active"
  | resourceTooLarge => "rns: resource larger than one segment (1 MiB)"
  | noKey => "rns: link has no key yet"
  | token cause => cause.text
  | exceedsMDU => "rns: plaintext exceeds link MDU"
  | cannotIdentify => "rns: identify needs an active initiated link"

inductive ResourceFailure
  | encrypt (cause : LinkError)
  | sequencing | hashmapUpdate | decrypt | decompress | hashMismatch | partsTimeout | noRequests
  | receiverTimeout | cancelled | rejected
  deriving DecidableEq

def ResourceFailure.text : ResourceFailure → String
  | encrypt cause => cause.text
  | sequencing => "resource sequencing error"
  | hashmapUpdate => "resource HMU error"
  | decrypt => "resource decrypt failed"
  | decompress => "resource decompress failed"
  | hashMismatch => "resource hash mismatch"
  | partsTimeout => "timed out waiting for parts"
  | noRequests => "no part requests after advertisement"
  | receiverTimeout => "timed out waiting for the receiver"
  | cancelled => "cancelled by sender"
  | rejected => "rejected by receiver"

inductive ResourceResult
  | delivered
  | failed (cause : ResourceFailure)
  deriving DecidableEq

inductive OutgoingState
  | advertised | transferring | awaitingProof | complete | failed
  deriving DecidableEq

structure OutgoingResource where
  hash : FullHash
  /-- The encrypted stream. -/
  data : List UInt8
  parts : List (List UInt8)
  partSent : List Bool
  mapHashes : List MapHash
  randomHash : RandomHash
  expectedProof : FullHash
  (dataSize sentParts advRetries advSent lastActivity rtt : Int)
  state : OutgoingState
  recvMinHeight : Int

inductive IncomingState
  | transferring | assembling | complete | failed
  deriving DecidableEq

structure IncomingResource where
  hash : FullHash
  /-- The size of the encrypted stream. -/
  (size dataSize totalParts : Int)
  /-- A part is nil until it is received. -/
  parts : List (Option (List UInt8))
  hashmap : List MapHash
  hashmapSet : List Bool
  hashHeight : Int
  randomHash : RandomHash
  compressed : Bool
  (received outstanding window windowMax windowMin consecutive : Int)
  waitingHMU : Bool
  (retries lastActivity reqSent : Int)
  state : IncomingState

/-! ## Links -/

inductive LinkState
  | pending | handshake | active | stale | closed
  deriving DecidableEq

structure Destination where
  hash : TruncatedHash
  (acceptLinks proveAll : Bool)
  /-- Nothing is accepted when it is nil. -/
  acceptResources : Option (Int → Bool)

structure Link where
  (id dest : TruncatedHash)
  initiator : Bool
  iface : String
  /-- The link was requested under `Constraint.FreeOnly`. -/
  freeOnly : Bool
  state : LinkState
  token : Option Token
  /-- Signs with the link's signing key. -/
  sign : List UInt8 → List UInt8
  mtu : Nat
  (rtt keepalive staleTime requestTime establishTO activatedAt lastInbound lastOutbound : Int)
  (lastKeepalive lastProof staleSince expectedHops : Int)
  remoteIdent : Option (List UInt8)
  localDest : Option Destination
  acceptResources : Option (Int → Bool)
  incoming : Keyed IncomingResource.hash
  outgoing : Keyed OutgoingResource.hash

def Link.sdu (l : Link) : Int := (l.mtu : Int) - headerMaxSize - ifacMinSize

/-- What one step sees of its surroundings. -/
structure Env where
  now : Int
  /-- The interfaces the transport floods on. -/
  floodable : List String
  /-- The initial vectors that are drawn. -/
  iv : Nat → FixedBytes aesBlockSize
  /-- Maps are visited in the order of these numbers. -/
  rank : FullHash → Nat

def Env.freeInterface (env : Env) (id : String) : Bool := id ≠ "" && env.floodable.contains id

/-- What a step does besides changing the link. -/
inductive LinkEffect
  /-- A packet of the link, and the resource it belongs to. -/
  | transmit (iface : String) (header : Header) (resource : Option FullHash)
  /-- A part table is made for a resource of the advertised size. -/
  | allocated (size length : Int)
  /-- `OnResource`. -/
  | received (hash : FullHash) (data : List UInt8)
  | incomingFailed (hash : FullHash) (cause : ResourceFailure)
  /-- The result on the channel of an outgoing resource. -/
  | done (hash : FullHash) (result : ResourceResult)
  | established
  /-- `OnPacket`. -/
  | packet (plain : List UInt8)
  | identified (publicKey : List UInt8)
  | context (header : Header)
  | closed

abbrev Outcome := Link × List LinkEffect

def Link.encrypt (l : Link) (iv : FixedBytes aesBlockSize)
    (plain : List UInt8) : Except LinkError (List UInt8) :=
  match l.token with
  | none => .error .noKey
  | some token => .ok (token.encrypt iv plain)

def Link.decrypt (l : Link) (ct : List UInt8) : Except LinkError (List UInt8) :=
  match l.token with
  | none => .error .noKey
  | some token =>
    match token.decrypt ct with
    | .error cause => .error (.token cause)
    | .ok plain => .ok plain

section
variable {l : Link} {token : Token} (keyed : l.token = some token) (iv : FixedBytes aesBlockSize)
  (plain : List UInt8)

include keyed

lemma Link.encrypt_keyed : l.encrypt iv plain = .ok (token.encrypt iv plain) := by
  rw [Link.encrypt, keyed]

lemma Link.decrypt_encrypt : l.decrypt (token.encrypt iv plain) = .ok plain := by
  rw [Link.decrypt, keyed]
  dsimp only
  rw [token.decrypt_encrypt_eq]

end

def buildLinkPacket (l : Link) (ptype : PacketType) (context : UInt8)
    (data : List UInt8) : Header where
  headerType := .type1
  contextFlag := false
  transportType := .broadcast
  destType := .link
  packetType := ptype
  hops := 0
  transportID := FixedBytes.zero _
  destHash := l.id
  context := context
  data := data

/-- A link that may use free interfaces only never leaves on a paid one. -/
def Link.writeLinkPacket (l : Link) (env : Env) (header : Header)
    (resource : Option FullHash) : Outcome :=
  ({ l with
      lastOutbound := env.now
      lastKeepalive :=
        if header.context = contextKeepalive then env.now
        else l.lastKeepalive },
    if l.freeOnly && !env.freeInterface l.iface then []
    else [.transmit l.iface header resource])

section
variable (l : Link) (env : Env) (ptype : PacketType) (context : UInt8) (data : List UInt8)
  (resource : Option FullHash)

def Link.sendLinkPacket : Outcome :=
  l.writeLinkPacket env (buildLinkPacket l ptype context data) resource

lemma Link.sendLinkPacket_effects : (l.sendLinkPacket env ptype context data resource).2 =
      if l.freeOnly && !env.freeInterface l.iface then []
      else [.transmit l.iface (buildLinkPacket l ptype context data) resource] := rfl

end

end MeshSat.Rns
