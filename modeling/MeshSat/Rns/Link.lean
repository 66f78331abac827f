import MeshSat.Rns.Announces
import MeshSat.Rns.Resource

/-!
# The life of a link

A link request is accepted for a local destination, packets of the link are
dispatched by their context, and the watchdog keeps a link alive or closes it.
-/

namespace MeshSat.Rns

open Library Reticulum

def keepaliveMax : Int := 360 * second
def keepaliveMin : Int := 5 * second
def staleGrace : Int := 5 * second
def perHopTimeout : Int := 6 * second
def keepaliveInitiator : UInt8 := 0xFF
def keepaliveResponse : UInt8 := 0xFE

/-- With the codecs of the other packets of a link, and what is computed in
floating point. -/
structure LinkPrimitives extends Primitives where
  parseRTT : List UInt8 → Option Int
  rttData : Int → List UInt8
  parseIdentify : List UInt8 → TruncatedHash → Option (List UInt8)
  /-- The round trip time multiplied by `KeepaliveMaxSec / 1.75`. -/
  scaledRTT : Int → Int
  /-- The round trip time multiplied by 4. -/
  staleRTT : Int → Int

def Link.updateKeepalive (p : LinkPrimitives) (l : Link) : Link :=
  let ka := max (min (p.scaledRTT l.rtt) keepaliveMax) keepaliveMin
  { l with keepalive := ka, staleTime := 2 * ka }

/-! ## Accepting a link request -/

/-- The cryptography of a handshake, with the keys drawn for it. -/
structure Handshake where
  newPublicKey : List UInt8 → Option String
  /-- `LinkIDFromRequestPacket`. -/
  linkID : Header → Option TruncatedHash
  /-- The token of the key derived from the shared secret. -/
  exchange : List UInt8 → TruncatedHash → Option Token
  /-- The signature, the ephemeral key and the MTU of a link proof. -/
  proofData : TruncatedHash → Nat → List UInt8
  sign : List UInt8 → List UInt8

def boundedMTU (mtu : Nat) (hw : Int) : Nat :=
  if 0 < hw ∧ hw < mtu then hw.toNat else mtu

def requestedMTU (lr : RNSLinkRequest) (hw : Int) : Nat :=
  if lr.signalled then boundedMTU lr.mtu hw else Reticulum.mtu

section
variable (x : Handshake) (env : Env) (hw : Int) (d : Destination) (pkt : Packet)

def acceptedLink (lr : RNSLinkRequest) (id : TruncatedHash) (token : Token) : Link where
  id := id
  dest := d.hash
  initiator := false
  iface := pkt.iface
  freeOnly := false
  state := .handshake
  token := some token
  sign := x.sign
  mtu := requestedMTU lr hw
  rtt := 0
  keepalive := keepaliveMax
  staleTime := 2 * keepaliveMax
  requestTime := env.now
  establishTO := perHopTimeout * max 1 pkt.hdr.hops.toNat + 6 * second
  activatedAt := 0
  lastInbound := 0
  lastOutbound := env.now
  lastKeepalive := 0
  lastProof := 0
  staleSince := 0
  expectedHops := 0
  remoteIdent := none
  localDest := some d
  acceptResources := d.acceptResources
  incoming := Keyed.empty
  outgoing := Keyed.empty

/-- The proof goes back on the interface of the request. -/
def accept : Option Outcome :=
  if !d.acceptLinks then none
  else
    match unmarshalRNSLinkRequest x.newPublicKey pkt.hdr.data with
    | .error _ => none
    | .ok lr =>
      match x.linkID pkt.hdr with
      | none => none
      | some id =>
        match x.exchange lr.ephPub id with
        | none => none
        | some token =>
          let l := acceptedLink x env hw d pkt lr id token
          some (l, [.transmit pkt.iface (buildLinkPacket l .proof contextLRProof
              (x.proofData id l.mtu)) none])

end

/-! ## Packets of a link -/

section
variable (l : Link) (env : Env)

def Link.sendClose : Outcome :=
  if l.state = .active ∨ l.state = .stale then
    match l.encrypt (env.iv 0) l.id.bytes with
    | .error _ => (l, [])
    | .ok ct => l.sendLinkPacket env .data contextLinkClose ct none
  else (l, [])

def Link.teardown : Outcome :=
  if l.state = .closed then (l, [])
  else
    let (l, told) := l.sendClose env
    ({ l with state := .closed }, told ++ [.closed])

def Link.handlePacket (pkt : Packet) (plain : List UInt8) : Outcome :=
  match l.localDest with
  | none => (l, [.packet plain])
  | some d =>
    if d.proveAll then
      let (l, sent) := l.sendLinkPacket env .proof contextNone
        (pkt.hash.bytes ++ l.sign pkt.hash.bytes) none
      (l, .packet plain :: sent)
    else (l, [.packet plain])

end

/-- The RTT packet activates the side that accepted the link. -/
def Link.handleRTT (p : LinkPrimitives) (l : Link) (env : Env) (h : Header) : Outcome :=
  if l.initiator || l.state ≠ .handshake then (l, [])
  else
    match l.decrypt h.data with
    | .error _ => l.teardown env
    | .ok plain =>
      match p.parseRTT plain with
      | none => l.teardown env
      | some rtt =>
        (Link.updateKeepalive p
          { l with
            rtt := max rtt (env.now - l.requestTime)
            state := .active
            activatedAt := env.now
            expectedHops := h.hops.toNat },
          [.established])

def Link.handleKeepalive (l : Link) (env : Env) (h : Header) : Outcome :=
  if !l.initiator && h.data = [keepaliveInitiator] &&
      decide (l.lastOutbound + l.keepalive ≤ env.now) then
    l.sendLinkPacket env .data contextKeepalive [keepaliveResponse] none
  else (l, [])

def Link.handleClose (l : Link) (plain : List UInt8) : Outcome :=
  if plain = l.id.bytes then ({ l with state := .closed }, [.closed])
  else (l, [])

def Link.handleIdentify (p : LinkPrimitives) (l : Link) (plain : List UInt8) : Outcome :=
  match p.parseIdentify plain l.id with
  | none => (l, [])
  | some pub =>
    ({ l with remoteIdent := some pub },
      if l.remoteIdent.isNone then [.identified pub] else [])

inductive LinkContext
  | none | lrrtt | keepalive | close | resourceAdv | resourceReq | resource | resourceHMU
  | resourceCancel | identify | other
  deriving DecidableEq

def linkContext (context : UInt8) : LinkContext :=
  if context = contextNone then .none
  else if context = contextLRRTT then .lrrtt
  else if context = contextKeepalive then .keepalive
  else if context = contextLinkClose then .close
  else if context = contextResourceAdv then .resourceAdv
  else if context = contextResourceReq then .resourceReq
  else if context = contextResource then .resource
  else if context = contextResourceHMU then .resourceHMU
  else if context = contextResourceICL then .resourceCancel
  else if context = contextResourceRCL then .resourceCancel
  else if context = contextLinkIdentify then .identify
  else .other

def Link.decrypted (l : Link) (data : List UInt8)
    (handler : List UInt8 → Checked Outcome) : Checked Outcome :=
  match l.decrypt data with
  | .error _ => .ok (l, [])
  | .ok plain => handler plain

def Link.dispatch (p : LinkPrimitives) (l : Link) (env : Env) (pkt : Packet) : Checked Outcome :=
  let data := pkt.hdr.data
  match linkContext pkt.hdr.context with
  | .none => l.decrypted data fun plain => .ok (l.handlePacket env pkt plain)
  | .lrrtt => .ok (l.handleRTT p env pkt.hdr)
  | .keepalive => .ok (l.handleKeepalive env pkt.hdr)
  | .close => l.decrypted data fun plain => .ok (l.handleClose plain)
  | .resourceAdv => l.decrypted data (l.handleResourceAdv p.toPrimitives env)
  | .resourceReq => l.decrypted data (l.handleResourceRequest env)
  | .resource => l.receivePart p.toPrimitives env data
  | .resourceHMU => l.decrypted data (l.handleHMU p.toPrimitives env)
  | .resourceCancel => l.decrypted data fun plain => .ok (l.handleCancel plain)
  | .identify =>
    if l.initiator then .ok (l, [])
    else l.decrypted data fun plain => .ok (l.handleIdentify p plain)
  | .other => .ok (l, [.context pkt.hdr])

/-- Hearing from the peer revives a stale link. -/
def Link.heard (l : Link) (env : Env) : Link :=
  { l with
    lastInbound := env.now
    state := if l.state = .stale then .active else l.state }

def Link.receive (p : LinkPrimitives) (l : Link) (env : Env) (pkt : Packet) : Checked Outcome :=
  if pkt.iface ≠ l.iface then .ok (l, [])
  else if pkt.hdr.packetType = .proof then
    if pkt.hdr.context = contextResourcePRF then
      (l.heard env).handleResourceProof env pkt.hdr.data
    else .ok (l.heard env, [])
  else (l.heard env).dispatch p env pkt

/-! ## Watching a link -/

def Link.lastIn (l : Link) : Int := max (max l.lastInbound l.lastProof) l.activatedAt

def Link.watchActive (l : Link) (env : Env) : Outcome :=
  if l.lastIn + l.keepalive ≤ env.now ∨ l.lastOutbound + l.keepalive ≤ env.now then
    let stale := decide (l.lastIn + l.staleTime ≤ env.now)
    let (l, sent) :=
      if l.initiator && decide (l.lastKeepalive + l.keepalive ≤ env.now) then
        l.sendLinkPacket env .data contextKeepalive [keepaliveInitiator] none
      else (l, [])
    (if stale then { l with state := .stale, staleSince := env.now } else l, sent)
  else (l, [])

section
variable (p : LinkPrimitives) (l : Link) (env : Env)

def Link.watchStale : Outcome :=
  if env.now > l.staleSince + (p.staleRTT l.rtt + staleGrace) then
    l.teardown env
  else (l, [])

/-- `watchdog` for one link, after its resources were watched. -/
def Link.watch : Outcome :=
  match l.state with
  | .pending | .handshake =>
    if env.now > l.requestTime + l.establishTO then
      ({ l with state := .closed }, [.closed])
    else (l, [])
  | .active => l.watchActive env
  | .stale => l.watchStale p env
  | .closed => (l, [])

end

end MeshSat.Rns
