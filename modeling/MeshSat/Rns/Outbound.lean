import MeshSat.Rns.Link
import MeshSat.Rns.Transit

/-!
# Sends of the node's own

Packets, link requests, packets on a link and resources that the node sends
for itself, each under a constraint. `FreeOnly` asks for interfaces the
transport floods on, which are those without a cost.

A caller holds on to the links it opened, so that all of them are kept, with
the tables that find a link by its id. Every packet that leaves is marked
with whether it belongs to a send under `FreeOnly`.
-/

namespace MeshSat.Rns

open Library Reticulum

def tokenOverhead : Nat := 48

structure Constraint where
  freeOnly : Bool
  deriving DecidableEq

/-- What a send sees of the transport. -/
structure Wire where
  floodable : List String
  hwmtu : String → Int
  /-- Why a transmission on an interface failed. -/
  failure : String → Option String

def Wire.freeInterface (w : Wire) (id : String) : Bool := id ≠ "" && w.floodable.contains id

def Constraint.allows (c : Constraint) (w : Wire) (iface : String) : Bool :=
  !c.freeOnly || w.freeInterface iface

inductive SendError
  | unknownDestination | paidRefused | noPath
  | transmit (cause : String)
  | encrypt (cause : String)
  | exceedsMTU (length plaintext : Nat)
  | notPrepared (cause : String)
  | request (cause : String)
  | link (cause : LinkError)

def SendError.text : SendError → String
  | unknownDestination => "rns: destination identity unknown"
  | paidRefused => LinkError.paidRefused.text
  | noPath => "rns: no path to destination"
  | transmit cause => cause
  | encrypt cause => cause
  | exceedsMTU length plaintext =>
    s!"rns: a {length}-byte packet ({plaintext} bytes of plaintext) " ++
      s!"exceeds the MTU of {mtu}"
  | notPrepared cause => "rns: the send was not prepared; nothing was written: " ++ cause
  | request cause => cause
  | link cause => cause.text

/-! ## Packets -/

/-- A packet that was handed to the transport. -/
structure Transmission where
  iface : String
  raw : List UInt8
  /-- It belongs to a send under `FreeOnly`. -/
  freeOnly : Bool

structure Outbound where
  router : Router
  sent : List Transmission
  result : Except SendError (List String)

/-- Along the path if one is known, and otherwise on every interface that is
flooded. -/
def Router.outboundWith (r : Router) (w : Wire) (h : Header) (c : Constraint) : Outbound :=
  let flood : Outbound :=
    if w.floodable = [] then ⟨r, [], .error .noPath⟩
    else
      ⟨r, w.floodable.map fun id => ⟨id, h.marshal, c.freeOnly⟩, .ok w.floodable⟩
  if h.packetType ≠ .announce ∧ h.destType ≠ .plain ∧ h.destType ≠ .group then
    match r.paths.get? h.destHash with
    | none => flood
    | some e =>
      if r.now < e.expires then
        if !c.allows w e.iface then ⟨r, [], .error .paidRefused⟩
        else
          let out := if e.direct then h else rewriteForTransport h e.nextHop
          ⟨r.usePath h.destHash, [⟨e.iface, out.marshal, c.freeOnly⟩],
            match w.failure e.iface with
            | some cause => .error (.transmit cause)
            | none => .ok [e.iface]⟩
      else flood
  else flood

def Node.recall (n : Node) (dest : TruncatedHash) : Option KnownIdentity :=
  (n.identities.get? dest).filter fun k => k.identity.isSome

structure DataPacket where
  dest : TruncatedHash
  plaintext : List UInt8
  encrypt : KnownIdentity → List UInt8 → Except String (List UInt8)
  /-- Why the caller did not prepare for the packet. -/
  refusal : Option String

def DataPacket.header (d : DataPacket) (ct : List UInt8) : Header where
  headerType := .type1
  contextFlag := false
  transportType := .broadcast
  destType := .single
  packetType := .data
  hops := 0
  transportID := FixedBytes.zero _
  destHash := d.dest
  context := contextNone
  data := ct

def Router.sendDataPrepared (r : Router) (w : Wire) (d : DataPacket) (c : Constraint) : Outbound :=
  match r.recall d.dest with
  | none => ⟨r, [], .error .unknownDestination⟩
  | some k =>
    match d.encrypt k d.plaintext with
    | .error cause => ⟨r, [], .error (.encrypt cause)⟩
    | .ok ct =>
      let h := d.header ct
      if h.marshal.length > mtu then
        ⟨r, [], .error (.exceedsMTU h.marshal.length d.plaintext.length)⟩
      else
        match d.refusal with
        | some cause => ⟨r, [], .error (.notPrepared cause)⟩
        | none => r.outboundWith w h c

/-! ## Links -/

/-- A link, and the resources sent on it under `FreeOnly`. -/
structure Channel where
  link : Link
  free : List FullHash

abbrev LinkTable := Keyed (Prod.fst : TruncatedHash × Nat → TruncatedHash)

structure Station where
  router : Router
  /-- Every link in the order of opening, also when it is closed. -/
  opened : List Channel
  (pending links : LinkTable)

abbrev Dispatched := Station × List Transmission

/-- What opening a link draws. -/
structure Initiation where
  keys : Except String (List UInt8 → List UInt8)
  /-- The data of the link request, which signals an MTU. -/
  request : Nat → List UInt8
  linkID : Header → Except String TruncatedHash

def Node.nextHopInterface (n : Node) (dest : TruncatedHash) : String :=
  match n.paths.get? dest with
  | some e => e.iface
  | none => ""

def Node.hopsTo (n : Node) (dest : TruncatedHash) : Int :=
  match n.paths.get? dest with
  | some e => e.hops
  | none => -1

def linkRequestHeader (dest : TruncatedHash) (data : List UInt8) : Header where
  headerType := .type1
  contextFlag := false
  transportType := .broadcast
  destType := .single
  packetType := .linkRequest
  hops := 0
  transportID := FixedBytes.zero _
  destHash := dest
  context := contextNone
  data := data

def requestedLink (sign : List UInt8 → List UInt8) (now : Int)
    (id dest : TruncatedHash) (mtu : Nat) (hops : Int) (c : Constraint) : Link where
  id := id
  dest := dest
  initiator := true
  iface := ""
  freeOnly := c.freeOnly
  state := .pending
  token := none
  sign := sign
  mtu := mtu
  rtt := 0
  keepalive := keepaliveMax
  staleTime := 2 * keepaliveMax
  requestTime := now
  establishTO := perHopTimeout * hops + 6 * second
  activatedAt := 0
  lastInbound := 0
  lastOutbound := 0
  lastKeepalive := 0
  lastProof := 0
  staleSince := 0
  expectedHops := hops
  remoteIdent := none
  localDest := none
  acceptResources := none
  incoming := Keyed.empty
  outgoing := Keyed.empty

def Station.requestMTU (s : Station) (w : Wire) (dest : TruncatedHash) : Nat :=
  let ifc := s.router.nextHopInterface dest
  if ifc ≠ "" then boundedMTU mtu (w.hwmtu ifc) else mtu

/-- The link is on an interface once it is known which one it left on. -/
def Link.sentOn (l : Link) (now : Int) (ifaces : List String) : Link :=
  { l with
    iface :=
      match ifaces with
      | [id] => id
      | _ => l.iface
    lastOutbound := now }

def Station.initiateWith (s : Station) (w : Wire) (x : Initiation)
    (dest : TruncatedHash) (c : Constraint) : Dispatched :=
  let r := s.router
  match r.recall dest, x.keys with
  | none, _ => (s, [])
  | _, .error _ => (s, [])
  | some _, .ok sign =>
    let mtu := s.requestMTU w dest
    let h := linkRequestHeader dest (x.request mtu)
    match x.linkID h with
    | .error _ => (s, [])
    | .ok id =>
      let l := requestedLink sign r.now id dest mtu (max 1 (r.hopsTo dest)) c
      let out := r.outboundWith w h c
      match out.result with
      | .error _ =>
        ({ s with
            router := out.router
            pending := s.pending.deleteWhere fun e => e.1 = id },
          out.sent)
      | .ok ifaces =>
        ({ s with
            router := out.router
            opened := s.opened ++ [⟨l.sentOn r.now ifaces, []⟩]
            pending := s.pending.put (id, s.opened.length) },
          out.sent)

def Channel.transmission (ch : Channel) (free : Bool) : LinkEffect → Option Transmission
  | .transmit iface header resource =>
    some
      { iface := iface
        raw := header.marshal
        freeOnly := ch.link.freeOnly || free || resource.any fun hash => ch.free.contains hash }
  | _ => none

def LinkEffect.closes : LinkEffect → Bool
  | .closed => true
  | _ => false

/-- The link after a step; one that was closed is taken from the tables. -/
def Station.settle (s : Station) (index : Nat) (ch : Channel) (free : Bool)
    (outcome : Outcome) : Dispatched :=
  let s :=
    { s with opened := s.opened.set index { ch with link := outcome.1 } }
  (if outcome.2.any LinkEffect.closes then
      { s with
        pending := s.pending.deleteWhere fun e => e.1 = ch.link.id
        links := s.links.deleteWhere fun e => e.1 = ch.link.id }
    else s, outcome.2.filterMap (ch.transmission free))

def Station.acceptLink (s : Station) (env : Env) (x : Handshake) (hw : Int)
    (d : Destination) (pkt : Packet) : Dispatched :=
  match accept x env hw d pkt with
  | none => (s, [])
  | some (l, effects) =>
    ({ s with
        opened := s.opened ++ [⟨l, []⟩]
        links := s.links.put (l.id, s.opened.length) },
      effects.filterMap (Channel.transmission ⟨l, []⟩ false))

structure ProofCheck where
  confirmed : Link → Header → Option (Nat × Token)

section
variable (p : LinkPrimitives) (l : Link) (env : Env)

/-- A link whose proof has come, on the interface the proof came on. -/
def Link.establish (pkt : Packet) (mtu : Nat) (token : Token) : Link :=
  Link.updateKeepalive p
    { l with
      token := some token
      mtu := mtu
      rtt := env.now - l.requestTime
      iface := pkt.iface
      state := .active
      activatedAt := env.now
      lastProof := env.now
      lastInbound := env.now }

def Link.sendRTT : Outcome :=
  match l.encrypt (env.iv 0) (p.rttData l.rtt) with
  | .error _ => (l, [])
  | .ok ct => l.sendLinkPacket env .data contextLRRTT ct none

end

def Station.handleProof (p : LinkPrimitives) (s : Station) (env : Env)
    (x : ProofCheck) (pkt : Packet) : Dispatched :=
  match s.pending.get? pkt.hdr.destHash with
  | none => (s, [])
  | some (_, index) =>
    match s.opened[index]? with
    | none => (s, [])
    | some ch =>
      match x.confirmed ch.link pkt.hdr with
      | none => (s, [])
      | some (mtu, token) =>
        if ch.link.state ≠ .pending then (s, [])
        else
          let l := ch.link.establish p env pkt mtu token
          { s with
            pending := s.pending.deleteWhere fun e => e.1 = l.id
            links := s.links.put (l.id, index)
            }.settle index { ch with link := l } false (l.sendRTT p env)

def Station.receive (p : LinkPrimitives) (s : Station) (env : Env)
    (pkt : Packet) : Checked Dispatched :=
  match s.links.get? pkt.hdr.destHash with
  | none => .ok (s, [])
  | some (_, index) =>
    match s.opened[index]? with
    | none => .ok (s, [])
    | some ch => do
        let outcome ← ch.link.receive p env pkt
        pure (s.settle index ch false outcome)

/-- The largest plaintext of a packet on a link. -/
def linkMDU (mtu : Nat) : Int :=
  (((mtu : Int) - ifacMinSize - headerMinSize - tokenOverhead).tdiv aesBlockSize) * aesBlockSize - 1

def Link.sendPrepared (l : Link) (env : Env) (plain : List UInt8)
    (c : Constraint) (refusal : Option String) : Except SendError Outcome :=
  if (c.freeOnly || l.freeOnly) && !env.freeInterface l.iface then
    .error .paidRefused
  else if l.state ≠ .active ∧ l.state ≠ .stale then .error (.link .notActive)
  else if (plain.length : Int) > linkMDU l.mtu then .error (.link .exceedsMDU)
  else
    match l.encrypt (env.iv 0) plain with
    | .error cause => .error (.link cause)
    | .ok ct =>
      match refusal with
      | some cause => .error (.notPrepared cause)
      | none => .ok (l.writeLinkPacket env (buildLinkPacket l .data contextNone ct) none)

/-- `Identify`, with the signed public key of an identity. -/
def Link.identify (l : Link) (env : Env)
    (identity : TruncatedHash → List UInt8) : Except LinkError Outcome :=
  if !l.initiator || l.state ≠ .active then .error .cannotIdentify
  else
    match l.encrypt (env.iv 0) (identity l.id) with
    | .error cause => .error cause
    | .ok ct => .ok (l.sendLinkPacket env .data contextLinkIdentify ct none)

/-! ## Steps -/

inductive StationAction
  /-- Anything the router does. -/
  | route (action : RouterAction)
  | sendData (w : Wire) (d : DataPacket) (c : Constraint)
  | initiate (w : Wire) (x : Initiation) (dest : TruncatedHash) (c : Constraint)
  | accept (env : Env) (x : Handshake) (hw : Int) (d : Destination) (pkt : Packet)
  | proof (env : Env) (x : ProofCheck) (pkt : Packet)
  | receive (env : Env) (pkt : Packet)
  | send (env : Env) (index : Nat) (plain : List UInt8) (c : Constraint) (refusal : Option String)
  | sendResource (env : Env) (index : Nat) (payload : List UInt8)
      (c : Constraint) (front : RandomHash) (draws : List RandomHash)
  | identify (env : Env) (index : Nat) (identity : TruncatedHash → List UInt8)
  | teardown (env : Env) (index : Nat)
  /-- The watchdog comes to a link. -/
  | watchResources (env : Env) (index : Nat)
  | watch (env : Env) (index : Nat)

/-- Only a path request under the constraint is such a send. -/
def RouterAction.freeOnly : RouterAction → Bool
  | .requestPath _ _ freeOnly _ _ => freeOnly
  | _ => false

def Station.route (s : Station) (crypto : Crypto) (x : LinkChecks)
    (action : RouterAction) : Dispatched :=
  let (r, sent) := s.router.step crypto x action
  ({ s with router := r }, sent.map fun p => ⟨p.iface, p.raw, action.freeOnly⟩)

def Station.send (s : Station) (env : Env) (index : Nat)
    (plain : List UInt8) (c : Constraint) (refusal : Option String) :
    Dispatched :=
  match s.opened[index]? with
  | none => (s, [])
  | some ch =>
    match ch.link.sendPrepared env plain c refusal with
    | .error _ => (s, [])
    | .ok outcome => s.settle index ch c.freeOnly outcome

/-- A resource sent under the constraint is noted. -/
def Channel.noteFree (ch : Channel) (c : Constraint) (hash : FullHash) : Channel :=
  if c.freeOnly then { ch with free := hash :: ch.free } else ch

namespace Station

def sendResource (p : LinkPrimitives) (s : Station) (env : Env)
    (index : Nat) (payload : List UInt8) (c : Constraint)
    (front : RandomHash) (draws : List RandomHash) : Checked Dispatched :=
  match s.opened[index]? with
  | none => .ok (s, [])
  | some ch => do
      match ← ch.link.sendResourceWith p.toPrimitives env payload c.freeOnly front draws with
      | .error _ => pure (s, [])
      | .ok (r, outcome) => pure (s.settle index (ch.noteFree c r.hash) false outcome)

def identify (s : Station) (env : Env) (index : Nat)
    (identity : TruncatedHash → List UInt8) : Dispatched :=
  match s.opened[index]? with
  | none => (s, [])
  | some ch =>
    match ch.link.identify env identity with
    | .error _ => (s, [])
    | .ok outcome => s.settle index ch false outcome

def teardown (s : Station) (env : Env) (index : Nat) : Dispatched :=
  match s.opened[index]? with
  | none => (s, [])
  | some ch => s.settle index ch false (ch.link.teardown env)

/-- The links the watchdog comes to are those in the tables. -/
def watched (s : Station) (index : Nat) : Bool :=
  (s.pending.entries.any fun e => e.2 = index) || s.links.entries.any fun e => e.2 = index

def watchResources (s : Station) (env : Env) (index : Nat) : Checked Dispatched :=
  match s.opened[index]? with
  | none => .ok (s, [])
  | some ch =>
    if !s.watched index then .ok (s, [])
    else do
      let outcome ← ch.link.resourceWatchdog env
      pure (s.settle index ch false outcome)

def watch (p : LinkPrimitives) (s : Station) (env : Env) (index : Nat) : Dispatched :=
  match s.opened[index]? with
  | none => (s, [])
  | some ch =>
    if !s.watched index then (s, [])
    else s.settle index ch false (ch.link.watch p env)

/-- What the step may not do ends the process. -/
def step (crypto : Crypto) (x : LinkChecks) (p : LinkPrimitives)
    (s : Station) : StationAction → Checked Dispatched
  | .route action => .ok (s.route crypto x action)
  | .sendData w d c =>
    let out := s.router.sendDataPrepared w d c
    .ok ({ s with router := out.router }, out.sent)
  | .initiate w i dest c => .ok (s.initiateWith w i dest c)
  | .accept env h hw d pkt => .ok (s.acceptLink env h hw d pkt)
  | .proof env check pkt => .ok (s.handleProof p env check pkt)
  | .receive env pkt => s.receive p env pkt
  | .send env index plain c refusal => .ok (s.send env index plain c refusal)
  | .sendResource env index payload c front draws =>
    s.sendResource p env index payload c front draws
  | .identify env index identity => .ok (s.identify env index identity)
  | .teardown env index => .ok (s.teardown env index)
  | .watchResources env index => s.watchResources env index
  | .watch env index => .ok (s.watch p env index)

def new (r : Router) : Station := ⟨r, [], .empty, .empty⟩

end Station

end MeshSat.Rns
