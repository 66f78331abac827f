import MeshSat.Reticulum.Hdlc
import MeshSat.Reticulum.Ifac
import MeshSat.Rns.Outbound
import MeshSat.Rns.ResourceSafety

/-!
# Frames from a connection

What becomes of any bytes that a connection hands to the node on an interface
with an access code. Unless the code is valid, nothing is done with them; but
the code is only compared after a key stream of the length of the frame has
been asked for.
-/

namespace MeshSat.Rns

open Library Library.Checked Reticulum List Station

/-! ## Receiving -/

/-- What the node uses for a frame, besides its own state. -/
structure Reception where
  codes : String → Option Ifac
  access : IfacPrimitives
  crypto : Crypto
  checks : LinkChecks
  primitives : LinkPrimitives
  medium : Medium
  env : Env
  handshake : Handshake
  /-- The MTU of the hardware. -/
  hw : Int
  localDestination : TruncatedHash → Destination
  proofs : ProofCheck
  /-- The proof of a packet that a local destination decrypts and proves. -/
  proved : Packet → Option (List UInt8)

inductive Received
  /-- It is no packet of the network. -/
  | ignored
  /-- It has no valid access code. -/
  | violation
  | handled (s : Station) (sent : List (String × List UInt8))

/-- The packet with its hop counted, unless it is filtered. -/
def Router.admitted (r : Router) (hdr : Header) (hash : FullHash)
    (ifaceID : String) : Option Packet :=
  let h := r.unwrapNeighbour hdr
  if r.packetFilter h hash then some ⟨r.countHops h ifaceID, hash, ifaceID⟩
  else none

def Router.noted (r : Router) (pkt : Packet) : Router :=
  if (r.linkTable.get? pkt.hdr.destHash).isNone && !(decide (pkt.hdr.packetType = .proof) &&
        decide (pkt.hdr.context = contextLRProof)) then
    r.remember pkt.hash
  else r

/-- Neither transport nor a link that is carried here takes the packet. -/
def Router.arrives (r : Router) (x : LinkChecks) (m : Medium) (pkt : Packet) : Bool :=
  let h := pkt.hdr
  let transported := h.headerType = .type2 ∧ h.packetType ≠ .announce
  let passed := h.transportID = r.idHash ∧
    (r.forwardTransport x m pkt).isNone ∧ h.packetType = .linkRequest
  let carried := h.packetType ≠ .announce ∧ h.packetType ≠ .linkRequest ∧
    h.context ≠ contextLRProof ∧ (r.linkTransit pkt).isSome
  decide ((¬ transported ∨ passed) ∧ ¬ carried)

section
variable (s : Station) (x : Reception) (pkt : Packet)

def Station.deliverLocal : Dispatched :=
  if pkt.hdr.context ≠ contextNone then (s, [])
  else
    match x.proved pkt with
    | none => (s, [])
    | some proof => (s, [⟨pkt.iface, proof, false⟩])

/-- A packet that has arrived, if it is for the node itself. -/
def Station.deliver : Checked Dispatched :=
  let h := pkt.hdr
  match h.packetType with
  | .announce => .ok (s, [])
  | .linkRequest =>
    if h.destType = .single ∧ s.router.dests.contains h.destHash then
      .ok (s.acceptLink x.env x.handshake x.hw (x.localDestination h.destHash) pkt)
    else .ok (s, [])
  | .data =>
    match h.destType with
    | .link => s.receive x.primitives x.env pkt
    | .single =>
      if s.router.dests.contains h.destHash then
        .ok (s.deliverLocal x pkt)
      else .ok (s, [])
    | .plain | .group => .ok (s, [])
  | .proof =>
    if h.context = contextLRProof then
      if (s.router.lrProofTransit x.checks pkt).isSome then .ok (s, [])
      else .ok (s.handleProof x.primitives x.env x.proofs pkt)
    else if h.context = contextResourcePRF then
      s.receive x.primitives x.env pkt
    else .ok (s, [])

def Station.handle : Checked Dispatched := do
  let r := s.router.noted pkt
  let routed := r.route x.crypto x.checks x.medium pkt
  let s := { s with router := routed.1 }
  let delivered ←
    if r.arrives x.checks x.medium pkt then s.deliver x pkt
    else pure (s, [])
  pure (delivered.1, (routed.2.map fun p => ⟨p.iface, p.raw, false⟩) ++ delivered.2)

end

def Reception.transmit (x : Reception) (t : Transmission) : Checked (String × List UInt8) :=
  match x.codes t.iface with
  | none => .ok (t.iface, t.raw)
  | some f => do
      let raw ← f.wrap x.access t.raw
      pure (t.iface, raw)

def Reception.transmitAll (x : Reception) : List Transmission → Checked (List (String × List UInt8))
  | [] => .ok []
  | t :: rest => do
      let sent ← x.transmit t
      let others ← x.transmitAll rest
      pure (sent :: others)

def hashablePart (raw : List UInt8) : List UInt8 :=
  let start := if unpackHeaderType (raw.getD 0 0) = .type2 then
    2 + truncatedHashLen else 2
  if raw.length < 2 ∨ raw.length < start then []
  else (raw.getD 0 0 &&& 0x0F) :: raw.drop start

section
variable (s : Station) (x : Reception) (raw : List UInt8) (ifaceID : String)

/-- `Inbound`, once there is no access code left. -/
def Station.process : Checked Received :=
  match unmarshalHeader raw with
  | .error _ => .ok .ignored
  | .ok hdr =>
    match s.router.admitted hdr (x.crypto.sha256 (hashablePart raw)) ifaceID with
    | none => .ok (.handled s [])
    | some pkt => do
        let out ← s.handle x pkt
        let sent ← x.transmitAll out.2
        pure (.handled out.1 sent)

def Station.inbound : Checked Received :=
  if raw.length < headerMinSize then .ok .ignored
  else
    match x.codes ifaceID with
    | some f => do
        match ← f.unwrap x.access raw with
        | .error _ => pure .violation
        | .ok clean => s.process x clean ifaceID
    | none =>
      if hasIFACFlag raw then .ok .violation
      else s.process x raw ifaceID

end

/-! ## What returns -/

/-- The frame is short, or its key stream is not too long. -/
def FrameFits (f : Ifac) (raw : List UInt8) : Prop := raw.length < headerMinSize ∨ f.Unmaskable raw

/-- The key stream for a packet that is sent is not too long. -/
def Reception.Sendable (x : Reception) (t : Transmission) : Prop :=
  ∀ f, x.codes t.iface = some f → t.raw.length < 2 ∨ t.raw.length + f.size ≤ hkdfMax

/-- The links can take the packet, and what follows from it can be sent. -/
structure Station.Manages (s : Station) (x : Reception) (clean : List UInt8)
    (ifaceID : String) : Prop where
  sound : ∀ ch ∈ s.opened, ch.link.Sound
  fits : ∀ hdr pkt, unmarshalHeader clean = .ok hdr →
    s.router.admitted hdr (x.crypto.sha256 (hashablePart clean)) ifaceID = some pkt →
    ∀ ch ∈ s.opened, ch.link.PacketFits x.primitives pkt
  sendable : ∀ hdr pkt out, unmarshalHeader clean = .ok hdr →
    s.router.admitted hdr (x.crypto.sha256 (hashablePart clean)) ifaceID = some pkt →
    s.handle x pkt = .ok out → ∀ t ∈ out.2, x.Sendable t

section
variable {x : Reception} {s : Station} {f : Ifac} {raw clean : List UInt8}
  {ifaceID : String} {pkt : Packet}

lemma Reception.Sendable.returns_transmit (sendable : x.Sendable t) : Returns (x.transmit t)
    (fun _ => True) := by
  rw [Reception.transmit]
  cases coded : x.codes t.iface with
  | none => exact returns_ok.mpr trivial
  | some f =>
    rw [returns_bind]
    exact (Ifac.returns_wrap_iff.mpr (sendable f coded)).mono fun _ _ => returns_pure.mpr trivial

lemma Reception.returns_transmitAll (sendable : ∀ t ∈ sent, x.Sendable t) : Returns
    (x.transmitAll sent) (fun _ => True) := by
  induction sent with
  | nil => exact returns_ok.mpr trivial
  | cons t rest induction =>
    obtain ⟨first, others⟩ := forall_mem_cons.mp sendable
    rw [Reception.transmitAll, returns_bind]
    refine first.returns_transmit.mono fun _ _ => ?_
    rw [returns_bind]
    exact (induction others).mono fun _ _ => returns_pure.mpr trivial

section
variable (sound : ∀ ch ∈ s.opened, ch.link.Sound)
  (fits : ∀ ch ∈ s.opened, ch.link.PacketFits x.primitives pkt)

include sound fits

lemma Station.returns_receive : Returns (s.receive x.primitives x.env pkt) (fun _ => True) := by
  rw [receive]
  split
  · exact returns_ok.mpr trivial
  split
  · exact returns_ok.mpr trivial
  rename_i ch found
  have member := mem_of_getElem? found
  rw [returns_bind]
  exact ((sound ch member).returns_receive (fits ch member)).mono
    fun _ _ => returns_pure.mpr trivial

lemma Station.returns_deliver : Returns (s.deliver x pkt) (fun _ => True) := by
  rw [deliver]
  cases pkt.hdr.packetType with
  | announce => exact returns_ok.mpr trivial
  | linkRequest =>
    dsimp only
    split
    · exact returns_ok.mpr trivial
    · exact returns_ok.mpr trivial
  | data =>
    cases pkt.hdr.destType with
    | link => exact returns_receive sound fits
    | single =>
      dsimp only
      split
      · exact returns_ok.mpr trivial
      · exact returns_ok.mpr trivial
    | plain => exact returns_ok.mpr trivial
    | group => exact returns_ok.mpr trivial
  | proof =>
    dsimp only
    split
    · split
      · exact returns_ok.mpr trivial
      · exact returns_ok.mpr trivial
    split
    · exact returns_receive sound fits
    · exact returns_ok.mpr trivial

lemma Station.returns_handle : Returns (s.handle x pkt) (fun _ => True) := by
  rw [handle]
  split
  · rw [returns_bind]
    refine Returns.mono (returns_deliver sound fits) ?_
    intro delivered _
    exact returns_pure.mpr trivial
  · exact returns_pure.mpr trivial

end

lemma Station.Manages.returns_process (manages : s.Manages x clean ifaceID) :
    Returns (s.process x clean ifaceID) (fun _ => True) := by
  rw [process]
  cases parsed : unmarshalHeader clean with
  | error cause => exact returns_ok.mpr trivial
  | ok hdr =>
    dsimp only
    cases kept : s.router.admitted hdr (x.crypto.sha256 (hashablePart clean)) ifaceID with
    | none => exact returns_ok.mpr trivial
    | some pkt =>
      obtain ⟨out, handled, -⟩ := returns_handle manages.sound (manages.fits hdr pkt parsed kept)
      have sendable := manages.sendable hdr pkt out parsed kept handled
      dsimp only
      rw [handled, ok_bind, returns_bind]
      exact (Reception.returns_transmitAll sendable).mono fun _ _ => returns_pure.mpr trivial

lemma Station.inbound_unauthenticated (coded : x.codes ifaceID = some f) (fits : FrameFits f raw)
    (unauthenticated : ∀ clean, ¬ f.Wraps x.access clean raw) : s.inbound x raw ifaceID =
    .ok (if raw.length < headerMinSize then .ignored else .violation) := by
  rw [inbound]
  by_cases short : raw.length < headerMinSize
  · rw [if_pos short, if_pos short]
  obtain ⟨outcome, unwrapped, -⟩ :=
    (@Ifac.returns_unwrap_iff x.access f raw).mpr (fits.resolve_left short)
  rw [if_neg short, if_neg short, coded]
  dsimp only
  rw [unwrapped, ok_bind]
  cases outcome with
  | error cause => rfl
  | ok clean => exact absurd (Ifac.wraps_of_unwrap unwrapped) (unauthenticated clean)

lemma Station.frameFits_of_returns (coded : x.codes ifaceID = some f)
    (returned : Returns (s.inbound x raw ifaceID) (fun _ => True)) : FrameFits f raw := by
  by_cases short : raw.length < headerMinSize
  · exact .inl short
  rw [inbound, if_neg short, coded] at returned
  refine .inr ((@Ifac.returns_unwrap_iff x.access f raw).mp ?_)
  exact (returns_bind.mp returned).mono fun _ _ => trivial

end

/-- Whatever a connection delivers: a frame that nobody with the key has
wrapped is refused exactly when its key stream is not too long, and one that
has been wrapped is handled as far as its packet can be. -/
theorem unauthenticated_frame_returns_iff (x : Reception) (s : Station)
    {f : Ifac} {ifaceID : String} (coded : x.codes ifaceID = some f) (raw : List UInt8) :
    ((∀ clean, ¬ f.Wraps x.access clean raw) → (Returns (s.inbound x raw ifaceID) (fun _ => True) ↔
        FrameFits f raw) ∧ (FrameFits f raw → s.inbound x raw ifaceID =
        .ok (if raw.length < headerMinSize then .ignored
          else .violation))) ∧ (∀ clean, f.Wraps x.access clean raw → s.Manages x clean ifaceID →
      Returns (s.inbound x raw ifaceID) (fun _ => True)) ∧
    (Returns (f.unwrap x.access raw) (fun _ => True) ↔ f.Unmaskable raw) ∧
    ∀ clean, f.unwrap x.access raw = .ok (.ok clean) ↔ f.Wraps x.access clean raw := by
  refine ⟨?_, ?_, Ifac.returns_unwrap_iff, fun _ => Ifac.unwrap_eq_ok_iff⟩
  · intro unauthenticated
    have refused := fun fits =>
      @Station.inbound_unauthenticated x s f raw ifaceID coded fits unauthenticated
    refine ⟨⟨frameFits_of_returns coded, ?_⟩, refused⟩
    intro fits
    rw [refused fits]
    exact returns_ok.mpr trivial
  intro clean wraps manages
  rw [inbound]
  split
  · exact returns_ok.mpr trivial
  rw [coded]
  dsimp only
  rw [wraps.unwrap, ok_bind]
  exact manages.returns_process

def plainAccess : IfacPrimitives where
  sha256 := id
  expand length _ _ _ := List.replicate length 0
  length_expand _ _ _ _ := length_replicate
  sign _ _ := List.replicate signatureLen 0
  length_sign _ _ := length_replicate

def tcpCode : Ifac := ⟨[1], 16, [2], by decide, by decide⟩

def quietMedium : Medium where
  floodable := ["tcp_0"]
  online := fun _ => true
  bitrate := fun _ => 0
  hwmtu := fun _ => 0
  wait := fun _ _ => 0
  fresh := fun _ _ => none
  delay := 0
  rank := fun _ => 0

def tcpReception : Reception where
  codes := fun ifaceID => if ifaceID = "tcp_0" then some tcpCode else none
  access := plainAccess
  crypto := permissiveCrypto
  checks := noLinks
  primitives := plainPrimitives
  medium := quietMedium
  env := quietEnv
  handshake := plainHandshake
  hw := 0
  localDestination := fun _ => openDestination
  proofs := ⟨fun _ _ => none⟩
  proved := fun _ => none

def tcpStation : Station := .new (.new (FixedBytes.copy _ [1]) (FixedBytes.copy _ [2]) 0 0 [])

/-- Forty bytes without a valid code. -/
theorem unauthenticated_frame_refused :
    let raw := 0x80 :: List.replicate 39 (1 : UInt8)
    Returns (tcpStation.inbound tcpReception raw "tcp_0") (fun _ => True) := by
  intro raw
  have result := unauthenticated_frame_returns_iff tcpReception tcpStation
    (show tcpReception.codes "tcp_0" = some tcpCode from rfl) raw
  have refused : (tcpCode.unwrap plainAccess raw) = .ok (.error .invalid) := by decide +kernel
  refine ((result.1 ?_).1).mpr (.inr (.inr (.inr (by decide))))
  intro clean wraps
  have accepted := (result.2.2.2 clean).mpr wraps
  rw [show tcpReception.access = plainAccess from rfl, refused] at accepted
  cases accepted

/-- The frame of a stranger that is one byte longer than the key stream, and
how a connection delivers it. -/
def longFrame : List UInt8 := 0x80 :: List.replicate 8160 0

def longPieces : List (List UInt8) :=
  [hdlcFlag :: 0x80 :: List.replicate 4094 0, List.replicate 4066 0 ++ [hdlcFlag]]

theorem frame_ends_node : (∀ piece ∈ longPieces, piece.length ≤ hdlcReadSize) ∧
    (⟨[]⟩ : HdlcFrameReader).read longPieces = [longFrame] ∧
    (∀ clean, ¬ tcpCode.Wraps plainAccess clean longFrame) ∧
    tcpStation.inbound tcpReception longFrame "tcp_0" = .error .raised := by
  have parts : longFrame = 0x80 :: 0 :: (List.replicate 16 0 ++ List.replicate 8143 0) := by
    rw [← replicate_add]
    rfl
  have fault : tcpCode.unwrap plainAccess longFrame = .error .raised := by
    rw [parts]
    apply Ifac.unwrap_long
    · exact length_replicate
    · exact ne_nil_of_length_pos (by
        rw [length_replicate]
        decide)
    · decide
    simp only [length_cons, length_append, length_replicate]
    decide
  have length : longFrame.length = 8161 := by rw [longFrame, length_cons, length_replicate]
  have unescaped : hdlcEscape longFrame = longFrame := by
    apply hdlcEscape_plain
    intro b member
    rcases mem_cons.mp member with rfl | member
    · decide
    rw [eq_of_mem_replicate member]
    decide
  have long : ¬ longFrame.length < headerMinSize := by
    rw [length]
    decide
  refine ⟨?_, ?_, ?_, ?_⟩
  · intro piece member
    rcases mem_cons.mp member with rfl | member
    · simp only [length_cons, length_replicate]
      decide
    rw [mem_singleton.mp member, length_append, length_replicate]
    decide
  · have whole : longPieces.flatten = [longFrame].flatMap hdlcFrame := by
      rw [flatMap_singleton, hdlcFrame, unescaped, longFrame, longPieces,
        show 8160 = 4094 + 4066 from rfl, replicate_add]
      simp only [flatten_cons, flatten_nil, append_nil, cons_append, append_assoc]
    obtain ⟨garbage, fresh, read⟩ := HdlcFrameReader.read_frames ⟨[]⟩
      (forall_mem_singleton.mpr (not_lt.mp long))
      (forall_mem_singleton.mpr (by simp [hdlcFrame, unescaped, length, hdlcMaxBuffered]))
      whole
    rw [read, fresh rfl, nil_append]
  · intro clean wraps
    have accepted := wraps.unwrap
    rw [fault] at accepted
    cases accepted
  rw [inbound, if_neg long]
  show tcpCode.unwrap plainAccess longFrame >>= _ = _
  rw [fault]
  rfl

end MeshSat.Rns
