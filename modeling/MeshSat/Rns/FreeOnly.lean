import MeshSat.Rns.Outbound
import MeshSat.Rns.ResourceSafety

/-!
# Sends that may not cost anything

A link that was opened under `FreeOnly` checks its interface with every packet
it writes, and a packet, a link request or a path request is checked when it
is sent. A resource that is sent under `FreeOnly` on any other link is
checked when it starts, and its parts follow without a check.
-/

variable {plain : List UInt8} {c : Constraint}

namespace MeshSat.Rns

open Library Library.Checked Reticulum List Link Bool Station

/-! ## Packets of a link -/

section
variable {l : Link} {env : Env}

/-- The step leaves the link where it is, and a link that is to cost nothing
writes on a free interface only. -/
structure Link.Confined (l : Link) (env : Env) (outcome : Outcome) : Prop where
  id : outcome.1.id = l.id
  iface : outcome.1.iface = l.iface
  freeOnly : outcome.1.freeOnly = l.freeOnly
  wrote : ∀ iface header resource, .transmit iface header resource ∈ outcome.2 → iface = l.iface ∧
        (l.freeOnly = true → env.freeInterface l.iface = true)

variable {next : Link} {effects : List LinkEffect} {outcome : Outcome}

namespace Link

lemma Confined.silent (id : next.id = l.id) (iface : next.iface = l.iface)
    (freeOnly : next.freeOnly = l.freeOnly)
    (quiet : ∀ iface header resource, .transmit iface header resource ∉ effects) :
    l.Confined env (next, effects) :=
  ⟨id, iface, freeOnly, fun iface header resource member =>
    absurd member (quiet iface header resource)⟩

lemma Confined.nothing : l.Confined env (l, []) := .silent rfl rfl rfl fun _ _ _ => not_mem_nil

lemma yields_nothing : Yields (.ok (l, [])) (l.Confined env) := yields_ok.mpr .nothing

lemma Confined.of_same (confined : next.Confined env outcome)
    (id : next.id = l.id) (iface : next.iface = l.iface) (freeOnly : next.freeOnly = l.freeOnly) :
    l.Confined env outcome := by
  refine ⟨confined.id.trans id, confined.iface.trans iface, confined.freeOnly.trans freeOnly, ?_⟩
  rw [← iface, ← freeOnly]
  exact confined.wrote

lemma Confined.append {first second : Outcome} (before : l.Confined env first)
    (after : first.1.Confined env second) : l.Confined env (second.1, first.2 ++ second.2) := by
  have later := after.of_same before.id before.iface before.freeOnly
  refine { later with wrote := ?_ }
  intro iface header resource member
  rcases mem_append.mp member with early | late
  · exact before.wrote iface header resource early
  · exact later.wrote iface header resource late

lemma Confined.cons (confined : l.Confined env (next, effects)) (quiet : ∀ iface header resource,
      LinkEffect.transmit iface header resource ≠ effect) :
    l.Confined env (next, effect :: effects) := by
  refine { confined with wrote := ?_ }
  intro iface header resource member
  rcases mem_cons.mp member with same | others
  · exact absurd same (quiet iface header resource)
  · exact confined.wrote iface header resource others

lemma Confined.before (confined : l.Confined env (next, effects)) (id : last.id = next.id)
    (iface : last.iface = next.iface) (freeOnly : last.freeOnly = next.freeOnly)
    (quiet : ∀ iface header resource, .transmit iface header resource ∉ more) :
    l.Confined env (last, effects ++ more) :=
  confined.append (.silent id iface freeOnly quiet)

section
variable (l : Link) (env : Env)

lemma writeLinkPacket_confined (header : Header) (resource : Option FullHash) :
    l.Confined env (l.writeLinkPacket env header resource) := by
  refine ⟨rfl, rfl, rfl, ?_⟩
  intro iface sent tag member
  rw [writeLinkPacket] at member
  dsimp only at member
  split at member
  · exact absurd member not_mem_nil
  rename_i passes
  cases mem_singleton.mp member
  refine ⟨rfl, ?_⟩
  intro free
  rw [free, Bool.true_and, Bool.not_eq_true', Bool.not_eq_false] at passes
  exact passes

lemma sendLinkPacket_confined
    (ptype : PacketType) (context : UInt8) (data : List UInt8) (resource : Option FullHash) :
    l.Confined env (l.sendLinkPacket env ptype context data resource) :=
  l.writeLinkPacket_confined env _ resource

lemma teardown_confined : l.Confined env (l.teardown env) := by
  rw [teardown]
  split
  · exact .nothing
  have told : l.Confined env (l.sendClose env) := by
    rw [sendClose]
    split
    · split
      · exact .nothing
      · exact l.sendLinkPacket_confined env _ _ _ _
    · exact .nothing
  exact told.before rfl rfl rfl (by simp)

lemma failOutgoing_confined
    (r : OutgoingResource) (cause : ResourceFailure) : l.Confined env (l.failOutgoing r cause) := by
  rw [failOutgoing]
  split
  · exact .nothing
  · exact .silent rfl rfl rfl (by simp)

lemma concludeFailed_confined
    (r : IncomingResource) (cause : ResourceFailure) : l.Confined env (l.concludeFailed r cause) :=
  .silent rfl rfl rfl (by simp)

end

end Link

/-! ### Resources that are sent -/

namespace Link

lemma advertise_confined (l : Link) (env : Env) (iv : FixedBytes aesBlockSize)
    (r : OutgoingResource) : Yields (l.advertise env iv r) (l.Confined env) := by
  apply yields_bind
  intro adv _
  split
  · exact yields_pure.mpr (l.failOutgoing_confined env r _)
  · exact yields_pure.mpr ((sendLinkPacket_confined _ env _ _ _ _).of_same rfl rfl rfl)

lemma sendResourceWith_confined (p : Primitives) (env : Env) (l : Link) (payload : List UInt8)
    (freeOnly : Bool) (front : RandomHash) (draws : List RandomHash) :
    Yields (l.sendResourceWith p env payload freeOnly front draws) fun sent => ∀ r outcome,
    sent = .ok (r, outcome) → l.Confined env outcome ∧
    (freeOnly = true → env.freeInterface l.iface = true) := by
  rw [sendResourceWith]
  split
  · rintro _ ⟨⟩ r outcome same
    cases same
  rename_i allowed
  have free : freeOnly = true → env.freeInterface l.iface = true := by
    intro constrained
    rw [constrained, Bool.true_or, Bool.true_and, Bool.not_eq_true', Bool.not_eq_false] at allowed
    exact allowed
  split
  · rintro _ ⟨⟩ r outcome same
    cases same
  split
  · rintro _ ⟨⟩ r outcome same
    cases same
  split
  · rintro _ ⟨⟩ r outcome same
    cases same
  apply yields_bind
  intro drawn _
  apply yields_bind
  intro outcome advertised
  rintro _ ⟨⟩ r other same
  cases same
  refine ⟨?_, free⟩
  exact (advertise_confined _ env _ _ _ advertised).of_same rfl rfl rfl

section
variable (l : Link) (env : Env)

lemma sendParts_confined (hash : FullHash)
    (parts : List (List UInt8)) : l.Confined env (l.sendParts env hash parts) := by
  induction parts generalizing l with
  | nil => exact .nothing
  | cons part rest induction => exact (l.sendLinkPacket_confined env _ _ _ _).append (induction _)

lemma sendHMU_confined (hash : FullHash) (hmu : Option (List UInt8)) :
    l.Confined env (l.sendHMU env hash hmu) := by
  cases hmu with
  | none => exact .nothing
  | some hmu =>
    rw [sendHMU]
    split
    · exact .nothing
    · exact l.sendLinkPacket_confined env _ _ _ _

lemma answer_confined (r : OutgoingResource) : l.Confined env (l.answer env r toSend hmu) := by
  have parts : l.Confined env ((l.putOutgoing r.sentAll).sendParts env r.hash toSend) :=
    (sendParts_confined _ env _ _).of_same rfl rfl rfl
  exact parts.append (sendHMU_confined _ env _ _)

lemma serve_confined (r : OutgoingResource) (request : Request) :
    Yields (l.serve env r request) (l.Confined env) := by
  apply yields_bind
  intro s _
  split
  · exact yields_pure.mpr (l.answer_confined _ _)
  apply yields_bind
  intro idx _
  apply yields_bind
  intro plain _
  split
  · exact yields_pure.mpr (l.failOutgoing_confined env _ _)
  · exact yields_pure.mpr (l.answer_confined _ _)

lemma handleResourceRequest_confined (plain : List UInt8) :
    Yields (l.handleResourceRequest env plain) (l.Confined env) := by
  apply yields_bind
  intro parsed _
  split
  · exact yields_pure.mpr .nothing
  split
  · exact yields_pure.mpr .nothing
  · exact l.serve_confined env _ _

lemma handleResourceProof_confined (data : List UInt8) :
    Yields (l.handleResourceProof env data) (l.Confined env) := by
  rw [handleResourceProof]
  split
  · exact yields_nothing
  apply yields_bind
  intro hash _
  apply yields_bind
  intro proof _
  split
  · exact yields_pure.mpr .nothing
  split
  · exact yields_pure.mpr .nothing
  · exact yields_pure.mpr (.silent rfl rfl rfl (by simp))

end

end Link

/-! ### Resources that are received -/

namespace Link

section
variable (l : Link) (env : Env)

lemma requestNext_confined (iv : FixedBytes aesBlockSize) (r : IncomingResource) :
    Yields (l.requestNext env iv r) (l.Confined env) := by
  rw [requestNext]
  split
  · exact yields_ok.mpr (.silent rfl rfl rfl (by simp))
  apply yields_bind
  intro asked _
  dsimp only
  split
  · exact yields_pure.mpr (.silent rfl rfl rfl (by simp))
  · exact yields_pure.mpr ((sendLinkPacket_confined _ env _ _ _ _).of_same rfl rfl rfl)

lemma rejectResource_confined (hash : List UInt8) : l.Confined env (l.rejectResource env hash) := by
  rw [rejectResource]
  split
  · exact .nothing
  · exact l.sendLinkPacket_confined env _ _ _ _

lemma acceptAdvert_confined (a : Advert) : Yields (l.acceptAdvert env a) (l.Confined env) := by
  apply yields_bind
  intro r _
  split
  · exact yields_pure.mpr (.silent rfl rfl rfl (by simp))
  apply yields_bind
  intro mapped _
  apply yields_bind
  intro outcome asked
  have confined := l.requestNext_confined env _ _ outcome asked
  exact yields_pure.mpr (confined.cons (by simp))

end

section
variable (p : Primitives) (l : Link) (env : Env)

lemma handleResourceAdv_confined (plain : List UInt8) :
    Yields (l.handleResourceAdv p env plain) (l.Confined env) := by
  rw [handleResourceAdv]
  split
  · exact yields_nothing
  split
  · exact yields_nothing
  split
  · exact yields_ok.mpr (l.rejectResource_confined env _)
  split
  · exact yields_ok.mpr (l.rejectResource_confined env _)
  · exact l.acceptAdvert_confined env _

lemma handleHMU_confined (plain : List UInt8) :
    Yields (l.handleHMU p env plain) (l.Confined env) := by
  rw [handleHMU]
  split
  · exact yields_nothing
  apply yields_bind
  intro hash _
  apply yields_bind
  intro body _
  split
  · exact yields_pure.mpr .nothing
  split
  · exact yields_pure.mpr .nothing
  apply yields_bind
  intro r _
  exact l.requestNext_confined env _ _

lemma assemble_confined (r : IncomingResource) : l.Confined env (l.assemble p env r) := by
  rw [assemble]
  split
  · exact l.concludeFailed_confined env r _
  · exact (l.sendLinkPacket_confined env _ _ _ _).before rfl rfl rfl (by simp)

lemma afterPart_confined (r : IncomingResource) :
    Yields (l.afterPart p env r) (l.Confined env) := by
  rw [afterPart]
  split
  · exact yields_ok.mpr (l.assemble_confined p env _)
  split
  · exact l.requestNext_confined env _ _
  · exact yields_ok.mpr (.silent rfl rfl rfl (by simp))

lemma receivePartOf_confined (part : List UInt8) (resources : List IncomingResource) :
    Yields (l.receivePartOf p env part resources) (l.Confined env) := by
  induction resources with
  | nil => exact yields_nothing
  | cons r rest induction =>
    rw [receivePartOf]
    split
    · exact induction
    apply yields_bind
    intro taken _
    split
    · exact induction
    · exact l.afterPart_confined p env _

end

lemma handleCancel_confined (l : Link) : l.Confined env (l.handleCancel plain) := by
  rw [handleCancel]
  split
  · exact .nothing
  have cancelled : ∀ hash, l.Confined env (l.cancelIncoming hash) := by
    intro hash
    rw [cancelIncoming]
    split
    · exact .nothing
    · exact l.concludeFailed_confined env _ _
  have rejected : ∀ (l : Link) hash, l.Confined env (l.rejectOutgoing hash) := by
    intro l hash
    rw [rejectOutgoing]
    split
    · exact .nothing
    · exact l.failOutgoing_confined env _ _
  exact (cancelled _).append (rejected _ _)

end Link

/-! ### Retries -/

section
variable (l : Link) (env : Env)

lemma Link.watchIncoming_confined (timeout : Int) (iv : FixedBytes aesBlockSize)
    (r : IncomingResource) : Yields (l.watchIncoming env timeout iv r) (l.Confined env) := by
  rw [watchIncoming]
  split
  · split
    · exact yields_ok.mpr (l.concludeFailed_confined env r _)
    · exact l.requestNext_confined env iv _
  · exact yields_nothing

lemma Link.watchOutgoing_confined (iv : FixedBytes aesBlockSize) (r : OutgoingResource) :
    Yields (l.watchOutgoing env iv r) (l.Confined env) := by
  rw [watchOutgoing]
  split
  · split
    · split
      · exact yields_ok.mpr (l.failOutgoing_confined env r _)
      · exact l.advertise_confined env iv _
    · exact yields_nothing
  · split
    · exact yields_ok.mpr (l.failOutgoing_confined env r _)
    · exact yields_nothing
  · split
    · exact yields_ok.mpr (l.failOutgoing_confined env r _)
    · exact yields_nothing
  · exact yields_nothing
  · exact yields_nothing

lemma Link.watchAllIncoming_confined (k : Nat) (resources : List IncomingResource) :
    Yields (l.watchAllIncoming env k resources) (l.Confined env) := by
  induction resources generalizing l k with
  | nil => exact yields_nothing
  | cons r rest induction =>
    apply yields_bind
    intro first watched
    apply yields_bind
    intro others later
    have before := l.watchIncoming_confined env _ _ r first watched
    exact yields_pure.mpr (before.append (induction first.1 (k + 1) others later))

lemma Link.watchAllOutgoing_confined (k : Nat) (resources : List OutgoingResource) :
    Yields (l.watchAllOutgoing env k resources) (l.Confined env) := by
  induction resources generalizing l k with
  | nil => exact yields_nothing
  | cons r rest induction =>
    apply yields_bind
    intro first watched
    apply yields_bind
    intro others later
    have before := l.watchOutgoing_confined env _ r first watched
    exact yields_pure.mpr (before.append (induction first.1 (k + 1) others later))

lemma Link.resourceWatchdog_confined : Yields (l.resourceWatchdog env) (l.Confined env) := by
  apply yields_bind
  intro first incoming
  apply yields_bind
  intro others outgoing
  have before := l.watchAllIncoming_confined env _ _ first incoming
  have after := first.1.watchAllOutgoing_confined env _ _ others outgoing
  exact yields_pure.mpr (before.append after)

end

lemma Link.watch_confined (p : LinkPrimitives) (l : Link) (env : Env) :
    l.Confined env (l.watch p env) := by
  have closed : l.Confined env ({ l with state := .closed }, [.closed]) :=
    .silent rfl rfl rfl (by simp)
  rw [watch]
  split
  · split
    · exact closed
    · exact .nothing
  · split
    · exact closed
    · exact .nothing
  · rw [watchActive]
    split
    · have sent : l.Confined env (if l.initiator &&
              decide (l.lastKeepalive + l.keepalive ≤ env.now) then
            l.sendLinkPacket env .data contextKeepalive [keepaliveInitiator] none
          else (l, [])) := by
        split
        · exact l.sendLinkPacket_confined env _ _ _ _
        · exact .nothing
      dsimp only
      split
      · exact { sent with }
      · exact sent
    · exact .nothing
  · rw [watchStale]
    split
    · exact l.teardown_confined env
    · exact .nothing
  · exact .nothing

/-! ### Packets that are received -/

namespace Link

lemma decrypted_confined (l : Link) (handled : ∀ plain, Yields (handler plain) (l.Confined env)) :
    Yields (l.decrypted data handler) (l.Confined env) := by
  rw [decrypted]
  split
  · exact yields_nothing
  · exact handled _

lemma handlePacket_confined (l : Link) : l.Confined env (l.handlePacket env pkt plain) := by
  rw [handlePacket]
  split
  · exact .silent rfl rfl rfl (by simp)
  split
  · exact (l.sendLinkPacket_confined env _ _ _ _).cons (by simp)
  · exact .silent rfl rfl rfl (by simp)

section
variable (p : LinkPrimitives) (l : Link) (env : Env)

lemma handleRTT_confined (h : Header) : l.Confined env (l.handleRTT p env h) := by
  rw [handleRTT]
  split
  · exact .nothing
  split
  · exact l.teardown_confined env
  split
  · exact l.teardown_confined env
  · exact .silent rfl rfl rfl (by simp)

lemma dispatch_confined (pkt : Packet) : Yields (l.dispatch p env pkt) (l.Confined env) := by
  rw [dispatch]
  split
  · exact l.decrypted_confined fun plain =>
      yields_ok.mpr l.handlePacket_confined
  · exact yields_ok.mpr (l.handleRTT_confined p env _)
  · rw [handleKeepalive]
    split
    · exact yields_ok.mpr (l.sendLinkPacket_confined env _ _ _ _)
    · exact yields_nothing
  · apply l.decrypted_confined
    intro plain
    rw [handleClose]
    split
    · exact yields_ok.mpr (.silent rfl rfl rfl (by simp))
    · exact yields_nothing
  · exact l.decrypted_confined (l.handleResourceAdv_confined _ env)
  · exact l.decrypted_confined (l.handleResourceRequest_confined env)
  · exact l.receivePartOf_confined _ env _ _
  · exact l.decrypted_confined (l.handleHMU_confined _ env)
  · exact l.decrypted_confined fun plain =>
      yields_ok.mpr l.handleCancel_confined
  · split
    · exact yields_nothing
    apply l.decrypted_confined
    intro plain
    rw [handleIdentify]
    split
    · exact yields_nothing
    refine yields_ok.mpr (.silent rfl rfl rfl ?_)
    split
    · simp
    · simp
  · exact yields_ok.mpr (.silent rfl rfl rfl (by simp))

lemma receive_confined (pkt : Packet) : Yields (l.receive p env pkt) (l.Confined env) := by
  have heard : ∀ {outcome : Outcome}, (l.heard env).Confined env outcome → l.Confined env outcome :=
    fun confined => confined.of_same rfl rfl rfl
  rw [receive]
  split
  · exact yields_nothing
  split
  · split
    · intro outcome proved
      exact heard ((l.heard env).handleResourceProof_confined env _ outcome proved)
    · exact yields_ok.mpr (heard .nothing)
  intro outcome dispatched
  exact heard ((l.heard env).dispatch_confined p env pkt outcome dispatched)

end

lemma sendPrepared_confined (sent : l.sendPrepared env plain c refusal = .ok outcome) :
    l.Confined env outcome ∧ (c.freeOnly = true → env.freeInterface l.iface = true) := by
  rw [sendPrepared] at sent
  split at sent
  · cases sent
  rename_i allowed
  split at sent
  · cases sent
  split at sent
  · cases sent
  split at sent
  · cases sent
  split at sent
  · cases sent
  · cases sent
    refine ⟨l.writeLinkPacket_confined env _ none, ?_⟩
    intro free
    rw [free, Bool.true_or, Bool.true_and, Bool.not_eq_true', Bool.not_eq_false] at allowed
    exact allowed

lemma identify_confined (sent : l.identify env identity = .ok outcome) :
    l.Confined env outcome := by
  rw [identify] at sent
  split at sent
  · cases sent
  split at sent
  · cases sent
  · cases sent
    exact l.sendLinkPacket_confined env _ _ _ _

lemma sendRTT_confined (p : LinkPrimitives) (l : Link) (env : Env) :
    l.Confined env (l.sendRTT p env) := by
  rw [sendRTT]
  split
  · exact .nothing
  · exact l.sendLinkPacket_confined env _ _ _ _

end Link

end

/-! ## Steps of the station -/

section
variable {s : Station}

/-- Resources are sent under `FreeOnly` on links that check every packet. -/
def Station.Thrifty (s : Station) : Prop := ∀ ch ∈ s.opened, ch.free ≠ [] → ch.link.freeOnly = true

/-- What belongs to a send under `FreeOnly` leaves on one of the
interfaces. -/
def Unpaid (floodable : List String) (sent : List Transmission) : Prop :=
  ∀ t ∈ sent, t.freeOnly = true → t.iface ∈ floodable

lemma Unpaid.nil : Unpaid floodable [] := forall_mem_nil _

variable {env : Env}

lemma Env.mem_floodable {iface : String}
    (free : env.freeInterface iface = true) : iface ∈ env.floodable := by
  rw [Env.freeInterface, and_eq_true] at free
  exact contains_iff_mem.mp free.2

lemma Wire.mem_floodable {w : Wire} {iface : String}
    (free : w.freeInterface iface = true) : iface ∈ w.floodable := by
  rw [Wire.freeInterface, and_eq_true] at free
  exact contains_iff_mem.mp free.2

section
variable {s' : Station} (thrifty : s.Thrifty)

include thrifty

lemma Station.Thrifty.of_opened (same : s'.opened = s.opened) : s'.Thrifty := by
  rw [Station.Thrifty, same]
  exact thrifty

lemma Station.Thrifty.opens (added : s'.opened = s.opened ++ [⟨l, []⟩]) : s'.Thrifty := by
  intro ch member
  rw [added] at member
  rcases mem_append.mp member with before | new
  · exact thrifty ch before
  rw [mem_singleton.mp new]
  intro empty
  exact absurd rfl empty

lemma Station.Thrifty.set (checks : ch.free ≠ [] →
    ch.link.freeOnly = true) (put : s'.opened = s.opened.set index ch) : s'.Thrifty := by
  intro other member
  rw [put] at member
  rcases mem_or_eq_of_mem_set member with before | rfl
  · exact thrifty other before
  · exact checks

end

variable {index : Nat} {outcome : Outcome}

/-- A link that stays within its bounds keeps to free interfaces where it
must. -/
lemma Station.Thrifty.settle (thrifty : s.Thrifty) (checks : ch.free ≠ [] → ch.link.freeOnly = true)
    (confined : ch.link.Confined env outcome)
    (allowed : free = true → env.freeInterface ch.link.iface = true) :
    (s.settle index ch free outcome).1.Thrifty ∧
      Unpaid env.floodable (s.settle index ch free outcome).2 := by
  constructor
  · refine @Station.Thrifty.set s _ thrifty index { ch with link := outcome.1 } ?_ ?_
    · intro sends
      exact confined.freeOnly.trans (checks sends)
    rw [Station.settle]
    split
    · rfl
    · rfl
  intro t member marked
  obtain ⟨effect, done, same⟩ := mem_filterMap.mp member
  cases effect with
  | transmit iface header resource =>
    obtain ⟨rfl, checked⟩ := confined.wrote iface header resource done
    cases same
    apply Env.mem_floodable
    rw [or_eq_true, or_eq_true] at marked
    rcases marked with (always | now) | sends
    · exact checked always
    · exact allowed now
    apply checked
    apply checks
    intro empty
    rw [empty] at sends
    cases resource with
    | none => cases sends
    | some hash => cases sends
  | _ => cases same

lemma Station.Thrifty.settle_opened (thrifty : s.Thrifty)
    (found : s.opened[index]? = some ch) (confined : ch.link.Confined env outcome)
    (allowed : free = true → env.freeInterface ch.link.iface = true) :
    (s.settle index ch free outcome).1.Thrifty ∧
      Unpaid env.floodable (s.settle index ch free outcome).2 :=
  thrifty.settle (thrifty ch (mem_of_getElem? found)) confined allowed

lemma Router.outboundWith_unpaid (r : Router) {w : Wire} {h : Header} :
    Unpaid w.floodable (r.outboundWith w h c).sent := by
  have flooded : Unpaid w.floodable (if w.floodable = [] then (⟨r, [], .error .noPath⟩ : Outbound)
        else
          ⟨r, w.floodable.map fun id => ⟨id, h.marshal, c.freeOnly⟩, .ok w.floodable⟩).sent := by
    split
    · exact .nil
    intro t member _
    obtain ⟨id, listed, rfl⟩ := mem_map.mp member
    exact listed
  rw [Router.outboundWith]
  split
  · split
    · exact flooded
    split
    · split
      · exact .nil
      rename_i allowed
      rw [not_eq_true', not_eq_false, Constraint.allows] at allowed
      intro t member marked
      rw [mem_singleton.mp member] at marked ⊢
      apply Wire.mem_floodable
      dsimp only at marked
      rwa [marked] at allowed
    · exact flooded
  · exact flooded

lemma Router.sendDataPrepared_unpaid (r : Router) (w : Wire) (d : DataPacket) (c : Constraint) :
    Unpaid w.floodable (r.sendDataPrepared w d c).sent := by
  rw [Router.sendDataPrepared]
  split
  · exact .nil
  split
  · exact .nil
  dsimp only
  split
  · exact .nil
  split
  · exact .nil
  · exact r.outboundWith_unpaid

section
variable (thrifty : s.Thrifty)

include thrifty

namespace Station

lemma Thrifty.initiateWith (w : Wire) (x : Initiation) (dest : TruncatedHash) (c : Constraint) :
    (s.initiateWith w x dest c).1.Thrifty ∧ Unpaid w.floodable (s.initiateWith w x dest c).2 := by
  rw [Station.initiateWith]
  dsimp only
  split
  · exact ⟨thrifty, .nil⟩
  · exact ⟨thrifty, .nil⟩
  split
  · exact ⟨thrifty, .nil⟩
  split
  · exact ⟨thrifty.of_opened rfl, s.router.outboundWith_unpaid⟩
  · exact ⟨thrifty.opens rfl, s.router.outboundWith_unpaid⟩

lemma Thrifty.acceptLink (env : Env) (x : Handshake) (hw : Int) (d : Destination) (pkt : Packet) :
    (s.acceptLink env x hw d pkt).1.Thrifty ∧
    Unpaid env.floodable (s.acceptLink env x hw d pkt).2 := by
  rw [Station.acceptLink]
  cases accepted : accept x env hw d pkt with
  | none => exact ⟨thrifty, .nil⟩
  | some outcome =>
    refine ⟨thrifty.opens rfl, ?_⟩
    have unconstrained : outcome.1.freeOnly = false := by
      rw [accept] at accepted
      split at accepted
      · cases accepted
      split at accepted
      · cases accepted
      split at accepted
      · cases accepted
      split at accepted
      · cases accepted
      · cases accepted
        rfl
    intro t member marked
    obtain ⟨effect, _, same⟩ := mem_filterMap.mp member
    cases effect with
    | transmit iface header resource =>
      cases same
      rw [unconstrained] at marked
      cases resource with
      | none => cases marked
      | some hash => cases marked
    | _ => cases same

lemma Thrifty.handleProof (p : LinkPrimitives) (env : Env) (x : ProofCheck) (pkt : Packet) :
    (s.handleProof p env x pkt).1.Thrifty ∧ Unpaid env.floodable (s.handleProof p env x pkt).2 := by
  rw [Station.handleProof]
  split
  · exact ⟨thrifty, .nil⟩
  split
  · exact ⟨thrifty, .nil⟩
  rename_i ch found
  split
  · exact ⟨thrifty, .nil⟩
  split
  · exact ⟨thrifty, .nil⟩
  have checks := thrifty ch (mem_of_getElem? found)
  apply Thrifty.settle
  · exact thrifty.of_opened rfl
  · exact checks
  · exact sendRTT_confined p _ env
  intro unset
  cases unset

lemma Thrifty.send (env : Env) (index : Nat) (plain : List UInt8) (c : Constraint)
    (refusal : Option String) : (s.send env index plain c refusal).1.Thrifty ∧
    Unpaid env.floodable (s.send env index plain c refusal).2 := by
  rw [Station.send]
  split
  · exact ⟨thrifty, .nil⟩
  rename_i ch found
  split
  · exact ⟨thrifty, .nil⟩
  rename_i outcome sent
  obtain ⟨confined, allowed⟩ := sendPrepared_confined sent
  exact thrifty.settle_opened found confined allowed

lemma Thrifty.identify (env : Env) (index : Nat) (identity : TruncatedHash → List UInt8) :
    (s.identify env index identity).1.Thrifty ∧
    Unpaid env.floodable (s.identify env index identity).2 := by
  rw [Station.identify]
  split
  · exact ⟨thrifty, .nil⟩
  rename_i ch found
  split
  · exact ⟨thrifty, .nil⟩
  rename_i outcome sent
  exact thrifty.settle_opened found (identify_confined sent) (by simp)

lemma Thrifty.sendResource (p : LinkPrimitives)
    (careful : c.freeOnly = true → ∀ ch, s.opened[index]? = some ch → ch.link.freeOnly = true) :
    Yields (s.sendResource p env index payload c front draws) fun out =>
      out.1.Thrifty ∧ Unpaid env.floodable out.2 := by
  rw [Station.sendResource]
  split
  · exact yields_ok.mpr ⟨thrifty, .nil⟩
  rename_i ch found
  apply yields_bind
  intro sent made
  have confined := sendResourceWith_confined p.toPrimitives env
    ch.link payload c.freeOnly front draws sent made
  split
  · exact yields_pure.mpr ⟨thrifty, .nil⟩
  rename_i r outcome
  obtain ⟨stays, _⟩ := confined r outcome rfl
  refine yields_pure.mpr ?_
  have link : (ch.noteFree c r.hash).link = ch.link := by
    rw [Channel.noteFree]
    split
    · rfl
    · rfl
  apply thrifty.settle
  · rw [link]
    cases constrained : c.freeOnly with
    | true => exact fun _ => careful constrained ch found
    | false =>
      rw [Channel.noteFree, constrained]
      exact thrifty ch (mem_of_getElem? found)
  · rw [link]
    exact stays
  intro unset
  cases unset

end Station

end

lemma Router.requestPathWith_floodable (r : Router) {m : Medium}
    {dest : TruncatedHash} {channel : Nat} {tag : TruncatedHash} :
    ∀ sent ∈ (r.requestPathWith m dest true channel tag).2, sent.iface ∈ m.floodable := by
  have asked : ∀ (ids : List String) (r : Router),
      (r.sendPathRequests dest tag none ids).2.map Sent.iface = ids := by
    intro ids
    induction ids with
    | nil => exact fun _ => rfl
    | cons id rest induction =>
      intro r
      rw [Router.sendPathRequests, map_cons, induction]
  intro sent member
  rw [Router.requestPathWith] at member
  split at member
  · exact absurd member not_mem_nil
  have there := mem_map_of_mem (f := Sent.iface) member
  rw [asked] at there
  rcases mem_append.mp there with flooded | none
  · exact flooded
  · exact absurd none not_mem_nil

lemma Station.route_unpaid (s : Station) : Unpaid action.floodable (s.route crypto x action).2 := by
  intro t member marked
  obtain ⟨sent, done, rfl⟩ := mem_map.mp member
  cases action with
  | requestPath m dest freeOnly channel tag =>
    dsimp only [RouterAction.freeOnly] at marked
    subst marked
    exact s.router.requestPathWith_floodable sent done
  | _ => cases marked

end

/-! ## Runs -/

def StationAction.floodable : StationAction → List String
  | .route action => action.floodable
  | .sendData w _ _ | .initiate w _ _ _ => w.floodable
  | .accept env .. | .proof env .. | .receive env .. | .send env .. |
    .sendResource env .. | .identify env .. | .teardown env _ |
    .watchResources env _ | .watch env _ => env.floodable

/-- A resource is sent under the constraint on a link opened under it. -/
def Station.Careful (s : Station) : StationAction → Prop
  | .sendResource _ index _ c _ _ => c.freeOnly = true →
      ∀ ch, s.opened[index]? = some ch → ch.link.freeOnly = true
  | _ => True

variable {action : StationAction}

lemma Station.Thrifty.step {s : Station} (thrifty : s.Thrifty) (crypto : Crypto) (x : LinkChecks)
    (p : LinkPrimitives) (careful : s.Careful action) :
    Yields (s.step crypto x p action) fun out => out.1.Thrifty ∧ Unpaid action.floodable out.2 := by
  cases action with
  | route action => exact yields_ok.mpr ⟨thrifty.of_opened rfl, s.route_unpaid⟩
  | sendData w d c =>
    exact yields_ok.mpr ⟨thrifty.of_opened rfl, s.router.sendDataPrepared_unpaid w d c⟩
  | initiate w i dest c => exact yields_ok.mpr (thrifty.initiateWith w i dest c)
  | accept env h hw d pkt => exact yields_ok.mpr (thrifty.acceptLink env h hw d pkt)
  | proof env check pkt => exact yields_ok.mpr (thrifty.handleProof p env check pkt)
  | receive env pkt =>
    rw [step, receive]
    split
    · exact yields_ok.mpr ⟨thrifty, .nil⟩
    split
    · exact yields_ok.mpr ⟨thrifty, .nil⟩
    rename_i ch found
    apply yields_bind
    intro outcome received
    exact yields_pure.mpr (thrifty.settle_opened found
      (ch.link.receive_confined p env pkt outcome received) (by simp))
  | send env index plain c refusal => exact yields_ok.mpr (thrifty.send env index plain c refusal)
  | sendResource env index payload c front draws => exact thrifty.sendResource p careful
  | identify env index identity => exact yields_ok.mpr (thrifty.identify env index identity)
  | teardown env index =>
    rw [step, teardown]
    split
    · exact yields_ok.mpr ⟨thrifty, .nil⟩
    rename_i ch found
    exact yields_ok.mpr (thrifty.settle_opened found (ch.link.teardown_confined env) (by simp))
  | watchResources env index =>
    rw [step, watchResources]
    split
    · exact yields_ok.mpr ⟨thrifty, .nil⟩
    rename_i ch found
    split
    · exact yields_ok.mpr ⟨thrifty, .nil⟩
    apply yields_bind
    intro outcome watched
    exact yields_pure.mpr (thrifty.settle_opened found
      (ch.link.resourceWatchdog_confined env outcome watched) (by simp))
  | watch env index =>
    rw [step, watch]
    split
    · exact yields_ok.mpr ⟨thrifty, .nil⟩
    rename_i ch found
    split
    · exact yields_ok.mpr ⟨thrifty, .nil⟩
    · exact yields_ok.mpr (thrifty.settle_opened found (ch.link.watch_confined p env) (by simp))

section
variable (crypto : Crypto) (x : LinkChecks) (p : LinkPrimitives) (r : Router)

/-- A step that faults ends the run. -/
def stationSystem : TransitionSystem Station StationAction where
  initial := .new r
  exec s action := (s.step crypto x p action).toOption.map Prod.fst

/-- In every run of careful steps, no packet of a send under `FreeOnly`
leaves on an interface that is not flooded at that moment. -/
theorem free_only_never_paid {s : Station} {action : StationAction} {out : Dispatched}
    (run : (stationSystem crypto x p r).Reaches Station.Careful (.new r) s)
    (careful : s.Careful action) (taken : s.step crypto x p action = .ok out) :
    ∀ t ∈ out.2, t.freeOnly = true → t.iface ∈ action.floodable := by
  have thrifty : s.Thrifty := by
    apply run.preserves
    · intro s' earlier next kept met executed
      obtain ⟨out, stepped, rfl⟩ := Option.map_eq_some_iff.mp executed
      cases result : s'.step crypto x p earlier with
      | error fault =>
        rw [result] at stepped
        cases stepped
      | ok value =>
        rw [result] at stepped
        cases stepped
        exact (kept.step crypto x p met _ result).1
    · exact forall_mem_nil _
  exact (thrifty.step crypto x p careful out taken).2

end

/-! ## A transfer -/

def meshWire : Wire := ⟨["mesh"], fun _ => 0, fun _ => none⟩

def plainInitiation : Initiation where
  keys := .ok fun _ => []
  request := fun _ => []
  linkID := fun _ => .ok (FixedBytes.zero _)

def plainCheck : ProofCheck := ⟨fun _ _ => some (500, plainToken)⟩

def meshNode : Router := .new (FixedBytes.copy _ [1]) (FixedBytes.copy _ [2]) 0 0 []

def knownPeer : KnownIdentity where
  destHash := FixedBytes.copy _ [3]
  publicKey := []
  identity := some ⟨[], []⟩
  appData := []
  ratchet := none
  ratchetAt := 0
  lastSeen := 0

/-- A link is opened under the constraint, and its proof comes back. -/
def openFree : List StationAction :=
  [.route (.rememberIdentity knownPeer),
    .initiate meshWire plainInitiation (FixedBytes.copy _ [3]) ⟨true⟩,
    .proof quietEnv plainCheck (peerPacket .proof contextLRProof [])]

/-- A packet on a link that was opened under the constraint. -/
theorem free_only_never_paid_packet :
    let s := (stationSystem permissiveCrypto noLinks plainPrimitives
      meshNode).runFrom (.new meshNode) openFree
    ∃ out, s.step permissiveCrypto noLinks plainPrimitives
        (.send quietEnv 0 [1] ⟨true⟩ none) = .ok out ∧
      out.2.map (fun t => (t.iface, t.freeOnly)) = [("mesh", true)] ∧
      ∀ t ∈ out.2, t.freeOnly = true → t.iface ∈ quietEnv.floodable := by
  intro s
  have run : (stationSystem permissiveCrypto noLinks plainPrimitives
      meshNode).Reaches Station.Careful (.new meshNode) s := by
    refine .step (.proof quietEnv plainCheck (peerPacket .proof contextLRProof [])) ?_ trivial rfl
    refine .step (.initiate meshWire plainInitiation (FixedBytes.copy _ [3]) ⟨true⟩) ?_ trivial rfl
    exact .step (.route (.rememberIdentity knownPeer)) (.refl _) trivial rfl
  have careful : s.Careful (.send quietEnv 0 [1] ⟨true⟩ none) := trivial
  refine ⟨_, rfl, by decide +kernel, ?_⟩
  exact free_only_never_paid permissiveCrypto noLinks plainPrimitives meshNode run careful rfl

/-- A resource is sent under the constraint on a link that a peer opened. -/
def sendOnPeersLink : List StationAction :=
  [.accept quietEnv plainHandshake 0 openDestination (requestWithMTU 0x01 0xF4),
    .receive quietEnv (peerPacket .data contextLRRTT (plainToken.encrypt (FixedBytes.zero _) [0])),
    .sendResource quietEnv 0 [1] ⟨true⟩ (FixedBytes.zero _) [FixedBytes.zero _]]

/-- The advertisement is repeated after the interface has left the ones that
are flooded. -/
theorem free_only_resource_paid :
    let s := (stationSystem permissiveCrypto noLinks plainPrimitives
      meshNode).runFrom (.new meshNode) sendOnPeersLink
    let later := { quietEnv with now := 2 * second, floodable := [] }
    ((s.step permissiveCrypto noLinks plainPrimitives
      (.watchResources later 0)).toOption.map fun out =>
        out.2.map fun t => (t.iface, t.freeOnly)) = some [("mesh", true)] := by
  decide +kernel

end MeshSat.Rns
