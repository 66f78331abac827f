import MeshSat.Rns.ResourceExchange
import MeshSat.Rns.ResourceSafety

/-!
# A resource transfer between two links

Both ends of one link, with the packets under way between them. Packets of
one direction arrive once and in order; which direction moves next is free.
A transfer goes through stages, from the advertisement over requests and
windows of parts to the proof, and every packet that arrives leaves fewer
packets to come.
-/

namespace MeshSat.Rns

open Library Library.Checked Reticulum List Link Nat Keyed

/-! ## Sessions -/

def packets (effects : List LinkEffect) : List Header :=
  effects.filterMap fun
    | .transmit _ header _ => some header
    | _ => none

def reports (effects : List LinkEffect) : List LinkEffect :=
  effects.filter fun
    | .transmit .. => false
    | .allocated .. => false
    | _ => true

/-- Two ends of a link and the packets under way. -/
structure Session where
  (sender receiver : Link)
  (toReceiver toSender : List Header)
  (senderLog receiverLog : List LinkEffect)

/-- The next packet of one direction arrives. -/
inductive Delivery
  | toReceiver (env : Env) (hash : FullHash)
  | toSender (env : Env) (hash : FullHash)

def Session.deliver (p : LinkPrimitives) (s : Session) : Delivery → Option Session
  | .toReceiver env hash =>
    match s.toReceiver with
    | [] => none
    | header :: rest =>
      match s.receiver.receive p env ⟨header, hash, s.receiver.iface⟩ with
      | .error _ => none
      | .ok (l, effects) => some
          { s with
            receiver := l
            toReceiver := rest
            toSender := s.toSender ++ packets effects
            receiverLog := s.receiverLog ++ reports effects }
  | .toSender env hash =>
    match s.toSender with
    | [] => none
    | header :: rest =>
      match s.sender.receive p env ⟨header, hash, s.sender.iface⟩ with
      | .error _ => none
      | .ok (l, effects) => some
          { s with
            sender := l
            toSender := rest
            toReceiver := s.toReceiver ++ packets effects
            senderLog := s.senderLog ++ reports effects }

def Link.carries (l : Link) (env : Env) : Bool := !l.freeOnly || env.freeInterface l.iface

def Session.carries (s : Session) : Delivery → Bool
  | .toReceiver env _ => s.receiver.carries env
  | .toSender env _ => s.sender.carries env

def Session.waiting (s : Session) : Delivery → Bool
  | .toReceiver _ _ => !s.toReceiver.isEmpty
  | .toSender _ _ => !s.toSender.isEmpty

def sessionSystem (p : LinkPrimitives) (start : Session) : TransitionSystem Session Delivery where
  initial := start
  exec := Session.deliver p

def Session.afterSend (receiver : Link) (outcome : Outcome) : Session where
  sender := outcome.1
  receiver := receiver
  toReceiver := packets outcome.2
  toSender := []
  senderLog := reports outcome.2
  receiverLog := []

/-! ## What a link keeps -/

/-- A link that has changed in its clocks and tables only. -/
structure Link.Continues (base l : Link) : Prop where
  id : l.id = base.id
  iface : l.iface = base.iface
  freeOnly : l.freeOnly = base.freeOnly
  token : l.token = base.token
  mtu : l.mtu = base.mtu
  acceptResources : l.acceptResources = base.acceptResources

namespace Link.Continues

variable {base l : Link}

lemma refl (l : Link) : l.Continues l := ⟨rfl, rfl, rfl, rfl, rfl, rfl⟩

section
variable (same : base.Continues l)

include same

lemma heard (env : Env) : base.Continues (l.heard env) :=
  { same with }

lemma sendLinkPacket (env : Env)
    (ptype : PacketType) (context : UInt8) (data : List UInt8) (resource : Option FullHash) :
    base.Continues (l.sendLinkPacket env ptype context data resource).1 :=
  { same with }

lemma putIncoming (r : IncomingResource) : base.Continues (l.putIncoming r) :=
  { same with }

lemma putOutgoing (r : OutgoingResource) : base.Continues (l.putOutgoing r) :=
  { same with }

lemma carries (env : Env) : l.carries env = base.carries env := by
  rw [Link.carries, Link.carries, same.freeOnly, same.iface]

lemma buildLinkPacket (ptype : PacketType) (context : UInt8) (data : List UInt8) :
    Rns.buildLinkPacket l ptype context data = Rns.buildLinkPacket base ptype context data := by
  rw [Rns.buildLinkPacket, Rns.buildLinkPacket, same.id]

lemma effects_sendLinkPacket (carries : l.carries env = true) (ptype : PacketType)
    (context : UInt8) (data : List UInt8) (resource : Option FullHash) :
    (l.sendLinkPacket env ptype context data resource).2 =
    [.transmit l.iface (Rns.buildLinkPacket base ptype context data) resource] := by
  have free : (l.freeOnly && !env.freeInterface l.iface) = false := by
    rw [Link.carries] at carries
    rw [← Bool.not_eq_true', Bool.not_and, Bool.not_not]
    exact carries
  rw [Link.sendLinkPacket_effects, free, same.buildLinkPacket]
  rfl

lemma sendParts (carries : l.carries env = true) (hash : FullHash) (parts : List (List UInt8)) :
    base.Continues (l.sendParts env hash parts).1 ∧
      (l.sendParts env hash parts).1.outgoing = l.outgoing ∧
      packets (l.sendParts env hash parts).2 =
        parts.map (Rns.buildLinkPacket base .data contextResource) ∧
      reports (l.sendParts env hash parts).2 = [] := by
  induction parts generalizing l with
  | nil => exact ⟨same, rfl, rfl, rfl⟩
  | cons part rest induction =>
    have next := same.sendLinkPacket env .data contextResource part (some hash)
    have still : (l.sendLinkPacket env .data contextResource part
        (some hash)).1.carries env = true := by
      rw [next.carries, ← same.carries]
      exact carries
    obtain ⟨kept, outgoing, sent, quiet⟩ := induction next still
    have first := same.effects_sendLinkPacket carries .data contextResource part (some hash)
    rw [sendParts]
    dsimp only
    rw [first]
    refine ⟨kept, outgoing, ?_, ?_⟩
    · rw [packets, filterMap_append]
      exact congrArg (List.cons _) sent
    rw [reports, filter_append]
    exact quiet

end

end Link.Continues

/-! ## Packets of a transfer -/

section
variable {p : LinkPrimitives} {base l : Link} {env : Env} {token : Token} {hash : FullHash}

namespace Link

lemma decrypted_eq (keyed : l.token = some token)
    (iv : FixedBytes aesBlockSize) (plain : List UInt8) (handler : List UInt8 → Checked Outcome) :
    l.decrypted (token.encrypt iv plain) handler = handler plain := by
  rw [decrypted, decrypt_encrypt keyed]

lemma receive_data (context : UInt8) (data : List UInt8) : l.receive p env
        ⟨buildLinkPacket base .data context data, hash, l.iface⟩ = (l.heard env).dispatch p env
        ⟨buildLinkPacket base .data context data, hash, l.iface⟩ := by
  have other : (buildLinkPacket base .data context data).packetType ≠ .proof := by
    intro same
    cases same
  rw [receive, if_neg (not_not.mpr rfl), if_neg other]

lemma receive_sealed
    (handles : ∀ data, (l.heard env).dispatch p env ⟨buildLinkPacket base .data context data, hash,
      l.iface⟩ = (l.heard env).decrypted data handler) (keyed : l.token = some token)
    (iv : FixedBytes aesBlockSize) : l.receive p env
      ⟨buildLinkPacket base .data context (token.encrypt iv plain), hash, l.iface⟩ =
        handler plain := by
  have heard : (l.heard env).token = some token := keyed
  rw [receive_data, handles]
  exact decrypted_eq heard iv plain _

lemma receive_part (part : List UInt8) : l.receive p env
        ⟨buildLinkPacket base .data contextResource part, hash, l.iface⟩ =
      (l.heard env).receivePart p.toPrimitives env part := by
  rw [receive_data]
  rfl

lemma receive_proof (data : List UInt8) : l.receive p env
        ⟨buildLinkPacket base .proof contextResourcePRF data, hash, l.iface⟩ =
      (l.heard env).handleResourceProof env data := by
  have proof : (buildLinkPacket base .proof contextResourcePRF data).packetType = .proof := rfl
  rw [receive, if_neg (not_not.mpr rfl), if_pos proof]
  exact if_pos rfl

end Link

end

/-! ## Stages -/

/-- How far a transfer is. -/
inductive Stage
  | advertised
  /-- The receiver has parts and pages and asks for a window. -/
  | requested (parts pages : Nat) (window : Int)
  /-- The parts up to one place are under way, and maybe a page. -/
  | serving (parts last pages : Nat) (paging : Bool)
  | proving | finished

/-- No more packets than this are to come. -/
def Stage.left (count : Nat) : Stage → Nat
  | advertised => 4 * count + 2
  | requested parts pages _ => 2 * (count - parts + (count - pages)) + 3
  | serving parts _ pages _ => 2 * (count - parts + (count - pages)) + 2
  | proving => 1
  | finished => 0

section
variable {p : LinkPrimitives} {token : Token}

/-- No other resource takes one of the parts. -/
def Link.Undisturbed (o : Offer p.toPrimitives token) (l : Link) : Prop :=
  ∀ r ∈ l.incoming, r.hash ≠ o.hash → r.state = .transferring →
    ∀ part ∈ o.parts, r.takePart p.toPrimitives part = .ok none

/-- The sender while its offer stands. -/
structure Link.Offering (o : Offer p.toPrimitives token) (base : Link)
    (pages : Nat) (l : Link) : Prop where
  same : base.Continues l
  keyed : base.token = some token
  offers : ∃ r, l.outgoing.get? o.hash = some r ∧ r.Offers o pages

/-- The receiver before, during and after the transfer. -/
structure Link.Ready (o : Offer p.toPrimitives token) (base l : Link) : Prop where
  same : base.Continues l
  keyed : base.token = some token
  undisturbed : l.Undisturbed o

/-- A session in a stage, seen from the two links it began with. -/
inductive Session.At (o : Offer p.toPrimitives token) (a b : Link) : Stage → Session → Prop
  | advertised {sender receiver : Link} {plain : List UInt8} {iv : FixedBytes aesBlockSize}
      (offering : Link.Offering o a 1 sender) (ready : Link.Ready o b receiver)
      (absent : receiver.incoming.get? o.hash = none)
      (parsed : parseAdvert p.toPrimitives plain = some o.advert) : Session.At o a b .advertised
        ⟨sender, receiver, [buildLinkPacket a .data contextResourceAdv
            (token.encrypt iv plain)], [], [], []⟩
  | requested {sender receiver : Link} {c k : Nat} {window : Int}
      {r : IncomingResource} {data : List UInt8} {iv : FixedBytes aesBlockSize}
      (offering : Link.Offering o a k sender) (ready : Link.Ready o b receiver)
      (found : receiver.incoming.get? o.hash = some r)
      (asks : r.Asks o c k window) (open_ : 1 ≤ window) (known : o.Known c k) (more : c < o.count)
      (parsed : parseRequest data = .ok (some (o.request c k window))) :
      Session.At o a b (.requested c k window) ⟨sender, receiver, [],
          [buildLinkPacket b .data contextResourceReq (token.encrypt iv data)], [], []⟩
  | serving {sender receiver : Link} {c e k : Nat}
      {r : IncomingResource} (offering : Link.Offering o a k sender)
      (ready : Link.Ready o b receiver) (found : receiver.incoming.get? o.hash = some r)
      (holds : r.Holds o c k) (outstanding : r.outstanding = (e : Int) - c)
      (calm : r.waitingHMU = false) (known : o.Known c k) (more : c < e) (mapped : e ≤ o.height k) :
      Session.At o a b (.serving c e k false) ⟨sender, receiver, (page o.parts c e).map
            (buildLinkPacket a .data contextResource), [], [], []⟩
  | paging {sender receiver : Link} {c k : Nat}
      {r : IncomingResource} {iv : FixedBytes aesBlockSize}
      (offering : Link.Offering o a (k + 1) sender) (ready : Link.Ready o b receiver)
      (found : receiver.incoming.get? o.hash = some r) (holds : r.Holds o c k)
      (outstanding : r.outstanding = ((74 * k : Nat) : Int) - c)
      (waits : r.waitingHMU = true) (known : o.Known c k) (more : 74 * k < o.count) :
      Session.At o a b (.serving c (74 * k) k true) ⟨sender, receiver, (page o.parts c (74 * k)).map
              (buildLinkPacket a .data contextResource) ++
            [buildLinkPacket a .data contextResourceHMU
              (token.encrypt iv (o.pageText k))], [], [], []⟩
  | proving {sender receiver : Link} {k : Nat} (offering : Link.Offering o a k sender) :
      Session.At o a b .proving ⟨sender, receiver, [], [buildLinkPacket b .proof contextResourcePRF
            (o.hash.bytes ++ (resourceProof p.toPrimitives o.payload o.hash).bytes)],
          [], [.received o.hash o.payload]⟩
  | finished {sender receiver : Link} : Session.At o a b .finished
        ⟨sender, receiver, [], [], [.done o.hash .delivered], [.received o.hash o.payload]⟩

open Session

/-! ## Steps -/

variable {o : Offer p.toPrimitives token} {a b sender receiver : Link} {env : Env} {hash : FullHash}

/-- The receiver takes a resource of this size. -/
structure Offer.AcceptedBy (o : Offer p.toPrimitives token) (b : Link) : Prop where
  sdu : 1 ≤ b.sdu
  accepts : b.accepts o.payload.length = true
  small : (o.payload.length : Int) ≤ resourceMaxSize

variable {l : Link} {r : IncomingResource} {s : Session} {rest : List Header}
  {c k : Nat} {iv : FixedBytes aesBlockSize} {stage : Stage}

lemma Link.Ready.token_heard (ready : Link.Ready o b l) (env : Env) :
    (l.heard env).token = some token :=
  ready.same.token.trans ready.keyed

lemma Link.Ready.token_eq (ready : Link.Ready o b l) : l.token = some token :=
  ready.same.token.trans ready.keyed

lemma Link.Undisturbed.putIncoming (undisturbed : l.Undisturbed o) (own : r.hash = o.hash) :
    (l.putIncoming r).Undisturbed o := by
  intro other member different
  rcases mem_put.mp member with rfl | ⟨kept, _⟩
  · exact (different own).elim
  · exact undisturbed other kept different

section
variable (ready : Link.Ready o b l)

include ready

lemma Link.Ready.heard (env : Env) : Link.Ready o b (l.heard env) :=
  ⟨ready.same.heard env, ready.keyed, ready.undisturbed⟩

lemma Link.Ready.putIncoming (own : r.hash = o.hash) : Link.Ready o b (l.putIncoming r) :=
  ⟨ready.same.putIncoming r, ready.keyed, ready.undisturbed.putIncoming own⟩

lemma Link.Ready.sendLinkPacket (env : Env)
    (ptype : PacketType) (context : UInt8) (data : List UInt8) (resource : Option FullHash) :
    Link.Ready o b (l.sendLinkPacket env ptype context data resource).1 :=
  ⟨ready.same.sendLinkPacket env ptype context data resource, ready.keyed, ready.undisturbed⟩

end

lemma Link.get?_putIncoming (l : Link) (own : r.hash = o.hash) :
    (l.putIncoming r).incoming.get? o.hash = some r := by
  rw [Link.putIncoming, get?_put, if_pos own.symm]

namespace Session

variable {header : Header} {outcome : Outcome}

lemma deliver_toReceiver (queued : s.toReceiver = header :: rest)
    (received : s.receiver.receive p env ⟨header, hash, s.receiver.iface⟩ = .ok outcome) :
    s.deliver p (.toReceiver env hash) = some
      { s with
        receiver := outcome.1
        toReceiver := rest
        toSender := s.toSender ++ packets outcome.2
        receiverLog := s.receiverLog ++ reports outcome.2 } := by
  rw [deliver, queued]
  dsimp only
  rw [received]

lemma deliver_toSender (queued : s.toSender = header :: rest)
    (received : s.sender.receive p env ⟨header, hash, s.sender.iface⟩ = .ok outcome) :
    s.deliver p (.toSender env hash) = some
      { s with
        sender := outcome.1
        toSender := rest
        toReceiver := s.toReceiver ++ packets outcome.2
        senderLog := s.senderLog ++ reports outcome.2 } := by
  rw [deliver, queued]
  dsimp only
  rw [received]

lemma At.of_request {window : Int} {next : IncomingResource}
    {data : List UInt8} (offering : Link.Offering o a k sender)
    (ready : Link.Ready o b l) (asks : next.Asks o c k window) (open_ : 1 ≤ window)
    (known : o.Known c k) (more : c < o.count)
    (parsed : parseRequest data = .ok (some (o.request c k window)))
    (carries : l.carries env = true) : At o a b (.requested c k window) ⟨sender,
        ((l.putIncoming next).sendLinkPacket env .data contextResourceReq
          (token.encrypt iv data) (some o.hash)).1, [],
        packets ((l.putIncoming next).sendLinkPacket env .data
          contextResourceReq (token.encrypt iv data) (some o.hash)).2, [],
        reports ((l.putIncoming next).sendLinkPacket env .data
          contextResourceReq (token.encrypt iv data) (some o.hash)).2⟩ := by
  have own : next.hash = o.hash := asks.hash
  have stored := ready.putIncoming own
  have left := stored.same.effects_sendLinkPacket carries .data
    contextResourceReq (token.encrypt iv data) (some o.hash)
  rw [left]
  exact .requested offering (stored.sendLinkPacket _ _ _ _ _)
    (l.get?_putIncoming own) asks open_ known more parsed

/-- A packet arrives, and fewer are to come. -/
def Advances (o : Offer p.toPrimitives token) (a b : Link) (stage : Stage) (s : Session)
    (d : Delivery) : Prop :=
  ∃ next after, s.deliver p d = some next ∧ At o a b after next ∧
    after.left o.count < stage.left o.count

lemma At.advertised_step (accepted : o.AcceptedBy b)
    (at_ : At o a b .advertised s) (carries : s.receiver.carries env = true) :
    s.Advances o a b .advertised (.toReceiver env hash) := by
  cases at_ with
  | @advertised sender receiver plain iv offering ready absent parsed =>
  have same := ready.same.heard env
  have sdu : 1 ≤ (receiver.heard env).sdu := by
    rw [sdu, same.mtu]
    exact accepted.sdu
  have accepts : (receiver.heard env).accepts o.payload.length = true := by
    rw [accepts, same.acceptResources]
    exact accepted.accepts
  obtain ⟨next, data, window, length, asks, open_, requested, handled⟩ :=
    Offer.handleResourceAdv parsed sdu accepts accepted.small absent (ready.token_heard env)
  refine ⟨_, .requested 0 1 window, deliver_toReceiver rfl
    ((receive_sealed (fun _ => rfl) ready.token_eq iv).trans handled), ?_, ?_⟩
  · have known : o.Known 0 1 := ⟨le_refl 1, le_refl 0, zero_le _⟩
    exact .of_request offering (ready.heard env) asks open_ known o.positive requested carries
  have positive : 0 < o.count := o.positive
  rw [Stage.left, Stage.left]
  omega

end Session

lemma page_cons (below : low < high) (found : list[low]? = some element) :
    page list low high = element :: page list (low + 1) high := by
  obtain ⟨inside, same⟩ := List.getElem?_eq_some_iff.mp found
  have within : low < (list.take high).length := by
    rw [length_take]
    omega
  rw [page, page, drop_eq_getElem_cons within, getElem_take, same]

lemma Link.Offering.answer {r : OutgoingResource} (same : a.Continues l)
    (keyed : a.token = some token) (offers : r.Offers o k)
    (carries : l.carries env = true) (toSend : List (List UInt8)) (hmu : Option (List UInt8)) :
    Link.Offering o a k (l.answer env r toSend hmu).1 ∧ packets (l.answer env r toSend hmu).2 =
        toSend.map (buildLinkPacket a .data contextResource) ++
          hmu.toList.map (fun text => buildLinkPacket a .data
            contextResourceHMU (token.encrypt (env.iv 0) text)) ∧
      reports (l.answer env r toSend hmu).2 = [] := by
  have all : r.sentAll.Offers o k := by
    rw [OutgoingResource.sentAll]
    split
    · exact { offers with }
    · exact offers
  have found : (l.putOutgoing r.sentAll).outgoing.get? o.hash = some r.sentAll := by
    rw [putOutgoing, get?_put, if_pos all.hash.symm]
  obtain ⟨kept, outgoing, sent, quiet⟩ :=
    (same.putOutgoing r.sentAll).sendParts carries r.hash toSend
  have still : ((l.putOutgoing r.sentAll).sendParts env r.hash toSend).1.carries env = true := by
    rw [kept.carries, ← same.carries]
    exact carries
  rw [Link.answer]
  dsimp only
  rw [packets, reports, filterMap_append, filter_append]
  rw [packets] at sent
  rw [reports] at quiet
  rw [sent, quiet]
  cases hmu with
  | none =>
    refine ⟨⟨kept, keyed, _, ?_, all⟩, rfl, rfl⟩
    exact (congrArg (get? · o.hash) outgoing).trans found
  | some text =>
    have left := kept.effects_sendLinkPacket still .data contextResourceHMU
      (token.encrypt (env.iv 0) text) (some r.hash)
    rw [sendHMU, encrypt_keyed (kept.token.trans keyed)]
    rw [left]
    refine ⟨⟨kept.sendLinkPacket _ _ _ _ _, keyed, _, ?_, all⟩, rfl, rfl⟩
    exact (congrArg (get? · o.hash) outgoing).trans found

lemma Session.At.requested_step (at_ : Session.At o a b (.requested c k window) s)
    (carries : s.sender.carries env = true) :
    s.Advances o a b (.requested c k window) (.toSender env hash) := by
  cases at_ with
  | @requested sender receiver _ _ _ r data iv offering ready found asks open_ known more parsed =>
  obtain ⟨out, offered, offers⟩ := offering.offers
  obtain ⟨served, servedOffers, answered⟩ := offers.serve known (sender.heard env) env window
  have handled : (sender.heard env).handleResourceRequest env data =
      .ok ((sender.heard env).answer env served (page o.parts c (c + o.asked c k window))
        (if o.runsOut c k window then some (o.pageText k) else none)) := by
    rw [handleResourceRequest, parsed, ok_bind]
    dsimp only
    rw [show (sender.heard env).outgoing.get? (o.request c k window).hash = some out from offered]
    exact answered
  have keyed : sender.token = some token := offering.same.token.trans offering.keyed
  have reach : c + o.asked c k window ≤ o.height k := by
    have high := known.high
    rw [Offer.asked]
    omega
  cases out_ : o.runsOut c k window with
  | false =>
    rw [out_] at servedOffers handled
    simp only [Bool.false_eq_true, if_false] at servedOffers handled
    obtain ⟨still, sent, quiet⟩ := Link.Offering.answer
      (offering.same.heard env) offering.keyed servedOffers carries
      (page o.parts c (c + o.asked c k window)) none
    refine ⟨_, .serving c (c + o.asked c k window) k false, deliver_toSender rfl
        ((receive_sealed (fun _ => rfl) keyed iv).trans handled), ?_, lt_succ_self _⟩
    simp only [sent, quiet, nil_append, Option.toList_none, map_nil, append_nil]
    have some : c < c + o.asked c k window := by
      have left := of_decide_eq_false out_
      rw [Offer.asked]
      omega
    apply Session.At.serving still ready found asks.toHolds ?_ ?_ known some reach
    · rw [asks.outstanding]
      omega
    · rw [asks.waitingHMU, out_]
  | true =>
    rw [out_] at servedOffers handled
    simp only [if_true] at servedOffers handled
    obtain ⟨short, narrow⟩ := of_decide_eq_true out_
    have whole : o.height k = 74 * k := by
      rw [Offer.height] at short ⊢
      omega
    have ends : c + o.asked c k window = 74 * k := by
      rw [Offer.asked]
      omega
    rw [ends] at handled
    obtain ⟨still, sent, quiet⟩ := Link.Offering.answer
      (offering.same.heard env) offering.keyed servedOffers carries
      (page o.parts c (74 * k)) (some (o.pageText k))
    refine ⟨_, .serving c (74 * k) k true, deliver_toSender rfl
      ((receive_sealed (fun _ => rfl) keyed iv).trans handled), ?_, lt_succ_self _⟩
    dsimp only
    rw [sent, quiet, nil_append, append_nil]
    apply Session.At.paging still ready found asks.toHolds ?_ ?_ known (by omega)
    · rw [asks.outstanding]
      omega
    · rw [asks.waitingHMU, out_]

lemma Link.Ready.receivePart (ready : Link.Ready o b receiver)
    (found : receiver.incoming.get? o.hash = some r) (holds : r.Holds o c k)
    (below : c < o.height k) (next : o.parts[c]? = some part) (a : Link) (env : Env)
    (hash : FullHash) : receiver.receive p env ⟨buildLinkPacket a .data contextResource part, hash,
          receiver.iface⟩ = (receiver.heard env).afterPart p.toPrimitives env (r.withPart o c) := by
  rw [Link.receive_part, Link.receivePart]
  apply Link.receivePartOf_eq _ holds.state (holds.takePart below next)
  · intro other listed different running
    have member : other ∈ receiver.incoming := (mem_insertionSort _).mp listed
    apply ready.undisturbed other member _ running part (mem_of_getElem? next)
    intro same
    have again := get?_of_mem member
    rw [same, found] at again
    exact different (Option.some.inj again).symm
  · exact (mem_insertionSort _).mpr (mem_of_get? found)

lemma Link.Ready.kept (ready : Link.Ready o b l) (own : r.hash = o.hash) (env : Env) :
    Link.Ready o b ((l.heard env).putIncoming r) ∧
    ((l.heard env).putIncoming r).incoming.get? o.hash = some r :=
  ⟨(ready.heard env).putIncoming own, get?_putIncoming _ own⟩

lemma Offer.part_at (below : c < o.height k) : ∃ part, o.parts[c]? = some part := by
  have height := o.height_le k
  have inside : c < o.parts.length := by
    rw [Offer.count] at height
    omega
  exact ⟨_, List.getElem?_eq_getElem inside⟩

lemma Offer.Known.succ (known : o.Known c k) (below : c < o.height k) : o.Known (c + 1) k :=
  ⟨known.paged, le_trans known.low (le_succ c), below⟩

namespace Session

lemma At.serving_step {e : Nat} (at_ : At o a b (.serving c e k false) s)
    (carries : s.receiver.carries env = true) :
    s.Advances o a b (.serving c e k false) (.toReceiver env hash) := by
  cases at_ with
  | @serving sender receiver _ _ _ r offering ready found holds outstanding calm known more
      mapped =>
  have height := o.height_le k
  have below : c < o.height k := by omega
  obtain ⟨part, partFound⟩ := o.part_at below
  have arrives := ready.receivePart found holds below partFound a env hash
  have taken := holds.withPart
  have queue : (page o.parts c e).map (buildLinkPacket a .data contextResource) =
      buildLinkPacket a .data contextResource part :: (page o.parts (c + 1) e).map
          (buildLinkPacket a .data contextResource) := by
    rw [page_cons more partFound]
    rfl
  have left : (r.withPart o c).outstanding = (e : Int) - (c + 1 : Nat) := by
    show r.outstanding - 1 = _
    rw [outstanding]
    omega
  have still := known.succ below
  rcases lt_or_ge (c + 1) e with middle | last
  · -- More parts of the window are under way.
    rw [taken.afterPart_middle (by omega) (by omega) env] at arrives
    refine ⟨_, .serving (c + 1) e k false, deliver_toReceiver queue arrives, ?_, ?_⟩
    · obtain ⟨after, stored⟩ := ready.kept
        (r := { r.withPart o c with lastActivity := env.now, retries := 0 }) taken.hash env
      exact .serving offering after stored
        { taken with } left calm still middle mapped
    rw [Stage.left, Stage.left]
    omega
  have none : (page o.parts (c + 1) e).map (buildLinkPacket a .data contextResource) = [] := by
    rw [page_eq_nil last]
    rfl
  rw [none] at queue
  rcases lt_or_ge (c + 1) o.count with further | all
  · -- The window is complete, and the next one is asked for.
    obtain ⟨grown, grownHolds, _, waits, after⟩ := taken.afterPart_end
      (l := receiver.heard env) further (by omega) env
    obtain ⟨next, data, asks, parsed, requested⟩ :=
      grownHolds.requestNext (l := receiver.heard env) still
        (waits.trans calm) (ready.token_heard env) env (env.iv 0)
    refine ⟨_, .requested (c + 1) k grown.window, deliver_toReceiver queue
        (arrives.trans (after.trans requested)), ?_, ?_⟩
    · exact .of_request offering (ready.heard env) asks grownHolds.window
        still further parsed carries
    rw [Stage.left, Stage.left]
    omega
  -- That was the last part.
  have whole : c + 1 = o.count := by omega
  rw [whole] at taken
  rw [taken.afterPart_last (ready.token_heard env) env] at arrives
  refine ⟨_, .proving, deliver_toReceiver queue arrives, ?_, ?_⟩
  · have sent := (ready.heard env).same.effects_sendLinkPacket carries .proof contextResourcePRF
      (o.hash.bytes ++ (resourceProof p.toPrimitives o.payload o.hash).bytes) (some o.hash)
    rw [sent]
    exact .proving offering
  rw [Stage.left, Stage.left]
  omega

lemma At.paging_step {e : Nat} (at_ : At o a b (.serving c e k true) s)
    (carries : s.receiver.carries env = true) :
    s.Advances o a b (.serving c e k true) (.toReceiver env hash) := by
  cases at_ with
  | @paging sender receiver _ _ r iv offering ready found holds outstanding waits known more =>
  obtain ⟨height, _⟩ := o.height_succ_of_lt more
  have high := known.high
  rcases lt_or_ge c (74 * k) with before | all
  · have below : c < o.height k := by omega
    obtain ⟨part, partFound⟩ := o.part_at below
    have arrives := ready.receivePart found holds below partFound a env hash
    have taken := holds.withPart
    have queue : (page o.parts c (74 * k)).map (buildLinkPacket a .data contextResource) ++
          [buildLinkPacket a .data contextResourceHMU (token.encrypt iv (o.pageText k))] =
        buildLinkPacket a .data contextResource part :: ((page o.parts (c + 1) (74 * k)).map
              (buildLinkPacket a .data contextResource) ++
            [buildLinkPacket a .data contextResourceHMU (token.encrypt iv (o.pageText k))]) := by
      rw [page_cons before partFound]
      rfl
    have left : (r.withPart o c).outstanding = ((74 * k : Nat) : Int) - (c + 1 : Nat) := by
      show r.outstanding - 1 = _
      rw [outstanding]
      omega
    have still := known.succ below
    -- The window grows only when its last part is there; either way the
    -- resource is kept and the page is still awaited.
    obtain ⟨after, kept, pending, awaited, handled⟩ :
        ∃ after : IncomingResource, after.Holds o (c + 1) k ∧
          after.outstanding = ((74 * k : Nat) : Int) - (c + 1 : Nat) ∧ after.waitingHMU = true ∧
          (receiver.heard env).afterPart p.toPrimitives env (r.withPart o c) =
            .ok ((receiver.heard env).putIncoming after, []) := by
      rcases lt_or_ge (c + 1) (74 * k) with middle | last
      · refine ⟨{ r.withPart o c with lastActivity := env.now, retries := 0 },
          ?_, left, waits, taken.afterPart_middle (by omega) (by omega) env⟩
        exact { taken with }
      obtain ⟨grown, grownHolds, grownOutstanding, grownWaits, ended⟩ :=
        taken.afterPart_end (l := receiver.heard env) (by omega) (by omega) env
      refine ⟨grown, grownHolds, grownOutstanding.trans left,
        grownWaits.trans waits, ended.trans ?_⟩
      rw [requestNext, if_pos]
      exact .inr (grownWaits.trans waits)
    rw [handled] at arrives
    refine ⟨_, .serving (c + 1) (74 * k) k true, deliver_toReceiver queue arrives, ?_, ?_⟩
    · obtain ⟨readyAfter, stored⟩ := ready.kept kept.hash env
      exact .paging offering readyAfter stored kept pending awaited still more
    rw [Stage.left, Stage.left]
    omega
  have none : page o.parts c (74 * k) = [] := page_eq_nil all
  have next : o.Known c (k + 1) := by
    refine ⟨le_add_left 1 k, ?_, ?_⟩
    · omega
    rw [Offer.height]
    omega
  obtain ⟨asked, data, asks, parsed, handled⟩ :=
    holds.handleHMU (l := receiver.heard env) next more found (ready.token_heard env)
  rw [none]
  refine ⟨_, .requested c (k + 1) r.window, deliver_toReceiver rfl
      ((receive_sealed (fun _ => rfl) ready.token_eq iv).trans handled), ?_, ?_⟩
  · exact .of_request offering (ready.heard env) asks holds.window next (by omega) parsed carries
  rw [Stage.left, Stage.left]
  omega

lemma At.proving_step (at_ : At o a b .proving s) :
    s.Advances o a b .proving (.toSender env hash) := by
  cases at_ with
  | @proving sender receiver _ offering =>
  obtain ⟨r, found, offers⟩ := offering.offers
  generalize proved : resourceProof p.toPrimitives o.payload o.hash = proof
  have expected : r.expectedProof = proof := offers.expectedProof.trans proved
  have first : o.hash.bytes.length = 32 := o.hash.length_eq
  have second : proof.bytes.length = 32 := proof.length_eq
  have length : (o.hash.bytes ++ proof.bytes).length = 2 * fullHashLen := by
    rw [length_append, first, second]
    rfl
  have named : slice (o.hash.bytes ++ proof.bytes) 0 32 = .ok o.hash.bytes := by
    apply slice_append [] o.hash.bytes proof.bytes (show (0 : Int) = _ from rfl)
    rw [first]
    rfl
  have shown : slice (o.hash.bytes ++ proof.bytes) 32
      (o.hash.bytes ++ proof.bytes).length = .ok proof.bytes := by
    apply slice_end
    rw [first]
    rfl
  have handled : (sender.heard env).handleResourceProof env (o.hash.bytes ++ proof.bytes) =
      .ok ({ (sender.heard env).deleteOutgoing r.hash with
          lastProof := env.now }, [.done r.hash .delivered]) := by
    rw [handleResourceProof, if_neg (not_not.mpr length), named, ok_bind,
      shown, ok_bind, FixedBytes.copy_bytes,
      show (sender.heard env).outgoing.get? o.hash = some r from found]
    dsimp only
    rw [expected, if_neg (not_not.mpr rfl)]
    rfl
  refine ⟨_, .finished, deliver_toSender rfl ((receive_proof _).trans handled), ?_, one_pos⟩
  rw [offers.hash]
  exact .finished

lemma At.step (accepted : o.AcceptedBy b) (at_ : At o a b stage s)
    (waits : s.waiting d = true) (carries : s.carries d = true) : s.Advances o a b stage d := by
  cases d with
  | toReceiver env hash =>
    cases stage with
    | advertised => exact at_.advertised_step accepted carries
    | serving c e k paging =>
      cases paging with
      | false => exact at_.serving_step carries
      | true => exact at_.paging_step carries
    | requested c k window | proving | finished =>
      cases at_
      cases waits
  | toSender env hash =>
    cases stage with
    | requested c k window => exact at_.requested_step carries
    | proving => exact at_.proving_step
    | advertised | serving c e k paging | finished => cases at_ <;> cases waits

lemma waiting_of_deliver {next : Session} {d : Delivery}
    (delivered : s.deliver p d = some next) : s.waiting d = true := by
  cases d with
  | toReceiver env hash =>
    cases queued : s.toReceiver with
    | nil =>
      rw [deliver, queued] at delivered
      cases delivered
    | cons header rest =>
      rw [waiting, queued]
      rfl
  | toSender env hash =>
    cases queued : s.toSender with
    | nil =>
      rw [deliver, queued] at delivered
      cases delivered
    | cons header rest =>
      rw [waiting, queued]
      rfl

lemma At.run {start : Session} (accepted : o.AcceptedBy b)
    {run : List Delivery} {finish : Session} (at_ : At o a b stage s)
    (executed : ((sessionSystem p start).guarded carries).execAll s run = some finish) :
    ∃ after, At o a b after finish ∧ run.length + after.left o.count ≤ stage.left o.count := by
  induction run generalizing stage s with
  | nil =>
    cases executed
    exact ⟨stage, at_, le_of_eq (zero_add _)⟩
  | cons d rest induction =>
    obtain ⟨middle, first, later⟩ := Option.bind_eq_some_iff.mp executed
    simp only [TransitionSystem.guarded, Option.ite_none_right_eq_some] at first
    obtain ⟨carries, delivered⟩ := first
    obtain ⟨next, after, again, nextAt, less⟩ :=
      at_.step accepted (waiting_of_deliver delivered) carries
    cases again.symm.trans delivered
    obtain ⟨final, finalAt, length⟩ := induction nextAt later
    refine ⟨final, finalAt, ?_⟩
    rw [length_cons]
    omega

lemma At.logs (at_ : At o a b stage s) :
    (s.receiverLog = [] ∨ s.receiverLog = [.received o.hash o.payload]) ∧
    (s.senderLog = [] ∨ s.senderLog = [.done o.hash .delivered]) ∧
    (s.toReceiver = [] → s.toSender = [] → s.receiverLog = [.received o.hash o.payload] ∧
    s.senderLog = [.done o.hash .delivered]) := by
  cases at_ with
  | advertised =>
    refine ⟨.inl rfl, .inl rfl, ?_⟩
    intro none
    cases none
  | requested =>
    refine ⟨.inl rfl, .inl rfl, ?_⟩
    intro _ none
    cases none
  | serving offering ready found holds outstanding calm known more mapped =>
    refine ⟨.inl rfl, .inl rfl, ?_⟩
    intro none
    obtain ⟨part, partFound⟩ := o.part_at (lt_of_lt_of_le more mapped)
    rw [page_cons more partFound] at none
    cases none
  | paging =>
    refine ⟨.inl rfl, .inl rfl, ?_⟩
    intro none
    exact (append_ne_nil_of_right_ne_nil _ (cons_ne_nil _ _) none).elim
  | proving =>
    refine ⟨.inr rfl, .inl rfl, ?_⟩
    intro _ none
    cases none
  | finished => exact ⟨.inr rfl, .inr rfl, fun _ _ => ⟨rfl, rfl⟩⟩

end Session

end

/-! ## Sending -/

section
variable (p : Primitives) (token : Token) (payload : List UInt8) (front random : RandomHash)
  (iv : FixedBytes aesBlockSize) {size : Nat}

lemma wholeSplit_positive (room : 0 < size) :
    0 < (wholeSplit p size (token.encrypt iv (front.bytes ++ payload)) random).parts.length := by
  have length := token.length_encrypt iv (front.bytes ++ payload)
  rw [wholeSplit, leadingSplit, length_map, length_range, lt_partCount room]
  omega

lemma wholeSplit_nonempty (room : 0 < size) :
    ∀ part ∈ (wholeSplit p size (token.encrypt iv (front.bytes ++ payload)) random).parts,
    part ≠ [] := by
  intro part listed
  obtain ⟨k, inside, rfl⟩ := mem_map.mp listed
  have below := (lt_partCount room).mp (mem_range.mp inside)
  apply ne_nil_of_length_pos
  rw [piece, length_take, length_drop]
  omega

lemma wholeSplit_small (room : 0 < size) (small : (payload.length : Int) ≤ resourceMaxSize) :
    ((wholeSplit p size (token.encrypt iv (front.bytes ++ payload))
      random).parts.flatten.length : Int) ≤ 3 * resourceMaxSize := by
  have front4 : front.bytes.length = 4 := front.length_eq
  have length := token.length_encrypt iv (front.bytes ++ payload)
  rw [flatten_wholeSplit room, length, length_append, front4, padLen, aesBlockSize]
  rw [resourceMaxSize] at small ⊢
  omega

lemma wholeSplit_nodup {p : Primitives} {cipher : List UInt8} {random : RandomHash}
    (nodup : (wholeSplit p size cipher random).mapHashes.Nodup) :
    ((wholeSplit p size cipher random).parts.map fun part => mapHash p part random).Nodup := by
  rw [wholeSplit, leadingSplit] at nodup ⊢
  rw [map_map]
  exact nodup

lemma wholeSplit_decrypts (room : 0 < size) :
    token.decrypt (wholeSplit p size (token.encrypt iv (front.bytes ++ payload))
      random).parts.flatten = .ok (front.bytes ++ payload) := by
  rw [flatten_wholeSplit room]
  exact token.decrypt_encrypt_eq iv (front.bytes ++ payload)

end

def Offer.ofSplit (p : Primitives) (token : Token) (payload : List UInt8)
    (front random : RandomHash) (iv : FixedBytes aesBlockSize) (size : Nat)
    (room : 0 < size) (small : (payload.length : Int) ≤ resourceMaxSize) (nodup : (wholeSplit p size
      (token.encrypt iv (front.bytes ++ payload)) random).mapHashes.Nodup) : Offer p token where
  payload := payload
  front := front
  random := random
  parts := (wholeSplit p size (token.encrypt iv (front.bytes ++ payload)) random).parts
  positive := wholeSplit_positive p token payload front random iv room
  nonempty := wholeSplit_nonempty p token payload front random iv room
  small := wholeSplit_small p token payload front random iv room small
  nodup := wholeSplit_nodup nodup
  decrypts := wholeSplit_decrypts p token payload front random iv room

lemma Offer.flatten_ofSplit {p : Primitives} {token : Token}
    {payload : List UInt8} {front random : RandomHash}
    {iv : FixedBytes aesBlockSize} {size : Nat} {room : 0 < size}
    {small : (payload.length : Int) ≤ resourceMaxSize}
    {nodup : (wholeSplit p size
      (token.encrypt iv (front.bytes ++ payload)) random).mapHashes.Nodup} :
    (Offer.ofSplit p token payload front random iv size room small
      nodup).parts.flatten = token.encrypt iv (front.bytes ++ payload) :=
  @flatten_wholeSplit p size _ random room

section
variable {p : LinkPrimitives} {token : Token} {sender : Link} {env : Env}
  {payload : List UInt8} {freeOnly : Bool} {front : RandomHash} {draws : List RandomHash}

lemma Link.Sends.carries (sends : sender.Sends env payload freeOnly) :
    sender.carries env = true := by
  have free := sends.free
  rw [Link.carries]
  cases constrained : sender.freeOnly with
  | false => rfl
  | true =>
    rw [constrained, Bool.or_true, Bool.true_and, Bool.not_eq_false'] at free
    rw [free]
    rfl

/-- A send that is not refused, on a link with room for parts and with a draw
that tells the parts apart, puts one advertisement under way. -/
lemma Link.Sends.sendResourceWith (sends : sender.Sends env payload freeOnly)
    (keyed : sender.token = some token) (room : 1 ≤ sender.sdu)
    (succeeds : DrawSucceeds p.toPrimitives sender.sdu
      (token.encrypt (env.iv 0) (front.bytes ++ payload)) draws) :
    ∃ (o : Offer p.toPrimitives token) (r : OutgoingResource)
      (outcome : Outcome) (plain : List UInt8),
      sender.sendResourceWith p.toPrimitives env payload freeOnly front
          draws = .ok (.ok (r, outcome)) ∧
        o.payload = payload ∧ o.hash = r.hash ∧ o.parts = r.parts ∧
        Link.Offering o sender 1 outcome.1 ∧ parseAdvert p.toPrimitives plain = some o.advert ∧
        packets outcome.2 = [buildLinkPacket sender .data contextResourceAdv
          (token.encrypt (env.iv 1) plain)] ∧ reports outcome.2 = [] := by
  obtain ⟨⟨random, split⟩, drawn, whole, nodup⟩ := returns_drawSplit room succeeds
  dsimp only at whole nodup
  subst whole
  have size : 0 < sender.sdu.toNat := by omega
  generalize made : Offer.ofSplit p.toPrimitives token payload front random
    (env.iv 0) sender.sdu.toNat size sends.size nodup = o
  generalize stored : outgoingResource p.toPrimitives sender payload
    (token.encrypt (env.iv 0) (front.bytes ++ payload)) random
    (wholeSplit p.toPrimitives sender.sdu.toNat
      (token.encrypt (env.iv 0) (front.bytes ++ payload)) random) = r
  have offers : r.Offers o 1 := by
    subst made stored
    refine ⟨rfl, rfl, ?_, rfl, length_replicate, ?_⟩
    · show ((List.range _).map _) = ((List.range _).map _).map _
      rw [map_map]
      rfl
    rw [Offer.lowMark]
    rfl
  have data : r.data = o.parts.flatten := by
    subst made stored
    rw [Offer.flatten_ofSplit]
    rfl
  have keyedAfter : (sender.putOutgoing r).token = some token := keyed
  obtain ⟨plain, parsed, advertised⟩ := offers.advertise data
    (by subst made stored; rfl) (by subst made stored; rfl) keyedAfter env (env.iv 1)
  have same := ((Link.Continues.refl sender).putOutgoing r).putOutgoing
    { r with advSent := env.now, lastActivity := env.now }
  have left := same.effects_sendLinkPacket sends.carries .data
    contextResourceAdv (token.encrypt (env.iv 1) plain) (some r.hash)
  refine ⟨o, r, ((sender.putOutgoing r).putOutgoing
      { r with advSent := env.now, lastActivity := env.now }).sendLinkPacket
        env .data contextResourceAdv (token.encrypt (env.iv 1) plain) (some r.hash),
    plain, ?_, ?_, offers.hash.symm, offers.parts.symm, ?_, parsed, ?_, ?_⟩
  · have active : ¬ (sender.state ≠ .active ∧ sender.state ≠ .stale) := by
      have active := sends.active
      tauto
    rw [Link.sendResourceWith, sends.free, if_neg Bool.false_ne_true,
      if_neg active, if_neg (not_lt.mpr sends.size), encrypt_keyed keyed]
    dsimp only
    rw [drawn, ok_bind]
    rw [stored, advertised]
    rfl
  · subst made
    rfl
  · refine ⟨same.sendLinkPacket _ _ _ _ _, keyed,
      { r with advSent := env.now, lastActivity := env.now }, ?_,
      { offers with }⟩
    exact (get?_put _ _ _).trans (if_pos offers.hash.symm)
  · rw [left]
    rfl
  rw [left]
  rfl

end

/-! ## The transfer -/

/-- Every payload that is sent on an established link arrives whole and once.
The send puts an advertisement under way; whatever the order in which the
packets of the two directions then arrive, there are at most four for each
part and two more, each of them can be handled, and when none is left the
receiver has concluded the resource with the payload and the sender has been
told of its delivery. Nothing else is reported on the way. -/
theorem resource_transfer_delivers (p : LinkPrimitives) (env : Env)
    (sender receiver : Link) (token : Token) (payload : List UInt8)
    (freeOnly : Bool) (front : RandomHash) (draws : List RandomHash)
    (senderKey : sender.token = some token) (receiverKey : receiver.token = some token)
    (senderRoom : 1 ≤ sender.sdu) (receiverRoom : 1 ≤ receiver.sdu)
    (sends : sender.Sends env payload freeOnly) (draw : DrawSucceeds p.toPrimitives sender.sdu
      (token.encrypt (env.iv 0) (front.bytes ++ payload)) draws)
    (accepts : receiver.accepts payload.length = true) :
    ∃ (r : OutgoingResource) (outcome : Outcome),
      sender.sendResourceWith p.toPrimitives env payload freeOnly front
          draws = .ok (.ok (r, outcome)) ∧ (receiver.incoming.get? r.hash = none →
        (∀ other ∈ receiver.incoming, other.state = .transferring → ∀ part ∈ r.parts,
            other.takePart p.toPrimitives part = .ok none) → ∀ (run : List Delivery) (s : Session),
          ((sessionSystem p (Session.afterSend receiver outcome)).guarded
              Session.carries).execAll (Session.afterSend receiver outcome) run = some s →
            run.length ≤ 4 * r.parts.length + 2 ∧ (∀ d, s.waiting d = true → s.carries d = true →
              (s.deliver p d).isSome = true) ∧ (s.receiverLog = [] ∨
              s.receiverLog = [.received r.hash payload]) ∧
            (s.senderLog = [] ∨ s.senderLog = [.done r.hash .delivered]) ∧
            (s.toReceiver = [] → s.toSender = [] → s.receiverLog = [.received r.hash payload] ∧
                s.senderLog = [.done r.hash .delivered])) := by
  obtain ⟨o, r, outcome, plain, sent, rfl, hash, parts, offering, parsed,
    queued, quiet⟩ := sends.sendResourceWith senderKey senderRoom draw
  refine ⟨r, outcome, sent, ?_⟩
  intro absent others run s executed
  rw [← hash] at absent ⊢
  rw [← parts] at others ⊢
  have accepted : o.AcceptedBy receiver := ⟨receiverRoom, accepts, sends.size⟩
  have ready : Link.Ready o receiver receiver :=
    ⟨.refl receiver, receiverKey, fun other member _ => others other member⟩
  have start : Session.At o sender receiver .advertised (Session.afterSend receiver outcome) := by
    rw [Session.afterSend, queued, quiet]
    exact .advertised offering ready absent parsed
  obtain ⟨stage, at_, length⟩ := start.run accepted executed
  obtain ⟨received, done, all⟩ := at_.logs
  refine ⟨?_, ?_, received, done, all⟩
  · rw [Stage.left] at length
    exact le_trans (le_add_right _ _) length
  intro d waits carries
  obtain ⟨next, _, delivered, _⟩ := at_.step accepted waits carries
  rw [delivered]
  rfl

/-- Three bytes between two links of the usual size. -/
theorem resource_transfer_delivers_three_bytes : ∃ (r : OutgoingResource) (outcome : Outcome),
      (activatedPeer 500).sendResourceWith plainPrimitives.toPrimitives
          quietEnv [1, 2, 3] false (FixedBytes.zero _)
          [FixedBytes.zero _] = .ok (.ok (r, outcome)) ∧ ∀ (run : List Delivery) (s : Session),
        ((sessionSystem plainPrimitives (Session.afterSend (activatedPeer 500) outcome)).guarded
          Session.carries).execAll (Session.afterSend (activatedPeer 500) outcome) run = some s →
          s.toReceiver = [] → s.toSender = [] → s.receiverLog = [.received r.hash [1, 2, 3]] ∧
              s.senderLog = [.done r.hash .delivered] := by
  obtain ⟨r, outcome, sent, delivers⟩ := resource_transfer_delivers
    plainPrimitives quietEnv (activatedPeer 500) (activatedPeer 500)
    plainToken [1, 2, 3] false (FixedBytes.zero _) [FixedBytes.zero _] rfl rfl
    (by decide) (by decide) ⟨by decide, .inl rfl, by decide⟩
    ⟨FixedBytes.zero _, mem_singleton.mpr rfl, by decide +kernel⟩ rfl
  refine ⟨r, outcome, sent, ?_⟩
  intro run s executed
  have empty : ∀ other ∈ (activatedPeer 500).incoming, False := by
    intro other member
    cases member
  exact (delivers rfl (fun other member => (empty other member).elim) run s executed).2.2.2.2

end MeshSat.Rns
