import Mathlib.Data.Rat.Floor
import MeshSat.Library.TransitionSystem
import MeshSat.Rns.Link
import MeshSat.Rns.ResourceLoops

/-!
# What a peer can make the resource code do

The part size of a link, the number of parts of a resource, the number of a page and its hashes are
chosen by the peer. As long as each step meets a condition on them, the tables keep one shape, no
step has a fault and no part table is longer than the size of the resource asks for. A step that
does not has a fault or makes a longer table.
-/

variable {idx : Int}

namespace MeshSat.Rns

open Library Library.Checked Reticulum List Link IncomingResource Int

def Link.partBound (l : Link) (size : Int) : Int := ⌈(size : ℚ) / l.sdu⌉

/-! ## The shape of the tables -/

structure IncomingResource.Shaped (sdu : Int) (r : IncomingResource) : Prop where
  bounded : r.totalParts ≤ ⌈(r.size : ℚ) / sdu⌉
  total : r.totalParts < 2 ^ 63
  parts : (r.parts.length : Int) = r.totalParts
  hashmap : (r.hashmap.length : Int) = r.totalParts
  hashmapSet : (r.hashmapSet.length : Int) = r.totalParts
  height : r.hashHeight = r.hashmapSet.count true
  consecutive : -1 ≤ r.consecutive

/-- The last map hash is looked up only in a map that has one. -/
structure Link.Sound (l : Link) : Prop where
  incoming : ∀ r ∈ l.incoming, r.Shaped l.sdu ∧ 1 ≤ r.hashHeight
  outgoing : ∀ r ∈ l.outgoing, r.Shaped

/-- No part table is longer than the advertised size asks for. -/
def Link.Within (l : Link) (outcome : Outcome) : Prop :=
  ∀ size length, .allocated size length ∈ outcome.2 → length ≤ l.partBound size

/-- What a step keeps. -/
structure Link.Kept (l : Link) (outcome : Outcome) : Prop where
  mtu : outcome.1.mtu = l.mtu
  sound : outcome.1.Sound
  within : l.Within outcome

variable {r : IncomingResource}

lemma IncomingResource.Shaped.height_le {sdu : Int}
    (shaped : r.Shaped sdu) : r.hashHeight ≤ r.totalParts := by
  have counted := count_le_length (a := true) (l := r.hashmapSet)
  rw [shaped.height, ← shaped.hashmapSet]
  exact_mod_cast counted

section
variable {l : Link} {env : Env}

namespace Link

lemma within_nil (l next : Link) : l.Within (next, []) := by
  intro _ _ member
  cases member

lemma Within.append {first second : Link} {left right : List LinkEffect}
    (before : l.Within (first, left)) (after : l.Within (second, right)) :
    l.Within (second, left ++ right) := by
  intro size length member
  rcases mem_append.mp member with inLeft | inRight
  · exact before size length inLeft
  · exact after size length inRight

lemma Kept.refl (sound : l.Sound) : l.Kept (l, []) where
  mtu := rfl
  sound := sound
  within := l.within_nil l

lemma Sound.unchanged (sound : l.Sound) : Returns (.ok (l, [])) l.Kept :=
  returns_ok.mpr (.refl sound)

lemma Kept.append {first second : Outcome} (before : l.Kept first)
    (after : first.1.Kept second) : l.Kept (second.1, first.2 ++ second.2) where
  mtu := after.mtu.trans before.mtu
  sound := after.sound
  within := by
    apply Within.append before.within
    intro size length member
    have bound := after.within size length member
    rwa [partBound, sdu, before.mtu] at bound

section
variable (sound : l.Sound)

include sound

lemma Sound.putIncoming
    (shaped : r.Shaped l.sdu) (mapped : 1 ≤ r.hashHeight) : (l.putIncoming r).Sound where
  incoming := Keyed.forall_mem_put ⟨shaped, mapped⟩ sound.incoming
  outgoing := sound.outgoing

lemma Sound.putOutgoing {r : OutgoingResource} (shaped : r.Shaped) : (l.putOutgoing r).Sound where
  incoming := sound.incoming
  outgoing := Keyed.forall_mem_put shaped sound.outgoing

lemma Sound.deleteIncoming (hash : FullHash) : (l.deleteIncoming hash).Sound where
  incoming := fun r member =>
    sound.incoming r (Keyed.mem_deleteWhere.mp member).1
  outgoing := sound.outgoing

lemma Sound.deleteOutgoing (hash : FullHash) : (l.deleteOutgoing hash).Sound where
  incoming := sound.incoming
  outgoing := fun r member =>
    sound.outgoing r (Keyed.mem_deleteWhere.mp member).1

end

lemma Sound.sendLinkPacket {next : Link} (sound : next.Sound) (same : next.mtu = l.mtu) (env : Env)
    (ptype : PacketType) (context : UInt8) (data : List UInt8) (resource : Option FullHash) :
    l.Kept (next.sendLinkPacket env ptype context data resource) where
  mtu := same
  sound := ⟨sound.incoming, sound.outgoing⟩
  within := by
    intro size length member
    rw [sendLinkPacket_effects] at member
    split at member
    · cases member
    · cases mem_singleton.mp member

lemma Sound.failOutgoing (sound : l.Sound) (r : OutgoingResource)
    (cause : ResourceFailure) : l.Kept (l.failOutgoing r cause) := by
  rw [Link.failOutgoing]
  split
  · exact .refl sound
  refine ⟨rfl, sound.deleteOutgoing r.hash, ?_⟩
  intro size length member
  cases mem_singleton.mp member

lemma Sound.concludeFailed (sound : l.Sound) (r : IncomingResource)
    (cause : ResourceFailure) : l.Kept (l.concludeFailed r cause) := by
  refine ⟨rfl, sound.deleteIncoming r.hash, ?_⟩
  intro size length member
  cases mem_singleton.mp member

end Link

end

/-! ## Sending -/

section
variable {p : Primitives} {l : Link} {env : Env}
variable {r : OutgoingResource} {iv : FixedBytes aesBlockSize} {sdu : Int}
  {enc payload : List UInt8} {draws : List RandomHash} {freeOnly : Bool} {front : RandomHash}

lemma OutgoingResource.Shaped.returns_advertisement (shaped : r.Shaped) :
    Returns (r.advertisement 0) fun _ => True := by
  rw [OutgoingResource.advertisement, hashmapBytes_eq]
  · exact returns_ok.mpr trivial
  · simp
  · rw [resourceHashmapMaxLen]
    omega
  rw [shaped.mapHashes]
  exact min_le_right _ _

lemma Link.Sound.returns_advertise (sound : l.Sound) (shaped : r.Shaped) :
    Returns (l.advertise env iv r) l.Kept := by
  rw [advertise]
  apply shaped.returns_advertisement.bind
  intro adv _
  split
  · exact returns_pure.mpr (sound.failOutgoing r _)
  have noted : { r with
      advSent := env.now, lastActivity := env.now }.Shaped :=
    { shaped with }
  apply returns_pure.mpr
  apply Link.Sound.sendLinkPacket (sound.putOutgoing noted)
  rfl

/-- Some draw gives every part a map hash of its own. -/
def DrawSucceeds (p : Primitives) (sdu : Int) (enc : List UInt8) (draws : List RandomHash) : Prop :=
  ∃ random ∈ draws, (wholeSplit p sdu.toNat enc random).mapHashes.Nodup

lemma drawSplit_eq (positive : 1 ≤ sdu) : drawSplit p sdu enc (random :: draws) =
      if (wholeSplit p sdu.toNat enc random).mapHashes.Nodup then
        .ok (random, wholeSplit p sdu.toNat enc random) else drawSplit p sdu enc draws := by
  have split : splitParts p (sdu.toNat : Int) enc random =
      .ok (if (wholeSplit p sdu.toNat enc random).mapHashes.Nodup then
        some (wholeSplit p sdu.toNat enc random) else none) :=
    splitParts_eq (by omega)
  rw [toNat_of_nonneg (by omega)] at split
  rw [drawSplit, split]
  by_cases different : (wholeSplit p sdu.toNat enc random).mapHashes.Nodup
  · rw [if_pos different, if_pos different]
    rfl
  rw [if_neg different, if_neg different]
  rfl

lemma returns_drawSplit (positive : 1 ≤ sdu) (succeeds : DrawSucceeds p sdu enc draws) :
    Returns (drawSplit p sdu enc draws) fun drawn => drawn.2 = wholeSplit p sdu.toNat enc drawn.1 ∧
    drawn.2.mapHashes.Nodup := by
  induction draws with
  | nil =>
    obtain ⟨_, member, _⟩ := succeeds
    cases member
  | cons random draws induction =>
    rw [drawSplit_eq positive]
    split
    next different =>
      exact returns_ok.mpr ⟨rfl, different⟩
    rename_i different
    apply induction
    obtain ⟨other, member, nodup⟩ := succeeds
    rcases mem_cons.mp member with rfl | later
    · exact (different nodup).elim
    · exact ⟨other, later, nodup⟩

lemma drawSplit_zero (some : enc ≠ []) (draws : List RandomHash) :
    drawSplit p 0 enc draws = .error .endless := by
  induction draws with
  | nil => rfl
  | cons random draws induction =>
    rw [drawSplit, splitParts_zero some, ok_bind]
    exact induction

lemma drawSucceeds_of_returns (some : enc ≠ [])
    (returned : Returns (drawSplit p sdu enc draws) post) :
    1 ≤ sdu ∧ DrawSucceeds p sdu enc draws := by
  induction draws with
  | nil => exact (not_returns_error returned).elim
  | cons random draws induction =>
    rcases lt_trichotomy sdu 0 with negative | rfl | positive
    · rw [drawSplit, splitParts_neg negative some] at returned
      exact (not_returns_error returned).elim
    · rw [drawSplit_zero some] at returned
      exact (not_returns_error returned).elim
    rw [drawSplit_eq (by omega)] at returned
    refine ⟨positive, ?_⟩
    by_cases different : (wholeSplit p sdu.toNat enc random).mapHashes.Nodup
    · exact ⟨random, mem_cons_self, different⟩
    rw [if_neg different] at returned
    obtain ⟨_, other, member, nodup⟩ := induction returned
    exact ⟨other, mem_cons_of_mem _ member, nodup⟩

lemma outgoingResource_shaped (l : Link) (payload enc : List UInt8) (random : RandomHash)
    (size : Nat) :
    (outgoingResource p l payload enc random (wholeSplit p size enc random)).Shaped where
  mapHashes := by
    show ((List.range _).map _).length = ((List.range _).map _).length
    rw [length_map, length_map]
  partSent := length_replicate
  low := le_refl 0
  high := natCast_nonneg _

structure Link.Sends (l : Link) (env : Env) (payload : List UInt8) (freeOnly : Bool) : Prop where
  free : ((freeOnly || l.freeOnly) && !env.freeInterface l.iface) = false
  active : l.state = .active ∨ l.state = .stale
  size : (payload.length : Int) ≤ resourceMaxSize

/-- A send that is not refused has parts, and a draw that tells them apart. -/
def Link.SendFits (p : Primitives) (l : Link) (env : Env)
    (payload : List UInt8) (freeOnly : Bool) (front : RandomHash)
    (draws : List RandomHash) : Prop :=
  l.Sends env payload freeOnly → ∀ enc, l.encrypt (env.iv 0) (front.bytes ++ payload) = .ok enc →
      1 ≤ l.sdu ∧ DrawSucceeds p l.sdu enc draws

lemma Link.encrypt_ne_nil (encrypted : l.encrypt iv plain = .ok ct) : ct ≠ [] := by
  rw [encrypt] at encrypted
  cases key : l.token with
  | none =>
    rw [key] at encrypted
    cases encrypted
  | some token =>
    rw [key] at encrypted
    cases encrypted
    have length := token.length_encrypt iv plain
    intro empty
    rw [empty, length_nil] at length
    omega

lemma Link.sendResourceWith_cases (p : Primitives) (l : Link) (env : Env)
    (payload : List UInt8) (freeOnly : Bool) (front : RandomHash) (draws : List RandomHash) :
    (∃ cause, l.sendResourceWith p env payload freeOnly front draws = .ok (.error cause) ∧
      l.SendFits p env payload freeOnly front draws) ∨ (l.Sends env payload freeOnly ∧ ∃ enc,
      l.encrypt (env.iv 0) (front.bytes ++ payload) = .ok enc ∧
      l.sendResourceWith p env payload freeOnly front draws = do
        let (random, split) ← drawSplit p l.sdu enc draws
        let r := outgoingResource p l payload enc random split
        let outcome ← (l.putOutgoing r).advertise env (env.iv 1) r
        pure (.ok (r, outcome))) := by
  rw [sendResourceWith]
  split
  · rename_i paid
    refine .inl ⟨_, rfl, fun sends => ?_⟩
    rw [sends.free] at paid
    cases paid
  rename_i free
  split
  · rename_i inactive
    refine .inl ⟨_, rfl, fun sends => ?_⟩
    rcases sends.active with active | stale
    · exact (inactive.1 active).elim
    · exact (inactive.2 stale).elim
  rename_i active
  split
  · rename_i large
    refine .inl ⟨_, rfl, fun sends => ?_⟩
    exact (not_lt.mpr sends.size large).elim
  rename_i small
  cases encrypted : l.encrypt (env.iv 0) (front.bytes ++ payload) with
  | error cause =>
    refine .inl ⟨cause, rfl, fun _ enc other => ?_⟩
    rw [encrypted] at other
    cases other
  | ok enc =>
    refine .inr ⟨⟨?_, ?_, not_lt.mp small⟩, enc, rfl, rfl⟩
    · exact eq_false_of_ne_true free
    · tauto

lemma Link.Sound.returns_sendResourceWith (sound : l.Sound)
    (fits : l.SendFits p env payload freeOnly front draws) :
    Returns (l.sendResourceWith p env payload freeOnly front draws)
      fun result => ∀ r outcome, result = .ok (r, outcome) → l.Kept outcome := by
  rcases l.sendResourceWith_cases p env payload freeOnly front draws with
    ⟨cause, refused, _⟩ | ⟨sends, enc, encrypted, sent⟩
  · rw [refused]
    apply returns_ok.mpr
    intro r outcome same
    cases same
  obtain ⟨positive, succeeds⟩ := fits sends enc encrypted
  rw [sent]
  apply (returns_drawSplit positive succeeds).bind
  intro ⟨random, split⟩ ⟨whole, _⟩
  rw [show split = wholeSplit p l.sdu.toNat enc random from whole, returns_bind]
  have shaped := outgoingResource_shaped (p := p) l payload enc random l.sdu.toNat
  apply ((sound.putOutgoing shaped).returns_advertise shaped).mono
  intro outcome kept
  apply returns_pure.mpr
  intro r other same
  cases same
  exact { kept with }

lemma Link.Sends.endless (sends : l.Sends env payload freeOnly)
    (encrypted : l.encrypt (env.iv 0) (front.bytes ++ payload) = .ok enc) (zero : l.sdu = 0) :
    l.sendResourceWith p env payload freeOnly front draws = .error .endless := by
  rcases l.sendResourceWith_cases p env payload freeOnly front draws with
    ⟨_, _, fits⟩ | ⟨_, other, otherEncrypted, sent⟩
  · have positive := (fits sends enc encrypted).1
    omega
  rw [sent, zero, drawSplit_zero (encrypt_ne_nil otherEncrypted)]
  rfl

lemma Link.sendFits_of_returns
    (returned : Returns (l.sendResourceWith p env payload freeOnly front draws) post) :
    l.SendFits p env payload freeOnly front draws := by
  rcases l.sendResourceWith_cases p env payload freeOnly front draws with
    ⟨_, _, fits⟩ | ⟨_, enc, encrypted, sent⟩
  · exact fits
  intro _ other otherEncrypted
  rw [encrypted] at otherEncrypted
  cases otherEncrypted
  rw [sent, returns_bind] at returned
  exact drawSucceeds_of_returns (encrypt_ne_nil encrypted) returned

end

/-! ## Serving -/

section
variable {l : Link} {env : Env}
variable {r : OutgoingResource}

lemma Serving.Of.returns_rounds {s : Serving} (served : s.Of r) (shaped : r.Shaped)
    {want : List MapHash} {low high : Int} (start : 0 ≤ low) (inside : high ≤ r.parts.length) :
    Returns (forRange low high (servePart want) s) (Serving.Of r) := by
  apply returns_forRange fun _ => Serving.Of r
  · exact served
  · intro i s above below served
    apply (served.returns_servePart shaped (by omega) (by omega)).mono
    intro next ⟨after, same, keeps, _⟩
    rw [same]
    exact keeps
  intro s served
  exact served

lemma returns_lastMapIndex {low high : Int} {lastMap : MapHash} (start : 0 ≤ low)
    (inside : high ≤ r.mapHashes.length) :
    Returns (lastMapIndex r low high lastMap) fun idx => low ≤ idx ∧ idx ≤ max low high := by
  apply returns_forRange fun i idx => idx = i
  · rfl
  · intro i idx above below same
    subst same
    apply returns_fetch (by omega) (by omega)
    intro hash _
    apply returns_pure.mpr
    split
    · show low ≤ idx + 1 ∧ idx + 1 ≤ max low high
      omega
    · rfl
  intro idx same
  omega

lemma OutgoingResource.Shaped.returns_hashmapUpdatePlain (shaped : r.Shaped) (low : 0 ≤ idx)
    (high : idx ≤ r.parts.length) :
    Returns (hashmapUpdatePlain r idx) fun _ => True := by
  rw [hashmapUpdatePlain]
  split
  · exact returns_ok.mpr trivial
  rename_i whole
  have multiple : idx.tdiv resourceHashmapMaxLen * resourceHashmapMaxLen =
      idx := by
    have divided := mul_tdiv_add_tmod idx resourceHashmapMaxLen
    rw [not_not.mp whole, add_zero, mul_comm] at divided
    exact divided
  rw [returns_bind, hashmapBytes_eq]
  · apply returns_ok.mpr
    split
    · exact returns_pure.mpr trivial
    · exact returns_pure.mpr trivial
  · omega
  · rw [add_mul, multiple, resourceHashmapMaxLen]
    omega
  rw [shaped.mapHashes]
  exact min_le_right _ _

lemma Link.Sound.sendParts (env : Env) (hash : FullHash) {parts : List (List UInt8)} :
    ∀ {l : Link}, l.Sound → l.Kept (l.sendParts env hash parts) := by
  induction parts with
  | nil =>
    intro l sound
    exact .refl sound
  | cons part parts induction =>
    intro l sound
    have first := sound.sendLinkPacket (l := l) rfl env .data contextResource part (some hash)
    exact first.append (induction first.sound)

lemma Link.Sound.sendHMU (sound : l.Sound) (env : Env) (hash : FullHash)
    (hmu : Option (List UInt8)) : l.Kept (l.sendHMU env hash hmu) := by
  cases hmu with
  | none => exact .refl sound
  | some hmu =>
    rw [Link.sendHMU]
    split
    · exact .refl sound
    · exact sound.sendLinkPacket rfl env _ _ _ _

lemma Link.Sound.answer (sound : l.Sound) (shaped : r.Shaped) (toSend : List (List UInt8))
    (hmu : Option (List UInt8)) : l.Kept (l.answer env r toSend hmu) := by
  have sent : r.sentAll.Shaped := by
    rw [OutgoingResource.sentAll]
    split
    · exact { shaped with }
    · exact shaped
  have parts : (l.putOutgoing r.sentAll).Kept
      ((l.putOutgoing r.sentAll).sendParts env r.hash toSend) :=
    (sound.putOutgoing sent).sendParts env r.hash
  have kept := parts.append (parts.sound.sendHMU env r.hash hmu)
  exact { kept with }

lemma Link.Sound.returns_serve {request : Request} (sound : l.Sound) (shaped : r.Shaped) :
    Returns (l.serve env r request) l.Kept := by
  have begun : { r with
      rtt := if r.rtt = 0 then env.now - r.advSent else r.rtt
      state := .transferring
      lastActivity := env.now }.Shaped :=
    { shaped with }
  have fresh : (⟨[], { r with
      rtt := if r.rtt = 0 then env.now - r.advSent else r.rtt
      state := .transferring
      lastActivity := env.now }⟩ : Serving).Of _ :=
    ⟨rfl, rfl, rfl, rfl, rfl, shaped.partSent⟩
  have start := shaped.low
  have reach := shaped.high
  rw [serve]
  apply (fresh.returns_rounds begun start (min_le_right _ _)).bind
  intro s served
  have kept := served.shaped begun
  cases request.lastMap with
  | none => exact returns_pure.mpr (sound.answer kept _ _)
  | some lastMap =>
    have inReach : min (r.recvMinHeight + resourceCollisionGuard)
        r.parts.length ≤ (s.resource.mapHashes.length : Int) := by
      rw [kept.mapHashes, served.parts]
      exact min_le_right _ _
    apply (returns_lastMapIndex start inReach).bind
    intro idx ⟨low, high⟩
    have inside : idx ≤ (s.resource.parts.length : Int) := by
      rw [show s.resource.parts = r.parts from served.parts]
      omega
    have moved : { s.resource with
        recvMinHeight := max (idx - 1 - resourceWindowMaxFast) 0 }.Shaped := by
      refine ⟨kept.mapHashes, kept.partSent, le_max_right _ _, ?_⟩
      show max (idx - 1 - 75) 0 ≤ (s.resource.parts.length : Int)
      omega
    apply (moved.returns_hashmapUpdatePlain (by omega) inside).bind
    intro hmu _
    cases hmu with
    | error cause => exact returns_pure.mpr (sound.failOutgoing _ cause)
    | ok hmu => exact returns_pure.mpr (sound.answer moved _ _)

lemma returns_parseRequest (plain : List UInt8) : Returns (parseRequest plain) fun _ => True := by
  rw [parseRequest]
  split
  · exact returns_ok.mpr trivial
  rename_i long
  have length : 33 ≤ plain.length := not_lt.mp long
  apply returns_fetch (by omega) (by omega)
  intro flag _
  split
  · split
    · exact returns_pure.mpr trivial
    rename_i longer
    have length : 37 ≤ plain.length := not_lt.mp longer
    apply returns_slice (by omega) (by omega) (by omega)
    apply returns_slice (by omega) (by omega) (by omega)
    apply returns_slice (by omega) (by omega) (by omega)
    exact returns_pure.mpr trivial
  apply returns_slice (by omega) (by omega) (by omega)
  apply returns_slice (by omega) (by omega) (by omega)
  exact returns_pure.mpr trivial

lemma Link.Sound.returns_handleResourceRequest (sound : l.Sound) (plain : List UInt8) :
    Returns (l.handleResourceRequest env plain) l.Kept := by
  rw [handleResourceRequest]
  apply (returns_parseRequest plain).bind
  intro request _
  cases request with
  | none => exact sound.unchanged
  | some request =>
    dsimp only
    cases found : l.outgoing.get? request.hash with
    | none => exact sound.unchanged
    | some r => exact sound.returns_serve (sound.outgoing r (Keyed.mem_of_get? found))

lemma Link.Sound.returns_handleResourceProof (sound : l.Sound) (data : List UInt8) :
    Returns (l.handleResourceProof env data) l.Kept := by
  rw [handleResourceProof]
  split
  · exact sound.unchanged
  rename_i sized
  have length : data.length = 64 := not_not.mp sized
  apply returns_slice (by omega) (by omega) (by omega)
  apply returns_slice (by omega) (by omega) (by omega)
  split
  · exact sound.unchanged
  rename_i r _
  split
  · exact sound.unchanged
  have deleted := sound.deleteOutgoing r.hash
  refine returns_pure.mpr ⟨rfl, ⟨deleted.incoming, deleted.outgoing⟩, ?_⟩
  intro size length member
  cases mem_singleton.mp member

end

/-! ## Receiving -/

variable {iv : FixedBytes aesBlockSize}

section
variable {p : Primitives} {l : Link} {env : Env} {sdu : Int}
variable {r : IncomingResource} {segment : Int} {a : Advert} {plain : List UInt8}

namespace IncomingResource

lemma Shaped.setHash (shaped : r.Shaped sdu) {set : Bool}
    (found : r.hashmapSet[idx.toNat]? = some set) (mh : MapHash) : { r with
      hashHeight := if set then r.hashHeight else r.hashHeight + 1
      hashmap := r.hashmap.set idx.toNat mh
      hashmapSet := r.hashmapSet.set idx.toNat true }.Shaped sdu :=
  { shaped with
    hashmap := by
      rw [length_set]
      exact shaped.hashmap
    hashmapSet := by
      rw [length_set]
      exact shaped.hashmapSet
    height := by
      obtain ⟨inside, rfl⟩ := List.getElem?_eq_some_iff.mp found
      have counted := count_set (a := true) (b := true) inside
      have height := shaped.height
      cases old : r.hashmapSet[idx.toNat] with
      | true =>
        have listed : 0 < r.hashmapSet.count true := by
          rw [count_pos_iff, ← old]
          exact getElem_mem inside
        rw [old] at counted
        simp only [BEq.rfl, if_true] at counted ⊢
        omega
      | false =>
        rw [old] at counted
        simp only [Bool.false_beq, Bool.not_true, BEq.rfl,
          Bool.false_eq_true, if_false, if_true] at counted ⊢
        omega }

lemma Shaped.returns_setHashes {hashes : List MapHash} : ∀ {i : Int} {r : IncomingResource},
    r.Shaped sdu → hashes = [] ∨
    0 ≤ pageIndex i segment → Returns (r.setHashes segment i hashes) fun next => next.Shaped sdu ∧
    r.hashHeight ≤ next.hashHeight ∧
    (hashes ≠ [] → pageIndex i segment < r.totalParts → 1 ≤ next.hashHeight) := by
  induction hashes with
  | nil =>
    intro i r shaped _
    exact returns_ok.mpr ⟨shaped, le_refl _, fun some => absurd rfl some⟩
  | cons mh rest induction =>
    intro i r shaped starts
    have low : 0 ≤ pageIndex i segment := by
      rcases starts with none | low
      · cases none
      · exact low
    have sized := shaped.hashmapSet
    have mapped := shaped.hashmap
    have total := shaped.total
    rw [setHashes]
    split
    · rename_i beyond
      exact returns_ok.mpr ⟨shaped, le_refl _, fun _ inside => by omega⟩
    rename_i inside
    apply returns_fetch low (by omega)
    intro set found
    apply returns_store low (by omega)
    apply returns_store low (by omega)
    have next := pageIndex_succ low (by omega)
    have after := shaped.setHash found mh
    have counted : 1 ≤ (r.hashmapSet.set (pageIndex i segment).toNat true).count true := by
      apply count_pos_iff.mpr
      apply mem_set
      omega
    apply (induction after (.inr (by omega))).mono
    intro last ⟨kept, higher, _⟩
    have height := after.height
    dsimp only at height higher
    refine ⟨kept, ?_, fun _ _ => ?_⟩
    · split at higher
      · exact higher
      · omega
    rw [height] at higher
    omega

lemma Shaped.returns_hashmapUpdate (shaped : r.Shaped sdu) {hm : List UInt8}
    (starts : hm.length < resourceMapHashLen ∨ 0 ≤ pageIndex 0 segment) :
    Returns (r.hashmapUpdate segment hm) fun next =>
      next.Shaped sdu ∧ r.hashHeight ≤ next.hashHeight ∧
      (resourceMapHashLen ≤ hm.length →
        pageIndex 0 segment < r.totalParts → 1 ≤ next.hashHeight) := by
  rw [hashmapUpdate]
  apply (shaped.returns_setHashes (starts.imp_left splitMapHashes_eq_nil.mpr)).bind
  intro next ⟨kept, higher, mapped⟩
  refine returns_pure.mpr ⟨?_, higher, fun long => mapped ?_⟩
  · exact { kept with }
  rw [ne_eq, splitMapHashes_eq_nil]
  omega

lemma not_returns_setHashes (total : 0 ≤ r.totalParts)
    (negative : pageIndex i segment < 0) : ¬ Returns (r.setHashes segment i (mh :: rest)) post := by
  rw [setHashes, if_neg (by omega), fetch_of_neg negative]
  exact not_returns_error

lemma Shaped.returns_requestPart (shaped : r.Shaped sdu) (low : 0 ≤ pn) (high : pn < r.totalParts)
    (w : Window) : Returns (requestPart r pn w) (Next.Meets (fun _ => True) fun _ => True) := by
  have parts := shaped.parts
  have sized := shaped.hashmapSet
  have mapped := shaped.hashmap
  rw [requestPart]
  split
  · exact returns_ok.mpr trivial
  apply returns_fetch low (by omega)
  intro part _
  split
  · exact returns_pure.mpr trivial
  apply returns_fetch low (by omega)
  intro set _
  split
  · exact returns_pure.mpr trivial
  apply returns_fetch low (by omega)
  intro mh _
  exact returns_pure.mpr trivial

lemma Shaped.returns_nextRequest (shaped : r.Shaped sdu) (mapped : 1 ≤ r.hashHeight) :
    Returns r.nextRequest fun asked => asked.1.Shaped sdu ∧ 1 ≤ asked.1.hashHeight := by
  have sized := shaped.hashmap
  have height := shaped.height_le
  have start := shaped.consecutive
  have rounds : Returns (forRange (r.consecutive + 1) r.totalParts
      (requestPart r) ⟨[], 0, false⟩) fun _ => True := by
    apply returns_forRange fun _ _ => True
    · trivial
    · intro pn w above below _
      exact shaped.returns_requestPart (by omega) below w
    intro w _
    trivial
  rw [nextRequest]
  apply rounds.bind
  intro w _
  have front : Returns (r.requestFront w.exhausted) fun _ => True := by
    rw [requestFront]
    split
    · apply returns_fetch (by omega) (by omega)
      intro last _
      exact returns_pure.mpr trivial
    · exact returns_pure.mpr trivial
  apply front.bind
  intro front _
  refine returns_pure.mpr ⟨?_, mapped⟩
  exact { shaped with }

end IncomingResource

lemma Link.Sound.returns_requestNext (sound : l.Sound) (shaped : r.Shaped l.sdu)
    (mapped : 1 ≤ r.hashHeight) : Returns (l.requestNext env iv r) l.Kept := by
  rw [requestNext]
  split
  · exact returns_ok.mpr ⟨rfl, sound.putIncoming shaped mapped, l.within_nil _⟩
  apply (shaped.returns_nextRequest mapped).bind
  intro ⟨asked, data⟩ ⟨kept, height⟩
  have noted : { asked with
      lastActivity := env.now, reqSent := env.now }.Shaped l.sdu :=
    { kept with }
  have put := sound.putIncoming noted height
  dsimp only
  split
  · exact returns_pure.mpr ⟨rfl, put, l.within_nil _⟩
  apply returns_pure.mpr
  apply put.sendLinkPacket
  rfl

lemma length_replicate_toNat {count : Int} (positive : 0 < count) :
    ((List.replicate count.toNat entry).length : Int) = count := by
  rw [length_replicate]
  exact toNat_of_nonneg positive.le

lemma newIncoming_shaped (positive : 0 < a.n.toInt)
    (bound : a.n.toInt ≤ ⌈(a.t.toInt : ℚ) / sdu⌉) : (newIncoming env a a.n.toInt).Shaped sdu where
  bounded := bound
  total := a.n.toInt_lt
  parts := length_replicate_toNat positive
  hashmap := length_replicate_toNat positive
  hashmapSet := length_replicate_toNat positive
  height := by
    show (0 : Int) = (List.count true (List.replicate _ false) : Nat)
    rw [count_replicate]
    rfl
  consecutive := le_refl (-1)

lemma not_returns_nextRequest (positive : 0 < a.n.toInt) :
    ¬ Returns (newIncoming env a a.n.toInt).nextRequest post := by
  obtain ⟨count, total⟩ : ∃ count : Nat, a.n.toInt.toNat = count + 1 :=
    ⟨a.n.toInt.toNat - 1, by omega⟩
  have first : requestPart (newIncoming env a a.n.toInt) 0 ⟨[], 0, false⟩ =
      .ok (.stop ⟨[], 0, true⟩) := by
    have part : fetch (newIncoming env a a.n.toInt).parts 0 = .ok none := by
      apply fetch_zero
      show (List.replicate a.n.toInt.toNat none)[0]? = some none
      rw [total]
      rfl
    have set : fetch (newIncoming env a a.n.toInt).hashmapSet 0 = .ok false := by
      apply fetch_zero
      show (List.replicate a.n.toInt.toNat false)[0]? = some false
      rw [total]
      rfl
    rw [requestPart, part, ok_bind, set]
    rfl
  have rounds : forRange ((newIncoming env a a.n.toInt).consecutive + 1)
      (newIncoming env a a.n.toInt).totalParts
      (requestPart (newIncoming env a a.n.toInt)) ⟨[], 0, false⟩ = .ok ⟨[], 0, true⟩ := by
    show Checked.rounds _ (a.n.toInt - 0).toNat 0 _ = _
    rw [sub_zero, total, Checked.rounds, first]
  rw [nextRequest, rounds, ok_bind, requestFront, if_pos rfl, fetch_of_neg]
  · exact not_returns_error
  show (0 : Int) - 1 < 0
  decide

/-- The tables an advertisement asks for fit its size, and its map is not
empty. -/
structure Link.AdvertFits (l : Link) (a : Advert) : Prop where
  sdu : 1 ≤ l.sdu
  bound : a.n.toInt ≤ l.partBound a.t.toInt
  mapped : l.incoming.get? (FixedBytes.copy _ a.h) = none → resourceMapHashLen ≤ a.hm.length

lemma Advert.positive (valid : a.valid = true) : 0 < a.n.toInt ∧ 0 < a.t.toInt := by
  simp only [Advert.valid, Bool.and_eq_true, decide_eq_true_eq] at valid
  exact ⟨valid.1.1.2, valid.1.2⟩

lemma Link.Sound.returns_acceptAdvert (sound : l.Sound) (valid : a.valid = true)
    (fits : l.AdvertFits a) : Returns (l.acceptAdvert env a) l.Kept := by
  have one := fits.sdu
  have total := (Advert.positive valid).1
  have shaped : (newIncoming env a a.n.toInt).Shaped l.sdu := newIncoming_shaped total fits.bound
  have allocated : l.Within (l, [.allocated a.t.toInt a.n.toInt]) := by
    intro size length member
    cases mem_singleton.mp member
    exact fits.bound
  rw [acceptAdvert, incomingResource_eq (by omega), ok_bind]
  split
  · exact returns_pure.mpr ⟨rfl, sound, allocated⟩
  rename_i absent
  have first : pageIndex 0 0 = 0 := rfl
  apply (shaped.returns_hashmapUpdate (.inr first.ge)).bind
  intro r ⟨kept, _, mapped⟩
  apply (sound.returns_requestNext kept (mapped (fits.mapped absent) total)).bind
  intro ⟨next, effects⟩ keeps
  exact returns_pure.mpr ⟨keeps.mtu, keeps.sound, allocated.append keeps.within⟩

lemma Link.advertFits_of_returns (valid : a.valid = true)
    (returned : Returns (l.acceptAdvert env a) l.Within) : l.AdvertFits a := by
  have total := (Advert.positive valid).1
  have size := (Advert.positive valid).2
  have nonzero : l.sdu ≠ 0 := by
    intro zero
    rw [acceptAdvert, incomingResource, quotient, if_pos zero] at returned
    exact not_returns_error returned
  rw [acceptAdvert, incomingResource_eq nonzero, ok_bind] at returned
  have allocated : a.n.toInt ≤ l.partBound a.t.toInt := by
    split at returned
    · exact returns_pure.mp returned _ _ mem_cons_self
    obtain ⟨r, _, requested⟩ := returns_bind.mp returned
    obtain ⟨⟨next, effects⟩, _, finished⟩ := returns_bind.mp requested
    exact returns_pure.mp finished _ _ mem_cons_self
  have bounded := Int.le_ceil_iff.mp allocated
  refine ⟨?_, allocated, fun absent => ?_⟩
  · -- A negative part size asks for no parts at all.
    by_contra negative
    have below : (l.sdu : ℚ) < 0 := by exact_mod_cast lt_of_le_of_ne (by omega) nonzero
    have none : ((a.t.toInt : ℚ)) / l.sdu ≤ 0 :=
      div_nonpos_of_nonneg_of_nonpos (by exact_mod_cast size.le) below.le
    have some : (1 : ℚ) ≤ (a.n.toInt : ℚ) := by exact_mod_cast total
    linarith
  by_contra short
  have unmapped : (newIncoming env a a.n.toInt).hashmapUpdate 0 a.hm =
      .ok (newIncoming env a a.n.toInt) := by
    rw [hashmapUpdate, splitMapHashes_eq_nil.mpr (not_le.mp short)]
    rfl
  have unknown : l.incoming.get? (newIncoming env a a.n.toInt).hash =
      none := absent
  have asks : ¬ ((newIncoming env a a.n.toInt).state ≠ .transferring ∨
      (newIncoming env a a.n.toInt).waitingHMU = true) := by
    simp [newIncoming]
  rw [unknown] at returned
  dsimp only at returned
  rw [unmapped, ok_bind, returns_bind, requestNext, if_neg asks, returns_bind] at returned
  exact not_returns_nextRequest total returned

/-- The page starts in the table or after it, or has no hashes. -/
def PageFits (segment : Int) (hm : List UInt8) : Prop :=
  hm.length < resourceMapHashLen ∨ 0 ≤ pageIndex 0 segment

/-- A decrypted payload that is a page of a known resource fits. -/
def Link.UpdateFits (p : Primitives) (l : Link) (plain : List UInt8) : Prop :=
  fullHashLen < plain.length → ∀ r, l.incoming.get? (FixedBytes.copy _ (plain.take fullHashLen)) =
        some r → ∀ segment hm, parseHMU p (plain.drop fullHashLen) = some (segment, hm) →
        PageFits segment hm

lemma Link.handleHMU_cases (p : Primitives) (l : Link) (env : Env) (plain : List UInt8) :
    (l.handleHMU p env plain = .ok (l, []) ∧ l.UpdateFits p plain) ∨
    ∃ r segment hm, fullHashLen < plain.length ∧
      l.incoming.get? (FixedBytes.copy _ (plain.take fullHashLen)) = some r ∧
      parseHMU p (plain.drop fullHashLen) = some (segment, hm) ∧ l.handleHMU p env plain =
        (r.hashmapUpdate segment hm >>= l.requestNext env (env.iv 0)) := by
  rw [handleHMU]
  split
  · rename_i short
    exact .inl ⟨rfl, fun long => absurd long (not_lt.mpr short)⟩
  rename_i long
  have length : 32 < plain.length := not_le.mp long
  have hash : slice plain 0 32 = .ok (plain.take fullHashLen) := by
    rw [slice, if_pos (by omega)]
    rfl
  have body : slice plain 32 plain.length = .ok (plain.drop fullHashLen) := by
    rw [slice, if_pos (by omega), toNat_natCast, take_length]
    rfl
  rw [hash, ok_bind, body, ok_bind]
  cases found : l.incoming.get? (FixedBytes.copy _ (plain.take fullHashLen)) with
  | none =>
    refine .inl ⟨rfl, fun _ r other => ?_⟩
    rw [found] at other
    cases other
  | some r =>
    cases parsed : parseHMU p (plain.drop fullHashLen) with
    | none =>
      refine .inl ⟨rfl, fun _ _ _ segment hm other => ?_⟩
      rw [parsed] at other
      cases other
    | some entry => exact .inr ⟨r, entry.1, entry.2, length, rfl, rfl, rfl⟩

lemma Link.Sound.returns_handleHMU (sound : l.Sound) (fits : l.UpdateFits p plain) :
    Returns (l.handleHMU p env plain) l.Kept := by
  rcases l.handleHMU_cases p env plain with
    ⟨same, _⟩ | ⟨r, segment, hm, long, found, parsed, same⟩
  · rw [same]
    exact sound.unchanged
  have known := sound.incoming r (Keyed.mem_of_get? found)
  rw [same]
  apply (known.1.returns_hashmapUpdate (fits long r found segment hm parsed)).bind
  intro next ⟨kept, higher, _⟩
  exact sound.returns_requestNext kept (known.2.trans higher)

lemma Link.Sound.updateFits_of_returns (sound : l.Sound)
    (returned : Returns (l.handleHMU p env plain) post) : l.UpdateFits p plain := by
  rcases l.handleHMU_cases p env plain with
    ⟨_, fits⟩ | ⟨r, segment, hm, long, found, parsed, same⟩
  · exact fits
  intro _ other otherFound otherSegment otherHm otherParsed
  rw [parsed] at otherParsed
  cases otherParsed
  by_contra unfit
  obtain ⟨some, negative⟩ := not_or.mp unfit
  have total := (sound.incoming r (Keyed.mem_of_get? found)).1.parts
  cases hashes : splitMapHashes hm with
  | nil => exact some (splitMapHashes_eq_nil.mp hashes)
  | cons mh rest =>
    rw [same, returns_bind, hashmapUpdate, hashes, returns_bind] at returned
    exact r.not_returns_setHashes (by omega) (by omega) returned

/-! ## Parts -/

lemma IncomingResource.Shaped.returns_matchPart (shaped : r.Shaped sdu) (low : 0 ≤ idx)
    (high : idx < r.totalParts) : Returns (matchPart r mh idx none)
      (Next.Meets (· = none) fun found =>
        ∀ idx, found = some idx → 0 ≤ idx ∧ idx < r.totalParts) := by
  have parts := shaped.parts
  have sized := shaped.hashmapSet
  have mapped := shaped.hashmap
  rw [matchPart]
  apply returns_fetch low (by omega)
  intro set _
  split
  · exact returns_pure.mpr rfl
  apply returns_fetch low (by omega)
  intro hash _
  split
  · exact returns_pure.mpr rfl
  apply returns_fetch low (by omega)
  intro part _
  split
  · exact returns_pure.mpr rfl
  apply returns_pure.mpr
  intro other same
  cases same
  exact ⟨low, high⟩

lemma returns_advanceConsecutive {parts : List (Option (List UInt8))} {totalParts consecutive : Int}
    (sized : (parts.length : Int) = totalParts) (start : -1 ≤ consecutive) :
    Returns (advanceConsecutive parts totalParts consecutive) (-1 ≤ ·) := by
  apply returns_forRange fun _ c => -1 ≤ c
  · exact start
  · intro cp c above below invariant
    apply returns_fetch (by omega) (by omega)
    intro part _
    apply returns_pure.mpr
    split
    · show -1 ≤ cp
      omega
    · exact invariant
  intro c last
  exact last

lemma IncomingResource.Shaped.returns_takePart (shaped : r.Shaped sdu) (part : List UInt8) :
    Returns (r.takePart p part) fun taken => ∀ next, taken = some next → next.Shaped sdu ∧
    next.hashHeight = r.hashHeight := by
  have start := shaped.consecutive
  have sized := shaped.parts
  have search : Returns (forRange (r.consecutive + 1)
      (min (r.consecutive + 1 + r.window) r.totalParts)
      (matchPart r (mapHash p part r.randomHash)) none) fun found =>
        ∀ idx, found = some idx → 0 ≤ idx ∧ idx < r.totalParts := by
    apply returns_forRange fun _ found => found = none
    · rfl
    · intro idx found above below none
      subst none
      exact shaped.returns_matchPart (by omega) (by omega)
    intro found none idx same
    rw [none] at same
    cases same
  rw [takePart]
  apply search.bind
  intro found inside
  cases found with
  | none =>
    apply returns_pure.mpr
    intro next same
    cases same
  | some idx =>
    obtain ⟨low, high⟩ := inside idx rfl
    apply returns_store low (by omega)
    have stored : ((r.parts.set idx.toNat (copyPart part)).length : Int) = r.totalParts := by
      rw [length_set]
      exact sized
    apply (returns_advanceConsecutive stored start).bind
    intro consecutive least
    apply returns_pure.mpr
    intro next same
    cases same
    exact ⟨⟨shaped.bounded, shaped.total, stored, shaped.hashmap,
      shaped.hashmapSet, shaped.height, least⟩, rfl⟩

lemma Link.Sound.assemble (sound : l.Sound) (r : IncomingResource) :
    l.Kept (l.assemble p env r) := by
  rw [Link.assemble]
  split
  · exact sound.concludeFailed r _
  rename_i data _
  have sent : l.Kept (l.sendLinkPacket env .proof contextResourcePRF
      (r.hash.bytes ++ (resourceProof p data r.hash).bytes)
        (some r.hash)) := sound.sendLinkPacket rfl _ _ _ _ _
  refine ⟨rfl, sent.sound.deleteIncoming r.hash, ?_⟩
  apply Link.Within.append sent.within
  intro size length member
  cases mem_singleton.mp member

lemma IncomingResource.growWindow_fields (r : IncomingResource) :
    r.growWindow.totalParts = r.totalParts ∧ r.growWindow.size = r.size ∧
      r.growWindow.parts = r.parts ∧ r.growWindow.hashmap = r.hashmap ∧
      r.growWindow.hashmapSet = r.hashmapSet ∧ r.growWindow.hashHeight = r.hashHeight ∧
      r.growWindow.consecutive = r.consecutive := by
  rw [growWindow]
  split
  · exact ⟨rfl, rfl, rfl, rfl, rfl, rfl, rfl⟩
  · exact ⟨rfl, rfl, rfl, rfl, rfl, rfl, rfl⟩

section
variable (sound : l.Sound)

include sound

namespace Link.Sound

lemma returns_afterPart (shaped : r.Shaped l.sdu)
    (mapped : 1 ≤ r.hashHeight) : Returns (l.afterPart p env r) l.Kept := by
  have active : { r with lastActivity := env.now, retries := 0 }.Shaped l.sdu :=
    { shaped with }
  rw [afterPart]
  split
  · exact returns_ok.mpr (sound.assemble _)
  split
  · obtain ⟨total, size, parts, hashmap, hashmapSet, height, consecutive⟩ :=
      { r with lastActivity := env.now, retries := 0 }.growWindow_fields
    apply sound.returns_requestNext
    · constructor
      · rw [total, size]
        exact active.bounded
      · rw [total]
        exact active.total
      · rw [parts, total]
        exact active.parts
      · rw [hashmap, total]
        exact active.hashmap
      · rw [hashmapSet, total]
        exact active.hashmapSet
      · rw [height, hashmapSet]
        exact active.height
      rw [consecutive]
      exact active.consecutive
    rw [height]
    exact mapped
  · exact returns_ok.mpr ⟨rfl, sound.putIncoming active mapped, l.within_nil _⟩

lemma returns_receivePartOf (part : List UInt8)
    (known : ∀ r ∈ cands, r ∈ l.incoming) : Returns (l.receivePartOf p env part cands) l.Kept := by
  induction cands with
  | nil => exact sound.unchanged
  | cons r rest induction =>
    have others := induction fun other member =>
      known other (mem_cons_of_mem _ member)
    obtain ⟨shaped, mapped⟩ := sound.incoming r (known r mem_cons_self)
    rw [receivePartOf]
    split
    · exact others
    apply (shaped.returns_takePart part).bind
    intro taken kept
    cases taken with
    | none => exact others
    | some next =>
      obtain ⟨shaped, height⟩ := kept next rfl
      exact sound.returns_afterPart shaped (by omega)

lemma returns_receivePart (part : List UInt8) : Returns (l.receivePart p env part) l.Kept := by
  apply sound.returns_receivePartOf
  intro r member
  exact (mem_insertionSort _).mp member

lemma cancelIncoming (hash : FullHash) : l.Kept (l.cancelIncoming hash) := by
  rw [Link.cancelIncoming]
  split
  · exact .refl sound
  · exact sound.concludeFailed _ _

lemma rejectOutgoing (hash : FullHash) : l.Kept (l.rejectOutgoing hash) := by
  rw [Link.rejectOutgoing]
  split
  · exact .refl sound
  · exact sound.failOutgoing _ _

lemma handleCancel (plain : List UInt8) : l.Kept (l.handleCancel plain) := by
  rw [Link.handleCancel]
  split
  · exact .refl sound
  have first := sound.cancelIncoming (FixedBytes.copy fullHashLen plain)
  exact first.append (first.sound.rejectOutgoing _)

end Link.Sound

end

end

/-! ## Retries -/

section
variable {l : Link} {env : Env}

lemma Link.Sound.returns_watchIncoming (sound : l.Sound) (shaped : r.Shaped l.sdu)
    (mapped : 1 ≤ r.hashHeight) : Returns (l.watchIncoming env timeout iv r) l.Kept := by
  rw [watchIncoming]
  split
  · split
    · exact returns_ok.mpr (sound.concludeFailed r _)
    apply sound.returns_requestNext
    · exact { shaped with }
    · exact mapped
  · exact sound.unchanged

lemma Link.Sound.returns_watchOutgoing {r : OutgoingResource}
    (sound : l.Sound) (shaped : r.Shaped) : Returns (l.watchOutgoing env iv r) l.Kept := by
  rw [watchOutgoing]
  split
  · split
    · split
      · exact returns_ok.mpr (sound.failOutgoing r _)
      apply sound.returns_advertise
      exact { shaped with }
    · exact sound.unchanged
  · split
    · exact returns_ok.mpr (sound.failOutgoing r _)
    · exact sound.unchanged
  · split
    · exact returns_ok.mpr (sound.failOutgoing r _)
    · exact sound.unchanged
  · exact sound.unchanged
  · exact sound.unchanged

lemma Link.Sound.returns_watchAllIncoming {rs : List IncomingResource} :
    ∀ {l : Link} {k : Nat}, l.Sound → (∀ r ∈ rs, r.Shaped l.sdu ∧ 1 ≤ r.hashHeight) →
      Returns (l.watchAllIncoming env k rs) l.Kept := by
  induction rs with
  | nil =>
    intro l k sound _
    exact sound.unchanged
  | cons r rest induction =>
    intro l k sound known
    obtain ⟨shaped, mapped⟩ := known r mem_cons_self
    rw [watchAllIncoming]
    apply (sound.returns_watchIncoming shaped mapped).bind
    intro ⟨next, effects⟩ first
    have same : next.sdu = l.sdu := by
      rw [sdu, first.mtu]
      rfl
    apply (induction first.sound ?_).bind
    · intro last others
      exact returns_pure.mpr (first.append others)
    intro other member
    rw [same]
    exact known other (mem_cons_of_mem _ member)

lemma Link.Sound.returns_watchAllOutgoing {rs : List OutgoingResource} : ∀ {l : Link} {k : Nat},
    l.Sound → (∀ r ∈ rs, r.Shaped) → Returns (l.watchAllOutgoing env k rs) l.Kept := by
  induction rs with
  | nil =>
    intro l k sound _
    exact sound.unchanged
  | cons r rest induction =>
    intro l k sound known
    rw [watchAllOutgoing]
    apply (sound.returns_watchOutgoing (known r mem_cons_self)).bind
    intro next first
    apply (induction first.sound fun other member =>
      known other (mem_cons_of_mem _ member)).bind
    intro last others
    exact returns_pure.mpr (first.append others)

lemma Link.Sound.returns_resourceWatchdog (sound : l.Sound) :
    Returns (l.resourceWatchdog env) l.Kept := by
  rw [resourceWatchdog]
  apply (sound.returns_watchAllIncoming fun r member =>
    sound.incoming r ((mem_insertionSort _).mp member)).bind
  intro next first
  apply (first.sound.returns_watchAllOutgoing fun r member =>
    sound.outgoing r ((mem_insertionSort _).mp member)).bind
  intro last others
  exact returns_pure.mpr (first.append others)

end

/-! ## Packets of a link -/

section
variable {p : LinkPrimitives} {l : Link} {env : Env}

section
variable (sound : l.Sound)

include sound

namespace Link

lemma Sound.sendClose : l.Kept (l.sendClose env) := by
  rw [Link.sendClose]
  split
  · split
    · exact .refl sound
    · exact sound.sendLinkPacket rfl _ _ _ _ _
  · exact .refl sound

lemma Sound.teardown : l.Kept (l.teardown env) := by
  have told : l.Kept (l.sendClose env) := sound.sendClose
  rw [Link.teardown]
  split
  · exact .refl sound
  refine ⟨told.mtu, ⟨told.sound.incoming, told.sound.outgoing⟩, ?_⟩
  apply Within.append told.within
  intro size length member
  cases mem_singleton.mp member

lemma Sound.handlePacket (pkt : Packet)
    (plain : List UInt8) : l.Kept (l.handlePacket env pkt plain) := by
  have handed : l.Within (l, [.packet plain]) := by
    intro size length member
    cases mem_singleton.mp member
  rw [Link.handlePacket]
  split
  · exact ⟨rfl, sound, handed⟩
  split
  · have proved : l.Kept (l.sendLinkPacket env .proof contextNone
        (pkt.hash.bytes ++ l.sign pkt.hash.bytes) none) :=
      sound.sendLinkPacket rfl _ _ _ _ _
    exact ⟨proved.mtu, proved.sound, handed.append proved.within⟩
  · exact ⟨rfl, sound, handed⟩

lemma Sound.handleRTT (h : Header) : l.Kept (l.handleRTT p env h) := by
  rw [Link.handleRTT]
  split
  · exact .refl sound
  split
  · exact sound.teardown
  split
  · exact sound.teardown
  refine ⟨rfl, ⟨sound.incoming, sound.outgoing⟩, ?_⟩
  intro size length member
  cases mem_singleton.mp member

lemma Sound.handleKeepalive (h : Header) : l.Kept (l.handleKeepalive env h) := by
  rw [Link.handleKeepalive]
  split
  · exact sound.sendLinkPacket rfl _ _ _ _ _
  · exact .refl sound

lemma Sound.handleClose (plain : List UInt8) : l.Kept (l.handleClose plain) := by
  rw [Link.handleClose]
  split
  · refine ⟨rfl, ⟨sound.incoming, sound.outgoing⟩, ?_⟩
    intro size length member
    cases mem_singleton.mp member
  · exact .refl sound

lemma Sound.handleIdentify (plain : List UInt8) : l.Kept (l.handleIdentify p plain) := by
  rw [Link.handleIdentify]
  split
  · exact .refl sound
  refine ⟨rfl, ⟨sound.incoming, sound.outgoing⟩, ?_⟩
  intro size length member
  split at member
  · cases mem_singleton.mp member
  · cases member

lemma Sound.returns_decrypted
    (handled : ∀ plain, l.decrypt data = .ok plain → Returns (handler plain) l.Kept) :
    Returns (l.decrypted data handler) l.Kept := by
  rw [decrypted]
  split
  · exact sound.unchanged
  rename_i plain decrypted
  exact handled plain decrypted

end Link

end

def Link.OfferFits (p : Primitives) (l : Link) (plain : List UInt8) : Prop :=
  ∀ a, parseAdvert p plain = some a → a.valid = true → a.supported = true →
    l.accepts a.d.toInt = true → l.AdvertFits a

lemma Link.Sound.rejectResource (sound : l.Sound) (hash : List UInt8) :
    l.Kept (l.rejectResource env hash) := by
  rw [Link.rejectResource]
  split
  · exact .refl sound
  · exact sound.sendLinkPacket rfl _ _ _ _ _

variable {plain : List UInt8} {pkt : Packet}

namespace Link

lemma Sound.returns_handleResourceAdv {p : Primitives} (sound : l.Sound)
    (fits : l.OfferFits p plain) : Returns (l.handleResourceAdv p env plain) l.Kept := by
  rw [handleResourceAdv]
  split
  · exact sound.unchanged
  rename_i a parsed
  split
  · exact sound.unchanged
  rename_i valid
  split
  · exact returns_ok.mpr (sound.rejectResource _)
  rename_i supported
  split
  · exact returns_ok.mpr (sound.rejectResource _)
  rename_i accepted
  simp only [Bool.not_eq_true', Bool.not_eq_false] at valid supported accepted
  exact sound.returns_acceptAdvert valid (fits a parsed valid supported accepted)

lemma offerFits_of_returns {p : Primitives}
    (returned : Returns (l.handleResourceAdv p env plain) l.Within) : l.OfferFits p plain := by
  intro a parsed valid supported accepted
  rw [handleResourceAdv, parsed] at returned
  simp only [valid, supported, accepted, Bool.not_true, Bool.false_eq_true, if_false] at returned
  exact advertFits_of_returns valid returned

section
variable (p : LinkPrimitives) (l : Link) (pkt : Packet)

/-- What a packet carries fits, if it is an advertisement or a page. -/
def ContentFits (plain : List UInt8) : Prop :=
  match linkContext pkt.hdr.context with
  | .resourceAdv => l.OfferFits p.toPrimitives plain
  | .resourceHMU => l.UpdateFits p.toPrimitives plain
  | _ => True

def PacketFits : Prop :=
  pkt.iface = l.iface → pkt.hdr.packetType ≠ .proof → ∀ plain,
    l.decrypt pkt.hdr.data = .ok plain → l.ContentFits p pkt plain

end

lemma Sound.returns_dispatch (sound : l.Sound)
    (fits : ∀ plain, l.decrypt pkt.hdr.data = .ok plain → l.ContentFits p pkt plain) :
    Returns (l.dispatch p env pkt) l.Kept := by
  rw [dispatch]
  cases context : linkContext pkt.hdr.context with
  | none =>
    exact sound.returns_decrypted fun plain _ =>
      returns_ok.mpr (sound.handlePacket pkt plain)
  | lrrtt => exact returns_ok.mpr (sound.handleRTT _)
  | keepalive => exact returns_ok.mpr (sound.handleKeepalive _)
  | close =>
    exact sound.returns_decrypted fun plain _ =>
      returns_ok.mpr (sound.handleClose plain)
  | resourceAdv =>
    apply sound.returns_decrypted
    intro plain decrypted
    have offer := fits plain decrypted
    rw [ContentFits, context] at offer
    exact sound.returns_handleResourceAdv offer
  | resourceReq =>
    exact sound.returns_decrypted fun plain _ =>
      sound.returns_handleResourceRequest plain
  | resource => exact sound.returns_receivePart _
  | resourceHMU =>
    apply sound.returns_decrypted
    intro plain decrypted
    have update := fits plain decrypted
    rw [ContentFits, context] at update
    exact sound.returns_handleHMU update
  | resourceCancel =>
    exact sound.returns_decrypted fun plain _ =>
      returns_ok.mpr (sound.handleCancel plain)
  | identify =>
    dsimp only
    split
    · exact sound.unchanged
    exact sound.returns_decrypted fun plain _ =>
      returns_ok.mpr (sound.handleIdentify plain)
  | other =>
    refine returns_ok.mpr ⟨rfl, sound, ?_⟩
    intro size length member
    cases mem_singleton.mp member

lemma Sound.contentFits_of_returns (sound : l.Sound)
    (returned : Returns (l.dispatch p env pkt) l.Within)
    (decrypted : l.decrypt pkt.hdr.data = .ok plain) : l.ContentFits p pkt plain := by
  rw [dispatch] at returned
  rw [ContentFits]
  cases context : linkContext pkt.hdr.context with
  | resourceAdv =>
    rw [context] at returned
    dsimp only at returned
    rw [Link.decrypted, decrypted] at returned
    exact offerFits_of_returns returned
  | resourceHMU =>
    rw [context] at returned
    dsimp only at returned
    rw [Link.decrypted, decrypted] at returned
    exact sound.updateFits_of_returns returned
  | _ => trivial

lemma Sound.heard (sound : l.Sound) (env : Env) : (l.heard env).Sound :=
  ⟨sound.incoming, sound.outgoing⟩

lemma contentFits_heard : (l.heard env).ContentFits p pkt plain ↔ l.ContentFits p pkt plain := by
  rw [ContentFits, ContentFits]
  cases linkContext pkt.hdr.context with
  | resourceAdv =>
    constructor
    · intro fits a parsed valid supported accepted
      obtain ⟨sdu, bound, mapped⟩ := fits a parsed valid supported accepted
      exact ⟨sdu, bound, mapped⟩
    intro fits a parsed valid supported accepted
    obtain ⟨sdu, bound, mapped⟩ := fits a parsed valid supported accepted
    exact ⟨sdu, bound, mapped⟩
  | _ => exact Iff.rfl

lemma Sound.returns_receive (sound : l.Sound) (fits : l.PacketFits p pkt) :
    Returns (l.receive p env pkt) l.Kept := by
  have keeps : ∀ outcome, (l.heard env).Kept outcome → l.Kept outcome := fun _ kept => { kept with }
  rw [receive]
  split
  · exact sound.unchanged
  rename_i here
  split
  · split
    · exact ((sound.heard env).returns_handleResourceProof _).mono keeps
    · exact returns_ok.mpr (keeps _ (.refl (sound.heard env)))
  rename_i notProof
  apply ((sound.heard env).returns_dispatch ?_).mono keeps
  intro plain decrypted
  apply contentFits_heard.mpr
  exact fits (not_not.mp here) notProof plain decrypted

lemma Sound.packetFits_of_returns (sound : l.Sound)
    (returned : Returns (l.receive p env pkt) l.Within) : l.PacketFits p pkt := by
  intro here notProof plain decrypted
  rw [receive, if_neg (not_not.mpr here), if_neg notProof] at returned
  apply contentFits_heard.mp
  exact (sound.heard env).contentFits_of_returns returned decrypted

end Link

end

/-! ## Runs -/

inductive LinkAction
  | receive (env : Env) (pkt : Packet)
  | sendResource (env : Env) (payload : List UInt8) (freeOnly : Bool)
      (front : RandomHash) (draws : List RandomHash)
  | resourceWatchdog (env : Env)

def Link.exec (p : LinkPrimitives) (l : Link) : LinkAction → Checked Outcome
  | .receive env pkt => l.receive p env pkt
  | .sendResource env payload freeOnly front draws => do
      match ← l.sendResourceWith p.toPrimitives env payload freeOnly front draws with
      | .error _ => pure (l, [])
      | .ok (_, outcome) => pure outcome
  | .resourceWatchdog env => l.resourceWatchdog env

def Link.Fits (p : LinkPrimitives) (l : Link) : LinkAction → Prop
  | .receive _ pkt => l.PacketFits p pkt
  | .sendResource env payload freeOnly front draws =>
    l.SendFits p.toPrimitives env payload freeOnly front draws
  | .resourceWatchdog _ => True

section
variable {p : LinkPrimitives} {l : Link} {action : LinkAction} (sound : l.Sound)

include sound

lemma Link.Sound.returns_exec (fits : l.Fits p action) : Returns (l.exec p action) l.Kept := by
  cases action with
  | receive env pkt => exact sound.returns_receive fits
  | sendResource env payload freeOnly front draws =>
    rw [exec]
    apply (sound.returns_sendResourceWith fits).bind
    intro result kept
    cases result with
    | error cause => exact sound.unchanged
    | ok sent => exact returns_pure.mpr (kept sent.1 sent.2 rfl)
  | resourceWatchdog env => exact sound.returns_resourceWatchdog

lemma Link.Sound.fits_of_returns
    (returned : Returns (l.exec p action) l.Within) : l.Fits p action := by
  cases action with
  | receive env pkt => exact sound.packetFits_of_returns returned
  | sendResource env payload freeOnly front draws =>
    rw [exec, returns_bind] at returned
    exact sendFits_of_returns returned
  | resourceWatchdog env => exact trivial

end

/-- A link and what happens to it; a step with a fault is not a step. -/
def linkSystem (p : LinkPrimitives) (l : Link) : TransitionSystem Link LinkAction where
  initial := l
  exec l action := (l.exec p action).toOption.map Prod.fst

lemma accept_sound (accepted : accept x env hw d pkt = some outcome) : outcome.1.Sound := by
  rw [accept] at accepted
  split at accepted
  · cases accepted
  split at accepted
  · cases accepted
  split at accepted
  · cases accepted
  split at accepted
  · cases accepted
  · cases accepted
    constructor
    · intro r member
      cases member
    intro r member
    cases member

lemma Link.Sound.of_reaches (sound : start.Sound)
    (run : (linkSystem p start).Reaches (Link.Fits p) start l) : l.Sound := by
  refine run.preserves ?_ sound
  intro l action next sound fits executed
  obtain ⟨outcome, returned, kept⟩ := sound.returns_exec fits
  simp only [linkSystem, returned, Except.toOption, Option.map_some, Option.some.injEq] at executed
  rw [← executed]
  exact kept.sound

def Link.TablesFit (l : Link) : Prop :=
  ∀ r ∈ l.incoming, (r.parts.length : Int) ≤ l.partBound r.size ∧
    (r.hashmap.length : Int) ≤ l.partBound r.size ∧ (r.hashmapSet.length : Int) ≤ l.partBound r.size

lemma Link.Sound.tablesFit {l : Link} (sound : l.Sound) : l.TablesFit := by
  intro r member
  obtain ⟨shaped, _⟩ := sound.incoming r member
  refine ⟨?_, ?_, ?_⟩
  · rw [shaped.parts]
    exact shaped.bounded
  · rw [shaped.hashmap]
    exact shaped.bounded
  rw [shaped.hashmapSet]
  exact shaped.bounded

/-- On a link that was accepted, as long as every step fits, no step has a
fault and no part table is too long; and a step that does not fit has a fault
or makes a part table that is too long. -/
theorem resource_safety (p : LinkPrimitives) (x : Handshake) (env : Env)
    (hw : Int) (d : Destination) (pkt : Packet) (start : Outcome)
    (accepted : accept x env hw d pkt = some start) (l : Link)
    (run : (linkSystem p start.1).Reaches (Link.Fits p) start.1 l) : l.TablesFit ∧ ∀ action,
      Returns (l.exec p action) l.Within ↔ l.Fits p action := by
  have sound := (accept_sound accepted).of_reaches run
  refine ⟨sound.tablesFit, fun action => ?_⟩
  constructor
  · exact sound.fits_of_returns
  intro fits
  exact (sound.returns_exec fits).mono fun _ kept => kept.within

/-! ## A peer -/

def plainToken : Token where
  cbcEncrypt := fun _ data => data
  cbcDecrypt := fun _ data => data
  hmac := fun _ => FixedBytes.zero _
  length_cbcEncrypt := fun _ _ => rfl
  decrypt_encrypt := fun _ _ _ => rfl

def plainPrimitives : LinkPrimitives where
  sha256 := fun _ => FixedBytes.zero _
  widen := fun _ => 0
  bunzip2 := fun _ => none
  parseRTT := fun _ => some 0
  rttData := fun _ => [0]
  parseIdentify := fun _ _ => none
  scaledRTT := fun rtt => rtt
  staleRTT := fun rtt => rtt

def plainHandshake : Handshake where
  newPublicKey := fun _ => none
  linkID := fun _ => some (FixedBytes.zero _)
  exchange := fun _ _ => some plainToken
  proofData := fun _ _ => [0]
  sign := fun _ => []

def quietEnv : Env where
  now := 0
  floodable := ["mesh"]
  iv := fun _ => FixedBytes.zero _
  rank := fun _ => 0

def openDestination : Destination where
  hash := FixedBytes.zero _
  acceptLinks := true
  proveAll := false
  acceptResources := some fun _ => true

def peerPacket (ptype : PacketType) (context : UInt8) (data : List UInt8) : Packet where
  hdr :=
    { headerType := .type1
      contextFlag := false
      transportType := .broadcast
      destType := .link
      packetType := ptype
      hops := 0
      transportID := FixedBytes.zero _
      destHash := FixedBytes.zero _
      context := context
      data := data }
  hash := FixedBytes.zero _
  iface := "mesh"

def requestWithMTU (high low : UInt8) : Packet :=
  peerPacket .linkRequest contextNone (List.replicate 64 0 ++ [0x20, high, low])

def acceptedWith (high low : UInt8) : Option Outcome :=
  accept plainHandshake quietEnv 0 openDestination (requestWithMTU high low)

def peerLink (mtu : Nat) : Link :=
  acceptedLink plainHandshake quietEnv 0 openDestination (requestWithMTU 0 0)
    ⟨[], [], mtu, linkModeAES256CBC, true⟩ (FixedBytes.zero _) plainToken

/-- An advertisement of a size and a number of parts with a map. -/
def advertPlain (t n : Int64) (hm : List UInt8) : List UInt8 :=
  Msgpack.pack (.map [ advertEntry keyT (.ofInt t), advertEntry keyN (.ofInt n),
      advertEntry keyH (.bin (List.replicate 32 0)), advertEntry keyR (.bin (List.replicate 4 0)),
      advertEntry keyM (.bin hm) ])

def pagePlain (segment : Int64) (hm : List UInt8) : List UInt8 :=
  List.replicate 32 0 ++ Msgpack.pack (.array [.ofInt segment, .bin hm])

def peerSends (context : UInt8) (plain : List UInt8) : LinkAction :=
  .receive quietEnv (peerPacket .data context (plainToken.encrypt (FixedBytes.zero _) plain))

def faultAfter (l : Link) : List LinkAction → Option Fault
  | [] => none
  | action :: rest =>
    match l.exec plainPrimitives action with
    | .error fault => some fault
    | .ok (l, _) => faultAfter l rest

def tableMade (l : Link) (action : LinkAction) : Option (Int × Int) :=
  match l.exec plainPrimitives action with
  | .ok (_, .allocated size length :: _) => some (size, length)
  | _ => none

/-- The peer has measured the round trip. -/
def peerActivates : LinkAction := peerSends contextLRRTT [0]

def activatedPeer (mtu : Nat) : Link :=
  (((peerLink mtu).heard quietEnv).handleRTT plainPrimitives quietEnv (peerPacket .data contextLRRTT
      (plainToken.encrypt (FixedBytes.zero _) [0])).hdr).1

lemma exec_peerActivates : (peerLink 36).exec plainPrimitives peerActivates =
      .ok (activatedPeer 36, [.established]) := rfl

lemma parseAdvert_one : parseAdvert plainPrimitives.toPrimitives (advertPlain 1 1 [0, 0, 0, 0]) =
    some ⟨1, 0, 1, 0, 0, List.replicate 32 0, List.replicate 4 0, [0, 0, 0, 0]⟩ := by
  decide +kernel

lemma partBound_one : (peerLink 500).partBound 1 = 1 := by
  have size : (peerLink 500).sdu = 464 := by decide
  rw [partBound, size]
  norm_num [ceil_eq_iff]

lemma fits_one : (peerLink 500).Fits plainPrimitives
    (peerSends contextResourceAdv (advertPlain 1 1 [0, 0, 0, 0])) := by
  intro _ _ plain decrypted
  have keyed : (peerLink 500).token = some plainToken := rfl
  have whole := decrypt_encrypt keyed (FixedBytes.zero _) (advertPlain 1 1 [0, 0, 0, 0])
  cases whole.symm.trans decrypted
  intro a parsed _ _ _
  cases parseAdvert_one.symm.trans parsed
  refine ⟨by decide, ?_, fun _ => by decide⟩
  show (1 : Int) ≤ (peerLink 500).partBound 1
  rw [partBound_one]

/-- After one advertisement that fits. -/
theorem resource_safety_one_part : ∃ l, (linkSystem plainPrimitives (peerLink 500)).Reaches
        (Link.Fits plainPrimitives) (peerLink 500) l ∧ l.TablesFit ∧ ∀ action,
        Returns (l.exec plainPrimitives action) l.Within ↔ l.Fits plainPrimitives action := by
  obtain ⟨start, accepted, first⟩ := Option.map_eq_some_iff.mp
    (show (acceptedWith 0x01 0xF4).map Prod.fst = some (peerLink 500) from rfl)
  obtain ⟨outcome, returned, _⟩ := (accept_sound accepted).returns_exec (first ▸ fits_one)
  have run : (linkSystem plainPrimitives start.1).Reaches
      (Link.Fits plainPrimitives) start.1 outcome.1 := by
    apply TransitionSystem.Reaches.step _ (.refl _) (first ▸ fits_one)
    show (start.1.exec plainPrimitives _).toOption.map Prod.fst = _
    rw [returned]
    rfl
  exact ⟨outcome.1, first ▸ run, resource_safety plainPrimitives plainHandshake
    quietEnv 0 openDestination (requestWithMTU 0x01 0xF4) start accepted outcome.1 run⟩

/-- At a part size of 0 the division has a fault and a send never ends;
otherwise an empty map and a page with a negative number have faults, and a
part table is made as long as the peer says. -/
theorem resource_safety_hostile_peer : ((acceptedWith 0x00 0x24).map Prod.fst = some (peerLink 36) ∧
      faultAfter (peerLink 36) [peerSends contextResourceAdv (advertPlain 1 1 [0, 0, 0, 0])] =
          some .divide ∧ ∀ draws, faultAfter (peerLink 36)
        [peerActivates, .sendResource quietEnv [] false (FixedBytes.zero _)
          draws] = some .endless) ∧ (acceptedWith 0x01 0xF4).map Prod.fst = some (peerLink 500) ∧
      faultAfter (peerLink 500) [peerSends contextResourceAdv (advertPlain 1 1 [])] = some .index ∧
      faultAfter (peerLink 500) [peerSends contextResourceAdv (advertPlain 1 1 [0, 0, 0, 0]),
          peerSends contextResourceHMU (pagePlain (-1) [0, 0, 0, 0])] = some .index ∧
      tableMade (peerLink 500) (peerSends contextResourceAdv (advertPlain 1 5 [0, 0, 0, 0])) =
          some (1, 5) ∧ (peerLink 500).partBound 1 = 1 := by
  refine ⟨⟨rfl, by decide +kernel, fun draws => ?_⟩, rfl, by decide +kernel,
    by decide +kernel, by decide +kernel, partBound_one⟩
  have zero : (activatedPeer 36).sdu = 0 := by decide
  have sends : (activatedPeer 36).Sends quietEnv [] false := ⟨rfl, .inl rfl, by decide⟩
  rw [faultAfter, exec_peerActivates]
  dsimp only
  rw [faultAfter, exec, sends.endless rfl zero]
  rfl

end MeshSat.Rns
