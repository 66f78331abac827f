import MeshSat.Rns.PaidLinks

/-!
# Leaf interfaces

A node carries only its own traffic on a leaf: nothing heard on one interface
is relayed onto another when either is a leaf. No entry of the tables for
links and proofs in transit has a leaf at either end, in any run. What is
relayed also depends on announces that wait, on a link both of whose ends are
one interface, and on what a new mark leaves behind.
-/

variable {ids : List String} {a : Announcement} {effect : Effect}

namespace MeshSat.Rns

open Library Reticulum List Router Node Keyed

/-! ## Sending leaves the tables alone -/

namespace Router

section
variable (r : Router)

lemma sendAnnounceOn_sends (m : Medium)
    (a : Announcement) (ifaceID : String) : r.Sends (r.sendAnnounceOn m a ifaceID).1 := by
  have noted := r.note_sends ifaceID a.dest .announce
  rw [sendAnnounceOn]
  dsimp only
  split
  · exact noted
  split
  · exact noted.trans ⟨r.paidLast, r.stats, _, _, rfl⟩
  split
  · exact noted
  · exact noted.trans ⟨r.paidLast, r.stats, _, _, rfl⟩

lemma announceOn_sends (m : Medium) (a : Announcement)
    (ids : List String) : r.Sends (r.announceOn m a ids).1 := by
  induction ids generalizing r with
  | nil => exact .refl r
  | cons id rest induction => exact (r.sendAnnounceOn_sends m a id).trans (induction _)

lemma sendPathRequests_sends (dest tag : TruncatedHash)
    (source : Option String) (ids : List String) :
    r.Sends (r.sendPathRequests dest tag source ids).1 := by
  induction ids generalizing r with
  | nil => exact .refl r
  | cons id rest induction => exact (r.note_sends id dest .pathRequest).trans (induction _)

lemma flushAnnounceQueue_sends (m : Medium)
    (ifaceID : String) : r.Sends (r.flushAnnounceQueue m ifaceID).1 := by
  rw [flushAnnounceQueue]
  split
  · exact .refl r
  · exact ⟨r.paidLast, r.stats, _, r.log, rfl⟩

lemma announce_sends (m : Medium) (dest : TruncatedHash) (ifaceID : String) (pathResponse : Bool) :
    r.Sends (r.announce m dest ifaceID pathResponse).1 := by
  rw [announce]
  split
  · exact .refl r
  split
  · have gated := r.paidGate_sends ifaceID dest .announce
    dsimp only
    split
    · exact gated.trans (sendAnnounceOn_sends _ m _ ifaceID)
    · exact gated
  · exact (r.paidTake_sends m dest .announce "").trans (announceOn_sends _ m _ _)

lemma rebroadcast_sends (m : Medium) (effect : Effect) : r.Sends (r.rebroadcast m effect).1 := by
  cases effect with
  | rebroadcast dest raw only source =>
    cases only with
    | none => exact (r.paidTake_sends m dest .announce source).trans (announceOn_sends _ m _ _)
    | some attached =>
      rw [rebroadcast]
      split
      · exact .refl r
      have gated := r.paidGate_sends attached dest .announce
      dsimp only
      split
      · exact gated.trans (sendAnnounceOn_sends _ m _ attached)
      · exact gated
  | transmit | closeWaiter | pathChanged | announced => exact .refl r

lemma rebroadcastAll_sends (m : Medium)
    (effects : List Effect) : r.Sends (r.rebroadcastAll m effects).1 := by
  induction effects generalizing r with
  | nil => exact .refl r
  | cons effect rest induction => exact (r.rebroadcast_sends m effect).trans (induction _)

lemma noteAnswers_sends (dest : TruncatedHash)
    (source : String) (effects : List Effect) : r.Sends (r.noteAnswers dest source effects).1 := by
  induction effects generalizing r with
  | nil => exact .refl r
  | cons effect rest induction =>
    cases effect with
    | transmit id raw => exact (r.note_sends id dest .announce).trans (induction _)
    | rebroadcast | closeWaiter | pathChanged | announced => exact induction r

end

end Router

/-! ## Isolation -/

/-- What was heard on `source` may be sent on the interface. -/
def Node.MayRelay (n : Node) (source : Option String) (ifaceID : String) : Prop :=
  ∀ heard, source = some heard → n.isLeaf heard = false ∧ n.isLeaf ifaceID = false

/-- No link or proof in transit has a leaf at either end. -/
structure Node.Walled (n : Node) : Prop where
  links : ∀ e ∈ n.linkTable.entries,
    n.isLeaf e.receivedIface = false ∧ n.isLeaf e.nextHopIface = false
  reverses : ∀ e ∈ n.reverseTable.entries,
    n.isLeaf e.receivedIface = false ∧ n.isLeaf e.outboundIface = false

/-- What waits in the queues may leave. -/
def Router.QueueWalled (r : Router) : Prop :=
  ∀ q ∈ r.announceQueue.entries, ∀ a ∈ q.pending, r.MayRelay a.source q.iface

/-- An announce that is kept was not heard on a leaf. -/
def Router.Relayable (r : Router) (e : AnnounceEntry) : Prop :=
  if e.attachedIface = "" then r.isLeaf e.sourceIface = false
  else e.blockRebroadcasts = true ∧ r.isLeaf (r.answerFrom e.dest) = false

structure Router.Isolated (r : Router) : Prop where
  walled : r.toNode.Walled
  queue : r.QueueWalled
  announces : ∀ e ∈ r.announceTable.entries, r.Relayable e
  held : ∀ e ∈ r.heldAnnounces.entries, e.attachedIface = "" ∧ r.isLeaf e.sourceIface = false

section
variable {r : Router} {n : Node}

lemma Node.mayRelay_none : n.MayRelay none ifaceID := by
  intro heard own
  cases own

variable {ifaceID : String} {r' : Router} {source : Option String}
  {dest : TruncatedHash} {effects : List Effect}

lemma Node.mayRelay_of_not_leaf {source : String} (heard : n.isLeaf source = false)
    (sent : n.isLeaf ifaceID = false) : n.MayRelay (some source) ifaceID := by
  rintro _ ⟨⟩
  exact ⟨heard, sent⟩

/-- The node relays nothing into or out of a leaf. -/
structure Router.Discreet (r : Router) (out : Routed) : Prop where
  sends : r.Sends out.1
  queue : out.1.QueueWalled
  relayed : ∀ s ∈ out.2, r.MayRelay s.source s.iface

lemma Router.Sends.leaf (sends : r.Sends r') : r'.leaf = r.leaf := by
  obtain ⟨_, _, _, _, rfl⟩ := sends
  rfl

lemma Router.Sends.mayRelay (sends : r.Sends r') :
    r'.MayRelay source ifaceID ↔ r.MayRelay source ifaceID := by
  obtain ⟨_, _, _, _, rfl⟩ := sends
  exact Iff.rfl

lemma Router.QueueWalled.silent (queue : r.QueueWalled) : r.Discreet (r, []) :=
  ⟨.refl r, queue, forall_mem_nil _⟩

lemma Router.Discreet.after (sends : r.Sends r') (discreet : r'.Discreet out) : r.Discreet out :=
  ⟨sends.trans discreet.sends, discreet.queue,
    fun s member => sends.mayRelay.mp (discreet.relayed s member)⟩

lemma Router.Discreet.append {first second : Routed} (before : r.Discreet first)
    (after : first.1.Discreet second) : r.Discreet (second.1, first.2 ++ second.2) := by
  refine ⟨before.sends.trans after.sends, after.queue, ?_⟩
  intro s member
  rcases mem_append.mp member with early | late
  · exact before.relayed s early
  · exact before.sends.mayRelay.mp (after.relayed s late)

section
variable (queue : r.QueueWalled)

include queue

namespace Router

namespace QueueWalled

lemma putQueue (may : ∀ a ∈ q.pending, r.MayRelay a.source q.iface) : QueueWalled
      { r with announceQueue := r.announceQueue.put q } := by
  exact forall_mem_put may queue

lemma queueOf (ifaceID : String) :
    ∀ a ∈ (r.queueOf ifaceID).pending, r.MayRelay a.source ifaceID := by
  intro a member
  rw [Router.queueOf] at member
  split at member
  · rename_i q found
    have may := queue q (mem_of_get? found) a member
    rwa [key_of_get? found] at may
  · exact absurd member not_mem_nil

lemma sendAnnounceOn (m : Medium) (may : r.MayRelay a.source ifaceID) :
    r.Discreet (r.sendAnnounceOn m a ifaceID) := by
  have noted : (r.note ifaceID a.dest .announce).QueueWalled := queue
  have waiting := noted.queueOf ifaceID
  have sent : ∀ s ∈ [a.sentOn ifaceID], r.MayRelay s.source s.iface := by
    intro s member
    rw [mem_singleton.mp member]
    exact may
  refine ⟨r.sendAnnounceOn_sends m a ifaceID, ?_, ?_⟩
  · rw [Router.sendAnnounceOn]
    dsimp only
    split
    · exact noted
    split
    · apply noted.putQueue
      rw [queueOf_iface]
      exact waiting
    split
    · exact noted
    apply noted.putQueue
    rw [queueOf_iface]
    exact forall_mem_append.mpr ⟨waiting, forall_mem_singleton.mpr may⟩
  rw [Router.sendAnnounceOn]
  dsimp only
  split
  · exact sent
  split
  · exact sent
  split
  · exact forall_mem_nil _
  · exact forall_mem_nil _

lemma announceOn (m : Medium)
    (may : ∀ id ∈ ids, r.MayRelay a.source id) : r.Discreet (r.announceOn m a ids) := by
  induction ids generalizing r with
  | nil => exact queue.silent
  | cons id rest induction =>
    have first := queue.sendAnnounceOn m (may id mem_cons_self)
    apply first.append
    apply induction first.queue
    intro other member
    exact first.sends.mayRelay.mpr (may other (mem_cons_of_mem id member))

lemma sendPathRequests (may : ∀ id ∈ ids, r.MayRelay source id) :
    r.Discreet (r.sendPathRequests dest tag source ids) := by
  induction ids generalizing r with
  | nil => exact queue.silent
  | cons id rest induction =>
    have later := @induction (r.note id dest .pathRequest) queue
      fun other member => may other (mem_cons_of_mem id member)
    refine ⟨r.sendPathRequests_sends dest tag source (id :: rest), later.queue, ?_⟩
    exact forall_mem_cons.mpr ⟨may id mem_cons_self, later.relayed⟩

lemma flushAnnounceQueue
    (m : Medium) (ifaceID : String) : r.Discreet (r.flushAnnounceQueue m ifaceID) := by
  have waiting := queue.queueOf ifaceID
  rw [Router.flushAnnounceQueue]
  split
  · exact queue.silent
  rename_i a rest pending
  rw [pending] at waiting
  refine ⟨⟨r.paidLast, r.stats, _, r.log, rfl⟩, ?_, ?_⟩
  · apply queue.putQueue
    rw [queueOf_iface]
    exact fun other member => waiting other (mem_cons_of_mem a member)
  intro s member
  rw [mem_singleton.mp member]
  exact waiting a mem_cons_self

lemma of_sends (sends : r.Sends r') (same : r'.announceQueue = r.announceQueue) :
    r'.QueueWalled := by
  intro q stored a waiting
  rw [same] at stored
  exact sends.mayRelay.mpr (queue q stored a waiting)

section
variable (m : Medium) (dest : TruncatedHash)

lemma paidTake (kind : PaidKind) (other : String) : (r.paidTake m dest kind other).1.QueueWalled :=
  queue.of_sends (r.paidTake_sends m dest kind other) rfl

lemma announce (ifaceID : String) (pathResponse : Bool) :
    r.Discreet (r.announce m dest ifaceID pathResponse) := by
  rw [Router.announce]
  split
  · exact queue.silent
  split
  · have gated := r.paidGate_sends ifaceID dest .announce
    have kept := queue.of_sends gated rfl
    dsimp only
    split
    · exact .after gated (kept.sendAnnounceOn m mayRelay_none)
    · exact .after gated kept.silent
  exact .after (r.paidTake_sends m dest .announce "")
    ((queue.paidTake m dest .announce "").announceOn m fun id _ => mayRelay_none)

end

end QueueWalled

end Router

end

lemma Router.withoutLeaves_not_leaf
    {id : String} (member : id ∈ n.withoutLeaves ids) : n.isLeaf id = false := by
  have kept := (mem_filter.mp member).2
  rwa [Bool.not_eq_true'] at kept

/-- The announce that is due was not heard on a leaf. -/
def Effect.Relayable (r : Router) : Effect → Prop
  | .rebroadcast _ _ none source => r.isLeaf source = false
  | .rebroadcast dest _ (some _) _ => r.isLeaf (r.answerFrom dest) = false
  | _ => True

lemma Effect.Relayable.of_sends (sends : r.Sends r')
    (relayable : effect.Relayable r) : effect.Relayable r' := by
  obtain ⟨_, _, _, _, rfl⟩ := sends
  exact relayable

lemma Router.QueueWalled.rebroadcast (queue : r.QueueWalled) (m : Medium)
    (relayable : effect.Relayable r) : r.Discreet (r.rebroadcast m effect) := by
  cases effect with
  | rebroadcast dest raw only source =>
    cases only with
    | none =>
      have sends := r.paidTake_sends m dest .announce source
      refine .after sends ((queue.paidTake m dest .announce source).announceOn m ?_)
      intro id member
      apply mayRelay_of_not_leaf
      · rw [isLeaf, sends.leaf]
        exact relayable
      · exact withoutLeaves_not_leaf member
    | some attached =>
      rw [Router.rebroadcast]
      split
      · exact queue.silent
      rename_i inside
      have gated := r.paidGate_sends attached dest .announce
      have kept := queue.of_sends gated rfl
      dsimp only
      split
      · refine .after gated (kept.sendAnnounceOn m ?_)
        apply gated.mayRelay.mpr
        apply mayRelay_of_not_leaf
        · exact relayable
        · exact Bool.eq_false_iff.mpr inside
      · exact .after gated kept.silent
  | transmit | closeWaiter | pathChanged | announced => exact queue.silent

lemma Router.QueueWalled.rebroadcastAll (queue : r.QueueWalled) (m : Medium)
    (relayable : ∀ effect ∈ effects, effect.Relayable r) :
    r.Discreet (r.rebroadcastAll m effects) := by
  induction effects generalizing r with
  | nil => exact queue.silent
  | cons effect rest induction =>
    have first := queue.rebroadcast m (relayable effect mem_cons_self)
    apply first.append
    apply induction first.queue
    intro other member
    exact (relayable other (mem_cons_of_mem _ member)).of_sends first.sends

lemma Router.QueueWalled.noteAnswers {source : String} (queue : r.QueueWalled)
    (may : ∀ id ∈ effects.filterMap Effect.sentOn, r.MayRelay (some source) id) :
    r.Discreet (r.noteAnswers dest source effects) := by
  induction effects generalizing r with
  | nil => exact queue.silent
  | cons effect rest induction =>
    cases effect with
    | transmit id raw =>
      rw [filterMap_cons] at may
      have later := @induction (r.note id dest .announce) queue
        fun other member => may other (mem_cons_of_mem id member)
      refine ⟨r.noteAnswers_sends dest source (.transmit id raw :: rest), later.queue, ?_⟩
      exact forall_mem_cons.mpr ⟨may id mem_cons_self, later.relayed⟩
    | rebroadcast | closeWaiter | pathChanged | announced => exact induction queue may

end

/-! ## Handlers -/

section
variable {r : Router} {meets : Prop}

/-- The tables for transit stay free of leaves, and if the step meets its
condition, nothing crosses into or out of one. -/
structure Router.Respects (meets : Prop) (r : Router) (out : Routed) : Prop where
  walled : r.toNode.Walled → out.1.toNode.Walled
  isolated : meets → r.Isolated → out.1.Isolated
  relayed : meets → r.Isolated → ∀ s ∈ out.2, r.MayRelay s.source s.iface

/-- Leaves and tables for transit are the same. -/
def Node.SameWalls (n n' : Node) : Prop :=
  (n'.leaf, n'.linkTable, n'.reverseTable) = (n.leaf, n.linkTable, n.reverseTable)

variable {n n' : Node} {ifaceID : String} {r' : Router} {out : Routed}
  {e : PathEntry} {pkt : Packet}

section
variable (same : n.SameWalls n')

include same

lemma Node.SameWalls.isLeaf (ifaceID : String) : n'.isLeaf ifaceID = n.isLeaf ifaceID := by
  rw [Node.isLeaf, Node.isLeaf, (Prod.mk.inj same).1]

lemma Node.SameWalls.walled (walled : n.Walled) : n'.Walled := by
  obtain ⟨linkTable, reverseTable⟩ := Prod.mk.inj (Prod.mk.inj same).2
  refine ⟨?_, ?_⟩
  · simp only [linkTable, same.isLeaf]
    exact walled.links
  simp only [reverseTable, same.isLeaf]
  exact walled.reverses

lemma Node.SameWalls.mayRelay : n'.MayRelay source ifaceID ↔ n.MayRelay source ifaceID := by
  simp only [Node.MayRelay, same.isLeaf]

end

namespace Router

lemma Sends.sameWalls (sends : r.Sends r') : r.toNode.SameWalls r'.toNode := by
  obtain ⟨_, _, _, _, rfl⟩ := sends
  exact rfl

lemma Discreet.isolated (discreet : r.Discreet out) (isolated : r.Isolated) : out.1.Isolated := by
  refine ⟨discreet.sends.sameWalls.walled isolated.walled, discreet.queue, ?_, ?_⟩
  · obtain ⟨_, _, _, _, same⟩ := discreet.sends
    rw [same]
    exact isolated.announces
  obtain ⟨_, _, _, _, same⟩ := discreet.sends
  rw [same]
  exact isolated.held

lemma Respects.of_sending (r' : Router) (same : r.toNode.SameWalls r'.toNode)
    (sends : r'.Sends out.1) (kept : meets → r.Isolated → r'.Isolated)
    (discreet : meets → r.Isolated → r'.Discreet out) : r.Respects meets out := by
  refine ⟨?_, ?_, ?_⟩
  · exact fun walled => sends.sameWalls.walled (same.walled walled)
  · exact fun met isolated =>
      (discreet met isolated).isolated (kept met isolated)
  exact fun met isolated s member =>
    same.mayRelay.mp ((discreet met isolated).relayed s member)

lemma Respects.of_quiet (walled : r.toNode.Walled → r'.toNode.Walled)
    (kept : meets → r.Isolated → r'.Isolated) : r.Respects meets (r', []) :=
  ⟨walled, kept, fun _ _ => forall_mem_nil _⟩

lemma Respects.nothing : r.Respects meets (r, []) :=
  .of_quiet id fun _ isolated => isolated

/-- Tables that isolation does not depend on may change. -/
structure SameTables (r r' : Router) : Prop where
  walls : r.toNode.SameWalls r'.toNode
  announces : (r'.announceQueue, r'.announceTable, r'.heldAnnounces, r'.answerFrom) =
    (r.announceQueue, r.announceTable, r.heldAnnounces, r.answerFrom)

lemma Isolated.of_same (isolated : r.Isolated) (same : r.SameTables r') : r'.Isolated := by
  obtain ⟨walls, announces⟩ := same
  simp only [Prod.mk.injEq] at announces
  obtain ⟨announceQueue, announceTable, heldAnnounces, answerFrom⟩ := announces
  refine ⟨walls.walled isolated.walled, ?_, ?_, ?_⟩
  · simp only [QueueWalled, announceQueue, walls.mayRelay]
    exact isolated.queue
  · simp only [Relayable, announceTable, answerFrom, walls.isLeaf]
    exact isolated.announces
  simp only [heldAnnounces, walls.isLeaf]
  exact isolated.held

lemma Respects.of_same (same : r.SameTables r') : r.Respects meets (r', []) :=
  .of_quiet same.walls.walled fun _ isolated => isolated.of_same same

lemma Respects.after (respects : r'.Respects meets out) (same : r.SameTables r') :
    r.Respects meets out := by
  refine ⟨?_, ?_, ?_⟩
  · exact fun walled => respects.walled (same.walls.walled walled)
  · exact fun met isolated => respects.isolated met (isolated.of_same same)
  exact fun met isolated s member => same.walls.mayRelay.mp
    (respects.relayed met (isolated.of_same same) s member)

lemma Respects.before (respects : r.Respects meets out) (same : out.1.SameTables r') :
    r.Respects meets (r', out.2) := by
  refine ⟨?_, ?_, respects.relayed⟩
  · exact fun walled => same.walls.walled (respects.walled walled)
  · exact fun met isolated => (respects.isolated met isolated).of_same same

section
variable (r : Router) (m : Medium) (dest : TruncatedHash)

lemma announce_respects (ifaceID : String) (pathResponse : Bool) :
    r.Respects meets (r.announce m dest ifaceID pathResponse) :=
  .of_sending r rfl (r.announce_sends m dest ifaceID pathResponse) (fun _ isolated => isolated)
    fun _ isolated => isolated.queue.announce m dest ifaceID pathResponse

lemma requestPathWith_respects (freeOnly : Bool) (channel : Nat) (tag : TruncatedHash) :
    r.Respects meets (r.requestPathWith m dest freeOnly channel tag) := by
  rw [requestPathWith]
  split
  · exact .nothing
  dsimp only
  generalize r.pathWaiters.put _ = waiters
  have same : r.SameTables { r with pathWaiters := waiters } := ⟨rfl, rfl⟩
  cases freeOnly with
  | true =>
    exact .of_sending _ same.walls (sendPathRequests_sends _ dest tag none _)
      (fun _ isolated => isolated.of_same same)
      fun _ isolated => (isolated.of_same same).queue.sendPathRequests fun id _ => mayRelay_none
  | false =>
    have sends := paidTake_sends { r with pathWaiters := waiters } m dest .pathRequest ""
    refine .of_sending _ same.walls (sends.trans (sendPathRequests_sends _ dest tag none _))
      (fun _ isolated => isolated.of_same same) ?_
    intro _ isolated
    have taken := (isolated.of_same same).queue.paidTake m dest .pathRequest ""
    exact .after sends (taken.sendPathRequests fun id _ => mayRelay_none)

end

/-! ### Path requests -/

lemma search_respects (r : Router) (m : Medium) (q : PathRequest)
    (inside : r.isLeaf ifaceID = false) : r.Respects meets (r.search m q ifaceID) := by
  rw [search]
  split
  · exact .of_same ⟨rfl, rfl⟩
  dsimp only
  generalize made : (⟨q.dest, _, _, true⟩ : DiscoveryEntry).askedOn ifaceID = d
  have same : r.SameTables (r.putDiscovery d) := ⟨rfl, rfl⟩
  have sends := (r.putDiscovery d).paidTake_sends m q.dest .pathRequest ifaceID
  refine .of_sending _ same.walls (sends.trans (sendPathRequests_sends _ q.dest _ (some ifaceID) _))
    (fun _ isolated => isolated.of_same same) ?_
  intro _ isolated
  have taken := (isolated.of_same same).queue.paidTake m q.dest .pathRequest ifaceID
  refine .after sends (taken.sendPathRequests ?_)
  intro id member
  apply mayRelay_of_not_leaf
  · rw [isLeaf, sends.leaf]
    exact inside
  · exact withoutLeaves_not_leaf (mem_filter.mp member).1

lemma queueAnswer_isolated (isolated : r.Isolated)
    (learned : r.isLeaf e.iface = false) (inside : r.isLeaf ifaceID = false)
    (ann : Announce) (dest : TruncatedHash) : (r.queueAnswer e ann dest ifaceID).Isolated := by
  refine ⟨⟨isolated.walled.links, isolated.walled.reverses⟩, isolated.queue, ?_, ?_⟩
  · intro other stored
    rcases mem_put.mp stored with rfl | ⟨before, different⟩
    · rw [Relayable]
      dsimp only
      split
      · rename_i unnamed
        rw [unnamed] at inside
        exact inside
      refine ⟨rfl, ?_⟩
      rw [queueAnswer]
      dsimp only
      rw [Function.update_self]
      exact learned
    have relayable := isolated.announces other before
    rw [Relayable] at relayable ⊢
    rw [queueAnswer]
    dsimp only
    rw [Function.update_of_ne different]
    exact relayable
  intro other stored
  rw [queueAnswer] at stored
  split at stored
  · rename_i kept found
    split at stored
    · exact isolated.held other stored
    rename_i unblocked
    rcases mem_put.mp stored with rfl | ⟨before, _⟩
    · have relayable := isolated.announces other (mem_of_get? found)
      rw [Relayable] at relayable
      split at relayable
      · rename_i unattached
        exact ⟨unattached, relayable⟩
      · exact absurd relayable.1 unblocked
    · exact isolated.held other before
  · exact isolated.held other stored

lemma answerOrSearch_respects (r : Router) (m : Medium) (q : PathRequest)
    (inside : r.isLeaf ifaceID = false) : r.Respects meets (r.answerOrSearch m q ifaceID) := by
  rw [answerOrSearch]
  split
  · exact r.search_respects m q inside
  rename_i e _
  split
  · exact r.search_respects m q inside
  rename_i ann _
  split
  · exact .of_same ⟨rfl, rfl⟩
  split
  · exact .of_same ⟨rfl, rfl⟩
  rename_i crosses
  rw [crossesLeaf, inside, Bool.false_or, Bool.not_eq_true] at crosses
  apply Respects.of_quiet
  · exact fun walled => ⟨walled.links, walled.reverses⟩
  intro _ isolated
  have kept := queueAnswer_isolated isolated crosses inside ann q.dest
  exact kept.of_same ⟨rfl, rfl⟩

lemma handlePathRequest_respects (r : Router) (m : Medium)
    (pkt : Packet) : r.Respects meets (r.handlePathRequest m pkt) := by
  rw [handlePathRequest]
  split
  · exact .nothing
  rename_i q _
  dsimp only
  split
  · exact .nothing
  split
  · split
    · exact .after (announce_respects _ m q.dest pkt.iface true) ⟨rfl, rfl⟩
    · exact .of_same ⟨rfl, rfl⟩
  rename_i inside
  split
  · exact .of_same ⟨rfl, rfl⟩
  split
  · refine .before (.after (announce_respects _ m q.dest pkt.iface true) ?_) ?_
    · exact ⟨rfl, rfl⟩
    · exact ⟨rfl, rfl⟩
  refine .after (answerOrSearch_respects _ m q ?_) ⟨rfl, rfl⟩
  exact Bool.eq_false_iff.mpr inside

/-! ### Announces -/

lemma Relayable.repeats {e next : AnnounceEntry} (relayable : r.Relayable e)
    (repeats : e.Repeats next) : r.Relayable next := by
  rw [Relayable] at relayable ⊢
  rw [repeats.attached, repeats.source, repeats.blocked, repeats.dest]
  exact relayable

lemma Isolated.noteAnnounce (isolated : r.Isolated) (pkt : Packet) :
    Isolated { r with toNode := r.toNode.noteAnnounce pkt } := by
  refine ⟨⟨isolated.walled.links, isolated.walled.reverses⟩, isolated.queue, ?_, isolated.held⟩
  intro e stored
  obtain ⟨kept, before, repeats⟩ := mem_noteAnnounce stored
  exact Relayable.repeats (isolated.announces kept before) repeats

lemma Isolated.learnTables (isolated : Isolated { r with toNode := n })
    (crypto : Crypto) (delay : Int) (pkt : Packet) (ann : Announce) : Isolated
      { r with toNode := n.learnTables crypto delay pkt ann } := by
  refine ⟨⟨isolated.walled.links, isolated.walled.reverses⟩, isolated.queue, ?_, isolated.held⟩
  intro e stored
  rw [Node.learnTables] at stored
  split at stored
  · rename_i repeated
    rcases mem_put.mp stored with rfl | ⟨before, _⟩
    · exact repeated.2
    · exact isolated.announces e before
  · exact isolated.announces e stored

end Router

/-- Only what was heard off the leaves is answered with, and only off the
leaves. -/
lemma Node.mem_answerOn {id : String} (member : id ∈ n.withoutLeaves (n.answerOn pkt)) :
    n.isLeaf pkt.iface = false ∧ n.isLeaf id = false := by
  refine ⟨?_, withoutLeaves_not_leaf member⟩
  have asked := (mem_filter.mp member).1
  rw [answerOn] at asked
  split at asked
  · split at asked
    · exact absurd asked not_mem_nil
    rename_i inside
    exact Bool.eq_false_iff.mpr inside
  · exact absurd asked not_mem_nil

namespace Router

lemma learn_respects {n : Node} (crypto : Crypto) (delay : Int)
    (pkt : Packet) (ann : Announce) : Respects meets { r with toNode := n }
      (noteAnswers { r with toNode := (n.learn crypto delay pkt ann).1 }
        pkt.hdr.destHash pkt.iface (n.learn crypto delay pkt ann).2) := by
  have books := Sends.of_books (@Node.answer_books
      ({ r with toNode := n.learnTables crypto delay pkt ann } : Router).toNode pkt.hdr.destHash
      (ann.marshalPacketTransport n.idHash pkt.hdr.hops contextPathResponse)
      (n.withoutLeaves (n.answerOn pkt)))
  refine .of_sending { r with toNode := n.learnTables crypto delay pkt ann }
    rfl (books.trans (noteAnswers_sends _ _ _ _))
    (fun _ isolated => isolated.learnTables crypto delay pkt ann) ?_
  intro _ isolated
  have learned := isolated.learnTables crypto delay pkt ann
  refine .after books ((learned.queue.of_sends books rfl).noteAnswers ?_)
  intro id member
  rw [learn_sentOn] at member
  have asked := (answer_sublist _ _ _ _).subset member
  obtain ⟨heard, sent⟩ := mem_answerOn asked
  apply books.mayRelay.mpr
  exact mayRelay_of_not_leaf heard sent

lemma handleAnnounce_respects (r : Router) : r.Respects meets (r.handleAnnounce crypto m pkt) := by
  rw [handleAnnounce, Node.handleAnnounce]
  cases parseAnnounce crypto pkt.hdr with
  | none => exact .nothing
  | some ann =>
    dsimp only
    split
    · exact .of_same ⟨rfl, rfl⟩
    have walls : r.toNode.SameWalls (r.toNode.noteAnnounce pkt) :=
      rfl
    split
    · have learned := @Router.learn_respects r meets
        (r.toNode.noteAnnounce pkt) crypto m.delay pkt ann
      refine ⟨?_, ?_, ?_⟩
      · exact fun walled => learned.walled (walls.walled walled)
      · exact fun met isolated =>
          learned.isolated met (isolated.noteAnnounce pkt)
      exact fun met isolated =>
        learned.relayed met (isolated.noteAnnounce pkt)
    · exact .of_quiet walls.walled fun _ isolated => isolated.noteAnnounce pkt

lemma Isolated.processAnnounceTable (isolated : r.Isolated) :
    Isolated { r with toNode := r.toNode.processAnnounceTable.1 } := by
  refine ⟨⟨isolated.walled.links, isolated.walled.reverses⟩, isolated.queue, ?_, ?_⟩
  · intro next stored
    obtain ⟨e, before, processed⟩ := mem_filterMap.mp stored
    rcases processEntry_cases processed with ⟨held, _⟩ | repeats
    · obtain ⟨unattached, inside⟩ := isolated.held next held
      rw [Relayable, if_pos unattached]
      exact inside
    · exact Relayable.repeats (isolated.announces e before) repeats
  intro e stored
  exact isolated.held e (mem_deleteWhere.mp stored).1

lemma Isolated.relayable (isolated : r.Isolated) :
    ∀ effect ∈ r.toNode.processAnnounceTable.2, effect.Relayable r := by
  intro effect member
  obtain ⟨e, due, rfl⟩ := mem_map.mp member
  have relayable := isolated.announces e (mem_filter.mp due).1
  rw [Relayable] at relayable
  by_cases unattached : e.attachedIface = ""
  · rw [if_pos unattached] at relayable ⊢
    exact relayable
  rw [if_neg unattached] at relayable ⊢
  exact relayable.2

lemma processAnnounces_respects (r : Router) (m : Medium) :
    r.Respects meets (r.processAnnounces m) := by
  refine .of_sending { r with toNode := r.toNode.processAnnounceTable.1 }
    rfl (rebroadcastAll_sends _ m _)
    (fun _ isolated => isolated.processAnnounceTable) ?_
  intro _ isolated
  apply isolated.processAnnounceTable.queue.rebroadcastAll m
  intro effect member
  have due := (perm_insertionSort _ _).mem_iff.mp member
  have relayable := isolated.relayable effect due
  cases effect with
  | rebroadcast dest raw only source =>
    cases only with
    | none => exact relayable
    | some attached => exact relayable
  | transmit | closeWaiter | pathChanged | announced => trivial

lemma rotate_sameTables (r : Router) : r.SameTables r.rotate := by
  rw [rotate]
  split
  · split
    · exact ⟨rfl, rfl⟩
    · exact ⟨rfl, rfl⟩
  split
  · exact ⟨rfl, rfl⟩
  · exact ⟨rfl, rfl⟩

end Router

lemma Node.Walled.expire (walled : n.Walled) : n.expireTables.expireDiscovery.Walled :=
  ⟨fun e stored => walled.links e (mem_deleteWhere.mp stored).1,
    fun e stored => walled.reverses e (mem_deleteWhere.mp stored).1⟩

lemma Router.jobs_respects (r : Router) (m : Medium) : r.Respects meets (r.jobs m) := by
  have sent := @Router.processAnnounces_respects meets r m
  have swept : r.Respects meets ({ (r.processAnnounces m).1 with
          toNode := (r.processAnnounces m).1.toNode.expireTables.expireDiscovery },
        (r.processAnnounces m).2) := by
    refine ⟨?_, ?_, sent.relayed⟩
    · exact fun walled => (sent.walled walled).expire
    intro met isolated
    have kept := sent.isolated met isolated
    exact { kept with walled := kept.walled.expire }
  exact swept.before (rotate_sameTables _)

/-! ### Transit -/

/-- Tables for transit may change too. -/
def Router.SameAnnounces (r r' : Router) : Prop :=
  (r'.leaf, r'.announceQueue, r'.announceTable, r'.heldAnnounces, r'.answerFrom) =
    (r.leaf, r.announceQueue, r.announceTable, r.heldAnnounces, r.answerFrom)

lemma Router.Isolated.of_walled (isolated : r.Isolated) (same : r.SameAnnounces r')
    (walled : r'.toNode.Walled) : r'.Isolated := by
  simp only [Router.SameAnnounces, Prod.mk.injEq] at same
  obtain ⟨leaf, announceQueue, announceTable, heldAnnounces, answerFrom⟩ := same
  have isLeaf : ∀ ifaceID, r'.isLeaf ifaceID = r.isLeaf ifaceID :=
    fun ifaceID => by rw [isLeaf, isLeaf, leaf]
  refine ⟨walled, ?_, ?_, ?_⟩
  · simp only [Router.QueueWalled, Node.MayRelay, announceQueue, isLeaf]
    exact isolated.queue
  · simp only [Router.Relayable, announceTable, answerFrom, isLeaf]
    exact isolated.announces
  simp only [heldAnnounces, isLeaf]
  exact isolated.held

lemma Router.Respects.of_relay (h : Header) (same : r.SameAnnounces r')
    (walled : r.toNode.Walled → r'.toNode.Walled)
    (may : meets → r.Isolated → r.MayRelay (some pkt.iface) ifaceID) :
    r.Respects meets (r', [Router.relay pkt ifaceID h]) := by
  refine ⟨walled, ?_, ?_⟩
  · exact fun _ isolated => isolated.of_walled same (walled isolated.walled)
  intro met isolated s member
  rw [mem_singleton.mp member]
  exact may met isolated

section
variable (walled : r.toNode.Walled) (stays : r.crossesLeaf pkt.iface e.iface = false)

include walled stays

lemma Node.Walled.putLink (linkID : TruncatedHash) : (r.putLink e pkt linkID).toNode.Walled := by
  refine ⟨?_, walled.reverses⟩
  exact forall_mem_put (Bool.or_eq_false_iff.mp stays) walled.links

lemma Node.Walled.putReverse : (r.putReverse e pkt).toNode.Walled := by
  refine ⟨walled.links, ?_⟩
  exact forall_mem_put (Bool.or_eq_false_iff.mp stays) walled.reverses

end

lemma Node.mayRelay_of_stays (stays : n.crossesLeaf input output = false) : n.MayRelay
    (some input) output := by
  obtain ⟨heard, sent⟩ := Bool.or_eq_false_iff.mp stays
  exact mayRelay_of_not_leaf heard sent

lemma Router.forwardTransport_respects (forwarded : r.forwardTransport x m pkt = some out) :
    r.Respects meets out := by
  rw [forwardTransport] at forwarded
  dsimp only at forwarded
  split at forwarded
  · cases forwarded
  split at forwarded
  · cases forwarded
    exact .nothing
  rename_i crosses
  have stays := Bool.eq_false_iff.mpr crosses
  split at forwarded
  · split at forwarded
    · cases forwarded
      exact .nothing
    rename_i id _
    cases forwarded
    refine .of_relay _ rfl ?_ fun _ _ => mayRelay_of_stays stays
    intro walled
    have put := walled.putLink stays id
    exact ⟨put.links, put.reverses⟩
  · cases forwarded
    refine .of_relay _ rfl ?_ fun _ _ => mayRelay_of_stays stays
    intro walled
    have put := walled.putReverse stays
    exact ⟨put.links, put.reverses⟩

lemma Router.forwardHeader1_respects (r : Router) : r.Respects meets (r.forwardHeader1 x pkt) := by
  rw [forwardHeader1]
  split
  · exact .nothing
  split
  · exact .nothing
  split
  · exact .nothing
  split
  · exact .nothing
  rename_i crosses
  have stays := Bool.eq_false_iff.mpr crosses
  apply Router.Respects.of_relay
  · split
    · split
      · exact rfl
      · exact rfl
    · exact rfl
  · intro walled
    split
    · split
      · exact walled.putLink stays _
      · exact walled
    · exact walled.putReverse stays
  · exact fun _ _ => mayRelay_of_stays stays

/-- A packet from a leaf that is taken for one of a link both of whose ends
are one other interface. -/
def Router.Astray (r : Router) (pkt : Packet) : Prop :=
  r.isLeaf pkt.iface = true ∧ ∃ e, r.linkTable.get? pkt.hdr.destHash = some e ∧ e.validated = true ∧
      e.nextHopIface = e.receivedIface ∧ (e.otherEnd pkt).isSome = true

lemma LinkEntry.otherEnd_cases {e : LinkEntry} (found : e.otherEnd pkt = some ifaceID) :
    (e.nextHopIface = e.receivedIface ∧ ifaceID = e.nextHopIface) ∨
    (pkt.iface = e.nextHopIface ∧ ifaceID = e.receivedIface) ∨
    (pkt.iface = e.receivedIface ∧ ifaceID = e.nextHopIface) := by
  rw [LinkEntry.otherEnd] at found
  split at found
  · rename_i same
    split at found
    · cases found
      exact .inl ⟨same, rfl⟩
    · cases found
  split at found
  · rename_i next
    split at found
    · cases found
      exact .inr (.inl ⟨next, rfl⟩)
    · cases found
  split at found
  · rename_i previous
    split at found
    · cases found
      exact .inr (.inr ⟨previous, rfl⟩)
    · cases found
  · cases found

namespace Router

lemma linkTransit_respects (carried : r.linkTransit pkt = some out) :
    r.Respects (¬r.Astray pkt) out := by
  rw [linkTransit] at carried
  split at carried
  · cases carried
  rename_i e found
  split at carried
  · cases carried
    exact .nothing
  rename_i checked
  split at carried
  · cases carried
    exact .nothing
  rename_i ifaceID end_
  cases carried
  refine .of_relay _ rfl ?_ ?_
  · intro walled
    refine ⟨?_, walled.reverses⟩
    exact forall_mem_put (walled.links e (mem_of_get? found)) walled.links
  intro kept isolated
  obtain ⟨received, next⟩ := isolated.walled.links e (mem_of_get? found)
  rcases LinkEntry.otherEnd_cases end_ with
    ⟨same, rfl⟩ | ⟨heard, rfl⟩ | ⟨heard, rfl⟩
  · -- The ends are one interface, and the packet may be from anywhere.
    refine mayRelay_of_not_leaf ?_ next
    rw [Bool.not_eq_true', Bool.not_eq_false] at checked
    cases leaf : r.isLeaf pkt.iface with
    | false => rfl
    | true =>
      refine absurd ⟨leaf, e, found, checked, same, ?_⟩ kept
      rw [end_]
      rfl
  · exact mayRelay_of_not_leaf (heard ▸ next) received
  · exact mayRelay_of_not_leaf (heard ▸ received) next

lemma lrProofTransit_respects (carried : r.lrProofTransit x pkt = some out) :
    r.Respects meets out := by
  rw [lrProofTransit] at carried
  split at carried
  · cases carried
  rename_i e found
  split at carried
  · cases carried
    exact .nothing
  rename_i placed
  obtain ⟨_, heard⟩ := not_or.mp placed
  rw [not_not] at heard
  split at carried
  · cases carried
    exact .nothing
  split at carried
  · cases carried
    refine .of_relay _ rfl ?_ ?_
    · intro walled
      refine ⟨?_, walled.reverses⟩
      exact forall_mem_put (walled.links e (mem_of_get? found)) walled.links
    intro _ isolated
    obtain ⟨received, next⟩ := isolated.walled.links e (mem_of_get? found)
    exact mayRelay_of_not_leaf (heard ▸ next) received
  · cases carried
    exact .nothing

lemma proofTransit_respects (r : Router) (pkt : Packet) :
    r.Respects meets (r.proofTransit pkt) := by
  have kept : r.toNode.Walled → Node.Walled
      { r.toNode with
        reverseTable := r.reverseTable.deleteWhere fun other =>
          other.packetHash = pkt.hdr.destHash } :=
    fun walled => ⟨walled.links, fun e stored => walled.reverses e (mem_deleteWhere.mp stored).1⟩
  rw [proofTransit]
  split
  · exact .nothing
  rename_i e found
  split
  · refine .of_quiet kept ?_
    exact fun _ isolated =>
      isolated.of_walled rfl (kept isolated.walled)
  rename_i placed
  rw [not_not] at placed
  refine .of_relay _ rfl kept ?_
  intro _ isolated
  obtain ⟨received, outbound⟩ := isolated.walled.reverses e (mem_of_get? found)
  exact mayRelay_of_not_leaf (placed ▸ outbound) received

section
variable (r : Router) (crypto : Crypto) (x : LinkChecks) (m : Medium) (pkt : Packet)

lemma dispatch_respects : r.Respects meets (r.dispatch crypto x m pkt) := by
  rw [dispatch]
  split
  · exact r.handleAnnounce_respects
  · split
    · exact .nothing
    · exact r.forwardHeader1_respects
  · split
    · exact .nothing
    · exact .nothing
    · split
      · exact r.handlePathRequest_respects m pkt
      · exact .nothing
    split
    · exact .nothing
    · exact r.forwardHeader1_respects
  split
  · cases carried : r.lrProofTransit x pkt with
    | none => exact .nothing
    | some out => exact lrProofTransit_respects carried
  split
  · exact .nothing
  · exact r.proofTransit_respects pkt

lemma route_respects : r.Respects (¬r.Astray pkt) (r.route crypto x m pkt) := by
  have onward : r.Respects (¬r.Astray pkt) (if pkt.hdr.packetType ≠ .announce ∧
          pkt.hdr.packetType ≠ .linkRequest ∧ pkt.hdr.context ≠ contextLRProof then
        (r.linkTransit pkt).getD (r.dispatch crypto x m pkt)
      else r.dispatch crypto x m pkt) := by
    split
    · cases carried : r.linkTransit pkt with
      | none => exact r.dispatch_respects crypto x m pkt
      | some out => exact linkTransit_respects carried
    · exact r.dispatch_respects crypto x m pkt
  rw [route]
  split
  · split
    · exact .nothing
    split
    · rename_i forwarded
      exact forwardTransport_respects forwarded
    split
    · exact onward
    · exact .nothing
  · exact onward

end

def counted (r : Router) (hdr : Header) (hash : FullHash) (ifaceID : String) : Packet :=
  ⟨r.countHops (r.unwrapNeighbour hdr) ifaceID, hash, ifaceID⟩

lemma inbound_respects (r : Router) {crypto : Crypto}
    {x : LinkChecks} {m : Medium} {hdr : Header} {hash : FullHash} {ifaceID : String} :
    r.Respects (¬r.Astray (r.counted hdr hash ifaceID))
      (r.inbound crypto x m hdr hash ifaceID) := by
  rw [inbound]
  dsimp only
  split
  · exact .nothing
  split
  · exact .after ((r.remember hash).route_respects crypto x m
      (r.counted hdr hash ifaceID)) ⟨rfl, rfl⟩
  · exact r.route_respects crypto x m (r.counted hdr hash ifaceID)

end Router

/-! ### Marks -/

/-- What was heard on the interface waits nowhere, and nothing that was heard
elsewhere waits for it. -/
structure Router.MayMark (r : Router) (ifaceID : String) : Prop where
  answers : ∀ e ∈ r.announceTable.entries, e.attachedIface ≠ "" →
    e.attachedIface ≠ ifaceID → r.answerFrom e.dest ≠ ifaceID
  pending : ∀ q ∈ r.announceQueue.entries, ∀ a ∈ q.pending, ∀ heard,
    a.source = some heard → heard ≠ ifaceID ∧ q.iface ≠ ifaceID

lemma Node.isLeaf_setLeaf (n : Node) (ifaceID : String) (leaf : Bool) (other : String) :
    (n.setLeaf ifaceID leaf).isLeaf other = if other = ifaceID then leaf else n.isLeaf other := by
  rw [setLeaf]
  split
  · rename_i unchanged
    split
    · rename_i same
      rw [same]
      exact unchanged
    · rfl
  rw [isLeaf, isLeaf]
  cases leaf with
  | true =>
    by_cases same : other = ifaceID
    · simp [same]
    · simp [same]
  | false =>
    by_cases same : other = ifaceID
    · simp [same]
    · simp [same]

lemma Node.Walled.setLeaf (walled : n.Walled) (ifaceID : String) (leaf : Bool) :
    (n.setLeaf ifaceID leaf).Walled := by
  by_cases unchanged : n.isLeaf ifaceID = leaf
  · rw [Node.setLeaf, if_pos unchanged]
    exact walled
  refine ⟨?_, ?_⟩
  · intro e stored
    rw [isLeaf_setLeaf, isLeaf_setLeaf]
    rw [Node.setLeaf, if_neg unchanged] at stored
    obtain ⟨before, kept⟩ := mem_deleteWhere.mp stored
    obtain ⟨received, next⟩ := not_or.mp (of_decide_eq_false kept)
    rw [if_neg received, if_neg next]
    exact walled.links e before
  intro e stored
  rw [isLeaf_setLeaf, isLeaf_setLeaf]
  rw [Node.setLeaf, if_neg unchanged] at stored
  obtain ⟨before, kept⟩ := mem_deleteWhere.mp stored
  obtain ⟨received, outbound⟩ := not_or.mp (of_decide_eq_false kept)
  rw [if_neg received, if_neg outbound]
  exact walled.reverses e before

lemma Router.setLeaf_respects (r : Router) {ifaceID : String} {leaf : Bool} :
    r.Respects (leaf = true → r.MayMark ifaceID)
      ({ r with toNode := r.toNode.setLeaf ifaceID leaf }, []) := by
  refine .of_quiet (fun walled => walled.setLeaf ifaceID leaf) ?_
  intro may isolated
  by_cases unchanged : r.isLeaf ifaceID = leaf
  · rw [setLeaf, if_pos unchanged]
    exact isolated
  -- An interface that was no leaf and is not marked now is none.
  have stays : ∀ other, r.isLeaf other = false → (leaf = true → other ≠ ifaceID) →
      (r.toNode.setLeaf ifaceID leaf).isLeaf other = false := by
    intro other inside unmarked
    rw [isLeaf_setLeaf]
    split
    · rename_i same
      cases leaf with
      | true => exact absurd same (unmarked rfl)
      | false => rfl
    · exact inside
  refine ⟨isolated.walled.setLeaf ifaceID leaf, ?_, ?_, ?_⟩
  · intro q stored a waiting heard source
    obtain ⟨inside, sent⟩ := isolated.queue q stored a waiting heard source
    refine ⟨stays heard inside ?_, stays q.iface sent ?_⟩
    · exact fun marked =>
        ((may marked).pending q stored a waiting heard source).1
    exact fun marked =>
      ((may marked).pending q stored a waiting heard source).2
  · intro e stored
    rw [setLeaf, if_neg unchanged] at stored
    obtain ⟨before, kept⟩ := mem_deleteWhere.mp stored
    obtain ⟨source, attached⟩ := not_or.mp (of_decide_eq_false kept)
    have relayable := isolated.announces e before
    rw [Router.Relayable] at relayable ⊢
    split
    · rename_i unattached
      rw [if_pos unattached] at relayable
      exact stays _ relayable fun _ => source
    rename_i named
    rw [if_neg named] at relayable
    refine ⟨relayable.1, stays _ relayable.2 ?_⟩
    exact fun marked => (may marked).answers e before named attached
  intro e stored
  rw [setLeaf, if_neg unchanged] at stored
  obtain ⟨before, kept⟩ := mem_deleteWhere.mp stored
  obtain ⟨source, _⟩ := not_or.mp (of_decide_eq_false kept)
  obtain ⟨unattached, inside⟩ := isolated.held e before
  exact ⟨unattached, stays _ inside fun _ => source⟩

end

/-! ## Runs -/

/-- No packet from a leaf is taken for one of a link whose ends are one other
interface, and an interface is marked only when nothing that was heard waits
on one of its sides. -/
def Router.Meets (r : Router) : RouterAction → Prop
  | .inbound _ hdr hash ifaceID => ¬r.Astray (r.counted hdr hash ifaceID)
  | .setLeaf ifaceID leaf => leaf = true → r.MayMark ifaceID
  | _ => True

lemma Router.step_respects {crypto : Crypto} {x : LinkChecks} {r : Router}
    {action : RouterAction} : r.Respects (r.Meets action) (r.step crypto x action) := by
  cases action with
  | inbound m hdr hash ifaceID => exact r.inbound_respects
  | jobs m => exact r.jobs_respects m
  | flush m ifaceID =>
    exact .of_sending r rfl (r.flushAnnounceQueue_sends m ifaceID) (fun _ isolated => isolated)
      fun _ isolated => isolated.queue.flushAnnounceQueue m ifaceID
  | announce m dest ifaceID pathResponse => exact r.announce_respects m dest ifaceID pathResponse
  | requestPath m dest freeOnly channel tag =>
    exact r.requestPathWith_respects m dest freeOnly channel tag
  | stopWaiting dest channel =>
    rw [step, stopWaiting]
    split
    · exact .nothing
    · exact .of_same ⟨rfl, rfl⟩
  | setPaidPolicy p =>
    rw [step, setPaidPolicy]
    split
    · exact .of_same ⟨rfl, rfl⟩
    · exact .of_same ⟨rfl, rfl⟩
  | setLeaf ifaceID leaf => exact r.setLeaf_respects
  | addDestination | putPath | removePath | usePath | rememberIdentity | tick =>
    exact .of_same ⟨rfl, rfl⟩

/-- In every run no entry for transit has a leaf at either end; and in every
run whose steps meet their condition, what is relayed was not heard on a leaf
and does not leave on one. -/
theorem leaf_isolation (crypto : Crypto) (x : LinkChecks)
    (idHash pathRequestDest : TruncatedHash) (pathTTL now : Int)
    (forwardHeader1From : List String) (r : Router) :
    let start := Router.new idHash pathRequestDest pathTTL now forwardHeader1From
    ((routerSystem crypto x start).Reachable r → r.toNode.Walled) ∧
    ((routerSystem crypto x start).Reaches Router.Meets start r → ∀ action, r.Meets action →
        ∀ s ∈ (r.step crypto x action).2, ∀ heard, s.source = some heard →
          r.isLeaf heard = false ∧ r.isLeaf s.iface = false) := by
  intro start
  constructor
  · intro reachable
    apply reachable.invariant
    · exact ⟨forall_mem_nil _, forall_mem_nil _⟩
    intro r' action next walled executed
    cases executed
    exact step_respects.walled walled
  intro run action meets s member
  have isolated : r.Isolated := by
    apply run.preserves
    · intro r' taken next kept met executed
      cases executed
      exact step_respects.isolated met kept
    exact ⟨⟨forall_mem_nil _, forall_mem_nil _⟩,
      forall_mem_nil _, forall_mem_nil _, forall_mem_nil _⟩
  exact step_respects.relayed meets isolated s member

def shoreMedium : Medium :=
  { satelliteMedium with
    floodable := ["mesh_0", "tcp_0"]
    bitrate := fun _ => 300 }

def heardOn (ifaceID : String) : RouterAction :=
  .inbound shoreMedium (stampedAnnounce 5).hdr (FixedBytes.copy _ [7]) ifaceID

/-- An announce heard on the mesh is not repeated on a leaf. -/
theorem leaf_isolation_shore :
    let r := (routerSystem permissiveCrypto noLinks satelliteNode).runFrom
      satelliteNode [.setLeaf "tcp_0" true, heardOn "mesh_0", .tick 1]
    let out := r.step permissiveCrypto noLinks (.jobs shoreMedium)
    r.toNode.Walled ∧ out.2.map (fun s => (s.iface, s.source)) = [("mesh_0", some "mesh_0")] ∧
      ∀ s ∈ out.2, ∀ heard, s.source = some heard →
        r.isLeaf heard = false ∧ r.isLeaf s.iface = false := by
  intro r out
  have run : (routerSystem permissiveCrypto noLinks satelliteNode).Reaches
      Router.Meets satelliteNode r := by
    refine .step (.tick 1) (.step (heardOn "mesh_0")
      (.step (.setLeaf "tcp_0" true) (.refl _) ?_ rfl) ?_ rfl) trivial rfl
    · exact fun _ => ⟨forall_mem_nil _, forall_mem_nil _⟩
    rintro ⟨_, e, found, _⟩
    cases found
  have isolation := leaf_isolation permissiveCrypto noLinks
    (FixedBytes.copy _ [1]) (FixedBytes.copy _ [2]) 0 0 [] r
  refine ⟨isolation.1 run.reachable, by decide +kernel, ?_⟩
  exact isolation.2 run (.jobs shoreMedium) trivial

/-- Takes the destination of a request for the id of the link, and every
proof. -/
def anyLinks : LinkChecks := ⟨fun h => some h.destHash, fun _ _ => true⟩

def identityOf (dest : TruncatedHash) : KnownIdentity where
  destHash := dest
  publicKey := []
  identity := some ⟨[], []⟩
  appData := []
  ratchet := none
  ratchetAt := 0
  lastSeen := 0

def zeroPacket (headerType : HeaderType) (destType : DestType)
    (packetType : PacketType) (context : UInt8) : Header where
  headerType := headerType
  contextFlag := false
  transportType := .transport
  destType := destType
  packetType := packetType
  hops := 0
  transportID := FixedBytes.copy _ [1]
  destHash := FixedBytes.zero _
  context := context
  data := []

/-- An announce that waits leaves on an interface that was marked meanwhile;
a path learned on an interface is told to others after it was marked; and a
packet from a leaf is passed on as one of a link on the mesh. -/
theorem leaf_isolation_leaks :
    (let r := (routerSystem permissiveCrypto noLinks satelliteNode).runFrom satelliteNode
        [.announce shoreMedium (FixedBytes.copy _ [3]) "tcp_0" false,
          heardOn "mesh_0", .tick 1, .jobs shoreMedium, .setLeaf "tcp_0" true]
      let out := r.step permissiveCrypto noLinks (.flush shoreMedium "tcp_0")
      out.2.map (fun s => (s.iface, s.source)) = [("tcp_0", some "mesh_0")] ∧
        r.isLeaf "tcp_0" = true) ∧
    (let r := (routerSystem permissiveCrypto noLinks satelliteNode).runFrom satelliteNode
        [heardOn "tcp_0", .inbound shoreMedium
            (pathRequestFor (FixedBytes.copy _ [2]) (FixedBytes.zero _))
            (FixedBytes.copy _ [8]) "mesh_0", .setLeaf "tcp_0" true, .tick 400000001]
      let out := r.step permissiveCrypto noLinks (.jobs shoreMedium)
      out.2.map (fun s => (s.iface, s.source)) = [("mesh_0", some "tcp_0")] ∧
        r.isLeaf "tcp_0" = true) ∧
    (let r := (routerSystem permissiveCrypto anyLinks satelliteNode).runFrom satelliteNode
        [heardOn "mesh_0", .rememberIdentity (identityOf (FixedBytes.zero _)), .inbound shoreMedium
            (zeroPacket .type2 .single .linkRequest contextNone) (FixedBytes.copy _ [8]) "mesh_0",
          .inbound shoreMedium { zeroPacket .type1 .link .proof contextLRProof with hops := 1 }
            (FixedBytes.copy _ [9]) "mesh_0", .setLeaf "tcp_0" true]
      let out := r.step permissiveCrypto anyLinks
        (.inbound shoreMedium (zeroPacket .type1 .link .data contextNone)
          (FixedBytes.copy _ [10]) "tcp_0")
      out.2.map (fun s => (s.iface, s.source)) = [("mesh_0", some "tcp_0")] ∧
        r.isLeaf "tcp_0" = true) := by
  decide +kernel

end MeshSat.Rns
