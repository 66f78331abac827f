import MeshSat.Library.Keyed
import MeshSat.Oob.Frame
import MeshSat.Oob.Window

/-!
# Frames received

Several receivers take frames at once: the mesh path, and one for each
gateway. A receiver reads the peer's row, checks the counter against the
window it read, opens the frame, marks the counter in its own copy and writes
the copy back; then it acts on the frame. The read and the write are two
steps of the database, with the steps of other receivers between them.
-/

namespace MeshSat.Oob

open Library TransitionSystem List Keyed

/-! ## Receivers -/

structure OOBPeer where
  peerID : UInt16
  enabled : Bool := true
  localRole : Role
  rxHigh : UInt32 := 0
  rxWindow : UInt64 := 0
  deriving DecidableEq

def OOBPeer.window (peer : OOBPeer) : Window where
  high := peer.rxHigh
  bitmap := peer.rxWindow

/-- Why a frame is rejected. -/
inductive Reject where
  | unknownPeer | disabledPeer | replay | noKey | badTag | expired
  deriving DecidableEq

def Reject.text : Reject → String
  | .unknownPeer => "unknown_peer"
  | .disabledPeer => "disabled_peer"
  | .replay => "replay"
  | .noKey => "no_key"
  | .badTag => "bad_tag"
  | .expired => "expired"

/-- A receiver between the read of the peer's row and the write of the
window. -/
structure Handler where
  id : Nat
  peerID : UInt16
  /-- The window it read, with the counter marked. -/
  window : Window
  frame : Frame
  deriving DecidableEq

/-- What a receiver makes of the bytes of a frame. -/
inductive Reading where
  | notAFrame | disabled
  | rejected (peerID : UInt16) (reason : Reject)
  | opened (handler : Handler)

/-- The first half of `HandleInbound`, up to the write. `key` is the peer's
key, if the key store has it. -/
def readFrame (cipher : Cipher) (peers : Keyed OOBPeer.peerID) (id : Nat)
    (wire : List UInt8) (enabled : Bool) (key : Option (List UInt8)) :
    Reading :=
  match parseHeader wire with
  | .error _ => .notAFrame
  | .ok h =>
    if !enabled then .disabled
    else
      match peers.get? h.peerID with
      | none => .rejected h.peerID .unknownPeer
      | some peer =>
        if !peer.enabled then .rejected h.peerID .disabledPeer
        else if !peer.window.check h.counter then
          .rejected h.peerID .replay
        else
          match key with
          | none => .rejected h.peerID .noKey
          | some key =>
            match openFrame cipher wire key peer.localRole.other with
            | .error _ => .rejected h.peerID .badTag
            | .ok frame => .opened {
                id
                peerID := peer.peerID
                window := peer.window.mark frame.counter
                frame }

def withWindow (window : Window) (peer : OOBPeer) : OOBPeer :=
  { peer with rxHigh := window.high, rxWindow := window.bitmap }

def saveOOBRxWindow (peerID : UInt16) (window : Window)
    (peers : Keyed OOBPeer.peerID) : Keyed OOBPeer.peerID :=
  peers.updateWhere (fun peer => peer.peerID = peerID) (withWindow window)

variable {peerID : UInt16} {peers : Keyed OOBPeer.peerID} {later : OOBPeer}

lemma mem_saveOOBRxWindow : later ∈ saveOOBRxWindow peerID window peers ↔
    ∃ old ∈ peers, (if old.peerID = peerID then withWindow window old else old) = later := by
  rw [saveOOBRxWindow, mem_updateWhere]
  simp

lemma get?_saveOOBRxWindow (peerID : UInt16) (window : Window)
    (peers : Keyed OOBPeer.peerID) (name : UInt16) :
    (saveOOBRxWindow peerID window peers).get? name = (peers.get? name).map fun old =>
        if old.peerID = peerID then withWindow window old else old := by
  rw [saveOOBRxWindow, get?_updateWhere]
  simp

/-- The service's clock, in nanoseconds. -/
structure ServiceClock where
  trusted : Bool := true
  now : Int := 0
  skew : Int := 0

def lateRequest (frame : Frame) (clock : ServiceClock) : Bool :=
  !frame.reply && frame.expiresAt ≠ 0 && clock.trusted && frame.expired clock.now clock.skew

/-- The service: the peers, the receivers at work, and the counters accepted,
acted on and rejected, newest first. -/
structure Service where
  peers : Keyed OOBPeer.peerID := .empty
  handlers : Keyed Handler.id := .empty
  accepted : List (UInt16 × UInt32) := []
  acted : List (UInt16 × UInt32) := []
  rejects : List (UInt16 × Reject) := []

def Handler.counter (handler : Handler) : UInt16 × UInt32 := (handler.peerID, handler.frame.counter)

inductive InboundAction where
  | pair (peerID : UInt16) (localRole : Role)
  | setEnabled (peerID : UInt16) (enabled : Bool)
  /-- A receiver reads the peer's row and opens the frame. -/
  | read (id : Nat) (wire : List UInt8) (enabled : Bool) (key : Option (List UInt8))
  /-- It writes the window, and acts on the frame; a write that fails is
  logged. -/
  | write (id : Nat) (fails : Bool) (clock : ServiceClock)

def enable (enabled : Bool) (peer : OOBPeer) : OOBPeer :=
  { peer with enabled }

def Service.finish (s : Service) (handler : Handler) (fails : Bool)
    (clock : ServiceClock) : Service :=
  { s with
    peers :=
      if fails then s.peers
      else saveOOBRxWindow handler.peerID handler.window s.peers
    handlers := s.handlers.deleteWhere fun other => other.id = handler.id
    accepted := handler.counter :: s.accepted
    acted :=
      if lateRequest handler.frame clock then s.acted
      else handler.counter :: s.acted
    rejects :=
      if lateRequest handler.frame clock then
        (handler.peerID, .expired) :: s.rejects
      else s.rejects }

def execInbound (cipher : Cipher) (s : Service) : InboundAction → Option Service
  | .pair peerID localRole =>
    if (s.peers.get? peerID).isSome then none
    else some { s with
      peers := s.peers.insertOrIgnore { peerID, localRole } }
  | .setEnabled peerID enabled => some { s with
      peers := s.peers.updateWhere (fun peer => peer.peerID = peerID) (enable enabled) }
  | .read id wire enabled key =>
    if (s.handlers.get? id).isSome then none
    else
      match readFrame cipher s.peers id wire enabled key with
      | .notAFrame | .disabled => some s
      | .rejected peerID reason => some { s with rejects := (peerID, reason) :: s.rejects }
      | .opened handler => some { s with
          handlers := s.handlers.insertOrIgnore handler }
  | .write id fails clock => (s.handlers.get? id).map fun handler => s.finish handler fails clock

def inboundSystem (cipher : Cipher) : TransitionSystem Service InboundAction where
  initial := {}
  exec := execInbound cipher

/-! ## What a read finds -/

variable {handler : Handler}

lemma readFrame_opened {id : Nat}
    (reading : readFrame cipher peers id wire enabled key = .opened handler) : ∃ h peer,
    parseHeader wire = .ok h ∧ peers.get? h.peerID = some peer ∧ handler.peerID = h.peerID ∧
    handler.frame.counter = h.counter ∧ peer.window.check h.counter = true ∧
    handler.window = peer.window.mark h.counter := by
  unfold readFrame at reading
  split at reading
  · cases reading
  next h parsed =>
  split at reading
  · cases reading
  split at reading
  · cases reading
  next peer found =>
  split at reading
  · cases reading
  split at reading
  · cases reading
  next passed =>
  split at reading
  · cases reading
  split at reading
  · cases reading
  next frame opened =>
  cases reading
  have named : peer.peerID = h.peerID := key_of_get? found
  have counter := (openFrame_header parsed opened).2
  refine ⟨h, peer, parsed, found, named, counter, ?_, ?_⟩
  · simpa using passed
  · exact congrArg peer.window.mark counter

/-! ## One receiver at a time -/

/-- No other receiver of the frame's peer is between its read and its write,
and writes succeed. -/
def oneAtATime (s : Service) : InboundAction → Bool
  | .read _ wire _ _ =>
    match parseHeader wire with
    | .error _ => true
    | .ok h => s.handlers.entries.all fun other => other.peerID ≠ h.peerID
  | .write _ fails _ => !fails
  | _ => true

def countersOf (accepted : List (UInt16 × UInt32)) (peerID : UInt16) : List UInt32 :=
  (accepted.filter fun counter => counter.1 = peerID).map Prod.snd

variable {ctr : UInt32}

lemma mem_countersOf : ctr ∈ countersOf accepted peerID ↔ (peerID, ctr) ∈ accepted := by
  simp [countersOf]

structure Service.Protected (s : Service) : Prop where
  holds : ∀ peer ∈ s.peers, peer.window.Holds (countersOf s.accepted peer.peerID)
  known : ∀ counter ∈ s.accepted, s.peers.get? counter.1 ≠ none
  pending : ∀ handler ∈ s.handlers, ∃ peer, s.peers.get? handler.peerID = some peer ∧
      peer.window.check handler.frame.counter = true ∧
      handler.window = peer.window.mark handler.frame.counter
  single : ∀ handler ∈ s.handlers, ∀ other ∈ s.handlers,
    other.peerID = handler.peerID → other = handler
  acted : ∀ counter ∈ s.acted, counter ∈ s.accepted
  nodup : s.acted.Nodup

lemma Window.positive_of_check {w : Window} (passed : w.check ctr = true) : ctr ≠ 0 := by
  rintro rfl
  cases passed

lemma Window.high_le_mark (w : Window) (ctr : UInt32) : w.high ≤ (w.mark ctr).high := by
  have higher := w.view.le_high_mark ctr.toNat
  rw [← view_mark] at higher
  exact UInt32.le_iff_toNat_le.mpr higher

section
variable {s : Service}

section
variable (isProtected : s.Protected)

include isProtected

lemma Service.Protected.unaccepted (found : s.peers.get? peerID = some peer)
    (passed : peer.window.check ctr = true) : (peerID, ctr) ∉ s.accepted := by
  intro member
  obtain ⟨listed, named⟩ := get?_eq_some_iff.mp found
  rw [(isProtected.holds peer listed).check_eq, named] at passed
  have marked := mem_countersOf.mpr member
  simp [acceptable, marked] at passed

lemma Service.Protected.pair (absent : s.peers.get? peerID = none) : Service.Protected { s with
      peers := s.peers.insertOrIgnore { peerID, localRole } } :=
  { isProtected with
    holds peer member := by
      rcases mem_insertOrIgnore.mp member with old | ⟨_, rfl⟩
      · exact isProtected.holds peer old
      have none : countersOf s.accepted peerID = [] := by
        refine eq_nil_iff_forall_not_mem.mpr fun ctr listed => ?_
        exact isProtected.known _ (mem_countersOf.mp listed) absent
      dsimp only
      rw [none]
      exact .fresh
    known counter member := by
      have old := isProtected.known counter member
      rw [get?_insertOrIgnore]
      split
      · exact Option.some_ne_none _
      · exact old
    pending handler member := by
      obtain ⟨peer, found, rest⟩ := isProtected.pending handler member
      refine ⟨peer, ?_, rest⟩
      have other : handler.peerID ≠ peerID := by
        rintro same
        rw [same, absent] at found
        cases found
      rw [get?_insertOrIgnore, if_neg other]
      exact found }

lemma Service.Protected.setEnabled (peerID : UInt16) (enabled : Bool) : Service.Protected { s with
      peers := s.peers.updateWhere (fun peer => peer.peerID = peerID) (enable enabled) } :=
  { isProtected with
    holds peer member := by
      dsimp only at member
      rw [mem_updateWhere] at member
      obtain ⟨old, listed, rfl⟩ := member
      have holds := isProtected.holds old listed
      split
      · exact holds
      · exact holds
    known counter member := by
      rw [get?_updateWhere, Ne, Option.map_eq_none_iff]
      exact isProtected.known counter member
    pending handler member := by
      obtain ⟨peer, found, passed, window⟩ := isProtected.pending handler member
      refine ⟨_, by rw [get?_updateWhere, found]; rfl, ?_, ?_⟩
      · dsimp only
        split
        · exact passed
        · exact passed
      dsimp only
      split
      · exact window
      · exact window }

end

variable {handler : Handler}

lemma Service.Protected.read (isProtected : s.Protected)
    (found : s.peers.get? handler.peerID = some peer)
    (passed : peer.window.check handler.frame.counter = true)
    (window : handler.window = peer.window.mark handler.frame.counter)
    (alone : ∀ other ∈ s.handlers, other.peerID ≠ handler.peerID) : Service.Protected { s with
      handlers := s.handlers.insertOrIgnore handler } :=
  { isProtected with
    pending other member := by
      rcases mem_insertOrIgnore.mp member with old | ⟨_, rfl⟩
      · exact isProtected.pending other old
      · exact ⟨peer, found, passed, window⟩
    single left leftMember right rightMember same := by
      rcases mem_insertOrIgnore.mp leftMember with leftOld | ⟨_, rfl⟩
      · rcases mem_insertOrIgnore.mp rightMember with rightOld | ⟨_, rfl⟩
        · exact isProtected.single left leftOld right rightOld same
        · exact (alone left leftOld same.symm).elim
      rcases mem_insertOrIgnore.mp rightMember with rightOld | ⟨_, rfl⟩
      · exact (alone right rightOld same).elim
      · rfl }

lemma countersOf_cons (counter : UInt16 × UInt32)
    (accepted : List (UInt16 × UInt32)) (peerID : UInt16) :
    countersOf (counter :: accepted) peerID =
      if counter.1 = peerID then counter.2 :: countersOf accepted peerID
      else countersOf accepted peerID := by
  unfold countersOf
  split
  next same => simp [same]
  next other => simp [other]

namespace Service

lemma Protected.holds_finish (isProtected : s.Protected)
    (member : handler ∈ s.handlers) (clock : ServiceClock)
    (listed : later ∈ (s.finish handler false clock).peers) : later.window.Holds
      (countersOf (handler.counter :: s.accepted) later.peerID) := by
  obtain ⟨peer, found, passed, window⟩ := isProtected.pending handler member
  obtain ⟨old, oldListed, rfl⟩ := mem_saveOOBRxWindow.mp listed
  have holds := isProtected.holds old oldListed
  rw [countersOf_cons]
  by_cases own : old.peerID = handler.peerID
  · have same : old = peer := s.peers.eq_of_key_eq oldListed
      (mem_of_get? found) (own.trans (key_of_get? found).symm)
    subst same
    rw [if_pos own, if_pos (by exact own.symm)]
    change handler.window.Holds (_ :: countersOf s.accepted old.peerID)
    rw [window]
    exact holds.mark (Window.positive_of_check passed)
  rw [if_neg own, if_neg fun same => own same.symm]
  exact holds

lemma mem_acted_finish (listed : counter ∈ (s.finish handler fails clock).acted) :
    counter = handler.counter ∨ counter ∈ s.acted := by
  simp only [finish] at listed
  split at listed
  · exact .inr listed
  · exact mem_cons.mp listed

lemma nodup_acted_finish (fresh : handler.counter ∉ s.acted) (nodup : s.acted.Nodup) (fails : Bool)
    (clock : ServiceClock) : (s.finish handler fails clock).acted.Nodup := by
  simp only [finish]
  split
  · exact nodup
  · exact nodup_cons.mpr ⟨fresh, nodup⟩

lemma Protected.write (isProtected : s.Protected) (member : handler ∈ s.handlers)
    (clock : ServiceClock) : (s.finish handler false clock).Protected := by
  obtain ⟨peer, found, passed, _⟩ := isProtected.pending handler member
  have fresh : handler.counter ∉ s.accepted := isProtected.unaccepted found passed
  have peers (peerID : UInt16) : (s.finish handler false clock).peers.get? peerID =
        (s.peers.get? peerID).map fun old =>
          if old.peerID = handler.peerID then
            withWindow handler.window old
          else old :=
    get?_saveOOBRxWindow _ _ _ _
  constructor
  case holds => exact fun later => isProtected.holds_finish member clock
  case known =>
    intro counter listed
    rw [peers, Ne, Option.map_eq_none_iff]
    rcases mem_cons.mp listed with rfl | old
    · change s.peers.get? handler.peerID ≠ none
      rw [found]
      exact Option.some_ne_none _
    · exact isProtected.known counter old
  case pending =>
    intro other listed
    obtain ⟨kept, different⟩ := mem_deleteWhere.mp listed
    have otherPeer : other.peerID ≠ handler.peerID := by
      intro same
      rw [isProtected.single handler member other kept same] at different
      exact of_decide_eq_false different rfl
    obtain ⟨otherRow, otherFound, rest⟩ := isProtected.pending other kept
    refine ⟨otherRow, ?_, rest⟩
    rw [peers, otherFound, Option.map_some, if_neg]
    rw [key_of_get? otherFound]
    exact otherPeer
  case single =>
    intro left leftListed right rightListed
    exact isProtected.single left (mem_deleteWhere.mp leftListed).1 right
      (mem_deleteWhere.mp rightListed).1
  case acted =>
    intro counter listed
    rcases mem_acted_finish listed with rfl | old
    · exact mem_cons_self
    · exact mem_cons_of_mem _ (isProtected.acted counter old)
  case nodup =>
    apply nodup_acted_finish _ isProtected.nodup
    intro listed
    exact fresh (isProtected.acted _ listed)

end Service

end

/-! ## Runs -/

section
variable {cipher : Cipher} {s next : Service} {action : InboundAction}

/-- What a step does. -/
inductive Handled (cipher : Cipher) (s : Service) : InboundAction → Service → Prop
  | pair {peerID : UInt16} {localRole : Role} (absent : s.peers.get? peerID = none) :
      Handled cipher s (.pair peerID localRole) { s with
        peers := s.peers.insertOrIgnore { peerID, localRole } }
  | setEnabled (peerID : UInt16) (enabled : Bool) :
      Handled cipher s (.setEnabled peerID enabled) { s with
        peers := s.peers.updateWhere (fun peer => peer.peerID = peerID) (enable enabled) }
  | refused (id : Nat) (wire : List UInt8) (enabled : Bool)
      (key : Option (List UInt8)) (rejects : List (UInt16 × Reject)) :
      Handled cipher s (.read id wire enabled key) { s with rejects }
  | opened {id : Nat} {wire : List UInt8} {enabled : Bool}
      {key : Option (List UInt8)} {handler : Handler}
      (reading : readFrame cipher s.peers id wire enabled key = .opened handler) :
      Handled cipher s (.read id wire enabled key) { s with
        handlers := s.handlers.insertOrIgnore handler }
  | wrote {id : Nat} {handler : Handler} (fails : Bool) (clock : ServiceClock)
      (member : handler ∈ s.handlers) :
      Handled cipher s (.write id fails clock) (s.finish handler fails clock)

lemma execInbound_handled (executed : execInbound cipher s action =
    some next) : Handled cipher s action next := by
  cases action with
  | pair peerID localRole =>
    simp only [execInbound, Option.ite_none_left_eq_some] at executed
    obtain ⟨absent, same⟩ := executed
    cases same
    exact .pair (Option.not_isSome_iff_eq_none.mp absent)
  | setEnabled peerID enabled =>
    cases executed
    exact .setEnabled peerID enabled
  | read id wire enabled key =>
    simp only [execInbound, Option.ite_none_left_eq_some] at executed
    obtain ⟨_, executed⟩ := executed
    split at executed
    · cases executed
      exact .refused id wire enabled key s.rejects
    · cases executed
      exact .refused id wire enabled key s.rejects
    · cases executed
      exact .refused id wire enabled key _
    next handler reading =>
      cases executed
      exact .opened reading
  | write id fails clock =>
    obtain ⟨handler, found, rfl⟩ := Option.map_eq_some_iff.mp executed
    exact .wrote fails clock (mem_of_get? found)

lemma Service.Protected.step (isProtected : s.Protected) (permitted : oneAtATime s action = true)
    (executed : execInbound cipher s action = some next) : next.Protected := by
  cases execInbound_handled executed with
  | pair absent => exact isProtected.pair absent
  | setEnabled peerID enabled => exact isProtected.setEnabled peerID enabled
  | refused =>
    exact { isProtected with }
  | opened reading =>
    obtain ⟨h, peer, parsed, found, named, counter, passed, window⟩ := readFrame_opened reading
    rw [← counter] at passed window
    simp only [oneAtATime, parsed, all_eq_true, decide_eq_true_eq] at permitted
    refine isProtected.read (named ▸ found) passed window ?_
    intro other member
    rw [named]
    exact permitted other member
  | wrote fails clock member =>
    have succeeds : fails = false := by simpa [oneAtATime] using permitted
    subst succeeds
    exact isProtected.write member clock

/-- No peer's stored window goes back. -/
def Forward (peers next : Keyed OOBPeer.peerID) : Prop :=
  ∀ peerID peer later, peers.get? peerID = some peer →
    next.get? peerID = some later → peer.rxHigh ≤ later.rxHigh

lemma Forward.refl (peers : Keyed OOBPeer.peerID) : Forward peers peers := by
  intro peerID peer later found after
  cases Option.some.inj (found.symm.trans after)
  exact UInt32.le_refl _

lemma Forward.insert (peers : Keyed OOBPeer.peerID) (new : OOBPeer) :
    Forward peers (peers.insertOrIgnore new) := by
  intro name peer later found after
  rw [get?_insertOrIgnore, found] at after
  split at after
  · cases after
    exact UInt32.le_refl _
  · cases after
    exact UInt32.le_refl _

lemma Forward.update {peers next : Keyed OOBPeer.peerID} {change : OOBPeer → OOBPeer}
    (changed : ∀ name, next.get? name = (peers.get? name).map change)
    (rises : ∀ peer ∈ peers, peer.rxHigh ≤ (change peer).rxHigh) : Forward peers next := by
  intro name peer later found after
  rw [changed, found] at after
  cases after
  exact rises peer (mem_of_get? found)

lemma Service.Protected.forward_write (isProtected : s.Protected) (member : handler ∈ s.handlers) :
    Forward s.peers (saveOOBRxWindow handler.peerID handler.window s.peers) := by
  apply Forward.update (get?_saveOOBRxWindow _ _ _)
  intro peer listed
  split
  next own =>
    obtain ⟨row, found, _, window⟩ := isProtected.pending handler member
    have same : row = peer := s.peers.eq_of_key_eq (mem_of_get? found)
      listed ((key_of_get? found).trans own.symm)
    subst same
    change row.rxHigh ≤ handler.window.high
    rw [window]
    exact row.window.high_le_mark _
  · exact UInt32.le_refl _

lemma Service.Protected.forward (isProtected : s.Protected)
    (executed : execInbound cipher s action = some next) :
    (∀ counter ∈ s.accepted, counter ∈ next.accepted) ∧ Forward s.peers next.peers := by
  cases execInbound_handled executed with
  | pair absent => exact ⟨fun _ member => member, .insert _ _⟩
  | setEnabled peerID enabled =>
    refine ⟨fun _ member => member, .update
      (get?_updateWhere s.peers _ (enable enabled) fun _ => rfl) ?_⟩
    intro peer _
    split
    · exact UInt32.le_refl _
    · exact UInt32.le_refl _
  | refused => exact ⟨fun _ member => member, .refl _⟩
  | opened reading => exact ⟨fun _ member => member, .refl _⟩
  | wrote fails clock member =>
    refine ⟨fun _ listed => mem_cons_of_mem _ listed, ?_⟩
    cases fails with
    | true => exact .refl _
    | false => exact isProtected.forward_write member

lemma Service.Protected.initial : (inboundSystem cipher).initial.Protected where
  holds _ member := by cases member
  known _ member := by cases member
  pending _ member := by cases member
  single _ member := by cases member
  acted _ member := by cases member
  nodup := nodup_nil

/-- Replay protection.

In every run in which a receiver reads a peer's row only while no other
receiver of the peer is between its read and its write, and in which the
writes succeed, each counter of a peer is acted on at most once, no frame with
a counter that was accepted passes again, and no step lowers the stored high
counter or forgets what was accepted. -/
theorem replay_protected (run : (inboundSystem cipher).Reaches
      (fun s action => oneAtATime s action = true) (inboundSystem cipher).initial s) :
    s.acted.Nodup ∧ (∀ wire h id enabled key handler, parseHeader wire = .ok h →
      (h.peerID, h.counter) ∈ s.accepted →
      readFrame cipher s.peers id wire enabled key ≠ .opened handler) ∧
    ∀ action next, (inboundSystem cipher).exec s action = some next →
      (∀ counter ∈ s.accepted, counter ∈ next.accepted) ∧
        ∀ peerID peer later, s.peers.get? peerID = some peer →
          next.peers.get? peerID = some later → peer.rxHigh ≤ later.rxHigh := by
  have isProtected : s.Protected := run.preserves (fun _ _ _ isProtected permitted executed =>
      isProtected.step permitted executed) .initial
  refine ⟨isProtected.nodup, ?_, ?_⟩
  · intro wire h id enabled key handler parsed accepted reading
    obtain ⟨other, peer, otherParsed, found, _, _, passed, _⟩ := readFrame_opened reading
    cases parsed.symm.trans otherParsed
    exact isProtected.unaccepted found passed accepted
  intro action next executed
  exact isProtected.forward executed

end

/-! ## Two receivers at once -/

def clearCipher : Cipher where
  encrypt _ _ text _ := text ++ List.replicate tagLen 0
  decrypt _ _ sealedText _ := some (sealedText.take (sealedText.length - tagLen))

def sampleKey : List UInt8 := List.replicate keyLen 7

def sampleWire (counter : UInt32) : List UInt8 :=
  match sealFrame clearCipher { enc := true, peerID := 9, counter, cmd := 1 } sampleKey .issuer with
  | .ok wire => wire
  | .error _ => []

/-- A replayed frame is refused when the receivers take turns. -/
theorem replay_protected_turns :
    let s := (inboundSystem clearCipher).runFrom (inboundSystem clearCipher).initial
      [.pair 9 .importer, .read 1 (sampleWire 5) true (some sampleKey),
        .write 1 false {}, .read 2 (sampleWire 5) true (some sampleKey)]
    s.acted = [(9, 5)] ∧ s.acted.Nodup ∧ s.rejects = [(9, .replay)] := by
  intro s
  have run : (inboundSystem clearCipher).Reaches (fun s action => oneAtATime s action = true)
      (inboundSystem clearCipher).initial s :=
    .of_guarded_runFrom (by decide +kernel)
  exact ⟨by decide +kernel, (replay_protected run).1, by decide +kernel⟩

/-- Two receivers read before either writes: one frame on two bearers. -/
def actedTwice : Service :=
  (inboundSystem clearCipher).runFrom (inboundSystem clearCipher).initial
    [.pair 9 .importer, .read 1 (sampleWire 5) true (some sampleKey),
      .read 2 (sampleWire 5) true (some sampleKey), .write 1 false {}, .write 2 false {}]

/-- Two frames at once; the lower counter is written last. -/
def forgetful : Service :=
  (inboundSystem clearCipher).runFrom (inboundSystem clearCipher).initial
    [.pair 9 .importer, .read 1 (sampleWire 5) true (some sampleKey),
      .read 2 (sampleWire 6) true (some sampleKey), .write 2 false {}, .write 1 false {}]

/-- One counter is acted on twice, and a counter accepted is forgotten. -/
theorem replay_unprotected : ((inboundSystem clearCipher).Reachable actedTwice ∧
      actedTwice.acted = [(9, 5), (9, 5)]) ∧ (inboundSystem clearCipher).Reachable forgetful ∧
      forgetful.accepted = [(9, 5), (9, 6)] ∧ (forgetful.peers.get? 9).map (fun peer =>
        (peer.rxHigh, peer.window.check 6)) = some (5, true) :=
  ⟨⟨.of_runFrom (by decide +kernel), by decide +kernel⟩,
    .of_runFrom (by decide +kernel), by decide +kernel, by decide +kernel⟩

end MeshSat.Oob
