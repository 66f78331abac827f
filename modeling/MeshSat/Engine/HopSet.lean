import Mathlib
import MeshSat.Library.Tally

/-!
# The hop set

The links a bridge may use, each with a state built from signs for and against
it. Every evaluation reads the signs afresh, moves the states and then keeps
the floor: links that are out of use are retained while too few links, or no
free one, could be used.
-/

namespace MeshSat.Engine

open Library

/-! ## Links -/

inductive HopState
  | admitted | suspect | excluded | recovering
  deriving DecidableEq

def HopState.text : HopState → String
  | admitted => "admitted"
  | suspect => "suspect"
  | excluded => "excluded"
  | recovering => "recovering"

inductive HopMode
  | off | watch | on
  deriving DecidableEq

/-- Where a sign against a link comes from. -/
inductive HopSource
  | radio | delivery | spectrum | silence
  deriving DecidableEq

def HopSource.text : HopSource → String
  | radio => "radio"
  | delivery => "delivery"
  | spectrum => "spectrum"
  | silence => "silence"

structure HopSetConfig where
  (triggerWindow dropDwell readmitDwell readmitMax flapMemory radioRepeat silenceAfter minSet : Int)
  refreshEvery : Int

structure HopSign where
  source : HopSource
  key : String
  time : Int
  /-- The order of arrival. -/
  seq : Nat

/-- The frames heard in one second. -/
structure RxMark where
  time : Int
  count : Nat

structure HopLink where
  (id channelType : String)
  paid : Bool
  state : HopState
  since : Int
  (deaf absent down retained : Bool)
  reason : String
  negatives : List HopSign
  lastPositiveSeq : Nat
  rx : List RxMark
  lastExcluded : Option Int
  flaps : Nat
  readmit : Int
  sinceSeq : Nat

def hopSecond : Int := 1000000000
def hopMinute : Int := 60 * hopSecond
def hopHour : Int := 60 * hopMinute

def hopPaid (channelType : String) : Option Bool :=
  if channelType ∈ ["mesh", "aprs", "tetra", "lxmf", "cell", "zigbee", "hub"] then some false
  else if channelType ∈ ["cellular", "sms", "iridium", "iridium_imt"] then
    some true
  else none

def hopDeviceless (channelType : String) : Bool := channelType ∈ ["lxmf", "hub"]

/-- Of times in order, those at least `apart` after the last one counted. -/
def spaced (apart : Int) : Option Int → List Int → Nat
  | _, [] => 0
  | none, time :: rest => spaced apart (some time) rest + 1
  | some last, time :: rest =>
    if apart ≤ time - last then spaced apart (some time) rest + 1
    else spaced apart (some last) rest

namespace HopLink

section
variable (l : HopLink)

/-- The independent signs: one for each destination that fails, and the
refusals of the radio that are far enough apart. -/
def distinct (apart : Int) : Nat :=
  let others := l.negatives.filter fun s => s.source ≠ .radio
  let radio := l.negatives.filter fun s => s.source = .radio
  (others.map fun s => (s.source, s.key)).dedup.length +
    ((radio.map HopSign.key).dedup.map fun key =>
      spaced apart none (((radio.filter fun s => s.key = key).map
          HopSign.time).insertionSort (· ≤ ·))).sum

/-- The last frame heard makes a link busy when there were enough before. -/
def busy (last : RxMark) : Bool :=
  let marks := l.rx.filter fun r => last.time - hopHour ≤ r.time
  30 ≤ (marks.map RxMark.count).sum && 5 ≤ (marks.map fun r =>
      (last.time - r.time).tdiv (10 * hopMinute)).dedup.length

def latestNegative : Nat := (l.negatives.map HopSign.seq).foldl max 0

def summary : String :=
  ", ".intercalate (((l.negatives.map fun s => s.source.text ++ ":" ++ s.key).dedup
      ).insertionSort (· ≤ ·))

def usable : Bool := !l.down && (l.state = .admitted || l.state = .suspect || l.retained)

end

def readmitDwell (l : HopLink) (cfg : HopSetConfig) : Int :=
  if 0 < l.readmit then l.readmit else cfg.readmitDwell

end HopLink

/-! ## The set -/

structure HopInterface where
  (id channelType : String)
  enabled : Bool

structure HopSetManager where
  cfg : HopSetConfig
  hopMode : HopMode
  links : Keyed HopLink.id
  refreshed : Option Int
  /-- The order of arrival of signs and changes of state. -/
  (seq gen : Nat)

/-- What an evaluation sees of its surroundings. -/
structure HopView where
  now : Int
  /-- Not set, or an error, or the interfaces. -/
  list : Option (Option (List HopInterface))
  /-- A jam that the spectrum monitor knows of. -/
  (jammed receiveDeaf : String → Bool)
  /-- Whether a device is up, if that is known. -/
  avail : String → Option Bool

def newHopLink (i : HopInterface) (paid : Bool) (now : Int) : HopLink where
  id := i.id
  channelType := i.channelType
  paid := paid
  state := .admitted
  since := now
  deaf := false
  absent := false
  down := false
  retained := false
  reason := ""
  negatives := []
  lastPositiveSeq := 0
  rx := []
  lastExcluded := none
  flaps := 0
  readmit := 0
  sinceSeq := 0

/-- The interfaces that belong to the set, with whether each is paid. -/
def coveredInterfaces (interfaces : List HopInterface) : List (HopInterface × Bool) :=
  interfaces.filterMap fun i =>
    match hopPaid i.channelType with
    | none => none
    | some paid => if i.enabled then some (i, paid) else none

def HopSetManager.refreshLocked (m : HopSetManager) (x : HopView) : HopSetManager :=
  let m := { m with refreshed := some x.now }
  match x.list with
  | none | some none => m
  | some (some interfaces) =>
    let covered := coveredInterfaces interfaces
    let links := covered.foldl (fun links i =>
      links.insertOrIgnore (newHopLink i.1 i.2 x.now)) m.links
    { m with
      links := links.deleteWhere fun l =>
        !(covered.any fun i => i.1.id = l.id) }

def HopSetManager.linkLocked (m : HopSetManager) (x : HopView) (id : String) : HopSetManager :=
  if (m.links.get? id).isSome then m else m.refreshLocked x

def HopLink.readSigns (cfg : HopSetConfig) (x : HopView) (seq : Nat)
    (l : HopLink) : Nat × HopLink :=
  let kept := l.negatives.filter fun s =>
    s.source ≠ .spectrum && s.source ≠ .silence && decide (x.now - s.time ≤ cfg.triggerWindow) &&
      decide (l.lastPositiveSeq < s.seq)
  let (seq, kept) :=
    if x.jammed l.id then
      (seq + 1, kept ++ [⟨.spectrum, "jam", x.now, seq + 1⟩])
    else (seq, kept)
  let quiet := match l.rx.getLast? with
    | none => false
    | some last => l.busy last && decide (cfg.silenceAfter ≤ x.now - last.time)
  let (seq, kept) :=
    if quiet then (seq + 1, kept ++ [⟨.silence, "rx", x.now, seq + 1⟩])
    else (seq, kept)
  let deaf := x.receiveDeaf l.id
  let absent := !hopDeviceless l.channelType && x.avail l.id = some false
  (seq, { l with
    negatives := kept
    deaf := deaf
    absent := absent
    down := deaf || absent
    retained := false })

/-- `setLocked`. -/
def HopLink.set (l : HopLink) (now : Int) (seq : Nat) (state : HopState)
    (reason : String) : Nat × HopLink :=
  (seq + 1, { l with
    state := state, reason := reason, since := now, sinceSeq := seq + 1 })

def doubledDwell (largest : Int) : Nat → Int → Int
  | 0, dwell => dwell
  | flaps + 1, dwell => if dwell < largest then doubledDwell largest flaps (dwell * 2) else dwell

/-- `excludeLocked`. -/
def HopLink.exclude (cfg : HopSetConfig) (l : HopLink) (now : Int) (seq : Nat) : Nat × HopLink :=
  let flaps := match l.lastExcluded with
    | some last => if now - last ≤ cfg.flapMemory then l.flaps + 1 else 0
    | none => 0
  let dwell := doubledDwell cfg.readmitMax flaps cfg.readmitDwell
  { l with
    flaps := flaps
    lastExcluded := some now
    readmit :=
      if 0 < cfg.readmitMax ∧ cfg.readmitMax < dwell then cfg.readmitMax
      else dwell }.set now seq .excluded l.summary

def HopLink.judge (cfg : HopSetConfig) (now : Int) (seq : Nat) (l : HopLink) : Nat × HopLink :=
  let cleared := l.negatives.isEmpty
  match l.state with
  | .admitted => if !cleared then l.set now seq .suspect l.summary else (seq, l)
  | .suspect =>
    if cleared then l.set now seq .admitted "evidence cleared"
    else if 2 ≤ l.distinct cfg.radioRepeat ∧ cfg.dropDwell ≤ now - l.since then
      l.exclude cfg now seq
    else (seq, l)
  | .excluded =>
    if l.sinceSeq < l.lastPositiveSeq && cleared then
      l.set now seq .recovering "a positive sign"
    else (seq, l)
  | .recovering =>
    if l.sinceSeq < l.latestNegative then l.exclude cfg now seq
    else if l.readmitDwell cfg ≤ now - l.since then
      l.set now seq .admitted "re-admitted"
    else (seq, l)

/-- Only the state and what belongs to it differ. -/
structure HopLink.MovedFrom (l old : HopLink) : Prop where
  id : l.id = old.id
  channelType : l.channelType = old.channelType
  paid : l.paid = old.paid
  deaf : l.deaf = old.deaf
  absent : l.absent = old.absent
  down : l.down = old.down
  retained : l.retained = old.retained

lemma HopLink.judge_movedFrom (cfg : HopSetConfig) (now : Int) (seq : Nat)
    (l : HopLink) : (l.judge cfg now seq).2.MovedFrom l := by
  have stays : l.MovedFrom l := ⟨rfl, rfl, rfl, rfl, rfl, rfl, rfl⟩
  have moves : ∀ state reason, (l.set now seq state reason).2.MovedFrom l :=
    fun _ _ => ⟨rfl, rfl, rfl, rfl, rfl, rfl, rfl⟩
  have leaves : (l.exclude cfg now seq).2.MovedFrom l := ⟨rfl, rfl, rfl, rfl, rfl, rfl, rfl⟩
  rw [HopLink.judge]
  cases l.state with
  | admitted =>
    dsimp only
    split
    · exact moves _ _
    · exact stays
  | suspect =>
    dsimp only
    split
    · exact moves _ _
    split
    · exact leaves
    · exact stays
  | excluded =>
    dsimp only
    split
    · exact moves _ _
    · exact stays
  | recovering =>
    dsimp only
    split
    · exact leaves
    split
    · exact moves _ _
    · exact stays

def HopLink.idOrder (a b : HopLink) : Prop := a.id ≤ b.id

instance : DecidableRel HopLink.idOrder := fun a b => inferInstanceAs (Decidable (a.id ≤ b.id))

/-! ## The floor -/

namespace HopSetManager

section
variable (m : HopSetManager)

def available : Nat := m.links.tally fun l => !l.down

def usableN : Nat := m.links.tally HopLink.usable

def freeAvailable : Nat := m.links.tally fun l => !l.down && !l.paid

def freeUsable : Nat := m.links.tally fun l => l.usable && !l.paid

def needFree : Prop := 0 < m.freeAvailable ∧ m.freeUsable = 0

end

end HopSetManager

instance (m : HopSetManager) : Decidable m.needFree := inferInstanceAs (Decidable (_ ∧ _))

/-- One link comes before another when the floor has to choose. -/
def HopLink.lessBad (apart : Int) (a b : HopLink) : Prop :=
  if a.distinct apart ≠ b.distinct apart then
    a.distinct apart < b.distinct apart
  else if (a.state = .recovering) ≠ (b.state = .recovering) then
    a.state = .recovering
  else b.lastPositiveSeq < a.lastPositiveSeq

instance (apart : Int) : DecidableRel (HopLink.lessBad apart) :=
  fun _ _ => inferInstanceAs (Decidable (ite _ _ _))

/-- The links that could be retained, the least bad first. -/
def HopSetManager.candidates (m : HopSetManager) : List HopLink :=
  let sorted := m.links.entries.insertionSort HopLink.idOrder
  (sorted.filter fun l =>
    !(l.down || l.usable || (decide m.needFree && l.paid))).insertionSort
      fun a b => ¬ b.lessBad m.cfg.radioRepeat a

def HopSetManager.retain (m : HopSetManager) (id : String) (retained : Bool) : HopSetManager :=
  { m with
    links := m.links.updateWhere (fun l => l.id = id) fun l =>
      { l with retained := retained } }

/-- How the repair of the floor ends. -/
inductive FloorExit
  | kept | noCandidates
  deriving DecidableEq

/-- A round of the repair: it ends, or one more link is retained. -/
def HopSetManager.repairRound (m : HopSetManager) : Except FloorExit HopSetManager :=
  if min m.cfg.minSet m.available ≤ m.usableN ∧ ¬ m.needFree then
    .error .kept
  else
    match m.candidates with
    | [] => .error .noCandidates
    | l :: _ => .ok (m.retain l.id true)

section
variable {m : HopSetManager} {l : HopLink}

namespace HopSetManager

lemma mem_candidates (member : l ∈ m.candidates) :
    l ∈ m.links ∧ l.down = false ∧ l.usable = false ∧ (m.needFree → l.paid = false) := by
  have among := (List.mem_insertionSort _).mp member
  obtain ⟨sorted, chosen⟩ := List.mem_filter.mp among
  have stored := (List.mem_insertionSort _).mp sorted
  simp only [Bool.not_eq_true', Bool.or_eq_false_iff, Bool.and_eq_false_iff,
    decide_eq_false_iff_not] at chosen
  exact ⟨stored, chosen.1.1, chosen.1.2, chosen.2.neg_resolve_left⟩

lemma repairRound_cases (round : m.repairRound = .ok next) :
    (m.usableN < min m.cfg.minSet m.available ∨ m.needFree) ∧ ∃ l ∈ m.links, l.down = false ∧
    l.usable = false ∧ (m.needFree → l.paid = false) ∧ next = m.retain l.id true := by
  rw [repairRound] at round
  split at round
  · cases round
  rename_i broken
  have need : m.usableN < min m.cfg.minSet m.available ∨ m.needFree := by
    by_contra neither
    rw [not_or, Int.not_lt] at neither
    exact broken neither
  split at round
  · cases round
  rename_i l rest least
  cases round
  obtain ⟨stored, up, unused, free⟩ := mem_candidates (least ▸ List.mem_cons_self)
  exact ⟨need, l, stored, up, unused, free, rfl⟩

def spare (m : HopSetManager) : Nat := m.links.tally fun l => !l.down && !l.usable

lemma tally_retain (stored : l ∈ m.links) (retained : Bool)
    (meets : HopLink → Bool) : (m.retain l.id retained).links.tally meets +
        (if meets l then 1 else 0) = m.links.tally meets +
        (if meets { l with retained := retained } then 1 else 0) :=
  Keyed.tally_updateWhere stored (fun l => { l with retained := retained }) (fun _ => rfl) meets

end HopSetManager

lemma HopLink.usable_retained (up : l.down = false) :
    { l with retained := true }.usable = true := by
  rw [HopLink.usable]
  simp [up, Bool.or_true]

lemma HopSetManager.spare_retain (stored : l ∈ m.links)
    (up : l.down = false) (unused : l.usable = false) : (m.retain l.id true).spare < m.spare := by
  have counted := HopSetManager.tally_retain stored true fun l => !l.down && !l.usable
  rw [HopLink.usable_retained up] at counted
  simp only [up, unused, Bool.not_false, Bool.not_true, Bool.and_false,
    Bool.and_self, if_true, Bool.false_eq_true, if_false] at counted
  rw [HopSetManager.spare, HopSetManager.spare]
  omega

lemma HopSetManager.repairRound_spare (round : m.repairRound = .ok next) :
    next.spare < m.spare := by
  obtain ⟨-, l, stored, up, unused, -, rfl⟩ := repairRound_cases round
  exact spare_retain stored up unused

end

namespace HopSetManager

/-- `repairFloorLocked`, and how it ends. -/
def repairFloorLocked (m : HopSetManager) : HopSetManager × FloorExit :=
  match _round : m.repairRound with
  | .error exit => (m, exit)
  | .ok next => next.repairFloorLocked
termination_by m.spare
decreasing_by exact repairRound_spare _round

/-- The list of links is read again when it is old. -/
def current (m : HopSetManager) (x : HopView) : HopSetManager :=
  match m.refreshed with
  | none => m.refreshLocked x
  | some last => if m.cfg.refreshEvery ≤ x.now - last then m.refreshLocked x else m

/-- The links in order, first their signs and then their states. -/
def judged (m : HopSetManager) (x : HopView) : HopSetManager :=
  let read := m.links.visit HopLink.idOrder (HopLink.readSigns m.cfg x) (fun _ _ => rfl) m.seq
  let judged := read.2.visit HopLink.idOrder (HopLink.judge m.cfg x.now)
    (fun seq l => (l.judge_movedFrom m.cfg x.now seq).id) read.1
  { m with seq := judged.1, links := judged.2 }

/-- `evaluateLocked`. -/
def evaluate (m : HopSetManager) (x : HopView) : HopSetManager × FloorExit :=
  ((m.current x).judged x).repairFloorLocked

end HopSetManager

/-! ## Operations -/

/-- Where a sign for a link comes from. -/
inductive PositiveSource
  | rx | probe | ack
  deriving DecidableEq

def HopSetManager.negative (m : HopSetManager) (x : HopView)
    (ifaceID : String) (source : HopSource) (key : String) :
    HopSetManager :=
  if m.hopMode = .off then m
  else
    let m := m.linkLocked x ifaceID
    match m.links.get? ifaceID with
    | none => m
    | some _ =>
      let sign : HopSign := ⟨source, if key = "" then "-" else key, x.now, m.seq + 1⟩
      ({ m with
        seq := m.seq + 1
        links := m.links.updateWhere (fun l => l.id = ifaceID) fun l =>
          { l with negatives := l.negatives ++ [sign] } }.evaluate x).1

/-- A frame heard, in the second of the last one or in one of its own. -/
def HopLink.heard (l : HopLink) (now : Int) : List RxMark :=
  let marks : List RxMark :=
    match l.rx.getLast? with
    | none => [⟨now, 1⟩]
    | some last =>
      if last.time / hopSecond = now / hopSecond then
        l.rx.dropLast ++ [⟨now, last.count + 1⟩]
      else l.rx ++ [⟨now, 1⟩]
  marks.dropWhile fun r => 90 * hopMinute < now - r.time

section
variable (m : HopSetManager) (x : HopView) (ifaceID : String) (source : PositiveSource)

def HopSetManager.positiveLocked : HopSetManager :=
  ({ m with
    seq := m.seq + 1
    links := m.links.updateWhere (fun l => l.id = ifaceID) fun l =>
      { l with
        lastPositiveSeq := m.seq + 1
        rx := if source = PositiveSource.rx then l.heard x.now else l.rx }
    }.evaluate x).1

def HopSetManager.positive : HopSetManager :=
  if m.hopMode = .off then m
  else
    let m := m.linkLocked x ifaceID
    match m.links.get? ifaceID with
    | none => m
    | some _ => m.positiveLocked x ifaceID source

end

def hopProbeLink (routingID : String) : String :=
  if routingID.startsWith "ax25_" then
    "aprs_" ++ (routingID.drop 5).toString
  else routingID

def HopSetManager.probe (m : HopSetManager) (x : HopView)
    (routingID : String) (gen : Nat) : HopSetManager :=
  let ifaceID := hopProbeLink routingID
  if m.hopMode = .off ∨ gen ≠ m.gen then m
  else
    let m := m.linkLocked x ifaceID
    match m.links.get? ifaceID with
    | none => m
    | some l => if l.paid then m else m.positiveLocked x ifaceID .probe

def HopSetManager.setMode (m : HopSetManager) (mode : HopMode) : HopSetManager :=
  if mode = .off then
    { m with
      hopMode := mode, links := .empty, refreshed := none, gen := m.gen + 1 }
  else { m with hopMode := mode }

/-- `RouteExcluded`: whether a link is out of use, and why. -/
def HopSetManager.routeExcluded (m : HopSetManager) (x : HopView)
    (ifaceID : String) (deafOtherwise : Bool) : HopSetManager × Option String :=
  if m.hopMode ≠ .on then
    (m, if deafOtherwise && x.receiveDeaf ifaceID then some "deaf" else none)
  else
    let m := (m.evaluate x).1
    (m, match m.links.get? ifaceID with
      | none => if x.receiveDeaf ifaceID then some "deaf" else none
      | some l =>
        if l.deaf then some "deaf"
        else if l.absent then some "absent"
        else if !l.usable then some (l.state.text ++ ": " ++ l.reason)
        else none)

end MeshSat.Engine
