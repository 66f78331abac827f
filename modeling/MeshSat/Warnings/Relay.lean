import Mathlib
import MeshSat.Library.Keyed
import MeshSat.Library.TransitionSystem

/-!
# Public warnings

A verified digest is kept before what it withdraws is marked and before any bearer is tried, and
only a row that is there can be marked. Where every withdrawal comes after the warning it names and
is handled to its end, the warnings in force are those taken, not expired and not withdrawn.
-/

namespace MeshSat.Warnings

open Library Keyed

inductive MsgType where
  | alert | update | cancel
  deriving DecidableEq

/-- What the relay's table and `InForce` read of a digest. Times are in
nanoseconds. -/
structure Digest where
  (id ref : String)
  msgType : MsgType
  sent : Int
  expires : Option Int
  deriving DecidableEq

structure Warning extends Digest where
  receivedAt : Int
  cancelled : Bool
  deriving DecidableEq

def Warning.key (w : Warning) : String := w.id

/-- The table `warnings`. -/
abbrev Kept := Keyed Warning.key

def warningKeep : Int := 30 * 24 * 3600000000000

def noExpiryInForce : Int := 24 * 3600000000000

namespace Kept

def warningSeen (id : String) (msgType : MsgType) (db : Kept) : Bool :=
  db.entries.any fun w => w.id = id && w.msgType = msgType

/-- The first statement of `InsertWarning`. -/
def write (w : Warning) (db : Kept) : Kept := db.put w

/-- The second, which deletes old rows. -/
def prune (received : Int) (db : Kept) : Kept :=
  db.deleteWhere fun w => w.receivedAt < received - warningKeep

def withdrawn (w : Warning) : Warning := { w with cancelled := true }

lemma withdrawn_key (w : Warning) : (withdrawn w).key = w.key := rfl

/-- `MarkWarningReplaced` is the same. -/
def cancelWarning (ref : String) (db : Kept) : Kept :=
  db.updateWhere (fun w => w.id = ref) withdrawn withdrawn_key

/-- `ORDER BY received_at DESC LIMIT`. -/
def listWarnings (limit : Nat) (db : Kept) : List Warning :=
  (db.entries.insertionSort fun left right => right.receivedAt ≤ left.receivedAt).take
    (if limit = 0 ∨ 500 < limit then 100 else limit)

end Kept

def Digest.current (now : Int) (d : Digest) : Bool :=
  d.msgType ≠ .cancel &&
    match d.expires with
    | none => now - d.sent ≤ noExpiryInForce
    | some expires => now < expires

def inForce (now : Int) (db : Kept) : List Warning :=
  ((db.listWarnings 500).filter fun w => !w.cancelled && w.current now).insertionSort
    fun left right => right.sent ≤ left.sent

/-- Where a process stops between the statements of `Handle`. -/
inductive Stop where
  | inserted | pruned | never
  deriving DecidableEq

def Digest.row (d : Digest) (now : Int) : Warning :=
  { d with receivedAt := now, cancelled := d.msgType = .cancel }

def Digest.names (d : Digest) : Bool := d.msgType ≠ .alert && d.ref ≠ ""

/-- The statements of `Handle`, after the signature was verified. -/
def Kept.handle (d : Digest) (now : Int) (stop : Stop) (db : Kept) : Kept :=
  if db.warningSeen d.id d.msgType then db
  else
    match stop with
    | .inserted => db.write (d.row now)
    | .pruned => (db.write (d.row now)).prune now
    | .never =>
      if d.names then ((db.write (d.row now)).prune now).cancelWarning d.ref
      else (db.write (d.row now)).prune now

structure Relay where
  db : Kept
  taken : List Digest

/-- A delivered digest, with the time and where the process stops. -/
abbrev Arrival := Digest × Int × Stop

def relaySystem : TransitionSystem Relay Arrival where
  initial := ⟨.empty, []⟩
  exec s arrival := some
    { db := s.db.handle arrival.1 arrival.2.1 arrival.2.2
      taken :=
        if s.db.warningSeen arrival.1.id arrival.1.msgType then s.taken
        else s.taken ++ [arrival.1] }

def Withdrawn (taken : List Digest) (id : String) : Prop := ∃ d ∈ taken, d.names = true ∧ d.ref = id

/-- A digest that is new has an id of its own and was not withdrawn before it
came; one that withdraws is handled to its end; and no row is too old. -/
def Relay.Orderly (s : Relay) (arrival : Arrival) : Prop :=
  s.db.warningSeen arrival.1.id arrival.1.msgType = true ∨
    (∀ d ∈ s.taken, d.id ≠ arrival.1.id) ∧ ¬ Withdrawn s.taken arrival.1.id ∧
      (arrival.1.names = true → arrival.2.2 = .never) ∧
      ∀ w ∈ s.db, arrival.2.1 - warningKeep ≤ w.receivedAt

structure Relay.Consistent (s : Relay) : Prop where
  rows : ∀ d, (∃ w ∈ s.db, w.toDigest = d) ↔ d ∈ s.taken
  marks : ∀ w ∈ s.db, w.cancelled = true ↔ w.msgType = .cancel ∨ Withdrawn s.taken w.id

section
variable {s next : Relay} {d : Digest} {now : Int} {w : Warning}

lemma withdrawn_append {id : String} :
    Withdrawn (taken ++ [d]) id ↔ Withdrawn taken id ∨ d.names = true ∧ d.ref = id := by
  simp [Withdrawn, List.mem_append, or_and_right, exists_or]

section
variable (now) {db : Kept} (own : ∀ w ∈ db, w.key ≠ d.id)

include own

lemma mem_write : w ∈ db.write (d.row now) ↔ w = d.row now ∨ w ∈ db := by
  have other : w ∈ db → w.key ≠ (d.row now).key := own w
  rw [Kept.write, mem_put, and_iff_left_of_imp other]

lemma mem_prune_write : w ∈ (db.write (d.row now)).prune now ↔
    (w = d.row now ∨ w ∈ db) ∧ now - warningKeep ≤ w.receivedAt := by
  rw [Kept.prune, mem_deleteWhere, mem_write now own]
  simp

end

lemma Relay.Consistent.marked (consistent : s.Consistent) (taken : next.taken = s.taken ++ [d])
    (unnamed : ¬ Withdrawn s.taken d.id) {db : Kept}
    (kept : ∀ w, w ∈ db ↔ w = d.row now ∨ w ∈ s.db)
    (rows : next.db = if d.names then db.cancelWarning d.ref else db) : next.Consistent := by
  -- Every row is an old one or the digest's, and marked just now or not.
  have member : ∀ w, w ∈ next.db ↔ ∃ old, (old = d.row now ∨ old ∈ s.db) ∧
      (if d.names = true ∧ old.id = d.ref then Kept.withdrawn old else old) = w := by
    intro w
    rw [rows]
    split
    · next names =>
      simp [Kept.cancelWarning, mem_updateWhere, kept, names]
    next names => simp [names, kept]
  have same : ∀ old : Warning,
      (if d.names = true ∧ old.id = d.ref then Kept.withdrawn old else old).toDigest =
        old.toDigest := by
    intro old
    split
    · rfl
    · rfl
  constructor
  · intro e
    simp only [member, taken, List.mem_append, List.mem_singleton, ← consistent.rows e]
    constructor
    · rintro ⟨w, ⟨old, new | there, rfl⟩, rfl⟩
      · exact .inr ((same old).trans (new ▸ rfl))
      · exact .inl ⟨old, there, (same old).symm⟩
    rintro (⟨old, there, rfl⟩ | rfl)
    · exact ⟨_, ⟨old, .inr there, rfl⟩, same old⟩
    · exact ⟨_, ⟨e.row now, .inl rfl, rfl⟩, same _⟩
  intro w there
  obtain ⟨old, from_, rfl⟩ := (member w).mp there
  have before : old.cancelled = true ↔ old.msgType = .cancel ∨ Withdrawn s.taken old.id := by
    rcases from_ with rfl | there
    · simp [Digest.row, unnamed]
    · exact consistent.marks old there
  rw [same, taken, withdrawn_append, ← or_assoc, ← before]
  split
  next named => simp [Kept.withdrawn, named.1, named.2]
  · next unnamed =>
    rw [or_iff_left]
    exact fun named => unnamed ⟨named.1, named.2.symm⟩

lemma Relay.Consistent.step (consistent : s.Consistent) {arrival : Arrival}
    (orderly : s.Orderly arrival) (executed : relaySystem.exec s arrival = some next) :
    next.Consistent := by
  obtain ⟨d, now, stop⟩ := arrival
  cases executed
  by_cases seen : s.db.warningSeen d.id d.msgType = true
  · simpa only [Kept.handle, seen, if_true] using consistent
  obtain ⟨fresh, unnamed, ends, young⟩ := orderly.resolve_left seen
  have own : ∀ w ∈ s.db, w.key ≠ d.id := fun w member =>
    fresh w.toDigest ((consistent.rows _).mp ⟨w, member, rfl⟩)
  have kept (w : Warning) : w ∈ (s.db.write (d.row now)).prune now ↔ w = d.row now ∨ w ∈ s.db := by
    rw [mem_prune_write now own, and_iff_left_iff_imp]
    rintro (rfl | member)
    · exact Int.sub_le_self now (by decide)
    · exact young w member
  simp only [Kept.handle, seen]
  cases stop with
  | inserted =>
    have names : d.names = false := by simpa using ends
    exact consistent.marked rfl unnamed (fun _ => mem_write now own) (by simp [names])
  | pruned =>
    have names : d.names = false := by simpa using ends
    exact consistent.marked rfl unnamed kept (by simp [names])
  | never => exact consistent.marked rfl unnamed kept rfl

end

lemma mem_inForce (few : db.entries.length ≤ 500) :
    w ∈ inForce now db ↔ w ∈ db ∧ w.cancelled = false ∧ w.current now = true := by
  have all : w ∈ db.listWarnings 500 ↔ w ∈ db := by
    rw [Kept.listWarnings, List.take_of_length_le, List.mem_insertionSort, mem_def]
    simpa using few
  simp [inForce, all]

def flood : Digest := ⟨"a", "", .alert, 0, some 3600000000000⟩

def floodCancel : Digest := ⟨"b", "a", .cancel, 1, none⟩

def relayed (arrivals : List Arrival) : Relay := relaySystem.runFrom relaySystem.initial arrivals

/-- What a digest is known by, and when it was taken. -/
structure Stamp where
  id : String
  msgType : MsgType
  taken : Int
  deriving DecidableEq

def Warning.stamp (w : Warning) : Stamp := ⟨w.id, w.msgType, w.receivedAt⟩

/-- A digest as it is delivered, with the bearers available to it and how many are tried before the
process stops. -/
structure Delivery where
  digest : Digest
  now : Int
  stop : Stop
  bearers : List String
  tried : Nat

/-- Kept and not relayed. -/
def Digest.expired (now : Int) (d : Digest) : Bool := d.msgType ≠ .cancel && d.expires.any (· < now)

structure Station where
  db : Kept
  handed : List (Stamp × List String)

def stationSystem : TransitionSystem Station Delivery where
  initial := ⟨.empty, []⟩
  exec s a := some
    { db := s.db.handle a.digest a.now a.stop
      handed := s.handed ++
        if s.db.warningSeen a.digest.id a.digest.msgType || a.stop ≠ .never ||
          a.digest.expired a.now then []
        else [((a.digest.row a.now).stamp, a.bearers.take a.tried)] }

/-- The clock is not set back, and a digest that is new comes in time, has an id of its own among
the rows and is handled until the last bearer was tried. -/
def Station.Whole (s : Station) (a : Delivery) : Prop :=
  (∀ h ∈ s.handed, h.1.taken ≤ a.now) ∧ a.digest.expired a.now = false ∧
    (s.db.warningSeen a.digest.id a.digest.msgType = true ∨
      s.db.get? a.digest.id = none ∧ a.stop = .never ∧ a.bearers.length ≤ a.tried)

/-- Of two hand-overs of one id and type, the later comes after the keep time. -/
def Apart (earlier later : Stamp × List String) : Prop :=
  earlier.1.id = later.1.id → earlier.1.msgType = later.1.msgType →
    earlier.1.taken + warningKeep < later.1.taken

/-- The digest was handed over before, or is now, to every bearer. -/
def Station.HandsOver (s next : Station) (a : Delivery) : Prop :=
  ∃ h ∈ next.handed, h.1.id = a.digest.id ∧ h.1.msgType = a.digest.msgType ∧
    (h ∈ s.handed ∨ h.2 = a.bearers)

structure Station.Accounted (s : Station) : Prop where
  rows : ∀ w ∈ s.db, ∃ h ∈ s.handed, h.1 = w.stamp
  kept : ∀ h ∈ s.handed, (∃ w ∈ s.db, w.stamp = h.1) ∨
    ∃ later ∈ s.handed, h.1.taken + warningKeep < later.1.taken
  apart : s.handed.Pairwise Apart

section
open List
variable {s next : Station} {a : Delivery} {db : Kept} {d : Digest} {now : Int}

lemma warningSeen_iff : db.warningSeen d.id d.msgType = true ↔
    ∃ w ∈ db, w.id = d.id ∧ w.msgType = d.msgType := by
  simp [Kept.warningSeen, mem_def]

lemma stamp_cancelWarning : (∃ w ∈ db.cancelWarning ref, w.stamp = p) ↔ ∃ w ∈ db, w.stamp = p := by
  simp only [Kept.cancelWarning, mem_updateWhere]
  constructor
  · rintro ⟨_, ⟨old, there, rfl⟩, rfl⟩
    exact ⟨old, there, by split <;> rfl⟩
  · rintro ⟨old, there, rfl⟩
    exact ⟨_, ⟨old, there, rfl⟩, by split <;> rfl⟩

/-- The digest comes to the rows, and those past the keep time go. -/
lemma stamp_handle (own : db.get? d.id = none) (now : Int) (p : Stamp) :
    (∃ w ∈ db.handle d now .never, w.stamp = p) ↔ ∃ w, (w = d.row now ∨ w ∈ db) ∧
    now - warningKeep ≤ w.receivedAt ∧ w.stamp = p := by
  have absent := get?_eq_none_iff.mp own
  have unseen : ¬ db.warningSeen d.id d.msgType = true := by
    rw [warningSeen_iff]
    rintro ⟨w, there, same, _⟩
    exact absent w there same
  have stamps : (∃ w ∈ db.handle d now .never, w.stamp = p) ↔
      ∃ w ∈ (db.write (d.row now)).prune now, w.stamp = p := by
    rw [Kept.handle, if_neg unseen]
    split
    · exact stamp_cancelWarning
    · exact Iff.rfl
  simp [stamps, mem_prune_write now absent, and_assoc]

lemma Station.Accounted.handOver (accounted : s.Accounted) (clock : ∀ h ∈ s.handed, h.1.taken ≤ now)
    (own : s.db.get? d.id = none) (bearers : List String) :
    Station.Accounted ⟨s.db.handle d now .never, s.handed ++ [((d.row now).stamp, bearers)]⟩ := by
  have rows := stamp_handle own now
  refine ⟨?_, ?_, ?_⟩
  · intro w there
    obtain ⟨old, rfl | before, _, same⟩ := (rows w.stamp).mp ⟨w, there, rfl⟩
    · exact ⟨_, mem_append_right _ mem_cons_self, same⟩
    obtain ⟨h, handed, stamp⟩ := accounted.rows old before
    exact ⟨h, mem_append_left _ handed, stamp.trans same⟩
  · refine forall_mem_append.mpr ⟨fun h before => ?_, forall_mem_singleton.mpr ?_⟩
    · rcases accounted.kept h before with ⟨w, there, same⟩ | ⟨later, after, apart⟩
      · by_cases young : now - warningKeep ≤ w.receivedAt
        · exact .inl ((rows h.1).mpr ⟨w, .inr there, young, same⟩)
        · refine .inr ⟨_, mem_append_right _ mem_cons_self, ?_⟩
          rw [← same]
          exact Int.lt_of_sub_pos (by simp only [Warning.stamp, Digest.row]; omega)
      · exact .inr ⟨later, mem_append_left _ after, apart⟩
    · refine .inl ((rows _).mpr ⟨_, .inl rfl, ?_, rfl⟩)
      exact Int.sub_le_self now (by decide)
  · refine pairwise_append.mpr ⟨accounted.apart, pairwise_singleton _ _, fun h before => ?_⟩
    rw [forall_mem_singleton]
    intro id _
    rcases accounted.kept h before with ⟨w, there, same⟩ | ⟨later, after, apart⟩
    · exact absurd ((congrArg Stamp.id same).trans id) (get?_eq_none_iff.mp own w there)
    · exact apart.trans_le (clock later after)

lemma Station.Accounted.step (accounted : s.Accounted) (whole : s.Whole a)
    (executed : stationSystem.exec s a = some next) : next.Accounted ∧ s.HandsOver next a := by
  obtain ⟨clock, inTime, rest⟩ := whole
  cases executed
  by_cases seen : s.db.warningSeen a.digest.id a.digest.msgType = true
  · simp only [Kept.handle, seen, Bool.true_or, if_true, append_nil]
    obtain ⟨w, there, id, msgType⟩ := warningSeen_iff.mp seen
    obtain ⟨h, handed, same⟩ := accounted.rows w there
    exact ⟨accounted, h, handed, (congrArg Stamp.id same).trans id,
      (congrArg Stamp.msgType same).trans msgType, .inl handed⟩
  obtain ⟨own, ends, all⟩ := rest.resolve_left seen
  simp only [seen, inTime, ends, ne_eq, not_true_eq_false, decide_false, Bool.or_false,
    Bool.false_eq_true, if_false, take_of_length_le all]
  exact ⟨accounted.handOver clock own _, _, mem_append_right _ mem_cons_self, rfl, rfl, .inr rfl⟩

end

def deliver (stop : Stop) (d : Digest) (now : Int) : Delivery := ⟨d, now, stop, ["mesh", "cell"], 2⟩

end MeshSat.Warnings
