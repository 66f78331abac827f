import MeshSat.Library.TransitionSystem

/-!
# The clock of an intent

An intent's elapsed time is a base in memory carried forward on the monotonic
clock. A heartbeat persists it, and a base that lies behind the persisted
value is set again to that value, at the instant this is noticed and not at
the one the value was written for.
-/

namespace MeshSat.Intents

open Library

/-- `clockBase`; the clock counts nanoseconds. -/
structure ClockBase where
  (ms at_ : Int)

/-- The clock of an active intent, as it is stored and in memory. -/
structure IntentClock where
  elapsedMs : Int
  base : Option ClockBase

section
variable (c : IntentClock) (now : Int)

/-- `elapsedMs`: the base that is kept, and the answer. -/
def IntentClock.elapsed : ClockBase × Int :=
  let b : ClockBase :=
    match c.base with
    | some b => if b.ms < c.elapsedMs then ⟨c.elapsedMs, now⟩ else b
    | none => ⟨c.elapsedMs, now⟩
  (b, b.ms + (now - b.at_).tdiv 1000000)

/-- A call of `elapsedMs` keeps its base. -/
def IntentClock.look : IntentClock :=
  { c with base := some (c.elapsed now).1 }

/-- The share of `Heartbeat` and `PersistIntentClocks`. -/
def IntentClock.persist : IntentClock :=
  { c.look now with elapsedMs := max c.elapsedMs (c.elapsed now).2 }

end

/-- The active intents of one process, and the ids that were given to one. -/
structure Clocks where
  ready : Bool
  now : Int
  active : String → Option IntentClock
  used : String → Bool

/-- What `Evaluate` decides: an intent stays active or is closed. -/
def IntentClock.evaluate (c : IntentClock) (now : Int) (closes : Bool) : Option IntentClock :=
  if closes then none else some (c.look now)

inductive ClockCall
  | submit (id : String)
  | elapsedNow (id : String)
  | evaluate (id : String) (closes : Bool)
  | heartbeat (closes : String → Bool)
  | setReady (closes : String → Bool)

def Clocks.change (s : Clocks) (id : String) (change : IntentClock → Option IntentClock) :
    String → Option IntentClock :=
  fun other => if other = id then (s.active id).bind change else s.active other

def Clocks.call (s : Clocks) (now : Int) : ClockCall → Clocks
  | .submit id =>
    { s with
      now := now
      active := fun other => if other = id then some ⟨0, some ⟨0, now⟩⟩ else s.active other
      used := fun other => other = id || s.used other }
  | .elapsedNow id => { s with now := now, active := s.change id fun c => some (c.look now) }
  | .evaluate id closes =>
    { s with
      now := now
      active := if s.ready then s.change id (·.evaluate now closes) else s.active }
  | .heartbeat closes =>
    { s with
      now := now
      active := fun id => (s.active id).bind fun c =>
        if s.ready then (c.persist now).evaluate now (closes id) else some (c.persist now) }
  | .setReady closes =>
    { s with
      ready := true
      now := now
      active := fun id => (s.active id).bind fun c => c.evaluate now (closes id) }

/-- The answer of `ElapsedNow`. -/
def Clocks.elapsedNow (s : Clocks) (id : String) (now : Int) : Option Int :=
  (s.active id).map fun c => (c.elapsed now).2

/-- The id of a new intent was never used before. -/
def ClockCall.fresh (used : String → Bool) : ClockCall → Bool
  | .submit id => !used id
  | _ => true

/-- `Recover` has set the clocks of the intents that were active before. The
clock does not go back. -/
def clockSystem (recovered : String → Option Int) (start : Int) :
    TransitionSystem Clocks (Int × ClockCall) where
  initial :=
    { ready := false
      now := start
      active := fun id => (recovered id).map fun ms => ⟨ms, some ⟨ms, start⟩⟩
      used := fun id => (recovered id).isSome }
  exec s step :=
    if s.now ≤ step.1 ∧ step.2.fresh s.used = true then some (s.call step.1 step.2) else none

/-- A heartbeat comes when the Escalator can look at the intents at once, and
whole milliseconds after the base of each. -/
def Clocks.Steady (s : Clocks) (step : Int × ClockCall) : Prop :=
  match step.2 with
  | .heartbeat _ => s.ready = true ∧ ∀ id c b, s.active id = some c → c.base = some b →
      (1000000 : Int) ∣ step.1 - b.at_
  | _ => True

/-- The base counts from `origin`, in nanoseconds, and is not behind what is
stored. -/
def IntentClock.Counts (origin now : Int) (c : IntentClock) : Prop :=
  ∃ b, c.base = some b ∧ c.elapsedMs ≤ b.ms ∧ b.at_ ≤ now ∧ b.at_ - 1000000 * b.ms = origin

section
variable {origin now later : Int} {c : IntentClock}

section
variable (counts : c.Counts origin now) (order : now ≤ later)

include counts order

lemma IntentClock.Counts.elapsed :
    ∃ b, c.elapsed later = (b, (later - origin) / 1000000) ∧ c.base = some b := by
  obtain ⟨b, base, ahead, before, rfl⟩ := counts
  refine ⟨b, ?_, base⟩
  simp only [IntentClock.elapsed, base, if_neg (Int.not_lt.mpr ahead)]
  rw [Int.tdiv_eq_ediv_of_nonneg (by omega)]
  congr 1
  omega

lemma IntentClock.Counts.mono : c.Counts origin later := by
  obtain ⟨b, base, ahead, before, same⟩ := counts
  exact ⟨b, base, ahead, Int.le_trans before order, same⟩

lemma IntentClock.Counts.look : (c.look later).Counts origin later := by
  obtain ⟨b, elapsed, base⟩ := counts.elapsed order
  have same : c.look later = c := by
    cases c
    simp_all [IntentClock.look]
  rw [same]
  exact counts.mono order

lemma IntentClock.Counts.heartbeat
    (whole : ∀ b, c.base = some b → (1000000 : Int) ∣ later - b.at_) :
    ((c.persist later).look later).Counts origin later := by
  obtain ⟨b, elapsed, base⟩ := counts.elapsed order
  obtain ⟨b', base', ahead, before, same⟩ := counts
  cases base.symm.trans base'
  have exact_ := whole b base
  simp only [IntentClock.Counts, IntentClock.look, IntentClock.persist, IntentClock.elapsed,
    base, if_neg (Int.not_lt.mpr ahead)] at elapsed ⊢
  simp only [Prod.mk.injEq, true_and] at elapsed
  rw [elapsed]
  split
  · exact ⟨_, rfl, Int.le_refl _, Int.le_refl _, by simp only; omega⟩
  · exact ⟨_, rfl, by omega, by omega, same⟩

end

end

structure Clocks.Counts (id : String) (origin : Int) (s : Clocks) : Prop where
  used : s.used id = true
  counts : ∀ c, s.active id = some c → c.Counts origin s.now

open Clocks

section
variable {recovered : String → Option Int} {start origin : Int} {id : String} {s next : Clocks}
  {action : Int × ClockCall}

lemma Clocks.Counts.step (before : s.Counts id origin) (steady : s.Steady action)
    (executed : (clockSystem recovered start).exec s action = some next) :
    next.Counts id origin := by
  obtain ⟨now, call⟩ := action
  simp only [clockSystem, Option.ite_none_right_eq_some, Option.some.injEq] at executed
  obtain ⟨⟨order, fresh⟩, rfl⟩ := executed
  have kept : ∀ c, s.active id = some c → c.Counts origin now :=
    fun c found => (before.counts c found).mono order
  have evaluated : ∀ c, s.active id = some c → ∀ closes d, c.evaluate now closes = some d →
      d.Counts origin now := by
    intro c found closes d stays
    simp only [IntentClock.evaluate, Option.ite_none_left_eq_some, Option.some.injEq] at stays
    rw [← stays.2]
    exact (before.counts c found).look order
  cases call with
  | submit other =>
    have different : id ≠ other := by
      rintro rfl
      simp [ClockCall.fresh, before.used] at fresh
    refine ⟨by simp [call, before.used], fun c active => kept c ?_⟩
    simpa [call, different] using active
  | elapsedNow other =>
    refine ⟨before.used, fun d active => ?_⟩
    by_cases same : id = other
    · simp only [call, change, if_pos same, Option.bind_eq_some_iff, Option.some.injEq] at active
      obtain ⟨c, found, rfl⟩ := active
      exact (before.counts c (same ▸ found)).look order
    · exact kept d (by simpa [call, change, same] using active)
  | evaluate other closes =>
    refine ⟨before.used, fun d active => ?_⟩
    by_cases looked : s.ready = true ∧ id = other
    · simp only [call, change, looked, if_true, Option.bind_eq_some_iff] at active
      obtain ⟨c, found, stays⟩ := active
      exact evaluated c (looked.2 ▸ found) closes d stays
    apply kept d
    rw [← active, call]
    dsimp only
    split
    next ready => simp [change, show id ≠ other from fun same => looked ⟨ready, same⟩]
    · rfl
  | heartbeat closes =>
    obtain ⟨ready, whole⟩ := steady
    refine ⟨before.used, fun d active => ?_⟩
    simp only [call, ready, if_true, Option.bind_eq_some_iff, IntentClock.evaluate,
      Option.ite_none_left_eq_some, Option.some.injEq] at active
    obtain ⟨c, found, -, rfl⟩ := active
    exact (before.counts c found).heartbeat order fun b base => whole id c b found base
  | setReady closes =>
    refine ⟨before.used, fun d active => ?_⟩
    simp only [call, Option.bind_eq_some_iff] at active
    obtain ⟨c, found, stays⟩ := active
    exact evaluated c found (closes id) d stays

lemma Clocks.unused_step (unused : s.used id = false) (inactive : s.active id = none)
    (executed : (clockSystem recovered start).exec s action = some next) :
    (∃ origin, next.Counts id origin) ∨ next.used id = false ∧ next.active id = none := by
  obtain ⟨now, call⟩ := action
  simp only [clockSystem, Option.ite_none_right_eq_some, Option.some.injEq] at executed
  obtain ⟨-, rfl⟩ := executed
  cases call with
  | submit other =>
    by_cases same : id = other
    · refine .inl ⟨now, by simp [call, same], ?_⟩
      intro c active
      simp only [call, same, if_true, Option.some.injEq] at active
      subst active
      exact ⟨_, rfl, Int.le_refl 0, Int.le_refl now, by simp⟩
    · exact .inr (by simp [call, same, unused, inactive])
  | elapsedNow other =>
    by_cases same : other = id
    · exact .inr (by simp [call, change, same, unused, inactive])
    · exact .inr (by simp [call, change, Ne.symm same, unused, inactive])
  | evaluate other closes =>
    refine .inr ⟨unused, ?_⟩
    simp only [call]
    split
    · by_cases same : other = id
      · simp [change, same, inactive]
      · simp [change, Ne.symm same, inactive]
    · exact inactive
  | heartbeat closes => exact .inr (by simp [call, unused, inactive])
  | setReady closes => exact .inr (by simp [call, unused, inactive])

lemma Clocks.counts_of_reaches (run : (clockSystem recovered start).Reaches Clocks.Steady
      (clockSystem recovered start).initial s) (id : String) :
    (∃ origin, s.Counts id origin) ∨ s.used id = false ∧ s.active id = none := by
  induction run with
  | refl =>
    cases found : recovered id with
    | none => exact .inr (by simp [clockSystem, found])
    | some ms =>
      refine .inl ⟨start - 1000000 * ms, by simp [clockSystem, found], ?_⟩
      intro c active
      simp only [clockSystem, found, Option.map_some, Option.some.injEq] at active
      subst active
      exact ⟨_, rfl, Int.le_refl ms, Int.le_refl start, rfl⟩
  | step action _ steady executed before =>
    rcases before with ⟨origin, counts⟩ | ⟨unused, inactive⟩
    · exact .inl ⟨origin, counts.step steady executed⟩
    · exact unused_step unused inactive executed

lemma Clocks.Counts.answer (counts : s.Counts id origin) {now ms : Int} (order : s.now ≤ now)
    (answered : s.elapsedNow id now = some ms) : ms = (now - origin) / 1000000 := by
  obtain ⟨c, found, rfl⟩ := Option.map_eq_some_iff.mp answered
  obtain ⟨b, elapsed, -⟩ := (counts.counts c found).elapsed order
  rw [elapsed]

end

/-- An intent is submitted, and a heartbeat comes ten seconds later. -/
def oneIntent (ready : Bool) : Clocks :=
  (clockSystem (fun _ => none) 0).runFrom (clockSystem (fun _ => none) 0).initial
    ((if ready then [(0, .setReady fun _ => false)] else []) ++ [(0, .submit "a")])

def oneHeartbeat (ready : Bool) : Clocks :=
  (oneIntent ready).call 10000000000 (.heartbeat fun _ => false)

end MeshSat.Intents
