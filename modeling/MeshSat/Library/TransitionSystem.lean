import Mathlib.Init

/-!
# Runs of a deterministic transition system

A system has an initial state and a partial transition function: `exec state action` is the next
state when the action is enabled. All nondeterminism is in the choice of actions. `Reaches allowed`
is the closure over actions that `allowed` permits in the state they are taken in, so that results
about every run and about runs of a kind are instances of one induction.
-/

namespace Library

structure TransitionSystem (σ α : Type) where
  initial : σ
  exec : σ → α → Option σ

namespace TransitionSystem

variable {σ α : Type} (system : TransitionSystem σ α)

inductive Reaches (allowed : σ → α → Prop) : σ → σ → Prop where
  | refl (state : σ) : Reaches allowed state state
  | step {start middle finish : σ} (action : α) : Reaches allowed start middle →
      allowed middle action → system.exec middle action = some finish → Reaches allowed start finish

/-- Any action is allowed in any state. -/
def anything (_ : σ) (_ : α) : Prop := True

/-- A state some run from the initial state ends in. -/
def Reachable (state : σ) : Prop := system.Reaches anything system.initial state

variable {system} {allowed : σ → α → Prop}
variable {start finish : σ} {property : σ → Prop} {actions : List α} {permits : σ → α → Bool}

lemma Reaches.trans (first : system.Reaches allowed start middle)
    (second : system.Reaches allowed middle finish) : system.Reaches allowed start finish := by
  induction second with
  | refl => exact first
  | step action _ permitted executed induction => exact .step action induction permitted executed

lemma Reaches.mono (weaker : ∀ state action, allowed state action → other state action)
    (run : system.Reaches allowed start finish) : system.Reaches other start finish := by
  induction run with
  | refl => exact .refl _
  | step action _ permitted executed induction =>
    exact .step action induction (weaker _ _ permitted) executed

lemma Reaches.reachable (run : system.Reaches allowed system.initial state) :
    system.Reachable state :=
  run.mono fun _ _ _ => trivial

lemma Reaches.preserves (run : system.Reaches allowed start finish)
    (kept : ∀ state action next, property state → allowed state action →
      system.exec state action = some next → property next) (initially : property start) :
    property finish := by
  induction run with
  | refl => exact initially
  | step action _ permitted executed induction => exact kept _ action _ induction permitted executed

/-- The invariant rule: initially true and kept by every step, hence true in
every reachable state. -/
lemma Reachable.invariant (reachable : system.Reachable state)
    (initially : property system.initial) (kept : ∀ state action next, property state →
      system.exec state action = some next → property next) : property state :=
  Reaches.preserves reachable (fun current action next holds _ => kept current action next holds)
    initially

/-- The simulation rule: where every permitted step, seen through `view`, is
a permitted step of another system or none at all, every permitted run is a
run of the other system. The steps may rely on an invariant. -/
lemma Reaches.simulates {τ β : Type} {other : TransitionSystem τ β}
    {otherAllowed : τ → β → Prop} (view : σ → τ)
    (kept : ∀ state action next, property state → allowed state action →
      system.exec state action = some next → property next)
    (matched : ∀ state action next, property state → allowed state action →
      system.exec state action = some next → view next = view state ∨
        ∃ step, otherAllowed (view state) step ∧
          other.exec (view state) step = some (view next)) (initially : property start)
    (run : system.Reaches allowed start finish) :
    other.Reaches otherAllowed (view start) (view finish) := by
  induction run with
  | refl => exact .refl _
  | step action before permitted executed induction =>
    have holds := before.preserves kept initially
    rcases matched _ action _ holds permitted executed with
      unchanged | ⟨step, otherPermitted, otherExecuted⟩
    · rw [unchanged]
      exact induction
    · exact .step step induction otherPermitted otherExecuted

def execAll (system : TransitionSystem σ α) : σ → List α → Option σ
  | state, [] => some state
  | state, action :: actions =>
    (system.exec state action).bind fun next =>
      system.execAll next actions

lemma execAll_append (system : TransitionSystem σ α) (start : σ) (first second : List α) :
    system.execAll start (first ++ second) = (system.execAll start first).bind fun middle =>
        system.execAll middle second := by
  induction first generalizing start with
  | nil => rfl
  | cons action actions induction =>
    rw [List.cons_append, execAll, execAll, Option.bind_assoc]
    congr 1
    funext next
    exact induction next

lemma Reaches.of_execAll (executed : system.execAll start actions = some finish) :
    system.Reaches anything start finish := by
  induction actions generalizing start with
  | nil =>
    cases executed
    exact .refl _
  | cons action actions induction =>
    obtain ⟨next, first, rest⟩ := Option.bind_eq_some_iff.mp executed
    exact (Reaches.step action (.refl start) trivial first).trans (induction rest)

/-- The state a list of actions leads to, or `start` when one of them is not
enabled. -/
def runFrom (system : TransitionSystem σ α) (start : σ) (actions : List α) : σ :=
  (system.execAll start actions).getD start

lemma Reaches.of_runFrom (runs : (system.execAll start actions).isSome = true) :
    system.Reaches anything start (system.runFrom start actions) := by
  obtain ⟨finish, executed⟩ := Option.isSome_iff_exists.mp runs
  unfold runFrom
  rw [executed]
  exact .of_execAll executed

/-- The same system with a check before every step. -/
def guarded (system : TransitionSystem σ α) (permits : σ → α → Bool) : TransitionSystem σ α where
  initial := system.initial
  exec state action :=
    if permits state action then system.exec state action else none

lemma Reaches.of_guarded (run : (system.guarded permits).Reaches anything start finish) :
    system.Reaches (fun state action => permits state action = true) start
      finish := by
  induction run with
  | refl => exact .refl _
  | step action _ _ executed induction =>
    simp only [guarded, Option.ite_none_right_eq_some] at executed
    exact .step action induction executed.1 executed.2

lemma execAll_of_guarded (executed : (system.guarded permits).execAll start actions = some finish) :
    system.execAll start actions = some finish := by
  induction actions generalizing start with
  | nil => exact executed
  | cons action actions induction =>
    obtain ⟨next, first, rest⟩ := Option.bind_eq_some_iff.mp executed
    simp only [guarded, Option.ite_none_right_eq_some] at first
    exact Option.bind_eq_some_iff.mpr ⟨next, first.2, induction rest⟩

lemma Reaches.of_guarded_runFrom
    (runs : ((system.guarded permits).execAll start actions).isSome = true) :
    system.Reaches (fun state action => permits state action = true) start
      (system.runFrom start actions) := by
  obtain ⟨finish, executed⟩ := Option.isSome_iff_exists.mp runs
  unfold runFrom
  rw [execAll_of_guarded executed]
  exact .of_guarded (.of_execAll executed)

end TransitionSystem

end Library
