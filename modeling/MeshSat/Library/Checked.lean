import Mathlib.Data.List.Basic

/-!
# Checked computations

Programs over arrays that stop with a fault where an index or a slice is out
of range, a divisor is zero, a loop has no end or the program gives up.
`Returns` says that a program ends without a fault, with a value that meets a
postcondition; there is a rule for each form of program.
-/

namespace Library

inductive Fault
  | index | slice | divide | endless
  /-- The program itself gives up. -/
  | raised
  deriving DecidableEq

abbrev Checked (α : Type) := Except Fault α

namespace Checked

variable {α β σ : Type}

/-! ## Programs -/

def fetch (list : List α) (position : Int) : Checked α :=
  if position < 0 then .error .index
  else
    match list[position.toNat]? with
    | some element => .ok element
    | none => .error .index

def store (list : List α) (position : Int) (element : α) : Checked (List α) :=
  if 0 ≤ position ∧ position < list.length then
    .ok (list.set position.toNat element)
  else .error .index

/-- The elements from `low` up to but without `high`. -/
def slice (list : List α) (low high : Int) : Checked (List α) :=
  if 0 ≤ low ∧ low ≤ high ∧ high ≤ list.length then
    .ok ((list.take high.toNat).drop low.toNat)
  else .error .slice

def quotient (dividend divisor : Int) : Checked Int :=
  if divisor = 0 then .error .divide else .ok (dividend.tdiv divisor)

/-- How a round of a loop ends: with the next round or with a break. -/
inductive Next (σ : Type)
  | next (state : σ)
  | stop (state : σ)

def rounds (body : Int → σ → Checked (Next σ)) : Nat → Int → σ → Checked σ
  | 0, _, state => .ok state
  | count + 1, position, state =>
    match body position state with
    | .error fault => .error fault
    | .ok (.stop state) => .ok state
    | .ok (.next state) => rounds body count (position + 1) state

/-- A loop that counts from `low` up to but without `high`. -/
def forRange (low high : Int) (body : Int → σ → Checked (Next σ)) (state : σ) : Checked σ :=
  rounds body (high - low).toNat low state

/-! ## Rules -/

def Returns (program : Checked α) (post : α → Prop) : Prop :=
  ∃ value, program = .ok value ∧ post value

section
variable {program : Checked α} {post weaker : α → Prop}
variable {value : α} {next : α → Checked β}

@[simp] lemma returns_ok : Returns (.ok value : Checked α) post ↔ post value := by
  constructor
  · intro ⟨other, same, holds⟩
    cases same
    exact holds
  intro holds
  exact ⟨value, rfl, holds⟩

@[simp] lemma returns_pure : Returns (pure value : Checked α) post ↔ post value :=
  returns_ok

@[simp] lemma not_returns_error : ¬ Returns (.error fault : Checked α) post := by
  intro ⟨_, same, _⟩
  cases same

@[simp] lemma returns_bind : Returns (program >>= next) last ↔
    Returns program fun value => Returns (next value) last := by
  cases program with
  | error fault =>
    constructor
    · intro returned
      exact (not_returns_error returned).elim
    intro returned
    exact (not_returns_error returned).elim
  | ok value =>
    rw [returns_ok]
    rfl

@[simp] lemma ok_bind : ((.ok value : Checked α) >>= next) = next value := rfl

lemma Returns.mono (returned : Returns program post)
    (stronger : ∀ value, post value → weaker value) : Returns program weaker := by
  obtain ⟨value, same, holds⟩ := returned
  exact ⟨value, same, stronger value holds⟩

lemma Returns.bind (first : Returns program post)
    (rest : ∀ value, post value → Returns (next value) last) : Returns (program >>= next) last :=
  returns_bind.mpr (first.mono rest)

/-- If the program ends without a fault, its value meets the
postcondition. -/
def Yields (program : Checked α) (post : α → Prop) : Prop :=
  ∀ value, program = .ok value → post value

@[simp] lemma yields_ok : Yields (.ok value : Checked α) post ↔ post value := by
  constructor
  · intro yields
    exact yields value rfl
  intro holds other same
  cases same
  exact holds

@[simp] lemma yields_pure : Yields (pure value : Checked α) post ↔ post value :=
  yields_ok

lemma yields_bind (rest : ∀ value, program = .ok value → Yields (next value) last) :
    Yields (program >>= next) last := by
  cases program with
  | error fault =>
    intro value same
    cases same
  | ok value => exact rest value rfl

lemma Returns.eq_ok (returned : Returns program (· = value)) : program = .ok value := by
  obtain ⟨other, same, rfl⟩ := returned
  exact same

end

lemma fetch_eq_ok {list : List α} {position : Nat} {element : α}
    (found : list[position]? = some element) : fetch list position = .ok element := by
  rw [fetch, if_neg (by omega), Int.toNat_natCast, found]

variable {list : List α} {position low high : Int} {post : List α → Prop}
  {body : Int → σ → Checked (Next σ)}

lemma fetch_zero {element : α} (found : list[0]? = some element) : fetch list 0 = .ok element :=
  @fetch_eq_ok α list 0 element found

lemma fetch_of_neg (negative : position < 0) : fetch list position = .error .index := by
  rw [fetch, if_pos negative]

/-! ### The first access of a program -/

section
variable {last : β → Prop}

lemma returns_fetch (low : 0 ≤ position) (high : position < list.length)
    (holds : ∀ element, list[position.toNat]? = some element → Returns (rest element) last) :
    Returns (fetch list position >>= rest) last := by
  have inside : position.toNat < list.length := by omega
  have found := List.getElem?_eq_getElem inside
  rw [fetch, if_neg (by omega), found]
  exact holds _ found

lemma returns_store (low : 0 ≤ position) (high : position < list.length)
    (holds : Returns (rest (list.set position.toNat element)) last) :
    Returns (store list position element >>= rest) last := by
  rw [store, if_pos ⟨low, high⟩]
  exact holds

lemma returns_slice (start : 0 ≤ low) (ordered : low ≤ high) (inside : high ≤ list.length)
    (holds : Returns (rest ((list.take high.toNat).drop low.toNat)) last) :
    Returns (slice list low high >>= rest) last := by
  rw [slice, if_pos ⟨start, ordered, inside⟩]
  exact holds

end

lemma slice_append (before middle after : List α) (starts : low = before.length)
    (ends : high = before.length + middle.length) :
    slice (before ++ middle ++ after) low high = .ok middle := by
  have inside : 0 ≤ low ∧ low ≤ high ∧ high ≤ ((before ++ middle ++ after).length : Nat) := by
    rw [List.length_append, List.length_append]
    omega
  have long : high.toNat = (before ++ middle).length := by
    rw [List.length_append]
    omega
  have short : low.toNat = before.length := by omega
  rw [slice, if_pos inside, long, List.take_left, short, List.drop_left]

lemma slice_end (before after : List α) (starts : low = before.length) :
    slice (before ++ after) low (before ++ after).length = .ok after := by
  have cut := slice_append before after [] starts
    (show ((before ++ after).length : Int) = before.length + after.length by
      rw [List.length_append]
      omega)
  rwa [List.append_nil] at cut

/-- What a round leaves: the invariant, or what the loop is for. -/
def Next.Meets (invariant post : σ → Prop) : Next σ → Prop
  | next state => invariant state
  | stop state => post state

lemma returns_rounds {invariant : Int → σ → Prop} {post : σ → Prop} :
    ∀ {count : Nat} {position : Int} {state : σ}, invariant position state →
      (∀ i state, position ≤ i → i < position + count → invariant i state →
        Returns (body i state) (Next.Meets (invariant (i + 1)) post)) →
      (∀ state, invariant (position + count) state → post state) →
      Returns (rounds body count position state) post
  | 0, position, state, holds, _, ends => by
      apply returns_ok.mpr
      apply ends
      simpa using holds
  | count + 1, position, state, holds, each, ends => by
      obtain ⟨next, ran, meets⟩ := each position state (by omega) (by omega) holds
      rw [rounds, ran]
      cases next with
      | stop state => exact returns_ok.mpr meets
      | next state =>
        apply returns_rounds meets
        · intro i state above below
          exact each i state (by omega) (by omega)
        intro state last
        apply ends
        rwa [show position + ((count + 1 : Nat) : Int) = position + 1 + count by omega]

lemma returns_forRange {state : σ} (invariant : Int → σ → Prop) {post : σ → Prop}
    (initially : invariant low state) (each : ∀ i state, low ≤ i → i < high → invariant i state →
      Returns (body i state) (Next.Meets (invariant (i + 1)) post))
    (ends : ∀ state, invariant (max low high) state → post state) :
    Returns (forRange low high body state) post := by
  apply returns_rounds initially
  · intro i state above below
    exact each i state above (by omega)
  intro state last
  apply ends
  rwa [show max low high = low + ((high - low).toNat : Int) by omega]

end Checked

end Library
