import Mathlib.Data.List.Sort
import MeshSat.Library.Keyed

/-!
# Visiting and counting records

A program goes through the records of a keyed list in some order, changes each
one and carries a state along; or it changes one record, and the number of
records that meet a condition moves by at most one.
-/

namespace Library

open List

variable {α κ σ : Type} {key : α → κ}

/-! ## Visiting -/

def visitAll (change : σ → α → σ × α) : σ → List α → σ × List α
  | state, [] => (state, [])
  | state, entry :: rest =>
    let first := change state entry
    let others := visitAll change first.1 rest
    (others.1, first.2 :: others.2)

lemma map_visitAll (keeps : ∀ state entry, key (change state entry).2 = key entry) (state : σ)
    (list : List α) :
    (visitAll change state list).2.map key = list.map key := by
  induction list generalizing state with
  | nil => rfl
  | cons entry rest induction => simp [visitAll, keeps, induction]

lemma mem_visitAll (member : entry ∈ (visitAll change state list).2) :
    ∃ state, ∃ old ∈ list, entry = (change state old).2 := by
  induction list generalizing state with
  | nil => exact absurd member not_mem_nil
  | cons first rest induction =>
    rcases mem_cons.mp member with rfl | later
    · exact ⟨state, first, mem_cons_self, rfl⟩
    obtain ⟨state, old, among, same⟩ := induction later
    exact ⟨state, old, mem_cons_of_mem _ among, same⟩

namespace Keyed

/-- The records in the order of a relation, each changed in its turn. -/
def visit (keyed : Keyed key) (order : α → α → Prop) [DecidableRel order] (change : σ → α → σ × α)
    (keeps : ∀ state entry, key (change state entry).2 = key entry) (state : σ) : σ × Keyed key :=
  let out := visitAll change state (keyed.entries.insertionSort order)
  (out.1, ⟨out.2, by
    rw [map_visitAll keeps]
    exact ((perm_insertionSort order keyed.entries).map key).nodup_iff.mpr keyed.nodup⟩)

variable {keyed : Keyed key}

lemma mem_visit {order : α → α → Prop} [DecidableRel order] {change : σ → α → σ × α}
    (keeps : ∀ state entry, key (change state entry).2 = key entry) {state : σ}
    {entry : α} (member : entry ∈ (keyed.visit order change keeps state).2) :
    ∃ state, ∃ old ∈ keyed, entry = (change state old).2 := by
  obtain ⟨state, old, among, same⟩ := mem_visitAll member
  exact ⟨state, old, (mem_insertionSort order).mp among, same⟩

/-! ## Counting -/

def tally (keyed : Keyed key) (meets : α → Bool) : Nat := keyed.entries.countP meets

lemma tally_pos_iff : 0 < keyed.tally meets ↔ ∃ entry ∈ keyed, meets entry = true :=
  countP_pos_iff

lemma tally_mono (implies : ∀ entry ∈ keyed, fewer entry = true → more entry = true) :
    keyed.tally fewer ≤ keyed.tally more :=
  countP_mono_left implies

/-- With fewer records of one kind than of another, one is of the other kind
only. -/
lemma exists_of_tally_lt (less : keyed.tally fewer < keyed.tally more) :
    ∃ entry ∈ keyed, more entry = true ∧ fewer entry = false := by
  by_contra none
  apply Nat.not_lt.mpr (tally_mono fun entry member holds => ?_) less
  by_contra missing
  exact none ⟨entry, member, holds, Bool.eq_false_iff.mpr missing⟩

/-- One record is changed: it counted before or it does not, and it counts
now or it does not. -/
lemma tally_updateWhere [DecidableEq κ] (member : entry ∈ keyed)
    (change : α → α) (keeps : ∀ entry, key (change entry) = key entry) (meets : α → Bool) :
    (keyed.updateWhere (fun other => key other = key entry) change
        keeps).tally meets + (if meets entry then 1 else 0) =
      keyed.tally meets + (if meets (change entry) then 1 else 0) := by
  obtain ⟨before, after, split⟩ := append_of_mem member
  have nodup := keyed.nodup
  rw [split, map_append, map_cons] at nodup
  have apart := nodup_middle.mp nodup
  have other : ∀ other ∈ before ++ after, key other ≠ key entry := by
    intro other among same
    apply (nodup_cons.mp apart).1
    rw [← same, ← map_append]
    exact mem_map_of_mem among
  have untouched : ∀ list : List α, (∀ other ∈ list, key other ≠ key entry) →
      list.map (fun other => if key other = key entry then change other
        else other) = list := by
    intro list different
    calc
      _ = list.map id := by
        apply map_congr_left
        intro other among
        exact if_neg (different other among)
      _ = list := map_id list
  have first := untouched before fun one among =>
    other one (mem_append_left _ among)
  have last := untouched after fun one among =>
    other one (mem_append_right _ among)
  rw [tally, tally, updateWhere]
  simp only [split, decide_eq_true_eq, map_append, map_cons, first,
    last, countP_append, countP_cons, if_true]
  omega

end Keyed

end Library
