import MeshSat.Engine.HopSet

/-!
# The floor of the hop set

After an evaluation enough links are usable and, if one is not down, a free
one is among them. No link is retained that the floor could do without: a
free link is only asked for in the first round, and afterwards a link is
retained only while there are too few.
-/

namespace MeshSat.Engine

open Library HopSetManager HopLink Keyed

structure HopSetManager.Floor (m : HopSetManager) : Prop where
  enough : min m.cfg.minSet m.available ≤ m.usableN
  free : 0 < m.freeAvailable → 0 < m.freeUsable

/-- Without a retained link the floor would not hold. -/
structure HopSetManager.Needed (m : HopSetManager) : Prop where
  /-- A retained link would be out of use. -/
  spare : ∀ l ∈ m.links, l.retained = true →
    l.down = false ∧ l.state ≠ .admitted ∧ l.state ≠ .suspect
  /-- A free link is asked for before all others. -/
  settled : (∃ l ∈ m.links, l.retained = true) → ¬ m.needFree
  needed : ∀ l ∈ m.links, l.retained = true → m.usableN ≤ min m.cfg.minSet m.available ∨
      m.freeUsable = 1 ∧ l.paid = false

section
variable {m : HopSetManager} {l : HopLink}

/-- The counts after a link that was out of use is retained. -/
structure HopSetManager.Grown (m next : HopSetManager) (l : HopLink) : Prop where
  cfg : next.cfg = m.cfg
  available : next.available = m.available
  freeAvailable : next.freeAvailable = m.freeAvailable
  usableN : next.usableN = m.usableN + 1
  freeUsable : next.freeUsable = m.freeUsable + if l.paid then 0 else 1

lemma HopSetManager.grown_retain (stored : l ∈ m.links)
    (up : l.down = false) (unused : l.usable = false) : m.Grown (m.retain l.id true) l := by
  have count := fun meets => tally_retain stored true meets
  have now := usable_retained up
  constructor
  · rfl
  · have counted := count fun l => !l.down
    exact Nat.add_right_cancel counted
  · have counted := count fun l => !l.down && !l.paid
    exact Nat.add_right_cancel counted
  · have counted := count HopLink.usable
    rw [now, unused] at counted
    exact counted
  have counted := count fun l => l.usable && !l.paid
  rw [now, unused] at counted
  cases paid : l.paid with
  | true =>
    rw [paid] at counted
    exact counted
  | false =>
    rw [paid] at counted
    exact counted

end

section
variable {m next : HopSetManager} {l : HopLink}

lemma HopLink.unused_iff (up : l.down = false) : l.usable = false ↔ l.state ≠ .admitted ∧
    l.state ≠ .suspect ∧ l.retained = false := by
  rw [usable]
  simp [up, Bool.or_eq_false_iff, and_assoc]

namespace HopSetManager

lemma mem_retain (stored : l ∈ m.links) (member : other ∈ (m.retain l.id true).links) :
    other = { l with retained := true } ∨ other ∈ m.links := by
  rw [retain, mem_updateWhere] at member
  obtain ⟨old, among, same⟩ := member
  split at same
  · rename_i chosen
    have equal := m.links.eq_of_key_eq among stored (of_decide_eq_true chosen)
    subst equal
    exact .inl same.symm
  · exact .inr (same ▸ among)

lemma Needed.round (needed : m.Needed) (round : m.repairRound = .ok next) : next.Needed := by
  obtain ⟨broken, l, stored, up, unused, free, rfl⟩ := repairRound_cases round
  have grown := grown_retain stored up unused
  obtain ⟨admitted, suspect, -⟩ := (unused_iff up).mp unused
  refine ⟨?_, ?_, ?_⟩
  · intro other member retained
    rcases mem_retain stored member with rfl | before
    · exact ⟨up, admitted, suspect⟩
    · exact needed.spare other before retained
  · rintro - ⟨available, none⟩
    rw [grown.freeAvailable] at available
    rw [grown.freeUsable] at none
    by_cases needFree : m.needFree
    · rw [free needFree] at none
      exact absurd none (Nat.succ_ne_zero _)
    · exact needFree ⟨available, (Nat.add_eq_zero_iff.mp none).1⟩
  intro other member retained
  rw [grown.usableN, grown.cfg, grown.available, grown.freeUsable]
  by_cases needFree : m.needFree
  · right
    rcases mem_retain stored member with rfl | before
    · rw [needFree.2, free needFree]
      exact ⟨rfl, rfl⟩
    · exact absurd needFree (needed.settled ⟨other, before, retained⟩)
  left
  have few := broken.resolve_right needFree
  omega

lemma candidates_ne_nil
    (broken : ¬ (min m.cfg.minSet m.available ≤ m.usableN ∧ ¬ m.needFree)) : m.candidates ≠ [] := by
  have choose : ∀ l ∈ m.links, l.down = false → l.usable = false →
      (m.needFree → l.paid = false) → m.candidates ≠ [] := by
    intro l stored up unused free
    apply List.ne_nil_of_mem (a := l)
    apply (List.mem_insertionSort _).mpr
    apply List.mem_filter.mpr
    refine ⟨(List.mem_insertionSort _).mpr stored, ?_⟩
    rw [up, unused]
    by_cases needFree : m.needFree
    · rw [free needFree]
      simp
    · simp [needFree]
  by_cases needFree : m.needFree
  · obtain ⟨l, stored, available⟩ := tally_pos_iff.mp needFree.1
    have unused : ¬ (l.usable && !l.paid) = true := fun usable =>
      absurd needFree.2 (Nat.ne_of_gt (tally_pos_iff.mpr ⟨l, stored, usable⟩))
    simp only [Bool.and_eq_true, Bool.not_eq_true'] at available unused
    refine choose l stored available.1 ?_ fun _ => available.2
    exact Bool.eq_false_iff.mpr fun usable => unused ⟨usable, available.2⟩
  have few : m.usableN < m.available := by
    have short : ¬ min m.cfg.minSet m.available ≤ m.usableN :=
      fun enough => broken ⟨enough, needFree⟩
    omega
  obtain ⟨l, stored, available, unused⟩ := exists_of_tally_lt few
  refine choose l stored ?_ unused fun need => absurd need needFree
  exact Bool.not_eq_true' _ ▸ available

/-- The rounds change no more than which links are retained. -/
structure Repairs (m next : HopSetManager) : Prop where
  cfg : next.cfg = m.cfg
  links : ∀ l ∈ next.links, ∃ old ∈ m.links, l.MovedFrom { old with retained := l.retained }

lemma repairRound_repairs (round : m.repairRound = .ok next) : m.Repairs next := by
  obtain ⟨-, l, stored, -, -, -, rfl⟩ := repairRound_cases round
  refine ⟨rfl, fun other member => ?_⟩
  rcases mem_retain stored member with rfl | before
  · exact ⟨l, stored, rfl, rfl, rfl, rfl, rfl, rfl, rfl⟩
  · exact ⟨other, before, rfl, rfl, rfl, rfl, rfl, rfl, rfl⟩

lemma Repairs.trans (first : m.Repairs next) (second : next.Repairs last) : m.Repairs last := by
  refine ⟨second.cfg.trans first.cfg, fun l member => ?_⟩
  obtain ⟨middle, among, later⟩ := second.links l member
  obtain ⟨old, stored, sooner⟩ := first.links middle among
  exact ⟨old, stored, later.id.trans sooner.id, later.channelType.trans sooner.channelType,
    later.paid.trans sooner.paid, later.deaf.trans sooner.deaf,
    later.absent.trans sooner.absent, later.down.trans sooner.down, rfl⟩

lemma repairRound_exit (round : m.repairRound = .error exit) : exit = .kept ∧ m.Floor := by
  rw [repairRound] at round
  split at round
  · rename_i holds
    cases round
    refine ⟨rfl, holds.1, fun available => ?_⟩
    exact Nat.pos_of_ne_zero fun none => holds.2 ⟨available, none⟩
  rename_i broken
  split at round
  · rename_i empty
    exact absurd empty (candidates_ne_nil broken)
  · cases round

lemma Needed.repairFloorLocked (needed : m.Needed) : m.repairFloorLocked.2 = .kept ∧
    m.repairFloorLocked.1.Floor ∧ m.repairFloorLocked.1.Needed ∧
    m.Repairs m.repairFloorLocked.1 := by
  -- The induction follows the rounds; each one keeps what is needed.
  fun_induction HopSetManager.repairFloorLocked m with
  | case1 m exit round =>
    obtain ⟨kept, floor⟩ := repairRound_exit round
    exact ⟨kept, floor, needed, rfl, fun l member =>
      ⟨l, member, rfl, rfl, rfl, rfl, rfl, rfl, rfl⟩⟩
  | case2 m next round induction =>
    obtain ⟨kept, floor, last, repairs⟩ := induction (needed.round round)
    exact ⟨kept, floor, last, (repairRound_repairs round).trans repairs⟩

end HopSetManager

lemma HopLink.usable_dropped (admitted : l.state ≠ .admitted) (suspect : l.state ≠ .suspect) :
    { l with retained := false }.usable = false := by
  rw [usable]
  simp [admitted, suspect]

lemma HopSetManager.Needed.not_floor_drop (needed : m.Needed)
    (stored : l ∈ m.links) (retained : l.retained = true) : ¬ (m.retain l.id false).Floor := by
  obtain ⟨up, admitted, suspect⟩ := needed.spare l stored retained
  have count := fun meets => tally_retain stored false meets
  have used : l.usable = true := by
    rw [usable, up, retained]
    simp
  have unused := usable_dropped admitted suspect
  rintro ⟨enough, free⟩
  have available : (m.retain l.id false).available = m.available :=
    Nat.add_right_cancel (count fun l => !l.down)
  rcases needed.needed l stored retained with few | ⟨only, unpaid⟩
  · have counted := count HopLink.usable
    rw [used, unused] at counted
    have fewer : (m.retain l.id false).usableN + 1 = m.usableN := counted
    rw [available] at enough
    have same : (m.retain l.id false).cfg = m.cfg := rfl
    rw [same] at enough
    omega
  have counted := count fun l => l.usable && !l.paid
  rw [used, unused, unpaid] at counted
  have fewer : (m.retain l.id false).freeUsable + 1 = m.freeUsable := counted
  have there : 0 < m.freeAvailable := tally_pos_iff.mpr ⟨l, stored, by rw [up, unpaid]; rfl⟩
  have still : (m.retain l.id false).freeAvailable = m.freeAvailable :=
    Nat.add_right_cancel (count fun l => !l.down && !l.paid)
  omega

end

/-! ## Evaluating -/

def HopView.Out (x : HopView) (l : HopLink) : Prop :=
  x.receiveDeaf l.id = true ∨ hopDeviceless l.channelType = false ∧ x.avail l.id = some false

/-- What an evaluation has made of the links before it keeps the floor. -/
structure HopView.Reads (x : HopView) (l : HopLink) : Prop where
  parts : l.down = (l.deaf || l.absent)
  down : l.down = true ↔ x.Out l
  retained : l.retained = false

lemma HopLink.readSigns_reads (cfg : HopSetConfig) (x : HopView)
    (seq : Nat) (l : HopLink) : x.Reads (l.readSigns cfg x seq).2 := by
  refine ⟨rfl, ?_, rfl⟩
  show (x.receiveDeaf l.id ||
    (!hopDeviceless l.channelType && decide (x.avail l.id = some false))) = true ↔ _
  simp only [Bool.or_eq_true, Bool.and_eq_true, Bool.not_eq_true', decide_eq_true_eq]
  rfl

lemma HopView.Reads.movedFrom {x : HopView} {l old : HopLink}
    (reads : x.Reads old) (moved : l.MovedFrom old) : x.Reads l := by
  refine ⟨?_, ?_, moved.retained.trans reads.retained⟩
  · rw [moved.down, moved.deaf, moved.absent, reads.parts]
  · rw [moved.down, reads.down, HopView.Out, HopView.Out, moved.id, moved.channelType]

variable {l : HopLink}

namespace HopSetManager

lemma judged_reads {m : HopSetManager} {x : HopView} (member : l ∈ (m.judged x).links) :
    x.Reads l := by
  obtain ⟨seq, old, among, rfl⟩ := mem_visit
    (fun seq l => (l.judge_movedFrom m.cfg x.now seq).id) member
  obtain ⟨earlier, first, -, rfl⟩ := mem_visit (fun _ _ => rfl) among
  exact (first.readSigns_reads m.cfg x earlier).movedFrom (judge_movedFrom _ _ _ _)

lemma judged_needed (m : HopSetManager) (x : HopView) : (m.judged x).Needed := by
  have none : ∀ l ∈ (m.judged x).links, ¬ l.retained = true := by
    intro l member retained
    rw [(judged_reads member).retained] at retained
    cases retained
  refine ⟨fun l member retained => absurd retained (none l member), ?_,
    fun l member retained => absurd retained (none l member)⟩
  rintro ⟨l, member, retained⟩
  exact absurd retained (none l member)

lemma current_cfg (m : HopSetManager) (x : HopView) : (m.current x).cfg = m.cfg := by
  have refreshed : (m.refreshLocked x).cfg = m.cfg := by
    rw [refreshLocked]
    split
    · rfl
    · rfl
    · rfl
  rw [current]
  split
  · exact refreshed
  split
  · exact refreshed
  · rfl

structure Evaluated (m : HopSetManager) (x : HopView) : Prop where
  floor : m.Floor
  needed : m.Needed
  parts : ∀ l ∈ m.links, l.down = (l.deaf || l.absent)
  down : ∀ l ∈ m.links, l.down = true ↔ x.Out l

lemma evaluate_spec (m : HopSetManager) (x : HopView) :
    (m.evaluate x).2 = .kept ∧ (m.evaluate x).1.cfg = m.cfg ∧ (m.evaluate x).1.Evaluated x := by
  obtain ⟨kept, floor, needed, repairs⟩ := ((m.current x).judged_needed x).repairFloorLocked
  refine ⟨kept, repairs.cfg.trans (m.current_cfg x), floor, needed, ?_, ?_⟩
  · intro l member
    obtain ⟨old, among, moved⟩ := repairs.links l member
    rw [moved.down, moved.deaf, moved.absent]
    exact (judged_reads among).parts
  intro l member
  obtain ⟨old, among, moved⟩ := repairs.links l member
  rw [moved.down, HopView.Out, moved.id, moved.channelType]
  exact (judged_reads among).down

end HopSetManager

lemma HopLink.unusable_of_down (down : l.down = true) : l.usable = false := by
  rw [usable, down]
  rfl

def exampleHopConfig : HopSetConfig :=
  ⟨15 * hopMinute, 10 * hopSecond, 10 * hopMinute, 60 * hopMinute, hopHour,
    60 * hopSecond, 10 * hopMinute, 2, 30 * hopSecond⟩

def excludedHopSet : HopSetManager :=
  let link := newHopLink ⟨"mesh_0", "mesh", true⟩ false 0
  ⟨exampleHopConfig, .on, ⟨[{ link with state := .excluded }], by decide⟩, some 0, 0, 0⟩

def quietHopView : HopView := ⟨1, none, fun _ => false, fun _ => false, fun _ => none⟩

section
variable {m : HopSetManager} {x : HopView} {ifaceID : String}

namespace HopSetManager

end HopSetManager

end

end MeshSat.Engine
