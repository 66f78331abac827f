import MeshSat.Hub.Inbox

/-!
# Handing stored messages to the access rules

A pass lists the oldest stored messages that wait and takes each to the
access rules once. A message whose hand-off fails keeps its place, so fifty
that always fail hold up every later one.
-/

namespace MeshSat.Hub

open Library List

/-- A stored message the access rules have not seen yet. -/
structure HubHandoff where
  messageID : Nat
  (origin recipient text : String)
  deriving DecidableEq

lemma finishHandoff_messageID (now : Int64) (h : Handoff) :
    (finishHandoff now h).messageID = h.messageID := rfl

namespace InboxDB

/-- A pending row joined with its message. -/
def paired (db : InboxDB) (h : Handoff) : Option HubHandoff :=
  if h.state = .pending then
    (db.messages.get? h.messageID).map fun m => ⟨h.messageID, m.fromNode, m.toNode, m.decodedText⟩
  else none

def waiting (db : InboxDB) : List HubHandoff :=
  (db.handoffs.entries.insertionSort (·.messageID ≤ ·.messageID)).filterMap db.paired

def pendingHubHandoffs (db : InboxDB) (limit : Int) : List HubHandoff :=
  db.waiting.take (if limit ≤ 0 then 50 else limit.toNat)

def markHubHandoffDone (messageID : Nat) (now : Int64) (db : InboxDB) : InboxDB :=
  { db with
    handoffs := db.handoffs.updateWhere (fun h => h.messageID = messageID && h.state = .pending)
      (finishHandoff now) (finishHandoff_messageID now) }

variable (fn : HubHandoff → Bool) (now : HubHandoff → Int64)

/-- The loop of a pass, with what it marks. A hand-off without an error is one of which
`fn` holds; a message is marked once, at a time of its own. -/
def handEach : List HubHandoff → InboxDB → InboxDB × List HubHandoff
  | [], db => (db, [])
  | h :: rest, db =>
    if fn h then
      let (db, done) := handEach rest (db.markHubHandoffDone h.messageID (now h))
      (db, h :: done)
    else handEach rest db

def handOff (db : InboxDB) : InboxDB × List HubHandoff :=
  handEach fn now (db.pendingHubHandoffs 50) db

/-- Repeated passes, with all they mark. -/
def handOffs (db : InboxDB) : Nat → InboxDB × List HubHandoff
  | 0 => (db, [])
  | passes + 1 =>
    let (before, done) := handOffs db passes
    let (after, more) := handOff fn now before
    (after, done ++ more)

/-- The waiting messages older than `h` whose hand-off always fails. -/
def stuckBefore (h : HubHandoff) (waiting : List HubHandoff) : List HubHandoff :=
  waiting.filter fun other => other.messageID < h.messageID && !fn other

variable {fn now} {db : InboxDB} {h : HubHandoff}

/-! ## One pass -/

lemma messageID_of_paired (found : h ∈ db.paired row) : h.messageID = row.messageID := by
  unfold paired at found
  split at found
  · obtain ⟨m, _, rfl⟩ := Option.map_eq_some_iff.mp found
    rfl
  · cases found

lemma waiting_sorted (db : InboxDB) : db.waiting.Pairwise (·.messageID < ·.messageID) := by
  have rows : (db.handoffs.entries.insertionSort (·.messageID ≤ ·.messageID)).Pairwise
      (·.messageID < ·.messageID) := by
    have distinct := ((perm_insertionSort (·.messageID ≤ ·.messageID) _).map _).nodup_iff.mpr
      db.handoffs.nodup
    exact (pairwise_insertionSort _ _).imp₂ (fun _ _ le ne => lt_of_le_of_ne le ne)
      (pairwise_map.mp distinct)
  refine rows.filterMap _ ?_
  intro left right less first fromLeft second fromRight
  rw [messageID_of_paired fromLeft, messageID_of_paired fromRight]
  exact less

lemma waiting_marked (messageID : Nat) (time : Int64) :
    (db.markHubHandoffDone messageID time).waiting =
      db.waiting.filter fun h => h.messageID ≠ messageID := by
  have kept (row : Handoff) : (if row.messageID = messageID && row.state = .pending
      then finishHandoff time row else row).messageID = row.messageID := by
    split <;> rfl
  rw [waiting, waiting, filter_filterMap, markHubHandoffDone, Keyed.updateWhere,
    ← map_insertionSort (·.messageID ≤ ·.messageID) _ _ _ (by simp only [kept, implies_true]),
    filterMap_map]
  apply filterMap_congr
  intro row _
  by_cases pending : row.state = .pending
  · by_cases same : row.messageID = messageID
    · simp [paired, pending, same, finishHandoff, Option.filter_map, Function.comp_def]
    · cases found : db.messages.get? row.messageID <;>
        simp [paired, pending, same, found, Option.filter]
  · simp [paired, pending]

variable (fn now) in
lemma handEach_spec (listed : List HubHandoff) (db : InboxDB) :
    (handEach fn now listed db).2 = listed.filter fn ∧
    (handEach fn now listed db).1.waiting = db.waiting.filter fun h =>
      ∀ done ∈ listed.filter fn, h.messageID ≠ done.messageID := by
  induction listed generalizing db with
  | nil => simp [handEach]
  | cons next rest induction =>
    by_cases taken : fn next = true
    · obtain ⟨marked, left⟩ := induction (db.markHubHandoffDone next.messageID (now next))
      simp [handEach, taken, marked, left, waiting_marked, filter_filter, Bool.and_comm]
    · simp [handEach, taken, induction]

lemma take_lt_drop : ∀ first ∈ db.waiting.take 50, ∀ later ∈ db.waiting.drop 50,
    first.messageID < later.messageID := by
  have sorted := db.waiting_sorted
  rw [← take_append_drop 50 db.waiting, pairwise_append] at sorted
  exact sorted.2.2

variable (fn now) in
lemma handOff_spec (db : InboxDB) : (handOff fn now db).2 = (db.waiting.take 50).filter fn ∧
    (handOff fn now db).1.waiting =
      (db.waiting.take 50).filter (fun h => !fn h) ++ db.waiting.drop 50 := by
  obtain ⟨marked, left⟩ := handEach_spec fn now (db.waiting.take 50) db
  refine ⟨marked, left.trans ?_⟩
  conv_lhs => enter [2]; rw [← take_append_drop 50 db.waiting]
  rw [filter_append]
  congr 1
  · apply filter_congr
    intro h listed
    cases taken : fn h with
    | true =>
      simp only [Bool.not_true, decide_eq_false_iff_not]
      exact fun distinct => distinct h (mem_filter.mpr ⟨listed, taken⟩) rfl
    | false =>
      simp only [Bool.not_false, decide_eq_true_eq]
      intro done member same
      obtain ⟨first, succeeds⟩ := mem_filter.mp member
      have equal := inj_on_of_nodup_map (pairwise_map.mpr (db.waiting_sorted.imp ne_of_lt))
        (mem_of_mem_take listed) (mem_of_mem_take first) same
      rw [← equal, taken] at succeeds
      cases succeeds
  rw [filter_eq_self]
  intro h later
  simp only [decide_eq_true_eq]
  intro done marked
  exact (take_lt_drop done (mem_of_mem_filter marked) h later).ne'

lemma stuckBefore_handOff (db : InboxDB) :
    stuckBefore fn h (handOff fn now db).1.waiting = stuckBefore fn h db.waiting := by
  simp only [stuckBefore, (handOff_spec fn now db).2, filter_append, filter_filter, Bool.and_assoc,
    Bool.and_self]
  rw [← filter_append, take_append_drop]

variable (now) in
/-- A pass that does not reach `h` has fifty older ones, not all of which fail. -/
lemma shorter_of_later (later : h ∈ db.waiting.drop 50)
    (few : (stuckBefore fn h db.waiting).length < 50) :
    (handOff fn now db).1.waiting.length < db.waiting.length := by
  have stuck : (db.waiting.take 50).filter (fun other => !fn other) =
      stuckBefore fn h (db.waiting.take 50) := by
    apply filter_congr
    intro first member
    simp [take_lt_drop first member h later]
  have fewer : (stuckBefore fn h (db.waiting.take 50)).length ≤ _ :=
    ((take_sublist 50 _).filter _).length_le
  have long := length_pos_of_mem later
  rw [(handOff_spec fn now db).2, length_append, stuck]
  rw [length_drop] at long ⊢
  unfold stuckBefore at few fewer ⊢
  omega

/-- A message with fifty older ones that always fail is not reached. -/
lemma later_of_stuck (waits : h ∈ db.waiting)
    (many : 50 ≤ (stuckBefore fn h db.waiting).length) : h ∈ db.waiting.drop 50 := by
  rw [← take_append_drop 50 db.waiting] at waits many
  refine (mem_append.mp waits).resolve_left fun reached => ?_
  have none : stuckBefore fn h (db.waiting.drop 50) = [] := by
    rw [stuckBefore, filter_eq_nil_iff]
    intro other later
    simp [(take_lt_drop h reached other later).le]
  have fewer : (stuckBefore fn h (db.waiting.take 50)).length < (db.waiting.take 50).length :=
    length_filter_lt_length_iff_exists.mpr ⟨h, reached, by simp⟩
  have := length_take_le 50 db.waiting
  unfold stuckBefore at many none fewer
  rw [filter_append, none, append_nil] at many
  omega

/-! ## Repeated passes -/

lemma stuckBefore_handOffs (db : InboxDB) (passes : Nat) :
    stuckBefore fn h (handOffs fn now db passes).1.waiting = stuckBefore fn h db.waiting := by
  induction passes with
  | zero => rfl
  | succ passes induction => exact (stuckBefore_handOff _).trans induction

variable (fn now) in
/-- Every message is marked once or waits. -/
lemma handOffs_perm (db : InboxDB) (passes : Nat) :
    (handOffs fn now db passes).2 ++ (handOffs fn now db passes).1.waiting ~ db.waiting := by
  induction passes with
  | zero => exact .refl _
  | succ passes induction =>
    obtain ⟨marked, left⟩ := handOff_spec fn now (handOffs fn now db passes).1
    simp only [handOffs, marked, left, append_assoc]
    refine .trans (.append_left _ ?_) induction
    rw [← append_assoc]
    nth_rewrite 4 [← take_append_drop 50 (handOffs fn now db passes).1.waiting]
    exact (filter_append_perm _ _).append_right _

lemma handOffs_reaches (waits : h ∈ db.waiting) (succeeds : fn h = true)
    (few : (stuckBefore fn h db.waiting).length < 50) :
    ∃ passes, h ∈ (handOffs fn now db passes).2 := by
  by_contra never
  -- a pass that does not reach `h` makes the backlog shorter
  have shrinks (passes : Nat) :
      (handOffs fn now db passes).1.waiting.length + passes ≤ db.waiting.length := by
    induction passes with
    | zero => exact le_rfl
    | succ passes induction =>
      have kept := (handOffs_perm fn now db (passes + 1)).mem_iff.mpr waits
      have still := (mem_append.mp kept).resolve_left fun marked => never ⟨_, marked⟩
      have later : h ∈ (handOffs fn now db passes).1.waiting.drop 50 := by
        simpa [handOffs, (handOff_spec _ _ _).2, succeeds] using still
      have := shorter_of_later now later (by rwa [stuckBefore_handOffs])
      rw [handOffs]
      dsimp only
      omega
  have := shrinks (db.waiting.length + 1)
  omega

lemma not_mem_handOffs (waits : h ∈ db.waiting)
    (many : 50 ≤ (stuckBefore fn h db.waiting).length) (passes : Nat) :
    h ∉ (handOffs fn now db passes).2 := by
  have still : h ∈ (handOffs fn now db passes).1.waiting := by
    induction passes with
    | zero => exact waits
    | succ passes induction =>
      simp only [handOffs, (handOff_spec _ _ _).2, mem_append]
      exact .inr (later_of_stuck induction (by rwa [stuckBefore_handOffs]))
  have distinct := (handOffs_perm fn now db passes).nodup_iff.mpr
    (db.waiting_sorted.imp fun less same => less.ne (congrArg _ same))
  exact fun marked => disjoint_of_nodup_append distinct marked still

theorem handOffs_iff (db : InboxDB) (fn : HubHandoff → Bool) (now : HubHandoff → Int64) :
    ((∀ h ∈ db.waiting, fn h → ∃ passes, h ∈ (handOffs fn now db passes).2) ↔
      ∀ h ∈ db.waiting, fn h → (stuckBefore fn h db.waiting).length < 50) ∧
    ∀ passes, ((handOffs fn now db passes).2.map HubHandoff.messageID).Nodup := by
  refine ⟨⟨?_, ?_⟩, ?_⟩
  · intro all h waits succeeds
    by_contra many
    obtain ⟨passes, marked⟩ := all h waits succeeds
    exact not_mem_handOffs waits (not_lt.mp many) passes marked
  · intro few h waits succeeds
    exact handOffs_reaches waits succeeds (few h waits succeeds)
  intro passes
  have distinct := ((handOffs_perm fn now db passes).map _).nodup_iff.mpr
    (pairwise_map.mpr (db.waiting_sorted.imp ne_of_lt))
  rw [map_append] at distinct
  exact (nodup_append.mp distinct).1

/-- Fifty-one messages wait. -/
def backlog : InboxDB where
  inbox := .empty
  messages := {
    entries := (range' 1 51).map fun id => ⟨id, "", "", "", 0, "hub"⟩
    used := range' 1 51
    nodup := by decide
    recorded := by decide }
  handoffs := {
    entries := (range' 1 51).map fun id => ⟨id, .pending, 0, none⟩
    nodup := by decide }

/-- The hand-offs of the first fifty always fail, and the last is never tried. -/
theorem backlog_stays : ∃ h ∈ backlog.waiting, h.messageID = 51 ∧ ∀ now passes,
    h ∉ (handOffs (fun other => other.messageID = 51) now backlog passes).2 :=
  ⟨⟨51, "", "", ""⟩, by decide +kernel, rfl, fun _ => not_mem_handOffs (by decide +kernel)
    (by decide +kernel)⟩

end InboxDB

end MeshSat.Hub
