import MeshSat.Intents.Recovery

/-!
# Rows that wait

A row waits for a claim only as long as the claim fence would let it through:
its intent is active and in the row's round. Every transaction keeps this but
one. The recovery puts a row that was claimed and never authorized back to
`retry` without asking whether its intent still wants it, where every other
path out of `sending` asks.
-/

namespace MeshSat.Intents

open Library TransitionSystem IntentChange Table

variable {db next : DB} {row other : MessageDelivery} {op : Op}

lemma fenceOpen_iff : db.fenceOpen row = true ↔ ∃ intentID intent, row.intentID = some intentID ∧
    db.intents.get? intentID = some intent ∧ intent.state = .active ∧
    intent.activeRound = row.round := by
  unfold DB.fenceOpen
  cases owner : row.intentID with
  | none => simp
  | some intentID =>
    cases found : db.intents.get? intentID with
    | none => simp [found]
    | some intent => simp [found]

lemma fenceOpen_row (owner : other.intentID = row.intentID) (round : other.round = row.round) :
    db.fenceOpen other = db.fenceOpen row := by
  unfold DB.fenceOpen
  rw [owner, round]

/-- Every row that waits would pass the claim fence. -/
def QueueLive (db : DB) : Prop :=
  ∀ id row, db.deliveries.get? id = some row → row.intentID.isSome = true →
    row.status.unclaimed = true → db.fenceOpen row = true

/-- The recovery releases a row only while its intent is active and in the
row's round. -/
def releasesLive (db : DB) : Op → Bool
  | .release id _ => db.live id
  | _ => true

/-! ## Transactions that leave every fence as it is -/

def DeliveryIntent.fence (intent : DeliveryIntent) : IntentState × Nat :=
  (intent.state, intent.activeRound)

def SameFences (db next : DB) : Prop :=
  ∀ intentID, (next.intents.get? intentID).map DeliveryIntent.fence =
    (db.intents.get? intentID).map DeliveryIntent.fence

lemma SameFences.of_eq (same : next.intents = db.intents) : SameFences db next := by
  intro intentID
  rw [same]

lemma SameFences.fenceOpen (same : SameFences db next) (row : MessageDelivery) :
    next.fenceOpen row = db.fenceOpen row :=
  fenceOpen_congr fun intentID _ => same intentID

lemma SameFences.update (change : DeliveryIntent → DeliveryIntent)
    (keeps : ∀ intent, (change intent).id = intent.id)
    (written : next.intents = db.intents.update intentID change keeps)
    (fences : ∀ intent, (change intent).fence = intent.fence) : SameFences db next := by
  intro other
  rw [written, get?_update]
  split
  · rw [Option.map_map]
    congr 1
    funext intent
    exact fences intent
  · rfl

lemma QueueLive.of_same (same : SameFences db next)
    (rows : ∀ id row, next.deliveries.get? id = some row →
      row.intentID.isSome = true → row.status.unclaimed = true →
      db.fenceOpen row = true) : QueueLive next := by
  intro id row found owned waits
  rw [same.fenceOpen]
  exact rows id row found owned waits

/-- Transactions that change an intent's state or round, or add or remove
intents. -/
def Op.moves : Op → Bool
  | .createSubmission _ _ | .evaluate _ _ _ _ | .cancel _ _ _ _
  | .prune _ => true
  | _ => false

lemma Op.extends_of_moves (stays : op.moves = false) : op.extends = false := by
  cases op <;> first | rfl | cases stays

lemma Reported.sameFences (reported : Reported db next) : SameFences db next := by
  cases reported with
  | nothing => exact .of_eq rfl
  | unmatched _ _ _ => exact .of_eq rfl
  | matched _ _ _ t _ _ _ => exact .update setDirty (fun _ => rfl) rfl fun _ => rfl

lemma Op.sameFences (stays : op.moves = false) (db : DB) : SameFences db (op.run db) := by
  have effect := op.effect db
  generalize op.run db = next at effect ⊢
  cases effect with
  | created _ | evaluated _ | cancelled _ | pruned => cases stays
  | @authorized _ _ _ _ minor _ _ _ granted =>
    rw [granted.written]
    exact .update (reserveMinor minor) (fun _ => rfl) rfl fun _ => rfl
  | finalized finalized => exact .update _ _ finalized.intents fun _ => rfl
  | reviewed reviewed =>
    refine .update _ (reviewedIntent_id _ _ _) (congrArg DB.intents reviewed.written) ?_
    intro intent
    unfold reviewedIntent
    split <;> rfl
  | reported reported => exact reported.sameFences
  | clock =>
    intro other
    simp only [Intents.setElapsed, get?_updateWhere, Option.map_map]
    congr 1
    funext intent
    simp only [Function.comp_apply]
    split <;> rfl
  | nothing | claimed _ _ | handedOff _ _ | ended _ _ _ | proofExpected
  | rows _ => exact .of_eq rfl

/-- A row that waits already waited, or was put back while its fence was
open. -/
lemma RowStep.waits_before (live : QueueLive db) (releases : releasesLive db op = true) {id : Nat}
    (found : db.deliveries.get? id = some row) (step : RowStep db op row other)
    (owned : row.intentID.isSome = true) (waits : other.status.unclaimed = true) :
    db.fenceOpen row = true := by
  obtain ⟨_, _, _, moves⟩ := step.attempt owned
  rcases moves.of_waits waits with waited | opened | released
  · exact live id row found owned waited
  · exact opened
  · cases op with
    | release other now =>
      have named : row.id = id := key_of_get? found
      have same : other = row.id := by simpa [Op.releases] using released
      rw [same, named] at releases
      rw [← live_eq found]
      exact releases
    | _ => cases released

lemma QueueLive.of_stays (live : QueueLive db) (stays : op.moves = false)
    (releases : releasesLive db op = true) : QueueLive (op.run db) := by
  refine .of_same (Op.sameFences stays db) ?_
  intro id other after owned waits
  rcases op.row_before after with ⟨row, found, step⟩ | new
  · have rowOwned : row.intentID.isSome = true := step.intentID ▸ owned
    rw [fenceOpen_row step.intentID (step.attempt rowOwned).1]
    exact step.waits_before live releases found rowOwned waits
  · exact (new (Op.attempt_used (Op.extends_of_moves stays) after owned)).elim

/-! ## Transactions that move an intent -/

section
variable {intentID : String} {change : IntentChange} {transition : Transition}
  {now : Int} {db next : DB} {snap : IntentSnapshot}

section
variable (written : Transitioned intentID change transition now db next)
  (found : db.intents.get? intentID = some snap.intent)

include written found

/-- A row that a transition leaves waiting is one its intent still wants: what
closes retires every row, and what advances retires the round it leaves. -/
lemma Transitioned.kept_live (shape : change.Shape snap) (retires : change.Retires)
    (live : QueueLive db) {id : Nat}
    (rowFound : db.deliveries.get? id = some row) (owned : row.intentID.isSome = true)
    (waits : (change.changedRow intentID row).status.unclaimed = true) :
    next.fenceOpen row = true := by
  rw [changedRow_status] at waits
  split at waits
  · rcases retires with status | status <;> rw [status] at waits <;> cases waits
  next spared =>
  obtain ⟨owner, intent, named, intentFound, active, round⟩ :=
    fenceOpen_iff.mp (live id row rowFound owned waits)
  apply fenceOpen_iff.mpr
  by_cases same : owner = intentID
  · subst same
    rw [found] at intentFound
    cases intentFound
    cases shape with
    | closes _ all _ => exact (spared (by simp [IntentChange.retires, named, waits, all])).elim
    | advances _ _ _ _ left =>
      exact (spared (by simp [IntentChange.retires, named, waits, left, round])).elim
    | stays close none =>
      refine ⟨owner, _, named, written.self found, ?_, ?_⟩
      · simp [applyTo, close, setClean, active]
      · simp [applyTo, none, setClean, round]
  · exact ⟨owner, intent, named, (written.other same).trans intentFound, active, round⟩

lemma Transitioned.queueLive (active : snap.intent.state = .active) (shape : change.Shape snap)
    (retires : change.Retires) (live : QueueLive db) : QueueLive next := by
  intro id row rowFound owned waits
  rcases written.row_before rowFound with
    ⟨old, oldFound, rfl⟩ | ⟨new, added, rfl⟩
  · obtain ⟨owner, round, _⟩ := changedRow_columns change intentID old
    rw [fenceOpen_row owner round]
    exact written.kept_live found shape retires live oldFound (owner ▸ owned) waits
  · cases shape with
    | closes _ _ none | stays _ none =>
      rw [none] at added
      cases added
    | advances route close isNew round _ =>
      rw [isNew] at added
      cases added
      have named : snap.intent.id = intentID := key_of_get? found
      refine fenceOpen_iff.mpr ⟨intentID, _, congrArg some named, written.self found, ?_, ?_⟩
      · simp [applyTo, close, setClean, active]
      · simp [applyTo, isNew, round, storedAttempt, buildRow]

end

lemma Applied.queueLive {decide : IntentSnapshot → Option IntentChange}
    (applied : Applied intentID decide now db next)
    (sound : ∀ snap change, decide snap = some change →
      snap.intent.state = .active ∧ change.Shape snap ∧ change.Retires)
    (live : QueueLive db) : QueueLive next := by
  cases applied with
  | nothing => exact live
  | looked _ _ => exact .of_same (.update setClean (fun _ => rfl) rfl fun _ => rfl) live
  | @noted _ change _ _ _ =>
    refine .of_same (.update (fun intent => change.note (setClean intent))
      (fun _ => rfl) rfl fun _ => rfl) ?_
    intro id row found owned waits
    simp only [stampAcceptedTx, get?_updateWhere] at found
    obtain ⟨old, oldFound, same⟩ := Option.map_eq_some_iff.mp found
    have stamped : row.intentID = old.intentID ∧ row.round = old.round ∧
        row.status = old.status := by
      rw [← same, if_true]
      unfold stampOne
      split <;> exact ⟨rfl, rfl, rfl⟩
    rw [fenceOpen_row stamped.1 stamped.2.1]
    exact live id old oldFound (stamped.1 ▸ owned) (stamped.2.2 ▸ waits)
  | transitioned loaded decided _ written =>
    obtain ⟨active, shape, retires⟩ := sound _ _ decided
    exact written.queueLive (loadSnapshot_eq_some loaded).1 active shape retires live

end

variable {row : MessageDelivery}

lemma NewIntent.Prepared.first_round {new : NewIntent} (prepared : new.Prepared)
    (member : row ∈ new.firstRows) (subID : String) :
    (storedIntent subID new.intent).state = .active ∧
      (storedIntent subID new.intent).activeRound = row.round := by
  obtain ⟨_, _, round⟩ := prepared.first_rows member
  cases prepared with
  | routed prepared =>
    rw [round, (prepareIntent_ok prepared).1]
    exact ⟨rfl, rfl⟩
  | refused req id subID effective plan expiryAllowS now _ => cases member

lemma Created.queueLive {subID : String} {intents : List NewIntent}
    {db next : DB} (created : Created subID intents db next)
    (prepared : ∀ new ∈ intents, new.Prepared) (live : QueueLive db) : QueueLive next := by
  intro id row found owned waits
  rcases created.deliveries.backward id row found with
    ⟨old, oldFound, rfl⟩ | ⟨_, new, member, first, firstMember, stored⟩
  · obtain ⟨owner, intent, named, intentFound, opened⟩ :=
      fenceOpen_iff.mp (live id old oldFound owned waits)
    rcases created.intents.forward owner intent intentFound with
      ⟨same, kept, rfl⟩ | ⟨_, none⟩
    · exact fenceOpen_iff.mpr ⟨owner, intent, named, kept, opened⟩
    · exact none.elim
  obtain ⟨_, owner, _⟩ := (prepared new member).first_rows firstMember
  obtain ⟨active, round⟩ := (prepared new member).first_round firstMember subID
  refine fenceOpen_iff.mpr ⟨new.intent.id, _, ?_, (created.stored new member).1, active, ?_⟩
  · rw [stored]
    exact owner
  rw [stored]
  exact round

variable {db : DB}

lemma QueueLive.prune (live : QueueLive db) (cutoff : Int) :
    QueueLive ((Op.prune cutoff).run db) := by
  intro id row found owned waits
  obtain ⟨owner, intent, named, intentFound, active, round⟩ :=
    fenceOpen_iff.mp (live id row found owned waits)
  apply fenceOpen_iff.mpr
  refine ⟨owner, intent, named, ?_, active, round⟩
  simp only [Op.run, pruneClosedIntents, get?_deleteWhere, intentFound]
  apply Option.filter_some_pos
  by_contra prunable
  rw [prunable_closed (by simpa using prunable)] at active
  cases active

lemma QueueLive.step {op : Op} (live : QueueLive db)
    (enabled : op.Enabled db) (releases : releasesLive db op = true) : QueueLive (op.run db) := by
  cases moves : op.moves with
  | false => exact live.of_stays moves releases
  | true =>
    cases op with
    | createSubmission sub intents =>
      rcases createSubmission_cases sub intents db with same | created
      · change QueueLive (Intents.createSubmission sub intents db).2
        rw [same]
        exact live
      · exact created.queueLive enabled live
    | evaluate intentID elapsed eligible now =>
      refine (evaluate_applied intentID elapsed eligible now db).queueLive ?_ live
      intro snap change decided
      obtain ⟨active, decision⟩ := decideIntent_cases decided
      exact ⟨active, decision.shape, decision.retires⟩
    | cancel intentID elapsed reason now =>
      refine (cancel_applied intentID elapsed reason now db).queueLive ?_ live
      intro snap change decided
      obtain ⟨active, _, _, _, _, status, _⟩ := decideCancel_cases decided
      exact ⟨active, decideCancel_shape decided, .inr (by rw [status]; rfl)⟩
    | prune cutoff => exact live.prune cutoff
    | _ => cases moves

lemma QueueLive.empty : QueueLive .empty := by
  intro id row found
  cases found

/-! ## Results -/

lemma claim_of_pending (live : QueueLive db)
    (fetched : row ∈ getPendingDeliveries channel limit now db)
    (owned : row.intentID.isSome = true) : (claimDeliveryForSending row.id db).1 = true := by
  have ready := List.mem_of_mem_take fetched
  simp only [mem_orderBy, List.mem_filter] at ready
  obtain ⟨member, pending⟩ := ready
  have found : db.deliveries.get? row.id = some row := get?_of_mem member
  simp only [MessageDelivery.pending, Bool.and_eq_true, Bool.or_eq_true,
    decide_eq_true_eq] at pending
  have opened : db.fenceOpen row = true := by
    apply live row.id row found owned
    rcases pending.1.1.2 with status | status <;> rw [status] <;> rfl
  have claimable : db.claimable row = true := by
    simp only [DB.claimable, opened, Bool.or_true, Bool.and_true,
      Bool.or_eq_true, decide_eq_true_eq]
    exact pending.1.1.2
  apply List.any_eq_true.mpr
  exact ⟨row, member, by simp [claimable]⟩

/-- In every run in which the recovery releases only rows of active intents in
their active round, every attempt that waits belongs to an active intent and
is of its active round, and a worker can claim every attempt it fetches. -/
theorem queue_rows_live {s : State} (run : ReachesWith releasesLive system.initial s) :
    (∀ id row, s.db.deliveries.get? id = some row → row.intentID.isSome = true →
      row.status = .queued ∨ row.status = .retry ∨ row.status = .held →
      ∃ intentID intent, row.intentID = some intentID ∧
        s.db.intents.get? intentID = some intent ∧ intent.state = .active ∧
        intent.activeRound = row.round) ∧
    ∀ channel limit now, ∀ row ∈ getPendingDeliveries channel limit now s.db,
      row.intentID.isSome = true → (claimDeliveryForSending row.id s.db).1 = true := by
  have live : QueueLive s.db :=
    (run.refines (.refl _)).preserves QueueLive
      (fun _ _ live enabled releases => live.step enabled releases) .empty
  refine ⟨?_, ?_⟩
  · intro id row found owned waits
    apply fenceOpen_iff.mp
    apply live id row found owned
    rcases waits with status | status | status <;> rw [status] <;> rfl
  intro channel limit now row fetched owned
  exact claim_of_pending live fetched owned

/-- A stop right after a claim, and the recovery of the next start. -/
def restarted : List Action := [.stop, .start, .recoverRow 30, .recovered]

def releasedRun : List Action :=
  submitted (twoRoutes .orderedFallback none) ++ [.claim 1] ++ restarted

theorem queue_rows_live_released :
    let s := (system.guarded (stepMeets releasesLive)).runFrom system.initial releasedRun
    ∃ row ∈ getPendingDeliveries "mesh_0" 0 30 s.db, row.status = .retry ∧
      (claimDeliveryForSending row.id s.db).1 = true := by
  intro s
  have run : ReachesWith releasesLive system.initial s :=
    Reaches.of_guarded (Reaches.of_runFrom (by decide))
  have fetched : (getPendingDeliveries "mesh_0" 0 30 s.db).map (fun row =>
      (row.status, row.intentID.isSome)) = [(.retry, true)] := by
    decide
  obtain ⟨row, none, same, columns, _⟩ := List.map_eq_cons_iff.mp fetched
  simp only [Prod.mk.injEq] at columns
  have member : row ∈ getPendingDeliveries "mesh_0" 0 30 s.db := by
    rw [same]
    exact List.mem_cons_self
  exact ⟨row, member, columns.1, (queue_rows_live run).2 "mesh_0" 0 30 row member columns.2⟩

/-- The sender cancels while the row is claimed, and the process stops before
the worker's call gets any further. -/
def cancelledRun : List Action :=
  submitted (twoRoutes .orderedFallback none) ++
    [.claim 1, .cancel "intent" 10 "", .act 1 20] ++ restarted

/-- The recovery puts a row of a closed intent back to wait: it is fetched as
pending and counted, and no claim of it succeeds. -/
theorem recovery_strands_row :
    let s := system.runFrom system.initial cancelledRun
    system.Reachable s ∧ (s.db.deliveries.get? 1).map (fun row =>
        (row.intentID, row.status)) = some (some "intent", .retry) ∧
      (s.db.intents.get? "intent").map DeliveryIntent.state = some .closed ∧
      (getPendingDeliveries "mesh_0" 0 30 s.db).map MessageDelivery.id = [1] ∧
      queueDepth "mesh_0" s.db = 1 ∧
      (claimDeliveryForSending 1 s.db).1 = false := by
  refine ⟨.of_runFrom (by decide), ?_, ?_, ?_, ?_, ?_⟩ <;> decide

end MeshSat.Intents
