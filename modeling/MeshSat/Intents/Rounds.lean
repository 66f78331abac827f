import MeshSat.Intents.Closed

/-!
# Rounds

A transaction leaves an intent in its round and adds no attempt to it, or it
is the Escalator's advance: the one attempt of the active round is not being
sent, it is retired if it still waits, and one attempt on a later route opens
the next round.
-/

namespace MeshSat.Intents

open Library Table IntentSnapshot Op

/-- The row is stored under `id` as an attempt of the intent. -/
def DB.Attempt (db : DB) (intentID : String) (id : Nat) (row : MessageDelivery) : Prop :=
  db.deliveries.get? id = some row ∧ row.intentID = some intentID

variable {db next : DB} {intentID evaluated : String} {id : Nat}
  {row other : MessageDelivery} {op : Op} {snap s : IntentSnapshot} {now : Int}
  {f : RowFacts} {eligible : Nat → Bool} {change : IntentChange}
  {transition : Transition} {intent later : DeliveryIntent}
  {decide : IntentSnapshot → Option IntentChange}

lemma DB.Attempt.owned (attempt : db.Attempt intentID id row) : row.intentID.isSome = true := by
  rw [attempt.2]
  rfl

lemma DB.Attempt.unique {other : String} {same : MessageDelivery}
    (attempt : db.Attempt intentID id row) (again : db.Attempt other id same) : same = row := by
  have found := again.1
  rw [attempt.1] at found
  exact (Option.some.inj found).symm

/-- What an attempt keeps in every transaction. -/
structure SamePlace (row other : MessageDelivery) : Prop where
  round : other.round = row.round
  attemptNo : other.attemptNo = row.attemptNo
  routeIndex : other.routeIndex = row.routeIndex
  ended : row.status.unfinished = false → other.status = row.status

lemma RowStep.samePlace (step : RowStep db op row other) (owned : row.intentID.isSome = true) :
    SamePlace row other := by
  obtain ⟨round, number, route, moves⟩ := step.attempt owned
  exact ⟨round, number, route, fun ended => (moves.of_ended ended).1⟩

lemma Op.attempt_after (op : Op) (attempt : db.Attempt intentID id row) :
    ∃ other, (op.run db).Attempt intentID id other ∧ SamePlace row other := by
  obtain ⟨other, found, step⟩ := op.row_after attempt.1
  exact ⟨other, ⟨found, step.intentID.trans attempt.2⟩, step.samePlace attempt.owned⟩

lemma Op.attempt_before (op : Op) (attempt : (op.run db).Attempt intentID id other) :
    (∃ row, db.Attempt intentID id row ∧ SamePlace row other) ∨ id ∉ db.deliveries.used := by
  rcases op.row_before attempt.1 with ⟨row, found, step⟩ | new
  · have owner : row.intentID = some intentID := step.intentID ▸ attempt.2
    exact .inl ⟨row, ⟨found, owner⟩, step.samePlace (by rw [owner]; rfl)⟩
  · exact .inr new

/-! ## What a snapshot shows of the active round -/

lemma mem_snapshot_rows (loaded : loadSnapshot db intentID = some snap) :
    row ∈ snap.rows ↔ db.Attempt intentID row.id row := by
  rw [(loadSnapshot_eq_some loaded).2.1, mem_orderBy, DB.rowsOf, List.mem_filter]
  constructor
  · rintro ⟨member, owner⟩
    exact ⟨get?_of_mem member, by simpa using owner⟩
  rintro ⟨found, owner⟩
  exact ⟨mem_of_get? found, by simpa using owner⟩

lemma stampRow_columns : (stampRow now row).id = row.id ∧ (stampRow now row).round = row.round ∧
    (stampRow now row).status = row.status ∧ (stampRow now row).routeIndex = row.routeIndex := by
  unfold stampRow
  split <;> exact ⟨rfl, rfl, rfl, rfl⟩

lemma mem_activeFacts : f ∈ s.activeFacts now ↔ ∃ row ∈ s.rows, row.round = s.intent.activeRound ∧
    rowFacts (s.stamped now) (stampRow now row) = f := by
  simp only [activeFacts, factsOf, stamped, List.mem_filter, List.mem_map, decide_eq_true_eq]
  constructor
  · rintro ⟨⟨_, ⟨row, member, rfl⟩, rfl⟩, round⟩
    exact ⟨row, member, stampRow_columns.2.1 ▸ round, rfl⟩
  rintro ⟨row, member, round, rfl⟩
  exact ⟨⟨_, ⟨row, member, rfl⟩, rfl⟩, (stampRow_columns.2.1).trans round⟩

lemma activeFacts_single (only : s.activeFacts now = [f]) : ∃ row ∈ s.rows,
    row.round = s.intent.activeRound ∧ f = rowFacts (s.stamped now) (stampRow now row) ∧
    ∀ other ∈ s.rows, other.round = s.intent.activeRound → other.id = row.id := by
  have member : f ∈ s.activeFacts now := by simp [only]
  obtain ⟨row, rowMember, round, same⟩ := mem_activeFacts.mp member
  refine ⟨row, rowMember, round, same.symm, ?_⟩
  intro other otherMember otherRound
  have alsoActive : rowFacts (s.stamped now) (stampRow now other) ∈ s.activeFacts now :=
    mem_activeFacts.mpr ⟨other, otherMember, otherRound, rfl⟩
  rw [only, List.mem_singleton, ← same] at alsoActive
  have ids : (stampRow now other).id = (stampRow now row).id :=
    congrArg (fun f => f.row.id) alsoActive
  rw [stampRow_columns.1, stampRow_columns.1] at ids
  exact ids

lemma planEntry_routeIndex (plan : List RoutePlanEntry) (index : Nat) :
    (planEntry plan index).routeIndex = index := by
  unfold planEntry
  cases found : plan.find? fun p => p.routeIndex = index with
  | none => rfl
  | some p => simpa using List.find?_some found

lemma nextRoute_some (found : nextRoute plan index eligible = some p) :
    p ∈ plan ∧ index < p.routeIndex ∧ p.admitted = true := by
  have meets := List.find?_some found
  simp only [Bool.and_eq_true, decide_eq_true_eq] at meets
  exact ⟨List.mem_of_find?_eq_some found, meets.1.1, meets.1.2⟩

lemma le_maxAttemptNo (member : row ∈ s.rows) : row.attemptNo ≤ maxAttemptNo s := by
  unfold maxAttemptNo
  generalize s.rows = rows at member
  induction rows with
  | nil => cases member
  | cons head tail induction =>
    rw [List.foldr_cons]
    rcases List.mem_cons.mp member with rfl | later
    · exact Nat.le_max_left _ _
    · exact le_trans (induction later) (Nat.le_max_right _ _)

/-! ## The advance -/

/-- The Escalator put `new` on a later route after `last`, the one attempt of
the active round. -/
structure Advanced (db next : DB) (intentID : String) (intent : DeliveryIntent)
    (last new : MessageDelivery) : Prop where
  strategy : intent.effectiveStrategy = .orderedFallback
  attempt : db.Attempt intentID last.id last
  round : last.round = intent.activeRound
  only : ∀ id row, db.Attempt intentID id row → row.round = intent.activeRound → id = last.id
  unpaid : last.status = .unknown → (planEntry intent.routePlan last.routeIndex).paid = false
  retired : ∀ other, next.deliveries.get? last.id = some other → other.status.unfinished = false ∧
      (other.status = .unknown → last.status = .unknown)
  added : next.Attempt intentID new.id new
  unused : new.id ∉ db.deliveries.used
  alone : ∀ id row, next.Attempt intentID id row → id ∉ db.deliveries.used → row = new
  newRound : new.round = intent.activeRound + 1
  later : last.routeIndex < new.routeIndex
  admitted : ∃ p ∈ intent.routePlan, p.admitted = true ∧ p.routeIndex = new.routeIndex
  number : ∀ id row, db.Attempt intentID id row → row.attemptNo < new.attemptNo

lemma changedRow_retired (retires : change.Retires) (owner : row.intentID = some intentID)
    (idle : row.status ≠ .sending) (left : row.round ∈ change.retire) :
    (change.changedRow intentID row).status.unfinished = false ∧
    ((change.changedRow intentID row).status = .unknown → row.status = .unknown) := by
  rw [changedRow_status]
  split
  · rcases retires with status | status <;> rw [status] <;> simp <;> rfl
  rename_i spared
  refine ⟨?_, fun same => same⟩
  have waits : row.status.unclaimed = false := by
    by_contra unclaimed
    exact spared (by simp [IntentChange.retires, owner, unclaimed, left])
  simp [Status.unfinished, waits, idle]

lemma Transitioned.advanced (loaded : loadSnapshot db intentID = some snap)
    (strategy : snap.intent.effectiveStrategy = .orderedFallback)
    (only : snap.activeFacts elapsed = [f])
    (following : nextRoute snap.intent.routePlan f.entry.routeIndex eligible =
      some route) (idle : f.row.status ≠ .sending)
    (unpaid : f.row.status = .unknown → f.entry.paid = false) (written : Transitioned intentID
      (advance snap elapsed chosen route reason) transition now db next) :
    ∃ last new, Advanced db next intentID snap.intent last new := by
  obtain ⟨last, lastMember, round, rfl, alone⟩ := activeFacts_single only
  have attempt := (mem_snapshot_rows loaded).mp lastMember
  obtain ⟨_, _, status, routeIndex⟩ := stampRow_columns
  obtain ⟨inPlan, further, admitted⟩ := nextRoute_some following
  have isNew : (advance snap elapsed chosen route reason).newRow =
      some (buildRow snap.intent route (snap.intent.activeRound + 1) (maxAttemptNo snap + 1)) := by
    simp [advance]
  have rows := written.get?_extended isNew
  have unused := db.deliveries.nextKey_unused
  have named : snap.intent.id = intentID := key_of_get? (loadSnapshot_eq_some loaded).1
  refine ⟨last, storedAttempt (buildRow snap.intent route
    (snap.intent.activeRound + 1) (maxAttemptNo snap + 1)) db.deliveries.nextKey, ?_⟩
  refine
    { strategy, attempt, round, unused, newRound := rfl
      admitted := ⟨route, inPlan, admitted, rfl⟩
      only := ?_, unpaid := ?_, retired := ?_, added := ?_
      alone := ?_, later := ?_, number := ?_ }
  · intro id row rowAttempt rowRound
    have rowNamed : row.id = id := key_of_get? rowAttempt.1
    rw [← rowNamed] at rowAttempt ⊢
    exact alone row ((mem_snapshot_rows loaded).mpr rowAttempt) rowRound
  · intro unknown
    have entry := unpaid (status.trans unknown)
    simp only [rowFacts, stamped, routeIndex] at entry
    exact entry
  · intro other otherFound
    have old : last.id ≠ db.deliveries.nextKey := fun same =>
      unused (same ▸ used_of_get? attempt.1)
    rw [rows, if_neg old, attempt.1] at otherFound
    cases otherFound
    refine changedRow_retired (.inl (by simp [advance])) attempt.2 ?_ (by simp [advance, round])
    exact status ▸ idle
  · refine ⟨?_, congrArg some named⟩
    rw [rows]
    exact if_pos rfl
  · intro id row rowAttempt new
    have found := rowAttempt.1
    rw [rows] at found
    split at found
    · exact (Option.some.inj found).symm
    obtain ⟨old, oldFound, _⟩ := Option.map_eq_some_iff.mp found
    exact (new (used_of_get? oldFound)).elim
  · simp only [rowFacts, planEntry_routeIndex, routeIndex] at further
    exact further
  intro id row rowAttempt
  have rowNamed : row.id = id := key_of_get? rowAttempt.1
  rw [← rowNamed] at rowAttempt
  exact Nat.lt_succ_of_le (le_maxAttemptNo ((mem_snapshot_rows loaded).mpr rowAttempt))

/-! ## Any transaction -/

inductive Rounds (db next : DB) (intentID : String) (intent later : DeliveryIntent) : Prop where
  | still : later.activeRound = intent.activeRound →
      (∀ id row, next.Attempt intentID id row → id ∈ db.deliveries.used) →
      Rounds db next intentID intent later
  | advanced (last new : MessageDelivery) : Advanced db next intentID intent last new →
      later.activeRound = intent.activeRound + 1 → Rounds db next intentID intent later

lemma SameFences.activeRound (same : SameFences db next)
    (found : db.intents.get? intentID = some intent)
    (after : next.intents.get? intentID = some later) : later.activeRound = intent.activeRound := by
  have fences := same intentID
  rw [found, after] at fences
  exact congrArg Prod.snd (Option.some.inj fences)

lemma still_of_used (same : next.deliveries.used = db.deliveries.used) :
    ∀ id row, next.Attempt intentID id row → id ∈ db.deliveries.used :=
  fun _ _ attempt => same ▸ used_of_get? attempt.1

lemma Transitioned.still (written : Transitioned intentID change transition now db next)
    (none : change.newRow = none) {other : String} (found : db.intents.get? other = some intent)
    (after : next.intents.get? other = some later) : Rounds db next other intent later := by
  refine .still ?_ (still_of_used ?_)
  · by_cases same : other = intentID
    · subst same
      rw [written.self found] at after
      cases after
      simp [IntentChange.applyTo, none, setClean]
    rw [written.other same, found] at after
    cases after
    rfl
  rw [written.unchanged none]
  rfl

lemma Applied.rounds (applied : Applied evaluated decide now db next)
    (found : db.intents.get? intentID = some intent)
    (after : next.intents.get? intentID = some later) (moved : ∀ snap change transition,
      loadSnapshot db evaluated = some snap → decide snap = some change →
      Transitioned evaluated change transition now db next → Rounds db next intentID intent later) :
    Rounds db next intentID intent later := by
  cases applied with
  | nothing =>
    rw [found] at after
    cases after
    exact .still rfl (still_of_used rfl)
  | looked _ _ =>
    have same : SameFences db (db.clearDirty evaluated) :=
      .update setClean (fun _ => rfl) rfl fun _ => rfl
    exact .still (same.activeRound found after) (still_of_used rfl)
  | @noted _ change _ _ _ =>
    have same : SameFences db
        { stampAcceptedTx evaluated change.stampAccepted db with
          intents := db.intents.update evaluated fun intent => change.note (setClean intent) } :=
      .update (fun intent => change.note (setClean intent)) (fun _ => rfl) rfl fun _ => rfl
    exact .still (same.activeRound found after) (still_of_used rfl)
  | transitioned loaded decided _ written => exact moved _ _ _ loaded decided written

lemma evaluate_rounds
    (applied : Applied evaluated (fun s => decideIntent s elapsed eligible) now db next)
    (found : db.intents.get? intentID = some intent)
    (after : next.intents.get? intentID = some later) : Rounds db next intentID intent later := by
  apply applied.rounds found after
  intro snap change transition loaded decided written
  obtain ⟨_, decision⟩ := decideIntent_cases decided
  cases decision with
  | close _ _ _ _ => exact written.still (by simp [closeWith, lookedAt]) found after
  | improve _ _ | bookkeeping => exact written.still (by simp [lookedAt]) found after
  | advance f route chosen reason strategy only following idle unpaid _ =>
    have snapFound := (loadSnapshot_eq_some loaded).1
    by_cases same : intentID = evaluated
    · subst same
      rw [found] at snapFound
      cases snapFound
      obtain ⟨last, new, advanced⟩ := written.advanced loaded strategy only following idle unpaid
      refine .advanced last new advanced ?_
      rw [written.self found] at after
      cases after
      simp [IntentChange.applyTo, advance]
    refine .still ?_ ?_
    · rw [written.other same, found] at after
      cases after
      rfl
    intro id row attempt
    rcases written.row_before attempt.1 with
      ⟨old, oldFound, _⟩ | ⟨new, isNew, stored⟩
    · exact used_of_get? oldFound
    have owner := attempt.2
    simp only [advance, noteDuplicate_eq, Option.some.injEq] at isNew
    rw [stored, ← isNew] at owner
    have named : snap.intent.id = evaluated := key_of_get? snapFound
    exact (same ((Option.some.inj owner).symm.trans named)).elim

lemma Created.rounds {subID : String} {intents : List NewIntent}
    (created : Created subID intents db next) (prepared : ∀ new ∈ intents, new.Prepared)
    (found : db.intents.get? intentID = some intent)
    (after : next.intents.get? intentID = some later) : Rounds db next intentID intent later := by
  refine .still ?_ ?_
  · rcases created.intents.forward intentID intent found with
      ⟨same, kept, rfl⟩ | ⟨_, none⟩
    · rw [kept] at after
      cases after
      rfl
    · exact none.elim
  intro id row attempt
  rcases created.deliveries.backward id row attempt.1 with
    ⟨old, oldFound, _⟩ | ⟨_, new, member, first, firstMember, stored⟩
  · exact used_of_get? oldFound
  obtain ⟨_, owner, _⟩ := (prepared new member).first_rows firstMember
  have named := attempt.2
  rw [stored] at named
  have same : new.intent.id = intentID := Option.some.inj (owner.symm.trans named)
  have known := used_of_get? found
  exact (created.fresh new member (same ▸ known)).elim

lemma Op.rounds (enabled : op.Enabled db) (found : db.intents.get? intentID = some intent)
    (after : (op.run db).intents.get? intentID = some later) :
    Rounds db (op.run db) intentID intent later := by
  cases moves : op.moves with
  | false =>
    refine .still ((sameFences moves db).activeRound found after) ?_
    intro id row attempt
    exact attempt_used (extends_of_moves moves) attempt.1 attempt.owned
  | true =>
    cases op with
    | createSubmission sub intents =>
      rcases createSubmission_cases sub intents db with same | created
      · change Rounds db (Intents.createSubmission sub intents db).2 _ _ _
        change (Intents.createSubmission sub intents db).2.intents.get?
          intentID = some later at after
        rw [same] at after ⊢
        rw [found] at after
        cases after
        exact .still rfl (still_of_used rfl)
      · exact created.rounds enabled found after
    | evaluate evaluated elapsed eligible now =>
      exact evaluate_rounds (evaluate_applied evaluated elapsed eligible now db) found after
    | cancel cancelled elapsed reason now =>
      apply (cancel_applied cancelled elapsed reason now db).rounds found after
      intro snap change transition _ decided written
      exact written.still (decideCancel_cases decided).2.2.2.2.2.2.1 found after
    | prune cutoff =>
      simp only [run, pruneClosedIntents, get?_deleteWhere, found] at after
      have same := (Option.filter_eq_some_iff.mp after).1
      cases same
      exact .still rfl (still_of_used rfl)
    | _ => cases moves

lemma Op.new_advanced (enabled : op.Enabled db)
    (attempt : (op.run db).Attempt intentID id row) (new : id ∉ db.deliveries.used)
    (known : intentID ∈ db.intents.used) :
    ∃ intent later last, db.intents.get? intentID = some intent ∧
      (op.run db).intents.get? intentID = some later ∧ later.activeRound = intent.activeRound + 1 ∧
      Advanced db (op.run db) intentID intent last row := by
  rcases (newRow enabled attempt.1 new attempt.2).round with
    ⟨unused, _⟩ | ⟨intent, found, active, _⟩
  · exact (unused known).elim
  rcases (op.intentsStep _).forward intentID intent found with
    ⟨later, after, _⟩ | ⟨_, closed⟩
  · cases rounds enabled found after with
    | still _ old => exact (new (old id row attempt)).elim
    | advanced last added advanced round =>
      rw [advanced.alone id row attempt new]
      exact ⟨intent, later, last, found, after, round, advanced⟩
  rw [active] at closed
  cases closed

/-! ## Attempt numbers -/

lemma AttemptsNumbered.of_old (numbered : db.AttemptsNumbered)
    (old : ∀ intentID id other, next.Attempt intentID id other →
      ∃ row, db.Attempt intentID id row ∧ SamePlace row other) :
    next.AttemptsNumbered := by
  intro left right row other leftFound rightFound owned owner number
  obtain ⟨intentID, named⟩ := Option.isSome_iff_exists.mp owned
  obtain ⟨first, firstAttempt, firstPlace⟩ := old intentID left row ⟨leftFound, named⟩
  obtain ⟨second, secondAttempt, secondPlace⟩ :=
    old intentID right other ⟨rightFound, owner.trans named⟩
  exact numbered left right first second firstAttempt.1 secondAttempt.1
    firstAttempt.owned (secondAttempt.2.trans firstAttempt.2.symm)
    (secondPlace.attemptNo.symm.trans (number.trans firstPlace.attemptNo))

lemma Applied.used_intents (applied : Applied intentID decide now db next) :
    next.intents.used = db.intents.used := by
  cases applied with
  | nothing => rfl
  | looked _ _ => rfl
  | noted _ _ _ => rfl
  | transitioned _ _ _ written =>
    rw [written.intents]
    rfl

lemma AttemptsNumbered.evaluate (numbered : db.AttemptsNumbered) (evaluated : String)
    (elapsed : Int) (eligible : Nat → Bool) (now : Int) :
    DB.AttemptsNumbered ((evaluate evaluated elapsed eligible now).run db) := by
  intro left right row other leftFound rightFound owned owner number
  have enabled : (Op.evaluate evaluated elapsed eligible now).Enabled db :=
    trivial
  have used := (evaluate_applied evaluated elapsed eligible now db).used_intents
  obtain ⟨intentID, named⟩ := Option.isSome_iff_exists.mp owned
  have leftAttempt : DB.Attempt _ intentID left row := ⟨leftFound, named⟩
  have rightAttempt : DB.Attempt _ intentID right other := ⟨rightFound, owner.trans named⟩
  rcases attempt_before _ leftAttempt with
    ⟨first, firstAttempt, firstPlace⟩ | leftNew
  · rcases attempt_before _ rightAttempt with
      ⟨second, secondAttempt, secondPlace⟩ | rightNew
    · exact numbered left right first second firstAttempt.1 secondAttempt.1
        firstAttempt.owned (secondAttempt.2.trans firstAttempt.2.symm)
        (secondPlace.attemptNo.symm.trans (number.trans firstPlace.attemptNo))
    have known := (newRow enabled rightFound rightNew rightAttempt.2).known
    obtain ⟨_, _, _, _, _, _, advanced⟩ := new_advanced enabled rightAttempt rightNew (used ▸ known)
    have below := advanced.number left first firstAttempt
    rw [number, firstPlace.attemptNo] at below
    exact (lt_irrefl _ below).elim
  have known := (newRow enabled leftFound leftNew named).known
  obtain ⟨_, _, _, _, _, _, advanced⟩ := new_advanced enabled leftAttempt leftNew (used ▸ known)
  rcases attempt_before _ rightAttempt with
    ⟨second, secondAttempt, secondPlace⟩ | rightNew
  · have below := advanced.number right second secondAttempt
    rw [← number, secondPlace.attemptNo] at below
    exact (lt_irrefl _ below).elim
  have same := advanced.alone right other rightAttempt rightNew
  have leftNamed : row.id = left := key_of_get? leftFound
  have rightNamed : other.id = right := key_of_get? rightFound
  rw [← leftNamed, ← rightNamed, same]

lemma AttemptsNumbered.step (numbered : db.AttemptsNumbered) : (op.run db).AttemptsNumbered := by
  cases more : op.extends with
  | false =>
    apply AttemptsNumbered.of_old numbered
    intro intentID id other attempt
    rcases op.attempt_before attempt with old | new
    · exact old
    · exact (new (attempt_used more attempt.1 attempt.owned)).elim
  | true =>
    cases op with
    | createSubmission sub intents =>
      rcases createSubmission_cases sub intents db with same | created
      · change DB.AttemptsNumbered (Intents.createSubmission sub intents db).2
        rw [same]
        exact numbered
      · exact created.numbered numbered
    | evaluate evaluated elapsed eligible now =>
      exact AttemptsNumbered.evaluate numbered evaluated elapsed eligible now
    | _ => cases more

end MeshSat.Intents
