import MeshSat.Intents.Rounds

/-!
# One route at a time

A message to a contact's primary route, or to its routes in order, is on one
route at a time. Each round has one attempt; the attempts of the rounds
before have ended, and none of them is a paid send whose outcome is unknown:
after such a send no other route is ever tried.
-/

namespace MeshSat.Intents

open Library TransitionSystem List Table RoutePlanEntry

/-- Strategies that try one route at a time. -/
def Strategy.sequential : Strategy → Bool
  | .primaryOnly | .orderedFallback => true
  | _ => false

/-- The attempts of an intent that tries one route at a time. -/
structure Sequential (db : DB) (intentID : String) (intent : DeliveryIntent) : Prop where
  within : ∀ id row, db.Attempt intentID id row → 1 ≤ row.round ∧ row.round ≤ intent.activeRound
  admitted : ∀ id row, db.Attempt intentID id row →
    ∃ p ∈ intent.routePlan, p.admitted = true ∧ p.routeIndex = row.routeIndex
  earlier : ∀ id row, db.Attempt intentID id row → row.round < intent.activeRound →
    row.status.unfinished = false ∧ (row.status = .unknown →
      (planEntry intent.routePlan row.routeIndex).paid = false)
  increasing : ∀ left right row other, db.Attempt intentID left row →
    db.Attempt intentID right other → row.round < other.round →
    row.attemptNo < other.attemptNo ∧ row.routeIndex < other.routeIndex
  single : ∀ left right row other, db.Attempt intentID left row →
    db.Attempt intentID right other → row.round = other.round → left = right

section
variable {db next : DB} {intentID : String} {intent later : DeliveryIntent}

section
variable (sequential : Sequential db intentID intent)

include sequential

lemma Sequential.still
    (plan : later.routePlan = intent.routePlan) (round : later.activeRound = intent.activeRound)
    (old : ∀ id other, next.Attempt intentID id other →
      ∃ row, db.Attempt intentID id row ∧ SamePlace row other) :
    Sequential next intentID later where
  within id other attempt := by
    obtain ⟨row, before, place⟩ := old id other attempt
    rw [place.round, round]
    exact sequential.within id row before
  admitted id other attempt := by
    obtain ⟨row, before, place⟩ := old id other attempt
    rw [place.routeIndex, plan]
    exact sequential.admitted id row before
  earlier id other attempt := by
    obtain ⟨row, before, place⟩ := old id other attempt
    rw [place.round, round, place.routeIndex, plan]
    intro isEarlier
    obtain ⟨ended, unpaid⟩ := sequential.earlier id row before isEarlier
    rw [place.ended ended]
    exact ⟨ended, unpaid⟩
  increasing left right first second leftAttempt rightAttempt := by
    obtain ⟨row, before, place⟩ := old left first leftAttempt
    obtain ⟨other, otherBefore, otherPlace⟩ := old right second rightAttempt
    rw [place.round, otherPlace.round, place.attemptNo, otherPlace.attemptNo,
      place.routeIndex, otherPlace.routeIndex]
    exact sequential.increasing left right row other before otherBefore
  single left right first second leftAttempt rightAttempt := by
    obtain ⟨row, before, place⟩ := old left first leftAttempt
    obtain ⟨other, otherBefore, otherPlace⟩ := old right second rightAttempt
    rw [place.round, otherPlace.round]
    exact sequential.single left right row other before otherBefore

variable {last new : MessageDelivery}

lemma Sequential.after_all (advanced : Advanced db next intentID intent last new) {id : Nat}
    (attempt : db.Attempt intentID id row) :
    row.attemptNo < new.attemptNo ∧ row.routeIndex < new.routeIndex := by
  refine ⟨advanced.number id row attempt, ?_⟩
  rcases Nat.lt_or_eq_of_le (sequential.within id row attempt).2 with
    before | current
  · have below := sequential.increasing id last.id row last attempt
      advanced.attempt (advanced.round ▸ before)
    exact Nat.lt_trans below.2 advanced.later
  have same := advanced.only id row attempt current
  subst same
  rw [advanced.attempt.unique attempt]
  exact advanced.later

lemma Sequential.advanced (advanced : Advanced db next intentID intent last new)
    (plan : later.routePlan = intent.routePlan) (round : later.activeRound = intent.activeRound + 1)
    (rows : ∀ id other, next.Attempt intentID id other →
      (∃ row, db.Attempt intentID id row ∧ SamePlace row other) ∨ id ∉ db.deliveries.used) :
    Sequential next intentID later := by
  -- Every attempt is an old one, of an earlier round, or the new one.
  have attempts (id : Nat) (other : MessageDelivery) (attempt : next.Attempt intentID id other) :
      (∃ row, db.Attempt intentID id row ∧ SamePlace row other ∧
        1 ≤ row.round ∧ row.round ≤ intent.activeRound) ∨ other = new := by
    rcases rows id other attempt with ⟨row, before, place⟩ | isNew
    · exact .inl ⟨row, before, place, sequential.within id row before⟩
    · exact .inr (advanced.alone id other attempt isNew)
  have newRound := advanced.newRound
  refine ⟨?_, ?_, ?_, ?_, ?_⟩
  · intro id other attempt
    rw [round]
    rcases attempts id other attempt with ⟨row, _, place, low, high⟩ | rfl
    · rw [place.round]
      omega
    · omega
  · intro id other attempt
    rw [plan]
    rcases attempts id other attempt with ⟨row, before, place, _⟩ | rfl
    · rw [place.routeIndex]
      exact sequential.admitted id row before
    · exact advanced.admitted
  · intro id other attempt isEarlier
    rw [plan]
    rcases attempts id other attempt with ⟨row, before, place, _, high⟩ | rfl
    · rcases Nat.lt_or_eq_of_le high with below | current
      · obtain ⟨ended, unpaid⟩ := sequential.earlier id row before below
        rw [place.ended ended, place.routeIndex]
        exact ⟨ended, unpaid⟩
      have same := advanced.only id row before current
      subst same
      have isLast := advanced.attempt.unique before
      obtain ⟨ended, unknown⟩ := advanced.retired other attempt.1
      rw [place.routeIndex, isLast]
      exact ⟨ended, fun status => advanced.unpaid (unknown status)⟩
    · omega
  · intro left right first second leftAttempt rightAttempt less
    rcases attempts left first leftAttempt with
      ⟨row, before, place, low, high⟩ | rfl
    · rcases attempts right second rightAttempt with
        ⟨other, otherBefore, otherPlace, _, _⟩ | rfl
      · rw [place.round, otherPlace.round] at less
        rw [place.attemptNo, otherPlace.attemptNo, place.routeIndex, otherPlace.routeIndex]
        exact sequential.increasing left right row other before otherBefore less
      rw [place.attemptNo, place.routeIndex]
      exact sequential.after_all advanced before
    rcases attempts right second rightAttempt with
      ⟨other, _, otherPlace, _, high⟩ | rfl
    · have := otherPlace.round
      omega
    · omega
  intro left right first second leftAttempt rightAttempt same
  have leftNamed : first.id = left := key_of_get? leftAttempt.1
  have rightNamed : second.id = right := key_of_get? rightAttempt.1
  rcases attempts left first leftAttempt with
    ⟨row, before, place, _, high⟩ | rfl
  · rcases attempts right second rightAttempt with
      ⟨other, otherBefore, otherPlace, _, _⟩ | rfl
    · rw [place.round, otherPlace.round] at same
      exact sequential.single left right row other before otherBefore same
    have := place.round
    omega
  rcases attempts right second rightAttempt with
    ⟨other, _, otherPlace, _, high⟩ | rfl
  · have := otherPlace.round
    omega
  · exact leftNamed.symm.trans rightNamed

end

end

/-! ## New intents -/

variable {plan : List RoutePlanEntry}

lemma firstRound_sequential (sequential : effective.sequential = true) :
    firstRound plan effective excluded = [] ∨
    ∃ p ∈ plan, p.admitted = true ∧ firstRound plan effective excluded = [p] := by
  cases effective with
  | primaryOnly =>
    cases plan with
    | nil => exact .inl rfl
    | cons p rest =>
      cases admitted : p.admitted with
      | false => exact .inl (by simp [firstRound, admitted])
      | true => exact .inr ⟨p, mem_cons_self, admitted, by simp [firstRound, admitted]⟩
  | orderedFallback =>
    have one (entries : List RoutePlanEntry) (kept : ∀ p ∈ entries, p ∈ plan ∧ p.admitted = true) :
        entries.take 1 = [] ∨ ∃ p ∈ plan, p.admitted = true ∧ entries.take 1 = [p] := by
      cases entries with
      | nil => exact .inl rfl
      | cons p rest =>
        obtain ⟨member, admitted⟩ := kept p mem_cons_self
        exact .inr ⟨p, member, admitted, rfl⟩
    unfold firstRound
    dsimp only
    split
    · exact one _ fun p member => mem_filter.mp member
    rename_i p rest preferred
    have member : p ∈ (plan.filter admitted).filter fun p => !excluded p.routeIndex := by
      rw [preferred]
      exact mem_cons_self
    obtain ⟨inPlan, admitted⟩ := mem_filter.mp (mem_filter.mp member).1
    exact .inr ⟨p, inPlan, admitted, rfl⟩
  | _ => cases sequential

variable {new : NewIntent}

/-- The first round of one route at a time is one attempt on an admitted
route. -/
lemma NewIntent.Prepared.sequential_row (prepared : new.Prepared)
    (sequential : new.intent.effectiveStrategy.sequential = true) (member : first ∈ new.firstRows) :
    first.attemptNo = 1 ∧ ∃ p ∈ new.intent.routePlan, p.admitted = true ∧
      p.routeIndex = first.routeIndex := by
  cases prepared with
  | @routed req contact id subID new prepared =>
    obtain ⟨intent, rows⟩ := prepareIntent_ok prepared
    have strategy : new.intent.effectiveStrategy = contact.effective := by
      rw [intent]
      rfl
    rw [strategy] at sequential
    rw [rows] at member
    rcases firstRound_sequential sequential with
      none | ⟨p, inPlan, admitted, only⟩
    · rw [none] at member
      cases member
    rw [only] at member
    rcases mem_cons.mp member with rfl | impossible
    · exact ⟨rfl, p, inPlan, admitted, rfl⟩
    · cases impossible
  | refused req id subID effective plan expiryAllowS now _ => cases member

lemma NewIntent.Prepared.first_row (prepared : new.Prepared)
    (strategy : new.intent.effectiveStrategy = .orderedFallback)
    (routed : ∃ p ∈ new.intent.routePlan, p.admitted = true) : ∃ first, first ∈ new.firstRows := by
  obtain ⟨p, inPlan, admitted⟩ := routed
  cases prepared with
  | @routed req contact id subID new prepared =>
    obtain ⟨intent, rows⟩ := prepareIntent_ok prepared
    have effective : contact.effective = .orderedFallback := by
      rw [← strategy, intent]
      rfl
    rw [rows, effective]
    cases round : firstRound new.intent.routePlan .orderedFallback
        (excludedRoutes contact.routeExcluded (contact.plan req)) with
    | nil =>
      have refused := firstRound_isEmpty (isEmpty_iff.mpr round) p inPlan
      rw [admitted] at refused
      cases refused
    | cons route rest => exact ⟨_, mem_cons_self⟩
  | refused req id subID effective plan expiryAllowS now unrouted =>
    rw [unrouted strategy p inPlan] at admitted
    cases admitted

section
variable {subID : String} {intents : List NewIntent} {db next : DB}
  {intentID : String} {later : DeliveryIntent}

section
variable (created : Created subID intents db next) (prepared : ∀ new ∈ intents, new.Prepared)
  (known : db.Known)

include created prepared known

lemma Created.attempt_new (fresh : intentID ∉ db.intents.used)
    (found : next.intents.get? intentID = some later) {id : Nat}
    (attempt : next.Attempt intentID id row) :
    ∃ new ∈ intents, later = storedIntent subID new.intent ∧
      ∃ first ∈ new.firstRows, row = storedAttempt first id := by
  have named : row.id = id := key_of_get? attempt.1
  rcases created.deliveries.backward id row attempt.1 with
    ⟨old, oldFound, rfl⟩ | ⟨_, new, member, first, firstMember, stored⟩
  · exact (fresh (known id old intentID oldFound attempt.2)).elim
  obtain ⟨_, owner, _⟩ := (prepared new member).first_rows firstMember
  have isOwner := attempt.2
  rw [stored] at isOwner
  have same : new.intent.id = intentID := Option.some.inj (owner.symm.trans isOwner)
  have storedFound := (created.stored new member).1
  rw [same, found] at storedFound
  rw [named] at stored
  exact ⟨new, member, Option.some.inj storedFound, first, firstMember, stored⟩

lemma Created.sequential (numbered : next.AttemptsNumbered) (fresh : intentID ∉ db.intents.used)
    (found : next.intents.get? intentID = some later)
    (sequential : later.effectiveStrategy.sequential = true) : Sequential next intentID later := by
  have attempts (id : Nat) (row : MessageDelivery) (attempt : next.Attempt intentID id row) :
      later.activeRound = 1 ∧ row.round = 1 ∧ row.attemptNo = 1 ∧
        ∃ p ∈ later.routePlan, p.admitted = true ∧ p.routeIndex = row.routeIndex := by
    obtain ⟨new, member, rfl, first, firstMember, stored⟩ :=
      created.attempt_new prepared known fresh found attempt
    obtain ⟨_, _, round⟩ := (prepared new member).first_rows firstMember
    obtain ⟨number, route⟩ := (prepared new member).sequential_row sequential firstMember
    rw [stored]
    exact ⟨rfl, round, number, route⟩
  refine ⟨?_, ?_, ?_, ?_, ?_⟩
  · intro id row attempt
    obtain ⟨active, round, _⟩ := attempts id row attempt
    omega
  · intro id row attempt
    exact (attempts id row attempt).2.2.2
  · intro id row attempt isEarlier
    obtain ⟨active, round, _⟩ := attempts id row attempt
    omega
  · intro left right row other leftAttempt rightAttempt less
    have := (attempts left row leftAttempt).2.1
    have := (attempts right other rightAttempt).2.1
    omega
  intro left right row other leftAttempt rightAttempt _
  refine numbered left right row other leftAttempt.1 rightAttempt.1
    leftAttempt.owned (rightAttempt.2.trans leftAttempt.2.symm) ?_
  rw [(attempts left row leftAttempt).2.2.1, (attempts right other rightAttempt).2.2.1]

end

end

/-! ## Every run -/

/-- An ordered fallback that was given a route has tried one in each round so
far. -/
def Tried (db : DB) (intentID : String) (intent : DeliveryIntent) : Prop :=
  ∀ round, 1 ≤ round → round ≤ intent.activeRound →
    ∃ id row, db.Attempt intentID id row ∧ row.round = round

structure Orderly (db : DB) : Prop where
  known : db.Known
  numbered : db.AttemptsNumbered
  sequential : ∀ intentID intent, db.intents.get? intentID = some intent →
    intent.effectiveStrategy.sequential = true → Sequential db intentID intent
  tried : ∀ intentID intent, db.intents.get? intentID = some intent →
    intent.effectiveStrategy = .orderedFallback →
    (∃ p ∈ intent.routePlan, p.admitted = true) → Tried db intentID intent

lemma Orderly.empty : Orderly .empty where
  known := .empty
  numbered left right row other found := by cases found
  sequential intentID intent found := by cases found
  tried intentID intent found := by cases found

variable {intentID : String}

lemma NewIntentRow.created (enabled : op.Enabled db)
    (found : (op.run db).intents.get? intentID = some later)
    (fresh : intentID ∉ db.intents.used) (new : NewIntentRow op later) :
    ∃ subID intents, Created subID intents db (op.run db) ∧ (∀ new ∈ intents, new.Prepared) ∧
      ∃ new ∈ intents, later = storedIntent subID new.intent := by
  obtain ⟨sub, intents, rfl, stored⟩ := new
  rcases createSubmission_cases sub intents db with same | created
  · change (Intents.createSubmission sub intents db).2.intents.get? intentID = some later at found
    rw [same] at found
    exact (fresh (used_of_get? found)).elim
  · exact ⟨sub.id, intents, created, enabled, stored⟩

variable {db : DB} {op : Op} {intentID : String} {later intent : DeliveryIntent}
  {row : MessageDelivery}

section
variable (orderly : Orderly db) (enabled : op.Enabled db)
  (found : (op.run db).intents.get? intentID = some later)

include orderly enabled found

lemma Orderly.sequential_step (strategy : later.effectiveStrategy.sequential = true) :
    Sequential (op.run db) intentID later := by
  rcases (op.intentsStep _).backward intentID later found with
    ⟨intent, before, step⟩ | ⟨fresh, new⟩
  · have sequential := orderly.sequential intentID intent before (step.strategy ▸ strategy)
    cases Op.rounds enabled before found with
    | still round old =>
      apply sequential.still step.routePlan round
      intro id other attempt
      rcases op.attempt_before attempt with kept | new
      · exact kept
      · exact (new (old id other attempt)).elim
    | advanced last new advanced round =>
      exact sequential.advanced advanced step.routePlan round
        fun _ _ attempt => op.attempt_before attempt
  obtain ⟨_, _, created, prepared, _⟩ := new.created enabled found fresh
  exact created.sequential prepared orderly.known
    (AttemptsNumbered.step orderly.numbered) fresh found strategy

lemma Orderly.tried_step (strategy : later.effectiveStrategy = .orderedFallback)
    (routed : ∃ p ∈ later.routePlan, p.admitted = true) : Tried (op.run db) intentID later := by
  intro round low high
  rcases (op.intentsStep _).backward intentID later found with
    ⟨intent, before, step⟩ | ⟨fresh, isNew⟩
  · have tried := orderly.tried intentID intent before
      (step.strategy ▸ strategy) (step.routePlan ▸ routed)
    have kept (old : round ≤ intent.activeRound) : ∃ id row, (op.run db).Attempt intentID id row ∧
          row.round = round := by
      obtain ⟨id, row, attempt, isRound⟩ := tried round low old
      obtain ⟨other, after, place⟩ := op.attempt_after attempt
      exact ⟨id, other, after, place.round.trans isRound⟩
    cases Op.rounds enabled before found with
    | still same _ => exact kept (same ▸ high)
    | advanced last added advanced next =>
      rw [next] at high
      rcases Nat.lt_or_eq_of_le high with earlier | current
      · exact kept (Nat.le_of_lt_succ earlier)
      · exact ⟨added.id, added, advanced.added, advanced.newRound.trans current.symm⟩
  obtain ⟨subID, intents, created, prepared, new, member, rfl⟩ := isNew.created enabled found fresh
  obtain ⟨first, firstMember⟩ := (prepared new member).first_row strategy routed
  obtain ⟨_, owner, isFirst⟩ := (prepared new member).first_rows firstMember
  obtain ⟨id, stored⟩ := (created.stored new member).2 first firstMember
  have named : (storedIntent subID new.intent).id = intentID := key_of_get? found
  refine ⟨id, _, ⟨stored, owner.trans (congrArg some named)⟩, ?_⟩
  exact isFirst.trans (Nat.le_antisymm low high)

end

lemma Orderly.step (orderly : Orderly db) (enabled : op.Enabled db) : Orderly (op.run db) where
  known := orderly.known.step enabled
  numbered := AttemptsNumbered.step orderly.numbered
  sequential _ _ found strategy := orderly.sequential_step enabled found strategy
  tried _ _ found strategy routed := orderly.tried_step enabled found strategy routed

variable {s : State}

lemma reachable_orderly (reachable : system.Reachable s) : Orderly s.db :=
  (reachable_refines reachable).preserves Orderly
    (fun _ _ orderly enabled _ => orderly.step enabled) .empty

/-- There are at most as many rounds as admitted routes: each round's route is
a different one of them. -/
lemma Sequential.rounds_le (sequential : Sequential db intentID intent)
    (tried : Tried db intentID intent) :
    intent.activeRound ≤ (intent.routePlan.filter RoutePlanEntry.admitted).length := by
  have routes (round : Nat) (member : round ∈ List.range' 1 intent.activeRound) :
      ∃ index, ∃ id row, db.Attempt intentID id row ∧ row.round = round ∧
        row.routeIndex = index := by
    obtain ⟨low, high⟩ := mem_range'_1.mp member
    obtain ⟨id, row, attempt, same⟩ := tried round low (by omega)
    exact ⟨row.routeIndex, id, row, attempt, same, rfl⟩
  choose! index route using routes
  have different : ((List.range' 1 intent.activeRound).map index).Nodup := by
    refine List.Nodup.map_on ?_ nodup_range'
    intro left leftMember right rightMember same
    obtain ⟨leftID, row, attempt, leftRound, leftRoute⟩ := route left leftMember
    obtain ⟨rightID, other, otherAttempt, rightRound, rightRoute⟩ := route right rightMember
    rcases Nat.lt_trichotomy left right with less | equal | greater
    · have := (sequential.increasing leftID rightID row other attempt otherAttempt (by omega)).2
      omega
    · exact equal
    have := (sequential.increasing rightID leftID other row otherAttempt attempt (by omega)).2
    omega
  have admitted : (List.range' 1 intent.activeRound).map index ⊆
      (intent.routePlan.filter RoutePlanEntry.admitted).map
        routeIndex := by
    intro chosen member
    obtain ⟨round, isRound, rfl⟩ := mem_map.mp member
    obtain ⟨id, row, attempt, _, isRoute⟩ := route round isRound
    obtain ⟨p, inPlan, isAdmitted, same⟩ := sequential.admitted id row attempt
    exact mem_map.mpr ⟨p, mem_filter.mpr ⟨inPlan, isAdmitted⟩, same.trans isRoute⟩
  have fewer := (different.subperm admitted).length_le
  simpa using fewer

/-! ## Results -/

variable {intent : DeliveryIntent}

/-- An ordered fallback that was given a route is on one route at a time: every
round so far has one attempt, later rounds have higher numbers on later
routes, there are no more rounds than admitted routes, and only the attempt of
the active round can wait or be sent. -/
theorem ordered_fallback_one_route {s : State} (reachable : system.Reachable s) {intentID : String}
    {intent : DeliveryIntent} (found : s.db.intents.get? intentID = some intent)
    (strategy : intent.effectiveStrategy = .orderedFallback)
    (routed : ∃ p ∈ intent.routePlan, p.admitted = true) : (∀ id row, s.db.Attempt intentID id row →
      1 ≤ row.round ∧ row.round ≤ intent.activeRound) ∧
    (∀ round, 1 ≤ round → round ≤ intent.activeRound →
      ∃! id, ∃ row, s.db.Attempt intentID id row ∧ row.round = round) ∧
    (∀ left right row other, s.db.Attempt intentID left row →
      s.db.Attempt intentID right other → row.round < other.round →
      row.attemptNo < other.attemptNo ∧ row.routeIndex < other.routeIndex) ∧ intent.activeRound ≤
      (intent.routePlan.filter admitted).length ∧
    (∀ left right row other, s.db.Attempt intentID left row →
      s.db.Attempt intentID right other → row.status.unfinished = true →
      other.status.unfinished = true → left = right) ∧ ∀ id row, s.db.Attempt intentID id row →
      row.status.unfinished = true → row.round = intent.activeRound := by
  have orderly := reachable_orderly reachable
  have sequential := orderly.sequential intentID intent found (by rw [strategy]; rfl)
  have tried := orderly.tried intentID intent found strategy routed
  have current (id : Nat) (row : MessageDelivery) (attempt : s.db.Attempt intentID id row)
      (unfinished : row.status.unfinished = true) : row.round = intent.activeRound := by
    rcases Nat.lt_or_eq_of_le (sequential.within id row attempt).2 with
      before | same
    · rw [(sequential.earlier id row attempt before).1] at unfinished
      cases unfinished
    · exact same
  refine ⟨sequential.within, ?_, sequential.increasing, sequential.rounds_le tried, ?_, current⟩
  · intro round low high
    obtain ⟨id, row, attempt, same⟩ := tried round low high
    refine ⟨id, ⟨row, attempt, same⟩, ?_⟩
    rintro otherID ⟨other, otherAttempt, otherRound⟩
    exact sequential.single otherID id other row otherAttempt attempt (otherRound.trans same.symm)
  intro left right row other leftAttempt rightAttempt leftLive rightLive
  exact sequential.single left right row other leftAttempt rightAttempt
    ((current left row leftAttempt leftLive).trans
      (current right other rightAttempt rightLive).symm)

/-- The mesh refuses the message and the fallback goes on to the satellite. -/
def advancedState : State :=
  system.runFrom system.initial (submitted (twoRoutes .orderedFallback none) ++ sendRow 1 1 0 ++
      [.worker 1 (.finish { outcome := .notSent } 20),
        .evaluate "intent" 30 (fun _ => true), .act 1 40])

theorem ordered_fallback_one_route_advanced :
    ∃ intent, advancedState.db.intents.get? "intent" = some intent ∧ intent.activeRound = 2 ∧
      ∃! id, ∃ row, advancedState.db.Attempt "intent" id row ∧ row.round = 2 := by
  have reachable : system.Reachable advancedState := Reaches.of_runFrom (by decide)
  have columns : (advancedState.db.intents.get? "intent").map (fun intent =>
      (intent.activeRound, intent.effectiveStrategy, intent.routePlan.any admitted)) =
      some (2, .orderedFallback, true) := by
    decide
  obtain ⟨intent, found, same⟩ := Option.map_eq_some_iff.mp columns
  simp only [Prod.mk.injEq, any_eq_true] at same
  obtain ⟨round, strategy, routed⟩ := same
  refine ⟨intent, found, round, ?_⟩
  exact (ordered_fallback_one_route reachable found strategy routed).2.1 2 (by decide) (by omega)

/-! ## After a paid send of unknown outcome -/

variable {t : DeliveryTransmission}

lemma Agrees.unknown (agrees : Agrees row t)
    (unknown : t.outcomeClass = some .unknown) : row.status = .unknown := by
  have settled := agrees.current (agrees.claim fun _ => by simp [unknown])
  cases status : row.status <;> simp_all [Settled]

lemma Sequential.current (sequential : Sequential db intentID intent) {id : Nat}
    (attempt : db.Attempt intentID id row) (unknown : row.status = .unknown)
    (paid : (planEntry intent.routePlan row.routeIndex).paid = true) :
    row.round = intent.activeRound := by
  rcases Nat.lt_or_eq_of_le (sequential.within id row attempt).2 with
    before | same
  · rw [(sequential.earlier id row attempt before).2 unknown] at paid
    cases paid
  · exact same

/-- Attempt `id`, number `number` of its intent, is a send of unknown outcome
on a paid route of the plan, and no later attempt was made. -/
structure Withheld (intentID : String) (id number : Nat)
    (plan : List RoutePlanEntry) (db : DB) : Prop where
  orderly : Orderly db
  known : intentID ∈ db.intents.used
  intent : ∀ kept, db.intents.get? intentID = some kept →
    kept.routePlan = plan ∧ kept.effectiveStrategy.sequential = true
  unknown : ∃ row, db.Attempt intentID id row ∧ row.status = .unknown ∧
    (planEntry plan row.routeIndex).paid = true
  last : ∀ otherID other, db.Attempt intentID otherID other → other.attemptNo ≤ number

lemma Withheld.step {id number : Nat}
    (withheld : Withheld intentID id number plan db) (enabled : op.Enabled db) :
    Withheld intentID id number plan (op.run db) := by
  obtain ⟨row, attempt, unknown, paid⟩ := withheld.unknown
  refine ⟨withheld.orderly.step enabled, (op.intentsStep _).used _ withheld.known, ?_, ?_, ?_⟩
  · intro kept found
    rcases (op.intentsStep _).backward intentID kept found with
      ⟨intent, before, step⟩ | ⟨fresh, _⟩
    · rw [step.routePlan, step.strategy]
      exact withheld.intent intent before
    · exact (fresh withheld.known).elim
  · obtain ⟨other, after, place⟩ := op.attempt_after attempt
    refine ⟨other, after, ?_, place.routeIndex ▸ paid⟩
    rw [place.ended (by rw [unknown]; rfl), unknown]
  intro otherID other otherAttempt
  rcases op.attempt_before otherAttempt with ⟨old, before, place⟩ | new
  · rw [place.attemptNo]
    exact withheld.last otherID old before
  -- An advance would have left a paid attempt of unknown outcome.
  obtain ⟨intent, _, last, found, _, _, advanced⟩ :=
    Op.new_advanced enabled otherAttempt new withheld.known
  obtain ⟨samePlan, strategy⟩ := withheld.intent intent found
  have sequential := withheld.orderly.sequential intentID intent found strategy
  have current := sequential.current attempt unknown (samePlan ▸ paid)
  have isLast := advanced.only id row attempt current
  subst isLast
  have same := advanced.attempt.unique attempt
  subst same
  have unpaid := advanced.unpaid unknown
  rw [samePlan, paid] at unpaid
  cases unpaid

/-- Once an attempt on a paid route has a transmission of unknown outcome, no
attempt of its intent has a higher number, then or in any later state. -/
theorem no_route_after_unknown {s : State} (reachable : system.Reachable s) {intentID : String}
    {intent : DeliveryIntent} (found : s.db.intents.get? intentID = some intent)
    (strategy : intent.effectiveStrategy = .primaryOnly ∨
      intent.effectiveStrategy = .orderedFallback) {id : Nat} {row : MessageDelivery}
    (attempt : s.db.Attempt intentID id row)
    (paid : (planEntry intent.routePlan row.routeIndex).paid = true)
    {txID : Nat} {t : DeliveryTransmission} (txFound : s.db.transmissions.get? txID = some t)
    (ofRow : t.attemptID = id) (unknown : t.outcomeClass = some .unknown)
    {later : State} (run : system.Reaches anything s later) {otherID : Nat}
    {other : MessageDelivery} (otherAttempt : later.db.Attempt intentID otherID other) :
    other.attemptNo ≤ row.attemptNo := by
  obtain ⟨_, attempts⟩ := reachable_consistent reachable
  have orderly := reachable_orderly reachable
  have isSequential : intent.effectiveStrategy.sequential = true := by
    rcases strategy with primary | ordered
    · rw [primary]
      rfl
    rw [ordered]
    rfl
  have sequential := orderly.sequential intentID intent found isSequential
  obtain ⟨same, sameFound, agrees⟩ := attempts.owned txID t txFound
  rw [ofRow, attempt.1] at sameFound
  cases sameFound
  have status := agrees.unknown unknown
  have current := sequential.current attempt status paid
  have start : Withheld intentID id row.attemptNo intent.routePlan s.db := by
    refine ⟨orderly, used_of_get? found, ?_, ⟨row, attempt, status, paid⟩, ?_⟩
    · intro kept keptFound
      rw [found] at keptFound
      cases keptFound
      exact ⟨rfl, isSequential⟩
    intro earlierID earlier earlierAttempt
    rcases Nat.lt_or_eq_of_le (sequential.within earlierID earlier earlierAttempt).2 with
      before | equal
    · exact Nat.le_of_lt (sequential.increasing earlierID id earlier row
        earlierAttempt attempt (current ▸ before)).1
    have sameID := sequential.single earlierID id earlier row
      earlierAttempt attempt (equal.trans current.symm)
    subst sameID
    rw [attempt.unique earlierAttempt]
  have withheld : Withheld intentID id row.attemptNo intent.routePlan later.db :=
    (Reaches.refines reachable run).preserves (Withheld intentID id row.attemptNo intent.routePlan)
      (fun _ _ withheld enabled _ => withheld.step enabled) start
  exact withheld.last otherID other otherAttempt

def satelliteFirst : Recipient :=
  { twoRoutes .orderedFallback none with
    addresses :=
      [{ kind := .iridiumIMT, value := "88160", primaryRank := 0 },
        { kind := .meshtastic, value := "!0a", primaryRank := 1 }] }

/-- The satellite modem does not say whether it sent the message. -/
def unknownState : State :=
  system.runFrom system.initial (submitted satelliteFirst ++ sendRow 1 1 40 ++
      [.worker 1 (.finish { outcome := .unknown } 20)])

/-- The Escalator looks at it while the mesh is usable. -/
def withheldState : State :=
  system.runFrom unknownState [.evaluate "intent" 30 (fun _ => true), .act 1 40]

theorem no_route_after_unknown_withheld : (withheldState.db.intents.get? "intent").map
        DeliveryIntent.lastTransition = some .t7 ∧
      ∀ otherID other, withheldState.db.Attempt "intent" otherID other → other.attemptNo ≤ 1 := by
  have reachable : system.Reachable unknownState := Reaches.of_runFrom (by decide)
  have run : system.Reaches anything unknownState withheldState := Reaches.of_runFrom (by decide)
  have intents : (unknownState.db.intents.get? "intent").map (fun intent =>
      (intent.effectiveStrategy, (planEntry intent.routePlan 1).paid)) =
      some (.orderedFallback, true) := by
    decide
  have rows : (unknownState.db.deliveries.get? 1).map (fun row =>
      (row.intentID, row.routeIndex, row.attemptNo)) =
      some (some "intent", 1, 1) := by
    decide
  have transmissions : (unknownState.db.transmissions.get? 1).map (fun t =>
      (t.attemptID, t.outcomeClass)) = some (1, some .unknown) := by
    decide
  obtain ⟨intent, found, columns⟩ := Option.map_eq_some_iff.mp intents
  obtain ⟨row, rowFound, rowColumns⟩ := Option.map_eq_some_iff.mp rows
  obtain ⟨t, txFound, txColumns⟩ := Option.map_eq_some_iff.mp transmissions
  simp only [Prod.mk.injEq] at columns rowColumns txColumns
  refine ⟨by decide, fun otherID other attempt => ?_⟩
  rw [← rowColumns.2.2]
  exact no_route_after_unknown reachable found (.inr columns.1)
    ⟨rowFound, rowColumns.1⟩ (rowColumns.2.1 ▸ columns.2) txFound
    txColumns.1 txColumns.2 run attempt

end MeshSat.Intents
