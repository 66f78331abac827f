import MeshSat.Hub.Attribution

/-!
# The evidence kept and the reducer

The reducer is the contract's meaning of a list of events. The bridge keeps one row for each event
id, over all operations, as the first copy was received. The rows of an operation project to what
the reducer makes of its events, where a row under an event's id is of the same operation, and valid
if the event is.
-/

namespace MeshSat.Hub

open Library TransitionSystem List OpsDB Keyed

/-! ## The projection of what is kept -/

section
variable (db : OpsDB) (opID : String)

def OpsDB.validEvents : List Event := ((db.hubOpEvents opID).filter fun kept => kept.2).map Prod.fst

def OpsDB.rejectedIDs : List String :=
  ((db.hubOpEvents opID).filter fun kept => !kept.2).map fun kept =>
    kept.1.eventID

def keptProjection : Projection := project (db.validEvents opID) (db.rejectedIDs opID)

end

/-- The events received for an operation, as this bridge took them. -/
def Route.receivedFor (r : Route) (opID : String) : List Event :=
  (r.received.filter fun ev => ev.opID = opID).map Event.onStatusTopic

variable {db : OpsDB} {opID : String} {reduction : Reduction}

lemma mem_hubOpEvents : kept ∈ db.hubOpEvents opID ↔ ∃ row ∈ db.rows,
    row.opID = opID ∧ (row.event, row.valid) = kept := by
  unfold OpsDB.hubOpEvents
  simp only [mem_map, mem_insertionSort, mem_filter, decide_eq_true_eq, rows]
  constructor
  · rintro ⟨row, ⟨member, owner⟩, rfl⟩
    exact ⟨row.evidence, ⟨row, member, rfl⟩, owner, rfl⟩
  rintro ⟨_, ⟨row, member, rfl⟩, owner, rfl⟩
  exact ⟨row, ⟨member, owner⟩, rfl⟩

lemma mem_validEvents : e ∈ db.validEvents opID ↔ ∃ row ∈ db.rows, row.opID = opID ∧
    row.valid = true ∧ row.event = e := by
  rw [validEvents, mem_map]
  constructor
  · rintro ⟨kept, member, rfl⟩
    obtain ⟨listed, isValid⟩ := mem_filter.mp member
    obtain ⟨row, rowMember, owner, rfl⟩ := mem_hubOpEvents.mp listed
    exact ⟨row, rowMember, owner, isValid, rfl⟩
  rintro ⟨row, member, owner, isValid, rfl⟩
  exact ⟨(row.event, row.valid), mem_filter.mpr
    ⟨mem_hubOpEvents.mpr ⟨row, member, owner, rfl⟩, isValid⟩, rfl⟩

lemma mem_rejectedIDs {id : String} : id ∈ db.rejectedIDs opID ↔ ∃ row ∈ db.rows, row.opID = opID ∧
    row.valid = false ∧ row.eventID = id := by
  simp only [rejectedIDs, mem_map, mem_filter, mem_hubOpEvents, Bool.not_eq_true']
  constructor
  · rintro ⟨_, ⟨⟨row, member, owner, rfl⟩, invalid⟩, named⟩
    exact ⟨row, member, owner, invalid, named⟩
  rintro ⟨row, member, owner, invalid, named⟩
  exact ⟨(row.event, row.valid), ⟨⟨row, member, owner, rfl⟩, invalid⟩, named⟩

/-! ## The refinement relation -/

/-- The rows of an operation are a reduction: the valid ones say what is held,
and the others have the rejected ids that are not held. -/
structure OpsDB.Keeps (db : OpsDB) (opID : String) (reduction : Reduction) : Prop where
  held : Covered (db.validEvents opID) reduction.held.entries
  kept : Covered reduction.held.entries (db.validEvents opID)
  rejected : ∀ id, id ∉ (db.validEvents opID).map Event.eventID →
    (id ∈ db.rejectedIDs opID ↔ id ∈ reduction.rejected)

lemma OpsDB.Keeps.projection (keeps : db.Keeps opID reduction) :
    keptProjection db opID = project reduction.held.entries reduction.rejected :=
  project_congr keeps.held keeps.kept keeps.rejected

lemma OpsDB.Keeps.of_rows {next : OpsDB} (keeps : db.Keeps opID reduction)
    (same : ∀ row : KeptEvent, row.opID = opID → (row ∈ next.rows ↔ row ∈ db.rows)) :
    next.Keeps opID reduction := by
  have events : ∀ e, e ∈ next.validEvents opID ↔ e ∈ db.validEvents opID := by
    intro e
    rw [mem_validEvents, mem_validEvents]
    exact exists_congr fun row => and_congr_left fun rest => same row rest.1
  have ids : ∀ id, id ∈ (next.validEvents opID).map Event.eventID ↔
      id ∈ (db.validEvents opID).map Event.eventID := by
    intro id
    simp [events]
  constructor
  · intro e member
    exact keeps.held e ((events e).mp member)
  · intro e member
    obtain ⟨copy, copyMember, content⟩ := keeps.kept e member
    exact ⟨copy, (events copy).mpr copyMember, content⟩
  intro id absent
  rw [ids] at absent
  rw [← keeps.rejected id absent, mem_rejectedIDs, mem_rejectedIDs]
  exact exists_congr fun row => and_congr_left fun rest => same row rest.1

lemma OpsDB.Keeps.unnamed (unnamed : ∀ row ∈ db.rows, row.opID ≠ opID) :
    db.Keeps opID ⟨.empty, []⟩ := by
  constructor
  · intro e member
    obtain ⟨row, kept, owner, _⟩ := mem_validEvents.mp member
    exact (unnamed row kept owner).elim
  · intro e member
    cases member
  intro id _
  rw [mem_rejectedIDs]
  constructor
  · rintro ⟨row, kept, owner, _⟩
    exact (unnamed row kept owner).elim
  intro member
  cases member

/-! ## One event -/

variable {r : Route} {row : KeptEvent}

lemma mem_rows_withRow_iff : row ∈ (r.withRow e isValid now).db.rows ↔ row ∈ r.db.rows ∨
    r.db.events.get? e.eventID = none ∧ row = e.row isValid now := by
  constructor
  · exact Route.mem_rows_withRow
  rintro (old | ⟨new, rfl⟩)
  · obtain ⟨kept, member, rfl⟩ := mem_map.mp old
    exact mem_map_of_mem (mem_insertOrIgnore.mpr (.inl member))
  · exact mem_map.mpr ⟨_, mem_insertOrIgnore.mpr (.inr ⟨new, rfl⟩), rfl⟩

section
variable {r : Route} {op : Operation} {e : Event} {reduction : Reduction} {now : Int64}
  (keeps : r.db.Keeps op.opID reduction)

include keeps

lemma OpsDB.Keeps.copy (found : r.db.events.get? e.eventID = some row) (owner : row.opID = op.opID)
    (validRow : valid op e = true → row.valid = true) :
    (r.withRow e (valid op e) now).db.Keeps op.opID (reduction.add op e) := by
  have listed : row.evidence ∈ r.db.rows := mem_map_of_mem (mem_of_get? found)
  have named : row.eventID = e.eventID := key_of_get? found
  have rows : (r.withRow e (valid op e) now).db.Keeps op.opID reduction := by
    refine keeps.of_rows fun other _ => ?_
    rw [mem_rows_withRow_iff, found]
    simp
  cases isValid : valid op e with
  | true =>
    -- A copy is held already, since the row is valid.
    rw [isValid] at rows
    obtain ⟨copy, copyHeld, copyNamed, _⟩ := keeps.held row.event (mem_validEvents.mpr
        ⟨row.evidence, listed, owner, validRow isValid, rfl⟩)
    have taken : reduction.held.get? e.eventID ≠ none := fun none =>
      get?_eq_none_iff.mp none copy copyHeld (copyNamed.trans named)
    have same : reduction.add op e = reduction := by
      simp [Reduction.add, isValid, insertOrIgnore, dif_neg taken]
    rw [same]
    exact rows
  | false =>
    rw [isValid] at rows
    have held : (reduction.add op e).held = reduction.held := by simp [Reduction.add, isValid]
    refine ⟨?_, ?_, fun id absent => ?_⟩
    · rw [held]
      exact rows.held
    · rw [held]
      exact rows.kept
    rw [rows.rejected id absent, mem_rejected_add, isValid]
    refine ⟨.inl, ?_⟩
    rintro (old | ⟨_, rfl⟩)
    · exact old
    -- The row under this id is rejected too, or the id would be held.
    rw [← rows.rejected _ absent, mem_rejectedIDs]
    have kept : row.evidence ∈ (r.withRow e false now).db.rows :=
      mem_rows_withRow_iff.mpr (.inl listed)
    refine ⟨row.evidence, kept, owner, ?_, named⟩
    refine Bool.eq_false_iff.mpr fun rowValid => absent ?_
    exact mem_map.mpr ⟨row.event, mem_validEvents.mpr
      ⟨row.evidence, kept, owner, rowValid, rfl⟩, named⟩

lemma OpsDB.Keeps.new (unknown : r.db.events.get? e.eventID = none) (owner : e.opID = op.opID) :
    (r.withRow e (valid op e) now).db.Keeps op.opID (reduction.add op e) := by
  have unkept : ∀ row ∈ r.db.rows, row.eventID ≠ e.eventID := by
    intro row member
    obtain ⟨kept, listed, rfl⟩ := mem_map.mp member
    exact get?_eq_none_iff.mp unknown kept listed
  have unheld : reduction.held.get? e.eventID = none := by
    refine get?_eq_none_iff.mpr fun other held named => ?_
    obtain ⟨copy, member, same, _⟩ := keeps.kept other held
    obtain ⟨row, listed, _, _, rfl⟩ := mem_validEvents.mp member
    exact unkept row listed (same.trans named)
  have events : ∀ other, other ∈ (r.withRow e (valid op e) now).db.validEvents op.opID ↔
        other ∈ r.db.validEvents op.opID ∨
          valid op e = true ∧ (e.row (valid op e) now).event = other := by
    intro other
    simp only [mem_validEvents, mem_rows_withRow_iff, unknown, true_and,
      or_and_right, exists_or, exists_eq_left]
    refine or_congr_right ⟨fun new => new.2, fun new => ⟨owner, new⟩⟩
  refine ⟨?_, ?_, fun id absent => ?_⟩
  · intro other member
    rcases (events other).mp member with old | ⟨isValid, rfl⟩
    · obtain ⟨copy, held, content⟩ := keeps.held other old
      exact ⟨copy, mem_held_add.mpr (.inl held), content⟩
    · exact ⟨e, mem_held_add.mpr (.inr ⟨isValid, unheld, rfl⟩), rfl, rfl, rfl⟩
  · intro other held
    rcases mem_held_add.mp held with old | ⟨isValid, _, rfl⟩
    · obtain ⟨copy, member, content⟩ := keeps.kept other old
      exact ⟨copy, (events copy).mpr (.inl member), content⟩
    · exact ⟨_, (events _).mpr (.inr ⟨isValid, rfl⟩), rfl, rfl, rfl⟩
  have before : id ∉ (r.db.validEvents op.opID).map Event.eventID := by
    intro member
    obtain ⟨other, kept, named⟩ := mem_map.mp member
    exact absent (mem_map.mpr ⟨other, (events other).mpr (.inl kept), named⟩)
  rw [mem_rejected_add, ← keeps.rejected id before]
  simp only [mem_rejectedIDs, mem_rows_withRow_iff, unknown, true_and,
    or_and_right, exists_or, exists_eq_left]
  refine or_congr_right ⟨fun new => new.2, fun new => ⟨owner, new⟩⟩

end

/-! ## Runs -/

def eventsKept : RouteAction → Bool
  | .status payload _ faults =>
    !faults.read && !faults.keep && (parseStatus payload).all fun status =>
        match status with
        | .event _ => true
        | .refusal _ => false
  | _ => true

/-- A row kept under the event's id is of the event's operation, and is valid
if the event is. -/
def unionByEventID (r : Route) : RouteAction → Bool
  | .status payload _ _ =>
    (parseStatus payload).all fun status =>
      match status with
      | .refusal _ => true
      | .event ev =>
        (r.db.operation? ev.opID).all fun op =>
          (r.db.events.get? ev.eventID).all fun row =>
            row.opID = ev.opID && (!valid op ev.onStatusTopic || row.valid)
  | _ => true

structure Route.Refines (r : Route) : Prop where
  rows : ∀ row ∈ r.db.rows, row.opID ∈ r.db.ops.used
  received : ∀ ev ∈ r.received, ev.opID ∈ r.db.ops.used
  keeps : ∀ opID op, r.db.operation? opID = some op → r.db.Keeps opID (scan op (r.receivedFor opID))

lemma Route.Refines.quiet {r next : Route} (refines : r.Refines)
    (quiet : r.Quiet next) : next.Refines := by
  constructor
  · rw [quiet.db.rows, quiet.db.used]
    exact refines.rows
  · rw [quiet.received, quiet.db.used]
    exact refines.received
  intro opID op found
  rw [quiet.db.operations] at found
  unfold receivedFor
  rw [quiet.received]
  refine (refines.keeps opID op found).of_rows fun row _ => ?_
  rw [quiet.db.rows]

lemma Route.receivedFor_record (r : Route) (ev : Event) (opID : String) :
    (r.record (.event ev)).receivedFor opID =
      if ev.opID = opID then r.receivedFor opID ++ [ev.onStatusTopic]
      else r.receivedFor opID := by
  simp only [record, receivedFor, filter_append, map_append]
  split
  next same => simp [same]
  next other => simp [other]

lemma Route.Refines.event (refines : r.Refines) {ev : Event}
    {op : Operation} (found : r.db.operation? ev.opID = some op)
    (union : ∀ row, r.db.events.get? ev.eventID = some row →
      row.opID = ev.opID ∧ (valid op ev.onStatusTopic = true → row.valid = true)) (now : Int64) :
    ((r.record (.event ev)).withRow ev.onStatusTopic (valid op ev.onStatusTopic) now).Refines := by
  have named := opID_of_operation? found
  have known : ev.opID ∈ r.db.ops.used := by
    obtain ⟨row, kept, _⟩ := Option.map_eq_some_iff.mp found
    exact Table.used_of_get? kept
  constructor
  · intro row member
    rcases mem_rows_withRow member with old | ⟨_, rfl⟩
    · exact refines.rows row old
    · exact known
  · exact forall_mem_append.mpr ⟨refines.received, forall_mem_singleton.mpr known⟩
  intro opID other otherFound
  change r.db.operation? opID = some other at otherFound
  change OpsDB.Keeps _ opID (scan other ((r.record (.event ev)).receivedFor opID))
  rw [receivedFor_record]
  have before : (r.record (.event ev)).db.Keeps opID (scan other (r.receivedFor opID)) :=
    refines.keeps opID other otherFound
  split
  next same =>
    subst same
    cases Option.some.inj (found.symm.trans otherFound)
    rw [scan_append_singleton, ← named]
    rw [← named] at before
    cases kept : r.db.events.get? ev.eventID with
    | none => exact before.new kept named.symm
    | some row =>
      obtain ⟨owner, validRow⟩ := union row kept
      exact before.copy kept (owner.trans named.symm) validRow
  rename_i different
  refine before.of_rows fun row owner => ?_
  rw [mem_rows_withRow_iff]
  refine or_iff_left ?_
  rintro ⟨_, rfl⟩
  exact different owner

lemma Route.Refines.put (refines : r.Refines) {op : HubOp}
    {db : OpsDB} (put : r.db.putHubOp op = some db) (published : List Operation) :
    Route.Refines { r with db, published } := by
  obtain ⟨fresh, sameEvents, used, operations⟩ := putHubOp_eq_some put
  have rows : db.rows = r.db.rows := by
    rw [OpsDB.rows, sameEvents]
    rfl
  refine ⟨?_, ?_, fun opID other found => ?_⟩
  · intro row member
    dsimp only at member ⊢
    rw [rows] at member
    rw [used]
    exact mem_cons_of_mem _ (refines.rows row member)
  · intro ev member
    dsimp only
    rw [used]
    exact mem_cons_of_mem _ (refines.received ev member)
  dsimp only at found ⊢
  rw [operations] at found
  split at found
  next same =>
    subst same
    have none : r.receivedFor op.opID = [] := by
      refine map_eq_nil_iff.mpr (filter_eq_nil_iff.mpr ?_)
      intro ev member same
      exact fresh (of_decide_eq_true same ▸ refines.received ev member)
    change db.Keeps op.opID (scan other (r.receivedFor op.opID))
    rw [none]
    refine .unnamed fun row member owner => fresh ?_
    rw [rows] at member
    exact owner ▸ refines.rows row member
  · refine (refines.keeps opID other found).of_rows fun row _ => ?_
    rw [rows]

lemma OpsDB.mem_rows_prune :
    row ∈ (db.pruneHubOps now).rows ↔ row ∈ db.rows ∧ db.pruned now row.opID = false := by
  simp only [rows, pruneHubOps, mem_map]
  constructor
  · rintro ⟨old, member, rfl⟩
    obtain ⟨listed, live⟩ := mem_deleteWhere.mp member
    exact ⟨⟨old, listed, rfl⟩, live⟩
  rintro ⟨⟨old, listed, rfl⟩, live⟩
  exact ⟨old, mem_deleteWhere.mpr ⟨listed, live⟩, rfl⟩

lemma Route.Refines.prune (refines : r.Refines) (now : Int64) :
    Route.Refines { r with db := r.db.pruneHubOps now } := by
  refine ⟨?_, refines.received, fun opID op found => ?_⟩
  · intro row member
    exact refines.rows row (OpsDB.mem_rows_prune.mp member).1
  obtain ⟨before, live⟩ := operation?_prune found
  refine (refines.keeps opID op before).of_rows fun row owner => ?_
  rw [mem_rows_prune, owner, live]
  exact and_iff_left rfl

lemma Route.Refines.status (refines : r.Refines)
    {payload : Option StatusMessage} {clock : Clock} {faults : Faults}
    (events : eventsKept (.status payload clock faults) = true)
    (union : unionByEventID r (.status payload clock faults) = true) :
    (r.handleStatus payload clock faults).Refines := by
  simp only [eventsKept, Bool.and_eq_true, Bool.not_eq_true'] at events
  obtain ⟨⟨_, keeps⟩, isEvent⟩ := events
  cases r.handleStatus_cases payload clock faults with
  | ignored quiet _ _ => exact refines.quiet quiet
  | lost status fails _ _ => exact absurd (keeps.symm.trans fails) (by decide)
  | kept status op e isValid parsed found kept quiet _ =>
    cases status with
    | refusal ref => simp [parsed] at isEvent
    | event ev =>
      cases kept
      refine (refines.event found ?_ clock.ms).quiet quiet
      intro row rowFound
      change r.db.operation? ev.opID = some op at found
      simp only [unionByEventID, parsed, Option.all_some, found,
        rowFound, Bool.and_eq_true, decide_eq_true_eq, Bool.or_eq_true, Bool.not_eq_true'] at union
      refine ⟨union.1, fun isValid => ?_⟩
      rcases union.2 with invalid | rowValid
      · exact absurd (invalid.symm.trans isValid) (by decide)
      · exact rowValid

lemma Route.Refines.step {r next : Route} {action : RouteAction} (refines : r.Refines)
    (events : eventsKept action = true) (union : unionByEventID r action = true)
    (executed : execRoute r action = some next) : next.Refines := by
  cases action with
  | put op =>
    obtain ⟨db, put, same⟩ := Option.bind_eq_some_iff.mp executed
    cases same
    exact refines.put put _
  | status payload clock faults =>
    cases executed
    exact refines.status events union
  | applyPending clock faults =>
    cases executed
    exact refines.quiet (r.applyPending_spec clock faults).1
  | prune now =>
    cases executed
    exact refines.prune now
  | restart =>
    cases executed
    exact refines.quiet ⟨.refl _, rfl, rfl, rfl⟩

lemma Route.Refines.initial : routeSystem.initial.Refines where
  rows _ member := by cases member
  received _ member := by cases member
  keeps _ _ found := by cases found

/-- The evidence kept refines the reducer.

In every run of events that are read and kept, in which a row kept under an
event's id is of the event's operation and is valid if the event is, the rows
of every operation still kept project to what the reducer makes of all the
events received for it; the valid rows are its evidence. -/
theorem kept_evidence_refines (run : routeSystem.Reaches (fun r action => eventsKept action = true ∧
        unionByEventID r action = true) routeSystem.initial r) {opID : String} {op : Operation}
    (found : r.db.operation? opID = some op) :
    keptProjection r.db opID = reduce op (r.receivedFor opID) ∧
      ∀ id, id ∈ (reduce op (r.receivedFor opID)).evidence ↔
        ∃ row ∈ r.db.events, row.opID = opID ∧ row.valid = true ∧ row.eventID = id := by
  have refines : r.Refines := run.preserves (fun _ _ _ refines permitted executed =>
      refines.step permitted.1 permitted.2 executed) .initial
  have same := (refines.keeps opID op found).projection
  refine ⟨same, fun id => ?_⟩
  have evidence : (reduce op (r.receivedFor opID)).evidence =
      ((r.db.validEvents opID).map Event.eventID).toFinset.sort :=
    (congrArg Projection.evidence same).symm
  rw [evidence, Finset.mem_sort, mem_toFinset, mem_map]
  constructor
  · rintro ⟨_, member, rfl⟩
    obtain ⟨_, listed, owner, isValid, rfl⟩ := mem_validEvents.mp member
    obtain ⟨row, kept, rfl⟩ := mem_map.mp listed
    exact ⟨row, kept, owner, isValid, rfl⟩
  rintro ⟨row, kept, owner, isValid, rfl⟩
  exact ⟨row.event, mem_validEvents.mpr
    ⟨row.evidence, mem_map_of_mem kept, owner, isValid, rfl⟩, rfl⟩

/-- Two operations, a copy and an event of the wrong recipient. -/
theorem kept_evidence_refines_copies :
    let r := routeSystem.runFrom routeSystem.initial [.put opX, .put opY,
        .status (some (forwardedStatus opX firstEvent)) ⟨10, ""⟩ {}, .status (some (storedStatus
          { opX with recipient := "bridge:y" } secondEvent)) ⟨20, ""⟩ {},
        .status (some (forwardedStatus opX firstEvent)) ⟨30, ""⟩ {}]
    (keptProjection r.db opX.opID).state = "forwarded" ∧ keptProjection r.db opX.opID =
        reduce opX.toOperation (r.receivedFor opX.opID) := by
  intro r
  have run : routeSystem.Reaches
      (fun r action => (eventsKept action && unionByEventID r action) = true)
      routeSystem.initial r := .of_guarded_runFrom (by decide +kernel)
  refine ⟨by decide +kernel, ?_⟩
  refine (kept_evidence_refines
    (run.mono fun _ _ permitted => Bool.and_eq_true_iff.mp permitted) ?_).1
  decide +kernel

/-- A malformed event comes first under an event id. -/
def rejectedFirst : Route :=
  routeSystem.runFrom routeSystem.initial [.put opX, .status (some (storedStatus
        { opX with recipient := "bridge:y" } firstEvent)) ⟨10, ""⟩ {},
      .status (some (storedStatus opX firstEvent)) ⟨20, ""⟩ {}]

/-- Another operation's event comes first under it. -/
def otherFirst : Route :=
  routeSystem.runFrom routeSystem.initial [.put opX, .put opY,
      .status (some (storedStatus opY firstEvent)) ⟨10, ""⟩ {},
      .status (some (storedStatus opX firstEvent)) ⟨20, ""⟩ {}]

/-- Either way the completion is not kept. -/
theorem first_copy_displaces_evidence :
    (routeSystem.Reaches (fun _ action => eventsKept action = true)
        routeSystem.initial rejectedFirst ∧
      (keptProjection rejectedFirst.db opX.opID).state = "pending" ∧
      (reduce opX.toOperation (rejectedFirst.receivedFor opX.opID)).state = "completed") ∧
    routeSystem.Reaches (fun _ action => eventsKept action = true) routeSystem.initial otherFirst ∧
      (keptProjection otherFirst.db opX.opID).state = "pending" ∧
      (reduce opX.toOperation (otherFirst.receivedFor opX.opID)).state = "completed" :=
  ⟨⟨.of_guarded_runFrom (by decide +kernel), by decide +kernel, by decide +kernel⟩,
    .of_guarded_runFrom (by decide +kernel), by decide +kernel, by decide +kernel⟩

end MeshSat.Hub
