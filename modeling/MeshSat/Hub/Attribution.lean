import MeshSat.Hub.Route

/-!
# Receipts and the events they are made of

A valid row was kept of an event that names its operation. A receipt is made from the row under a
status's event id, which is another operation's when that one's event came first. Where the row is
the status's own, every receipt is that of an event or a refusal received for its operation.
-/

variable {isValid : Bool}

namespace MeshSat.Hub

open Library TransitionSystem List OpsDB Table

/-! ## What a step leaves alone -/

/-- What a kept event says, whether or not the ledger has it. -/
def KeptEvent.evidence (row : KeptEvent) : KeptEvent :=
  { row with appliedAt := none }

def OpsDB.rows (db : OpsDB) : List KeptEvent := db.events.entries.map KeptEvent.evidence

def OpsDB.operation? (db : OpsDB) (opID : String) : Option Operation :=
  (db.getHubOp opID).map HubOp.toOperation

lemma OpsDB.opID_of_operation? {db : OpsDB} {opID : String} {op : Operation}
    (found : db.operation? opID = some op) : op.opID = opID := by
  obtain ⟨row, kept, rfl⟩ := Option.map_eq_some_iff.mp found
  have named : row.key = opID := key_of_get? kept
  exact named

structure OpsDB.Same (db next : OpsDB) : Prop where
  rows : next.rows = db.rows
  operations : next.operation? = db.operation?
  used : next.ops.used = db.ops.used

namespace OpsDB.Same

lemma refl (db : OpsDB) : db.Same db := ⟨rfl, rfl, rfl⟩

lemma trans {db middle next : OpsDB} (first : db.Same middle)
    (second : middle.Same next) : db.Same next where
  rows := second.rows.trans first.rows
  operations := second.operations.trans first.operations
  used := second.used.trans first.used

lemma of_ops {db : OpsDB} {selected : HubOp → Bool} {change : HubOp → HubOp}
    {keeps : ∀ op, (change op).key = op.key} {missing : Keyed MissingEvent.key}
    (same : ∀ op, (change op).toOperation = op.toOperation) :
    db.Same { db with
      ops := db.ops.updateWhere selected change keeps, missing } where
  rows := rfl
  operations := by
    funext opID
    simp only [operation?, getHubOp, get?_updateWhere, Option.map_map]
    congr 1
    funext op
    simp only [Function.comp_apply]
    split
    · exact same op
    · rfl
  used := rfl

lemma mark (db : OpsDB) (eventID : String) (now : Int64) :
    db.Same (db.markHubOpEventApplied eventID now) where
  rows := by
    simp only [OpsDB.rows, markHubOpEventApplied, Keyed.updateWhere, map_map]
    apply map_congr_left
    intro row _
    simp only [Function.comp_apply]
    split
    · rfl
    · rfl
  operations := rfl
  used := rfl

lemma want (db : OpsDB) (opID eventID : String) (now : Int64) :
    db.Same (db.wantHubOpReplay opID eventID now) :=
  .of_ops fun _ => rfl

lemma resolveMissing (db : OpsDB) (opID eventID : String) :
    db.Same (db.resolveHubOpMissing opID eventID) :=
  .of_ops fun _ => rfl

lemma resolveCompleted (db : OpsDB) (opID : String) : db.Same (db.resolveCompletedHubOp opID) :=
  .of_ops fun _ => rfl

end OpsDB.Same

/-- Only the bookkeeping and what was handed over may differ. -/
structure Route.Quiet (r next : Route) : Prop where
  db : r.db.Same next.db
  published : next.published = r.published
  received : next.received = r.received
  refusals : next.refusals = r.refusals

namespace Route

lemma Quiet.refl (r : Route) : r.Quiet r := ⟨.refl _, rfl, rfl, rfl⟩

variable {r next : Route} {db : OpsDB} {row : KeptEvent} {op : Operation} {e : Event} {now : Int64}

lemma Quiet.trans {middle : Route} (first : r.Quiet middle)
    (second : middle.Quiet next) : r.Quiet next where
  db := first.db.trans second.db
  published := second.published.trans first.published
  received := second.received.trans first.received
  refusals := second.refusals.trans first.refusals

lemma oweReplay_quiet (r : Route) (opID eventID : String) (clock : Clock) (faults : Faults) :
    r.Quiet (r.oweReplay opID eventID clock faults) ∧
    (r.oweReplay opID eventID clock faults).handed = r.handed := by
  unfold oweReplay
  split
  · exact ⟨⟨.refl _, rfl, rfl, rfl⟩, rfl⟩
  · exact ⟨⟨.want _ _ _ _, rfl, rfl, rfl⟩, rfl⟩

lemma resolve_quiet (r : Route) (opID : String) (kept : KeptEvent) (faults : Faults) :
    r.Quiet (r.resolve opID kept faults) ∧ (r.resolve opID kept faults).handed = r.handed := by
  refine ⟨⟨?_, rfl, rfl, rfl⟩, rfl⟩
  simp only [resolve]
  split
  · exact .refl _
  split
  · exact .resolveCompleted _ _
  · exact .resolveMissing _ _ _

lemma apply_quiet (r : Route) (op : Operation) (e : Event) (clock : Clock) (faults : Faults) :
    r.Quiet (r.apply op e clock faults) ∧ ∀ receipt ∈ (r.apply op e clock faults).handed,
    receipt ∈ r.handed ∨ receipt = receiptFor op e := by
  have handed (receipt : IntentReceipt) (member : receipt ∈ receiptFor op e :: r.handed) :
      receipt ∈ r.handed ∨ receipt = receiptFor op e :=
    (mem_cons.mp member).symm
  unfold apply
  cases faults.sink with
  | unset => exact ⟨.refl _, fun receipt member => .inl member⟩
  | fails => exact ⟨⟨.refl _, rfl, rfl, rfl⟩, handed⟩
  | takes =>
    refine ⟨⟨?_, rfl, rfl, rfl⟩, handed⟩
    dsimp only
    split
    · exact .refl _
    · exact .mark _ _ _

/-! ## What a step does -/

section
variable (r : Route) (e : Event) (valid : Bool) (now : Int64)

def keptRow : KeptEvent := (r.db.events.get? e.eventID).getD (e.row valid now)

lemma addHubOpEvent_fst : (r.db.addHubOpEvent e valid now).1 = r.keptRow e valid now := by
  have named : e.eventID = (e.row valid now).eventID := rfl
  simp [addHubOpEvent, keptRow, Keyed.get?_insertOrIgnore, ← named]

end

lemma keptRow_congr (same : next.db = r.db) : next.keptRow = r.keptRow := by
  unfold keptRow
  rw [same]

section
variable (r : Route) (e : Event) (valid : Bool) (now : Int64)

/-- An event is kept, unless one is kept under its id. -/
def withRow : Route :=
  { r with db := (r.db.addHubOpEvent e valid now).2 }

lemma keptRow_mem : r.keptRow e valid now ∈ (r.withRow e valid now).db.events := by
  apply Keyed.mem_insertOrIgnore.mpr
  unfold keptRow
  cases found : r.db.events.get? e.eventID with
  | none => exact .inr ⟨found, rfl⟩
  | some row => exact .inl (Keyed.mem_of_get? found)

end

section
variable (r : Route) (op : Operation) (e : Event) (valid : Bool) (clock : Clock)

/-- The event is kept, and what it ends is ended. -/
def resolved (faults : Faults) : Route :=
  (r.withRow e valid clock.ms).resolve op.opID (r.keptRow e valid clock.ms) faults

lemma keep_spec (succeeds : faults.keep = false) :
    (r.withRow e valid clock.ms).Quiet (r.keep op e valid clock faults) ∧
    ∀ receipt ∈ (r.keep op e valid clock faults).handed, receipt ∈ r.handed ∨
    (r.keptRow e valid clock.ms).valid = true ∧ (r.keptRow e valid clock.ms).appliedAt = none ∧
    receipt = receiptFor op (r.keptRow e valid clock.ms).event := by
  have kept : r.keep op e valid clock faults =
      if !(r.keptRow e valid clock.ms).valid then
        r.resolved op e valid clock faults
      else if (r.keptRow e valid clock.ms).appliedAt.isSome then
        r.resolved op e valid clock faults
      else (r.resolved op e valid clock faults).apply op
        (r.keptRow e valid clock.ms).event clock faults := by
    simp only [keep, succeeds, Bool.false_eq_true, if_false, addHubOpEvent_fst]
    rfl
  obtain ⟨resolved, handed⟩ := (r.withRow e valid clock.ms).resolve_quiet
    op.opID (r.keptRow e valid clock.ms) faults
  rw [kept]
  split
  · exact ⟨resolved, fun receipt member => .inl (handed ▸ member)⟩
  next isValid =>
  split
  · exact ⟨resolved, fun receipt member => .inl (handed ▸ member)⟩
  next unapplied =>
  obtain ⟨applied, receipts⟩ :=
    (r.resolved op e valid clock faults).apply_quiet op
      (r.keptRow e valid clock.ms).event clock faults
  refine ⟨resolved.trans applied, fun receipt member => ?_⟩
  rcases receipts receipt member with old | new
  · exact .inl (handed ▸ old)
  · exact .inr ⟨by simpa using isValid, by simpa using unapplied, new⟩

end

/-- Everything a status can do. -/
inductive Handled (r : Route) (payload : Option StatusMessage) (clock : Clock)
    (faults : Faults) : Route → Prop where
  | ignored {next : Route} : r.Quiet next → next.handed = r.handed →
      (∀ status, parseStatus payload = some status → faults.read = false →
        ∀ op, r.db.operation? status.opID = some op → status.kept op clock.text = none) →
      Handled r payload clock faults next
  | lost (status : Status) {next : Route} : faults.keep = true →
      (r.record status).Quiet next → next.handed = r.handed → Handled r payload clock faults next
  | kept (status : Status) (op : Operation) (e : Event) (valid : Bool)
      {next : Route} : parseStatus payload = some status → r.db.operation? status.opID = some op →
      status.kept op clock.text = some (e, valid) →
      ((r.record status).withRow e valid clock.ms).Quiet next →
      (∀ receipt ∈ next.handed, receipt ∈ r.handed ∨ (r.keptRow e valid clock.ms).valid = true ∧
        (r.keptRow e valid clock.ms).appliedAt = none ∧
        receipt = receiptFor op (r.keptRow e valid clock.ms).event) →
      Handled r payload clock faults next

lemma record_db (r : Route) (status : Status) : (r.record status).db = r.db ∧
    (r.record status).handed = r.handed ∧ (r.record status).published = r.published := by
  cases status with
  | event ev => exact ⟨rfl, rfl, rfl⟩
  | refusal ref => exact ⟨rfl, rfl, rfl⟩

lemma handleStatus_cases (r : Route) (payload : Option StatusMessage) (clock : Clock)
    (faults : Faults) : r.Handled payload clock faults (r.handleStatus payload clock faults) := by
  unfold handleStatus
  cases parsed : parseStatus payload with
  | none =>
    refine .ignored (.refl r) rfl fun status same => ?_
    cases parsed.symm.trans same
  | some status =>
    dsimp only
    split
    next unread =>
      obtain ⟨quiet, handed⟩ := r.oweReplay_quiet status.opID status.eventID clock faults
      exact .ignored quiet handed fun _ _ read =>
        absurd (unread.symm.trans read) (by decide)
    next =>
    cases found : r.db.getHubOp status.opID with
    | none =>
      refine .ignored (.refl r) rfl fun other same _ op kept => ?_
      cases Option.some.inj (parsed.symm.trans same)
      simp [operation?, found] at kept
    | some row =>
      have operation : r.db.operation? status.opID = some row.toOperation := by
        rw [operation?, found]
        rfl
      dsimp only
      cases kept : status.kept row.toOperation clock.text with
      | none =>
        refine .ignored (.refl r) rfl fun other same _ op named => ?_
        cases Option.some.inj (parsed.symm.trans same)
        cases Option.some.inj (operation.symm.trans named)
        exact kept
      | some event =>
        obtain ⟨e, valid⟩ := event
        obtain ⟨sameDB, sameHanded, _⟩ := r.record_db status
        cases fails : faults.keep with
        | true =>
          obtain ⟨quiet, handed⟩ := (r.record status).oweReplay_quiet
            row.opID e.eventID clock faults
          simp only [keep, fails, if_true]
          exact .lost status fails quiet (handed.trans sameHanded)
        | false =>
          obtain ⟨quiet, handed⟩ := (r.record status).keep_spec row.toOperation e valid clock fails
          simp only [sameHanded, keptRow, sameDB] at handed
          exact .kept status row.toOperation e valid parsed operation kept quiet handed

lemma mem_pendingHubOpEvents (pending : row ∈ db.pendingHubOpEvents limit) :
    row ∈ db.events ∧ row.valid = true := by
  have sorted := mem_of_mem_take pending
  rw [mem_insertionSort, mem_filter, Bool.and_eq_true, Bool.and_eq_true] at sorted
  exact ⟨sorted.1, sorted.2.1.2⟩

section
variable (r : Route) (clock : Clock) (faults : String → Faults)

lemma applyKept_spec (row : KeptEvent) : r.Quiet (r.applyKept clock faults row) ∧
    ∀ receipt ∈ (r.applyKept clock faults row).handed, receipt ∈ r.handed ∨ ∃ op,
    r.db.operation? row.opID = some op ∧ receipt = receiptFor op row.event := by
  unfold applyKept
  split
  · exact ⟨.refl r, fun receipt member => .inl member⟩
  cases found : r.db.getHubOp row.opID with
  | none => exact ⟨.refl r, fun receipt member => .inl member⟩
  | some op =>
    obtain ⟨quiet, receipts⟩ := r.apply_quiet op.toOperation row.event clock (faults row.eventID)
    refine ⟨quiet, fun receipt member => ?_⟩
    refine (receipts receipt member).imp_right fun new => ?_
    exact ⟨op.toOperation, by rw [operation?, found]; rfl, new⟩

lemma applyPending_spec : r.Quiet (r.applyPending clock faults) ∧
    ∀ receipt ∈ (r.applyPending clock faults).handed, receipt ∈ r.handed ∨ ∃ row ∈ r.db.events,
    row.valid = true ∧ ∃ op, r.db.operation? row.opID = some op ∧
    receipt = receiptFor op row.event := by
  unfold applyPending
  have listed : ∀ row ∈ r.db.pendingHubOpEvents 100, row ∈ r.db.events ∧ row.valid = true :=
    fun row pending => mem_pendingHubOpEvents pending
  generalize r.db.pendingHubOpEvents 100 = pending at listed
  -- The induction is on the rows applied so far.
  induction pending using List.reverseRecOn with
  | nil => exact ⟨.refl r, fun receipt member => .inl member⟩
  | append_singleton rows row induction =>
    obtain ⟨quiet, receipts⟩ := induction fun row member =>
      listed row (mem_append_left _ member)
    obtain ⟨member, isValid⟩ := listed row (mem_append_right _ mem_cons_self)
    rw [foldl_append]
    obtain ⟨lastQuiet, lastReceipts⟩ :=
      (rows.foldl (applyKept clock faults) r).applyKept_spec clock faults row
    refine ⟨quiet.trans lastQuiet, fun receipt given => ?_⟩
    rcases lastReceipts receipt given with old | ⟨op, found, new⟩
    · exact receipts receipt old
    rw [quiet.db.operations] at found
    exact .inr ⟨row, member, isValid, op, found, new⟩

end

/-! ## Where receipts come from -/

def Attributed (r : Route) (op : Operation) (receipt : IntentReceipt) : Prop :=
  (∃ ev ∈ r.received, valid op ev.onStatusTopic = true ∧ receipt = receiptFor op ev) ∨
  ∃ ref ∈ r.refusals, ref.opID = op.opID ∧ ref.mid = op.mid ∧
    receipt = receiptFor op (refusalEvent op ref "")

structure Sound (r : Route) : Prop where
  operations : ∀ opID op, r.db.operation? opID = some op → op ∈ r.published
  unique : ∀ op ∈ r.published, ∀ other ∈ r.published, other.opID = op.opID → other = op
  used : ∀ op ∈ r.published, op.opID ∈ r.db.ops.used
  rows : ∀ row ∈ r.db.rows, row.valid = true → ∃ op ∈ r.published, op.opID = row.opID ∧
      r.Attributed op (receiptFor op row.event)
  handed : ∀ receipt ∈ r.handed, ∃ op ∈ r.published, r.Attributed op receipt

section
variable {receipt : IntentReceipt} (attributed : r.Attributed op receipt)

include attributed

lemma Attributed.later (received : ∀ ev ∈ r.received, ev ∈ next.received)
    (refusals : ∀ ref ∈ r.refusals, ref ∈ next.refusals) :
    next.Attributed op receipt := by
  rcases attributed with ⟨ev, member, rest⟩ | ⟨ref, member, rest⟩
  · exact .inl ⟨ev, received ev member, rest⟩
  · exact .inr ⟨ref, refusals ref member, rest⟩

lemma Attributed.record (status : Status) : (r.record status).Attributed op receipt := by
  cases status with
  | event ev =>
    exact attributed.later (fun _ member => mem_append_left _ member) fun _ member => member
  | refusal ref =>
    exact attributed.later (fun _ member => member) fun _ member => mem_append_left _ member

end

lemma Sound.record (sound : r.Sound) (status : Status) : (r.record status).Sound := by
  obtain ⟨db, handed, published⟩ := r.record_db status
  constructor
  · rw [db, published]
    exact sound.operations
  · rw [published]
    exact sound.unique
  · rw [db, published]
    exact sound.used
  · rw [db, published]
    intro row member isValid
    obtain ⟨op, kept, named, attributed⟩ := sound.rows row member isValid
    exact ⟨op, kept, named, attributed.record status⟩
  rw [handed, published]
  intro receipt member
  obtain ⟨op, kept, attributed⟩ := sound.handed receipt member
  exact ⟨op, kept, attributed.record status⟩

lemma Sound.quiet (sound : r.Sound) (quiet : r.Quiet next)
    (handed : ∀ receipt ∈ next.handed, ∃ op ∈ r.published, r.Attributed op receipt) :
    next.Sound := by
  have attributed {op : Operation} {receipt : IntentReceipt}
      (before : r.Attributed op receipt) : next.Attributed op receipt :=
    before.later (fun _ member => quiet.received ▸ member) fun _ member => quiet.refusals ▸ member
  constructor
  · rw [quiet.db.operations, quiet.published]
    exact sound.operations
  · rw [quiet.published]
    exact sound.unique
  · rw [quiet.db.used, quiet.published]
    exact sound.used
  · rw [quiet.db.rows, quiet.published]
    intro row member isValid
    obtain ⟨op, kept, named, before⟩ := sound.rows row member isValid
    exact ⟨op, kept, named, attributed before⟩
  rw [quiet.published]
  intro receipt member
  obtain ⟨op, kept, before⟩ := handed receipt member
  exact ⟨op, kept, attributed before⟩

lemma Sound.receipt (sound : r.Sound) (member : row ∈ r.db.events)
    (isValid : row.valid = true) (found : r.db.operation? row.opID = some op) :
    op ∈ r.published ∧ r.Attributed op (receiptFor op row.event) := by
  obtain ⟨kept, published, named, attributed⟩ :=
    sound.rows row.evidence (mem_map_of_mem member) isValid
  have operation := sound.operations _ _ found
  cases sound.unique kept published op operation ((opID_of_operation? found).trans named.symm)
  exact ⟨operation, attributed⟩

lemma mem_rows_withRow {valid : Bool} (member : row ∈ (r.withRow e valid now).db.rows) :
    row ∈ r.db.rows ∨ r.db.events.get? e.eventID = none ∧ row = e.row valid now := by
  obtain ⟨kept, listed, rfl⟩ := mem_map.mp member
  rcases Keyed.mem_insertOrIgnore.mp listed with old | ⟨new, rfl⟩
  · exact .inl (mem_map_of_mem old)
  · exact .inr ⟨new, rfl⟩

lemma Sound.withRow (sound : r.Sound) {valid : Bool}
    (stands : valid = true → ∃ op ∈ r.published, op.opID = e.opID ∧
    r.Attributed op (receiptFor op (e.row valid now).event)) : (r.withRow e valid now).Sound :=
  { sound with
    rows row member isValid := by
      rcases mem_rows_withRow member with old | ⟨_, rfl⟩
      · exact sound.rows row old isValid
      · exact stands isValid }

lemma attributed_kept (r : Route)
    (now : Int64) (named : op.opID = status.opID) (kept : status.kept op text = some (e, isValid)) :
    op.opID = e.opID ∧ (isValid = true → (r.record status).Attributed op
      (receiptFor op (e.row isValid now).event)) := by
  cases status with
  | event ev =>
    cases kept
    refine ⟨named, fun holds => .inl ⟨ev, ?_, holds, rfl⟩⟩
    exact mem_append_right _ mem_cons_self
  | refusal ref =>
    simp only [Status.kept, Option.ite_none_left_eq_some, not_not] at kept
    obtain ⟨sameMid, same⟩ := kept
    cases same
    refine ⟨rfl, fun _ => .inr ⟨ref, ?_, named.symm, sameMid, rfl⟩⟩
    exact mem_append_right _ mem_cons_self

lemma operation?_prune (found : (db.pruneHubOps now).operation? opID = some op) :
    db.operation? opID = some op ∧ db.pruned now opID = false := by
  obtain ⟨row, kept, rfl⟩ := Option.map_eq_some_iff.mp found
  rw [getHubOp, pruneHubOps, get?_deleteWhere, Option.filter_eq_some_iff, Bool.not_eq_true'] at kept
  obtain ⟨found, live⟩ := kept
  refine ⟨Option.map_eq_some_iff.mpr ⟨row, found, rfl⟩, ?_⟩
  refine Bool.eq_false_iff.mpr fun pruned => ?_
  obtain ⟨other, member, gone⟩ := any_eq_true.mp pruned
  rw [Bool.and_eq_true, decide_eq_true_eq] at gone
  have same : other.key = row.key := gone.1.trans (key_of_get? found).symm
  cases db.ops.eq_of_key_eq member (mem_of_get? found) same
  exact Bool.false_ne_true (live.symm.trans gone.2)

lemma Sound.prune (sound : r.Sound) (now : Int64) : Sound { r with db := r.db.pruneHubOps now } :=
  { sound with
    operations opID op found := sound.operations opID op (operation?_prune found).1
    rows row member isValid := by
      obtain ⟨kept, listed, rfl⟩ := mem_map.mp member
      exact sound.rows _ (mem_map_of_mem (Keyed.mem_deleteWhere.mp listed).1) isValid }

lemma putHubOp_eq_some {next : OpsDB} {op : HubOp} (put : db.putHubOp op = some next) :
    op.opID ∉ db.ops.used ∧ next.events = db.events ∧ next.ops.used = op.opID :: db.ops.used ∧
    ∀ opID,
    next.operation? opID = if opID = op.opID then some op.toOperation else db.operation? opID := by
  unfold OpsDB.putHubOp at put
  split at put
  · cases put
  next fresh =>
  cases put
  refine ⟨fresh, rfl, rfl, fun opID => ?_⟩
  simp only [operation?, getHubOp, get?_insert]
  by_cases same : opID = op.opID
  · subst same
    rw [if_pos rfl, if_pos (by rfl)]
    rfl
  · rw [if_neg same, if_neg (by exact same)]

lemma Sound.put (sound : r.Sound) {op : HubOp} (put : r.db.putHubOp op = some db) :
    Sound { r with db, published := r.published ++ [op.toOperation] } := by
  obtain ⟨fresh, events, used, operations⟩ := putHubOp_eq_some put
  have unpublished : ∀ other ∈ r.published, other.opID ≠ op.opID :=
    fun other member same => fresh (same ▸ sound.used other member)
  constructor
  · intro opID other found
    rw [operations] at found
    split at found
    · cases found
      exact mem_append_right _ mem_cons_self
    · exact mem_append_left _ (sound.operations opID other found)
  · intro left leftMember right rightMember same
    rcases mem_append.mp leftMember with leftOld | leftNew
    · rcases mem_append.mp rightMember with rightOld | rightNew
      · exact sound.unique left leftOld right rightOld same
      · cases mem_singleton.mp rightNew
        exact (unpublished left leftOld same.symm).elim
    · cases mem_singleton.mp leftNew
      rcases mem_append.mp rightMember with rightOld | rightNew
      · exact (unpublished right rightOld same).elim
      · exact mem_singleton.mp rightNew
  · intro other member
    rw [used]
    rcases mem_append.mp member with old | new
    · exact mem_cons_of_mem _ (sound.used other old)
    · cases mem_singleton.mp new
      exact mem_cons_self
  · intro row member isValid
    simp only [OpsDB.rows, events] at member
    obtain ⟨other, kept, named, attributed⟩ := sound.rows row member isValid
    exact ⟨other, mem_append_left _ kept, named, attributed⟩
  intro receipt member
  obtain ⟨other, kept, attributed⟩ := sound.handed receipt member
  exact ⟨other, mem_append_left _ kept, attributed⟩

end Route

/-! ## Runs -/

/-- The row kept under the status's event id, if it is to be applied, is of
the status's operation. -/
def keptForItsOperation (r : Route) : RouteAction → Bool
  | .status payload _ _ =>
    (parseStatus payload).all fun status =>
      (r.db.events.get? status.eventID).all fun row =>
        !row.valid || row.appliedAt.isSome || row.opID = status.opID
  | _ => true

variable {e : Event}

lemma Status.eventID_kept {status : Status} {op : Operation} {text : String}
    (named : op.opID = status.opID)
    (kept : status.kept op text = some (e, isValid)) : e.eventID = status.eventID := by
  cases status with
  | event ev =>
    cases kept
    rfl
  | refusal ref =>
    simp only [Status.kept, Option.ite_none_left_eq_some] at kept
    cases kept.2
    exact congrArg (refusalEventID · ref.reason) named

lemma Route.keptRow_opID (permitted : keptForItsOperation r (.status payload clock faults) = true)
    (parsed : parseStatus payload = some status)
    (named : e.eventID = status.eventID) (owner : e.opID = status.opID)
    (rowValid : (r.keptRow e isValid clock.ms).valid = true)
    (unapplied : (r.keptRow e isValid clock.ms).appliedAt = none) :
    (r.keptRow e isValid clock.ms).opID = status.opID := by
  simp only [keptForItsOperation, parsed, Option.all_some] at permitted
  unfold keptRow at *
  rw [named] at *
  cases found : r.db.events.get? status.eventID with
  | none => exact owner
  | some row =>
    rw [found] at permitted rowValid unapplied
    simpa [show row.valid = true from rowValid,
      show row.appliedAt = none from unapplied] using permitted

lemma Route.Sound.status {r next : Route} (sound : r.Sound)
    {payload : Option StatusMessage} {clock : Clock} {faults : Faults}
    (permitted : keptForItsOperation r (.status payload clock faults) = true)
    (handled : r.Handled payload clock faults next) : next.Sound := by
  cases handled with
  | ignored quiet same _ =>
    refine sound.quiet quiet ?_
    rw [same]
    exact sound.handed
  | lost status _ quiet same =>
    refine (sound.record status).quiet quiet ?_
    rw [same, ← (r.record_db status).2.1]
    exact (sound.record status).handed
  | kept status op e isValid parsed found kept quiet receipts =>
    obtain ⟨sameDB, sameHanded, published⟩ := r.record_db status
    have named := opID_of_operation? found
    obtain ⟨sameOp, attributed⟩ := r.attributed_kept clock.ms named kept
    have operation := sound.operations _ _ found
    have withRow : ((r.record status).withRow e isValid clock.ms).Sound :=
      (sound.record status).withRow fun holds =>
        ⟨op, published ▸ operation, sameOp, attributed holds⟩
    refine withRow.quiet quiet fun receipt member => ?_
    rcases receipts receipt member with old | ⟨rowValid, unapplied, rfl⟩
    · rw [← sameHanded] at old
      exact withRow.handed receipt old
    have owner : (r.keptRow e isValid clock.ms).opID = op.opID := by
      rw [named]
      exact keptRow_opID permitted parsed (Status.eventID_kept named kept)
        (sameOp.symm.trans named) rowValid unapplied
    have listed := (r.record status).keptRow_mem e isValid clock.ms
    rw [keptRow_congr sameDB] at listed
    refine ⟨op, withRow.receipt listed rowValid ?_⟩
    rw [owner, named, ← found]
    change (r.record status).db.operation? status.opID = _
    rw [sameDB]

lemma Route.Sound.step {r next : Route} {action : RouteAction}
    (sound : r.Sound) (permitted : keptForItsOperation r action = true)
    (executed : execRoute r action = some next) : next.Sound := by
  cases action with
  | put op =>
    obtain ⟨db, put, same⟩ := Option.bind_eq_some_iff.mp executed
    cases same
    exact sound.put put
  | status payload clock faults =>
    cases executed
    exact sound.status permitted (r.handleStatus_cases payload clock faults)
  | applyPending clock faults =>
    cases executed
    obtain ⟨quiet, receipts⟩ := r.applyPending_spec clock faults
    refine sound.quiet quiet fun receipt member => ?_
    rcases receipts receipt member with
      old | ⟨row, kept, isValid, op, found, rfl⟩
    · exact sound.handed receipt old
    · exact ⟨op, sound.receipt kept isValid found⟩
  | prune now =>
    cases executed
    exact sound.prune now
  | restart =>
    cases executed
    exact sound.quiet ⟨.refl _, rfl, rfl, rfl⟩ sound.handed

lemma Route.Sound.initial : routeSystem.initial.Sound where
  operations _ _ found := by cases found
  unique _ member := by cases member
  used _ member := by cases member
  rows _ member := by cases member
  handed _ member := by cases member

lemma receiptFor_corrValue : (receiptFor op e).corrValue = op.opID := by
  unfold receiptFor
  dsimp only
  split
  · rfl
  split
  · rfl
  split
  · rfl
  · rfl

/-- A receipt is of its own operation.

In every run in which no status comes under the id of an event that is kept
for another operation, is valid there and not applied yet, every receipt
handed to the ledger is that of an event received naming the operation, its
message and its recipient with an allowed kind, class and authority, or that
of a refusal naming the operation and its message. -/
theorem receipts_attributed {r : Route} (run : routeSystem.Reaches
      (fun r action => keptForItsOperation r action = true) routeSystem.initial r) :
    ∀ receipt ∈ r.handed, ∃ op ∈ r.published,
      (∀ other ∈ r.published, other.opID = op.opID → other = op) ∧ receipt.corrValue = op.opID ∧
      ((∃ ev ∈ r.received, valid op ev.onStatusTopic = true ∧ receipt = receiptFor op ev) ∨
        ∃ ref ∈ r.refusals, ref.opID = op.opID ∧ ref.mid = op.mid ∧
          receipt = receiptFor op (refusalEvent op ref "")) := by
  intro receipt member
  have sound : r.Sound := run.preserves
    (fun _ _ _ sound permitted executed => sound.step permitted executed) .initial
  obtain ⟨op, published, attributed⟩ := sound.handed receipt member
  refine ⟨op, published, sound.unique op published, ?_, attributed⟩
  rcases attributed with ⟨ev, _, _, rfl⟩ | ⟨ref, _, _, _, rfl⟩
  · exact receiptFor_corrValue
  · exact receiptFor_corrValue

/-! ## A status under the id of another operation's event -/

def publishedOp (opID mid recipient : String) : HubOp where
  opID
  mid
  recipient
  intentID := mid
  expiresAt := 1000
  createdAt := 0
  submission := "payload"

def opX : HubOp := publishedOp "01920000-0000-7000-8000-000000000001"
  "01920000-0000-7000-8000-00000000000a" "bridge:x"

def opY : HubOp := publishedOp "01920000-0000-7000-8000-000000000002"
  "01920000-0000-7000-8000-00000000000b" "bridge:y"

/-- The recipient stored the message of an operation. -/
def storedStatus (op : HubOp) (eventID : String) : StatusMessage where
  event :=
    { v := 1
      opID := op.opID
      mid := op.mid
      recipient := op.recipient
      eventID
      eventClass := "completed"
      kind := "recipient_app_stored"
      authority := "recipient" }

def forwardedStatus (op : HubOp) (eventID : String) : StatusMessage where
  event :=
    { v := 1
      opID := op.opID
      mid := op.mid
      recipient := op.recipient
      eventID
      eventClass := "forwarded"
      kind := "hub_forwarded"
      authority := "hub" }

/-- The ledger fails on a completion, and takes it in the next pass. -/
theorem receipts_attributed_pending :
    let r := routeSystem.runFrom routeSystem.initial [.put opX, .put opY,
        .status (some (storedStatus opY firstEvent)) ⟨10, ""⟩
          { sink := .fails },
        .restart, .applyPending ⟨20, ""⟩ fun _ => {}]
    r.handed.map IntentReceipt.corrValue = [opY.opID, opY.opID] ∧
      ∀ receipt ∈ r.handed, ∃ op ∈ r.published, receipt.corrValue = op.opID := by
  intro r
  have run : routeSystem.Reaches (fun r action => keptForItsOperation r action = true)
      routeSystem.initial r := .of_guarded_runFrom (by decide +kernel)
  refine ⟨by decide +kernel, fun receipt member => ?_⟩
  obtain ⟨op, published, _, named, _⟩ := receipts_attributed run receipt member
  exact ⟨op, published, named⟩

/-- The completion of one operation waits for the ledger while the Hub
reports on another one under the same event id. -/
def misattributed : Route :=
  routeSystem.runFrom routeSystem.initial [.put opX, .put opY,
      .status (some (storedStatus opY firstEvent)) ⟨10, ""⟩ { sink := .fails },
      .status (some (forwardedStatus opX firstEvent)) ⟨20, ""⟩ {}]

/-- The last receipt completes an operation of which only a forward was
received. -/
theorem receipt_of_another_operation : routeSystem.Reachable misattributed ∧
      misattributed.handed.head?.map (fun receipt =>
        (receipt.corrValue, receipt.event, receipt.completes)) =
        some (opX.opID, "recipient_app_stored", "delivered_app") ∧
      misattributed.received.all (fun ev =>
        ev.opID ≠ opX.opID || ev.eventClass = "forwarded") = true ∧
      misattributed.refusals = [] :=
  ⟨.of_runFrom (by decide +kernel), by decide +kernel, by decide +kernel, by decide +kernel⟩

end MeshSat.Hub
