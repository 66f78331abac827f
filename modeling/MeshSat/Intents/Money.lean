import MeshSat.Intents.NoResend

/-!
# Money

An intent's aggregates are sums over its own transmissions: what is reserved
by the ones still out, what was charged and what may have been charged by the
ones that are done. A reservation is only ever made within the cap, and ends
as a charge, as a possible charge, or released.
-/

namespace MeshSat.Intents

open Library TransitionSystem Table DeliveryIntent DeliveryTransmission

def amountFor (intentID : String) (amount : DeliveryTransmission → Int)
    (t : DeliveryTransmission) : Int :=
  if t.intentID = intentID then amount t else 0

variable {intentID : String} {t later : DeliveryTransmission} {db next : DB}
  {op : Op} {intent : DeliveryIntent} {amount : DeliveryTransmission → Int} {r : TransmissionResult}

lemma amountFor_other (other : t.intentID ≠ intentID) (amount : DeliveryTransmission → Int) :
    amountFor intentID amount t = 0 := by
  simp [amountFor, other]

section
variable (db : DB) (intentID : String) (amount : DeliveryTransmission → Int)

def DB.sumOf : Int := db.transmissions.total (amountFor intentID amount)

lemma DB.sum_transmissionsOf :
    ((db.transmissionsOf intentID).map amount).sum = db.sumOf intentID amount := by
  unfold DB.transmissionsOf DB.sumOf Table.total
  rw [sum_filter_map]
  congr 1
  apply List.map_congr_left
  intro t _
  simp [amountFor]

end

structure Account (t : DeliveryTransmission) : Prop where
  reserved : 0 ≤ t.reservedMinor
  charged : 0 ≤ t.chargedMinor
  possible : 0 ≤ t.possibleMinor
  done : t.state = .done → t.reservedMinor = 0
  pending : t.state ≠ .done → t.chargedMinor = 0 ∧ t.possibleMinor = 0

structure Books (db : DB) (intentID : String) (intent : DeliveryIntent) : Prop where
  reserved : intent.reservedMinor = db.sumOf intentID reservedMinor
  incurred : intent.incurredMinor = db.sumOf intentID chargedMinor
  possible : intent.possibleMinor = db.sumOf intentID possibleMinor

structure Balanced (db : DB) : Prop where
  accounts : ∀ txID t, db.transmissions.get? txID = some t → Account t
  books : ∀ intentID intent, db.intents.get? intentID = some intent → Books db intentID intent

lemma Balanced.empty : Balanced .empty := by
  constructor
  · intro txID t found
    cases found
  intro intentID intent found
  cases found

/-! ## Transactions that move no money -/

/-- The transmission's amounts stay, and it is done when it was. -/
structure SameAmounts (t later : DeliveryTransmission) : Prop where
  intentID : later.intentID = t.intentID
  reserved : later.reservedMinor = t.reservedMinor
  charged : later.chargedMinor = t.chargedMinor
  possible : later.possibleMinor = t.possibleMinor
  done : later.state = .done ↔ t.state = .done

lemma SameAmounts.refl (t : DeliveryTransmission) : SameAmounts t t := ⟨rfl, rfl, rfl, rfl, Iff.rfl⟩

lemma QuietTransmission.sameAmounts (quiet : QuietTransmission t later) : SameAmounts t later := by
  rw [quiet]
  exact ⟨rfl, rfl, rfl, rfl, Iff.rfl⟩

lemma SameAmounts.account (same : SameAmounts t later) (account : Account t) : Account later := by
  refine ⟨?_, ?_, ?_, ?_, ?_⟩
  · rw [same.reserved]
    exact account.reserved
  · rw [same.charged]
    exact account.charged
  · rw [same.possible]
    exact account.possible
  · rw [same.done, same.reserved]
    exact account.done
  rw [ne_eq, same.done, same.charged, same.possible]
  exact account.pending

def AmountsKept (db next : DB) : Prop :=
  db.transmissions.Step SameAmounts Table.nothing
    (fun t => db.Pruned next t.intentID) next.transmissions

lemma AmountsKept.of_eq (same : next.transmissions = db.transmissions) : AmountsKept db next := by
  unfold AmountsKept
  rw [same]
  exact .refl _ SameAmounts.refl

lemma Op.amountsKept (pays : op.pays = false) (db : DB) : AmountsKept db (op.run db) := by
  by_cases quiet : op.quiet = true
  · exact (Op.transmissionsQuiet quiet db).mono
      (fun _ _ change => change.sameAmounts) (fun _ none => none) fun _ pruned => pruned
  have effect := op.effect db
  generalize op.run db = next at effect ⊢
  cases effect with
  | authorized _ | finalized _ => cases pays
  | handedOff found authorized =>
    refine Table.Step.update ?_ SameAmounts.refl
    intro other otherFound
    rw [found] at otherFound
    cases otherFound
    refine ⟨rfl, rfl, rfl, rfl, ?_⟩
    rw [authorized]
    constructor <;> intro impossible <;> cases impossible
  | reported reported => exact .of_eq reported.transmissions
  | nothing | claimed _ _ | ended _ _ _ | rows _ => exact .of_eq rfl
  | created _ | evaluated _ | cancelled _ | reviewed _ | proofExpected
  | clock | pruned => exact (quiet rfl).elim

lemma IntentWrite.money {later : DeliveryIntent} (written : IntentWrite intent later) :
    later.reservedMinor = intent.reservedMinor ∧ later.incurredMinor = intent.incurredMinor ∧
    later.possibleMinor = intent.possibleMinor := by
  cases written with
  | same | dirty | clean | noted _ | elapsed _ | applied _ _ _ _ _ => exact ⟨rfl, rfl, rfl⟩
  | reviewed best dup upgrades => cases upgrades <;> exact ⟨rfl, rfl, rfl⟩

lemma NewIntentRow.money (new : NewIntentRow op intent) :
    intent.reservedMinor = 0 ∧ intent.incurredMinor = 0 ∧ intent.possibleMinor = 0 := by
  obtain ⟨_, _, _, _, _, rfl⟩ := new
  exact ⟨rfl, rfl, rfl⟩

/-- A sum over an intent that is kept only changes with its own
transmissions. -/
lemma AmountsKept.sumOf (kept : AmountsKept db next)
    (found : next.intents.get? intentID = some intent)
    (same : ∀ t later, SameAmounts t later → amount later = amount t) :
    next.sumOf intentID amount = db.sumOf intentID amount := by
  refine Table.Step.total kept ?_ (fun _ none => none.elim) ?_
  · intro t later change
    simp only [amountFor, change.intentID, same t later change]
  intro t pruned
  apply amountFor_other
  intro named
  rw [← named, pruned.2] at found
  cases found

lemma AmountsKept.sumOf_new (kept : AmountsKept db next) (attempts : Attempts db)
    (known : db.Known) (new : intentID ∉ db.intents.used) (amount : DeliveryTransmission → Int) :
    next.sumOf intentID amount = 0 := by
  apply total_eq_zero
  intro later member
  apply amountFor_other
  rintro rfl
  rcases kept.backward later.id later (get?_of_mem member) with
    ⟨t, found, change⟩ | ⟨_, none⟩
  · obtain ⟨row, rowFound, agrees⟩ := attempts.owned later.id t found
    apply new
    rw [change.intentID]
    exact known _ row _ rowFound agrees.owner
  · exact none.elim

lemma Balanced.of_kept (balanced : Balanced db) (attempts : Attempts db)
    (known : db.Known) (pays : op.pays = false) : Balanced (op.run db) := by
  have kept := Op.amountsKept pays db
  refine ⟨?_, ?_⟩
  · intro txID later found
    rcases kept.backward txID later found with ⟨t, old, change⟩ | ⟨_, none⟩
    · exact change.account (balanced.accounts txID t old)
    · exact none.elim
  intro intentID later found
  rcases (Op.intentsWritten _ pays).backward intentID later found with
    ⟨intent, old, written⟩ | ⟨unused, new⟩
  · obtain ⟨reserved, incurred, possible⟩ := written.money
    have books := balanced.books intentID intent old
    refine ⟨?_, ?_, ?_⟩
    · rw [reserved, books.reserved]
      exact (kept.sumOf found fun _ _ same => same.reserved).symm
    · rw [incurred, books.incurred]
      exact (kept.sumOf found fun _ _ same => same.charged).symm
    rw [possible, books.possible]
    exact (kept.sumOf found fun _ _ same => same.possible).symm
  obtain ⟨reserved, incurred, possible⟩ := new.money
  have none := kept.sumOf_new attempts known unused
  exact ⟨reserved.trans (none _).symm, incurred.trans (none _).symm, possible.trans (none _).symm⟩

/-! ## Reserving and settling -/

lemma Balanced.authorize (balanced : Balanced db) (attemptID gen : Nat) (unitKind : String)
    (units minor : Int) : Balanced ((Op.authorize attemptID gen unitKind units minor).run db) := by
  change Balanced (authorizeTransmission attemptID gen unitKind units minor db).2
  rcases authorize_cases attemptID gen unitKind units minor db with
    ⟨error, unchanged⟩ | ⟨row, owner, next, answer, granted⟩
  · rw [unchanged]
    exact balanced
  rw [answer, granted.written]
  refine ⟨?_, ?_⟩
  · intro txID t found
    dsimp only at found
    rw [get?_insertNext] at found
    split at found
    · cases found
      refine ⟨granted.nonneg, Int.le_refl 0, Int.le_refl 0, ?_, fun _ => ⟨rfl, rfl⟩⟩
      intro impossible
      cases impossible
    · exact balanced.accounts txID t found
  intro intentID later found
  have sums (amount : DeliveryTransmission → Int) : DB.sumOf { db with
        intents := db.intents.update owner (reserveMinor minor) (reserveMinor_id minor)
        transmissions := db.transmissions.insertNext
          (newTransmission attemptID owner gen unitKind units minor) }
        intentID amount = db.sumOf intentID amount + amountFor intentID amount
        (newTransmission attemptID owner gen unitKind units minor db.transmissions.nextKey) :=
    total_insertNext _ _ (fun _ => rfl) _
  dsimp only at found
  rw [get?_update] at found
  split at found
  next same =>
    subst same
    obtain ⟨intent, old, rfl⟩ := Option.map_eq_some_iff.mp found
    have books := balanced.books intentID intent old
    refine ⟨?_, ?_, ?_⟩
    · rw [sums, ← books.reserved]
      simp [amountFor, newTransmission, reserveMinor]
    · rw [sums, ← books.incurred]
      simp [amountFor, newTransmission, reserveMinor]
    rw [sums, ← books.possible]
    simp [amountFor, newTransmission, reserveMinor]
  rename_i different
  have books := balanced.books intentID later found
  have nothing (amount : DeliveryTransmission → Int) :
      amountFor intentID amount (newTransmission attemptID owner gen
        unitKind units minor db.transmissions.nextKey) = 0 :=
    amountFor_other (Ne.symm different) amount
  refine ⟨?_, ?_, ?_⟩
  · rw [sums, nothing, add_zero]
    exact books.reserved
  · rw [sums, nothing, add_zero]
    exact books.incurred
  rw [sums, nothing, add_zero]
  exact books.possible

lemma possible_nonneg (r : TransmissionResult) (reserved : Int) : 0 ≤ r.possible reserved := by
  unfold TransmissionResult.possible
  split
  · exact Int.le_refl 0
  split
  next kept =>
    simp only [Bool.and_eq_true, decide_eq_true_eq] at kept
    omega
  · exact Int.le_refl 0

lemma Balanced.of_finalized (balanced : Balanced db)
    (finalized : Finalized txID r now db t next) : Balanced next := by
  have account := balanced.accounts txID t finalized.found
  refine ⟨?_, ?_⟩
  · intro id later found
    rw [finalized.transmissions, get?_update] at found
    split at found
    next same =>
      subst same
      rw [finalized.found] at found
      cases found
      exact ⟨Int.le_refl 0, finalized.charged, possible_nonneg _ _,
        fun _ => rfl, fun pending => (pending rfl).elim⟩
    · exact balanced.accounts id later found
  intro intentID later found
  have sums (amount : DeliveryTransmission → Int) :
      next.sumOf intentID amount = db.sumOf intentID amount -
        amountFor intentID amount t + amountFor intentID amount
          (finishTransmission r t.reservedMinor t.corr now t) := by
    unfold DB.sumOf
    rw [finalized.transmissions]
    exact total_update finalized.found _ _ _
  rw [finalized.intents, get?_update] at found
  split at found
  next same =>
    subst same
    obtain ⟨intent, old, rfl⟩ := Option.map_eq_some_iff.mp found
    have books := balanced.books _ intent old
    obtain ⟨notCharged, notPossible⟩ := account.pending finalized.pending
    refine ⟨?_, ?_, ?_⟩
    · rw [sums, ← books.reserved]
      simp [amountFor, finishTransmission, settleIntent, settleReservation, setDirty]
    · rw [sums, ← books.incurred]
      simp [amountFor, finishTransmission, settleIntent, settleReservation, setDirty, notCharged]
    rw [sums, ← books.possible]
    simp [amountFor, finishTransmission, settleIntent, settleReservation, setDirty, notPossible]
  rename_i different
  have books := balanced.books intentID later found
  have nothing (amount : DeliveryTransmission → Int) :
      next.sumOf intentID amount = db.sumOf intentID amount := by
    have other : (finishTransmission r t.reservedMinor t.corr now
        t).intentID ≠ intentID := Ne.symm different
    rw [sums, amountFor_other other, amountFor_other (Ne.symm different)]
    omega
  exact ⟨books.reserved.trans (nothing _).symm, books.incurred.trans (nothing _).symm,
    books.possible.trans (nothing _).symm⟩

lemma Balanced.finalize (balanced : Balanced db) (txID : Nat) (r : TransmissionResult)
    (now : Int) : Balanced ((Op.finalize txID r now).run db) := by
  change Balanced (finalizeTransmission txID r now db).2
  rcases finalize_cases txID r now db with
    ⟨error, unchanged⟩ | ⟨t, next, answer, finalized⟩
  · rw [unchanged]
    exact balanced
  rw [answer]
  exact balanced.of_finalized finalized

lemma Balanced.step (balanced : Balanced db) (attempts : Attempts db)
    (known : db.Known) (enabled : op.Enabled db) : Balanced (op.run db) := by
  cases pays : op.pays with
  | false => exact balanced.of_kept attempts known pays
  | true =>
    cases op with
    | authorize attemptID gen unitKind units minor =>
      exact balanced.authorize attemptID gen unitKind units minor
    | finalize txID r now => exact balanced.finalize txID r now
    | _ => cases pays

/-- What every ledger keeps, whatever transactions it made. -/
structure Sound (db : DB) : Prop where
  attempts : Attempts db
  known : db.Known
  balanced : Balanced db

lemma Sound.empty : Sound .empty := ⟨.empty, .empty, .empty⟩

lemma Sound.step (sound : Sound db) (enabled : op.Enabled db) : Sound (op.run db) where
  attempts := sound.attempts.step op enabled
  known := sound.known.step enabled
  balanced := sound.balanced.step sound.attempts sound.known enabled

lemma LedgerRun.sound (run : LedgerRun condition .empty finish) : Sound finish :=
  run.preserves Sound (fun _ _ sound enabled _ => sound.step enabled) .empty

variable {s : State}

lemma reachable_sound (reachable : system.Reachable s) : Sound s.db :=
  (reachable_refines reachable).sound

lemma sum_done (pending : ∀ t ∈ db.transmissions, t.state ≠ .done → amount t = 0) :
    (((db.transmissionsOf intentID).filter fun t => t.state = .done).map
        amount).sum = db.sumOf intentID amount := by
  rw [← DB.sum_transmissionsOf, sum_filter_map]
  congr 1
  apply List.map_congr_left
  intro t member
  by_cases done : t.state = .done
  · simp [done]
  · simp [done, pending t (List.mem_of_mem_filter member) done]

/-- The money ledger is conserved: in every reachable state the aggregates of
every kept intent are the sums over its transmissions, only transmissions
that are not done have a reservation, and nothing is negative. -/
theorem money_conserved (reachable : system.Reachable s)
    {intentID : String} {intent : DeliveryIntent}
    (kept : s.db.intents.get? intentID = some intent) :
    intent.reservedMinor = ((s.db.transmissionsOf intentID).map
        DeliveryTransmission.reservedMinor).sum ∧
      (∀ t ∈ s.db.transmissionsOf intentID, t.reservedMinor ≠ 0 → t.state ≠ .done) ∧
      intent.incurredMinor = (((s.db.transmissionsOf intentID).filter fun t => t.state = .done).map
          chargedMinor).sum ∧
      intent.possibleMinor = (((s.db.transmissionsOf intentID).filter fun t => t.state = .done).map
          DeliveryTransmission.possibleMinor).sum ∧
      0 ≤ intent.reservedMinor ∧ 0 ≤ intent.incurredMinor ∧ 0 ≤ intent.possibleMinor ∧
      ∀ t ∈ s.db.transmissionsOf intentID, 0 ≤ t.reservedMinor ∧
        0 ≤ t.chargedMinor ∧ 0 ≤ t.possibleMinor := by
  have balanced := (reachable_sound reachable).balanced
  have books := balanced.books intentID intent kept
  have account (t : DeliveryTransmission) (member : t ∈ s.db.transmissions) : Account t :=
    balanced.accounts t.id t (get?_of_mem member)
  have own (t : DeliveryTransmission) (member : t ∈ s.db.transmissionsOf intentID) : Account t :=
    account t (List.mem_of_mem_filter member)
  have nonneg {amount : DeliveryTransmission → Int} (each : ∀ t, Account t → 0 ≤ amount t) :
      0 ≤ s.db.sumOf intentID amount := by
    apply total_nonneg
    intro t member
    unfold amountFor
    split
    · exact each t (account t member)
    · exact Int.le_refl 0
  refine ⟨?_, ?_, ?_, ?_, ?_, ?_, ?_, ?_⟩
  · rw [DB.sum_transmissionsOf]
    exact books.reserved
  · intro t member reserved done
    exact reserved ((own t member).done done)
  · rw [sum_done fun t member pending => ((account t member).pending pending).1]
    exact books.incurred
  · rw [sum_done fun t member pending => ((account t member).pending pending).2]
    exact books.possible
  · rw [books.reserved]
    exact nonneg fun t account => account.reserved
  · rw [books.incurred]
    exact nonneg fun t account => account.charged
  · rw [books.possible]
    exact nonneg fun t account => account.possible
  intro t member
  exact ⟨(own t member).reserved, (own t member).charged, (own t member).possible⟩

/-- A message goes out on both routes at once under a cap, and the paid one
is at the adapter. -/
def paidRun : List Action := submitted (twoRoutes .allBearers (some 50)) ++ sendRow 2 1 40

theorem money_conserved_paid :
    ((system.runFrom system.initial paidRun).db.intents.get? "intent").map
        DeliveryIntent.reservedMinor = some 40 ∧
      (((system.runFrom system.initial paidRun).db.transmissionsOf
        "intent").map DeliveryTransmission.reservedMinor).sum = 40 := by
  have reserved : ((system.runFrom system.initial paidRun).db.intents.get?
      "intent").map DeliveryIntent.reservedMinor = some 40 := by decide
  obtain ⟨intent, kept, amount⟩ := Option.map_eq_some_iff.mp reserved
  have conserved := money_conserved (.of_runFrom (by decide)) kept
  exact ⟨reserved, conserved.1.symm.trans amount⟩

/-! ## The cap -/

def chargesWithin (db : DB) : Op → Bool
  | .finalize txID r _ =>
    (db.transmissions.get? txID).all fun t =>
      t.state = .done || r.chargedMinor ≤ t.reservedMinor
  | _ => true

/-- What an intent has spent or may still spend. -/
def DeliveryIntent.committed (intent : DeliveryIntent) : Int :=
  intent.reservedMinor + intent.incurredMinor + intent.possibleMinor

def Capped (db : DB) : Prop :=
  ∀ intentID intent cap, db.intents.get? intentID = some intent →
    intent.capMinor = some cap → 0 ≤ cap → intent.committed ≤ cap

lemma charge_le_reserved (within : r.chargedMinor ≤ reserved) :
    r.chargedMinor + r.possible reserved ≤ reserved := by
  unfold TransmissionResult.possible
  split
  · omega
  · split <;> omega

lemma Capped.authorize (capped : Capped db) (attemptID gen : Nat) (unitKind : String)
    (units minor : Int) : Capped ((Op.authorize attemptID gen unitKind units minor).run db) := by
  change Capped (authorizeTransmission attemptID gen unitKind units minor db).2
  rcases authorize_cases attemptID gen unitKind units minor db with
    ⟨error, unchanged⟩ | ⟨row, owner, next, answer, granted⟩
  · rw [unchanged]
    exact capped
  rw [answer, granted.written]
  intro intentID later cap found isCap nonneg
  dsimp only at found
  rw [get?_update] at found
  split at found
  next same =>
    subst same
    obtain ⟨intent, old, rfl⟩ := Option.map_eq_some_iff.mp found
    have before := capped intentID intent cap old isCap nonneg
    have minorNonneg := granted.nonneg
    simp only [committed, reserveMinor] at before ⊢
    by_cases paid : 0 < minor
    · obtain ⟨other, otherFound, allowed⟩ := granted.allowed paid
      rw [old] at otherFound
      cases otherFound
      have withinCap : intent.capMinor = some cap := isCap
      simp only [allows, withinCap, decide_eq_true_eq] at allowed
      omega
    · omega
  · exact capped intentID later cap found isCap nonneg

lemma Capped.finalize (capped : Capped db)
    (within : chargesWithin db (.finalize txID r now) = true) :
    Capped ((Op.finalize txID r now).run db) := by
  change Capped (finalizeTransmission txID r now db).2
  rcases finalize_cases txID r now db with
    ⟨error, unchanged⟩ | ⟨t, next, answer, finalized⟩
  · rw [unchanged]
    exact capped
  rw [answer]
  intro intentID later cap found isCap nonneg
  dsimp only at found
  rw [finalized.intents, get?_update] at found
  split at found
  · obtain ⟨intent, old, rfl⟩ := Option.map_eq_some_iff.mp found
    have before := capped intentID intent cap old isCap nonneg
    have limited : r.chargedMinor ≤ t.reservedMinor := by
      simpa [chargesWithin, finalized.found, finalized.pending] using within
    have ends := charge_le_reserved limited
    simp only [committed, settleIntent, settleReservation, setDirty] at before ⊢
    omega
  · exact capped intentID later cap found isCap nonneg

lemma Capped.step (capped : Capped db) (enabled : op.Enabled db)
    (within : chargesWithin db op = true) : Capped (op.run db) := by
  cases pays : op.pays with
  | false =>
    intro intentID later cap found isCap nonneg
    rcases (Op.intentsWritten _ pays).backward intentID later found
      with ⟨intent, old, written⟩ | ⟨_, new⟩
    · obtain ⟨reserved, incurred, possible⟩ := written.money
      have before := capped intentID intent cap old (written.step.capMinor ▸ isCap) nonneg
      simp only [committed] at before ⊢
      omega
    obtain ⟨reserved, incurred, possible⟩ := new.money
    simp only [committed]
    omega
  | true =>
    cases op with
    | authorize attemptID gen unitKind units minor =>
      exact capped.authorize attemptID gen unitKind units minor
    | finalize txID r now => exact capped.finalize within
    | _ => cases pays

/-- In every run whose finalizations charge at most what was reserved, no
intent is committed beyond its cap. A refused authorization writes
nothing. -/
theorem cap_kept (run : ReachesWith chargesWithin system.initial s) :
    (∀ intentID intent cap, s.db.intents.get? intentID = some intent →
      intent.capMinor = some cap → 0 ≤ cap →
      intent.reservedMinor + intent.incurredMinor + intent.possibleMinor ≤ cap) ∧
    ∀ db attemptID gen unitKind units minor error,
      (authorizeTransmission attemptID gen unitKind units minor db).1 = .error error →
      error = .overCap ∨ error = .claimLost →
      (authorizeTransmission attemptID gen unitKind units minor db).2 = db := by
  refine ⟨?_, ?_⟩
  · have ledgerRun := run.refines (.refl _)
    refine ledgerRun.preserves Capped
      (fun _ _ capped enabled within => capped.step enabled within) ?_
    intro intentID intent cap found
    cases found
  intro db attemptID gen unitKind units minor error failed _
  rcases authorize_cases attemptID gen unitKind units minor db with
    ⟨_, refused⟩ | ⟨_, _, _, answer, _⟩
  · rw [refused]
  rw [answer] at failed
  cases failed

def chargedRun : List Action :=
  paidRun ++ [.worker 1 (.finish { outcome := .accepted, chargedMinor := 40 } 20)]

def checkedSystem : TransitionSystem State Action := system.guarded (stepMeets chargesWithin)

theorem cap_kept_charged :
    ∃ intent, (checkedSystem.runFrom system.initial chargedRun).db.intents.get?
        "intent" = some intent ∧ intent.incurredMinor = 40 ∧
      intent.reservedMinor + intent.incurredMinor + intent.possibleMinor ≤ 50 := by
  have charged : ((checkedSystem.runFrom system.initial
      chargedRun).db.intents.get? "intent").map (fun intent =>
        (intent.incurredMinor, intent.capMinor)) = some (40, some 50) := by
    decide
  obtain ⟨intent, kept, columns⟩ := Option.map_eq_some_iff.mp charged
  simp only [Prod.mk.injEq] at columns
  have run : ReachesWith chargesWithin system.initial
      (checkedSystem.runFrom system.initial chargedRun) :=
    Reaches.of_guarded (Reaches.of_runFrom (by decide))
  exact ⟨intent, kept, columns.1, (cap_kept run).1 "intent" intent 50 kept columns.2 (by decide)⟩

end MeshSat.Intents
