import Mathlib
import MeshSat.Rns.Transit

/-!
# Background traffic on paid interfaces

A paid interface is never flooded. Its policy opens it for the announces, path responses and path
requests of a few destinations, each at most once in an interval. Two gates see to that: `paidTake`
finds the interfaces open to a destination, `paidGate` decides about one. The second lets everything
pass where there is no policy, so that an answer depends on the policy being there when the request
arrives and when the answer leaves.
-/

namespace MeshSat.Rns

open Library Reticulum List Router Node Keyed Effect

/-! ## Gates -/

namespace Node

def lists (n : Node) (ifaceID : String) (dest : TruncatedHash) : Bool :=
  match n.paid.get? ifaceID with
  | some p => p.allows dest
  | none => false

def hasPolicy (n : Node) (ifaceID : String) : Bool := (n.paid.get? ifaceID).isSome

/-- Bookings change the last sends and the counters only. -/
def Books (n n' : Node) : Prop :=
  ∃ paidLast stats, n' = { n with paidLast := paidLast, stats := stats }

lemma Books.refl (n : Node) : n.Books n := ⟨n.paidLast, n.stats, rfl⟩

lemma Books.trans {n middle last : Node} (first : n.Books middle)
    (second : middle.Books last) : n.Books last := by
  obtain ⟨_, _, rfl⟩ := first
  obtain ⟨paidLast, stats, rfl⟩ := second
  exact ⟨paidLast, stats, rfl⟩

section
variable (n : Node)

/-- The last send of the key is long enough ago. -/
def Due (key : PaidKey) : Prop :=
  ∀ last, n.paidLast.get? key = some (key, last) → last + n.paidInterval key.iface ≤ n.now

section
variable (ifaceID : String) (dest : TruncatedHash) (kind : PaidKind)

lemma paidBook_cases :
    (∃ stats, n.paidBook ifaceID dest kind n.now = ({ n with stats := stats }, false)) ∨
    (n.hasPolicy ifaceID = true ∧ n.Due ⟨ifaceID, dest, kind⟩ ∧
      ∃ stats, n.paidBook ifaceID dest kind n.now = ({ n with
            paidLast := n.paidLast.put (⟨ifaceID, dest, kind⟩, n.now)
            stats := stats }, true)) := by
  rw [paidBook]
  cases found : n.paid.get? ifaceID with
  | none => exact .inl ⟨n.stats, rfl⟩
  | some p =>
    dsimp only
    cases early : n.paidEarly ⟨ifaceID, dest, kind⟩ n.now p.minInterval with
    | true => exact .inl ⟨_, rfl⟩
    | false =>
      refine .inr ⟨?_, ?_, _, rfl⟩
      · rw [hasPolicy, found]
        rfl
      intro last booked
      rw [paidEarly, booked] at early
      have passed := of_decide_eq_false early
      rw [paidInterval, found]
      dsimp only
      omega

lemma paidBook_books : n.Books (n.paidBook ifaceID dest kind n.now).1 := by
  rcases n.paidBook_cases ifaceID dest kind with
    ⟨stats, refused⟩ | ⟨_, _, stats, made⟩
  · rw [refused]
    exact ⟨_, stats, rfl⟩
  rw [made]
  exact ⟨_, stats, rfl⟩

lemma paidGate_cases : (n.hasPolicy ifaceID = false ∧ n.paidGate ifaceID dest kind = (n, true)) ∨
    (∃ stats, n.paidGate ifaceID dest kind = ({ n with stats := stats }, false)) ∨
    (n.lists ifaceID dest = true ∧ n.Due ⟨ifaceID, dest, kind⟩ ∧
      ∃ stats, n.paidGate ifaceID dest kind = ({ n with
            paidLast := n.paidLast.put (⟨ifaceID, dest, kind⟩, n.now)
            stats := stats }, true)) := by
  rw [paidGate]
  cases found : n.paid.get? ifaceID with
  | none =>
    refine .inl ⟨?_, rfl⟩
    rw [hasPolicy, found]
    rfl
  | some p =>
    refine .inr ?_
    dsimp only
    cases allowed : p.allows dest with
    | false => exact .inl ⟨_, rfl⟩
    | true =>
      rcases n.paidBook_cases ifaceID dest kind with
        refused | ⟨_, due, made⟩
      · exact .inl refused
      refine .inr ⟨?_, due, made⟩
      rw [lists, found]
      exact allowed

lemma paidGate_books : n.Books (n.paidGate ifaceID dest kind).1 := by
  rcases n.paidGate_cases ifaceID dest kind with
    ⟨_, passed⟩ | ⟨stats, refused⟩ | ⟨_, _, stats, made⟩
  · rw [passed]
    exact .refl n
  · rw [refused]
    exact ⟨_, stats, rfl⟩
  rw [made]
  exact ⟨_, stats, rfl⟩

end

section
variable (online : String → Bool) (dest : TruncatedHash) (kind : PaidKind)

lemma paidBookAll_books (ids : List String) : n.Books (n.paidBookAll online dest kind ids).1 := by
  induction ids generalizing n with
  | nil => exact .refl n
  | cons id rest induction =>
    rw [paidBookAll]
    split
    · exact induction n
    · exact (n.paidBook_books id dest kind).trans (induction _)

lemma paidBookAll_sublist (ids : List String) :
    (n.paidBookAll online dest kind ids).2.Sublist ids := by
  induction ids generalizing n with
  | nil => exact .slnil
  | cons id rest induction =>
    rw [paidBookAll]
    split
    · exact (induction n).cons id
    dsimp only
    split
    · exact (induction _).cons_cons id
    · exact (induction _).cons id

lemma get?_paidBookAll_of_notMem (other : ∀ id ∈ ids, key ≠ ⟨id, dest, kind⟩) :
    (n.paidBookAll online dest kind ids).1.paidLast.get? key = n.paidLast.get? key := by
  induction ids generalizing n with
  | nil => rfl
  | cons id rest induction =>
    have later : ∀ id ∈ rest, key ≠ ⟨id, dest, kind⟩ :=
      fun id member => other id (mem_cons_of_mem _ member)
    rw [paidBookAll]
    split
    · exact induction n later
    rw [induction _ later]
    rcases n.paidBook_cases id dest kind with
      ⟨stats, refused⟩ | ⟨_, _, stats, made⟩
    · rw [refused]
    rw [made]
    rw [get?_put, if_neg (other id mem_cons_self)]

lemma paidBookAll_booked (nodup : ids.Nodup) {id : String}
    (returned : id ∈ (n.paidBookAll online dest kind ids).2) : n.Due ⟨id, dest, kind⟩ ∧
      (n.paidBookAll online dest kind ids).1.paidLast.get?
        ⟨id, dest, kind⟩ = some (⟨id, dest, kind⟩, n.now) := by
  induction ids generalizing n with
  | nil => cases returned
  | cons first rest induction =>
    obtain ⟨fresh, distinct⟩ := nodup_cons.mp nodup
    rw [paidBookAll] at returned ⊢
    split
    · rename_i offline
      rw [if_pos offline] at returned
      exact induction n distinct returned
    rename_i online'
    rw [if_neg online'] at returned
    have keys : ∀ id ∈ rest, (⟨first, dest, kind⟩ : PaidKey) ≠ ⟨id, dest, kind⟩ := by
      intro other member same
      cases same
      exact fresh member
    rcases n.paidBook_cases first dest kind with
      ⟨stats, refused⟩ | ⟨_, due, stats, made⟩
    · rw [refused] at returned ⊢
      exact induction { n with stats := stats } distinct returned
    rw [made] at returned ⊢
    rcases mem_cons.mp returned with rfl | later
    · refine ⟨due, ?_⟩
      rw [get?_paidBookAll_of_notMem _ _ _ _ keys]
      rw [get?_put, if_pos rfl]
    have different : (⟨id, dest, kind⟩ : PaidKey) ≠ ⟨first, dest, kind⟩ := by
      intro same
      cases same
      apply fresh
      exact (paidBookAll_sublist _ _ _ _ _).subset later
    obtain ⟨laterDue, booked⟩ := induction _ distinct later
    refine ⟨?_, booked⟩
    intro last before
    apply laterDue last
    rw [get?_put, if_neg different]
    exact before

end

end

lemma mem_paidOpen {n : Node} {dest : TruncatedHash} {other id : String}
    (member : id ∈ n.paidOpen dest other) : n.lists id dest = true ∧ id ≠ other := by
  rw [paidOpen, mem_insertionSort, mem_map] at member
  obtain ⟨p, listed, rfl⟩ := member
  obtain ⟨stored, open_⟩ := mem_filter.mp listed
  rw [Bool.and_eq_true, decide_eq_true_eq] at open_
  have found : n.paid.get? p.iface = some p := get?_of_mem stored
  refine ⟨?_, open_.1⟩
  rw [lists, found]
  exact open_.2

lemma nodup_paidOpen (n : Node) (dest : TruncatedHash)
    (other : String) : (n.paidOpen dest other).Nodup := by
  apply (perm_insertionSort _ _).nodup_iff.mpr
  exact n.paid.nodup.sublist (filter_sublist.map _)

end Node

/-! ## What is booked and sent -/

section
variable {metered : String → Bool} {r : Router}

def Noted (log : List Booking) (key : PaidKey) : Prop := ∃ b ∈ log, b.key = key

/-- What waits in a queue was decided, and on the interfaces that cost money
it is listed, booked and spaced out. -/
structure Router.Orderly (metered : String → Bool) (r : Router) : Prop where
  positive : ∀ p ∈ r.paid.entries, 0 < p.minInterval
  queued : ∀ q ∈ r.announceQueue.entries, metered q.iface = true →
    ∀ a ∈ q.pending, r.lists q.iface a.dest = true
  noted : ∀ q ∈ r.announceQueue.entries, ∀ a ∈ q.pending, Noted r.log ⟨q.iface, a.dest, .announce⟩
  booked : ∀ b ∈ r.log, metered b.key.iface = true →
    ∃ last, r.paidLast.get? b.key = some (b.key, last) ∧ b.time ≤ last
  spaced : r.log.Pairwise fun later earlier =>
    later.key = earlier.key → metered later.key.iface = true →
      earlier.time + later.interval ≤ later.time

/-- An interface that costs money has just been booked for the destination,
and nothing was decided for it during the interval. -/
def Router.MaySend (metered : String → Bool) (r : Router)
    (dest : TruncatedHash) (kind : PaidKind) (ifaceID : String) : Prop :=
  metered ifaceID = true → r.lists ifaceID dest = true ∧ r.paidLast.get? ⟨ifaceID, dest, kind⟩ =
        some (⟨ifaceID, dest, kind⟩, r.now) ∧ ∀ b ∈ r.log, b.key = ⟨ifaceID, dest, kind⟩ →
        b.time + r.paidInterval ifaceID ≤ r.now

/-- Sending changes what is booked, queued and logged. -/
def Router.Sends (r r' : Router) : Prop :=
  ∃ paidLast stats announceQueue log, r' = { r with
      paidLast := paidLast
      stats := stats
      announceQueue := announceQueue
      log := log }

lemma Router.Sends.refl (r : Router) : r.Sends r :=
  ⟨r.paidLast, r.stats, r.announceQueue, r.log, rfl⟩

lemma Router.Sends.trans (first : r.Sends middle) (second : middle.Sends last) : r.Sends last := by
  obtain ⟨_, _, _, _, rfl⟩ := first
  obtain ⟨paidLast, stats, announceQueue, log, rfl⟩ := second
  exact ⟨paidLast, stats, announceQueue, log, rfl⟩

lemma Router.Sends.of_books (books : r.toNode.Books n) : r.Sends { r with toNode := n } := by
  obtain ⟨paidLast, stats, rfl⟩ := books
  exact ⟨paidLast, stats, r.announceQueue, r.log, rfl⟩

variable {r' : Router} {dest : TruncatedHash} {kind : PaidKind}
  {ids : List String} {log later : List Booking}

namespace Router

lemma Sends.paid (sends : r.Sends r') : r'.paid = r.paid := by
  obtain ⟨_, _, _, _, rfl⟩ := sends
  rfl

lemma Sends.lists (sends : r.Sends r') (ifaceID : String) (dest : TruncatedHash) :
    r'.lists ifaceID dest = r.lists ifaceID dest := by
  rw [Node.lists, Node.lists, sends.paid]

lemma paidInterval_pos (orderly : r.Orderly metered) (installed : r.hasPolicy ifaceID = true) :
    0 < r.paidInterval ifaceID := by
  obtain ⟨p, found⟩ := Option.isSome_iff_exists.mp installed
  rw [paidInterval, found]
  exact orderly.positive p (mem_of_get? found)

lemma hasPolicy_of_lists (listed : r.lists ifaceID dest = true) : r.hasPolicy ifaceID = true := by
  rw [lists] at listed
  rw [hasPolicy]
  cases found : r.paid.get? ifaceID with
  | none =>
    rw [found] at listed
    cases listed
  | some p => rfl

section
variable (orderly : r.Orderly metered)

include orderly

lemma Orderly.passed (due : r.Due key) (costs : metered key.iface = true) :
    ∀ b ∈ r.log, b.key = key → b.time + r.paidInterval key.iface ≤ r.now := by
  rintro b logged rfl
  obtain ⟨last, found, before⟩ := orderly.booked b logged costs
  have := due last found
  omega

lemma Orderly.book (installed : r.hasPolicy key.iface = true) (due : r.Due key) (stats : Stats) :
    Orderly metered { r with paidLast := r.paidLast.put (key, r.now), stats := stats } := by
  refine { orderly with booked := ?_ }
  intro b logged costs
  rw [get?_put]
  by_cases same : b.key = key
  · rw [if_pos same, same]
    refine ⟨r.now, rfl, ?_⟩
    have long := orderly.passed due (same ▸ costs) b logged same
    have positive := paidInterval_pos orderly installed
    omega
  rw [if_neg same]
  exact orderly.booked b logged costs

lemma Orderly.count (stats : Stats) : Orderly metered { r with stats := stats } :=
  { orderly with }

end

lemma paidGate_sends (r : Router) (ifaceID : String)
    (dest : TruncatedHash) (kind : PaidKind) : r.Sends (r.paidGate ifaceID dest kind).1 :=
  .of_books (r.toNode.paidGate_books ifaceID dest kind)

lemma Orderly.paidGate (orderly : r.Orderly metered)
    (ifaceID : String) (dest : TruncatedHash) (kind : PaidKind) :
    (r.paidGate ifaceID dest kind).1.Orderly metered ∧
      ((metered ifaceID = true → r.hasPolicy ifaceID = true) →
        (r.paidGate ifaceID dest kind).2 = true →
        (r.paidGate ifaceID dest kind).1.MaySend metered dest kind ifaceID) := by
  rw [Router.paidGate]
  rcases r.toNode.paidGate_cases ifaceID dest kind with
    ⟨free, passed⟩ | ⟨stats, refused⟩ | ⟨listed, due, stats, made⟩
  · rw [passed]
    refine ⟨orderly, ?_⟩
    intro installed _ costs
    rw [installed costs] at free
    cases free
  · rw [refused]
    refine ⟨orderly.count stats, ?_⟩
    intro _ allowed
    cases allowed
  rw [made]
  have installed := hasPolicy_of_lists listed
  refine ⟨@Router.Orderly.book _ _ orderly ⟨ifaceID, dest, kind⟩ installed due stats, ?_⟩
  intro _ _ costs
  refine ⟨listed, ?_, ?_⟩
  · rw [get?_put, if_pos rfl]
  · exact @Router.Orderly.passed _ _ orderly ⟨ifaceID, dest, kind⟩ due costs

lemma Orderly.paidBookAll (ids : List String) (orderly : Orderly metered { r with toNode := n }) :
    Orderly metered { r with toNode := (n.paidBookAll online dest kind ids).1 } := by
  induction ids generalizing n with
  | nil => exact orderly
  | cons id rest induction =>
    rw [Node.paidBookAll]
    split
    · exact induction orderly
    apply induction
    rcases n.paidBook_cases id dest kind with
      ⟨stats, refused⟩ | ⟨installed, due, stats, made⟩
    · rw [refused]
      exact orderly.count stats
    rw [made]
    exact @Router.Orderly.book _ _ orderly ⟨id, dest, kind⟩ installed due stats

lemma paidTake_sends (r : Router) (m : Medium) (dest : TruncatedHash) (kind : PaidKind)
    (other : String) : r.Sends (r.paidTake m dest kind other).1 :=
  .of_books (r.toNode.paidBookAll_books m.online dest kind _)

lemma Orderly.paidTake (orderly : r.Orderly metered) (m : Medium) (dest : TruncatedHash)
    (kind : PaidKind) (other : String) : (r.paidTake m dest kind other).1.Orderly metered :=
  Orderly.paidBookAll _ orderly

/-- Several interfaces may be sent on, each that costs money once. -/
structure MaySendAll (metered : String → Bool) (r : Router)
    (dest : TruncatedHash) (kind : PaidKind) (ids : List String) : Prop where
  once : (ids.filter metered).Nodup
  each : ∀ id ∈ ids, r.MaySend metered dest kind id

lemma MaySendAll.sublist {fewer : List String} (may : r.MaySendAll metered dest kind ids)
    (part : fewer.Sublist ids) : r.MaySendAll metered dest kind fewer :=
  ⟨may.once.sublist (part.filter metered), fun id member => may.each id (part.subset member)⟩

end Router

lemma filter_eq_nil_of_free (free : ∀ id ∈ ids, metered id = false) : ids.filter metered = [] := by
  apply filter_eq_nil_iff.mpr
  intro id member
  rw [free id member]
  exact Bool.false_ne_true

lemma Router.MaySendAll.of_free (free : ∀ id ∈ ids, metered id = false) :
    r.MaySendAll metered dest kind ids := by
  constructor
  · rw [filter_eq_nil_of_free free]
    exact nodup_nil
  intro id member costs
  rw [free id member] at costs
  cases costs

/-- The interfaces that are flooded and those that `paidTake` opens. -/
lemma Router.Orderly.mayFlood (orderly : r.Orderly metered) {m : Medium}
    (free : ∀ id ∈ m.floodable, metered id = false) (dest : TruncatedHash)
    (kind : PaidKind) (other : String) :
    (r.paidTake m dest kind other).1.MaySendAll metered dest kind
      (m.floodable ++ (r.paidTake m dest kind other).2) := by
  have distinct := r.toNode.nodup_paidOpen dest other
  have part : (r.paidTake m dest kind other).2.Sublist (r.toNode.paidOpen dest other) :=
    r.toNode.paidBookAll_sublist m.online dest kind _
  constructor
  · rw [filter_append, filter_eq_nil_of_free free, nil_append]
    exact distinct.sublist (filter_sublist.trans part)
  intro id member costs
  rcases mem_append.mp member with flooded | opened
  · rw [free id flooded] at costs
    cases costs
  obtain ⟨due, booked⟩ := r.toNode.paidBookAll_booked m.online dest kind distinct opened
  have sends := r.paidTake_sends m dest kind other
  obtain ⟨listed, _⟩ := mem_paidOpen (part.subset opened)
  rw [sends.lists]
  refine ⟨listed, ?_⟩
  have before := @Router.Orderly.passed _ _ orderly ⟨id, dest, kind⟩ due costs
  have books := r.toNode.paidBookAll_books m.online dest kind (r.toNode.paidOpen dest other)
  rw [Router.paidTake, Node.paidTake]
  generalize r.toNode.paidBookAll m.online dest kind _ = result at *
  obtain ⟨_, _, same⟩ := books
  obtain ⟨n, ids⟩ := result
  subst same
  exact ⟨booked, before⟩

/-- Background traffic on an interface that costs money is for a destination
of its policy. -/
def Sent.ListedBy (metered : String → Bool) (n : Node) (s : Sent) : Prop :=
  metered s.iface = true →
    match s.traffic with
    | .announce dest | .pathRequest dest => n.lists s.iface dest = true
    | .transit => True

def Sent.LoggedIn (log : List Booking) (s : Sent) : Prop :=
  match s.traffic with
  | .announce dest => Noted log ⟨s.iface, dest, .announce⟩
  | .pathRequest dest => Noted log ⟨s.iface, dest, .pathRequest⟩
  | .transit => True

lemma Noted.mono (grows : log ⊆ later) (noted : Noted log key) : Noted later key := by
  obtain ⟨b, logged, same⟩ := noted
  exact ⟨b, grows logged, same⟩

lemma Sent.LoggedIn.mono {s : Sent} (grows : log ⊆ later) (logged : s.LoggedIn log) :
    s.LoggedIn later := by
  rw [Sent.LoggedIn] at logged ⊢
  cases traffic : s.traffic with
  | announce dest =>
    rw [traffic] at logged
    exact logged.mono grows
  | pathRequest dest =>
    rw [traffic] at logged
    exact logged.mono grows
  | transit => trivial

/-- The node sends in order. -/
structure Router.Frugal (metered : String → Bool) (r : Router) (out : Routed) : Prop where
  sends : r.Sends out.1
  grows : r.log ⊆ out.1.log
  orderly : out.1.Orderly metered
  listed : ∀ s ∈ out.2, s.ListedBy metered r.toNode
  logged : ∀ s ∈ out.2, s.LoggedIn out.1.log

lemma Router.Orderly.silent (orderly : r.Orderly metered) : r.Frugal metered (r, []) :=
  ⟨.refl r, List.Subset.refl _, orderly, forall_mem_nil _, forall_mem_nil _⟩

lemma Router.Sends.listedBy (sends : r.Sends r') {s : Sent}
    (listed : s.ListedBy metered r'.toNode) : s.ListedBy metered r.toNode := by
  intro costs
  have there := listed costs
  cases traffic : s.traffic with
  | announce dest =>
    rw [traffic] at there
    exact (sends.lists _ _).symm.trans there
  | pathRequest dest =>
    rw [traffic] at there
    exact (sends.lists _ _).symm.trans there
  | transit => trivial

lemma Router.Frugal.after {out : Routed} (sends : r.Sends r') (same : r'.log = r.log)
    (frugal : r'.Frugal metered out) : r.Frugal metered out :=
  ⟨sends.trans frugal.sends, same ▸ frugal.grows, frugal.orderly,
    fun s member => sends.listedBy (frugal.listed s member), frugal.logged⟩

lemma Router.Frugal.append {first second : Routed} (before : r.Frugal metered first)
    (after : first.1.Frugal metered second) : r.Frugal metered (second.1, first.2 ++ second.2) := by
  refine ⟨before.sends.trans after.sends, List.Subset.trans before.grows after.grows,
    after.orderly, ?_, ?_⟩
  · intro s member
    rcases mem_append.mp member with early | late
    · exact before.listed s early
    · exact before.sends.listedBy (after.listed s late)
  intro s member
  rcases mem_append.mp member with early | late
  · exact (before.logged s early).mono after.grows
  · exact after.logged s late

variable {dest : TruncatedHash} {kind : PaidKind}

namespace Router

lemma Orderly.note (orderly : r.Orderly metered)
    (may : r.MaySend metered dest kind ifaceID) : (r.note ifaceID dest kind).Orderly metered := by
  refine ⟨orderly.positive, orderly.queued, ?_, ?_, ?_⟩
  · intro q stored a waiting
    exact (orderly.noted q stored a waiting).mono (subset_cons_self _ _)
  · intro b logged costs
    rcases mem_cons.mp logged with rfl | before
    · exact ⟨r.now, (may costs).2.1, le_rfl⟩
    · exact orderly.booked b before costs
  refine pairwise_cons.mpr ⟨?_, orderly.spaced⟩
  intro b logged same costs
  exact (may costs).2.2 b logged same.symm

section
variable (r : Router) (ifaceID : String) (dest : TruncatedHash) (kind : PaidKind)

lemma note_grows : r.log ⊆ (r.note ifaceID dest kind).log := subset_cons_self _ _

lemma note_noted : Noted (r.note ifaceID dest kind).log ⟨ifaceID, dest, kind⟩ :=
  ⟨_, mem_cons_self, rfl⟩

lemma note_sends : r.Sends (r.note ifaceID dest kind) :=
  ⟨r.paidLast, r.stats, r.announceQueue, _, rfl⟩

end

lemma MaySendAll.note {id : String} (may : r.MaySendAll metered dest kind (id :: rest)) :
    (r.note id dest kind).MaySendAll metered dest kind rest := by
  refine ⟨(may.sublist (sublist_cons_self id rest)).once, ?_⟩
  intro other member costs
  obtain ⟨listed, booked, long⟩ := may.each other (mem_cons_of_mem id member) costs
  refine ⟨listed, booked, ?_⟩
  intro b logged same
  rcases mem_cons.mp logged with rfl | before
  · cases same
    have once := may.once
    rw [filter_cons_of_pos costs] at once
    have fresh := (nodup_cons.mp once).1
    exact absurd (mem_filter.mpr ⟨member, costs⟩) fresh
  · exact long b before same

/-- A send that is decided, and what follows it. -/
lemma Frugal.cons (may : r.MaySend metered dest kind s.iface)
    (listed : r.lists s.iface dest = true → s.ListedBy metered r.toNode)
    (logged : Noted out.1.log ⟨s.iface, dest, kind⟩ → s.LoggedIn out.1.log)
    (later : (r.note s.iface dest kind).Frugal metered out) :
    r.Frugal metered (out.1, s :: out.2) := by
  have sends := r.note_sends s.iface dest kind
  refine ⟨sends.trans later.sends,
    List.Subset.trans (r.note_grows s.iface dest kind) later.grows, later.orderly, ?_, ?_⟩
  · intro other member
    rcases mem_cons.mp member with rfl | others
    · exact fun costs => listed (may costs).1 costs
    · exact sends.listedBy (later.listed other others)
  · exact forall_mem_cons.mpr ⟨logged ((r.note_noted _ dest kind).mono later.grows), later.logged⟩

section
variable (orderly : r.Orderly metered)

include orderly

lemma Orderly.sendPathRequests (may : r.MaySendAll metered dest .pathRequest ids)
    (tag : TruncatedHash)
    (source : Option String) : r.Frugal metered (r.sendPathRequests dest tag source ids) := by
  induction ids generalizing r with
  | nil => exact orderly.silent
  | cons id rest induction =>
    have first := may.each id mem_cons_self
    have later := induction (orderly.note first) may.note
    exact .cons first (fun listed _ => listed) (fun noted => noted) later

lemma Orderly.askOpen (free : ∀ id ∈ m.floodable, metered id = false)
    (part : ids.Sublist (m.floodable ++ (r.paidTake m dest .pathRequest other).2))
    (tag : TruncatedHash) (source : Option String) : r.Frugal metered
      ((r.paidTake m dest .pathRequest other).1.sendPathRequests dest tag source ids) := by
  have taken := orderly.paidTake m dest .pathRequest other
  have may := (orderly.mayFlood free dest .pathRequest other).sublist part
  exact .after (r.paidTake_sends m dest .pathRequest other) rfl
    (taken.sendPathRequests may tag source)

lemma Orderly.putQueue
    (listed : metered q.iface = true → ∀ a ∈ q.pending, r.lists q.iface a.dest = true)
    (noted : ∀ a ∈ q.pending, Noted r.log ⟨q.iface, a.dest, .announce⟩) : Orderly metered
      { r with announceQueue := r.announceQueue.put q } := by
  refine ⟨orderly.positive, ?_, ?_, orderly.booked, orderly.spaced⟩
  · intro other stored costs
    rcases mem_put.mp stored with rfl | ⟨before, _⟩
    · exact listed costs
    · exact orderly.queued other before costs
  · exact forall_mem_put noted orderly.noted

end

@[simp]
lemma queueOf_iface (r : Router) (ifaceID : String) : (r.queueOf ifaceID).iface = ifaceID := by
  rw [queueOf]
  split
  · rename_i found
    exact key_of_get? found
  · rfl

section
variable (orderly : r.Orderly metered)

include orderly

lemma Orderly.queueOf (costs : metered ifaceID = true) :
    ∀ a ∈ (r.queueOf ifaceID).pending, r.lists ifaceID a.dest = true := by
  intro a member
  rw [Router.queueOf] at member
  split at member
  · rename_i q found
    have same := key_of_get? found
    have listed := orderly.queued q (mem_of_get? found) (same.symm ▸ costs) a member
    rwa [same] at listed
  · exact absurd member not_mem_nil

lemma Orderly.noted_queueOf (ifaceID : String) :
    ∀ a ∈ (r.queueOf ifaceID).pending, Noted r.log ⟨ifaceID, a.dest, .announce⟩ := by
  intro a member
  rw [Router.queueOf] at member
  split at member
  · rename_i q found
    have decided := orderly.noted q (mem_of_get? found) a member
    rwa [key_of_get? found] at decided
  · exact absurd member not_mem_nil

lemma Orderly.sendAnnounceOn (m : Medium) {a : Announcement} {ifaceID : String}
    (may : r.MaySend metered a.dest .announce ifaceID) :
    r.Frugal metered (r.sendAnnounceOn m a ifaceID) := by
  have kept := orderly.note may
  have sends := r.note_sends ifaceID a.dest .announce
  have grows := r.note_grows ifaceID a.dest .announce
  have decided := r.note_noted ifaceID a.dest .announce
  have waiting : metered ifaceID = true →
      ∀ other ∈ ((r.note ifaceID a.dest .announce).queueOf ifaceID).pending,
        r.lists ifaceID other.dest = true :=
    fun costs => kept.queueOf costs
  have earlier := kept.noted_queueOf ifaceID
  have listed : ∀ s ∈ [a.sentOn ifaceID], s.ListedBy metered r.toNode := by
    intro s member
    rw [mem_singleton.mp member]
    exact fun costs => (may costs).1
  have logged : ∀ s ∈ [a.sentOn ifaceID], s.LoggedIn (r.note ifaceID a.dest .announce).log := by
    intro s member
    rw [mem_singleton.mp member]
    exact decided
  rw [Router.sendAnnounceOn]
  dsimp only
  split
  · exact ⟨sends, grows, kept, listed, logged⟩
  split
  · refine ⟨sends.trans ⟨r.paidLast, r.stats, _, _, rfl⟩, grows, ?_, listed, logged⟩
    apply kept.putQueue
    · rw [queueOf_iface]
      exact waiting
    rw [queueOf_iface]
    exact earlier
  split
  · exact ⟨sends, grows, kept, forall_mem_nil _, forall_mem_nil _⟩
  refine ⟨sends.trans ⟨r.paidLast, r.stats, _, _, rfl⟩, grows, ?_,
    forall_mem_nil _, forall_mem_nil _⟩
  apply kept.putQueue
  · rw [queueOf_iface]
    intro costs other member
    rcases mem_append.mp member with before | added
    · exact waiting costs other before
    rw [mem_singleton.mp added]
    exact (may costs).1
  rw [queueOf_iface]
  exact forall_mem_append.mpr ⟨earlier, forall_mem_singleton.mpr decided⟩

end

lemma MaySendAll.sendAnnounceOn {a : Announcement} {id : String}
    {rest : List String} (m : Medium) (may : r.MaySendAll metered a.dest kind (id :: rest))
    (isAnnounce : kind = .announce) :
    (r.sendAnnounceOn m a id).1.MaySendAll metered a.dest kind rest := by
  subst isAnnounce
  have noted := may.note
  rw [sendAnnounceOn]
  dsimp only
  split
  · exact noted
  split
  · exact ⟨noted.once, noted.each⟩
  split
  · exact noted
  · exact ⟨noted.once, noted.each⟩

lemma Orderly.announceOn {a : Announcement} {ids : List String}
    (orderly : r.Orderly metered) (m : Medium) (may : r.MaySendAll metered a.dest .announce ids) :
    r.Frugal metered (r.announceOn m a ids) := by
  induction ids generalizing r with
  | nil => exact orderly.silent
  | cons id rest induction =>
    have first := orderly.sendAnnounceOn m (may.each id mem_cons_self)
    exact first.append (induction first.orderly (may.sendAnnounceOn m rfl))

lemma Orderly.flushAnnounceQueue (orderly : r.Orderly metered)
    (m : Medium) (ifaceID : String) : r.Frugal metered (r.flushAnnounceQueue m ifaceID) := by
  rw [Router.flushAnnounceQueue]
  have waiting : metered ifaceID = true →
      ∀ a ∈ (r.queueOf ifaceID).pending, r.lists ifaceID a.dest = true :=
    fun costs => orderly.queueOf costs
  have noted := orderly.noted_queueOf ifaceID
  split
  · exact orderly.silent
  rename_i a rest pending
  rw [pending] at waiting noted
  refine ⟨⟨r.paidLast, r.stats, _, r.log, rfl⟩, List.Subset.refl _, ?_, ?_, ?_⟩
  · apply orderly.putQueue
    · rw [queueOf_iface]
      exact fun costs other member =>
        waiting costs other (mem_cons_of_mem a member)
    rw [queueOf_iface]
    exact fun other member =>
      noted other (mem_cons_of_mem a member)
  · intro s member
    rw [mem_singleton.mp member]
    exact fun costs => waiting costs a mem_cons_self
  intro s member
  rw [mem_singleton.mp member]
  exact noted a mem_cons_self

lemma Orderly.announce (orderly : r.Orderly metered) {m : Medium}
    (free : ∀ id ∈ m.floodable, metered id = false) {ifaceID : String}
    (installed : ifaceID ≠ "" → metered ifaceID = true →
      r.hasPolicy ifaceID = true) (dest : TruncatedHash) (pathResponse : Bool) :
    r.Frugal metered (r.announce m dest ifaceID pathResponse) := by
  rw [Router.announce]
  split
  · exact orderly.silent
  split
  · rename_i named
    obtain ⟨kept, may⟩ := orderly.paidGate ifaceID dest .announce
    have sends := r.paidGate_sends ifaceID dest .announce
    dsimp only
    split
    · rename_i allowed
      exact .after sends rfl (kept.sendAnnounceOn m (may (installed named) allowed))
    · exact .after sends rfl kept.silent
  exact .after (r.paidTake_sends m dest .announce "") rfl
    ((orderly.paidTake m dest .announce "").announceOn m (orderly.mayFlood free dest .announce ""))

end Router

end

/-! ## What waits for an answer -/

section
variable {metered : String → Bool} {r : Router}

/-- Where an interface that costs money waits for a path, it has a policy. -/
structure Node.Answerable (metered : String → Bool) (n : Node) : Prop where
  waiting : ∀ d ∈ n.discoveryPRs.entries, ∀ id ∈ d.requestingIfaces,
    metered id = true → n.hasPolicy id = true
  queued : ∀ e ∈ n.announceTable.entries, e.attachedIface ≠ "" →
    metered e.attachedIface = true → n.hasPolicy e.attachedIface = true
  held : ∀ e ∈ n.heldAnnounces.entries, e.attachedIface ≠ "" →
    metered e.attachedIface = true → n.hasPolicy e.attachedIface = true

structure Router.Sound (metered : String → Bool) (r : Router) : Prop where
  orderly : r.Orderly metered
  answerable : r.toNode.Answerable metered

/-- The step keeps the order, and what it sends is listed. -/
structure Router.Keeps (metered : String → Bool) (r : Router) (out : Routed) : Prop where
  sound : out.1.Sound metered
  listed : ∀ s ∈ out.2, s.ListedBy metered r.toNode
  logged : ∀ s ∈ out.2, s.LoggedIn out.1.log

variable {r' : Router} {out : Routed} {n n' : Node} {d : DiscoveryEntry}
  {ifaceID : String} {m : Medium} {pkt : Packet} {dest : TruncatedHash}
  {raw : List UInt8} {effects : List Effect} {p : PaidPolicy}

lemma Router.Sends.answerable (sends : r.Sends r') (answerable : r.toNode.Answerable metered) :
    r'.toNode.Answerable metered := by
  obtain ⟨_, _, _, _, rfl⟩ := sends
  exact { answerable with }

lemma Router.Frugal.keeps (frugal : r.Frugal metered out)
    (answerable : r.toNode.Answerable metered) : r.Keeps metered out :=
  ⟨⟨frugal.orderly, frugal.sends.answerable answerable⟩, frugal.listed, frugal.logged⟩

/-- What the order is about. -/
def Router.decided (r : Router) := (r.paid, r.paidLast, r.announceQueue, r.log)

lemma Router.Orderly.of_agrees (orderly : r.Orderly metered) (same : r'.decided = r.decided) :
    r'.Orderly metered := by
  simp only [decided, Prod.mk.injEq] at same
  obtain ⟨paid, paidLast, announceQueue, log⟩ := same
  have lists : ∀ ifaceID dest, r'.lists ifaceID dest = r.lists ifaceID dest :=
    fun ifaceID dest => by rw [lists, lists, paid]
  refine ⟨?_, ?_, ?_, ?_, ?_⟩
  · rw [paid]
    exact orderly.positive
  · rw [announceQueue]
    simp only [lists]
    exact orderly.queued
  · rw [announceQueue, log]
    exact orderly.noted
  · rw [log, paidLast]
    exact orderly.booked
  rw [log]
  exact orderly.spaced

/-- What waits for an answer. -/
def Node.asked (n : Node) := (n.paid, n.discoveryPRs, n.announceTable, n.heldAnnounces)

lemma Node.Answerable.of_same (answerable : n.Answerable metered) (same : n'.asked = n.asked) :
    n'.Answerable metered := by
  simp only [asked, Prod.mk.injEq] at same
  obtain ⟨paid, discoveryPRs, announceTable, heldAnnounces⟩ := same
  have installed : ∀ ifaceID, n'.hasPolicy ifaceID = n.hasPolicy ifaceID :=
    fun ifaceID => by rw [hasPolicy, hasPolicy, paid]
  refine ⟨?_, ?_, ?_⟩
  · simp only [discoveryPRs, installed]
    exact answerable.waiting
  · simp only [announceTable, installed]
    exact answerable.queued
  simp only [heldAnnounces, installed]
  exact answerable.held

lemma Router.Sound.of_same (sound : r.Sound metered) (agrees : r'.decided = r.decided)
    (same : r'.asked = r.asked) : r'.Sound metered :=
  ⟨sound.orderly.of_agrees agrees, sound.answerable.of_same same⟩

lemma Router.Sound.quiet (sound : r'.Sound metered) : r.Keeps metered (r', []) :=
  ⟨sound, forall_mem_nil _, forall_mem_nil _⟩

lemma Router.Keeps.of_paid (keeps : r'.Keeps metered out) (same : r'.paid = r.paid) :
    r.Keeps metered out := by
  refine ⟨keeps.sound, ?_, keeps.logged⟩
  intro s member
  have listed := keeps.listed s member
  rw [Sent.ListedBy] at listed ⊢
  simp only [lists, same] at listed ⊢
  exact listed

/-! ### Path requests -/

lemma Node.Answerable.putDiscovery (answerable : r.toNode.Answerable metered)
    (installed : ∀ id ∈ d.requestingIfaces, metered id = true → r.hasPolicy id = true) :
    (r.putDiscovery d).toNode.Answerable metered := by
  refine ⟨?_, answerable.queued, answerable.held⟩
  exact forall_mem_put installed answerable.waiting

lemma DiscoveryEntry.mem_askedOn {id : String}
    (member : id ∈ (d.askedOn ifaceID).requestingIfaces) :
    id ∈ d.requestingIfaces ∨ id = ifaceID := by
  rw [DiscoveryEntry.askedOn] at member
  split at member
  · exact .inl member
  rcases mem_append.mp member with before | added
  · exact .inl before
  · exact .inr (mem_singleton.mp added)

section
variable (sound : r.Sound metered)

include sound

namespace Router

section
variable (installed : metered ifaceID = true → r.hasPolicy ifaceID = true)

include installed

lemma Sound.askedOn
    (before : ∀ id ∈ d.requestingIfaces, metered id = true → r.hasPolicy id = true) :
    (r.putDiscovery (d.askedOn ifaceID)).Sound metered := by
  refine ⟨sound.orderly.of_agrees rfl, ?_⟩
  apply sound.answerable.putDiscovery
  intro id member
  rcases DiscoveryEntry.mem_askedOn member with there | rfl
  · exact before id there
  · exact installed

lemma Sound.batch (dest : TruncatedHash) : (r.batch dest ifaceID).Sound metered := by
  apply sound.askedOn installed
  split
  · rename_i d found
    exact sound.answerable.waiting d (mem_of_get? found)
  · exact fun id member => absurd member not_mem_nil

end

lemma Sound.search (free : ∀ id ∈ m.floodable, metered id = false)
    (installed : metered ifaceID = true → r.hasPolicy ifaceID = true) (q : PathRequest) :
    r.Keeps metered (r.search m q ifaceID) := by
  have known : ∀ d, r.discoveryPRs.get? q.dest = some d →
      ∀ id ∈ d.requestingIfaces, metered id = true → r.hasPolicy id = true :=
    fun d found => sound.answerable.waiting d (mem_of_get? found)
  rw [Router.search]
  split
  · rename_i found
    exact (sound.askedOn installed (known _ found)).quiet
  dsimp only
  generalize made : (⟨q.dest, _, _, true⟩ : DiscoveryEntry) = d
  have asked : (r.putDiscovery (d.askedOn ifaceID)).Sound metered := by
    apply sound.askedOn installed
    subst made
    split
    · rename_i d found
      exact known d found
    · exact fun id member => absurd member not_mem_nil
  refine Keeps.of_paid (Frugal.keeps (asked.orderly.askOpen free ?_ _ _) asked.answerable) rfl
  exact filter_sublist.trans filter_sublist

lemma Sound.resolveInflight (dest : TruncatedHash) : (r.resolveInflight dest).Sound metered :=
  sound.of_same rfl rfl

lemma Sound.queueAnswer
    (installed : metered ifaceID = true → r.hasPolicy ifaceID = true) (e : PathEntry)
    (ann : Announce) (dest : TruncatedHash) : (r.queueAnswer e ann dest ifaceID).Sound metered := by
  have orderly := sound.orderly
  have answerable := sound.answerable
  refine ⟨orderly.of_agrees rfl, ⟨answerable.waiting, ?_, ?_⟩⟩
  · exact forall_mem_put (fun _ => installed) answerable.queued
  intro other stored
  rw [Router.queueAnswer] at stored
  split at stored
  · rename_i found
    split at stored
    · exact answerable.held other stored
    rcases mem_put.mp stored with rfl | ⟨before, _⟩
    · exact answerable.queued other (mem_of_get? found)
    · exact answerable.held other before
  · exact answerable.held other stored

section
variable (free : ∀ id ∈ m.floodable, metered id = false)

include free

lemma Sound.answerOrSearch
    (installed : metered ifaceID = true → r.hasPolicy ifaceID = true) (q : PathRequest) :
    r.Keeps metered (r.answerOrSearch m q ifaceID) := by
  have resolved : r.Keeps metered (r.resolveInflight q.dest, []) :=
    (sound.resolveInflight q.dest).quiet
  rw [Router.answerOrSearch]
  split
  · exact sound.search free installed q
  split
  · exact sound.search free installed q
  split
  · exact resolved
  split
  · exact resolved
  · exact ((sound.queueAnswer installed _ _ _).resolveInflight q.dest).quiet

lemma Sound.announce
    (installed : ifaceID ≠ "" → metered ifaceID = true → r.hasPolicy ifaceID = true)
    (dest : TruncatedHash) (pathResponse : Bool) :
    r.Keeps metered (r.announce m dest ifaceID pathResponse) :=
  (sound.orderly.announce free installed dest pathResponse).keeps sound.answerable

lemma Sound.handlePathRequest
    (installed : metered pkt.iface = true → r.hasPolicy pkt.iface = true) :
    r.Keeps metered (r.handlePathRequest m pkt) := by
  rw [Router.handlePathRequest]
  split
  · exact sound.quiet
  rename_i q _
  dsimp only
  split
  · exact sound.quiet
  have tagged : Sound metered
      { r with
        prTags := (q.dest, FixedBytes.copy truncatedHashLen q.tag) :: r.prTags } :=
    sound.of_same rfl rfl
  split
  · split
    · exact .of_paid (tagged.announce free (fun _ => installed) q.dest true) rfl
    · exact tagged.quiet
  split
  · exact (tagged.batch installed q.dest).quiet
  have inflight : Sound metered
      { r with
        prTags := (q.dest, FixedBytes.copy truncatedHashLen q.tag) :: r.prTags
        inflightPRs := r.inflightPRs.put (q.dest, r.now) } :=
    sound.of_same rfl rfl
  split
  · have sent := inflight.announce free (fun _ => installed) q.dest true
    exact ⟨sent.sound.resolveInflight q.dest, sent.listed, sent.logged⟩
  · exact .of_paid (inflight.answerOrSearch free installed q) rfl

lemma Sound.requestPathWith (dest : TruncatedHash) (freeOnly : Bool) (channel : Nat)
    (tag : TruncatedHash) : r.Keeps metered (r.requestPathWith m dest freeOnly channel tag) := by
  rw [Router.requestPathWith]
  split
  · exact sound.quiet
  dsimp only
  generalize r.pathWaiters.put _ = waiters
  have waiting : Sound metered { r with pathWaiters := waiters } := sound.of_same rfl rfl
  cases freeOnly with
  | true =>
    have may : MaySendAll metered { r with pathWaiters := waiters } dest .pathRequest
        (m.floodable ++ []) := by
      rw [append_nil]
      exact .of_free free
    exact .of_paid ((waiting.orderly.sendPathRequests may tag none).keeps waiting.answerable) rfl
  | false =>
    refine .of_paid (Frugal.keeps (waiting.orderly.askOpen free ?_ _ _) waiting.answerable) rfl
    exact List.Sublist.refl _

end

end Router

end

/-! ### Announces that are heard -/

lemma Node.Books.now (books : n.Books n') : n'.now = n.now := by
  obtain ⟨_, _, rfl⟩ := books
  rfl

lemma Node.answer_books (n : Node) (dest : TruncatedHash) (raw : List UInt8) (ids : List String) :
    n.Books (n.answer dest raw ids).1 := by
  induction ids generalizing n with
  | nil => exact .refl n
  | cons id rest induction => exact (n.paidGate_books id dest .announce).trans (induction _)

section
variable {key : PaidKey} (booked : n.paidLast.get? key = some (key, n.now))

include booked

lemma Node.paidGate_stays (ifaceID : String) (dest : TruncatedHash) (kind : PaidKind) :
    (n.paidGate ifaceID dest kind).1.paidLast.get? key = some (key, n.now) := by
  rcases n.paidGate_cases ifaceID dest kind with
    ⟨_, passed⟩ | ⟨stats, refused⟩ | ⟨_, _, stats, made⟩
  · rw [passed]
    exact booked
  · rw [refused]
    exact booked
  rw [made]
  rw [get?_put]
  split
  · rename_i same
    rw [same]
  · exact booked

lemma Node.answer_stays (dest : TruncatedHash) (raw : List UInt8) (ids : List String) :
    (n.answer dest raw ids).1.paidLast.get? key = some (key, n.now) := by
  induction ids generalizing n with
  | nil => exact booked
  | cons id rest induction =>
    have same := (n.paidGate_books id dest .announce).now
    have stays := n.paidGate_stays booked id dest .announce
    rw [← same] at stays ⊢
    exact induction stays

end

def Effect.sentOn : Effect → Option String
  | .transmit ifaceID _ => some ifaceID
  | _ => none

/-- The interfaces answered on: those without a policy, and those whose
booking was due. -/
lemma Node.answer_due {id : String} (answered : id ∈ (n.answer dest raw ids).2.filterMap sentOn)
    (installed : n.hasPolicy id = true) : n.lists id dest = true ∧ n.Due ⟨id, dest, .announce⟩ ∧
      (n.answer dest raw ids).1.paidLast.get? ⟨id, dest, .announce⟩ =
        some (⟨id, dest, .announce⟩, n.now) := by
  induction ids generalizing n with
  | nil => exact absurd answered not_mem_nil
  | cons first rest induction =>
    rw [answer] at answered ⊢
    dsimp only at answered ⊢
    rcases n.paidGate_cases first dest .announce with
      ⟨free, passed⟩ | ⟨stats, refused⟩ | ⟨listed, due, stats, made⟩
    · rw [passed] at answered ⊢
      rw [if_pos rfl, filterMap_cons] at answered
      rcases mem_cons.mp answered with rfl | later
      · rw [free] at installed
        cases installed
      · exact induction later installed
    · rw [refused] at answered ⊢
      exact induction answered installed
    rw [made] at answered ⊢
    rw [if_pos rfl, filterMap_cons] at answered
    by_cases same : id = first
    · subst same
      refine ⟨listed, due, ?_⟩
      apply answer_stays
      rw [get?_put, if_pos rfl]
    have different : (⟨id, dest, .announce⟩ : PaidKey) ≠ ⟨first, dest, .announce⟩ := by
      intro equal
      cases equal
      exact same rfl
    rcases mem_cons.mp answered with here | later
    · exact absurd here same
    obtain ⟨laterListed, laterDue, booked⟩ :=
      induction later installed
    refine ⟨laterListed, ?_, booked⟩
    intro last before
    apply laterDue last
    rw [get?_put, if_neg different]
    exact before

lemma Node.answer_once (positive : ∀ p ∈ n.paid.entries, 0 < p.minInterval)
    (installed : ∀ id ∈ ids, metered id = true → n.hasPolicy id = true) :
    (((n.answer dest raw ids).2.filterMap sentOn).filter metered).Nodup := by
  induction ids generalizing n with
  | nil => exact nodup_nil
  | cons first rest induction =>
    have later : ∀ id ∈ rest, metered id = true → n.hasPolicy id = true :=
      fun id member => installed id (mem_cons_of_mem _ member)
    rw [answer]
    dsimp only
    rcases n.paidGate_cases first dest .announce with
      ⟨free, passed⟩ | ⟨stats, refused⟩ | ⟨listed, due, stats, made⟩
    · have cheap : ¬metered first = true := by
        intro costs
        rw [installed first mem_cons_self costs] at free
        cases free
      rw [passed, if_pos rfl, filterMap_cons]
      dsimp only [sentOn]
      rw [filter_cons_of_neg cheap]
      exact induction positive later
    · rw [refused]
      exact @induction { n with stats := stats } positive later
    rw [made, if_pos rfl, filterMap_cons]
    dsimp only [sentOn]
    generalize booked : ({ n with
      paidLast := n.paidLast.put (⟨first, dest, .announce⟩, n.now)
      stats := stats } : Node) = n'
    have rest' : (((n'.answer dest raw rest).2.filterMap sentOn).filter metered).Nodup := by
      subst booked
      exact @induction { n with
        paidLast := n.paidLast.put (⟨first, dest, .announce⟩, n.now)
        stats := stats } positive later
    by_cases costs : metered first = true
    · rw [filter_cons_of_pos costs]
      refine nodup_cons.mpr ⟨?_, rest'⟩
      intro again
      have policy := installed first mem_cons_self costs
      subst booked
      -- It was booked in this instant and cannot be due again.
      have due := (answer_due (mem_filter.mp again).1 policy).2.1 n.now (by
          rw [get?_put, if_pos rfl])
      obtain ⟨p, found⟩ := Option.isSome_iff_exists.mp policy
      have long := positive p (mem_of_get? found)
      rw [paidInterval] at due
      rw [found] at due
      dsimp only at due
      omega
    rw [filter_cons_of_neg costs]
    exact rest'

lemma Node.answer_sublist (n : Node) (dest : TruncatedHash) (raw : List UInt8) (ids : List String) :
    ((n.answer dest raw ids).2.filterMap sentOn).Sublist ids := by
  induction ids generalizing n with
  | nil => exact .slnil
  | cons id rest induction =>
    rw [answer]
    dsimp only
    split
    · rw [filterMap_cons]
      exact (induction _).cons_cons id
    · exact (induction _).cons id

lemma Router.Orderly.answer (ids : List String)
    (orderly : Router.Orderly metered { r with toNode := n }) : Router.Orderly metered
      { r with toNode := (n.answer dest raw ids).1 } := by
  induction ids generalizing n with
  | nil => exact orderly
  | cons id rest induction => exact induction (orderly.paidGate id dest .announce).1

lemma Router.Orderly.mayAnswer (orderly : Router.Orderly metered { r with toNode := n })
    (installed : ∀ id ∈ ids, metered id = true → n.hasPolicy id = true) :
    Router.MaySendAll metered { r with toNode := (n.answer dest raw ids).1 } dest .announce
      ((n.answer dest raw ids).2.filterMap sentOn) := by
  refine ⟨answer_once orderly.positive installed, ?_⟩
  intro id answered costs
  have asked := (n.answer_sublist dest raw ids).subset answered
  obtain ⟨listed, due, booked⟩ := answer_due answered (installed id asked costs)
  have passed := @Router.Orderly.passed _ _ orderly ⟨id, dest, .announce⟩ due costs
  have books := n.answer_books dest raw ids
  generalize n.answer dest raw ids = result at *
  obtain ⟨n', effects⟩ := result
  obtain ⟨_, _, rfl⟩ := books
  exact ⟨listed, booked, passed⟩

lemma Router.Orderly.noteAnswers (orderly : r.Orderly metered)
    (may : r.MaySendAll metered dest .announce (effects.filterMap sentOn))
    (source : String) : r.Frugal metered (r.noteAnswers dest source effects) := by
  induction effects generalizing r with
  | nil => exact orderly.silent
  | cons effect rest induction =>
    cases effect with
    | transmit id raw =>
      rw [filterMap_cons] at may
      have first := may.each id mem_cons_self
      have later := induction (orderly.note first) may.note
      exact .cons first (fun listed _ => listed) (fun noted => noted) later
    | rebroadcast | closeWaiter | pathChanged | announced => exact induction orderly may

section
variable (answerable : n.Answerable metered)

include answerable

lemma Node.Answerable.noteAnnounce (pkt : Packet) : (n.noteAnnounce pkt).Answerable metered := by
  refine ⟨answerable.waiting, ?_, answerable.held⟩
  intro e stored
  obtain ⟨kept, before, repeats⟩ := mem_noteAnnounce stored
  rw [repeats.attached]
  exact answerable.queued kept before

lemma Node.Answerable.learnTables (crypto : Crypto) (delay : Int) (pkt : Packet) (ann : Announce) :
    (n.learnTables crypto delay pkt ann).Answerable metered := by
  refine ⟨?_, ?_, answerable.held⟩
  · intro d stored
    rw [Node.learnTables] at stored
    dsimp only at stored
    split at stored
    · exact answerable.waiting d stored
    · exact answerable.waiting d (mem_deleteWhere.mp stored).1
  intro e stored
  rw [Node.learnTables] at stored
  split at stored
  · rcases mem_put.mp stored with rfl | ⟨before, _⟩
    · exact fun named => absurd rfl named
    · exact answerable.queued e before
  · exact answerable.queued e stored

lemma Node.Answerable.answerOn (pkt : Packet) :
    ∀ id ∈ n.withoutLeaves (n.answerOn pkt), metered id = true → n.hasPolicy id = true := by
  intro id member
  have asked := (mem_filter.mp member).1
  rw [Node.answerOn] at asked
  split at asked
  · rename_i d found
    split at asked
    · exact absurd asked not_mem_nil
    · exact answerable.waiting d (mem_of_get? found) id asked
  · exact absurd asked not_mem_nil

end

lemma Node.learn_sentOn (n : Node) (crypto : Crypto) (delay : Int)
    (pkt : Packet) (ann : Announce) : (n.learn crypto delay pkt ann).2.filterMap sentOn =
      ((n.learnTables crypto delay pkt ann).answer pkt.hdr.destHash
        (ann.marshalPacketTransport n.idHash pkt.hdr.hops contextPathResponse)
        (n.withoutLeaves (n.answerOn pkt))).2.filterMap sentOn := by
  have quiet : ∀ channels : List Nat, (channels.map closeWaiter).filterMap sentOn = [] := by
    intro channels
    induction channels with
    | nil => rfl
    | cons channel rest induction => exact induction
  rw [learn]
  rw [filterMap_append, filterMap_append, quiet, append_nil]
  exact append_nil _

lemma Router.Sound.learn (sound : Router.Sound metered { r with toNode := n })
    (crypto : Crypto) (delay : Int) (pkt : Packet) (ann : Announce) :
    Router.Keeps metered { r with toNode := n } (Router.noteAnswers
        { r with toNode := (n.learn crypto delay pkt ann).1 }
        pkt.hdr.destHash pkt.iface (n.learn crypto delay pkt ann).2) := by
  have orderly := sound.orderly
  have learned := sound.answerable.learnTables crypto delay pkt ann
  have installed := sound.answerable.answerOn pkt
  have tables : Router.Orderly metered { r with toNode := n.learnTables crypto delay pkt ann } :=
    orderly.of_agrees rfl
  have books := Router.Sends.of_books (@Node.answer_books
      ({ r with toNode := n.learnTables crypto delay pkt ann } : Router).toNode pkt.hdr.destHash
      (ann.marshalPacketTransport n.idHash pkt.hdr.hops contextPathResponse)
      (n.withoutLeaves (n.answerOn pkt)))
  have may := @Router.Orderly.mayAnswer metered r _ pkt.hdr.destHash
    (ann.marshalPacketTransport n.idHash pkt.hdr.hops contextPathResponse) _ tables installed
  rw [← learn_sentOn] at may
  have sent := (tables.answer _).noteAnswers may pkt.iface
  exact .of_paid ((Router.Frugal.after books rfl sent).keeps learned) rfl

lemma Router.Sound.handleAnnounce (sound : r.Sound metered) (crypto : Crypto) (m : Medium)
    (pkt : Packet) : r.Keeps metered (r.handleAnnounce crypto m pkt) := by
  have orderly := sound.orderly
  have answerable := sound.answerable
  rw [Router.handleAnnounce, Node.handleAnnounce]
  cases parseAnnounce crypto pkt.hdr with
  | none => exact sound.quiet
  | some ann =>
    dsimp only
    split
    · exact Router.Sound.quiet (sound.of_same rfl rfl)
    have noted := answerable.noteAnnounce pkt
    have counted : Router.Sound metered { r with toNode := r.toNode.noteAnnounce pkt } :=
      ⟨orderly.of_agrees rfl, noted⟩
    split
    · exact .of_paid (counted.learn crypto m.delay pkt ann) rfl
    · exact counted.quiet

/-! ### Announces that are repeated -/

/-- A path response that is due has a policy where it costs money. -/
def Effect.Backed (metered : String → Bool) (n : Node) : Effect → Prop
  | .rebroadcast _ _ (some attached) _ => metered attached = true → n.hasPolicy attached = true
  | _ => True

lemma Effect.Backed.of_paid {effect : Effect} (backed : effect.Backed metered n)
    (same : n'.paid = n.paid) : effect.Backed metered n' := by
  cases effect with
  | rebroadcast dest raw only source =>
    cases only with
    | none => trivial
    | some attached =>
      rw [Effect.Backed, hasPolicy, same]
      exact backed
  | transmit | closeWaiter | pathChanged | announced => trivial

section
variable (orderly : r.Orderly metered) (free : ∀ id ∈ m.floodable, metered id = false)

include orderly free

lemma Router.Orderly.rebroadcast {effect : Effect}
    (backed : effect.Backed metered r.toNode) : r.Frugal metered (r.rebroadcast m effect) := by
  cases effect with
  | rebroadcast dest raw only source =>
    cases only with
    | none =>
      have taken := orderly.paidTake m dest .announce source
      have may := (orderly.mayFlood free dest .announce source).sublist
        (filter_sublist (p := fun id =>
          !(r.paidTake m dest .announce source).1.isLeaf id))
      exact .after (r.paidTake_sends m dest .announce source) rfl
        (@Router.Orderly.announceOn _ _ ⟨dest, raw, some source⟩ _ taken m may)
    | some attached =>
      rw [Router.rebroadcast]
      split
      · exact orderly.silent
      obtain ⟨kept, may⟩ := orderly.paidGate attached dest .announce
      have sends := r.paidGate_sends attached dest .announce
      dsimp only
      split
      · rename_i allowed
        exact .after sends rfl (kept.sendAnnounceOn m (may backed allowed))
      · exact .after sends rfl kept.silent
  | transmit | closeWaiter | pathChanged | announced => exact orderly.silent

lemma Router.Orderly.rebroadcastAll (backed : ∀ effect ∈ effects, effect.Backed metered r.toNode) :
    r.Frugal metered (r.rebroadcastAll m effects) := by
  induction effects generalizing r with
  | nil => exact orderly.silent
  | cons effect rest induction =>
    have first := orderly.rebroadcast free (backed effect mem_cons_self)
    apply first.append
    apply induction first.orderly
    intro other member
    exact (backed other (mem_cons_of_mem _ member)).of_paid first.sends.paid

end

lemma Node.Answerable.processAnnounceTable (answerable : n.Answerable metered) :
    n.processAnnounceTable.1.Answerable metered := by
  refine ⟨answerable.waiting, ?_, ?_⟩
  · intro next stored
    obtain ⟨e, before, processed⟩ := mem_filterMap.mp stored
    rcases processEntry_cases processed with ⟨held, _⟩ | repeats
    · exact answerable.held next held
    rw [repeats.attached]
    exact answerable.queued e before
  intro e stored
  exact answerable.held e (mem_deleteWhere.mp stored).1

lemma Node.Answerable.backed (answerable : n.Answerable metered) :
    ∀ effect ∈ n.processAnnounceTable.2, effect.Backed metered n := by
  intro effect member
  obtain ⟨e, due, rfl⟩ := mem_map.mp member
  have stored := (mem_filter.mp due).1
  by_cases flooded : e.attachedIface = ""
  · rw [if_pos flooded]
    trivial
  rw [if_neg flooded]
  exact answerable.queued e stored flooded

namespace Router

lemma Sound.processAnnounces (sound : r.Sound metered)
    (free : ∀ id ∈ m.floodable, metered id = false) : r.Keeps metered (r.processAnnounces m) := by
  have orderly := sound.orderly
  have processed : Orderly metered { r with toNode := r.toNode.processAnnounceTable.1 } :=
    orderly.of_agrees rfl
  refine .of_paid (Frugal.keeps (processed.rebroadcastAll free ?_)
    sound.answerable.processAnnounceTable) rfl
  intro effect member
  have due := (perm_insertionSort _ _).mem_iff.mp member
  exact (sound.answerable.backed effect due).of_paid rfl

lemma rotate_same (r : Router) : r.rotate.decided = r.decided ∧ r.rotate.asked = r.asked := by
  rw [rotate]
  split
  · split
    · exact ⟨rfl, rfl⟩
    · exact ⟨rfl, rfl⟩
  split
  · exact ⟨rfl, rfl⟩
  · exact ⟨rfl, rfl⟩

lemma Sound.jobs (sound : r.Sound metered)
    (free : ∀ id ∈ m.floodable, metered id = false) : r.Keeps metered (r.jobs m) := by
  have sent := sound.processAnnounces free
  have orderly := sent.sound.orderly
  have answerable := sent.sound.answerable
  have swept : Sound metered
      { (r.processAnnounces m).1 with
        toNode := (r.processAnnounces m).1.toNode.expireTables.expireDiscovery } := by
    refine ⟨orderly.of_agrees rfl, ⟨?_, answerable.queued, answerable.held⟩⟩
    intro d stored
    exact answerable.waiting d (mem_deleteWhere.mp stored).1
  obtain ⟨agrees, same⟩ := rotate_same
    { (r.processAnnounces m).1 with
      toNode := (r.processAnnounces m).1.toNode.expireTables.expireDiscovery }
  refine ⟨swept.of_same agrees same, sent.listed, ?_⟩
  intro s member
  rw [Router.jobs]
  have log := congrArg (·.2.2.2) agrees
  rw [show Router.log _ = _ from log]
  exact sent.logged s member

/-! ### Packets in transit -/

/-- What is carried for others is no background traffic. -/
structure Carries (r : Router) (out : Routed) : Prop where
  tables : ∃ linkTable reverseTable paths hashlist, out.1 =
    { r with
      linkTable := linkTable
      reverseTable := reverseTable
      paths := paths
      hashlist := hashlist }
  transit : ∀ s ∈ out.2, s.traffic = .transit

lemma Carries.nothing : r.Carries (r, []) :=
  ⟨⟨r.linkTable, r.reverseTable, r.paths, r.hashlist, rfl⟩,
    fun _ member => absurd member not_mem_nil⟩

lemma Carries.one (pkt : Packet) (ifaceID : String) (h : Header)
    (tables : ∃ linkTable reverseTable paths hashlist, r' =
      { r with
        linkTable := linkTable
        reverseTable := reverseTable
        paths := paths
        hashlist := hashlist }) :
    r.Carries (r', [relay pkt ifaceID h]) := by
  refine ⟨tables, ?_⟩
  intro s member
  rw [mem_singleton.mp member]
  rfl

lemma Carries.keeps (carries : r.Carries out) (sound : r.Sound metered) : r.Keeps metered out := by
  obtain ⟨⟨_, _, _, _, same⟩, transit⟩ := carries
  constructor
  · rw [same]
    exact sound.of_same rfl rfl
  · intro s member _
    rw [transit s member]
    trivial
  intro s member
  rw [Sent.LoggedIn, transit s member]
  trivial

lemma forwardTransport_carries (forwarded : r.forwardTransport x m pkt = some out) :
    r.Carries out := by
  rw [forwardTransport] at forwarded
  dsimp only at forwarded
  split at forwarded
  · cases forwarded
  split at forwarded
  · cases forwarded
    exact .nothing
  split at forwarded
  · split at forwarded
    · cases forwarded
      exact .nothing
    · cases forwarded
      exact .one pkt _ _ ⟨_, r.reverseTable, _, r.hashlist, rfl⟩
  · cases forwarded
    exact .one pkt _ _ ⟨r.linkTable, _, _, r.hashlist, rfl⟩

lemma forwardHeader1_carries (r : Router) : r.Carries (r.forwardHeader1 x pkt) := by
  rw [forwardHeader1]
  split
  · exact .nothing
  split
  · exact .nothing
  split
  · exact .nothing
  split
  · exact .nothing
  apply Carries.one
  split
  · split
    · exact ⟨_, r.reverseTable, r.paths, r.hashlist, rfl⟩
    · exact ⟨r.linkTable, r.reverseTable, r.paths, r.hashlist, rfl⟩
  · exact ⟨r.linkTable, _, r.paths, r.hashlist, rfl⟩

lemma linkTransit_carries (carried : r.linkTransit pkt = some out) : r.Carries out := by
  rw [linkTransit] at carried
  split at carried
  · cases carried
  split at carried
  · cases carried
    exact .nothing
  split at carried
  · cases carried
    exact .nothing
  · cases carried
    exact .one pkt _ _ ⟨_, r.reverseTable, r.paths, _, rfl⟩

lemma lrProofTransit_carries (carried : r.lrProofTransit x pkt = some out) : r.Carries out := by
  rw [lrProofTransit] at carried
  split at carried
  · cases carried
  split at carried
  · cases carried
    exact .nothing
  split at carried
  · cases carried
    exact .nothing
  split at carried
  · cases carried
    exact .one pkt _ _ ⟨_, r.reverseTable, r.paths, r.hashlist, rfl⟩
  · cases carried
    exact .nothing

lemma proofTransit_carries (r : Router) (pkt : Packet) : r.Carries (r.proofTransit pkt) := by
  rw [proofTransit]
  split
  · exact .nothing
  split
  · exact ⟨⟨r.linkTable, _, r.paths, r.hashlist, rfl⟩, Carries.nothing.transit⟩
  · exact .one pkt _ _ ⟨r.linkTable, _, r.paths, r.hashlist, rfl⟩

end Router

/-! ## Steps -/

/-- A path request that arrives on an interface that costs money finds a
policy there. -/
def Node.Invited (metered : String → Bool) (n : Node)
    (pathRequestDest : TruncatedHash) (h : Header) (ifaceID : String) :
    Prop :=
  h.packetType = .data → h.destType = .plain →
    h.destHash = pathRequestDest → metered ifaceID = true → n.hasPolicy ifaceID = true

section
variable (sound : r.Sound metered) (crypto : Crypto) (x : LinkChecks)
  (free : ∀ id ∈ m.floodable, metered id = false)
  (invited : r.Invited metered r.pathRequestDest pkt.hdr pkt.iface)

include sound crypto x free invited

lemma Router.Sound.dispatch : r.Keeps metered (r.dispatch crypto x m pkt) := by
  rw [Router.dispatch]
  split
  · exact sound.handleAnnounce crypto m pkt
  · split
    · exact sound.quiet
    · exact r.forwardHeader1_carries.keeps sound
  · rename_i isData
    split
    · exact sound.quiet
    · exact sound.quiet
    · rename_i isPlain
      split
      · rename_i asked
        exact sound.handlePathRequest free (invited isData isPlain asked)
      · exact sound.quiet
    split
    · exact sound.quiet
    · exact r.forwardHeader1_carries.keeps sound
  split
  · cases carried : r.lrProofTransit x pkt with
    | none => exact sound.quiet
    | some out => exact (lrProofTransit_carries carried).keeps sound
  split
  · exact sound.quiet
  · exact (r.proofTransit_carries pkt).keeps sound

lemma Router.Sound.route : r.Keeps metered (r.route crypto x m pkt) := by
  have dispatched := sound.dispatch crypto x free invited
  have onward : r.Keeps metered (if pkt.hdr.packetType ≠ .announce ∧
          pkt.hdr.packetType ≠ .linkRequest ∧ pkt.hdr.context ≠ contextLRProof then
        (r.linkTransit pkt).getD (r.dispatch crypto x m pkt)
      else r.dispatch crypto x m pkt) := by
    split
    · cases carried : r.linkTransit pkt with
      | none => exact dispatched
      | some out => exact (linkTransit_carries carried).keeps sound
    · exact dispatched
  rw [Router.route]
  split
  · split
    · exact sound.quiet
    split
    · rename_i out forwarded
      exact (forwardTransport_carries forwarded).keeps sound
    split
    · exact onward
    · exact sound.quiet
  · exact onward

end

namespace Router

lemma countHops_unwrapNeighbour (r : Router) :
    (r.countHops (r.unwrapNeighbour h) ifaceID).packetType = h.packetType ∧
    (r.countHops (r.unwrapNeighbour h) ifaceID).destType = h.destType ∧
    (r.countHops (r.unwrapNeighbour h) ifaceID).destHash = h.destHash := by
  have unwrapped : (r.unwrapNeighbour h).packetType = h.packetType ∧
      (r.unwrapNeighbour h).destType = h.destType ∧
      (r.unwrapNeighbour h).destHash = h.destHash := by
    rw [unwrapNeighbour]
    split
    · rw [stripTransport]
      split
      · exact ⟨rfl, rfl, rfl⟩
      · exact ⟨rfl, rfl, rfl⟩
    · exact ⟨rfl, rfl, rfl⟩
  rw [countHops]
  split
  · exact unwrapped
  · exact unwrapped

lemma Sound.inbound (sound : r.Sound metered) (crypto : Crypto)
    (x : LinkChecks) (free : ∀ id ∈ m.floodable, metered id = false)
    (invited : r.Invited metered r.pathRequestDest hdr ifaceID) (hash : FullHash) :
    r.Keeps metered (r.inbound crypto x m hdr hash ifaceID) := by
  have arrived : r.Invited metered r.pathRequestDest
      (r.countHops (r.unwrapNeighbour hdr) ifaceID) ifaceID := by
    obtain ⟨type, destType, dest⟩ := r.countHops_unwrapNeighbour
    rw [Node.Invited, type, destType, dest]
    exact invited
  have remembered : (r.remember hash).Sound metered := sound.of_same rfl rfl
  rw [Router.inbound]
  dsimp only
  split
  · exact sound.quiet
  split
  · exact .of_paid (remembered.route crypto x free arrived) rfl
  · exact sound.route crypto x free arrived

/-- What a change of policies must not take away: the policy of an interface
where an answer is waited for, and a destination whose announce is queued. -/
structure MayReplace (r : Router) (p : PaidPolicy) : Prop where
  queued : ∀ q ∈ r.announceQueue.entries, q.iface = p.iface →
    ∀ a ∈ q.pending, p.allows a.dest = true
  unwaited : p.dests = [] → (∀ d ∈ r.discoveryPRs.entries, p.iface ∉ d.requestingIfaces) ∧
      (∀ e ∈ r.announceTable.entries, e.attachedIface ≠ p.iface) ∧
      ∀ e ∈ r.heldAnnounces.entries, e.attachedIface ≠ p.iface

lemma get?_setPaidPolicy (r : Router) (named : p.dests ≠ []) (ifaceID : String) :
    (r.setPaidPolicy p).paid.get? ifaceID =
      if ifaceID = p.iface then
        some { p with
          minInterval :=
            if p.minInterval ≤ 0 then defaultPaidMinInterval
            else p.minInterval }
      else r.paid.get? ifaceID := by
  rw [setPaidPolicy, if_neg named]
  exact get?_put ..

lemma get?_setPaidPolicy_of_ne (r : Router) (other : ifaceID ≠ p.iface) :
    (r.setPaidPolicy p).paid.get? ifaceID = r.paid.get? ifaceID := by
  by_cases named : p.dests = []
  · rw [setPaidPolicy, if_pos named]
    rw [get?_deleteWhere]
    cases found : r.paid.get? ifaceID with
    | none => rfl
    | some q =>
      have same := key_of_get? found
      apply Option.filter_eq_some_iff.mpr
      refine ⟨rfl, ?_⟩
      rw [Bool.not_eq_true', decide_eq_false_iff_not, same]
      exact other
  · rw [get?_setPaidPolicy r named, if_neg other]

lemma hasPolicy_setPaidPolicy (kept : ifaceID = p.iface → p.dests ≠ [])
    (installed : r.hasPolicy ifaceID = true) : (r.setPaidPolicy p).hasPolicy ifaceID = true := by
  rw [hasPolicy] at installed ⊢
  by_cases same : ifaceID = p.iface
  · rw [get?_setPaidPolicy r (kept same), if_pos same]
    rfl
  · rwa [get?_setPaidPolicy_of_ne r same]

lemma Orderly.setPaidPolicy (orderly : r.Orderly metered)
    (may : metered p.iface = true → r.MayReplace p) : (r.setPaidPolicy p).Orderly metered := by
  have queue : (r.setPaidPolicy p).announceQueue = r.announceQueue := by
    rw [Router.setPaidPolicy]
    split
    · rfl
    · rfl
  have log : (r.setPaidPolicy p).log = r.log ∧ (r.setPaidPolicy p).paidLast = r.paidLast := by
    rw [Router.setPaidPolicy]
    split
    · exact ⟨rfl, rfl⟩
    · exact ⟨rfl, rfl⟩
  refine ⟨?_, ?_, ?_, ?_, ?_⟩
  · intro q stored
    rw [Router.setPaidPolicy] at stored
    split at stored
    · exact orderly.positive q (mem_deleteWhere.mp stored).1
    rcases mem_put.mp stored with rfl | ⟨before, _⟩
    · dsimp only
      split
      · decide
      · omega
    · exact orderly.positive q before
  · rw [queue]
    intro q stored costs a waiting
    rw [lists]
    by_cases same : q.iface = p.iface
    · have allowed := (may (same ▸ costs)).queued q stored same a waiting
      have named : p.dests ≠ [] := by
        intro empty
        rw [PaidPolicy.allows, empty] at allowed
        cases allowed
      rw [get?_setPaidPolicy r named, if_pos same]
      exact allowed
    rw [get?_setPaidPolicy_of_ne r same]
    exact orderly.queued q stored costs a waiting
  · rw [queue, log.1]
    exact orderly.noted
  · rw [log.1, log.2]
    exact orderly.booked
  rw [log.1]
  exact orderly.spaced

section
variable (sound : r.Sound metered)

include sound

lemma Sound.setPaidPolicy
    (may : metered p.iface = true → r.MayReplace p) : (r.setPaidPolicy p).Sound metered := by
  have answerable := sound.answerable
  refine ⟨sound.orderly.setPaidPolicy may, ?_⟩
  have tables : (r.setPaidPolicy p).discoveryPRs = r.discoveryPRs ∧
      (r.setPaidPolicy p).announceTable = r.announceTable ∧
      (r.setPaidPolicy p).heldAnnounces = r.heldAnnounces := by
    rw [Router.setPaidPolicy]
    split
    · exact ⟨rfl, rfl, rfl⟩
    · exact ⟨rfl, rfl, rfl⟩
  obtain ⟨discovery, announces, held⟩ := tables
  refine ⟨?_, ?_, ?_⟩
  · rw [discovery]
    intro d stored id asked costs
    apply hasPolicy_setPaidPolicy
    · rintro rfl removed
      exact ((may costs).unwaited removed).1 d stored asked
    · exact answerable.waiting d stored id asked costs
  · rw [announces]
    intro e stored named costs
    apply hasPolicy_setPaidPolicy
    · intro same removed
      exact ((may (same ▸ costs)).unwaited removed).2.1 e stored same
    · exact answerable.queued e stored named costs
  rw [held]
  intro e stored named costs
  apply hasPolicy_setPaidPolicy
  · intro same removed
    exact ((may (same ▸ costs)).unwaited removed).2.2 e stored same
  · exact answerable.held e stored named costs

lemma Sound.setLeaf (ifaceID : String) (leaf : Bool) :
    Sound metered { r with toNode := r.toNode.setLeaf ifaceID leaf } := by
  have orderly := sound.orderly
  have answerable := sound.answerable
  rw [Node.setLeaf]
  split
  · exact sound
  refine ⟨orderly.of_agrees rfl, ⟨?_, ?_, ?_⟩⟩
  · exact fun d stored =>
      answerable.waiting d (mem_deleteWhere.mp stored).1
  · exact fun e stored =>
      answerable.queued e (mem_deleteWhere.mp stored).1
  exact fun e stored =>
    answerable.held e (mem_deleteWhere.mp stored).1

lemma Sound.stopWaiting (dest : TruncatedHash) (channel : Nat) :
    (r.stopWaiting dest channel).Sound metered := by
  rw [Router.stopWaiting]
  split
  · exact sound
  · exact sound.of_same rfl rfl

end

end Router

end

/-- No request is heard and nothing is announced on an interface that costs
money unless it has a policy, and policies are changed only where nothing
waits for what they take away. -/
def Router.Prepaid (metered : String → Bool) (r : Router) : RouterAction → Prop
  | .inbound _ hdr _ ifaceID => r.Invited metered r.pathRequestDest hdr ifaceID
  | .announce _ _ ifaceID _ => ifaceID ≠ "" → metered ifaceID = true → r.hasPolicy ifaceID = true
  | .setPaidPolicy p => metered p.iface = true → r.MayReplace p
  | _ => True

lemma Router.Sound.step {metered : String → Bool} {r : Router}
    (sound : r.Sound metered) (crypto : Crypto) (x : LinkChecks) {action : RouterAction}
    (free : ∀ id ∈ action.floodable, metered id = false) (prepaid : r.Prepaid metered action) :
    r.Keeps metered (r.step crypto x action) := by
  have unpaid : ∀ {r' : Router}, r'.decided = r.decided → r'.asked = r.asked →
      r.Keeps metered (r', []) :=
    fun agrees same => (sound.of_same agrees same).quiet
  cases action with
  | inbound m hdr hash ifaceID => exact sound.inbound crypto x free prepaid hash
  | jobs m => exact sound.jobs free
  | flush m ifaceID => exact (sound.orderly.flushAnnounceQueue m ifaceID).keeps sound.answerable
  | announce m dest ifaceID pathResponse => exact sound.announce free prepaid dest pathResponse
  | requestPath m dest freeOnly channel tag =>
    exact sound.requestPathWith free dest freeOnly channel tag
  | stopWaiting dest channel => exact (sound.stopWaiting dest channel).quiet
  | setPaidPolicy p => exact (sound.setPaidPolicy prepaid).quiet
  | setLeaf ifaceID leaf => exact (sound.setLeaf ifaceID leaf).quiet
  | addDestination | putPath | removePath | usePath | rememberIdentity | tick =>
    exact unpaid rfl rfl

/-! ## Runs -/

def Router.MayStep (metered : String → Bool) (r : Router) (action : RouterAction) : Prop :=
  (∀ id ∈ action.floodable, metered id = false) ∧ r.Prepaid metered action

lemma Router.new_sound {metered : String → Bool} {idHash pathRequestDest : TruncatedHash}
    {pathTTL now : Int} {forwardHeader1From : List String} :
    (Router.new idHash pathRequestDest pathTTL now forwardHeader1From).Sound metered :=
  ⟨⟨forall_mem_nil _, forall_mem_nil _, forall_mem_nil _, forall_mem_nil _, .nil⟩,
    ⟨forall_mem_nil _, forall_mem_nil _, forall_mem_nil _⟩⟩

/-- In every run of prepaid steps, background traffic on an interface that is
never flooded is for a destination its policy lists, every such send was
decided before, and two decisions for one destination on one interface are as
far apart as the policy asks. -/
theorem paid_links_carry_listed (crypto : Crypto) (x : LinkChecks)
    (metered : String → Bool) (idHash pathRequestDest : TruncatedHash)
    (pathTTL now : Int) (forwardHeader1From : List String) {r : Router} {action : RouterAction}
    (run : (routerSystem crypto x (Router.new idHash pathRequestDest pathTTL
        now forwardHeader1From)).Reaches (Router.MayStep metered)
      (Router.new idHash pathRequestDest pathTTL now forwardHeader1From) r)
    (may : r.MayStep metered action) : (∀ s ∈ (r.step crypto x action).2, metered s.iface = true →
      ∀ dest, s.traffic = .announce dest ∨ s.traffic = .pathRequest dest →
        r.lists s.iface dest = true) ∧ (∀ s ∈ (r.step crypto x action).2,
      s.LoggedIn (r.step crypto x action).1.log) ∧
    (r.step crypto x action).1.log.Pairwise fun later earlier =>
      later.key = earlier.key → metered later.key.iface = true →
        earlier.time + later.interval ≤ later.time := by
  have sound : r.Sound metered := by
    apply run.preserves
    · intro r' a next kept permitted executed
      cases executed
      exact (kept.step crypto x permitted.1 permitted.2).sound
    · exact new_sound
  have kept := sound.step crypto x may.1 may.2
  refine ⟨?_, kept.logged, kept.sound.orderly.spaced⟩
  intro s member costs dest background
  have listed := kept.listed s member costs
  rcases background with announce | pathRequest
  · rw [announce] at listed
    exact listed
  rw [pathRequest] at listed
  exact listed

def satelliteMedium : Medium where
  floodable := ["mesh_0"]
  online := fun _ => true
  bitrate := fun _ => 0
  hwmtu := fun _ => 0
  wait := fun length _ => length
  fresh := fun dest _ => some dest.bytes
  delay := 0
  rank := fun _ => 0

def satellitePolicy (dests : List TruncatedHash) : PaidPolicy where
  iface := "iridium_0"
  dests := dests
  minInterval := 0
  bitrate := 300
  extraHops := 0

def pathRequestFor (node dest : TruncatedHash) : Header where
  headerType := .type1
  contextFlag := false
  transportType := .broadcast
  destType := .plain
  packetType := .data
  hops := 0
  transportID := FixedBytes.zero _
  destHash := node
  context := contextNone
  data := dest.bytes ++ [1]

def satelliteNode : Router := .new (FixedBytes.copy _ [1]) (FixedBytes.copy _ [2]) 0 0 []

/-- An announce of a listed destination goes over both links. -/
theorem paid_links_carry_listed_satellite :
    let policy := RouterAction.setPaidPolicy (satellitePolicy [FixedBytes.copy _ [3]])
    let r := (satelliteNode.step permissiveCrypto noLinks policy).1
    let out := r.step permissiveCrypto noLinks
      (.announce satelliteMedium (FixedBytes.copy _ [3]) "" false)
    out.2.map Sent.iface = ["mesh_0", "iridium_0"] ∧ (∀ s ∈ out.2, (s.iface == "iridium_0") = true →
        ∀ dest, s.traffic = .announce dest ∨ s.traffic = .pathRequest dest →
          r.lists s.iface dest = true) ∧ (∀ s ∈ out.2, s.LoggedIn out.1.log) ∧
      out.1.log.Pairwise fun later earlier =>
        later.key = earlier.key → (later.key.iface == "iridium_0") = true →
          earlier.time + later.interval ≤ later.time := by
  intro policy r out
  refine ⟨by decide +kernel, ?_⟩
  apply paid_links_carry_listed permissiveCrypto noLinks
    (fun id => id == "iridium_0") (FixedBytes.copy _ [1]) (FixedBytes.copy _ [2]) 0 0 []
  · refine .step policy (.refl _) ⟨forall_mem_nil _, ?_⟩ rfl
    intro _
    refine ⟨forall_mem_nil _, ?_⟩
    intro removed
    cases removed
  refine ⟨?_, ?_⟩
  · intro id member
    rw [mem_singleton.mp member]
    decide
  intro named
  exact absurd rfl named

/-- A path request is answered on a paid interface without a policy, and an
announce that waited leaves after the policy was removed. -/
theorem paid_link_carries_unlisted : (let r := (satelliteNode.step permissiveCrypto noLinks
        (.addDestination (FixedBytes.copy _ [3]))).1
      let out := r.step permissiveCrypto noLinks (.inbound satelliteMedium
          (pathRequestFor (FixedBytes.copy _ [2]) (FixedBytes.copy _ [3]))
          (FixedBytes.zero _) "iridium_0")
      out.2.map (fun s => (s.iface, s.traffic)) =
          [("iridium_0", .announce (FixedBytes.copy _ [3]))] ∧
        r.lists "iridium_0" (FixedBytes.copy _ [3]) = false) ∧
    (let announce := fun id : UInt8 =>
        RouterAction.announce satelliteMedium (FixedBytes.copy _ [id]) "" false
      let r := (routerSystem permissiveCrypto noLinks satelliteNode).runFrom
        satelliteNode
        [.setPaidPolicy (satellitePolicy [FixedBytes.copy _ [3], FixedBytes.copy _ [4]]),
          announce 3, announce 4, .setPaidPolicy (satellitePolicy [])]
      let out := r.step permissiveCrypto noLinks (.flush satelliteMedium "iridium_0")
      out.2.map (fun s => (s.iface, s.traffic)) =
          [("iridium_0", .announce (FixedBytes.copy _ [4]))] ∧
        r.lists "iridium_0" (FixedBytes.copy _ [4]) = false) := by
  decide +kernel

end MeshSat.Rns
