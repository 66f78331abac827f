import MeshSat.Hub.Receiver

/-!
# A message is stored once

The entry of an operation goes a day after the operation's deadline and skew.
A message may have a later operation, so its last entry may go while an
operation of it can still be in time. A message is stored at most once as
long as no operation's deadline is more than the retention before its
message's, and a message id of an origin names one message deadline.
-/

namespace MeshSat.Hub

open Library TransitionSystem

section
variable {sha256 : List UInt8 → List UInt8}

section
variable (s : Receiver)

/-- The origin and message id of every message stored, newest first. -/
def Receiver.storedMids : List (String × String) :=
  (s.answers.filter fun given => given.2.storedNow).map fun given =>
    (given.1.origin, given.1.mid)

def clockForward : InboxAction → Bool
  | .deliver _ now clockEstablished => clockEstablished && s.clock ≤ now
  | .prune now => s.clock ≤ now
  | _ => true

/-- The operation's entry is kept until the message's own deadline and skew
are past, and the message has the deadline it was stored with. -/
def retainedToMidDeadline : InboxAction → Bool
  | .deliver d _ _ =>
    d.midExpiresAt.toInt ≤ d.expiresAt.toInt + retentionAfterExpiryMs && s.answers.all fun given =>
        !(given.2.storedNow && given.1.origin = d.origin && given.1.mid = d.mid) ||
          given.1.midExpiresAt = d.midExpiresAt
  | _ => true

def storesOnce (action : InboxAction) : Bool :=
  clockForward s action && retainedToMidDeadline s action

end

/-! ## The deadline of a message outlives its entries -/

/-- An entry of the message is kept, or no operation of it is in time. -/
def Receiver.Remembers (s : Receiver) (d : Delivery) : Prop :=
  (∃ e ∈ s.db.inbox, e.origin = d.origin ∧ e.mid = d.mid ∧ e.midExpiresAt = d.midExpiresAt) ∨
  d.midExpiresAt.toInt + skewMs.toInt < s.clock.toInt

structure Receiver.StoresOnce (s : Receiver) : Prop where
  retained : ∀ e ∈ s.db.inbox, e.midExpiresAt.toInt ≤ e.expiresAt.toInt + retentionAfterExpiryMs
  remembered : ∀ d answer, (d, answer) ∈ s.answers → answer.storedNow = true → s.Remembers d
  nodup : s.storedMids.Nodup

variable {now : Int64} {d : Delivery} {s next : Receiver}

lemma expired_of_pastRetention {e : InboxEntry}
    (retained : e.midExpiresAt.toInt ≤ e.expiresAt.toInt + retentionAfterExpiryMs)
    (past : e.pastRetention now = true) : e.midExpiresAt.toInt + skewMs.toInt < now.toInt := by
  have gone := of_decide_eq_true past
  omega

variable {withinSkew unjudged : Bool}

/-- A delivery that the established clock lets through is in time; the sum
the code compares with may have wrapped around. -/
lemma inTime_of_judge (judged : judge d now true = some (withinSkew, unjudged)) :
    now.toInt ≤ d.expiresAt.toInt + skewMs.toInt := by
  simp only [judge, Bool.not_true, Bool.false_eq_true, if_false] at judged
  split at judged
  · cases judged
  next late =>
  have inTime := Int64.le_iff_toInt_le.mp (Int64.not_lt.mp late)
  have low := d.expiresAt.le_toInt
  have skew : skewMs.toInt = 120000 := by decide
  rw [Int64.toInt_add, skew, Int.bmod_def] at inTime
  rw [skew]
  split at inTime
  · omega
  · omega

section
variable (once : s.StoresOnce)

include once

namespace Receiver

lemma Remembers.step (remembers : s.Remembers d)
    (forward : s.clock ≤ now) (clock : next.clock = now)
    (kept : ∀ e ∈ s.db.inbox, e ∈ next.db.inbox ∨ e.pastRetention now = true) :
    next.Remembers d := by
  rcases remembers with ⟨e, member, origin, mid, deadline⟩ | expired
  · rcases kept e member with still | past
    · exact .inl ⟨e, still, origin, mid, deadline⟩
    right
    rw [clock, ← deadline]
    exact expired_of_pastRetention (once.retained e member) past
  right
  rw [clock]
  exact Int.lt_of_lt_of_le expired (Int64.le_iff_toInt_le.mp forward)

namespace StoresOnce

lemma of_inbox (inbox : next.db.inbox = s.db.inbox) (clock : next.clock = s.clock)
    (answers : next.answers = s.answers) : next.StoresOnce := by
  obtain ⟨⟨_, messages, handoffs⟩, _, _⟩ := next
  cases inbox
  cases clock
  cases answers
  exact { once with }

lemma prune (forward : s.clock ≤ now) :
    StoresOnce { s with db := s.db.pruneBefore now, clock := now } where
  retained e member := once.retained e (Keyed.mem_deleteWhere.mp member).1
  remembered d answer member storedNow := by
    refine (once.remembered d answer member storedNow).step once forward rfl ?_
    intro e kept
    cases past : e.pastRetention now with
    | true => exact .inr rfl
    | false => exact .inl (Keyed.mem_deleteWhere.mpr ⟨kept, past⟩)
  nodup := once.nodup

variable {answer : Answer}

lemma answered
    {db : InboxDB} (forward : s.clock ≤ now) (notNow : answer.storedNow = false)
    (retained : ∀ e ∈ db.inbox, e.midExpiresAt.toInt ≤ e.expiresAt.toInt + retentionAfterExpiryMs)
    (kept : ∀ e ∈ s.db.inbox, e ∈ db.inbox ∨ e.pastRetention now = true) :
    StoresOnce ⟨db, now, (d, answer) :: s.answers⟩ where
  retained
  remembered other given member storedNow := by
    rcases List.mem_cons.mp member with new | old
    · cases new
      rw [notNow] at storedNow
      cases storedNow
    · exact (once.remembered other given old storedNow).step once forward rfl kept
  nodup := by
    have same : storedMids ⟨db, now, (d, answer) :: s.answers⟩ = s.storedMids := by
      simp [storedMids, notNow]
    rw [same]
    exact once.nodup

lemma unstored (forward : s.clock ≤ now) (deadline : d.expiresAt ≤ d.midExpiresAt)
    (new : ∀ e ∈ s.db.inbox, e.origin = d.origin → e.mid ≠ d.mid)
    (judged : judge d now true = some (withinSkew, unjudged))
    (same : ∀ other given, (other, given) ∈ s.answers →
      given.storedNow = true → other.origin = d.origin → other.mid = d.mid →
      other.midExpiresAt = d.midExpiresAt) : (d.origin, d.mid) ∉ s.storedMids := by
  intro member
  obtain ⟨⟨other, given⟩, listed, named⟩ := List.mem_map.mp member
  obtain ⟨answered, storedNow⟩ := List.mem_filter.mp listed
  obtain ⟨origin, mid⟩ := Prod.mk.inj named
  rcases once.remembered other given answered storedNow with
    ⟨e, kept, sameOrigin, sameMid, _⟩ | expired
  · exact new e kept (sameOrigin.trans origin) (sameMid.trans mid)
  have inTime := inTime_of_judge judged
  rw [same other given answered storedNow origin mid] at expired
  have notBefore := Int64.le_iff_toInt_le.mp forward
  have within := Int64.le_iff_toInt_le.mp deadline
  omega

lemma deliver {capacity : Nat} {db : InboxDB}
    (committed : Committed sha256 d now true capacity s.db answer db) (forward : s.clock ≤ now)
    (retained : d.midExpiresAt.toInt ≤ d.expiresAt.toInt + retentionAfterExpiryMs)
    (same : ∀ other given, (other, given) ∈ s.answers →
      given.storedNow = true → other.origin = d.origin → other.mid = d.mid →
      other.midExpiresAt = d.midExpiresAt) :
    StoresOnce ⟨db, now, (d, answer) :: s.answers⟩ := by
  have roomKept : ∀ e ∈ s.db.inbox, e ∈ (s.db.makeRoom now capacity).inbox ∨
        e.pastRetention now = true := by
    intro e member
    cases past : e.pastRetention now with
    | true => exact .inr rfl
    | false => exact .inl (makeRoom_keeps member past)
  have roomRetained : ∀ e ∈ (s.db.makeRoom now capacity).inbox,
      e.midExpiresAt.toInt ≤ e.expiresAt.toInt + retentionAfterExpiryMs :=
    fun e member => once.retained e (mem_makeRoom member)
  have written {withinSkew unjudged : Bool} {messageID : Nat} :
      ∀ e ∈ (s.db.makeRoom now capacity).inbox.insertOrIgnore
          (d.entry now withinSkew unjudged messageID), e.midExpiresAt.toInt ≤
          e.expiresAt.toInt + retentionAfterExpiryMs := by
    intro e member
    rcases Keyed.mem_insertOrIgnore.mp member with old | ⟨_, rfl⟩
    · exact roomRetained e old
    · exact retained
  have writtenKept {withinSkew unjudged : Bool} {messageID : Nat} : ∀ e ∈ s.db.inbox,
        e ∈ (s.db.makeRoom now capacity).inbox.insertOrIgnore
          (d.entry now withinSkew unjudged messageID) ∨ e.pastRetention now = true := by
    intro e member
    refine (roomKept e member).imp_left fun kept => ?_
    exact Keyed.mem_insertOrIgnore.mpr (.inl kept)
  cases committed with
  | refused reason =>
    exact once.answered forward rfl once.retained fun e member =>
      .inl member
  | busy => exact once.answered forward rfl roomRetained roomKept
  | repeated e _ _ _ _ _ =>
    exact once.answered forward rfl once.retained fun e member =>
      .inl member
  | joined known withinSkew unjudged _ _ _ _ _ _ _ =>
    exact once.answered forward rfl written writtenKept
  | stored withinSkew unjudged checked new judged _ unknown _ =>
    refine ⟨written, ?_, ?_⟩
    · intro other given member storedNow
      rcases List.mem_cons.mp member with isNew | old
      · cases isNew
        exact .inl ⟨_, Keyed.mem_insertOrIgnore.mpr (.inr ⟨unknown, rfl⟩), rfl, rfl, rfl⟩
      · exact (once.remembered other given old storedNow).step once forward rfl writtenKept
    · exact List.nodup_cons.mpr ⟨once.unstored forward checked.deadline new judged same, once.nodup⟩

lemma step (permitted : storesOnce s action = true)
    (executed : execInbox sha256 capacity s action = some next) : next.StoresOnce := by
  obtain ⟨clock, retained⟩ := Bool.and_eq_true_iff.mp permitted
  cases action with
  | deliver d now clockEstablished =>
    obtain ⟨answer, db, rfl, committed⟩ := execInbox_deliver executed
    simp only [clockForward, Bool.and_eq_true, decide_eq_true_eq] at clock
    obtain ⟨rfl, forward⟩ := clock
    simp only [retainedToMidDeadline, Bool.and_eq_true, decide_eq_true_eq,
      List.all_eq_true, Bool.or_eq_true, Bool.not_eq_true',
      Bool.and_eq_false_imp, decide_eq_false_iff_not] at retained
    refine once.deliver committed forward retained.1 ?_
    intro other given member storedNow origin mid
    rcases retained.2 _ member with different | same
    · exact (different ⟨storedNow, origin⟩ mid).elim
    · exact same
  | prune now =>
    cases executed
    exact once.prune (of_decide_eq_true clock)
  | handedOff messageID now =>
    cases executed
    exact once.of_inbox rfl rfl rfl
  | otherMessage make =>
    cases executed
    exact once.of_inbox rfl rfl rfl
  | forgetMessages selected =>
    cases executed
    exact once.of_inbox rfl rfl rfl

end StoresOnce

end Receiver

end

/-- A message is stored at most once.

In every run with an established clock that does not go back, and in which
every delivered operation's deadline is at most the retention before its
message's, and every delivery of a message that was stored names the deadline
it was stored with, no origin and message id is stored twice. Each answer
that stores a message writes its row and a pending hand-off. -/
theorem message_stored_once {capacity : Int} {s : Receiver}
    (run : (inboxSystem sha256 capacity).Reaches (fun s action => storesOnce s action = true)
      (inboxSystem sha256 capacity).initial s) : s.storedMids.Nodup ∧ ∀ d now clockEstablished next,
        (inboxSystem sha256 capacity).exec s (.deliver d now clockEstablished) = some next →
        ∃ answer, next.answers = (d, answer) :: s.answers ∧
          (answer.storedNow = true → s.Wrote next d answer) := by
  have once : s.StoresOnce := by
    refine run.preserves (fun s action next once permitted executed =>
      once.step permitted executed) ⟨?_, ?_, List.nodup_nil⟩
    · intro e member
      cases member
    intro d answer member
    cases member
  refine ⟨once.nodup, ?_⟩
  intro d now clockEstablished next executed
  obtain ⟨answer, given, _, wrote⟩ := execInbox_wrote executed
  exact ⟨answer, given, wrote⟩

end

def twoDays : Int64 := 172800000

/-- The first operation's entry is pruned after the message's deadline; the
second operation is then too late. -/
theorem message_stored_once_pruned :
    let system := inboxSystem byteSum 2
    let s := system.runFrom system.initial
      [.deliver (operation firstOp 1000 2000) 500 true, .prune twoDays,
        .deliver (operation secondOp 2000 2000) twoDays true]
    s.db.count = 0 ∧ s.storedMids.Nodup := by
  intro system s
  have run : system.Reaches (fun s action => storesOnce s action = true) system.initial s :=
    .of_guarded_runFrom (by decide +kernel)
  exact ⟨by decide +kernel, (message_stored_once run).1⟩

/-- The message's deadline is two days after the first operation's. -/
def storedTwice : Receiver :=
  (inboxSystem byteSum 2).runFrom (inboxSystem byteSum 2).initial
    [.deliver (operation firstOp 1000 (1000 + twoDays)) 500 true, .prune 86600000,
      .deliver (operation secondOp (1000 + twoDays) (1000 + twoDays)) 86600001 true]

/-- The second operation is in time, and no entry of its message is kept. -/
theorem message_stored_twice : (inboxSystem byteSum 2).Reaches
        (fun s action => clockForward s action = true) (inboxSystem byteSum 2).initial storedTwice ∧
      ¬ storedTwice.storedMids.Nodup ∧ storedTwice.answers.map (fun given =>
        (given.1.origin, given.1.mid, given.2.storedNow, given.2.messageID)) =
        [("origin", "01920000-0000-7000-8000-00000000000a", true, 2),
          ("origin", "01920000-0000-7000-8000-00000000000a", true, 1)] ∧
      storedTwice.db.handoffs.entries.length = 2 :=
  ⟨.of_guarded_runFrom (by decide +kernel), by decide +kernel⟩

end MeshSat.Hub
