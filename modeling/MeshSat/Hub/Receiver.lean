import MeshSat.Hub.Inbox

/-!
# No false acknowledgement

An entry of the inbox stands for a message that was stored under its origin
and message id with the entry's digest. Every answer that a delivery is
stored is read off such an entry or off the row written with it.
-/

namespace MeshSat.Hub

open Library TransitionSystem List Keyed InboxDB

/-! ## What a commit does -/

variable {db : InboxDB} {origin mid : String} {e : InboxEntry}

lemma mem_of_byMid
    (found : db.byMid origin mid = some e) : e ∈ db.inbox ∧ e.origin = origin ∧ e.mid = mid := by
  have member := mem_of_mem_head? (Option.mem_def.mpr found)
  rw [mem_insertionSort, mem_filter, Bool.and_eq_true,
    decide_eq_true_eq, decide_eq_true_eq] at member
  exact member

lemma byMid_eq_none (none : db.byMid origin mid = none)
    (member : e ∈ db.inbox) (sameOrigin : e.origin = origin) : e.mid ≠ mid := by
  intro sameMid
  have empty := List.head?_eq_none_iff.mp none
  have listed : e ∈ (db.inbox.entries.filter fun e =>
      e.origin = origin && e.mid = mid).insertionSort fun left right =>
        left.committedAt.toInt ≤ right.committedAt.toInt := by
    rw [mem_insertionSort, mem_filter]
    exact ⟨member, by simp [sameOrigin, sameMid]⟩
  rw [empty] at listed
  cases listed

section
variable {db : InboxDB} {now : Int64} {capacity : Nat} {e : InboxEntry}

lemma mem_makeRoom (member : e ∈ (db.makeRoom now capacity).inbox) : e ∈ db.inbox := by
  unfold makeRoom at member
  split at member
  · exact (Keyed.mem_deleteWhere.mp member).1
  · exact member

lemma makeRoom_keeps (member : e ∈ db.inbox) (live : e.pastRetention now = false) :
    e ∈ (db.makeRoom now capacity).inbox := by
  unfold makeRoom
  split
  · exact Keyed.mem_deleteWhere.mpr ⟨member, live⟩
  · exact member

end

section
variable (db : InboxDB) (now : Int64) (capacity : Nat)

lemma makeRoom_messages : (db.makeRoom now capacity).messages = db.messages ∧
    (db.makeRoom now capacity).handoffs = db.handoffs := by
  unfold makeRoom
  split
  · exact ⟨rfl, rfl⟩
  · exact ⟨rfl, rfl⟩

lemma count_makeRoom_le : (db.makeRoom now capacity).count ≤ db.count := by
  unfold makeRoom
  split
  · exact length_filter_le _ _
  · exact le_rfl

end

section
variable (sha256 : List UInt8 → List UInt8)

/-- The delivery passes the checks that read no entry. -/
structure Checked (d : Delivery) : Prop where
  digest : d.digest sha256 = some d.contentSHA256
  deadline : d.expiresAt ≤ d.midExpiresAt

def storedAnswer (storedNow withinSkew unjudged : Bool) (messageID : Nat) : Answer where
  result := .stored
  storedNow
  withinSkew
  unjudged
  messageID

/-- The database after a delivery of a known message is written. -/
def InboxDB.joined (e : InboxEntry) (room : InboxDB) : InboxDB :=
  { room with inbox := room.inbox.insertOrIgnore e }

/-- The database after a message is stored with its first entry. -/
def InboxDB.stored (e : InboxEntry) (body : String) (now : Int64) (room : InboxDB) : InboxDB where
  inbox := room.inbox.insertOrIgnore e
  messages := room.messages.insertNext (hubMessage e body) (hubMessage_id e body)
  handoffs := room.handoffs.insertOrIgnore {
    messageID := room.messages.nextKey
    state := .pending
    createdAt := now }

/-- Everything a commit can answer and write. -/
inductive Committed (d : Delivery) (now : Int64) (clockEstablished : Bool)
    (capacity : Nat) (db : InboxDB) : Answer → InboxDB → Prop where
  | refused (reason : Reason) :
      Committed d now clockEstablished capacity db (refusedAnswer reason) db
  | busy : Committed d now clockEstablished capacity db
        (refusedAnswer .receiverBusy) (db.makeRoom now capacity)
  | repeated (e : InboxEntry) : Checked sha256 d → e ∈ db.inbox →
      e.origin = d.origin → e.mid = d.mid → e.contentSHA256 = d.contentSHA256 →
      Committed d now clockEstablished capacity db
        { result := .stored, messageID := e.messageID } db
  | joined (known : InboxEntry) (withinSkew unjudged : Bool) :
      Checked sha256 d → known ∈ db.inbox → known.origin = d.origin →
      known.mid = d.mid → known.contentSHA256 = d.contentSHA256 →
      judge d now clockEstablished = some (withinSkew, unjudged) →
      (db.makeRoom now capacity).count < capacity → Committed d now clockEstablished capacity db
        (storedAnswer false withinSkew unjudged known.messageID) ((db.makeRoom now capacity).joined
          (d.entry now withinSkew unjudged known.messageID))
  | stored (withinSkew unjudged : Bool) : Checked sha256 d →
      (∀ e ∈ db.inbox, e.origin = d.origin → e.mid ≠ d.mid) →
      judge d now clockEstablished = some (withinSkew, unjudged) →
      (db.makeRoom now capacity).count < capacity →
      (db.makeRoom now capacity).byOp d.origin d.opID = none →
      db.handoffs.get? db.messages.nextKey = none → Committed d now clockEstablished capacity db
        (storedAnswer true withinSkew unjudged db.messages.nextKey)
        ((db.makeRoom now capacity).stored
          (d.entry now withinSkew unjudged db.messages.nextKey) d.body now)

variable {sha256} {d : Delivery} {now : Int64} {clockEstablished : Bool}
  {db next : InboxDB} {answer : Answer}

lemma insertRow_eq_some {next : InboxDB} (written : db.insertRow e = some next) :
    db.byOp e.origin e.opID = none ∧ next = db.joined e := by
  unfold insertRow at written
  split at written
  · cases written
  next free =>
  exact ⟨Option.not_isSome_iff_eq_none.mp free, (Option.some.inj written).symm⟩

variable {e written : InboxEntry}

lemma insert_known (inserted : db.insert e false body now = some (written, next)) :
    written = e ∧ next = db.joined e := by
  obtain ⟨row, inserted, same⟩ := Option.bind_eq_some_iff.mp inserted
  cases same
  exact ⟨rfl, (insertRow_eq_some inserted).2⟩

lemma insert_new (inserted : db.insert e true body now = some (written, next)) :
    db.handoffs.get? db.messages.nextKey = none ∧ db.byOp e.origin e.opID = none ∧
      written = { e with messageID := db.messages.nextKey } ∧
      next = db.stored { e with messageID := db.messages.nextKey } body
        now := by
  obtain ⟨stored, storing, inserted⟩ := Option.bind_eq_some_iff.mp inserted
  obtain ⟨row, inserted, same⟩ := Option.bind_eq_some_iff.mp inserted
  cases same
  unfold storeMessage at storing
  split at storing
  · cases storing
  next free =>
  cases storing
  obtain ⟨unknown, rfl⟩ := insertRow_eq_some inserted
  exact ⟨Option.not_isSome_iff_eq_none.mp free, unknown, rfl, rfl⟩

lemma commitNew_cases (checked : Checked sha256 d)
    (committed : commitNew d now clockEstablished capacity db = some (answer, next)) :
    Committed sha256 d now clockEstablished capacity db answer next := by
  unfold commitNew at committed
  dsimp only at committed
  split at committed
  · cases committed
    exact .refused _
  next agrees =>
  split at committed
  · cases committed
    exact .refused _
  next withinSkew unjudged judged =>
  split at committed
  · cases committed
    exact .busy
  next room =>
  have space := not_le.mp room
  obtain ⟨⟨written, rest⟩, inserted, answered⟩ := Option.bind_eq_some_iff.mp committed
  cases answered
  cases found : db.byMid d.origin d.mid with
  | none =>
    rw [found] at inserted
    obtain ⟨free, unknown, rfl, rfl⟩ := insert_new inserted
    obtain ⟨messages, handoffs⟩ := makeRoom_messages db now capacity
    rw [messages, handoffs] at free
    rw [messages]
    refine .stored withinSkew unjudged checked ?_ judged space unknown free
    exact fun e member sameOrigin => byMid_eq_none found member sameOrigin
  | some known =>
    rw [found] at inserted
    obtain ⟨rfl, rfl⟩ := insert_known inserted
    obtain ⟨member, sameOrigin, sameMid⟩ := mem_of_byMid found
    have digest : known.contentSHA256 = d.contentSHA256 := by simpa [found] using agrees
    exact .joined known withinSkew unjudged checked member sameOrigin sameMid digest judged space

lemma commit_cases
    (committed : commit sha256 d now clockEstablished capacity db = some (answer, next)) :
    Committed sha256 d now clockEstablished (effectiveCapacity capacity) db answer next := by
  unfold commit at committed
  split at committed
  · cases committed
    exact .refused _
  split at committed
  · cases committed
    exact .refused _
  next digest =>
  split at committed
  · cases committed
    exact .refused _
  next deadline =>
  have checked : Checked sha256 d := ⟨not_not.mp digest, Int64.not_lt.mp deadline⟩
  split at committed
  next e found =>
    split at committed
    next same =>
      cases committed
      simp only [Bool.and_eq_true, decide_eq_true_eq] at same
      have key := key_of_get? found
      exact .repeated e checked (mem_of_get? found) (congrArg Prod.fst key) same.1 same.2
    · cases committed
      exact .refused _
  · exact commitNew_cases checked committed

end

/-! ## What an entry stands for -/

section
variable (sha256 : List UInt8 → List UInt8)

/-- A message was stored under the origin and message id with the digest, and
is in the given row. -/
def Receiver.Stored (s : Receiver) (origin mid digest : String) (messageID : Nat) : Prop :=
  ∃ d answer, (d, answer) ∈ s.answers ∧ answer.storedNow = true ∧
    answer.messageID = messageID ∧ d.origin = origin ∧ d.mid = mid ∧ d.digest sha256 = some digest

/-- What holds of a receiver at any time. -/
structure Receiver.Sound (capacity : Nat) (s : Receiver) : Prop where
  entries : ∀ e ∈ s.db.inbox, s.Stored sha256 e.origin e.mid e.contentSHA256 e.messageID
  agree : ∀ e ∈ s.db.inbox, ∀ other ∈ s.db.inbox, other.origin = e.origin → other.mid = e.mid →
    other.contentSHA256 = e.contentSHA256 ∧ other.messageID = e.messageID
  bounded : s.db.count ≤ capacity
  answers : ∀ d answer, (d, answer) ∈ s.answers → answer.result = .stored →
    d.digest sha256 = some d.contentSHA256 ∧
      s.Stored sha256 d.origin d.mid d.contentSHA256 answer.messageID

variable {sha256}
variable {s next : Receiver} {capacity : Int} {d : Delivery} {now : Int64}
  {answer : Answer} {clockEstablished : Bool} {action : InboxAction}

lemma Receiver.Stored.later (stored : s.Stored sha256 origin mid digest messageID)
    (kept : ∀ given ∈ s.answers, given ∈ next.answers) :
    next.Stored sha256 origin mid digest messageID := by
  obtain ⟨d, answer, member, rest⟩ := stored
  exact ⟨d, answer, kept _ member, rest⟩

section
variable {capacity : Nat} (sound : s.Sound sha256 capacity)

include sound

lemma Receiver.Sound.of_subset
    (kept : ∀ e ∈ next.db.inbox, e ∈ s.db.inbox) (count : next.db.count ≤ s.db.count)
    (answers : next.answers = s.answers) : next.Sound sha256 capacity where
  entries e member := (sound.entries e (kept e member)).later fun _ given =>
    answers ▸ given
  agree e member other otherMember := sound.agree e (kept e member) other (kept other otherMember)
  bounded := le_trans count sound.bounded
  answers d answer member stored := by
    rw [answers] at member
    obtain ⟨digest, message⟩ := sound.answers d answer member stored
    exact ⟨digest, message.later fun _ given => answers ▸ given⟩

lemma Receiver.Sound.answered
    (holds : answer.result = .stored → d.digest sha256 = some d.contentSHA256 ∧
        s.Stored sha256 d.origin d.mid d.contentSHA256 answer.messageID) :
    Receiver.Sound sha256 capacity ⟨s.db, now, (d, answer) :: s.answers⟩ where
  entries e member := (sound.entries e member).later fun _ given =>
    mem_cons_of_mem _ given
  agree := sound.agree
  bounded := sound.bounded
  answers other given member stored := by
    have kept {origin mid digest : String} {messageID : Nat}
        (message : s.Stored sha256 origin mid digest messageID) :
        Receiver.Stored sha256 ⟨s.db, now, (d, answer) :: s.answers⟩ origin mid digest messageID :=
      message.later fun _ given => mem_cons_of_mem _ given
    rcases mem_cons.mp member with new | old
    · cases new
      exact ⟨(holds stored).1, kept (holds stored).2⟩
    obtain ⟨digest, message⟩ := sound.answers other given old stored
    exact ⟨digest, kept message⟩

/-- The delivery's entry is written, and it agrees with the others of its
message. -/
lemma Receiver.Sound.insert (space : (s.db.makeRoom now capacity).count < capacity)
    (inbox : db.inbox = (s.db.makeRoom now capacity).inbox.insertOrIgnore
      (d.entry now withinSkew unjudged answer.messageID))
    (digest : d.digest sha256 = some d.contentSHA256)
    (stands : Receiver.Stored sha256 ⟨db, now, (d, answer) :: s.answers⟩
      d.origin d.mid d.contentSHA256 answer.messageID)
    (agrees : ∀ other ∈ s.db.inbox, other.origin = d.origin →
      other.mid = d.mid → other.contentSHA256 = d.contentSHA256 ∧
        other.messageID = answer.messageID) :
    Receiver.Sound sha256 capacity ⟨db, now, (d, answer) :: s.answers⟩ where
  entries other member := by
    rw [inbox, mem_insertOrIgnore] at member
    rcases member with old | ⟨_, rfl⟩
    · exact (sound.entries other (mem_makeRoom old)).later fun _ given =>
        mem_cons_of_mem _ given
    · exact stands
  agree left leftMember right rightMember sameOrigin sameMid := by
    rw [inbox, mem_insertOrIgnore] at leftMember rightMember
    rcases leftMember with old | ⟨_, rfl⟩
    · rcases rightMember with other | ⟨_, rfl⟩
      · exact sound.agree left (mem_makeRoom old) right (mem_makeRoom other) sameOrigin sameMid
      obtain ⟨digest, message⟩ := agrees left (mem_makeRoom old) sameOrigin.symm sameMid.symm
      exact ⟨digest.symm, message.symm⟩
    rcases rightMember with other | ⟨_, rfl⟩
    · exact agrees right (mem_makeRoom other) sameOrigin sameMid
    · exact ⟨rfl, rfl⟩
  bounded := by
    rw [InboxDB.count, inbox, insertOrIgnore]
    split
    · rw [length_append]
      exact space
    · exact space.le
  answers other given member stored := by
    rcases mem_cons.mp member with new | old
    · cases new
      exact ⟨digest, stands⟩
    obtain ⟨digest, message⟩ := sound.answers other given old stored
    exact ⟨digest, message.later fun _ given => mem_cons_of_mem _ given⟩

lemma Receiver.Sound.deliver
    (committed : Committed sha256 d now clockEstablished capacity s.db answer db) :
    Receiver.Sound sha256 capacity ⟨db, now, (d, answer) :: s.answers⟩ := by
  cases committed with
  | refused reason => exact sound.answered fun stored => by cases stored
  | busy =>
    have pruned : Receiver.Sound sha256 capacity ⟨s.db.makeRoom now capacity, s.clock, s.answers⟩ :=
      sound.of_subset (fun _ member => mem_makeRoom member) (count_makeRoom_le _ _ _) rfl
    exact pruned.answered fun stored => by cases stored
  | repeated e checked member sameOrigin sameMid sameDigest =>
    refine sound.answered fun _ => ⟨checked.digest, ?_⟩
    rw [← sameOrigin, ← sameMid, ← sameDigest]
    exact sound.entries e member
  | joined known withinSkew unjudged checked member sameOrigin sameMid sameDigest _ space =>
      refine sound.insert space rfl checked.digest ?_ ?_
      · rw [← sameOrigin, ← sameMid, ← sameDigest]
        exact (sound.entries known member).later fun _ given =>
          mem_cons_of_mem _ given
      intro other listed otherOrigin otherMid
      obtain ⟨digest, message⟩ := sound.agree known member other listed
        (otherOrigin.trans sameOrigin.symm) (otherMid.trans sameMid.symm)
      exact ⟨digest.trans sameDigest, message⟩
  | stored withinSkew unjudged checked new _ space _ _ =>
    refine sound.insert space rfl checked.digest ?_ ?_
    · exact ⟨d, _, mem_cons_self, rfl, rfl, rfl, rfl, checked.digest⟩
    intro other listed otherOrigin otherMid
    exact (new other listed otherOrigin otherMid).elim

end

lemma execInbox_deliver
    (executed : execInbox sha256 capacity s (.deliver d now clockEstablished) = some next) :
    ∃ answer db, next = ⟨db, now, (d, answer) :: s.answers⟩ ∧
      Committed sha256 d now clockEstablished (effectiveCapacity capacity) s.db answer db := by
  obtain ⟨⟨answer, db⟩, committed, answered⟩ := Option.bind_eq_some_iff.mp executed
  exact ⟨answer, db, (Option.some.inj answered).symm, commit_cases committed⟩

lemma Receiver.Sound.step (sound : s.Sound sha256 (effectiveCapacity capacity))
    (executed : execInbox sha256 capacity s action = some next) :
    next.Sound sha256 (effectiveCapacity capacity) := by
  cases action with
  | deliver d now clockEstablished =>
    obtain ⟨answer, db, rfl, committed⟩ := execInbox_deliver executed
    exact sound.deliver committed
  | prune now =>
    cases executed
    exact sound.of_subset (fun _ member => (Keyed.mem_deleteWhere.mp member).1)
      (length_filter_le _ _) rfl
  | handedOff | otherMessage | forgetMessages =>
    cases executed
    exact sound.of_subset (fun _ member => member) (le_rfl) rfl

lemma reachable_sound (reachable : (inboxSystem sha256 capacity).Reachable s) :
    s.Sound sha256 (effectiveCapacity capacity) := by
  refine reachable.invariant ⟨?_, ?_, Nat.zero_le _, ?_⟩
    fun _ _ _ sound executed => sound.step executed
  · intro e member
    cases member
  · intro e member
    cases member
  intro d answer member
  cases member

/-! ## One step -/

def InboxAction.now? : InboxAction → Option Int64
  | .deliver _ now _ | .prune now => some now
  | _ => none

lemma execInbox_keeps (executed : execInbox sha256 capacity s action = some next)
    (member : e ∈ s.db.inbox) : e ∈ next.db.inbox ∨
      ∃ now, action.now? = some now ∧ e.pastRetention now = true := by
  have room {now : Int64} {capacity : Nat}
      (live : e.pastRetention now = false) (written : InboxEntry) :
      e ∈ ((s.db.makeRoom now capacity).inbox.insertOrIgnore written) :=
    Keyed.mem_insertOrIgnore.mpr (.inl (makeRoom_keeps member live))
  cases action with
  | deliver d now clockEstablished =>
    cases past : e.pastRetention now with
    | true => exact .inr ⟨now, rfl, past⟩
    | false =>
      left
      obtain ⟨answer, db, rfl, committed⟩ := execInbox_deliver executed
      cases committed with
      | refused _ => exact member
      | busy => exact makeRoom_keeps member past
      | repeated _ _ _ _ _ _ => exact member
      | joined _ _ _ _ _ _ _ _ _ _ => exact room past _
      | stored _ _ _ _ _ _ _ _ => exact room past _
  | prune now =>
    cases executed
    cases past : e.pastRetention now with
    | true => exact .inr ⟨now, rfl, past⟩
    | false => exact .inl (Keyed.mem_deleteWhere.mpr ⟨member, past⟩)
  | handedOff messageID now =>
    cases executed
    exact .inl member
  | otherMessage make =>
    cases executed
    exact .inl member
  | forgetMessages selected =>
    cases executed
    exact .inl member

/-- The row and the hand-off of a message that is stored now. -/
structure Receiver.Wrote (s next : Receiver) (d : Delivery) (answer : Answer) : Prop where
  fresh : answer.messageID ∉ s.db.messages.used
  message : ∃ m, next.db.messages.get? answer.messageID = some m ∧
    m.fromNode = d.origin ∧ m.toNode = d.recipient ∧ m.decodedText = d.body
  handoff : ∃ h, next.db.handoffs.get? answer.messageID = some h ∧ h.state = .pending

lemma execInbox_wrote (executed : execInbox sha256 capacity s (.deliver d now clockEstablished) =
    some next) : ∃ answer, next.answers = (d, answer) :: s.answers ∧
    (answer.result = .refused → ∀ e ∈ next.db.inbox, e ∈ s.db.inbox) ∧
    (answer.storedNow = true → s.Wrote next d answer) := by
  obtain ⟨answer, db, rfl, committed⟩ := execInbox_deliver executed
  refine ⟨answer, rfl, ?_⟩
  cases committed with
  | refused reason => exact ⟨fun _ e member => member, fun now => (by cases now)⟩
  | busy => exact ⟨fun _ e member => mem_makeRoom member, fun now => (by cases now)⟩
  | repeated e _ _ _ _ _ => exact ⟨fun refused => (by cases refused), fun now => (by cases now)⟩
  | joined known _ _ _ _ _ _ _ _ _ =>
    exact ⟨fun refused => (by cases refused), fun now => (by cases now)⟩
  | stored withinSkew unjudged _ _ _ _ _ free =>
    refine ⟨fun refused => (by cases refused), fun _ => ?_⟩
    obtain ⟨messages, handoffs⟩ := makeRoom_messages s.db now (effectiveCapacity capacity)
    refine ⟨Table.nextKey_unused _,
      ⟨hubMessage (d.entry now withinSkew unjudged s.db.messages.nextKey)
        d.body s.db.messages.nextKey, ?_, rfl, rfl, rfl⟩,
      ⟨⟨s.db.messages.nextKey, .pending, now, none⟩, ?_, rfl⟩⟩
    · simp [stored, storedAnswer, messages, Table.get?_insertNext]
    simp [stored, storedAnswer, messages, handoffs, get?_insertOrIgnore, free]

/-- No false acknowledgement.

Over every sequence of deliveries and prunes, with any clock, every stored
answer names the row of a message that was stored under the same origin and
message id and whose digest is the delivery's. The entries of one message
agree on the digest and on the row; there are never more entries than the
capacity; a refused delivery adds none; and an entry goes only past its
retention. -/
theorem no_false_acknowledgement {capacity : Int} {s : Receiver}
    (reachable : (inboxSystem sha256 capacity).Reachable s) :
    (∀ d answer, (d, answer) ∈ s.answers → answer.result = .stored →
      ∃ first given, (first, given) ∈ s.answers ∧ given.storedNow = true ∧
        given.messageID = answer.messageID ∧ first.origin = d.origin ∧
        first.mid = d.mid ∧ d.digest sha256 = some d.contentSHA256 ∧
        first.digest sha256 = d.digest sha256) ∧
    (∀ e ∈ s.db.inbox, ∀ other ∈ s.db.inbox, other.origin = e.origin →
      other.mid = e.mid → other.contentSHA256 = e.contentSHA256 ∧ other.messageID = e.messageID) ∧
    s.db.count ≤ effectiveCapacity capacity ∧
    ∀ action next, (inboxSystem sha256 capacity).exec s action = some next →
      (∀ e ∈ s.db.inbox, e ∈ next.db.inbox ∨
        ∃ now, action.now? = some now ∧ e.pastRetention now = true) ∧
      ∀ d now clockEstablished, action = .deliver d now clockEstablished →
        ∃ answer, next.answers = (d, answer) :: s.answers ∧ (answer.result = .refused →
            ∀ e ∈ next.db.inbox, e ∈ s.db.inbox) ∧
          (answer.storedNow = true → s.Wrote next d answer) := by
  have sound := reachable_sound reachable
  refine ⟨?_, sound.agree, sound.bounded, ?_⟩
  · intro d answer member stored
    obtain ⟨digest, first, given, firstMember, storedNow, message, origin, mid,
      firstDigest⟩ := sound.answers d answer member stored
    exact ⟨first, given, firstMember, storedNow, message, origin, mid, digest,
      firstDigest.trans digest.symm⟩
  intro action next executed
  refine ⟨fun e member => execInbox_keeps executed member, ?_⟩
  rintro d now clockEstablished rfl
  exact execInbox_wrote executed

end

def byteSum (bytes : List UInt8) : List UInt8 := [bytes.foldl (· + ·) 0]

/-- An operation of one message of `origin`. -/
def operation (opID : String) (expiresAt midExpiresAt : Int64) : Delivery where
  opID
  mid := "01920000-0000-7000-8000-00000000000a"
  origin := "origin"
  recipient := "here"
  contentType := "text/plain"
  midExpiresAt
  expiresAt
  contentSHA256 := (contentSHA256 byteSum
    "01920000-0000-7000-8000-00000000000a" "here" "text/plain" midExpiresAt
    (textBytes "hello")).getD ""
  body := "hello"

def firstOp : String := "01920000-0000-7000-8000-000000000001"

def secondOp : String := "01920000-0000-7000-8000-000000000002"

/-- Two operations of one message, the second one repeated: one message, and
the last answer names its row. -/
theorem no_false_acknowledgement_repeated :
    let s := (inboxSystem byteSum 2).runFrom (inboxSystem byteSum 2).initial
      [.deliver (operation firstOp 1000 2000) 500 true,
        .deliver (operation secondOp 2000 2000) 1500 true,
        .deliver (operation secondOp 2000 2000) 200000 true]
    s.db.count = 2 ∧ s.db.count ≤ effectiveCapacity 2 ∧
      s.answers.map (fun given => (given.2.result, given.2.messageID)) =
        [(.stored, 1), (.stored, 1), (.stored, 1)] := by
  intro s
  have reachable : (inboxSystem byteSum 2).Reachable s := .of_runFrom (by decide +kernel)
  exact ⟨by decide +kernel, (no_false_acknowledgement reachable).2.2.1, by decide +kernel⟩

end MeshSat.Hub
