import Mathlib
import MeshSat.Library.Keyed
import MeshSat.Library.TransitionSystem

/-!
# The chunks of a STATUS-NET reply

They are kept until as many came as the reply has, and are then joined by a loop that counts in a
byte. No byte is above a total of 255.
-/

namespace MeshSat.Oob

open Library Keyed TransitionSystem List

/-- What is read of a reply: its peer, the low half of the request's counter, and the chunk. -/
structure HopReply where
  (peer reqCounterLo : UInt16)
  (seq total : UInt8)
  body : List UInt8

def HopReply.key (ra : HopReply) : UInt16 × UInt16 := (ra.peer, ra.reqCounterLo)

abbrev Chunks := Keyed (Prod.fst : UInt8 × List UInt8 → UInt8)

structure HopParts where
  key : UInt16 × UInt16
  first : Int
  gen : UInt64
  total : UInt8
  chunks : Chunks

structure HopAskedMark where
  key : UInt16 × UInt16
  sent : Int
  gen : UInt64

structure HopService where
  hopParts : Keyed HopParts.key
  hopAsked : Keyed HopAskedMark.key

def hopPartsTTL : Int := 600000000000
def hopPartsMax : Nat := 32
def hopPartsPerPeer : Nat := 4
def hopAskedTTL : Int := 3600000000000

def Chunks.read (chunks : Chunks) (i : UInt8) : List UInt8 :=
  ((chunks.get? i).map Prod.snd).getD []

/-- `for i := byte(1); i <= p.total; i++`, for as many rounds as there is fuel. -/
def Chunks.join (chunks : Chunks) (total : UInt8) : Nat → UInt8 → List UInt8 → Option (List UInt8)
  | 0, _, _ => none
  | fuel + 1, i, body =>
    if i ≤ total then chunks.join total fuel (i + 1) (body ++ chunks.read i) else some body

namespace HopService

def openParts (s : HopService) (peer : UInt16) : Nat :=
  s.hopParts.entries.countP fun p => p.key.1 = peer

/-- The reply with the chunk in it, unless it is a new one and there is no room. -/
def partsWith (s : HopService) (gen : UInt64) (now : Int) (ra : HopReply) : Option HopParts :=
  let known := (s.hopParts.get? ra.key).filter (·.total = ra.total)
  if known = none ∧
      (hopPartsMax ≤ s.hopParts.entries.length ∨ hopPartsPerPeer ≤ s.openParts ra.peer) then none
  else
    let p := known.getD ⟨ra.key, now, gen, ra.total, .empty⟩
    some { p with chunks := p.chunks.put (ra.seq, ra.body) }

/-- What is kept after the chunk, and the chunks of its reply once they are all in. The session is
the media hopping interval, nothing when it is off. -/
def keepChunk (s : HopService) (session : Option UInt64) (now : Int) (ra : HopReply) :
    HopService × Option Chunks :=
  if ra.total = 0 ∨ ra.seq = 0 ∨ ra.total < ra.seq then (s, none)
  else
    match session with
    | none => (s, none)
    | some gen =>
      let s := { s with hopParts := s.hopParts.deleteWhere fun p => hopPartsTTL < now - p.first }
      if (s.hopAsked.get? ra.key).all fun mark => mark.gen ≠ gen || hopAskedTTL < now - mark.sent
      then (s, none)
      else
        let s := { s with hopParts := s.hopParts.deleteWhere fun p => p.key = ra.key ∧ p.gen ≠ gen }
        match s.partsWith gen now ra with
        | none => (s, none)
        | some p =>
          if p.chunks.entries.length < p.total.toNat then
            ({ s with hopParts := s.hopParts.put p }, none)
          else
            (⟨s.hopParts.deleteWhere fun p => p.key = ra.key,
              s.hopAsked.deleteWhere fun mark => mark.key = ra.key⟩, some p.chunks)

/-- What is kept, and the reply if it is complete; nothing where the loop has not ended. -/
def hopReplyChunk (s : HopService) (fuel : Nat) (session : Option UInt64) (now : Int)
    (ra : HopReply) : Option (HopService × Option (List UInt8)) :=
  let (kept, complete) := s.keepChunk session now ra
  match complete with
  | none => some (kept, none)
  | some chunks => (chunks.join ra.total fuel 1 []).map fun body => (kept, some body)

end HopService

inductive HopAction where
  | chunk (session : Option UInt64) (now : Int) (ra : HopReply)
  /-- `noteAsked` and `ResetHop`: other requests, and some of what was kept is gone. -/
  | change (asked : Keyed HopAskedMark.key) (gone : HopParts → Bool)

/-- The service with the chunks that came. A call has more rounds than there are bytes. -/
def hopSystem : TransitionSystem (HopService × List HopReply) HopAction where
  initial := (⟨.empty, .empty⟩, [])
  exec
    | (s, arrived), .chunk session now ra =>
      (s.hopReplyChunk 257 session now ra).map fun out => (out.1, ra :: arrived)
    | (s, arrived), .change asked gone => some (⟨s.hopParts.deleteWhere gone, asked⟩, arrived)

/-! ## What is kept -/

/-- The bytes from 1 to the total. -/
def chunkOrder (total : UInt8) : List UInt8 :=
  (range total.toNat).map fun k => UInt8.ofNat (1 + k)

/-- The chunks came, each as one of this reply. -/
def HopParts.Arrived (p : HopParts) (arrived : List HopReply) : Prop :=
  ∀ c ∈ p.chunks, c.1 ∈ chunkOrder p.total ∧ ⟨p.key.1, p.key.2, c.1, p.total, c.2⟩ ∈ arrived

def HopService.Held (s : HopService) (arrived : List HopReply) : Prop :=
  ∀ p ∈ s.hopParts, p.Arrived arrived

/-- Chunks 1 to the total of one reply in this order, each of which came. -/
def Assembled (ra : HopReply) (arrived : List HopReply) (body : List UInt8) : Prop :=
  ∃ part : UInt8 → List UInt8, body = (chunkOrder ra.total).flatMap part ∧
    ∀ i ∈ chunkOrder ra.total, { ra with seq := i, body := part i } ∈ arrived

section
variable {arrived : List HopReply} {s : HopService} {ra : HopReply} {p : HopParts}

lemma mem_chunkOrder (positive : i ≠ 0) (high : i ≤ total) : i ∈ chunkOrder total := by
  have low : i.toNat ≠ 0 := fun zero => positive (UInt8.toNat.inj zero)
  rw [UInt8.le_iff_toNat_le] at high
  refine mem_map.mpr ⟨i.toNat - 1, mem_range.mpr (by omega), ?_⟩
  rw [Nat.add_sub_cancel' (Nat.pos_of_ne_zero low), UInt8.ofNat_toNat]

/-- As many chunks as the total are all the chunks. -/
lemma HopParts.Arrived.read (came : p.Arrived arrived)
    (full : p.total.toNat ≤ p.chunks.entries.length) {i : UInt8} (inside : i ∈ chunkOrder p.total) :
    ⟨p.key.1, p.key.2, i, p.total, p.chunks.read i⟩ ∈ arrived := by
  cases found : p.chunks.get? i with
  | some c =>
    obtain rfl := key_of_get? found
    simpa [Chunks.read, found] using (came c (mem_of_get? found)).2
  | none =>
    -- With one of them missing there would be fewer entries than the total.
    have fewer := length_lt_of_missing (fun c member => (came c member).1) inside found
    rw [chunkOrder, length_map, length_range] at fewer
    omega

lemma HopService.Held.later (held : s.Held arrived) : s.Held (ra :: arrived) :=
  fun p kept c member => (held p kept c member).imp_right (mem_cons_of_mem _)

lemma HopService.Held.deleteWhere (held : s.Held arrived) (selected : HopParts → Bool)
    (asked : Keyed HopAskedMark.key) :
    HopService.Held ⟨s.hopParts.deleteWhere selected, asked⟩ arrived :=
  fun p kept => held p (mem_deleteWhere.mp kept).1

/-- The reply with the chunk in it is the one the chunk names. -/
lemma HopService.Held.partsWith {gen : UInt64} {now : Int} (held : s.Held arrived)
    (inside : ra.seq ∈ chunkOrder ra.total) (stored : s.partsWith gen now ra = some p) :
    p.key = ra.key ∧ p.total = ra.total ∧ p.Arrived (ra :: arrived) := by
  simp only [HopService.partsWith, Option.ite_none_left_eq_some, Option.some.injEq] at stored
  obtain ⟨_, rfl⟩ := stored
  cases found : (s.hopParts.get? ra.key).filter (·.total = ra.total) with
  | none =>
    refine ⟨rfl, rfl, forall_mem_put ⟨inside, mem_cons_self⟩ ?_⟩
    intro c member
    cases member
  | some old =>
    simp only [Option.filter_eq_some_iff, decide_eq_true_eq] at found
    obtain ⟨kept, sameTotal⟩ := found
    have sameKey := key_of_get? kept
    refine ⟨sameKey, sameTotal, forall_mem_put ?_ (held.later old (mem_of_get? kept))⟩
    simpa [sameKey, sameTotal, HopReply.key] using inside

/-- What is kept came, and so did the chunks that are all in. -/
lemma HopService.Held.keepChunk (held : s.Held arrived) (session : Option UInt64) (now : Int)
    (ra : HopReply) : (s.keepChunk session now ra).1.Held (ra :: arrived) ∧
    ∀ chunks ∈ (s.keepChunk session now ra).2, ∀ i ∈ chunkOrder ra.total,
      { ra with seq := i, body := chunks.read i } ∈ ra :: arrived := by
  unfold HopService.keepChunk
  split
  · exact ⟨held.later, by simp⟩
  next numbered =>
  push Not at numbered
  have inside := mem_chunkOrder numbered.2.1 (UInt8.not_lt.mp numbered.2.2)
  cases session with
  | none => exact ⟨held.later, by simp⟩
  | some gen =>
    -- The calls that drop replies first: those too old, then one of another interval.
    have young := held.deleteWhere (fun p => hopPartsTTL < now - p.first) s.hopAsked
    have current := young.deleteWhere (fun p => p.key = ra.key ∧ p.gen ≠ gen) s.hopAsked
    dsimp only
    split
    · exact ⟨young.later, by simp⟩
    split
    · exact ⟨current.later, by simp⟩
    next p stored =>
    obtain ⟨sameKey, sameTotal, came⟩ := current.partsWith inside stored
    split
    · exact ⟨forall_mem_put came current.later, by simp⟩
    next full =>
    refine ⟨(current.deleteWhere _ _).later, ?_⟩
    simp only [Option.mem_some_iff, forall_eq']
    intro i member
    rw [← sameTotal] at member
    have chunk := came.read (Nat.le_of_not_lt full) member
    rwa [sameKey, sameTotal] at chunk

lemma held_of_reachable {state : HopService × List HopReply}
    (reachable : hopSystem.Reachable state) : state.1.Held state.2 := by
  apply Reachable.invariant reachable
  · intro p kept
    cases kept
  rintro ⟨s, arrived⟩ action next held executed
  cases action with
  | chunk session now ra =>
    obtain ⟨out, returned, rfl⟩ := Option.map_eq_some_iff.mp executed
    have kept := (held.keepChunk session now ra).1
    unfold HopService.hopReplyChunk at returned
    dsimp only at returned
    split at returned
    · cases returned
      exact kept
    obtain ⟨body, _, rfl⟩ := Option.map_eq_some_iff.mp returned
    exact kept
  | change asked gone =>
    cases executed
    exact held.deleteWhere gone asked

end

/-! ## The loop -/

section
variable {chunks : Chunks} {total : UInt8}

/-- The chunks from `i` on are joined, where the counter does not wrap. -/
lemma Chunks.join_eq (short : total.toNat < 255) {rest fuel : Nat} (enough : rest < fuel)
    {i : UInt8} (position : i.toNat + rest = total.toNat + 1) (body : List UInt8) :
    chunks.join total fuel i body = some (body ++
      ((range rest).map fun k => UInt8.ofNat (i.toNat + k)).flatMap chunks.read) := by
  -- Below 255 the counter passes the total before it wraps.
  induction rest generalizing fuel i body with
  | zero =>
    obtain ⟨fuel, rfl⟩ := Nat.exists_eq_add_one.mpr enough
    have above : ¬ i ≤ total := by
      rw [UInt8.le_iff_toNat_le]
      omega
    simp [Chunks.join, above]
  | succ rest induction =>
    obtain ⟨fuel, rfl⟩ := Nat.exists_eq_add_one.mpr (Nat.zero_lt_of_lt enough)
    have below : i ≤ total := by
      rw [UInt8.le_iff_toNat_le]
      omega
    have next : (i + 1).toNat = i.toNat + 1 := by
      rw [UInt8.toNat_add]
      exact Nat.mod_eq_of_lt (by simp; omega)
    rw [Chunks.join, if_pos below, induction (by omega) (by omega), range_succ_eq_map]
    simp [next, Function.comp_def, Nat.add_assoc, Nat.add_comm 1]

lemma Chunks.join_endless (fuel : Nat) (i : UInt8) (body : List UInt8) :
    chunks.join 255 fuel i body = none := by
  induction fuel generalizing i body with
  | zero => rfl
  | succ fuel induction =>
    have below : i ≤ 255 := UInt8.le_iff_toNat_le.mpr (Nat.le_of_lt_succ i.toNat_lt)
    rw [Chunks.join, if_pos below, induction]

end

/-- A call ends if the total is not 255. -/
theorem hop_reply_assembled {s : HopService} {arrived : List HopReply}
    (reachable : hopSystem.Reachable (s, arrived)) (session : Option UInt64) (now : Int)
    (ra : HopReply) (short : ra.total ≠ 255) {fuel : Nat} (enough : 255 < fuel) :
    ∃ next answer, s.hopReplyChunk fuel session now ra = some (next, answer) ∧
      ∀ body ∈ answer, Assembled ra (ra :: arrived) body := by
  have came := ((held_of_reachable reachable).keepChunk session now ra).2
  have bounded := ra.total.toNat_lt
  have other : ra.total.toNat ≠ 255 := fun same => short (UInt8.toNat.inj same)
  unfold HopService.hopReplyChunk
  dsimp only
  split
  · exact ⟨_, none, rfl, by simp⟩
  next chunks complete =>
  rw [Chunks.join_eq (by omega) (by omega) (Nat.add_comm 1 _)]
  refine ⟨_, some _, rfl, ?_⟩
  simp only [Option.mem_some_iff, forall_eq']
  exact ⟨chunks.read, rfl, came chunks complete⟩

/-- Peer 1 is asked, with counter 7. -/
def asks : HopAction := .change (Keyed.empty.put ⟨(1, 7), 0, 0⟩) fun _ => false

theorem hop_reply_assembled_one : ∃ next,
    (hopSystem.runFrom hopSystem.initial [asks]).1.hopReplyChunk 256 (some 0) 0 ⟨1, 7, 1, 1, [5]⟩ =
      some (next, some [5]) ∧ Assembled ⟨1, 7, 1, 1, [5]⟩ [⟨1, 7, 1, 1, [5]⟩] [5] := by
  have reachable : hopSystem.Reachable (hopSystem.runFrom hopSystem.initial [asks]) :=
    .of_runFrom rfl
  obtain ⟨next, answer, returned, came⟩ := hop_reply_assembled reachable (some 0) 0
    ⟨1, 7, 1, 1, [5]⟩ (by decide) (Nat.lt_succ_self 255)
  cases (show some (some [5]) = some answer from congrArg (Option.map Prod.snd) returned)
  exact ⟨next, returned, came [5] rfl⟩

def longReply (seq : UInt8) : HopReply := ⟨1, 7, seq, 255, []⟩

/-- The last of 255 chunks. -/
theorem hop_reply_endless : ∃ state, hopSystem.execAll hopSystem.initial
      (asks :: (chunkOrder 254).map fun seq => .chunk (some 0) 0 (longReply seq)) = some state ∧
    ∀ fuel, state.1.hopReplyChunk fuel (some 0) 0 (longReply 255) = none := by
  have run : ((hopSystem.execAll hopSystem.initial
      (asks :: (chunkOrder 254).map fun seq => .chunk (some 0) 0 (longReply seq))).any fun state =>
      (state.1.keepChunk (some 0) 0 (longReply 255)).2.isSome) = true := by
    decide +kernel
  obtain ⟨state, executed, all⟩ := (Option.any_eq_true _ _).mp run
  obtain ⟨chunks, complete⟩ := Option.isSome_iff_exists.mp all
  refine ⟨state, executed, fun fuel => ?_⟩
  simp only [HopService.hopReplyChunk, complete]
  rw [longReply, Chunks.join_endless, Option.map_none]

end MeshSat.Oob
