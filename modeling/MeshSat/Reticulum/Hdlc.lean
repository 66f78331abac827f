import Mathlib.Data.List.TakeWhile
import MeshSat.Reticulum.Packet

/-!
# Frames of a byte stream

The escaping of a packet between two flags, and the reader that takes frames
out of what a connection delivers piece by piece.
-/

namespace MeshSat.Reticulum

open List

def hdlcFlag : UInt8 := 0x7E
def hdlcEsc : UInt8 := 0x7D
def hdlcEscMask : UInt8 := 0x20

/-- The most a reader keeps while it waits for a closing flag. -/
def hdlcMaxBuffered : Nat := 2 * 262144 + 2

def hdlcReadSize : Nat := 4096

def hdlcEscapeByte (b : UInt8) : List UInt8 :=
  if b = hdlcEsc then [hdlcEsc, hdlcEsc ^^^ hdlcEscMask]
  else if b = hdlcFlag then [hdlcEsc, hdlcFlag ^^^ hdlcEscMask]
  else [b]

def hdlcEscape (data : List UInt8) : List UInt8 := data.flatMap hdlcEscapeByte

/-- An escape at the very end stands for itself. -/
def hdlcUnescape : List UInt8 → List UInt8
  | [] => []
  | [b] => [b]
  | b :: next :: rest =>
    if b = hdlcEsc then (next ^^^ hdlcEscMask) :: hdlcUnescape rest
    else b :: hdlcUnescape (next :: rest)

def hdlcFrame (data : List UInt8) : List UInt8 := hdlcFlag :: hdlcEscape data ++ [hdlcFlag]

def notFlag (b : UInt8) : Bool := b != hdlcFlag

structure HdlcFrameReader where
  buf : List UInt8

/-- The loop of `Feed`: the frames in a buffer, and what is kept of it. The
closing flag of a frame can open the next one. -/
def HdlcFrameReader.extract (buf : List UInt8) : List (List UInt8) × List UInt8 :=
  match _opened : buf.dropWhile notFlag with
  | [] => ([], [])
  | first :: after =>
    match _closed : after.dropWhile notFlag with
    | [] =>
      ([], if hdlcMaxBuffered < (first :: after).length then []
        else first :: after)
    | last :: rest =>
      let escaped := after.takeWhile notFlag
      let more := extract (last :: rest)
      if headerMinSize ≤ escaped.length then
        (hdlcUnescape escaped :: more.1, more.2)
      else more
termination_by buf.length
decreasing_by
  have short := (dropWhile_sublist notFlag (l := buf)).length_le
  have shorter := (dropWhile_sublist notFlag (l := after)).length_le
  rw [_opened] at short
  rw [_closed] at shorter
  simp only [length_cons] at short shorter ⊢
  omega

def HdlcFrameReader.feed (r : HdlcFrameReader) (data : List UInt8) :
    HdlcFrameReader × List (List UInt8) :=
  let out := HdlcFrameReader.extract (r.buf ++ data)
  (⟨out.2⟩, out.1)

/-- `readHDLC`: the frames of what a connection delivers. -/
def HdlcFrameReader.read (r : HdlcFrameReader) : List (List UInt8) → List (List UInt8)
  | [] => []
  | data :: more => (r.feed data).2 ++ (r.feed data).1.read more

/-! ## Escaping -/

lemma hdlcUnescape_escapeByte (b : UInt8) (rest : List UInt8) :
    hdlcUnescape (hdlcEscapeByte b ++ rest) = b :: hdlcUnescape rest := by
  rw [hdlcEscapeByte]
  split
  · rename_i escape
    subst escape
    rfl
  rename_i plain
  split
  · rename_i flag
    subst flag
    rfl
  · cases rest with
    | nil => rfl
    | cons next rest => simp [hdlcUnescape, plain]

lemma hdlcUnescape_escape (data : List UInt8) : hdlcUnescape (hdlcEscape data) = data := by
  induction data with
  | nil => rfl
  | cons b rest induction =>
    rw [hdlcEscape, flatMap_cons, hdlcUnescape_escapeByte]
    exact congrArg (b :: ·) induction

lemma hdlcEscape_notFlag (data : List UInt8) : ∀ b ∈ hdlcEscape data, notFlag b := by
  intro b member
  obtain ⟨source, -, escaped⟩ := mem_flatMap.mp member
  rw [hdlcEscapeByte] at escaped
  split at escaped
  · rcases mem_cons.mp escaped with rfl | escaped
    · rfl
    rw [mem_singleton.mp escaped]
    rfl
  split at escaped
  · rcases mem_cons.mp escaped with rfl | escaped
    · rfl
    rw [mem_singleton.mp escaped]
    rfl
  rename_i plain
  rw [mem_singleton.mp escaped]
  simpa [notFlag] using plain

variable {data : List UInt8}

lemma hdlcEscape_plain (plain : ∀ b ∈ data, b ≠ hdlcEsc ∧ b ≠ hdlcFlag) :
    hdlcEscape data = data := by
  induction data with
  | nil => rfl
  | cons b rest induction =>
    obtain ⟨⟨escape, flag⟩, others⟩ := forall_mem_cons.mp plain
    rw [hdlcEscape, flatMap_cons, hdlcEscapeByte, if_neg escape, if_neg flag]
    exact congrArg (b :: ·) (induction others)

lemma length_le_hdlcEscape (data : List UInt8) : data.length ≤ (hdlcEscape data).length := by
  induction data with
  | nil => exact le_rfl
  | cons b rest induction =>
    have one : 1 ≤ (hdlcEscapeByte b).length := by
      rw [hdlcEscapeByte]
      split
      · exact Nat.le_succ 1
      split
      · exact Nat.le_succ 1
      · exact Nat.le_refl 1
    rw [hdlcEscape, flatMap_cons, length_append, length_cons]
    exact (add_comm _ _).trans_le (Nat.add_le_add one induction)

/-! ## Reading -/

namespace HdlcFrameReader

section
variable {text rest : List UInt8}

lemma extract_flag (after : List UInt8) : extract (hdlcFlag :: after) =
      match after.dropWhile notFlag with
      | [] =>
        ([], if hdlcMaxBuffered < after.length + 1 then []
          else hdlcFlag :: after)
      | last :: rest =>
        if headerMinSize ≤ (after.takeWhile notFlag).length then
          (hdlcUnescape (after.takeWhile notFlag) ::
            (extract (last :: rest)).1, (extract (last :: rest)).2)
        else extract (last :: rest) := by
  rw [extract]
  have first : (hdlcFlag :: after).dropWhile notFlag = hdlcFlag :: after := rfl
  split
  · simp_all
  rename_i opened
  rw [first] at opened
  cases opened
  split
  · rename_i unclosed
    rw [unclosed]
    rfl
  rename_i closed
  rw [closed]

lemma extract_open (inside : ∀ b ∈ text, notFlag b) (short : text.length < hdlcMaxBuffered) :
    extract (hdlcFlag :: text) = ([], hdlcFlag :: text) := by
  rw [extract_flag, dropWhile_eq_nil_iff.mpr inside]
  dsimp only
  rw [if_neg (by omega)]

/-- What stands between two flags is a frame if it is long enough. -/
def framed (text : List UInt8) : List (List UInt8) :=
  if headerMinSize ≤ text.length then [hdlcUnescape text] else []

lemma extract_next (inside : ∀ b ∈ text, notFlag b) (rest : List UInt8) :
    extract (hdlcFlag :: (text ++ hdlcFlag :: rest)) =
    (framed text ++ (extract (hdlcFlag :: rest)).1, (extract (hdlcFlag :: rest)).2) := by
  have closing : (text ++ hdlcFlag :: rest).dropWhile notFlag = hdlcFlag :: rest := by
    rw [dropWhile_append_of_pos inside]
    rfl
  have content : (text ++ hdlcFlag :: rest).takeWhile notFlag = text := by
    rw [takeWhile_append_of_pos inside]
    exact append_nil text
  rw [extract_flag, closing, content]
  dsimp only
  rw [framed]
  split
  · rfl
  · rfl

lemma first_flag (bytes : List UInt8) : (∀ b ∈ bytes, notFlag b) ∨
    ∃ text rest, bytes = text ++ hdlcFlag :: rest ∧ ∀ b ∈ text, notFlag b := by
  have other : ∀ text : List UInt8, hdlcFlag ∉ text → ∀ b ∈ text, notFlag b := by
    intro text absent b member
    rw [notFlag, bne_iff_ne]
    rintro rfl
    exact absent member
  by_cases flag : hdlcFlag ∈ bytes
  · obtain ⟨text, rest, whole, absent⟩ := eq_append_cons_of_mem flag
    exact .inr ⟨text, rest, whole, other text absent⟩
  · exact .inl (other bytes flag)

/-- Whatever was kept, a flag begins anew behind it. -/
lemma extract_append {buf rest : List UInt8} : ∃ garbage, (buf = [] → garbage = []) ∧
    extract (buf ++ hdlcFlag :: rest) =
    (garbage ++ (extract (hdlcFlag :: rest)).1, (extract (hdlcFlag :: rest)).2) := by
  have opened : ∀ bytes, ∃ garbage, extract (hdlcFlag :: (bytes ++ hdlcFlag :: rest)) =
      (garbage ++ (extract (hdlcFlag :: rest)).1, (extract (hdlcFlag :: rest)).2) := by
    intro bytes
    induction size : bytes.length using Nat.strong_induction_on generalizing bytes with
    | _ size induction =>
    rcases first_flag bytes with inside | ⟨text, more, rfl, inside⟩
    · exact ⟨_, extract_next inside rest⟩
    obtain ⟨garbage, later⟩ := induction more.length (by simp [← size]; omega) more rfl
    refine ⟨framed text ++ garbage, ?_⟩
    rw [append_assoc, cons_append, extract_next inside, later, append_assoc]
  -- What stands before the first flag is not looked at.
  have skipped : ∀ text, (∀ b ∈ text, notFlag b) → ∀ bytes,
      extract (text ++ hdlcFlag :: bytes) = extract (hdlcFlag :: bytes) := by
    intro text inside bytes
    rw [extract.eq_def, dropWhile_append_of_pos inside, extract.eq_def (hdlcFlag :: bytes)]
  rcases first_flag buf with inside | ⟨text, more, rfl, inside⟩
  · exact ⟨[], fun _ => rfl, by rw [skipped buf inside, nil_append]⟩
  obtain ⟨garbage, later⟩ := opened more
  refine ⟨garbage, fun empty => absurd empty (by simp), ?_⟩
  rw [append_assoc, cons_append, skipped text inside, later]

/-- No flag stays away for long. -/
def Brief (bytes : List UInt8) : Prop :=
  ∀ run, run <:+: bytes → (∀ b ∈ run, notFlag b) → run.length < hdlcMaxBuffered

variable {bytes : List UInt8}

/-- The frames of the bytes behind a flag, and what is kept open, which is
taken up again with whatever follows. -/
lemma extract_kept (brief : Brief bytes) :
    ∃ frames kept, extract (hdlcFlag :: bytes) = (frames, hdlcFlag :: kept) ∧
      kept <:+ bytes ∧ (∀ b ∈ kept, notFlag b) ∧ ∀ more, extract (hdlcFlag :: (bytes ++ more)) =
        (frames ++ (extract (hdlcFlag :: (kept ++ more))).1,
          (extract (hdlcFlag :: (kept ++ more))).2) := by
  induction size : bytes.length using Nat.strong_induction_on generalizing bytes with
  | _ size induction =>
  rcases first_flag bytes with inside | ⟨text, rest, rfl, inside⟩
  · have short := brief bytes (infix_refl bytes) inside
    exact ⟨[], bytes, extract_open inside short, suffix_refl bytes, inside, fun _ => rfl⟩
  have behind : rest <:+ text ++ hdlcFlag :: rest := ⟨text ++ [hdlcFlag], by simp⟩
  obtain ⟨frames, kept, read, suffix, open_, resumed⟩ :=
    induction rest.length (by simp [← size]; omega)
      (fun run within => brief run (within.trans behind.isInfix)) rfl
  refine ⟨framed text ++ frames, kept, ?_, suffix.trans behind, open_, ?_⟩
  · rw [extract_next inside, read]
  intro more
  rw [append_assoc, cons_append, extract_next inside, resumed, append_assoc]

variable {chunks : List (List UInt8)}

/-- However the bytes behind a flag are cut, the frames are those of the whole. -/
lemma read_flag (brief : Brief (kept ++ chunks.flatten)) (inside : ∀ b ∈ kept, notFlag b) :
    (⟨hdlcFlag :: kept⟩ : HdlcFrameReader).read chunks =
    (extract (hdlcFlag :: (kept ++ chunks.flatten))).1 := by
  induction chunks generalizing kept with
  | nil =>
    have short := brief kept (by simp) inside
    rw [flatten_nil, append_nil, extract_open inside short]
    rfl
  | cons chunk chunks induction =>
    rw [flatten_cons, ← append_assoc] at brief ⊢
    obtain ⟨frames, left, read, suffix, open_, resumed⟩ := extract_kept
      fun run within => brief run (within.trans (prefix_append _ _).isInfix)
    rw [HdlcFrameReader.read, feed, cons_append, read, resumed]
    dsimp only
    obtain ⟨before, whole⟩ := suffix
    rw [induction (fun run within => brief run (within.trans ?_)) open_]
    exact ⟨before, [], by rw [← whole]; simp⟩

lemma read_chunks (r : HdlcFrameReader) (whole : chunks.flatten = hdlcFlag :: bytes)
    (brief : Brief bytes) : ∃ garbage, (r.buf = [] → garbage = []) ∧
    r.read chunks = garbage ++ (extract (hdlcFlag :: bytes)).1 := by
  induction chunks generalizing r with
  | nil => cases whole
  | cons chunk chunks induction =>
    rw [flatten_cons] at whole
    cases chunk with
    | nil =>
      obtain ⟨garbage, fresh, later⟩ := induction (r.feed []).1 whole
      refine ⟨(r.feed []).2 ++ garbage, ?_, ?_⟩
      · intro empty
        have nothing : extract [] = ([], []) := by rw [extract.eq_def]; rfl
        rw [feed, empty, append_nil, nothing] at fresh ⊢
        exact fresh rfl
      · rw [read, later, append_assoc]
    | cons first chunk =>
      obtain ⟨rfl, rest⟩ := List.cons.inj whole
      subst rest
      obtain ⟨garbage, fresh, opened⟩ := extract_append
      obtain ⟨frames, kept, read, ⟨before, suffix⟩, open_, resumed⟩ := extract_kept
        fun run within => brief run (within.trans (prefix_append chunk _).isInfix)
      refine ⟨garbage, fresh, ?_⟩
      rw [HdlcFrameReader.read, feed, opened, read]
      refine Eq.trans ?_ (congrArg (garbage ++ ·.1) (resumed chunks.flatten)).symm
      dsimp only
      rw [read_flag (fun run within => brief run (within.trans ?_)) open_, append_assoc]
      exact ⟨before, [], by rw [← suffix]; simp⟩

/-! ## Streams of frames -/

lemma hdlcFrame_append (data rest : List UInt8) :
    hdlcFrame data ++ rest = hdlcFlag :: (hdlcEscape data ++ hdlcFlag :: rest) := by
  simp [hdlcFrame]

lemma extract_frame (long : headerMinSize ≤ data.length) (rest : List UInt8) :
    (extract (hdlcFrame data ++ rest)).1 = data :: (extract (hdlcFlag :: rest)).1 := by
  rw [hdlcFrame_append, extract_next (hdlcEscape_notFlag data), framed,
    if_pos (long.trans (length_le_hdlcEscape data)), hdlcUnescape_escape]
  rfl

variable {packets : List (List UInt8)}

lemma extract_frames (long : ∀ data ∈ packets, headerMinSize ≤ data.length) :
    (extract (hdlcFlag :: packets.flatMap hdlcFrame)).1 = packets := by
  induction packets with
  | nil => rw [flatMap_nil, extract_open (forall_mem_nil _) (by decide)]
  | cons data packets induction =>
    obtain ⟨first, others⟩ := forall_mem_cons.mp long
    -- The flag before the frame opens an empty one, which is passed over.
    have skipped := extract_next (forall_mem_nil _)
      (hdlcEscape data ++ hdlcFlag :: packets.flatMap hdlcFrame)
    rw [← hdlcFrame_append, nil_append, framed, if_neg (by decide)] at skipped
    rw [flatMap_cons, skipped, nil_append, extract_frame first, induction others]

lemma infix_of_notFlag {run before after : List UInt8} (inside : ∀ b ∈ run, notFlag b)
    (within : run <:+: before ++ hdlcFlag :: after) : run <:+: before ∨ run <:+: after := by
  have front : ∀ before, run <+: before ++ hdlcFlag :: after → run <+: before := by
    intro before whole
    rcases prefix_or_prefix_of_prefix whole (prefix_append before _) with
      short | ⟨beyond, rfl⟩
    · exact short
    · cases beyond with
      | nil => simp
      | cons b beyond =>
        obtain ⟨rfl, -⟩ := cons_prefix_cons.mp ((prefix_append_right_inj before).mp whole)
        exact absurd (inside hdlcFlag (by simp)) (by decide)
  induction before with
  | nil =>
    rcases infix_cons_iff.mp within with whole | later
    · exact .inl (front [] whole).isInfix
    · exact .inr later
  | cons b before induction =>
    rcases infix_cons_iff.mp within with whole | later
    · exact .inl (front (b :: before) whole).isInfix
    · exact (induction later).imp_left fun inner => inner.trans (suffix_cons b before).isInfix

lemma brief_frames (fits : ∀ data ∈ packets, (hdlcFrame data).length ≤ hdlcMaxBuffered) :
    Brief (packets.flatMap hdlcFrame) := by
  intro run within inside
  induction packets with
  | nil =>
    rw [infix_nil.mp within]
    decide
  | cons data packets induction =>
    obtain ⟨first, others⟩ := forall_mem_cons.mp fits
    rw [flatMap_cons, hdlcFrame_append, ← nil_append (hdlcFlag :: _)] at within
    rcases infix_of_notFlag inside within with none | within
    · rw [infix_nil.mp none]
      decide
    rcases infix_of_notFlag inside within with one | later
    · have shorter := one.length_le
      simp only [hdlcFrame, length_append, length_cons] at first
      omega
    · exact induction others later

lemma length_extract_le (buf : List UInt8) : (extract buf).2.length ≤ hdlcMaxBuffered := by
  fun_induction extract buf with
  | case1 => exact Nat.zero_le _
  | case2 =>
    dsimp only
    split
    · exact Nat.zero_le _
    · omega
  | case3 _ _ _ _ _ _ _ _ _ _ induction => exact induction
  | case4 _ _ _ _ _ _ _ _ _ _ induction => exact induction

lemma read_frames (r : HdlcFrameReader)
    (long : ∀ packet ∈ data :: packets, headerMinSize ≤ packet.length)
    (fits : ∀ packet ∈ data :: packets, (hdlcFrame packet).length ≤ hdlcMaxBuffered)
    (whole : chunks.flatten = (data :: packets).flatMap hdlcFrame) :
    ∃ garbage, (r.buf = [] → garbage = []) ∧ r.read chunks = garbage ++ data :: packets := by
  obtain ⟨first, others⟩ := forall_mem_cons.mp long
  have brief := brief_frames fits
  rw [flatMap_cons, hdlcFrame_append] at whole brief
  obtain ⟨garbage, fresh, read⟩ := r.read_chunks whole
    fun run within => brief run (within.trans (suffix_cons _ _).isInfix)
  rw [← hdlcFrame_append, extract_frame first, extract_frames others] at read
  exact ⟨garbage, fresh, read⟩

end

/-- After whatever came before, the frames of a stream of packets end with
those packets, however the stream is cut; and what a reader keeps is bounded. -/
theorem hdlc_stream (r : HdlcFrameReader) (packets chunks : List (List UInt8))
    (long : ∀ data ∈ packets, headerMinSize ≤ data.length)
    (fits : ∀ data ∈ packets, (hdlcFrame data).length ≤ hdlcMaxBuffered)
    (whole : chunks.flatten = packets.flatMap hdlcFrame) :
    packets <:+ r.read chunks ∧
      ∀ (r : HdlcFrameReader) data, (r.feed data).1.buf.length ≤ hdlcMaxBuffered := by
  refine ⟨?_, fun r data => length_extract_le _⟩
  cases packets with
  | nil => exact nil_suffix
  | cons data packets =>
    obtain ⟨garbage, -, read⟩ := r.read_frames long fits whole
    exact ⟨garbage, read.symm⟩

theorem hdlc_stream_twice :
    let data := List.replicate 19 hdlcFlag
    [data, data] <:+ (⟨[hdlcFlag, 1]⟩ : HdlcFrameReader).read [hdlcFrame data ++ hdlcFrame data] :=
  (hdlc_stream ⟨[hdlcFlag, 1]⟩ [List.replicate 19 hdlcFlag, List.replicate 19 hdlcFlag] _
    (by decide) (by decide) (by simp)).1

end HdlcFrameReader

end MeshSat.Reticulum
