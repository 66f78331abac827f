import MeshSat.Library.Codes

/-!
# SMAZ2

A text is written as codes of one or two bytes: a pair of letters, a word of
the dictionary with or without a space beside it, a byte that stands for
itself, or a run of up to five bytes as they are. The coder is the same for
every pair of tables.
-/

namespace MeshSat.Compress

open Library List

/-- The words and the letter pairs of a dictionary. -/
structure Tables where
  words : List (List UInt8)
  bigrams : List UInt8
  length_words : words.length = 256
  length_bigrams : bigrams.length = 256

namespace Tables

variable (tables : Tables)

/-! ## Reading -/

inductive DecodeError where
  | bigramIndex (index : Nat)
  | verbatim (length position : Nat)
  | wordEscape | wordSpaceEscape | spaceWordEscape
  | wordIndex (index : Nat)
  deriving DecidableEq

def DecodeError.text : DecodeError → String
  | .bigramIndex index => "smaz2: bigram index " ++ toString index ++ " out of range"
  | .verbatim length position =>
    "smaz2: verbatim length " ++ toString length ++ " overflows at position " ++ toString position
  | .wordEscape => "smaz2: word escape at end of input"
  | .wordSpaceEscape => "smaz2: word+space escape at end of input"
  | .spaceWordEscape => "smaz2: space+word escape at end of input"
  | .wordIndex index => "smaz2: word index " ++ toString index ++ " out of range"

/-- The word whose index follows an escape byte. -/
def escapedWord (atEnd : DecodeError) (rest : List UInt8) : Except DecodeError (List UInt8) :=
  match rest with
  | [] => .error atEnd
  | index :: _ =>
    match tables.words[index.toNat]? with
    | some word => .ok word
    | none => .error (.wordIndex index.toNat)

/-- One code at a position: the text it stands for and its length. -/
def decodeOne (position : Nat) : List UInt8 → Except DecodeError (List UInt8 × Nat)
  | [] => .ok ([], 0)
  | b :: rest =>
    if 128 ≤ b then
      let index := (b &&& 0x7F).toNat
      match tables.bigrams[index * 2]?, tables.bigrams[index * 2 + 1]? with
      | some first, some second => .ok ([first, second], 1)
      | _, _ => .error (.bigramIndex index)
    else if 1 ≤ b ∧ b ≤ 5 then
      if rest.length < b.toNat then .error (.verbatim b.toNat position)
      else .ok (rest.take b.toNat, 1 + b.toNat)
    else if b = 6 then
      (tables.escapedWord .wordEscape rest).map fun word => (word, 2)
    else if b = 7 then
      (tables.escapedWord .wordSpaceEscape rest).map fun word =>
        (word ++ [32], 2)
    else if b = 8 then
      (tables.escapedWord .spaceWordEscape rest).map fun word =>
        (32 :: word, 2)
    else .ok ([b], 1)

def decompress (c : List UInt8) : Except DecodeError (List UInt8) :=
  readAll tables.decodeOne c.length 0 c []

/-! ## Writing -/

def wordIndex (candidate : List UInt8) : Option Nat :=
  tables.words.zipIdx.foldl (fun found entry => if entry.1 = candidate then some entry.2 else found)
    none

/-- The longest word at the front of a text, of `start` to 40 bytes: its
length and index. -/
def longestWord (start : Nat) (text : List UInt8) : Nat × Nat :=
  (List.range' start (min text.length 40 + 1 - start)).foldl (fun best length =>
      match tables.wordIndex (text.take length) with
      | some index => if length > best.1 then (length, index) else best
      | none => best) (0, 0)

/-- A code and the number of bytes of text it takes. -/
abbrev Choice := Option (List UInt8 × Nat)

def spaceWordCode : List UInt8 → Choice
  | [] => none
  | space :: text =>
    if space = 32 ∧ text ≠ [] then
      let best := tables.longestWord 0 text
      if 4 ≤ best.1 then some ([8, UInt8.ofNat best.2], 1 + best.1) else none
    else none

def wordCode (text : List UInt8) : Choice :=
  let best := tables.longestWord 4 text
  if 4 ≤ best.1 then
    if text[best.1]? = some 32 then
      some ([7, UInt8.ofNat best.2], best.1 + 1)
    else some ([6, UInt8.ofNat best.2], best.1)
  else none

def bigramCode : List UInt8 → Choice
  | first :: second :: _ =>
    let found := (List.range 128).find? fun index =>
      tables.bigrams[index * 2]? = some first ∧ tables.bigrams[index * 2 + 1]? = some second
    found.map fun index => ([0x80 ||| UInt8.ofNat index], 2)
  | _ => none

def literalCode : List UInt8 → Choice
  | [] => none
  | ch :: _ => if ch = 0 ∨ 9 ≤ ch ∧ ch < 128 then some ([ch], 1) else none

/-- The code of the front of a text in the order the writer tries them. -/
def plainCode (text : List UInt8) : Choice :=
  tables.spaceWordCode text <|> tables.wordCode text <|> tables.bigramCode text <|> literalCode text

/-- What is written, and where the length of the open run stands in it. -/
structure Writer where
  dst : List UInt8
  verbatimStart : Option Nat

/-- Ends the open run and appends a code. -/
def Writer.emit (writer : Writer) (code : List UInt8) : Writer :=
  { dst := writer.dst ++ code, verbatimStart := none }

def Writer.newRun (writer : Writer) (ch : UInt8) : Writer :=
  { dst := writer.dst ++ [1, ch], verbatimStart := some writer.dst.length }

/-- Appends a byte to the open run, or to a new one. -/
def Writer.verbatim (writer : Writer) (ch : UInt8) : Writer :=
  match writer.verbatimStart with
  | none => writer.newRun ch
  | some start =>
    let count := writer.dst.getD start 0
    if count < 5 then
      { dst := writer.dst.set start (count + 1) ++ [ch]
        verbatimStart := if count + 1 = 5 then none else some start }
    else writer.newRun ch

def compressLoop : Nat → Writer → List UInt8 → Writer
  | 0, writer, _ => writer
  | _ + 1, writer, [] => writer
  | fuel + 1, writer, ch :: rest =>
    match tables.plainCode (ch :: rest) with
    | some (code, size) => compressLoop fuel (writer.emit code) ((ch :: rest).drop size)
    | none => compressLoop fuel (writer.verbatim ch) rest

def compress (s : List UInt8) : List UInt8 :=
  (tables.compressLoop s.length { dst := [], verbatimStart := none } s).dst

/-! ## The codes -/

/-- The codes of a dictionary and the texts they stand for. -/
inductive Code : List UInt8 → List UInt8 → Prop where
  | bigram {index : Nat} {first second : UInt8} :
      index < 128 → tables.bigrams[index * 2]? = some first →
        tables.bigrams[index * 2 + 1]? = some second →
          Code [0x80 ||| UInt8.ofNat index] [first, second]
  | verbatim {run : List UInt8} :
      run ≠ [] → run.length ≤ 5 → Code (UInt8.ofNat run.length :: run) run
  | word {index : Nat} {word : List UInt8} : tables.words[index]? = some word → 4 ≤ word.length →
        Code [6, UInt8.ofNat index] word
  | wordSpace {index : Nat} {word : List UInt8} :
      tables.words[index]? = some word → 4 ≤ word.length →
        Code [7, UInt8.ofNat index] (word ++ [32])
  | spaceWord {index : Nat} {word : List UInt8} :
      tables.words[index]? = some word → 4 ≤ word.length → Code [8, UInt8.ofNat index] (32 :: word)
  | literal {ch : UInt8} : ch = 0 ∨ 9 ≤ ch ∧ ch < 128 → Code [ch] [ch]

variable {tables}

variable {index : Nat} {code text : List UInt8} {writer : Writer}

section
variable {word : List UInt8} (found : tables.words[index]? = some word)

include found

lemma toNat_index : (UInt8.ofNat index).toNat = index := by
  obtain ⟨small, _⟩ := List.getElem?_eq_some_iff.mp found
  rw [tables.length_words] at small
  rw [UInt8.toNat_ofNat', Nat.mod_eq_of_lt small]

lemma escapedWord_eq (atEnd : DecodeError) (rest : List UInt8) :
    tables.escapedWord atEnd (UInt8.ofNat index :: rest) = .ok word := by
  simp [escapedWord, toNat_index found, found]

end

lemma bigramByte : ∀ index < 128, 128 ≤ 0x80 ||| UInt8.ofNat index ∧
    ((0x80 ||| UInt8.ofNat index) &&& 0x7F).toNat = index := by
  decide

lemma runLength : ∀ length < 6, 1 ≤ length → ¬ 128 ≤ UInt8.ofNat length ∧
    (1 ≤ UInt8.ofNat length ∧ UInt8.ofNat length ≤ 5) ∧ (UInt8.ofNat length).toNat = length := by
  decide

lemma literalByte {ch : UInt8} (safe : ch = 0 ∨ 9 ≤ ch ∧ ch < 128) :
    ¬ 128 ≤ ch ∧ ¬ (1 ≤ ch ∧ ch ≤ 5) ∧ ch ≠ 6 ∧ ch ≠ 7 ∧ ch ≠ 8 := by
  simp only [UInt8.le_iff_toNat_le, UInt8.lt_iff_toNat_lt, ne_eq,
    ← UInt8.toNat_inj, UInt8.reduceToNat] at safe ⊢
  omega

lemma Code.readsAs (coded : tables.Code code text) : ReadsAs tables.decodeOne code text := by
  cases coded with
  | bigram small first second =>
    obtain ⟨high, low⟩ := bigramByte _ small
    refine ⟨cons_ne_nil _ _, fun position rest => ?_⟩
    simp [decodeOne, if_pos high, low, first, second]
  | verbatim nonempty short =>
    have long := length_pos_of_ne_nil nonempty
    obtain ⟨low, inRun, length⟩ := runLength _ (Nat.lt_succ_of_le short) long
    refine ⟨cons_ne_nil _ _, fun position rest => ?_⟩
    simp [decodeOne, if_neg low, if_pos inRun, length, take_left', Nat.add_comm 1]
  | word found _ | wordSpace found _ | spaceWord found _ =>
    refine ⟨cons_ne_nil _ _, fun position rest => ?_⟩
    simp only [cons_append, nil_append, decodeOne, escapedWord_eq found]
    rfl
  | literal safe =>
    obtain ⟨low, notRun, not6, not7, not8⟩ := literalByte safe
    refine ⟨cons_ne_nil _ _, fun position rest => ?_⟩
    simp [decodeOne, if_neg low, if_neg notRun, if_neg not6, if_neg not7, if_neg not8]

lemma Code.length_le (coded : tables.Code code text) : code.length ≤ 2 * text.length := by
  cases coded with
  | bigram => simp
  | verbatim nonempty _ =>
    have long := length_pos_of_ne_nil nonempty
    rw [length_cons]
    omega
  | word _ long => simp only [length_cons, length_nil]; omega
  | wordSpace _ long => simp only [length_cons, length_nil, length_append]; omega
  | spaceWord _ long => simp only [length_cons, length_nil]; omega
  | literal => simp

/-! ## The writer's choices -/

lemma wordIndex_eq_some (found : tables.wordIndex candidate = some index) :
    tables.words[index]? = some candidate := by
  -- Every index that the loop has held is one of the word.
  revert index
  apply List.foldlRecOn (motive := fun held => ∀ {index}, held = some index →
    tables.words[index]? = some candidate)
  · exact fun impossible => nomatch impossible
  intro held correct entry among index chosen
  have listed := mk_mem_zipIdx_iff_getElem?.mp among
  by_cases same : entry.1 = candidate
  · rw [if_pos same, Option.some.injEq] at chosen
    rw [← chosen, listed, same]
  rw [if_neg same] at chosen
  exact correct chosen

lemma longestWord_spec (start : Nat) (text : List UInt8)
    (long : 4 ≤ (tables.longestWord start text).1) :
    (tables.longestWord start text).1 ≤ text.length ∧
      tables.words[(tables.longestWord start text).2]? =
        some (text.take (tables.longestWord start text).1) := by
  revert long
  apply List.foldlRecOn (motive := fun best : Nat × Nat => 4 ≤ best.1 → best.1 ≤ text.length ∧
      tables.words[best.2]? = some (text.take best.1))
  · exact fun large => absurd large (by decide)
  intro best correct length among
  rw [mem_range'_1] at among
  split
  next index found =>
    split
    · intro _
      exact ⟨by omega, wordIndex_eq_some found⟩
    · exact correct
  · exact correct

def Fits (tables : Tables) (text : List UInt8) (choice : Choice) : Prop :=
  ∀ code size, choice = some (code, size) → 1 ≤ size ∧ tables.Code code (text.take size)

lemma Fits.orElse (left : tables.Fits text first)
    (right : tables.Fits text second) : tables.Fits text (first <|> second) := by
  cases first with
  | none => exact right
  | some choice => exact left

section
variable (text : List UInt8)

lemma fits_spaceWordCode : tables.Fits text (tables.spaceWordCode text) := by
  intro code size chosen
  cases text with
  | nil => exact nomatch chosen
  | cons space text =>
    simp only [spaceWordCode] at chosen
    split at chosen
    next spaced =>
      split at chosen
      next long =>
        obtain ⟨fits, found⟩ := longestWord_spec 0 text long
        obtain ⟨rfl, rfl⟩ := Prod.mk.inj (Option.some.inj chosen)
        rw [spaced.1, Nat.add_comm, take_succ_cons]
        refine ⟨Nat.succ_le_succ (Nat.zero_le _), .spaceWord found ?_⟩
        rw [length_take]
        omega
      · exact nomatch chosen
    · exact nomatch chosen

lemma fits_wordCode : tables.Fits text (tables.wordCode text) := by
  intro code size chosen
  simp only [wordCode] at chosen
  split at chosen
  next long =>
    obtain ⟨fits, found⟩ := longestWord_spec 4 text long
    have length : 4 ≤ (text.take (tables.longestWord 4 text).1).length := by
      rw [length_take]
      omega
    split at chosen
    next spaced =>
      obtain ⟨rfl, rfl⟩ := Prod.mk.inj (Option.some.inj chosen)
      rw [take_add_one, spaced]
      exact ⟨Nat.succ_le_succ (Nat.zero_le _), .wordSpace found length⟩
    · obtain ⟨rfl, rfl⟩ := Prod.mk.inj (Option.some.inj chosen)
      exact ⟨by omega, .word found length⟩
  · exact nomatch chosen

lemma fits_bigramCode : tables.Fits text (tables.bigramCode text) := by
  intro code size chosen
  match text with
  | [] => exact nomatch chosen
  | [_] => exact nomatch chosen
  | first :: second :: rest =>
    simp only [bigramCode, Option.map_eq_some_iff, Prod.mk.injEq] at chosen
    obtain ⟨index, found, rfl, rfl⟩ := chosen
    have small := mem_range.mp (mem_of_find?_eq_some found)
    have same := List.find?_some found
    rw [decide_eq_true_eq] at same
    exact ⟨by decide, .bigram small same.1 same.2⟩

lemma fits_literalCode : tables.Fits text (literalCode text) := by
  intro code size chosen
  cases text with
  | nil => exact nomatch chosen
  | cons ch rest =>
    simp only [literalCode] at chosen
    split at chosen
    next safe =>
      obtain ⟨rfl, rfl⟩ := Prod.mk.inj (Option.some.inj chosen)
      exact ⟨Nat.le_refl 1, .literal safe⟩
    · exact nomatch chosen

lemma fits_plainCode : tables.Fits text (tables.plainCode text) := by
  apply Fits.orElse (fits_spaceWordCode text)
  apply Fits.orElse (fits_wordCode text)
  apply Fits.orElse (fits_bigramCode text)
  exact fits_literalCode text

end

/-! ## The writer's loop -/

/-- The writer has put down a text: complete codes only, or complete codes and
a run that may still grow. -/
inductive Holds (tables : Tables) : Writer → List UInt8 → Prop where
  | complete {dst text : List UInt8} : Written tables.Code dst text →
        Holds tables { dst := dst, verbatimStart := none } text
  | running {dst text run : List UInt8} : Written tables.Code dst text → run ≠ [] → run.length < 5 →
        Holds tables
          { dst := dst ++ UInt8.ofNat run.length :: run
            verbatimStart := some dst.length } (text ++ run)

section
variable (holds : tables.Holds writer text)

include holds

lemma Holds.written : Written tables.Code writer.dst text := by
  cases holds with
  | complete written => exact written
  | running written nonempty short =>
    exact .append written (.verbatim nonempty (Nat.le_of_lt short))

lemma Holds.emit {piece : List UInt8} (coded : tables.Code code piece) : tables.Holds
    (writer.emit code)
    (text ++ piece) :=
  .complete (.append holds.written coded)

lemma Holds.newRun (ch : UInt8) : tables.Holds (writer.newRun ch) (text ++ [ch]) :=
  @Holds.running tables writer.dst text [ch] holds.written (cons_ne_nil _ _) (by simp)

end

lemma runCount : ∀ length < 5, UInt8.ofNat length < 5 ∧
    (UInt8.ofNat length + 1 = 5 ↔ length + 1 = 5) := by
  decide

lemma Holds.verbatim (holds : tables.Holds writer text) (ch : UInt8) :
    tables.Holds (writer.verbatim ch) (text ++ [ch]) := by
  cases holds with
  | complete written => exact (Holds.complete written).newRun ch
  | @running dst text run written nonempty short =>
    obtain ⟨small, full⟩ := runCount _ short
    have length : (run ++ [ch]).length = run.length + 1 := by simp
    have stands : (dst ++ UInt8.ofNat run.length :: run).getD dst.length 0 =
        UInt8.ofNat run.length := by
      simp
    have grown : (dst ++ UInt8.ofNat run.length :: run).set dst.length
        (UInt8.ofNat run.length + 1) ++ [ch] =
          dst ++ UInt8.ofNat (run ++ [ch]).length :: (run ++ [ch]) := by
      simp
    simp only [Writer.verbatim, stands, if_pos small, grown, append_assoc]
    by_cases last : run.length + 1 = 5
    · rw [if_pos (full.mpr last)]
      apply Holds.complete
      exact .append written (.verbatim (by simp) (by omega))
    rw [if_neg (fun five => last (full.mp five))]
    exact Holds.running written (by simp) (by omega)

lemma holds_compressLoop (fuel : Nat)
    (holds : tables.Holds writer text) (enough : rest.length ≤ fuel) :
    tables.Holds (tables.compressLoop fuel writer rest) (text ++ rest) := by
  induction fuel generalizing writer text rest with
  | zero =>
    have empty := eq_nil_of_length_eq_zero (Nat.le_zero.mp enough)
    rw [empty, append_nil]
    exact holds
  | succ fuel induction =>
    cases rest with
    | nil =>
      rw [append_nil]
      exact holds
    | cons ch rest =>
      rw [compressLoop]
      have fits := tables.fits_plainCode (ch :: rest)
      split
      next code size chosen =>
        obtain ⟨positive, coded⟩ := fits code size chosen
        have shorter : ((ch :: rest).drop size).length ≤ fuel := by
          rw [length_drop]
          omega
        have next := induction (holds.emit coded) shorter
        rw [append_assoc, take_append_drop] at next
        exact next
      · have next := induction (holds.verbatim ch) (Nat.le_of_succ_le_succ enough)
        rw [append_assoc] at next
        exact next

section
variable (tables : Tables) (s : List UInt8)

lemma written_compress : Written tables.Code (tables.compress s) s :=
  (holds_compressLoop s.length (.complete .empty) (Nat.le_refl _)).written

lemma decompress_compress : tables.decompress (tables.compress s) = .ok s :=
  (tables.written_compress s).readAll_eq Code.readsAs 0

lemma length_compress_le : (tables.compress s).length ≤ 2 * s.length :=
  (tables.written_compress s).length_le Code.length_le

end

lemma compress_ne_nil (tables : Tables) (nonempty : s ≠ []) : tables.compress s ≠ [] := by
  intro empty
  have back := tables.decompress_compress s
  rw [empty] at back
  exact nonempty (Except.ok.inj back).symm

end Tables

end MeshSat.Compress
