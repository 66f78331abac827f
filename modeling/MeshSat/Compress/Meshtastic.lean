import MeshSat.Compress.Smaz2

/-!
# The Meshtastic dictionary

The tables for field messages, and the choice between them and the standard
English dictionary, whose coder is a library of its own.
-/

namespace MeshSat.Compress

def letters (text : String) : List UInt8 := text.toList.map fun letter => UInt8.ofNat letter.toNat

def meshtasticBigrams : List UInt8 :=
  letters ("intherreheanonesorteattistenntartondalitseediseangouleco" ++
      "meneriroderaioicliofasetvetasihamaecomceelllcaurlachhidi" ++
      "hofonsotacnarssoprrtsassusnoiltsemctgeloeebetrnipeiepanc" ++
      "pooldaadviunamutwimoshyoaiewowosfiepttmiopiaweagsuiddooo" ++
      "irspplscaywaigeirylytuulivimabty")

def meshtasticWords : List String :=
  [ "mesh", "node", "message", "channel", "signal", "radio", "frequency",
    "power", "antenna", "range", "gateway", "relay", "bridge", "network",
    "packet", "payload", "status", "battery", "voltage", "level", "percent",
    "position", "latitude", "longitude", "altitude", "heading", "speed",
    "distance", "bearing", "elevation", "terrain", "route", "satellite",
    "iridium", "modem", "serial", "port", "device", "sensor", "timestamp",
    "meshtastic", "location", "coordinates", "waypoint", "temperature",
    "humidity", "pressure", "weather", "connected", "offline", "online",
    "update", "received", "transmitted", "error", "warning", "critical",
    "enabled", "disabled", "configuration", "settings", "interface",
    "protocol", "timeout", "emergency", "rescue", "medical", "assistance",
    "helicopter", "vehicle", "boat", "shelter", "water", "food", "camp",
    "base", "standing", "moving", "stopped", "request", "respond",
    "acknowledge", "confirmed", "denied", "approved", "copy", "over", "roger",
    "affirmative", "negative", "clear", "blocked", "north", "south", "east",
    "west", "success", "failed", "pending", "queued", "delivered", "expired",
    "forwarded", "dropped", "retry", "noise", "interference", "coverage",
    "degrees", "meters", "kilometers", "knots", "duration", "interval",
    "threshold", "maximum", "minimum", "average", "total", "count", "report",
    "checksum", "baud", "cellular", "satellite", "webhook", "mqtt", "iridium",
    "that", "this", "with", "from", "your", "have", "more", "will", "home",
    "about", "time", "they", "what", "which", "their", "there", "only",
    "when", "here", "also", "help", "been", "would", "were", "some", "these",
    "like", "than", "find", "back", "just", "over", "into", "them", "should",
    "then", "good", "well", "where", "right", "high", "through", "each",
    "very", "read", "need", "many", "said", "does", "under", "full", "part",
    "could", "great", "send", "type", "because", "local", "those", "using",
    "result", "before", "make", "data", "area", "want", "show", "even",
    "check", "open", "today", "state", "both", "down", "system", "three",
    "total", "place", "without", "access", "think", "current", "control",
    "change", "small", "rate", "number", "line", "name", "list", "work",
    "last", "next", "used", "free", "other", "first", "world", "after",
    "best", "long", "based", "code", "being", "while", "care", "same",
    "found", "link", "text", "site", "form", "event", "love", "main", "still",
    "information", "service", "people", "year", "email", "group", "detail",
    "design", "board", "point", "test", "track" ]

def meshtastic : Tables :=
  { words := meshtasticWords.map letters
    bigrams := meshtasticBigrams
    length_words := by decide +kernel
    length_bigrams := by decide +kernel }

def compressMeshtastic (s : List UInt8) : List UInt8 := meshtastic.compress s

def decompressMeshtastic (c : List UInt8) : Except Tables.DecodeError (List UInt8) :=
  meshtastic.decompress c

/-! ## The choice of a dictionary -/

inductive Dictionary where
  | dictDefault | dictMeshtastic
  deriving DecidableEq

/-- Why a compressed text is not read. The standard decoder can index past a
cut escape, which stops the program unless the caller recovers. -/
inductive DecompressError where
  | meshtastic (error : Tables.DecodeError)
  | standard (text : String)
  | panic
  deriving DecidableEq

def DecompressError.text : DecompressError → String
  | .meshtastic error => error.text
  | .standard text => text
  | .panic => "index out of range"

/-- The standard dictionary's coder. -/
structure Standard where
  compressBytes : List UInt8 → List UInt8
  decompressToBytes : List UInt8 → Except DecompressError (List UInt8)

/-- A byte that the standard coder writes as it is and reads as an escape. -/
def escapes (b : UInt8) : Bool := 1 ≤ b && b ≤ 8

/-- The loop of `compressDefault`: the bytes since the last escape, what is
written, and whether there was an escape. -/
def Standard.compressAround (standard : Standard) :
    List UInt8 → List UInt8 → List UInt8 → Bool → List UInt8
  | [], segment, out, seen =>
    if seen = false then standard.compressBytes segment
    else if segment ≠ [] then out ++ standard.compressBytes segment
    else out
  | b :: data, segment, out, seen =>
    if escapes b then
      let flushed :=
        if segment ≠ [] then out ++ standard.compressBytes segment else out
      compressAround standard data [] (flushed ++ [1, b]) true
    else compressAround standard data (segment ++ [b]) out seen

section
variable (standard : Standard) (data : List UInt8)

def Standard.compressDefault : List UInt8 := standard.compressAround data [] [] false

def Standard.compress : Dictionary → List UInt8
  | .dictMeshtastic => if data = [] then [] else compressMeshtastic data
  | .dictDefault => if data = [] then [] else standard.compressDefault data

def Standard.decompress : Dictionary → Except DecompressError (List UInt8)
  | .dictMeshtastic =>
    if data = [] then .ok []
    else (decompressMeshtastic data).mapError .meshtastic
  | .dictDefault => if data = [] then .ok [] else standard.decompressToBytes data

end

/-! ## Reading back -/

lemma decompressMeshtastic_compressMeshtastic (s : List UInt8) :
    decompressMeshtastic (compressMeshtastic s) = .ok s :=
  meshtastic.decompress_compress s

/-- What is written stands for a text, whatever readable follows. -/
def Standard.Reads (standard : Standard) (out text : List UInt8) : Prop :=
  ∀ rest tail, standard.decompressToBytes rest = .ok tail →
    standard.decompressToBytes (out ++ rest) = .ok (text ++ tail)

/-- What the standard coder is taken to do: it reads back what it wrote for a
text without escapes, and a run of one byte. -/
structure Standard.Inverts (standard : Standard) : Prop where
  empty : standard.decompressToBytes [] = .ok []
  segment : ∀ text, (∀ b ∈ text, escapes b = false) →
    standard.Reads (standard.compressBytes text) text
  escape : ∀ b, standard.Reads [1, b] [b]

open Standard

section
variable {standard : Standard}

lemma Standard.Reads.empty : standard.Reads [] [] := fun _ _ reads => reads

lemma Standard.Reads.append (reads : standard.Reads out text)
    (more : standard.Reads code piece) : standard.Reads (out ++ code) (text ++ piece) := by
  intro rest tail read
  rw [List.append_assoc, List.append_assoc]
  apply reads
  exact more rest tail read

variable {segment out text : List UInt8}

lemma Standard.Inverts.reads_segment (inverts : standard.Inverts)
    (plain : ∀ b ∈ segment, escapes b = false)
    (reads : standard.Reads out text) : standard.Reads
      (if segment ≠ [] then out ++ standard.compressBytes segment else out) (text ++ segment) := by
  by_cases empty : segment = []
  · rw [if_neg (fun nonempty => nonempty empty), empty, List.append_nil]
    exact reads
  rw [if_pos empty]
  exact reads.append (inverts.segment segment plain)

lemma noEscapes_nil : ∀ b ∈ ([] : List UInt8), escapes b = false := fun _ among => nomatch among

lemma Standard.Inverts.reads_compressAround (inverts : standard.Inverts) (data : List UInt8)
    (plain : ∀ b ∈ segment, escapes b = false) (reads : standard.Reads out text)
    (first : seen = false → text = []) :
    standard.Reads (standard.compressAround data segment out seen) (text ++ segment ++ data) := by
  induction data generalizing segment out text seen with
  | nil =>
    rw [List.append_nil, compressAround]
    split
    next unseen =>
      rw [first unseen, List.nil_append]
      exact inverts.segment segment plain
    · exact inverts.reads_segment plain reads
  | cons b data induction =>
    rw [compressAround]
    split
    · have flushed := inverts.reads_segment plain reads
      have seen : true = false → text ++ segment ++ [b] = [] := fun impossible => nomatch impossible
      have next := induction noEscapes_nil (flushed.append (inverts.escape b)) seen
      simpa using next
    rename_i ordinary
    have longer : ∀ c ∈ segment ++ [b], escapes c = false := by
      intro c among
      rcases List.mem_append.mp among with old | new
      · exact plain c old
      rw [List.mem_singleton.mp new]
      exact (Bool.not_eq_true _).mp ordinary
    have next := induction longer reads first
    simpa using next

lemma Standard.Inverts.decompress_compressDefault (inverts : standard.Inverts) (data : List UInt8) :
    standard.decompressToBytes (standard.compressDefault data) = .ok data := by
  have first : false = false → ([] : List UInt8) = [] := fun _ => rfl
  have reads := inverts.reads_compressAround data noEscapes_nil
    Standard.Reads.empty first [] [] inverts.empty
  simpa [compressDefault] using reads

end

section
variable {standard : Standard}

lemma Standard.decompress_compress_meshtastic (data : List UInt8) :
    standard.decompress (standard.compress data .dictMeshtastic) .dictMeshtastic = .ok data := by
  by_cases empty : data = []
  · rw [empty]
    rfl
  have written : compressMeshtastic data ≠ [] := meshtastic.compress_ne_nil empty
  rw [compress, if_neg empty, decompress, if_neg written, decompressMeshtastic_compressMeshtastic]
  rfl

lemma Standard.Inverts.decompress_compress (inverts : standard.Inverts) (data : List UInt8)
    (dict : Dictionary) : standard.decompress (standard.compress data dict) dict = .ok data := by
  cases dict with
  | dictMeshtastic => exact decompress_compress_meshtastic data
  | dictDefault =>
    have back := inverts.decompress_compressDefault data
    by_cases empty : data = []
    · rw [empty]
      rfl
    rw [compress, if_neg empty, decompress]
    by_cases nothing : standard.compressDefault data = []
    · rw [nothing, inverts.empty] at back
      rw [if_pos nothing, back]
    · rw [if_neg nothing, back]

lemma Standard.compress_ne_nil
    (back : standard.decompress (standard.compress data dict) dict = .ok data)
    (nonempty : data ≠ []) : standard.compress data dict ≠ [] := by
  intro nothing
  rw [nothing] at back
  apply nonempty
  cases dict with
  | dictMeshtastic => exact (Except.ok.inj back).symm
  | dictDefault => exact (Except.ok.inj back).symm

end

end MeshSat.Compress
