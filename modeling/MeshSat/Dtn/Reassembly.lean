import Mathlib.Data.List.Induction
import MeshSat.Dtn.Fragment
import MeshSat.Library.Keyed

/-!
# Reassembly

The reassembly buffer keeps the fragments of every bundle in progress by
index, and gives back the payload with the last one.
-/

variable {i : Nat}

namespace MeshSat.Dtn

open Library List Keyed

/-! ## The buffer -/

structure FragmentPart where
  index : UInt16
  payload : List UInt8
  deriving DecidableEq

open FragmentPart

structure ReassemblyState where
  bundleID : BundleID
  totalSize : UInt32
  fragTotal : UInt16
  fragments : Keyed index

/-- One fragment more; a duplicate overwrites. -/
def ReassemblyState.add (state : ReassemblyState) (part : FragmentPart) : ReassemblyState :=
  { state with fragments := state.fragments.put part }

/-- The bundles in progress, and how many there may be; no limit when it is
not positive. -/
structure ReassemblyBuffer where
  bundles : Keyed ReassemblyState.bundleID := .empty
  maxSize : Int := 0

inductive ReassembleError where
  | header (error : HeaderError)
  | full (maxSize : Int)
  | totalSizeMismatch (got expected : UInt32)
  | fragTotalMismatch (got expected : UInt16)
  | missing (index : UInt16)
  | sizeMismatch (got : Nat) (expected : UInt32)
  deriving DecidableEq

def ReassembleError.text : ReassembleError → String
  | .header error => error.text
  | .full maxSize => "reassembly buffer full (" ++ toString maxSize ++ " bundles)"
  | .totalSizeMismatch got expected =>
    "total_size mismatch for bundle: got " ++ toString got ++ ", expected " ++ toString expected
  | .fragTotalMismatch got expected =>
    "frag_total mismatch for bundle: got " ++ toString got ++ ", expected " ++ toString expected
  | .missing index => "missing fragment " ++ toString index ++ " during reassembly"
  | .sizeMismatch got expected =>
    "reassembled size " ++ toString got ++ " != expected total_size " ++ toString expected

def appendFragment (fragments : Keyed index)
    (result : List UInt8) (i : Nat) : Except ReassembleError (List UInt8) :=
  match fragments.get? (UInt16.ofNat i) with
  | none => .error (.missing (UInt16.ofNat i))
  | some part => .ok (result ++ part.payload)

def join (fragments : Keyed index) (total : Nat) : Except ReassembleError (List UInt8) :=
  (List.range total).foldlM (appendFragment fragments) []

namespace ReassemblyBuffer

def put (rb : ReassemblyBuffer) (state : ReassemblyState) : ReassemblyBuffer :=
  { rb with bundles := rb.bundles.put state }

section
variable (rb : ReassemblyBuffer)

def delete (id : BundleID) : ReassemblyBuffer :=
  { rb with bundles := rb.bundles.deleteWhere fun state => state.bundleID = id }

def finish (state : ReassemblyState) :
    Except ReassembleError (Option (List UInt8)) × ReassemblyBuffer :=
  if UInt16.ofNat state.fragments.entries.length < state.fragTotal then
    (.ok none, rb)
  else
    match join state.fragments state.fragTotal.toNat with
    | .error error => (.error error, rb)
    | .ok result =>
      if UInt32.ofNat result.length ≠ state.totalSize then
        (.error (.sizeMismatch result.length state.totalSize), rb.delete state.bundleID)
      else (.ok (some result), rb.delete state.bundleID)

def store (hdr : BundleHeader) (fragPayload : List UInt8) (state : ReassemblyState) :
    Except ReassembleError (Option (List UInt8)) × ReassemblyBuffer :=
  if hdr.totalSize ≠ state.totalSize then
    (.error (.totalSizeMismatch hdr.totalSize state.totalSize), rb)
  else if hdr.fragTotal ≠ state.fragTotal then
    (.error (.fragTotalMismatch hdr.fragTotal state.fragTotal), rb)
  else
    let state := state.add ⟨hdr.fragIndex, fragPayload⟩
    (rb.put state).finish state

end

def newState (hdr : BundleHeader) : ReassemblyState where
  bundleID := hdr.bundleID
  totalSize := hdr.totalSize
  fragTotal := hdr.fragTotal
  fragments := .empty

/-- `Reassemble`: one fragment, and the payload if it is the last. -/
def reassemble (rb : ReassemblyBuffer) (data : List UInt8) :
    Except ReassembleError (Option (List UInt8)) × ReassemblyBuffer :=
  match unmarshalBundleHeader data with
  | .error error => (.error (.header error), rb)
  | .ok hdr =>
    let fragPayload := data.drop bundleHeaderLen
    match rb.bundles.get? hdr.bundleID with
    | some state => rb.store hdr fragPayload state
    | none =>
      if rb.maxSize > 0 ∧ rb.bundles.entries.length ≥ rb.maxSize then
        (.error (.full rb.maxSize), rb)
      else
        let state := newState hdr
        (rb.put state).store hdr fragPayload state

def feedAll (rb : ReassemblyBuffer) (feed : List (List UInt8)) : ReassemblyBuffer :=
  feed.foldl (fun rb data => (rb.reassemble data).2) rb

end ReassemblyBuffer

/-! ## A bundle's entry -/

lemma join_eq
    (all : ∀ i < total, fragments.get? (UInt16.ofNat i) = some ⟨UInt16.ofNat i, parts i⟩) :
    join fragments total = .ok ((List.range total).flatMap parts) := by
  induction total with
  | zero => rfl
  | succ total induction =>
    have earlier := induction fun i inside => all i (Nat.lt_succ_of_lt inside)
    have last := all total (Nat.lt_succ_self total)
    unfold join at *
    rw [range_succ, foldlM_append, earlier, flatMap_append]
    simp [appendFragment, last, bind, Except.bind, pure, Except.pure]

/-- What is kept of a bundle when these data were fed: the pieces of the
fragments among them. -/
structure Gathered (payload : List UInt8) (id : BundleID) (size count : Nat)
    (fed : List (List UInt8)) (state : ReassemblyState) : Prop where
  bundleID : state.bundleID = id
  totalSize : state.totalSize = UInt32.ofNat payload.length
  fragTotal : state.fragTotal = UInt16.ofNat count
  indices : ∀ part ∈ state.fragments, part.index ∈ (List.range count).map UInt16.ofNat
  parts : ∀ i < count, state.fragments.get? (UInt16.ofNat i) =
    if fragmentAt payload id size count i ∈ fed then
      some ⟨UInt16.ofNat i, piece size payload i⟩
    else none

section
variable {payload : List UInt8} {id : BundleID} {size count : Nat} {fragments : List (List UInt8)}

lemma index_eq_iff (few : count < 2 ^ 16) (first : i < count)
    (second : j < count) : UInt16.ofNat i = UInt16.ofNat j ↔ i = j := by
  constructor
  · intro same
    have values := congrArg UInt16.toNat same
    simp only [UInt16.toNat_ofNat'] at values
    rwa [Nat.mod_eq_of_lt (lt_trans first few), Nat.mod_eq_of_lt (lt_trans second few)] at values
  · exact congrArg _

lemma nodup_indices (few : count < 2 ^ 16) : ((List.range count).map UInt16.ofNat).Nodup := by
  apply List.Nodup.map_on _ nodup_range
  intro i first j second same
  exact (index_eq_iff few (mem_range.mp first) (mem_range.mp second)).mp same

lemma Cut.fragmentAt_eq_iff (cut : Cut payload id size count fragments) (first : i < count)
    (second : j < count) :
    fragmentAt payload id size count i = fragmentAt payload id size count j ↔ i = j := by
  constructor
  · intro same
    have headers := cut.unmarshal first
    rw [same, cut.unmarshal second] at headers
    have indices := congrArg BundleHeader.fragIndex (Except.ok.inj headers)
    exact ((index_eq_iff cut.few second first).mp indices).symm
  · exact congrArg _

lemma gathered_newState (i : Nat) (none : ∀ j < count, fragmentAt payload id size count j ∉ fed) :
    Gathered payload id size count fed (ReassemblyBuffer.newState
        (fragmentHeader payload.length id count i)) := by
  refine ⟨rfl, rfl, rfl, ?_, ?_⟩
  · intro part member
    cases member
  intro j inside
  rw [if_neg (none j inside)]
  rfl

namespace Gathered

variable {fed : List (List UInt8)} {state : ReassemblyState}

lemma add (cut : Cut payload id size count fragments)
    (gathered : Gathered payload id size count fed state) (inside : i < count) :
    Gathered payload id size count (fed ++ [fragmentAt payload id size count i])
      (state.add ⟨UInt16.ofNat i, piece size payload i⟩) := by
  refine { gathered with indices := ?_, parts := ?_ }
  · exact Keyed.forall_mem_put (mem_map.mpr ⟨i, mem_range.mpr inside, rfl⟩) gathered.indices
  intro j inside'
  rw [ReassemblyState.add, get?_put, gathered.parts j inside']
  simp only [index_eq_iff cut.few inside' inside, mem_append,
    mem_singleton, cut.fragmentAt_eq_iff inside' inside]
  by_cases same : j = i
  · subst same
    simp
  · simp [same]

lemma other (gathered : Gathered payload id size count fed state)
    (foreign : ∀ i < count, fragmentAt payload id size count i ≠ data) :
    Gathered payload id size count (fed ++ [data]) state := by
  refine { gathered with parts := ?_ }
  intro i inside
  rw [gathered.parts i inside]
  simp [foreign i inside]

section
variable (cut : Cut payload id size count fragments)
  (gathered : Gathered payload id size count fed state)

include cut gathered

lemma toNat_fragTotal : state.fragTotal.toNat = count := by
  rw [gathered.fragTotal, UInt16.toNat_ofNat', Nat.mod_eq_of_lt cut.few]

lemma part (all : ∀ fragment ∈ fragments, fragment ∈ fed) (inside : i < count) :
    state.fragments.get? (UInt16.ofNat i) = some ⟨UInt16.ofNat i, piece size payload i⟩ := by
  rw [gathered.parts i inside]
  exact if_pos (all _ (cut.mem_iff.mpr ⟨i, inside, rfl⟩))

lemma incomplete_iff : UInt16.ofNat state.fragments.entries.length < state.fragTotal ↔
    ¬ ∀ fragment ∈ fragments, fragment ∈ fed := by
  -- The indices kept are among the fragments', so their number tells.
  have most := length_le_of_keys gathered.indices
  rw [length_map, length_range] at most
  have value : (UInt16.ofNat state.fragments.entries.length).toNat =
      state.fragments.entries.length := by
    rw [UInt16.toNat_ofNat']
    exact Nat.mod_eq_of_lt (lt_of_le_of_lt most cut.few)
  rw [UInt16.lt_iff_toNat_lt, value, gathered.toNat_fragTotal cut]
  constructor
  · intro short all
    have present : ∀ index ∈ (List.range count).map UInt16.ofNat,
        state.fragments.get? index ≠ none := by
      intro index member
      obtain ⟨i, inside, rfl⟩ := mem_map.mp member
      rw [gathered.part cut all (mem_range.mp inside)]
      exact Option.some_ne_none _
    have full := le_length_of_all (nodup_indices cut.few) present
    rw [length_map, length_range] at full
    omega
  intro lacking
  push Not at lacking
  obtain ⟨data, member, absent⟩ := lacking
  obtain ⟨i, inside, rfl⟩ := cut.mem_iff.mp member
  have missing := gathered.parts i inside
  rw [if_neg absent] at missing
  have short := length_lt_of_missing gathered.indices
    (mem_map.mpr ⟨i, mem_range.mpr inside, rfl⟩) missing
  rwa [length_map, length_range] at short

lemma joined (all : ∀ fragment ∈ fragments, fragment ∈ fed) :
    join state.fragments state.fragTotal.toNat = .ok payload := by
  rw [gathered.toNat_fragTotal cut,
    join_eq fun i inside => gathered.part cut all inside, cut.joined]

end

end Gathered

end

/-! ## The buffer under a feed -/

namespace ReassemblyBuffer

variable {payload : List UInt8} {id : BundleID} {size count : Nat}
  {fragments fed : List (List UInt8)}

variable {state : ReassemblyState} {hdr : BundleHeader}
  {fragPayload data : List UInt8} {rb : ReassemblyBuffer} {feed : List (List UInt8)}

section
variable (rb : ReassemblyBuffer)

lemma get?_put_other (other : state.bundleID ≠ id) :
    (rb.put state).bundles.get? id = rb.bundles.get? id := by
  rw [put, get?_put, if_neg other.symm]

lemma get?_delete_other (other : name ≠ id) :
    (rb.delete name).bundles.get? id = rb.bundles.get? id := by
  rw [delete, get?_deleteWhere]
  cases found : rb.bundles.get? id with
  | none => rfl
  | some state =>
    have named := key_of_get? found
    simp [Option.filter, named, other.symm]

lemma get?_finish_other (other : state.bundleID ≠ id) :
    (rb.finish state).2.bundles.get? id = rb.bundles.get? id := by
  unfold finish
  split
  · rfl
  split
  · rfl
  split
  · exact rb.get?_delete_other other
  · exact rb.get?_delete_other other

lemma get?_store_other (other : state.bundleID ≠ id) :
    (rb.store hdr fragPayload state).2.bundles.get? id = rb.bundles.get? id := by
  unfold store
  split
  · rfl
  split
  · rfl
  have added : (state.add ⟨hdr.fragIndex, fragPayload⟩).bundleID ≠ id := other
  rw [get?_finish_other _ added, get?_put_other _ added]

end

/-- Data that are not a fragment of the bundle: malformed, or of another. -/
def foreign (id : BundleID) (data : List UInt8) : Bool :=
  match unmarshalBundleHeader data with
  | .error _ => true
  | .ok hdr => hdr.bundleID ≠ id

lemma ne_of_foreign (other : foreign id data) (header : unmarshalBundleHeader data = .ok hdr) :
    hdr.bundleID ≠ id := by
  unfold foreign at other
  rw [header] at other
  exact of_decide_eq_true other

lemma get?_reassemble_foreign (rb : ReassemblyBuffer) (other : foreign id data) :
    (rb.reassemble data).2.bundles.get? id = rb.bundles.get? id := by
  unfold reassemble
  cases header : unmarshalBundleHeader data with
  | error error => rfl
  | ok hdr =>
    have other := ne_of_foreign other header
    dsimp only
    cases found : rb.bundles.get? hdr.bundleID with
    | some state => exact rb.get?_store_other ((key_of_get? found).trans_ne other)
    | none =>
      dsimp only
      split
      · rfl
      have new : (newState hdr).bundleID ≠ id := other
      rw [get?_store_other _ new, get?_put_other _ new]

/-- The entry of a bundle when these data were fed. -/
def Collects (payload : List UInt8) (id : BundleID) (size count : Nat)
    (fed : List (List UInt8)) (rb : ReassemblyBuffer) : Prop :=
  match rb.bundles.get? id with
  | none => ∀ i < count, fragmentAt payload id size count i ∉ fed
  | some state => Gathered payload id size count fed state

/-- A fragment of the bundle finds an entry, or may start one. -/
def hasRoom (id : BundleID) (rb : ReassemblyBuffer) : Bool :=
  (rb.bundles.get? id).isSome ∨ rb.maxSize ≤ 0 ∨ rb.bundles.entries.length < rb.maxSize

section
variable (cut : Cut payload id size count fragments) (rb : ReassemblyBuffer)
  (gathered : Gathered payload id size count fed state)

include cut gathered

lemma finish_complete
    (all : ∀ fragment ∈ fragments, fragment ∈ fed) : (rb.finish state).1 = .ok (some payload) := by
  have sized : ¬ UInt32.ofNat payload.length ≠ state.totalSize :=
    not_not.mpr gathered.totalSize.symm
  unfold finish
  rw [if_neg fun short => (gathered.incomplete_iff cut).mp short all, gathered.joined cut all]
  dsimp only
  rw [if_neg sized]

lemma finish_incomplete
    (lacking : ¬ ∀ fragment ∈ fragments, fragment ∈ fed) : rb.finish state = (.ok none, rb) :=
  if_pos ((gathered.incomplete_iff cut).mpr lacking)

end

lemma store_eq (rb : ReassemblyBuffer) (sizes : hdr.totalSize = state.totalSize)
    (totals : hdr.fragTotal = state.fragTotal) : rb.store hdr fragPayload state =
      (rb.put (state.add ⟨hdr.fragIndex, fragPayload⟩)).finish
        (state.add ⟨hdr.fragIndex, fragPayload⟩) := by
  unfold store
  rw [if_neg (not_not.mpr sizes), if_neg (not_not.mpr totals)]

lemma reassemble_own (cut : Cut payload id size count fragments)
    (collects : Collects payload id size count fed rb) (room : hasRoom id rb)
    (inside : i < count) : ∃ (state : ReassemblyState) (before : ReassemblyBuffer),
      Gathered payload id size count (fed ++ [fragmentAt payload id size count i]) state ∧
      rb.reassemble (fragmentAt payload id size count i) = (before.put state).finish state := by
  have named : (fragmentHeader payload.length id count i).bundleID = id := rfl
  unfold Collects at collects
  unfold reassemble
  rw [cut.unmarshal inside, Cut.drop_header]
  dsimp only
  rw [named]
  cases found : rb.bundles.get? id with
  | some state =>
    rw [found] at collects
    exact ⟨_, rb, collects.add cut inside,
      rb.store_eq collects.totalSize.symm collects.fragTotal.symm⟩
  | none =>
    rw [found] at collects
    have new := gathered_newState i collects
    have free : ¬ (rb.maxSize > 0 ∧ (rb.bundles.entries.length : Int) ≥ rb.maxSize) := by
      rintro ⟨limited, full⟩
      have room := of_decide_eq_true room
      simp only [found, Option.isSome_none, Bool.false_eq_true, false_or] at room
      omega
    rw [if_neg free]
    exact ⟨_, _, new.add cut inside, store_eq _ rfl rfl⟩

lemma collects_put (gathered : Gathered payload id size count fed state) :
    Collects payload id size count fed (rb.put state) := by
  have found : (rb.put state).bundles.get? id = some state := by
    rw [put, get?_put, if_pos gathered.bundleID.symm]
  unfold Collects
  rw [found]
  exact gathered

lemma fragmentAt_ne_foreign (cut : Cut payload id size count fragments) (other : foreign id data)
    (inside : i < count) : fragmentAt payload id size count i ≠ data := by
  rintro rfl
  exact ne_of_foreign other (cut.unmarshal inside) rfl

lemma collects_foreign (cut : Cut payload id size count fragments)
    (collects : Collects payload id size count fed rb) (other : foreign id data) :
    Collects payload id size count (fed ++ [data]) (rb.reassemble data).2 := by
  unfold Collects at *
  rw [rb.get?_reassemble_foreign other]
  cases found : rb.bundles.get? id with
  | none =>
    rw [found] at collects
    intro i inside member
    rcases mem_append.mp member with old | new
    · exact collects i inside old
    · exact fragmentAt_ne_foreign cut other inside (mem_singleton.mp new)
  | some state =>
    rw [found] at collects
    exact collects.other fun i inside =>
      fragmentAt_ne_foreign cut other inside

/-- Every fragment of the bundle in the feed finds an entry, or room for
one. -/
def roomAlong (id : BundleID) (fragments : List (List UInt8)) :
    ReassemblyBuffer → List (List UInt8) → Bool
  | _, [] => true
  | rb, data :: feed =>
    (data ∉ fragments ∨ rb.hasRoom id) ∧ roomAlong id fragments (rb.reassemble data).2 feed

lemma roomAlong_concat : roomAlong id fragments rb (feed ++ [data]) = true ↔
    roomAlong id fragments rb feed = true ∧
    (data ∈ fragments → (rb.feedAll feed).hasRoom id = true) := by
  induction feed generalizing rb with
  | nil => simp [roomAlong, feedAll, imp_iff_not_or]
  | cons head feed induction =>
    have step : rb.feedAll (head :: feed) = (rb.reassemble head).2.feedAll feed := foldl_cons
    simp only [cons_append, roomAlong, decide_eq_true_eq, induction, step, and_assoc]

section
variable (cut : Cut payload id size count fragments) (absent : rb.bundles.get? id = none)

include cut absent

lemma collects_feedAll (known : ∀ data ∈ feed, data ∈ fragments ∨ foreign id data)
    (room : roomAlong id fragments rb feed) (lacking : ¬ ∀ fragment ∈ fragments, fragment ∈ feed) :
    Collects payload id size count feed (rb.feedAll feed) := by
  -- From the last data back: what is missing now was missing before.
  induction feed using List.reverseRecOn with
  | nil =>
    unfold Collects feedAll
    rw [foldl_nil, absent]
    intro i inside
    exact not_mem_nil
  | append_singleton feed data induction =>
    obtain ⟨earlier, now⟩ := roomAlong_concat.mp room
    have collects := induction (fun other member => known other (mem_append_left _ member))
      earlier (fun all => lacking fun fragment member =>
        mem_append_left _ (all fragment member))
    have step : rb.feedAll (feed ++ [data]) =
        ((rb.feedAll feed).reassemble data).2 := foldl_concat _ _ _ _
    rw [step]
    rcases known data (by simp) with own | other
    · obtain ⟨i, inside, rfl⟩ := cut.mem_iff.mp own
      obtain ⟨state, before, gathered, stored⟩ := reassemble_own cut collects (now own) inside
      rw [stored, finish_incomplete cut _ gathered lacking]
      exact collects_put gathered
    · exact collects_foreign cut collects other

/-- What a fragment of the bundle returns while one is missing: the payload
if it is the last, and nothing otherwise. -/
lemma reassemble_feedAll (known : ∀ other ∈ feed, other ∈ fragments ∨ foreign id other)
    (own : data ∈ fragments) (lacking : ¬ ∀ fragment ∈ fragments, fragment ∈ feed)
    (room : roomAlong id fragments rb (feed ++ [data])) : ((rb.feedAll feed).reassemble data).1 =
      if ∀ fragment ∈ fragments, fragment ∈ feed ++ [data] then
        .ok (some payload)
      else .ok none := by
  obtain ⟨earlier, now⟩ := roomAlong_concat.mp room
  have collects := collects_feedAll cut absent known earlier lacking
  obtain ⟨i, inside, rfl⟩ := cut.mem_iff.mp own
  obtain ⟨state, before, gathered, stored⟩ := reassemble_own cut collects (now own) inside
  rw [stored]
  split
  next all => exact finish_complete cut _ gathered all
  next missing => rw [finish_incomplete cut _ gathered missing]

end

end ReassemblyBuffer

open ReassemblyBuffer

/-- Fragmentation is lossless. Every fragment fits the MTU, and a buffer
without an entry of the bundle that is fed its fragments in any order, with
duplicates and among other data, gives the payload back when the last one
arrives and nothing before, as long as it has room for the bundle. -/
theorem fragmentation_lossless {payload : List UInt8} {mtu : Int64}
    {random : Option BundleID} {id : BundleID} {fragments : List (List UInt8)}
    (allocated : payload.length < maxAlloc)
    (accepted : fragment payload mtu random = .ok (id, fragments)) :
    (∀ data ∈ fragments, (data.length : Int) ≤ mtu.toInt) ∧
      ∀ (rb : ReassemblyBuffer) (feed : List (List UInt8)) (data : List UInt8),
        rb.bundles.get? id = none → (∀ other ∈ feed, other ∈ fragments ∨ foreign id other) →
        data ∈ fragments → (¬ ∀ fragment ∈ fragments, fragment ∈ feed) →
        roomAlong id fragments rb (feed ++ [data]) → ((rb.feedAll feed).reassemble data).1 =
          if ∀ fragment ∈ fragments, fragment ∈ feed ++ [data] then
            .ok (some payload)
          else .ok none := by
  obtain ⟨size, count, sizes, cut⟩ := fragment_spec allocated accepted
  constructor
  · intro data member
    have bound := cut.length_le member
    omega
  intro rb feed data absent known own lacking room
  exact reassemble_feedAll cut absent known own lacking room

def sampleID (byte : UInt8) : BundleID where
  bytes := List.replicate 16 byte
  length_eq := length_replicate

def sampleFragment (byte : UInt8) (i : Nat) : List UInt8 :=
  fragmentAt [1, 2, 3] (sampleID byte).asVersion4 2 2 i

/-- The last fragment first and twice, a fragment of another bundle and a
malformed one between, in a buffer for two bundles. -/
theorem fragmentation_lossless_interleaved :
    ((feedAll { maxSize := 2 } [sampleFragment 9 0, sampleFragment 7 1, [7],
      sampleFragment 7 1]).reassemble (sampleFragment 7 0)).1 = .ok (some [1, 2, 3]) := by
  have accepted : fragment [1, 2, 3] 27 (some (sampleID 7)) =
      .ok ((sampleID 7).asVersion4, [sampleFragment 7 0, sampleFragment 7 1]) :=
    by decide +kernel
  have returned := (fragmentation_lossless (by decide) accepted).2
    { maxSize := 2 } [sampleFragment 9 0, sampleFragment 7 1, [7],
      sampleFragment 7 1] (sampleFragment 7 0) (by decide +kernel)
    (by decide +kernel) (by decide +kernel) (by decide +kernel) (by decide +kernel)
  rw [returned]
  exact if_pos (by decide +kernel)

/-- A full buffer refuses the fragments of one bundle more. -/
theorem fragment_refused_when_full : fragment [1, 2, 3] 27 (some (sampleID 7)) =
        .ok ((sampleID 7).asVersion4, [sampleFragment 7 0, sampleFragment 7 1]) ∧
      ((feedAll { maxSize := 1 } [sampleFragment 9 0, sampleFragment 7 0]
        ).reassemble (sampleFragment 7 1)).1 = .error (.full 1) := by
  decide +kernel

end MeshSat.Dtn
