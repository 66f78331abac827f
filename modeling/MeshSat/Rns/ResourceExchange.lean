import Mathlib
import MeshSat.Library.Fill
import MeshSat.Rns.Link
import MeshSat.Rns.ResourceLoops

/-!
# One exchange of a resource transfer

What each handler does with the packets of the other side while a resource is
sent over a link that loses nothing: the receiver holds the first parts and
the first pages of the map, and the sender serves what it is asked for.
-/

namespace MeshSat.Rns

open Library Library.Checked Reticulum List IncomingResource Link FixedBytes Msgpack.Value Msgpack

lemma length_le_flatten {parts : List (List UInt8)} (nonempty : ∀ part ∈ parts, part ≠ []) :
    parts.length ≤ parts.flatten.length := by
  induction parts with
  | nil => exact le_refl 0
  | cons part parts induction =>
    have first := length_pos_of_ne_nil (nonempty part mem_cons_self)
    have rest := induction fun other member =>
      nonempty other (mem_cons_of_mem _ member)
    rw [flatten_cons, length_append, length_cons]
    omega

/-! ## What is offered -/

/-- A payload as it is offered on a link: the parts make its ciphertext, and
no two of them have one map hash. -/
structure Offer (p : Primitives) (token : Token) where
  payload : List UInt8
  (front random : RandomHash)
  parts : List (List UInt8)
  positive : 0 < parts.length
  nonempty : ∀ part ∈ parts, part ≠ []
  small : (parts.flatten.length : Int) ≤ 3 * resourceMaxSize
  nodup : (parts.map fun part => mapHash p part random).Nodup
  decrypts : token.decrypt parts.flatten = .ok (front.bytes ++ payload)

namespace Offer

variable {p : Primitives} {token : Token} (o : Offer p token)

def hash : FullHash := resourceHash p o.payload o.random

def count : Nat := o.parts.length

def hashes : List MapHash := o.parts.map fun part => mapHash p part o.random

def height (k : Nat) : Nat := min (74 * k) o.count

/-- Where the sender looks for parts while the receiver has `k` pages. -/
def lowMark (k : Nat) : Int := max (74 * ((k : Int) - 1) - 76) 0

@[simp] lemma length_hashes : o.hashes.length = o.count := length_map _

lemma hash_at (i : Nat) : o.hashes[i]? = o.parts[i]?.map fun part => mapHash p part o.random :=
  List.getElem?_map

lemma count_le : o.count ≤ o.parts.flatten.length := length_le_flatten o.nonempty

lemma count_lt : o.count < 2 ^ 22 := by
  have small := o.small
  have le := o.count_le
  rw [resourceMaxSize] at small
  omega

lemma height_le (k : Nat) : o.height k ≤ o.count := min_le_right _ _

lemma height_succ_of_lt (more : 74 * k < o.count) :
    o.height k = 74 * k ∧ o.height (k + 1) = min (74 * k + 74) o.count := by
  rw [height, height]
  omega

lemma mem_page (found : o.hashes[i]? = some mh) :
    mh ∈ page o.hashes low high ↔ low ≤ i ∧ i < high := by
  obtain ⟨inside, same⟩ := List.getElem?_eq_some_iff.mp found
  rw [page, mem_iff_getElem?]
  constructor
  · rintro ⟨j, listed⟩
    rw [List.getElem?_drop] at listed
    obtain ⟨short, other⟩ := List.getElem?_eq_some_iff.mp listed
    rw [length_take] at short
    rw [getElem_take] at other
    have equal : low + j = i := by
      apply (List.Nodup.getElem_inj_iff o.nodup).mp
      exact other.trans same.symm
    omega
  rintro ⟨above, below⟩
  refine ⟨i - low, ?_⟩
  rw [List.getElem?_drop, Nat.add_sub_cancel' above, List.getElem?_take_of_lt below]
  exact found

end Offer

/-! ## Numbers in messages -/

@[simp] lemma asInt_ofInt (i : Int64) : (ofInt i).asInt = some i := by
  rw [ofInt]
  split
  · rename_i nonneg
    have value : i.toInt = if 2 * i.toUInt64.toNat < 2 ^ 64 then
        (i.toUInt64.toNat : Int) else i.toUInt64.toNat - (2 ^ 64 : Nat) :=
      BitVec.toInt_eq_toNat_cond _
    have low : 0 ≤ i.toInt := Int64.le_iff_toInt_le.mp nonneg
    have bound := i.toUInt64.toNat_lt
    have bits : i.toUInt64.toNat < 2 ^ 63 := by
      split at value
      · omega
      · omega
    rw [asInt, if_pos bits]
    rfl
  · rfl

lemma toInt_ofInt (low : 0 ≤ i) (high : i < 2 ^ 63) : (Int64.ofInt i).toInt = i :=
  Int64.toInt_ofInt_of_le (by omega) (by omega)

@[simp] lemma normal_ofInt (i : Int64) : (ofInt i).normal = ofInt i := by
  rw [ofInt]
  split
  · simp [normal]
  rename_i negative
  rw [normal, ofInt, if_neg negative]

/-! ## The receiver's tables -/

section
variable {p : Primitives} {token : Token} {o : Offer p token}

def IncomingResource.mapped (o : Offer p token) (h : Nat)
    (r : IncomingResource) : IncomingResource :=
  { r with
    hashHeight := h
    hashmap := fill o.hashes (FixedBytes.zero _) h
    hashmapSet := fill (List.replicate o.count true) false h }

/-- A receiver with the first `c` parts and the first `k` pages. -/
structure IncomingResource.Holds (o : Offer p token) (c k : Nat) (r : IncomingResource) : Prop where
  hash : r.hash = o.hash
  total : r.totalParts = o.count
  parts : r.parts = fill (o.parts.map some) none c
  height : r.hashHeight = (o.height k : Nat)
  hashmap : r.hashmap = fill o.hashes (FixedBytes.zero _) (o.height k)
  hashmapSet : r.hashmapSet = fill (List.replicate o.count true) false (o.height k)
  random : r.randomHash = o.random
  compressed : r.compressed = false
  received : r.received = c
  consecutive : r.consecutive = (c : Int) - 1
  state : r.state = .transferring
  window : 1 ≤ r.window

variable {c k : Nat} {r : IncomingResource}

lemma IncomingResource.Holds.mapped (holds : r.Holds o c k) : r.mapped o (o.height k) = r := by
  rw [IncomingResource.mapped, ← holds.hashmap, ← holds.hashmapSet, ← holds.height]

lemma fill_true (inside : i < n) :
    (fill (List.replicate n true) false h)[i]? = some (decide (i < h)) := by
  rcases lt_or_ge i h with below | above
  · rw [getElem?_fill_lt below, List.getElem?_replicate, if_pos inside, decide_eq_true below]
  · rw [getElem?_fill_ge above (by rw [length_replicate]; exact inside), decide_eq_false (by omega)]

lemma setHashes_mapped {segment : Int} (total : r.totalParts = o.count) {hashes : List MapHash} :
    ∀ {i : Int} {h : Nat}, pageIndex i segment = h →
      (∀ j mh, hashes[j]? = some mh → o.hashes[h + j]? = some mh) →
      (r.mapped o h).setHashes segment i hashes = .ok (r.mapped o (h + hashes.length)) := by
  have bound := o.count_lt
  induction hashes with
  | nil =>
    intro i h _ _
    rfl
  | cons mh rest induction =>
    intro i h index listed
    have here : o.hashes[h]? = some mh := listed 0 mh rfl
    obtain ⟨inside, _⟩ := List.getElem?_eq_some_iff.mp here
    rw [o.length_hashes] at inside
    have blank : fetch (r.mapped o h).hashmapSet h = .ok false := by
      apply fetch_eq_ok
      show (fill (List.replicate o.count true) false h)[h]? = _
      rw [fill_true inside, decide_eq_false (Nat.lt_irrefl h)]
    have hashmap : store (r.mapped o h).hashmap h mh =
        .ok (fill o.hashes (FixedBytes.zero _) (h + 1)) := by
      rw [store, if_pos, Int.toNat_natCast]
      · exact congrArg Except.ok (set_fill here)
      show 0 ≤ (h : Int) ∧ (h : Int) < ((fill o.hashes (FixedBytes.zero _) h).length : Nat)
      rw [length_fill, o.length_hashes]
      omega
    have hashmapSet : store (r.mapped o h).hashmapSet h true =
        .ok (fill (List.replicate o.count true) false (h + 1)) := by
      rw [store, if_pos, Int.toNat_natCast]
      · refine congrArg Except.ok (set_fill ?_)
        rw [List.getElem?_replicate, if_pos inside]
      show 0 ≤ (h : Int) ∧ (h : Int) < ((fill (List.replicate o.count true) false h).length : Nat)
      rw [length_fill, length_replicate]
      omega
    have next : pageIndex (i + 1) segment = ((h + 1 : Nat) : Int) := by
      rw [pageIndex_succ, index]
      · rfl
      · omega
      · omega
    have within : ¬ (r.mapped o h).totalParts ≤ (h : Int) := by
      show ¬ r.totalParts ≤ (h : Int)
      omega
    rw [setHashes, index, if_neg within, blank, ok_bind,
      hashmap, ok_bind, hashmapSet, ok_bind, length_cons,
      add_comm rest.length 1, ← add_assoc, ← induction next]
    · rfl
    intro j other found
    have later := listed (j + 1) other found
    rwa [add_comm j 1, ← add_assoc] at later

lemma pageIndex_zero (small : k < 2 ^ 22) : pageIndex 0 k = ((74 * k : Nat) : Int) := by
  rw [pageIndex, resourceHashmapMaxLen]
  simp only [Int.bmod]
  omega

/-- Progress of a transfer: the receiver has all parts before its last page,
and no more than it has hashes for. -/
structure Offer.Known (o : Offer p token) (c k : Nat) : Prop where
  paged : 1 ≤ k
  low : 74 * (k - 1) ≤ c
  high : c ≤ o.height k

def Offer.nextPage (o : Offer p token) (k : Nat) : List MapHash :=
  page o.hashes (74 * k) (min (74 * (k + 1)) o.count)

def Offer.pageText (o : Offer p token) (k : Nat) : List UInt8 :=
  o.hash.bytes ++ pack (.array [.ofInt (Int64.ofInt k), .bin (joinMapHashes (o.nextPage k))])

lemma Offer.length_nextPage (more : 74 * k < o.count) :
    74 * k + (o.nextPage k).length = o.height (k + 1) := by
  rw [Offer.nextPage, page, length_drop, length_take, o.length_hashes, Offer.height]
  omega

lemma Offer.nextPage_at (found : (o.nextPage k)[j]? = some mh) :
    o.hashes[74 * k + j]? = some mh := by
  rw [Offer.nextPage, page, List.getElem?_drop] at found
  obtain ⟨inside, same⟩ := List.getElem?_eq_some_iff.mp found
  rw [getElem_take] at same
  rw [length_take] at inside
  exact List.getElem?_eq_some_iff.mpr ⟨by omega, same⟩

lemma IncomingResource.Holds.hashmapUpdate (holds : r.Holds o c k) (more : 74 * k < o.count) :
    r.hashmapUpdate k (joinMapHashes (o.nextPage k)) =
      .ok { r.mapped o (o.height (k + 1)) with waitingHMU := false } := by
  have bound := o.count_lt
  have index : pageIndex 0 k = ((74 * k : Nat) : Int) := pageIndex_zero (by omega)
  have set := setHashes_mapped holds.total index fun j mh => Offer.nextPage_at
  have height := (o.height_succ_of_lt more).1
  rw [Offer.length_nextPage more] at set
  rw [IncomingResource.hashmapUpdate, splitMapHashes_join]
  nth_rewrite 1 [← holds.mapped]
  rw [height, set]
  rfl

lemma IncomingResource.Holds.mapped_succ (holds : r.Holds o c k) :
    { r.mapped o (o.height (k + 1)) with waitingHMU := false }.Holds o c (k + 1) :=
  { holds with
    height := rfl
    hashmap := rfl
    hashmapSet := rfl }

/-! ## Requests -/

section
variable (o : Offer p token) (c k : Nat) (window : Int)

def Offer.asked : Nat := min window.toNat (o.height k - c)

/-- The window needs hashes of a page that is not there. -/
def Offer.runsOut : Bool := decide (o.height k < o.count ∧ o.height k - c < window.toNat)

def Offer.request : Request where
  hash := o.hash
  lastMap :=
    if o.runsOut c k window then o.hashes[o.height k - 1]? else none
  wanted := page o.hashes c (c + o.asked c k window)

end

namespace IncomingResource.Holds

variable {c k : Nat} {r : IncomingResource}

section
variable (holds : r.Holds o c k)

include holds

variable {pn : Nat}

lemma fetch_part_open (above : c ≤ pn) (inside : pn < o.count) : fetch r.parts pn = .ok none := by
  apply fetch_eq_ok
  rw [holds.parts, getElem?_fill_ge above]
  rw [length_map]
  exact inside

lemma fetch_set (inside : pn < o.count) :
    fetch r.hashmapSet pn = .ok (decide (pn < o.height k)) := by
  apply fetch_eq_ok
  rw [holds.hashmapSet]
  exact fill_true inside

lemma fetch_hash (below : pn < o.height k) (found : o.hashes[pn]? = some mh) :
    fetch r.hashmap pn = .ok mh := by
  apply fetch_eq_ok
  rw [holds.hashmap]
  exact (getElem?_fill_lt below).trans found

lemma start : r.consecutive + 1 = c := by
  rw [holds.consecutive]
  omega

lemma requestPart (within : m ≤ o.asked c k r.window) (known : c ≤ o.height k)
    (inside : c + m < o.count) :
    Returns (Rns.requestPart r ((c + m : Nat) : Int)
        ⟨joinMapHashes (page o.hashes c (c + m)), m, false⟩) (Next.Meets
        (fun w => m + 1 ≤ o.asked c k r.window ∧
          w = ⟨joinMapHashes (page o.hashes c (c + (m + 1))), (m + 1 : Nat), false⟩)
        fun w => w = ⟨joinMapHashes (page o.hashes c
            (c + o.asked c k r.window)), (o.asked c k r.window : Nat),
          o.runsOut c k r.window⟩) := by
  rw [Offer.asked] at within ⊢
  rw [Offer.runsOut, Rns.requestPart]
  split
  · rename_i full
    apply returns_ok.mpr
    have all : min r.window.toNat (o.height k - c) = m := by
      dsimp only at full
      omega
    have left : ¬ (o.height k < o.count ∧ o.height k - c < r.window.toNat) := by
      dsimp only at full
      omega
    rw [all, decide_eq_false left]
    rfl
  rename_i more
  dsimp only at more
  rw [holds.fetch_part_open (by omega) inside, ok_bind,
    if_neg (by decide), holds.fetch_set inside, ok_bind]
  by_cases mapped : c + m < o.height k
  · obtain ⟨mh, found⟩ : ∃ mh, o.hashes[c + m]? = some mh := by
      have within : c + m < o.hashes.length := by
        rw [o.length_hashes]
        exact inside
      exact ⟨_, List.getElem?_eq_getElem within⟩
    rw [decide_eq_true mapped, if_neg (by decide), holds.fetch_hash mapped found, ok_bind]
    refine returns_pure.mpr ⟨by omega, ?_⟩
    rw [← add_assoc, page_succ (by omega) found, joinMapHashes, joinMapHashes, flatMap_append]
    simp
  rw [decide_eq_false mapped, if_pos (by decide)]
  apply returns_pure.mpr
  have all : min r.window.toNat (o.height k - c) = m := by omega
  have short : o.height k < o.count ∧ o.height k - c < r.window.toNat := by omega
  rw [all, decide_eq_true short]
  rfl

lemma window_eq (known : c ≤ o.height k) :
    forRange (r.consecutive + 1) r.totalParts (Rns.requestPart r) ⟨[], 0, false⟩ =
      .ok ⟨joinMapHashes (page o.hashes c (c + o.asked c k r.window)),
        (o.asked c k r.window : Nat), o.runsOut c k r.window⟩ := by
  have height := o.height_le k
  apply Returns.eq_ok
  rw [holds.start, holds.total]
  apply returns_forRange fun i w => ∃ m : Nat,
    i = ((c + m : Nat) : Int) ∧ m ≤ o.asked c k r.window ∧
      w = ⟨joinMapHashes (page o.hashes c (c + m)), m, false⟩
  · refine ⟨0, rfl, Nat.zero_le _, ?_⟩
    rw [add_zero, page_eq_nil (le_refl _)]
    rfl
  · intro i w above below ⟨m, position, within, same⟩
    subst position same
    apply (holds.requestPart within known (by omega)).mono
    intro next meets
    cases next with
    | next w =>
      refine ⟨m + 1, ?_, meets⟩
      push_cast
      ring
    | stop w => exact meets
  intro w ⟨m, position, within, same⟩
  rw [Offer.asked] at within
  have all : o.asked c k r.window = m := by
    rw [Offer.asked]
    omega
  have whole : ¬ (o.height k < o.count ∧ o.height k - c < r.window.toNat) := by omega
  rw [same, all, Offer.runsOut, decide_eq_false whole]

end

end IncomingResource.Holds

lemma parseRequest_plain (hash : FullHash) (wanted : List MapHash) :
    parseRequest ([resourceHashmapNotExh] ++ hash.bytes ++
        joinMapHashes wanted) = .ok (some ⟨hash, none, wanted⟩) := by
  have sized : hash.bytes.length = 32 := hash.length_eq
  have long : ¬ ([resourceHashmapNotExh] ++ hash.bytes ++
      joinMapHashes wanted).length < 1 + fullHashLen := by
    rw [length_append, length_append, sized, length_singleton, fullHashLen]
    omega
  have flag : fetch ([resourceHashmapNotExh] ++ hash.bytes ++
      joinMapHashes wanted) 0 = .ok resourceHashmapNotExh := fetch_zero rfl
  have named : slice ([resourceHashmapNotExh] ++ hash.bytes ++
      joinMapHashes wanted) 1 33 = .ok hash.bytes := by
    apply slice_append
    · rfl
    rw [sized]
    rfl
  rw [parseRequest, if_neg long, flag, ok_bind, if_neg (by decide), named,
    ok_bind, slice_end, ok_bind, copy_bytes, splitMapHashes_join]
  · rfl
  rw [length_append, sized]
  rfl

lemma parseRequest_exhausted (hash : FullHash) (last : MapHash) (wanted : List MapHash) :
    parseRequest (resourceHashmapExh :: last.bytes ++ hash.bytes ++
        joinMapHashes wanted) = .ok (some ⟨hash, some last, wanted⟩) := by
  have sized : hash.bytes.length = 32 := hash.length_eq
  have short : last.bytes.length = 4 := last.length_eq
  have length : (resourceHashmapExh :: last.bytes ++ hash.bytes ++
      joinMapHashes wanted).length = 37 + (joinMapHashes wanted).length := by
    rw [length_append, length_append, length_cons, sized, short]
  have flag : fetch (resourceHashmapExh :: last.bytes ++ hash.bytes ++
      joinMapHashes wanted) 0 = .ok resourceHashmapExh := fetch_zero rfl
  have lastMap : slice (resourceHashmapExh :: last.bytes ++ hash.bytes ++
      joinMapHashes wanted) 1 5 = .ok last.bytes := by
    have cut := slice_append [resourceHashmapExh] last.bytes
      (hash.bytes ++ joinMapHashes wanted) (show (1 : Int) = _ from rfl)
      (show (5 : Int) = _ by rw [short]; rfl)
    rwa [← append_assoc] at cut
  have named : slice (resourceHashmapExh :: last.bytes ++ hash.bytes ++
      joinMapHashes wanted) 5 37 = .ok hash.bytes := by
    apply slice_append
    · rw [length_cons, short]
      rfl
    rw [length_cons, short, sized]
    rfl
  rw [parseRequest, if_neg (by rw [length, fullHashLen]; omega), flag, ok_bind, if_pos rfl,
    if_neg (by rw [length, fullHashLen, resourceMapHashLen]; omega), lastMap,
    ok_bind, named, ok_bind, slice_end, ok_bind, copy_bytes,
    copy_bytes, splitMapHashes_join]
  · rfl
  rw [length_append, length_cons, short, sized]
  rfl

lemma IncomingResource.Holds.nextRequest {c k : Nat}
    {r : IncomingResource} (holds : r.Holds o c k) (known : c ≤ o.height k) (paged : 1 ≤ k) :
    ∃ data, r.nextRequest = .ok ({ r with
            outstanding := (o.asked c k r.window : Nat)
            waitingHMU :=
              if o.runsOut c k r.window then true else r.waitingHMU }, data) ∧
      parseRequest data = .ok (some (o.request c k r.window)) := by
  have positive : 0 < o.count := o.positive
  have pages : 1 ≤ o.height k := by
    rw [Offer.height]
    omega
  have height := o.height_le k
  have inside : o.height k - 1 < o.hashes.length := by
    rw [o.length_hashes]
    omega
  have found := List.getElem?_eq_getElem inside
  rw [IncomingResource.nextRequest, holds.window_eq known, ok_bind, Offer.request]
  cases out : o.runsOut c k r.window with
  | false =>
    refine ⟨_, rfl, ?_⟩
    rw [holds.hash]
    exact parseRequest_plain _ _
  | true =>
    have last : fetch r.hashmap (r.hashHeight - 1) = .ok o.hashes[o.height k - 1] := by
      have place : r.hashHeight - 1 = ((o.height k - 1 : Nat) : Int) := by
        rw [holds.height]
        omega
      rw [place]
      exact holds.fetch_hash (by omega) found
    refine ⟨resourceHashmapExh :: o.hashes[o.height k - 1].bytes ++ r.hash.bytes ++ joinMapHashes
        (page o.hashes c (c + o.asked c k r.window)), ?_, ?_⟩
    · rw [requestFront, if_pos rfl, last]
      rfl
    rw [holds.hash, if_pos rfl, found]
    exact parseRequest_exhausted _ _ _

end

/-! ## Messages -/

lemma fits_ofInt (i : Int64) : (ofInt i).Fits := by
  rw [ofInt]
  split
  · simp [Msgpack.Value.Fits]
  · simp [Msgpack.Value.Fits]

variable {hm : List UInt8}

lemma parseHMU_pack (p : Primitives) {k : Nat} (small : k < 2 ^ 63) (short : hm.length ≤ 2 ^ 31) :
    parseHMU p (pack (.array [.ofInt (Int64.ofInt k), .bin hm])) = some ((k : Int), hm) := by
  have length : hm.length ≤ 2147483648 := short
  have fits : (array [.ofInt (Int64.ofInt k), .bin hm]).Fits := by
    simp [Msgpack.Value.Fits, Msgpack.Value.FitsAll, fits_ofInt, length]
  have unpacked := unpackValue_pack p.widen fits []
  rw [append_nil] at unpacked
  rw [parseHMU, unpacked]
  simp [normal, normalAll, binField, toInt_ofInt (Int.natCast_nonneg k) (by exact_mod_cast small)]

lemma parseAdvert_pack (p : Primitives) (r : OutgoingResource) (short : hm.length ≤ 2 ^ 31) :
    parseAdvert p (pack (.map (r.advertEntries hm))) = some
        { t := Int64.ofInt r.data.length
          d := Int64.ofInt r.dataSize
          n := Int64.ofInt r.parts.length
          f := 1
          segs := 1
          h := r.hash.bytes
          rb := r.randomHash.bytes
          hm := hm } := by
  have hash : r.hash.bytes.length = 32 := r.hash.length_eq
  have random : r.randomHash.bytes.length = 4 := r.randomHash.length_eq
  have length : hm.length ≤ 2147483648 := short
  have fits : (map (r.advertEntries hm)).Fits := by
    simp [OutgoingResource.advertEntries, advertEntry, Msgpack.Value.Fits,
      Msgpack.Value.FitsEntries, fits_ofInt, length, hash, random, keyT,
      keyD, keyN, keyH, keyR, keyO, keyI, keyL, keyQ, keyF, keyM]
  have same : (map (r.advertEntries hm)).normal = .map (r.advertEntries hm) := by
    simp [OutgoingResource.advertEntries, advertEntry, normal, normalEntries]
  have unpacked := unpackValue_pack p.widen fits []
  rw [append_nil, same] at unpacked
  have number : ∀ (key : List UInt8) (i : Int64), getEntry (r.advertEntries hm) key = .ofInt i →
        getInt (r.advertEntries hm) key = i := by
    intro key i found
    rw [getInt, found, asInt_ofInt]
    rfl
  rw [parseAdvert, unpacked]
  dsimp only
  rw [number keyT _ rfl, number keyD _ rfl, number keyN _ rfl, number keyF 1 rfl, number keyL 1 rfl]
  rfl

/-! ## The receiver's steps -/

section
variable {p : Primitives} {token : Token} {o : Offer p token} {l : Link} {env : Env}

/-- A receiver that has asked for a window of parts. -/
structure IncomingResource.Asks (o : Offer p token) (c k : Nat)
    (w : Int) (r : IncomingResource) : Prop extends r.Holds o c k where
  outstanding : r.outstanding = (o.asked c k w : Nat)
  waitingHMU : r.waitingHMU = o.runsOut c k w

variable {c k : Nat} {r : IncomingResource} {part : List UInt8} {parts : List (List UInt8)}

lemma IncomingResource.Holds.requestNext (holds : r.Holds o c k) (known : o.Known c k)
    (ready : r.waitingHMU = false) (keyed : l.token = some token) (env : Env)
    (iv : FixedBytes aesBlockSize) : ∃ (next : IncomingResource) (data : List UInt8),
      next.Asks o c k r.window ∧ parseRequest data = .ok (some (o.request c k r.window)) ∧
      l.requestNext env iv r = .ok ((l.putIncoming next).sendLinkPacket env .data contextResourceReq
          (token.encrypt iv data) (some o.hash)) := by
  obtain ⟨data, asked, parsed⟩ := holds.nextRequest known.high known.paged
  have asks : ¬ (r.state ≠ .transferring ∨ r.waitingHMU = true) := by
    rw [holds.state, ready]
    decide
  refine ⟨{ r with
    outstanding := (o.asked c k r.window : Nat)
    waitingHMU := if o.runsOut c k r.window then true else r.waitingHMU
    lastActivity := env.now
    reqSent := env.now }, data, ⟨?_, rfl, ?_⟩, parsed, ?_⟩
  · exact { holds with }
  · rw [ready]
    cases o.runsOut c k r.window with
    | false => rfl
    | true => rfl
  rw [Link.requestNext, if_neg asks, asked, ok_bind]
  dsimp only
  rw [encrypt_putIncoming, encrypt_keyed keyed, holds.hash]
  rfl

lemma newIncoming_holds (hash : a.h = o.hash.bytes) (random : a.rb = o.random.bytes)
    (flags : a.f = 1) : (newIncoming env a o.count).Holds o 0 0 where
  hash := by
    show FixedBytes.copy _ a.h = _
    rw [hash, copy_bytes]
  total := rfl
  parts := by
    rw [fill_zero, length_map]
    rfl
  height := by
    rw [Offer.height, mul_zero, Nat.zero_min]
    rfl
  hashmap := by
    rw [Offer.height, mul_zero, Nat.zero_min, fill_zero, o.length_hashes]
    rfl
  hashmapSet := by
    rw [Offer.height, mul_zero, Nat.zero_min, fill_zero, length_replicate]
    rfl
  random := by
    show FixedBytes.copy _ a.rb = _
    rw [random, copy_bytes]
  compressed := by
    show decide (a.f &&& 0x02 ≠ 0) = false
    rw [flags]
    decide
  received := rfl
  consecutive := rfl
  state := rfl
  window := by
    show (1 : Int) ≤ 4
    decide

def Offer.advert (o : Offer p token) : Advert where
  t := Int64.ofInt o.parts.flatten.length
  d := Int64.ofInt o.payload.length
  n := Int64.ofInt o.count
  f := 1
  segs := 1
  h := o.hash.bytes
  rb := o.random.bytes
  hm := joinMapHashes (o.nextPage 0)

lemma Offer.advert_valid : o.advert.valid = true := by
  have small := o.small
  have positive : 0 < o.count := o.positive
  have least := o.count_le
  rw [resourceMaxSize] at small
  have size : o.advert.t.toInt = o.parts.flatten.length := toInt_ofInt (by omega) (by omega)
  have count : o.advert.n.toInt = o.count := toInt_ofInt (by omega) (by omega)
  have hash : o.advert.h.length = fullHashLen := o.hash.length_eq
  have random : o.advert.rb.length = resourceRandomHashLen :=
    o.random.length_eq
  rw [Advert.valid, size, count, hash, random, resourceMaxSize]
  simp only [Bool.and_eq_true, decide_eq_true_eq]
  refine ⟨⟨⟨⟨trivial, trivial⟩, ?_⟩, ?_⟩, ?_⟩
  · omega
  · omega
  · omega

lemma Offer.advert_supported : o.advert.supported = true := by
  show (decide ((1 : Int64).toInt ≤ 1) && decide ((1 : Int64) &&& 0x20 = 0)) = true
  decide

lemma Offer.handleResourceAdv (parsed : parseAdvert p plain = some o.advert) (sdu : 1 ≤ l.sdu)
    (accepts : l.accepts o.payload.length = true)
    (small : (o.payload.length : Int) ≤ resourceMaxSize) (absent : l.incoming.get? o.hash = none)
    (keyed : l.token = some token) :
    ∃ (next : IncomingResource) (data : List UInt8) (w : Int) (length : Int),
      next.Asks o 0 1 w ∧ 1 ≤ w ∧ parseRequest data = .ok (some (o.request 0 1 w)) ∧
      l.handleResourceAdv p env plain = .ok
        (((l.putIncoming next).sendLinkPacket env .data contextResourceReq
            (token.encrypt (env.iv 0) data) (some o.hash)).1, .allocated o.advert.t.toInt length ::
            ((l.putIncoming next).sendLinkPacket env .data contextResourceReq
              (token.encrypt (env.iv 0) data) (some o.hash)).2) := by
  have positive : 0 < o.count := o.positive
  have bound := o.count_lt
  rw [resourceMaxSize] at small
  have count : o.advert.n.toInt = o.count := toInt_ofInt (by omega) (by omega)
  have size : o.advert.d.toInt = o.payload.length := toInt_ofInt (by omega) (by omega)
  have fresh : (newIncoming env o.advert o.count).Holds o 0 0 := newIncoming_holds rfl rfl rfl
  have more : 74 * 0 < o.count := positive
  have known : o.Known 0 1 := ⟨le_refl 1, le_refl 0, Nat.zero_le _⟩
  have updated : (newIncoming env o.advert o.count).hashmapUpdate 0
      o.advert.hm = .ok _ := fresh.hashmapUpdate more
  obtain ⟨next, data, asks, requested, sent⟩ :=
    fresh.mapped_succ.requestNext known rfl keyed env (env.iv 0)
  refine ⟨next, data, _, o.count, asks, fresh.window, requested, ?_⟩
  rw [Link.handleResourceAdv, parsed]
  dsimp only
  rw [Offer.advert_valid, Offer.advert_supported, size, accepts,
    acceptAdvert, incomingResource_eq (by omega), ok_bind, count]
  simp only [Bool.not_true, Bool.false_eq_true, if_false]
  rw [fresh.hash, absent]
  rw [updated, ok_bind, sent, ok_bind]
  rfl

lemma IncomingResource.Holds.handleHMU (holds : r.Holds o c k)
    (known : o.Known c (k + 1)) (more : 74 * k < o.count)
    (found : l.incoming.get? o.hash = some r) (keyed : l.token = some token) :
    ∃ (next : IncomingResource) (data : List UInt8),
      next.Asks o c (k + 1) r.window ∧
      parseRequest data = .ok (some (o.request c (k + 1) r.window)) ∧
      l.handleHMU p env (o.pageText k) =
        .ok ((l.putIncoming next).sendLinkPacket env .data contextResourceReq
          (token.encrypt (env.iv 0) data) (some o.hash)) := by
  have bound := o.count_lt
  have sized : o.hash.bytes.length = 32 := o.hash.length_eq
  have nonempty : 0 < (pack (.array [.ofInt (Int64.ofInt k),
        .bin (joinMapHashes (o.nextPage k))])).length := by
    rw [pack, length_append]
    exact lt_of_lt_of_le (length_packCount_pos _ _ _ _ _ _) (Nat.le_add_right _ _)
  have long : ¬ (o.pageText k).length ≤ fullHashLen := by
    rw [Offer.pageText, length_append, sized, fullHashLen]
    omega
  have short : (joinMapHashes (o.nextPage k)).length ≤ 2 ^ 31 := by
    have length := Offer.length_nextPage more
    have height := o.height_le (k + 1)
    rw [length_joinMapHashes]
    omega
  have named : slice (o.pageText k) 0 32 = .ok o.hash.bytes := by
    have cut := slice_append [] o.hash.bytes (pack (.array
      [.ofInt (Int64.ofInt k), .bin (joinMapHashes (o.nextPage k))]))
      (show (0 : Int) = _ from rfl) (show (32 : Int) = _ by rw [sized]; rfl)
    exact cut
  obtain ⟨next, data, asks, parsed, sent⟩ :=
    holds.mapped_succ.requestNext known rfl keyed env (env.iv 0)
  refine ⟨next, data, asks, parsed, ?_⟩
  rw [Link.handleHMU, if_neg long, named, ok_bind, Offer.pageText, slice_end,
    ok_bind, copy_bytes, found]
  · rw [parseHMU_pack p (by omega) short]
    dsimp only
    rw [holds.hashmapUpdate more, ok_bind]
    exact sent
  rw [sized]
  rfl

/-! ## Parts -/

lemma IncomingResource.Holds.search (holds : r.Holds o c k) (below : c < o.height k)
    (found : o.parts[c]? = some part) : forRange (r.consecutive + 1)
        (min (r.consecutive + 1 + r.window) r.totalParts)
        (matchPart r (mapHash p part r.randomHash)) none = .ok (some (c : Int)) := by
  have height := o.height_le k
  have window := holds.window
  have hash : o.hashes[c]? = some (mapHash p part o.random) := by
    rw [o.hash_at, found]
    rfl
  have first : matchPart r (mapHash p part o.random) (c : Int) none =
      .ok (.stop (some (c : Int))) := by
    rw [matchPart, holds.fetch_set (by omega), decide_eq_true below, ok_bind,
      if_neg (by decide), holds.fetch_hash below hash, ok_bind, if_neg (not_not.mpr rfl),
      holds.fetch_part_open (le_refl c) (by omega)]
    rfl
  obtain ⟨rest, rounds⟩ : ∃ rest : Nat, (min ((c : Int) + r.window) o.count - c).toNat = rest + 1 :=
    ⟨(min ((c : Int) + r.window) o.count - c).toNat - 1, by omega⟩
  rw [holds.start, holds.total, holds.random, forRange, rounds, Checked.rounds, first]

lemma fill_next (found : parts[c]? = some part) :
    (fill (parts.map some) none c).set c (some part) = fill (parts.map some) none (c + 1) := by
  apply set_fill
  rw [List.getElem?_map, found]
  rfl

lemma advanceConsecutive_eq (inside : c < parts.length) :
    advanceConsecutive (fill (parts.map some) none (c + 1)) parts.length
        ((c : Int) - 1) = .ok (c : Int) := by
  apply Returns.eq_ok
  apply returns_forRange fun i last =>
    (i = c ∧ last = (c : Int) - 1) ∨ (i = c + 1 ∧ last = c)
  · left
    exact ⟨by omega, rfl⟩
  · intro i last above below at_
    rcases at_ with ⟨here, _⟩ | ⟨after, same⟩
    · have filled : fetch (fill (parts.map some) none (c + 1)) i = .ok (some parts[c]) := by
        rw [here]
        apply fetch_eq_ok
        rw [getElem?_fill_lt (Nat.lt_succ_self c), List.getElem?_map,
          List.getElem?_eq_getElem inside]
        rfl
      rw [filled, ok_bind]
      apply returns_pure.mpr
      right
      exact ⟨by omega, here⟩
    have blank : fetch (fill (parts.map some) none (c + 1)) i = .ok none := by
      rw [show i = ((c + 1 : Nat) : Int) from after]
      apply fetch_eq_ok
      apply getElem?_fill_ge (le_refl _)
      rw [length_map]
      omega
    rw [blank, ok_bind]
    exact returns_pure.mpr same
  intro last at_
  rcases at_ with ⟨here, _⟩ | ⟨_, same⟩
  · omega
  · exact same

namespace IncomingResource

def withPart (o : Offer p token) (c : Nat) (r : IncomingResource) : IncomingResource :=
  { r with
    parts := fill (o.parts.map some) none (c + 1)
    received := r.received + 1
    outstanding := r.outstanding - 1
    consecutive := c }

lemma Holds.takePart (holds : r.Holds o c k) (below : c < o.height k)
    (found : o.parts[c]? = some part) : r.takePart p part = .ok (some (r.withPart o c)) := by
  obtain ⟨inside, same⟩ := List.getElem?_eq_some_iff.mp found
  have some : copyPart part = some part := by
    apply if_neg
    apply o.nonempty
    rw [← same]
    exact getElem_mem inside
  have stored : store r.parts (c : Int) (copyPart part) =
      .ok (fill (o.parts.map .some) none (c + 1)) := by
    rw [store, if_pos, Int.toNat_natCast, some, holds.parts, fill_next found]
    rw [holds.parts, length_fill, length_map]
    omega
  have advanced : advanceConsecutive
      (fill (o.parts.map .some) none (c + 1)) r.totalParts r.consecutive = .ok (c : Int) := by
    rw [holds.total, holds.consecutive]
    exact advanceConsecutive_eq inside
  rw [IncomingResource.takePart, holds.search below found, ok_bind]
  dsimp only
  rw [stored, ok_bind, advanced]
  rfl

lemma Holds.withPart (holds : r.Holds o c k) : (r.withPart o c).Holds o (c + 1) k :=
  { holds with
    parts := rfl
    received := by
      show r.received + 1 = _
      rw [holds.received]
      rfl
    consecutive := by
      show (c : Int) = _
      omega }

section
variable (holds : r.Holds o o.count k) (keyed : l.token = some token)

include holds keyed

lemma Holds.assembled : l.assembled p r = .ok o.payload := by
  have joined : (r.parts.flatMap fun part => part.getD []) = o.parts.flatten := by
    rw [holds.parts, Offer.count, fill_all (le_of_eq (length_map _)), flatMap_map]
    exact flatMap_id
  have decrypted : l.decrypt o.parts.flatten = .ok (o.front.bytes ++ o.payload) := by
    rw [decrypt, keyed]
    dsimp only
    rw [o.decrypts]
  have front : o.front.bytes.length = resourceRandomHashLen :=
    o.front.length_eq
  have unpacked : r.unpack p (o.front.bytes ++ o.payload) = .ok o.payload := by
    have rest : (o.front.bytes ++ o.payload).drop resourceRandomHashLen =
        o.payload := drop_left' front
    rw [unpack, holds.compressed, rest]
    rfl
  have long : ¬ (o.front.bytes ++ o.payload).length <
      resourceRandomHashLen := by
    rw [length_append, front]
    omega
  have same : resourceHash p o.payload r.randomHash = r.hash := by
    rw [holds.random, holds.hash, Offer.hash]
  rw [Link.assembled, joined, decrypted]
  dsimp only
  rw [if_neg long, unpacked]
  dsimp only
  rw [if_neg (not_not.mpr same)]

lemma Holds.afterPart_last (env : Env) : l.afterPart p env r =
      .ok ((l.sendLinkPacket env .proof contextResourcePRF
          (o.hash.bytes ++ (resourceProof p o.payload o.hash).bytes)
            (some o.hash)).1.deleteIncoming o.hash, (l.sendLinkPacket env .proof contextResourcePRF
          (o.hash.bytes ++ (resourceProof p o.payload o.hash).bytes)
            (some o.hash)).2 ++ [.received o.hash o.payload]) := by
  have assembled : l.assembled p { r with
      lastActivity := env.now, retries := 0, state := .assembling } =
      .ok o.payload := holds.assembled keyed
  have all : r.received = r.totalParts := by rw [holds.received, holds.total]
  rw [afterPart]
  rw [if_pos all, assemble, assembled]
  rw [holds.hash]

end

lemma Holds.afterPart_middle (holds : r.Holds o c k)
    (more : c < o.count) (open_ : 0 < r.outstanding) (env : Env) :
    l.afterPart p env r = .ok (l.putIncoming
      { r with lastActivity := env.now, retries := 0 }, []) := by
  have some : r.received ≠ r.totalParts := by
    rw [holds.received, holds.total]
    omega
  rw [afterPart]
  dsimp only
  rw [if_neg some, if_neg (by omega)]

lemma Holds.growWindow (holds : r.Holds o c k) : r.growWindow.Holds o c k := by
  have window := holds.window
  rw [IncomingResource.growWindow]
  split
  · refine { holds with window := ?_ }
    show 1 ≤ r.window + 1
    omega
  · exact holds

lemma growWindow_keeps (r : IncomingResource) :
    r.growWindow.outstanding = r.outstanding ∧ r.growWindow.waitingHMU = r.waitingHMU := by
  rw [growWindow]
  split
  · exact ⟨rfl, rfl⟩
  · exact ⟨rfl, rfl⟩

/-- After the last part of a window the next one is asked for, or the page
that is still to come is awaited. -/
lemma Holds.afterPart_end (holds : r.Holds o c k) (more : c < o.count) (done : r.outstanding = 0)
    (env : Env) : ∃ grown : IncomingResource, grown.Holds o c k ∧
    grown.outstanding = r.outstanding ∧ grown.waitingHMU = r.waitingHMU ∧
    l.afterPart p env r = l.requestNext env (env.iv 0) grown := by
  have kept : { r with lastActivity := env.now, retries := 0 }.Holds o c k :=
    { holds with }
  have some : r.received ≠ r.totalParts := by
    rw [holds.received, holds.total]
    omega
  obtain ⟨outstanding, waitingHMU⟩ := growWindow_keeps
    { r with lastActivity := env.now, retries := 0 }
  refine ⟨_, kept.growWindow, outstanding, waitingHMU, ?_⟩
  rw [afterPart]
  dsimp only
  rw [if_neg some, if_pos (by omega)]

end IncomingResource

lemma Link.receivePartOf_eq (listed : r ∈ table) (transferring : r.state = .transferring)
    (takes : r.takePart p part = .ok (some taken))
    (others : ∀ other ∈ table, other ≠ r → other.state = .transferring →
      other.takePart p part = .ok none) :
    l.receivePartOf p env part table = l.afterPart p env taken := by
  induction table with
  | nil => cases listed
  | cons first rest induction =>
    rw [receivePartOf]
    by_cases here : first = r
    · subst here
      rw [if_neg (not_not.mpr transferring), takes]
      rfl
    have later : r ∈ rest := by
      rcases mem_cons.mp listed with same | later
      · exact (here same.symm).elim
      · exact later
    have rest_eq := induction later fun other member =>
      others other (mem_cons_of_mem _ member)
    by_cases running : first.state = .transferring
    · rw [if_neg (not_not.mpr running), others first mem_cons_self here running]
      exact rest_eq
    rw [if_pos running]
    exact rest_eq

end

/-! ## Serving -/

section
variable {p : Primitives} {token : Token} {o : Offer p token}

/-- A sender whose receiver has `k` pages. -/
structure OutgoingResource.Offers (o : Offer p token) (k : Nat) (r : OutgoingResource) : Prop where
  hash : r.hash = o.hash
  parts : r.parts = o.parts
  mapHashes : r.mapHashes = o.hashes
  expectedProof : r.expectedProof = resourceProof p o.payload o.hash
  partSent : r.partSent.length = o.count
  recvMinHeight : r.recvMinHeight = Offer.lowMark k

variable {k c : Nat} {r : OutgoingResource}

lemma OutgoingResource.Offers.shaped (offers : r.Offers o k) (near : Offer.lowMark k ≤ o.count) :
    r.Shaped where
  mapHashes := by
    rw [offers.mapHashes, offers.parts, o.length_hashes, Offer.count]
  partSent := by
    rw [offers.partSent, offers.parts, Offer.count]
  low := by
    rw [offers.recvMinHeight]
    exact le_max_right _ _
  high := by
    rw [offers.recvMinHeight, offers.parts]
    exact near

lemma serve_rounds (shaped : r.Shaped) (parts : r.parts = o.parts)
    (mapHashes : r.mapHashes = o.hashes) {low high : Int} {e : Nat} (start : 0 ≤ low)
    (reach : low ≤ c) (ordered : c ≤ e) (ends : (e : Int) ≤ high) (inside : high ≤ o.count) :
    Returns (forRange low high (servePart (page o.hashes c e)) ⟨[], r⟩) fun s => s.Of r ∧
    s.toSend = page o.parts c e := by
  apply returns_forRange fun i s =>
    s.Of r ∧ s.toSend = page o.parts c (min i.toNat e)
  · refine ⟨⟨rfl, rfl, rfl, rfl, rfl, shaped.partSent⟩, ?_⟩
    rw [page_eq_nil (by omega)]
  · intro i s above below ⟨served, sent⟩
    have within : i < (r.parts.length : Int) := by
      rw [parts]
      show i < (o.count : Int)
      omega
    apply (served.returns_servePart shaped (by omega) within).mono
    intro next ⟨after, same, keeps, mh, part, hashFound, partFound, added⟩
    subst same
    rw [mapHashes] at hashFound
    rw [parts] at partFound
    refine ⟨keeps, ?_⟩
    rw [added, sent]
    by_cases wanted : c ≤ i.toNat ∧ i.toNat < e
    · rw [if_pos ((o.mem_page hashFound).mpr wanted),
        show min i.toNat e = i.toNat by omega,
        show min (i + 1).toNat e = i.toNat + 1 by omega, page_succ wanted.1 partFound]
    rw [if_neg (mt (o.mem_page hashFound).mp wanted), append_nil]
    rcases lt_or_ge i.toNat c with before | after
    · rw [page_eq_nil (by omega), page_eq_nil (by omega)]
    · rw [show min i.toNat e = min (i + 1).toNat e by omega]
  intro s ⟨served, sent⟩
  refine ⟨served, ?_⟩
  rw [sent, show min (max low high).toNat e = e by omega]

lemma lastMapIndex_eq (mapHashes : r.mapHashes = o.hashes) {low high : Int} {h : Nat} {mh : MapHash}
    (found : o.hashes[h]? = some mh) (start : 0 ≤ low) (reach : low ≤ h) (ends : (h : Int) < high)
    (inside : high ≤ o.count) : lastMapIndex r low high mh = .ok ((h + 1 : Nat) : Int) := by
  apply Returns.eq_ok
  apply returns_forRange fun i idx => idx = i ∧ i ≤ h
  · exact ⟨rfl, reach⟩
  · intro i idx above below ⟨same, before⟩
    subst same
    rw [mapHashes]
    apply returns_fetch (by omega)
    · rw [o.length_hashes]
      omega
    intro other otherFound
    apply returns_pure.mpr
    by_cases equal : other = mh
    · -- No two parts have one map hash.
      subst equal
      obtain ⟨otherInside, otherSame⟩ := List.getElem?_eq_some_iff.mp otherFound
      obtain ⟨mhInside, mhSame⟩ := List.getElem?_eq_some_iff.mp found
      have place : idx.toNat = h := by
        apply (List.Nodup.getElem_inj_iff o.nodup).mp
        exact otherSame.trans mhSame.symm
      rw [if_pos rfl]
      show idx + 1 = ((h + 1 : Nat) : Int)
      omega
    rw [if_neg equal]
    refine ⟨rfl, ?_⟩
    have place : idx.toNat ≠ h := by
      intro place
      rw [place, found] at otherFound
      exact equal (Option.some.inj otherFound).symm
    omega
  intro idx ⟨_, before⟩
  omega

lemma hashmapUpdatePlain_eq (offers : r.Offers o j) (more : 74 * k < o.count) :
    hashmapUpdatePlain r ((74 * k : Nat) : Int) = .ok (.ok (o.pageText k)) := by
  have whole : ((74 * k : Nat) : Int).tmod resourceHashmapMaxLen = 0 := by
    rw [resourceHashmapMaxLen, Int.tmod_eq_emod_of_nonneg (by omega)]
    omega
  have segment : ((74 * k : Nat) : Int).tdiv resourceHashmapMaxLen = k := by
    rw [resourceHashmapMaxLen, Int.tdiv_eq_ediv_of_nonneg (by omega)]
    omega
  have nonempty : (joinMapHashes (o.nextPage k)).length ≠ 0 := by
    have length := Offer.length_nextPage more
    rw [length_joinMapHashes]
    rw [Offer.height] at length
    omega
  have count : r.parts.length = o.count := by rw [offers.parts, Offer.count]
  have first : ((k : Int) * 74).toNat = 74 * k := by omega
  have last : (min (((k : Int) + 1) * 74) (r.parts.length : Int)).toNat =
      min (74 * (k + 1)) o.count := by omega
  rw [hashmapUpdatePlain, if_neg (not_not.mpr whole), segment,
    resourceHashmapMaxLen, offers.mapHashes, offers.hash]
  dsimp only
  rw [hashmapBytes_eq, first, last, ok_bind]
  · exact if_neg nonempty
  · omega
  · omega
  rw [o.length_hashes]
  omega

lemma Offer.Known.near (known : o.Known c k) : Offer.lowMark k ≤ c := by
  have low := known.low
  rw [Offer.lowMark]
  omega

/-- The answer to a request: the parts, and the next page if the receiver has
run out of hashes. -/
lemma OutgoingResource.Offers.serve (offers : r.Offers o k) (known : o.Known c k)
    (l : Link) (env : Env) (window : Int) : ∃ next : OutgoingResource,
      next.Offers o (if o.runsOut c k window then k + 1 else k) ∧
      l.serve env r (o.request c k window) = .ok (l.answer env next
          (page o.parts c (c + o.asked c k window))
          (if o.runsOut c k window then some (o.pageText k) else none)) := by
  have height := o.height_le k
  have near := known.near
  have high := known.high
  have paged := known.paged
  have asked : c + o.asked c k window ≤ o.height k := by
    rw [Offer.asked]
    omega
  have count : (r.parts.length : Int) = o.count := by rw [offers.parts, Offer.count]
  have mark := offers.recvMinHeight
  have reach : ((c + o.asked c k window : Nat) : Int) ≤
      min (r.recvMinHeight + resourceCollisionGuard) r.parts.length := by
    rw [mark, count, Offer.lowMark, resourceCollisionGuard,
      resourceWindowMaxFast, resourceHashmapMaxLen]
    rw [Offer.height] at asked height
    omega
  have begun : { r with
      rtt := if r.rtt = 0 then env.now - r.advSent else r.rtt
      state := .transferring
      lastActivity := env.now }.Offers o k :=
    { offers with }
  have start : 0 ≤ r.recvMinHeight := by
    rw [mark]
    exact le_max_right _ _
  have inside : min (r.recvMinHeight + resourceCollisionGuard)
      r.parts.length ≤ (o.count : Int) := by
    rw [count]
    exact min_le_right _ _
  obtain ⟨s, ran, served, sent⟩ := serve_rounds
    (begun.shaped (by omega)) begun.parts begun.mapHashes start (by omega)
    (Nat.le_add_right c (o.asked c k window)) reach inside
  have kept : s.resource.Offers o k :=
    ⟨served.hash.trans offers.hash, served.parts.trans offers.parts,
      served.mapHashes.trans offers.mapHashes, served.expectedProof.trans offers.expectedProof,
      served.partSent.trans (congrArg List.length offers.parts),
      served.recvMinHeight.trans offers.recvMinHeight⟩
  rw [Link.serve, Offer.request]
  rw [ran, ok_bind]
  cases out : o.runsOut c k window with
  | false =>
    refine ⟨s.resource, kept, ?_⟩
    simp only [Bool.false_eq_true, if_false]
    rw [sent]
    rfl
  | true =>
    have short : o.height k < o.count := (of_decide_eq_true out).1
    have whole : o.height k = 74 * k := by
      rw [Offer.height] at short ⊢
      omega
    obtain ⟨mh, found⟩ : ∃ mh, o.hashes[74 * k - 1]? = some mh := by
      have within : 74 * k - 1 < o.hashes.length := by
        rw [o.length_hashes]
        omega
      exact ⟨_, List.getElem?_eq_getElem within⟩
    have index := lastMapIndex_eq kept.mapHashes found start (by
      rw [mark, Offer.lowMark]
      omega) (by
      rw [mark, count, Offer.lowMark, resourceCollisionGuard,
        resourceWindowMaxFast, resourceHashmapMaxLen]
      omega) inside
    rw [show 74 * k - 1 + 1 = 74 * k by omega] at index
    have moved : { s.resource with
        recvMinHeight := max (((74 * k : Nat) : Int) - 1 -
          resourceWindowMaxFast) 0 }.Offers o (k + 1) := by
      refine { kept with recvMinHeight := ?_ }
      show max (((74 * k : Nat) : Int) - 1 - 75) 0 = Offer.lowMark (k + 1)
      rw [Offer.lowMark]
      omega
    refine ⟨_, moved, ?_⟩
    simp only [if_true]
    rw [whole, found]
    dsimp only
    rw [index, ok_bind, hashmapUpdatePlain_eq moved (by omega), ok_bind, sent]
    rfl

lemma OutgoingResource.Offers.advertisement (offers : r.Offers o k) :
    r.advertisement 0 = .ok (.map (r.advertEntries (joinMapHashes (o.nextPage 0)))) := by
  have count : (r.parts.length : Int) = o.count := by rw [offers.parts, Offer.count]
  have last : (min ((0 + 1) * 74) (r.parts.length : Int)).toNat = min (74 * (0 + 1)) o.count := by
    rw [count]
    omega
  rw [OutgoingResource.advertisement, hashmapBytes_eq, ok_bind,
    offers.mapHashes, resourceHashmapMaxLen, last]
  · rfl
  · omega
  · rw [resourceHashmapMaxLen]
    omega
  rw [offers.mapHashes, o.length_hashes, count]
  exact min_le_right _ _

lemma OutgoingResource.Offers.advertise {l : Link} (offers : r.Offers o k)
    (data : r.data = o.parts.flatten) (dataSize : r.dataSize = o.payload.length)
    (random : r.randomHash = o.random) (keyed : l.token = some token) (env : Env)
    (iv : FixedBytes aesBlockSize) : ∃ plain, parseAdvert p plain = some o.advert ∧
      l.advertise env iv r = .ok ((l.putOutgoing
        { r with advSent := env.now, lastActivity := env.now }).sendLinkPacket
          env .data contextResourceAdv (token.encrypt iv plain) (some r.hash)) := by
  have bound := o.count_lt
  have short : (joinMapHashes (o.nextPage 0)).length ≤ 2 ^ 31 := by
    have length : 74 * 0 + (o.nextPage 0).length = o.height (0 + 1) :=
      Offer.length_nextPage o.positive
    have height := o.height_le (0 + 1)
    rw [length_joinMapHashes]
    omega
  refine ⟨_, (parseAdvert_pack p r short).trans ?_, ?_⟩
  · rw [data, dataSize, offers.parts, offers.hash, random]
    rfl
  rw [Link.advertise, offers.advertisement, ok_bind, Link.encrypt_keyed keyed]
  rfl

end

end MeshSat.Rns
