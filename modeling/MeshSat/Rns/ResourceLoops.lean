import MeshSat.Rns.Resource

/-!
# What the loops of a resource transfer compute

The parts are the pieces of the ciphertext, a page is a run of map hashes, and
the map hashes of a request are read back.
-/

namespace MeshSat.Rns

open Library Library.Checked Reticulum List

/-! ## Map hashes in a text -/

def joinMapHashes (hashes : List MapHash) : List UInt8 := hashes.flatMap FixedBytes.bytes

lemma splitMapHashes_append (hash : MapHash) (rest : List UInt8) :
    splitMapHashes (hash.bytes ++ rest) = hash :: splitMapHashes rest := by
  obtain ⟨bytes, sized⟩ := hash
  match bytes, sized with
  | [_, _, _, _], _ => rfl

@[simp] lemma splitMapHashes_join (hashes : List MapHash) :
    splitMapHashes (joinMapHashes hashes) = hashes := by
  induction hashes with
  | nil => rfl
  | cons hash hashes induction =>
    rw [joinMapHashes, flatMap_cons, splitMapHashes_append]
    rw [joinMapHashes] at induction
    rw [induction]

lemma splitMapHashes_eq_nil : splitMapHashes text = [] ↔ text.length < resourceMapHashLen := by
  show _ ↔ text.length < 4
  rw [splitMapHashes.eq_def]
  split
  · simp
  rename_i short
  simp only [true_iff]
  match text, short with
  | [], _ => simp
  | [_], _ => simp
  | [_, _], _ => simp
  | [_, _, _], _ => simp
  | a :: b :: c :: d :: rest, short => exact (short a b c d rest rfl).elim

lemma length_joinMapHashes (hashes : List MapHash) :
    (joinMapHashes hashes).length = 4 * hashes.length := by
  induction hashes with
  | nil => rfl
  | cons hash hashes induction =>
    have sized : hash.bytes.length = 4 := hash.length_eq
    rw [joinMapHashes] at induction ⊢
    rw [flatMap_cons, length_append, sized, induction, length_cons]
    omega

/-! ## Pages -/

/-- The elements from one position up to another. -/
def page {α : Type} (list : List α) (low high : Nat) : List α := (list.take high).drop low

lemma page_succ (above : low ≤ i)
    (found : list[i]? = some element) : page list low (i + 1) = page list low i ++ [element] := by
  have inside : i < list.length := (List.getElem?_eq_some_iff.mp found).1
  rw [page, page, take_add_one, found, Option.toList_some, drop_append_of_le_length]
  rw [length_take]
  omega

lemma page_eq_nil (none : high ≤ low) : page list low high = [] := by
  apply drop_eq_nil_of_le
  rw [length_take]
  omega

lemma hashmapBytes_eq (start : 0 ≤ low) (ordered : low ≤ high) (inside : high ≤ mapHashes.length) :
    hashmapBytes mapHashes low high =
    .ok (joinMapHashes (page mapHashes low.toNat high.toNat)) := by
  apply Returns.eq_ok
  apply returns_forRange fun i hm =>
    hm = joinMapHashes (page mapHashes low.toNat i.toNat)
  · rw [page_eq_nil (le_refl _)]
    rfl
  · intro i hm above below invariant
    apply returns_fetch (by omega) (by omega)
    intro hash found
    apply returns_pure.mpr
    show hm ++ hash.bytes = _
    rw [show (i + 1).toNat = i.toNat + 1 by omega,
      page_succ (by omega) found, invariant, joinMapHashes, joinMapHashes, flatMap_append]
    simp
  intro hm last
  rwa [max_eq_right ordered] at last

lemma pageIndex_succ {segment : Int} (low : 0 ≤ pageIndex i segment)
    (high : pageIndex i segment + 1 < 2 ^ 63) :
    pageIndex (i + 1) segment = pageIndex i segment + 1 := by
  rw [pageIndex] at low high
  rw [pageIndex, pageIndex]
  generalize (segment * resourceHashmapMaxLen).bmod (2 ^ 64) = first at *
  simp only [Int.bmod] at *
  omega

/-! ## Parts -/

def partCount (size length : Nat) : Nat := (length + size - 1) / size

lemma lt_partCount {size length k : Nat} (positive : 0 < size) :
    k < partCount size length ↔ k * size < length := by
  rw [partCount, Nat.lt_div_iff_mul_lt positive]
  constructor
  · intro below
    omega
  intro below
  omega

section
variable (p : Primitives) (size : Nat) (enc : List UInt8) (random : RandomHash)

def leadingSplit (count : Nat) : Split where
  parts := (List.range count).map (piece size enc)
  mapHashes := (List.range count).map fun k =>
    mapHash p (piece size enc k) random

def wholeSplit : Split := leadingSplit p size enc random (partCount size enc.length)

end

section
variable {p : Primitives} {size : Nat} {enc : List UInt8} {random : RandomHash}

lemma leadingSplit_succ (k : Nat) : leadingSplit p size enc random (k + 1) =
    ⟨(leadingSplit p size enc random k).parts ++ [piece size enc k],
    (leadingSplit p size enc random k).mapHashes ++ [mapHash p (piece size enc k) random]⟩ := by
  rw [leadingSplit, range_succ, map_append, map_append]
  rfl

lemma leadingSplit_sublist {k count : Nat} (ordered : k ≤ count) :
    (leadingSplit p size enc random k).mapHashes.Sublist
      (leadingSplit p size enc random count).mapHashes :=
  (range_sublist.mpr ordered).map _

lemma slice_piece (inside : k * size < enc.length) : slice enc ((k * size : Nat) : Int)
        (min ((k * size : Nat) + (size : Int)) enc.length) = .ok (piece size enc k) := by
  rw [slice, if_pos (by omega)]
  congr 1
  rw [piece, Int.toNat_natCast, drop_take]
  by_cases whole : k * size + size ≤ enc.length
  · congr 1
    omega
  rw [take_of_length_le, take_of_length_le]
  · rw [length_drop]
    omega
  rw [length_drop]
  omega

lemma splitFrom_eq (positive : 0 < size) : ∀ {fuel k : Nat}, k ≤ partCount size enc.length →
      partCount size enc.length - k < fuel → (leadingSplit p size enc random k).mapHashes.Nodup →
      splitFrom p size enc random fuel ((k * size : Nat) : Int) (leadingSplit p size enc random k) =
        .ok (if (wholeSplit p size enc random).mapHashes.Nodup then
          some (wholeSplit p size enc random) else none)
  | 0, _, _, enough, _ => by omega
  | fuel + 1, k, within, enough, different => by
      rw [splitFrom]
      rcases lt_or_ge k (partCount size enc.length) with more | all
      · have inside := (lt_partCount positive).mp more
        rw [if_neg (by omega), slice_piece inside]
        simp only [ok_bind]
        by_cases taken : mapHash p (piece size enc k) random ∈
            (leadingSplit p size enc random k).mapHashes
        · have collision : ¬ (wholeSplit p size enc random).mapHashes.Nodup := by
            intro nodup
            have shorter : (leadingSplit p size enc random (k + 1)).mapHashes.Nodup :=
              nodup.sublist (leadingSplit_sublist more)
            rw [leadingSplit_succ] at shorter
            exact (nodup_append.mp shorter).2.2 _ taken _ mem_cons_self rfl
          rw [if_pos taken, if_neg collision]
          rfl
        have longer : (leadingSplit p size enc random (k + 1)).mapHashes.Nodup := by
          rw [leadingSplit_succ]
          apply nodup_append.mpr
          refine ⟨different, nodup_singleton _, ?_⟩
          intro hash member other listed same
          rw [mem_singleton.mp listed] at same
          exact taken (same ▸ member)
        have enoughLeft : partCount size enc.length - (k + 1) < fuel := by omega
        have rest := splitFrom_eq positive more enoughLeft longer
        rw [if_neg taken, ← rest, leadingSplit_succ]
        congr 1
        push_cast
        ring
      obtain rfl : k = partCount size enc.length := by omega
      have beyond : ¬ partCount size enc.length * size < enc.length := by
        rw [← lt_partCount positive]
        omega
      rw [if_pos (by omega), wholeSplit, if_pos different]

lemma partCount_le (positive : 0 < size) (length : Nat) : partCount size length ≤ length := by
  by_contra more
  have inside := (lt_partCount positive).mp (not_le.mp more)
  have least := Nat.le_mul_of_pos_right length positive
  omega

lemma splitParts_eq (positive : 0 < size) : splitParts p size enc random =
      .ok (if (wholeSplit p size enc random).mapHashes.Nodup then
        some (wholeSplit p size enc random) else none) := by
  have bound := partCount_le positive enc.length
  have enough : partCount size enc.length - 0 < enc.length + 2 := by omega
  have none : (leadingSplit p size enc random 0).mapHashes.Nodup :=
    nodup_nil
  have whole := splitFrom_eq positive (Nat.zero_le _) enough none
  rw [Nat.zero_mul] at whole
  exact whole

lemma flatten_wholeSplit (positive : 0 < size) :
    (wholeSplit p size enc random).parts.flatten = enc := by
  have enough : enc.length ≤ partCount size enc.length * size := by
    by_contra more
    exact absurd ((lt_partCount positive).mpr (not_le.mp more)) (lt_irrefl _)
  rw [wholeSplit, leadingSplit, ← flatMap_def]
  exact flatMap_piece_eq enough

lemma splitParts_zero (some : enc ≠ []) : splitParts p 0 enc random = .ok none := by
  have long := length_pos_of_ne_nil some
  have empty : slice enc 0 (min (0 + 0) enc.length) = .ok [] := by
    rw [slice, if_pos (by omega)]
    rfl
  rw [splitParts, splitFrom, if_neg (by omega), empty]
  simp only [ok_bind]
  rw [if_neg not_mem_nil, splitFrom, if_neg (by omega), add_zero, empty]
  simp only [ok_bind]
  rw [if_pos (by simp)]
  rfl

lemma splitParts_neg (negative : sdu < 0) (some : enc ≠ []) :
    splitParts p sdu enc random = .error .slice := by
  have long := length_pos_of_ne_nil some
  rw [splitParts, splitFrom, if_neg (by omega), slice, if_neg (by omega)]
  rfl

end

lemma incomingResource_eq (nonzero : l.sdu ≠ 0) :
    incomingResource l env a = .ok (newIncoming env a a.n.toInt) := by
  rw [incomingResource, quotient, if_neg nonzero, ok_bind]
  split
  · rfl
  rename_i same
  rw [← not_not.mp same]
  rfl

/-! ## Serving -/

structure OutgoingResource.Shaped (r : OutgoingResource) : Prop where
  mapHashes : r.mapHashes.length = r.parts.length
  partSent : r.partSent.length = r.parts.length
  low : 0 ≤ r.recvMinHeight
  high : r.recvMinHeight ≤ r.parts.length

structure Serving.Of (r : OutgoingResource) (s : Serving) : Prop where
  hash : s.resource.hash = r.hash
  parts : s.resource.parts = r.parts
  mapHashes : s.resource.mapHashes = r.mapHashes
  expectedProof : s.resource.expectedProof = r.expectedProof
  recvMinHeight : s.resource.recvMinHeight = r.recvMinHeight
  partSent : s.resource.partSent.length = r.parts.length

variable {r : OutgoingResource}

lemma Serving.Of.shaped {s : Serving}
    (served : s.Of r) (shaped : r.Shaped) : s.resource.Shaped where
  mapHashes := by
    rw [served.mapHashes, served.parts]
    exact shaped.mapHashes
  partSent := by
    rw [served.partSent, served.parts]
  low := by
    rw [served.recvMinHeight]
    exact shaped.low
  high := by
    rw [served.recvMinHeight, served.parts]
    exact shaped.high

lemma Serving.Of.returns_servePart {s : Serving} (served : s.Of r) (shaped : r.Shaped)
    {want : List MapHash} {i : Int} (low : 0 ≤ i) (high : i < r.parts.length) :
    Returns (servePart want i s) fun next => ∃ after : Serving, next = .next after ∧ after.Of r ∧
    ∃ hash part, r.mapHashes[i.toNat]? = some hash ∧ r.parts[i.toNat]? = some part ∧
    after.toSend = s.toSend ++ if hash ∈ want then [part] else [] := by
  have mapped := shaped.mapHashes
  have sized := served.partSent
  have found : r.parts[i.toNat]? = some r.parts[i.toNat] := List.getElem?_eq_getElem (by omega)
  rw [servePart, served.mapHashes]
  apply returns_fetch low (by omega)
  intro hash hashFound
  by_cases wanted : hash ∈ want
  · rw [if_pos wanted, served.parts]
    apply returns_fetch low high
    intro part partFound
    apply returns_fetch low (by omega)
    intro sent _
    cases sent with
    | true =>
      refine returns_pure.mpr ⟨_, rfl, ?_, hash, part, hashFound, partFound, ?_⟩
      · exact { served with }
      · rw [if_pos wanted]
    | false =>
      simp only [Bool.false_eq_true, if_false]
      apply returns_store low (by omega)
      refine returns_pure.mpr ⟨_, rfl, ?_, hash, part, hashFound, partFound, ?_⟩
      · refine { served with partSent := ?_ }
        rw [length_set]
        exact served.partSent
      · rw [if_pos wanted]
  rw [if_neg wanted]
  refine returns_pure.mpr ⟨s, rfl, served, hash, _, hashFound, found, ?_⟩
  rw [if_neg wanted, append_nil]

end MeshSat.Rns
