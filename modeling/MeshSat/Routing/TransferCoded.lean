import Mathlib
import MeshSat.Routing.TransferUncoded

/-!
# Transfers of coded packets

A receiver that got an advertisement handles coded packets of all segments in
the order they come, and solves for the segments once the packets are enough.
A packet says in one byte how many segments it combines and an advertisement
says in two how long they are, so that this works for resources of at most 255
segments of a size that fits.
-/

namespace MeshSat.Routing

open Library List InboundTransfer

/-- What is handed over for a hash, to the callback or through the channel. -/
def deliveries (hash : FullHash) (effects : List Effect) : List (List UInt8) :=
  callbacks hash effects ++ results hash effects

def allSegments (data : List UInt8) (size : Nat) : List (List UInt8) :=
  (List.range (computeSegmentCount data.length size)).map (piece size data)

lemma length_allSegments :
    (allSegments data size).length = computeSegmentCount data.length size := by
  rw [allSegments, length_map, length_range]

/-- Coded packets one after the other; nothing where the source panics. -/
def receiveCoded (sha256 : List UInt8 → FullHash) (sendFn : String → Header → Option String) :
    ResourceTransfer → List (List UInt8 × String) → Option (ResourceTransfer × List Effect)
  | rt, [] => some (rt, [])
  | rt, (data, iface) :: rest =>
    (handleCodedSegment sha256 sendFn rt data iface).bind fun handled =>
      (receiveCoded sha256 sendFn handled.1 rest).map fun ended =>
        (ended.1, handled.2 ++ ended.2)

/-! ## Sizes of segments -/

section
variable {data : List UInt8} {size : Nat}

lemma length_piece_eq (sized : 0 < size)
    (within : i < computeSegmentCount data.length size) : (piece size data i).length =
      if i + 1 = computeSegmentCount data.length size then data.length - i * size else size := by
  have covers := @le_computeSegmentCount_mul data.length size sized
  rw [piece, length_take, length_drop]
  split
  next last =>
    rw [← last, add_one_mul] at covers
    omega
  have next := @mul_lt_of_lt_computeSegmentCount data.length size (i + 1) sized (by omega)
  rw [add_one_mul] at next
  omega

lemma length_last_piece (sized : 0 < size)
    (last : i + 1 = computeSegmentCount data.length size) : data.length - i * size =
    if data.length % size > 0 then data.length % size else size := by
  have covers := @le_computeSegmentCount_mul data.length size sized
  have starts := @mul_lt_of_lt_computeSegmentCount data.length size i sized (by omega)
  rw [← last, add_one_mul] at covers
  have split : data.length = data.length - i * size + i * size := by omega
  have remainder : data.length % size = (data.length - i * size) % size := by
    rw [split, Nat.add_mul_mod_self_right]
    congr 1
    omega
  by_cases full : data.length - i * size = size
  · rw [remainder, full, Nat.mod_self, if_neg (Nat.lt_irrefl 0)]
  · rw [remainder, Nat.mod_eq_of_lt (by omega), if_pos (by omega)]

end

/-! ## Storing decoded segments -/

/-- The resource has segments, one byte counts them, and two bytes tell their
size, or that of the only one. -/
structure FitsCoding (data : List UInt8) (size : Nat) : Prop where
  nonempty : data ≠ []
  count_le : computeSegmentCount data.length size ≤ 255
  length_le : size ≤ 65535 ∨ data.length ≤ size % 65536

structure InboundTransfer.Advertised (data : List UInt8) (size : Nat)
    (it : InboundTransfer) : Prop where
  totalSize_eq : it.totalSize.toNat = data.length
  segSize_eq : it.segSize.toNat = size % 65536
  segCount_eq : it.segCount.toNat = computeSegmentCount data.length size % 65536

lemma newInbound_advertised (sha256 : List UInt8 → FullHash) (rt : ResourceTransfer)
    (bounded : data.length ≤ maxResourceSize) (now : Int) (iface : String) :
    (newInbound now (advertisement sha256 rt data) iface).Advertised data rt.segmentSize where
  totalSize_eq := by
    have limit : maxResourceSize = 1048576 := rfl
    apply UInt32.toNat_ofNat_of_lt'
    show data.length < 4294967296
    omega
  segSize_eq := UInt16.toNat_ofNat'
  segCount_eq := UInt16.toNat_ofNat'

section
variable {data : List UInt8} {size : Nat} {it : InboundTransfer}

lemma FitsCoding.segCount (fits : FitsCoding data size) (advertised : it.Advertised data size) :
    it.segCount.toNat = computeSegmentCount data.length size := by
  have small := fits.count_le
  rw [advertised.segCount_eq]
  omega

lemma FitsCoding.expectedSize_eq (fits : FitsCoding data size)
    (sized : 0 < size) (advertised : it.Advertised data size)
    (within : i < computeSegmentCount data.length size) :
    it.expectedSize (UInt16.ofNat i) = some (piece size data i).length := by
  have small := fits.count_le
  have count := fits.segCount advertised
  have length := advertised.segSize_eq
  have starts := mul_lt_of_lt_computeSegmentCount sized within
  have lastIndex : (it.segCount - 1).toNat = it.segCount.toNat - 1 := by
    apply UInt16.toNat_sub_of_le
    rw [UInt16.le_iff_toNat_le, count]
    exact Nat.one_le_of_lt within
  have isLast : UInt16.ofNat i = it.segCount - 1 ↔
      i + 1 = computeSegmentCount data.length size := by
    rw [← UInt16.toNat_inj, lastIndex, UInt16.toNat_ofNat_of_lt' (show i < 65536 by omega), count]
    omega
  rw [length_piece_eq sized within, expectedSize]
  by_cases last : i + 1 = computeSegmentCount data.length size
  · have nonzero : it.segSize ≠ 0 := by
      intro zero
      rw [zero, UInt16.toNat_zero] at length
      rcases fits.length_le with fitting | fitting
      · rw [Nat.mod_eq_of_lt (by omega)] at length
        omega
      · omega
    rw [if_pos (isLast.mpr last), if_neg nonzero, if_pos last, advertised.totalSize_eq, length]
    by_cases whole : size ≤ 65535
    · rw [Nat.mod_eq_of_lt (show size < 65536 by omega), length_last_piece sized last]
    -- The size does not fit, so that there is one segment only.
    have single : data.length ≤ size % 65536 := fits.length_le.resolve_left whole
    have first : i = 0 := by
      by_contra later
      have step : size ≤ i * size := Nat.le_mul_of_pos_left size (Nat.pos_of_ne_zero later)
      omega
    subst first
    dsimp only
    rw [Nat.zero_mul, Nat.sub_zero]
    congr 1
    by_cases full : data.length = size % 65536
    · rw [← full, Nat.mod_self, if_neg (Nat.lt_irrefl 0)]
    · rw [Nat.mod_eq_of_lt (by omega), if_pos (by omega)]
  have next := @mul_lt_of_lt_computeSegmentCount data.length size (i + 1) sized (by omega)
  have step : size ≤ (i + 1) * size := Nat.le_mul_of_pos_left size (by omega)
  have shorter : size % 65536 ≤ size := Nat.mod_le _ _
  rw [if_neg (fun same => last (isLast.mp same)), if_neg last, length]
  rcases fits.length_le with fitting | fitting
  · rw [Nat.mod_eq_of_lt (by omega)]
  · omega

lemma take_padSegment (size : Nat) (seg : List UInt8) :
    (padSegment size seg).take seg.length = seg := by
  rw [padSegment, take_left]

lemma FitsCoding.storeDecoded_eq (fits : FitsCoding data size)
    (sized : 0 < size) (advertised : it.Advertised data size)
    {arrived : List Nat} (collecting : it.Collecting data size arrived)
    (payloadSize : Nat) {i count : Nat} (whole : i + count = computeSegmentCount data.length size) :
    ∃ it' arrived', it.storeDecoded i ((List.range' i count).map fun j =>
        padSegment payloadSize (piece size data j)) = some it' ∧
      it'.hash = it.hash ∧ it'.Collecting data size arrived' ∧ (∀ j ∈ arrived, j ∈ arrived') ∧
      ∀ j, i ≤ j → j < computeSegmentCount data.length size → j ∈ arrived' := by
  induction count generalizing i it arrived with
  | zero =>
    refine ⟨it, arrived, rfl, rfl, collecting, fun j member => member, ?_⟩
    intro j lower upper
    omega
  | succ count induction =>
    have within : i < computeSegmentCount data.length size := by omega
    have small := fits.count_le
    have index : (UInt16.ofNat i).toNat = i := UInt16.toNat_ofNat_of_lt' (show i < 65536 by omega)
    have counted := fits.segCount advertised
    have inside : ¬ UInt16.ofNat i ≥ it.segCount := by
      rw [ge_iff_le, UInt16.le_iff_toNat_le, index, counted]
      omega
    have stored := collecting.store (i := i) (by omega)
    obtain ⟨it', arrived', result, hash, further, earlier, later⟩ :=
      @induction (it.store (UInt16.ofNat i) (piece size data i))
        { advertised with } (i :: arrived) stored (i + 1) (by omega)
    refine ⟨it', arrived', ?_, hash, further, ?_, ?_⟩
    · rw [List.range'_succ, map_cons, storeDecoded,
        if_neg inside, fits.expectedSize_eq sized advertised within]
      dsimp only
      rw [take_padSegment, ← result, store, index]
    · intro j member
      exact earlier j (mem_cons_of_mem i member)
    intro j lower upper
    by_cases first : j = i
    · rw [first]
      exact earlier i mem_cons_self
    · exact later j (by omega) upper

end

/-! ## Packets of a whole resource -/

section
variable (sha256 : List UInt8 → FullHash) (data : List UInt8) (size : Nat)

def wholePacket (draw : Fin (allSegments data size).length → UInt8) : RLNCCodedPacket :=
  encodePacket 0 (sha256 data) (allSegments data size) draw

variable {data size}

lemma maxLength_pos (sized : 0 < size) (nonempty : data ≠ []) :
    0 < maxLength (allSegments data size) := by
  have some := length_pos_iff.mpr nonempty
  have within := computeSegmentCount_pos sized some
  have first := length_piece_eq sized within
  have member : piece size data 0 ∈ allSegments data size :=
    mem_map.mpr ⟨0, mem_range.mpr within, rfl⟩
  have below := length_le_maxLength member
  rw [Nat.zero_mul, Nat.sub_zero] at first
  split at first
  · omega
  · omega

lemma payload_ne_nil (sized : 0 < size) (nonempty : data ≠ [])
    (draw : Fin (allSegments data size).length → UInt8) :
    (wholePacket sha256 data size draw).payload ≠ [] := by
  have positive := maxLength_pos sized nonempty
  have length := (encodePacket_combines (allSegments data size) 0 (sha256 data) draw).length_payload
  intro empty
  rw [wholePacket] at empty
  rw [empty, length_nil] at length
  omega

lemma unmarshal_wholePacket (sized : 0 < size) (fits : FitsCoding data size)
    (draw : Fin (allSegments data size).length → UInt8) :
    unmarshalRLNCPacket (marshalRLNCPacket (wholePacket sha256 data size draw)) =
      .ok (wholePacket sha256 data size draw) := by
  have few : (allSegments data size).length ≤ 255 := by
    rw [length_allSegments]
    exact fits.count_le
  exact unmarshal_encodePacket few (maxLength_pos sized fits.nonempty) 0 _ draw

lemma decoded_eq : (List.ofFn fun c => List.ofFn (paddedSegments (allSegments data size) c)) =
      (List.range' 0 (computeSegmentCount data.length size)).map fun j =>
        padSegment (maxLength (allSegments data size)) (piece size data j) := by
  rw [ofFn_paddedSegments, ← range_eq_range']
  nth_rewrite 2 [allSegments]
  rw [map_map]
  rfl

end

/-! ## Receiving the packets of a resource -/

structure Holds (rt : ResourceTransfer) (old : InboundTransfer)
    (start : RLNCGeneration) (packets : List RLNCCodedPacket) : Prop where
  found : rt.inbound.get? old.hash = some old
  generation : old.rlncGen.getD start = { start with received := packets }

section
variable {sha256 : List UInt8 → FullHash}
  {sendFn : String → Header → Option String} {data : List UInt8} {size : Nat}
  {old : InboundTransfer} {rt : ResourceTransfer} {packets : List RLNCCodedPacket}

def wholeGeneration (data : List UInt8) (size : Nat) : RLNCGeneration :=
  newRLNCGeneration 0 (allSegments data size).length (maxLength (allSegments data size))

/-- The generation of a resource after some of its packets. -/
def grownGeneration (data : List UInt8) (size : Nat)
    (packets : List RLNCCodedPacket) : RLNCGeneration :=
  { wholeGeneration data size with received := packets }

lemma newRLNCGeneration_wholePacket (small : (allSegments data size).length ≤ 255)
    (draw : Fin (allSegments data size).length → UInt8) :
    newRLNCGeneration (wholePacket sha256 data size draw).generationID
      (wholePacket sha256 data size draw).k.toNat
      (wholePacket sha256 data size draw).payload.length = wholeGeneration data size := by
  have k : (wholePacket sha256 data size draw).k.toNat = (allSegments data size).length :=
    UInt8.toNat_ofNat_of_lt' (show _ < 256 by omega)
  have length : (wholePacket sha256 data size draw).payload.length =
      maxLength (allSegments data size) :=
    (encodePacket_combines (allSegments data size) 0 (sha256 data) draw).length_payload
  rw [k, length]
  rfl

section
variable (fits : FitsCoding data size) (sized : 0 < size) (named : old.hash = sha256 data)

include fits sized named

lemma FitsCoding.handleCodedSegment_eq (holds : Holds rt old (wholeGeneration data size) packets)
    (draw : Fin (allSegments data size).length → UInt8) (iface : String) :
    handleCodedSegment sha256 sendFn rt
        (marshalRLNCPacket (wholePacket sha256 data size draw)) iface =
      let grown := grownGeneration data size (packets ++ [wholePacket sha256 data size draw])
      if !decide (grown.received.length ≥ grown.k) then
        some (rt.putInbound (old.setGen grown), [])
      else
        match grown.tryDecode with
        | none => none
        | some (_, .error _) => some (rt.putInbound (old.setGen grown), [])
        | some (gen, .ok decoded) =>
          ((old.setGen gen).storeDecoded 0 decoded).map fun it =>
            finishCoded sha256 sendFn rt it iface := by
  have small := fits.count_le
  rw [← length_allSegments] at small
  have found : rt.inbound.get? (wholePacket sha256 data size draw).resourceHash = some old := by
    rw [← holds.found, named]
    rfl
  have added : (old.rlncGen.getD (wholeGeneration data size)).addPacket
      (wholePacket sha256 data size draw) = (grownGeneration data size
            (packets ++ [wholePacket sha256 data size draw]),
          decide ((packets ++ [wholePacket sha256 data size draw]).length ≥
            (wholeGeneration data size).k)) := by
    rw [holds.generation]
    rfl
  rw [handleCodedSegment, unmarshal_wholePacket sha256 sized fits draw]
  dsimp only
  rw [found, newRLNCGeneration_wholePacket small]
  dsimp only
  rw [added]
  rfl

/-- A packet is kept until the packets have full rank; then the resource is
handed over and the transfer is gone. -/
lemma FitsCoding.handleCodedSegment_cases (advertised : old.Advertised data size)
    (collecting : old.Collecting data size [])
    (holds : Holds rt old (wholeGeneration data size) packets)
    (made : ∀ pkt ∈ packets, ∃ draw, pkt = wholePacket sha256 data size draw)
    (draw : Fin (allSegments data size).length → UInt8) (iface : String) :
    ((coefficientMatrix (allSegments data size).length
        (packets ++ [wholePacket sha256 data size draw])).rank < (allSegments data size).length ∧
      handleCodedSegment sha256 sendFn rt
          (marshalRLNCPacket (wholePacket sha256 data size draw)) iface =
        some (rt.putInbound (old.setGen (grownGeneration data size
          (packets ++ [wholePacket sha256 data size draw]))), [])) ∨
    ((coefficientMatrix (allSegments data size).length
        (packets ++ [wholePacket sha256 data size draw])).rank = (allSegments data size).length ∧
      ∃ next effects, handleCodedSegment sha256 sendFn rt
          (marshalRLNCPacket (wholePacket sha256 data size draw)) iface = some (next, effects) ∧
        next.inbound.get? (sha256 data) = none ∧ deliveries (sha256 data) effects =
          if rt.onReceive then [data] else []) := by
  let grown := grownGeneration data size (packets ++ [wholePacket sha256 data size draw])
  have combines : ∀ other ∈ grown.received,
      other.Combines (paddedSegments (allSegments data size)) := by
    intro other member
    rcases mem_append.mp member with earlier | last
    · obtain ⟨drawn, rfl⟩ := made other earlier
      exact encodePacket_combines _ _ _ drawn
    rw [mem_singleton.mp last]
    exact encodePacket_combines _ _ _ draw
  rw [fits.handleCodedSegment_eq sized named holds draw iface]
  dsimp only
  have counted : grown.k = (allSegments data size).length := rfl
  rcases RLNCGeneration.tryDecode_cases counted rfl combines with
    ⟨less, error, _, failed⟩ | ⟨full, solved⟩
  · left
    refine ⟨less, ?_⟩
    rw [failed]
    split <;> rfl
  right
  have height := (coefficientMatrix (allSegments data size).length grown.received).rank_le_height
  have enough : grown.received.length ≥ grown.k := full.symm.trans_le height
  rw [decoded_eq] at solved
  obtain ⟨it, arrived, stored, hash, further, _, all⟩ :=
    @FitsCoding.storeDecoded_eq data size (old.setGen
      { grown with
        decoded := true
        decodedData := (List.range' 0 (computeSegmentCount data.length size)).map fun j =>
            padSegment (maxLength (allSegments data size)) (piece size data j) })
      fits sized { advertised with } []
      { collecting with } (maxLength (allSegments data size)) 0 _ (zero_add _)
  have complete : ∀ i < it.segCount.toNat, i ∈ arrived := by
    intro i within
    rw [further.count_eq] at within
    exact all i (Nat.zero_le i) within
  have owner : it.hash = sha256 data := hash.trans named
  have finished : finishCoded sha256 sendFn rt it iface =
      ((rt.putInbound it).deleteInbound (sha256 data),
        announceReceived sendFn (rt.putInbound it) (sha256 data) data iface) := by
    rw [finishCoded]
    rw [further.allClear_iff.mpr complete, further.reassemble_eq sized complete, owner]
    simp
  refine ⟨full, (rt.putInbound it).deleteInbound (sha256 data),
    announceReceived sendFn (rt.putInbound it) (sha256 data) data iface,
    ?_, get?_deleteInbound_self _ _, ?_⟩
  · rw [decide_eq_true enough, solved]
    simp only [Bool.not_true, Bool.false_eq_true, if_false]
    rw [stored, Option.map_some, finished]
  rw [deliveries, results_announceReceived, append_nil, callbacks_announceReceived]
  simp [ResourceTransfer.putInbound]

end

lemma handleCodedSegment_none {hash : FullHash} (none : rt.inbound.get? hash = none)
    {pkt : RLNCCodedPacket} {bytes : List UInt8} (read : unmarshalRLNCPacket bytes = .ok pkt)
    (named : pkt.resourceHash = hash) (iface : String) :
    handleCodedSegment sha256 sendFn rt bytes iface = some (rt, []) := by
  rw [handleCodedSegment, read]
  dsimp only
  rw [named, none]

/-- The bytes of the packets drawn and where they arrive. -/
def codedArrivals (sha256 : List UInt8 → FullHash) (data : List UInt8) (size : Nat)
    (draws : List ((Fin (allSegments data size).length → UInt8) × String)) :
    List (List UInt8 × String) :=
  draws.map fun drawn =>
    (marshalRLNCPacket (wholePacket sha256 data size drawn.1), drawn.2)

lemma FitsCoding.receiveCoded_none (fits : FitsCoding data size)
    (sized : 0 < size) (none : rt.inbound.get? (sha256 data) = none)
    (draws : List ((Fin (allSegments data size).length → UInt8) × String)) :
    receiveCoded sha256 sendFn rt (codedArrivals sha256 data size draws) = some (rt, []) := by
  induction draws with
  | nil => rfl
  | cons drawn rest induction =>
    have ignored := @handleCodedSegment_none sha256 sendFn rt _ none _ _
      (unmarshal_wholePacket sha256 sized fits drawn.1) rfl drawn.2
    rw [codedArrivals, map_cons, receiveCoded, ignored, Option.bind_some]
    rw [codedArrivals] at induction
    rw [induction]
    rfl

lemma FitsCoding.receiveCoded_eq (fits : FitsCoding data size)
    (sized : 0 < size) (named : old.hash = sha256 data) (advertised : old.Advertised data size)
    (collecting : old.Collecting data size [])
    (holds : Holds rt old (wholeGeneration data size) packets)
    (made : ∀ pkt ∈ packets, ∃ draw, pkt = wholePacket sha256 data size draw)
    (few : (coefficientMatrix (allSegments data size).length packets).rank <
      (allSegments data size).length)
    (draws : List ((Fin (allSegments data size).length → UInt8) × String))
    (full : (coefficientMatrix (allSegments data size).length (packets ++ draws.map fun drawn =>
        wholePacket sha256 data size drawn.1)).rank = (allSegments data size).length) :
    ∃ final effects, receiveCoded sha256 sendFn rt (codedArrivals sha256 data size draws) =
        some (final, effects) ∧ deliveries (sha256 data) effects =
        if rt.onReceive then [data] else [] := by
  induction draws generalizing rt old packets with
  | nil =>
    rw [map_nil, append_nil] at full
    omega
  | cons drawn rest induction =>
    rw [codedArrivals, map_cons, receiveCoded]
    rcases fits.handleCodedSegment_cases sized named advertised collecting
      holds made drawn.1 drawn.2 with
      ⟨less, waits⟩ | ⟨_, next, effects, handed, gone, delivered⟩
    · have later := @induction (old.setGen (grownGeneration data size
          (packets ++ [wholePacket sha256 data size drawn.1])))
        (rt.putInbound (old.setGen (grownGeneration data size
          (packets ++ [wholePacket sha256 data size drawn.1]))))
        (packets ++ [wholePacket sha256 data size drawn.1]) named
        { advertised with }
        { collecting with }
        ⟨by rw [get?_putInbound, if_pos rfl], rfl⟩ (by
          intro pkt member
          rcases mem_append.mp member with earlier | last
          · exact made pkt earlier
          · exact ⟨drawn.1, mem_singleton.mp last⟩) less (by
          rw [append_assoc]
          exact full)
      obtain ⟨final, effects, received, delivered⟩ := later
      rw [waits, Option.bind_some]
      rw [codedArrivals] at received
      refine ⟨final, effects, ?_, delivered⟩
      rw [received]
      rfl
    have rest_ignored := @FitsCoding.receiveCoded_none sha256 sendFn data
      size next fits sized gone rest
    rw [codedArrivals] at rest_ignored
    rw [handed, Option.bind_some, rest_ignored]
    refine ⟨next, effects, ?_, delivered⟩
    rw [Option.map_some, append_nil]

end

/-! ## Resources that do not fit -/

/-- A generation of `k` segments, with packets of one size. -/
structure RLNCGeneration.Bounded (k size : Nat) (g : RLNCGeneration) : Prop where
  k_eq : g.k = k
  received_sized : ∀ pkt ∈ g.received, pkt.Sized k size
  length_decoded : g.decoded = true → g.decodedData.length = k

/-- The segments stored have an index below `k` and the advertised size. -/
structure InboundTransfer.Bounded (k size : Nat) (it : InboundTransfer) : Prop where
  segment : ∀ index entry, it.segments.get? index = some entry →
    index.toNat < k ∧ entry.2.length ≤ it.segSize.toNat
  generation : ∀ g, it.rlncGen = some g → g.Bounded k size

section
variable {k size : Nat} {g : RLNCGeneration} {it : InboundTransfer}

lemma RLNCGeneration.Bounded.addPacket (bounded : g.Bounded k size) (sized : pkt.Sized k size) :
    (g.addPacket pkt).1.Bounded k size := by
  rw [RLNCGeneration.addPacket]
  split
  · exact bounded
  constructor
  · exact bounded.k_eq
  · exact forall_mem_append.mpr ⟨bounded.received_sized, forall_mem_singleton.mpr sized⟩
  · exact bounded.length_decoded

variable {decoded : List (List UInt8)}

lemma RLNCGeneration.Bounded.tryDecode (bounded : g.Bounded k size) {next : RLNCGeneration}
    (solved : g.tryDecode = some (next, .ok decoded)) : decoded.length = k ∧
    next.Bounded k size := by
  cases earlier : g.decoded with
  | true =>
    rw [RLNCGeneration.tryDecode, if_pos earlier] at solved
    cases solved
    exact ⟨bounded.length_decoded earlier, bounded⟩
  | false =>
    have sized : ∀ pkt ∈ g.received, pkt.Sized g.k size := by
      rw [bounded.k_eq]
      exact bounded.received_sized
    obtain ⟨length, rfl⟩ := g.tryDecode_ok earlier sized solved
    have counted := length.trans bounded.k_eq
    exact ⟨counted, bounded.k_eq, bounded.received_sized, fun _ => counted⟩

lemma InboundTransfer.expectedSize_le (computed : it.expectedSize index = some expected) :
    expected ≤ it.segSize.toNat := by
  rw [expectedSize] at computed
  split at computed
  · split at computed
    · cases computed
    rename_i nonzero
    have positive : 0 < it.segSize.toNat := by
      apply Nat.pos_of_ne_zero
      intro zero
      exact nonzero (UInt16.toNat_inj.mp zero)
    have below := Nat.mod_lt it.totalSize.toNat positive
    cases computed
    split <;> omega
  · cases computed
    exact le_rfl

lemma InboundTransfer.Bounded.storeDecoded (bounded : it.Bounded k size) {i : Nat}
    {next : InboundTransfer} (counted : i + decoded.length ≤ k)
    (stored : it.storeDecoded i decoded = some next) : next.Bounded k size ∧ next.hash = it.hash ∧
    ∀ data length, it.Advertised data length → next.Advertised data length := by
  induction decoded generalizing i it with
  | nil =>
    cases stored
    exact ⟨bounded, rfl, fun _ _ advertised => advertised⟩
  | cons segData rest induction =>
    rw [length_cons] at counted
    rw [storeDecoded] at stored
    split at stored
    · cases stored
      exact ⟨bounded, rfl, fun _ _ advertised => advertised⟩
    split at stored
    · cases stored
    rename_i expected computed
    have kept : ({ it with
        segments := it.segments.put (UInt16.ofNat i, segData.take expected)
        bitmap := bitmapClear it.bitmap i } : InboundTransfer).Bounded k size := by
      refine ⟨?_, bounded.generation⟩
      intro index entry found
      rw [Keyed.get?_put] at found
      split at found
      · rename_i same
        cases found
        have wraps : (UInt16.ofNat i).toNat ≤ i := by
          rw [UInt16.toNat_ofNat']
          exact Nat.mod_le _ _
        have small := expectedSize_le computed
        have cut := length_take_le expected segData
        rw [same]
        refine ⟨?_, cut.trans small⟩
        show (UInt16.ofNat i).toNat < k
        omega
      · exact bounded.segment index entry found
    obtain ⟨after, hash, advertised⟩ :=
      induction kept (show i + 1 + rest.length ≤ k by omega) stored
    refine ⟨after, hash, fun data length before => ?_⟩
    exact advertised data length { before with }

variable {result : List UInt8}

lemma Segments.length_join_le {segments : Segments} {indices : List Nat}
    {limit : Nat} (short : ∀ index entry, segments.get? index = some entry →
      entry.2.length ≤ limit) (joined : Segments.join segments indices = some result) :
    result.length ≤ indices.length * limit ∧
      ∀ i ∈ indices, ∃ entry, segments.get? (UInt16.ofNat i) = some entry := by
  induction indices generalizing result with
  | nil =>
    cases joined
    exact ⟨Nat.zero_le _, fun i member => absurd member not_mem_nil⟩
  | cons i rest induction =>
    rw [Segments.join] at joined
    split at joined
    · cases joined
    rename_i index segData found
    obtain ⟨later, joins, rfl⟩ := Option.map_eq_some_iff.mp joined
    obtain ⟨bound, present⟩ := induction joins
    have head := short _ _ found
    constructor
    · rw [length_append, length_cons, add_one_mul]
      dsimp only at head
      omega
    · exact forall_mem_cons.mpr ⟨⟨_, found⟩, present⟩

lemma InboundTransfer.Bounded.reassemble (bounded : it.Bounded k size)
    (joined : it.reassemble = some result) : it.segCount.toNat ≤ k ∧
    result.length ≤ it.segCount.toNat * it.segSize.toNat := by
  have limit := it.segCount.toNat_lt
  obtain ⟨length, present⟩ := Segments.length_join_le
    (fun index entry found => (bounded.segment index entry found).2) joined
  rw [length_range] at length
  refine ⟨?_, length⟩
  by_contra more
  obtain ⟨entry, found⟩ := present (it.segCount.toNat - 1) (mem_range.mpr (by omega))
  have below := (bounded.segment _ _ found).1
  rw [UInt16.toNat_ofNat_of_lt' (show _ < 65536 by omega)] at below
  omega

end

/-- The receiver's transfer of a resource stays within what its packets
combine. -/
structure Limited (hash : FullHash) (data : List UInt8) (size k payload : Nat)
    (rt : ResourceTransfer) : Prop where
  bounded : ∀ it, rt.inbound.get? hash = some it → it.Bounded k payload
  advertised : ∀ it, rt.inbound.get? hash = some it → it.Advertised data size

section
variable {sha256 : List UInt8 → FullHash}
  {sendFn : String → Header → Option String} {data : List UInt8}
  {size k payload : Nat} {hash : FullHash} {rt : ResourceTransfer}

lemma Limited.putInbound (limited : Limited hash data size k payload rt)
    (bounded : it.Bounded k payload) (advertised : it.Advertised data size) :
    Limited hash data size k payload (rt.putInbound it) := by
  constructor
  · intro other found
    rw [get?_putInbound] at found
    split at found
    · cases found
      exact bounded
    · exact limited.bounded other found
  intro other found
  rw [get?_putInbound] at found
  split at found
  · cases found
    exact advertised
  · exact limited.advertised other found

lemma Limited.deleteInbound : Limited hash data size k payload (rt.deleteInbound hash) := by
  have gone := get?_deleteInbound_self rt hash
  constructor
  · intro it found
    rw [gone] at found
    cases found
  intro it found
  rw [gone] at found
  cases found

section
variable (short : computeSegmentCount data.length size % 65536 ≤ k →
    computeSegmentCount data.length size % 65536 * (size % 65536) < data.length)
  (limited : Limited hash data size k payload rt)

include short limited

lemma Limited.of_finished (bounded : it.Bounded k payload)
    (advertised : it.Advertised data size) (named : it.hash = hash) (iface : String) :
    Limited hash data size k payload (finishCoded sha256 sendFn rt it iface).1 ∧
    ∀ result ∈ deliveries hash (finishCoded sha256 sendFn rt it iface).2,
    result.length < data.length := by
  subst named
  have nothing : ∀ result ∈ deliveries it.hash [], result.length < data.length := by
    intro result member
    exact absurd member not_mem_nil
  rw [finishCoded]
  split
  · exact ⟨limited.putInbound bounded advertised, nothing⟩
  split
  · exact ⟨Limited.deleteInbound, nothing⟩
  rename_i result joined
  split
  · exact ⟨Limited.deleteInbound, nothing⟩
  refine ⟨Limited.deleteInbound, ?_⟩
  obtain ⟨counted, length⟩ := bounded.reassemble joined
  rw [advertised.segCount_eq] at counted
  rw [advertised.segCount_eq, advertised.segSize_eq] at length
  intro handed member
  rw [deliveries, results_announceReceived, append_nil, callbacks_announceReceived] at member
  split at member
  · rw [mem_singleton.mp member]
    omega
  · exact absurd member not_mem_nil

/-- One packet that says it combines `k` segments. -/
lemma Limited.of_handled {bytes : List UInt8}
    {pkt : RLNCCodedPacket} (read : unmarshalRLNCPacket bytes = .ok pkt)
    (named : pkt.resourceHash = hash) (counted : pkt.k.toNat = k)
    (sized : pkt.Sized k payload) {iface : String} {next : ResourceTransfer} {effects : List Effect}
    (handled : handleCodedSegment sha256 sendFn rt bytes iface = some (next, effects)) :
    Limited hash data size k payload next ∧
      ∀ result ∈ deliveries hash effects, result.length < data.length := by
  have nothing : ∀ result ∈ deliveries hash [], result.length < data.length := by
    intro result member
    exact absurd member not_mem_nil
  rw [handleCodedSegment, read] at handled
  dsimp only at handled
  rw [named] at handled
  cases found : rt.inbound.get? hash with
  | none =>
    rw [found] at handled
    cases handled
    exact ⟨limited, nothing⟩
  | some old =>
    rw [found] at handled
    dsimp only at handled
    have before := limited.bounded old found
    have advertised := limited.advertised old found
    have owner : old.hash = hash := Keyed.key_of_get? found
    have start : (old.rlncGen.getD (newRLNCGeneration pkt.generationID
        pkt.k.toNat pkt.payload.length)).Bounded k payload := by
      cases grown : old.rlncGen with
      | none =>
        exact ⟨counted, fun _ member => absurd member not_mem_nil,
          fun decoded => absurd decoded Bool.false_ne_true⟩
      | some g => exact before.generation g grown
    have added := start.addPacket sized
    generalize (old.rlncGen.getD (newRLNCGeneration pkt.generationID
      pkt.k.toNat pkt.payload.length)).addPacket pkt = step at handled added
    obtain ⟨gen, ready⟩ := step
    have waits : Limited hash data size k payload (rt.putInbound (old.setGen gen)) := by
      apply limited.putInbound
      · refine ⟨before.segment, fun g same => ?_⟩
        cases same
        exact added
      · exact { advertised with }
    split at handled
    · cases handled
      exact ⟨waits, nothing⟩
    split at handled
    · cases handled
    · cases handled
      exact ⟨waits, nothing⟩
    rename_i solvedGen decoded solved
    obtain ⟨length, after⟩ := added.tryDecode solved
    obtain ⟨it, stored, ended⟩ := Option.map_eq_some_iff.mp handled
    have holding : (old.setGen solvedGen).Bounded k payload := by
      refine ⟨before.segment, fun g same => ?_⟩
      cases same
      exact after
    obtain ⟨bounded, hashEq, kept⟩ := holding.storeDecoded (by omega) stored
    have finished := @Limited.of_finished sha256 sendFn data size k
      payload hash rt short limited it bounded
      (kept data size { advertised with }) (hashEq.trans owner) iface
    rw [ended] at finished
    exact finished

end

section
variable (sized : 0 < size) (nonempty : data ≠ []) (unfit : ¬ FitsCoding data size)

include sized nonempty unfit

/-- What has more segments than a byte counts, or longer ones than two bytes
tell, is longer than what its packets are put together to. -/
lemma short_of_not_fits (byte : k = computeSegmentCount data.length size % 256)
    (counted : computeSegmentCount data.length size % 65536 ≤ k) :
    computeSegmentCount data.length size % 65536 * (size % 65536) < data.length := by
  have some := length_pos_iff.mpr nonempty
  have positive := computeSegmentCount_pos sized some
  have starts := @mul_lt_of_lt_computeSegmentCount data.length size
    (computeSegmentCount data.length size - 1) sized (by omega)
  have large : 255 < computeSegmentCount data.length size ∨
      65535 < size ∧ size % 65536 < data.length := by
    by_contra neither
    apply unfit
    refine ⟨nonempty, by omega, by omega⟩
  generalize computeSegmentCount data.length size = count at *
  by_cases many : 255 < count
  · have product : count % 65536 * (size % 65536) ≤ (count - 1) * size :=
      Nat.mul_le_mul (by omega) (Nat.mod_le _ _)
    omega
  obtain ⟨long, more⟩ := large.resolve_left many
  rw [Nat.mod_eq_of_lt (show count < 65536 by omega)]
  by_cases single : count = 1
  · rw [single, one_mul]
    exact more
  -- Each segment but the first makes up for the cut of the first.
  have split : count * (size % 65536) = (count - 1) * (size % 65536) + size % 65536 := by
    rw [← add_one_mul]
    congr 1
    omega
  have wrapped : size % 65536 + 65536 ≤ size := by omega
  have product : (count - 1) * (size % 65536 + 65536) ≤
      (count - 1) * size := Nat.mul_le_mul_left _ wrapped
  rw [Nat.mul_add] at product
  omega

section
variable
  (limited : Limited (sha256 data) data size (computeSegmentCount data.length size % 256)
    (maxLength (allSegments data size)) rt)

include limited

variable {effects : List Effect}

lemma Limited.of_wholePacket
    {draw : Fin (allSegments data size).length → UInt8} {iface : String}
    {next : ResourceTransfer} (handled : handleCodedSegment sha256 sendFn rt
      (marshalRLNCPacket (wholePacket sha256 data size draw)) iface = some (next, effects)) :
    Limited (sha256 data) data size (computeSegmentCount data.length size % 256)
        (maxLength (allSegments data size)) next ∧ ∀ result ∈ deliveries (sha256 data) effects,
        result.length < data.length := by
  have combines := encodePacket_combines (allSegments data size) 0 (sha256 data) draw
  have k : (wholePacket sha256 data size draw).k.toNat =
      computeSegmentCount data.length size % 256 := by
    rw [← length_allSegments]
    exact UInt8.toNat_ofNat'
  by_cases zero : (wholePacket sha256 data size draw).k = 0
  · obtain ⟨error, refused⟩ := @unmarshal_marshalRLNCPacket_zero
      (wholePacket sha256 data size draw) rfl zero
    rw [handleCodedSegment, refused] at handled
    cases handled
    exact ⟨limited, fun result member => absurd member not_mem_nil⟩
  have read := unmarshal_marshalRLNCPacket rfl (payload_ne_nil sha256 sized nonempty draw) zero
  apply limited.of_handled (short_of_not_fits sized nonempty unfit rfl) read rfl k ?_ handled
  constructor
  · rw [← k]
    simp
  · exact combines.length_payload

lemma Limited.short_of_received
    (draws : List ((Fin (allSegments data size).length → UInt8) × String))
    {final : ResourceTransfer} (received : receiveCoded sha256 sendFn rt
      (codedArrivals sha256 data size draws) = some (final, effects)) :
    ∀ result ∈ deliveries (sha256 data) effects, result.length < data.length := by
  induction draws generalizing rt effects with
  | nil =>
    cases received
    exact fun result member => absurd member not_mem_nil
  | cons drawn rest induction =>
    rw [codedArrivals, map_cons, receiveCoded] at received
    obtain ⟨⟨next, first⟩, handled, ended⟩ := Option.bind_eq_some_iff.mp received
    obtain ⟨⟨last, later⟩, continued, same⟩ := Option.map_eq_some_iff.mp ended
    cases same
    obtain ⟨kept, short⟩ := limited.of_wholePacket sized nonempty unfit handled
    have rest_short := induction kept continued
    intro result member
    rw [deliveries, callbacks_append, results_append] at member
    have cases : result ∈ deliveries (sha256 data) first ∨
        result ∈ deliveries (sha256 data) later := by
      rw [deliveries, deliveries]
      simp only [mem_append] at member ⊢
      tauto
    rcases cases with early | late
    · exact short result early
    · exact rest_short result late

end

end

end

/-! ## Complete sets of packets -/

section
variable {sha256 : List UInt8 → FullHash}
  {sendFn : String → Header → Option String} {data : List UInt8} {size : Nat}

def unitDraws (data : List UInt8) (size : Nat) :
    List ((Fin (allSegments data size).length → UInt8) × String) :=
  List.ofFn fun i => (Pi.single i 1, "mesh_0")

lemma ensureNonZero_single (i : Fin k) :
    ensureNonZero (List.ofFn (Pi.single i (1 : UInt8))) = List.ofFn (Pi.single i 1) := by
  have nonzero : ¬ (List.ofFn (Pi.single i (1 : UInt8))).all (fun c => c == 0) = true := by
    intro all
    have entry := all_eq_true.mp all 1 (by
      rw [mem_ofFn]
      exact ⟨i, Pi.single_eq_same i 1⟩)
    exact absurd entry (by decide)
  rw [ensureNonZero, if_neg nonzero]

lemma rank_unitDraws (sha256 : List UInt8 → FullHash) (data : List UInt8) (size : Nat) :
    (coefficientMatrix (allSegments data size).length ((unitDraws data size).map fun drawn =>
        wholePacket sha256 data size drawn.1)).rank = (allSegments data size).length := by
  have length : ((unitDraws data size).map fun drawn =>
      wholePacket sha256 data size drawn.1).length = (allSegments data size).length := by
    rw [length_map, unitDraws, length_ofFn]
  have rows : (coefficientMatrix (allSegments data size).length
      ((unitDraws data size).map fun drawn =>
        wholePacket sha256 data size drawn.1)).row =
      Pi.basisFun GF256 (Fin (allSegments data size).length) ∘ Fin.cast length := by
    funext i c
    rw [Function.comp_apply, Pi.basisFun_apply, Matrix.row, coefficientMatrix]
    have drawn : ((unitDraws data size).map fun drawn =>
        wholePacket sha256 data size drawn.1)[i].coefficients =
          List.ofFn (Pi.single (Fin.cast length i) (1 : UInt8)) := by
      rw [Fin.getElem_fin, List.getElem_map]
      simp only [unitDraws, List.getElem_ofFn]
      exact ensureNonZero_single _
    rw [drawn, List.getD_eq_getElem _ _ (by
      rw [List.length_ofFn]
      exact c.isLt), List.getElem_ofFn]
    by_cases same : c = Fin.cast length i
    · rw [same, Pi.single_eq_same, Pi.single_eq_same]
      exact GF256.ofByte_one
    rw [Pi.single_eq_of_ne same, Pi.single_eq_of_ne same]
    exact GF256.ofByte_zero
  have independent : LinearIndependent GF256 (coefficientMatrix (allSegments data size).length
        ((unitDraws data size).map fun drawn =>
          wholePacket sha256 data size drawn.1)).row := by
    rw [rows]
    exact (Pi.basisFun GF256 _).linearIndependent.comp _ (Fin.cast_injective length)
  rw [independent.rank_matrix, Fintype.card_fin, length]

lemma receiveCoded_refused (zero : UInt8.ofNat (allSegments data size).length = 0)
    (draws : List ((Fin (allSegments data size).length → UInt8) × String)) :
    receiveCoded sha256 sendFn rt (codedArrivals sha256 data size draws) = some (rt, []) := by
  induction draws with
  | nil => rfl
  | cons drawn rest induction =>
    obtain ⟨error, refused⟩ := @unmarshal_marshalRLNCPacket_zero
      (wholePacket sha256 data size drawn.1) rfl zero
    rw [codedArrivals, map_cons, receiveCoded, handleCodedSegment, refused, Option.bind_some]
    rw [codedArrivals] at induction
    rw [induction]
    rfl

end

/-- The receiver of an advertised resource hands over the offered bytes for
every set of coded packets of full rank, in any order, with duplicates and
through any interfaces, exactly where it has a callback and the packets can tell
how many segments there are and how long. -/
theorem coded_transfer (sha256 : List UInt8 → FullHash)
    (sendFn receiverSend : String → Header → Option String)
    (now later : Int) (rt sender receiver : ResourceTransfer)
    (data advData : List UInt8) (iface via source : String)
    (effects : List Effect) (hash : FullHash) (offered : offer sha256 sendFn now rt data iface =
      (sender, effects, .ok hash)) (advertised : .send via ⟨.resourceAdv, advData⟩ ∈ effects) :
    (∀ draws : List ((Fin (allSegments data rt.segmentSize).length → UInt8) × String),
      (coefficientMatrix (allSegments data rt.segmentSize).length (draws.map fun drawn =>
          wholePacket sha256 data rt.segmentSize drawn.1)).rank =
            (allSegments data rt.segmentSize).length → ∃ final ended,
        receiveCoded sha256 receiverSend
          (handleAdvertisement receiverSend later receiver advData source).1
          (codedArrivals sha256 data rt.segmentSize draws) = some (final, ended) ∧
        deliveries hash ended = [data]) ↔
    receiver.onReceive = true ∧ FitsCoding data rt.segmentSize := by
  have facts := offer_eq_ok offered
  have advEq : advData = marshalResourceAdv (advertisement sha256 rt data) := by
    rw [facts.effects_eq] at advertised
    cases mem_singleton.mp advertised
    rfl
  have hashEq := facts.hash_eq
  subst hashEq advEq
  have sized := rt.sized
  rw [handleAdvertisement_eq sha256 receiverSend later rt receiver facts.length_le source]
  have found : (receiver.putInbound (newInbound later
      (advertisement sha256 rt data) source)).inbound.get? (sha256 data) =
        some (newInbound later (advertisement sha256 rt data) source) := by
    rw [get?_putInbound, if_pos]
    rfl
  have adv := newInbound_advertised sha256 rt facts.length_le later source
  have complete : FitsCoding data rt.segmentSize → _ := fun fits draws full =>
    @FitsCoding.receiveCoded_eq sha256 receiverSend data rt.segmentSize _
      (receiver.putInbound (newInbound later (advertisement sha256 rt data)
        source)) [] fits sized rfl adv (newInbound_collecting later _ source (fits.segCount adv))
      ⟨found, rfl⟩ (fun pkt member => absurd member not_mem_nil) (by
        have height := (coefficientMatrix
          (allSegments data rt.segmentSize).length []).rank_le_height
        have positive := computeSegmentCount_pos sized (length_pos_iff.mpr fits.nonempty)
        rw [← length_allSegments] at positive
        exact height.trans_lt positive) draws full
  constructor
  · intro delivers
    have nonempty : data ≠ [] := by
      rintro rfl
      have empty : (allSegments [] rt.segmentSize).length = 0 := by
        rw [length_allSegments, computeSegmentCount, if_pos (.inr rfl)]
      have height : (coefficientMatrix (allSegments [] rt.segmentSize).length []).rank ≤ 0 :=
        Matrix.rank_le_height _
      obtain ⟨final, ended, received, delivered⟩ := delivers []
        ((Nat.le_zero.mp height).trans empty.symm)
      cases received
      cases delivered
    obtain ⟨final, ended, received, delivered⟩ := delivers
      (unitDraws data rt.segmentSize) (rank_unitDraws sha256 data _)
    have fits : FitsCoding data rt.segmentSize := by
      by_contra unfit
      have limited : Limited (sha256 data) data rt.segmentSize
          (computeSegmentCount data.length rt.segmentSize % 256)
          (maxLength (allSegments data rt.segmentSize)) (receiver.putInbound (newInbound later
            (advertisement sha256 rt data) source)) := by
        constructor
        · intro it same
          rw [found] at same
          cases same
          constructor
          · intro index entry stored
            cases stored
          · intro g grown
            cases grown
        intro it same
        rw [found] at same
        cases same
        exact adv
      have short := limited.short_of_received sized nonempty unfit _ received data (by
          rw [delivered]
          exact mem_singleton.mpr rfl)
      exact absurd short (lt_irrefl _)
    refine ⟨?_, fits⟩
    obtain ⟨other, otherEnded, again, handed⟩ := complete fits
      (unitDraws data rt.segmentSize) (rank_unitDraws sha256 data _)
    rw [received] at again
    cases again
    have same : [data] = if receiver.onReceive then [data] else [] := delivered.symm.trans handed
    by_contra silent
    rw [if_neg silent] at same
    cases same
  rintro ⟨registered, fits⟩ draws full
  obtain ⟨final, ended, received, delivered⟩ := complete fits draws full
  refine ⟨final, ended, received, ?_⟩
  rw [delivered]
  exact if_pos registered

/-- A sender that codes segments of `size` bytes. -/
def codedTransferOf (size : Int) : ResourceTransfer :=
  newResourceTransfer { segmentSize := size, transferTimeout := 300, rlncEnabled := true }

theorem coded_transfer_two_segments : ∃ final ended, receiveCoded firstBytes (fun _ _ => none)
        (handleAdvertisement (fun _ _ => none) 1 (codedTransferOf 2).setOnReceive
          (marshalResourceAdv (advertisement firstBytes (codedTransferOf 2) [1, 2, 3])) "mesh_0").1
        (codedArrivals firstBytes [1, 2, 3] 2 (unitDraws [1, 2, 3] 2)) = some (final, ended) ∧
      deliveries (firstBytes [1, 2, 3]) ended = [[1, 2, 3]] :=
  (coded_transfer firstBytes (fun _ _ => none) (fun _ _ => none) 0 1
    (codedTransferOf 2) _ (codedTransferOf 2).setOnReceive [1, 2, 3] _ "mesh_0"
    "mesh_0" "mesh_0" _ _ rfl (mem_singleton.mpr rfl)).mpr
      ⟨rfl, by decide, by decide, .inl (by decide)⟩
      (unitDraws [1, 2, 3] 2) (rank_unitDraws firstBytes [1, 2, 3] 2)

def largeResource : List UInt8 := List.replicate 46080 7

lemma length_allSegments_largeResource : (allSegments largeResource 180).length = 256 := by
  rw [length_allSegments, largeResource, length_replicate]
  rfl

/-- The packets of 256 segments are all refused, though they have full rank. -/
theorem coded_transfer_256_segments :
    (offer firstBytes (fun _ _ => none) 0 (codedTransferOf 180) largeResource
      "mesh_0").2.2 = .ok (firstBytes largeResource) ∧
    (coefficientMatrix (allSegments largeResource 180).length
      ((unitDraws largeResource 180).map fun drawn =>
        wholePacket firstBytes largeResource 180 drawn.1)).rank =
          (allSegments largeResource 180).length ∧ ∃ final,
      receiveCoded firstBytes (fun _ _ => none) (handleAdvertisement (fun _ _ => none) 1
          (codedTransferOf 180).setOnReceive (marshalResourceAdv
            (advertisement firstBytes (codedTransferOf 180) largeResource)) "mesh_0").1
        (codedArrivals firstBytes largeResource 180
          (unitDraws largeResource 180)) = some (final, []) := by
  refine ⟨?_, rank_unitDraws firstBytes largeResource 180, _, receiveCoded_refused ?_ _⟩
  · have small : ¬ largeResource.length > maxResourceSize := by
      rw [largeResource, length_replicate]
      decide
    rw [offer, if_neg small]
  rw [length_allSegments_largeResource]
  rfl

end MeshSat.Routing
