import MeshSat.Dtn.Fragment
import MeshSat.Routing.Gauss
import MeshSat.Routing.ResourceWire

/-!
# Coded packets and generations

A coded packet is a linear combination of the segments of a generation with
random coefficients, and says which. A receiver collects packets until the
combinations can be undone.
-/

namespace MeshSat.Routing

open Library List

/-! ## Packets -/

def rlncVersion : UInt8 := 0x01
def rlncHashLen : Nat := 32
def rlncFixedHdrLen : Nat := rlncHashLen + 1 + 2 + 1
def rlncMinPacketLen : Nat := rlncFixedHdrLen + 1 + 1

structure RLNCCodedPacket where
  resourceHash : FullHash
  version : UInt8
  generationID : UInt16
  k : UInt8
  (coefficients payload : List UInt8)

inductive RLNCError
  | packetTooShort (got : Nat)
  | coefficientsTooShort (need k : Nat)
  | badVersion (version : UInt8)
  | badK
  | notEnough (held need : Nat)
  | notDecodable (cause : GaussError)
  deriving DecidableEq

def RLNCError.text : RLNCError → String
  | packetTooShort got =>
    s!"rlnc: packet too short: got {got} bytes, " ++ s!"need at least {rlncMinPacketLen}"
  | coefficientsTooShort need k =>
    s!"rlnc: packet too short: need {need} bytes for " ++ s!"K={k} coefficients + payload"
  | badVersion version => "rlnc: unsupported version: got 0x" ++ Dtn.hexByte version
  | badK => "rlnc: K must be > 0"
  | notEnough held need =>
    "rlnc: not enough independent packets to decode: " ++ s!"have {held} packets, need {need}"
  | notDecodable cause => "rlnc: not enough independent packets to decode: " ++ cause.text

/-- The error wraps `ErrRLNCNotDecodable`. -/
def RLNCError.isNotDecodable : RLNCError → Bool
  | notEnough _ _ | notDecodable _ => true
  | _ => false

/-- `K` bytes hold the coefficients; the payload is copied over any that run
past them. -/
def marshalRLNCPacket (pkt : RLNCCodedPacket) : List UInt8 :=
  let k := pkt.k.toNat
  pkt.resourceHash.bytes ++ [pkt.version] ++ bytesLE 2 pkt.generationID.toNat ++ [pkt.k] ++
    (pkt.coefficients ++ List.replicate k 0).take k ++ pkt.payload

def unmarshalRLNCPacket (data : List UInt8) : Except RLNCError RLNCCodedPacket :=
  if short : data.length < rlncMinPacketLen then
    .error (.packetTooShort data.length)
  else
    let version := data.getD rlncHashLen 0
    if version ≠ rlncVersion then .error (.badVersion version)
    else
      let K := data.getD (rlncHashLen + 3) 0
      if K = 0 then .error .badK
      else
        let k := K.toNat
        let coeffEnd := rlncFixedHdrLen + k
        if data.length < coeffEnd + 1 then
          .error (.coefficientsTooShort (coeffEnd + 1) k)
        else
          .ok
            { resourceHash := FullHash.copy data (by
                simp only [rlncMinPacketLen, rlncFixedHdrLen, rlncHashLen, fullHashLen] at short ⊢
                omega)
              version := version
              generationID := UInt16.ofNat (valueLE ((data.drop (rlncHashLen + 1)).take 2))
              k := K
              coefficients := (data.drop rlncFixedHdrLen).take k
              payload := data.drop coeffEnd }

section
variable (pkt : RLNCCodedPacket)

lemma length_coefficients_field :
    ((pkt.coefficients ++ List.replicate pkt.k.toNat 0).take pkt.k.toNat).length = pkt.k.toNat := by
  rw [length_take, length_append, length_replicate]
  omega

lemma marshalRLNCPacket_eq : marshalRLNCPacket pkt = [pkt.resourceHash.bytes, [pkt.version],
        bytesLE 2 pkt.generationID.toNat, [pkt.k],
        (pkt.coefficients ++ List.replicate pkt.k.toNat 0).take pkt.k.toNat,
        pkt.payload].flatten := by
  simp [marshalRLNCPacket]

lemma length_marshalRLNCPacket :
    (marshalRLNCPacket pkt).length = rlncFixedHdrLen + pkt.k.toNat + pkt.payload.length := by
  have hashLength : pkt.resourceHash.bytes.length = 32 :=
    pkt.resourceHash.length_eq
  simp only [marshalRLNCPacket, length_append, hashLength,
    length_coefficients_field, length_bytesLE, length_singleton, rlncFixedHdrLen, rlncHashLen]

lemma getD_of_take_drop {bytes : List UInt8} {position : Nat} {byte : UInt8}
    (field : (bytes.drop position).take 1 = [byte]) : bytes.getD position 0 = byte := by
  have first := congrArg List.head? field
  rw [List.head?_take, if_neg (by decide), List.head?_drop] at first
  rw [getD_eq_getElem?_getD, first]
  rfl

lemma getD_version : (marshalRLNCPacket pkt).getD rlncHashLen 0 = pkt.version := by
  apply getD_of_take_drop
  rw [marshalRLNCPacket_eq]
  refine take_drop_flatten [_] _ _ ?_ length_singleton
  rw [flatten_singleton]
  exact pkt.resourceHash.length_eq

lemma getD_k : (marshalRLNCPacket pkt).getD (rlncHashLen + 3) 0 = pkt.k := by
  have hashLength : pkt.resourceHash.bytes.length = 32 :=
    pkt.resourceHash.length_eq
  apply getD_of_take_drop
  rw [marshalRLNCPacket_eq]
  refine take_drop_flatten [_, _, _] _ _ ?_ length_singleton
  simp [hashLength, rlncHashLen]

variable {pkt} (version : pkt.version = rlncVersion)

include version

/-- A packet whose `K` is zero is refused. -/
lemma unmarshal_marshalRLNCPacket_zero (zero : pkt.k = 0) :
    ∃ error, unmarshalRLNCPacket (marshalRLNCPacket pkt) = .error error := by
  rw [unmarshalRLNCPacket]
  split
  · exact ⟨_, rfl⟩
  simp only [getD_version, version, getD_k, zero, ne_eq, not_true_eq_false, if_false, if_true]
  exact ⟨_, rfl⟩

/-- A receiver reads as many coefficients as `K` says. -/
lemma unmarshal_marshalRLNCPacket
    (some : pkt.payload ≠ []) (nonzero : pkt.k ≠ 0) : unmarshalRLNCPacket (marshalRLNCPacket pkt) =
      .ok { pkt with
        coefficients := (pkt.coefficients ++ List.replicate pkt.k.toNat 0).take pkt.k.toNat } := by
  have hashLength : pkt.resourceHash.bytes.length = 32 :=
    pkt.resourceHash.length_eq
  have payloadLength := length_pos_iff.mpr some
  have positive : 0 < pkt.k.toNat := by
    apply Nat.pos_of_ne_zero
    intro zero
    exact nonzero (UInt8.toNat_inj.mp zero)
  have generation : ((marshalRLNCPacket pkt).drop (rlncHashLen + 1)).take 2 =
      bytesLE 2 pkt.generationID.toNat := by
    rw [marshalRLNCPacket_eq]
    exact take_drop_flatten [_, _] _ _ (by simp [hashLength, rlncHashLen]) (by simp)
  have coefficients : ((marshalRLNCPacket pkt).drop rlncFixedHdrLen).take pkt.k.toNat =
        (pkt.coefficients ++ List.replicate pkt.k.toNat 0).take
          pkt.k.toNat := by
    rw [marshalRLNCPacket_eq]
    exact take_drop_flatten [_, _, _, _] _ _ (by simp [hashLength, rlncFixedHdrLen, rlncHashLen])
      (length_coefficients_field pkt)
  have payload : (marshalRLNCPacket pkt).drop (rlncFixedHdrLen + pkt.k.toNat) = pkt.payload := by
    rw [marshalRLNCPacket]
    apply drop_left'
    simp only [length_append, hashLength, length_coefficients_field,
      length_bytesLE, length_singleton, rlncFixedHdrLen, rlncHashLen]
  have hash : ∀ enough, FullHash.copy (marshalRLNCPacket pkt) enough = pkt.resourceHash := by
    rw [marshalRLNCPacket]
    simp only [append_assoc]
    exact FullHash.copy_append _ _
  have read : valueLE (bytesLE 2 pkt.generationID.toNat) =
      pkt.generationID.toNat := valueLE_bytesLE_of_lt pkt.generationID.toNat_lt
  have long : ¬ (marshalRLNCPacket pkt).length < rlncMinPacketLen := by
    rw [length_marshalRLNCPacket, rlncMinPacketLen]
    omega
  have filled : ¬ (marshalRLNCPacket pkt).length < rlncFixedHdrLen + pkt.k.toNat + 1 := by
    rw [length_marshalRLNCPacket]
    omega
  rw [unmarshalRLNCPacket, dif_neg long]
  simp only [getD_version, version, getD_k, ne_eq, not_true_eq_false, if_false,
    nonzero, filled, hash, generation, coefficients, payload, read, UInt16.ofNat_toNat]

end

/-! ## Encoding -/

/-- The loop that looks for a coefficient that is not zero. -/
def ensureNonZero (coefficients : List UInt8) : List UInt8 :=
  if coefficients.all fun c => c == 0 then coefficients.set 0 1
  else coefficients

def addSegment (coefficient : UInt8) (padded payload : List UInt8) : List UInt8 :=
  if coefficient = 0 then payload
  else
    List.zipWith (fun p s => gfAdd p (gfMul coefficient s)) payload padded

def maxLength (segments : List (List UInt8)) : Nat :=
  segments.foldl (fun size seg => if seg.length > size then seg.length else size) 0

def padSegment (payloadSize : Nat) (seg : List UInt8) : List UInt8 :=
  seg ++ List.replicate (payloadSize - seg.length) 0

section
variable (genID : UInt16) (resourceHash : FullHash) (segments : List (List UInt8))

/-- One turn of the loop in `EncodeGeneration`, with the random bytes drawn
for its coefficients. -/
def encodePacket (draw : Fin segments.length → UInt8) : RLNCCodedPacket :=
  let payloadSize := maxLength segments
  let padded := segments.map (padSegment payloadSize)
  let coefficients := ensureNonZero (List.ofFn draw)
  { resourceHash := resourceHash
    version := rlncVersion
    generationID := genID
    k := UInt8.ofNat segments.length
    coefficients := coefficients
    payload :=
      (List.range segments.length).foldl (fun payload j =>
          addSegment (coefficients.getD j 0) (padded.getD j []) payload)
        (List.replicate payloadSize 0) }

/-- As many packets as there are draws; the source makes
`ceil(K * redundancy)`. -/
def encodeGeneration (draws : List (Fin segments.length → UInt8)) : List RLNCCodedPacket :=
  if segments.length = 0 then []
  else draws.map (encodePacket genID resourceHash segments)

end

lemma length_ensureNonZero (coefficients : List UInt8) :
    (ensureNonZero coefficients).length = coefficients.length := by
  rw [ensureNonZero]
  split
  · exact length_set
  · rfl

variable {seg : List UInt8}

lemma length_le_maxLength (member : seg ∈ segments) : seg.length ≤ maxLength segments := by
  have bounds : ∀ (rest : List (List UInt8)) (start : Nat), start ≤ rest.foldl (fun size seg =>
        if seg.length > size then seg.length else size) start ∧
      ∀ seg ∈ rest, seg.length ≤ rest.foldl (fun size seg =>
        if seg.length > size then seg.length else size) start := by
    intro rest
    induction rest with
    | nil =>
      intro start
      exact ⟨le_rfl, fun seg none => absurd none not_mem_nil⟩
    | cons first rest induction =>
      intro start
      rw [foldl_cons]
      obtain ⟨above, all⟩ := induction (if first.length > start then first.length else start)
      have larger : start ≤ (if first.length > start then first.length
          else start) ∧ first.length ≤ (if first.length > start then
            first.length else start) := by
        split <;> omega
      refine ⟨by omega, ?_⟩
      intro seg member
      rcases mem_cons.mp member with rfl | later
      · omega
      · exact all seg later
  exact (bounds segments 0).2 seg member

lemma length_padSegment (short : seg.length ≤ size) : (padSegment size seg).length = size := by
  rw [padSegment, length_append, length_replicate]
  omega

/-! ## Decoding -/

structure RLNCGeneration where
  id : UInt16
  (k payloadSize : Nat)
  received : List RLNCCodedPacket
  decoded : Bool
  decodedData : List (List UInt8)

def newRLNCGeneration (id : UInt16) (k payloadSize : Nat) : RLNCGeneration :=
  { id := id
    k := k
    payloadSize := payloadSize
    received := []
    decoded := false
    decodedData := [] }

def RLNCGeneration.addPacket (g : RLNCGeneration) (pkt : RLNCCodedPacket) : RLNCGeneration × Bool :=
  if g.decoded then (g, true)
  else
    let g := { g with received := g.received ++ [pkt] }
    (g, decide (g.received.length ≥ g.k))

/-- Nothing where the source panics: a packet with fewer coefficients than the
generation's first one, or the inverse of zero. -/
def RLNCGeneration.tryDecode (g : RLNCGeneration) :
    Option (RLNCGeneration × Except RLNCError (List (List UInt8))) :=
  if g.decoded then some (g, .ok g.decodedData)
  else if g.received.length < g.k then
    some (g, .error (.notEnough g.received.length g.k))
  else if g.received.any fun pkt => pkt.coefficients.length < g.k then none
  else
    let n := g.received.length
    let coeffs := g.received.flatMap fun pkt => pkt.coefficients.take g.k
    let payloads := g.received.map fun pkt => pkt.payload
    match gaussianEliminate ⟨coeffs :: payloads⟩ ⟨n, g.k, 0⟩ (List.range' 1 n) with
    | (heap, .returned result) =>
      let decoded := result.map heap.buffer
      some ({ g with decoded := true, decodedData := decoded }, .ok decoded)
    | (_, .failed error) => some (g, .error (.notDecodable error))
    | (_, .panicked) => none

open RLNCGeneration

/-! ## What a generation decodes to -/

noncomputable def coefficientMatrix (k : Nat) (packets : List RLNCCodedPacket) :
    Matrix (Fin packets.length) (Fin k) GF256 :=
  fun i c => GF256.ofByte (packets[i].coefficients.getD c.val 0)

structure RLNCCodedPacket.Sized (k size : Nat) (pkt : RLNCCodedPacket) : Prop where
  length_coefficients : pkt.coefficients.length = k
  length_payload : pkt.payload.length = size

structure RLNCCodedPacket.Combines {k size : Nat}
    (X : Fin k → Fin size → UInt8) (pkt : RLNCCodedPacket) : Prop extends pkt.Sized k size where
  payload_eq : ∀ j : Fin size, GF256.ofByte (pkt.payload.getD j.val 0) =
    ∑ c : Fin k, GF256.ofByte (pkt.coefficients.getD c.val 0) * GF256.ofByte (X c j)

section
variable {g : RLNCGeneration} {size : Nat} {X : Fin g.k → Fin size → UInt8}

namespace RLNCGeneration

/-- The buffers `TryDecode` builds. -/
def heap (g : RLNCGeneration) : Heap :=
  ⟨(g.received.flatMap fun pkt => pkt.coefficients.take g.k) ::
    g.received.map fun pkt => pkt.payload⟩

lemma buffer_payload (i : Fin g.received.length) :
    g.heap.buffer ((List.range' 1 g.received.length).getD i.val 0) = g.received[i].payload := by
  have address : (List.range' 1 g.received.length).getD i.val 0 = i.val + 1 := by
    rw [getD_eq_getElem _ _ (by
      rw [length_range']
      exact i.isLt), getElem_range', one_mul, add_comm]
  rw [address]
  simp [heap, Buffers.buffer, getD_eq_getElem?_getD]

section
variable (enough : ∀ pkt ∈ g.received, g.k ≤ pkt.coefficients.length)

include enough

lemma length_row :
    ∀ row ∈ g.received.map fun pkt => pkt.coefficients.take g.k, row.length = g.k := by
  intro row member
  obtain ⟨pkt, received, rfl⟩ := mem_map.mp member
  rw [length_take]
  exact Nat.min_eq_left (enough pkt received)

lemma linearSystem (same : ∀ pkt ∈ g.received, pkt.payload.length = size) :
    LinearSystem g.heap ⟨g.received.length, g.k, 0⟩ (List.range' 1 g.received.length) size := by
  constructor
  · exact Nat.zero_lt_succ _
  · show ((g.received.flatMap fun pkt => pkt.coefficients.take g.k)).length = _
    rw [flatMap_def, length_flatten,
      map_congr_left (length_row enough), map_const', sum_replicate, length_map, smul_eq_mul]
  · rw [length_range']
  · intro address member
    rw [mem_range'_1] at member
    show address < (_ :: List.map _ g.received).length
    rw [length_cons, length_map]
    omega
  intro address member
  obtain ⟨i, inside, rfl⟩ := getElem_of_mem member
  rw [length_range'] at inside
  have payload := g.buffer_payload ⟨i, inside⟩
  rw [getD_eq_getElem _ _ (by rwa [length_range'])] at payload
  rw [payload]
  exact same _ (getElem_mem inside)

end

lemma coefficients_eq (sized : ∀ pkt ∈ g.received, pkt.Sized g.k size) :
    coefficients g.heap ⟨g.received.length, g.k, 0⟩ = coefficientMatrix g.k g.received := by
  have pieces := map_piece_flatten
    (length_row fun pkt received => (sized pkt received).length_coefficients.ge)
  rw [length_map] at pieces
  funext i c
  have row : piece g.k (g.received.map fun pkt =>
      pkt.coefficients.take g.k).flatten i.val =
      g.received[i].coefficients.take g.k := by
    have same := congrArg (fun all => all[i.val]?) pieces
    simpa using same
  show GF256.ofByte (Buffers.read g.heap 0 (i.val * g.k + c.val)) = _
  rw [coefficientMatrix]
  congr 1
  have entry := congrArg (fun bytes => bytes.getD c.val 0) row
  simp only [piece, getD_eq_getElem?_getD, List.getElem?_take,
    List.getElem?_drop, c.isLt, if_true] at entry
  rw [getD_eq_getElem?_getD, ← entry, ← flatMap_def]
  simp only [Buffers.read, Buffers.buffer, heap,
    getD_eq_getElem?_getD, List.getElem?_cons_zero, Option.getD_some]
  rfl

lemma solution (combines : ∀ pkt ∈ g.received, pkt.Combines X) :
    Solution g.heap ⟨g.received.length, g.k, 0⟩ (List.range' 1 g.received.length) size X := by
  intro i j
  rw [g.coefficients_eq fun pkt among => (combines pkt among).toSized,
    Buffers.read, g.buffer_payload i]
  exact (combines _ (getElem_mem i.isLt)).payload_eq j

/-- A generation whose packets combine the same payloads decodes to them once
its packets have full rank, and fails before. -/
lemma tryDecode_cases {k : Nat} {X : Fin k → Fin size → UInt8} (counted : g.k = k)
    (undecoded : g.decoded = false) (combines : ∀ pkt ∈ g.received, pkt.Combines X) :
    ((coefficientMatrix k g.received).rank < k ∧
      ∃ error, error.isNotDecodable = true ∧ g.tryDecode = some (g, .error error)) ∨
    ((coefficientMatrix k g.received).rank = k ∧ g.tryDecode = some ({ g with
            decoded := true
            decodedData := List.ofFn fun c => List.ofFn (X c) },
          .ok (List.ofFn fun c => List.ofFn (X c)))) := by
  subst counted
  have enough : (g.received.any fun pkt =>
      decide (pkt.coefficients.length < g.k)) = false := by
    rw [any_eq_false]
    intro pkt received
    rw [(combines pkt received).length_coefficients]
    simp
  have height := (coefficientMatrix g.k g.received).rank_le_height
  have sized : ∀ pkt ∈ g.received, pkt.Sized g.k size :=
    fun pkt among => (combines pkt among).toSized
  obtain ⟨after, _, ends⟩ := (g.linearSystem
    (fun pkt among => (sized pkt among).length_coefficients.ge)
    fun pkt among => (sized pkt among).length_payload).eliminated
  rw [g.coefficients_eq sized] at ends
  rw [tryDecode, undecoded]
  by_cases few : g.received.length < g.k
  · left
    refine ⟨by omega, .notEnough g.received.length g.k, rfl, ?_⟩
    rw [if_neg Bool.false_ne_true, if_pos few]
  rw [if_neg Bool.false_ne_true, if_neg few, enough, if_neg Bool.false_ne_true]
  rcases ends with ⟨less, error, ended, _⟩ | ⟨full, result, ended, _, solved⟩
  · left
    refine ⟨less, .notDecodable error, rfl, ?_⟩
    rw [heap] at ended
    dsimp only
    rw [ended]
  right
  refine ⟨full, ?_⟩
  rw [← solved X (g.solution combines)]
  rw [heap] at ended
  dsimp only
  rw [ended]

lemma tryDecode_ok (undecoded : g.decoded = false)
    (sized : ∀ pkt ∈ g.received, pkt.Sized g.k size) {next : RLNCGeneration}
    {decoded : List (List UInt8)} (solved : g.tryDecode = some (next, .ok decoded)) :
    decoded.length = g.k ∧
      next = { g with decoded := true, decodedData := decoded } := by
  obtain ⟨after, _, ends⟩ := (g.linearSystem
    (fun pkt among => (sized pkt among).length_coefficients.ge)
    fun pkt among => (sized pkt among).length_payload).eliminated
  rw [tryDecode, undecoded, if_neg Bool.false_ne_true] at solved
  split at solved
  · cases solved
  split at solved
  · cases solved
  dsimp only at solved
  rcases ends with ⟨_, error, ended, _⟩ | ⟨_, result, ended, count, _⟩
  · rw [heap] at ended
    rw [ended] at solved
    cases solved
  rw [heap] at ended
  rw [ended] at solved
  cases solved
  exact ⟨(length_map _).trans count, rfl⟩

lemma foldl_addPacket (undecoded : g.decoded = false) (packets : List RLNCCodedPacket) :
    packets.foldl (fun g pkt => (g.addPacket pkt).1) g =
      { g with received := g.received ++ packets } := by
  induction packets generalizing g with
  | nil => rw [foldl_nil, append_nil]
  | cons pkt rest induction =>
    have added : (g.addPacket pkt).1 = { g with received := g.received ++ [pkt] } := by
      rw [addPacket, undecoded]
      rfl
    have later := @induction { g with received := g.received ++ [pkt] } undecoded
    rw [foldl_cons, added, later, append_assoc]
    rfl

end RLNCGeneration

end

/-! ## Packets of a generation -/

section
variable (segments : List (List UInt8))

/-- The padded segments, which the packets of a generation combine. -/
def paddedSegments (c : Fin segments.length) (j : Fin (maxLength segments)) : UInt8 :=
  (padSegment (maxLength segments) segments[c]).getD j.val 0

lemma getD_map_pad (c : Fin segments.length) :
    (segments.map (padSegment (maxLength segments))).getD c.val [] =
    padSegment (maxLength segments) segments[c] := by
  rw [getD_eq_getElem?_getD, List.getElem?_map, List.getElem?_eq_getElem c.isLt]
  rfl

lemma addSegment_spec (coefficient : UInt8) (same : padded.length = payload.length) :
    (addSegment coefficient padded payload).length = payload.length ∧ ∀ j < payload.length,
        GF256.ofByte ((addSegment coefficient padded payload).getD j 0) =
          GF256.ofByte (payload.getD j 0) +
            GF256.ofByte coefficient * GF256.ofByte (padded.getD j 0) := by
  rw [addSegment]
  split
  next zero =>
    refine ⟨rfl, ?_⟩
    intro j _
    rw [zero, GF256.ofByte_zero, zero_mul, add_zero]
  · have length : (List.zipWith (fun p s => gfAdd p (gfMul coefficient s))
        payload padded).length = payload.length := by
      rw [length_zipWith, same, Nat.min_self]
    refine ⟨length, ?_⟩
    intro j inside
    rw [getD_eq_getElem payload _ inside, getD_eq_getElem padded _ (by rw [same]; exact inside),
      getD_eq_getElem _ _ (by rw [length]; exact inside),
      getElem_zipWith, GF256.ofByte_gfAdd, GF256.ofByte_gfMul]

lemma payload_foldl (coefficients : List UInt8) {count : Nat} (bounded : count ≤ segments.length) :
    let payload := (List.range count).foldl (fun payload j =>
        addSegment (coefficients.getD j 0)
          ((segments.map (padSegment (maxLength segments))).getD j []) payload)
      (List.replicate (maxLength segments) 0)
    payload.length = maxLength segments ∧ ∀ j < maxLength segments,
        GF256.ofByte (payload.getD j 0) =
          ∑ c ∈ Finset.range count, GF256.ofByte (coefficients.getD c 0) *
            GF256.ofByte (((segments.map
              (padSegment (maxLength segments))).getD c []).getD j 0) := by
  induction count with
  | zero =>
    refine ⟨length_replicate, ?_⟩
    intro j inside
    rw [range_zero, foldl_nil, Finset.sum_range_zero,
      getD_eq_getElem?_getD, List.getElem?_replicate_of_lt inside,
      Option.getD_some, GF256.ofByte_zero]
  | succ count induction =>
    obtain ⟨length, values⟩ := induction (by omega)
    have inside : count < segments.length := bounded
    have padded : ((segments.map (padSegment (maxLength segments))).getD
        count []).length = maxLength segments := by
      rw [getD_map_pad segments ⟨count, inside⟩]
      exact length_padSegment (length_le_maxLength (getElem_mem inside))
    simp only [range_succ, foldl_append, foldl_cons, foldl_nil]
    obtain ⟨kept, added⟩ := addSegment_spec (coefficients.getD count 0) (padded.trans length.symm)
    refine ⟨kept.trans length, ?_⟩
    intro j within
    rw [added j (by rw [length]; exact within), values j within, Finset.sum_range_succ]

lemma encodePacket_combines (genID : UInt16) (hash : FullHash)
    (draw : Fin segments.length → UInt8) : (encodePacket genID hash segments draw).Combines
      (paddedSegments segments) := by
  obtain ⟨length, values⟩ := payload_foldl segments
    (ensureNonZero (List.ofFn draw)) (Nat.le_refl segments.length)
  constructor
  · constructor
    · rw [encodePacket, length_ensureNonZero, length_ofFn]
    · exact length
  intro j
  have value := values j.val j.isLt
  rw [Finset.sum_range] at value
  refine value.trans ?_
  apply Finset.sum_congr rfl
  intro c _
  rw [getD_map_pad segments c]
  rfl

lemma ofFn_paddedSegments : (List.ofFn fun c => List.ofFn (paddedSegments segments c)) =
    segments.map (padSegment (maxLength segments)) := by
  apply ext_getElem
  · rw [length_ofFn, length_map]
  intro c inside within
  rw [length_ofFn] at inside
  have length := length_padSegment (length_le_maxLength (getElem_mem inside))
  rw [List.getElem_ofFn, List.getElem_map]
  apply ext_getElem
  · rw [length_ofFn, length]
  intro j _ within
  rw [List.getElem_ofFn, paddedSegments]
  exact getD_eq_getElem _ _ within

variable {segments}

lemma unmarshal_encodePacket (few : segments.length ≤ 255) (long : 0 < maxLength segments)
    (genID : UInt16) (hash : FullHash) (draw : Fin segments.length → UInt8) :
    unmarshalRLNCPacket (marshalRLNCPacket (encodePacket genID hash segments draw)) =
    .ok (encodePacket genID hash segments draw) := by
  have combines := encodePacket_combines segments genID hash draw
  have k : (encodePacket genID hash segments draw).k.toNat = segments.length :=
    UInt8.toNat_ofNat_of_lt' (show _ < 256 by omega)
  rw [unmarshal_marshalRLNCPacket rfl]
  · rw [k, take_left' combines.length_coefficients]
  · rw [← length_pos_iff, combines.length_payload]
    exact long
  intro zero
  rw [zero, UInt8.toNat_zero] at k
  rw [length_eq_zero_iff.mp k.symm] at long
  exact absurd long (Nat.lt_irrefl 0)

lemma packets_of_arrivals {genID : UInt16} {hash : FullHash} (few : segments.length ≤ 255)
    (long : 0 < maxLength segments) {draws : List (Fin segments.length → UInt8)}
    {arrivals : List (List UInt8)} (sent : ∀ bytes ∈ arrivals,
      bytes ∈ (encodeGeneration genID hash segments draws).map marshalRLNCPacket) :
    ∃ packets : List RLNCCodedPacket, arrivals.map unmarshalRLNCPacket = packets.map .ok ∧
      ∀ pkt ∈ packets, pkt.Combines (paddedSegments segments) := by
  induction arrivals with
  | nil => exact ⟨[], rfl, fun _ none => absurd none not_mem_nil⟩
  | cons bytes rest induction =>
    obtain ⟨packets, read, combine⟩ :=
      induction fun other later => sent other (mem_cons_of_mem _ later)
    obtain ⟨pkt, made, rfl⟩ := mem_map.mp (sent bytes mem_cons_self)
    rw [encodeGeneration] at made
    split at made
    · cases made
    obtain ⟨draw, -, rfl⟩ := mem_map.mp made
    refine ⟨encodePacket genID hash segments draw :: packets, ?_, ?_⟩
    · rw [map_cons, map_cons, unmarshal_encodePacket few long, read]
    · exact forall_mem_cons.mpr ⟨encodePacket_combines segments genID hash draw, combine⟩

theorem generation_decodes (genID : UInt16) (hash : FullHash) (segments : List (List UInt8))
    (few : segments.length ≤ 255) (some : segments ≠ []) (nonempty : ∀ seg ∈ segments, seg ≠ [])
    (draws : List (Fin segments.length → UInt8)) (arrivals : List (List UInt8))
    (sent : ∀ bytes ∈ arrivals,
      bytes ∈ (encodeGeneration genID hash segments draws).map marshalRLNCPacket) :
    ∃ packets : List RLNCCodedPacket, arrivals.map unmarshalRLNCPacket = packets.map .ok ∧
      let g := packets.foldl (fun g pkt => (g.addPacket pkt).1)
        (newRLNCGeneration genID segments.length (maxLength segments))
      ((coefficientMatrix segments.length packets).rank < segments.length ∧
        ∃ error, g.tryDecode = .some (g, .error error) ∧ error.isNotDecodable) ∨
      ((coefficientMatrix segments.length packets).rank = segments.length ∧
        ∃ done, g.tryDecode = .some (done, .ok (segments.map (padSegment (maxLength segments)))) ∧
          ∀ pkt, (done.addPacket pkt).1.tryDecode =
            .some (done, .ok (segments.map (padSegment (maxLength segments))))) := by
  have long : 0 < maxLength segments := by
    obtain ⟨seg, member⟩ := exists_mem_of_ne_nil segments some
    exact (length_pos_iff.mpr (nonempty seg member)).trans_le (length_le_maxLength member)
  obtain ⟨packets, read, combine⟩ := packets_of_arrivals few long sent
  refine ⟨packets, read, ?_⟩
  intro g
  have grown : g = { newRLNCGeneration genID segments.length (maxLength segments) with
      received := packets } := foldl_addPacket rfl packets
  rw [grown]
  rcases tryDecode_cases (g := { newRLNCGeneration genID segments.length
      (maxLength segments) with received := packets }) (k := segments.length) rfl rfl combine with
    ⟨less, error, wraps, failed⟩ | ⟨full, solved⟩
  · exact .inl ⟨less, error, failed, wraps⟩
  rw [ofFn_paddedSegments] at solved
  exact .inr ⟨full, _, solved, fun _ => rfl⟩

theorem generation_decodes_pair : ∃ packets : List RLNCCodedPacket,
    ((encodeGeneration 0 ⟨List.replicate 32 0, rfl⟩ [[1], [2, 3]] [fun _ => 1, fun _ => 1]).map
      marshalRLNCPacket).map unmarshalRLNCPacket = packets.map .ok := by
  obtain ⟨packets, read, -⟩ := generation_decodes 0 _ [[1], [2, 3]] (by decide)
    (by decide) (by decide) [fun _ => 1, fun _ => 1] _ fun _ member => member
  exact ⟨packets, read⟩

end

end MeshSat.Routing
