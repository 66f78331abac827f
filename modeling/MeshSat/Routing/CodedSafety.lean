import MeshSat.Library.TransitionSystem
import MeshSat.Routing.Transfer

/-!
# Coded segments from anyone

The first packet of a transfer says how many segments a generation has, and
the advertisement says how long they are. Later packets bring their own
number of coefficients, which is not compared with the first one's.
-/

namespace MeshSat.Routing

open Library TransitionSystem List

namespace RLNCGeneration

/-- No packet has fewer coefficients than the generation has segments. -/
def Covered (g : RLNCGeneration) : Prop := ∀ pkt ∈ g.received, g.k ≤ pkt.coefficients.length

variable {g : RLNCGeneration} (covered : g.Covered)

include covered

/-- Payloads of different lengths are refused, and equal ones are a system. -/
lemma Covered.not_panicked : (gaussianEliminate g.heap ⟨g.received.length, g.k, 0⟩
      (List.range' 1 g.received.length)).2 ≠ .panicked := by
  by_cases same : ∃ size, ∀ pkt ∈ g.received, pkt.payload.length = size
  · obtain ⟨size, same⟩ := same
    obtain ⟨after, _, ⟨_, error, ended, _⟩ | ⟨_, result, ended, _⟩⟩ :=
      (g.linearSystem covered same).eliminated
    · rw [ended]
      exact Eliminated.noConfusion
    rw [ended]
    exact Eliminated.noConfusion
  intro panicked
  rw [gaussianEliminate] at panicked
  dsimp only at panicked
  split at panicked
  · cases panicked
  split at panicked
  · cases panicked
  split at panicked
  · cases panicked
  split at panicked
  · cases panicked
  rename_i alike
  refine same ⟨(g.heap.buffer ((List.range' 1 g.received.length).getD 0 0)).length, ?_⟩
  intro pkt member
  obtain ⟨i, inside, rfl⟩ := getElem_of_mem member
  have payload := g.buffer_payload ⟨i, inside⟩
  rcases Nat.eq_zero_or_pos i with rfl | later
  · exact congrArg length payload.symm
  have equal := find?_eq_none.mp alike i (by rw [mem_range'_1]; omega)
  rw [payload] at equal
  simpa using equal

lemma Covered.tryDecode : ∃ next answer, g.tryDecode = some (next, answer) ∧ next.Covered := by
  rw [RLNCGeneration.tryDecode]
  split
  · exact ⟨g, _, rfl, covered⟩
  split
  · exact ⟨g, _, rfl, covered⟩
  split
  · next short =>
    obtain ⟨pkt, member, less⟩ := any_eq_true.mp short
    exact absurd (of_decide_eq_true less) (Nat.not_lt.mpr (covered pkt member))
  have returns := covered.not_panicked
  rw [heap] at returns
  dsimp only
  split
  · exact ⟨_, _, rfl, covered⟩
  · exact ⟨g, _, rfl, covered⟩
  next ended => exact absurd (congrArg Prod.snd ended) returns

lemma Covered.addPacket (enough : g.k ≤ pkt.coefficients.length) : (g.addPacket pkt).1.Covered := by
  rw [RLNCGeneration.addPacket]
  split
  · exact covered
  exact forall_mem_append.mpr ⟨covered, forall_mem_singleton.mpr enough⟩

end RLNCGeneration

lemma InboundTransfer.storeDecoded_returns (i : Nat) (decoded : List (List UInt8))
    (it : InboundTransfer) (sized : it.segSize ≠ 0) :
    ∃ stored, it.storeDecoded i decoded = some stored ∧ stored.rlncGen = it.rlncGen := by
  induction decoded generalizing i it with
  | nil => exact ⟨it, rfl, rfl⟩
  | cons segData rest induction =>
    rw [storeDecoded]
    split
    · exact ⟨it, rfl, rfl⟩
    have expected : ∃ size, it.expectedSize (UInt16.ofNat i) = some size := by
      simp only [expectedSize, if_neg sized]
      split
      · exact ⟨_, rfl⟩
      · exact ⟨_, rfl⟩
    obtain ⟨size, expected⟩ := expected
    rw [expected]
    exact induction (i + 1) _ sized

variable {pkt : RLNCCodedPacket} {data : List UInt8}

lemma length_coefficients_of_unmarshal
    (read : unmarshalRLNCPacket data = .ok pkt) : pkt.coefficients.length = pkt.k.toNat := by
  rw [unmarshalRLNCPacket] at read
  dsimp only at read
  split at read
  · cases read
  split at read
  · cases read
  split at read
  · cases read
  split at read
  · cases read
  cases read
  exact length_take_of_le (by rw [length_drop]; omega)

/-! ## Runs -/

inductive Arrival
  | advertisement (now : Int) (data : List UInt8) (iface : String)
  | coded (data : List UInt8) (iface : String)

section
variable (sha256 : List UInt8 → FullHash) (sendFn : String → Header → Option String)

/-- Nothing where the source panics. -/
def execArrival (rt : ResourceTransfer) : Arrival → Option ResourceTransfer
  | .advertisement now data iface => some (handleAdvertisement sendFn now rt data iface).1
  | .coded data iface => (handleCodedSegment sha256 sendFn rt data iface).map Prod.fst

def arrivalSystem (config : ResourceTransferConfig) :
    TransitionSystem ResourceTransfer Arrival where
  initial := newResourceTransfer config
  exec := execArrival sha256 sendFn

/-- The segments of the transfer have a size, and the packet has a coefficient
for each segment of the generation. -/
def Harmless (rt : ResourceTransfer) : Arrival → Prop
  | .advertisement _ _ _ => True
  | .coded data _ => ∀ pkt it, unmarshalRLNCPacket data = .ok pkt →
      rt.inbound.get? pkt.resourceHash = some it →
        it.segSize ≠ 0 ∧ ∀ gen, it.rlncGen = some gen → gen.k ≤ pkt.k.toNat

def InboundTransfer.Covered (it : InboundTransfer) : Prop :=
  ∀ gen, it.rlncGen = some gen → gen.Covered

def ResourceTransfer.Covered (rt : ResourceTransfer) : Prop := ∀ it ∈ rt.inbound, it.Covered

variable {sha256 sendFn} {rt : ResourceTransfer} {it : InboundTransfer} {gen : RLNCGeneration}

lemma RLNCGeneration.Covered.setGen (covered : gen.Covered) : (it.setGen gen).Covered := by
  intro other same
  cases same
  exact covered

namespace ResourceTransfer.Covered

section
variable (covered : rt.Covered)

include covered

lemma put (new : it.Covered) : (rt.putInbound it).Covered := by
  exact Keyed.forall_mem_put new covered

lemma finishCoded (new : it.Covered) (iface : String) :
    (finishCoded sha256 sendFn rt it iface).1.Covered := by
  have put := covered.put new
  have deleted : ((rt.putInbound it).deleteInbound it.hash).Covered :=
    fun other member => put other (Keyed.mem_deleteWhere.mp member).1
  rw [Routing.finishCoded]
  split
  · exact put
  split
  · exact deleted
  split
  · exact deleted
  · exact deleted

lemma grown (harmless : Harmless rt (.coded data iface)) (read : unmarshalRLNCPacket data = .ok pkt)
    (known : rt.inbound.get? pkt.resourceHash = some it) :
    ((it.rlncGen.getD (newRLNCGeneration pkt.generationID pkt.k.toNat
      pkt.payload.length)).addPacket pkt).1.Covered := by
  have long := length_coefficients_of_unmarshal read
  cases gen : it.rlncGen with
  | none => exact RLNCGeneration.Covered.addPacket (fun _ none => absurd none not_mem_nil) long.ge
  | some start =>
    have few := (harmless pkt it read known).2 start gen
    exact (covered it (Keyed.mem_of_get? known) start gen).addPacket (few.trans long.ge)

lemma handleCodedSegment (harmless : Harmless rt (.coded data iface)) : ∃ outcome,
    handleCodedSegment sha256 sendFn rt data iface = some outcome ∧ outcome.1.Covered := by
  rw [Routing.handleCodedSegment]
  split
  · exact ⟨_, rfl, covered⟩
  next pkt read =>
  split
  · exact ⟨_, rfl, covered⟩
  next old known =>
  have grown := covered.grown harmless read known
  generalize (old.rlncGen.getD _).addPacket pkt = added at grown
  dsimp only
  split
  · exact ⟨_, rfl, covered.put grown.setGen⟩
  obtain ⟨next, answer, decoded, after⟩ := grown.tryDecode
  rw [decoded]
  cases answer with
  | error _ => exact ⟨_, rfl, covered.put grown.setGen⟩
  | ok segments =>
    obtain ⟨stored, storedEq, sameGen⟩ := InboundTransfer.storeDecoded_returns 0 segments
      (old.setGen next) (harmless pkt old read known).1
    dsimp only
    rw [storedEq]
    refine ⟨_, rfl, covered.finishCoded ?_ iface⟩
    rw [InboundTransfer.Covered, sameGen]
    exact after.setGen

end

end ResourceTransfer.Covered

theorem coded_segments_safe (sha256 : List UInt8 → FullHash)
    (sendFn : String → Header → Option String) (config : ResourceTransferConfig)
    (rt : ResourceTransfer) (run : (arrivalSystem sha256 sendFn config).Reaches Harmless
      (newResourceTransfer config) rt) (data : List UInt8) (iface : String)
    (harmless : Harmless rt (.coded data iface)) :
    handleCodedSegment sha256 sendFn rt data iface ≠ none := by
  have covered : rt.Covered := by
    refine run.preserves ?_ fun _ none => absurd none not_mem_nil
    intro state arrival next covered allowed executed
    cases arrival with
    | advertisement now data iface =>
      cases executed
      rw [handleAdvertisement]
      split
      · exact covered
      dsimp only
      split
      · exact covered
      refine covered.put fun gen made => ?_
      cases made
    | coded data iface =>
      obtain ⟨outcome, handled, after⟩ := covered.handleCodedSegment allowed
      obtain ⟨same, sameEq, rfl⟩ := Option.map_eq_some_iff.mp executed
      rw [handled] at sameEq
      cases sameEq
      exact after
  obtain ⟨outcome, handled, _⟩ := covered.handleCodedSegment harmless
  rw [handled]
  exact Option.some_ne_none _

/-- A packet of the transfer with the hash of zeros. -/
def zeroPacket (coefficients : List UInt8) : List UInt8 :=
  marshalRLNCPacket ⟨⟨List.replicate 32 0, rfl⟩, rlncVersion, 0, .ofNat coefficients.length,
    coefficients, [1]⟩

/-- A receiver with an advertised transfer of two segments. -/
def expecting : ResourceTransfer :=
  (handleAdvertisement (fun _ _ => none) 0 (newResourceTransfer ⟨1, 0, true⟩)
    (marshalResourceAdv ⟨⟨List.replicate 32 0, rfl⟩, 2, 1, 2⟩) "mesh_0").1

theorem coded_segments_safe_first : handleCodedSegment (fun _ => ⟨List.replicate 32 0, rfl⟩)
    (fun _ _ => none) expecting (zeroPacket [1, 0]) "mesh_0" ≠ none := by
  refine coded_segments_safe _ _ ⟨1, 0, true⟩ expecting
    (.step (.advertisement 0 _ "mesh_0") (.refl _) trivial rfl) _ _ ?_
  intro pkt it read known
  cases read
  cases known
  refine ⟨by decide, fun gen made => ?_⟩
  cases made

/-- The second packet has one coefficient where the first one had two. -/
theorem coded_segment_panics : ∃ rt effects, handleCodedSegment
      (fun _ => ⟨List.replicate 32 0, rfl⟩) (fun _ _ => none) expecting (zeroPacket [1, 0])
      "mesh_0" = some (rt, effects) ∧
    handleCodedSegment (fun _ => ⟨List.replicate 32 0, rfl⟩) (fun _ _ => none) rt
      (zeroPacket [1]) "mesh_0" = none :=
  ⟨_, _, rfl, by decide +kernel⟩

end

end MeshSat.Routing
