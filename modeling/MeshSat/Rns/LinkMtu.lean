import Mathlib
import MeshSat.Rns.Inbound

/-!
# The MTU of a link in transit

A link request may signal an MTU in its last three bytes. One in transport is cut to what the two
interfaces carry; one that is put into transport here leaves as it came.
-/

namespace MeshSat.Rns

open Library Reticulum List

def signalledMTU (data : List UInt8) : Option Nat :=
  if data.length = linkECPubSize + linkMTUSize then
    some (parseSignalling (data.drop linkECPubSize)).1
  else none

/-- An MTU that both interfaces carry, as far as that of the first is known. -/
def Carried (phMTU nhMTU : Int) (data : List UInt8) : Prop :=
  ∀ mtu, signalledMTU data = some mtu → nhMTU ≠ 0 ∧ mtu ≤ nhMTU ∧ (phMTU ≠ 0 → mtu ≤ phMTU)

/-- Where it has to be cut, the keys and the mode stay. -/
structure Clamped (phMTU nhMTU : Int) (data after : List UInt8) : Prop where
  carried : Carried phMTU nhMTU after
  rest : after = data ∨ ¬ Carried phMTU nhMTU data ∧ (after = data.take linkECPubSize ∨
    ∃ mtu, after = data.take linkECPubSize ++
      signallingBytes mtu (parseSignalling (data.drop linkECPubSize)).2)

lemma parse_signallingBytes {mtu : Nat} (mode : UInt8) (fits : mtu < 2 ^ 21) :
    (parseSignalling (signallingBytes mtu mode)).1 = mtu := by
  have high : (mode <<< 5).toNat = mode.toNat * 32 % 256 := by
    rw [UInt8.toNat_shiftLeft, Nat.shiftLeft_eq]
    rfl
  simp only [signallingBytes, parseSignalling, high, linkMTUSize]
  norm_num [valueBE, valueLE]
  omega

lemma clampMTU_clamped {phMTU nhMTU : Int} (phKnown : 0 ≤ phMTU) (nhKnown : 0 ≤ nhMTU)
    (data : List UInt8) : Clamped phMTU nhMTU data (clampMTU data nhMTU phMTU) := by
  by_cases signals : data.length = linkECPubSize + linkMTUSize
  swap
  · rw [clampMTU, if_neg signals]
    refine ⟨fun mtu signalled => ?_, .inl rfl⟩
    rw [signalledMTU, if_neg signals] at signalled
    cases signalled
  have length : (data.take linkECPubSize).length = linkECPubSize := by
    rw [length_take, signals]
    rfl
  obtain ⟨⟨path, mode⟩, parsed⟩ : ∃ parsed, parseSignalling (data.drop linkECPubSize) = parsed :=
    ⟨_, rfl⟩
  have signalled : signalledMTU data = some path := by rw [signalledMTU, if_pos signals, parsed]
  have fits : path < 2 ^ 21 := by
    rw [parseSignalling, if_neg (by rw [length_drop, signals]; decide)] at parsed
    exact (Prod.mk.inj parsed).1 ▸ Nat.mod_lt _ (by decide)
  rw [clampMTU, if_pos signals, parsed]
  dsimp only
  split
  next unknown =>
    refine ⟨fun mtu after => ?_, .inr ⟨fun carried => (carried path signalled).1 unknown, .inl rfl⟩⟩
    rw [signalledMTU, length, if_neg (by decide)] at after
    cases after
  generalize near : (if nhMTU < (path : Int) then nhMTU else path) = m
  generalize both : (if 0 < phMTU ∧ phMTU < m then phMTU else m) = least
  have bounds : 0 ≤ least ∧ least ≤ path ∧ least ≤ nhMTU ∧ (phMTU ≠ 0 → least ≤ phMTU) ∧
      (least = path ∨ least = nhMTU ∨ least = phMTU ∧ phMTU ≠ 0) := by
    split at near <;> split at both <;> omega
  split
  · refine ⟨fun mtu after => ?_, .inr ⟨fun carried => ?_, .inr ⟨least.toNat, by rw [parsed]⟩⟩⟩
    · rw [signalledMTU, if_pos (by rw [length_append, length]; rfl), drop_left' length,
        parse_signallingBytes mode (by omega)] at after
      cases after
      omega
    have := carried path signalled
    omega
  refine ⟨fun mtu after => ?_, .inl rfl⟩
  rw [signalled] at after
  cases after
  omega

/-- A packet apart from its transport header and its hop count. -/
def body (h : Header) : Header :=
  { h with
    headerType := .type1
    transportType := .broadcast
    transportID := FixedBytes.zero _
    hops := 0 }

lemma body_stripTransport (h : Header) : body (stripTransport h) = body h := by
  unfold stripTransport
  split <;> rfl

/-- A link request leaves as it came but for the transport header and the hops. One in transport has
its MTU cut; one that is put into transport here keeps the MTU it signals. -/
theorem link_mtu_clamped (r : Router) (x : LinkChecks) {m : Medium} (known : ∀ id, 0 ≤ m.hwmtu id)
    {pkt : Packet} (request : pkt.hdr.packetType = .linkRequest) (s : Sent) :
    (∀ out, r.forwardTransport x m pkt = some out → s ∈ out.2 → ∃ h : Header,
      s.raw = h.marshal ∧ body h = { body pkt.hdr with data := h.data } ∧
        Clamped (m.hwmtu pkt.iface) (m.hwmtu s.iface) pkt.hdr.data h.data) ∧
    (s ∈ (r.forwardHeader1 x pkt).2 → ∃ h : Header, s.raw = h.marshal ∧ body h = body pkt.hdr) := by
  constructor
  · intro out forwarded sent
    unfold Router.forwardTransport at forwarded
    dsimp only at forwarded
    split at forwarded
    · cases forwarded
    split at forwarded
    · cases forwarded; cases sent
    split at forwarded
    · cases forwarded; cases sent
    cases forwarded
    cases mem_singleton.mp sent
    refine ⟨_, rfl, ?_, clampMTU_clamped (known _) (known _) _⟩
    split
    · rw [← body_stripTransport pkt.hdr]
      rfl
    · rfl
  intro sent
  unfold Router.forwardHeader1 at sent
  dsimp only at sent
  split at sent
  · cases sent
  split at sent
  · cases sent
  split at sent
  · cases sent
  split at sent
  · cases sent
  cases mem_singleton.mp sent
  refine ⟨_, rfl, ?_⟩
  split <;> rfl

/-- The request of a mesh peer that signals an MTU of 65535. -/
def wideRequest : Packet where
  hdr := linkRequestHeader (FixedBytes.copy _ [1]) (replicate 64 0 ++ [0x20, 255, 255])
  hash := FixedBytes.zero _
  iface := "mesh_0"

/-- The path to its destination goes over TCP. -/
def meshRouter : Router :=
  { Router.new (FixedBytes.copy _ [2]) (FixedBytes.copy _ [3]) 0 0 ["mesh_0"] with
    paths := Keyed.empty.put ⟨FixedBytes.copy _ [1], 0, FixedBytes.copy _ [1], 1, 0, [], "tcp_0",
      none, FixedBytes.zero _, false⟩ }

def narrowMedium : Medium := { quietMedium with hwmtu := fun _ => 500 }

theorem link_mtu_clamped_narrow : ∃ s ∈ (meshRouter.forwardHeader1 noLinks wideRequest).2,
    ∃ h : Header, s.raw = h.marshal ∧ body h = body wideRequest.hdr := by
  have known : ∀ id, 0 ≤ narrowMedium.hwmtu id := fun _ => (by decide : (0 : Int) ≤ 500)
  obtain ⟨s, sent⟩ : ∃ s, s ∈ (meshRouter.forwardHeader1 noLinks wideRequest).2 :=
    exists_mem_of_ne_nil _ (by decide +kernel)
  exact ⟨s, sent, (link_mtu_clamped meshRouter noLinks known rfl s).2 sent⟩

/-- Put into transport between two interfaces of 500 bytes, it still signals 65535. -/
theorem link_mtu_not_clamped :
    (meshRouter.inbound permissiveCrypto noLinks narrowMedium wideRequest.hdr wideRequest.hash
        "mesh_0").2.map (fun s => (s.iface, s.raw)) =
        [("tcp_0", { wideRequest.hdr with hops := 1 }.marshal)] ∧
      signalledMTU wideRequest.hdr.data = some 65535 := by
  decide +kernel

end MeshSat.Rns
