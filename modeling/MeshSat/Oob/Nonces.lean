import MeshSat.Oob.Inbound

/-!
# Frames sent

The two kits of a pairing use one key. The nonce of a frame is made of who
sends it, its direction and its counter. A kit's counter is a number in its
database, which grows with every frame and every start; a frame carries the
lowest 32 bits of it.
-/

namespace MeshSat.Oob

open Library TransitionSystem List Function

/-! ## The transmit counter -/

def bootCounterBump : Nat := 65536

/-- `NextOOBTxCounter`: the number is stored before a frame is sealed. -/
def nextOOBTxCounter (txCounter : Nat) : UInt32 × Nat :=
  (UInt32.ofNat (txCounter + 1), txCounter + 1)

/-- `BumpOOBTxCounters`. -/
def bumpOOBTxCounter (delta txCounter : Nat) : Nat :=
  if txCounter > 0 then txCounter + delta else txCounter

/-- A pairing: the stored counter of each side, and the frames sealed with the
key, newest first. -/
structure Pairing where
  txCounter : Role → Nat := fun _ => 0
  sent : List (Role × Frame) := []

def frameNonce (sent : Role × Frame) : List UInt8 :=
  nonce sent.2.peerID sent.1 sent.2.direction sent.2.counter

def Pairing.nonces (s : Pairing) : List (List UInt8) := s.sent.map frameNonce

/-- What a caller asks to send. -/
structure SendRequest where
  enc : Bool
  cmd : UInt8
  args : List UInt8 := []
  noReply : Bool := false
  expiresAt : UInt32 := 0

/-- One frame of the answer to a request. -/
structure ReplyChunk where
  enc : Bool
  cmd : UInt8
  args : List UInt8 := []

section
variable (cipher : Cipher) (key : List UInt8) (peerID : UInt16)

def transmit (role : Role) (frame : UInt32 → Frame) (s : Pairing) : Pairing :=
  let (counter, txCounter) := nextOOBTxCounter (s.txCounter role)
  let s := { s with txCounter := update s.txCounter role txCounter }
  if counter ≥ maxCounter then s
  else
    match sealFrame cipher (frame counter) key role with
    | .error _ => s
    | .ok _ => { s with sent := (role, frame counter) :: s.sent }

def requestFrame (req : SendRequest) (counter : UInt32) : Frame where
  enc := req.enc
  noReply := req.noReply
  peerID
  counter
  cmd := req.cmd
  args := req.args
  expiresAt := req.expiresAt

def replyFrame (chunk : ReplyChunk) (counter : UInt32) : Frame where
  enc := chunk.enc
  reply := true
  peerID
  counter
  cmd := chunk.cmd
  args := chunk.args

def Pairing.send (role : Role) (req : SendRequest) (s : Pairing) : Pairing :=
  if req.args.length > maxArgs - expiryLen then s
  else transmit cipher key role (requestFrame peerID req) s

/-- `reply`, one chunk. -/
def Pairing.reply (role : Role) (chunk : ReplyChunk) (s : Pairing) : Pairing :=
  transmit cipher key role (replyFrame peerID chunk) s

/-- `Start`. -/
def Pairing.boot (role : Role) (s : Pairing) : Pairing :=
  { s with
    txCounter := update s.txCounter role (bumpOOBTxCounter bootCounterBump (s.txCounter role)) }

inductive PairingAction where
  | send (role : Role) (req : SendRequest)
  | reply (role : Role) (chunk : ReplyChunk)
  | boot (role : Role)

def execPairing (s : Pairing) : PairingAction → Option Pairing
  | .send role req => some (s.send cipher key peerID role req)
  | .reply role chunk => some (s.reply cipher key peerID role chunk)
  | .boot role => some (s.boot role)

def pairingSystem : TransitionSystem Pairing PairingAction where
  initial := {}
  exec := execPairing cipher key peerID

end

/-! ## Counters are used once -/

/-- A frame is sent while the stored counter has 32 bits. -/
def counterInRange (s : Pairing) : PairingAction → Bool
  | .send role _ | .reply role _ => s.txCounter role < 2 ^ 32
  | .boot _ => true

structure Pairing.Fresh (s : Pairing) : Prop where
  drawn : ∀ sent ∈ s.sent, sent.2.counter.toNat ≤ s.txCounter sent.1
  nodup : s.nonces.Nodup

section
variable {cipher : Cipher} {key : List UInt8} {peerID : UInt16} {s : Pairing}

lemma toNat_nextOOBTxCounter (inRange : txCounter < 2 ^ 32)
    (nonzero : (nextOOBTxCounter txCounter).1 ≠ 0) :
    (nextOOBTxCounter txCounter).1.toNat = txCounter + 1 := by
  have fits : txCounter + 1 ≠ 2 ^ 32 := by
    intro wraps
    apply nonzero
    rw [nextOOBTxCounter, wraps]
    rfl
  exact Nat.mod_eq_of_lt (by omega)

variable {role : Role} {frame : UInt32 → Frame}

lemma Pairing.Fresh.transmit (fresh : s.Fresh)
    (counted : ∀ counter, (frame counter).counter = counter) (inRange : s.txCounter role < 2 ^ 32) :
    (transmit cipher key role frame s).Fresh := by
  have drawn : ∀ sent ∈ s.sent, sent.2.counter.toNat ≤
      update s.txCounter role (s.txCounter role + 1) sent.1 := by
    intro sent member
    refine le_trans (fresh.drawn sent member) ?_
    rw [update_apply]
    split
    next same => exact same ▸ Nat.le_succ _
    · exact le_rfl
  unfold Oob.transmit
  dsimp only
  split
  · exact ⟨drawn, fresh.nodup⟩
  split
  · exact ⟨drawn, fresh.nodup⟩
  next wire isSealed =>
  have nonzero := sealFrame_counter isSealed
  rw [counted] at nonzero
  have next := toNat_nextOOBTxCounter inRange nonzero
  constructor
  · intro sent member
    rcases mem_cons.mp member with rfl | old
    · rw [counted, next]
      dsimp only
      rw [update_self]
      exact le_rfl
    · exact drawn sent old
  refine nodup_cons.mpr ⟨fun member => ?_, fresh.nodup⟩
  obtain ⟨sent, listed, same⟩ := mem_map.mp member
  obtain ⟨_, sameRole, _, sameCounter⟩ := nonce_injective same
  have bound := fresh.drawn sent listed
  rw [sameCounter, sameRole, counted, next] at bound
  exact Nat.not_succ_le_self _ bound

lemma Pairing.txCounter_boot (role other : Role) : (s.boot role).txCounter other =
      if other = role then
        bumpOOBTxCounter bootCounterBump (s.txCounter role)
      else s.txCounter other :=
  update_apply _ _ _ _

lemma Pairing.Fresh.step {next : Pairing} (fresh : s.Fresh)
    (permitted : counterInRange s action = true)
    (executed : execPairing cipher key peerID s action = some next) : next.Fresh := by
  cases action with
  | send role req =>
    cases executed
    unfold Pairing.send
    split
    · exact fresh
    · exact fresh.transmit (fun _ => rfl) (of_decide_eq_true permitted)
  | reply role chunk =>
    cases executed
    exact fresh.transmit (fun _ => rfl) (of_decide_eq_true permitted)
  | boot role =>
    cases executed
    refine ⟨fun sent member => ?_, fresh.nodup⟩
    refine le_trans (fresh.drawn sent member) ?_
    rw [Pairing.txCounter_boot]
    split
    next same =>
      rw [same]
      unfold bumpOOBTxCounter
      split
      · exact Nat.le_add_right _ _
      · exact le_rfl
    · exact le_rfl

@[simp] lemma txCounter_transmit (role : Role) (frame : UInt32 → Frame) :
    (transmit cipher key role frame s).txCounter role = s.txCounter role + 1 := by
  unfold transmit
  dsimp only
  split
  · exact update_self _ _ _
  split
  · exact update_self _ _ _
  · exact update_self _ _ _

lemma mem_sent_transmit (member : sent ∈ s.sent) :
    sent ∈ (transmit cipher key role frame s).sent := by
  unfold transmit
  dsimp only
  split
  · exact member
  split
  · exact member
  · exact mem_cons_of_mem _ member

lemma sent_transmit_exhausted (counted : ∀ counter, (frame counter).counter = counter)
    (exhausted : 2 ^ 32 - 2 ≤ s.txCounter role) (inRange : s.txCounter role < 2 ^ 32) :
    (transmit cipher key role frame s).sent = s.sent := by
  unfold transmit
  dsimp only
  split
  · rfl
  next available =>
  split
  · rfl
  next wire isSealed =>
  have nonzero := sealFrame_counter isSealed
  rw [counted] at nonzero
  have next := toNat_nextOOBTxCounter inRange nonzero
  have below := UInt32.lt_iff_toNat_lt.mp (UInt32.not_le.mp available)
  have last : maxCounter.toNat = 2 ^ 32 - 1 := by decide
  omega

end

def PairingAction.sender? : PairingAction → Option Role
  | .send role _ | .reply role _ => some role
  | .boot _ => none

/-- No nonce is used twice.

In every run of sends, replies and starts of both sides of a pairing in which
every frame is sent while the sender's stored counter is below `2 ^ 32`, the
nonces of the frames sealed are all different; and a sender whose counter has
come to the end of the range seals nothing. -/
theorem nonces_unique {cipher : Cipher} {key : List UInt8} {peerID : UInt16} {s : Pairing}
    (run : (pairingSystem cipher key peerID).Reaches
      (fun s action => counterInRange s action = true)
      (pairingSystem cipher key peerID).initial s) : s.nonces.Nodup ∧ ∀ action next role,
      (pairingSystem cipher key peerID).exec s action = some next →
      counterInRange s action = true → action.sender? = some role →
      2 ^ 32 - 2 ≤ s.txCounter role → next.sent = s.sent := by
  have fresh : s.Fresh := run.preserves
    (fun _ _ _ fresh permitted executed => fresh.step permitted executed)
    ⟨fun _ member => (by cases member), nodup_nil⟩
  refine ⟨fresh.nodup, ?_⟩
  intro action next role executed permitted sender exhausted
  cases action with
  | send other req =>
    cases sender
    cases executed
    unfold Pairing.send
    split
    · rfl
    · exact sent_transmit_exhausted (fun _ => rfl) exhausted (of_decide_eq_true permitted)
  | reply other chunk =>
    cases sender
    cases executed
    exact sent_transmit_exhausted (fun _ => rfl) exhausted (of_decide_eq_true permitted)
  | boot other => cases sender

/-! ## Past 32 bits -/

def ping : SendRequest where
  enc := true
  cmd := 1

def samplePairing : TransitionSystem Pairing PairingAction := pairingSystem clearCipher sampleKey 9

/-- Requests and replies of both sides, across a start. -/
theorem nonces_unique_start :
    let s := samplePairing.runFrom samplePairing.initial
      [.send .issuer ping, .reply .importer { enc := true, cmd := 1 },
        .boot .issuer, .send .issuer ping, .reply .issuer { enc := true, cmd := 1 }]
    s.sent.map (fun sent => (sent.1, sent.2.counter)) =
        [(.issuer, 65539), (.issuer, 65538), (.importer, 1), (.issuer, 1)] ∧
      s.nonces.Nodup := by
  intro s
  have run : samplePairing.Reaches (fun s action => counterInRange s action = true)
      samplePairing.initial s := .of_guarded_runFrom (by decide +kernel)
  exact ⟨by decide +kernel, (nonces_unique run).1⟩

lemma exec_ping (s : Pairing) : samplePairing.exec s (.send .issuer ping) =
    some (transmit clearCipher sampleKey .issuer (requestFrame 9 ping) s) :=
  rfl

lemma execAll_pings (count : Nat) (s : Pairing) : ∃ next,
    samplePairing.execAll s (List.replicate count (.send .issuer ping)) = some next ∧
    next.txCounter .issuer = s.txCounter .issuer + count ∧ ∀ sent ∈ s.sent, sent ∈ next.sent := by
  induction count generalizing s with
  | zero => exact ⟨s, rfl, rfl, fun _ member => member⟩
  | succ count induction =>
    obtain ⟨next, executed, drawn, kept⟩ := induction
      (transmit clearCipher sampleKey .issuer (requestFrame 9 ping) s)
    refine ⟨next, ?_, ?_, ?_⟩
    · rw [replicate_succ, execAll, exec_ping, Option.bind_some]
      exact executed
    · rw [drawn, txCounter_transmit]
      omega
    · exact fun sent member => kept sent (mem_sent_transmit member)

lemma execAll_boots (count : Nat) (used : 0 < s.txCounter .issuer) : ∃ next,
    samplePairing.execAll s (List.replicate count (.boot .issuer)) = some next ∧
    next.txCounter .issuer = s.txCounter .issuer + count * bootCounterBump ∧
    next.sent = s.sent := by
  induction count generalizing s with
  | zero => exact ⟨s, rfl, by simp, rfl⟩
  | succ count induction =>
    have bumped : (s.boot .issuer).txCounter .issuer = s.txCounter .issuer + bootCounterBump := by
      rw [Pairing.txCounter_boot, if_pos rfl, bumpOOBTxCounter, if_pos used]
    obtain ⟨next, executed, counter, sent⟩ :=
      @induction (s.boot .issuer) (bumped ▸ Nat.add_pos_left used _)
    refine ⟨next, ?_, ?_, sent⟩
    · rw [replicate_succ]
      exact executed
    rw [counter, bumped, add_one_mul]
    omega

/-- One request, then starts up to the last 65536 counters, and requests from
there on. -/
def wrappingRun : List PairingAction :=
  [.send .issuer ping] ++ List.replicate 65535 (.boot .issuer) ++
    List.replicate 65535 (.send .issuer ping) ++ [.send .issuer ping]

/-- The stored counter goes on past 32 bits, and the last request is sealed
with the first one's nonce. -/
theorem nonce_reused : ∃ s, samplePairing.execAll samplePairing.initial wrappingRun = some s ∧
      ¬ s.nonces.Nodup := by
  have first : samplePairing.execAll samplePairing.initial [.send .issuer ping] = some {
        txCounter := update (fun _ => 0) .issuer 1
        sent := [(.issuer, requestFrame 9 ping 1)] } := by
    rfl
  obtain ⟨started, boots, startedCounter, startedSent⟩ := execAll_boots 65535
    (s := { txCounter := update (fun _ => 0) .issuer 1
            sent := [(.issuer, requestFrame 9 ping 1)] }) (by decide)
  obtain ⟨wrapped, pings, counter, kept⟩ := execAll_pings 65535 started
  have next : (nextOOBTxCounter (wrapped.txCounter .issuer)).1 = 1 := by
    rw [counter, startedCounter]
    rfl
  refine ⟨transmit clearCipher sampleKey .issuer (requestFrame 9 ping) wrapped, ?_, ?_⟩
  · unfold wrappingRun
    rw [execAll_append, execAll_append, execAll_append, first,
      Option.bind_some, boots, Option.bind_some, pings, Option.bind_some]
    rfl
  have again : (transmit clearCipher sampleKey .issuer (requestFrame 9 ping)
      wrapped).sent = (.issuer, requestFrame 9 ping 1) :: wrapped.sent := by
    unfold transmit
    dsimp only
    rw [next]
    rfl
  intro nodup
  rw [Pairing.nonces, again, map_cons, nodup_cons] at nodup
  apply nodup.1
  apply mem_map_of_mem
  apply kept
  rw [startedSent]
  exact mem_cons_self

end MeshSat.Oob
