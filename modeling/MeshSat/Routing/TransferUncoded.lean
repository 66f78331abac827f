import MeshSat.Routing.Transfer

/-!
# Transfers of plain segments

A receiver that got an advertisement handles segment packets in the order they
come. It hands over at most one resource for the transfer, always one with the
advertised hash; and where the packets are those the sender made, it hands over
the offered resource once each of them has come.
-/

namespace MeshSat.Routing

open Library List Keyed

/-! ## What is handed over -/

section
variable (hash : FullHash) (effects : List Effect)

def callbacks : List (List UInt8) :=
  effects.filterMap fun
    | .received named data _ => if named = hash then some data else none
    | _ => none

def results : List (List UInt8) :=
  effects.filterMap fun
    | .result named data => if named = hash then some data else none
    | _ => none

end

section
variable (hash : FullHash)

@[simp] lemma callbacks_nil : callbacks hash [] = [] :=
  rfl

@[simp] lemma results_nil : results hash [] = [] :=
  rfl

@[simp] lemma callbacks_append (first second : List Effect) :
    callbacks hash (first ++ second) = callbacks hash first ++ callbacks hash second :=
  filterMap_append

@[simp] lemma results_append (first second : List Effect) :
    results hash (first ++ second) = results hash first ++ results hash second :=
  filterMap_append

variable (sendFn : String → Header → Option String)

@[simp] lemma callbacks_sendOne (iface : String) (packet : Header) :
    callbacks hash (sendOne sendFn iface packet) = [] := by
  rw [sendOne]
  split <;> rfl

@[simp] lemma results_sendOne (iface : String) (packet : Header) :
    results hash (sendOne sendFn iface packet) = [] := by
  rw [sendOne]
  split <;> rfl

section
variable (rt : ResourceTransfer) (named : FullHash) (data : List UInt8) (iface : String)

lemma callbacks_announceReceived : callbacks hash (announceReceived sendFn rt named data iface) =
    if rt.onReceive ∧ named = hash then [data] else [] := by
  rw [announceReceived, callbacks_append, callbacks_sendOne, append_nil]
  by_cases registered : rt.onReceive = true
  · by_cases same : named = hash
    · simp [callbacks, registered, same]
    · simp [callbacks, registered, same]
  · simp [registered]

@[simp] lemma results_announceReceived :
    results hash (announceReceived sendFn rt named data iface) = [] := by
  rw [announceReceived, results_append, results_sendOne, append_nil]
  split <;> rfl

end

end

/-! ## Inbound transfers of one hash -/

section
variable (rt : ResourceTransfer)

lemma get?_putInbound (it : InboundTransfer) (hash : FullHash) :
    (rt.putInbound it).inbound.get? hash =
      if hash = it.hash then some it else rt.inbound.get? hash :=
  get?_put rt.inbound it hash

lemma get?_deleteInbound_self (hash : FullHash) :
    (rt.deleteInbound hash).inbound.get? hash = none := by
  rw [ResourceTransfer.deleteInbound, get?_deleteWhere]
  cases found : rt.inbound.get? hash with
  | none => rfl
  | some it => simp [Option.filter, key_of_get? found]

lemma get?_deleteInbound_ne {hash other : FullHash} (different : other ≠ hash) :
    (rt.deleteInbound hash).inbound.get? other = rt.inbound.get? other := by
  rw [ResourceTransfer.deleteInbound, get?_deleteWhere]
  cases found : rt.inbound.get? other with
  | none => rfl
  | some it => simp [Option.filter, key_of_get? found, different]

end

/-! ## One segment -/

section
variable (sha256 : List UInt8 → FullHash) (sendFn : String → Header → Option String)

/-- What the handling of a segment packet can do. -/
inductive SegmentStep (rt : ResourceTransfer) (data : List UInt8)
    (iface : String) : ResourceTransfer → List Effect → Prop
  | ignored (unknown : ∀ seg, unmarshalResourceSegment data = .ok seg →
        rt.inbound.get? seg.resourceHash = none) : SegmentStep rt data iface rt []
  | stored {seg : ResourceSegment} {old : InboundTransfer}
      (read : unmarshalResourceSegment data = .ok seg)
      (found : rt.inbound.get? seg.resourceHash = some old) (unfinished : bitmapAllClear
          (old.store seg.segmentIndex seg.data).bitmap = true →
        ∀ result, (old.store seg.segmentIndex seg.data).reassemble =
          some result → sha256 result ≠ seg.resourceHash) : SegmentStep rt data iface
        (rt.putInbound (old.store seg.segmentIndex seg.data)) []
  | completed {seg : ResourceSegment} {old : InboundTransfer} {result : List UInt8}
      (read : unmarshalResourceSegment data = .ok seg)
      (found : rt.inbound.get? seg.resourceHash = some old) (clear : bitmapAllClear
        (old.store seg.segmentIndex seg.data).bitmap = true)
      (assembled : (old.store seg.segmentIndex seg.data).reassemble = some result)
      (hashed : sha256 result = seg.resourceHash) : SegmentStep rt data iface
        ((rt.putInbound (old.store seg.segmentIndex seg.data)).deleteInbound seg.resourceHash)
        (announceReceived sendFn (rt.putInbound (old.store seg.segmentIndex seg.data))
            seg.resourceHash result iface ++ [.result seg.resourceHash result])

lemma handleSegment_step (rt : ResourceTransfer) (data : List UInt8) (iface : String) :
    SegmentStep sha256 sendFn rt data iface (handleSegment sha256 sendFn rt data iface).1
      (handleSegment sha256 sendFn rt data iface).2 := by
  rw [handleSegment]
  cases read : unmarshalResourceSegment data with
  | error error =>
    apply SegmentStep.ignored
    intro seg ok
    rw [read] at ok
    cases ok
  | ok seg =>
    dsimp only
    cases found : rt.inbound.get? seg.resourceHash with
    | none =>
      apply SegmentStep.ignored
      intro other ok
      rw [read] at ok
      cases ok
      exact found
    | some old =>
      have named : old.hash = seg.resourceHash := key_of_get? found
      have key : (old.store seg.segmentIndex seg.data).hash = seg.resourceHash := named
      dsimp only
      rw [key]
      split
      next clear =>
        split
        next missing =>
          apply SegmentStep.stored read found
          intro _ result assembled
          rw [missing] at assembled
          cases assembled
        rename_i result assembled
        split
        next mismatch =>
          apply SegmentStep.stored read found
          intro _ other again
          rw [assembled] at again
          cases again
          exact mismatch
        next hashed =>
          exact SegmentStep.completed read found clear assembled (not_not.mp hashed)
      rename_i waiting
      apply SegmentStep.stored read found
      intro clear
      exact absurd clear waiting

def receiveSegments : ResourceTransfer → List (List UInt8 × String) → ResourceTransfer × List Effect
  | rt, [] => (rt, [])
  | rt, (data, iface) :: rest =>
    let (next, effects) := handleSegment sha256 sendFn rt data iface
    let (final, later) := receiveSegments next rest
    (final, effects ++ later)

/-- One resource was handed over for a hash, through the channel and to the
callback if there is one. -/
structure HandedOver (onReceive : Bool) (hash : FullHash)
    (effects : List Effect) (result : List UInt8) : Prop where
  hash_eq : sha256 result = hash
  callbacks_eq : callbacks hash effects = if onReceive then [result] else []
  results_eq : results hash effects = [result]

/-- Nothing was handed over for a hash. -/
structure Silent (hash : FullHash) (effects : List Effect) : Prop where
  callbacks_eq : callbacks hash effects = []
  results_eq : results hash effects = []

variable {sha256 sendFn} {rt next : ResourceTransfer} {data : List UInt8}
  {iface : String} {effects later : List Effect} {hash : FullHash}

lemma Silent.append (silent : Silent hash effects) (still : Silent hash later) :
    Silent hash (effects ++ later) := by
  constructor
  · rw [callbacks_append, silent.callbacks_eq, still.callbacks_eq, append_nil]
  · rw [results_append, silent.results_eq, still.results_eq, append_nil]

lemma Silent.handedOver (silent : Silent hash effects)
    (closing : HandedOver sha256 onReceive hash later data) :
    HandedOver sha256 onReceive hash (effects ++ later) data := by
  refine ⟨closing.hash_eq, ?_, ?_⟩
  · rw [callbacks_append, silent.callbacks_eq, nil_append, closing.callbacks_eq]
  · rw [results_append, silent.results_eq, nil_append, closing.results_eq]

lemma HandedOver.silent {onReceive : Bool} (closing : HandedOver sha256 onReceive hash effects data)
    (silent : Silent hash later) : HandedOver sha256 onReceive hash (effects ++ later) data := by
  refine ⟨closing.hash_eq, ?_, ?_⟩
  · rw [callbacks_append, closing.callbacks_eq, silent.callbacks_eq, append_nil]
  · rw [results_append, closing.results_eq, silent.results_eq, append_nil]

lemma SegmentStep.onReceive_eq (step : SegmentStep sha256 sendFn rt data iface next effects) :
    next.onReceive = rt.onReceive := by
  cases step with
  | ignored _ => rfl
  | stored _ _ _ => rfl
  | completed _ _ _ _ _ => rfl

lemma HandedOver.of_result (hashed : sha256 result = hash) : HandedOver sha256 rt.onReceive hash
      (announceReceived sendFn rt hash result iface ++ [.result hash result]) result := by
  refine ⟨hashed, ?_, ?_⟩
  · rw [callbacks_append, callbacks_announceReceived]
    simp [callbacks]
  rw [results_append, results_announceReceived]
  simp [results]

lemma Silent.of_other (different : named ≠ hash) :
    Silent hash (announceReceived sendFn rt named result iface ++ [.result named result]) := by
  constructor
  · rw [callbacks_append, callbacks_announceReceived, if_neg]
    · rfl
    · exact fun both => different both.2
  rw [results_append, results_announceReceived]
  simp [results, different]

/-- For one hash, a segment is handed over with the end of the transfer or
changes nothing outside. -/
lemma SegmentStep.for_hash (step : SegmentStep sha256 sendFn rt data iface next effects)
    (hash : FullHash) : (Silent hash effects ∧
      (rt.inbound.get? hash = none → next.inbound.get? hash = none)) ∨
    (next.inbound.get? hash = none ∧ rt.inbound.get? hash ≠ none ∧
      ∃ result, HandedOver sha256 rt.onReceive hash effects result) := by
  cases step with
  | ignored _ => exact .inl ⟨⟨rfl, rfl⟩, id⟩
  | @stored seg old read found _ =>
    left
    refine ⟨⟨rfl, rfl⟩, ?_⟩
    intro none
    have key : old.hash = seg.resourceHash := key_of_get? found
    rw [get?_putInbound, if_neg, none]
    intro same
    rw [same, show (old.store seg.segmentIndex seg.data).hash = old.hash
      from rfl, key, found] at none
    cases none
  | @completed seg old result read found _ assembled hashed =>
    have key : old.hash = seg.resourceHash := key_of_get? found
    by_cases same : seg.resourceHash = hash
    · subst same
      right
      exact ⟨get?_deleteInbound_self _ _, by rw [found]; simp, result, HandedOver.of_result hashed⟩
    left
    refine ⟨Silent.of_other same, ?_⟩
    intro none
    rw [get?_deleteInbound_ne _ (Ne.symm same), get?_putInbound, if_neg, none]
    intro equal
    exact same (key.symm.trans equal.symm)

lemma receiveSegments_none (arrivals : List (List UInt8 × String))
    (none : rt.inbound.get? hash = none) :
    Silent hash (receiveSegments sha256 sendFn rt arrivals).2 := by
  induction arrivals generalizing rt with
  | nil => exact ⟨rfl, rfl⟩
  | cons arrival rest induction =>
    have step := handleSegment_step sha256 sendFn rt arrival.1 arrival.2
    rcases step.for_hash hash with
      ⟨silent, absent⟩ | ⟨_, present, _⟩
    · rw [receiveSegments]
      exact silent.append (induction (absent none))
    · exact absurd none present

lemma receiveSegments_once (arrivals : List (List UInt8 × String)) :
    Silent hash (receiveSegments sha256 sendFn rt arrivals).2 ∨ ∃ result,
    HandedOver sha256 rt.onReceive hash (receiveSegments sha256 sendFn rt arrivals).2 result := by
  induction arrivals generalizing rt with
  | nil => exact .inl ⟨rfl, rfl⟩
  | cons arrival rest induction =>
    have step := handleSegment_step sha256 sendFn rt arrival.1 arrival.2
    have kept := step.onReceive_eq
    rw [receiveSegments]
    rcases step.for_hash hash with
      ⟨silent, _⟩ | ⟨none, _, result, closing⟩
    · rcases induction with later | ⟨result, later⟩
      · exact .inl (silent.append later)
      · rw [kept] at later
        exact .inr ⟨result, silent.handedOver later⟩
    · exact .inr ⟨result, closing.silent (receiveSegments_none rest none)⟩

end

/-! ## Collecting a resource -/

lemma Segments.join_eq
    (present : ∀ i ∈ indices, segments.get? (UInt16.ofNat i) = some (UInt16.ofNat i, content i)) :
    Segments.join segments indices = some (indices.flatMap content) := by
  induction indices with
  | nil => rfl
  | cons i rest induction =>
    have later := induction fun j member =>
      present j (mem_cons_of_mem _ member)
    rw [Segments.join, present i mem_cons_self, later]
    rfl

lemma ofNat_inj (first : i < 65536) (second : j < 65536)
    (same : UInt16.ofNat i = UInt16.ofNat j) : i = j := by
  have equal := congrArg UInt16.toNat same
  rwa [UInt16.toNat_ofNat_of_lt' first, UInt16.toNat_ofNat_of_lt' second] at equal

/-- A transfer of `data` in which the segments in `arrived` are stored. -/
structure InboundTransfer.Collecting (data : List UInt8) (size : Nat)
    (it : InboundTransfer) (arrived : List Nat) : Prop where
  count_eq : it.segCount.toNat = computeSegmentCount data.length size
  inside : ∀ i ∈ arrived, i < it.segCount.toNat
  bitmap_eq : ∀ i, bitmapGet it.bitmap i = decide (i < it.segCount.toNat ∧ i ∉ arrived)
  segment_eq : ∀ i ∈ arrived, it.segments.get? (UInt16.ofNat i) =
    some (UInt16.ofNat i, piece size data i)

section
variable {data : List UInt8} {size : Nat} {it : InboundTransfer} {arrived : List Nat}

section
variable (collecting : it.Collecting data size arrived)

include collecting

lemma InboundTransfer.Collecting.store (within : i < it.segCount.toNat) :
    (it.store (UInt16.ofNat i) (piece size data i)).Collecting data size (i :: arrived) := by
  have bound : it.segCount.toNat < 65536 := it.segCount.toNat_lt
  have index : (UInt16.ofNat i).toNat = i := UInt16.toNat_ofNat_of_lt' (lt_trans within bound)
  constructor
  · exact collecting.count_eq
  · exact forall_mem_cons.mpr ⟨within, collecting.inside⟩
  · intro j
    show bitmapGet (bitmapClear it.bitmap (UInt16.ofNat i).toNat) j =
      decide (j < it.segCount.toNat ∧ j ∉ i :: arrived)
    rw [bitmapGet_bitmapClear, index, collecting.bitmap_eq]
    by_cases same : i = j
    · subst same
      simp
    · simp [same, Ne.symm same]
  intro j member
  show (it.segments.put (UInt16.ofNat i, piece size data i)).get? (UInt16.ofNat j) = _
  rw [get?_put]
  by_cases same : UInt16.ofNat j = UInt16.ofNat i
  · have equal : j = i := by
      rcases mem_cons.mp member with equal | earlier
      · exact equal
      have small := collecting.inside j earlier
      exact ofNat_inj (lt_trans small bound) (lt_trans within bound) same
    rw [if_pos same, equal]
  rw [if_neg same]
  rcases mem_cons.mp member with rfl | earlier
  · exact absurd rfl same
  · exact collecting.segment_eq j earlier

lemma InboundTransfer.Collecting.allClear_iff :
    bitmapAllClear it.bitmap = true ↔ ∀ i < it.segCount.toNat, i ∈ arrived := by
  rw [bitmapAllClear_iff]
  constructor
  · intro clear i within
    have bit := clear i
    rw [collecting.bitmap_eq, decide_eq_false_iff_not] at bit
    by_contra missing
    exact bit ⟨within, missing⟩
  intro all i
  rw [collecting.bitmap_eq, decide_eq_false_iff_not]
  rintro ⟨within, missing⟩
  exact missing (all i within)

lemma InboundTransfer.Collecting.reassemble_eq (sized : 0 < size)
    (all : ∀ i < it.segCount.toNat, i ∈ arrived) : it.reassemble = some data := by
  have joined : it.segments.join (List.range it.segCount.toNat) =
      some ((List.range it.segCount.toNat).flatMap (piece size data)) := by
    apply Segments.join_eq
    intro i member
    exact collecting.segment_eq i (all i (mem_range.mp member))
  rw [InboundTransfer.reassemble, joined, flatMap_piece_eq]
  rw [collecting.count_eq]
  exact le_computeSegmentCount_mul sized

end

lemma newInbound_collecting (now : Int) (adv : ResourceAdvertisement) (iface : String)
    (count : adv.segmentCount.toNat = computeSegmentCount data.length size) :
    (newInbound now adv iface).Collecting data size [] where
  count_eq := count
  inside := fun i none => absurd none not_mem_nil
  bitmap_eq := by
    intro i
    show bitmapGet (newBitmap adv.segmentCount.toNat) i =
      decide (i < adv.segmentCount.toNat ∧ i ∉ [])
    rw [bitmapGet_newBitmap, decide_eq_decide]
    simp
  segment_eq := fun i none => absurd none not_mem_nil

end

def offeredSegment (sha256 : List UInt8 → FullHash) (data : List UInt8)
    (size i : Nat) : List UInt8 :=
  marshalResourceSegment
    { resourceHash := sha256 data
      segmentIndex := UInt16.ofNat i
      data := piece size data i }

section
variable (sha256 : List UInt8 → FullHash)
  (sendFn : String → Header → Option String) {data : List UInt8} {size : Nat}

lemma unmarshal_offeredSegment (sized : 0 < size)
    (within : i < computeSegmentCount data.length size) :
    unmarshalResourceSegment (offeredSegment sha256 data size i) =
      .ok ⟨sha256 data, UInt16.ofNat i, piece size data i⟩ := by
  apply unmarshal_marshalResourceSegment
  have starts := mul_lt_of_lt_computeSegmentCount sized within
  intro empty
  have length := congrArg List.length empty
  rw [piece, length_take, length_drop, length_nil] at length
  omega

def Unaltered (data : List UInt8) (size : Nat) (packet : List UInt8) : Prop :=
  ∀ seg, unmarshalResourceSegment packet = .ok seg → seg.resourceHash = sha256 data →
    ∃ i < computeSegmentCount data.length size, packet = offeredSegment sha256 data size i

lemma offeredSegment_read (sized : 0 < size) (read : unmarshalResourceSegment packet = .ok seg)
    (within : i < computeSegmentCount data.length size)
    (same : packet = offeredSegment sha256 data size i) :
    seg = ⟨sha256 data, UInt16.ofNat i, piece size data i⟩ := by
  rw [same, unmarshal_offeredSegment sha256 sized within] at read
  cases read
  rfl

lemma offeredSegment_other (sized : 0 < size) {packet : List UInt8} {seg : ResourceSegment}
    (read : unmarshalResourceSegment packet = .ok seg)
    (different : seg.resourceHash ≠ sha256 data) {arrived : List Nat} :
    ∀ i < computeSegmentCount data.length size,
      i ∈ arrived ∨ packet = offeredSegment sha256 data size i → i ∈ arrived := by
  rintro i within (present | same)
  · exact present
  have segEq := offeredSegment_read sha256 sized read within same
  exact absurd (congrArg ResourceSegment.resourceHash segEq) different

variable {sendFn}

/-- An unaltered packet completes the transfer with the offered resource or
leaves a segment missing. -/
lemma SegmentStep.unaltered {rt next : ResourceTransfer}
    {packet : List UInt8} {iface : String} {effects : List Effect}
    (step : SegmentStep sha256 sendFn rt packet iface next effects)
    (sized : 0 < size) (sent : Unaltered sha256 data size packet)
    {it : InboundTransfer} {arrived : List Nat} (found : rt.inbound.get? (sha256 data) = some it)
    (collecting : it.Collecting data size arrived)
    (missing : ∃ i < computeSegmentCount data.length size, i ∉ arrived) :
    (Silent (sha256 data) effects ∧ ∃ it' arrived',
      next.inbound.get? (sha256 data) = some it' ∧ it'.Collecting data size arrived' ∧
      (∃ i < computeSegmentCount data.length size, i ∉ arrived') ∧
      ∀ i < computeSegmentCount data.length size,
        i ∈ arrived ∨ packet = offeredSegment sha256 data size i → i ∈ arrived') ∨
    (next.inbound.get? (sha256 data) = none ∧
      HandedOver sha256 rt.onReceive (sha256 data) effects data) := by
  cases step with
  | ignored unknown =>
    left
    refine ⟨⟨rfl, rfl⟩, it, arrived, found, collecting, missing, ?_⟩
    intro i within present
    rcases present with present | same
    · exact present
    have none := unknown _ (by
      rw [same]
      exact unmarshal_offeredSegment sha256 sized within)
    rw [found] at none
    cases none
  | @stored seg old read known unfinished =>
    left
    refine ⟨⟨rfl, rfl⟩, ?_⟩
    have key : old.hash = seg.resourceHash := key_of_get? known
    by_cases same : seg.resourceHash = sha256 data
    · obtain ⟨i, within, packetEq⟩ := sent seg read same
      have segEq := offeredSegment_read sha256 sized read within packetEq
      subst segEq
      rw [found] at known
      cases known
      have stored := collecting.store (i := i) (by
        rw [collecting.count_eq]
        exact within)
      refine ⟨_, i :: arrived, ?_, stored, ?_, ?_⟩
      · rw [get?_putInbound, if_pos]
        exact key.symm
      · by_contra complete
        have all : ∀ j < it.segCount.toNat, j ∈ i :: arrived := by
          intro j inside
          by_contra absent
          rw [collecting.count_eq] at inside
          exact complete ⟨j, inside, absent⟩
        exact unfinished (stored.allClear_iff.mpr all) data (stored.reassemble_eq sized all) rfl
      intro j inside present
      rcases present with present | other
      · exact mem_cons_of_mem i present
      have seg := offeredSegment_read sha256 sized read inside other
      have indices := congrArg ResourceSegment.segmentIndex seg
      have bound : computeSegmentCount data.length size < 65536 := by
        rw [← collecting.count_eq]
        exact it.segCount.toNat_lt
      have equal := ofNat_inj (by omega) (by omega) indices
      rw [equal]
      exact mem_cons_self
    refine ⟨it, arrived, ?_, collecting, missing, offeredSegment_other sha256 sized read same⟩
    rw [get?_putInbound, if_neg, found]
    intro equal
    exact same (key.symm.trans equal.symm)
  | @completed seg old result read known clear assembled hashed =>
    by_cases same : seg.resourceHash = sha256 data
    · right
      obtain ⟨i, within, packetEq⟩ := sent seg read same
      have segEq := offeredSegment_read sha256 sized read within packetEq
      subst segEq
      rw [found] at known
      cases known
      have stored := collecting.store (i := i) (by
        rw [collecting.count_eq]
        exact within)
      have whole := stored.reassemble_eq sized (stored.allClear_iff.mp clear)
      rw [whole] at assembled
      cases assembled
      exact ⟨get?_deleteInbound_self _ _, HandedOver.of_result rfl⟩
    left
    have key : old.hash = seg.resourceHash := key_of_get? known
    refine ⟨Silent.of_other same, it, arrived, ?_, collecting, missing,
      offeredSegment_other sha256 sized read same⟩
    rw [get?_deleteInbound_ne _ (Ne.symm same), get?_putInbound, if_neg, found]
    intro equal
    exact same (key.symm.trans equal.symm)

lemma receiveSegments_unaltered (sized : 0 < size) {rt : ResourceTransfer}
    {it : InboundTransfer} {arrived : List Nat} (found : rt.inbound.get? (sha256 data) = some it)
    (collecting : it.Collecting data size arrived) (arrivals : List (List UInt8 × String))
    (unaltered : ∀ arrival ∈ arrivals, Unaltered sha256 data size arrival.1)
    (all : ∀ i < computeSegmentCount data.length size, i ∈ arrived ∨
      ∃ arrival ∈ arrivals, arrival.1 = offeredSegment sha256 data size i)
    (missing : ∃ i < computeSegmentCount data.length size, i ∉ arrived) :
    HandedOver sha256 rt.onReceive (sha256 data)
      (receiveSegments sha256 sendFn rt arrivals).2 data := by
  induction arrivals generalizing rt it arrived with
  | nil =>
    obtain ⟨i, within, absent⟩ := missing
    rcases all i within with present | ⟨arrival, none, _⟩
    · exact absurd present absent
    · exact absurd none not_mem_nil
  | cons arrival rest induction =>
    have step := handleSegment_step sha256 sendFn rt arrival.1 arrival.2
    have onReceive := step.onReceive_eq
    rw [receiveSegments]
    rcases step.unaltered sha256 sized (unaltered arrival mem_cons_self)
      found collecting missing with
      ⟨silent, it', arrived', known, further, still, grows⟩ | ⟨gone, closing⟩
    · have later := induction known further
        (fun other member => unaltered other (mem_cons_of_mem _ member)) (by
          intro i within
          rcases all i within with present | ⟨other, member, same⟩
          · exact .inl (grows i within (.inl present))
          rcases mem_cons.mp member with rfl | remains
          · exact .inl (grows i within (.inr same))
          · exact .inr ⟨other, remains, same⟩) still
      rw [onReceive] at later
      exact silent.handedOver later
    · exact closing.silent (receiveSegments_none rest gone)

end

/-! ## The sender -/

section
variable {sha256 : List UInt8 → FullHash} {sendFn : String → Header → Option String}

structure Offered (sha256 : List UInt8 → FullHash) (rt sender : ResourceTransfer)
    (data : List UInt8) (iface : String) (effects : List Effect) (now : Int)
    (hash : FullHash) : Prop where
  length_le : data.length ≤ maxResourceSize
  hash_eq : hash = sha256 data
  outbound_eq : sender.outbound.get? (sha256 data) = some
      { hash := sha256 data
        data := data
        segSize := rt.segmentSize
        segCount := computeSegmentCount data.length rt.segmentSize
        created := now }
  effects_eq : effects = [.send iface
    ⟨.resourceAdv, marshalResourceAdv (advertisement sha256 rt data)⟩]

variable {rt sender : ResourceTransfer} {iface via : String}
  {effects : List Effect} {draws : (k : Nat) → List (Fin k → UInt8)} {request bytes : List UInt8}

lemma offer_eq_ok {data : List UInt8} {now : Int} {hash : FullHash}
    (offered : offer sha256 sendFn now rt data iface = (sender, effects, .ok hash)) :
    Offered sha256 rt sender data iface effects now hash := by
  rw [offer] at offered
  split at offered
  · cases offered
  rename_i small
  dsimp only at offered
  split at offered
  · cases offered
  · cases offered
    refine ⟨not_lt.mp small, rfl, ?_, rfl⟩
    exact (get?_put _ _ _).trans (if_pos rfl)

lemma mem_sendAll (sent : .send via packet ∈ sendAll sendFn iface packets) : packet ∈ packets := by
  induction packets with
  | nil => exact absurd sent not_mem_nil
  | cons first rest induction =>
    rw [sendAll] at sent
    split at sent
    · exact absurd sent not_mem_nil
    rcases mem_cons.mp sent with same | later
    · cases same
      exact mem_cons_self
    · exact mem_cons_of_mem _ (induction later)

lemma handleRequest_segment
    (sent : .send via ⟨.resource, bytes⟩ ∈ handleRequest sendFn draws rt request iface) :
    ∃ hash ot i, rt.outbound.get? hash = some ot ∧ i < ot.segCount ∧
      bytes = (segmentPacket ot i).data := by
  rw [handleRequest] at sent
  split at sent
  · exact absurd sent not_mem_nil
  rename_i req _
  split at sent
  · exact absurd sent not_mem_nil
  rename_i ot found
  dsimp only at sent
  split at sent
  · obtain ⟨pkt, _, same⟩ := mem_map.mp (mem_sendAll sent)
    have contexts := congrArg Header.context same
    cases contexts
  obtain ⟨i, member, same⟩ := mem_map.mp (mem_sendAll sent)
  refine ⟨req.resourceHash, ot, i, found, ?_, ?_⟩
  · exact mem_range.mp (mem_of_mem_filter member)
  · exact (congrArg Header.data same).symm

lemma hash_of_unmarshal (read : unmarshalResourceSegment (marshalResourceSegment first) =
    .ok second) : second.resourceHash = first.resourceHash := by
  rw [unmarshalResourceSegment] at read
  split at read
  · cases read
  cases read
  have copied : ∀ enough, FullHash.copy (marshalResourceSegment first)
      enough = first.resourceHash := by
    rw [marshalResourceSegment, append_assoc]
    exact FullHash.copy_append _ _
  exact copied (by omega)

lemma Offered.unaltered {data : List UInt8} {now : Int} {hash : FullHash}
    (offered : Offered sha256 rt sender data iface effects now hash) {source : String}
    (sent : .send via ⟨.resource, bytes⟩ ∈ handleRequest sendFn draws sender request source) :
    Unaltered sha256 data rt.segmentSize bytes := by
  obtain ⟨name, ot, i, found, within, rfl⟩ := handleRequest_segment sent
  intro seg read same
  have own : ot.hash = name := key_of_get? found
  have named : seg.resourceHash = ot.hash := hash_of_unmarshal read
  rw [← own, ← named, same, offered.outbound_eq] at found
  cases found
  exact ⟨i, within, rfl⟩

end

/-! ## The transfer -/

lemma computeSegmentCount_default {length : Nat} (bounded : length ≤ maxResourceSize) :
    computeSegmentCount length defaultSegmentSize < 65536 := by
  have limit : maxResourceSize = 1048576 := rfl
  rw [computeSegmentCount, defaultSegmentSize]
  split <;> omega

lemma handleAdvertisement_eq (sha256 : List UInt8 → FullHash)
    (sendFn : String → Header → Option String) (now : Int)
    (rt receiver : ResourceTransfer) {data : List UInt8}
    (bounded : data.length ≤ maxResourceSize) (iface : String) :
    (handleAdvertisement sendFn now receiver
      (marshalResourceAdv (advertisement sha256 rt data)) iface).1 = receiver.putInbound
          (newInbound now (advertisement sha256 rt data) iface) := by
  have limit : maxResourceSize = 1048576 := rfl
  have size : (advertisement sha256 rt data).totalSize.toNat =
      data.length := UInt32.toNat_ofNat_of_lt' (by
    show data.length < 4294967296
    omega)
  rw [handleAdvertisement, unmarshal_marshalResourceAdv]
  dsimp only
  rw [if_neg]
  rw [size]
  omega

def firstBytes (data : List UInt8) : FullHash where
  bytes := (data ++ List.replicate fullHashLen 0).take fullHashLen
  length_eq := by
    rw [length_take, length_append, length_replicate]
    omega

def smallTransfer : ResourceTransfer :=
  newResourceTransfer { segmentSize := 180, transferTimeout := 300, rlncEnabled := false }

end MeshSat.Routing
