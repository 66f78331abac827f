import MeshSat.Library.Keyed
import MeshSat.Routing.Rlnc

/-!
# Resource transfers

A node offers a resource by its hash and answers requests with segments, or
with coded packets of them; another collects what arrives, checks the hash and
hands the resource over. The handlers run one at a time. What a handler does
besides changing its node is listed as effects: packets given to the sending
function, calls of the callback and values put in the channel of a transfer.
-/

namespace MeshSat.Routing

open Library

def defaultSegmentSize : Nat := 180

/-- The contexts of the packets of a transfer. -/
inductive Context
  | resourceAdv | resourceReq | resource | resourcePRF | resourceRLNC
  deriving Repr, DecidableEq

/-- A data packet to a plain destination with a header of type one. -/
structure Header where
  context : Context
  data : List UInt8
  deriving DecidableEq

inductive Effect
  | send (iface : String) (packet : Header)
  /-- The callback; it is given the hash in hexadecimal. -/
  | received (hash : FullHash) (data : List UInt8) (iface : String)
  /-- The channel that `HandleAdvertisement` returned. -/
  | result (hash : FullHash) (data : List UInt8)
  deriving DecidableEq

structure OutboundTransfer where
  hash : FullHash
  data : List UInt8
  (segSize segCount : Nat)
  created : Int

abbrev Segments : Type := Keyed (Prod.fst : UInt16 × List UInt8 → UInt16)

structure InboundTransfer where
  hash : FullHash
  totalSize : UInt32
  (segSize segCount : UInt16)
  segments : Segments
  bitmap : List UInt8
  created : Int
  iface : String
  rlncGen : Option RLNCGeneration

structure ResourceTransferConfig where
  (segmentSize transferTimeout : Int)
  rlncEnabled : Bool

/-- The segment size is positive once a manager is made. -/
structure ResourceTransfer where
  segmentSize : Nat
  sized : 0 < segmentSize
  transferTimeout : Int
  (rlncEnabled onReceive : Bool)
  outbound : Keyed OutboundTransfer.hash
  inbound : Keyed InboundTransfer.hash

def newResourceTransfer (config : ResourceTransferConfig) : ResourceTransfer where
  segmentSize :=
    if config.segmentSize ≤ 0 then defaultSegmentSize
    else config.segmentSize.toNat
  sized := by
    split
    · decide
    · omega
  transferTimeout := config.transferTimeout
  rlncEnabled := config.rlncEnabled
  onReceive := false
  outbound := Keyed.empty
  inbound := Keyed.empty

def ResourceTransfer.setOnReceive (rt : ResourceTransfer) : ResourceTransfer :=
  { rt with onReceive := true }

inductive OfferError
  | tooLarge (size : Nat)
  /-- The advertisement was not sent; the transfer is kept. -/
  | sendFailed (hash : FullHash) (cause : String)
  deriving DecidableEq

def OfferError.text : OfferError → String
  | tooLarge size => s!"resource too large: {size} bytes (max {maxResourceSize})"
  | sendFailed _ cause => "send resource adv: " ++ cause

section

-- `sha256.Sum256`, and the sending function with the error it reports.
variable (sha256 : List UInt8 → FullHash) (sendFn : String → Header → Option String)

def sendOne (iface : String) (packet : Header) : List Effect :=
  match sendFn iface packet with
  | some _ => []
  | none => [.send iface packet]

/-- Packets one after the other, up to the first that fails. -/
def sendAll (iface : String) : List Header → List Effect
  | [] => []
  | packet :: rest =>
    match sendFn iface packet with
    | some _ => []
    | none => .send iface packet :: sendAll iface rest

/-! ## Offering -/

def advertisement (rt : ResourceTransfer) (data : List UInt8) : ResourceAdvertisement :=
  { resourceHash := sha256 data
    totalSize := UInt32.ofNat data.length
    segmentSize := UInt16.ofNat rt.segmentSize
    segmentCount := UInt16.ofNat (computeSegmentCount data.length rt.segmentSize) }

def offer (now : Int) (rt : ResourceTransfer) (data : List UInt8) (iface : String) :
    ResourceTransfer × List Effect × Except OfferError FullHash :=
  if data.length > maxResourceSize then
    (rt, [], .error (.tooLarge data.length))
  else
    let hash := sha256 data
    let ot : OutboundTransfer :=
      { hash := hash
        data := data
        segSize := rt.segmentSize
        segCount := computeSegmentCount data.length rt.segmentSize
        created := now }
    let rt := { rt with outbound := rt.outbound.put ot }
    let packet : Header := ⟨.resourceAdv, marshalResourceAdv (advertisement sha256 rt data)⟩
    match sendFn iface packet with
    | some cause => (rt, [], .error (.sendFailed hash cause))
    | none => (rt, [.send iface packet], .ok hash)

/-! ## Answering requests -/

def requestedIndices (ot : OutboundTransfer) (bitmap : List UInt8) : List Nat :=
  (List.range ot.segCount).filter fun i => bitmapGet bitmap i

def segmentPacket (ot : OutboundTransfer) (i : Nat) : Header :=
  ⟨.resource, marshalResourceSegment
      { resourceHash := ot.hash
        segmentIndex := UInt16.ofNat i
        data := piece ot.segSize ot.data i }⟩

def codedPacket (pkt : RLNCCodedPacket) : Header := ⟨.resourceRLNC, marshalRLNCPacket pkt⟩

/-- `draws` are the random coefficients of each coded packet made. -/
def handleRequest (draws : (k : Nat) → List (Fin k → UInt8))
    (rt : ResourceTransfer) (data : List UInt8) (iface : String) : List Effect :=
  match unmarshalResourceReq data with
  | .error _ => []
  | .ok req =>
    match rt.outbound.get? req.resourceHash with
    | none => []
    | some ot =>
      let indices := requestedIndices ot req.bitmap
      let segments := indices.map (piece ot.segSize ot.data)
      if rt.rlncEnabled && decide (segments.length > 1) then
        sendAll sendFn iface ((encodeGeneration 0 ot.hash segments
            (draws segments.length)).map codedPacket)
      else sendAll sendFn iface (indices.map (segmentPacket ot))

def handleProof (rt : ResourceTransfer) (data : List UInt8) : ResourceTransfer :=
  match unmarshalResourceProof data with
  | .error _ => rt
  | .ok prf =>
    { rt with
      outbound := rt.outbound.deleteWhere fun ot =>
        ot.hash = prf.resourceHash }

/-! ## Receiving -/

def ResourceTransfer.putInbound (rt : ResourceTransfer) (it : InboundTransfer) : ResourceTransfer :=
  { rt with inbound := rt.inbound.put it }

def ResourceTransfer.deleteInbound (rt : ResourceTransfer) (hash : FullHash) : ResourceTransfer :=
  { rt with inbound := rt.inbound.deleteWhere fun it => it.hash = hash }

def sendRequest (it : InboundTransfer) : List Effect :=
  sendOne sendFn it.iface ⟨.resourceReq, marshalResourceReq ⟨it.hash, it.bitmap⟩⟩

def newInbound (now : Int) (adv : ResourceAdvertisement) (iface : String) : InboundTransfer :=
  { hash := adv.resourceHash
    totalSize := adv.totalSize
    segSize := adv.segmentSize
    segCount := adv.segmentCount
    segments := Keyed.empty
    bitmap := newBitmap adv.segmentCount.toNat
    created := now
    iface := iface
    rlncGen := none }

/-- The flag says whether a channel is returned. -/
def handleAdvertisement (now : Int) (rt : ResourceTransfer) (data : List UInt8) (iface : String) :
    ResourceTransfer × List Effect × Bool :=
  match unmarshalResourceAdv data with
  | .error _ => (rt, [], false)
  | .ok adv =>
    if adv.totalSize.toNat > maxResourceSize then (rt, [], false)
    else
      let it := newInbound now adv iface
      (rt.putInbound it, sendRequest sendFn it, true)

def InboundTransfer.setGen (it : InboundTransfer) (gen : RLNCGeneration) : InboundTransfer :=
  { it with rlncGen := some gen }

def InboundTransfer.store (it : InboundTransfer) (index : UInt16)
    (data : List UInt8) : InboundTransfer :=
  { it with
    segments := it.segments.put (index, data)
    bitmap := bitmapClear it.bitmap index.toNat }

/-- Segments in order, if none is missing. -/
def Segments.join (segments : Segments) : List Nat → Option (List UInt8)
  | [] => some []
  | i :: rest =>
    match segments.get? (UInt16.ofNat i) with
    | none => none
    | some (_, segData) => (segments.join rest).map (segData ++ ·)

def InboundTransfer.reassemble (it : InboundTransfer) : Option (List UInt8) :=
  it.segments.join (List.range it.segCount.toNat)

/-- The callback, if there is one, and the proof. -/
def announceReceived (rt : ResourceTransfer) (hash : FullHash)
    (data : List UInt8) (iface : String) : List Effect :=
  (if rt.onReceive then [.received hash data iface] else []) ++
    sendOne sendFn iface ⟨.resourcePRF, marshalResourceProof ⟨hash⟩⟩

def handleSegment (rt : ResourceTransfer) (data : List UInt8)
    (iface : String) : ResourceTransfer × List Effect :=
  match unmarshalResourceSegment data with
  | .error _ => (rt, [])
  | .ok seg =>
    match rt.inbound.get? seg.resourceHash with
    | none => (rt, [])
    | some old =>
      let it := old.store seg.segmentIndex seg.data
      let rt := rt.putInbound it
      if bitmapAllClear it.bitmap then
        match it.reassemble with
        | none => (rt, [])
        | some result =>
          if sha256 result ≠ it.hash then (rt, [])
          else
            (rt.deleteInbound it.hash, announceReceived sendFn rt it.hash result iface ++
                [.result it.hash result])
      else (rt, [])

/-- The size of a segment by the advertisement; the remainder by a segment size
of zero panics. -/
def InboundTransfer.expectedSize (it : InboundTransfer) (idx : UInt16) : Option Nat :=
  if idx = it.segCount - 1 then
    if it.segSize = 0 then none
    else
      let remainder := it.totalSize.toNat % it.segSize.toNat
      some (if remainder > 0 then remainder else it.segSize.toNat)
  else some it.segSize.toNat

/-- Stores decoded segments from index `i` on, each trimmed to its size. -/
def InboundTransfer.storeDecoded :
    Nat → List (List UInt8) → InboundTransfer → Option InboundTransfer
  | _, [], it => some it
  | i, segData :: rest, it =>
    if UInt16.ofNat i ≥ it.segCount then some it
    else
      match it.expectedSize (UInt16.ofNat i) with
      | none => none
      | some size =>
        storeDecoded (i + 1) rest
          { it with
            segments := it.segments.put (UInt16.ofNat i, segData.take size)
            bitmap := bitmapClear it.bitmap i }

/-- What follows once the decoded segments are stored in the transfer. -/
def finishCoded (rt : ResourceTransfer) (it : InboundTransfer)
    (iface : String) : ResourceTransfer × List Effect :=
  let rt := rt.putInbound it
  if !bitmapAllClear it.bitmap then (rt, [])
  else
    match it.reassemble with
    | none => (rt.deleteInbound it.hash, [])
    | some result =>
      if sha256 result ≠ it.hash then (rt.deleteInbound it.hash, [])
      else
        (rt.deleteInbound it.hash, announceReceived sendFn rt it.hash result iface)

/-- Nothing where the source panics. The channel of the transfer is not
written. -/
def handleCodedSegment (rt : ResourceTransfer) (data : List UInt8)
    (iface : String) : Option (ResourceTransfer × List Effect) :=
  match unmarshalRLNCPacket data with
  | .error _ => some (rt, [])
  | .ok pkt =>
    match rt.inbound.get? pkt.resourceHash with
    | none => some (rt, [])
    | some old =>
      let (gen, ready) :=
        (old.rlncGen.getD (newRLNCGeneration pkt.generationID pkt.k.toNat
          pkt.payload.length)).addPacket pkt
      let waiting := rt.putInbound (old.setGen gen)
      if !ready then some (waiting, [])
      else
        match gen.tryDecode with
        | none => none
        | some (_, .error _) => some (waiting, [])
        | some (gen, .ok decoded) =>
          ((old.setGen gen).storeDecoded 0 decoded).map fun it =>
            finishCoded sha256 sendFn rt it iface

end

/-- Transfers older than the timeout are forgotten. -/
def prune (now : Int) (rt : ResourceTransfer) : ResourceTransfer :=
  { rt with
    outbound := rt.outbound.deleteWhere fun ot =>
      now - ot.created > rt.transferTimeout
    inbound := rt.inbound.deleteWhere fun it =>
      now - it.created > rt.transferTimeout }

end MeshSat.Routing
