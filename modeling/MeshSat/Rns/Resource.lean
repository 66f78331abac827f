import Mathlib.Data.List.Sort
import MeshSat.Rns.LinkState

/-!
# Resource transfer over a link

The sender encrypts the payload once, cuts the ciphertext into parts, and
advertises its hash, its size and a map of part hashes, 74 to a page. The
receiver asks for windows of parts, and for the next page when it runs out of
hashes; it joins the parts, checks the hash and returns a proof.

Every access to an array is checked, so that what a peer can make a node do
includes its faults.
-/

namespace MeshSat.Rns

open Library Library.Checked Reticulum

/-- SHA-256, the widening of floats and the bzip2 reader, which stops at 64
MiB. -/
structure Primitives where
  sha256 : List UInt8 → FullHash
  widen : Nat → UInt64
  bunzip2 : List UInt8 → Option (List UInt8)

def mapHash (p : Primitives) (part : List UInt8) (random : RandomHash) : MapHash :=
  FixedBytes.copy _ ((p.sha256 (part ++ random.bytes)).bytes.take resourceMapHashLen)

def splitMapHashes : List UInt8 → List MapHash
  | a :: b :: c :: d :: rest => ⟨[a, b, c, d], rfl⟩ :: splitMapHashes rest
  | _ => []

/-- The texts of the map hashes from one position up to another. -/
def hashmapBytes (mapHashes : List MapHash) (low high : Int) : Checked (List UInt8) :=
  forRange low high (fun i hm => do
      let mh ← fetch mapHashes i
      pure (.next (hm ++ mh.bytes))) []

/-! ## Sending -/

def resourceHash (p : Primitives) (payload : List UInt8) (random : RandomHash) : FullHash :=
  p.sha256 (payload ++ random.bytes)

def resourceProof (p : Primitives) (payload : List UInt8) (hash : FullHash) : FullHash :=
  p.sha256 (payload ++ hash.bytes)

structure Split where
  parts : List (List UInt8)
  mapHashes : List MapHash

/-- The parts from a position on, or nothing if two of them have one map hash.
The first argument bounds the rounds. -/
def splitFrom (p : Primitives) (sdu : Int) (enc : List UInt8)
    (random : RandomHash) : Nat → Int → Split → Checked (Option Split)
  | 0, _, _ => .error .endless
  | fuel + 1, i, split =>
    if (enc.length : Int) ≤ i then .ok (some split)
    else do
      let part ← slice enc i (min (i + sdu) enc.length)
      let mh := mapHash p part random
      if mh ∈ split.mapHashes then pure none
      else
        splitFrom p sdu enc random fuel (i + sdu) ⟨split.parts ++ [part], split.mapHashes ++ [mh]⟩

def splitParts (p : Primitives) (sdu : Int) (enc : List UInt8)
    (random : RandomHash) : Checked (Option Split) :=
  splitFrom p sdu enc random (enc.length + 2) 0 ⟨[], []⟩

/-- Draws random hashes until no two parts have one map hash. -/
def drawSplit (p : Primitives) (sdu : Int) (enc : List UInt8) :
    List RandomHash → Checked (RandomHash × Split)
  | [] => .error .endless
  | random :: draws => do
      match ← splitParts p sdu enc random with
      | some split => pure (random, split)
      | none => drawSplit p sdu enc draws

def advertEntry (key : List UInt8) (value : Msgpack.Value) : Msgpack.Value × Msgpack.Value :=
  (.str key, value)

def keyT : List UInt8 := [0x74]
def keyD : List UInt8 := [0x64]
def keyN : List UInt8 := [0x6E]
def keyH : List UInt8 := [0x68]
def keyR : List UInt8 := [0x72]
def keyO : List UInt8 := [0x6F]
def keyI : List UInt8 := [0x69]
def keyL : List UInt8 := [0x6C]
def keyQ : List UInt8 := [0x71]
def keyF : List UInt8 := [0x66]
def keyM : List UInt8 := [0x6D]

def OutgoingResource.advertEntries (r : OutgoingResource)
    (hm : List UInt8) : List (Msgpack.Value × Msgpack.Value) :=
  [ advertEntry keyT (.ofInt (Int64.ofInt r.data.length)),
    advertEntry keyD (.ofInt (Int64.ofInt r.dataSize)),
    advertEntry keyN (.ofInt (Int64.ofInt r.parts.length)), advertEntry keyH (.bin r.hash.bytes),
    advertEntry keyR (.bin r.randomHash.bytes), advertEntry keyO (.bin r.hash.bytes),
    advertEntry keyI (.ofInt 1), advertEntry keyL (.ofInt 1), advertEntry keyQ .nil,
    -- encrypted, not compressed, not split, no metadata
    advertEntry keyF (.ofInt 1), advertEntry keyM (.bin hm) ]

def OutgoingResource.advertisement (r : OutgoingResource) (segment : Int) :
    Checked Msgpack.Value := do
  let hm ← hashmapBytes r.mapHashes (segment * resourceHashmapMaxLen)
    (min ((segment + 1) * resourceHashmapMaxLen) r.parts.length)
  pure (.map (r.advertEntries hm))

section
variable (l : Link)

def Link.putIncoming (r : IncomingResource) : Link :=
  { l with incoming := l.incoming.put r }

def Link.putOutgoing (r : OutgoingResource) : Link :=
  { l with outgoing := l.outgoing.put r }

def Link.deleteIncoming (hash : FullHash) : Link :=
  { l with incoming := l.incoming.deleteWhere fun r => r.hash = hash }

def Link.deleteOutgoing (hash : FullHash) : Link :=
  { l with outgoing := l.outgoing.deleteWhere fun r => r.hash = hash }

lemma Link.encrypt_putIncoming (r : IncomingResource)
    (iv : FixedBytes aesBlockSize) (plain : List UInt8) :
    (l.putIncoming r).encrypt iv plain = l.encrypt iv plain := rfl

/-- `fail`: nothing happens to a resource that is complete or has failed. -/
def Link.failOutgoing (r : OutgoingResource) (cause : ResourceFailure) : Outcome :=
  if r.state = .complete ∨ r.state = .failed then (l, [])
  else (l.deleteOutgoing r.hash, [.done r.hash (.failed cause)])

def Link.advertise (env : Env) (iv : FixedBytes aesBlockSize)
    (r : OutgoingResource) : Checked Outcome := do
  let adv ← r.advertisement 0
  match l.encrypt iv (Msgpack.pack adv) with
  | .error cause => pure (l.failOutgoing r (.encrypt cause))
  | .ok ct =>
    pure ((l.putOutgoing { r with advSent := env.now, lastActivity := env.now }).sendLinkPacket
        env .data contextResourceAdv ct (some r.hash))

end

def outgoingResource (p : Primitives) (l : Link) (payload enc : List UInt8)
    (random : RandomHash) (split : Split) : OutgoingResource :=
  let hash := resourceHash p payload random
  { hash := hash
    data := enc
    parts := split.parts
    partSent := List.replicate split.parts.length false
    mapHashes := split.mapHashes
    randomHash := random
    expectedProof := resourceProof p payload hash
    dataSize := payload.length
    sentParts := 0
    advRetries := 0
    advSent := 0
    lastActivity := 0
    rtt := l.rtt
    state := .advertised
    recvMinHeight := 0 }

/-- `SendResourceWith`. The four bytes before the payload and the random
hashes are drawn at random. -/
def Link.sendResourceWith (p : Primitives) (env : Env) (l : Link)
    (payload : List UInt8) (freeOnly : Bool) (front : RandomHash) (draws : List RandomHash) :
    Checked (Except LinkError (OutgoingResource × Outcome)) :=
  if (freeOnly || l.freeOnly) && !env.freeInterface l.iface then
    .ok (.error .paidRefused)
  else if l.state ≠ .active ∧ l.state ≠ .stale then .ok (.error .notActive)
  else if (payload.length : Int) > resourceMaxSize then
    .ok (.error .resourceTooLarge)
  else
    match l.encrypt (env.iv 0) (front.bytes ++ payload) with
    | .error cause => .ok (.error cause)
    | .ok enc => do
        let (random, split) ← drawSplit p l.sdu enc draws
        let r := outgoingResource p l payload enc random split
        let outcome ← (l.putOutgoing r).advertise env (env.iv 1) r
        pure (.ok (r, outcome))

/-- The parts to send and the resource they are noted in. -/
structure Serving where
  toSend : List (List UInt8)
  resource : OutgoingResource

/-- One round over the parts in reach of a request. -/
def servePart (want : List MapHash) (i : Int) (s : Serving) : Checked (Next Serving) := do
  let mh ← fetch s.resource.mapHashes i
  if mh ∈ want then
    let part ← fetch s.resource.parts i
    let sent ← fetch s.resource.partSent i
    if sent then pure (.next { s with toSend := s.toSend ++ [part] })
    else
      let partSent ← store s.resource.partSent i true
      pure (.next
        { toSend := s.toSend ++ [part]
          resource :=
            { s.resource with
              partSent := partSent
              sentParts := s.resource.sentParts + 1 } })
  else pure (.next s)

def lastMapIndex (r : OutgoingResource) (low high : Int) (lastMap : MapHash) : Checked Int :=
  forRange low high (fun i idx => do
      let mh ← fetch r.mapHashes i
      pure (if mh = lastMap then .stop (idx + 1) else .next (idx + 1))) low

/-- A request for parts, and for a page if the receiver has no more hashes. -/
structure Request where
  hash : FullHash
  /-- The last map hash of a receiver that has no more. -/
  lastMap : Option MapHash
  wanted : List MapHash

/-- Nothing if the request is too short. -/
def parseRequest (plain : List UInt8) : Checked (Option Request) :=
  if plain.length < 1 + fullHashLen then .ok none
  else do
    let flag ← fetch plain 0
    if flag = resourceHashmapExh then
      if plain.length < 1 + resourceMapHashLen + fullHashLen then pure none
      else
        let lastMap ← slice plain 1 5
        let hash ← slice plain 5 37
        let wanted ← slice plain 37 plain.length
        pure (some ⟨FixedBytes.copy _ hash, some (FixedBytes.copy _ lastMap),
            splitMapHashes wanted⟩)
    else
      let hash ← slice plain 1 33
      let wanted ← slice plain 33 plain.length
      pure (some ⟨FixedBytes.copy _ hash, none, splitMapHashes wanted⟩)

/-- The page after the hash that starts at `idx`. -/
def hashmapUpdatePlain (r : OutgoingResource) (idx : Int) :
    Checked (Except ResourceFailure (List UInt8)) :=
  if idx.tmod resourceHashmapMaxLen ≠ 0 then .ok (.error .sequencing)
  else do
    let segment := idx.tdiv resourceHashmapMaxLen
    let hm ← hashmapBytes r.mapHashes (segment * resourceHashmapMaxLen)
      (min ((segment + 1) * resourceHashmapMaxLen) r.parts.length)
    if hm.length = 0 then pure (.error .hashmapUpdate)
    else
      pure (.ok (r.hash.bytes ++ Msgpack.pack (.array [.ofInt (Int64.ofInt segment), .bin hm])))

def OutgoingResource.sentAll (r : OutgoingResource) : OutgoingResource :=
  if r.sentParts = r.parts.length then { r with state := .awaitingProof }
  else r

def Link.sendParts (l : Link) (env : Env) (hash : FullHash) : List (List UInt8) → Outcome
  | [] => (l, [])
  | part :: rest =>
    let (l, first) := l.sendLinkPacket env .data contextResource part (some hash)
    let (l, others) := l.sendParts env hash rest
    (l, first ++ others)

section
variable (l : Link) (env : Env)

def Link.sendHMU (hash : FullHash) : Option (List UInt8) → Outcome
  | none => (l, [])
  | some hmu =>
    match l.encrypt (env.iv 0) hmu with
    | .error _ => (l, [])
    | .ok ct => l.sendLinkPacket env .data contextResourceHMU ct (some hash)

def Link.answer (r : OutgoingResource)
    (toSend : List (List UInt8)) (hmu : Option (List UInt8)) : Outcome :=
  let (l, parts) := (l.putOutgoing r.sentAll).sendParts env r.hash toSend
  let (l, page) := l.sendHMU env r.hash hmu
  (l, parts ++ page)

def Link.serve (r : OutgoingResource) (request : Request) : Checked Outcome := do
  let r :=
    { r with
      rtt := if r.rtt = 0 then env.now - r.advSent else r.rtt
      state := .transferring
      lastActivity := env.now }
  let low := r.recvMinHeight
  let high := min (low + resourceCollisionGuard) r.parts.length
  let s ← forRange low high (servePart request.wanted) ⟨[], r⟩
  match request.lastMap with
  | none => pure (l.answer env s.resource s.toSend none)
  | some lastMap =>
    let idx ← lastMapIndex s.resource low high lastMap
    let r :=
      { s.resource with
        recvMinHeight := max (idx - 1 - resourceWindowMaxFast) 0 }
    match ← hashmapUpdatePlain r idx with
    | .error cause => pure (l.failOutgoing r cause)
    | .ok hmu => pure (l.answer env r s.toSend (some hmu))

def Link.handleResourceRequest (plain : List UInt8) : Checked Outcome := do
  match ← parseRequest plain with
  | none => pure (l, [])
  | some request =>
    match l.outgoing.get? request.hash with
    | none => pure (l, [])
    | some r => l.serve env r request

def Link.handleResourceProof (data : List UInt8) : Checked Outcome :=
  if data.length ≠ 2 * fullHashLen then .ok (l, [])
  else do
    let hash ← slice data 0 32
    let proof ← slice data 32 data.length
    match l.outgoing.get? (FixedBytes.copy _ hash) with
    | none => pure (l, [])
    | some r =>
      if proof ≠ r.expectedProof.bytes then pure (l, [])
      else
        pure ({ l.deleteOutgoing r.hash with lastProof := env.now }, [.done r.hash .delivered])

end

/-! ## Receiving -/

structure Advert where
  (t d n f segs : Int64)
  (h rb hm : List UInt8)
  deriving DecidableEq

def getEntry (entries : List (Msgpack.Value × Msgpack.Value)) (key : List UInt8) : Msgpack.Value :=
  match entries with
  | [] => .nil
  | (.str name, value) :: rest => if name = key then value else getEntry rest key
  | _ :: rest => getEntry rest key

def getInt (entries : List (Msgpack.Value × Msgpack.Value)) (key : List UInt8) : Int64 :=
  (getEntry entries key).asInt.getD 0

def parseAdvert (p : Primitives) (plain : List UInt8) : Option Advert :=
  match Msgpack.unpackValue p.widen plain with
  | .ok (.map entries, _) =>
    some
      { t := getInt entries keyT
        d := getInt entries keyD
        n := getInt entries keyN
        f := getInt entries keyF
        segs := getInt entries keyL
        h := (getEntry entries keyH).binField
        rb := (getEntry entries keyR).binField
        hm := (getEntry entries keyM).binField }
  | _ => none

/-- The checks before anything is sent back. -/
def Advert.valid (a : Advert) : Bool :=
  a.h.length = fullHashLen && a.rb.length = resourceRandomHashLen &&
    decide (0 < a.n.toInt) && decide (0 < a.t.toInt) && decide (a.t.toInt ≤ 3 * resourceMaxSize)

/-- In one segment and without metadata. -/
def Advert.supported (a : Advert) : Bool := decide (a.segs.toInt ≤ 1) && a.f &&& 0x20 = 0

def Link.accepts (l : Link) (d : Int) : Bool :=
  match l.acceptResources with
  | none => false
  | some accept => accept d

def Link.rejectResource (l : Link) (env : Env) (hash : List UInt8) : Outcome :=
  match l.encrypt (env.iv 0) hash with
  | .error _ => (l, [])
  | .ok ct => l.sendLinkPacket env .data contextResourceRCL ct (some (FixedBytes.copy _ hash))

def newIncoming (env : Env) (a : Advert) (totalParts : Int) : IncomingResource where
  hash := FixedBytes.copy _ a.h
  size := a.t.toInt
  dataSize := a.d.toInt
  totalParts := totalParts
  parts := List.replicate totalParts.toNat none
  hashmap := List.replicate totalParts.toNat (FixedBytes.zero _)
  hashmapSet := List.replicate totalParts.toNat false
  hashHeight := 0
  randomHash := FixedBytes.copy _ a.rb
  compressed := a.f &&& 0x02 ≠ 0
  received := 0
  outstanding := 0
  window := resourceWindow
  windowMax := resourceWindowMaxSlow
  windowMin := resourceWindowMin
  consecutive := -1
  waitingHMU := false
  retries := 0
  lastActivity := env.now
  reqSent := 0
  state := .transferring

/-- The advertised number of parts counts, whatever the size divided by the
part size is. -/
def incomingResource (l : Link) (env : Env) (a : Advert) : Checked IncomingResource := do
  let totalParts ← quotient (a.t.toInt + l.sdu - 1) l.sdu
  pure (newIncoming env a (if a.n.toInt ≠ totalParts then a.n.toInt else totalParts))

/-- `i + segment*resourceHashmapMaxLen` in 64 bits. -/
def pageIndex (i segment : Int) : Int :=
  (i + (segment * resourceHashmapMaxLen).bmod (2 ^ 64)).bmod (2 ^ 64)

/-- The rounds of `hashmapUpdate` from one index on. -/
def IncomingResource.setHashes (segment : Int) :
    Int → List MapHash → IncomingResource → Checked IncomingResource
  | _, [], r => .ok r
  | i, mh :: rest, r =>
    let idx := pageIndex i segment
    if r.totalParts ≤ idx then .ok r
    else do
      let set ← fetch r.hashmapSet idx
      let hashmap ← store r.hashmap idx mh
      let hashmapSet ← store r.hashmapSet idx true
      IncomingResource.setHashes segment (i + 1) rest
        { r with
          hashHeight := if set then r.hashHeight else r.hashHeight + 1
          hashmap := hashmap
          hashmapSet := hashmapSet }

def IncomingResource.hashmapUpdate (r : IncomingResource) (segment : Int)
    (hm : List UInt8) : Checked IncomingResource := do
  let r ← r.setHashes segment 0 (splitMapHashes hm)
  pure { r with waitingHMU := false }

structure Window where
  req : List UInt8
  outstanding : Int
  exhausted : Bool

section
variable (r : IncomingResource)

def requestPart (pn : Int) (w : Window) : Checked (Next Window) :=
  if r.window ≤ w.outstanding then .ok (.stop w)
  else do
    let part ← fetch r.parts pn
    if part.isSome then pure (.next w)
    else
      let set ← fetch r.hashmapSet pn
      if !set then pure (.stop { w with exhausted := true })
      else
        let mh ← fetch r.hashmap pn
        pure (.next
          { w with
            req := w.req ++ mh.bytes
            outstanding := w.outstanding + 1 })

/-- The flag of a request, with the last hash of a map that is exhausted. -/
def IncomingResource.requestFront (exhausted : Bool) : Checked (List UInt8) :=
  if exhausted then do
    let last ← fetch r.hashmap (r.hashHeight - 1)
    pure (resourceHashmapExh :: last.bytes)
  else pure [resourceHashmapNotExh]

def IncomingResource.nextRequest : Checked (IncomingResource × List UInt8) := do
  let w ← forRange (r.consecutive + 1) r.totalParts (requestPart r) ⟨[], 0, false⟩
  let front ← r.requestFront w.exhausted
  pure ({ r with
      outstanding := w.outstanding
      waitingHMU := if w.exhausted then true else r.waitingHMU },
    front ++ r.hash.bytes ++ w.req)

end

/-- Asks for the next window, unless a page is awaited. -/
def Link.requestNext (l : Link) (env : Env) (iv : FixedBytes aesBlockSize)
    (r : IncomingResource) : Checked Outcome :=
  if r.state ≠ .transferring ∨ r.waitingHMU then .ok (l.putIncoming r, [])
  else do
    let (r, data) ← r.nextRequest
    let l := l.putIncoming { r with lastActivity := env.now, reqSent := env.now }
    match l.encrypt iv data with
    | .error _ => pure (l, [])
    | .ok ct => pure (l.sendLinkPacket env .data contextResourceReq ct (some r.hash))

def Link.acceptAdvert (l : Link) (env : Env) (a : Advert) : Checked Outcome := do
  let r ← incomingResource l env a
  let allocated := LinkEffect.allocated r.size r.totalParts
  match l.incoming.get? r.hash with
  | some _ => pure (l, [allocated])
  | none =>
    let r ← r.hashmapUpdate 0 a.hm
    let (l, effects) ← l.requestNext env (env.iv 0) r
    pure (l, allocated :: effects)

def Link.handleResourceAdv (p : Primitives) (l : Link) (env : Env)
    (plain : List UInt8) : Checked Outcome :=
  match parseAdvert p plain with
  | none => .ok (l, [])
  | some a =>
    if !a.valid then .ok (l, [])
    else if !a.supported then .ok (l.rejectResource env a.h)
    else if !l.accepts a.d.toInt then .ok (l.rejectResource env a.h)
    else l.acceptAdvert env a

/-- A page of the map: its number and its hashes. -/
def parseHMU (p : Primitives) (body : List UInt8) : Option (Int × List UInt8) :=
  match Msgpack.unpackValue p.widen body with
  | .ok (.array [segment, hm], _) => some ((segment.asInt.getD 0).toInt, hm.binField)
  | _ => none

def Link.handleHMU (p : Primitives) (l : Link) (env : Env) (plain : List UInt8) : Checked Outcome :=
  if plain.length ≤ fullHashLen then .ok (l, [])
  else do
    let hash ← slice plain 0 32
    let body ← slice plain 32 plain.length
    match l.incoming.get? (FixedBytes.copy _ hash) with
    | none => pure (l, [])
    | some r =>
      match parseHMU p body with
      | none => pure (l, [])
      | some (segment, hm) =>
        let r ← r.hashmapUpdate segment hm
        l.requestNext env (env.iv 0) r

/-- A copy of nothing is nil. -/
def copyPart (part : List UInt8) : Option (List UInt8) :=
  if part = [] then none else some part

/-- One round of the search for the part a map hash belongs to. -/
def matchPart (r : IncomingResource) (mh : MapHash) (idx : Int)
    (found : Option Int) : Checked (Next (Option Int)) := do
  let set ← fetch r.hashmapSet idx
  if !set then pure (.next found)
  else
    let hash ← fetch r.hashmap idx
    if hash ≠ mh then pure (.next found)
    else
      let part ← fetch r.parts idx
      if part.isSome then pure (.next found) else pure (.stop (some idx))

def advanceConsecutive (parts : List (Option (List UInt8)))
    (totalParts consecutive : Int) : Checked Int :=
  forRange (consecutive + 1) totalParts (fun cp c => do
      let part ← fetch parts cp
      pure (if part.isSome then .next cp else .stop c)) consecutive

/-- The resource with the part, if the part belongs to its window. -/
def IncomingResource.takePart (p : Primitives) (r : IncomingResource)
    (part : List UInt8) : Checked (Option IncomingResource) := do
  let start := r.consecutive + 1
  let found ← forRange start (min (start + r.window) r.totalParts)
    (matchPart r (mapHash p part r.randomHash)) none
  match found with
  | none => pure none
  | some idx =>
    let parts ← store r.parts idx (copyPart part)
    let consecutive ← advanceConsecutive parts r.totalParts r.consecutive
    pure (some
      { r with
        parts := parts
        received := r.received + 1
        outstanding := r.outstanding - 1
        consecutive := consecutive })

def IncomingResource.growWindow (r : IncomingResource) : IncomingResource :=
  if r.window < r.windowMax then
    { r with
      window := r.window + 1
      windowMin :=
        if r.window + 1 - r.windowMin > resourceWindowFlex - 1 then
          r.windowMin + 1
        else r.windowMin }
  else r

def Link.concludeFailed (l : Link) (r : IncomingResource) (cause : ResourceFailure) : Outcome :=
  (l.deleteIncoming r.hash, [.incomingFailed r.hash cause])

/-- The data of a decrypted stream. -/
def IncomingResource.unpack (p : Primitives) (r : IncomingResource)
    (plain : List UInt8) : Except ResourceFailure (List UInt8) :=
  if r.compressed then
    match p.bunzip2 (plain.drop resourceRandomHashLen) with
    | none => .error .decompress
    | some data => .ok data
  else .ok (plain.drop resourceRandomHashLen)

section
variable (p : Primitives) (l : Link)

def Link.assembled (r : IncomingResource) : Except ResourceFailure (List UInt8) :=
  match l.decrypt (r.parts.flatMap fun part => part.getD []) with
  | .error _ => .error .decrypt
  | .ok plain =>
    if plain.length < resourceRandomHashLen then .error .decrypt
    else
      match r.unpack p plain with
      | .error cause => .error cause
      | .ok data =>
        if resourceHash p data r.randomHash ≠ r.hash then
          .error .hashMismatch
        else .ok data

def Link.assemble (env : Env) (r : IncomingResource) : Outcome :=
  match l.assembled p r with
  | .error cause => l.concludeFailed r cause
  | .ok data =>
    let (l, sent) := l.sendLinkPacket env .proof contextResourcePRF
      (r.hash.bytes ++ (resourceProof p data r.hash).bytes) (some r.hash)
    (l.deleteIncoming r.hash, sent ++ [.received r.hash data])

def Link.afterPart (env : Env) (r : IncomingResource) : Checked Outcome :=
  let r := { r with lastActivity := env.now, retries := 0 }
  if r.received = r.totalParts then
    .ok (l.assemble p env { r with state := .assembling })
  else if r.outstanding ≤ 0 then l.requestNext env (env.iv 0) r.growWindow
  else .ok (l.putIncoming r, [])

end

namespace Link

def receivePartOf (p : Primitives) (l : Link) (env : Env)
    (part : List UInt8) : List IncomingResource → Checked Outcome
  | [] => .ok (l, [])
  | r :: rest =>
    if r.state ≠ .transferring then l.receivePartOf p env part rest
    else do
      match ← r.takePart p part with
      | none => l.receivePartOf p env part rest
      | some r => l.afterPart p env r

/-- The resources being received, in the order in which the map is visited. -/
def incomingInOrder (l : Link) (env : Env) : List IncomingResource :=
  l.incoming.entries.insertionSort fun a b => env.rank a.hash ≤ env.rank b.hash

def outgoingInOrder (l : Link) (env : Env) : List OutgoingResource :=
  l.outgoing.entries.insertionSort fun a b => env.rank a.hash ≤ env.rank b.hash

def receivePart (p : Primitives) (l : Link) (env : Env) (part : List UInt8) : Checked Outcome :=
  l.receivePartOf p env part (l.incomingInOrder env)

def cancelIncoming (l : Link) (hash : FullHash) : Outcome :=
  match l.incoming.get? hash with
  | none => (l, [])
  | some r => l.concludeFailed r .cancelled

def rejectOutgoing (l : Link) (hash : FullHash) : Outcome :=
  match l.outgoing.get? hash with
  | none => (l, [])
  | some r => l.failOutgoing r .rejected

/-- The peer cancels a resource it sends or rejects one that is sent to it. -/
def handleCancel (l : Link) (plain : List UInt8) : Outcome :=
  if plain.length ≠ fullHashLen then (l, [])
  else
    let hash := FixedBytes.copy fullHashLen plain
    let (l, first) := l.cancelIncoming hash
    let (l, others) := l.rejectOutgoing hash
    (l, first ++ others)

/-! ## Retries -/

/-- The round trip time the timeouts of the resources use. -/
def watchedRTT (l : Link) : Int := max l.rtt 100000000

def partsTimeout (l : Link) (r : IncomingResource) : Int :=
  max (4 * l.watchedRTT + resourceRetryGrace + r.retries * resourcePerRetryDelay) 2000000000

def watchIncoming (l : Link) (env : Env) (timeout : Int)
    (iv : FixedBytes aesBlockSize) (r : IncomingResource) : Checked Outcome :=
  if r.state = .transferring ∧ env.now > r.lastActivity + timeout then
    if r.retries ≥ resourceMaxRetries then
      .ok (l.concludeFailed r .partsTimeout)
    else
      l.requestNext env iv
        { r with
          retries := r.retries + 1
          window := if r.window > r.windowMin then r.window - 1 else r.window
          waitingHMU := false
          lastActivity := env.now }
  else .ok (l, [])

def watchOutgoing (l : Link) (env : Env)
    (iv : FixedBytes aesBlockSize) (r : OutgoingResource) : Checked Outcome :=
  match r.state with
  | .advertised =>
    if env.now > r.advSent + (6 * l.watchedRTT + resourceProcessingGrac) then
      if r.advRetries ≥ resourceMaxAdvRetries then
        .ok (l.failOutgoing r .noRequests)
      else l.advertise env iv { r with advRetries := r.advRetries + 1 }
    else .ok (l, [])
  | .transferring | .awaitingProof =>
    if env.now > r.lastActivity + (6 * l.watchedRTT * resourceMaxRetries + resourceSenderGrace) then
      .ok (l.failOutgoing r .receiverTimeout)
    else .ok (l, [])
  | .complete | .failed => .ok (l, [])

def watchAllIncoming (l : Link) (env : Env) : Nat → List IncomingResource → Checked Outcome
  | _, [] => .ok (l, [])
  | k, r :: rest => do
      let (l, first) ← l.watchIncoming env (l.partsTimeout r) (env.iv k) r
      let (l, others) ← l.watchAllIncoming env (k + 1) rest
      pure (l, first ++ others)

def watchAllOutgoing (l : Link) (env : Env) : Nat → List OutgoingResource → Checked Outcome
  | _, [] => .ok (l, [])
  | k, r :: rest => do
      let (l, first) ← l.watchOutgoing env (env.iv k) r
      let (l, others) ← l.watchAllOutgoing env (k + 1) rest
      pure (l, first ++ others)

/-- Requests and advertisements are retried, transfers time out. -/
def resourceWatchdog (l : Link) (env : Env) : Checked Outcome := do
  let incoming := l.incomingInOrder env
  let outgoing := l.outgoingInOrder env
  let (l, first) ← l.watchAllIncoming env 0 incoming
  let (l, others) ← l.watchAllOutgoing env incoming.length outgoing
  pure (l, first ++ others)

end Link

end MeshSat.Rns
