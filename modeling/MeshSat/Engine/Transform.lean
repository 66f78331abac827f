import MeshSat.Engine.FecProfiles
import MeshSat.Engine.Smaz2g

/-!
# Transform chains

A payload goes out through a chain of transforms, one after the other, and
comes in through the reverse steps in the opposite order. Some steps fall back
to another coder, or to none, on the way out only.
-/

namespace MeshSat.Engine

open MeshSat.Compress List

/-! ## Steps -/

inductive TransformType where
  | zstd | base64 | smaz2 | smaz2g | llamazip | msvqsc | fec | encrypt | decrypt
  | unknown (name : String)
  deriving DecidableEq

def TransformType.name : TransformType → String
  | .zstd => "zstd"
  | .base64 => "base64"
  | .smaz2 => "smaz2"
  | .smaz2g => "smaz2g"
  | .llamazip => "llamazip"
  | .msvqsc => "msvqsc"
  | .fec => "fec"
  | .encrypt => "encrypt"
  | .decrypt => "decrypt"
  | .unknown name => name

structure TransformSpec where
  type : TransformType
  params : Params
  deriving DecidableEq

def smaz2Dict (t : TransformSpec) : Dictionary :=
  if t.params.get "dict" = "meshtastic" then .dictMeshtastic else .dictDefault

/-! ## What the pipeline is connected to -/

structure Nonce where
  bytes : List UInt8
  length_eq : bytes.length = 12

/-- The libraries that the steps call. -/
structure Codecs where
  unmarshal : String → Except String (List TransformSpec)
  (zstdEncodeAll zstdDecodeAll : List UInt8 → Except String (List UInt8))
  base64Encode : List UInt8 → List UInt8
  base64Decode : List UInt8 → Except String (List UInt8)
  standard : Standard
  reedSolomon : ReedSolomon
  hexDecodeString : String → Except String (List UInt8)
  (newCipher newGCM : List UInt8 → Except String Unit)
  gcmSeal : List UInt8 → Nonce → List UInt8 → List UInt8
  gcmOpen : List UInt8 → Nonce → List UInt8 → Except String (List UInt8)

structure LlamaZipClient where
  isReady : Bool
  (compress decompress : List UInt8 → Except String (List UInt8))

structure MSVQSCClient where
  isReady : Bool
  encode : List UInt8 → Int → Except String (List UInt8)
  decode : List UInt8 → Except String (List UInt8)

/-- One end's sidecars, codebook and key resolvers. -/
structure TransformPipeline where
  llamazip : Option LlamaZipClient
  msvqsc : Option MSVQSCClient
  codebook : Option (List UInt8 → Except String (List UInt8))
  (keyResolver contactKeyResolver : Option (String → Except String String))

/-! ## Keys -/

inductive StepError where
  | library (cause : String)
  | smaz2 (error : DecompressError)
  | smaz2g (error : FrameError)
  | fec (error : FecError)
  | noKey | noContactKeyResolver | noKeyResolver
  | invalidKey (action cause : String)
  | keyLength (action : String) (length : Nat)
  | createCipher (cause : String)
  | createGCM (cause : String)
  | generateNonce (cause : String)
  | ciphertextShort
  | decrypt (cause : String)
  | llamazipUnavailable
  | llamazipDecompress (cause : String)
  | msvqscCodebook (cause : String)
  | msvqscSidecar (cause : String)
  | msvqscUnavailable
  | unknownType (direction name : String)
  deriving DecidableEq

def StepError.text : StepError → String
  | .library cause => cause
  | .smaz2 error => error.text
  | .smaz2g error => error.text
  | .fec error => error.text
  | .noKey => "encrypt transform requires 'key' or 'key_ref' param"
  | .noContactKeyResolver =>
    "encrypt transform uses contact:<uuid> key_ref but no " ++ "ContactKeyResolver configured"
  | .noKeyResolver => "encrypt transform uses key_ref but no KeyResolver configured"
  | .invalidKey action cause => "invalid " ++ action ++ " key: " ++ cause
  | .keyLength action length => action ++ " key must be 32 bytes (got " ++ toString length ++ ")"
  | .createCipher cause => "create cipher: " ++ cause
  | .createGCM cause => "create GCM: " ++ cause
  | .generateNonce cause => "generate nonce: " ++ cause
  | .ciphertextShort => "ciphertext too short (need at least 12 bytes for nonce)"
  | .decrypt cause => "decrypt: " ++ cause
  | .llamazipUnavailable => "llamazip sidecar not available for decompression"
  | .llamazipDecompress cause => "llamazip decompress: " ++ cause
  | .msvqscCodebook cause => "msvqsc codebook decode: " ++ cause
  | .msvqscSidecar cause => "msvqsc sidecar decode: " ++ cause
  | .msvqscUnavailable => "msvqsc: neither codebook nor sidecar available for decode"
  | .unknownType direction name => "unknown " ++ direction ++ " transform type " ++ name.quote

def resolveEncryptKey (tp : TransformPipeline) (t : TransformSpec) : Except StepError String :=
  let key := t.params.get "key"
  if key ≠ "" then .ok key
  else
    let ref := t.params.get "key_ref"
    if ref = "" then .error .noKey
    else if "contact:".isPrefixOf ref then
      match tp.contactKeyResolver with
      | none => .error .noContactKeyResolver
      | some resolve => (resolve (ref.drop "contact:".length).toString).mapError .library
    else
      match tp.keyResolver with
      | none => .error .noKeyResolver
      | some resolve => (resolve ref).mapError .library

/-- The key and its cipher, as both directions set them up. -/
def gcmKey (codecs : Codecs) (action hexKey : String) : Except StepError (List UInt8) :=
  match codecs.hexDecodeString hexKey with
  | .error cause => .error (.invalidKey action cause)
  | .ok key =>
    if key.length ≠ 32 then .error (.keyLength action key.length)
    else
      match codecs.newCipher key, codecs.newGCM key with
      | .error cause, _ => .error (.createCipher cause)
      | .ok (), .error cause => .error (.createGCM cause)
      | .ok (), .ok () => .ok key

def encryptAESGCM (codecs : Codecs) (nonce : Except String Nonce)
    (data : List UInt8) (hexKey : String) : Except StepError (List UInt8) :=
  match gcmKey codecs "encryption" hexKey with
  | .error error => .error error
  | .ok key =>
    match nonce with
    | .error cause => .error (.generateNonce cause)
    | .ok nonce => .ok (nonce.bytes ++ codecs.gcmSeal key nonce data)

def decryptAESGCM (codecs : Codecs) (data : List UInt8) (hexKey : String) :
    Except StepError (List UInt8) :=
  match gcmKey codecs "decryption" hexKey with
  | .error error => .error error
  | .ok key =>
    if enough : data.length < 12 then .error .ciphertextShort
    else
      let nonce : Nonce :=
        { bytes := data.take 12
          length_eq := by rw [length_take]; omega }
      (codecs.gcmOpen key nonce (data.drop 12)).mapError .decrypt

/-! ## The way out -/

def suggestStages : String → Int
  | "zigbee" => 2
  | "cellular" => 3
  | "mesh" => 4
  | "iridium" => 6
  | _ => 8

def msvqscStages (t : TransformSpec) : Int :=
  let s := t.params.get "stages"
  if s = "auto" then suggestStages (t.params.get "channel")
  else digits s

/-- The sidecar's answer, if there is one. -/
def TransformPipeline.llamazipCompress (tp : TransformPipeline)
    (data : List UInt8) : Option (List UInt8) :=
  tp.llamazip.bind fun client =>
    if client.isReady then (client.compress data).toOption else none

def TransformPipeline.msvqscEncode (tp : TransformPipeline)
    (t : TransformSpec) (data : List UInt8) : Option (List UInt8) :=
  tp.msvqsc.bind fun client =>
    if client.isReady then (client.encode data (msvqscStages t)).toOption
    else none

/-- The interleaving is passed on only where there is one. -/
def FECProfile.opts (profile : FECProfile) : List EncodeOpts :=
  if profile.interleave then
    [{ interleave := true, interleaveDepth := profile.interleaveDepth }]
  else []

def fecStep (codecs : Codecs) (t : TransformSpec) (data : List UInt8) :
    Except StepError (List UInt8) :=
  let profile := resolveFECParams t.params
  if profile.dataShards = 0 ∨ profile.parityShards = 0 then .ok data
  else
    (fecEncode codecs.reedSolomon data profile.dataShards profile.parityShards
      profile.opts).mapError .fec

def applyTransform (codecs : Codecs) (tp : TransformPipeline)
    (nonce : Except String Nonce) (t : TransformSpec) (data : List UInt8) :
    Except StepError (List UInt8) :=
  match t.type with
  | .zstd => (codecs.zstdEncodeAll data).mapError .library
  | .base64 => .ok (codecs.base64Encode data)
  | .smaz2 => .ok (codecs.standard.compress data (smaz2Dict t))
  | .smaz2g => .ok (encodeSmaz2g codecs.standard data (smaz2Dict t))
  | .llamazip =>
    match tp.llamazipCompress data with
    | some compressed => .ok compressed
    | none => .ok (codecs.standard.compress data .dictMeshtastic)
  | .msvqsc =>
    match tp.msvqscEncode t data with
    | some encoded => .ok encoded
    | none => .ok (codecs.standard.compress data .dictMeshtastic)
  | .fec => fecStep codecs t data
  | .encrypt =>
    match resolveEncryptKey tp t with
    | .error error => .error error
    | .ok hexKey => encryptAESGCM codecs nonce data hexKey
  | .decrypt => .error (.unknownType "egress" "decrypt")
  | .unknown name => .error (.unknownType "egress" name)

inductive ChainError where
  | parse (direction cause : String)
  | step (direction : String) (type : TransformType) (error : StepError)
  deriving DecidableEq

def ChainError.text : ChainError → String
  | .parse direction cause => "parse " ++ direction ++ " transforms: " ++ cause
  | .step direction type error =>
    direction ++ " transform " ++ type.name.quote ++ ": " ++ error.text

def parseTransforms (codecs : Codecs) (transformsJSON : String) :
    Except String (List TransformSpec) :=
  if transformsJSON = "" ∨ transformsJSON = "[]" then .ok []
  else codecs.unmarshal transformsJSON

/-- The steps in order; each encryption draws its own nonce. -/
def applySteps (codecs : Codecs) (tp : TransformPipeline) (nonces : Nat → Except String Nonce) :
    Nat → List TransformSpec → List UInt8 → Except ChainError (List UInt8)
  | _, [], data => .ok data
  | position, t :: transforms, data =>
    match applyTransform codecs tp (nonces position) t data with
    | .error error => .error (.step "egress" t.type error)
    | .ok result => applySteps codecs tp nonces (position + 1) transforms result

def applyEgress (codecs : Codecs) (tp : TransformPipeline)
    (nonces : Nat → Except String Nonce) (data : List UInt8)
    (transformsJSON : String) : Except ChainError (List UInt8) :=
  match parseTransforms codecs transformsJSON with
  | .error cause => .error (.parse "egress" cause)
  | .ok transforms => applySteps codecs tp nonces 0 transforms data

/-! ## The way in -/

def TransformPipeline.llamazipDecompress (tp : TransformPipeline)
    (data : List UInt8) : Except StepError (List UInt8) :=
  match tp.llamazip with
  | none => .error .llamazipUnavailable
  | some client =>
    if client.isReady then
      (client.decompress data).mapError .llamazipDecompress
    else .error .llamazipUnavailable

def TransformPipeline.msvqscDecode (tp : TransformPipeline)
    (data : List UInt8) : Except StepError (List UInt8) :=
  match tp.codebook with
  | some decodeIndices => (decodeIndices data).mapError .msvqscCodebook
  | none =>
    match tp.msvqsc with
    | none => .error .msvqscUnavailable
    | some client =>
      if client.isReady then (client.decode data).mapError .msvqscSidecar
      else .error .msvqscUnavailable

def reverseTransform (codecs : Codecs) (tp : TransformPipeline)
    (t : TransformSpec) (data : List UInt8) : Except StepError (List UInt8) :=
  match t.type with
  | .zstd => (codecs.zstdDecodeAll data).mapError .library
  | .base64 => (codecs.base64Decode data).mapError .library
  | .smaz2 => (codecs.standard.decompress data (smaz2Dict t)).mapError .smaz2
  | .smaz2g => (decodeSmaz2g codecs.standard data (smaz2Dict t)).mapError .smaz2g
  | .llamazip => tp.llamazipDecompress data
  | .msvqsc => tp.msvqscDecode data
  | .fec => (fecDecode codecs.reedSolomon data).mapError .fec
  | .encrypt | .decrypt =>
    match resolveEncryptKey tp t with
    | .error error => .error error
    | .ok hexKey => decryptAESGCM codecs data hexKey
  | .unknown name => .error (.unknownType "ingress" name)

def reverseSteps (codecs : Codecs) (tp : TransformPipeline) :
    List TransformSpec → List UInt8 → Except ChainError (List UInt8)
  | [], data => .ok data
  | t :: transforms, data =>
    match reverseTransform codecs tp t data with
    | .error error => .error (.step "ingress" t.type error)
    | .ok result => reverseSteps codecs tp transforms result

def applyIngress (codecs : Codecs) (tp : TransformPipeline)
    (data : List UInt8) (transformsJSON : String) : Except ChainError (List UInt8) :=
  match parseTransforms codecs transformsJSON with
  | .error cause => .error (.parse "ingress" cause)
  | .ok transforms => reverseSteps codecs tp transforms.reverse data

/-! ## One step and its reverse -/

/-- Each library reads back what it wrote. -/
structure Codecs.Invert (codecs : Codecs) : Prop where
  zstd : ∀ data out, codecs.zstdEncodeAll data = .ok out → codecs.zstdDecodeAll out = .ok data
  base64 : ∀ data, codecs.base64Decode (codecs.base64Encode data) = .ok data
  standard : codecs.standard.Inverts
  reedSolomon : codecs.reedSolomon.Lawful
  gcm : ∀ key nonce data, codecs.gcmOpen key nonce (codecs.gcmSeal key nonce data) = .ok data

/-- What the sender's sidecars answer, the receiver's decoders undo. -/
structure Answers (sender receiver : TransformPipeline) : Prop where
  llamazip : ∀ data out, sender.llamazipCompress data = some out →
    receiver.llamazipDecompress out = .ok data
  msvqsc : ∀ t data out, sender.msvqscEncode t data = some out →
    receiver.msvqscDecode out = .ok data

/-- A sidecar step that goes out in SMAZ2. -/
def fellBack (tp : TransformPipeline) (t : TransformSpec) (data : List UInt8) : Bool :=
  match t.type with
  | .llamazip => (tp.llamazipCompress data).isNone
  | .msvqsc => (tp.msvqscEncode t data).isNone
  | _ => false

/-- An error correction step has shards, and a depth that its header states. -/
def fecStated (t : TransformSpec) : Bool :=
  let profile := resolveFECParams t.params
  t.type ≠ .fec ∨ profile.dataShards ≠ 0 ∧ profile.parityShards ≠ 0 ∧
    (profile.interleave → profile.interleaveDepth ≤ 16)

lemma ok_of_mapError {ε δ α : Type} {result : Except ε α} {value : α}
    {name : ε → δ} (accepted : result.mapError name = .ok value) : result = .ok value := by
  cases result with
  | error error => exact nomatch accepted
  | ok found => rw [Except.ok.inj accepted]

variable {codecs : Codecs} {nonce : Except String Nonce} {data out : List UInt8}
  {sender receiver : TransformPipeline}

lemma gcmKey_other (found : gcmKey codecs action hexKey = .ok key) (other : String) :
    gcmKey codecs other hexKey = .ok key := by
  rw [gcmKey] at found ⊢
  split at found
  · exact nomatch found
  · split at found
    · exact nomatch found
    rename_i long
    rw [if_neg long]
    split at found
    · exact nomatch found
    · exact nomatch found
    · exact found

lemma decryptAESGCM_encryptAESGCM (invert : codecs.Invert)
    (encrypted : encryptAESGCM codecs nonce data hexKey = .ok out) :
    decryptAESGCM codecs out hexKey = .ok data := by
  rw [encryptAESGCM] at encrypted
  split at encrypted
  · exact nomatch encrypted
  rename_i key found
  split at encrypted
  · exact nomatch encrypted
  rename_i nonce
  have whole := Except.ok.inj encrypted
  have first : out.take 12 = nonce.bytes := by rw [← whole, take_left' nonce.length_eq]
  have rest : out.drop 12 = codecs.gcmSeal key nonce data := by
    rw [← whole, drop_left' nonce.length_eq]
  have enough : ¬ out.length < 12 := by
    rw [← whole, length_append, nonce.length_eq]
    omega
  rw [decryptAESGCM, gcmKey_other found]
  simp only [dif_neg enough, first, rest, invert.gcm]
  rfl

variable {t : TransformSpec}

lemma fecDecode_fecStep (invert : codecs.Invert) (fec : t.type = .fec) (stated : fecStated t)
    (encoded : fecStep codecs t data = .ok out) : fecDecode codecs.reedSolomon out = .ok data := by
  simp only [fecStated, fec, ne_eq, not_true_eq_false, false_or, decide_eq_true_eq] at stated
  obtain ⟨dataShards, parityShards, shallow⟩ := stated
  simp only [fecStep] at encoded
  rw [if_neg (by simp [dataShards, parityShards])] at encoded
  apply fecDecode_fecEncode invert.reedSolomon ?_ (ok_of_mapError encoded)
  rw [FECProfile.opts]
  split
  next interleave => exact fun _ => shallow interleave
  · exact fun impossible => nomatch impossible

lemma reverseTransform_applyTransform (invert : codecs.Invert) (answers : Answers sender receiver)
    (sameKey : resolveEncryptKey sender t = resolveEncryptKey receiver t)
    (stated : fecStated t) (direct : fellBack sender t data = false)
    (applied : applyTransform codecs sender nonce t data = .ok out) :
    reverseTransform codecs receiver t out = .ok data := by
  rw [applyTransform] at applied
  rw [reverseTransform]
  cases type : t.type with
  | zstd =>
    simp only [type] at applied ⊢
    rw [invert.zstd data out (ok_of_mapError applied)]
    rfl
  | base64 =>
    simp only [type] at applied ⊢
    rw [← Except.ok.inj applied, invert.base64]
    rfl
  | smaz2 =>
    simp only [type] at applied ⊢
    rw [← Except.ok.inj applied, invert.standard.decompress_compress]
    rfl
  | smaz2g =>
    simp only [type] at applied ⊢
    rw [← Except.ok.inj applied, decodeSmaz2g_encodeSmaz2g
      (invert.standard.decompress_compress data _)]
    rfl
  | llamazip =>
    simp only [type, fellBack] at applied direct ⊢
    split at applied
    next compressed answered =>
      rw [← Except.ok.inj applied]
      exact answers.llamazip data compressed answered
    next unanswered =>
      rw [unanswered] at direct
      exact nomatch direct
  | msvqsc =>
    simp only [type, fellBack] at applied direct ⊢
    split at applied
    next encoded answered =>
      rw [← Except.ok.inj applied]
      exact answers.msvqsc t data encoded answered
    next unanswered =>
      rw [unanswered] at direct
      exact nomatch direct
  | fec =>
    simp only [type] at applied ⊢
    rw [fecDecode_fecStep invert type stated applied]
    rfl
  | encrypt =>
    simp only [type, ← sameKey] at applied ⊢
    split at applied
    · exact nomatch applied
    next hexKey resolved =>
      exact decryptAESGCM_encryptAESGCM invert applied
  | decrypt =>
    simp only [type] at applied
    exact nomatch applied
  | unknown name =>
    simp only [type] at applied
    exact nomatch applied

/-! ## Chains -/

/-- No step of the way out fell back. -/
def carriedOut (codecs : Codecs) (tp : TransformPipeline) (nonces : Nat → Except String Nonce) :
    Nat → List TransformSpec → List UInt8 → Bool
  | _, [], _ => true
  | position, t :: transforms, data =>
    !fellBack tp t data &&
      match applyTransform codecs tp (nonces position) t data with
      | .error _ => true
      | .ok result => carriedOut codecs tp nonces (position + 1) transforms result

lemma reverseSteps_append (codecs : Codecs) (tp : TransformPipeline)
    (first second : List TransformSpec) (passed : reverseSteps codecs tp first data = .ok middle) :
    reverseSteps codecs tp (first ++ second) data = reverseSteps codecs tp second middle := by
  induction first generalizing data with
  | nil => rw [nil_append, Except.ok.inj passed]
  | cons t first induction =>
    rw [reverseSteps] at passed
    rw [cons_append, reverseSteps]
    split at passed
    · exact nomatch passed
    · exact induction passed

lemma reverseSteps_applySteps (invert : codecs.Invert)
    (answers : Answers sender receiver) (sameKeys : ∀ t ∈ transforms,
      resolveEncryptKey sender t = resolveEncryptKey receiver t)
    (stated : ∀ t ∈ transforms, fecStated t)
    (direct : carriedOut codecs sender nonces position transforms data)
    (applied : applySteps codecs sender nonces position transforms data = .ok out) :
    reverseSteps codecs receiver transforms.reverse out = .ok data := by
  induction transforms generalizing position data with
  | nil =>
    rw [← Except.ok.inj applied]
    rfl
  | cons t transforms induction =>
    rw [applySteps] at applied
    split at applied
    · exact nomatch applied
    rename_i result stepped
    simp only [carriedOut, stepped, Bool.and_eq_true, Bool.not_eq_true'] at direct
    have rest := induction (fun other among => sameKeys other (mem_cons_of_mem _ among))
      (fun other among => stated other (mem_cons_of_mem _ among)) direct.2 applied
    have back := reverseTransform_applyTransform invert answers
      (sameKeys t mem_cons_self) (stated t mem_cons_self) direct.1 stepped
    rw [reverse_cons, reverseSteps_append codecs receiver _ _ rest, reverseSteps, back]
    rfl

/-- A chain whose sidecar steps were answered and whose error correction steps
state what they do gives the payload back. -/
theorem transform_chain_inverts (codecs : Codecs) (invert : codecs.Invert)
    (sender receiver : TransformPipeline) (answers : Answers sender receiver)
    (nonces : Nat → Except String Nonce) (payload out : List UInt8)
    (transformsJSON : String) (chain : List TransformSpec)
    (parsed : parseTransforms codecs transformsJSON = .ok chain) (sameKeys : ∀ t ∈ chain,
      resolveEncryptKey sender t = resolveEncryptKey receiver t)
    (stated : ∀ t ∈ chain, fecStated t = true)
    (direct : carriedOut codecs sender nonces 0 chain payload = true)
    (egress : applyEgress codecs sender nonces payload transformsJSON = .ok out) :
    applyIngress codecs receiver out transformsJSON = .ok payload := by
  simp only [applyEgress, parsed] at egress
  simp only [applyIngress, parsed]
  exact reverseSteps_applySteps invert answers sameKeys stated direct egress

/-! ## A pipeline to try -/

def readRuns : List UInt8 → Except DecompressError (List UInt8)
  | [] => .ok []
  | 1 :: b :: rest => (readRuns rest).map (b :: ·)
  | _ => .error .panic

/-- A coder that writes every byte as a run of its own. -/
def runs : Standard :=
  { compressBytes := fun text => text.flatMap fun b => [1, b]
    decompressToBytes := readRuns }

lemma runs_escape (b : UInt8) : runs.Reads [1, b] [b] := by
  intro rest tail read
  change readRuns rest = .ok tail at read
  change (readRuns rest).map (b :: ·) = .ok (b :: tail)
  rw [read]
  rfl

lemma runs_inverts : runs.Inverts := by
  refine ⟨rfl, fun text plain => ?_, runs_escape⟩
  clear plain
  induction text with
  | nil => exact Standard.Reads.empty
  | cons b text induction => exact (runs_escape b).append induction

/-- Libraries that hand everything on, and a chain that is given. -/
def plainCodecs (chain : List TransformSpec) : Codecs :=
  { unmarshal := fun _ => .ok chain
    zstdEncodeAll := .ok
    zstdDecodeAll := .ok
    base64Encode := id
    base64Decode := .ok
    standard := runs
    reedSolomon := repetition
    hexDecodeString := fun _ => .ok (List.replicate 32 0)
    newCipher := fun _ => .ok ()
    newGCM := fun _ => .ok ()
    gcmSeal := fun _ _ data => data
    gcmOpen := fun _ _ data => .ok data }

lemma plainCodecs_invert (chain : List TransformSpec) : (plainCodecs chain).Invert := by
  constructor
  · intro data out encoded
    rw [← Except.ok.inj encoded]
    rfl
  · exact fun _ => rfl
  · exact runs_inverts
  · exact repetition_lawful
  · exact fun _ _ _ => rfl

/-- An end without sidecars, codebook or key resolvers. -/
def bare : TransformPipeline :=
  { llamazip := none
    msvqsc := none
    codebook := none
    keyResolver := none
    contactKeyResolver := none }

lemma bare_answers : Answers bare bare :=
  { llamazip := fun _ _ answered => nomatch answered
    msvqsc := fun _ _ _ answered => nomatch answered }

def zeroNonce : Nonce :=
  { bytes := List.replicate 12 0
    length_eq := rfl }

def radioChain : List TransformSpec :=
  [ { type := .smaz2, params := [] }, { type := .encrypt, params := [("key", "00")] },
    { type := .fec, params := [("profile", "lora")] }, { type := .base64, params := [] } ]

theorem transform_chain_radio : ∃ out,
      applyEgress (plainCodecs radioChain) bare (fun _ => .ok zeroNonce)
        [104, 105] "radio" = .ok out ∧ applyIngress (plainCodecs radioChain) bare out "radio" =
        .ok [104, 105] := by
  have accepted : (applyEgress (plainCodecs radioChain) bare
      (fun _ => .ok zeroNonce) [104, 105] "radio").isOk := by
    decide +kernel
  cases egress : applyEgress (plainCodecs radioChain) bare
      (fun _ => .ok zeroNonce) [104, 105] "radio" with
  | error error =>
    rw [egress] at accepted
    exact nomatch accepted
  | ok out =>
    refine ⟨out, rfl, ?_⟩
    exact transform_chain_inverts _ (plainCodecs_invert _) bare bare
      bare_answers _ _ out "radio" radioChain rfl (fun _ _ => rfl)
      (by decide +kernel) (by decide +kernel) egress

def llamazipChain : List TransformSpec := [{ type := .llamazip, params := [] }]

def tcpChain : List TransformSpec := [{ type := .fec, params := [("profile", "tcp")] }]

/-- Without its sidecar a `llamazip` step goes out in SMAZ2, which nothing
reads on the way in; and a profile without error correction goes out as it is,
which is read as if it had a header. -/
theorem transform_chain_not_read : ((plainCodecs llamazipChain).Invert ∧ Answers bare bare ∧ ∃ out,
        applyEgress (plainCodecs llamazipChain) bare (fun _ => .ok zeroNonce)
          [104, 105] "llamazip" = .ok out ∧
        applyIngress (plainCodecs llamazipChain) bare out "llamazip" =
          .error (.step "ingress" .llamazip .llamazipUnavailable)) ∧
    ((plainCodecs tcpChain).Invert ∧ Answers bare bare ∧
      applyEgress (plainCodecs tcpChain) bare (fun _ => .ok zeroNonce)
        [104, 105] "tcp" = .ok [104, 105] ∧
      applyIngress (plainCodecs tcpChain) bare [104, 105] "tcp" =
        .error (.step "ingress" .fec (.fec (.headerShort 2)))) := by
  refine ⟨⟨plainCodecs_invert _, bare_answers, _, rfl, rfl⟩,
    plainCodecs_invert _, bare_answers, ?_, ?_⟩
  · decide +kernel
  · decide +kernel

end MeshSat.Engine
