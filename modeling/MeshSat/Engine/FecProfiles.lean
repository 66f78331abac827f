import MeshSat.Engine.Fec

/-!
# Error correction profiles

The numbers of shards and the interleaving for each kind of channel, and how a
transform step's parameters choose between a profile, explicit numbers and the
defaults.
-/

namespace MeshSat.Engine

abbrev Params := List (String × String)

def Params.get (params : Params) (key : String) : String := (params.lookup key).getD ""

/-- The digits of a text as a number of 64 bits, whatever stands between
them. -/
def digits (text : String) : Int :=
  text.toList.foldl (fun v c =>
      if '0' ≤ c ∧ c ≤ '9' then
        Int.bmod (v * 10 + (c.toNat - '0'.toNat : Nat)) (2 ^ 64)
      else v) 0

def parseIntParam (params : Params) (key : String) (defVal : Int) : Int :=
  let s := params.get key
  if s = "" then defVal
  else
    let v := digits s
    if v = 0 then defVal else v

structure FECProfile where
  (dataShards parityShards : Int)
  interleave : Bool
  interleaveDepth : Int

def fecProfiles : List (String × FECProfile) :=
  [ ("lora", ⟨4, 2, true, 8⟩), ("mesh", ⟨4, 2, true, 8⟩), ("sbd", ⟨6, 2, false, 0⟩),
    ("iridium", ⟨6, 2, false, 0⟩), ("imt", ⟨8, 2, false, 0⟩), ("iridium_imt", ⟨8, 2, false, 0⟩),
    ("ax25", ⟨4, 3, true, 16⟩), ("tcp", ⟨0, 0, false, 0⟩), ("mqtt", ⟨0, 0, false, 0⟩),
    ("webhook", ⟨0, 0, false, 0⟩), ("cellular", ⟨6, 2, false, 0⟩), ("sms", ⟨4, 2, false, 0⟩),
    ("zigbee", ⟨4, 2, true, 4⟩) ]

/-- The numbers of a profile, all zero where it has no error correction. -/
def FECProfile.params (profile : FECProfile) : FECProfile :=
  if profile.dataShards = 0 then ⟨0, 0, false, 0⟩ else profile

/-- The profile that a step names: its own name, or under `auto` its channel's
name. -/
def namedProfile (params : Params) : Option FECProfile :=
  let profile := params.get "profile"
  if profile = "auto" then fecProfiles.lookup (params.get "channel")
  else if profile ≠ "" then fecProfiles.lookup profile
  else none

/-- Explicit numbers, and defaults for those that are missing. -/
def explicitParams (params : Params) : FECProfile :=
  let ds := parseIntParam params "data_shards" 0
  let ps := parseIntParam params "parity_shards" 0
  if ds > 0 ∧ ps > 0 then
    let il : Bool := params.get "interleave" = "true"
    let ild := parseIntParam params "interleave_depth" 8
    { dataShards := ds
      parityShards := ps
      interleave := il
      interleaveDepth := if il then ild else 0 }
  else
    { dataShards := if ds = 0 then 4 else ds
      parityShards := if ps = 0 then 2 else ps
      interleave := false
      interleaveDepth := 0 }

def resolveFECParams (params : Params) : FECProfile :=
  match namedProfile params with
  | some profile => profile.params
  | none => explicitParams params

end MeshSat.Engine
