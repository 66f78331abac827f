import MeshSat.Compress.Meshtastic
import MeshSat.Dtn.Fragment

/-!
# SMAZ2 frames

A frame is one mode byte and then the text as it is, or its SMAZ2 where that
is shorter.
-/

namespace MeshSat.Engine

open MeshSat.Compress
open MeshSat.Dtn (hexByte)

def smaz2gRaw : UInt8 := 0x00
def smaz2gSmaz2 : UInt8 := 0x01

def encodeSmaz2g (standard : Standard) (data : List UInt8) (dict : Dictionary) : List UInt8 :=
  let z := standard.compress data dict
  if z.length < data.length then smaz2gSmaz2 :: z else smaz2gRaw :: data

inductive FrameError where
  | empty | noData | malformed
  | decompress (error : DecompressError)
  | unknownMode (mode : UInt8)
  deriving DecidableEq

def FrameError.text : FrameError → String
  | .empty => "smaz2g: empty frame, no mode byte"
  | .noData => "smaz2g: smaz2 mode with no data"
  | .malformed => "smaz2g: malformed smaz2 data"
  | .decompress error => error.text
  | .unknownMode mode => "smaz2g: unknown mode 0x" ++ hexByte mode

def decodeSmaz2g (standard : Standard) (frame : List UInt8)
    (dict : Dictionary) : Except FrameError (List UInt8) :=
  match frame with
  | [] => .error .empty
  | mode :: body =>
    if mode = smaz2gRaw then .ok body
    else if mode = smaz2gSmaz2 then
      if body = [] then .error .noData
      else
        match standard.decompress body dict with
        | .ok text => .ok text
        -- The decoder's panic is recovered.
        | .error .panic => .error .malformed
        | .error error => .error (.decompress error)
    else .error (.unknownMode mode)

section
variable {standard : Standard}

lemma decodeSmaz2g_encodeSmaz2g
    (back : standard.decompress (standard.compress data dict) dict = .ok data) :
    decodeSmaz2g standard (encodeSmaz2g standard data dict) dict = .ok data := by
  simp only [encodeSmaz2g]
  split
  next shorter =>
    have nonempty : data ≠ [] := by
      intro empty
      rw [empty] at shorter
      exact Nat.not_lt_zero _ shorter
    have written := Standard.compress_ne_nil back nonempty
    simp only [decodeSmaz2g, smaz2gRaw, smaz2gSmaz2, back, if_neg written]
    rfl
  · rfl

lemma length_encodeSmaz2g_le (data : List UInt8) (dict : Dictionary) :
    (encodeSmaz2g standard data dict).length ≤ data.length + 1 := by
  simp only [encodeSmaz2g]
  split
  next shorter =>
    rw [List.length_cons]
    omega
  · exact le_rfl

end

/-- SMAZ2 with the Meshtastic dictionary gives every text back, at most
doubles it, and in a frame adds at most the mode byte. -/
theorem smaz2_lossless_and_bounded (standard : Standard) (x : List UInt8) :
    decompressMeshtastic (compressMeshtastic x) = .ok x ∧
      (compressMeshtastic x).length ≤ 2 * x.length ∧
      decodeSmaz2g standard (encodeSmaz2g standard x .dictMeshtastic) .dictMeshtastic = .ok x ∧
      (encodeSmaz2g standard x .dictMeshtastic).length ≤ x.length + 1 := by
  refine ⟨decompressMeshtastic_compressMeshtastic x, ?_, ?_, ?_⟩
  · exact meshtastic.length_compress_le x
  · apply decodeSmaz2g_encodeSmaz2g
    exact Standard.decompress_compress_meshtastic x
  · exact length_encodeSmaz2g_le x .dictMeshtastic

end MeshSat.Engine
