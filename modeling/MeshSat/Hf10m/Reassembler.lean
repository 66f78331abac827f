import Mathlib
import MeshSat.Library.Keyed

/-!
# HF shouts in fragments

The receiver keeps the frames of a long text under its origin, message id and number of frames, for
as long as one is missing. The sender counts the ids from one again each time it starts.
-/

namespace MeshSat.Hf10m

open Library Keyed List

/-- What `Add` reads of a frame. -/
structure Frame where
  origin : String
  msgID : UInt16
  fragIndex : Nat
  fragTotal : Nat
  payload : List UInt8

/-- A text as it was cut for sending. -/
structure Message where
  origin : String
  msgID : UInt16
  parts : List (List UInt8)

def Message.text (m : Message) : List UInt8 := m.parts.flatten

/-- The frames `Fragment` makes of the parts. -/
def Message.frames (m : Message) : List Frame :=
  m.parts.mapIdx fun i part => ⟨m.origin, m.msgID, i, m.parts.length, part⟩

structure Series where
  key : String
  slots : List (Option (List UInt8))

abbrev Reassembler := Keyed Series.key

def Frame.key (f : Frame) : String := s!"{f.origin}/{f.msgID}/{f.fragTotal}"

/-- An empty payload is copied as nil, like a frame not seen. -/
def Frame.slot (f : Frame) : Option (List UInt8) := if f.payload = [] then none else some f.payload

namespace Reassembler

def slotsOf (r : Reassembler) (f : Frame) : List (Option (List UInt8)) :=
  ((r.get? f.key).map Series.slots).getD (replicate f.fragTotal none)

def add (r : Reassembler) (f : Frame) : Reassembler × Option (List UInt8) :=
  if f.fragTotal ≤ 1 then (r, some f.payload)
  else
    let slots := (r.slotsOf f).set f.fragIndex f.slot
    if none ∈ slots then (r.put ⟨f.key, slots⟩, none)
    else (r.deleteWhere (·.key = f.key), some (slots.flatMap (·.getD [])))

/-- The texts returned as complete. -/
def addAll : Reassembler → List Frame → List (List UInt8)
  | _, [] => []
  | r, f :: rest => (r.add f).2.toList ++ (r.add f).1.addAll rest

end Reassembler

/-- Every part received is the one that was sent. -/
def Fits (slots : List (Option (List UInt8))) (parts : List (List UInt8)) : Prop :=
  Forall₂ (fun slot part => ∀ got ∈ slot, got = part) slots parts

section

variable {slots : List (Option (List UInt8))} {parts : List (List UInt8)}

lemma fits_nothing (parts : List (List UInt8)) : Fits (replicate parts.length none) parts := by
  induction parts with
  | nil => exact .nil
  | cons part parts induction => exact .cons (by simp) induction

lemma Fits.set (fits : Fits slots parts)
    (own : ∀ got ∈ slot, parts[i]? = some got) : Fits (slots.set i slot) parts := by
  induction fits generalizing i with
  | nil => exact .nil
  | cons first rest induction =>
    cases i with
    | zero => exact .cons (fun got there => (Option.some.inj (own got there)).symm) rest
    | succ i => exact .cons first (induction own)

lemma Fits.whole (fits : Fits slots parts) (full : none ∉ slots) :
    slots.flatMap (·.getD []) = parts.flatten := by
  induction fits with
  | nil => rfl
  | @cons slot part slots parts first rest induction =>
    rw [mem_cons, not_or] at full
    obtain ⟨got, rfl⟩ := Option.ne_none_iff_exists'.mp (Ne.symm full.1)
    rw [flatMap_cons, induction full.2, Option.getD_some, first got rfl, flatten_cons]

end

/-- Messages whose frames go under one key are the same. -/
def Unshared (sent : List Message) : Prop :=
  ∀ a ∈ sent, ∀ b ∈ sent, ∀ f ∈ a.frames, ∀ g ∈ b.frames, f.key = g.key → a.parts = b.parts

/-- Every series is of one message that was sent. -/
def Reassembler.Unmixed (sent : List Message) (r : Reassembler) : Prop :=
  ∀ s ∈ r, ∃ m ∈ sent, (∃ f ∈ m.frames, f.key = s.key) ∧ Fits s.slots m.parts

section

variable {sent : List Message} {r : Reassembler} {m : Message} {f : Frame}

lemma Message.mem_frames (made : f ∈ m.frames) :
    f.fragTotal = m.parts.length ∧ m.parts[f.fragIndex]? = some f.payload := by
  obtain ⟨i, bounded, rfl⟩ := mem_mapIdx.mp made
  exact ⟨rfl, getElem?_eq_getElem bounded⟩

lemma Reassembler.Unmixed.fits (unmixed : r.Unmixed sent) (unshared : Unshared sent)
    (member : m ∈ sent) (made : f ∈ m.frames) :
    Fits ((r.slotsOf f).set f.fragIndex f.slot) m.parts := by
  obtain ⟨total, part⟩ := Message.mem_frames made
  apply Fits.set
  · unfold Reassembler.slotsOf
    cases found : r.get? f.key with
    | none => exact total ▸ fits_nothing m.parts
    | some s =>
      obtain ⟨other, otherMember, ⟨g, otherMade, key⟩, fits⟩ := unmixed s (mem_of_get? found)
      rw [← unshared other otherMember m member g otherMade f made (key.trans (key_of_get? found))]
      exact fits
  · intro got there
    rw [Frame.slot] at there
    split at there
    next => cases there
    next => exact Option.mem_some.mp there ▸ part

lemma Reassembler.Unmixed.add (unmixed : r.Unmixed sent) (unshared : Unshared sent)
    (member : m ∈ sent) (made : f ∈ m.frames) :
    (r.add f).1.Unmixed sent ∧ ∀ text ∈ (r.add f).2, text = m.text := by
  obtain ⟨total, part⟩ := Message.mem_frames made
  have fits := unmixed.fits unshared member made
  unfold Reassembler.add
  split
  next single =>
    refine ⟨unmixed, fun text there => ?_⟩
    cases there
    have only : f.payload ∈ m.parts := mem_of_getElem? part
    obtain ⟨one, parts⟩ := length_eq_one_iff.mp
      (le_antisymm (total ▸ single) (length_pos_of_mem only))
    rw [Message.text, parts, flatten_singleton]
    exact mem_singleton.mp (parts ▸ only)
  next =>
    dsimp only
    split
    next => exact ⟨forall_mem_put ⟨m, member, ⟨f, made, rfl⟩, fits⟩ unmixed, by simp⟩
    next full =>
      refine ⟨fun s there => unmixed s (mem_deleteWhere.mp there).1, ?_⟩
      rintro text ⟨⟩
      exact fits.whole full

end

def first : Message := ⟨"N0CALL", 1, [replicate 200 65, [65]]⟩

/-- Sent under the same id, after the sender was started again. -/
def second : Message := ⟨"N0CALL", 1, [replicate 200 66, [66]]⟩

end MeshSat.Hf10m
