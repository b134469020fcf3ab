import MultipartUpload.Blob
import MultipartUpload.Plan.Sizing

/-!
# Slices of payloads

A payload is cut into parts of one chunk size, the last of which may be shorter. Bytes in memory are
cut up to the declared length. A file is read chunk by chunk up to the declared length, and it is an
error if the file ends before it. Memory for a chunk is reserved before it is read from a file. The
program panics if that is more than memory can ever be reserved for.
-/

namespace MultipartUpload

/-- What comes of a run in which the program may panic. -/
inductive Outcome (α : Type) where
  | returned (a : α)
  | panicked

/-- The most bytes that memory can be reserved for at once. -/
def maxReservation : Nat := UInt64.size / 2 - 1

/-- Some bytes of a payload and where they start. -/
structure Part where
  offset : Nat
  data : Bytes
  deriving DecidableEq, Repr

namespace Part

def size (part : Part) : Nat :=
  part.data.length

/-- What reading the next part gave. -/
abbrev Read := Except ReadFailure Part

/-- The parts of the bytes that follow a position, until there are no more. -/
def walk (chunkSize start : Nat) (rest : Bytes) : List Part :=
  if chunkSize = 0 ∨ rest = [] then []
  else
    let part : Part := ⟨start, rest.take chunkSize⟩
    part :: walk chunkSize (start + part.size) (rest.drop chunkSize)
termination_by rest.length
decreasing_by
  obtain ⟨hchunk, hrest⟩ := not_or.mp ‹_›
  have := List.length_pos_iff.mpr hrest
  rw [List.length_drop]
  omega

/-- The parts of some bytes. -/
def ofBytes (chunkSize : Nat) (data : Bytes) : List Part :=
  walk chunkSize 0 data

end Part

/-- A file that is being read: how far reading has come, how much of the declared length is still to
come, and the bytes that follow. -/
structure FileReader where
  path : String
  chunkSize : Nat
  offset : Nat
  remaining? : Option Nat
  rest : Bytes

namespace FileReader

/-- How many bytes the next part should have. -/
def wanted (reader : FileReader) : Nat :=
  match reader.remaining? with
  | some remaining => min remaining reader.chunkSize
  | none => reader.chunkSize

/-- Whether memory for the next part cannot be reserved. -/
def overflows (reader : FileReader) : Bool :=
  maxReservation < reader.wanted

/-- The file ended before its declared length. -/
def endedEarly (path : String) (position : Nat) : ReadFailure :=
  ⟨.unexpectedEof, s!"{path} ended at byte {position} before its declared length"⟩

def advance (reader : FileReader) : FileReader :=
  { reader with
    offset := reader.offset + reader.wanted
    remaining? := reader.remaining?.map (· - reader.wanted)
    rest := reader.rest.drop reader.wanted }

/-- A reader never asks for more than before, so it is at the first part that memory falls short, if
it does at all. -/
theorem overflows_advance {reader : FileReader} (h : reader.overflows = false) :
    reader.advance.overflows = false := by
  have hwanted : reader.advance.wanted ≤ reader.wanted := by
    obtain ⟨path, chunkSize, offset, remaining?, rest⟩ := reader
    cases remaining? with
    | none => exact Nat.le_refl _
    | some remaining =>
      simp only [advance, wanted, Option.map_some]
      omega
  simp only [overflows, decide_eq_false_iff_not, Nat.not_lt] at h ⊢
  exact Nat.le_trans hwanted h

/-- The parts of the file from the reader's position on, if there is memory for them. -/
def parts (reader : FileReader) : List Part.Read :=
  let data := reader.rest.take reader.wanted
  if reader.wanted = 0 then []
  else if data.length < reader.wanted ∧ reader.remaining?.isSome then
    [.error (endedEarly reader.path (reader.offset + data.length))]
  else if reader.rest = [] then []
  else .ok ⟨reader.offset, data⟩ :: reader.advance.parts
termination_by reader.rest.length
decreasing_by
  simp only [advance, List.length_drop]
  have := List.length_pos_iff.mpr ‹reader.rest ≠ []›
  omega

end FileReader

namespace Payload

/-- A chunk size of zero cuts nothing. -/
def zeroChunk : ReadFailure :=
  ⟨.invalidInput, "chunk size must be positive"⟩

/-- The parts of a payload in order. A failure ends them. -/
def parts (payload : Payload) (chunkSize : Nat) : List Part.Read :=
  if chunkSize = 0 then [.error zeroChunk]
  else match payload.source with
    | .memory data =>
      (Part.ofBytes chunkSize (data.take (payload.length?.getD data.length))).map .ok
    | .file path data => FileReader.parts ⟨path, chunkSize, 0, payload.length?, data⟩
    | .unreadable _ failure _ => if payload.length? = some 0 then [] else [.error failure]

/-- The reader of a payload in a file that can be opened. -/
def reader? (payload : Payload) (chunkSize : Nat) : Option FileReader :=
  match payload.source with
  | .memory _ => none
  | .file path data => some ⟨path, chunkSize, 0, payload.length?, data⟩
  | .unreadable path _ opens =>
    if opens then some ⟨path, chunkSize, 0, payload.length?, []⟩ else none

/-- Whether memory for the first part of a payload cannot be reserved. -/
def overflows (payload : Payload) (chunkSize : Nat) : Bool :=
  (payload.reader? chunkSize).any FileReader.overflows

end Payload

/-- What a slicer offers: an item for each time it is asked, counted from zero, until it has no
more. Nothing says that it ever stops. -/
@[ext]
structure PartStream where
  item? : Nat → Option Part.Read

namespace PartStream

def ofList (items : List Part.Read) : PartStream :=
  let items := items.toArray
  ⟨fun index ↦ items[index]?⟩

end PartStream

/-- A way to cut payloads into parts of a chunk size. -/
abbrev Slicer := Payload → Nat → PartStream

/-- The slicer that reads the payload itself. -/
def Slicer.standard : Slicer :=
  fun payload chunkSize ↦ .ofList (payload.parts chunkSize)

/-- The standard slices of a payload, if it is possible to read the first of them. -/
def Payload.slice (payload : Payload) (chunkSize : Nat) : Outcome PartStream :=
  if payload.overflows chunkSize then .panicked
  else .returned (Slicer.standard payload chunkSize)

end MultipartUpload
