import MultipartUpload.Plan.Basic

/-!
# Cursors

A cursor hands out the numbers of the parts, from one, and their offsets, from zero. The two advance
independently of each other. They are kept in words of 32 and 64 bits, so the offset after the last
part may wrap.
-/

namespace MultipartUpload

structure Cursor where
  chunkSize : Nat
  number : Nat := 1
  offset : Nat := 0
  deriving DecidableEq, Repr

namespace Cursor

/-- The cursor after the current part number was taken. -/
def advanceNumber (cursor : Cursor) : Cursor :=
  { cursor with number := (cursor.number + 1) % UInt32.size }

/-- The cursor after the current offset was taken. -/
def advanceOffset (cursor : Cursor) : Cursor :=
  { cursor with offset := (cursor.offset + cursor.chunkSize) % UInt64.size }

end Cursor

/-- The cursor at the first part of a plan. -/
def Plan.cursor (plan : Plan) : Cursor :=
  { chunkSize := plan.chunkSize }

/-- What a part has to be: its number, where it starts and how long it is. -/
structure Slot where
  number : Nat
  offset : Nat
  size : Nat
  deriving DecidableEq, Repr

end MultipartUpload
