/-!
# Upload plans

A plan says how the bytes of a payload are spread over parts. Every part but the last has the chunk
size, and the last one takes what remains. A plan without parts stands for a single put.
-/

namespace MultipartUpload

structure Plan where
  totalLength : Nat
  /-- The size of every part but the last. -/
  chunkSize : Nat
  partCount : Nat
  deriving DecidableEq, Repr

namespace Plan

/-- Whether the payload goes up as one object. -/
def isSingle (plan : Plan) : Bool :=
  plan.partCount == 0

/-- The size of the last part, or of the whole payload in a single put. -/
def lastPartSize (plan : Plan) : Nat :=
  if plan.isSingle then plan.totalLength
  else plan.totalLength - plan.chunkSize * (plan.partCount - 1)

/-- The size of a part, counted from one. -/
def partSize? (plan : Plan) (number : Nat) : Option Nat :=
  if number = 0 then none
  else if number < plan.partCount then some plan.chunkSize
  else if number = plan.partCount then some plan.lastPartSize
  else none

/-- The sizes of all parts in order. -/
def partSizes (plan : Plan) : List Nat :=
  (List.range' 1 plan.partCount).filterMap plan.partSize?

end Plan

end MultipartUpload
