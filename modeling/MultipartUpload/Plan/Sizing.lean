import MultipartUpload.Config.Basic
import MultipartUpload.Plan.Basic

/-!
# Sizing

The limits under which payloads are planned. A payload up to the part size is not cut. A larger one
is cut into parts of that size as long as their number stays under a ceiling. Above it the parts
grow by whole multiples of the part size up to the greatest size, and only then their number grows
on.
-/

namespace MultipartUpload

structure Sizing where
  partSize : Nat
  partCountCeiling : Nat
  maxPartSize : Nat
  maxPartCount : Nat
  deriving DecidableEq, Repr

/-- A payload that does not fit into the parts that the limits allow. -/
structure EntityTooLarge where
  length : Nat
  maximum : Nat
  deriving DecidableEq, Repr

def EntityTooLarge.message (e : EntityTooLarge) : String :=
  s!"payload of {e.length} bytes exceeds the maximum object size of {e.maximum} bytes"

/-- The quotient of two naturals, rounded up. -/
def ceilDiv (n d : Nat) : Nat :=
  (n + d - 1) / d

namespace Sizing

def ofLimits (c : Config) : Sizing where
  partSize := c.partSize.toNat
  partCountCeiling := c.partCountCeiling.toNat
  maxPartSize := c.maxPartSize.toNat
  maxPartCount := c.maxPartCount.toNat

/-- The sizing under a configuration whose limits fit each other. -/
def ofConfig (c : Config) : Except ConfigError Sizing :=
  match c.validate with
  | .error e => .error e
  | .ok () => .ok (ofLimits c)

instance : Inhabited Sizing := ⟨ofLimits {}⟩

/-- The greatest payload that can be planned, as far as a word of 64 bits can tell. -/
def maxObjectSize (s : Sizing) : Nat :=
  min (s.maxPartSize * s.maxPartCount) (UInt64.size - 1)

/-- The size of the parts of a payload that is cut. -/
def chunkSize (s : Sizing) (length : Nat) : Nat :=
  let parts := ceilDiv length s.partSize
  if parts ≤ s.partCountCeiling then s.partSize
  else min (ceilDiv parts s.partCountCeiling * s.partSize) s.maxPartSize

def plan (s : Sizing) (length : Nat) : Except EntityTooLarge Plan :=
  if length ≤ s.partSize then .ok ⟨length, s.partSize, 0⟩
  else if s.maxObjectSize < length then .error ⟨length, s.maxObjectSize⟩
  else
    let partCount := ceilDiv length (s.chunkSize length)
    -- Parts are counted in a word of 32 bits.
    if partCount < UInt32.size ∧ partCount ≤ s.maxPartCount then
      .ok ⟨length, s.chunkSize length, partCount⟩
    else .error ⟨length, s.maxObjectSize⟩

end Sizing

end MultipartUpload
