import MultipartUpload.Text.Quoted

/-!
# Engine configuration

The limits that decide how a payload is cut into parts, and the tag that names the request headers.
A configuration is checked before an engine runs under it; the first limit that does not fit the
others is reported.
-/

namespace MultipartUpload

namespace Limits

/-- The part size aimed at: 32 MiB. -/
def partSize : UInt64 := 32 * 1024 * 1024

/-- The number of parts above which parts grow instead. -/
def partCountCeiling : UInt32 := 100

/-- The least size of a part other than the last: 5 MiB. -/
def minPartSize : UInt64 := 5 * 1024 * 1024

/-- The greatest size of a part: 5 GiB. -/
def maxPartSize : UInt64 := 5 * 1024 * 1024 * 1024

/-- The greatest part number a service accepts. -/
def maxPartCount : UInt32 := 10000

def headerTag : String := "amz"

def logLevel : String := "info"

end Limits

structure Config where
  /-- The part size aimed at. Payloads up to this size are not cut. -/
  partSize : UInt64 := Limits.partSize
  /-- The number of parts above which parts grow. -/
  partCountCeiling : UInt32 := Limits.partCountCeiling
  minPartSize : UInt64 := Limits.minPartSize
  maxPartSize : UInt64 := Limits.maxPartSize
  maxPartCount : UInt32 := Limits.maxPartCount
  /-- The part of header names that a service provider chooses. -/
  headerTag : String := Limits.headerTag
  logLevel : String := Limits.logLevel
  deriving DecidableEq, Repr

inductive ConfigError where
  | partBelowMinimum (partSize minimum : UInt64)
  | partAboveMaximum (partSize maximum : UInt64)
  | maxPartCount (count : UInt32)
  | partCountCeiling (maximum ceiling : UInt32)
  | headerTag (tag : String)
  deriving DecidableEq, Repr

def ConfigError.message : ConfigError → String
  | .partBelowMinimum partSize minimum =>
    s!"configuration error: part size {partSize} must be at least the minimum part size {minimum}"
  | .partAboveMaximum partSize maximum =>
    s!"configuration error: part size {partSize} exceeds the maximum part size {maximum}"
  | .maxPartCount count =>
    s!"configuration error: maximum part count must be between 1 and {Limits.maxPartCount}, got " ++
      toString count
  | .partCountCeiling maximum ceiling =>
    s!"configuration error: part count ceiling must be between 1 and {maximum}, got {ceiling}"
  | .headerTag tag =>
    "configuration error: header tag must be lowercase ASCII letters, got " ++ Text.quoted tag

namespace Config

/-- Checks that the limits fit each other. -/
def validate (c : Config) : Except ConfigError Unit :=
  if c.minPartSize = 0 ∨ c.partSize < c.minPartSize then
    .error (.partBelowMinimum c.partSize c.minPartSize)
  else if c.maxPartSize < c.partSize then
    .error (.partAboveMaximum c.partSize c.maxPartSize)
  else if c.maxPartCount = 0 ∨ Limits.maxPartCount < c.maxPartCount then
    .error (.maxPartCount c.maxPartCount)
  else if c.partCountCeiling = 0 ∨ c.maxPartCount < c.partCountCeiling then
    .error (.partCountCeiling c.maxPartCount c.partCountCeiling)
  else if c.headerTag = "" ∨ ¬c.headerTag.toList.all Char.isLower then
    .error (.headerTag c.headerTag)
  else .ok ()

/-- The greatest payload size within the limits, as far as a word of 64 bits can tell. -/
def maxObjectSize (c : Config) : Nat :=
  min (c.maxPartSize.toNat * c.maxPartCount.toNat) (UInt64.size - 1)

end Config

end MultipartUpload
