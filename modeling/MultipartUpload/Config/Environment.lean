import MultipartUpload.Config.Basic
import MultipartUpload.Text.Numeral

/-!
# Configuration from the environment

Every setting has a variable of its own. A variable that is unset or not set to a text, or that
should hold a number and does not, leaves the default in place.
-/

namespace MultipartUpload

/-- What a variable is set to. -/
inductive Environment.Value where
  | text (s : String)
  /-- What it is set to is not encoded as a text is. -/
  | notUnicode
  deriving DecidableEq, Repr

/-- What the variables are set to that are set. -/
abbrev Environment := String → Option Environment.Value

namespace Environment

/-- The text that a variable is set to. -/
def text? (env : Environment) (name : String) : Option String :=
  match env name with
  | some (.text s) => some s
  | some .notUnicode | none => none

/-- The value of a variable that holds a word of 64 bits. -/
def word64? (env : Environment) (name : String) : Option UInt64 :=
  ((env.text? name).bind Numeral.ofSetting?).bind Numeral.word64?

/-- The value of a variable that holds a word of 32 bits. -/
def word32? (env : Environment) (name : String) : Option UInt32 :=
  ((env.text? name).bind Numeral.ofSetting?).bind Numeral.word32?

end Environment

def Config.ofEnvironment (env : Environment) : Config where
  partSize := (env.word64? "MPU_PART_SIZE").getD Limits.partSize
  partCountCeiling := (env.word32? "MPU_PART_COUNT_CEILING").getD Limits.partCountCeiling
  minPartSize := (env.word64? "MPU_MIN_PART_SIZE").getD Limits.minPartSize
  maxPartSize := (env.word64? "MPU_MAX_PART_SIZE").getD Limits.maxPartSize
  maxPartCount := (env.word32? "MPU_MAX_PART_COUNT").getD Limits.maxPartCount
  headerTag := (env.text? "MPU_HEADER_TAG").getD Limits.headerTag
  logLevel := (env.text? "LOG_LEVEL").getD Limits.logLevel

end MultipartUpload
