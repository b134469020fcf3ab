import MultipartUpload.Text.Blank
import MultipartUpload.Text.Quoted

/-!
# Server-side encryption

Encryption is asked for by the name of an algorithm. The name is sent as a header value, so it is
never empty and holds visible ASCII characters only.
-/

namespace MultipartUpload

/-- The visible ASCII characters. -/
def isGraphic (c : Char) : Bool :=
  '!' ≤ c && c ≤ '~'

/-- Whether a text can name an algorithm. -/
def IsAlgorithmName (s : String) : Prop :=
  s ≠ "" ∧ s.toList.all isGraphic

instance (s : String) : Decidable (IsAlgorithmName s) :=
  inferInstanceAs (Decidable (_ ∧ _))

structure Encryption where
  algorithm : String
  isAlgorithmName : IsAlgorithmName algorithm
  deriving DecidableEq, Repr

namespace Encryption

inductive Fault where
  | emptyName
  | hiddenCharacters (name : String)
  deriving DecidableEq, Repr

def Fault.message : Fault → String
  | .emptyName =>
    "invalid configuration: server-side encryption requested with an empty algorithm name"
  | .hiddenCharacters name =>
    "invalid configuration: server-side encryption algorithm " ++ Text.quoted name ++
      " contains non-printable characters"

/-- The encryption with the algorithm of the given name. White space around the name is dropped. -/
def ofName (s : String) : Except Fault Encryption :=
  if Text.trim s = "" then .error .emptyName
  else if h : IsAlgorithmName (Text.trim s) then .ok ⟨Text.trim s, h⟩
  else .error (.hiddenCharacters s)

/-- Encryption with keys the service manages, the only kind that a flag can ask for. -/
def aes256 : Encryption :=
  ⟨"AES256", by decide⟩

/-- Encryption with keys of a key management service. -/
def awsKms : Encryption :=
  ⟨"aws:kms", by decide⟩

end Encryption

end MultipartUpload
