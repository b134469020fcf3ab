/-!
# Option dialects

Providers differ in the options a put can carry. A dialect is a fixed set of capabilities, from the
bare multipart switch to the choice of a storage class.
-/

namespace MultipartUpload

inductive Dialect where
  /-- Nothing but the multipart switch. -/
  | generic
  /-- Encryption on or off, and an access policy. -/
  | encryptionFlag
  /-- Encryption by a named algorithm, and an access policy. -/
  | namedAlgorithm
  /-- All of it, and a storage class. -/
  | storageClassAware
  deriving DecidableEq, Repr

namespace Dialect

instance : Inhabited Dialect := ⟨.namedAlgorithm⟩

def name : Dialect → String
  | .generic => "generic"
  | .encryptionFlag => "encryption-flag"
  | .namedAlgorithm => "named-algorithm"
  | .storageClassAware => "storage-class-aware"

def all : List Dialect :=
  [.generic, .encryptionFlag, .namedAlgorithm, .storageClassAware]

def ofName? (s : String) : Option Dialect :=
  all.find? (·.name == s)

def supportsEncryption : Dialect → Bool
  | .generic => false
  | _ => true

/-- Whether an algorithm other than the default one can be named. -/
def supportsNamedAlgorithm : Dialect → Bool
  | .namedAlgorithm | .storageClassAware => true
  | _ => false

def supportsAcl : Dialect → Bool
  | .generic => false
  | _ => true

def supportsStorageClass : Dialect → Bool
  | .storageClassAware => true
  | _ => false

end Dialect

end MultipartUpload
