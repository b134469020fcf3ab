/-!
# Storage classes

A class is chosen by name from a fixed list. A service assumes the standard one when none is sent.
-/

namespace MultipartUpload

inductive StorageClass where
  | standard
  | standardInfrequent
  | oneZoneInfrequent
  | intelligentTiering
  | reducedRedundancy
  | glacier
  | glacierInstant
  | deepArchive
  deriving DecidableEq, Repr

namespace StorageClass

instance : Inhabited StorageClass := ⟨.standard⟩

/-- The name sent to services. -/
def name : StorageClass → String
  | .standard => "STANDARD"
  | .standardInfrequent => "STANDARD_IA"
  | .oneZoneInfrequent => "ONEZONE_IA"
  | .intelligentTiering => "INTELLIGENT_TIERING"
  | .reducedRedundancy => "REDUCED_REDUNDANCY"
  | .glacier => "GLACIER"
  | .glacierInstant => "GLACIER_IR"
  | .deepArchive => "DEEP_ARCHIVE"

def all : List StorageClass :=
  [.standard, .standardInfrequent, .oneZoneInfrequent, .intelligentTiering, .reducedRedundancy,
    .glacier, .glacierInstant, .deepArchive]

def ofName? (s : String) : Option StorageClass :=
  all.find? (·.name == s)

/-- A name that no class has. -/
structure Unknown where
  name : String
  deriving DecidableEq, Repr

def Unknown.message (e : Unknown) : String :=
  "unknown storage class: " ++ e.name

def ofName (s : String) : Except Unknown StorageClass :=
  match ofName? s with
  | some storageClass => .ok storageClass
  | none => .error ⟨s⟩

end StorageClass

end MultipartUpload
