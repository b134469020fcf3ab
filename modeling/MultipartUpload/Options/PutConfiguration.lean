import MultipartUpload.Options.Acl
import MultipartUpload.Options.Dialect
import MultipartUpload.Options.Encryption
import MultipartUpload.Options.StorageClass

/-!
# Put configurations

How a blob is put. A configuration is drafted by settings of which the last of each kind counts, and
checked once against the dialect when it is built. What a dialect cannot carry has its default value
in every configuration.
-/

namespace MultipartUpload

/-- Whether a dialect can carry options. Their defaults can always be carried. -/
structure Dialect.Carries (dialect : Dialect) (encryption : Option Encryption) (acl : Acl)
    (storageClass : StorageClass) : Prop where
  encryption : ∀ e ∈ encryption,
    dialect.supportsEncryption ∧ (dialect.supportsNamedAlgorithm ∨ e = .aes256)
  acl : acl ≠ default → dialect.supportsAcl
  storageClass : storageClass ≠ default → dialect.supportsStorageClass

structure PutConfiguration where
  dialect : Dialect := default
  multipart : Bool := false
  encryption : Option Encryption := none
  acl : Acl := default
  storageClass : StorageClass := default
  carried : dialect.Carries encryption acl storageClass := by constructor <;> simp
  deriving DecidableEq, Repr

namespace PutConfiguration

/-- A configuration with nothing but the multipart switch. -/
def generic (multipart : Bool) : PutConfiguration :=
  { dialect := .generic, multipart }

inductive EncryptionRequest where
  | flag
  | named (algorithm : String)
  deriving DecidableEq, Repr

inductive Setting where
  | dialect (dialect : Dialect)
  | multipart
  | encryption (request : EncryptionRequest)
  | acl (acl : Acl)
  | storageClass (storageClass : StorageClass)
  deriving DecidableEq, Repr

/-- What has been set so far. -/
structure Draft where
  dialect : Dialect := default
  multipart : Bool := false
  encryption : Option EncryptionRequest := none
  acl : Option Acl := none
  storageClass : Option StorageClass := none
  deriving DecidableEq, Repr

/-- An option that the dialect of a draft cannot carry. -/
inductive Error where
  | encryption (dialect : Dialect)
  | algorithmName (fault : Encryption.Fault)
  | algorithm (dialect : Dialect) (rejected : Encryption)
  | acl (dialect : Dialect)
  | storageClass (dialect : Dialect)
  deriving DecidableEq, Repr

def Error.message : Error → String
  | .encryption dialect =>
    s!"invalid configuration: the {dialect.name} dialect cannot request server-side encryption"
  | .algorithmName fault => fault.message
  | .algorithm dialect rejected =>
    s!"invalid configuration: the {dialect.name} dialect only supports " ++
      Encryption.aes256.algorithm ++ ", got " ++ rejected.algorithm
  | .acl dialect =>
    s!"invalid configuration: the {dialect.name} dialect cannot set an access policy"
  | .storageClass dialect =>
    s!"invalid configuration: the {dialect.name} dialect cannot set a storage class"

namespace Draft

def set (draft : Draft) : Setting → Draft
  | .dialect dialect => { draft with dialect }
  | .multipart => { draft with multipart := true }
  | .encryption request => { draft with encryption := some request }
  | .acl acl => { draft with acl := some acl }
  | .storageClass storageClass => { draft with storageClass := some storageClass }

/-- The encryption asked for, if the dialect can ask for it. -/
def encryption? (draft : Draft) : Except Error (Option Encryption) :=
  match draft.encryption with
  | none => .ok none
  | some request =>
    if ¬draft.dialect.supportsEncryption then .error (.encryption draft.dialect)
    else match request with
      | .flag => .ok (some .aes256)
      | .named algorithm =>
        match Encryption.ofName algorithm with
        | .error fault => .error (.algorithmName fault)
        | .ok encryption =>
          if ¬draft.dialect.supportsNamedAlgorithm ∧ encryption ≠ .aes256 then
            .error (.algorithm draft.dialect encryption)
          else .ok (some encryption)

/-- An encryption that passes the check is one the dialect can ask for. -/
theorem carries_encryption {draft : Draft} {encryption : Option Encryption}
    (h : draft.encryption? = .ok encryption) : ∀ e ∈ encryption,
      draft.dialect.supportsEncryption ∧
        (draft.dialect.supportsNamedAlgorithm ∨ e = .aes256) := by
  unfold encryption? at h
  grind

/-- A setting that passes the check is supported, unless it is as good as not set. -/
theorem supported_of_ne_default [Inhabited α] {setting : Option α} {supported : Bool}
    (h : ¬(setting.isSome ∧ ¬supported)) (hne : setting.getD default ≠ default) : supported := by
  cases setting <;> simp_all

/-- The configuration that the draft describes, if its dialect can carry all of it. -/
def build (draft : Draft) : Except Error PutConfiguration :=
  match h : draft.encryption? with
  | .error e => .error e
  | .ok encryption =>
    if hacl : draft.acl.isSome ∧ ¬draft.dialect.supportsAcl then .error (.acl draft.dialect)
    else if hclass : draft.storageClass.isSome ∧ ¬draft.dialect.supportsStorageClass then
      .error (.storageClass draft.dialect)
    else .ok {
      dialect := draft.dialect
      multipart := draft.multipart
      encryption
      acl := draft.acl.getD default
      storageClass := draft.storageClass.getD default
      carried := {
        encryption := carries_encryption h
        acl := supported_of_ne_default hacl
        storageClass := supported_of_ne_default hclass } }

end Draft

end PutConfiguration

end MultipartUpload
