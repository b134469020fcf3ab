import MultipartUpload.Options.Header
import MultipartUpload.Options.PutConfiguration

/-!
# Options of single requests

A request carries encryption, an access policy and a storage class. Only what differs from the
defaults is sent. In a multipart upload the request that starts it fixes the options of the object,
and the requests that bring parts carry none.
-/

namespace MultipartUpload

structure UploadOptions where
  encryption : Option Encryption := none
  acl : Acl := default
  storageClass : StorageClass := default
  deriving DecidableEq, Repr

namespace UploadOptions

instance : Inhabited UploadOptions := ⟨{}⟩

def encryptionHeader : String := "server-side-encryption"

def aclHeader : String := "acl"

def storageClassHeader : String := "storage-class"

/-- The options that differ from the defaults, each with its value. -/
def entries (options : UploadOptions) : List (String × String) :=
  (match options.encryption with
    | some encryption => [(encryptionHeader, encryption.algorithm)]
    | none => []) ++
  (if options.acl = default then [] else [(aclHeader, options.acl.name)]) ++
  (if options.storageClass = default then []
    else [(storageClassHeader, options.storageClass.name)])

/-- The headers of a request with these options. -/
def headers (options : UploadOptions) (tag : String) : Except Header.Error Headers :=
  options.entries.foldlM (fun headers (option, value) ↦ headers.add tag option value) ∅

end UploadOptions

/-- The options of the two kinds of requests that make up an upload. -/
structure RequestOptions where
  /-- For the request that fixes the properties of the object. -/
  main : UploadOptions := default
  /-- For the requests that bring parts. -/
  part : UploadOptions := default
  deriving DecidableEq, Repr

/-- The request options that a put configuration asks for. Without one, or in a dialect without
encryption, they are the defaults. -/
def RequestOptions.ofConfiguration : Option PutConfiguration → RequestOptions
  | some config =>
    if config.dialect.supportsEncryption then
      { main := ⟨config.encryption, config.acl, config.storageClass⟩ }
    else {}
  | none => {}

namespace RequestOptions

/-- Nothing is lost: a dialect without encryption carries no other option either. -/
@[simp]
theorem main_ofConfiguration_some (config : PutConfiguration) :
    (ofConfiguration (some config)).main =
      ⟨config.encryption, config.acl, config.storageClass⟩ := by
  simp only [ofConfiguration]
  split
  · rfl
  · rename_i hencryption
    have hdialect : config.dialect = .generic := by
      cases h : config.dialect <;> simp_all [Dialect.supportsEncryption]
    obtain ⟨_, _, encryption, acl, storageClass, hcarried⟩ := config
    subst hdialect
    cases encryption with
    | some e => exact absurd (hcarried.encryption e rfl).1 hencryption
    | none =>
      have hacl : acl = default := Decidable.not_not.mp fun hne ↦ nomatch hcarried.acl hne
      have hclass : storageClass = default :=
        Decidable.not_not.mp fun hne ↦ nomatch hcarried.storageClass hne
      change (default : UploadOptions) = ⟨none, acl, storageClass⟩
      rw [hacl, hclass]
      rfl

/-- Requests that bring parts carry no options. -/
@[simp]
theorem part_ofConfiguration (config : Option PutConfiguration) :
    (ofConfiguration config).part = {} := by
  unfold ofConfiguration
  split
  · split <;> rfl
  · rfl

end RequestOptions

end MultipartUpload
