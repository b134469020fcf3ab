import MultipartUpload.Options.PutConfiguration

/-!
# Options of directory markers

A marker is written with the defaults of the provider, or with encryption turned on or off.
-/

namespace MultipartUpload

inductive DirectoryOptions where
  | defaults
  | encryption (wanted : Bool)
  deriving DecidableEq, Repr

namespace DirectoryOptions

def usesEncryption : DirectoryOptions → Bool
  | .encryption wanted => wanted
  | .defaults => false

/-- The put configuration of a marker, in the dialect of an encryption flag. -/
def putConfiguration? : DirectoryOptions → Option PutConfiguration
  | .defaults => none
  | .encryption wanted =>
    let draft : PutConfiguration.Draft := { dialect := .encryptionFlag }
    (if wanted then draft.set (.encryption .flag) else draft).build.toOption

/-- No marker asks to go up in parts. -/
theorem not_multipart (options : DirectoryOptions) :
    options.putConfiguration?.any (·.multipart) = false := by
  rcases options with - | - | - <;> rfl

end DirectoryOptions

end MultipartUpload
