import MultipartUpload.Json.Record
import MultipartUpload.Options.UploadOptions

/-!
# Options in JSON

Policies, classes and dialects are choices by name. The name of an algorithm is checked when it is
read, so every encryption read from JSON could have been made directly.
-/

namespace MultipartUpload

namespace Acl

def toJson (acl : Acl) : Json :=
  .ofString acl.name

def ofJson? (json : Json) : Option Acl :=
  json.choice? ofName?

end Acl

namespace StorageClass

def toJson (storageClass : StorageClass) : Json :=
  .ofString storageClass.name

def ofJson? (json : Json) : Option StorageClass :=
  json.choice? ofName?

end StorageClass

namespace Dialect

/-- The name of a dialect in JSON. -/
def jsonName : Dialect → String
  | .generic => "generic"
  | .encryptionFlag => "encryptionFlag"
  | .namedAlgorithm => "namedAlgorithm"
  | .storageClassAware => "storageClassAware"

def toJson (dialect : Dialect) : Json :=
  .ofString dialect.jsonName

def ofJson? (json : Json) : Option Dialect :=
  json.choice? fun name ↦ all.find? (·.jsonName == name)

end Dialect

namespace Encryption

def toJson (encryption : Encryption) : Json :=
  .ofString encryption.algorithm

def ofJson? (json : Json) : Option Encryption :=
  json.string?.bind fun name ↦ (ofName name).toOption

end Encryption

namespace UploadOptions

def toJson (options : UploadOptions) : Json :=
  .ofMembers <|
    Json.optionalMember "serverSideEncryption" (options.encryption.map Encryption.toJson) ++
    [("acl", options.acl.toJson), ("storageClass", options.storageClass.toJson)]

def fieldNames : List String :=
  ["serverSideEncryption", "acl", "storageClass"]

def ofJson? (json : Json) : Option UploadOptions :=
  match json.fields? fieldNames 0 with
  | some [encryption, acl, storageClass] => do
    let encryption ← Json.optional? Encryption.ofJson? encryption
    let acl ← Json.required? Acl.ofJson? acl
    let storageClass ← Json.required? StorageClass.ofJson? storageClass
    return { encryption, acl, storageClass }
  | _ => none

end UploadOptions

def PutConfiguration.toJson (config : PutConfiguration) : Json :=
  .ofMembers <|
    [("dialect", config.dialect.toJson), ("multipart", .bool config.multipart)] ++
    Json.optionalMember "serverSideEncryption" (config.encryption.map Encryption.toJson) ++
    [("acl", config.acl.toJson), ("storageClass", config.storageClass.toJson)]

end MultipartUpload
