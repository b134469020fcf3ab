import MultipartUpload.Json.Metadata
import MultipartUpload.Json.Options
import MultipartUpload.Memory.Stored

/-!
# Stored records in JSON

Records are written without their bytes. The parts of an upload stand under their decimal numbers.
-/

namespace MultipartUpload

def StoredOptions.toJson (options : StoredOptions) : Json :=
  .ofMembers <|
    Json.optionalMember "sseAlgorithm" (options.algorithm?.map .ofString) ++
    [("acl", options.acl.toJson), ("storageClass", options.storageClass.toJson)]

def StoredPart.toJson (part : StoredPart) : Json :=
  .ofMembers [
    ("partNumber", .natural part.number),
    ("etag", .ofString part.etag),
    ("size", .natural part.size)]

/-- The members of an upload, without its identifier. -/
def StoredUpload.members (upload : StoredUpload) : List (String × Json) :=
  [("container", .ofString upload.container),
    ("key", .ofString upload.key),
    ("metadata", upload.metadata.toJson),
    ("options", upload.options.toJson),
    ("parts", .ofMembers (upload.parts.toList.map fun entry ↦
      (String.ofList (Numeral.digits entry.1), entry.2.toJson)))]

def StoredObject.members (object : StoredObject) : List (String × Json) :=
  [("key", .ofString object.key),
    ("etag", .ofString object.etag),
    ("size", .natural object.size),
    ("metadata", object.metadata.toJson),
    ("options", object.options.toJson)] ++
  Json.optionalMember "partsCount" (object.partsCount?.map .natural)

end MultipartUpload
