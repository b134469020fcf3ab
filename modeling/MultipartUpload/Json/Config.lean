import MultipartUpload.Config.Basic
import MultipartUpload.Json.Record
import MultipartUpload.Name

/-!
# Configurations and names in JSON

All settings of a configuration are written and all of them are required. Names are plain texts and
are not checked when they are read.
-/

namespace MultipartUpload

namespace Config

def toJson (c : Config) : Json :=
  .ofMembers [
    ("partSize", .natural c.partSize.toNat),
    ("partCountCeiling", .natural c.partCountCeiling.toNat),
    ("minPartSize", .natural c.minPartSize.toNat),
    ("maxPartSize", .natural c.maxPartSize.toNat),
    ("maxPartCount", .natural c.maxPartCount.toNat),
    ("headerTag", .ofString c.headerTag),
    ("logLevel", .ofString c.logLevel)]

def fieldNames : List String :=
  ["partSize", "partCountCeiling", "minPartSize", "maxPartSize", "maxPartCount", "headerTag",
    "logLevel"]

def ofJson? (json : Json) : Option Config :=
  match json.fields? fieldNames 0 with
  | some [partSize, ceiling, minPartSize, maxPartSize, maxPartCount, headerTag, logLevel] => do
    let partSize ← Json.required? Json.word64? partSize
    let partCountCeiling ← Json.required? Json.word32? ceiling
    let minPartSize ← Json.required? Json.word64? minPartSize
    let maxPartSize ← Json.required? Json.word64? maxPartSize
    let maxPartCount ← Json.required? Json.word32? maxPartCount
    let headerTag ← Json.required? Json.string? headerTag
    let logLevel ← Json.required? Json.string? logLevel
    return {
      partSize, partCountCeiling, minPartSize, maxPartSize, maxPartCount, headerTag, logLevel }
  | _ => none

end Config

def ContainerName.ofJson? (json : Json) : Option ContainerName :=
  json.string?.map ContainerName.mk

def ContainerName.toJson (name : ContainerName) : Json :=
  .ofString name.text

def ObjectKey.ofJson? (json : Json) : Option ObjectKey :=
  json.string?.map ObjectKey.mk

def ObjectKey.toJson (key : ObjectKey) : Json :=
  .ofString key.text

end MultipartUpload
