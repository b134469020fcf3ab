import MultipartUpload.Blob
import MultipartUpload.Json.Record

/-!
# Metadata in JSON

Content headers are left out when there are none. The entries of the owner are always written, and
read as empty when they are left out.
-/

namespace MultipartUpload.Metadata

/-- An object with the entries in the order of their names. -/
def entriesToJson (entries : Std.ExtTreeMap String String) : Json :=
  .ofMembers (entries.toList.map fun entry ↦ (entry.1, .ofString entry.2))

/-- Entries read from an object of texts. Of several with one name the last one counts. -/
def entriesOfJson? : Json → Option (Std.ExtTreeMap String String)
  | .object members =>
    members.foldlM (fun entries (name, value) ↦ do
      return entries.insert (← name) (← value.string?)) ∅
  | _ => none

def toJson (metadata : Metadata) : Json :=
  .ofMembers <|
    [("name", .ofString metadata.name)] ++
    Json.optionalMember "contentType" (metadata.contentType.map .ofString) ++
    Json.optionalMember "contentDisposition" (metadata.contentDisposition.map .ofString) ++
    Json.optionalMember "contentEncoding" (metadata.contentEncoding.map .ofString) ++
    Json.optionalMember "contentLanguage" (metadata.contentLanguage.map .ofString) ++
    [("userMetadata", entriesToJson metadata.user)]

def fieldNames : List String :=
  ["name", "contentType", "contentDisposition", "contentEncoding", "contentLanguage",
    "userMetadata"]

def ofJson? (json : Json) : Option Metadata :=
  match json.fields? fieldNames 1 with
  | some [name, contentType, disposition, encoding, language, user] => do
    let name ← Json.required? Json.string? name
    let contentType ← Json.optional? Json.string? contentType
    let contentDisposition ← Json.optional? Json.string? disposition
    let contentEncoding ← Json.optional? Json.string? encoding
    let contentLanguage ← Json.optional? Json.string? language
    let user ← match user with
      | some entries => entriesOfJson? entries
      | none => some ∅
    return { name, contentType, contentDisposition, contentEncoding, contentLanguage, user }
  | _ => none

end MultipartUpload.Metadata
