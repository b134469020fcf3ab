import MultipartUpload.Checksum.ETag
import MultipartUpload.Service

/-!
# Stored records

What the in-memory service keeps: uploads in progress with their parts, and finished objects. Both
carry the options that were read back from the headers of the request that made them.
-/

namespace MultipartUpload

structure StoredOptions where
  algorithm? : Option String := none
  acl : Acl := default
  storageClass : StorageClass := default
  deriving DecidableEq, Repr

/-- Reads the header of an option, which has its default value if there is no header. -/
def readHeader (tag : String) (headers : Headers) (option : String) (fallback : α)
    (read : String → Except ServiceError α) : Except ServiceError α :=
  match headers.find? tag option with
  | none => .ok fallback
  | some value =>
    if Header.isText value then read value
    else .error (.rejected "InvalidArgument" ("invalid " ++ Header.name tag option ++ " header"))

/-- Reads options back from headers. -/
def StoredOptions.ofHeaders (tag : String) (headers : Headers) :
    Except ServiceError StoredOptions := do
  let algorithm? ← readHeader tag headers UploadOptions.encryptionHeader none fun name ↦
    .ok (some name)
  let acl ← readHeader tag headers UploadOptions.aclHeader default fun name ↦
    (Acl.ofName name).mapError fun e ↦ .rejected "InvalidArgument" e.message
  let storageClass ← readHeader tag headers UploadOptions.storageClassHeader default fun name ↦
    (StorageClass.ofName name).mapError fun e ↦ .rejected "InvalidStorageClass" e.message
  return { algorithm?, acl, storageClass }

structure StoredPart where
  number : Nat
  etag : String
  size : Nat
  data : Bytes
  deriving DecidableEq, Repr

/-- The record of a part as it arrives. -/
def StoredPart.ofData (number : Nat) (data : Bytes) : StoredPart :=
  ⟨number, ETag.ofData data, data.length, data⟩

structure StoredObject where
  key : String
  etag : String
  size : Nat
  metadata : Metadata
  options : StoredOptions
  /-- The number of parts, if the object was assembled from parts. -/
  partsCount? : Option Nat
  data : Bytes
  deriving DecidableEq

/-- The object that a single request stores. -/
def StoredObject.ofData (metadata : Metadata) (options : StoredOptions) (data : Bytes) :
    StoredObject where
  key := metadata.name
  etag := ETag.ofData data
  size := data.length
  metadata := metadata
  options := options
  partsCount? := none
  data := data

structure StoredUpload where
  id : String
  container : String
  key : String
  metadata : Metadata
  options : StoredOptions
  parts : Std.ExtTreeMap Nat StoredPart := ∅
  /-- How many more requests for parts are told that there is no such upload. -/
  hiddenFor : Nat
  deriving DecidableEq

namespace StoredUpload

def start (id container : String) (metadata : Metadata) (options : StoredOptions)
    (hiddenFor : Nat) : StoredUpload where
  id := id
  container := container
  key := metadata.name
  metadata := metadata
  options := options
  hiddenFor := hiddenFor

/-- Adds a part, in place of an earlier one with its number. -/
def putPart (upload : StoredUpload) (part : StoredPart) : StoredUpload :=
  { upload with parts := upload.parts.insert part.number part }

/-- The bytes in all parts, counted in a word of 64 bits. -/
def totalSize (upload : StoredUpload) : Nat :=
  upload.parts.foldl (fun size _ part ↦ size + part.size) 0 % UInt64.size

/-- The parts that a manifest lists, if every one of them is there with the checksum it lists. -/
def collect (upload : StoredUpload) : List (Nat × String) → Except ServiceError (List StoredPart)
  | [] => .ok []
  | (number, etag) :: entries =>
    match upload.parts[number]? with
    | some part =>
      if part.etag = etag then (upload.collect entries).map (part :: ·)
      else .error (notUploaded number etag)
    | none => .error (notUploaded number etag)
where
  notUploaded (number : Nat) (etag : String) : ServiceError :=
    .rejected "InvalidPart" s!"part {number} was not uploaded with ETag {etag}"

/-- The object that some of the parts make up. -/
def assemble (upload : StoredUpload) (parts : List StoredPart) : StoredObject where
  key := upload.key
  etag := ETag.ofParts (parts.map StoredPart.etag)
  size := (parts.flatMap StoredPart.data).length
  metadata := upload.metadata
  options := upload.options
  partsCount? := some parts.length
  data := parts.flatMap StoredPart.data

end StoredUpload

end MultipartUpload
