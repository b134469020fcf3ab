import MultipartUpload.Memory.Store

/-!
# The in-memory service

Options arrive as headers and are read back from them. Every request whose headers can be written is
logged, then meets the failure queued for it, and only then takes effect. Parts may not carry
encryption or an access policy, and completion checks every part that is listed.
-/

namespace MultipartUpload

namespace Request

def operation : Request → Operation
  | .initiate .. => .initiate
  | .uploadPart .. => .uploadPart
  | .complete .. => .complete
  | .abort .. => .abort
  | .putObject .. => .putObject

/-- A request with its options in headers. -/
def received (request : Request) (tag : String) : Except Header.Error ReceivedRequest :=
  (request.options.headers tag).map fun headers ↦
    { operation := request.operation
      container := request.container
      key := request.key
      number? := request.number?
      headers }

end Request

namespace Store

def noSuchContainer (container : String) : ServiceError :=
  .rejected "NoSuchBucket" ("the specified container does not exist: " ++ container)

def noSuchUpload (id : String) : ServiceError :=
  .rejected "NoSuchUpload" ("the specified upload does not exist: " ++ id)

/-- Begins an upload of an object with the given metadata. -/
def initiate (store : Store) (container : String) (metadata : Metadata) (headers : Headers) :
    Reply × Store :=
  if container ∉ store.containers then (.error (noSuchContainer container), store)
  else match StoredOptions.ofHeaders store.headerTag headers with
    | .error e => (.error e, store)
    | .ok options => (.ok store.nextId, store.begin container metadata options)

/-- Why a part is refused whatever upload it is for. -/
def partRefusal? (store : Store) (container : String) (number : Nat) (headers : Headers) :
    Option ServiceError :=
  let forbidden := [UploadOptions.encryptionHeader, UploadOptions.aclHeader].find? fun option ↦
    (headers.find? store.headerTag option).isSome
  match forbidden with
  | some option =>
    some (.rejected "InvalidRequest"
      (Header.name store.headerTag option ++ " is not allowed on part requests"))
  | none =>
    if number = 0 ∨ Limits.maxPartCount.toNat < number then
      some (.rejected "InvalidArgument"
        s!"part number must be between 1 and {Limits.maxPartCount}")
    else if container ∉ store.containers then some (noSuchContainer container)
    else none

/-- Stores a part of an upload. An upload that is still hidden comes one request closer to being
seen. -/
def uploadPart (store : Store) (container key : String) (number : Nat) (id : String)
    (data : Bytes) (headers : Headers) : Reply × Store :=
  match store.partRefusal? container number headers with
  | some e => (.error e, store)
  | none =>
    match store.upload? container key id with
    | none => (.error (.keyNotFound container key (some id)), store)
    | some upload =>
      if upload.hiddenFor = 0 then
        (.ok (ETag.ofData data), store.setUpload id (upload.putPart (.ofData number data)))
      else
        (.error (.keyNotFound container key (some id)),
          store.setUpload id { upload with hiddenFor := upload.hiddenFor - 1 })

/-- Assembles the listed parts of an upload into its object. -/
def complete (store : Store) (container key id : String) (manifest : Manifest) : Reply × Store :=
  if container ∉ store.containers then (.error (noSuchContainer container), store)
  else if manifest.isEmpty then
    (.error (.rejected "MalformedXML" "a multipart upload needs at least one part"), store)
  else match store.upload? container key id with
    | none => (.error (noSuchUpload id), store)
    | some upload =>
      match upload.collect manifest.toList with
      | .error e => (.error e, store)
      | .ok parts =>
        let object := upload.assemble parts
        (.ok object.etag, (store.removeUpload id).place container object)

/-- Drops an upload with all of its parts. -/
def abort (store : Store) (container key id : String) : Reply × Store :=
  match store.upload? container key id with
  | none => (.error (noSuchUpload id), store)
  | some _ => (.ok "", store.removeUpload id)

/-- The bytes of a payload up to its declared length. -/
def body (payload : Payload) : Except ServiceError Bytes :=
  match payload.source.read with
  | .error (path, failure) =>
    .error (.rejected "InternalError" ("failed to read " ++ path ++ ": " ++ failure.message))
  | .ok data =>
    match payload.length? with
    | none => .ok data
    | some length =>
      if data.length < length then
        .error (.rejected "IncompleteBody"
          s!"request body is {data.length} bytes, content length declares {length}")
      else .ok (data.take length)

/-- Stores a whole blob. -/
def putObject (store : Store) (container : String) (blob : Blob) (headers : Headers) :
    Reply × Store :=
  if container ∉ store.containers then (.error (noSuchContainer container), store)
  else match StoredOptions.ofHeaders store.headerTag headers with
    | .error e => (.error e, store)
    | .ok options =>
      match body blob.payload with
      | .error e => (.error e, store)
      | .ok data =>
        let object := StoredObject.ofData blob.metadata options data
        (.ok object.etag, store.place container object)

/-- Carries out a request that met no queued failure. -/
def perform (store : Store) (headers : Headers) : Request → Reply × Store
  | .initiate container metadata _ => store.initiate container metadata headers
  | .uploadPart container key number id part _ =>
    store.uploadPart container key number id part.data headers
  | .complete container key id manifest => store.complete container key id manifest
  | .abort container key id => store.abort container key id
  | .putObject container blob _ => store.putObject container blob headers

def answer (request : Request) (store : Store) : Reply × Store :=
  match request.received store.headerTag with
  | .error e => (.error (.rejected "InvalidArgument" e.message), store)
  | .ok received =>
    match store.receive received with
    | (some e, store) => (.error e, store)
    | (none, store) => store.perform received.headers request

/-- The service whose state is a store. -/
def service : Service Store :=
  ⟨answer⟩

end Store

end MultipartUpload
