import MultipartUpload.Memory.Stored
import MultipartUpload.Memory.UploadId
import MultipartUpload.Name

/-!
# The state of the in-memory service

Containers with their objects, uploads in progress, failures queued for requests to come, and every
request received.
-/

namespace MultipartUpload

inductive Operation where
  | initiate
  | uploadPart
  | complete
  | abort
  | putObject
  deriving DecidableEq, Repr

/-- The name of an operation in logs. -/
def Operation.name : Operation → String
  | .initiate => "InitiateMultipartUpload"
  | .uploadPart => "UploadPart"
  | .complete => "CompleteMultipartUpload"
  | .abort => "AbortMultipartUpload"
  | .putObject => "PutObject"

/-- A request as the service saw it. -/
structure ReceivedRequest where
  operation : Operation
  container : String
  key : String
  number? : Option Nat
  headers : Headers
  deriving DecidableEq

/-- Failures for requests to come. Parts have a queue for each number. -/
structure Faults where
  initiate : Option ServiceError := none
  parts : Std.ExtTreeMap Nat (List ServiceError) := ∅
  complete : Option ServiceError := none
  abort : Option ServiceError := none
  deriving DecidableEq

namespace Faults

/-- The failures waiting for a part number, the first to come in front. -/
def queue (faults : Faults) (number : Nat) : List ServiceError :=
  faults.parts.getD number []

/-- Takes the failure waiting for a request, if there is one. -/
def take (faults : Faults) (request : ReceivedRequest) : Option ServiceError × Faults :=
  match request.operation with
  | .initiate => (faults.initiate, { faults with initiate := none })
  | .complete => (faults.complete, { faults with complete := none })
  | .abort => (faults.abort, { faults with abort := none })
  | .putObject => (none, faults)
  | .uploadPart =>
    let number := request.number?.getD 0
    match faults.queue number with
    | [] => (none, faults)
    | e :: rest => (some e, { faults with parts := faults.parts.insert number rest })

end Faults

structure Store where
  headerTag : String
  /-- How many requests for parts of a new upload are told that there is no such upload. -/
  lag : Nat := 0
  containers : Std.ExtTreeMap String (Std.ExtTreeMap String StoredObject) := ∅
  uploads : Std.ExtTreeMap String StoredUpload := ∅
  faults : Faults := {}
  log : Array ReceivedRequest := #[]
  /-- How the identifiers of uploads are spelled. -/
  spelling : UploadId.Spelling := .hexadecimal
  /-- How many identifiers have been issued. -/
  issued : Nat := 0

namespace Store

/-- A store without containers, for headers with the tag of a configuration. -/
def empty (c : Config) (lag : Nat) (spelling : UploadId.Spelling) : Store :=
  { headerTag := c.headerTag, lag, spelling }

/-! ## Containers and objects -/

/-- Creates a container, unless it exists already. -/
def createContainer (store : Store) (name : String) : Except NameError Store :=
  match ContainerName.ofString name with
  | .error e => .error e
  | .ok name => .ok { store with containers := store.containers.insertIfNew name.text ∅ }

def object? (store : Store) (container key : String) : Option StoredObject :=
  store.containers[container]?.bind fun objects ↦ objects[key]?

def objectCount (store : Store) (container : String) : Nat :=
  (store.containers[container]?.map (·.size)).getD 0

/-- Stores an object under its key in a container that exists. -/
def place (store : Store) (container : String) (object : StoredObject) : Store :=
  { store with containers := store.containers.modify container (·.insert object.key object) }

/-! ## Uploads -/

/-- The upload with an identifier, if it is in progress for the given container and key. -/
def upload? (store : Store) (container key id : String) : Option StoredUpload :=
  store.uploads[id]?.filter fun upload ↦ upload.container == container && upload.key == key

/-- The identifiers of the uploads in progress in a container, in the order of texts. -/
def inProgress (store : Store) (container : String) : List String :=
  (store.uploads.values.filter (·.container == container)).map (·.id)

/-- The identifier that is issued next. -/
def nextId (store : Store) : String :=
  store.spelling.spell (store.issued + 1)

/-- Begins an upload under the next identifier. -/
def begin (store : Store) (container : String) (metadata : Metadata) (options : StoredOptions) :
    Store :=
  { store with
    uploads := store.uploads.insert store.nextId
      (.start store.nextId container metadata options store.lag)
    issued := store.issued + 1 }

def setUpload (store : Store) (id : String) (upload : StoredUpload) : Store :=
  { store with uploads := store.uploads.insert id upload }

def removeUpload (store : Store) (id : String) : Store :=
  { store with uploads := store.uploads.erase id }

/-! ## Queued failures -/

/-- Fails the next request that begins an upload. -/
def failInitiate (store : Store) (e : ServiceError) : Store :=
  { store with faults := { store.faults with initiate := some e } }

/-- Fails one more of the next requests for a part number. -/
def failPart (store : Store) (number : Nat) (e : ServiceError) : Store :=
  { store with faults := { store.faults with
    parts := store.faults.parts.insert number (store.faults.queue number ++ [e]) } }

/-- Fails the next request that completes an upload. -/
def failComplete (store : Store) (e : ServiceError) : Store :=
  { store with faults := { store.faults with complete := some e } }

/-- Fails the next request that aborts an upload. -/
def failAbort (store : Store) (e : ServiceError) : Store :=
  { store with faults := { store.faults with abort := some e } }

/-! ## Requests received -/

/-- Logs a request and takes the failure waiting for it. -/
def receive (store : Store) (request : ReceivedRequest) : Option ServiceError × Store :=
  let taken := store.faults.take request
  (taken.1, { store with faults := taken.2, log := store.log.push request })

/-- The requests of one kind, in the order of arrival. -/
def requestsFor (store : Store) (operation : Operation) : List ReceivedRequest :=
  store.log.toList.filter (·.operation == operation)

end Store

end MultipartUpload
