import MultipartUpload.Bytes
import Std.Data.ExtTreeMap

/-!
# Blobs

A blob is a payload with the metadata its object will have. The bytes are in memory or in a file,
and the length of the payload may be declared ahead of reading it.
-/

namespace MultipartUpload

/-- The name of an object, its content headers, and the entries its owner attached. -/
structure Metadata where
  name : String
  contentType : Option String := none
  contentDisposition : Option String := none
  contentEncoding : Option String := none
  contentLanguage : Option String := none
  user : Std.ExtTreeMap String String := ∅
  deriving DecidableEq

/-- Why reading failed. -/
inductive ReadFault where
  | notFound
  | permissionDenied
  | isADirectory
  | invalidInput
  | invalidData
  | unexpectedEof
  | timedOut
  | interrupted
  | wouldBlock
  | brokenPipe
  | connectionReset
  | connectionAborted
  | connectionRefused
  | notConnected
  | alreadyExists
  | writeZero
  | unsupported
  | outOfMemory
  | other
  deriving DecidableEq, Repr

structure ReadFailure where
  fault : ReadFault
  message : String
  deriving DecidableEq, Repr

namespace ReadFailure

/-- There is nothing at the path of a file. -/
def missing : ReadFailure :=
  ⟨.notFound, "No such file or directory (os error 2)"⟩

/-- The path of a file leads to a directory. -/
def directory : ReadFailure :=
  ⟨.isADirectory, "Is a directory (os error 21)"⟩

end ReadFailure

/-- Where the bytes of a payload come from. -/
inductive Source where
  | memory (data : Bytes)
  | file (path : String) (data : Bytes)
  /-- A path from which nothing can be read, though it may be possible to open it. -/
  | unreadable (path : String) (failure : ReadFailure) (opens : Bool)
  deriving DecidableEq

/-- All bytes of a source, or the path that cannot be read and the reason. -/
def Source.read : Source → Except (String × ReadFailure) Bytes
  | .memory data => .ok data
  | .file _ data => .ok data
  | .unreadable path failure _ => .error (path, failure)

structure Payload where
  source : Source
  /-- The declared length. -/
  length? : Option Nat
  deriving DecidableEq

namespace Payload

/-- A payload in memory, whose length is known. -/
def ofBytes (data : Bytes) : Payload :=
  ⟨.memory data, some data.length⟩

/-- A payload in a file, of no declared length. -/
def ofFile (path : String) (data : Bytes) : Payload :=
  ⟨.file path data, none⟩

def empty : Payload :=
  ofBytes []

/-- The payload with its length declared anew. -/
def withLength (payload : Payload) (length : Nat) : Payload :=
  { payload with length? := some length }

end Payload

structure Blob where
  metadata : Metadata
  payload : Payload
  deriving DecidableEq

namespace Blob

def ofName (name : String) (payload : Payload) : Blob :=
  ⟨{ name }, payload⟩

def name (blob : Blob) : String :=
  blob.metadata.name

def length? (blob : Blob) : Option Nat :=
  blob.payload.length?

end Blob

end MultipartUpload
