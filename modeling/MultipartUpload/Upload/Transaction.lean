import MultipartUpload.Service

/-!
# Upload transactions

The bookkeeping of one multipart upload: the phases it went through, the identifier the service gave
it, and the checksums of the parts that were accepted.
-/

namespace MultipartUpload

/-- The life cycle of a multipart upload. -/
inductive Phase where
  | notStarted
  | initiated
  | uploadingParts
  | completing
  | done
  | aborting
  | aborted
  deriving DecidableEq, Repr

/-- Whether one phase may follow another. -/
def Phase.canAdvance : Phase → Phase → Bool
  | .notStarted, .initiated => true
  | .initiated, .uploadingParts | .initiated, .aborting => true
  | .uploadingParts, .completing | .uploadingParts, .aborting => true
  | .completing, .done | .completing, .aborting => true
  | .aborting, .aborted => true
  | _, _ => false

structure Transaction where
  container : String
  key : String
  uploadId? : Option String := none
  phase : Phase := .notStarted
  /-- The phases before the current one, the latest in front. -/
  past : List Phase := []
  manifest : Manifest := ∅
  deriving DecidableEq

namespace Transaction

def advance (tx : Transaction) (next : Phase) : Transaction :=
  { tx with phase := next, past := tx.phase :: tx.past }

/-- The service gave the upload an identifier. -/
def begin (tx : Transaction) (uploadId : String) : Transaction :=
  { tx with uploadId? := some uploadId }.advance .initiated

/-- The identifier of the upload, empty before there is one. -/
def uploadId (tx : Transaction) : String :=
  tx.uploadId?.getD ""

/-- The service accepted a part. -/
def record (tx : Transaction) (number : Nat) (checksum : String) : Transaction :=
  { tx with manifest := tx.manifest.insert number checksum }

def partRequest (tx : Transaction) (number : Nat) (part : Part) (options : UploadOptions) :
    Request :=
  .uploadPart tx.container tx.key number tx.uploadId part options

def completeRequest (tx : Transaction) : Request :=
  .complete tx.container tx.key tx.uploadId tx.manifest

def abortRequest (tx : Transaction) : Request :=
  .abort tx.container tx.key tx.uploadId

end Transaction

end MultipartUpload
