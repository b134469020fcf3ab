import MultipartUpload.Service

/-!
# Scripted services

A service that grants every request, except for the failures queued for it. Checksums and
identifiers follow a fixed scheme, so a conversation with it depends on the script alone.
-/

namespace MultipartUpload

/-- The failures still to come for each kind of request, the next one in front. -/
structure Script where
  uploadId : String
  initiate : List ServiceError := []
  parts : Std.ExtTreeMap Nat (List ServiceError) := ∅
  complete : List ServiceError := []
  abort : List ServiceError := []
  put : List ServiceError := []

namespace Script

/-- Queues a failure for a part number. -/
def failPart (script : Script) (number : Nat) (e : ServiceError) : Script :=
  { script with parts := script.parts.insert number (script.parts.getD number [] ++ [e]) }

/-- The next failure in a queue or the granted text, and what is left of the queue. -/
def next (granted : String) : List ServiceError → Reply × List ServiceError
  | [] => (.ok granted, [])
  | e :: rest => (.error e, rest)

def answer (request : Request) (script : Script) : Reply × Script :=
  match request with
  | .initiate .. =>
    let (reply, initiate) := next script.uploadId script.initiate
    (reply, { script with initiate })
  | .uploadPart _ _ number .. =>
    let (reply, queue) := next s!"\"etag-{number}\"" (script.parts.getD number [])
    (reply, { script with parts := script.parts.insert number queue })
  | .complete .. =>
    let (reply, complete) := next "\"final-etag\"" script.complete
    (reply, { script with complete })
  | .abort .. =>
    let (reply, abort) := next "" script.abort
    (reply, { script with abort })
  | .putObject .. =>
    let (reply, put) := next "\"single-etag\"" script.put
    (reply, { script with put })

def service : Service Script :=
  ⟨answer⟩

end Script

end MultipartUpload
