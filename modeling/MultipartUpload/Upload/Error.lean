import MultipartUpload.Name
import MultipartUpload.Service

/-!
# Upload errors

Why a blob was not put. Refusals of the service and failures to read the payload are passed on as
they are.
-/

namespace MultipartUpload

/-- How the parts of a payload depart from the plan. -/
inductive Mismatch where
  | surplus (planned : Nat)
  | shortfall (planned sent : Nat)
  | offset (number actual expected : Nat)
  | size (number actual expected : Nat)
  deriving DecidableEq, Repr

def Mismatch.message : Mismatch → String
  | .surplus planned => s!"payload produced more than {planned} parts"
  | .shortfall planned sent => s!"expected {planned} parts, payload produced {sent}"
  | .offset number actual expected => s!"part {number} starts at {actual}, expected {expected}"
  | .size number actual expected => s!"part {number} is {actual} bytes, expected {expected}"

inductive UploadError where
  | missingLength (key : String)
  | tooLarge (error : EntityTooLarge)
  | service (error : ServiceError)
  | payload (failure : ReadFailure)
  | mismatch (found : Mismatch)
  | name (error : NameError)
  deriving DecidableEq, Repr

def UploadError.message : UploadError → String
  | .missingLength key => "content length of " ++ key ++ " must be declared before uploading"
  | .tooLarge error => error.message
  | .service error => error.message
  | .payload failure => "failed to read payload: " ++ failure.message
  | .mismatch found => "payload slices do not match the plan: " ++ found.message
  | .name error => error.message

end MultipartUpload
