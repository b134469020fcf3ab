/-!
# Canned access policies

A policy is chosen by name from a fixed list. A service assumes the private one when none is sent.
-/

namespace MultipartUpload

inductive Acl where
  | privateAccess
  | publicRead
  | publicReadWrite
  | authenticatedRead
  | bucketOwnerRead
  | bucketOwnerFullControl
  deriving DecidableEq, Repr

namespace Acl

instance : Inhabited Acl := ⟨.privateAccess⟩

/-- The name sent to services. -/
def name : Acl → String
  | .privateAccess => "private"
  | .publicRead => "public-read"
  | .publicReadWrite => "public-read-write"
  | .authenticatedRead => "authenticated-read"
  | .bucketOwnerRead => "bucket-owner-read"
  | .bucketOwnerFullControl => "bucket-owner-full-control"

def all : List Acl :=
  [.privateAccess, .publicRead, .publicReadWrite, .authenticatedRead, .bucketOwnerRead,
    .bucketOwnerFullControl]

def ofName? (s : String) : Option Acl :=
  all.find? (·.name == s)

/-- A name that no policy has. -/
structure Unknown where
  name : String
  deriving DecidableEq, Repr

def Unknown.message (e : Unknown) : String :=
  "unknown canned ACL: " ++ e.name

def ofName (s : String) : Except Unknown Acl :=
  match ofName? s with
  | some acl => .ok acl
  | none => .error ⟨s⟩

end Acl

end MultipartUpload
