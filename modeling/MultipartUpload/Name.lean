import MultipartUpload.Text.Quoted

/-!
# Names of containers and objects

A container name has 3 to 63 bytes of lower-case letters, digits, hyphens and dots, with a letter or
a digit at either end and no two dots in a row. An object key has 1 to 1024 bytes of any text.
-/

namespace MultipartUpload

inductive NameFault where
  | containerLength
  | containerAlphabet
  | containerEdges
  | containerDots
  | keyEmpty
  | keyLength
  deriving DecidableEq, Repr

/-- What the rejected name was meant to name. -/
def NameFault.kind : NameFault → String
  | .containerLength | .containerAlphabet | .containerEdges | .containerDots => "container"
  | .keyEmpty | .keyLength => "object key"

def NameFault.reason : NameFault → String
  | .containerLength => "must be between 3 and 63 characters long"
  | .containerAlphabet => "must only contain lowercase letters, numbers, hyphens, and dots"
  | .containerEdges => "must start and end with a letter or number"
  | .containerDots => "must not contain consecutive dots"
  | .keyEmpty => "must not be empty"
  | .keyLength => "must not exceed 1024 bytes"

/-- A name and the first rule it breaks. -/
structure NameError where
  fault : NameFault
  name : String
  deriving DecidableEq, Repr

def NameError.message (e : NameError) : String :=
  "invalid " ++ e.fault.kind ++ " name " ++ Text.quoted e.name ++ ": " ++ e.fault.reason

structure ContainerName where
  text : String
  deriving DecidableEq, Repr

namespace ContainerName

/-- Lower-case letters and digits, the characters a name may begin and end with. -/
def isEdge (c : Char) : Bool :=
  c.isLower || c.isDigit

def isNameChar (c : Char) : Bool :=
  isEdge c || c == '-' || c == '.'

/-- Whether two dots stand in a row. -/
def hasDoubleDot : List Char → Bool
  | '.' :: '.' :: _ => true
  | _ :: cs => hasDoubleDot cs
  | [] => false

def ofString (s : String) : Except NameError ContainerName :=
  let cs := s.toList
  if s.utf8ByteSize < 3 ∨ 63 < s.utf8ByteSize then .error ⟨.containerLength, s⟩
  else if ¬cs.all isNameChar then .error ⟨.containerAlphabet, s⟩
  else if ¬(cs.head?.all isEdge ∧ cs.getLast?.all isEdge) then .error ⟨.containerEdges, s⟩
  else if hasDoubleDot cs then .error ⟨.containerDots, s⟩
  else .ok ⟨s⟩

end ContainerName

structure ObjectKey where
  text : String
  deriving DecidableEq, Repr

namespace ObjectKey

/-- The greatest length of a key in bytes. -/
def maxBytes : Nat := 1024

def ofString (s : String) : Except NameError ObjectKey :=
  if s = "" then .error ⟨.keyEmpty, s⟩
  else if maxBytes < s.utf8ByteSize then .error ⟨.keyLength, s⟩
  else .ok ⟨s⟩

end ObjectKey

end MultipartUpload
