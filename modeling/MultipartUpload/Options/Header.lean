import Std.Data.ExtTreeMap

/-!
# Request headers

Options travel in headers whose names carry the tag of the provider. A header name is an HTTP token
whose length fits a word of 16 bits, and names that differ only in case are the same. A header value
has no control characters but tabs, and it can be read as text if all of it is ASCII.
-/

namespace MultipartUpload

/-- Header values under their names in lower case. -/
abbrev Headers := Std.ExtTreeMap String String

namespace Header

/-- The characters of HTTP tokens. -/
def isTokenChar (c : Char) : Bool :=
  c.isAlphanum || "!#$%&'*+-.^_`|~".toList.contains c

def isToken (s : String) : Bool :=
  s ≠ "" && s.toList.all isTokenChar

/-- The greatest length of a name in bytes. -/
def maxBytes : Nat := UInt16.size - 1

/-- Whether a text can name a header. -/
def isName (s : String) : Bool :=
  isToken s && s.utf8ByteSize ≤ maxBytes

/-- The name of the header that carries an option. -/
def name (tag option : String) : String :=
  "x-" ++ tag ++ "-" ++ option

/-- The form under which a name is stored and looked up. -/
def fold (name : String) : String :=
  String.ofList (name.toList.map Char.toLower)

/-- Whether a text can be the value of a header. -/
def isValue (s : String) : Bool :=
  s.toList.all fun c ↦ (' ' ≤ c && c ≠ '\x7f') || c == '\t'

/-- Whether a value can be read as text. -/
def isText (s : String) : Bool :=
  s.toList.all fun c ↦ (' ' ≤ c && c ≤ '~') || c == '\t'

/-- What is wrong with a header. -/
inductive Fault where
  | name
  | value
  deriving DecidableEq, Repr

def Fault.reason : Fault → String
  | .name => "invalid HTTP header name"
  | .value => "failed to parse header value"

/-- The header that cannot be sent, and what is wrong with it. -/
structure Error where
  fault : Fault
  name : String
  deriving DecidableEq, Repr

def Error.message (e : Error) : String :=
  "invalid header " ++ e.name ++ ": " ++ e.fault.reason

end Header

namespace Headers

/-- Adds the header of an option. -/
def add (headers : Headers) (tag option value : String) : Except Header.Error Headers :=
  let name := Header.name tag option
  if ¬Header.isName name then .error ⟨.name, name⟩
  else if ¬Header.isValue value then .error ⟨.value, name⟩
  else .ok (headers.insert (Header.fold name) value)

/-- The value of the header of an option. -/
def find? (headers : Headers) (tag option : String) : Option String :=
  headers[Header.fold (Header.name tag option)]?

end Headers

end MultipartUpload
