/-!
# JSON values

A value keeps what the readers of this library tell apart. Numbers are naturals or something else,
the members of an object stay in the order they were written in, and a text whose escapes name a
lone surrogate has no content.
-/

namespace MultipartUpload

/-- The content of a text, missing if its escapes name a lone surrogate. -/
abbrev Json.Content := Option String

inductive Json where
  | null
  | bool (value : Bool)
  | natural (value : Nat)
  /-- A number with a sign, a fraction or an exponent. -/
  | otherNumber
  | text (content : Json.Content)
  | list (items : List Json)
  | object (members : List (Json.Content × Json))
  deriving Inhabited

namespace Json

/-- A text with the given content. -/
def ofString (s : String) : Json :=
  .text (some s)

/-- An object with the given members. -/
def ofMembers (members : List (String × Json)) : Json :=
  .object (members.map fun m ↦ (some m.1, m.2))

end Json

end MultipartUpload
