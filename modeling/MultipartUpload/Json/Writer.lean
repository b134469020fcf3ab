import MultipartUpload.Json.Token

/-!
# Writing JSON

Values are written without white space. Quotes, backslashes and control characters are escaped, all
other characters stand for themselves. Reading what was written gives the value back.
-/

namespace MultipartUpload.Json

/-- How a character is written inside a text. -/
def escapeChar (c : Char) : List Char :=
  if c = '"' then ['\\', '"']
  else if c = '\\' then ['\\', '\\']
  else if c = '\x08' then ['\\', 'b']
  else if c = '\x0c' then ['\\', 'f']
  else if c = '\n' then ['\\', 'n']
  else if c = '\r' then ['\\', 'r']
  else if c = '\t' then ['\\', 't']
  else if c.toNat < 0x20 then
    ['\\', 'u', '0', '0', Hex.digit (c.toNat / 16), Hex.digit (c.toNat % 16)]
  else [c]

/-- How a text is written. One without content is written as a lone surrogate. -/
def spellContent : Content → List Char
  | some s => '"' :: s.toList.flatMap escapeChar ++ ['"']
  | none => ['"', '\\', 'u', 'd', '8', '0', '0', '"']

/-- How a value that is a single word is written. -/
def spellAtom : Json → List Char
  | .null => ['n', 'u', 'l', 'l']
  | .bool true => ['t', 'r', 'u', 'e']
  | .bool false => ['f', 'a', 'l', 's', 'e']
  | .natural n => Numeral.digits n
  | .otherNumber => ['-', '0']
  | _ => []

def Token.spell : Token → List Char
  | .beginList => ['[']
  | .endList => [']']
  | .beginObject => ['{']
  | .endObject => ['}']
  | .colon => [':']
  | .comma => [',']
  | .atom value => spellAtom value
  | .text content => spellContent content

mutual

/-- The tokens of a value. -/
def tokens : Json → List Token
  | .text content => [.text content]
  | .list [] => [.beginList, .endList]
  | .list (item :: items) => .beginList :: item.tokens ++ itemTokens items
  | .object [] => [.beginObject, .endObject]
  | .object ((name, value) :: members) =>
    .beginObject :: .text name :: .colon :: value.tokens ++ memberTokens members
  | atom => [.atom atom]

/-- The tokens of the items after the first, up to the end of the list. -/
def itemTokens : List Json → List Token
  | [] => [.endList]
  | item :: items => .comma :: item.tokens ++ itemTokens items

/-- The tokens of the members after the first, up to the end of the object. -/
def memberTokens : List (Content × Json) → List Token
  | [] => [.endObject]
  | (name, value) :: members =>
    .comma :: .text name :: .colon :: value.tokens ++ memberTokens members

end

/-- The text of a value. -/
def render (value : Json) : String :=
  String.ofList (value.tokens.flatMap Token.spell)

end MultipartUpload.Json
