import MultipartUpload.Json.Basic
import MultipartUpload.Text.Hex
import MultipartUpload.Text.Numeral

/-!
# JSON tokens

A JSON text is a sequence of tokens with white space between them. The lexer reads one character at
a time: outside texts it collects words up to the next delimiter, inside texts it collects code
points and pairs surrogates at the closing quote.
-/

namespace MultipartUpload.Json

inductive Token where
  | beginList
  | endList
  | beginObject
  | endObject
  | colon
  | comma
  /-- A word that is a whole value: a literal or a number. -/
  | atom (value : Json)
  | text (content : Content)

/-! ## Numbers -/

/-- What follows the integer part of a number: a zero, or digits that do not begin with one. -/
def afterInteger? : List Char → Option (List Char)
  | '0' :: cs => some cs
  | c :: cs => if c.isDigit then some (cs.dropWhile Char.isDigit) else none
  | [] => none

/-- What follows a nonempty run of digits. -/
def afterDigits? : List Char → Option (List Char)
  | c :: cs => if c.isDigit then some (cs.dropWhile Char.isDigit) else none
  | [] => none

def afterFraction? : List Char → Option (List Char)
  | '.' :: cs => afterDigits? cs
  | cs => some cs

def afterExponent? : List Char → Option (List Char)
  | c :: cs =>
    if c = 'e' ∨ c = 'E' then
      match cs with
      | '+' :: ds => afterDigits? ds
      | '-' :: ds => afterDigits? ds
      | ds => afterDigits? ds
    else some (c :: cs)
  | [] => some []

/-- Whether a word is a number: a sign, an integer part, a fraction and an exponent, of which only
the integer part is required. -/
def isNumber (word : List Char) : Bool :=
  let magnitude := if word.head? = some '-' then word.tail else word
  ((afterInteger? magnitude).bind afterFraction?).bind afterExponent? == some []

/-- The value that a word stands for. -/
def ofWord? (word : List Char) : Option Json :=
  if word = ['n', 'u', 'l', 'l'] then some .null
  else if word = ['t', 'r', 'u', 'e'] then some (.bool true)
  else if word = ['f', 'a', 'l', 's', 'e'] then some (.bool false)
  else if afterInteger? word == some [] then some (.natural (Numeral.value word))
  else if isNumber word then some .otherNumber
  else none

/-! ## Texts -/

def isHighSurrogate (n : Nat) : Bool :=
  0xd800 ≤ n && n < 0xdc00

def isLowSurrogate (n : Nat) : Bool :=
  0xdc00 ≤ n && n < 0xe000

/-- The characters that code points stand for, where a high surrogate joins the low one after it.
Any other surrogate names no character. -/
def ofCodePoints? : List Nat → Option (List Char)
  | [] => some []
  | [n] => if isHighSurrogate n || isLowSurrogate n then none else some [Char.ofNat n]
  | n :: m :: rest =>
    if isHighSurrogate n then
      if isLowSurrogate m then
        (ofCodePoints? rest).map
          (Char.ofNat (0x10000 + (n - 0xd800) * 0x400 + (m - 0xdc00)) :: ·)
      else none
    else if isLowSurrogate n then none
    else (ofCodePoints? (m :: rest)).map (Char.ofNat n :: ·)

/-- The character a one-letter escape stands for. -/
def ofEscape? (c : Char) : Option Char :=
  if c = '"' ∨ c = '\\' ∨ c = '/' then some c
  else if c = 'b' then some '\x08'
  else if c = 'f' then some '\x0c'
  else if c = 'n' then some '\n'
  else if c = 'r' then some '\r'
  else if c = 't' then some '\t'
  else none

/-! ## Lexer -/

/-- Where the lexer stands. Words and code points are kept with the latest in front. -/
inductive Place where
  | outside
  | word (read : List Char)
  | inside (points : List Nat)
  | escape (points : List Nat)
  /-- After a numeric escape, with some of its four digits still to come. -/
  | number (points : List Nat) (missing : Nat) (value : Nat)

/-- The lexer's place and the tokens read so far, the latest in front. -/
structure Lexer where
  place : Place
  tokens : List Token

namespace Lexer

def start : Lexer :=
  ⟨.outside, []⟩

/-- The characters words are made of. -/
def isWordChar (c : Char) : Bool :=
  c.isAlphanum || c == '+' || c == '-' || c == '.'

def isBlank (c : Char) : Bool :=
  c == ' ' || c == '\t' || c == '\n' || c == '\r'

/-- Reads a character between tokens. -/
def stepOutside (tokens : List Token) (c : Char) : Option Lexer :=
  if isBlank c then some ⟨.outside, tokens⟩
  else if c = '[' then some ⟨.outside, .beginList :: tokens⟩
  else if c = ']' then some ⟨.outside, .endList :: tokens⟩
  else if c = '{' then some ⟨.outside, .beginObject :: tokens⟩
  else if c = '}' then some ⟨.outside, .endObject :: tokens⟩
  else if c = ':' then some ⟨.outside, .colon :: tokens⟩
  else if c = ',' then some ⟨.outside, .comma :: tokens⟩
  else if c = '"' then some ⟨.inside [], tokens⟩
  else if isWordChar c then some ⟨.word [c], tokens⟩
  else none

/-- The tokens with a finished word added. -/
def endWord? (tokens : List Token) (read : List Char) : Option (List Token) :=
  (ofWord? read.reverse).map fun value ↦ .atom value :: tokens

/-- The content of a finished text. -/
def content (points : List Nat) : Content :=
  (ofCodePoints? points.reverse).map String.ofList

def step (lexer : Lexer) (c : Char) : Option Lexer :=
  match lexer.place with
  | .outside => stepOutside lexer.tokens c
  | .word read =>
    if isWordChar c then some { lexer with place := .word (c :: read) }
    else (endWord? lexer.tokens read).bind fun tokens ↦ stepOutside tokens c
  | .inside points =>
    if c = '"' then some ⟨.outside, .text (content points) :: lexer.tokens⟩
    else if c = '\\' then some { lexer with place := .escape points }
    else if c.toNat < 0x20 then none
    else some { lexer with place := .inside (c.toNat :: points) }
  | .escape points =>
    if c = 'u' then some { lexer with place := .number points 4 0 }
    else (ofEscape? c).map fun named ↦ { lexer with place := .inside (named.toNat :: points) }
  | .number points missing value =>
    (Hex.value? c).map fun digit ↦
      let value := value * 16 + digit
      if missing ≤ 1 then { lexer with place := .inside (value :: points) }
      else { lexer with place := .number points (missing - 1) value }

/-- The tokens read, if the text may end here. -/
def finish? (lexer : Lexer) : Option (List Token) :=
  match lexer.place with
  | .outside => some lexer.tokens.reverse
  | .word read => (endWord? lexer.tokens read).map List.reverse
  | _ => none

end Lexer

/-- The tokens of a JSON text. -/
def tokens? (cs : List Char) : Option (List Token) :=
  (cs.foldlM Lexer.step Lexer.start).bind Lexer.finish?

end MultipartUpload.Json
