import MultipartUpload.Text.Blank

/-!
# Decimal numerals

A numeral is a nonempty run of ASCII digits; leading zeros are allowed. Settings also admit a plus
sign in front and white space around, and a word of 64 or 32 bits must hold the value.
-/

namespace MultipartUpload.Numeral

/-- The decimal digits of a number, without leading zeros. -/
def digits (n : Nat) : List Char :=
  Nat.toDigits 10 n

/-- The number that a run of digits stands for. -/
def value (cs : List Char) : Nat :=
  cs.foldl (fun n c ↦ n * 10 + (c.toNat - '0'.toNat)) 0

/-- Reads a nonempty run of digits. -/
def read? (cs : List Char) : Option Nat :=
  if cs ≠ [] ∧ cs.all Char.isDigit then some (value cs) else none

/-- Reads digits with an optional plus sign in front. -/
def readSigned? : List Char → Option Nat
  | '+' :: cs => read? cs
  | cs => read? cs

/-- Reads a setting: a numeral with an optional plus sign and white space around it. -/
def ofSetting? (s : String) : Option Nat :=
  readSigned? (Text.strip Text.isBlank s.toList)

/-- The word of 64 bits with the given value, if there is one. -/
def word64? (n : Nat) : Option UInt64 :=
  if n < UInt64.size then some (UInt64.ofNat n) else none

/-- The word of 32 bits with the given value, if there is one. -/
def word32? (n : Nat) : Option UInt32 :=
  if n < UInt32.size then some (UInt32.ofNat n) else none

end MultipartUpload.Numeral
