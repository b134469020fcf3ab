import MultipartUpload.Bytes

/-!
# Hexadecimal digits

Digits are read in either case and written in lower case. Bytes are written as two digits each,
so the text of a byte string has twice its length.
-/

namespace MultipartUpload.Hex

/-- The value of a hexadecimal digit of either case. -/
def value? (c : Char) : Option Nat :=
  if '0' ≤ c ∧ c ≤ '9' then some (c.toNat - '0'.toNat)
  else if 'a' ≤ c ∧ c ≤ 'f' then some (c.toNat - 'a'.toNat + 10)
  else if 'A' ≤ c ∧ c ≤ 'F' then some (c.toNat - 'A'.toNat + 10)
  else none

/-- The lower-case digit of a value below sixteen. -/
def digit (n : Nat) : Char :=
  if n < 10 then Char.ofNat ('0'.toNat + n) else Char.ofNat ('a'.toNat + (n - 10))

/-- The lower-case digits of a number, without leading zeros. -/
def digits (n : Nat) : List Char :=
  Nat.toDigits 16 n

/-- Two digits for each byte. -/
def encode (bytes : Bytes) : List Char :=
  bytes.flatMap fun b ↦ [digit (b.toNat / 16), digit (b.toNat % 16)]

/-- The bytes that pairs of digits stand for. An odd digit at the end is refused. -/
def decode? : List Char → Option Bytes
  | [] => some []
  | [_] => none
  | high :: low :: rest => do
    let h ← value? high
    let l ← value? low
    let bytes ← decode? rest
    return UInt8.ofNat (h * 16 + l) :: bytes

end MultipartUpload.Hex
