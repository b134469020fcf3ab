import MultipartUpload.Text.Strip

/-!
# White space

The characters with the Unicode property `White_Space`. Names and numbers are read with the white
space around them removed.
-/

namespace MultipartUpload.Text

/-- Whether a character has the property `White_Space`. -/
def isBlank (c : Char) : Bool :=
  let n := c.toNat
  (0x09 ≤ n && n ≤ 0x0d) || n == 0x20 || n == 0x85 || n == 0xa0 || n == 0x1680 ||
    (0x2000 ≤ n && n ≤ 0x200a) || n == 0x2028 || n == 0x2029 || n == 0x202f || n == 0x205f ||
    n == 0x3000

/-- A text without the white space around it. -/
def trim (s : String) : String :=
  String.ofList (strip isBlank s.toList)

end MultipartUpload.Text
