import MultipartUpload.Text.Hex
import MultipartUpload.Text.Hidden

/-!
# Quoted text in messages

A message shows a rejected text between double quotes. The quote and the backslash get a backslash
in front, tab, line ends and the null character have short names, and every other hidden character
is shown by its number.
-/

namespace MultipartUpload.Text

/-- How one character is shown between quotes. -/
def showChar (c : Char) : List Char :=
  if c = '\x00' then ['\\', '0']
  else if c = '\t' then ['\\', 't']
  else if c = '\n' then ['\\', 'n']
  else if c = '\r' then ['\\', 'r']
  else if c = '"' then ['\\', '"']
  else if c = '\\' then ['\\', '\\']
  else if isHidden c then ['\\', 'u', '{'] ++ Hex.digits c.toNat ++ ['}']
  else [c]

/-- A text between double quotes, with nothing hidden in it. -/
def quoted (s : String) : String :=
  String.ofList ('"' :: s.toList.flatMap showChar ++ ['"'])

end MultipartUpload.Text
