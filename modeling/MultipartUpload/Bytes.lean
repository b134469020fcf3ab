/-!
# Bytes

What travels in requests and rests in objects.
-/

namespace MultipartUpload

abbrev Bytes := List UInt8

/-- The UTF-8 bytes of a text. -/
def Bytes.ofString (s : String) : Bytes :=
  s.toUTF8.data.toList

end MultipartUpload
