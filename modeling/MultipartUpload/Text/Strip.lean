/-!
# Stripping the ends of a text

A class of characters is removed from the back of a text, or from both its ends. What lies between
the outermost characters outside the class is kept as it is.
-/

namespace MultipartUpload.Text

/-- Drops the longest final stretch of characters in the class. -/
def dropEnd (p : Char → Bool) (cs : List Char) : List Char :=
  (cs.reverse.dropWhile p).reverse

/-- Drops the longest stretches of characters in the class at both ends. -/
def strip (p : Char → Bool) (cs : List Char) : List Char :=
  dropEnd p (cs.dropWhile p)

end MultipartUpload.Text
