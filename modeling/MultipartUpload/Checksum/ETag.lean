import MultipartUpload.Checksum.Md5
import MultipartUpload.Text.Strip

/-!
# Entity tags

The tag of stored data is its MD5 digest in hexadecimal, between double quotes. The tag of an object
assembled from parts is the digest of the joined digests of its parts, followed by their number.
-/

namespace MultipartUpload.ETag

/-- The MD5 digest of the data in hexadecimal. -/
def md5 (data : Bytes) : String :=
  String.ofList (Hex.encode (Md5.digest data))

/-- The tag of data stored in one piece. -/
def ofData (data : Bytes) : String :=
  "\"" ++ md5 data ++ "\""

/-- The digest inside a tag, whose quotes may be missing. A tag that holds no digits of whole bytes
has none. -/
def digest? (etag : String) : Option Bytes :=
  Hex.decode? (Text.strip (· == '"') etag.toList)

/-- The tag of an object assembled from parts with the given tags. Tags without a digest only
count. -/
def ofParts (etags : List String) : String :=
  let digests := etags.flatMap fun etag ↦ (digest? etag).getD []
  "\"" ++ md5 digests ++ "-" ++ toString etags.length ++ "\""

end MultipartUpload.ETag
