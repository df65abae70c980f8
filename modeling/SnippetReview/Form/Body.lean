import SnippetReview.Form.Urlencoded
import SnippetReview.Form.Multipart

/-!
# The body of a form

The content type of a request tells how the fields stand in its body. A request with another
content type, or with none, has no fields.
-/

namespace SnippetReview

namespace Form

/-- The fields of a multipart form with the given content type. -/
def multipartFields (contentType : Header.Parsed) (body : Bytes) : Except Fault Fields :=
  let charset := ((contentType.parameter? "charset").map Charset.named).getD Charset.utf8
  match contentType.parameter? "boundary" with
  | some boundary => Multipart.fields charset (Bytes.ofLatin1 boundary) body
  | none => .error .noBoundary

/-- The fields in a body of the given content type. -/
def fieldsOf (contentType : Option Text) (body : Bytes) : Except Fault Fields :=
  let header := Header.parse (contentType.getD [])
  if header.main = "application/x-www-form-urlencoded".toList then Urlencoded.fields body
  else if header.main = "multipart/form-data".toList then multipartFields header body
  else .ok []

end Form

end SnippetReview
