import SnippetReview.Text.DomainName.Preparation
import SnippetReview.Text.Punycode
import SnippetReview.Text.Split

/-!
# Domain names

The labels of a domain name stand between dots. A label with other characters than ASCII is written
in Punycode behind a mark, and only in the one form that the prepared label has.
-/

namespace SnippetReview

namespace DomainName

/-- The mark before a label in Punycode. -/
def mark : Bytes := Utf8.encode "xn--".toList

/-- The number of bytes that a label in Punycode has to stay below. -/
def labelLimit : Nat := 64

/-- Whether a text is the one that a label with the given Punycode is written for. -/
def isLabelOf (s : Text) (punycode : Bytes) : Bool :=
  let hasAscii := s.any fun c => c.toNat < 0x80
  s.any (fun c => 0x80 ≤ c.toNat) && (hasAscii || !punycode.contains Punycode.hyphen)
    && isPrepared s && !(mark.toLatin1.isPrefixOf s) && mark.length + punycode.length < labelLimit

/-- The text of a label. -/
def label (bytes : Bytes) : Except Unread Text :=
  if mark.isPrefixOf bytes then
    let punycode := bytes.drop mark.length
    match Punycode.decode punycode with
    | .ok p =>
      match (RawText.toText? p).filter (isLabelOf · punycode) with
      | some s => .ok s
      | none => .error .refused
    | .error e => .error e
  else if bytes.any (0x80 ≤ ·) then .error .malformed
  else .ok bytes.toLatin1

/-- The dot. -/
def dot : UInt8 := 0x2E

/-- Domain names. -/
def decode : Decoder := fun bytes =>
  ((pieces dot bytes).mapM label).map (joinPieces '.')

end DomainName

end SnippetReview
