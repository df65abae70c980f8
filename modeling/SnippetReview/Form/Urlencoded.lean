import SnippetReview.Form.Fault
import SnippetReview.Form.Fields
import SnippetReview.Text.HexDigit
import SnippetReview.Text.Split

/-!
# URL-encoded forms

Fields are separated by ampersands, a name and its value by the first equals sign; a name without
an equals sign has an empty value. Nothing between two ampersands is no field. In names and values
a plus stands for a space, and a percent sign with two hexadecimal digits for a byte of the UTF-8
form. `Urlencoded.fields` refuses a form with too many fields or with a field that is too long,
whichever comes first.
-/

namespace SnippetReview

namespace Form

namespace Urlencoded

/-! ## Names and values -/

/-- The byte with the given two hexadecimal digits. -/
def hexByte? (high low : UInt8) : Option UInt8 :=
  (hexNumber? (Bytes.toLatin1 [high, low])).map UInt8.ofNat

/-- Replaces percent escapes by their bytes; a percent sign that begins none stays. `done` are the
bytes so far, latest first. -/
def unescapeFrom (done : Bytes) : Bytes → Bytes
  | 0x25 :: a :: b :: rest =>
    match hexByte? a b with
    | some byte => unescapeFrom (byte :: done) rest
    | none => unescapeFrom (0x25 :: done) (a :: b :: rest)
  | b :: rest => unescapeFrom (b :: done) rest
  | [] => done.reverse

/-- The bytes with percent escapes replaced. -/
def unescape (bytes : Bytes) : Bytes := unescapeFrom [] bytes

/-- Whether a byte is an ASCII character. -/
def isAscii (b : UInt8) : Bool := b < 0x80

/-- The text of a run of bytes that are all ASCII or all not. Only an ASCII run can hold escapes;
other bytes are characters by themselves. -/
def decodeRun (run : Bytes) : Text :=
  if run.all isAscii then Utf8.decodeRepairing (unescape run) else run.toLatin1

/-- A plus as the space that it stands for. -/
def plusToSpace (b : UInt8) : UInt8 := if b = 0x2B then 0x20 else b

/-- The text of a name or a value. -/
def decode (bytes : Bytes) : Text :=
  ((bytes.map plusToSpace).splitBy fun a b => isAscii a == isAscii b).flatMap decodeRun

/-! ## Fields -/

/-- The separator of fields. -/
def ampersand : UInt8 := 0x26

/-- The sign between a name and its value. -/
def equals : UInt8 := 0x3D

/-- The name and the value in the bytes of a field. -/
def nameAndValue (field : Bytes) : Bytes × Bytes := (breakAt? [equals] field).getD (field, [])

/-- The field in the given bytes, before which there are as many fields as `before` says. -/
def field (bytes : Bytes) (before : Nat) : Except Fault (Text × Value) :=
  let (name, value) := nameAndValue bytes
  if maxFields ≤ before then .error .tooManyFields
  else if maxTextBytes < name.length + value.length then .error .longField
  else .ok (decode name, .text (decode value))

/-- The fields of a form. -/
def fields (body : Bytes) : Except Fault Fields :=
  ((pieces ampersand body).filter fun p => !p.isEmpty).zipIdx.mapM fun (p, i) => field p i

end Urlencoded

end Form

end SnippetReview
