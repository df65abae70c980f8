import SnippetReview.Json.Basic
import SnippetReview.Upload

/-!
# The fields of a form

A form delivers named fields, each a text or a file. Where a name occurs more than once, the last
field with it counts. A field that is asked for as a text and is a file, or the other way round, is
a misfit.
-/

namespace SnippetReview

namespace Form

/-- The value of a field. -/
inductive Value
  | text (s : Text)
  /-- A text in which lone surrogates stand. -/
  | illFormed (points : RawText)
  | file (upload : Upload)
  deriving DecidableEq

namespace Value

/-- The value with the given code points. -/
def ofPoints (p : RawText) : Value :=
  match p.toText? with
  | some s => text s
  | none => illFormed p

/-- The code points of a text. -/
def points? : Value → Option RawText
  | text s => some (RawText.of s)
  | illFormed p => some p
  | file _ => none

/-- The text as it is looked at. -/
def text? : Value → Option Text
  | text s => some s
  | illFormed p => some p.legible
  | file _ => none

/-- The file, if the value is one. -/
def file? : Value → Option Upload
  | file upload => some upload
  | _ => none

end Value

/-- The fields of a form, in the order in which they were sent. -/
abbrev Fields := List (Text × Value)

namespace Fields

/-- The value of a field, if there is one. -/
def last? (fields : Fields) (name : String) : Option Value := fields.reverse.lookup name.toList

/-- The text of a field; a field that is missing is empty. -/
def text (fields : Fields) (name : String) : Text :=
  ((fields.last? name).bind Value.text?).getD []

/-- The code points of a field; a field that is missing has none. -/
def points (fields : Fields) (name : String) : RawText :=
  ((fields.last? name).bind Value.points?).getD []

/-- The file of a field, if there is one. -/
def file? (fields : Fields) (name : String) : Option Upload :=
  (fields.last? name).bind Value.file?

/-- The submission that a form makes. -/
def submission (fields : Fields) : Submission :=
  ⟨some (fields.text "language"), some (fields.text "code")⟩

/-- The file that a form sends along. -/
def upload? (fields : Fields) : Option Upload := fields.file? "snippet_file"

end Fields

/-! ## Fields of the wrong kind -/

/-- A field that is not of the kind that is asked for. -/
inductive Misfit
  /-- A file where a text is asked for. -/
  | noText (name : String) (upload : Upload)
  /-- A text where a file is asked for. -/
  | noFile (name : String) (points : RawText)
  deriving DecidableEq

namespace Misfit

/-- What is wrong with a field that has to be a text, if something is. -/
def ofText? (fields : Fields) (name : String) : Option Misfit :=
  (fields.file? name).map (noText name)

/-- What is wrong with a field that has to be a file, if something is. An empty text is as good as
no file. -/
def ofFile? (fields : Fields) (name : String) : Option Misfit :=
  let p := fields.points name
  if p.isEmpty then none else some (noFile name p)

/-- The field. -/
def name : Misfit → String
  | noText name _ | noFile name _ => name

/-- The misfit as an object, where `describe` is how files are told. -/
def object (describe : Upload → Json) (m : Misfit) : Json :=
  let place := Json.array [.ofString "body", .ofString m.name]
  match m with
  | noText _ upload =>
    .object [("type".toList, .ofString "string_type"), ("loc".toList, place),
      ("msg".toList, .ofString "Input should be a valid string"), ("input".toList, describe upload)]
  | noFile _ points =>
    .object [("type".toList, .ofString "value_error"), ("loc".toList, place),
      ("msg".toList, .ofString "Value error, Expected UploadFile, received: <class 'str'>"),
      ("input".toList, .ofPoints points),
      ("ctx".toList, .object [("error".toList, .object [])])]

end Misfit

/-- All fields of the wrong kind, in the order in which they are looked at. -/
def Fields.misfits (fields : Fields) : List Misfit :=
  ["language", "code"].filterMap (Misfit.ofText? fields)
    ++ (Misfit.ofFile? fields "snippet_file").toList

end Form

end SnippetReview
