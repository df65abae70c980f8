import SnippetReview.Numeral.Basic

/-!
# What is wrong with a form

A form may have a thousand fields and a thousand files, and a field may be a mebibyte long. A
form that has more, or that does not keep to its format, is refused with the first thing that is
wrong with it.
-/

namespace SnippetReview

namespace Form

/-! ## Limits -/

/-- The most fields that hold a text. -/
def maxFields : Nat := 1000

/-- The most fields that hold a file. -/
def maxFiles : Nat := 1000

/-- The number of bytes in a kibibyte. -/
def kibibyte : Nat := 1024

/-- The most bytes of a text. -/
def maxTextBytes : Nat := 1024 * kibibyte

/-! ## Faults -/

/-- Why a form is refused. -/
inductive Fault
  /-- The content type does not tell the boundary between the parts. -/
  | noBoundary
  /-- The parts do not keep to their format. -/
  | badParts
  /-- A part does not tell the name of its field. -/
  | noName
  | tooManyFields
  | tooManyFiles
  /-- The name and the value of a field are too long together. -/
  | longField
  /-- The data of a part are too long. -/
  | longPart
  /-- The character set refuses a text. -/
  | unreadable
  deriving DecidableEq

/-- What is told of something of which there is too much. -/
def tooMany (things : String) (limit : Nat) : Text :=
  "Too many ".toList ++ things.toList ++ ". Maximum number of ".toList ++ things.toList
    ++ " is ".toList ++ Numeral.digits limit ++ ".".toList

/-- What is told of something that is too long. -/
def tooLong (thing : String) : Text :=
  thing.toList ++ " exceeded maximum size of ".toList
    ++ Numeral.digits (maxTextBytes / kibibyte) ++ "KB.".toList

/-- A fault in words, as the sender is told it. -/
def Fault.message : Fault → Text
  | noBoundary => "Missing boundary in multipart.".toList
  | badParts => "Invalid multipart data.".toList
  | noName => "The Content-Disposition header field \"name\" must be provided.".toList
  | tooManyFields => tooMany "fields" maxFields
  | tooManyFiles => tooMany "files" maxFiles
  | longField => tooLong "Field"
  | longPart => tooLong "Part"
  | unreadable => "There was an error parsing the body".toList

end Form

end SnippetReview
