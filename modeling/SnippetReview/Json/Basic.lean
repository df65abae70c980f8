import SnippetReview.Text.RawText

/-!
# JSON values

Numbers are kept apart as integers, which are read exactly, and all others, which nothing in
this library computes with and which are kept as they are written. A string may hold lone
surrogates, and is no text then. An object is the list of its members in order; where a key occurs
more than once, the last member with it counts.
-/

namespace SnippetReview

/-- A JSON value. -/
inductive Json
  | null
  | bool (value : Bool)
  | integer (value : Int)
  | decimal (literal : Text)
  | string (value : Text)
  /-- A string in which lone surrogates stand. -/
  | illFormed (points : RawText)
  | array (items : List Json)
  | object (members : List (Text × Json))

namespace Json

/-- The value of a key in a list of members. -/
def lookup? (key : Text) (members : List (Text × Json)) : Option Json :=
  members.reverse.lookup key

/-- The string with the given code points. -/
def ofPoints (p : RawText) : Json :=
  match p.toText? with
  | some s => string s
  | none => illFormed p

/-- The code points of a string, if the value is one. -/
def points? : Json → Option RawText
  | string s => some (RawText.of s)
  | illFormed p => some p
  | _ => none

/-- The text that a value is looked at as, if it is a string. -/
def text? : Json → Option Text
  | string s => some s
  | illFormed p => some p.legible
  | _ => none

/-- The members of an object, if the value is one. -/
def members? : Json → Option (List (Text × Json))
  | object members => some members
  | _ => none

/-- A text given literally, as a JSON string. -/
def ofString (s : String) : Json := string s.toList

end Json

end SnippetReview
