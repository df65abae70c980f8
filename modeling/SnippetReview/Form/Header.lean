import SnippetReview.Text.Blank
import SnippetReview.Text.LowerCase
import SnippetReview.Text.Split

/-!
# Header values with parameters

A header value may carry parameters after semicolons, each a key and a value with an equals sign
between. A value may stand between double quotes, where semicolons do not end it and a backslash
stands before a quote or a backslash that belongs to the value.
-/

namespace SnippetReview

namespace Header

/-- A header value: the text before the first semicolon, and the parameters. -/
structure Parsed where
  main : Text
  parameters : List (Text × Text)
  deriving DecidableEq

/-- The parts of a header value between the semicolons that do not stand between quotes. -/
def parts (quoted : Bool) (previous : Char) : Text → List Text
  | [] => [[]]
  | c :: cs =>
    let quoted' := if c = '"' ∧ previous ≠ '\\' then !quoted else quoted
    let rest := parts quoted' c cs
    if c = ';' ∧ !quoted then [] :: rest
    else
      match rest with
      | [] => [[c]]
      | p :: ps => (c :: p) :: ps

/-- Takes a backslash off every occurrence of a character that it stands before. -/
def unescape (escaped : Char) : Text → Text
  | c :: d :: rest =>
    if c = '\\' ∧ d = escaped then
      d :: unescape escaped rest
    else
      c :: unescape escaped (d :: rest)
  | s => s

/-- The value of a parameter without the quotes around it. -/
def unquote (s : Text) : Text :=
  if 1 < s.length ∧ s.head? = some '"' ∧ s.getLast? = some '"' then
    unescape '"' (unescape '\\' s.tail.dropLast)
  else s

/-- The key and the value of a parameter. The key is put into lower case if an equals sign follows
it; without one the value is empty. -/
def parameter (part : Text) : Text × Text :=
  match breakAt? ['='] part with
  | some (key, value) => (Text.toLower (Text.trim key), unquote (Text.trim value))
  | none => (Text.trim part, [])

/-- Reads a header value; what stands before the parameters is put into lower case. -/
def parse (value : Text) : Parsed :=
  match parts false ' ' value with
  | [] => ⟨[], []⟩
  | main :: ps => ⟨Text.toLower (Text.trim main), ps.map parameter⟩

/-- The value of a parameter; of parameters with one key the last one counts. -/
def Parsed.parameter? (h : Parsed) (key : String) : Option Text :=
  h.parameters.reverse.lookup key.toList

end Header

end SnippetReview
