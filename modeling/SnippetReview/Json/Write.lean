import SnippetReview.Json.Basic
import SnippetReview.Json.StringLiteral

/-!
# Writing JSON

A value is written without blanks, and its strings with as few escapes as there may be.
-/

namespace SnippetReview

namespace Json

/-- A string as it is written. -/
def writePoints (p : RawText) : RawText :=
  .char '"' :: (p.flatMap StringLiteral.writePoint ++ [.char '"'])

mutual

/-- A value as it is written. -/
def write : Json → RawText
  | null => RawText.of "null".toList
  | bool true => RawText.of "true".toList
  | bool false => RawText.of "false".toList
  | integer n => RawText.of (Numeral.decimal n)
  | decimal literal => RawText.of literal
  | string s => writePoints (RawText.of s)
  | illFormed p => writePoints p
  | array items => .char '[' :: (writeItems items ++ [.char ']'])
  | object members => .char '\x7b' :: (writeMembers members ++ [.char '\x7d'])

/-- The items of an array as they are written. -/
def writeItems : List Json → RawText
  | [] => []
  | [v] => v.write
  | v :: vs => v.write ++ .char ',' :: writeItems vs

/-- The members of an object as they are written. -/
def writeMembers : List (Text × Json) → RawText
  | [] => []
  | [(k, v)] => writePoints (RawText.of k) ++ .char ':' :: v.write
  | (k, v) :: ms =>
    writePoints (RawText.of k) ++ .char ':' :: (v.write ++ .char ',' :: writeMembers ms)

end

end Json

end SnippetReview
