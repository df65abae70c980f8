import SnippetReview.Text.Utf8

/-!
# Code pages

A code page gives every byte one character, or none. Where a byte stands for no character, the
tables have the replacement character.
-/

namespace SnippetReview

/-- The ASCII characters. -/
def CodePage.ascii : String := String.ofList ((List.range 128).map Char.ofNat)

/-- A code page: its own name and the other ones, and the characters of the bytes in their order,
those below 128 and those from 128 on, in pieces. -/
structure CodePage where
  ownName : String
  otherNames : List String
  low : List String := [CodePage.ascii]
  high : List String

namespace CodePage

/-- The control characters from 128 to 159. -/
def controls : String := String.ofList ((List.range 32).map fun i => Char.ofNat (0x80 + i))

/-- The characters of the bytes in their order. -/
def chars (p : CodePage) : Array Char := ((p.low ++ p.high).flatMap String.toList).toArray

/-- The character of a byte, given those of all bytes. -/
def charOf? (chars : Array Char) (b : UInt8) : Option Char :=
  chars[b.toNat]?.filter (· != Utf8.replacement)

/-- The text that the bytes stand for, if each of them stands for a character. -/
def decode? (p : CodePage) (bytes : Bytes) : Option Text :=
  let chars := p.chars
  bytes.mapM (charOf? chars)

end CodePage

end SnippetReview
