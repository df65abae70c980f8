import SnippetReview.Text.Printable

/-!
# Quoted texts

A text is shown between quote marks with every character that could not be read back escaped.
The mark is the apostrophe, unless the text holds an apostrophe and no double quote. Escaped
are the mark, the backslash, the usual three controls by a letter, and every other character
that is not printable by its code point in two, four or eight hexadecimal digits.
-/

namespace SnippetReview

namespace Quoted

/-- The mark that a text is shown between. -/
def mark (s : Text) : Char := if '\'' ∈ s ∧ '"' ∉ s then '"' else '\''

/-- The hexadecimal digits of a number, with zeros in front up to the given width. -/
def hexDigits (width n : Nat) : Text :=
  let ds := Nat.toDigits 16 n
  List.replicate (width - ds.length) '0' ++ ds

/-- A code point in the shortest of the three hexadecimal forms that can hold it. -/
def codeEscape (n : Nat) : Text :=
  if n < 0x100 then '\\' :: 'x' :: hexDigits 2 n
  else if n < 0x10000 then '\\' :: 'u' :: hexDigits 4 n
  else '\\' :: 'U' :: hexDigits 8 n

/-- One character of the text as it stands between the marks. -/
def escapeChar (quote c : Char) : Text :=
  if c = quote ∨ c = '\\' then ['\\', c]
  else if c = '\t' then ['\\', 't']
  else if c = '\n' then ['\\', 'n']
  else if c = '\r' then ['\\', 'r']
  else if isPrintable c then [c]
  else codeEscape c.toNat

end Quoted

/-- The text between quote marks, with escapes where they are needed. -/
def Text.quoted (s : Text) : Text :=
  let q := Quoted.mark s
  q :: s.flatMap (Quoted.escapeChar q) ++ [q]

end SnippetReview
