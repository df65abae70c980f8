import SnippetReview.Text.Decoding
import SnippetReview.Text.HexDigit

/-!
# Texts with escapes

Here every byte is a character by itself but for the backslash, which begins an escape. An escape
tells a character by a letter or by its code point, in octal or in hexadecimal digits; the code
point may be a surrogate. The raw form has hexadecimal escapes only, and a backslash that begins
none of them stands for itself.
-/

namespace SnippetReview

namespace Escapes

open Decoder

/-- The backslash. -/
def backslash : UInt8 := 0x5C

/-- The code point that stands in `width` hexadecimal digits at the front of the bytes after an
escape letter. -/
def codePoint? (width : Nat) (after : Bytes) : Option (RawText × Nat) := do
  let digits := Bytes.toLatin1 (after.take width)
  if digits.length < width then none
  else
    let p ← CodePoint.ofCode? (← hexNumber? digits)
    some ([p], width + 1)

/-- The escape letters that stand for one character, with this character. -/
def letters : List (Char × Char) :=
  [('\\', '\\'), ('\'', '\''), ('"', '"'), ('a', '\x07'), ('b', '\x08'), ('t', '\t'), ('n', '\n'),
   ('v', '\x0B'), ('f', '\x0C'), ('r', '\r')]

/-- The most digits of an octal escape. -/
def maxOctalDigits : Nat := 3

/-- Whether a character is an octal digit. -/
def isOctal (c : Char) : Bool := '0' ≤ c && c ≤ '7'

/-- The character of an octal escape, given its digits with what follows them. -/
def octal (digits : Text) : Text × Nat :=
  let digits := (digits.take maxOctalDigits).takeWhile isOctal
  ([Char.ofNat (digits.foldl (fun n c => n * 8 + (c.toNat - '0'.toNat)) 0)], digits.length)

/-- What an escape stands for, given the byte after the backslash and what follows it. An escaped
line end stands for nothing, and an escape with another letter for itself. -/
def escape? (e : UInt8) (after : Bytes) : Option (RawText × Nat) :=
  let letter := Char.ofNat e.toNat
  match letter with
  | '\n' => some ([], 1)
  | 'x' => codePoint? 2 after
  | 'u' => codePoint? 4 after
  | 'U' => codePoint? 8 after
  | 'N' => none
  | _ =>
    if isOctal letter then
      let (text, length) := octal (letter :: Bytes.toLatin1 (after.take maxOctalDigits))
      some (RawText.of text, length)
    else
      match letters.lookup letter with
      | some c => some ([.char c], 1)
      | none => some ([.char '\\', .char letter], 1)

/-- Reads one byte as the code point that it is the number of. -/
def byteAsPoint (b : UInt8) : RawText × Nat := ([.char (Char.ofNat b.toNat)], 0)

/-- Texts with all escapes. -/
def all : RawDecoder :=
  ofRead fun b rest =>
    if b ≠ backslash then some (byteAsPoint b)
    else
      match rest with
      | [] => none
      | e :: after => escape? e after

/-- What a raw escape stands for, given the byte after the backslash and what follows it. -/
def rawEscape? (e : UInt8) (after : Bytes) : Option (RawText × Nat) :=
  match Char.ofNat e.toNat with
  | 'u' => codePoint? 4 after
  | 'U' => codePoint? 8 after
  | c => some ([.char '\\', .char c], 1)

/-- Raw texts. -/
def raw : RawDecoder :=
  ofRead fun b rest =>
    match b == backslash, rest with
    | true, e :: after => rawEscape? e after
    | _, _ => some (byteAsPoint b)

end Escapes

end SnippetReview
