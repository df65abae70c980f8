import SnippetReview.Numeral.Basic
import SnippetReview.Text.HexDigit
import SnippetReview.Text.Utf8

/-!
# Texts with lone surrogates

A text that is sent may hold surrogates without a partner, which are no characters. Where such a
text is looked at, the replacement character stands for them, which no rule of this library tells
from them. In what is made of the text they can be put back (`RawText.restore`). What holds one
has no form in UTF-8 (`RawText.encodeError?`).
-/

namespace SnippetReview

/-! ## Code points -/

/-- A code point of a text: a character, or a surrogate that has no partner. -/
inductive CodePoint
  | char (c : Char)
  | surrogate (unit : Nat)
  deriving DecidableEq

/-- The code point as a character, unless it is a surrogate or too large. -/
def charOfCode? (n : Nat) : Option Char :=
  if n.isValidChar then some (Char.ofNat n) else none

namespace CodePoint

/-- The code point with a number, unless that is too large. -/
def ofCode? (n : Nat) : Option CodePoint :=
  if 0xD800 ≤ n ∧ n < 0xE000 then some (surrogate n) else (charOfCode? n).map char

/-- The code point that a unit of sixteen bits is by itself. -/
def ofUnit (u : Nat) : CodePoint :=
  if 0xD800 ≤ u ∧ u < 0xE000 then surrogate u else char (Char.ofNat u)

/-- The character that the code point is, if it is one. -/
def char? : CodePoint → Option Char
  | char c => some c
  | surrogate _ => none

/-- Whether the code point is a surrogate. -/
def isSurrogate : CodePoint → Bool
  | char _ => false
  | surrogate _ => true

/-- The character that stands for the code point. -/
def legible : CodePoint → Char
  | char c => c
  | surrogate _ => Utf8.replacement

end CodePoint

/-- A text in which lone surrogates may stand: its code points in order. -/
abbrev RawText := List CodePoint

namespace RawText

/-- A text, which holds no lone surrogates. -/
def of (s : Text) : RawText := s.map .char

/-- The text that the code points are, unless a lone surrogate is among them. -/
def toText? (p : RawText) : Option Text := p.mapM CodePoint.char?

/-- The text as it is looked at. -/
def legible (p : RawText) : Text := p.map CodePoint.legible

/-- Whether a lone surrogate stands in the text. -/
def hasSurrogate (p : RawText) : Bool := p.any CodePoint.isSurrogate

/-! ## Putting surrogates back -/

/-- The code points that are looked at as the replacement character: it itself and the lone
surrogates. -/
def marks (p : RawText) : RawText := p.filter fun q => q.legible == Utf8.replacement

/-- Puts code points in the places where the replacement character stands; `done` are those of
the text so far, latest first. -/
def restoreFrom (done marks : RawText) : Text → RawText
  | [] => done.reverse
  | c :: cs =>
    match marks with
    | [] => restoreFrom (.char c :: done) [] cs
    | m :: ms =>
      if c = Utf8.replacement then restoreFrom (m :: done) ms cs
      else restoreFrom (.char c :: done) (m :: ms) cs

/-- A text with the given code points, one after the other, in the places where the replacement
character stands. -/
def restore (marks : RawText) (s : Text) : RawText := restoreFrom [] marks s

/-! ## Encoding -/

/-- Why a text has no form in UTF-8: the first lone surrogate, its place, and the place of the last
one in the run of them that begins with it. -/
structure EncodeError where
  unit : Nat
  first : Nat
  last : Nat
  deriving DecidableEq

/-- Why the text has no form in UTF-8, if it has none. -/
def encodeError? (p : RawText) : Option EncodeError :=
  match p.dropWhile fun q => !q.isSurrogate with
  | .surrogate u :: rest =>
    let first := (p.takeWhile fun q => !q.isSurrogate).length
    some ⟨u, first, first + (rest.takeWhile CodePoint.isSurrogate).length⟩
  | _ => none

/-- The error in words. -/
def EncodeError.message (e : EncodeError) : Text :=
  "'utf-8' codec can't encode character".toList
    ++ (if e.first = e.last then
          " '\\u".toList ++ hexUnit e.unit ++ "' in position ".toList ++ Numeral.digits e.first
        else
          "s in position ".toList ++ Numeral.digits e.first ++ "-".toList ++ Numeral.digits e.last)
    ++ ": surrogates not allowed".toList

end RawText

/-! ## Decoding -/

namespace Utf8

/-- The surrogate that three bytes are the form of, as far as UTF-8 can be carried over to it. -/
def surrogate? (a b c : UInt8) : Option CodePoint :=
  if a = 0xED ∧ 0xA0 ≤ b ∧ b ≤ 0xBF ∧ 0x80 ≤ c ∧ c ≤ 0xBF then
    some (.surrogate (0xD000 + b.toNat % 64 * 64 + c.toNat % 64))
  else none

/-- Reads bytes among which surrogates may stand; `run` are the bytes since the last one, latest
first, and `done` the code points before, latest first. -/
def readPassing? (done : RawText) (run : Bytes) : Bytes → Option RawText
  | a :: b :: c :: rest =>
    match surrogate? a b c with
    | some p =>
      match decode? run.reverse with
      | some s => readPassing? (p :: ((RawText.of s).reverse ++ done)) [] rest
      | none => none
    | none => readPassing? done (a :: run) (b :: c :: rest)
  | rest => (decode? (run.reverse ++ rest)).map fun s => done.reverse ++ RawText.of s

/-- The code points whose UTF-8 form the bytes are, where surrogates may pass. -/
def decodePassing? (bytes : Bytes) : Option RawText :=
  match decode? bytes with
  | some s => some (RawText.of s)
  | none => readPassing? [] [] bytes

end Utf8

end SnippetReview
