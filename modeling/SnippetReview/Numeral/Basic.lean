import SnippetReview.Text.Split
import SnippetReview.Text.Blank
import SnippetReview.Text.Quoted
import SnippetReview.Numeral.Digit

/-!
# Numerals

Integers are written in decimal, plainly or with a comma before every group of three digits.
They are read from a more liberal form: blank characters around, a sign, digits of any script,
and single underscores between digits. Writing is `decimal` and `grouped`, reading is `read`.
-/

namespace SnippetReview

namespace Numeral

/-! ## Writing -/

/-- The sign of an integer as it is written: nothing unless it is negative. -/
def sign (n : Int) : Text := if n < 0 then ['-'] else []

/-- The decimal digits of a natural number. -/
def digits (n : Nat) : Text := Nat.toDigits 10 n

/-- An integer in decimal. -/
def decimal (n : Int) : Text := sign n ++ digits n.natAbs

/-- Digits, last first, with a comma after every third that is followed by another. -/
def groupThrees : Text → Text
  | a :: b :: c :: d :: rest => a :: b :: c :: ',' :: groupThrees (d :: rest)
  | ds => ds

/-- An integer in decimal, with a comma before every group of three digits. -/
def grouped (n : Int) : Text := sign n ++ (groupThrees (digits n.natAbs).reverse).reverse

/-! ## Reading -/

/-- Why a text was not read as an integer. -/
inductive Error
  /-- The text has another form. -/
  | malformed (s : Text)
  /-- The numeral has more digits than are read. -/
  | tooLong (count : Nat)
  deriving DecidableEq

/-- The most digits that a numeral may have to be read. -/
def maxDigits : Nat := 4300

/-- The error in words. A malformed text is shown up to a length of two hundred characters. -/
def Error.message : Error → Text
  | .malformed s =>
    "invalid literal for int() with base 10: ".toList ++ (Text.quoted s).take 200
  | .tooLong count =>
    "Exceeds the limit (".toList ++ digits maxDigits
      ++ " digits) for integer string conversion: value has ".toList ++ digits count
      ++ " digits; use sys.set_int_max_str_digits() to increase the limit".toList

/-- Whether a character may stand around a numeral: a blank one, the information separators
apart. -/
def isPadding (c : Char) : Bool := isBlank c && !(0x1C ≤ c.toNat && c.toNat ≤ 0x1F)

/-- Takes a sign off the front: whether the number is negative, and what follows. -/
def splitSign : Text → Bool × Text
  | '-' :: rest => (true, rest)
  | '+' :: rest => (false, rest)
  | s => (false, s)

/-- The number with the given digit values, highest first. -/
def ofDigitValues (ds : List Nat) : Nat := ds.foldl (fun n d => n * 10 + d) 0

/-- The integer that a text is a numeral of. -/
def read (s : Text) : Except Error Int :=
  let (negative, body) := splitSign (s.dropWhile isPadding)
  let inNumeral := fun c => c == '_' || (digitValue? c).isSome
  let groups := pieces '_' (body.takeWhile inNumeral)
  let values := groups.flatten.filterMap digitValue?
  if groups.any List.isEmpty then .error (.malformed s)
  else if maxDigits < values.length then .error (.tooLong values.length)
  else if !(body.dropWhile inNumeral).all isPadding then .error (.malformed s)
  else if negative then .ok (-(ofDigitValues values : Int))
  else .ok (ofDigitValues values : Int)

end Numeral

end SnippetReview
