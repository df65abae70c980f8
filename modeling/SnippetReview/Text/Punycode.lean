import SnippetReview.Text.Decoding

/-!
# Punycode

Punycode writes a text with ASCII letters, digits and hyphens. The ASCII characters of the text come
first, up to the last hyphen. The digits after it are numbers, one for every other character, which
tell how far to go on from the place and the code point of the character before. A number ends with
the first digit that is below a threshold; the thresholds follow the size of the numbers before. The
other characters may be surrogates.
-/

namespace SnippetReview

namespace Punycode

/-! ## Numbers -/

/-- The value of a digit. -/
def digitValue? (b : UInt8) : Option Nat :=
  if 0x41 ≤ b ∧ b ≤ 0x5A then some (b.toNat - 0x41)
  else if 0x61 ≤ b ∧ b ≤ 0x7A then some (b.toNat - 0x61)
  else if 0x30 ≤ b ∧ b ≤ 0x39 then some (b.toNat - 0x30 + 26)
  else none

/-- How many values a digit has. -/
def base : Nat := 36

/-- The threshold of a digit, told by its place in the number, counted from one. -/
def threshold (place bias : Nat) : Nat := max 1 (min 26 (base * place - bias))

/-- A number scaled down until it is at most 455, and what has been gone through on the way. -/
def scaleDown (n : Nat) : Nat × Nat :=
  if 455 < n then
    let (scaled, passed) := scaleDown (n / 35)
    (scaled, passed + base)
  else (n, 0)
  termination_by n

/-- The bias after a number, when the text has the given length. -/
def nextBias (isFirst : Bool) (n length : Nat) : Nat :=
  let n := if isFirst then n / 700 else n / 2
  let (scaled, passed) := scaleDown (n + n / length)
  passed + base * scaled / (scaled + 38)

/-! ## Insertions -/

/-- The number that is being read: its value so far, what the next digit is multiplied by, and the
place of that digit. -/
structure Partial where
  value : Nat := 0
  weight : Nat := 1
  place : Nat := 1

/-- A decoding under way: the text so far, the code point and the place to go on from, the bias and
whether it is the first one, and the number that is being read. -/
structure State where
  text : RawText
  code : Nat := 0x80
  place : Nat := 0
  bias : Nat := 72
  isFirst : Bool := true
  number : Partial := {}

/-- Inserts the character that is `n` steps away. Every step goes to the next place, and from the
last one to the first one with the next code point. -/
def State.insert? (s : State) (n : Nat) : Option State := do
  let places := s.text.length + 1
  let steps := s.place + n
  let code := s.code + steps / places
  let place := steps % places
  let p ← CodePoint.ofCode? code
  some ⟨s.text.insertIdx place p, code, place + 1, nextBias s.isFirst n places, false, {}⟩

/-- Reads a digit. -/
def State.add? (s : State) (digit : Nat) : Option State :=
  let value := s.number.value + digit * s.number.weight
  let limit := threshold s.number.place s.bias
  if digit < limit then s.insert? value
  else some { s with number := ⟨value, s.number.weight * (base - limit), s.number.place + 1⟩ }

/-- Whether the last number is complete. -/
def State.isComplete (s : State) : Bool := s.number.place == 1

/-- The text of the digits, given the ASCII characters. -/
def insertAll? (ascii : Text) (digits : Bytes) : Option RawText := do
  let start : State := { text := RawText.of ascii }
  let s ← digits.foldlM (fun s b => (digitValue? b).bind s.add?) start
  if s.isComplete then some s.text else none

/-! ## Texts -/

/-- The hyphen. -/
def hyphen : UInt8 := 0x2D

/-- Punycode. -/
def decode : RawDecoder := fun bytes =>
  let digits := (bytes.reverse.takeWhile (· != hyphen)).reverse
  let ascii := bytes.take (bytes.length - digits.length - 1)
  if bytes.any (0x80 ≤ ·) then .error .malformed
  else
    match insertAll? (Bytes.toLatin1 ascii) digits with
    | some s => .ok s
    | none => .error .refused

end Punycode

end SnippetReview
