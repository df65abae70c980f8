import SnippetReview.Text.Decoding
import SnippetReview.Text.EastAsian.Hangul
import SnippetReview.Text.EastAsian.KsX1001

/-!
# Korean character sets

EUC for Korean has the characters of KS X 1001 in bytes of eight bits, and spells the syllables
that KS X 1001 lacks with their letters. Unified Hangul gives each of these two bytes, in their
order. Johab tells the letters of every syllable in five bits each.
-/

namespace SnippetReview

namespace Korean

open Decoder

/-- The character of two bytes of eight bits. -/
def ksX1001? (a b : Nat) : Option Char := KsX1001.grid.charOf? rightBytes rightBytes a b

/-! ## EUC -/

/-- The byte before every letter. -/
def letterByte : UInt8 := 0xA4

/-- The byte for a letter that is not there. -/
def fillerByte : UInt8 := 0xD4

/-- The letter of a byte. -/
def letter? (b : UInt8) : Option Char := ksX1001? letterByte.toNat b.toNat

/-- The syllable that is spelled by the bytes of its letters. -/
def spelled? (initial vowel final : UInt8) : Option Char := do
  let i ← letter? initial
  let v ← letter? vowel
  if final = fillerByte then Hangul.compose? i v none
  else Hangul.compose? i v (some (← letter? final))

/-- Reads EUC. A filler begins a syllable that is spelled. -/
def extendedRead : Read := fun b rest =>
  if b = letterByte ∧ rest.head? = some fillerByte then
    match rest with
    | [_, m₁, i, m₂, v, m₃, f] | _ :: m₁ :: i :: m₂ :: v :: m₃ :: f :: _ =>
      if m₁ = letterByte ∧ m₂ = letterByte ∧ m₃ = letterByte then
        (spelled? i v f).map fun c => ([c], 7)
      else none
    | _ => none
  else Read.pair ksX1001? b rest

/-- EUC for Korean. -/
def extended : Decoder := ofRead (Read.orAscii extendedRead)

/-! ## Unified Hangul -/

/-- The syllables that KS X 1001 lacks. -/
def rareSyllables : Array Char := charsBesides Hangul.first Hangul.last KsX1001.grid.chars

/-- The second bytes that are letters of ASCII, with those up to the given one. -/
def unifiedTrails (last : Nat) : List (Nat × Nat) := [(0x41, 0x5A), (0x61, 0x7A), (0x81, last)]

/-- The place of a rare syllable among them. -/
def rarePlace? (a b : Nat) : Option Nat :=
  match placeIn? [(0x81, 0xA0)] a with
  | some lead => (placeIn? (unifiedTrails 0xFE) b).map (· + 178 * lead)
  | none => do
    let lead ← placeIn? [(0xA1, 0xC6)] a
    let trail ← placeIn? (unifiedTrails 0xA0) b
    some (32 * 178 + 84 * lead + trail)

/-- The character of two bytes in unified Hangul. -/
def unifiedPair? (a b : Nat) : Option Char :=
  (ksX1001? a b).or ((rarePlace? a b).bind fun i => rareSyllables[i]?)

/-- Unified Hangul. -/
def unified : Decoder := ofRead (Read.orAscii (Read.pair unifiedPair?))

/-! ## Johab -/

/-- A letter of a syllable as five bits tell it: the place in its list, or that there is none. -/
def johabLetter? (filler : Nat) (codes : List (Nat × Nat)) (n : Nat) : Option (Option Nat) :=
  if n = filler then some none else (placeIn? codes n).map some

/-- The syllable or the letter of three times five bits. -/
def johabSyllable? (i v f : Nat) : Option Char := do
  let initial ← johabLetter? 1 [(2, 20)] i
  let vowel ← johabLetter? 2 [(3, 7), (10, 15), (18, 23), (26, 29)] v
  let final ← johabLetter? 1 [(2, 17), (19, 29)] f
  match initial, vowel, final with
  | none, none, none => some '\u3000'
  | none, none, some n => Hangul.finals[n]?
  | none, some n, none => Hangul.vowels[n]?
  | some n, none, none => Hangul.initials[n]?
  | some n, some m, final => some (Hangul.syllable n m final)
  | _, _, _ => none

/-- The second bytes of characters that are no syllables. -/
def johabTrails : List (Nat × Nat) := [(0x31, 0x7E), (0x91, 0xFE)]

/-- The characters of KS X 1001 that are neither syllables nor letters. -/
def johabSign? (a b : Nat) : Option Char := do
  let trail ← placeIn? johabTrails b
  if a = 0xDA ∧ 0xA1 ≤ b ∧ b ≤ 0xD3 then none
  else
    match placeIn? [(0xD9, 0xDE)] a with
    | some lead => KsX1001.grid.char? (2 * lead + trail / 94) (trail % 94)
    | none =>
      let lead ← placeIn? [(0xE0, 0xF9)] a
      KsX1001.grid.char? (41 + 2 * lead + trail / 94) (trail % 94)

/-- The character of two bytes in Johab. -/
def johabPair? (a b : Nat) : Option Char :=
  if a < 0xD8 then johabSyllable? (a / 4 % 32) (a % 4 * 8 + b / 32) (b % 32) else johabSign? a b

/-- Johab. -/
def johab : Decoder := ofRead (Read.orAscii (Read.pair johabPair?))

end Korean

end SnippetReview
