import SnippetReview.Text.Utf8

/-!
# Hangul

A Hangul syllable consists of an initial consonant, a vowel and possibly a final consonant. The
syllables stand in order in Unicode, so that the places of the letters in the three lists tell
the code point.
-/

namespace SnippetReview

namespace Hangul

/-- The initial consonants. -/
def initials : List Char := "ㄱㄲㄴㄷㄸㄹㅁㅂㅃㅅㅆㅇㅈㅉㅊㅋㅌㅍㅎ".toList

/-- The vowels. -/
def vowels : List Char := "ㅏㅐㅑㅒㅓㅔㅕㅖㅗㅘㅙㅚㅛㅜㅝㅞㅟㅠㅡㅢㅣ".toList

/-- The final consonants. -/
def finals : List Char := "ㄱㄲㄳㄴㄵㄶㄷㄹㄺㄻㄼㄽㄾㄿㅀㅁㅂㅄㅅㅆㅇㅈㅊㅋㅌㅍㅎ".toList

/-- The first syllable. -/
def first : Nat := 0xAC00

/-- The last syllable. -/
def last : Nat := 0xD7A3

/-- The syllable of letters at the given places in their lists. -/
def syllable (initial vowel : Nat) (final : Option Nat) : Char :=
  let third := match final with
    | some i => i + 1
    | none => 0
  Char.ofNat (first + (initial * vowels.length + vowel) * (finals.length + 1) + third)

/-- The syllable of the given letters, if they stand in such places. -/
def compose? (initial vowel : Char) (final : Option Char) : Option Char := do
  let i ← initials.idxOf? initial
  let v ← vowels.idxOf? vowel
  match final with
  | none => some (syllable i v none)
  | some c => some (syllable i v (some (← finals.idxOf? c)))

end Hangul

end SnippetReview
