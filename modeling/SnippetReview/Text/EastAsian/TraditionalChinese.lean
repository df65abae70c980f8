import SnippetReview.Text.Decoding
import SnippetReview.Text.EastAsian.Big5
import SnippetReview.Text.EastAsian.HongKong

/-!
# Character sets for traditional Chinese

Big5 has two bytes for a character. Code page 950 and the Hong Kong supplement are Big5 with other
characters in some places and more of them in others.
-/

namespace SnippetReview

namespace Big5

open Decoder

/-- The first bytes. -/
def leads : List (Nat × Nat) := [(0x81, 0xFE)]

/-- The second bytes. -/
def trails : List (Nat × Nat) := [(0x40, 0x7E), (0xA1, 0xFE)]

/-- The character of two bytes. -/
def pair? (a b : Nat) : Option Char := grid.charOf? leads trails a b

/-- Big5. -/
def plain : Decoder := ofRead (Read.orAscii (Read.pair pair?))

/-- Code page 950. -/
def microsoft : Decoder :=
  ofRead (Read.orAscii (Read.pair fun a b => (microsoftSigns.char? a b).or (pair? a b)))

/-- Whether the Hong Kong supplement has its own signs at two bytes. -/
def isHongKongRow (a b : Nat) : Bool := a = 0xC6 && 0xA1 ≤ b || a = 0xC7 || a = 0xC8

/-- The two characters that stand together at two bytes of the Hong Kong supplement. -/
def hongKongDouble? (a b : Nat) : Option Text :=
  match a, b with
  | 0x88, 0x62 => some ['Ê', '\u0304']
  | 0x88, 0x64 => some ['Ê', '\u030C']
  | 0x88, 0xA3 => some ['ê', '\u0304']
  | 0x88, 0xA5 => some ['ê', '\u030C']
  | _, _ => none

/-- The characters of two bytes with the Hong Kong supplement. -/
def hongKongPair? (a b : Nat) : Option Text :=
  let own := HongKong.grid.charOf? leads trails a b
  let char? := if isHongKongRow a b then own else (pair? a b).or own
  (char?.map fun c => [c]).or (hongKongDouble? a b)

/-- Big5 with the Hong Kong supplement. -/
def hongKong : Decoder := ofRead (Read.orAscii (Read.textPair hongKongPair?))

end Big5

end SnippetReview
