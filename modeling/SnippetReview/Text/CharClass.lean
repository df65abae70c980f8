import SnippetReview.Text.Basic

/-!
# Character classes as ranges

A class of characters is given by the ranges of its code points, in ascending order. The
search stops at the first range that begins above the code point looked for.
-/

namespace SnippetReview

/-- Ranges of code points, first and last of each, in ascending order. -/
abbrev CodeRanges := List (Nat × Nat)

/-- Whether a code point lies in one of the ranges. -/
def CodeRanges.covers : CodeRanges → Nat → Bool
  | [], _ => false
  | (first, last) :: rest, n =>
    if n < first then false else if n ≤ last then true else CodeRanges.covers rest n

end SnippetReview
