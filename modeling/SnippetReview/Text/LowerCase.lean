import SnippetReview.Text.Basic

/-!
# Lower-case letters, as far as ASCII words can tell

Texts are put into lower case only to compare them with words of ASCII letters. Of the
characters outside ASCII just two have an ASCII letter in their lower-case form: the capital I
with a dot, whose form is `i` and a combining dot, and the Kelvin sign, whose form is `k`. All
others have a form that holds no ASCII character, so leaving them as they are answers every
such comparison the same way.
-/

namespace SnippetReview

/-- The lower-case form of a character, exact in its ASCII letters. -/
def lowerChar (c : Char) : Text :=
  if c = '\u0130' then ['i', '\u0307']
  else if c = '\u212A' then ['k']
  else [c.toLower]

namespace Text

/-- The text in lower case, exact in its ASCII letters. -/
def toLower (s : Text) : Text := s.flatMap lowerChar

@[simp] theorem toLower_nil : toLower [] = [] := rfl

@[simp] theorem toLower_append (s t : Text) : toLower (s ++ t) = toLower s ++ toLower t := by
  simp [toLower]

end Text

end SnippetReview
