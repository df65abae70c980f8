/-!
# Texts

A text is the list of its characters. This file sets up the two questions that the whole
library asks of a text over and over: whether it begins or ends with one of some words, and
whether a word stands somewhere in it.
-/

namespace SnippetReview

/-- A text: its characters in order. -/
abbrev Text := List Char

namespace Text

/-- Whether the text begins with one of the given words. -/
def startsWithAny (words : List Text) (s : Text) : Bool :=
  words.any fun w => w.isPrefixOf s

/-- Whether the text ends with one of the given words. -/
def endsWithAny (words : List Text) (s : Text) : Bool :=
  words.any fun w => w.isSuffixOf s

/-- Whether `word` stands somewhere in the text. -/
def occursIn (word : Text) : Text → Bool
  | [] => word.isEmpty
  | c :: cs => word.isPrefixOf (c :: cs) || occursIn word cs

/-- Whether one of the given words stands somewhere in the text. -/
def mentionsAny (words : List Text) (s : Text) : Bool :=
  words.any fun w => occursIn w s

/-- A word occurs in a text exactly if the text is the word with something before and
something after it. -/
theorem occursIn_iff (word s : Text) :
    occursIn word s = true ↔ ∃ before after, s = before ++ word ++ after := by
  induction s with
  | nil =>
    simp only [occursIn, List.isEmpty_iff]
    constructor
    · rintro rfl
      exact ⟨[], [], rfl⟩
    · rintro ⟨b, a, h⟩
      simp at h
      exact h.2.1
  | cons c cs ih =>
    simp only [occursIn, Bool.or_eq_true, List.isPrefixOf_iff_prefix, ih]
    constructor
    · rintro (⟨a, h⟩ | ⟨b, a, h⟩)
      · exact ⟨[], a, by simpa using h.symm⟩
      · exact ⟨c :: b, a, by simp [h]⟩
    · rintro ⟨b, a, h⟩
      cases b with
      | nil => exact Or.inl ⟨a, by simpa using h.symm⟩
      | cons x xs =>
        simp only [List.cons_append, List.cons.injEq] at h
        exact Or.inr ⟨xs, a, h.2⟩

end Text

end SnippetReview
