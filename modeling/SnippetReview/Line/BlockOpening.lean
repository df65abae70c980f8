import SnippetReview.Text.Blank
import SnippetReview.Text.Word

/-!
# Lines that open a block

A line opens a block if it begins with a block keyword, before which modifiers may stand, each
followed by blank characters. The test `opensBlock` looks for a keyword first and skips one
modifier where there is none; `length_skipModifier` says why it ends.
-/

namespace SnippetReview

namespace Line

/-- The modifiers that may stand before a block keyword. -/
def modifiers : List Text :=
  ["public".toList, "private".toList, "protected".toList, "static".toList, "final".toList,
   "abstract".toList, "export".toList, "default".toList, "async".toList]

/-- The keywords that open a block. -/
def blockKeywords : List Text :=
  ["if".toList, "else".toList, "for".toList, "while".toList, "do".toList, "switch".toList,
   "try".toList, "catch".toList, "finally".toList, "class".toList, "struct".toList,
   "interface".toList, "enum".toList, "namespace".toList]

/-- Whether the text begins with a block keyword that ends there as a word. -/
def startsWithBlockKeyword (s : Text) : Bool :=
  blockKeywords.any fun k => k.isPrefixOf s && endsWord (s.drop k.length)

/-- Whether the text begins with a modifier and a blank character after it. -/
def startsWithModifier (s : Text) (m : Text) : Bool :=
  m.isPrefixOf s && ((s.drop m.length).head?.map isBlank).getD false

/-- What follows a modifier at the start of the text and the blank characters after it. -/
def skipModifier? (s : Text) : Option Text :=
  (modifiers.find? (startsWithModifier s)).map fun m => Text.trimStart (s.drop m.length)

/-- Skipping a modifier shortens the text. -/
theorem length_skipModifier {s rest : Text} (h : skipModifier? s = some rest) :
    rest.length < s.length := by
  rw [skipModifier?, Option.map_eq_some_iff] at h
  obtain ⟨m, hm, rfl⟩ := h
  have hmem := List.mem_of_find?_eq_some hm
  have hstart := List.find?_some hm
  have hpos : 0 < m.length := by
    revert hmem
    simp only [modifiers, List.mem_cons, List.not_mem_nil, or_false]
    rintro (rfl | rfl | rfl | rfl | rfl | rfl | rfl | rfl | rfl) <;> decide
  rw [startsWithModifier, Bool.and_eq_true, List.isPrefixOf_iff_prefix] at hstart
  have hle := hstart.1.length_le
  have htrim := (List.dropWhile_sublist (l := s.drop m.length) isBlank).length_le
  rw [List.length_drop] at htrim
  show ((s.drop m.length).dropWhile isBlank).length < s.length
  omega

/-- Whether a line opens a block. -/
def opensBlock (s : Text) : Bool :=
  startsWithBlockKeyword s ||
    match _h : skipModifier? s with
    | some rest => opensBlock rest
    | none => false
termination_by s.length
decreasing_by exact length_skipModifier _h

end Line

end SnippetReview
