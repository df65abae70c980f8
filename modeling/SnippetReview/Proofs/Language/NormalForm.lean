import SnippetReview.Language
import SnippetReview.Proofs.Text.Trimming

/-!
# The normal form of a language

The normal form of a language is its own normal form (`normalize_normalize`), so whatever is asked
of a language through its normal form can be asked of the normal form itself.
-/

namespace SnippetReview

namespace Language

/-- The display name of a known language is in normal form. -/
theorem normalize_name (l : Language) : normalize l.name = l.name := by
  cases l <;> decide

theorem normalize_normalize (s : Text) : normalize (normalize s) = normalize s := by
  cases h : ofAlias? (Text.toLower (Text.trim s)) with
  | some l =>
    have hname : normalize s = l.name := by rw [normalize, h]
    rw [hname, normalize_name]
  | none =>
    have htrim : normalize s = Text.trim s := by rw [normalize, h]
    rw [htrim, normalize, Text.trim_trim, h]

/-- The normal form of an alias, in any case and with any blanks around it, is the display name. -/
theorem normalize_of_mem_aliases {l : Language} {s : Text}
    (h : Text.toLower (Text.trim s) ∈ l.aliases) : normalize s = l.name := by
  have hfound : ∀ l ∈ all, ∀ a ∈ l.aliases, ofAlias? a = some l := by decide
  rw [normalize, hfound l (by cases l <;> decide) _ h]

/-- The blanks around a language do not matter. -/
theorem normalize_padded {before after : Text} (hbefore : Text.Blank before)
    (hafter : Text.Blank after) (s : Text) : normalize (before ++ s ++ after) = normalize s := by
  rw [normalize, Text.trim_append_blank hafter, Text.trim_blank_append hbefore, normalize]

/-- The normal form of a text that is not blank is not empty. -/
theorem normalize_ne_nil {s : Text} (h : Text.isBlankText s = false) : normalize s ≠ [] := by
  rw [normalize]
  split
  · next l _ => cases l <;> decide
  · intro hnil
    rw [Text.isBlankText, hnil] at h
    exact absurd h (by decide)

/-- The normal form of a text that is not blank is not blank. -/
theorem isBlankText_normalize {s : Text} (h : Text.isBlankText s = false) :
    Text.isBlankText (normalize s) = false := by
  rw [normalize]
  split
  · next l _ => cases l <;> decide
  · rwa [Text.isBlankText, Text.trim_trim, ← Text.isBlankText]

/-- The normal form keeps a character that is not blank, has no other lower-case form, and stands in
no alias and no display name. -/
theorem count_normalize {x : Char} (hblank : isBlank x = false) (hlower : lowerChar x = [x])
    (halias : ∀ l ∈ all, ∀ a ∈ l.aliases, x ∉ a) (hname : ∀ l ∈ all, x ∉ l.name) (s : Text) :
    (normalize s).count x = s.count x := by
  rw [← Text.count_trim hblank s, normalize]
  split
  · next l hl =>
    have hall : l ∈ all := List.mem_of_find?_eq_some hl
    have hfound := List.find?_some hl
    rw [List.contains_eq_mem, decide_eq_true_iff] at hfound
    have hnot : x ∉ Text.trim s := fun hmem => halias l hall _ hfound
      (List.mem_flatMap.2 ⟨x, hmem, by rw [hlower]; exact List.mem_singleton_self x⟩)
    rw [List.count_eq_zero.2 (hname l hall), List.count_eq_zero.2 hnot]
  · rfl

theorem usesTerminator_normalize (s : Text) : usesTerminator (normalize s) = usesTerminator s := by
  rw [usesTerminator, usesTerminator, normalize_normalize]

end Language

end SnippetReview
