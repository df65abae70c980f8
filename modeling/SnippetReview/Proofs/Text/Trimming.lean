import Mathlib.Data.List.DropRight
import SnippetReview.Text.Blank

/-!
# Trimming

Trimming takes the blank characters off one end of a text or off both. Here is what the rest of
the library needs to know of it: blanks put at the end of a text make no difference to the trimmed
text (`trim_append_blank`), trimming twice is trimming once (`trim_trim`), and text put after
something that is not blank stays where it is (`trim_append_solid`).
-/

namespace SnippetReview

theorem CodeRanges.exists_of_covers {rs : CodeRanges} {n : Nat} (h : rs.covers n = true) :
    ∃ r ∈ rs, r.1 ≤ n ∧ n ≤ r.2 := by
  induction rs with
  | nil => exact absurd h Bool.false_ne_true
  | cons r rs ih =>
    rw [CodeRanges.covers] at h
    split_ifs at h with hfirst hlast
    · exact ⟨r, List.mem_cons_self, Nat.le_of_not_lt hfirst, hlast⟩
    · obtain ⟨q, hq, hn⟩ := ih h
      exact ⟨q, List.mem_cons_of_mem _ hq, hn⟩

namespace Text

/-- A text of blank characters only. -/
def Blank (s : Text) : Prop := ∀ c ∈ s, isBlank c = true

/-- A text whose last character is not blank. -/
def EndsSolid (s : Text) : Prop := ∃ c, s.getLast? = some c ∧ isBlank c = false

theorem blank_nil : Blank [] := by
  intro c hc
  exact absurd hc List.not_mem_nil

theorem blank_append {s t : Text} : Blank (s ++ t) ↔ Blank s ∧ Blank t := by
  unfold Blank
  exact List.forall_mem_append

/-! ## The end of a text -/

theorem trimEnd_eq_rdropWhile (s : Text) : trimEnd s = s.rdropWhile isBlank := rfl

/-- A text is its trimmed form followed by blanks. -/
theorem exists_eq_trimEnd_append (s : Text) : ∃ b, Blank b ∧ s = trimEnd s ++ b := by
  refine ⟨s.rtakeWhile isBlank, fun c hc => List.mem_rtakeWhile_imp hc, ?_⟩
  rw [trimEnd_eq_rdropWhile, List.rdropWhile_append_rtakeWhile]

theorem trimEnd_append_blank {b : Text} (hb : Blank b) (s : Text) :
    trimEnd (s ++ b) = trimEnd s := by
  rw [trimEnd, List.reverse_append, List.dropWhile_append_of_pos]
  · rfl
  · intro c hc
    exact hb c (List.mem_reverse.1 hc)

theorem trimEnd_trimEnd (s : Text) : trimEnd (trimEnd s) = trimEnd s :=
  List.rdropWhile_idempotent isBlank s

theorem trimEnd_eq_nil_iff {s : Text} : trimEnd s = [] ↔ Blank s :=
  List.rdropWhile_eq_nil_iff

theorem trimEnd_of_endsSolid {s : Text} (h : EndsSolid s) : trimEnd s = s := by
  obtain ⟨c, hc, hsolid⟩ := h
  rw [trimEnd_eq_rdropWhile, List.rdropWhile_eq_self_iff]
  intro hne
  rw [List.getLast?_eq_getLast_of_ne_nil hne, Option.some.injEq] at hc
  rw [hc, hsolid]
  exact Bool.false_ne_true

theorem endsSolid_trimEnd {s : Text} (h : ¬ Blank s) : EndsSolid (trimEnd s) := by
  have hne : trimEnd s ≠ [] := mt trimEnd_eq_nil_iff.1 h
  refine ⟨(trimEnd s).getLast hne, List.getLast?_eq_getLast_of_ne_nil hne, ?_⟩
  exact Bool.eq_false_iff.2 (List.rdropWhile_last_not isBlank s hne)

theorem EndsSolid.not_blank {s : Text} (h : EndsSolid s) : ¬ Blank s := by
  obtain ⟨c, hlast, hc⟩ := h
  intro hblank
  rw [hblank c (List.mem_of_getLast? hlast)] at hc
  exact absurd hc (by decide)

theorem endsSolid_singleton {c : Char} (hc : isBlank c = false) : EndsSolid [c] := ⟨c, rfl, hc⟩

theorem endsSolid_append {t : Text} (h : EndsSolid t) (s : Text) : EndsSolid (s ++ t) := by
  obtain ⟨c, hc, hsolid⟩ := h
  exact ⟨c, by rw [List.getLast?_append, hc, Option.some_or], hsolid⟩

/-- The end of a text that does not end in a blank does not end in one either. -/
theorem EndsSolid.of_suffix {s t : Text} (hs : EndsSolid s) (ht : t ≠ []) (h : t <:+ s) :
    EndsSolid t := by
  obtain ⟨u, rfl⟩ := h
  obtain ⟨c, hlast, hc⟩ := hs
  rw [List.getLast?_append_of_ne_nil _ ht] at hlast
  exact ⟨c, hlast, hc⟩

theorem mem_of_mem_trimEnd {c : Char} {s : Text} (h : c ∈ trimEnd s) : c ∈ s :=
  (List.rdropWhile_prefix isBlank s).subset h

/-- Trimming the end takes off no character that is not blank. -/
theorem count_trimEnd {x : Char} (hx : isBlank x = false) (s : Text) :
    (trimEnd s).count x = s.count x := by
  obtain ⟨b, hb, hs⟩ := exists_eq_trimEnd_append s
  have hzero : b.count x = 0 := by
    rw [List.count_eq_zero]
    intro hmem
    rw [hb x hmem] at hx
    exact absurd hx (by decide)
  conv_rhs => rw [hs, List.count_append, hzero, Nat.add_zero]

/-! ## The start of a text -/

theorem trimStart_eq_nil_iff {s : Text} : trimStart s = [] ↔ Blank s :=
  List.dropWhile_eq_nil_iff

theorem trimStart_append_of_not_blank {s : Text} (h : ¬ Blank s) (t : Text) :
    trimStart (s ++ t) = trimStart s ++ t := by
  have hne : (s.dropWhile isBlank).isEmpty = false := by
    rw [List.isEmpty_eq_false_iff]
    exact fun hnil => h (trimStart_eq_nil_iff.1 hnil)
  rw [trimStart, List.dropWhile_append, hne]
  rfl

theorem trimStart_blank_append {b : Text} (hb : Blank b) (s : Text) :
    trimStart (b ++ s) = trimStart s :=
  List.dropWhile_append_of_pos hb

/-- A character that is not blank is no further from the start than it was. -/
theorem trimStart_concat {c : Char} (hc : isBlank c = false) (s : Text) :
    trimStart (s ++ [c]) = trimStart s ++ [c] := by
  by_cases hs : Blank s
  · rw [trimStart_blank_append hs, trimStart_eq_nil_iff.2 hs, trimStart,
      List.dropWhile_cons_of_neg (Bool.eq_false_iff.1 hc), List.nil_append]
  · exact trimStart_append_of_not_blank hs [c]

theorem endsSolid_trimStart {s : Text} (h : EndsSolid s) : EndsSolid (trimStart s) := by
  obtain ⟨c, hlast, hc⟩ := h
  obtain ⟨t, rfl⟩ := List.getLast?_eq_some_iff.1 hlast
  rw [trimStart_concat hc]
  exact endsSolid_append (endsSolid_singleton hc) _

theorem trimStart_trimStart (s : Text) : trimStart (trimStart s) = trimStart s :=
  List.dropWhile_idempotent isBlank s

/-! ## Both ends -/

theorem trim_eq_nil_iff {s : Text} : trim s = [] ↔ Blank s := by
  rw [trim, trimEnd_eq_nil_iff]
  constructor
  · intro h
    by_contra hs
    -- the first character that is not blank is still there
    have hne : trimStart s ≠ [] := mt trimStart_eq_nil_iff.1 hs
    have hhead : isBlank ((trimStart s).head hne) = false := List.head_dropWhile_not isBlank hne
    rw [h _ (List.head_mem hne)] at hhead
    exact absurd hhead (by decide)
  · intro h
    rw [trimStart_eq_nil_iff.2 h]
    exact blank_nil

/-- Trimming takes off no character that is not blank. -/
theorem count_trim {x : Char} (hx : isBlank x = false) (s : Text) :
    (trim s).count x = s.count x := by
  have hzero : (s.takeWhile isBlank).count x = 0 := by
    rw [List.count_eq_zero]
    intro hmem
    rw [List.mem_takeWhile_imp hmem] at hx
    exact absurd hx (by decide)
  rw [trim, count_trimEnd hx, trimStart]
  conv_rhs => rw [← List.takeWhile_append_dropWhile (p := isBlank) (l := s), List.count_append,
    hzero, Nat.zero_add]

/-- Blanks at the end make no difference to the trimmed text. -/
theorem trim_append_blank {b : Text} (hb : Blank b) (s : Text) : trim (s ++ b) = trim s := by
  by_cases hs : Blank s
  · rw [trim_eq_nil_iff.2 hs, trim_eq_nil_iff.2 (blank_append.2 ⟨hs, hb⟩)]
  · rw [trim, trimStart_append_of_not_blank hs, trimEnd_append_blank hb, trim]

/-- Blanks at the start make no difference to the trimmed text. -/
theorem trim_blank_append {b : Text} (hb : Blank b) (s : Text) : trim (b ++ s) = trim s := by
  rw [trim, trimStart_blank_append hb, trim]

theorem trim_trimEnd (s : Text) : trim (trimEnd s) = trim s := by
  obtain ⟨b, hb, hs⟩ := exists_eq_trimEnd_append s
  conv_rhs => rw [hs, trim_append_blank hb]

theorem trimEnd_trim (s : Text) : trimEnd (trim s) = trim s := trimEnd_trimEnd _

theorem trimStart_trim (s : Text) : trimStart (trim s) = trim s := by
  rw [trim]
  obtain ⟨b, hb, hs⟩ := exists_eq_trimEnd_append (trimStart s)
  by_cases h : Blank (trimEnd (trimStart s))
  · have hnil : trim s = [] := by
      rw [trim_eq_nil_iff, ← trimStart_eq_nil_iff, ← trimStart_trimStart, trimStart_eq_nil_iff,
        hs]
      exact blank_append.2 ⟨h, hb⟩
    rw [← trim, hnil]
    rfl
  · have hself := trimStart_trimStart s
    rw [hs, trimStart_append_of_not_blank h, List.append_cancel_right_eq] at hself
    exact hself

/-- Trimming twice is trimming once. -/
theorem trim_trim (s : Text) : trim (trim s) = trim s := by
  conv_lhs => rw [trim, trimStart_trim, trimEnd_trim]

/-- Both ends may be trimmed in either order. -/
theorem trimStart_trimEnd (s : Text) : trimStart (trimEnd s) = trim s := by
  rw [← trim_trimEnd, trim]
  by_cases hs : Blank s
  · rw [trimEnd_eq_nil_iff.2 hs]
    rfl
  · rw [trimEnd_of_endsSolid (endsSolid_trimStart (endsSolid_trimEnd hs))]

/-- A character that is not blank, put at the trimmed end of a text, stays there. -/
theorem trim_trimEnd_concat {c : Char} (hc : isBlank c = false) (s : Text) :
    trim (trimEnd s ++ [c]) = trim s ++ [c] := by
  rw [trim, trimStart_concat hc, trimEnd_of_endsSolid (endsSolid_append (endsSolid_singleton hc) _),
    trimStart_trimEnd]

/-- What stands after something that is not blank, and does not end in blanks itself, is left in
place by trimming. -/
theorem trim_append_solid {s t : Text} (hs : ¬ Blank s) (ht : EndsSolid t) :
    trim (s ++ t) = trimStart s ++ t := by
  rw [trim, trimStart_append_of_not_blank hs, trimEnd_of_endsSolid (endsSolid_append ht _)]

/-- What is put after a text that does not end in a blank is trimmed at its end alone. -/
theorem trim_append_of_endsSolid {s : Text} (hs : EndsSolid s) (t : Text) :
    trim (s ++ t) = trimStart s ++ trimEnd t := by
  by_cases ht : Blank t
  · rw [trim_append_blank ht, trimEnd_eq_nil_iff.2 ht, List.append_nil, trim,
      trimEnd_of_endsSolid (endsSolid_trimStart hs)]
  · obtain ⟨b, hb, htrim⟩ := exists_eq_trimEnd_append t
    conv_lhs => rw [htrim, ← List.append_assoc, trim_append_blank hb]
    exact trim_append_solid hs.not_blank (endsSolid_trimEnd ht)

end Text

end SnippetReview
