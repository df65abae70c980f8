import Mathlib.Logic.Function.Iterate
import SnippetReview.Line.Repair
import SnippetReview.Proofs.Text.Lines
import SnippetReview.Proofs.Text.Trimming

/-!
# What a repair leaves behind

A line is settled if it leaves no string literal open and needs no terminator. A repair leaves a
settled line behind (`settled_repair`) and a settled line alone (`repair_of_settled`), whatever
closes a statement, as long as it does not end in a blank and its quotes are even in number
(`IsCloser`). So the suggested fix of a suggested fix is the same again.
-/

namespace SnippetReview

namespace Line

/-- What can close a statement for good: it does not end in a blank, and opens no string
literal. -/
structure IsCloser (close : Text) : Prop where
  endsSolid : close ≠ [] → Text.EndsSolid close
  quotesEven : hasOpenQuote close = false

theorem isCloser_terminator : IsCloser terminator where
  endsSolid _ := ⟨';', rfl, by decide⟩
  quotesEven := by decide

/-- A line that neither leaves a string literal open nor needs a terminator. -/
structure Settled (close line : Text) : Prop where
  quotesEven : hasOpenQuote line = false
  closed : needsTerminator close line = false

/-! ## Quotes -/

theorem hasOpenQuote_append (s t : Text) :
    hasOpenQuote (s ++ t) = (hasOpenQuote s ^^ hasOpenQuote t) := by
  unfold hasOpenQuote
  rw [List.count_append, Nat.add_mod]
  rcases Nat.mod_two_eq_zero_or_one (s.count quote) with hs | hs <;>
    rcases Nat.mod_two_eq_zero_or_one (t.count quote) with ht | ht <;>
    rw [hs, ht] <;> rfl

theorem hasOpenQuote_of_not_mem {s : Text} (h : quote ∉ s) : hasOpenQuote s = false := by
  rw [hasOpenQuote, List.count_eq_zero.2 h]
  rfl

theorem quote_not_mem_of_blank {b : Text} (hb : Text.Blank b) : quote ∉ b :=
  fun hmem => absurd (hb _ hmem) (by decide)

theorem hasOpenQuote_append_blank {b : Text} (hb : Text.Blank b) (s : Text) :
    hasOpenQuote (s ++ b) = hasOpenQuote s := by
  rw [hasOpenQuote_append, hasOpenQuote_of_not_mem (quote_not_mem_of_blank hb), Bool.xor_false]

theorem hasOpenQuote_trimEnd (s : Text) : hasOpenQuote (Text.trimEnd s) = hasOpenQuote s := by
  rw [hasOpenQuote, hasOpenQuote, Text.count_trimEnd (by decide)]

theorem hasOpenQuote_closeQuote (body : Text) : hasOpenQuote (closeQuote body) = false := by
  rw [closeQuote]
  split_ifs with h
  · rw [hasOpenQuote_append, hasOpenQuote_trimEnd, h]
    rfl
  · exact Bool.eq_false_iff.2 h

theorem hasOpenQuote_closeStatement {close : Text} (hc : IsCloser close) (body : Text) :
    hasOpenQuote (closeStatement close body) = hasOpenQuote body := by
  rw [closeStatement]
  split_ifs
  · rw [hasOpenQuote_append, hasOpenQuote_trimEnd, hc.quotesEven, Bool.xor_false]
  · rfl

/-! ## Terminators -/

/-- Whether a line needs a terminator is asked of the trimmed line. -/
theorem needsTerminator_congr {close s t : Text} (h : Text.trim s = Text.trim t) :
    needsTerminator close s = needsTerminator close t := by
  rw [needsTerminator, needsTerminator, h]

theorem needsTerminator_append_blank {b : Text} (hb : Text.Blank b) (close s : Text) :
    needsTerminator close (s ++ b) = needsTerminator close s :=
  needsTerminator_congr (Text.trim_append_blank hb s)

/-- A line that needs a terminator is not blank. -/
theorem not_blank_of_needsTerminator {close s : Text} (h : needsTerminator close s = true) :
    ¬ Text.Blank s := by
  intro hblank
  rw [needsTerminator, Text.trim_eq_nil_iff.2 hblank] at h
  exact absurd h (by simp [isSkippable])

theorem ne_nil_of_needsTerminator {close s : Text} (h : needsTerminator close s = true) :
    close ≠ [] := by
  rintro rfl
  rw [needsTerminator] at h
  simp at h

theorem needsTerminator_of_suffix {close s : Text} (h : close <:+ Text.trim s) :
    needsTerminator close s = false := by
  rw [needsTerminator, List.isSuffixOf_iff_suffix.2 h, Bool.not_true, Bool.and_false]

theorem needsTerminator_closeStatement {close : Text} (hc : IsCloser close) (body : Text) :
    needsTerminator close (closeStatement close body) = false := by
  rw [closeStatement]
  split_ifs with h
  · have hsolid : Text.EndsSolid close := hc.endsSolid (ne_nil_of_needsTerminator h)
    have hbody : ¬ Text.Blank (Text.trimEnd body) := by
      rw [← Text.trim_eq_nil_iff, Text.trim_trimEnd, Text.trim_eq_nil_iff]
      exact not_blank_of_needsTerminator h
    apply needsTerminator_of_suffix
    rw [Text.trim_append_solid hbody hsolid]
    exact List.suffix_append _ _
  · exact Bool.eq_false_iff.2 h

/-! ## The carriage return at the end -/

theorem splitReturn_append (line : Text) : (splitReturn line).1 ++ (splitReturn line).2 = line := by
  rw [splitReturn]
  split_ifs with h
  · obtain ⟨body, rfl⟩ := List.getLast?_eq_some_iff.1 h
    rw [List.dropLast_concat]
  · exact List.append_nil line

theorem blank_splitReturn (line : Text) : Text.Blank (splitReturn line).2 := by
  rw [splitReturn]
  split_ifs
  · intro c hc
    rw [List.mem_singleton.1 hc]
    decide
  · exact Text.blank_nil

/-! ## Repairs -/

/-- A line without its line ending, mended. -/
def mend (close body : Text) : Text := closeStatement close (closeQuote body)

theorem repair_eq (close line : Text) :
    repair close line = mend close (splitReturn line).1 ++ (splitReturn line).2 := rfl

theorem settled_append_blank {b : Text} (hb : Text.Blank b) (close s : Text) :
    Settled close (s ++ b) ↔ Settled close s := by
  have hquote := hasOpenQuote_append_blank hb s
  have hclosed := needsTerminator_append_blank hb close s
  constructor
  · rintro ⟨hq, hn⟩
    exact ⟨by rw [← hquote, hq], by rw [← hclosed, hn]⟩
  · rintro ⟨hq, hn⟩
    exact ⟨by rw [hquote, hq], by rw [hclosed, hn]⟩

theorem settled_mend {close : Text} (hc : IsCloser close) (body : Text) :
    Settled close (mend close body) where
  quotesEven := by rw [mend, hasOpenQuote_closeStatement hc, hasOpenQuote_closeQuote]
  closed := needsTerminator_closeStatement hc _

theorem mend_of_settled {close body : Text} (h : Settled close body) : mend close body = body := by
  have hquote : closeQuote body = body := by
    rw [closeQuote, if_neg (by rw [h.quotesEven]; decide)]
  rw [mend, hquote, closeStatement, if_neg (by rw [h.closed]; decide)]

/-- A repair leaves a settled line behind. -/
theorem settled_repair {close : Text} (hc : IsCloser close) (line : Text) :
    Settled close (repair close line) := by
  rw [repair_eq, settled_append_blank (blank_splitReturn line)]
  exact settled_mend hc _

/-- A repair leaves a settled line alone. -/
theorem repair_of_settled {close line : Text} (h : Settled close line) :
    repair close line = line := by
  rw [← splitReturn_append line, settled_append_blank (blank_splitReturn line)] at h
  rw [repair_eq, mend_of_settled h, splitReturn_append]

theorem repair_repair {close : Text} (hc : IsCloser close) (line : Text) :
    repair close (repair close line) = repair close line :=
  repair_of_settled (settled_repair hc line)

/-! ## Repaired lines as lines -/

theorem mem_mend {close body : Text} {c : Char} (h : c ∈ mend close body) :
    c ∈ body ∨ c = quote ∨ c ∈ close := by
  have hstep : ∀ {s t : Text}, c ∈ Text.trimEnd s ++ t → c ∈ s ∨ c ∈ t := by
    intro s t hmem
    exact (List.mem_append.1 hmem).imp_left Text.mem_of_mem_trimEnd
  have hclose : c ∈ closeQuote body ∨ c ∈ close := by
    rw [mend, closeStatement] at h
    split_ifs at h
    · exact hstep h
    · exact Or.inl h
  rcases hclose with hq | hq
  · rw [closeQuote] at hq
    split_ifs at hq
    · exact (hstep hq).imp_right fun hmem => Or.inl (List.mem_singleton.1 hmem)
    · exact Or.inl hq
  · exact Or.inr (Or.inr hq)

/-- A repair brings no newline into a line. -/
theorem newline_not_mem_repair {close : Text} (hc : '\n' ∉ close) {line : Text}
    (h : '\n' ∉ line) : '\n' ∉ repair close line := by
  rw [← splitReturn_append line, List.mem_append, not_or] at h
  rw [repair_eq, List.mem_append, not_or]
  refine ⟨fun hmem => ?_, h.2⟩
  rcases mem_mend hmem with hbody | hquote | hclose
  · exact h.1 hbody
  · exact absurd hquote (by decide)
  · exact hc hclose

end Line

/-! ## The suggested fix -/

theorem suggestFix_of_usesTerminator {language : Text}
    (h : Language.usesTerminator language = true) (code : Text) :
    suggestFix language code
      = Text.unlines ((Text.lines code).map (Line.repair Line.terminator)) := by
  rw [suggestFix, if_pos h]

theorem suggestFix_of_not_usesTerminator {language : Text}
    (h : ¬ Language.usesTerminator language = true) (code : Text) :
    suggestFix language code = code := by
  rw [suggestFix, if_neg h]

/-- The lines of the suggested fix are the repaired lines. -/
theorem lines_suggestFix {language : Text} (h : Language.usesTerminator language = true)
    (code : Text) :
    Text.lines (suggestFix language code)
      = (Text.lines code).map (Line.repair Line.terminator) := by
  rw [suggestFix_of_usesTerminator h]
  exact Text.lines_unlines_map_lines (fun _ => Line.newline_not_mem_repair (by decide)) code

/-- The suggested fix of a suggested fix is the same again, however often it is asked for. -/
theorem suggestFix_idempotent (language code : Text) :
    suggestFix language (suggestFix language code) = suggestFix language code ∧
      ∀ n : ℕ, (suggestFix language)^[n] (suggestFix language code) = suggestFix language code := by
  have hfix : suggestFix language (suggestFix language code) = suggestFix language code := by
    by_cases h : Language.usesTerminator language = true
    · have hlines : ((Text.lines code).map (Line.repair Line.terminator)).map
          (Line.repair Line.terminator) = (Text.lines code).map (Line.repair Line.terminator) := by
        rw [List.map_map]
        exact List.map_congr_left fun l _ => Line.repair_repair Line.isCloser_terminator l
      rw [suggestFix_of_usesTerminator h (suggestFix language code), lines_suggestFix h, hlines,
        ← suggestFix_of_usesTerminator h]
    · rw [suggestFix_of_not_usesTerminator h, suggestFix_of_not_usesTerminator h]
  exact ⟨hfix, fun n => Function.iterate_fixed hfix n⟩

end SnippetReview
