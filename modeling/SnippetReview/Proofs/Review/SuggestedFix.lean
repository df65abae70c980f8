import SnippetReview.Review
import SnippetReview.Proofs.Finding
import SnippetReview.Proofs.Language.NormalForm
import SnippetReview.Proofs.Line.Repair
import SnippetReview.Proofs.LineCheck

/-!
# The review of the suggested fix

A repair changes nothing but the end of its line, and there it takes off blanks and puts on a quote
or a terminator (`sameUpToEnd_repair`). None of these characters is a bracket or ends a word that
is looked for in the snippet, so the suggested fix has the findings of the snippet, but for those on
lines, which are all gone (`review_suggestedFix`).
-/

namespace SnippetReview

namespace Line

/-- The characters that a repair may take off the end of a line or put there. -/
def isEndMark (c : Char) : Bool := isBlank c || c == quote || terminator.contains c

theorem isEndMark_of_isBlank {c : Char} (h : isBlank c = true) : isEndMark c = true := by
  rw [isEndMark, h]
  rfl

/-! ## What a repair changes -/

/-- Trimming a line and putting marks at its end changes only its end. -/
theorem sameUpToEnd_trimEnd_append {t : Text} (ht : ∀ c ∈ t, isEndMark c = true) (s : Text) :
    Text.SameUpToEnd isEndMark s (Text.trimEnd s ++ t) := by
  obtain ⟨b, hb, hs⟩ := Text.exists_eq_trimEnd_append s
  have hblank : Text.SameUpToEnd isEndMark (Text.trimEnd s) (Text.trimEnd s ++ b) :=
    Text.sameUpToEnd_append (fun c hc => isEndMark_of_isBlank (hb c hc)) _
  rw [← hs] at hblank
  exact hblank.symm.trans (Text.sameUpToEnd_append ht _)

theorem sameUpToEnd_mend (body : Text) :
    Text.SameUpToEnd isEndMark body (mend terminator body) := by
  have hquote : Text.SameUpToEnd isEndMark body (closeQuote body) := by
    rw [closeQuote]
    split_ifs
    · exact sameUpToEnd_trimEnd_append (List.forall_mem_singleton.2 rfl) body
    · rfl
  have hclose : Text.SameUpToEnd isEndMark (closeQuote body) (mend terminator body) := by
    rw [mend, closeStatement]
    split_ifs
    · exact sameUpToEnd_trimEnd_append (List.forall_mem_singleton.2 rfl) (closeQuote body)
    · rfl
  exact hquote.trans hclose

theorem sameUpToEnd_repair (line : Text) :
    Text.SameUpToEnd isEndMark line (repair terminator line) := by
  have hending : ∀ s : Text, Text.SameUpToEnd isEndMark s (s ++ (splitReturn line).2) :=
    Text.sameUpToEnd_append fun c hc => isEndMark_of_isBlank (blank_splitReturn line c hc)
  have hline := hending (splitReturn line).1
  rw [splitReturn_append] at hline
  rw [repair_eq]
  exact hline.symm.trans ((sameUpToEnd_mend _).trans (hending _))

/-! ## The marks at the end of a line -/

theorem isEndMark_cases {c : Char} (h : isEndMark c = true) :
    isBlank c = true ∨ c ∈ ['"', ';'] := by
  rw [isEndMark, Bool.or_eq_true, Bool.or_eq_true, beq_iff_eq, List.contains_iff_mem, or_assoc] at h
  refine h.imp_right fun h => ?_
  rcases h with rfl | h
  · exact List.mem_cons_self
  · exact List.mem_cons_of_mem _ h

/-- No bracket stands among the marks. -/
theorem ofChar?_of_isEndMark {c : Char} (h : isEndMark c = true) : Bracket.ofChar? c = none := by
  rw [← Option.not_isSome_iff_eq_none]
  intro hsome
  obtain ⟨b, hb⟩ := Option.isSome_iff_exists.1 hsome
  rw [Bracket.eq_char_of_ofChar? hb] at h
  revert h
  cases b with
  | opener shape => cases shape <;> decide
  | closer shape => cases shape <;> decide

/-- The marks are the same in lower case. -/
theorem lowerChar_of_isEndMark {c : Char} (h : isEndMark c = true) : lowerChar c = [c] := by
  rcases isEndMark_cases h with hblank | hmem
  · obtain ⟨r, hr, hfirst, hlast⟩ := CodeRanges.exists_of_covers hblank
    have hranges : ∀ r ∈ blankRanges, (r.2 < 0x41 ∨ 0x5A < r.1) ∧ (r.2 < 0x130 ∨ 0x130 < r.1)
        ∧ (r.2 < 0x212A ∨ 0x212A < r.1) := by decide
    obtain ⟨hupper, hdotted, hkelvin⟩ := hranges r hr
    refine Text.lowerChar_eq_self ?_ ?_ ?_ <;> omega
  · rw [List.mem_cons, List.mem_singleton] at hmem
    rcases hmem with rfl | rfl <;> decide

end Line

/-! ## The suggested fix as a text -/

section Fix

variable {language : Text} (h : Language.usesTerminator language = true) (code : Text)

include h

/-- The suggested fix differs from the code only at the ends of its lines. -/
theorem sameUpToLineEnds_suggestFix :
    Text.SameUpToLineEnds Line.isEndMark code (suggestFix language code) := by
  rw [Text.SameUpToLineEnds, lines_suggestFix h, List.forall₂_map_right_iff]
  exact List.forall₂_same.2 fun l _ => Line.sameUpToEnd_repair l

/-- Every line of the suggested fix is settled. -/
theorem settled_of_mem_lines_suggestFix {l : Text}
    (hl : l ∈ Text.lines (suggestFix language code)) : Line.Settled Line.terminator l := by
  rw [lines_suggestFix h, List.mem_map] at hl
  obtain ⟨m, -, rfl⟩ := hl
  exact Line.settled_repair Line.isCloser_terminator m

theorem onLines_suggestFix : Finding.onLines language (suggestFix language code) = [] := by
  have hquotes : Line.checkQuotes (suggestFix language code) = [] :=
    Line.findings_eq_nil _ fun l hl => (settled_of_mem_lines_suggestFix h code hl).quotesEven
  have hterminators : Line.checkTerminators language (suggestFix language code) = [] := by
    rw [Line.checkTerminators, if_pos h]
    exact Line.findings_eq_nil _ fun l hl => (settled_of_mem_lines_suggestFix h code hl).closed
  rw [Finding.onLines, hterminators, hquotes, List.append_nil]

theorem onSnippet_suggestFix (longLimit : Int) :
    Finding.onSnippet longLimit (suggestFix language code) = Finding.onSnippet longLimit code :=
  (Finding.onSnippet_eq_of_sameUpToLineEnds (fun _ => Line.lowerChar_of_isEndMark) (by decide)
    (sameUpToLineEnds_suggestFix h code)).symm

theorem check_suggestFix :
    (Bracket.check (suggestFix language code)).map (Bracket.Finding.relocate fun _ => 0)
      = (Bracket.check code).map (Bracket.Finding.relocate fun _ => 0) :=
  Bracket.check_map_relocate_of_sequence_eq
    (Bracket.sequence_eq_of_sameUpToLineEnds (fun _ => Line.ofChar?_of_isEndMark)
      (sameUpToLineEnds_suggestFix h code)).symm

end Fix

/-- The suggested fix keeps every character that a repair does not put at the end of a line or take
from there. -/
theorem count_suggestFix {x : Char} (hmark : Line.isEndMark x = false) (hx : x ≠ '\n')
    (language code : Text) : (suggestFix language code).count x = code.count x := by
  by_cases h : Language.usesTerminator language = true
  · exact ((sameUpToLineEnds_suggestFix h code).count_eq hmark hx).symm
  · rw [suggestFix_of_not_usesTerminator h]

/-! ## The review -/

/-- Reviewed again, the suggested fix in a language that closes statements has no finding on a line;
its findings on brackets are the old ones but for the positions, and those on the snippet as a whole
are there exactly if they were. So it loses exactly the findings on lines, and its score is no
worse. -/
theorem review_suggestedFix (longLimit : Int) {language : Text}
    (h : Language.usesTerminator language = true) (code : Text) :
    let r := review longLimit language code
    let r' := review longLimit language r.suggestedFix
    (∀ f, Finding.line f ∉ r'.findings)
      ∧ (r'.findings.filterMap Finding.bracket?).map (Bracket.Finding.relocate fun _ => 0)
        = (r.findings.filterMap Finding.bracket?).map (Bracket.Finding.relocate fun _ => 0)
      ∧ (Finding.debugOutput ∈ r'.findings ↔ Finding.debugOutput ∈ r.findings)
      ∧ (Finding.todo ∈ r'.findings ↔ Finding.todo ∈ r.findings)
      ∧ (Finding.longSnippet ∈ r'.findings ↔ Finding.longSnippet ∈ r.findings)
      ∧ r'.findings.length + (r.findings.filter Finding.isLine).length = r.findings.length
      ∧ r.quality.score ≤ r'.quality.score := by
  intro r r'
  set normal := Language.normalize language with hnormal
  have hterminator : Language.usesTerminator normal = true := by
    rw [hnormal, Language.usesTerminator_normalize, h]
  have hfindings : r.findings = Finding.all longLimit normal code := findings_review _ _ _
  have hfindings' : r'.findings = Finding.all longLimit normal (suggestFix normal code) := by
    rw [findings_review, suggestedFix_review]
  have hlines := onLines_suggestFix hterminator code
  have hsnippet := onSnippet_suggestFix hterminator code longLimit
  have hbrackets := check_suggestFix hterminator code
  have hlength : r'.findings.length + (r.findings.filter Finding.isLine).length
      = r.findings.length := by
    have hcount := congrArg List.length hbrackets
    rw [List.length_map, List.length_map] at hcount
    rw [hfindings, hfindings', Finding.filter_isLine_all, Finding.length_all, Finding.length_all,
      hlines, hsnippet, hcount, List.length_map, List.length_nil]
    omega
  have hstay : ∀ {f : Finding}, f.isLine = false → f.bracket? = none →
      (f ∈ r'.findings ↔ f ∈ r.findings) := by
    intro f hline hbracket
    rw [hfindings, hfindings', Finding.mem_all_iff_mem_onSnippet hline hbracket, hsnippet,
      Finding.mem_all_iff_mem_onSnippet hline hbracket]
  refine ⟨?_, ?_, hstay rfl rfl, hstay rfl rfl, hstay rfl rfl, hlength, ?_⟩
  · intro f hf
    have hmem : Finding.line f ∈ r'.findings.filter Finding.isLine := List.mem_filter.2 ⟨hf, rfl⟩
    rw [hfindings', Finding.filter_isLine_all, hlines] at hmem
    exact absurd hmem List.not_mem_nil
  · rw [hfindings, hfindings', Finding.filterMap_bracket?_all, Finding.filterMap_bracket?_all,
      hbrackets]
  · refine Quality.score_ofCount_anti ?_
    omega

/-- A call without its closing parenthesis, quote and terminator: the last two are put back. -/
theorem review_suggestedFix_openCall :
    Language.usesTerminator "Java".toList = true ∧
      let r := review 120 "Java".toList "x = f(\"a".toList
      let r' := review 120 "Java".toList r.suggestedFix
      r.findings.length = 3
        ∧ r'.findings.length + (r.findings.filter Finding.isLine).length = r.findings.length := by
  have hjava : Language.usesTerminator "Java".toList = true := by decide
  obtain ⟨-, -, -, -, -, hlength, -⟩ := review_suggestedFix 120 hjava "x = f(\"a".toList
  exact ⟨hjava, by decide +kernel, hlength⟩

end SnippetReview
