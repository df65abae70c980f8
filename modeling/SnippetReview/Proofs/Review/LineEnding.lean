import Mathlib.Data.List.Find
import SnippetReview.Review
import SnippetReview.Proofs.Finding
import SnippetReview.Proofs.Line.Repair
import SnippetReview.Proofs.LineCheck
import SnippetReview.Proofs.Loop.Occurrence
import SnippetReview.Proofs.Text.LineEnding

/-!
# Reviews and line endings

A snippet may end its lines with a newline alone or with a carriage return before it. Its review is
the same in both forms (`review_crlf`), but for the positions of unexpected closers, which count the
carriage returns before them, and for the suggested fix, which ends its lines as the snippet does.
-/

namespace SnippetReview

/-! ## Lines -/

namespace Line

theorem blank_of_returns {b : Text} (hb : ∀ c ∈ b, (c == '\r') = true) : Text.Blank b := by
  intro c hc
  rw [beq_iff_eq.1 (hb c hc)]
  decide

theorem onLines_crlf (language code : Text) :
    Finding.onLines language (Text.crlf code) = Finding.onLines language code := by
  have hsame := Text.sameUpToLineEnds_crlf code
  have hquotes : checkQuotes code = checkQuotes (Text.crlf code) :=
    findings_congr _ (hsame.map_lines fun s b hb =>
      hasOpenQuote_append_blank (blank_of_returns hb) s)
  have hterminators : checkTerminators language code = checkTerminators language (Text.crlf code) :=
    checkTerminators_congr language (hsame.map_lines fun s b hb =>
      needsTerminator_append_blank (blank_of_returns hb) terminator s)
  rw [Finding.onLines, Finding.onLines, hquotes, hterminators]

/-- A carriage return at the end of a line stays where it is when the line is repaired. -/
theorem repair_append_return {line : Text} (h : '\r' ∉ line) (close : Text) :
    repair close (line ++ ['\r']) = repair close line ++ ['\r'] := by
  have hreturn : splitReturn (line ++ ['\r']) = (line, ['\r']) := by
    rw [splitReturn, if_pos List.getLast?_concat, List.dropLast_concat]
  have hnone : splitReturn line = (line, []) := by
    rw [splitReturn, if_neg]
    exact fun hlast => h (List.mem_of_getLast? hlast)
  rw [repair_eq, repair_eq, hreturn, hnone, List.append_nil]

end Line

theorem suggestFix_crlf (language : Text) {code : Text} (h : '\r' ∉ code) :
    suggestFix language (Text.crlf code) = Text.crlf (suggestFix language code) := by
  by_cases hlanguage : Language.usesTerminator language = true
  · have hrepair : ∀ l ∈ Text.lines code, Line.repair Line.terminator (l ++ ['\r'])
        = Line.repair Line.terminator l ++ ['\r'] := by
      intro l hl
      refine Line.repair_append_return (fun hmem => h ?_) _
      rw [← Text.unlines_lines code]
      exact Text.mem_unlines_of_mem hl hmem
    have hnewline : ∀ l ∈ (Text.lines code).map (Line.repair Line.terminator), '\n' ∉ l := by
      intro l hl
      rw [← lines_suggestFix hlanguage] at hl
      exact Text.newline_not_mem_of_mem_lines hl
    rw [suggestFix_of_usesTerminator hlanguage, suggestFix_of_usesTerminator hlanguage,
      Text.lines_crlf, Text.withReturns_map hrepair, Text.crlf_unlines hnewline]
  · rw [suggestFix_of_not_usesTerminator hlanguage, suggestFix_of_not_usesTerminator hlanguage]

/-! ## Brackets -/

namespace Bracket

/-- A position in a text, as it is when every newline has a carriage return before it. -/
def crlfPosition (code : Text) (position : Nat) : Nat :=
  position + (code.take position).count '\n'

/-- The brackets after some text. The induction is on what follows, and the text before it tells
how many newlines have been passed. -/
theorem placedFrom_crlf (before s : Text) :
    placedFrom (Text.crlf before).length (Text.crlf s)
      = move (crlfPosition (before ++ s)) (placedFrom before.length s) := by
  induction s generalizing before with
  | nil => rfl
  | cons c s ih =>
    have hnext := ih (before ++ [c])
    rw [Text.crlf_append, List.length_append, List.length_append, List.append_assoc,
      List.singleton_append] at hnext
    by_cases hc : c = '\n'
    · subst hc
      rw [Text.crlf_newline, placedFrom_cons_of_none rfl, placedFrom_cons_of_none rfl,
        placedFrom_cons_of_none rfl]
      exact hnext
    · have hchar : Text.crlf [c] = [c] := Text.crlf_cons hc []
      rw [hchar] at hnext
      rw [Text.crlf_cons hc]
      cases hb : ofChar? c with
      | none =>
        rw [placedFrom_cons_of_none hb, placedFrom_cons_of_none hb]
        exact hnext
      | some b =>
        have hposition : crlfPosition (before ++ c :: s) before.length
            = (Text.crlf before).length := by
          rw [crlfPosition, List.take_left, Text.length_crlf]
        rw [placedFrom_cons_of_some hb, placedFrom_cons_of_some hb, move, List.map_cons, hposition,
          ← move]
        exact congrArg _ hnext

theorem check_crlf (code : Text) :
    check (Text.crlf code) = (check code).map (Finding.relocate (crlfPosition code)) := by
  have hplaced : placedFrom 0 (Text.crlf code) = move (crlfPosition code) (placedFrom 0 code) :=
    placedFrom_crlf [] code
  rw [check_eq_checkPlaced, check_eq_checkPlaced, hplaced, checkPlaced_move]

end Bracket

/-! ## The snippet as a whole -/

theorem Finding.onSnippet_crlf (longLimit : Int) (code : Text) :
    onSnippet longLimit (Text.crlf code) = onSnippet longLimit code := by
  have hlower : ∀ c : Char, (c == '\r') = true → lowerChar c = [c] := by
    intro c hc
    rw [beq_iff_eq.1 hc]
    decide
  exact (onSnippet_eq_of_sameUpToLineEnds hlower (by decide) (Text.sameUpToLineEnds_crlf code)).symm

/-! ## Loops -/

namespace Loop

/-- The same stop in a text with a carriage return before every newline. -/
def Stop.crlf (e : Stop) : Stop := ⟨e.last, Text.crlf e.rest⟩

theorem wordStop?_crlf (before : Option Char) (s : Text) :
    wordStop? before (Text.crlf s) = (wordStop? before s).map Stop.crlf := by
  have hwords : ∀ w ∈ words, '\r' ∉ w ∧ '\n' ∉ w := by decide
  have htest : ∀ w ∈ words,
      (w.isPrefixOf (Text.crlf s) && endsWord ((Text.crlf s).drop w.length))
        = (w.isPrefixOf s && endsWord (s.drop w.length)) := by
    intro w hw
    rw [Text.isPrefixOf_crlf (hwords w hw).1 (hwords w hw).2]
    by_cases hstart : w.isPrefixOf s = true
    · rw [Text.drop_crlf (hwords w hw).2 hstart, Text.endsWord_crlf]
    · rw [Bool.eq_false_iff.2 hstart, Bool.false_and, Bool.false_and]
  rw [wordStop?, wordStop?, List.find?_congr htest]
  by_cases hbefore : before.any isWord = true
  · rw [if_pos hbefore, if_pos hbefore]
    rfl
  · rw [if_neg hbefore, if_neg hbefore, Option.map_map]
    refine Option.map_congr fun w hw => ?_
    have hfound := List.find?_some hw
    rw [Bool.and_eq_true] at hfound
    rw [Function.comp, Stop.crlf,
      Text.drop_crlf (hwords w (List.mem_of_find?_eq_some hw)).2 hfound.1]

theorem callStop?_crlf (s : Text) :
    callStop? (Text.crlf s) = (callStop? s).map Stop.crlf := by
  have hmethods : ∀ m ∈ methods, '\r' ∉ m ∧ '\n' ∉ m := by decide
  have htest : ∀ m ∈ methods, m.isPrefixOf (Text.crlf s) = m.isPrefixOf s :=
    fun m hm => Text.isPrefixOf_crlf (hmethods m hm).1 (hmethods m hm).2 s
  rw [callStop?, callStop?, List.find?_congr htest]
  cases hfind : methods.find? fun m => m.isPrefixOf s with
  | none => rfl
  | some m =>
    have hmem := List.mem_of_find?_eq_some hfind
    have hstart := List.find?_some hfind
    rw [Option.bind_some, Option.bind_some, Text.drop_crlf (hmethods m hmem).2 hstart,
      Text.trimStart_crlf]
    cases Text.trimStart (s.drop m.length) with
    | nil => rfl
    | cons c rest =>
      by_cases hc : c = '\n'
      · subst hc
        rfl
      · rw [Text.crlf_cons hc]
        by_cases hopen : c = '('
        · subst hopen
          rfl
        · simp [hopen]

theorem stop?_crlf (before : Option Char) (s : Text) :
    stop? before (Text.crlf s) = (stop? before s).map Stop.crlf := by
  rw [stop?, stop?, wordStop?_crlf, callStop?_crlf]
  cases wordStop? before s <;> rfl

theorem stop?_cons_of_blank {c : Char} (hc : c = '\r' ∨ c = '\n') (before : Option Char)
    (s : Text) :
    stop? before (c :: s) = none := by
  have hword : wordStop? before (c :: s) = none := by
    rw [wordStop?]
    rcases hc with rfl | rfl <;> split_ifs <;> rfl
  have hcall : callStop? (c :: s) = none := by
    rcases hc with rfl | rfl <;> rfl
  rw [stop?, hword, hcall]

/-- A carriage return before every newline makes no loop and hides none. The induction follows
the pass: it goes on after a construct, and past a carriage return and its newline at once. -/
theorem countFrom_crlf (before : Option Char) (found : Nat) (s : Text) :
    countFrom before found (Text.crlf s) = countFrom before found s := by
  induction before, found, s using countFrom.induct with
  | case1 before found => rfl
  | case2 before found c cs e he ih =>
    have hcrlf : stop? before (Text.crlf (c :: cs)) = some e.crlf := by
      rw [stop?_crlf, he]
      rfl
    rw [countFrom_of_some he, countFrom_of_some hcrlf]
    exact ih
  | case3 before found c cs hnone ih =>
    rw [countFrom_cons_of_none hnone]
    by_cases hc : c = '\n'
    · subst hc
      rw [Text.crlf_newline, countFrom_cons_of_none (stop?_cons_of_blank (Or.inl rfl) _ _),
        countFrom_cons_of_none (stop?_cons_of_blank (Or.inr rfl) _ _), ih]
    · have hcrlf : stop? before (c :: Text.crlf cs) = none := by
        rw [← Text.crlf_cons hc, stop?_crlf, hnone]
        rfl
      rw [Text.crlf_cons hc, countFrom_cons_of_none hcrlf, ih]

end Loop

theorem Complexity.estimate_crlf (code : Text) : estimate (Text.crlf code) = estimate code := by
  have hmarks : Text.mentionsAny allocationMarks code
      = Text.mentionsAny allocationMarks (Text.crlf code) :=
    Text.mentionsAny_eq_of_sameUpToLineEnds (Text.sameUpToLineEnds_crlf code) (by decide)
  rw [estimate, estimate, ← hmarks, Loop.count, Loop.count, Loop.countFrom_crlf]

/-! ## The review -/

/-- The findings of a snippet do not depend on how it ends its lines, but for the positions. -/
theorem Finding.all_crlf (longLimit : Int) (language code : Text) :
    all longLimit language (Text.crlf code)
      = (all longLimit language code).map (relocate (Bracket.crlfPosition code)) := by
  rw [all_eq, all_eq, List.map_append, List.map_append, map_relocate_onSnippet,
    Line.onLines_crlf, Bracket.check_crlf, onSnippet_crlf, List.map_map, List.map_map, List.map_map]
  rfl

/-- A snippet without carriage returns has the same review when one is put before every newline,
but for two things: the position of an unexpected closer grows by the number of newlines before it,
and the suggested fix has the carriage returns too. -/
theorem review_crlf (longLimit : Int) (language : Text) {code : Text} (h : '\r' ∉ code) :
    let r := review longLimit language code
    let r' := review longLimit language (Text.crlf code)
    r'.language = r.language
      ∧ r'.quality = r.quality
      ∧ r'.improvements = r.improvements
      ∧ r'.complexity = r.complexity
      ∧ r'.findings
        = r.findings.map (Finding.relocate fun p => p + (code.take p).count '\n')
      ∧ r'.suggestedFix = Text.crlf r.suggestedFix := by
  intro r r'
  have hfindings : r'.findings
      = r.findings.map (Finding.relocate (Bracket.crlfPosition code)) := by
    rw [findings_review, findings_review, Finding.all_crlf]
  have hquality : r'.quality = r.quality := by
    rw [Review.quality, Review.quality, hfindings, List.length_map]
  have hcomplexity : r'.complexity = r.complexity := by
    rw [complexity_review, complexity_review, Complexity.estimate_crlf]
  have hfix : r'.suggestedFix = Text.crlf r.suggestedFix := by
    rw [suggestedFix_review, suggestedFix_review, suggestFix_crlf _ h]
  exact ⟨rfl, hquality, rfl, hcomplexity, hfindings, hfix⟩

/-- A closer on the second line stands one position further on. -/
theorem review_crlf_secondLine :
    '\r' ∉ "(\n)]".toList
      ∧ (review 120 "Java".toList "(\n)]".toList).findings = [.bracket (.unexpected .square 3)]
      ∧ (review 120 "Java".toList (Text.crlf "(\n)]".toList)).findings
        = [.bracket (.unexpected .square 4)] := by
  have hcode : '\r' ∉ "(\n)]".toList := by decide
  have hfindings : (review 120 "Java".toList "(\n)]".toList).findings
      = [.bracket (.unexpected .square 3)] := by decide +kernel
  obtain ⟨-, -, -, -, hcrlf, -⟩ := review_crlf 120 "Java".toList hcode
  refine ⟨hcode, hfindings, ?_⟩
  rw [hcrlf, hfindings]
  rfl

end SnippetReview
