import SnippetReview.Proofs.Line.Repair
import SnippetReview.Proofs.LineCheck

/-!
# Texts put one below the other

The findings on lines and the suggested fix are made line by line. So what is found in two texts
put one below the other is what is found in each, the second with its line numbers counted on, and
the fix is that of the one above that of the other (`checks_below`). A line that is changed changes
neither the findings on another line nor the fix of one.
-/

namespace SnippetReview

/-! ## Changed lines -/

namespace Text

/-- The text with one of its lines, counted from zero, changed to another. -/
def changeLine (s : Text) (i : Nat) (line : Text) : Text := unlines ((lines s).set i line)

theorem lines_changeLine {line : Text} (h : '\n' ∉ line) (s : Text) (i : Nat) :
    lines (s.changeLine i line) = (lines s).set i line := by
  refine lines_unlines (mt (List.set_eq_nil_iff _ _).1 (lines_ne_nil s)) ?_
  intro l hl
  rcases List.mem_or_eq_of_mem_set hl with hl | rfl
  · exact newline_not_mem_of_mem_lines hl
  · exact h

theorem getElem?_lines_changeLine {line : Text} (h : '\n' ∉ line) (s : Text) {i j : Nat}
    (hij : i ≠ j) : (lines (s.changeLine i line))[j]? = (lines s)[j]? := by
  rw [lines_changeLine h, List.getElem?_set_ne hij]

end Text

namespace Line

/-! ## Findings -/

/-- The finding on the line that stands further down by a number of lines. -/
def Finding.moveDown (k : Nat) (f : Finding) : Finding := { f with number := f.number + k }

theorem findings_append_newline (fault : Fault) (test : Text → Bool) (s t : Text) :
    findings fault test (s ++ '\n' :: t)
      = findings fault test s
        ++ (findings fault test t).map (Finding.moveDown (s.count '\n' + 1)) := by
  have hnumbered : Text.numberedLines (s ++ '\n' :: t)
      = Text.numberedLines s
        ++ (Text.numberedLines t).map (Prod.map id (· + (s.count '\n' + 1))) := by
    rw [Text.numberedLines, Text.lines_append_newline, List.zipIdx_append, Text.length_lines,
      Nat.add_comm, ← List.map_snd_add_zipIdx_eq_zipIdx]
    rfl
  rw [findings, hnumbered, List.filter_append, List.map_append, List.filter_map, List.map_map,
    findings, findings, List.map_map]
  rfl

/-- Whether there is a finding on a line depends on that line alone. -/
theorem mem_findings_congr {fault : Fault} {test : Text → Bool} {s t : Text} {f : Finding}
    (h : 1 ≤ f.number → (Text.lines s)[f.number - 1]? = (Text.lines t)[f.number - 1]?) :
    f ∈ findings fault test s ↔ f ∈ findings fault test t := by
  rw [mem_findings, mem_findings]
  refine and_congr_right fun _ => exists_congr fun l => and_congr_right fun hpos => ?_
  rw [h hpos]

/-- Whether there is a finding on a line does not depend on any other line. -/
theorem mem_findings_changeLine {fault : Fault} {test : Text → Bool} {line : Text}
    (h : '\n' ∉ line) (code : Text) {i : Nat} {f : Finding} (hf : f.number ≠ i + 1) :
    f ∈ findings fault test (code.changeLine i line) ↔ f ∈ findings fault test code := by
  apply mem_findings_congr
  intro hpos
  exact Text.getElem?_lines_changeLine h code (by omega)

end Line

/-! ## The suggested fix -/

theorem suggestFix_append_newline (language s t : Text) :
    suggestFix language (s ++ '\n' :: t)
      = suggestFix language s ++ '\n' :: suggestFix language t := by
  by_cases h : Language.usesTerminator language = true
  · have hne : ∀ u, (Text.lines u).map (Line.repair Line.terminator) ≠ [] := fun u =>
      mt List.map_eq_nil_iff.1 (Text.lines_ne_nil u)
    rw [suggestFix_of_usesTerminator h, Text.lines_append_newline, List.map_append,
      Text.unlines_append (hne s) (hne t), suggestFix_of_usesTerminator h,
      suggestFix_of_usesTerminator h]
  · simp only [suggestFix_of_not_usesTerminator h]

/-- The fix of a line depends on that line alone. -/
theorem getElem?_lines_suggestFix_congr (language : Text) {s t : Text} {i : Nat}
    (h : (Text.lines s)[i]? = (Text.lines t)[i]?) :
    (Text.lines (suggestFix language s))[i]? = (Text.lines (suggestFix language t))[i]? := by
  by_cases hlanguage : Language.usesTerminator language = true
  · rw [lines_suggestFix hlanguage, lines_suggestFix hlanguage, List.getElem?_map,
      List.getElem?_map, h]
  · rw [suggestFix_of_not_usesTerminator hlanguage, suggestFix_of_not_usesTerminator hlanguage, h]

/-! ## Both -/

/-- What is found on the lines of two texts put one below the other, and how these are fixed, is
what it is for each of them, with the lines of the second counted on from the first. A line that is
changed changes no finding on another line and the fix of no other line. -/
theorem checks_below (language : Text) :
    (∀ s t : Text,
      Line.checkTerminators language (s ++ '\n' :: t)
          = Line.checkTerminators language s
            ++ (Line.checkTerminators language t).map (Line.Finding.moveDown (s.count '\n' + 1))
        ∧ Line.checkQuotes (s ++ '\n' :: t)
          = Line.checkQuotes s
            ++ (Line.checkQuotes t).map (Line.Finding.moveDown (s.count '\n' + 1))
        ∧ suggestFix language (s ++ '\n' :: t)
          = suggestFix language s ++ '\n' :: suggestFix language t)
      ∧ ∀ (code line : Text) (i : Nat), '\n' ∉ line →
        (∀ f : Line.Finding, f.number ≠ i + 1 →
          (f ∈ Line.checkTerminators language (code.changeLine i line)
              ↔ f ∈ Line.checkTerminators language code)
            ∧ (f ∈ Line.checkQuotes (code.changeLine i line) ↔ f ∈ Line.checkQuotes code))
        ∧ ∀ j, i ≠ j →
          (Text.lines (suggestFix language (code.changeLine i line)))[j]?
            = (Text.lines (suggestFix language code))[j]? := by
  refine ⟨fun s t => ⟨?_, ?_, ?_⟩, fun code line i hline => ⟨fun f hf => ⟨?_, ?_⟩, fun j hij => ?_⟩⟩
  · simp only [Line.checkTerminators]
    split_ifs
    · exact Line.findings_append_newline _ _ s t
    · rfl
  · exact Line.findings_append_newline _ _ s t
  · exact suggestFix_append_newline language s t
  · simp only [Line.checkTerminators]
    split_ifs
    · exact Line.mem_findings_changeLine hline code hf
    · exact iff_of_false List.not_mem_nil List.not_mem_nil
  · exact Line.mem_findings_changeLine hline code hf
  · exact getElem?_lines_suggestFix_congr language (Text.getElem?_lines_changeLine hline code hij)

/-- A text that ends in a newline, and one whose only line lacks a terminator and a quote; then the
first line of both together is made a comment. -/
theorem checks_below_comment :
    let code : Text := "x = 1\n\ny = \"a".toList
    let edited := code.changeLine 0 "// x".toList
    '\n' ∉ "// x".toList ∧ (3 ≠ 0 + 1 ∧ 0 ≠ 2)
      ∧ Line.checkTerminators "Java".toList code
        = [⟨1, .missingTerminator⟩, ⟨3, .missingTerminator⟩]
      ∧ (⟨3, .missingTerminator⟩ : Line.Finding) ∈ Line.checkTerminators "Java".toList edited
      ∧ (Text.lines (suggestFix "Java".toList edited))[2]? = some "y = \"a\";".toList := by
  intro code edited
  have hline : '\n' ∉ "// x".toList := by decide
  obtain ⟨hbelow, hchanged⟩ := checks_below "Java".toList
  obtain ⟨hfindings, hfixes⟩ := hchanged code "// x".toList 0 hline
  have hcode : Line.checkTerminators "Java".toList code
      = [⟨1, .missingTerminator⟩, ⟨3, .missingTerminator⟩] := by
    rw [show code = "x = 1\n".toList ++ '\n' :: "y = \"a".toList from rfl, (hbelow _ _).1]
    decide +kernel
  refine ⟨hline, by decide, hcode, ?_, ?_⟩
  · rw [(hfindings ⟨3, .missingTerminator⟩ (by decide)).1, hcode]
    decide
  · rw [hfixes 2 (by decide)]
    decide +kernel

end SnippetReview
