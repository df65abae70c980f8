import SnippetReview.Proofs.Line.BlockOpening
import SnippetReview.Proofs.Line.Repair
import SnippetReview.Proofs.LineCheck

/-!
# What a repair makes of a line

A line that needs a terminator still needs one when its string literal has been closed
(`needsTerminator_concat_quote`). So the faults found in a line tell how it is repaired
(`mend_of_needsTerminator`, `mend_of_hasOpenQuote`), and the suggested fix changes the lines with a
finding and no others, each as its findings say (`suggestFix_byFindings`).
-/

namespace SnippetReview

namespace Line

/-! ## Statements whose string literal has been closed -/

theorem isSkippable_concat_quote {s : Text} (h : isSkippable s = false) :
    isSkippable (s ++ [quote]) = false := by
  have hstarts : ∀ w ∈ commentStarts, quote ∉ w := by decide
  have hends : ∀ w ∈ blockEnds, w ≠ [] ∧ quote ∉ w := by decide
  have hstart : Text.startsWithAny commentStarts (s ++ [quote])
      = Text.startsWithAny commentStarts s := by
    rw [Text.startsWithAny, Text.startsWithAny, Bool.eq_iff_iff, List.any_eq_true,
      List.any_eq_true]
    refine exists_congr fun w => and_congr_right fun hw => ?_
    rw [Text.isPrefixOf_concat (hstarts w hw)]
  have hend : Text.endsWithAny blockEnds (s ++ [quote]) = false := by
    rw [Text.endsWithAny, List.any_eq_false]
    intro w hw
    rw [Text.isSuffixOf_concat (hends w hw).1 (hends w hw).2]
    decide
  simp only [isSkippable, Bool.or_eq_false_iff] at h
  simp only [isSkippable, hstart, hend, h.1.2, Bool.or_false, List.isEmpty_eq_false_iff]
  exact List.concat_ne_nil quote s

theorem tellsStatement_append {s : Text} (h : tellsStatement s = true) (t : Text) :
    tellsStatement (s ++ t) = true := by
  rw [tellsStatement, Text.mentionsAny, List.any_eq_true] at h ⊢
  obtain ⟨w, hw, hoccurs⟩ := h
  rw [Text.occursIn_iff_isInfix] at hoccurs
  exact ⟨w, hw, Text.occursIn_iff_isInfix.2 (hoccurs.trans (List.prefix_append s t).isInfix)⟩

/-- A line that needs a terminator still needs it when its string literal has been closed. -/
theorem needsTerminator_concat_quote {body : Text} (h : needsTerminator terminator body = true) :
    needsTerminator terminator (Text.trimEnd body ++ [quote]) = true := by
  have htrim : Text.trim (Text.trimEnd body ++ [quote]) = Text.trim body ++ [quote] :=
    Text.trim_trimEnd_concat (by decide) body
  have hsuffix : terminator.isSuffixOf (Text.trim body ++ [quote]) = false :=
    Text.isSuffixOf_concat (by decide) (by decide) _
  simp only [needsTerminator, Bool.and_eq_true, Bool.not_eq_true'] at h
  obtain ⟨⟨⟨hskip, hblock⟩, htells⟩, -⟩ := h
  simp only [needsTerminator, htrim, hsuffix, isSkippable_concat_quote hskip,
    opensBlock_concat (c := quote) (by decide) (by decide), hblock, tellsStatement_append htells]
  rfl

/-! ## The two faults and the repair -/

section Mend

variable {body : Text}

theorem mend_of_needsTerminator (hquote : hasOpenQuote body = false)
    (hclose : needsTerminator terminator body = true) :
    mend terminator body = Text.trimEnd body ++ terminator := by
  rw [mend, closeQuote, if_neg (Bool.eq_false_iff.1 hquote), closeStatement, if_pos hclose]

theorem mend_of_hasOpenQuote (hquote : hasOpenQuote body = true) :
    mend terminator body = if needsTerminator terminator (Text.trimEnd body ++ [quote])
      then Text.trimEnd body ++ [quote] ++ terminator else Text.trimEnd body ++ [quote] := by
  have hsolid : Text.EndsSolid (Text.trimEnd body ++ [quote]) :=
    Text.endsSolid_append (Text.endsSolid_singleton (by decide)) _
  rw [mend, closeQuote, if_pos hquote, closeStatement, Text.trimEnd_of_endsSolid hsolid]

end Mend

/-- A repair takes blanks off the end of a line and puts marks there, or does nothing. -/
theorem exists_mend_eq (body : Text) : ∃ kept blanks added : Text,
    body = kept ++ blanks ∧ Text.Blank blanks ∧ mend terminator body = kept ++ added
      ∧ (blanks = [] ∧ added = [] ∨ added ∈ ["\"".toList, ";".toList, "\";".toList]) := by
  obtain ⟨b, hb, hbody⟩ := Text.exists_eq_trimEnd_append body
  by_cases hquote : hasOpenQuote body = true
  · by_cases hclose : needsTerminator terminator (Text.trimEnd body ++ [quote]) = true
    · refine ⟨_, b, "\";".toList, hbody, hb, ?_, Or.inr (by simp)⟩
      rw [mend_of_hasOpenQuote hquote, if_pos hclose, List.append_assoc]
      rfl
    · refine ⟨_, b, "\"".toList, hbody, hb, ?_, Or.inr (by simp)⟩
      rw [mend_of_hasOpenQuote hquote, if_neg hclose]
      rfl
  · rw [Bool.not_eq_true] at hquote
    by_cases hclose : needsTerminator terminator body = true
    · exact ⟨_, b, ";".toList, hbody, hb, mend_of_needsTerminator hquote hclose, Or.inr (by simp)⟩
    · refine ⟨body, [], [], (List.append_nil body).symm, Text.blank_nil, ?_, Or.inl ⟨rfl, rfl⟩⟩
      rw [mend_of_settled ⟨hquote, Bool.eq_false_iff.2 hclose⟩, List.append_nil]

/-- A repair ends no line with a carriage return. -/
theorem getLast?_mend_ne_return {body : Text} (h : body.getLast? ≠ some '\r') :
    (mend terminator body).getLast? ≠ some '\r' := by
  obtain ⟨kept, blanks, added, hbody, -, hmend, hadded⟩ := exists_mend_eq body
  rw [hmend]
  rcases hadded with ⟨rfl, rfl⟩ | hadded
  · rwa [List.append_nil, ← List.append_nil kept, ← hbody]
  · simp only [List.mem_cons, List.not_mem_nil, or_false] at hadded
    rcases hadded with rfl | rfl | rfl <;> simp [List.getLast?_append]

/-! ## The line as a whole -/

/-- A line cut before the carriage return at its end, where it has one. -/
structure Cut (line body ending : Text) : Prop where
  append : line = body ++ ending
  ending : ending = ['\r'] ∨ ending = [] ∧ line.getLast? ≠ some '\r'

theorem cut_splitReturn (line : Text) : Cut line (splitReturn line).1 (splitReturn line).2 where
  append := (splitReturn_append line).symm
  ending := by
    rw [splitReturn]
    split_ifs with h
    · exact Or.inl rfl
    · exact Or.inr ⟨rfl, h⟩

/-- What becomes of a line that is cut into body and ending, where `openQuote` says that the line
is reported for a string literal left open and `unended` that it is reported for a missing
terminator. -/
structure RepairedAs (openQuote unended : Prop) (line body ending fixed : Text) : Prop where
  neither : ¬ openQuote → ¬ unended → fixed = line
  onlyUnended : ¬ openQuote → unended → fixed = Text.trimEnd body ++ ";".toList ++ ending
  both : openQuote → unended → fixed = Text.trimEnd body ++ "\";".toList ++ ending
  onlyOpenQuote : openQuote → ¬ unended → fixed
    = if needsTerminator ";".toList (Text.trimEnd body ++ "\"".toList) = true
      then Text.trimEnd body ++ "\";".toList ++ ending
      else Text.trimEnd body ++ "\"".toList ++ ending
  /-- Nothing but blanks is lost, and what is added stands at the end. -/
  atEnd : ∃ kept blanks added, body = kept ++ blanks ∧ Text.Blank blanks
    ∧ added ∈ [[], "\"".toList, ";".toList, "\";".toList] ∧ fixed = kept ++ added ++ ending
  return_iff : fixed.getLast? = some '\r' ↔ line.getLast? = some '\r'

theorem repairedAs_repair (line : Text) :
    RepairedAs (hasOpenQuote line = true) (needsTerminator terminator line = true) line
      (splitReturn line).1 (splitReturn line).2 (repair terminator line) := by
  obtain ⟨happend, hending⟩ := cut_splitReturn line
  have hblank := blank_splitReturn line
  rw [repair_eq]
  generalize (splitReturn line).1 = body, (splitReturn line).2 = ending at *
  have hquote : hasOpenQuote line = hasOpenQuote body := by
    rw [happend, hasOpenQuote_append_blank hblank]
  have hclose : needsTerminator terminator line = needsTerminator terminator body := by
    rw [happend, needsTerminator_append_blank hblank]
  rw [hquote, hclose]
  obtain ⟨kept, blanks, added, hbody, hblanks, hmend, hadded⟩ := exists_mend_eq body
  refine ⟨?_, ?_, ?_, ?_, ?_, ?_⟩
  · intro hq hc
    rw [mend_of_settled ⟨Bool.eq_false_iff.2 hq, Bool.eq_false_iff.2 hc⟩, happend]
  · intro hq hc
    rw [mend_of_needsTerminator (Bool.eq_false_iff.2 hq) hc]
    rfl
  · intro hq hc
    rw [mend_of_hasOpenQuote hq, if_pos (needsTerminator_concat_quote hc),
      List.append_assoc _ [quote]]
    rfl
  · intro hq _
    rw [mend_of_hasOpenQuote hq]
    show
      (if needsTerminator terminator (Text.trimEnd body ++ [quote]) = true then _ else _) ++ ending
      = if needsTerminator terminator (Text.trimEnd body ++ [quote]) = true then _ else _
    split_ifs
    · rw [List.append_assoc _ [quote]]
      rfl
    · rfl
  · refine ⟨kept, blanks, added, hbody, hblanks, ?_, by rw [hmend]⟩
    rcases hadded with ⟨-, rfl⟩ | hadded
    · exact List.mem_cons_self
    · exact List.mem_cons_of_mem _ hadded
  · rcases hending with rfl | ⟨rfl, hne⟩
    · rw [happend, List.getLast?_concat, List.getLast?_concat]
    · rw [List.append_nil] at happend ⊢
      rw [happend] at hne ⊢
      exact iff_of_false (getLast?_mend_ne_return hne) hne

/-- A finding on a line says that the line has the fault. -/
theorem mem_findings_iff {fault : Fault} {test : Text → Bool} {code line : Text} {i : Nat}
    (hline : (Text.lines code)[i]? = some line) :
    ⟨i + 1, fault⟩ ∈ findings fault test code ↔ test line = true := by
  rw [mem_findings, Nat.add_sub_cancel, hline]
  constructor
  · rintro ⟨-, l, -, hl, htest⟩
    rwa [Option.some.inj hl]
  · exact fun htest => ⟨rfl, line, Nat.le_add_left 1 i, rfl, htest⟩

end Line

/-- In a language that closes statements the suggested fix has as many lines as the code. Each line
is cut into a body and the carriage return at its end, if it has one. A line without findings stays
as it is; a missing terminator, a missing quote or both are put at the end of the body, in place of
the blanks there, and a line that lacks its quote gets a terminator, too, if it needs one then. -/
theorem suggestFix_byFindings {language : Text} (h : Language.usesTerminator language = true)
    (code : Text) :
    (Text.lines (suggestFix language code)).length = (Text.lines code).length
      ∧ ∀ i line, (Text.lines code)[i]? = some line →
        ∃ body ending fixed, (Text.lines (suggestFix language code))[i]? = some fixed
          ∧ Line.Cut line body ending
          ∧ Line.RepairedAs (⟨i + 1, .openQuote⟩ ∈ Line.checkQuotes code)
            (⟨i + 1, .missingTerminator⟩ ∈ Line.checkTerminators language code)
            line body ending fixed := by
  rw [lines_suggestFix h]
  refine ⟨List.length_map _, ?_⟩
  intro i line hline
  refine ⟨_, _, Line.repair Line.terminator line, ?_, Line.cut_splitReturn line, ?_⟩
  · rw [List.getElem?_map, hline, Option.map_some]
  · rw [Line.checkQuotes, Line.checkTerminators, if_pos h, Line.mem_findings_iff hline,
      Line.mem_findings_iff hline]
    exact Line.repairedAs_repair line

/-- A line with both faults, a blank and a carriage return at its end. -/
theorem suggestFix_byFindings_bothFaults :
    Language.usesTerminator "Java".toList = true
      ∧ (Text.lines "x = \"a \r\ny;".toList)[0]? = some "x = \"a \r".toList
      ∧ (Text.lines (suggestFix "Java".toList "x = \"a \r\ny;".toList))[0]?
        = some "x = \"a\";\r".toList := by
  have hjava : Language.usesTerminator "Java".toList = true := by decide
  have hline : (Text.lines "x = \"a \r\ny;".toList)[0]? = some "x = \"a \r".toList := by decide
  obtain ⟨-, hlines⟩ := suggestFix_byFindings hjava "x = \"a \r\ny;".toList
  obtain ⟨body, ending, fixed, hfixed, ⟨happend, hending⟩, hrepaired⟩ := hlines 0 _ hline
  rcases hending with rfl | ⟨-, hnone⟩
  · have hbody : "x = \"a ".toList = body :=
      List.append_cancel_right (show "x = \"a ".toList ++ ['\r'] = body ++ ['\r'] from happend)
    subst hbody
    refine ⟨hjava, hline, ?_⟩
    rw [hfixed, hrepaired.both (by decide +kernel) (by decide +kernel)]
    decide
  · exact absurd rfl hnone

end SnippetReview
