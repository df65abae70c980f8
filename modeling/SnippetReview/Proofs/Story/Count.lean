import SnippetReview.Proofs.Review.Issues
import SnippetReview.Proofs.Story.Telling

/-!
# The number of issues that is printed

A report to print tells its score in one line and a number of potential issues in the next. The
score follows from the findings. The number is that of the issues listed, which are the findings in
words unless there is none: then one sentence is listed that says so, and it is counted. So the two
lines speak of the same findings exactly if there are any (`lines_agree_iff`), and a snippet without
findings is told to have one (`counts_placeholder`).
-/

namespace SnippetReview

/-! ## How many issues are listed -/

namespace Review

/-- Without the sentence that stands for none, the issues listed are the findings in words. -/
theorem filter_issues (r : Review) :
    r.issues.filter (· != noFindings) = r.findings.map Finding.message := by
  by_cases h : r.findings = []
  · rw [issues_of_no_findings h, h]
    rfl
  · rw [issues_of_findings h, List.filter_eq_self]
    intro m hm
    obtain ⟨f, -, rfl⟩ := List.mem_map.1 hm
    rw [bne_iff_ne]
    exact Finding.message_ne_noFindings f

/-- One issue is listed for each finding, and one if there is none. -/
theorem length_issues (r : Review) : r.issues.length = max 1 r.findings.length := by
  by_cases h : r.findings = []
  · rw [issues_of_no_findings h, h]
    rfl
  · have hpos := List.length_pos_iff.2 h
    rw [issues_of_findings h, List.length_map]
    omega

end Review

/-! ## The two lines -/

namespace Story

section Lines

variable (author : Text) (r : Review)

theorem qualityLine_ofReview : ∃ rest, (ofReview author r).lines[1]?
    = some ("<b>Quality:</b> ".toList ++ Numeral.digits r.quality.score ++ "/100 (".toList
      ++ rest) := by
  refine ⟨Markup.render Entities.paragraph (ratingMarkup (Told.ofReview r)).tail, ?_⟩
  have hline : (ofReview author r).lines[1]? = some ("<b>Quality:</b> ".toList
      ++ (ratingMarkup (Told.ofReview r)).render Entities.paragraph) := by
    rw [ofReview, lines_ofTold]
    rfl
  rw [hline, ratingMarkup, Markup.render_cons]
  simp [Piece.render, Told.ofReview]

theorem countLine_ofReview : (ofReview author r).lines[2]?
    = some ("<b>Potential issues:</b> ".toList ++ Numeral.digits r.issues.length) := by
  have hcount : Markup.render Entities.paragraph [.markup (Numeral.digits r.issues.length)]
      = Numeral.digits r.issues.length := List.append_nil _
  rw [ofReview, lines_ofTold, Told.ofReview, hcount]
  rfl

end Lines

/-- The report of a review tells its score in one line and a number of issues in the next. The score
follows from the number of issues found, which leaves out the sentence that stands for none. The
number told is that number, too, unless it is none: one is told then, which the score does not
follow from. -/
theorem lines_agree_iff (settings : Settings) (preparedBy : Option Text) (language code : Text) :
    let r := review settings.longSnippetLines language code
    let story := ofReview (authorOr settings preparedBy) r
    let found := (r.issues.filter (· != Review.noFindings)).length
    ∃ score count rest,
      story.lines[1]?
          = some ("<b>Quality:</b> ".toList ++ Numeral.digits score ++ "/100 (".toList ++ rest)
        ∧ story.lines[2]? = some ("<b>Potential issues:</b> ".toList ++ Numeral.digits count)
        ∧ found = r.findings.length
        ∧ (score : Int) = max 0 (100 - 12 * (found : Int))
        ∧ count = max 1 found
        ∧ ((score : Int) = max 0 (100 - 12 * (count : Int)) ↔ found ≠ 0) := by
  intro r story found
  have hfound : found = r.findings.length := by
    rw [← List.length_map Finding.message, ← Review.filter_issues]
  have hscore : (r.quality.score : Int) = max 0 (100 - 12 * (found : Int)) := by
    rw [hfound, Review.quality]
    exact Quality.score_ofCount _
  have hcount : r.issues.length = max 1 found := by
    rw [hfound]
    exact Review.length_issues r
  obtain ⟨rest, hquality⟩ := qualityLine_ofReview (authorOr settings preparedBy) r
  refine ⟨r.quality.score, r.issues.length, rest, hquality, countLine_ofReview _ r, hfound, hscore,
    hcount, ?_⟩
  -- with one issue told instead of none, the score is twelve points above what follows from it
  rw [hscore, hcount]
  omega

/-- A snippet in Go without findings: no points are taken off its score, but the report tells that
it has one issue. -/
theorem counts_placeholder :
    let r := review 80 "Go".toList "package main\n".toList
    let story := ofReview "CodeChat Reviewer".toList r
    r.findings = []
      ∧ story.lines[1]? = some "<b>Quality:</b> 100/100 (A, Excellent)".toList
      ∧ story.lines[2]? = some "<b>Potential issues:</b> 1".toList
      ∧ (100 : Int) ≠ max 0 (100 - 12 * 1) := by
  decide

end Story

end SnippetReview
