import SnippetReview.Proofs.Loop.Joining

/-!
# Estimates of longer snippets

The orders of growth are ordered by how fast they grow, and more loops tell an order that is no
lower (`timeOfLoops_mono`). No word that tells an allocation holds a newline, so none is made up
where two texts are joined by one (`mentionsAny_append_newline`). Hence a snippet is never
estimated lower when lines are added to it (`estimate_append_newline`).
-/

namespace SnippetReview

/-! ## The order of growth -/

/-- The place of an order of growth among the others. -/
def Growth.rank : Growth → Nat
  | constant => 0
  | linear => 1
  | quadratic => 2

theorem Growth.rank_injective : Function.Injective Growth.rank := by
  intro g h
  cases g <;> cases h <;> decide

instance : LinearOrder Growth := LinearOrder.lift' Growth.rank Growth.rank_injective

namespace Complexity

theorem timeOfLoops_mono : Monotone timeOfLoops := by
  apply monotone_nat_of_le_succ
  intro n
  match n with
  | 0 => decide
  | 1 => decide
  | n + 2 => exact le_refl Growth.quadratic

/-! ## Joined snippets -/

theorem mentionsAny_append_newline {words : List Text} (hwords : ∀ w ∈ words, w ≠ [] ∧ '\n' ∉ w)
    (a b : Text) : Text.mentionsAny words (a ++ '\n' :: b)
      = (Text.mentionsAny words a || Text.mentionsAny words b) := by
  have heach : ∀ w ∈ words, Text.occursIn w (a ++ '\n' :: b)
      = (Text.occursIn w a || Text.occursIn w b) :=
    fun w hw => Text.occursIn_append_cons (hwords w hw).1 (hwords w hw).2 a b
  rw [Bool.eq_iff_iff, Bool.or_eq_true]
  simp only [Text.mentionsAny, List.any_eq_true]
  constructor
  · rintro ⟨w, hw, hoccurs⟩
    rw [heach w hw, Bool.or_eq_true] at hoccurs
    rcases hoccurs with h | h
    · exact Or.inl ⟨w, hw, h⟩
    · exact Or.inr ⟨w, hw, h⟩
  · rintro (⟨w, hw, h⟩ | ⟨w, hw, h⟩)
    · exact ⟨w, hw, by rw [heach w hw, h, Bool.true_or]⟩
    · exact ⟨w, hw, by rw [heach w hw, h, Bool.or_true]⟩

/-- Adding lines never lowers an estimate. The loops of the parts stay, and one more is told
exactly if the first part ends with `.forEach` or `.map` and the second begins with a parenthesis,
but for blanks. So time grows no slower than for each part, and there are allocations exactly if
there are in one. -/
theorem estimate_append_newline (a b : Text) :
    let joined := a ++ '\n' :: b
    (Loop.count a + Loop.count b ≤ Loop.count joined
        ∧ Loop.count joined ≤ Loop.count a + Loop.count b + 1
        ∧ (Loop.count joined = Loop.count a + Loop.count b + 1
          ↔ Loop.EndsInMethod a ∧ Loop.OpensCall b))
      ∧ ((estimate a).time ≤ (estimate joined).time ∧ (estimate b).time ≤ (estimate joined).time)
      ∧ ((estimate joined).allocates = true
        ↔ (estimate a).allocates = true ∨ (estimate b).allocates = true) := by
  intro joined
  obtain ⟨k, hk, hcount, hseam⟩ : ∃ k ≤ 1, Loop.count joined = Loop.count a + Loop.count b + k
      ∧ (k = 1 ↔ Loop.EndsInMethod a ∧ Loop.OpensCall b) := Loop.exists_count_append_newline a b
  have htime : (estimate a).time ≤ (estimate joined).time
      ∧ (estimate b).time ≤ (estimate joined).time := by
    constructor
    · apply timeOfLoops_mono
      omega
    · apply timeOfLoops_mono
      omega
  have hmarks : ∀ w ∈ allocationMarks, w ≠ [] ∧ '\n' ∉ w := by decide
  have hspace : (estimate joined).allocates
      = ((estimate a).allocates || (estimate b).allocates) :=
    mentionsAny_append_newline hmarks a b
  refine ⟨⟨by omega, by omega, ?_⟩, htime, ?_⟩
  · rw [← hseam]
    omega
  · rw [hspace, Bool.or_eq_true]

/-- Two lines without a loop that call a method together. -/
example : Loop.count "xs.map ".toList = 0 ∧ Loop.count " (f)".toList = 0
    ∧ Loop.count ("xs.map ".toList ++ '\n' :: " (f)".toList) = 1 := by decide +kernel

end Complexity

end SnippetReview
