import Mathlib.Data.List.Find
import SnippetReview.Line.BlockOpening
import SnippetReview.Proofs.Text.Trimming

/-!
# Lines that open a block

Whether a line opens a block is told by its first words. A character put at the end of the line that
is neither blank nor part of a word is none of them and lengthens none, so it does not matter
(`opensBlock_concat`).
-/

namespace SnippetReview

/-! ## A mark at the end of a text -/

theorem Text.isPrefixOf_concat {w : Text} {c : Char} (hc : c ∉ w) (s : Text) :
    w.isPrefixOf (s ++ [c]) = w.isPrefixOf s := by
  rw [Bool.eq_iff_iff, List.isPrefixOf_iff_prefix, List.isPrefixOf_iff_prefix,
    List.prefix_concat_iff, or_iff_right]
  rintro rfl
  exact hc (List.mem_append_right s (List.mem_singleton_self c))

theorem Text.drop_concat {w s : Text} (h : w.isPrefixOf s = true) (c : Char) :
    (s ++ [c]).drop w.length = s.drop w.length ++ [c] :=
  List.drop_append_of_le_length (List.isPrefixOf_iff_prefix.1 h).length_le

theorem Text.isSuffixOf_eq_false_iff {w s : Text} : w.isSuffixOf s = false ↔ ¬ w <:+ s := by
  rw [Bool.eq_false_iff, ne_eq, List.isSuffixOf_iff_suffix]

theorem Text.isSuffixOf_concat {w : Text} {c : Char} (hne : w ≠ []) (hc : c ∉ w) (s : Text) :
    w.isSuffixOf (s ++ [c]) = false := by
  rw [Text.isSuffixOf_eq_false_iff]
  intro hsuffix
  rcases List.suffix_concat_iff.1 hsuffix with rfl | ⟨t, rfl, -⟩
  · exact hne rfl
  · exact hc (List.mem_append_right t (List.mem_singleton_self c))

theorem endsWord_concat {c : Char} (hc : isWord c = false) (s : Text) :
    endsWord (s ++ [c]) = endsWord s := by
  cases s with
  | nil => simp [endsWord, hc]
  | cons x s => rfl

namespace Line

/-! ## The steps of the test -/

theorem opensBlock_of_skipModifier?_eq_some {s rest : Text} (h : skipModifier? s = some rest) :
    opensBlock s = (startsWithBlockKeyword s || opensBlock rest) := by
  rw [opensBlock]
  split
  · next rest' h' =>
    rw [h, Option.some.injEq] at h'
    rw [h']
  · next h' =>
    rw [h] at h'
    exact absurd h' (by simp)

theorem opensBlock_of_skipModifier?_eq_none {s : Text} (h : skipModifier? s = none) :
    opensBlock s = startsWithBlockKeyword s := by
  rw [opensBlock]
  split
  · next rest' h' =>
    rw [h] at h'
    exact absurd h' (by simp)
  · rw [Bool.or_false]

/-! ## Block openings and the end of the line -/

section Concat

variable {c : Char} (hword : isWord c = false) (hblank : isBlank c = false)

include hword

theorem not_mem_of_isWord {w : Text} (hw : w.all isWord = true) : c ∉ w := by
  intro hc
  rw [List.all_eq_true.1 hw c hc] at hword
  exact absurd hword (by decide)

theorem startsWithBlockKeyword_concat (s : Text) :
    startsWithBlockKeyword (s ++ [c]) = startsWithBlockKeyword s := by
  have hwords : ∀ k ∈ blockKeywords, k.all isWord = true := by decide
  rw [startsWithBlockKeyword, startsWithBlockKeyword, Bool.eq_iff_iff, List.any_eq_true,
    List.any_eq_true]
  refine exists_congr fun k => and_congr_right fun hk => ?_
  rw [Text.isPrefixOf_concat (not_mem_of_isWord hword (hwords k hk))]
  by_cases hstart : k.isPrefixOf s = true
  · rw [Text.drop_concat hstart, endsWord_concat hword]
  · simp [hstart]

include hblank

theorem startsWithModifier_concat {m : Text} (hm : m.all isWord = true) (s : Text) :
    startsWithModifier (s ++ [c]) m = startsWithModifier s m := by
  rw [startsWithModifier, startsWithModifier, Text.isPrefixOf_concat (not_mem_of_isWord hword hm)]
  by_cases hstart : m.isPrefixOf s = true
  · rw [Text.drop_concat hstart]
    cases s.drop m.length with
    | nil => simp [hblank]
    | cons x rest => rfl
  · simp [hstart]

theorem skipModifier?_concat (s : Text) :
    skipModifier? (s ++ [c]) = (skipModifier? s).map fun rest => rest ++ [c] := by
  have hwords : ∀ m ∈ modifiers, m.all isWord = true := by decide
  have hfind : modifiers.find? (startsWithModifier (s ++ [c]))
      = modifiers.find? (startsWithModifier s) :=
    List.find?_congr fun m hm => startsWithModifier_concat hword hblank (hwords m hm) s
  rw [skipModifier?, skipModifier?, hfind, Option.map_map]
  refine Option.map_congr fun m hm => ?_
  have hstart := List.find?_some hm
  rw [startsWithModifier, Bool.and_eq_true] at hstart
  rw [Function.comp, Text.drop_concat hstart.1, Text.trimStart_concat hblank]

/-- A character at the end that is neither blank nor part of a word does not matter. The induction
follows the modifiers that are skipped. -/
theorem opensBlock_concat (s : Text) : opensBlock (s ++ [c]) = opensBlock s := by
  induction s using opensBlock.induct with
  | case1 s ih =>
    cases hskip : skipModifier? s with
    | none =>
      have hskip' : skipModifier? (s ++ [c]) = none := by
        rw [skipModifier?_concat hword hblank, hskip, Option.map_none]
      rw [opensBlock_of_skipModifier?_eq_none hskip, opensBlock_of_skipModifier?_eq_none hskip',
        startsWithBlockKeyword_concat hword]
    | some rest =>
      have hskip' : skipModifier? (s ++ [c]) = some (rest ++ [c]) := by
        rw [skipModifier?_concat hword hblank, hskip, Option.map_some]
      rw [opensBlock_of_skipModifier?_eq_some hskip, opensBlock_of_skipModifier?_eq_some hskip',
        startsWithBlockKeyword_concat hword, ih rest hskip]

end Concat

end Line

end SnippetReview
