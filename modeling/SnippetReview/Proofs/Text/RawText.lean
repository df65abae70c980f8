import Mathlib.Data.List.Basic
import Mathlib.Tactic.SplitIfs
import SnippetReview.Proofs.Text.Utf8
import SnippetReview.Text.RawText

/-!
# Lone surrogates

A text has its code points, none of which is a surrogate (`RawText.toText?_of`). Surrogates that
are put back into a text all stand in it, if there is a place for each
(`RawText.hasSurrogate_restore`); and where there are none, the text stays as it is
(`RawText.restore_eq_of`). A text has a form in UTF-8 exactly if there is no lone surrogate in it
(`RawText.encodeError?_eq_none_iff`).
-/

namespace SnippetReview

namespace RawText

/-! ## Texts -/

@[simp] theorem of_nil : of [] = [] := rfl

@[simp] theorem of_cons (c : Char) (s : Text) : of (c :: s) = .char c :: of s := rfl

@[simp] theorem of_append (s t : Text) : of (s ++ t) = of s ++ of t := List.map_append

@[simp] theorem legible_of (s : Text) : (of s).legible = s := by
  rw [legible, of, List.map_map]
  exact List.map_id _

@[simp] theorem hasSurrogate_of (s : Text) : (of s).hasSurrogate = false := by
  simp [hasSurrogate, of, CodePoint.isSurrogate]

@[simp] theorem length_of (s : Text) : (of s).length = s.length := List.length_map _

theorem length_legible (p : RawText) : p.legible.length = p.length := List.length_map _

theorem toText?_of (s : Text) : (of s).toText? = some s := by
  rw [toText?]
  induction s with
  | nil => rfl
  | cons c s ih => simp [CodePoint.char?, ih]

/-- Code points without a surrogate are a text. -/
theorem eq_of_legible {p : RawText} (h : p.hasSurrogate = false) : p = of p.legible := by
  induction p with
  | nil => rfl
  | cons q p ih =>
    rw [hasSurrogate, List.any_cons, Bool.or_eq_false_iff] at h
    cases q with
    | char c => exact congrArg _ (ih h.2)
    | surrogate u => cases h.1

theorem toText?_eq_none {p : RawText} (h : p.hasSurrogate = true) : p.toText? = none := by
  rw [toText?]
  induction p with
  | nil => cases h
  | cons q p ih =>
    cases q with
    | surrogate u => rfl
    | char c =>
      rw [hasSurrogate, List.any_cons, CodePoint.isSurrogate, Bool.false_or] at h
      simp [CodePoint.char?, ih h]

@[simp] theorem hasSurrogate_nil : hasSurrogate [] = false := rfl

@[simp] theorem hasSurrogate_append (p q : RawText) :
    hasSurrogate (p ++ q) = (p.hasSurrogate || q.hasSurrogate) := List.any_append

@[simp] theorem hasSurrogate_cons (q : CodePoint) (p : RawText) :
    hasSurrogate (q :: p) = (q.isSurrogate || p.hasSurrogate) := List.any_cons

/-! ## Putting surrogates back -/

theorem legible_of_mem_marks {p : RawText} {m : CodePoint} (h : m ∈ p.marks) :
    m.legible = Utf8.replacement := by
  rw [marks, List.mem_filter] at h
  exact eq_of_beq h.2

theorem length_marks (p : RawText) : p.marks.length = p.legible.count Utf8.replacement := by
  rw [marks, legible, List.count_eq_countP, List.countP_map, List.countP_eq_length_filter]
  rfl

theorem hasSurrogate_marks (p : RawText) : p.marks.hasSurrogate = p.hasSurrogate := by
  rw [Bool.eq_iff_iff, hasSurrogate, hasSurrogate, List.any_eq_true, List.any_eq_true]
  refine exists_congr fun q => ?_
  rw [marks, List.mem_filter, and_assoc]
  cases q with
  | char c => simp [CodePoint.isSurrogate]
  | surrogate u => simp [CodePoint.isSurrogate, CodePoint.legible]

theorem restoreFrom_of_forall {marks : RawText} (h : ∀ m ∈ marks, m = .char Utf8.replacement)
    (done : RawText) (s : Text) : restoreFrom done marks s = done.reverse ++ of s := by
  induction s generalizing done marks with
  | nil => rw [restoreFrom, of_nil, List.append_nil]
  | cons c s ih =>
    cases marks with
    | nil => simp [restoreFrom, ih]
    | cons m marks =>
      obtain ⟨rfl, hmarks⟩ := List.forall_mem_cons.1 h
      rw [restoreFrom]
      split_ifs with hc
      · simp [ih hmarks, hc]
      · simp [ih h]

/-- Where no surrogates are put back, a text stays as it is. -/
theorem restore_eq_of {marks : RawText} (hmarks : ∀ m ∈ marks, m.legible = Utf8.replacement)
    (h : marks.hasSurrogate = false) (s : Text) : restore marks s = of s := by
  refine restoreFrom_of_forall (fun m hm => ?_) [] s
  have hm' := hmarks m hm
  cases m with
  | char c => exact congrArg _ hm'
  | surrogate u =>
    have hfalse := List.any_eq_false.1 h _ hm
    cases hfalse rfl

theorem hasSurrogate_restoreFrom {marks : RawText} {s : Text}
    (h : s.count Utf8.replacement = marks.length) (done : RawText) :
    (restoreFrom done marks s).hasSurrogate = (done.hasSurrogate || marks.hasSurrogate) := by
  -- every place in the text takes one mark, so none are left where the text ends
  induction s generalizing done marks with
  | nil =>
    rw [List.count_nil] at h
    rw [List.eq_nil_of_length_eq_zero h.symm, restoreFrom]
    simp [hasSurrogate]
  | cons c s ih =>
    rw [List.count_cons] at h
    cases marks with
    | nil =>
      have hs : s.count Utf8.replacement = ([] : RawText).length :=
        Nat.eq_zero_of_add_eq_zero_right h
      rw [restoreFrom, ih hs]
      simp [CodePoint.isSurrogate]
    | cons m marks =>
      rw [restoreFrom]
      split_ifs with hc
      · rw [hc, beq_self_eq_true, if_pos rfl, List.length_cons, Nat.add_right_cancel_iff] at h
        rw [ih h]
        simp [Bool.or_left_comm, Bool.or_assoc]
      · rw [if_neg (by simpa using hc), Nat.add_zero] at h
        rw [ih h]
        simp [CodePoint.isSurrogate]

/-- All surrogates are put back into a text that has a place for each. -/
theorem hasSurrogate_restore {p : RawText} {s : Text}
    (h : s.count Utf8.replacement = p.legible.count Utf8.replacement) :
    (restore p.marks s).hasSurrogate = p.hasSurrogate := by
  rw [← length_marks] at h
  rw [restore, hasSurrogate_restoreFrom h, hasSurrogate_marks]
  rfl

/-! ## Encoding -/

/-- A text has a form in UTF-8 exactly if no lone surrogate stands in it. -/
theorem encodeError?_eq_none_iff {p : RawText} :
    p.encodeError? = none ↔ p.hasSurrogate = false := by
  rw [encodeError?]
  induction p with
  | nil => exact iff_of_true rfl rfl
  | cons q p ih =>
    cases q with
    | surrogate u => simp [CodePoint.isSurrogate]
    | char c =>
      rw [hasSurrogate_cons, CodePoint.isSurrogate, Bool.false_or, ← ih]
      simp only [List.dropWhile_cons, CodePoint.isSurrogate, Bool.not_false, if_true]
      split <;> simp

end RawText

/-- Bytes that are the form of a text are read as that text where surrogates may pass. -/
theorem Utf8.decodePassing?_encode (s : Text) :
    decodePassing? (encode s) = some (RawText.of s) := by
  rw [decodePassing?, decode?_encode]

end SnippetReview
