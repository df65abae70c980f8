import SnippetReview.Text.Split

/-!
# Searching a text for a mark

`after?` gives what follows the first occurrence of a mark. In a text that is put together from
parts, the search passes over a part in which no occurrence begins, whatever follows it
(`after?_append_of_isFreeOf`), and stays in a part that holds an occurrence
(`after?_append_of_some`). A mark that cannot begin in what stands before it cuts a sequence there
(`breakAt?_append`).
-/

namespace SnippetReview

namespace Text

/-- What follows the first occurrence of a mark. -/
def after? (mark : Text) : Text → Option Text
  | [] => none
  | c :: cs =>
    if mark.isPrefixOf (c :: cs) then some ((c :: cs).drop mark.length) else after? mark cs

/-- Whether neither of two texts begins with the other. -/
def apart (s t : Text) : Bool := !s.isPrefixOf t && !t.isPrefixOf s

/-- Whether no occurrence of a mark begins in a text, whatever may follow the text. -/
def isFreeOf (mark : Text) : Text → Bool
  | [] => true
  | c :: cs => apart mark (c :: cs) && isFreeOf mark cs

variable {mark s t u : Text}

theorem apart_eq_true_iff : apart s t = true ↔ ¬ s <+: t ∧ ¬ t <+: s := by
  rw [apart, Bool.and_eq_true, Bool.not_eq_true', Bool.not_eq_true', Bool.eq_false_iff,
    Bool.eq_false_iff, ne_eq, ne_eq, List.isPrefixOf_iff_prefix, List.isPrefixOf_iff_prefix]

theorem apart_append (h : apart s t = true) (u : Text) : apart s (t ++ u) = true := by
  rw [apart_eq_true_iff] at h ⊢
  constructor
  · intro hbegin
    rcases List.prefix_or_prefix_of_prefix hbegin (List.prefix_append t u) with hst | hts
    · exact h.1 hst
    · exact h.2 hts
  · intro hbegin
    exact h.2 ((List.prefix_append t u).trans hbegin)

theorem isPrefixOf_of_apart (h : apart s t = true) : s.isPrefixOf t = false := by
  rw [Bool.eq_false_iff, ne_eq, List.isPrefixOf_iff_prefix]
  exact (apart_eq_true_iff.1 h).1

theorem isFreeOf_append (hs : isFreeOf mark s = true) (ht : isFreeOf mark t = true) :
    isFreeOf mark (s ++ t) = true := by
  induction s with
  | nil => exact ht
  | cons c s ih =>
    rw [isFreeOf, Bool.and_eq_true] at hs
    rw [List.cons_append, isFreeOf, Bool.and_eq_true]
    exact ⟨apart_append hs.1 t, ih hs.2⟩

/-- A text without the first character of a mark is free of the mark. -/
theorem isFreeOf_of_not_mem {x : Char} (h : x ∉ s) (mark : Text) :
    isFreeOf (x :: mark) s = true := by
  induction s with
  | nil => rfl
  | cons c s ih =>
    rw [List.mem_cons, not_or] at h
    have hapart : apart (x :: mark) (c :: s) = true := by
      rw [apart, List.isPrefixOf_cons_cons, List.isPrefixOf_cons_cons, beq_false_of_ne h.1,
        beq_false_of_ne (Ne.symm h.1)]
      rfl
    rw [isFreeOf, hapart, ih h.2]
    rfl

/-- The search passes over a text in which no occurrence begins. -/
theorem after?_append_of_isFreeOf (h : isFreeOf mark s = true) (t : Text) :
    after? mark (s ++ t) = after? mark t := by
  induction s with
  | nil => rfl
  | cons c s ih =>
    rw [isFreeOf, Bool.and_eq_true] at h
    have hnot : mark.isPrefixOf (c :: (s ++ t)) = false :=
      isPrefixOf_of_apart (apart_append h.1 t)
    rw [List.cons_append, after?, if_neg (Bool.eq_false_iff.1 hnot), ih h.2]

theorem length_le_of_after?_eq_some (h : after? mark s = some u) : mark.length ≤ s.length := by
  induction s with
  | nil => exact absurd h (by simp [after?])
  | cons c s ih =>
    rw [after?] at h
    split at h
    · next hbegin => exact (List.isPrefixOf_iff_prefix.1 hbegin).length_le
    · exact Nat.le_succ_of_le (ih h)

/-- An occurrence that a text holds is found first, whatever follows the text: one that begins
before it would end before it too. -/
theorem after?_append_of_some (h : after? mark s = some u) (t : Text) :
    after? mark (s ++ t) = some (u ++ t) := by
  induction s with
  | nil => exact absurd h (by simp [after?])
  | cons c s ih =>
    have happend : c :: s <+: c :: (s ++ t) := List.prefix_append (c :: s) t
    rw [List.cons_append]
    rw [after?] at h ⊢
    split at h
    · next hbegin =>
      rw [List.isPrefixOf_iff_prefix] at hbegin
      rw [if_pos (List.isPrefixOf_iff_prefix.2 (hbegin.trans happend)), ← Option.some.inj h,
        ← List.cons_append, List.drop_append_of_le_length hbegin.length_le]
    · next hbegin =>
      rw [List.isPrefixOf_iff_prefix] at hbegin
      rw [if_neg, ih h]
      rw [List.isPrefixOf_iff_prefix]
      intro hlater
      have hlength : mark.length ≤ (c :: s).length :=
        Nat.le_succ_of_le (length_le_of_after?_eq_some h)
      exact hbegin (List.prefix_of_prefix_length_le hlater happend hlength)

/-- A sequence is cut at the first occurrence of a mark if the mark begins with an element that does
not stand before it. -/
theorem breakAt?_append {α : Type} [DecidableEq α] {x : α} {s : List α} (h : x ∉ s)
    (mark t : List α) : breakAt? (x :: mark) (s ++ (x :: mark ++ t)) = some (s, t) := by
  suffices hfrom : ∀ before : List α,
      breakAtFrom (x :: mark) before (s ++ (x :: mark ++ t)) = some (before.reverse ++ s, t) from
    hfrom []
  induction s with
  | nil =>
    intro before
    have hbegin : (x :: mark).isPrefixOf (x :: (mark ++ t)) = true :=
      List.isPrefixOf_iff_prefix.2 (List.prefix_append (x :: mark) t)
    rw [List.nil_append, List.cons_append, breakAtFrom, if_pos hbegin, ← List.cons_append,
      List.drop_left, List.append_nil]
  | cons c s ih =>
    intro before
    rw [List.mem_cons, not_or] at h
    have hnot : (x :: mark).isPrefixOf (c :: (s ++ (x :: mark ++ t))) = false := by
      rw [List.isPrefixOf_cons_cons, beq_false_of_ne h.1, Bool.false_and]
    rw [List.cons_append, breakAtFrom, if_neg (Bool.eq_false_iff.1 hnot), ih h.2,
      List.reverse_cons, List.append_assoc, List.singleton_append]

/-! ## Texts in a frame -/

/-- What stands between a beginning and an end of a text. -/
def inside? (before after s : Text) : Option Text :=
  if before.isPrefixOf s && after.isSuffixOf (s.drop before.length) then
    some ((s.drop before.length).take (s.length - before.length - after.length))
  else none

theorem inside?_append (before after s : Text) :
    inside? before after (before ++ s ++ after) = some s := by
  have hrest : (before ++ s ++ after).drop before.length = s ++ after := by
    rw [List.append_assoc, List.drop_left]
  have hlength : (before ++ s ++ after).length - before.length - after.length = s.length := by
    rw [List.length_append, List.length_append]
    omega
  have hbefore : before.isPrefixOf (before ++ s ++ after) = true := by
    rw [List.append_assoc]
    exact List.isPrefixOf_iff_prefix.2 (List.prefix_append _ _)
  have hafter : after.isSuffixOf (s ++ after) = true :=
    List.isSuffixOf_iff_suffix.2 (List.suffix_append _ _)
  rw [inside?, hrest, hlength, hbefore, hafter, List.take_left]
  rfl

end Text

end SnippetReview
