import SnippetReview.Proofs.Text.Lines
import SnippetReview.Proofs.Text.Trimming
import SnippetReview.Text.Word

/-!
# Two ways to end a line

A text may end its lines with a newline alone or with a carriage return before it. `crlf` turns the
first form into the second. Its lines are then the old ones, all but the last with a carriage return
at the end (`lines_crlf`), so the two forms differ only at the ends of their lines
(`sameUpToLineEnds_crlf`).
-/

namespace SnippetReview

namespace Text

/-- The text with a carriage return put before every newline. -/
def crlf (s : Text) : Text := s.flatMap fun c => if c = '\n' then ['\r', '\n'] else [c]

/-- Puts a carriage return at the end of all lines but the last. -/
def withReturns : List Text → List Text
  | [] => []
  | [l] => [l]
  | l :: m :: ls => (l ++ ['\r']) :: withReturns (m :: ls)

@[simp] theorem crlf_nil : crlf [] = [] := rfl

@[simp] theorem crlf_newline (s : Text) : crlf ('\n' :: s) = '\r' :: '\n' :: crlf s := rfl

theorem crlf_cons {c : Char} (h : c ≠ '\n') (s : Text) : crlf (c :: s) = c :: crlf s := by
  rw [crlf, List.flatMap_cons, if_neg h]
  rfl

theorem crlf_append (s t : Text) : crlf (s ++ t) = crlf s ++ crlf t := List.flatMap_append

theorem crlf_eq_self {s : Text} (h : '\n' ∉ s) : crlf s = s := by
  induction s with
  | nil => rfl
  | cons c s ih =>
    rw [List.mem_cons, not_or] at h
    rw [crlf_cons (Ne.symm h.1), ih h.2]

/-- Every newline makes the text longer by one. -/
theorem length_crlf (s : Text) : (crlf s).length = s.length + s.count '\n' := by
  induction s with
  | nil => rfl
  | cons c s ih =>
    by_cases h : c = '\n'
    · subst h
      rw [crlf_newline, List.length_cons, List.length_cons, ih, List.length_cons,
        List.count_cons_self]
      omega
    · rw [crlf_cons h, List.length_cons, ih, List.length_cons, List.count_cons_of_ne h]
      omega

/-! ## Lines -/

theorem withReturns_ne_nil {ls : List Text} (h : ls ≠ []) : withReturns ls ≠ [] := by
  cases ls with
  | nil => exact absurd rfl h
  | cons l ls => cases ls <;> exact List.cons_ne_nil _ _

theorem exists_of_mem_withReturns {ls : List Text} {m : Text} (h : m ∈ withReturns ls) :
    ∃ l ∈ ls, m = l ∨ m = l ++ ['\r'] := by
  induction ls with
  | nil => exact absurd h List.not_mem_nil
  | cons l ls ih =>
    cases ls with
    | nil => exact ⟨l, List.mem_cons_self, Or.inl (List.mem_singleton.1 h)⟩
    | cons n ls =>
      rcases List.mem_cons.1 h with h | h
      · exact ⟨l, List.mem_cons_self, Or.inr h⟩
      · obtain ⟨k, hk, hm⟩ := ih h
        exact ⟨k, List.mem_cons_of_mem _ hk, hm⟩

theorem withReturns_map {f : Text → Text} {ls : List Text}
    (h : ∀ l ∈ ls, f (l ++ ['\r']) = f l ++ ['\r']) :
    (withReturns ls).map f = withReturns (ls.map f) := by
  induction ls with
  | nil => rfl
  | cons l ls ih =>
    cases ls with
    | nil => rfl
    | cons m ls =>
      rw [List.forall_mem_cons] at h
      rw [withReturns, List.map_cons, h.1, ih h.2]
      rfl

theorem forall₂_withReturns {R : Text → Text → Prop} (hrefl : ∀ l, R l l)
    (hreturn : ∀ l, R l (l ++ ['\r'])) (ls : List Text) : List.Forall₂ R ls (withReturns ls) := by
  induction ls with
  | nil => exact List.Forall₂.nil
  | cons l ls ih =>
    cases ls with
    | nil => exact List.Forall₂.cons (hrefl l) List.Forall₂.nil
    | cons m ls => exact List.Forall₂.cons (hreturn l) ih

theorem crlf_unlines {ls : List Text} (h : ∀ l ∈ ls, '\n' ∉ l) :
    crlf (unlines ls) = unlines (withReturns ls) := by
  induction ls with
  | nil => rfl
  | cons l ls ih =>
    rw [List.forall_mem_cons] at h
    cases ls with
    | nil => rw [unlines_singleton, withReturns, unlines_singleton, crlf_eq_self h.1]
    | cons m ls =>
      obtain ⟨n, ns, hns⟩ :=
        List.exists_cons_of_ne_nil (withReturns_ne_nil (List.cons_ne_nil m ls))
      rw [unlines_cons_cons, crlf_append, crlf_eq_self h.1, crlf_newline, ih h.2, withReturns, hns,
        unlines_cons_cons, List.append_assoc]
      rfl

theorem lines_crlf (s : Text) : lines (crlf s) = withReturns (lines s) := by
  have hnewline : ∀ l ∈ lines s, '\n' ∉ l := fun l hl => newline_not_mem_of_mem_lines hl
  conv_lhs => rw [← unlines_lines s, crlf_unlines hnewline]
  refine lines_unlines (withReturns_ne_nil (lines_ne_nil s)) fun m hm => ?_
  obtain ⟨l, hl, rfl | rfl⟩ := exists_of_mem_withReturns hm
  · exact hnewline m hl
  · rw [List.mem_append, not_or]
    exact ⟨hnewline l hl, by decide⟩

/-- The two forms of a text differ only at the ends of their lines. -/
theorem sameUpToLineEnds_crlf (s : Text) : SameUpToLineEnds (· == '\r') s (crlf s) := by
  rw [SameUpToLineEnds, lines_crlf]
  have hreturn : ∀ l : Text, SameUpToEnd (· == '\r') l (l ++ ['\r']) :=
    sameUpToEnd_append (List.forall_mem_singleton.2 rfl)
  refine forall₂_withReturns (fun l => ?_) hreturn _
  rfl

/-! ## Beginnings of texts -/

theorem isPrefixOf_crlf {w : Text} (hreturn : '\r' ∉ w) (hnewline : '\n' ∉ w) (s : Text) :
    w.isPrefixOf (crlf s) = w.isPrefixOf s := by
  induction w generalizing s with
  | nil => rw [List.isPrefixOf_nil_left, List.isPrefixOf_nil_left]
  | cons x w ih =>
    rw [List.mem_cons, not_or] at hreturn hnewline
    cases s with
    | nil => rfl
    | cons c s =>
      by_cases hc : c = '\n'
      · subst hc
        rw [crlf_newline, List.isPrefixOf_cons_cons, List.isPrefixOf_cons_cons,
          beq_false_of_ne (Ne.symm hreturn.1), beq_false_of_ne (Ne.symm hnewline.1)]
        rfl
      · rw [crlf_cons hc, List.isPrefixOf_cons_cons, List.isPrefixOf_cons_cons,
          ih hreturn.2 hnewline.2]

theorem drop_crlf {w s : Text} (hnewline : '\n' ∉ w) (h : w.isPrefixOf s = true) :
    (crlf s).drop w.length = crlf (s.drop w.length) := by
  obtain ⟨t, rfl⟩ := List.isPrefixOf_iff_prefix.1 h
  rw [crlf_append, crlf_eq_self hnewline, List.drop_left, List.drop_left]

theorem trimStart_crlf (s : Text) : trimStart (crlf s) = crlf (trimStart s) := by
  induction s with
  | nil => rfl
  | cons c s ih =>
    by_cases hc : c = '\n'
    · subst hc
      exact ih
    · rw [crlf_cons hc]
      by_cases hblank : isBlank c = true
      · rw [trimStart, List.dropWhile_cons_of_pos hblank, trimStart,
          List.dropWhile_cons_of_pos hblank]
        exact ih
      · rw [trimStart, List.dropWhile_cons_of_neg hblank, trimStart,
          List.dropWhile_cons_of_neg hblank, crlf_cons hc]

theorem endsWord_crlf (s : Text) : endsWord (crlf s) = endsWord s := by
  cases s with
  | nil => rfl
  | cons c s =>
    by_cases hc : c = '\n'
    · subst hc
      show (!isWord '\r') = !isWord '\n'
      decide
    · rw [crlf_cons hc]
      rfl

end Text

end SnippetReview
