import SnippetReview.Proofs.Finding.Message

/-!
# Balanced text put into a text

A pass over balanced text leaves everything as it was but the position (`Scan.foldl_of_balanced`),
whatever openers wait at that point. So balanced text may be put into a text anywhere, also amid
brackets that do not match: the same is found, and only the closers after it stand further on
(`check_insert`).

The brackets of the longer text are those of the shorter one at other positions, but for the
brackets of what has been put in (`placedFrom_append`, `placedFrom_add`); these leave no trace
(`Tally.foldl_of_balanced`).
-/

namespace SnippetReview

namespace Bracket

/-! ## Brackets of a text that is put together -/

theorem placedFrom_append (start : Nat) (s t : Text) :
    placedFrom start (s ++ t) = placedFrom start s ++ placedFrom (start + s.length) t := by
  induction s generalizing start with
  | nil => rfl
  | cons c s ih =>
    have hstart : start + 1 + s.length = start + (c :: s).length := by
      rw [List.length_cons]
      omega
    rw [List.cons_append, placedFrom, placedFrom, ih, hstart, List.append_assoc]

theorem placedFrom_add (start k : Nat) (s : Text) :
    placedFrom (start + k) s = move (fun p => p + k) (placedFrom start s) := by
  induction s generalizing start with
  | nil => rfl
  | cons c s ih =>
    have hnext : start + k + 1 = start + 1 + k := by omega
    cases hc : ofChar? c with
    | none => rw [placedFrom_cons_of_none hc, placedFrom_cons_of_none hc, hnext, ih]
    | some b =>
      rw [placedFrom_cons_of_some hc, placedFrom_cons_of_some hc, hnext, ih]
      rfl

theorem lt_of_mem_placedFrom {start : Nat} {s : Text} {m : Bracket × Nat}
    (h : m ∈ placedFrom start s) : m.2 < start + s.length := by
  induction s generalizing start with
  | nil => exact absurd h List.not_mem_nil
  | cons c s ih =>
    rw [placedFrom, List.mem_append, Option.mem_toList, Option.map_eq_some_iff] at h
    rw [List.length_cons]
    rcases h with ⟨b, -, rfl⟩ | h
    · exact Nat.lt_add_of_pos_right (Nat.succ_pos s.length)
    · have hlt := ih h
      omega

theorem move_congr {f g : Nat → Nat} {ms : List (Bracket × Nat)} (h : ∀ m ∈ ms, f m.2 = g m.2) :
    move f ms = move g ms := by
  apply List.map_congr_left
  intro m hm
  rw [h m hm]

/-- The brackets of balanced text leave no trace, whatever has been kept before them. -/
theorem Tally.foldl_of_balanced {w : Text} (h : Balanced w) (start : Nat) (t : Tally) :
    (placedFrom start w).foldl Tally.add t = t := by
  have hpass := Scan.tally_foldl ⟨start, t.waiting, t.unexpected⟩ w
  rw [Scan.foldl_of_balanced h] at hpass
  exact hpass.symm

/-! ## The findings -/

/-- A position of a text, as it is when `count` characters have been put in at a place before it. -/
def shiftFrom (place count position : Nat) : Nat :=
  if place ≤ position then position + count else position

/-- The brackets of a text with a gap of `count` positions in it. -/
theorem move_shiftFrom_placedFrom (a b : Text) (count : Nat) :
    move (shiftFrom a.length count) (placedFrom 0 (a ++ b))
      = placedFrom 0 a ++ placedFrom (a.length + count) b := by
  have hbefore : move (shiftFrom a.length count) (placedFrom 0 a) = placedFrom 0 a := by
    have hfix : move (shiftFrom a.length count) (placedFrom 0 a) = move id (placedFrom 0 a) := by
      apply move_congr
      intro m hm
      have hlt := lt_of_mem_placedFrom hm
      rw [shiftFrom, if_neg (by omega), id]
    rw [hfix]
    exact List.map_id _
  have hafter : move (shiftFrom a.length count) (placedFrom a.length b)
      = placedFrom (a.length + count) b := by
    rw [placedFrom_add]
    apply move_congr
    intro m hm
    rw [shiftFrom, if_pos (le_of_mem_placedFrom hm)]
  rw [placedFrom_append, Nat.zero_add, move, List.map_append, ← move, ← move, hbefore, hafter]

theorem check_insert_eq {w : Text} (h : Balanced w) (a b : Text) :
    check (a ++ w ++ b)
      = (check (a ++ b)).map (Finding.relocate (shiftFrom a.length w.length)) := by
  have hplaced : placedFrom 0 (a ++ w ++ b)
      = placedFrom 0 a ++ placedFrom a.length w ++ placedFrom (a.length + w.length) b := by
    rw [placedFrom_append, placedFrom_append, List.length_append, Nat.zero_add, Nat.zero_add]
  rw [check_eq_checkPlaced, check_eq_checkPlaced, ← checkPlaced_move, move_shiftFrom_placedFrom,
    hplaced, checkPlaced, checkPlaced, List.foldl_append, List.foldl_append, List.foldl_append,
    Tally.foldl_of_balanced h]

/-- What is found is the unexpected closers and then, if there are any, all unclosed openers. -/
theorem exists_check_eq (code : Text) : ∃ (ms : List (Shape × Nat)) (unclosed : List (List Shape)),
    check code = ms.map (fun m => Finding.unexpected m.1 m.2) ++ unclosed.map Finding.unclosed := by
  rw [check, Scan.findings]
  split_ifs
  · exact ⟨_, [], rfl⟩
  · exact ⟨_, [_], rfl⟩

/-- Text that has no finding of its own may be put in anywhere: the findings are the same, in the
same order, and told in the same words, except that every position from there on grows by its
length. -/
theorem check_insert {w : Text} (h : check w = []) (a b : Text) :
    check (a ++ w ++ b)
        = (check (a ++ b)).map
          (Finding.relocate fun p => if a.length ≤ p then p + w.length else p)
      ∧ ∃ (unexpected : List (Shape × Nat)) (unclosed : List Text),
        (check (a ++ b)).map Finding.message
          = unexpected.map (fun m => "Unexpected '".toList
              ++ m.1.closeChar :: "' at position ".toList ++ Numeral.digits m.2 ++ ".".toList)
            ++ unclosed
        ∧ (check (a ++ w ++ b)).map Finding.message
          = unexpected.map (fun m => "Unexpected '".toList
              ++ m.1.closeChar :: "' at position ".toList
              ++ Numeral.digits (if a.length ≤ m.2 then m.2 + w.length else m.2) ++ ".".toList)
            ++ unclosed := by
  have hfindings := check_insert_eq ((check_eq_nil_iff_balanced w).1 h) a b
  obtain ⟨ms, unclosed, hcheck⟩ := exists_check_eq (a ++ b)
  refine ⟨hfindings, ms, unclosed.map fun shapes => (Finding.unclosed shapes).message, ?_, ?_⟩
  · rw [hcheck, List.map_append, List.map_map, List.map_map]
    rfl
  · rw [hfindings, hcheck, List.map_append, List.map_append, List.map_map, List.map_map,
      List.map_map, List.map_map]
    rfl

/-- A pair of brackets put between two others that do not match. -/
theorem check_insert_pair :
    check "\x7bx\x7d".toList = []
      ∧ check "(]".toList = [.unexpected .square 1]
      ∧ check "(\x7bx\x7d]".toList = [.unexpected .square 4] := by
  have hbalanced : check "\x7bx\x7d".toList = [] := by decide
  have hmismatch : check "(]".toList = [.unexpected .square 1] := by decide
  have hinsert := (check_insert hbalanced "(".toList "]".toList).1
  refine ⟨hbalanced, hmismatch, hinsert.trans ?_⟩
  show (check "(]".toList).map _ = _
  rw [hmismatch]
  rfl

end Bracket

end SnippetReview
