import Mathlib.Data.List.DropRight
import Mathlib.Data.List.Forall2
import SnippetReview.Text.LowerCase
import SnippetReview.Text.Split

/-!
# Lines

Splitting and joining undo each other: a text is its lines put together again (`unlines_lines`),
and lines without newlines are the lines of what they are put together to (`lines_unlines`).

A word without a newline stands in a text exactly if it stands in one of its lines
(`occursIn_unlines`). So two texts that differ only in characters at the ends of their lines
(`SameUpToLineEnds`) mention the same words, as long as no word ends in one of those characters
(`occursIn_eq_of_sameUpToLineEnds`).
-/

namespace SnippetReview

/-! ## Pieces -/

/-- Two rows of pieces are joined by one separator more. -/
theorem joinPieces_append {α : Type} {sep : α} {ps qs : List (List α)} (hp : ps ≠ [])
    (hq : qs ≠ []) :
    joinPieces sep (ps ++ qs) = joinPieces sep ps ++ sep :: joinPieces sep qs := by
  simp only [joinPieces]
  induction ps with
  | nil => exact absurd rfl hp
  | cons p ps ih =>
    cases ps with
    | nil =>
      obtain ⟨q, qs, rfl⟩ := List.exists_cons_of_ne_nil hq
      simp
    | cons p' ps =>
      have ih := ih (List.cons_ne_nil p' ps)
      rw [List.cons_append] at ih
      rw [List.cons_append, List.cons_append, List.intercalate_cons_cons,
        List.intercalate_cons_cons, ih]
      simp only [List.append_assoc]

section Pieces

variable {α : Type} [DecidableEq α]

theorem pieces_eq_splitOn (sep : α) (s : List α) : pieces sep s = s.splitOn sep := by
  induction s with
  | nil => rfl
  | cons x s ih =>
    rw [pieces_cons, ih, List.splitOn_cons_eq_if_modifyHead]
    obtain ⟨p, ps, hps⟩ := List.exists_cons_of_ne_nil (List.splitOn_ne_nil sep s)
    rw [hps]
    by_cases hx : x = sep <;> simp [addToPieces, hx]

theorem joinPieces_pieces (sep : α) (s : List α) : joinPieces sep (pieces sep s) = s := by
  rw [pieces_eq_splitOn, joinPieces, List.intercalate_splitOn]

theorem pieces_joinPieces {sep : α} {ps : List (List α)} (hne : ps ≠ [])
    (h : ∀ p ∈ ps, sep ∉ p) : pieces sep (joinPieces sep ps) = ps := by
  rw [pieces_eq_splitOn, joinPieces, List.splitOn_intercalate sep h hne]

theorem pieces_append_sep (sep : α) (s t : List α) :
    pieces sep (s ++ sep :: t) = pieces sep s ++ pieces sep t := by
  simp only [pieces_eq_splitOn, List.splitOn_append_cons_self]

/-- The pieces joined again, without the separators. -/
theorem filter_joinPieces {sep : α} {ps : List (List α)} (h : ∀ p ∈ ps, sep ∉ p) :
    (joinPieces sep ps).filter (· != sep) = ps.flatten := by
  have hpiece : ∀ p ∈ ps, p.filter (· != sep) = p := by
    intro p hp
    rw [List.filter_eq_self]
    intro x hx
    rw [bne_iff_ne]
    rintro rfl
    exact h p hp hx
  induction ps with
  | nil => rfl
  | cons p ps ih =>
    rw [List.forall_mem_cons] at h hpiece
    cases ps with
    | nil => simp [joinPieces, hpiece.1]
    | cons q qs =>
      have happend : joinPieces sep (p :: q :: qs)
          = joinPieces sep [p] ++ sep :: joinPieces sep (q :: qs) :=
        joinPieces_append (List.cons_ne_nil p []) (List.cons_ne_nil q qs)
      rw [happend, List.filter_append, List.filter_cons_of_neg (by simp), ih h.2 hpiece.2,
        joinPieces, List.intercalate_singleton, hpiece.1]
      simp only [List.flatten_cons]

/-- There is one piece more than there are separators. -/
theorem length_pieces (sep : α) (s : List α) : (pieces sep s).length = s.count sep + 1 := by
  induction s with
  | nil => rfl
  | cons x s ih =>
    rw [pieces_cons]
    obtain ⟨p, ps, hps⟩ := List.exists_cons_of_ne_nil (pieces_ne_nil sep s)
    rw [hps] at ih ⊢
    by_cases hx : x = sep
    · simp [addToPieces, hx, ← ih]
    · simp [addToPieces, hx, ← ih]

theorem pieces_of_not_mem {sep : α} {s : List α} (h : sep ∉ s) : pieces sep s = [s] := by
  rw [pieces_eq_splitOn, List.splitOn_eq_singleton h]

/-- What stands before the first separator stands at the beginning of the first piece. -/
theorem exists_pieces_append {sep : α} {s : List α} (h : sep ∉ s) (t : List α) :
    ∃ p ps, pieces sep (s ++ t) = (s ++ p) :: ps := by
  induction s with
  | nil => exact List.exists_cons_of_ne_nil (pieces_ne_nil sep t)
  | cons x s ih =>
    rw [List.mem_cons, not_or] at h
    obtain ⟨p, ps, hps⟩ := ih h.2
    refine ⟨p, ps, ?_⟩
    rw [List.cons_append, pieces_cons, hps, addToPieces, if_neg (Ne.symm h.1)]
    rfl

theorem not_mem_of_mem_pieces {sep : α} {s p : List α} (h : p ∈ pieces sep s) : sep ∉ p := by
  induction s generalizing p with
  | nil =>
    rw [pieces_nil, List.mem_singleton] at h
    rw [h]
    exact List.not_mem_nil
  | cons x s ih =>
    rw [pieces_cons] at h
    obtain ⟨q, qs, hqs⟩ := List.exists_cons_of_ne_nil (pieces_ne_nil sep s)
    rw [hqs] at h ih
    by_cases hx : x = sep
    · rw [addToPieces, if_pos hx] at h
      rcases List.mem_cons.1 h with rfl | h
      · exact List.not_mem_nil
      · exact ih h
    · rw [addToPieces, if_neg hx] at h
      rcases List.mem_cons.1 h with rfl | h
      · rw [List.mem_cons, not_or]
        exact ⟨Ne.symm hx, ih List.mem_cons_self⟩
      · exact ih (List.mem_cons_of_mem _ h)

end Pieces

namespace Text

/-! ## Splitting into lines and joining them -/

theorem unlines_lines (s : Text) : unlines (lines s) = s := joinPieces_pieces '\n' s

theorem lines_unlines {ls : List Text} (hne : ls ≠ []) (h : ∀ l ∈ ls, '\n' ∉ l) :
    lines (unlines ls) = ls :=
  pieces_joinPieces hne h

theorem lines_ne_nil (s : Text) : lines s ≠ [] := pieces_ne_nil '\n' s

theorem newline_not_mem_of_mem_lines {s l : Text} (h : l ∈ lines s) : '\n' ∉ l :=
  not_mem_of_mem_pieces h

@[simp] theorem unlines_nil : unlines [] = [] := rfl

@[simp] theorem unlines_singleton (l : Text) : unlines [l] = l := by
  rw [unlines, joinPieces, List.intercalate_singleton]

@[simp] theorem unlines_cons_cons (l l' : Text) (ls : List Text) :
    unlines (l :: l' :: ls) = l ++ '\n' :: unlines (l' :: ls) := by
  simp [unlines, joinPieces]

theorem unlines_append {ls ms : List Text} (hl : ls ≠ []) (hm : ms ≠ []) :
    unlines (ls ++ ms) = unlines ls ++ '\n' :: unlines ms :=
  joinPieces_append hl hm

theorem lines_append_newline (s t : Text) : lines (s ++ '\n' :: t) = lines s ++ lines t :=
  pieces_append_sep '\n' s t

theorem length_lines (s : Text) : (lines s).length = s.count '\n' + 1 := length_pieces '\n' s

/-- A character other than the newline stands in a text as often as in its lines. -/
theorem count_flatten_lines {x : Char} (hx : x ≠ '\n') (s : Text) :
    (lines s).flatten.count x = s.count x := by
  have hflat : (unlines (lines s)).filter (· != '\n') = (lines s).flatten :=
    filter_joinPieces fun _ => newline_not_mem_of_mem_lines
  rw [← hflat, List.count_filter (by simpa using hx), unlines_lines]

theorem mem_unlines_of_mem {ls : List Text} {l : Text} {c : Char} (hl : l ∈ ls) (hc : c ∈ l) :
    c ∈ unlines ls := by
  induction ls with
  | nil => exact absurd hl List.not_mem_nil
  | cons m ls ih =>
    cases ls with
    | nil =>
      rw [List.mem_singleton.1 hl] at hc
      rwa [unlines_singleton]
    | cons n ls =>
      rw [unlines_cons_cons, List.mem_append, List.mem_cons]
      rcases List.mem_cons.1 hl with rfl | hl
      · exact Or.inl hc
      · exact Or.inr (Or.inr (ih hl))

/-- A function that rewrites lines and brings in no newlines rewrites the lines of a text. -/
theorem lines_unlines_map_lines {f : Text → Text} (hf : ∀ l, '\n' ∉ l → '\n' ∉ f l) (s : Text) :
    lines (unlines ((lines s).map f)) = (lines s).map f := by
  refine lines_unlines (mt List.map_eq_nil_iff.1 (lines_ne_nil s)) ?_
  intro l hl
  obtain ⟨m, hm, rfl⟩ := List.mem_map.1 hl
  exact hf m (newline_not_mem_of_mem_lines hm)

/-! ## Words in lines -/

theorem occursIn_iff_isInfix {w s : Text} : occursIn w s = true ↔ w <:+: s := by
  rw [occursIn_iff]
  constructor
  · rintro ⟨a, b, h⟩
    exact ⟨a, b, h.symm⟩
  · rintro ⟨a, b, h⟩
    exact ⟨a, b, h.symm⟩

/-- A word that contains neither end of the gap between two texts stands in one of them. -/
theorem occursIn_append_cons {w : Text} {x : Char} (hw : w ≠ []) (hx : x ∉ w) (s t : Text) :
    occursIn w (s ++ x :: t) = (occursIn w s || occursIn w t) := by
  rw [Bool.eq_iff_iff, Bool.or_eq_true]
  simp only [occursIn_iff_isInfix]
  rw [List.infix_append_iff_ne_nil, List.infix_cons_iff]
  constructor
  · rintro (h | (h | h) | ⟨u, v, -, hv, rfl, -, h⟩)
    · exact Or.inl h
    · obtain ⟨y, w, rfl⟩ := List.exists_cons_of_ne_nil hw
      obtain ⟨rfl, -⟩ := List.cons_prefix_cons.1 h
      exact absurd List.mem_cons_self hx
    · exact Or.inr h
    · obtain ⟨y, v, rfl⟩ := List.exists_cons_of_ne_nil hv
      obtain ⟨rfl, -⟩ := List.cons_prefix_cons.1 h
      exact absurd (List.mem_append_right u List.mem_cons_self) hx
  · rintro (h | h)
    · exact Or.inl h
    · exact Or.inr (Or.inl (Or.inr h))

/-- A word without a newline stands in a text exactly if it stands in one of its lines. -/
theorem occursIn_unlines {w : Text} (hw : w ≠ []) (hn : '\n' ∉ w) (ls : List Text) :
    occursIn w (unlines ls) = ls.any (occursIn w) := by
  induction ls with
  | nil =>
    rw [unlines_nil, occursIn, List.any_nil, List.isEmpty_eq_false_iff]
    exact hw
  | cons l ls ih =>
    cases ls with
    | nil => rw [unlines_singleton, List.any_cons, List.any_nil, Bool.or_false]
    | cons m ls => rw [unlines_cons_cons, occursIn_append_cons hw hn, ih, List.any_cons (a := l)]

/-- Characters put at the end of a text make no word that does not end in one of them. -/
theorem occursIn_append_of_getLast {w b : Text} {c : Char} (hw : w.getLast? = some c)
    (hc : c ∉ b) (s : Text) : occursIn w (s ++ b) = occursIn w s := by
  have hlast : ∀ u v : Text, w = u ++ v → v ≠ [] → c ∈ v := by
    rintro u v rfl hv
    rw [List.getLast?_append_of_ne_nil _ hv] at hw
    exact List.mem_of_getLast? hw
  rw [Bool.eq_iff_iff]
  simp only [occursIn_iff_isInfix]
  rw [List.infix_append_iff_ne_nil]
  constructor
  · rintro (h | h | ⟨u, v, -, hv, huv, -, h⟩)
    · exact h
    · exact absurd (h.subset (List.mem_of_getLast? hw)) hc
    · exact absurd (h.subset (hlast u v huv hv)) hc
  · exact Or.inl

/-! ## Texts that differ at the ends of their lines -/

/-- Two lines that differ only in characters at their ends that `p` admits. -/
def SameUpToEnd (p : Char → Bool) (s t : Text) : Prop := s.rdropWhile p = t.rdropWhile p

/-- Two texts with as many lines, whose lines differ only in characters at their ends that `p`
admits. -/
def SameUpToLineEnds (p : Char → Bool) (s t : Text) : Prop :=
  List.Forall₂ (SameUpToEnd p) (lines s) (lines t)

section SameUpToLineEnds

variable {p : Char → Bool} {s t : Text}

theorem sameUpToEnd_append {b : Text} (hb : ∀ c ∈ b, p c = true) (s : Text) :
    SameUpToEnd p s (s ++ b) := by
  rw [SameUpToEnd, List.rdropWhile, List.rdropWhile, List.reverse_append,
    List.dropWhile_append_of_pos]
  exact fun c hc => hb c (List.mem_reverse.1 hc)

theorem SameUpToLineEnds.length_lines (h : SameUpToLineEnds p s t) :
    (lines s).length = (lines t).length :=
  h.length_eq

/-- What characters at the end of a line do not change is the same of lines that differ only in
such characters. -/
theorem eq_of_sameUpToEnd {β : Type} {f : Text → β} (h : SameUpToEnd p s t)
    (hf : ∀ s b : Text, (∀ c ∈ b, p c = true) → f (s ++ b) = f s) : f s = f t := by
  have hcore : ∀ s : Text, f s = f (s.rdropWhile p) := by
    intro s
    conv_lhs => rw [← List.rdropWhile_append_rtakeWhile (p := p) (l := s)]
    exact hf _ _ fun c hc => List.mem_rtakeWhile_imp hc
  rw [hcore s, hcore t, h]

/-- What characters at the end of a line do not change is the same, line by line, of texts that
differ only in such characters. -/
theorem SameUpToLineEnds.map_lines {β : Type} {f : Text → β} (h : SameUpToLineEnds p s t)
    (hf : ∀ s b : Text, (∀ c ∈ b, p c = true) → f (s ++ b) = f s) :
    (lines s).map f = (lines t).map f := by
  unfold SameUpToLineEnds at h
  generalize lines s = ls, lines t = ms at h
  induction h with
  | nil => rfl
  | cons hl _ ih => rw [List.map_cons, List.map_cons, eq_of_sameUpToEnd hl hf, ih]

/-- A character that is not one of them stands equally often in texts that differ only in characters
at the ends of their lines. -/
theorem SameUpToLineEnds.count_eq (h : SameUpToLineEnds p s t) {x : Char} (hp : p x = false)
    (hx : x ≠ '\n') : s.count x = t.count x := by
  rw [← count_flatten_lines hx s, ← count_flatten_lines hx t, List.count_flatten,
    List.count_flatten, h.map_lines]
  intro l b hb
  have hzero : b.count x = 0 := by
    rw [List.count_eq_zero]
    intro hmem
    rw [hb x hmem] at hp
    exact absurd hp (by decide)
  rw [List.count_append, hzero, Nat.add_zero]

/-- Texts that differ only in characters at the ends of their lines mention the same words, if
these do not end in such a character. -/
theorem occursIn_eq_of_sameUpToLineEnds (h : SameUpToLineEnds p s t) {w : Text} {c : Char}
    (hw : w.getLast? = some c) (hc : p c = false) (hn : '\n' ∉ w) :
    occursIn w s = occursIn w t := by
  have hne : w ≠ [] := by
    rintro rfl
    simp at hw
  have hlines : (lines s).map (occursIn w) = (lines t).map (occursIn w) := by
    refine h.map_lines fun s b hb => occursIn_append_of_getLast hw (fun hmem => ?_) s
    rw [hb c hmem] at hc
    exact absurd hc (by decide)
  rw [← unlines_lines s, ← unlines_lines t, occursIn_unlines hne hn, occursIn_unlines hne hn]
  simpa only [List.any_map, Function.id_comp] using congrArg (List.any · id) hlines

/-- A word that is found alike in texts that differ only in characters at the ends of their
lines: it has no newline and ends in none of these characters. -/
def isSolidWord (p : Char → Bool) (w : Text) : Bool :=
  w.getLast?.any (fun c => !p c) && !w.contains '\n'

theorem mentionsAny_eq_of_sameUpToLineEnds (h : SameUpToLineEnds p s t) {ws : List Text}
    (hws : ∀ w ∈ ws, isSolidWord p w = true) : mentionsAny ws s = mentionsAny ws t := by
  rw [mentionsAny, mentionsAny, Bool.eq_iff_iff, List.any_eq_true, List.any_eq_true]
  refine exists_congr fun w => and_congr_right fun hw => ?_
  have hsolid := hws w hw
  rw [isSolidWord, Bool.and_eq_true, Option.any_eq_true, Bool.not_eq_true',
    List.contains_eq_mem, decide_eq_false_iff_not] at hsolid
  obtain ⟨⟨c, hlast, hc⟩, hn⟩ := hsolid
  rw [occursIn_eq_of_sameUpToLineEnds h hlast (by simpa using hc) hn]

end SameUpToLineEnds

/-! ## Lower case -/

theorem toLower_eq_self {c : Char} (h : ¬ (0x41 ≤ c.toNat ∧ c.toNat ≤ 0x5A)) : c.toLower = c := by
  unfold Char.toLower
  rw [dif_neg]
  rw [ge_iff_le, UInt32.le_iff_toNat_le, UInt32.le_iff_toNat_le]
  exact h

theorem toNat_toLower {c : Char} (h : 0x41 ≤ c.toNat ∧ c.toNat ≤ 0x5A) :
    c.toLower.toNat = c.toNat + 32 := by
  have hval : c.val ≥ 'A'.val ∧ c.val ≤ 'Z'.val := by
    rw [ge_iff_le, UInt32.le_iff_toNat_le, UInt32.le_iff_toNat_le]
    exact h
  unfold Char.toLower
  rw [dif_pos hval]
  show (c.val + ('a'.val - 'A'.val)).toNat = c.val.toNat + 32
  rw [UInt32.toNat_add, show ('a'.val - 'A'.val).toNat = 32 by decide, Nat.mod_eq_of_lt]
  have hle : c.val.toNat ≤ 0x5A := h.2
  omega

/-- The characters whose lower-case form is another one are the capitals, the dotted capital I and
the Kelvin sign. -/
theorem lowerChar_eq_self {c : Char} (hupper : ¬ (0x41 ≤ c.toNat ∧ c.toNat ≤ 0x5A))
    (hdotted : c.toNat ≠ 0x130) (hkelvin : c.toNat ≠ 0x212A) : lowerChar c = [c] := by
  have hne : ∀ d : Char, c.toNat ≠ d.toNat → c ≠ d := fun d h hcd => h (congrArg Char.toNat hcd)
  rw [lowerChar, if_neg (hne '\u0130' hdotted), if_neg (hne '\u212A' hkelvin),
    toLower_eq_self hupper]

theorem newline_not_mem_toLower {s : Text} (h : '\n' ∉ s) : '\n' ∉ toLower s := by
  rw [toLower, List.mem_flatMap]
  rintro ⟨c, hc, hmem⟩
  rw [lowerChar] at hmem
  split_ifs at hmem with hdotted hkelvin
  · exact absurd hmem (by decide)
  · exact absurd hmem (by decide)
  · rw [List.mem_singleton] at hmem
    by_cases hupper : 0x41 ≤ c.toNat ∧ c.toNat ≤ 0x5A
    · have hnat := toNat_toLower hupper
      rw [← hmem, show '\n'.toNat = 10 from rfl] at hnat
      omega
    · rw [toLower_eq_self hupper] at hmem
      rw [hmem] at h
      exact h hc

theorem toLower_unlines (ls : List Text) : toLower (unlines ls) = unlines (ls.map toLower) := by
  induction ls with
  | nil => rfl
  | cons l ls ih =>
    cases ls with
    | nil => rw [unlines_singleton, List.map_singleton, unlines_singleton]
    | cons m ls =>
      rw [unlines_cons_cons, toLower_append, List.map_cons, List.map_cons, unlines_cons_cons]
      rw [List.map_cons] at ih
      rw [← ih]
      rfl

theorem lines_toLower (s : Text) : lines (toLower s) = (lines s).map toLower := by
  conv_lhs => rw [← unlines_lines s, toLower_unlines]
  exact lines_unlines_map_lines (fun _ => newline_not_mem_toLower) s

/-- Texts that differ only in characters at the ends of their lines do so in lower case, if these
characters have no other lower-case form. -/
theorem SameUpToLineEnds.toLower {p : Char → Bool} {s t : Text}
    (hp : ∀ c, p c = true → lowerChar c = [c]) (h : SameUpToLineEnds p s t) :
    SameUpToLineEnds p (toLower s) (toLower t) := by
  have hend : ∀ b : Text, (∀ c ∈ b, p c = true) → Text.toLower b = b := by
    intro b hb
    induction b with
    | nil => rfl
    | cons c b ih =>
      rw [List.forall_mem_cons] at hb
      rw [Text.toLower, List.flatMap_cons, hp c hb.1, ← Text.toLower, ih hb.2]
      rfl
  rw [SameUpToLineEnds, lines_toLower, lines_toLower, List.forall₂_map_left_iff,
    List.forall₂_map_right_iff]
  refine List.Forall₂.imp (fun l m hlm => ?_) h
  refine eq_of_sameUpToEnd (f := fun l => (Text.toLower l).rdropWhile p) hlm fun l b hb => ?_
  rw [toLower_append, hend b hb]
  exact (sameUpToEnd_append hb _).symm

end Text

end SnippetReview
