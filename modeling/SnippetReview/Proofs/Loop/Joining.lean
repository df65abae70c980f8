import SnippetReview.Proofs.Loop.Occurrence
import SnippetReview.Proofs.Text.Lines

/-!
# Loops in texts that are joined

Two texts are joined by a newline. A loop construct of the joined text stands in one of the two, or
it is a call whose name ends the first and whose parenthesis opens the second, with nothing but
blanks between them (`standsAt_append_newline`); no word is torn apart or put together at a
newline. At most one call is made up in this way (`NamesMethodAt.unique`). So joining loses no loop
and adds one at most (`exists_count_append_newline`).
-/

namespace SnippetReview

namespace Loop

/-! ## The seam -/

/-- The name of a method stands at a position, with nothing but blanks after it. -/
def NamesMethodAt (s : Text) (i : Nat) : Prop :=
  ∃ u m blanks, s = u ++ m ++ blanks ∧ m ∈ [".forEach".toList, ".map".toList]
    ∧ Text.Blank blanks ∧ u.length = i

/-- The text ends with the name of a method, but for blanks after it. -/
def EndsInMethod (s : Text) : Prop :=
  ∃ u m blanks, s = u ++ m ++ blanks ∧ m ∈ [".forEach".toList, ".map".toList]
    ∧ Text.Blank blanks

/-- The text begins with a parenthesis, but for blanks before it. -/
def OpensCall (s : Text) : Prop := ∃ blanks t, s = blanks ++ '(' :: t ∧ Text.Blank blanks

theorem endsInMethod_iff {s : Text} : EndsInMethod s ↔ ∃ i, NamesMethodAt s i := by
  constructor
  · rintro ⟨u, m, blanks, hs, hm, hblank⟩
    exact ⟨u.length, u, m, blanks, hs, hm, hblank, rfl⟩
  · rintro ⟨_, u, m, blanks, hs, hm, hblank, rfl⟩
    exact ⟨u, m, blanks, hs, hm, hblank⟩

theorem NamesMethodAt.lt_length {s : Text} {i : Nat} (h : NamesMethodAt s i) : i < s.length := by
  obtain ⟨u, m, blanks, rfl, hm, -, rfl⟩ := h
  have hpos : 0 < m.length :=
    (by decide : ∀ m ∈ [".forEach".toList, ".map".toList], 0 < m.length) m hm
  rw [List.length_append, List.length_append]
  omega

/-- A text ends with one name at most. -/
theorem NamesMethodAt.unique {s : Text} {i j : Nat} (hi : NamesMethodAt s i)
    (hj : NamesMethodAt s j) : i = j := by
  have hsolid : ∀ m ∈ [".forEach".toList, ".map".toList], ∃ x, m.getLast? = some x
      ∧ isBlank x = false := by
    intro m hm
    rcases List.mem_pair.1 hm with rfl | rfl
    · exact ⟨'h', rfl, by decide⟩
    · exact ⟨'p', rfl, by decide⟩
  obtain ⟨u, m, blanks, rfl, hm, hblank, rfl⟩ := hi
  obtain ⟨v, n, blanks', hs, hn, hblank', rfl⟩ := hj
  have htrim := congrArg Text.trimEnd hs
  rw [Text.trimEnd_append_blank hblank, Text.trimEnd_append_blank hblank',
    Text.trimEnd_of_endsSolid (Text.endsSolid_append (hsolid m hm) u),
    Text.trimEnd_of_endsSolid (Text.endsSolid_append (hsolid n hn) v)] at htrim
  have hlast : m.getLast? = n.getLast? := by
    obtain ⟨x, hx, -⟩ := hsolid m hm
    obtain ⟨y, hy, -⟩ := hsolid n hn
    have h := congrArg List.getLast? htrim
    rwa [List.getLast?_append, List.getLast?_append, hx, hy, Option.some_or, Option.some_or,
      ← hx, ← hy] at h
  have hsame : ∀ m ∈ [".forEach".toList, ".map".toList],
      ∀ n ∈ [".forEach".toList, ".map".toList], m.getLast? = n.getLast? → m = n := by decide
  obtain rfl := hsame m hm n hn hlast
  rw [List.append_cancel_right htrim]

/-- A call that waits for its parenthesis is no call yet. -/
theorem NamesMethodAt.not_standsAt {s : Text} {i : Nat} (h : NamesMethodAt s i) :
    ¬ StandsAt s i := by
  obtain ⟨u, m, blanks, rfl, hm, hblank, rfl⟩ := h
  rw [List.append_assoc, standsAt_length_iff]
  rintro ⟨c, t, hc, heq⟩
  cases hc with
  | word hw =>
    rcases List.mem_pair.1 hm with rfl | rfl <;> rcases List.mem_pair.1 hw with rfl | rfl <;>
      exact absurd (List.cons.inj heq).1 (by decide)
  | call =>
    have hmem : '(' ∈ m ++ blanks := by
      rw [heq]
      simp
    rcases List.mem_append.1 hmem with hmem | hmem
    · rcases List.mem_pair.1 hm with rfl | rfl <;> exact absurd hmem (by decide)
    · exact absurd (hblank _ hmem) (by decide)

/-! ## Constructs next to a newline -/

/-- A newline ends a word, as does the end of a text. -/
theorem Construct.append_newline {before : Option Char} {c s : Text} (h : Construct before c s)
    (t : Text) : Construct before c (s ++ '\n' :: t) := by
  cases h with
  | word hw hbefore hafter =>
    refine .word hw hbefore fun x hx => ?_
    cases s with
    | nil =>
      obtain rfl : '\n' = x := Option.some.inj hx
      decide
    | cons y s => exact hafter x hx
  | call hm hblank => exact .call hm hblank

theorem Construct.of_append_newline {before : Option Char} {w s t : Text}
    (hw : w ∈ ["for".toList, "while".toList]) (hbefore : ∀ x ∈ before, isWord x = false)
    (hafter : ∀ x ∈ (s ++ '\n' :: t).head?, isWord x = false) : Construct before w s := by
  refine .word hw hbefore fun x hx => hafter x ?_
  cases s with
  | nil => exact absurd hx (by simp)
  | cons y s => exact hx

/-- A word begins after a newline, as it does at the start of a text. -/
theorem construct_after_newline {a w c t : Text} :
    Construct (a ++ '\n' :: w).getLast? c t ↔ Construct w.getLast? c t := by
  cases w with
  | nil =>
    have hbreak : ∀ x ∈ (a ++ ['\n']).getLast?, isWord x = false := by
      intro x hx
      rw [List.getLast?_concat] at hx
      obtain rfl : '\n' = x := Option.some.inj hx
      decide
    have hstart : ∀ x ∈ ([] : Text).getLast?, isWord x = false := by
      intro x hx
      exact absurd hx (by simp)
    constructor
    · intro h
      cases h with
      | word hw _ hafter => exact .word hw hstart hafter
      | call hm hblank => exact .call hm hblank
    · intro h
      cases h with
      | word hw _ hafter => exact .word hw hbreak hafter
      | call hm hblank => exact .call hm hblank
  | cons x w =>
    have hlast : (a ++ '\n' :: x :: w).getLast? = (x :: w).getLast? := by
      rw [List.getLast?_append_of_ne_nil _ (List.cons_ne_nil _ _), List.getLast?_cons_cons]
    rw [hlast]

/-- A text without a newline lies before the newline of a longer one. -/
theorem exists_of_append_eq_append_newline {u v a b : Text} (hu : '\n' ∉ u)
    (h : u ++ v = a ++ '\n' :: b) : ∃ z, a = u ++ z ∧ v = z ++ '\n' :: b := by
  rcases List.append_eq_append_iff.1 h with ⟨z, ha, hv⟩ | ⟨z, hz, hv⟩
  · exact ⟨z, ha, hv⟩
  · cases z with
    | nil => exact ⟨[], by simpa using hz.symm, hv.symm⟩
    | cons x z =>
      refine absurd ?_ hu
      rw [hz, (List.cons.inj hv).1]
      simp

/-! ## Constructs of a joined text -/

section Joined

variable {a b : Text} {i : Nat}

theorem StandsAt.append_newline (h : StandsAt a i) (b : Text) : StandsAt (a ++ '\n' :: b) i := by
  obtain ⟨u, c, t, ⟨rfl, hc⟩, rfl⟩ := h
  exact ⟨u, c, t ++ '\n' :: b, ⟨by simp, hc.append_newline b⟩, rfl⟩

theorem StandsAt.newline_append (h : StandsAt b i) (a : Text) :
    StandsAt (a ++ '\n' :: b) (i + (a.length + 1)) := by
  obtain ⟨u, c, t, ⟨rfl, hc⟩, rfl⟩ := h
  refine ⟨a ++ '\n' :: u, c, t, ⟨by simp, construct_after_newline.2 hc⟩, ?_⟩
  rw [List.length_append, List.length_cons]
  omega

theorem NamesMethodAt.standsAt (ha : NamesMethodAt a i) (hb : OpensCall b) :
    StandsAt (a ++ '\n' :: b) i := by
  obtain ⟨u, m, blanks, rfl, hm, hblank, rfl⟩ := ha
  obtain ⟨blanks', t, rfl, hblank'⟩ := hb
  have hbetween : Text.Blank (blanks ++ '\n' :: blanks') := by
    intro x hx
    rcases List.mem_append.1 hx with hx | hx
    · exact hblank x hx
    · rcases List.mem_cons.1 hx with rfl | hx
      · decide
      · exact hblank' x hx
  exact ⟨u, m ++ (blanks ++ '\n' :: blanks') ++ ['('], t, ⟨by simp, .call hm hbetween⟩, rfl⟩

/-- A loop construct of two texts joined by a newline is one of the first, one of the second, or a
call that is named at the end of the first and opened by the second. -/
theorem standsAt_append_newline : StandsAt (a ++ '\n' :: b) i ↔
    StandsAt a i ∨ (NamesMethodAt a i ∧ OpensCall b)
      ∨ ∃ j, StandsAt b j ∧ j + (a.length + 1) = i := by
  constructor
  · rintro ⟨u, c, t, ⟨hcode, hc⟩, rfl⟩
    rw [List.append_assoc, eq_comm] at hcode
    rcases List.append_eq_append_iff.1 hcode with ⟨w, rfl, hw⟩ | ⟨w, rfl, hw⟩
    · -- the construct begins in the first text
      cases hc with
      | word hloop hbefore hafter =>
        have hn : ∀ w ∈ ["for".toList, "while".toList], '\n' ∉ w := by decide
        obtain ⟨z, rfl, rfl⟩ := exists_of_append_eq_append_newline (hn c hloop) hw
        exact Or.inl ⟨u, c, z, ⟨(List.append_assoc u c z).symm,
          .of_append_newline hloop hbefore hafter⟩, rfl⟩
      | @call m blanks _ hloop hblank =>
        have hn : ∀ m ∈ [".forEach".toList, ".map".toList], '\n' ∉ m := by decide
        rw [List.append_assoc, List.append_assoc, List.singleton_append] at hw
        obtain ⟨z, rfl, hz⟩ := exists_of_append_eq_append_newline (hn m hloop) hw
        rcases List.append_eq_append_iff.1 hz with ⟨y, rfl, hy⟩ | ⟨y, rfl, hy⟩
        · cases y with
          | nil => exact absurd (List.cons.inj hy).1 (by decide)
          | cons x y =>
            obtain ⟨rfl, rfl⟩ := List.cons.inj hy
            exact Or.inl ⟨u, m ++ blanks ++ ['('], y, ⟨by simp, .call hloop hblank⟩, rfl⟩
        · cases y with
          | nil => exact absurd (List.cons.inj hy).1 (by decide)
          | cons x y =>
            obtain ⟨rfl, rfl⟩ := List.cons.inj hy
            rw [Text.blank_append] at hblank
            exact Or.inr (Or.inl ⟨⟨u, m, z, (List.append_assoc u m z).symm, hloop, hblank.1, rfl⟩,
              y, t, rfl, fun x hx => hblank.2 x (List.mem_cons_of_mem _ hx)⟩)
    · -- the construct begins after the first text
      cases w with
      | nil =>
        obtain ⟨x, d, rfl, hx⟩ := hc.exists_cons
        obtain ⟨rfl, -⟩ := List.cons.inj hw
        exact absurd hx (by decide)
      | cons x w =>
        obtain ⟨rfl, rfl⟩ := List.cons.inj hw
        refine Or.inr (Or.inr ⟨w.length, ⟨w, c, t, ⟨(List.append_assoc w c t).symm,
          construct_after_newline.1 hc⟩, rfl⟩, ?_⟩)
        rw [List.length_append, List.length_cons]
        omega
  · rintro (h | ⟨ha, hb⟩ | ⟨j, h, rfl⟩)
    · exact h.append_newline b
    · exact ha.standsAt hb
    · exact h.newline_append a

end Joined

/-! ## The number of loops -/

/-- The calls that are made up by joining two texts: one at most. -/
theorem ncard_seam (a b : Text) : ∃ k ≤ 1, {i | NamesMethodAt a i ∧ OpensCall b}.ncard = k
    ∧ (k = 1 ↔ EndsInMethod a ∧ OpensCall b) := by
  by_cases h : EndsInMethod a ∧ OpensCall b
  · obtain ⟨i, hi⟩ := endsInMethod_iff.1 h.1
    have hsingle : {j | NamesMethodAt a j ∧ OpensCall b} = {i} := by
      ext j
      constructor
      · rintro ⟨hj, -⟩
        exact hj.unique hi
      · rintro rfl
        exact ⟨hi, h.2⟩
    refine ⟨1, Nat.le_refl 1, ?_, iff_of_true rfl h⟩
    rw [hsingle, Set.ncard_singleton]
  · have hempty : {j | NamesMethodAt a j ∧ OpensCall b} = ∅ := by
      ext j
      rw [Set.mem_empty_iff_false, iff_false]
      rintro ⟨hj, hb⟩
      exact h ⟨endsInMethod_iff.2 ⟨j, hj⟩, hb⟩
    refine ⟨0, Nat.zero_le 1, ?_, iff_of_false Nat.zero_ne_one h⟩
    rw [hempty, Set.ncard_empty]

/-- Joining two texts by a newline loses no loop. It adds one if the first text ends with the name
of a method and the second opens the call, and none otherwise. -/
theorem exists_count_append_newline (a b : Text) :
    ∃ k ≤ 1, count (a ++ '\n' :: b) = count a + count b + k
      ∧ (k = 1 ↔ EndsInMethod a ∧ OpensCall b) := by
  obtain ⟨k, hk, hseam, hiff⟩ := ncard_seam a b
  refine ⟨k, hk, ?_, hiff⟩
  have hfinite : {i | NamesMethodAt a i ∧ OpensCall b}.Finite :=
    (Set.finite_lt_nat a.length).subset fun _ hi => hi.1.lt_length
  have hunion : {i | StandsAt (a ++ '\n' :: b) i}
      = ({i | StandsAt a i} ∪ {i | NamesMethodAt a i ∧ OpensCall b})
        ∪ (· + (a.length + 1)) '' {i | StandsAt b i} := by
    ext i
    rw [Set.union_assoc]
    exact standsAt_append_newline
  have hseamDisjoint : Disjoint {i | StandsAt a i} {i | NamesMethodAt a i ∧ OpensCall b} := by
    rw [Set.disjoint_left]
    exact fun i hi hj => hj.1.not_standsAt hi
  have hdisjoint : Disjoint ({i | StandsAt a i} ∪ {i | NamesMethodAt a i ∧ OpensCall b})
      ((· + (a.length + 1)) '' {i | StandsAt b i}) := by
    rw [Set.disjoint_left]
    rintro _ hi ⟨j, -, rfl⟩
    have hlt : j + (a.length + 1) < a.length := by
      rcases hi with hi | hi
      · exact hi.lt_length
      · exact hi.1.lt_length
    omega
  rw [count_eq_ncard, count_eq_ncard, count_eq_ncard, hunion,
    Set.ncard_union_eq hdisjoint ((finite_standsAt a).union hfinite) ((finite_standsAt b).image _),
    Set.ncard_union_eq hseamDisjoint (finite_standsAt a) hfinite, hseam,
    Set.ncard_image_of_injective _ (add_left_injective _)]
  omega

end Loop

end SnippetReview
