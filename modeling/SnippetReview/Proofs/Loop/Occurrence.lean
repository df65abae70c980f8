import Mathlib.Data.Set.Card
import SnippetReview.Complexity
import SnippetReview.Proofs.Text.Trimming

/-!
# Where loops stand

A loop construct is the word `for` or `while`, with no word character on either side, or a call of
`.forEach` or `.map`, with blanks allowed before its parenthesis (`Construct`). This says nothing
of a pass over the code: constructs are looked for at every position (`StandsAt`).

* The pass finds the end of a construct exactly where one begins (`exists_construct_of_stop?`,
  `stop?_of_construct`).
* A construct begins with a letter or a dot that stands within no other, but for the word in
  `.forEach`, which does not end there. So constructs do not overlap (`Occurs.not_inside`), and a
  pass that goes on after each one it has found misses none: it counts the positions at which
  constructs stand (`count_exact`).
-/

namespace SnippetReview

theorem endsWord_eq_true_iff {s : Text} :
    endsWord s = true ↔ ∀ x ∈ s.head?, isWord x = false := by
  cases s <;> simp [endsWord]

namespace Loop

/-! ## Constructs -/

/-- A loop construct between the character in front of it, if there is one, and the text after it: a
word that stands alone, or a call up to its parenthesis. -/
inductive Construct (before : Option Char) : Text → Text → Prop
  | word {w after : Text} (isLoop : w ∈ ["for".toList, "while".toList])
      (beginsWord : ∀ x ∈ before, isWord x = false)
      (endsWord : ∀ x ∈ after.head?, isWord x = false) : Construct before w after
  | call {m blanks after : Text} (isLoop : m ∈ [".forEach".toList, ".map".toList])
      (blank : Text.Blank blanks) : Construct before (m ++ blanks ++ ['(']) after

/-- A loop construct stands in a code between two parts of it. -/
structure Occurs (code before construct after : Text) : Prop where
  code_eq : code = before ++ construct ++ after
  construct : Construct before.getLast? construct after

/-- A loop construct begins at a position of a code. -/
def StandsAt (code : Text) (i : Nat) : Prop :=
  ∃ before construct after, Occurs code before construct after ∧ before.length = i

variable {before : Option Char} {c after : Text}

/-- The characters that a loop construct begins with. -/
def starts : List Char := ['f', 'w', '.']

theorem Construct.exists_cons (h : Construct before c after) : ∃ x t, c = x :: t ∧ x ∈ starts := by
  cases h with
  | word hw =>
    rcases List.mem_pair.1 hw with rfl | rfl
    · exact ⟨'f', ['o', 'r'], rfl, by decide⟩
    · exact ⟨'w', ['h', 'i', 'l', 'e'], rfl, by decide⟩
  | @call m blanks _ hm _ =>
    rcases List.mem_pair.1 hm with rfl | rfl
    · exact ⟨'.', "forEach".toList ++ blanks ++ ['('], rfl, by decide⟩
    · exact ⟨'.', "map".toList ++ blanks ++ ['('], rfl, by decide⟩

theorem Construct.ne_nil (h : Construct before c after) : c ≠ [] := by
  obtain ⟨x, t, rfl, -⟩ := h.exists_cons
  exact List.cons_ne_nil x t

/-! ## What the pass finds at one position -/

theorem wordStop?_dot (before : Option Char) (t : Text) : wordStop? before ('.' :: t) = none := by
  rw [wordStop?]
  split_ifs <;> rfl

theorem exists_cons_of_mem_methods {m : Text} (hm : m ∈ methods) (s : Text) :
    ∃ t, m ++ s = '.' :: t := by
  rcases List.mem_pair.1 hm with rfl | rfl
  · exact ⟨_, rfl⟩
  · exact ⟨_, rfl⟩

theorem callStop?_append {m s : Text} (hm : m ∈ methods) (h : Text.trimStart s = '(' :: after) :
    callStop? (m ++ s) = some ⟨some '(', after⟩ := by
  have hfind : (methods.find? fun name => name.isPrefixOf (m ++ s)) = some m := by
    rcases List.mem_pair.1 hm with rfl | rfl <;> rfl
  rw [callStop?, hfind, Option.bind_some, List.drop_left, h]
  rfl

theorem stop?_of_construct (h : Construct before c after) :
    stop? before (c ++ after) = some ⟨c.getLast?, after⟩ := by
  cases h with
  | word hw hbefore hafter =>
    have halone : before.any isWord = false := by
      rw [Option.any_eq_false]
      intro x hx
      simp [hbefore x hx]
    have hend : endsWord after = true := endsWord_eq_true_iff.2 hafter
    rcases List.mem_pair.1 hw with rfl | rfl
    · simp [stop?, wordStop?, words, halone, hend]
    · simp [stop?, wordStop?, words, halone, hend]
  | @call m blanks _ hm hblank =>
    have hparenthesis : isBlank '(' = false := by decide
    have htrim : Text.trimStart (blanks ++ '(' :: after) = '(' :: after := by
      rw [Text.trimStart_blank_append hblank, Text.trimStart,
        List.dropWhile_cons_of_neg (by rw [hparenthesis]; exact Bool.false_ne_true)]
    have happend : m ++ blanks ++ ['('] ++ after = m ++ (blanks ++ '(' :: after) := by simp
    obtain ⟨t, hdot⟩ := exists_cons_of_mem_methods hm (blanks ++ '(' :: after)
    rw [List.getLast?_concat, happend, stop?, callStop?_append hm htrim, hdot, wordStop?_dot]

theorem exists_construct_of_stop? {s : Text} {e : Stop} (h : stop? before s = some e) :
    ∃ c, Construct before c e.rest ∧ s = c ++ e.rest ∧ e.last = c.getLast? := by
  rw [stop?] at h
  cases hword : wordStop? before s with
  | some e' =>
    rw [hword, Option.some.injEq] at h
    subst h
    rw [wordStop?] at hword
    split_ifs at hword with hbefore
    rw [Option.map_eq_some_iff] at hword
    obtain ⟨w, hfind, rfl⟩ := hword
    have hmem := List.mem_of_find?_eq_some hfind
    have hfound := List.find?_some hfind
    rw [Bool.and_eq_true, List.isPrefixOf_iff_prefix] at hfound
    obtain ⟨⟨rest, rfl⟩, hend⟩ := hfound
    rw [List.drop_left] at hend
    rw [Bool.not_eq_true, Option.any_eq_false] at hbefore
    refine ⟨w, .word hmem (fun x hx => ?_) ?_, ?_, rfl⟩
    · simpa using hbefore x hx
    · rw [List.drop_left]
      exact endsWord_eq_true_iff.1 hend
    · rw [List.drop_left]
  | none =>
    rw [hword, callStop?, Option.bind_eq_some_iff] at h
    obtain ⟨m, hfind, h⟩ := h
    have hmem := List.mem_of_find?_eq_some hfind
    have hfound := List.find?_some hfind
    rw [List.isPrefixOf_iff_prefix] at hfound
    obtain ⟨rest, rfl⟩ := hfound
    rw [List.drop_left] at h
    split at h
    · next after htrim =>
      obtain rfl := Option.some.inj h
      have hsplit : rest = rest.takeWhile isBlank ++ '(' :: after := by
        rw [← htrim]
        exact (List.takeWhile_append_dropWhile).symm
      refine ⟨m ++ rest.takeWhile isBlank ++ ['('], .call hmem ?_, ?_, ?_⟩
      · intro x hx
        exact List.mem_takeWhile_imp hx
      · conv_lhs => rw [hsplit]
        simp
      · rw [List.getLast?_concat]
    · exact absurd h (by simp)

theorem stop?_eq_none_iff {s : Text} :
    stop? before s = none ↔ ∀ c after, Construct before c after → s ≠ c ++ after := by
  constructor
  · rintro h c after hc rfl
    rw [stop?_of_construct hc] at h
    exact absurd h (by simp)
  · intro h
    cases hstop : stop? before s with
    | none => rfl
    | some e =>
      obtain ⟨c, hc, hs, -⟩ := exists_construct_of_stop? hstop
      exact absurd hs (h c e.rest hc)

/-! ## Constructs do not overlap -/

theorem not_mem_starts_of_isBlank {x : Char} (h : isBlank x = true) : x ∉ starts := by
  intro hx
  simp only [starts, List.mem_cons, List.not_mem_nil, or_false] at hx
  rcases hx with rfl | rfl | rfl <;> exact absurd h (by decide)

theorem not_mem_starts_of_all {s : Text} (h : s.all (fun x => !starts.contains x) = true) {x : Char}
    (hx : x ∈ s) : x ∉ starts := by
  have hother := List.all_eq_true.1 h x hx
  simpa using hother

/-- Within a construct, a character that one can begin with is the first letter of `forEach`. -/
theorem Construct.exists_eq_forEach (h : Construct before c after) {y x : Char} {p q : Text}
    (hc : c = y :: (p ++ x :: q)) (hx : x ∈ starts) :
    ∃ rest, x :: q = "forEach".toList ++ rest := by
  have hmem : x ∈ c.tail := by
    rw [hc]
    exact List.mem_append_right p List.mem_cons_self
  cases h with
  | word hw =>
    have htails : ∀ w ∈ ["for".toList, "while".toList],
        w.tail.all (fun x => !starts.contains x) = true := by decide
    exact absurd hx (not_mem_starts_of_all (htails c hw) hmem)
  | @call m blanks _ hm hblank =>
    have hclose : ∀ x ∈ blanks ++ ['('], x ∉ starts := by
      intro x hx
      rcases List.mem_append.1 hx with hx | hx
      · exact not_mem_starts_of_isBlank (hblank x hx)
      · rw [List.mem_singleton.1 hx]
        decide
    rcases List.mem_pair.1 hm with rfl | rfl
    · -- no letter after the first one begins a construct, so nothing stands between it and the dot
      have hrest : ∀ x ∈ "orEach".toList ++ (blanks ++ ['(']), x ∉ starts := by
        intro x hx
        rcases List.mem_append.1 hx with hx | hx
        · exact not_mem_starts_of_all (s := "orEach".toList) (by decide) hx
        · exact hclose x hx
      have hsplit : '.' :: 'f' :: ("orEach".toList ++ (blanks ++ ['('])) = y :: (p ++ x :: q) := by
        rw [← hc]
        simp
      obtain ⟨-, htail⟩ := List.cons.inj hsplit
      cases p with
      | nil => exact ⟨blanks ++ ['('], htail.symm⟩
      | cons z p =>
        refine absurd hx (hrest x ?_)
        rw [(List.cons.inj htail).2]
        exact List.mem_append_right p List.mem_cons_self
    · refine absurd hx ?_
      have htail : x ∈ "map".toList ++ (blanks ++ ['(']) := by simpa using hmem
      rcases List.mem_append.1 htail with htail | htail
      · exact not_mem_starts_of_all (s := "map".toList) (by decide) htail
      · exact hclose x htail

/-- The name of a method is no loop word: it goes on after its first letters. -/
theorem not_construct_forEach {d rest t : Text} (h : Construct before d rest) :
    "forEach".toList ++ t ≠ d ++ rest := by
  intro heq
  cases h with
  | word hw _ hend =>
    rcases List.mem_pair.1 hw with rfl | rfl
    · have hrest : "Each".toList ++ t = rest := (List.append_right_inj "for".toList).1 heq
      have hword := hend 'E' (by rw [← hrest]; rfl)
      exact absurd hword (by decide)
    · exact absurd (List.cons.inj heq).1 (by decide)
  | call hm =>
    rcases List.mem_pair.1 hm with rfl | rfl <;> exact absurd (List.cons.inj heq).1 (by decide)

/-- No construct begins within another. -/
theorem Occurs.not_inside {code u v c d s t : Text} (hc : Occurs code u c s)
    (hd : Occurs code v d t) (hlt : u.length < v.length) : (u ++ c).length ≤ v.length := by
  by_contra hinside
  have hcode : u ++ c ++ s = v ++ (d ++ t) := by
    rw [← hc.code_eq, hd.code_eq, List.append_assoc]
  -- `v` ends within `c`, after at least one character of it
  obtain ⟨q, hq⟩ : v <+: u ++ c :=
    List.prefix_of_prefix_length_le ⟨d ++ t, hcode.symm⟩ (List.prefix_append _ s) (by omega)
  obtain ⟨p, rfl⟩ : u <+: v :=
    List.prefix_of_prefix_length_le ⟨c, rfl⟩ ⟨q, hq⟩ (by omega)
  rw [List.append_assoc] at hq
  have hsplit : p ++ q = c := List.append_cancel_left hq
  have hrest : q ++ s = d ++ t := by
    rw [← hsplit, ← List.append_assoc, List.append_assoc (u ++ p)] at hcode
    exact List.append_cancel_left hcode
  cases p with
  | nil => exact absurd hlt (by simp)
  | cons y p =>
    cases q with
    | nil =>
      rw [List.append_nil] at hsplit
      rw [hsplit] at hinside
      exact hinside (Nat.le_refl _)
    | cons x q =>
      obtain ⟨x', d', rfl, hstart⟩ := hd.construct.exists_cons
      obtain ⟨rfl, -⟩ := List.cons.inj hrest
      obtain ⟨r, hname⟩ := hc.construct.exists_eq_forEach hsplit.symm hstart
      refine not_construct_forEach hd.construct (t := r ++ s) ?_
      rw [← hrest, hname, List.append_assoc]

/-! ## The pass -/

theorem countFrom_cons_of_none {x : Char} {s : Text} (h : stop? before (x :: s) = none)
    (found : Nat) : countFrom before found (x :: s) = countFrom (some x) found s := by
  rw [countFrom]
  split
  · next e he => rw [h] at he; exact absurd he (by simp)
  · rfl

theorem countFrom_of_some {s : Text} {e : Stop} (h : stop? before s = some e) (found : Nat) :
    countFrom before found s = countFrom e.last (found + 1) e.rest := by
  cases s with
  | nil => exact absurd (length_rest_of_stop h) (Nat.not_lt_zero _)
  | cons c s =>
    rw [countFrom]
    split
    · next e' he =>
      rw [h, Option.some.injEq] at he
      rw [he]
    · next hnone => rw [h] at hnone; exact absurd hnone (by simp)

/-- The positions from a point on at which loop constructs stand. -/
def positionsFrom (code : Text) (n : Nat) : Set Nat := {i | n ≤ i ∧ StandsAt code i}

theorem StandsAt.lt_length {code : Text} {i : Nat} (h : StandsAt code i) : i < code.length := by
  obtain ⟨u, c, s, hc, rfl⟩ := h
  have hpos := List.length_pos_of_ne_nil hc.construct.ne_nil
  rw [hc.code_eq, List.length_append, List.length_append]
  omega

theorem finite_standsAt (code : Text) : {i | StandsAt code i}.Finite := by
  apply (Set.finite_lt_nat code.length).subset
  intro i hi
  exact hi.lt_length

theorem finite_positionsFrom (code : Text) (n : Nat) : (positionsFrom code n).Finite :=
  (finite_standsAt code).subset fun _ hi => hi.2

/-- Whether a construct stands at a position is what the pass looks for there. -/
theorem standsAt_length_iff {u s : Text} :
    StandsAt (u ++ s) u.length ↔ ∃ c t, Construct u.getLast? c t ∧ s = c ++ t := by
  constructor
  · rintro ⟨v, c, t, hc, hlength⟩
    have hcode := hc.code_eq
    rw [List.append_assoc] at hcode
    obtain ⟨rfl, rfl⟩ := List.append_inj hcode hlength.symm
    exact ⟨c, t, hc.construct, rfl⟩
  · rintro ⟨c, t, hc, rfl⟩
    exact ⟨u, c, t, ⟨(List.append_assoc u c t).symm, hc⟩, rfl⟩

theorem positionsFrom_of_none {u s : Text} {x : Char} (h : stop? u.getLast? (x :: s) = none) :
    positionsFrom (u ++ x :: s) u.length = positionsFrom (u ++ [x] ++ s) (u ++ [x]).length := by
  have hcode : u ++ [x] ++ s = u ++ x :: s := by simp
  have hnot : ¬ StandsAt (u ++ x :: s) u.length := by
    rw [standsAt_length_iff]
    rintro ⟨c, t, hc, hs⟩
    exact stop?_eq_none_iff.1 h c t hc hs
  rw [hcode, List.length_append, List.length_singleton]
  ext i
  constructor
  · rintro ⟨hle, hi⟩
    have hne : u.length ≠ i := by
      rintro rfl
      exact hnot hi
    exact ⟨by omega, hi⟩
  · rintro ⟨hle, hi⟩
    exact ⟨by omega, hi⟩

theorem positionsFrom_of_construct {u c t : Text} (h : Construct u.getLast? c t) :
    positionsFrom (u ++ (c ++ t)) u.length
      = insert u.length (positionsFrom (u ++ c ++ t) (u ++ c).length) := by
  have hoccurs : Occurs (u ++ c ++ t) u c t := ⟨rfl, h⟩
  rw [← List.append_assoc]
  ext i
  constructor
  · rintro ⟨hle, hi⟩
    rcases Nat.eq_or_lt_of_le hle with rfl | hlt
    · exact Or.inl rfl
    · obtain ⟨v, d, s, hd, rfl⟩ := hi
      exact Or.inr ⟨hoccurs.not_inside hd hlt, v, d, s, hd, rfl⟩
  · rintro (rfl | ⟨hle, hi⟩)
    · exact ⟨Nat.le_refl _, u, c, t, hoccurs, rfl⟩
    · rw [List.length_append] at hle
      exact ⟨by omega, hi⟩

/-- The pass counts the constructs that stand from a point on. The induction follows the pass;
after a construct it goes on where no other can have begun before. -/
theorem countFrom_eq_ncard (u : Text) (found : Nat) (s : Text) :
    countFrom u.getLast? found s = found + (positionsFrom (u ++ s) u.length).ncard := by
  generalize hbefore : u.getLast? = before
  induction before, found, s using countFrom.induct generalizing u with
  | case1 before found =>
    have hempty : positionsFrom (u ++ []) u.length = ∅ := by
      ext i
      simp only [Set.mem_empty_iff_false, iff_false]
      rintro ⟨hle, hi⟩
      have hlt := hi.lt_length
      rw [List.append_nil] at hlt
      omega
    rw [countFrom, hempty, Set.ncard_empty, Nat.add_zero]
  | case2 before found x cs e he ih =>
    subst hbefore
    obtain ⟨c, hc, hs, hlast⟩ := exists_construct_of_stop? he
    have hnext : (u ++ c).getLast? = e.last := by
      rw [hlast, List.getLast?_append_of_ne_nil _ hc.ne_nil]
    have hnew : u.length ∉ positionsFrom (u ++ c ++ e.rest) (u ++ c).length := by
      rintro ⟨hle, -⟩
      have hpos := List.length_pos_of_ne_nil hc.ne_nil
      rw [List.length_append] at hle
      omega
    rw [countFrom_of_some he, ih (u ++ c) hnext, hs, positionsFrom_of_construct hc,
      Set.ncard_insert_of_notMem hnew (finite_positionsFrom _ _)]
    omega
  | case3 before found x cs hnone ih =>
    subst hbefore
    rw [countFrom_cons_of_none hnone, ih (u ++ [x]) List.getLast?_concat,
      positionsFrom_of_none hnone]

/-- The pass counts the positions at which loop constructs stand. -/
theorem count_eq_ncard (code : Text) : count code = {i | StandsAt code i}.ncard := by
  have hall : positionsFrom code 0 = {i | StandsAt code i} := by
    ext i
    exact and_iff_right (Nat.zero_le i)
  have hcount := countFrom_eq_ncard [] 0 code
  rw [Nat.zero_add] at hcount
  rw [← hall]
  exact hcount

/-- Every position at which a loop construct stands is counted, and counted once. Of two
constructs, the second begins where the first has ended or later, so going on after a construct
misses none. -/
theorem count_exact (code : Text) :
    count code = {i | StandsAt code i}.ncard
      ∧ ∀ u c s v d t, Occurs code u c s → Occurs code v d t → u.length < v.length →
        (u ++ c).length ≤ v.length :=
  ⟨count_eq_ncard code, fun _ _ _ _ _ _ hc hd hlt => hc.not_inside hd hlt⟩

/-- A loop word in the function that a call is made with. The letters `for` in the name of the
method are no construct of their own. -/
theorem count_exact_nested :
    let code := "xs.forEach \n(x => while".toList
    let call := ".forEach \n(".toList
    Occurs code "xs".toList call "x => while".toList
      ∧ Occurs code "xs.forEach \n(x => ".toList "while".toList []
      ∧ "xs".toList.length < "xs.forEach \n(x => ".toList.length
      ∧ ("xs".toList ++ call).length ≤ "xs.forEach \n(x => ".toList.length
      ∧ {i | StandsAt code i}.ncard = 2 := by
  intro code call
  have hblank : Text.Blank " \n".toList := List.all_eq_true.1 (by decide)
  have hcall : Occurs code "xs".toList call "x => while".toList :=
    ⟨by decide, .call (m := ".forEach".toList) (by decide) hblank⟩
  have hspace : ∀ x ∈ "xs.forEach \n(x => ".toList.getLast?, isWord x = false := by
    intro x hx
    obtain rfl : ' ' = x := Option.some.inj hx
    decide
  have hword : Occurs code "xs.forEach \n(x => ".toList "while".toList [] :=
    ⟨by decide, .word (by decide) hspace (by simp)⟩
  obtain ⟨hcount, hdisjoint⟩ := count_exact code
  have htwo : count code = 2 := by decide +kernel
  exact ⟨hcall, hword, by decide, hdisjoint _ _ _ _ _ _ hcall hword (by decide), hcount ▸ htwo⟩

end Loop

end SnippetReview
