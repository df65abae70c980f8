import SnippetReview.Proofs.Line.BlockOpening

/-!
# The grammar of block openings

A line opens a block if it is a block keyword that ends there as a word, after any number of
modifiers with blanks behind each of them (`Opening`). That is all the grammar says: it does not
tell which words are tried first, or how many blanks are taken at a time. But there is never a
choice.

* Modifiers and keywords are made of word characters, and what follows one of them is not a word
  character. So each is the longest run of word characters where it stands (`firstWord_append`), and
  no modifier is a keyword.
* A modifier or a keyword follows the blanks after a modifier, and neither begins with a blank. So
  the modifier takes all of them (`Opening.trimStart_eq`).

So a text can be read greedily: modifiers are skipped as long as there is one, and what counts is
the word that stands there then. The test, the grammar and the greedy reading agree on every text
(`opensBlock_exact`).
-/

namespace SnippetReview

/-- No blank character belongs to a word. -/
theorem isWord_of_isBlank {c : Char} (h : isBlank c = true) : isWord c = false := by
  have hnone : ∀ r ∈ blankRanges, ∀ n ∈ List.range' r.1 (r.2 + 1 - r.1),
      n ≠ '_'.toNat ∧ alphanumericRanges.covers n = false := by decide +kernel
  obtain ⟨r, hr, hfirst, hlast⟩ := CodeRanges.exists_of_covers h
  obtain ⟨hne, hcovers⟩ := hnone r hr c.toNat (List.mem_range'_1.2 ⟨hfirst, by omega⟩)
  have hunderscore : c ≠ '_' := by
    rintro rfl
    exact hne rfl
  simp [isWord, hunderscore, hcovers]

/-! ## The first word of a text -/

/-- The longest run of word characters at the start of a text. -/
def firstWord (s : Text) : Text := s.takeWhile isWord

/-- A word at the start of a text is the longest run if it ends there. -/
theorem firstWord_append {w after : Text} (hw : w.all isWord = true)
    (hends : endsWord after = true) : firstWord (w ++ after) = w := by
  rw [firstWord, List.takeWhile_append_of_pos (List.all_eq_true.1 hw)]
  cases after with
  | nil => simp
  | cons c after =>
    have hc : isWord c = false := by simpa [endsWord] using hends
    simp [hc]

theorem exists_eq_firstWord_append (s : Text) :
    ∃ after, s = firstWord s ++ after ∧ endsWord after = true := by
  refine ⟨s.dropWhile isWord, List.takeWhile_append_dropWhile.symm, ?_⟩
  have hhead := List.head?_dropWhile_not isWord s
  cases hafter : s.dropWhile isWord with
  | nil => rfl
  | cons c after =>
    rw [hafter] at hhead
    simpa [endsWord] using hhead

/-- A word ends before a blank. -/
theorem endsWord_blank_append {blanks : Text} (hne : blanks ≠ []) (hblank : Text.Blank blanks)
    (s : Text) : endsWord (blanks ++ s) = true := by
  cases blanks with
  | nil => exact absurd rfl hne
  | cons c blanks => simp [endsWord, isWord_of_isBlank (hblank c List.mem_cons_self)]

namespace Line

/-! ## The words of the grammar -/

theorem all_isWord_of_mem_modifiers : ∀ m ∈ modifiers, m.all isWord = true := by decide

theorem all_isWord_of_mem_blockKeywords : ∀ k ∈ blockKeywords, k.all isWord = true := by decide

theorem not_mem_blockKeywords_of_mem_modifiers : ∀ m ∈ modifiers, m ∉ blockKeywords := by decide

theorem startsWithBlockKeyword_iff {s : Text} :
    startsWithBlockKeyword s = true ↔ firstWord s ∈ blockKeywords := by
  rw [startsWithBlockKeyword, List.any_eq_true]
  constructor
  · rintro ⟨k, hk, hstarts⟩
    rw [Bool.and_eq_true, List.isPrefixOf_iff_prefix] at hstarts
    obtain ⟨⟨after, rfl⟩, hends⟩ := hstarts
    rw [List.drop_left] at hends
    rwa [firstWord_append (all_isWord_of_mem_blockKeywords k hk) hends]
  · intro h
    obtain ⟨after, hs, hends⟩ := exists_eq_firstWord_append s
    generalize firstWord s = k at h hs
    subst hs
    refine ⟨k, h, ?_⟩
    rw [Bool.and_eq_true, List.isPrefixOf_iff_prefix, List.drop_left]
    exact ⟨List.prefix_append k after, hends⟩

theorem startsWithModifier_iff {s m : Text} :
    startsWithModifier s m = true ↔ ∃ c after, isBlank c = true ∧ s = m ++ c :: after := by
  rw [startsWithModifier, Bool.and_eq_true, List.isPrefixOf_iff_prefix]
  constructor
  · rintro ⟨⟨after, rfl⟩, hblank⟩
    rw [List.drop_left] at hblank
    cases after with
    | nil => simp at hblank
    | cons c after => exact ⟨c, after, by simpa using hblank, rfl⟩
  · rintro ⟨c, after, hblank, rfl⟩
    exact ⟨List.prefix_append m _, by simp [hblank]⟩

/-- A modifier with a blank behind it is the first word. -/
theorem firstWord_of_startsWithModifier {s m : Text} (hm : m ∈ modifiers)
    (h : startsWithModifier s m = true) : firstWord s = m := by
  obtain ⟨c, after, hblank, rfl⟩ := startsWithModifier_iff.1 h
  refine firstWord_append (all_isWord_of_mem_modifiers m hm) ?_
  simp [endsWord, isWord_of_isBlank hblank]

/-! ## Skipping a modifier -/

/-- What is skipped is a modifier with the blanks behind it. -/
theorem exists_of_skipModifier? {s rest : Text} (h : skipModifier? s = some rest) :
    ∃ m blanks, m ∈ modifiers ∧ blanks ≠ [] ∧ Text.Blank blanks ∧ s = m ++ blanks ++ rest := by
  rw [skipModifier?, Option.map_eq_some_iff] at h
  obtain ⟨m, hfound, rfl⟩ := h
  obtain ⟨c, after, hblank, rfl⟩ := startsWithModifier_iff.1 (List.find?_some hfound)
  rw [List.drop_left]
  refine ⟨m, (c :: after).takeWhile isBlank, List.mem_of_find?_eq_some hfound, ?_, ?_, ?_⟩
  · simp [hblank]
  · exact fun x hx => List.mem_takeWhile_imp hx
  · rw [List.append_assoc, Text.trimStart, List.takeWhile_append_dropWhile]

/-- A modifier is skipped wherever one stands with blanks behind it: no other is found in its
place. -/
theorem skipModifier?_append {m blanks : Text} (hm : m ∈ modifiers) (hne : blanks ≠ [])
    (hblank : Text.Blank blanks) (rest : Text) :
    skipModifier? (m ++ blanks ++ rest) = some (Text.trimStart rest) := by
  have hstarts : startsWithModifier (m ++ blanks ++ rest) m = true := by
    rw [startsWithModifier_iff]
    cases blanks with
    | nil => exact absurd rfl hne
    | cons c blanks => exact ⟨c, blanks ++ rest, hblank c List.mem_cons_self, by simp⟩
  have hfind : modifiers.find? (startsWithModifier (m ++ blanks ++ rest)) = some m := by
    have hsome : (modifiers.find? (startsWithModifier (m ++ blanks ++ rest))).isSome = true :=
      List.find?_isSome.2 ⟨m, hm, hstarts⟩
    obtain ⟨m', hfound⟩ := Option.isSome_iff_exists.1 hsome
    have hword := firstWord_of_startsWithModifier (List.mem_of_find?_eq_some hfound)
      (List.find?_some hfound)
    rw [firstWord_of_startsWithModifier hm hstarts] at hword
    rw [hfound, hword]
  rw [skipModifier?, hfind, Option.map_some, List.append_assoc, List.drop_left,
    Text.trimStart_blank_append hblank]

/-- Where a modifier is skipped, there is no keyword. -/
theorem startsWithBlockKeyword_of_skipModifier? {s rest : Text} (h : skipModifier? s = some rest) :
    startsWithBlockKeyword s = false := by
  obtain ⟨m, blanks, hm, hne, hblank, rfl⟩ := exists_of_skipModifier? h
  rw [Bool.eq_false_iff, ne_eq, startsWithBlockKeyword_iff, List.append_assoc,
    firstWord_append (all_isWord_of_mem_modifiers m hm) (endsWord_blank_append hne hblank rest)]
  exact not_mem_blockKeywords_of_mem_modifiers m hm

/-! ## The grammar -/

/-- The lines that open a block: modifiers, each with one or more blanks behind it, and then a block
keyword that ends as a word. -/
inductive Opening : Text → Prop
  | keyword {k after : Text} (isKeyword : k ∈ blockKeywords) (ends : endsWord after = true) :
      Opening (k ++ after)
  | modifier {m blanks rest : Text} (isModifier : m ∈ modifiers) (nonempty : blanks ≠ [])
      (blank : Text.Blank blanks) (opening : Opening rest) : Opening (m ++ blanks ++ rest)

theorem exists_cons_of_word {w : Text} (hw : w.all isWord = true) (hne : w ≠ []) :
    ∃ c t, w = c :: t ∧ isBlank c = false := by
  cases w with
  | nil => exact absurd rfl hne
  | cons c t =>
    rw [List.all_cons, Bool.and_eq_true] at hw
    refine ⟨c, t, rfl, ?_⟩
    by_contra hblank
    rw [isWord_of_isBlank (by simpa using hblank)] at hw
    exact absurd hw.1 (by decide)

/-- An opening does not begin with a blank. -/
theorem Opening.trimStart_eq {s : Text} (h : Opening s) : Text.trimStart s = s := by
  have hkeywords : ∀ k ∈ blockKeywords, k ≠ [] := by decide
  have hmodifiers : ∀ m ∈ modifiers, m ≠ [] := by decide
  cases h with
  | @keyword k after hk _ =>
    obtain ⟨c, t, rfl, hc⟩ :=
      exists_cons_of_word (all_isWord_of_mem_blockKeywords k hk) (hkeywords k hk)
    simp [Text.trimStart, hc]
  | @modifier m blanks rest hm _ _ _ =>
    obtain ⟨c, t, rfl, hc⟩ :=
      exists_cons_of_word (all_isWord_of_mem_modifiers m hm) (hmodifiers m hm)
    simp [Text.trimStart, hc]

/-- Every opening passes the test. -/
theorem opensBlock_of_opening {s : Text} (h : Opening s) : opensBlock s = true := by
  induction h with
  | @keyword k after hk hends =>
    have hstarts : startsWithBlockKeyword (k ++ after) = true := by
      rw [startsWithBlockKeyword_iff,
        firstWord_append (all_isWord_of_mem_blockKeywords k hk) hends]
      exact hk
    rw [opensBlock, hstarts, Bool.true_or]
  | modifier hm hne hblank hopening ih =>
    rw [opensBlock_of_skipModifier?_eq_some (skipModifier?_append hm hne hblank _),
      hopening.trimStart_eq, ih, Bool.or_true]

/-- Whatever passes the test is an opening. The induction follows the modifiers that are skipped. -/
theorem opening_of_opensBlock {s : Text} (h : opensBlock s = true) : Opening s := by
  have hkeyword : ∀ t, startsWithBlockKeyword t = true → Opening t := by
    intro t ht
    obtain ⟨after, heq, hends⟩ := exists_eq_firstWord_append t
    rw [heq]
    exact .keyword (startsWithBlockKeyword_iff.1 ht) hends
  induction s using opensBlock.induct with
  | case1 s ih =>
    cases hskip : skipModifier? s with
    | none =>
      rw [opensBlock_of_skipModifier?_eq_none hskip] at h
      exact hkeyword s h
    | some rest =>
      rw [opensBlock_of_skipModifier?_eq_some hskip,
        startsWithBlockKeyword_of_skipModifier? hskip, Bool.false_or] at h
      obtain ⟨m, blanks, hm, hne, hblank, rfl⟩ := exists_of_skipModifier? hskip
      exact .modifier hm hne hblank (ih rest hskip h)

/-! ## The greedy reading -/

/-- What is left of a text when modifiers with blanks behind them are skipped as long as there is
one. -/
def skipModifiers (s : Text) : Text :=
  match _h : skipModifier? s with
  | some rest => skipModifiers rest
  | none => s
termination_by s.length
decreasing_by exact length_skipModifier _h

theorem skipModifiers_of_eq_some {s rest : Text} (h : skipModifier? s = some rest) :
    skipModifiers s = skipModifiers rest := by
  rw [skipModifiers]
  split
  · next rest' h' =>
    rw [h, Option.some.injEq] at h'
    rw [h']
  · next h' =>
    rw [h] at h'
    exact absurd h' (by simp)

theorem skipModifiers_of_eq_none {s : Text} (h : skipModifier? s = none) : skipModifiers s = s := by
  rw [skipModifiers]
  split
  · next rest' h' =>
    rw [h] at h'
    exact absurd h' (by simp)
  · rfl

/-- The test reads greedily: it never has to go back to a modifier that was skipped. -/
theorem opensBlock_iff_firstWord {s : Text} :
    opensBlock s = true ↔ firstWord (skipModifiers s) ∈ blockKeywords := by
  induction s using opensBlock.induct with
  | case1 s ih =>
    cases hskip : skipModifier? s with
    | none =>
      rw [opensBlock_of_skipModifier?_eq_none hskip, skipModifiers_of_eq_none hskip,
        startsWithBlockKeyword_iff]
    | some rest =>
      rw [opensBlock_of_skipModifier?_eq_some hskip, skipModifiers_of_eq_some hskip,
        startsWithBlockKeyword_of_skipModifier? hskip, Bool.false_or]
      exact ih rest hskip

/-- A line opens a block exactly if it is in the grammar, and exactly if the first word after all
modifiers that can be skipped is a block keyword. -/
theorem opensBlock_exact (s : Text) :
    (opensBlock s = true ↔ Opening s)
      ∧ (opensBlock s = true ↔ firstWord (skipModifiers s) ∈ blockKeywords) := by
  constructor
  · exact ⟨opening_of_opensBlock, opensBlock_of_opening⟩
  · exact opensBlock_iff_firstWord

end Line

end SnippetReview
