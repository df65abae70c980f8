import SnippetReview.Proofs.Numeral.Digits
import SnippetReview.Proofs.Text.Lines
import SnippetReview.Proofs.Text.Trimming

/-!
# Integers in decimal

What is written in decimal is read back, as long as it has no more digits than are read
(`read_decimal`). With commas it is the same text in groups of three digits, counted from the end,
so that only the first group can be shorter, and it never is empty (`grouped_inThrees`).
-/

namespace SnippetReview

/-! ## Digits -/

theorem digit_bounds {c : Char} (h : c.isDigit = true) : 0x30 ≤ c.toNat ∧ c.toNat ≤ 0x39 := by
  rw [Char.isDigit, Bool.and_eq_true, decide_eq_true_eq, decide_eq_true_eq] at h
  exact ⟨UInt32.le_iff_toNat_le.1 h.1, UInt32.le_iff_toNat_le.1 h.2⟩

theorem digitValue?_of_isDigit {c : Char} (h : c.isDigit = true) :
    digitValue? c = some (c.toNat - '0'.toNat) := by
  obtain ⟨hlow, hhigh⟩ := digit_bounds h
  have hzeros : digitZeros = 0x30 :: digitZeros.tail := rfl
  have hascii : (decide (0x30 ≤ c.toNat) && decide (c.toNat ≤ 0x30 + 9)) = true := by
    simp [hlow, hhigh]
  rw [digitValue?, hzeros, List.find?_cons, hascii]
  rfl

namespace Numeral

theorem isPadding_of_isDigit {c : Char} (h : c.isDigit = true) : isPadding c = false := by
  obtain ⟨hlow, hhigh⟩ := digit_bounds h
  have hblank : isBlank c = false := by
    rw [Bool.eq_false_iff]
    intro hblank
    obtain ⟨r, hr, hfirst, hlast⟩ := CodeRanges.exists_of_covers hblank
    have hapart : ∀ r ∈ blankRanges, r.2 < 0x30 ∨ 0x39 < r.1 := by decide
    have := hapart r hr
    omega
  rw [isPadding, hblank, Bool.false_and]

theorem exists_digits_eq_cons (n : Nat) : ∃ c t, digits n = c :: t ∧ c.isDigit = true := by
  obtain ⟨c, t, heq⟩ := List.exists_cons_of_ne_nil (Nat.toDigits_ne_nil (n := n) (b := 10))
  exact ⟨c, t, heq, isDigit_of_mem_digits (n := n) (by rw [digits, heq]; exact List.mem_cons_self)⟩

/-! ## Reading what was written -/

theorem dropWhile_isPadding_decimal (n : Int) :
    (decimal n).dropWhile isPadding = decimal n := by
  obtain ⟨c, t, heq, hc⟩ := exists_digits_eq_cons n.natAbs
  have hminus : isPadding '-' = false := by decide
  rw [decimal, sign, heq]
  split_ifs
  · simp [hminus]
  · simp [isPadding_of_isDigit hc]

theorem splitSign_decimal (n : Int) :
    splitSign (decimal n) = (decide (n < 0), digits n.natAbs) := by
  rw [decimal, sign]
  split_ifs with hn
  · simp [splitSign, hn]
  · obtain ⟨c, t, heq, hc⟩ := exists_digits_eq_cons n.natAbs
    rw [List.nil_append, heq, splitSign]
    · simp [hn]
    · rintro rest hminus
      rw [(List.cons.inj hminus).1] at hc
      exact absurd hc (by decide)
    · rintro rest hplus
      rw [(List.cons.inj hplus).1] at hc
      exact absurd hc (by decide)

/-- The digits of a number stand for their values. -/
theorem filterMap_digitValue?_digits (n : Nat) :
    (digits n).filterMap digitValue? = (digits n).map fun c => c.toNat - '0'.toNat := by
  rw [← List.filterMap_eq_map]
  exact List.filterMap_congr fun c hc => digitValue?_of_isDigit (isDigit_of_mem_digits hc)

/-- The values of its digits make the number. -/
theorem ofDigitValues_digits (n : Nat) :
    ofDigitValues ((digits n).map fun c => c.toNat - '0'.toNat) = n := by
  have hvalue : Nat.ofDigitChars 10 (digits n) 0 = n :=
    Nat.ofDigitChars_toDigits (by decide) (by decide)
  rw [Nat.ofDigitChars] at hvalue
  rw [ofDigitValues, List.foldl_map]
  simpa only [Nat.mul_comm] using hvalue

/-- An integer is read from its decimal text, unless that has too many digits. -/
theorem read_decimal {n : Int} (h : (digits n.natAbs).length ≤ maxDigits) :
    read (decimal n) = .ok n := by
  have hnumeral : ∀ c ∈ digits n.natAbs, (c == '_' || (digitValue? c).isSome) = true := by
    intro c hc
    simp [digitValue?_of_isDigit (isDigit_of_mem_digits hc)]
  have hunderscore : '_' ∉ digits n.natAbs := by
    intro hmem
    exact absurd (isDigit_of_mem_digits hmem) (by decide)
  have hempty : (digits n.natAbs).isEmpty = false := by
    obtain ⟨c, t, heq, -⟩ := exists_digits_eq_cons n.natAbs
    rw [heq]
    rfl
  have htake := List.takeWhile_eq_self_iff.2 hnumeral
  have hdrop := List.dropWhile_eq_nil_iff.2 hnumeral
  rw [read, dropWhile_isPadding_decimal, splitSign_decimal]
  simp only [htake, hdrop, pieces_of_not_mem hunderscore, List.flatten_singleton,
    filterMap_digitValue?_digits, ofDigitValues_digits, List.any_cons, List.any_nil, hempty,
    List.length_map, List.all_nil]
  rw [if_neg (by simp), if_neg (Nat.not_lt.2 h), if_neg (by simp)]
  by_cases hn : n < 0
  · have hvalue : -(n.natAbs : Int) = n := by omega
    rw [if_pos (decide_eq_true hn), hvalue]
  · have hvalue : (n.natAbs : Int) = n := by omega
    rw [if_neg (by simpa using hn), hvalue]

/-! ## Groups of three digits -/

/-- A text is an integer in decimal with commas: its sign and its digits in groups, of which the
first has from one to three and every other has three. -/
structure InThrees (n : Int) (s : Text) : Prop where
  groups : ∃ first others, s = sign n ++ joinPieces ',' (first :: others)
    ∧ 1 ≤ first.length ∧ first.length ≤ 3 ∧ (∀ g ∈ others, g.length = 3)
    ∧ ∀ g ∈ first :: others, ∀ c ∈ g, c.isDigit = true
  without_commas : s.filter (· != ',') = decimal n

theorem groupThrees_of_length_le {ds : Text} (h : ds.length ≤ 3) : groupThrees ds = ds := by
  rw [groupThrees]
  rintro a b c d rest rfl
  simp only [List.length_cons] at h
  omega

/-- Digits are cut into groups from the end. The induction takes one group of three after the other,
as long as more than three digits are left. -/
theorem exists_groups {ds : Text} (hne : ds ≠ []) :
    ∃ first others, (groupThrees ds).reverse = joinPieces ',' (first :: others)
      ∧ (first :: others).flatten = ds.reverse
      ∧ 1 ≤ first.length ∧ first.length ≤ 3 ∧ ∀ g ∈ others, g.length = 3 := by
  induction ds using groupThrees.induct with
  | case1 a b c d rest ih =>
    obtain ⟨first, others, hjoin, hflat, hpos, hle, hthree⟩ := ih (List.cons_ne_nil d rest)
    refine ⟨first, others ++ [[c, b, a]], ?_, ?_, hpos, hle, ?_⟩
    · have hlast : joinPieces ',' (first :: others ++ [[c, b, a]])
          = joinPieces ',' (first :: others) ++ ',' :: joinPieces ',' [[c, b, a]] :=
        joinPieces_append (List.cons_ne_nil first others) (List.cons_ne_nil [c, b, a] [])
      rw [← List.cons_append, hlast, ← hjoin, groupThrees]
      simp [joinPieces]
    · rw [← List.cons_append, List.flatten_append, hflat]
      simp
    · intro g hg
      rcases List.mem_append.1 hg with hg | hg
      · exact hthree g hg
      · rw [List.mem_singleton.1 hg]
        rfl
  | case2 ds hshort =>
    have hlength : ds.length ≤ 3 := by
      rcases ds with _ | ⟨a, _ | ⟨b, _ | ⟨c, _ | ⟨d, rest⟩⟩⟩⟩
      · simp
      · simp
      · simp
      · simp
      · exact absurd rfl (hshort a b c d rest)
    have hpos := List.length_pos_iff.2 hne
    refine ⟨ds.reverse, [], ?_, by simp, ?_, by simpa using hlength, by simp⟩
    · rw [groupThrees_of_length_le hlength, joinPieces, List.intercalate_singleton]
    · rw [List.length_reverse]
      exact hpos

/-- An integer with commas is the integer in decimal, in groups of three digits. -/
theorem grouped_inThrees (n : Int) : InThrees n (grouped n) := by
  have hne : (digits n.natAbs).reverse ≠ [] := by
    obtain ⟨c, t, heq, -⟩ := exists_digits_eq_cons n.natAbs
    simp [heq]
  obtain ⟨first, others, hjoin, hflat, hpos, hle, hthree⟩ := exists_groups hne
  rw [List.reverse_reverse] at hflat
  have hdigit : ∀ g ∈ first :: others, ∀ c ∈ g, c.isDigit = true := by
    intro g hg c hc
    refine isDigit_of_mem_digits (n := n.natAbs) ?_
    rw [← hflat]
    exact List.mem_flatten.2 ⟨g, hg, hc⟩
  refine ⟨⟨first, others, by rw [grouped, hjoin], hpos, hle, hthree, hdigit⟩, ?_⟩
  have hcomma : ∀ g ∈ first :: others, ',' ∉ g := by
    intro g hg hmem
    exact absurd (hdigit g hg ',' hmem) (by decide)
  have hsign : (sign n).filter (· != ',') = sign n := by
    rw [sign]
    split_ifs <;> rfl
  rw [grouped, hjoin, List.filter_append, hsign, filter_joinPieces hcomma, hflat, decimal]

end Numeral

end SnippetReview
