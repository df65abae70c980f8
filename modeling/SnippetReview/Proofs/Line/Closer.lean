import Mathlib.Algebra.Group.Nat.Even
import SnippetReview.Proofs.Line.BlockOpening
import SnippetReview.Proofs.Line.Repair

/-!
# What closes a statement

A line can be repaired with any text in place of the usual terminator. If that text does not end in
a blank and its quotes are even in number, the repaired line is settled and stays as it is
(`repair_reaches_settled`).

Neither condition can simply be left out: the line `return` shows it. What ends in a blank settles
all lines only if a mark that ends a block stands before the blanks, since a line that ends so
needs no terminator at all (`forall_settled_repair_iff`).
-/

namespace SnippetReview

namespace Text

theorem endsWithAny_iff {ws : List Text} {s : Text} :
    endsWithAny ws s = true ↔ ∃ w ∈ ws, w <:+ s := by
  simp only [endsWithAny, List.any_eq_true, List.isSuffixOf_iff_suffix]

theorem endsWithAny_append {ws : List Text} {t : Text} (h : endsWithAny ws t = true) (s : Text) :
    endsWithAny ws (s ++ t) = true := by
  rw [endsWithAny_iff] at h ⊢
  obtain ⟨w, hw, hsuffix⟩ := h
  exact ⟨w, hw, hsuffix.trans (List.suffix_append s t)⟩

end Text

namespace Line

/-! ## Closers -/

theorem isCloser_of {close : Text} (hend : ¬ ∃ c, close.getLast? = some c ∧ isBlank c = true)
    (heven : Even (close.count quote)) : IsCloser close where
  endsSolid hne := by
    have hlast := List.getLast?_eq_getLast_of_ne_nil hne
    refine ⟨close.getLast hne, hlast, ?_⟩
    rw [Bool.eq_false_iff]
    exact fun hblank => hend ⟨_, hlast, hblank⟩
  quotesEven := by
    rw [hasOpenQuote, Nat.even_iff.1 heven]
    rfl

/-- A repair with a text that does not end in a blank and has an even number of quotes leaves no
string literal open and no statement without that text at its end, and a second repair changes
nothing. -/
theorem repair_reaches_settled {close : Text}
    (hend : ¬ ∃ c, close.getLast? = some c ∧ isBlank c = true) (heven : Even (close.count quote))
    (line : Text) :
    hasOpenQuote (repair close line) = false
      ∧ needsTerminator close (repair close line) = false
      ∧ repair close (repair close line) = repair close line := by
  have hclose := isCloser_of hend heven
  obtain ⟨hquotes, hclosed⟩ := settled_repair hclose line
  exact ⟨hquotes, hclosed, repair_repair hclose line⟩

/-- A closer that begins with a blank and holds two quotes, and a line that lacks a quote and ends
in two carriage returns. -/
theorem repair_reaches_settled_returns :
    let close := " \"\" end".toList
    let fixed := "x = \"a\" \"\" end\r".toList
    (¬ ∃ c, close.getLast? = some c ∧ isBlank c = true) ∧ Even (close.count quote)
      ∧ repair close "x = \"a \r\r".toList = fixed
      ∧ hasOpenQuote fixed = false ∧ needsTerminator close fixed = false
      ∧ repair close fixed = fixed := by
  intro close fixed
  have hend : ¬ ∃ c, close.getLast? = some c ∧ isBlank c = true := by
    rintro ⟨c, hlast, hblank⟩
    obtain rfl : 'd' = c := Option.some.inj hlast
    exact absurd hblank (by decide)
  have heven : Even (close.count quote) := by decide
  have hfixed : repair close "x = \"a \r\r".toList = fixed := by decide +kernel
  have hreached := repair_reaches_settled hend heven "x = \"a \r\r".toList
  rw [hfixed] at hreached
  exact ⟨hend, heven, hfixed, hreached⟩

/-! ## The line `return` -/

/-- Whether `return` with something after it needs a terminator depends on how it ends. -/
theorem needsTerminator_return (close t : Text) :
    needsTerminator close ("return".toList ++ t)
      = (!Text.endsWithAny blockEnds ("return".toList ++ Text.trimEnd t)
        && !close.isSuffixOf ("return".toList ++ Text.trimEnd t)) := by
  have htrim : Text.trim ("return".toList ++ t) = "return".toList ++ Text.trimEnd t :=
    Text.trim_append_of_endsSolid ⟨'n', rfl, by decide⟩ t
  have hskip : isSkippable ("return".toList ++ Text.trimEnd t)
      = Text.endsWithAny blockEnds ("return".toList ++ Text.trimEnd t) := rfl
  have hblock : opensBlock ("return".toList ++ Text.trimEnd t) = false := by
    rw [opensBlock_of_skipModifier?_eq_none rfl]
    rfl
  have htells : tellsStatement ("return".toList ++ Text.trimEnd t) = true := by
    rw [tellsStatement, Text.mentionsAny, List.any_eq_true]
    refine ⟨"return".toList, by decide, ?_⟩
    rw [Text.occursIn_iff]
    exact ⟨[], Text.trimEnd t, rfl⟩
  rw [needsTerminator, htrim, hskip, hblock, htells]
  simp

theorem endsWithAny_blockEnds_append {t : Text} (ht : t ≠ []) (s : Text) :
    Text.endsWithAny blockEnds (s ++ t) = Text.endsWithAny blockEnds t := by
  have hsingle : ∀ w ∈ blockEnds, w.length = 1 := by decide
  rw [Bool.eq_iff_iff]
  constructor
  · intro h
    rw [Text.endsWithAny_iff] at h ⊢
    obtain ⟨w, hw, hsuffix⟩ := h
    have hlength : w.length ≤ t.length := by
      have hpos := List.length_pos_of_ne_nil ht
      rw [hsingle w hw]
      omega
    exact ⟨w, hw, List.suffix_of_suffix_length_le hsuffix (List.suffix_append s t) hlength⟩
  · exact fun h => Text.endsWithAny_append h s

/-- What is no end of `return` is put after it. -/
theorem repair_return {close : Text} (h : close.isSuffixOf "return".toList = false) :
    repair close "return".toList = "return".toList ++ close := by
  have hneeds : needsTerminator close "return".toList = true := by
    have hreturn := needsTerminator_return close []
    rw [show Text.trimEnd [] = [] from rfl, List.append_nil, h] at hreturn
    rw [hreturn]
    rfl
  show closeStatement close "return".toList ++ [] = _
  rw [closeStatement, if_pos hneeds, List.append_nil]
  rfl

/-! ## Which closers settle every line -/

/-- A closer that ends in a mark of the end of a block and blanks settles lines, too: they need no
terminator any more. -/
theorem settled_repair_of_blockEnd {close : Text} (hquotes : hasOpenQuote close = false)
    (hend : Text.endsWithAny blockEnds (Text.trimEnd close) = true) (line : Text) :
    Settled close (repair close line) := by
  rw [repair_eq, settled_append_blank (blank_splitReturn line), mend, closeStatement]
  have hbody := hasOpenQuote_closeQuote (splitReturn line).1
  generalize closeQuote (splitReturn line).1 = body at hbody ⊢
  split_ifs with hneeds
  · have hsolid := Text.endsSolid_trimEnd (not_blank_of_needsTerminator hneeds)
    refine ⟨by rw [hasOpenQuote_append, hasOpenQuote_trimEnd, hbody, hquotes]; rfl, ?_⟩
    rw [needsTerminator, Text.trim_append_of_endsSolid hsolid, isSkippable,
      Text.endsWithAny_append hend]
    simp
  · exact ⟨hbody, Bool.eq_false_iff.2 hneeds⟩

theorem hasOpenQuote_of_settled_return {close : Text}
    (h : Settled close (repair close "return".toList)) : hasOpenQuote close = false := by
  by_contra hopen
  rw [Bool.not_eq_false] at hopen
  have hnot : close.isSuffixOf "return".toList = false := by
    rw [Text.isSuffixOf_eq_false_iff]
    intro hsuffix
    have hmem : quote ∉ close := fun hmem => absurd (hsuffix.subset hmem) (by decide)
    rw [hasOpenQuote_of_not_mem hmem] at hopen
    exact absurd hopen (by decide)
  have hquotes := h.quotesEven
  rw [repair_return hnot, hasOpenQuote_append, hopen] at hquotes
  exact absurd hquotes (by decide)

theorem end_of_settled_return {close : Text} (h : Settled close (repair close "return".toList))
    (hne : close ≠ []) :
    Text.EndsSolid close ∨ Text.endsWithAny blockEnds (Text.trimEnd close) = true := by
  by_contra hbad
  rw [not_or, Bool.not_eq_true] at hbad
  obtain ⟨hend, hmark⟩ := hbad
  -- what ends in a blank is no end of a text that does not
  have hnot : ∀ s, Text.EndsSolid s → close.isSuffixOf s = false := by
    intro s hs
    rw [Text.isSuffixOf_eq_false_iff]
    exact fun hsuffix => hend (hs.of_suffix hne hsuffix)
  have hreturn : Text.EndsSolid "return".toList := ⟨'n', rfl, by decide⟩
  have hclosed := h.closed
  rw [repair_return (hnot _ hreturn), needsTerminator_return] at hclosed
  by_cases hblank : Text.Blank close
  · rw [Text.trimEnd_eq_nil_iff.2 hblank, List.append_nil, hnot _ hreturn] at hclosed
    exact absurd hclosed (by decide)
  · have hsolid := Text.endsSolid_trimEnd hblank
    rw [hnot _ (Text.endsSolid_append hsolid _),
      endsWithAny_blockEnds_append (mt Text.trimEnd_eq_nil_iff.1 hblank), hmark] at hclosed
    exact absurd hclosed (by decide)

/-- The texts that settle every line they are used on are those with an even number of quotes that
do not end in a blank, or only in blanks after a mark of the end of a block. -/
theorem forall_settled_repair_iff {close : Text} :
    (∀ line, Settled close (repair close line)) ↔
      hasOpenQuote close = false
        ∧ (close ≠ [] → Text.EndsSolid close
          ∨ Text.endsWithAny blockEnds (Text.trimEnd close) = true) := by
  constructor
  · intro hall
    have hreturn := hall "return".toList
    exact ⟨hasOpenQuote_of_settled_return hreturn, end_of_settled_return hreturn⟩
  · rintro ⟨hquotes, hend⟩ line
    by_cases hsolid : close ≠ [] → Text.EndsSolid close
    · exact settled_repair ⟨hsolid, hquotes⟩ line
    · rw [Classical.not_imp] at hsolid
      exact settled_repair_of_blockEnd hquotes ((hend hsolid.1).resolve_left hsolid.2) line

end Line

end SnippetReview
