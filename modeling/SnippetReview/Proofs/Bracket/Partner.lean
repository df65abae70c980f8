import SnippetReview.Proofs.Finding.Message

/-!
# Brackets and their partners

Shapes aside, a closer belongs to the opener from which it is parted by text that closes as often as
it opens, and nowhere before its end more often (`Partner`). It belongs to one opener at most
(`Partner.opener_unique`).

* The waiting openers of a pass are those after which nowhere more has been closed than opened, and
  the one that stands `k` places below the top has `k` more openers than closers after it
  (`Waiting`).
* So a closer takes its partner off the top (`Waiting.partner_iff`), and an opener waits to the end
  exactly if it is the partner of no closer (`staysOpen_iff_forall_not_partner`).
* Hence the findings: first the closers that have no partner of their own shape, and then the
  openers that are partners of no closer (`check_partners`).
-/

namespace SnippetReview

namespace Bracket

/-! ## How often a text opens and closes -/

/-- Whether a character is an opener, of whatever shape. -/
def isOpener (c : Char) : Bool := c == '(' || c == '\x7b' || c == '['

/-- Whether a character is a closer, of whatever shape. -/
def isCloser (c : Char) : Bool := c == ')' || c == '\x7d' || c == ']'

/-- The number of openers in a text. -/
def openers (s : Text) : Nat := s.countP isOpener

/-- The number of closers in a text. -/
def closers (s : Text) : Nat := s.countP isCloser

theorem isOpener_eq_true_iff {c : Char} : isOpener c = true ↔ ∃ t : Shape, c = t.openChar := by
  simp only [isOpener, Bool.or_eq_true, beq_iff_eq]
  constructor
  · rintro ((rfl | rfl) | rfl)
    · exact ⟨.round, rfl⟩
    · exact ⟨.curly, rfl⟩
    · exact ⟨.square, rfl⟩
  · rintro ⟨t, rfl⟩
    cases t <;> decide

theorem isCloser_eq_true_iff {c : Char} : isCloser c = true ↔ ∃ t : Shape, c = t.closeChar := by
  simp only [isCloser, Bool.or_eq_true, beq_iff_eq]
  constructor
  · rintro ((rfl | rfl) | rfl)
    · exact ⟨.round, rfl⟩
    · exact ⟨.curly, rfl⟩
    · exact ⟨.square, rfl⟩
  · rintro ⟨t, rfl⟩
    cases t <;> decide

@[simp] theorem openers_append (s t : Text) : openers (s ++ t) = openers s + openers t :=
  List.countP_append

@[simp] theorem closers_append (s t : Text) : closers (s ++ t) = closers s + closers t :=
  List.countP_append

@[simp] theorem openers_openChar (t : Shape) : openers [t.openChar] = 1 := by
  cases t <;> decide

@[simp] theorem closers_openChar (t : Shape) : closers [t.openChar] = 0 := by
  cases t <;> decide

@[simp] theorem openers_closeChar (t : Shape) : openers [t.closeChar] = 0 := by
  cases t <;> decide

@[simp] theorem closers_closeChar (t : Shape) : closers [t.closeChar] = 1 := by
  cases t <;> decide

theorem openers_of_neutral {c : Char} (h : Neutral c) : openers [c] = 0 := by
  have hc : isOpener c = false := by
    rw [Bool.eq_false_iff, ne_eq, isOpener_eq_true_iff]
    rintro ⟨t, ht⟩
    exact (h t).1 ht
  simp [openers, hc]

theorem closers_of_neutral {c : Char} (h : Neutral c) : closers [c] = 0 := by
  have hc : isCloser c = false := by
    rw [Bool.eq_false_iff, ne_eq, isCloser_eq_true_iff]
    rintro ⟨t, ht⟩
    exact (h t).2 ht
  simp [closers, hc]

/-! ## Texts that keep an opener before them open -/

/-- No beginning of the text has more closers than openers. -/
def StaysOpen (s : Text) : Prop := ∀ p, p <+: s → closers p ≤ openers p

/-- The text has as many openers as closers, and no beginning of it has more closers than openers;
shapes are ignored. -/
structure DepthBalanced (s : Text) : Prop where
  closers_eq : closers s = openers s
  staysOpen : StaysOpen s

theorem staysOpen_nil : StaysOpen [] := by
  intro p hp
  rw [List.prefix_nil.1 hp]
  exact Nat.le_refl 0

theorem staysOpen_concat {q : Text} {c : Char} : StaysOpen (q ++ [c]) ↔
    StaysOpen q ∧ closers (q ++ [c]) ≤ openers (q ++ [c]) := by
  constructor
  · intro h
    exact ⟨fun p hp => h p (hp.trans (List.prefix_append q [c])), h _ (List.prefix_refl _)⟩
  · rintro ⟨hq, hlast⟩ p hp
    rcases List.prefix_concat_iff.1 hp with rfl | hp
    · exact hlast
    · exact hq p hp

section Concat

variable {q : Text}

theorem StaysOpen.closers_le (h : StaysOpen q) : closers q ≤ openers q := h q (List.prefix_refl q)

theorem staysOpen_concat_openChar (t : Shape) : StaysOpen (q ++ [t.openChar]) ↔ StaysOpen q := by
  rw [staysOpen_concat, and_iff_left_iff_imp]
  intro h
  have hle := h.closers_le
  rw [openers_append, closers_append, openers_openChar, closers_openChar]
  omega

theorem staysOpen_concat_of_neutral {c : Char} (hc : Neutral c) :
    StaysOpen (q ++ [c]) ↔ StaysOpen q := by
  rw [staysOpen_concat, and_iff_left_iff_imp]
  intro h
  simpa [openers_of_neutral hc, closers_of_neutral hc] using h.closers_le

theorem staysOpen_concat_closeChar (t : Shape) :
    StaysOpen (q ++ [t.closeChar]) ↔ StaysOpen q ∧ closers q < openers q := by
  rw [staysOpen_concat, openers_append, closers_append, openers_closeChar, closers_closeChar,
    Nat.add_one_le_iff, Nat.add_zero]

end Concat

/-! ## Brackets listed in order -/

/-- The brackets of which `P` holds and no others, in the order of their positions. -/
structure Enumerates (P : Shape → Nat → Prop) (ms : List (Shape × Nat)) : Prop where
  sorted : ms.Pairwise fun m n => m.2 < n.2
  mem_iff : ∀ t i, (t, i) ∈ ms ↔ P t i

namespace Enumerates

variable {P Q : Shape → Nat → Prop} {ms : List (Shape × Nat)}

theorem congr (h : Enumerates P ms) (hiff : ∀ t i, Q t i ↔ P t i) : Enumerates Q ms :=
  ⟨h.sorted, fun t i => (h.mem_iff t i).trans (hiff t i).symm⟩

/-- One more bracket, further on than all others. -/
theorem concat {t : Shape} {i : Nat} (h : Enumerates P ms) (hlt : ∀ u k, P u k → k < i)
    (hiff : ∀ u k, Q u k ↔ P u k ∨ u = t ∧ k = i) : Enumerates Q (ms ++ [(t, i)]) where
  sorted := by
    rw [List.pairwise_append]
    refine ⟨h.sorted, List.pairwise_singleton _ _, fun m hm n hn => ?_⟩
    rw [List.mem_singleton.1 hn]
    exact hlt m.1 m.2 ((h.mem_iff m.1 m.2).1 hm)
  mem_iff := by
    intro u k
    rw [List.mem_append, List.mem_singleton, Prod.mk.injEq, h.mem_iff, hiff]

end Enumerates

/-! ## Partners -/

/-- What stands strictly between two positions of a text. -/
def between (code : Text) (j i : Nat) : Text := (code.drop (j + 1)).take (i - (j + 1))

/-- The closer at position `i` belongs to the opener at position `j`, whatever their shapes. -/
structure Partner (code : Text) (j i : Nat) : Prop where
  lt : j < i
  opens : ∃ t : Shape, code[j]? = some t.openChar
  closes : ∃ t : Shape, code[i]? = some t.closeChar
  balanced : DepthBalanced (between code j i)

/-- There is a closer of the given shape at a position, and it has no partner or one of another
shape. -/
def IsUnexpected (code : Text) (t : Shape) (i : Nat) : Prop :=
  code[i]? = some t.closeChar ∧
    ((∀ j, ¬ Partner code j i) ∨
      ∃ j u, Partner code j i ∧ code[j]? = some (Shape.openChar u) ∧ u ≠ t)

/-- There is an opener of the given shape at a position, and it is the partner of no closer. -/
def IsUnclosed (code : Text) (t : Shape) (j : Nat) : Prop :=
  code[j]? = some t.openChar ∧ ∀ i, ¬ Partner code j i

section Between

variable {code : Text} {j i : Nat}

theorem between_append {p s : Text} (hlt : j < i) (hle : i ≤ p.length) :
    between (p ++ s) j i = between p j i := by
  have hlength : i - (j + 1) ≤ (p.drop (j + 1)).length := by
    rw [List.length_drop]
    omega
  rw [between, between, List.drop_append_of_le_length (by omega),
    List.take_append_of_le_length hlength]

theorem between_eq_drop (h : code.length ≤ i) : between code j i = code.drop (j + 1) := by
  apply List.take_of_length_le
  rw [List.length_drop]
  omega

theorem between_prefix_drop : between code j i <+: code.drop (j + 1) := List.take_prefix _ _

/-- What stands between two positions grows by the character at the second. -/
theorem between_succ (hlt : j < i) :
    between code j (i + 1) = between code j i ++ code[i]?.toList := by
  have hcount : i + 1 - (j + 1) = i - (j + 1) + 1 := by omega
  have hindex : j + 1 + (i - (j + 1)) = i := by omega
  rw [between, hcount, List.take_add_one, List.getElem?_drop, hindex, between]

/-- A character between two positions parts what stands between them. -/
theorem between_split {k : Nat} {c : Char} (hj : j < k) (hi : k < i) (hc : code[k]? = some c) :
    between code j i = between code j k ++ c :: between code k i := by
  have hcount : i - (j + 1) = k - (j + 1) + (i - (k + 1) + 1) := by omega
  have hindex : j + 1 + (k - (j + 1)) = k := by omega
  have hdrop : code.drop k = c :: code.drop (k + 1) := by
    obtain ⟨hk, rfl⟩ := List.getElem?_eq_some_iff.1 hc
    exact List.drop_eq_getElem_cons hk
  rw [between, hcount, List.take_add, List.drop_drop, hindex, hdrop, List.take_succ_cons, between,
    between]

end Between

/-- Partners are partners in any text that begins as this one does. -/
theorem partner_append {p s : Text} {j i : Nat} (hi : i < p.length) :
    Partner (p ++ s) j i ↔ Partner p j i := by
  have hat : ∀ {k : Nat}, k < p.length → (p ++ s)[k]? = p[k]? := List.getElem?_append_left
  constructor
  · rintro ⟨hlt, hopens, hcloses, hbalanced⟩
    rw [hat (by omega)] at hopens hcloses
    rw [between_append hlt (by omega)] at hbalanced
    exact ⟨hlt, hopens, hcloses, hbalanced⟩
  · rintro ⟨hlt, hopens, hcloses, hbalanced⟩
    rw [← hat (by omega)] at hopens hcloses
    rw [← between_append hlt (by omega)] at hbalanced
    exact ⟨hlt, hopens, hcloses, hbalanced⟩

theorem isUnexpected_append {p s : Text} {t : Shape} {i : Nat} (hi : i < p.length) :
    IsUnexpected (p ++ s) t i ↔ IsUnexpected p t i := by
  have hat : ∀ {k : Nat}, k < p.length → (p ++ s)[k]? = p[k]? := List.getElem?_append_left
  unfold IsUnexpected
  simp only [partner_append hi, hat hi]
  refine and_congr_right fun _ => or_congr_right ?_
  constructor
  · rintro ⟨j, u, hpartner, hopens, hne⟩
    rw [hat (hpartner.lt.trans hi)] at hopens
    exact ⟨j, u, hpartner, hopens, hne⟩
  · rintro ⟨j, u, hpartner, hopens, hne⟩
    rw [← hat (hpartner.lt.trans hi)] at hopens
    exact ⟨j, u, hpartner, hopens, hne⟩

/-- The text behind an opener further left has closed more often than opened when the closer of an
opener further right is reached. -/
theorem Partner.not_lt {code : Text} {j k i : Nat} (hj : Partner code j i) (hk : Partner code k i) :
    ¬ j < k := by
  intro hlt
  obtain ⟨t, hopens⟩ := hk.opens
  have hsplit := between_split hlt hk.lt hopens
  have hleft : closers (between code j k) ≤ openers (between code j k) := by
    apply hj.balanced.staysOpen
    rw [hsplit]
    exact List.prefix_append _ _
  have hright := hk.balanced.closers_eq
  have hall := hj.balanced.closers_eq
  rw [hsplit, ← List.singleton_append, openers_append, openers_append, closers_append,
    closers_append, openers_openChar, closers_openChar] at hall
  omega

/-- A closer has one partner at most. -/
theorem Partner.opener_unique {code : Text} {j k i : Nat} (hj : Partner code j i)
    (hk : Partner code k i) : j = k := by
  have hjk := hj.not_lt hk
  have hkj := hk.not_lt hj
  omega

/-- An opener stays open to the end of the text exactly if it is the partner of no closer. The first
closer that is one too many would be its partner. -/
theorem staysOpen_iff_forall_not_partner {code : Text} {t : Shape} {j : Nat}
    (hopens : code[j]? = some t.openChar) :
    StaysOpen (code.drop (j + 1)) ↔ ∀ i, ¬ Partner code j i := by
  constructor
  · intro hstays i hpartner
    obtain ⟨u, hcloses⟩ := hpartner.closes
    have hnext : between code j (i + 1) = _ := between_succ hpartner.lt
    rw [hcloses, Option.toList_some] at hnext
    have hle := hstays _ (between_prefix_drop (i := i + 1))
    have heq := hpartner.balanced.closers_eq
    rw [hnext, openers_append, closers_append, openers_closeChar, closers_closeChar] at hle
    omega
  · intro hnone
    have hall : ∀ n, StaysOpen (between code j (j + 1 + n)) := by
      intro n
      induction n with
      | zero => simpa [between] using staysOpen_nil
      | succ n ih =>
        rw [← Nat.add_assoc, between_succ (by omega)]
        cases hc : code[j + 1 + n]? with
        | none => simpa using ih
        | some c =>
          rw [Option.toList_some]
          rcases char_cases c with ⟨u, rfl⟩ | ⟨u, rfl⟩ | hneutral
          · exact (staysOpen_concat_openChar u).2 ih
          · refine (staysOpen_concat_closeChar u).2 ⟨ih, ?_⟩
            have hle := ih.closers_le
            have hne :
                closers (between code j (j + 1 + n)) ≠ openers (between code j (j + 1 + n)) :=
              fun heq => hnone _ ⟨by omega, ⟨t, hopens⟩, ⟨u, hc⟩, ⟨heq, ih⟩⟩
            omega
          · exact (staysOpen_concat_of_neutral hneutral).2 ih
    have hend := hall code.length
    rwa [between_eq_drop (by omega)] at hend

/-! ## The openers that wait -/

/-- An opener of the given shape stands at a position and is still open when `p` has been read. -/
def IsWaiting (p : Text) (t : Shape) (j : Nat) : Prop :=
  p[j]? = some t.openChar ∧ StaysOpen (p.drop (j + 1))

theorem IsWaiting.lt_length {p : Text} {t : Shape} {j : Nat} (h : IsWaiting p t j) :
    j < p.length :=
  (List.getElem?_eq_some_iff.1 h.1).1

section ReadOne

variable {p : Text} {t : Shape} {j : Nat}

theorem isWaiting_concat {c : Char} : IsWaiting (p ++ [c]) t j ↔
    (p[j]? = some t.openChar ∧ StaysOpen (p.drop (j + 1) ++ [c]))
      ∨ c = t.openChar ∧ j = p.length := by
  unfold IsWaiting
  rcases Nat.lt_trichotomy j p.length with hj | rfl | hj
  · rw [List.getElem?_append_left hj, List.drop_append_of_le_length hj]
    simp only [Nat.ne_of_lt hj, and_false, or_false]
  · simp [staysOpen_nil]
  · have hnone : (p ++ [c])[j]? = none := by
      rw [List.getElem?_eq_none_iff, List.length_append, List.length_singleton]
      omega
    simp [hnone, List.getElem?_eq_none (Nat.le_of_lt hj), Nat.ne_of_gt hj]

theorem isWaiting_concat_openChar (u : Shape) :
    IsWaiting (p ++ [u.openChar]) t j ↔ IsWaiting p t j ∨ t = u ∧ j = p.length := by
  rw [isWaiting_concat, staysOpen_concat_openChar, Shape.openChar_injective.eq_iff,
    eq_comm (a := u)]
  rfl

theorem isWaiting_concat_of_neutral {c : Char} (hc : Neutral c) :
    IsWaiting (p ++ [c]) t j ↔ IsWaiting p t j := by
  rw [isWaiting_concat, staysOpen_concat_of_neutral hc, or_iff_left]
  · rfl
  · exact fun h => (hc t).1 h.1

/-- A closer leaves those openers waiting that it does not take off. -/
theorem isWaiting_concat_closeChar (u : Shape) : IsWaiting (p ++ [u.closeChar]) t j ↔
    IsWaiting p t j ∧ closers (p.drop (j + 1)) < openers (p.drop (j + 1)) := by
  have hne : u.closeChar ≠ t.openChar := by
    cases u <;> cases t <;> decide
  rw [isWaiting_concat, staysOpen_concat_closeChar, or_iff_left (fun h => hne h.1), ← and_assoc]
  rfl

end ReadOne

/-- The waiting openers when `p` has been read, innermost first, with their positions. -/
structure Waiting (p : Text) (ws : List (Shape × Nat)) : Prop where
  enumerates : Enumerates (IsWaiting p) ws.reverse
  depth : ∀ k w, ws[k]? = some w →
    openers (p.drop (w.2 + 1)) = closers (p.drop (w.2 + 1)) + k

namespace Waiting

variable {p : Text} {ws : List (Shape × Nat)}

theorem start : Waiting [] [] where
  enumerates := ⟨List.Pairwise.nil, by simp [IsWaiting]⟩
  depth := by simp

theorem mem_iff (h : Waiting p ws) (t : Shape) (j : Nat) : (t, j) ∈ ws ↔ IsWaiting p t j := by
  rw [← h.enumerates.mem_iff, List.mem_reverse]

theorem drop_concat (h : Waiting p ws) {w : Shape × Nat} (hw : w ∈ ws) (c : Char) :
    (p ++ [c]).drop (w.2 + 1) = p.drop (w.2 + 1) ++ [c] :=
  List.drop_append_of_le_length ((h.mem_iff w.1 w.2).1 hw).lt_length

theorem neutral (h : Waiting p ws) {c : Char} (hc : Neutral c) : Waiting (p ++ [c]) ws where
  enumerates := h.enumerates.congr fun _ _ => isWaiting_concat_of_neutral hc
  depth := by
    intro k w hk
    have hdepth := h.depth k w hk
    rw [h.drop_concat (List.mem_of_getElem? hk), openers_append, closers_append,
      openers_of_neutral hc, closers_of_neutral hc]
    omega

theorem opener (h : Waiting p ws) (t : Shape) :
    Waiting (p ++ [t.openChar]) ((t, p.length) :: ws) where
  enumerates := by
    rw [List.reverse_cons]
    exact h.enumerates.concat (fun _ _ hw => hw.lt_length) fun _ _ => isWaiting_concat_openChar t
  depth := by
    intro k w hk
    cases k with
    | zero =>
      obtain rfl : (t, p.length) = w := by simpa using hk
      simp [openers, closers]
    | succ k =>
      rw [List.getElem?_cons_succ] at hk
      have hdepth := h.depth k w hk
      rw [h.drop_concat (List.mem_of_getElem? hk), openers_append, closers_append,
        openers_openChar, closers_openChar]
      omega

/-- Below the top stand those after which more has been opened than closed. -/
theorem mem_tail_iff (h : Waiting p ws) (w : Shape × Nat) : w ∈ ws.tail ↔
    w ∈ ws ∧ closers (p.drop (w.2 + 1)) < openers (p.drop (w.2 + 1)) := by
  constructor
  · intro hw
    obtain ⟨k, hk⟩ := List.mem_iff_getElem?.1 hw
    rw [List.getElem?_tail] at hk
    have hdepth := h.depth (k + 1) w hk
    exact ⟨List.mem_of_getElem? hk, by omega⟩
  · rintro ⟨hw, hlt⟩
    obtain ⟨k, hk⟩ := List.mem_iff_getElem?.1 hw
    have hdepth := h.depth k w hk
    cases k with
    | zero => omega
    | succ k => exact List.mem_iff_getElem?.2 ⟨k, by rw [List.getElem?_tail, hk]⟩

/-- On top stands the one after which the text is balanced but for the shapes. -/
theorem head?_eq_some_iff (h : Waiting p ws) (t : Shape) (j : Nat) :
    ws.head? = some (t, j) ↔ p[j]? = some t.openChar ∧ DepthBalanced (p.drop (j + 1)) := by
  rw [List.head?_eq_getElem?]
  constructor
  · intro hw
    have hdepth := h.depth 0 _ hw
    obtain ⟨hopens, hstays⟩ := (h.mem_iff t j).1 (List.mem_of_getElem? hw)
    exact ⟨hopens, hdepth.symm, hstays⟩
  · rintro ⟨hopens, heq, hstays⟩
    obtain ⟨k, hk⟩ := List.mem_iff_getElem?.1 ((h.mem_iff t j).2 ⟨hopens, hstays⟩)
    have hdepth := h.depth k _ hk
    obtain rfl : k = 0 := by
      simp only at hdepth
      omega
    exact hk

theorem closer (h : Waiting p ws) (t : Shape) : Waiting (p ++ [t.closeChar]) ws.tail where
  enumerates := by
    refine ⟨?_, fun u j => ?_⟩
    · rw [← List.dropLast_reverse]
      exact h.enumerates.sorted.sublist (List.dropLast_sublist _)
    · rw [List.mem_reverse, isWaiting_concat_closeChar, ← h.mem_iff, h.mem_tail_iff]
  depth := by
    intro k w hk
    rw [List.getElem?_tail] at hk
    have hdepth := h.depth (k + 1) w hk
    rw [h.drop_concat (List.mem_of_getElem? hk), openers_append, closers_append,
      openers_closeChar, closers_closeChar]
    omega

/-- A closer that is read next has its partner on top. -/
theorem partner_iff (h : Waiting p ws) (t : Shape) (j : Nat) :
    Partner (p ++ [t.closeChar]) j p.length ↔ ∃ u, ws.head? = some (u, j) := by
  have hat : ∀ {k : Nat}, k < p.length → (p ++ [t.closeChar])[k]? = p[k]? :=
    List.getElem?_append_left
  have hbetween : j < p.length → between (p ++ [t.closeChar]) j p.length = p.drop (j + 1) := by
    intro hlt
    rw [between_append hlt (Nat.le_refl _), between_eq_drop (Nat.le_refl _)]
  constructor
  · rintro ⟨hlt, ⟨u, hopens⟩, -, hbalanced⟩
    rw [hat hlt] at hopens
    rw [hbetween hlt] at hbalanced
    exact ⟨u, (h.head?_eq_some_iff u j).2 ⟨hopens, hbalanced⟩⟩
  · rintro ⟨u, hhead⟩
    obtain ⟨hopens, hbalanced⟩ := (h.head?_eq_some_iff u j).1 hhead
    have hlt : j < p.length := (List.getElem?_eq_some_iff.1 hopens).1
    refine ⟨hlt, ⟨u, by rw [hat hlt, hopens]⟩, ⟨t, List.getElem?_concat_length⟩, ?_⟩
    rwa [hbetween hlt]

/-- A closer that is read next is unexpected if none of its shape stands on top. -/
theorem isUnexpected_iff (h : Waiting p ws) (t u : Shape) :
    IsUnexpected (p ++ [t.closeChar]) u p.length ↔
      u = t ∧ (ws.map Prod.fst).head? ≠ some t := by
  unfold IsUnexpected
  simp only [h.partner_iff, List.getElem?_concat_length, Option.some.injEq,
    Shape.closeChar_injective.eq_iff, List.head?_map]
  rw [eq_comm]
  refine and_congr_right ?_
  rintro rfl
  cases hhead : ws.head? with
  | none => simp
  | some w =>
    obtain ⟨v, j⟩ := w
    obtain ⟨hopens, -⟩ := (h.head?_eq_some_iff v j).1 hhead
    have hat : (p ++ [u.closeChar])[j]? = some v.openChar := by
      rw [List.getElem?_append_left (List.getElem?_eq_some_iff.1 hopens).1, hopens]
    rw [Option.map_some, ne_eq, Option.some.injEq]
    constructor
    · rintro (hnone | ⟨k, x, ⟨y, hk⟩, hx, hne⟩)
      · exact absurd ⟨v, rfl⟩ (hnone j)
      · obtain ⟨rfl, rfl⟩ := Prod.mk.inj (Option.some.inj hk)
        rw [hat, Option.some.injEq, Shape.openChar_injective.eq_iff] at hx
        rwa [hx]
    · intro hne
      exact Or.inr ⟨j, v, ⟨v, rfl⟩, hat, hne⟩

end Waiting

/-! ## The pass -/

section Next

variable {p : Text} {t : Shape} {i : Nat}

theorem IsUnexpected.lt_length (h : IsUnexpected p t i) : i < p.length :=
  (List.getElem?_eq_some_iff.1 h.1).1

/-- What is unexpected when one more character has been read. -/
theorem isUnexpected_concat {c : Char} : IsUnexpected (p ++ [c]) t i ↔
    IsUnexpected p t i ∨ i = p.length ∧ IsUnexpected (p ++ [c]) t p.length := by
  constructor
  · intro h
    have hlt := h.lt_length
    rw [List.length_append, List.length_singleton] at hlt
    by_cases hi : i < p.length
    · exact Or.inl ((isUnexpected_append hi).1 h)
    · obtain rfl : i = p.length := by omega
      exact Or.inr ⟨rfl, h⟩
  · rintro (h | ⟨rfl, h⟩)
    · exact (isUnexpected_append h.lt_length).2 h
    · exact h

/-- A character that is no closer is not unexpected. -/
theorem isUnexpected_concat_of_ne {c : Char} (hc : ∀ u : Shape, c ≠ u.closeChar) :
    IsUnexpected (p ++ [c]) t i ↔ IsUnexpected p t i := by
  rw [isUnexpected_concat, or_iff_left]
  rintro ⟨-, hat, -⟩
  rw [List.getElem?_concat_length, Option.some.injEq] at hat
  exact hc t hat

end Next

/-- What a pass keeps when it has read `p`. -/
structure Scan.Follows (s : Scan) (p : Text) : Prop where
  position : s.position = p.length
  waiting : ∃ ws, s.waiting = ws.map Prod.fst ∧ Waiting p ws
  unexpected : Enumerates (IsUnexpected p) s.unexpected.reverse

namespace Scan

theorem follows_start : start.Follows [] where
  position := rfl
  waiting := ⟨[], rfl, Waiting.start⟩
  unexpected := ⟨List.Pairwise.nil, by simp [start, IsUnexpected]⟩

/-- The invariant is kept by reading one more character. -/
theorem Follows.step {s : Scan} {p : Text} (h : s.Follows p) (c : Char) :
    (s.step c).Follows (p ++ [c]) := by
  obtain ⟨hposition, ⟨ws, hwaiting, hws⟩, hunexpected⟩ := h
  have hlength : s.position + 1 = (p ++ [c]).length := by
    rw [hposition, List.length_append, List.length_singleton]
  rcases char_cases c with ⟨t, rfl⟩ | ⟨t, rfl⟩ | hc
  · have hne : ∀ u : Shape, t.openChar ≠ u.closeChar := by
      intro u
      cases t <;> cases u <;> decide
    rw [step_openChar]
    refine ⟨hlength, ⟨(t, p.length) :: ws, ?_, hws.opener t⟩, ?_⟩
    · rw [hwaiting, List.map_cons]
    · exact hunexpected.congr fun _ _ => isUnexpected_concat_of_ne hne
  · rw [step_closeChar]
    refine ⟨hlength, ⟨ws.tail, ?_, hws.closer t⟩, ?_⟩
    · rw [hwaiting, List.map_tail]
    · split_ifs with hhead
      · refine hunexpected.congr fun u i => ?_
        rw [isUnexpected_concat, hws.isUnexpected_iff, ← hwaiting, or_iff_left]
        rintro ⟨-, -, hne⟩
        exact hne hhead
      · rw [List.reverse_cons, hposition]
        refine hunexpected.concat (fun _ _ hu => hu.lt_length) fun u i => ?_
        rw [isUnexpected_concat, hws.isUnexpected_iff, ← hwaiting, and_iff_left hhead, and_comm]
  · rw [step_of_neutral hc]
    refine ⟨hlength, ⟨ws, hwaiting, hws.neutral hc⟩, ?_⟩
    exact hunexpected.congr fun _ _ => isUnexpected_concat_of_ne fun u => (hc u).2

/-- The invariant holds when a text has been read from the start. -/
theorem follows_foldl (code : Text) : (code.foldl step start).Follows code := by
  induction code using List.reverseRecOn with
  | nil => exact follows_start
  | append_singleton p c ih =>
    rw [List.foldl_append]
    exact ih.step c

end Scan

/-! ## The findings -/

/-- The openers that wait at the end are those that are partners of no closer. -/
theorem Waiting.enumerates_isUnclosed {code : Text} {ws : List (Shape × Nat)}
    (h : Waiting code ws) : Enumerates (IsUnclosed code) ws.reverse := by
  refine h.enumerates.congr fun t j => ?_
  exact and_congr_right fun hopens => (staysOpen_iff_forall_not_partner hopens).symm

/-- Each closer has one partner at most. Reported are, in order and each once, the closers that have
no partner or one of another shape, and then, if there are any, in one finding and in order the
openers that are partners of no closer. -/
theorem check_partners (code : Text) :
    (∀ i j k, Partner code j i → Partner code k i → j = k)
      ∧ ∃ unexpected unclosed : List (Shape × Nat),
        Enumerates (IsUnexpected code) unexpected
          ∧ Enumerates (IsUnclosed code) unclosed
          ∧ check code = unexpected.map (fun m => Finding.unexpected m.1 m.2)
            ++ (if unclosed = [] then [] else [Finding.unclosed (unclosed.map Prod.fst)])
          ∧ (check code).map Finding.message
            = unexpected.map (fun m => "Unexpected '".toList
                ++ m.1.closeChar :: "' at position ".toList ++ Numeral.digits m.2 ++ ".".toList)
              ++ (if unclosed = [] then [] else
                ["Unclosed bracket(s) remain: ".toList
                  ++ List.intercalate ", ".toList (unclosed.map fun m => ['\'', m.1.openChar, '\''])
                  ++ ".".toList]) := by
  obtain ⟨-, ⟨ws, hwaiting, hws⟩, hunexpected⟩ := Scan.follows_foldl code
  have hcheck : check code
      = (code.foldl Scan.step Scan.start).unexpected.reverse.map
          (fun m => Finding.unexpected m.1 m.2)
        ++ (if ws.reverse = [] then [] else [Finding.unclosed (ws.reverse.map Prod.fst)]) := by
    rw [check, Scan.findings, hwaiting, List.map_reverse, ← List.map_reverse]
    simp
  refine ⟨fun i j k => Partner.opener_unique, _, ws.reverse, hunexpected,
    hws.enumerates_isUnclosed, hcheck, ?_⟩
  rw [hcheck, List.map_append, List.map_map]
  congr 1
  split_ifs
  · rfl
  · rw [List.map_singleton, message_unclosed, List.map_map]
    rfl

/-- A closer belongs to the opener before it and to no other even if the shapes differ: then it is
reported, and the opener is not. -/
theorem check_partners_mismatch :
    Partner "(]".toList 0 1 ∧ (∀ j, Partner "(]".toList j 1 → j = 0)
      ∧ check "(]".toList = [.unexpected .square 1] := by
  have hpartner : Partner "(]".toList 0 1 :=
    ⟨Nat.zero_lt_one, ⟨.round, rfl⟩, ⟨.square, rfl⟩, ⟨rfl, staysOpen_nil⟩⟩
  obtain ⟨hunique, -⟩ := check_partners "(]".toList
  exact ⟨hpartner, fun j hj => hunique 1 j 0 hj hpartner, by decide⟩

end Bracket

end SnippetReview
