import SnippetReview.Proofs.Bracket.Placement

/-!
# Balanced texts

A text is balanced if its brackets close one another in pairs of one shape (`Balanced`).

* A pass over a balanced text ends as it began, but for the position (`Scan.foldl_of_balanced`).
* What a pass has found unexpected stays on record (`Scan.unexpected_suffix`), so a pass that ends
  clean has closed each waiting opener by its own closer and read balanced text in between
  (`closes_of_clean`).

Together these say that the texts without a finding on brackets are the balanced ones
(`check_eq_nil_iff_balanced`).
-/

namespace SnippetReview

namespace Bracket

/-! ## One character of a pass -/

@[simp] theorem ofChar?_openChar (t : Shape) : ofChar? t.openChar = some (opener t) := by
  cases t <;> decide

@[simp] theorem ofChar?_closeChar (t : Shape) : ofChar? t.closeChar = some (closer t) := by
  cases t <;> decide

end Bracket

theorem Shape.openChar_injective : Function.Injective Shape.openChar := by
  intro t u h
  simpa using congrArg Bracket.ofChar? h

theorem Shape.closeChar_injective : Function.Injective Shape.closeChar := by
  intro t u h
  simpa using congrArg Bracket.ofChar? h

namespace Bracket

/-- A character that opens no bracket and closes none. -/
def Neutral (c : Char) : Prop := ∀ t : Shape, c ≠ t.openChar ∧ c ≠ t.closeChar

theorem ofChar?_of_neutral {c : Char} (h : Neutral c) : ofChar? c = none := by
  cases hb : ofChar? c with
  | none => rfl
  | some b =>
    cases b with
    | opener t => exact absurd (eq_char_of_ofChar? hb) (h t).1
    | closer t => exact absurd (eq_char_of_ofChar? hb) (h t).2

/-- A character opens a bracket, closes one, or does neither. -/
theorem char_cases (c : Char) :
    (∃ t : Shape, c = t.openChar) ∨ (∃ t : Shape, c = t.closeChar) ∨ Neutral c := by
  by_cases hopen : ∃ t : Shape, c = t.openChar
  · exact Or.inl hopen
  · by_cases hclose : ∃ t : Shape, c = t.closeChar
    · exact Or.inr (Or.inl hclose)
    · exact Or.inr (Or.inr fun t => ⟨fun h => hopen ⟨t, h⟩, fun h => hclose ⟨t, h⟩⟩)

namespace Scan

@[simp] theorem step_openChar (s : Scan) (t : Shape) :
    s.step t.openChar = ⟨s.position + 1, t :: s.waiting, s.unexpected⟩ := by
  simp [step]

@[simp] theorem step_closeChar (s : Scan) (t : Shape) :
    s.step t.closeChar = ⟨s.position + 1, s.waiting.tail,
      if s.waiting.head? = some t then s.unexpected else (t, s.position) :: s.unexpected⟩ := by
  simp [step]

theorem step_of_neutral {c : Char} (h : Neutral c) (s : Scan) :
    s.step c = ⟨s.position + 1, s.waiting, s.unexpected⟩ := by
  simp [step, ofChar?_of_neutral h]

end Scan

/-! ## Balanced texts are passed over -/

/-- The texts whose brackets close one another: a closer takes the innermost opener that is still
open, and has its shape. -/
inductive Balanced : Text → Prop
  | empty : Balanced []
  | other {c : Char} {s : Text} : Neutral c → Balanced s → Balanced (c :: s)
  | pair (t : Shape) {s rest : Text} :
      Balanced s → Balanced rest → Balanced (t.openChar :: (s ++ t.closeChar :: rest))

/-- A pass over a balanced text ends as it began, but for the position. -/
theorem Scan.foldl_of_balanced {w : Text} (h : Balanced w) (s : Scan) :
    w.foldl Scan.step s = ⟨s.position + w.length, s.waiting, s.unexpected⟩ := by
  induction h generalizing s with
  | empty => rfl
  | @other c w hc hw ih =>
    rw [List.foldl_cons, Scan.step_of_neutral hc, ih, List.length_cons]
    simp only [Scan.mk.injEq, and_true]
    omega
  | @pair t w rest hw hrest ihw ihrest =>
    -- the opener of the pair waits on top of the others until its closer takes it off again
    rw [List.foldl_cons, Scan.step_openChar, List.foldl_append, ihw, List.foldl_cons,
      Scan.step_closeChar, ihrest]
    simp only [List.head?_cons, if_true, List.tail_cons, List.length_cons, List.length_append,
      Scan.mk.injEq, and_true]
    omega

/-! ## What a clean pass has read -/

/-- The texts that close the given openers, innermost first, each by its own closer and with
balanced text before it. -/
inductive Closes : List Shape → Text → Prop
  | all {s : Text} : Balanced s → Closes [] s
  | next {t : Shape} {ts : List Shape} {s rest : Text} :
      Balanced s → Closes ts rest → Closes (t :: ts) (s ++ t.closeChar :: rest)

namespace Closes

variable {ts : List Shape} {s : Text}

theorem other {c : Char} (hc : Neutral c) (h : Closes ts s) : Closes ts (c :: s) := by
  cases h with
  | all hs => exact all (Balanced.other hc hs)
  | next hs hrest => exact next (Balanced.other hc hs) hrest

/-- An opener before a text that closes it makes a pair with its closer. -/
theorem opener {t : Shape} (h : Closes (t :: ts) s) : Closes ts (t.openChar :: s) := by
  cases h with
  | next hs hrest =>
    cases hrest with
    | all hrest => exact all (Balanced.pair t hs hrest)
    | @next u _ _ _ hmid hrest =>
      have hpair := next (t := u) (Balanced.pair t hs hmid) hrest
      simpa only [List.cons_append, List.append_assoc] using hpair

theorem closer (t : Shape) (h : Closes ts s) : Closes (t :: ts) (t.closeChar :: s) :=
  next Balanced.empty h

end Closes

namespace Scan

/-- What has been found unexpected stays on record. -/
theorem unexpected_suffix (code : Text) (s : Scan) :
    s.unexpected <:+ (code.foldl step s).unexpected := by
  induction code generalizing s with
  | nil => exact List.suffix_refl _
  | cons c cs ih =>
    have hstep : s.unexpected <:+ (s.step c).unexpected := by
      rcases char_cases c with ⟨t, rfl⟩ | ⟨t, rfl⟩ | hc
      · simp
      · rw [step_closeChar]
        split_ifs
        · exact List.suffix_refl _
        · exact List.suffix_cons _ _
      · simp [step_of_neutral hc]
    exact hstep.trans (ih (s.step c))

/-- A pass that ends clean has closed what was waiting. The induction is on the text that is left
to read: a closer of another shape would stay on record. -/
theorem closes_of_clean {code : Text} {s : Scan}
    (hwaiting : (code.foldl step s).waiting = [])
    (hunexpected : (code.foldl step s).unexpected = []) :
    Closes s.waiting code := by
  induction code generalizing s with
  | nil =>
    rw [List.foldl_nil] at hwaiting
    rw [hwaiting]
    exact Closes.all Balanced.empty
  | cons c cs ih =>
    have hrest : Closes (s.step c).waiting cs := ih hwaiting hunexpected
    have hclean : (s.step c).unexpected = [] := by
      have hsuffix := unexpected_suffix cs (s.step c)
      rw [List.foldl_cons] at hunexpected
      rw [hunexpected] at hsuffix
      exact List.suffix_nil.1 hsuffix
    rcases char_cases c with ⟨t, rfl⟩ | ⟨t, rfl⟩ | hc
    · rw [step_openChar] at hrest
      exact hrest.opener
    · rw [step_closeChar] at hrest hclean
      by_cases hhead : s.waiting.head? = some t
      · obtain ⟨ts, hts⟩ := List.head?_eq_some_iff.1 hhead
        rw [hts] at hrest ⊢
        exact Closes.closer t hrest
      · rw [if_neg hhead] at hclean
        exact absurd hclean (List.cons_ne_nil _ _)
    · rw [step_of_neutral hc] at hrest
      exact hrest.other hc

theorem findings_eq_nil_iff (s : Scan) : s.findings = [] ↔ s.waiting = [] ∧ s.unexpected = [] := by
  rw [findings, List.append_eq_nil_iff, List.map_eq_nil_iff, List.reverse_eq_nil_iff, and_comm]
  refine and_congr_left fun _ => ?_
  by_cases h : s.waiting = [] <;> simp [h]

end Scan

/-- The texts without a finding on brackets are the balanced texts. -/
theorem check_eq_nil_iff_balanced (code : Text) : check code = [] ↔ Balanced code := by
  rw [check, Scan.findings_eq_nil_iff]
  constructor
  · rintro ⟨hwaiting, hunexpected⟩
    have hcloses : Closes [] code := Scan.closes_of_clean hwaiting hunexpected
    cases hcloses with
    | all hbalanced => exact hbalanced
  · intro hbalanced
    rw [Scan.foldl_of_balanced hbalanced]
    exact ⟨rfl, rfl⟩

end Bracket

end SnippetReview
