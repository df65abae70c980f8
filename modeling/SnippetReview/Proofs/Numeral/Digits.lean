import SnippetReview.Numeral.Basic

/-!
# Decimal digits

Different numbers have different digits (`digits_injective`), and where something other than a digit
follows, the number can be read off the text that begins with its digits (`digits_append_cons_inj`).
-/

namespace SnippetReview

namespace Numeral

theorem digits_injective : Function.Injective digits := by
  intro m n h
  have hvalue := congrArg (fun ds => Nat.ofDigitChars 10 ds 0) h
  simpa only [digits, Nat.ofDigitChars_toDigits (b := 10) (by decide) (by decide)] using hvalue

theorem isDigit_of_mem_digits {n : Nat} {c : Char} (h : c ∈ digits n) : c.isDigit = true :=
  Nat.isDigit_of_mem_toDigits (by decide) (by decide) h

theorem takeWhile_isDigit_digits_append {x : Char} (hx : x.isDigit = false) (n : Nat) (s : Text) :
    (digits n ++ x :: s).takeWhile Char.isDigit = digits n := by
  rw [List.takeWhile_append_of_pos fun _ => isDigit_of_mem_digits,
    List.takeWhile_cons_of_neg (by rw [hx]; decide), List.append_nil]

/-- A number ends where something other than a digit follows. -/
theorem digits_append_cons_inj {m n : Nat} {x : Char} {s t : Text} (hx : x.isDigit = false)
    (h : digits m ++ x :: s = digits n ++ x :: t) : m = n ∧ s = t := by
  have hdigits : digits m = digits n := by
    rw [← takeWhile_isDigit_digits_append hx m s, h, takeWhile_isDigit_digits_append hx]
  rw [hdigits] at h
  exact ⟨digits_injective hdigits, (List.cons.inj (List.append_cancel_left h)).2⟩

end Numeral

end SnippetReview
