import SnippetReview.Json.Basic

/-!
# JSON numbers

A number has a sign if it is negative, an integral part without needless zeros, and perhaps a
fraction and an exponent. Without these two it is an integer, and may have at most 4300 digits;
otherwise it may have as many as it likes.
-/

namespace SnippetReview

namespace Json

namespace NumberLiteral

/-! ## The parts of a number -/

/-- Takes the ASCII digits off the front. -/
def splitDigits (s : Text) : Text × Text := (s.takeWhile Char.isDigit, s.dropWhile Char.isDigit)

/-- Takes the integral part of a number off the front: a zero, or digits that begin with
another. -/
def integral? : Text → Option (Text × Text)
  | '0' :: rest => some (['0'], rest)
  | s =>
    match splitDigits s with
    | ([], _) => none
    | (ds, rest) => some (ds, rest)

/-- Takes the fraction of a number off the front, if there is one. -/
def splitFraction : Text → Text × Text
  | '.' :: rest =>
    match splitDigits rest with
    | ([], _) => ([], '.' :: rest)
    | (ds, rest') => ('.' :: ds, rest')
  | s => ([], s)

/-- Takes a sign off the front, if there is one. -/
def splitSign : Text → Text × Text
  | '+' :: rest => (['+'], rest)
  | '-' :: rest => (['-'], rest)
  | s => ([], s)

/-- Takes the exponent of a number off the front, if there is one. -/
def splitExponent : Text → Text × Text
  | [] => ([], [])
  | e :: rest =>
    if e = 'e' ∨ e = 'E' then
      let (sign, after) := splitSign rest
      match splitDigits after with
      | ([], _) => ([], e :: rest)
      | (ds, rest') => (e :: sign ++ ds, rest')
    else ([], e :: rest)

/-! ## Reading -/

/-- The most digits that an integer may have. -/
def maxIntegerDigits : Nat := 4300

/-- The natural number with the given ASCII digits. -/
def ofDigits (ds : Text) : Nat := ds.foldl (fun n c => n * 10 + (c.toNat - '0'.toNat)) 0

/-- Reads a number without its sign, which was read before. -/
def magnitude? (negative : Bool) (s : Text) : Option (Json × Text) :=
  match integral? s with
  | none => none
  | some (ds, rest) =>
    let (fraction, rest) := splitFraction rest
    let (exponent, rest) := splitExponent rest
    if fraction.isEmpty && exponent.isEmpty then
      if maxIntegerDigits < ds.length then none
      else some (.integer (if negative then -(ofDigits ds : Int) else ofDigits ds), rest)
    else
      some (.decimal ((if negative then ['-'] else []) ++ ds ++ fraction ++ exponent), rest)

/-- Reads a number. -/
def read? : Text → Option (Json × Text)
  | '-' :: rest => magnitude? true rest
  | s => magnitude? false s

/-! ## Every number takes at least one character -/

theorem length_splitDigits (s : Text) : (splitDigits s).2.length ≤ s.length :=
  (List.dropWhile_sublist Char.isDigit).length_le

theorem length_integral {s ds rest : Text} (h : integral? s = some (ds, rest)) :
    rest.length < s.length := by
  unfold integral? at h
  split at h
  · simp only [Option.some.injEq, Prod.mk.injEq] at h
    rw [← h.2]
    simp
  · split at h
    · exact absurd h (by simp)
    · next ds' r hne hs =>
      simp only [Option.some.injEq, Prod.mk.injEq] at h
      rw [← h.2]
      have hsum := congrArg List.length
        (List.takeWhile_append_dropWhile (p := Char.isDigit) (l := s))
      rw [List.length_append] at hsum
      have hpos : 0 < ds'.length := List.length_pos_iff.2 hne
      simp only [splitDigits, Prod.mk.injEq] at hs
      rw [hs.1, hs.2] at hsum
      omega

theorem length_splitFraction (s : Text) : (splitFraction s).2.length ≤ s.length := by
  unfold splitFraction
  split
  · next rest =>
    split
    · simp
    · next ds r _ hs =>
      have := length_splitDigits rest
      rw [hs] at this
      exact Nat.le_succ_of_le this
  · simp

theorem length_splitSign (s : Text) : (splitSign s).2.length ≤ s.length := by
  unfold splitSign
  split <;> simp

theorem length_splitExponent (s : Text) : (splitExponent s).2.length ≤ s.length := by
  unfold splitExponent
  split
  · simp
  · next e rest =>
    split
    · have h1 := length_splitSign rest
      have h2 := length_splitDigits (splitSign rest).2
      simp only
      split
      · simp
      · next ds r _ hs =>
        rw [hs] at h2
        simp only [List.length_cons] at h2 ⊢
        omega
    · simp

theorem length_magnitude {negative : Bool} {s rest : Text} {v : Json}
    (h : magnitude? negative s = some (v, rest)) : rest.length < s.length := by
  unfold magnitude? at h
  split at h
  · exact absurd h (by simp)
  · next ds r hi =>
    have h1 := length_integral hi
    have h2 := length_splitFraction r
    have h3 := length_splitExponent (splitFraction r).2
    simp only at h
    split at h
    · split at h
      · exact absurd h (by simp)
      · simp only [Option.some.injEq, Prod.mk.injEq] at h
        rw [← h.2]
        omega
    · simp only [Option.some.injEq, Prod.mk.injEq] at h
      rw [← h.2]
      omega

/-- A number takes at least one character. -/
theorem length_read {s rest : Text} {v : Json} (h : read? s = some (v, rest)) :
    rest.length < s.length := by
  unfold read? at h
  split at h
  · have := length_magnitude h
    simp only [List.length_cons]
    omega
  · exact length_magnitude h

end NumberLiteral

end Json

end SnippetReview
