import SnippetReview.Text.HexDigit
import SnippetReview.Text.WideUnits

/-!
# JSON strings

A string ends at the first quote mark that no backslash stands before. Control characters do not
stand in it unescaped. A character above the sixteen-bit range is escaped as a surrogate pair; a
surrogate without a partner stands for itself, escaped or not.
-/

namespace SnippetReview

namespace Json

namespace StringLiteral

/-! ## Escapes -/

/-- Reads a UTF-16 unit of four hexadecimal digits. -/
def unit? : RawText → Option (Nat × RawText)
  | .char a :: .char b :: .char c :: .char d :: rest => do
    let a ← hexValue? a
    let b ← hexValue? b
    let c ← hexValue? c
    let d ← hexValue? d
    some (((a * 16 + b) * 16 + c) * 16 + d, rest)
  | _ => none

/-- Reads the escaped unit that may follow the first of a surrogate pair. -/
def trailUnit? : RawText → Option (Nat × RawText)
  | .char '\\' :: .char 'u' :: rest => (unit? rest).filter fun u => Utf16.isTrail u.1
  | _ => none

/-- Reads the code point that begins with an escaped unit. -/
def codePoint? (s : RawText) : Option (CodePoint × RawText) :=
  (unit? s).map fun (u, rest) =>
    match if Utf16.isLead u then trailUnit? rest else none with
    | some (v, rest') => (.char (Char.ofNat (Utf16.joinPair u v)), rest')
    | none => (CodePoint.ofUnit u, rest)

/-- The characters that are escaped by a letter of their own. -/
def letters : List (Char × Char) :=
  [('"', '"'), ('\\', '\\'), ('\x08', 'b'), ('\x0C', 'f'), ('\n', 'n'), ('\r', 'r'), ('\t', 't')]

/-- The character that a letter after a backslash stands for. A solidus may be escaped, too. -/
def ofLetter? (letter : Char) : Option Char :=
  ((('/', '/') :: letters).find? fun l => l.2 == letter).map Prod.fst

/-- Reads what follows a backslash. -/
def escape? : RawText → Option (CodePoint × RawText)
  | .char 'u' :: rest => codePoint? rest
  | .char letter :: rest => (ofLetter? letter).map fun c => (.char c, rest)
  | _ => none

/-- A unit takes four characters. -/
theorem length_unit {s rest : RawText} {u : Nat} (h : unit? s = some (u, rest)) :
    rest.length < s.length := by
  unfold unit? at h
  split at h
  · simp only [Option.bind_eq_bind, Option.bind_eq_some_iff] at h
    obtain ⟨_, _, _, _, _, _, _, _, h⟩ := h
    simp only [Option.some.injEq, Prod.mk.injEq] at h
    rw [← h.2]
    simp only [List.length_cons]
    omega
  · exact absurd h (by simp)

/-- A code point takes at least four characters. -/
theorem length_codePoint {s rest : RawText} {p : CodePoint} (h : codePoint? s = some (p, rest)) :
    rest.length < s.length := by
  rw [codePoint?, Option.map_eq_some_iff] at h
  obtain ⟨⟨u, r⟩, hu, h⟩ := h
  have hlt := length_unit hu
  simp only at h
  split at h
  · next v r' hv =>
    split at hv
    · unfold trailUnit? at hv
      split at hv
      · rw [Option.filter_eq_some_iff] at hv
        have := length_unit hv.1
        simp only [Prod.mk.injEq] at h
        rw [← h.2]
        simp only [List.length_cons] at hlt
        omega
      · exact absurd hv (by simp)
    · exact absurd hv (by simp)
  · simp only [Prod.mk.injEq] at h
    rw [← h.2]
    exact hlt

/-- An escape takes at least one character. -/
theorem length_escape {s rest : RawText} {p : CodePoint} (h : escape? s = some (p, rest)) :
    rest.length < s.length := by
  unfold escape? at h
  split at h
  · have := length_codePoint h
    simp only [List.length_cons]
    omega
  · rw [Option.map_eq_some_iff] at h
    obtain ⟨c, -, h⟩ := h
    rw [← (Prod.mk.inj h).2]
    simp
  · exact absurd h (by simp)

/-! ## Reading -/

/-- Reads a string from after its opening mark; `done` are the code points so far, latest first. -/
def read? (done s : RawText) : Option (RawText × RawText) :=
  match s with
  | [] => none
  | .char '"' :: rest => some (done.reverse, rest)
  | .char '\\' :: rest =>
    match _h : escape? rest with
    | some (p, rest') => read? (p :: done) rest'
    | none => none
  | .char c :: rest => if c < ' ' then none else read? (.char c :: done) rest
  | p :: rest => read? (p :: done) rest
termination_by s.length
decreasing_by
  · have := length_escape _h
    simp only [List.length_cons]
    omega
  · simp
  · simp

/-- A string takes at least the mark that ends it. -/
theorem length_read (done s : RawText) {v rest : RawText} (h : read? done s = some (v, rest)) :
    rest.length < s.length := by
  fun_induction read? done s with
  | case1 => exact absurd h (by simp)
  | case2 done rest' =>
    simp only [Option.some.injEq, Prod.mk.injEq] at h
    rw [← h.2]
    simp
  | case3 done r p r' hesc ih =>
    have h1 := ih h
    have h2 := length_escape hesc
    simp only [List.length_cons]
    omega
  | case4 => exact absurd h (by simp)
  | case5 => exact absurd h (by simp)
  | case6 done c r _ _ _ ih =>
    have h1 := ih h
    simp only [List.length_cons]
    omega
  | case7 done p r _ _ _ ih =>
    have h1 := ih h
    simp only [List.length_cons]
    omega

/-! ## Writing -/

/-- A UTF-16 unit, escaped. -/
def escapeUnit (u : Nat) : Text := '\\' :: 'u' :: hexUnit u

/-- The first unit of the surrogate pair of a code point above the sixteen-bit range. -/
def leadUnit (n : Nat) : Nat := 0xD800 + (n - 0x10000) / 0x400

/-- The second unit of the surrogate pair of a code point above the sixteen-bit range. -/
def trailUnit (n : Nat) : Nat := 0xDC00 + (n - 0x10000) % 0x400

/-- A character, escaped by its units. -/
def escapeUnits (c : Char) : Text :=
  if c.toNat < 0x10000 then escapeUnit c.toNat
  else escapeUnit (leadUnit c.toNat) ++ escapeUnit (trailUnit c.toNat)

/-- A character as it is written in a string, where `ascii` tells whether only ASCII characters that
can be printed are to be used. -/
def writeChar (ascii : Bool) (c : Char) : Text :=
  match letters.lookup c with
  | some letter => ['\\', letter]
  | none => if c < ' ' ∨ ascii ∧ '~' < c then escapeUnits c else [c]

/-- A text as it is written between quote marks. -/
def write (ascii : Bool) (s : Text) : Text := '"' :: (s.flatMap (writeChar ascii) ++ ['"'])

/-- A code point as it is written in a string that may hold any characters. -/
def writePoint : CodePoint → RawText
  | .char c => RawText.of (writeChar false c)
  | .surrogate u => [.surrogate u]

end StringLiteral

end Json

end SnippetReview
