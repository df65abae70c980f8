import SnippetReview.Json.Basic
import SnippetReview.Json.NumberLiteral
import SnippetReview.Json.StringLiteral

/-!
# JSON tokens

A JSON text is a sequence of tokens with blanks between them: the six punctuation marks and the
values that have no parts. The three names `NaN`, `Infinity` and `-Infinity` are admitted as
numbers.
-/

namespace SnippetReview

namespace Json

/-- A token of a JSON text. -/
inductive Token
  | openBrace
  | closeBrace
  | openBracket
  | closeBracket
  | comma
  | colon
  | scalar (value : Json)

namespace Token

/-- Whether a code point may stand between tokens. -/
def isSpace : CodePoint → Bool
  | .char c => c == ' ' || c == '\t' || c == '\n' || c == '\r'
  | .surrogate _ => false

/-! ## Reading one token -/

/-- The names that are values. -/
def names : List (Text × Json) :=
  [("null".toList, .null), ("true".toList, .bool true), ("false".toList, .bool false),
   ("NaN".toList, .decimal "NaN".toList), ("Infinity".toList, .decimal "Infinity".toList),
   ("-Infinity".toList, .decimal "-Infinity".toList)]

/-- Reads a name. -/
def name? (s : Text) : Option (Json × Text) :=
  (names.find? fun n => n.1.isPrefixOf s).map fun n => (n.2, s.drop n.1.length)

/-- Reads a name or a number. -/
def nameOrNumber? (s : Text) : Option (Json × Text) :=
  match name? s with
  | some r => some r
  | none => NumberLiteral.read? s

/-- Whether a code point may stand in a name or a number. -/
def isPlain : CodePoint → Bool
  | .char c => c.isAlphanum || c == '+' || c == '-' || c == '.'
  | .surrogate _ => false

/-- Reads a value that is neither a string nor has parts. -/
def plain? (s : RawText) : Option (Json × RawText) :=
  let word := RawText.legible (s.takeWhile isPlain)
  (nameOrNumber? word).map fun (v, rest) => (v, s.drop (word.length - rest.length))

/-- Reads the token at the very start of the text. -/
def first? : RawText → Option (Token × RawText)
  | .char '\x7b' :: rest => some (openBrace, rest)
  | .char '\x7d' :: rest => some (closeBrace, rest)
  | .char '[' :: rest => some (openBracket, rest)
  | .char ']' :: rest => some (closeBracket, rest)
  | .char ',' :: rest => some (comma, rest)
  | .char ':' :: rest => some (colon, rest)
  | .char '"' :: rest =>
    (StringLiteral.read? [] rest).map fun (v, rest') => (scalar (ofPoints v), rest')
  | s => (plain? s).map fun (v, rest') => (scalar v, rest')

/-- A name or a number takes at least one character. -/
theorem length_nameOrNumber {s rest : Text} {v : Json} (h : nameOrNumber? s = some (v, rest)) :
    rest.length < s.length := by
  unfold nameOrNumber? at h
  split at h
  · next r hn =>
    rw [name?, Option.map_eq_some_iff] at hn
    obtain ⟨n, hfind, rfl⟩ := hn
    have hprefix := List.find?_some hfind
    have hle := (List.isPrefixOf_iff_prefix.1 hprefix).length_le
    have hpos : 0 < n.1.length := by
      have hmem := List.mem_of_find?_eq_some hfind
      revert hmem
      simp only [names, List.mem_cons, List.not_mem_nil, or_false]
      rintro (rfl | rfl | rfl | rfl | rfl | rfl) <;> decide
    simp only [Option.some.injEq, Prod.mk.injEq] at h
    rw [← h.2, List.length_drop]
    omega
  · exact NumberLiteral.length_read h

/-- A value without parts takes at least one character. -/
theorem length_plain {s rest : RawText} {v : Json} (h : plain? s = some (v, rest)) :
    rest.length < s.length := by
  rw [plain?, Option.map_eq_some_iff] at h
  obtain ⟨⟨w, left⟩, hread, h⟩ := h
  have hword := length_nameOrNumber hread
  have hle : (RawText.legible (s.takeWhile isPlain)).length ≤ s.length := by
    rw [RawText.legible, List.length_map]
    exact (List.takeWhile_sublist isPlain).length_le
  rw [← (Prod.mk.inj h).2, List.length_drop]
  omega

/-- A token takes at least one character. -/
theorem length_first {s rest : RawText} {t : Token} (h : first? s = some (t, rest)) :
    rest.length < s.length := by
  unfold first? at h
  split at h
  case h_7 =>
    rw [Option.map_eq_some_iff] at h
    obtain ⟨⟨v, r⟩, hs, h⟩ := h
    have := StringLiteral.length_read [] _ hs
    simp only [Prod.mk.injEq] at h
    rw [← h.2]
    simp only [List.length_cons]
    omega
  case h_8 =>
    rw [Option.map_eq_some_iff] at h
    obtain ⟨⟨v, r⟩, hs, h⟩ := h
    have := length_plain hs
    simp only [Prod.mk.injEq] at h
    rw [← h.2]
    exact this
  all_goals
    simp only [Option.some.injEq, Prod.mk.injEq] at h
    rw [← h.2]
    simp

/-! ## The tokens of a text -/

/-- The tokens of a text with those before it in front; `done` are these, latest first. -/
def scanFrom (done : List Token) (s : RawText) : Option (List Token) :=
  match s with
  | [] => some done.reverse
  | p :: ps =>
    if isSpace p then scanFrom done ps
    else
      match _h : first? (p :: ps) with
      | some (t, rest) => scanFrom (t :: done) rest
      | none => none
termination_by s.length
decreasing_by
  · simp
  · exact length_first _h

/-- The tokens of a text, if it is a sequence of tokens. -/
def scan (s : RawText) : Option (List Token) := scanFrom [] s

end Token

end Json

end SnippetReview
