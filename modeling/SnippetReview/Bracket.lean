import SnippetReview.Text.Basic

/-!
# Brackets

Brackets come in three shapes. One pass over the text keeps the openers that wait for a closer,
innermost first. A closer takes the innermost opener with it even if the shapes differ; it is
unexpected if they differ or if no opener waits. All characters count alike, also those within
strings and comments. The pass is `Scan.step` over the characters, and `check` reads off what it
has found.
-/

namespace SnippetReview

/-- The shapes of brackets. -/
inductive Shape
  | round
  | curly
  | square
  deriving DecidableEq

/-- A bracket: a shape and the side it closes off. -/
inductive Bracket
  | opener (shape : Shape)
  | closer (shape : Shape)
  deriving DecidableEq

namespace Shape

/-- The opener of a shape. -/
def openChar : Shape → Char
  | round => '('
  | curly => '\x7b'
  | square => '['

/-- The closer of a shape. -/
def closeChar : Shape → Char
  | round => ')'
  | curly => '\x7d'
  | square => ']'

end Shape

namespace Bracket

/-- The bracket that a character is, if it is one. -/
def ofChar? (c : Char) : Option Bracket :=
  if c = '(' then some (opener .round)
  else if c = '\x7b' then some (opener .curly)
  else if c = '[' then some (opener .square)
  else if c = ')' then some (closer .round)
  else if c = '\x7d' then some (closer .curly)
  else if c = ']' then some (closer .square)
  else none

/-- What is found wrong with the brackets of a text. -/
inductive Finding
  /-- A closer at a position, counted from zero, that does not match. -/
  | unexpected (shape : Shape) (position : Nat)
  /-- The openers that still wait at the end, outermost first. -/
  | unclosed (shapes : List Shape)
  deriving DecidableEq

/-- A pass under way: the position reached, the waiting openers, innermost first, and the
unexpected closers, latest first. -/
structure Scan where
  position : Nat
  waiting : List Shape
  unexpected : List (Shape × Nat)

/-- The pass before its first character. -/
def Scan.start : Scan := ⟨0, [], []⟩

/-- Reads one character. -/
def Scan.step (s : Scan) (c : Char) : Scan :=
  match ofChar? c with
  | none => ⟨s.position + 1, s.waiting, s.unexpected⟩
  | some (opener shape) => ⟨s.position + 1, shape :: s.waiting, s.unexpected⟩
  | some (closer shape) =>
    ⟨s.position + 1, s.waiting.tail,
      if s.waiting.head? = some shape then s.unexpected
      else (shape, s.position) :: s.unexpected⟩

/-- The findings when the text has ended. -/
def Scan.findings (s : Scan) : List Finding :=
  s.unexpected.reverse.map (fun u => .unexpected u.1 u.2)
    ++ if s.waiting = [] then [] else [.unclosed s.waiting.reverse]

/-- What is wrong with the brackets of a text: the unexpected closers in order, then all unclosed
openers together. -/
def check (code : Text) : List Finding := (code.foldl Scan.step Scan.start).findings

end Bracket

end SnippetReview
