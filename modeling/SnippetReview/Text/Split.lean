import SnippetReview.Text.Basic

/-!
# Splitting and joining

A sequence is cut at every occurrence of a separator; joining the pieces with the separator
gives the sequence back. Lines are the pieces of a text between newlines, so a text has one
line more than it has newlines, and the empty text has one empty line.
-/

namespace SnippetReview

section Pieces

variable {α : Type} [DecidableEq α]

/-- One step of `pieces`, from the right: a separator opens a new piece, anything else goes
to the front of the first piece. -/
def addToPieces (sep x : α) : List (List α) → List (List α)
  | [] => if x = sep then [[], []] else [[x]]
  | p :: ps => if x = sep then [] :: p :: ps else (x :: p) :: ps

/-- The pieces of a sequence between the occurrences of a separator, empty ones included. -/
def pieces (sep : α) (s : List α) : List (List α) :=
  s.foldr (addToPieces sep) [[]]

/-- The pieces put together again with a separator between them. -/
def joinPieces (sep : α) (ps : List (List α)) : List α :=
  List.intercalate [sep] ps

/-- Cuts a sequence before and after the first occurrence of a separator that is itself a sequence;
`before` is what has been passed, latest first. -/
def breakAtFrom (sep : List α) (before : List α) : List α → Option (List α × List α)
  | [] => none
  | x :: xs =>
    if sep.isPrefixOf (x :: xs) then some (before.reverse, (x :: xs).drop sep.length)
    else breakAtFrom sep (x :: before) xs

/-- Cuts a sequence before and after the first occurrence of a separator that is itself a
sequence. -/
def breakAt? (sep : List α) (s : List α) : Option (List α × List α) := breakAtFrom sep [] s

@[simp] theorem pieces_nil (sep : α) : pieces sep [] = [[]] := rfl

theorem pieces_cons (sep x : α) (s : List α) :
    pieces sep (x :: s) = addToPieces sep x (pieces sep s) := rfl

theorem pieces_ne_nil (sep : α) (s : List α) : pieces sep s ≠ [] := by
  cases s with
  | nil => simp
  | cons x s =>
    rw [pieces_cons]
    unfold addToPieces
    split <;> split <;> simp

end Pieces

namespace Text

/-- The lines of a text: what stands between its newlines. -/
def lines (s : Text) : List Text := pieces '\n' s

/-- Lines put together again to one text. -/
def unlines (ls : List Text) : Text := joinPieces '\n' ls

/-- The lines of a text with their numbers, which start at one. -/
def numberedLines (s : Text) : List (Text × Nat) := (lines s).zipIdx 1

end Text

end SnippetReview
