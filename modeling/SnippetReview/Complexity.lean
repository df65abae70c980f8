import SnippetReview.Text.Blank
import SnippetReview.Text.Word

/-!
# A coarse estimate of complexity

Loops are counted in one pass from left to right that goes on after each construct it has
found: the words `for` and `while`, and calls of `.forEach` and `.map`, where blanks may stand
before the parenthesis. No loop means constant time, one linear, more quadratic, whether or not
they are nested. Space is linear as soon as a word occurs that tells an allocation.

The pass is `Loop.count`, and `Complexity.estimate` draws the conclusions.
-/

namespace SnippetReview

namespace Loop

/-- The words that are loops by themselves. -/
def words : List Text := ["for".toList, "while".toList]

/-- The methods whose calls are loops. -/
def methods : List Text := [".forEach".toList, ".map".toList]

/-- The end of a loop construct: its last character and the text that follows it. -/
structure Stop where
  last : Option Char
  rest : Text

/-- The end of a loop word that begins the text, if one does; `before` is the character in front
of it. -/
def wordStop? (before : Option Char) (s : Text) : Option Stop :=
  if before.any isWord then none
  else (words.find? fun w => w.isPrefixOf s && endsWord (s.drop w.length)).map fun w =>
    ⟨w.getLast?, s.drop w.length⟩

/-- The end of a loop call that begins the text, up to its parenthesis, if one does. -/
def callStop? (s : Text) : Option Stop :=
  (methods.find? fun m => m.isPrefixOf s).bind fun m =>
    match Text.trimStart (s.drop m.length) with
    | '(' :: rest => some ⟨some '(', rest⟩
    | _ => none

/-- The end of a loop construct that begins the text, if one does. -/
def stop? (before : Option Char) (s : Text) : Option Stop :=
  match wordStop? before s with
  | some e => some e
  | none => callStop? s

/-- A loop construct takes at least one character. -/
theorem length_rest_of_stop {before : Option Char} {s : Text} {e : Stop}
    (h : stop? before s = some e) : e.rest.length < s.length := by
  have hw : ∀ {e : Stop}, wordStop? before s = some e → e.rest.length < s.length := by
    intro e he
    unfold wordStop? at he
    split at he
    · exact absurd he (by simp)
    · rw [Option.map_eq_some_iff] at he
      obtain ⟨w, hfind, rfl⟩ := he
      have hmem := List.mem_of_find?_eq_some hfind
      have hsome := List.find?_some hfind
      rw [Bool.and_eq_true, List.isPrefixOf_iff_prefix] at hsome
      have hle := hsome.1.length_le
      have hpos : 0 < w.length := by
        revert hmem
        simp only [words, List.mem_cons, List.not_mem_nil, or_false]
        rintro (rfl | rfl) <;> decide
      rw [List.length_drop]
      omega
  have hc : ∀ {e : Stop}, callStop? s = some e → e.rest.length < s.length := by
    intro e he
    rw [callStop?, Option.bind_eq_some_iff] at he
    obtain ⟨m, hfind, he⟩ := he
    split at he
    · next rest htrim =>
      have hle := (List.dropWhile_sublist (l := s.drop m.length) isBlank).length_le
      rw [show (s.drop m.length).dropWhile isBlank = '(' :: rest from htrim, List.length_cons,
        List.length_drop] at hle
      obtain rfl := Option.some.inj he
      show rest.length < s.length
      omega
    · exact absurd he (by simp)
  unfold stop? at h
  split at h
  · next e' he' => exact Option.some.inj h ▸ hw he'
  · exact hc h

/-- Counts loop constructs from a point on, where `found` have been counted before it. -/
def countFrom (before : Option Char) (found : Nat) (s : Text) : Nat :=
  match s with
  | [] => found
  | c :: cs =>
    match _h : stop? before (c :: cs) with
    | some e => countFrom e.last (found + 1) e.rest
    | none => countFrom (some c) found cs
termination_by s.length
decreasing_by
  · exact length_rest_of_stop _h
  · simp

/-- The number of loop constructs in a text. -/
def count (code : Text) : Nat := countFrom none 0 code

end Loop

/-- The orders of growth that are told apart. -/
inductive Growth
  | constant
  | linear
  | quadratic
  deriving DecidableEq

/-- An estimate of the time that a snippet takes, and whether its space grows with the input
because it allocates. -/
structure Complexity where
  time : Growth
  allocates : Bool
  deriving DecidableEq

namespace Complexity

/-- The words that tell an allocation. -/
def allocationMarks : List Text :=
  ["new ".toList, "vector".toList, "Array".toList, "ArrayList".toList, "HashMap".toList,
   "malloc(".toList, "make(".toList, "append(".toList, "list(".toList, "dict(".toList,
   "[]".toList]

/-- The time that a number of loops tells. -/
def timeOfLoops : Nat → Growth
  | 0 => .constant
  | 1 => .linear
  | _ => .quadratic

/-- The estimate for a snippet. -/
def estimate (code : Text) : Complexity where
  time := timeOfLoops (Loop.count code)
  allocates := Text.mentionsAny allocationMarks code

/-- A time estimate in words. -/
def timeText : Growth → Text
  | .constant => "O(1) (no loops detected)".toList
  | .linear => "O(n) (approximate guess based on loops)".toList
  | .quadratic => "O(n^2) (nested loops detected)".toList

/-- A space estimate in words: linear with allocations, constant without. -/
def spaceText (allocates : Bool) : Text :=
  if allocates then "O(n) due to dynamic allocations/collections".toList
  else "O(1) additional space (rough estimate)".toList

/-- What is said about every estimate. -/
def notes : Text :=
  ("Complexity here is a heuristic guess based on simple pattern matching, "
    ++ "not a full analysis.").toList

end Complexity

end SnippetReview
