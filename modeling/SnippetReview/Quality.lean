import SnippetReview.Text.Basic

/-!
# The quality of a snippet

A snippet starts with a hundred points and loses twelve for every finding, down to none. The
grade is that of the highest band whose floor the score reaches.
-/

namespace SnippetReview

/-- The grades, best first. -/
inductive Grade
  | a
  | b
  | c
  | d
  | f
  deriving DecidableEq

namespace Grade

/-- The letter of a grade. -/
def letter : Grade → Text
  | a => ['A']
  | b => ['B']
  | c => ['C']
  | d => ['D']
  | f => ['F']

/-- What a grade means. -/
def label : Grade → Text
  | a => "Excellent".toList
  | b => "Good".toList
  | c => "Fair".toList
  | d => "Needs work".toList
  | f => "Poor".toList

/-- The lowest score of a grade. -/
def floor : Grade → Nat
  | a => 90
  | b => 75
  | c => 60
  | d => 40
  | f => 0

/-- The grade of a score. -/
def ofScore (score : Nat) : Grade :=
  (([a, b, c, d].find? fun g => g.floor ≤ score)).getD f

end Grade

/-- A score of at most a hundred points, with its grade. -/
structure Quality where
  score : Nat
  grade : Grade
  deriving DecidableEq

namespace Quality

/-- The points that a finding costs. -/
def penalty : Nat := 12

/-- The quality of a snippet with a number of findings. A negative number counts as none. -/
def ofCount (count : Int) : Quality :=
  let score := 100 - penalty * count.toNat
  ⟨score, Grade.ofScore score⟩

end Quality

end SnippetReview
