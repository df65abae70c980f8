import Mathlib.Tactic.SplitIfs
import SnippetReview.Finding
import SnippetReview.Quality
import SnippetReview.Proofs.Bracket.Placement

/-!
# The findings of a review

The findings fall into three runs: those on lines, those on brackets and those on the snippet as a
whole (`all_eq`). Each of them can be read off the list again: the findings on brackets in order
(`filterMap_bracket?_all`), and of the others whether they are there (`filter_isLine_all`,
`mem_all_iff_mem_onSnippet`).
-/

namespace SnippetReview

namespace Finding

/-- Whether a finding is on a line. -/
def isLine : Finding → Bool
  | line _ => true
  | _ => false

/-- What a finding says of the brackets, if it is one on brackets. -/
def bracket? : Finding → Option Bracket.Finding
  | bracket f => some f
  | _ => none

/-- A finding as it reads when brackets have other positions. -/
def relocate (f : Nat → Nat) : Finding → Finding
  | bracket b => bracket (b.relocate f)
  | other => other

/-- The findings on lines. -/
def onLines (language code : Text) : List Line.Finding :=
  Line.checkTerminators language code ++ Line.checkQuotes code

/-- The findings on the snippet as a whole. -/
def onSnippet (longLimit : Int) (code : Text) : List Finding :=
  (if Marker.hasDebugOutput code then [debugOutput] else [])
    ++ (if Marker.hasTodo code then [todo] else [])
    ++ (if Marker.isLong longLimit code then [longSnippet] else [])

theorem all_eq (longLimit : Int) (language code : Text) :
    all longLimit language code
      = (onLines language code).map line ++ (Bracket.check code).map bracket
        ++ onSnippet longLimit code := by
  rw [all, onLines, onSnippet, List.map_append]
  simp only [List.append_assoc]

section OnSnippet

variable {longLimit : Int} {code : Text} {f : Finding}

theorem mem_onSnippet : f ∈ onSnippet longLimit code ↔
    (f = debugOutput ∧ Marker.hasDebugOutput code = true)
      ∨ (f = todo ∧ Marker.hasTodo code = true)
      ∨ (f = longSnippet ∧ Marker.isLong longLimit code = true) := by
  rw [onSnippet, List.mem_append, List.mem_append, or_assoc]
  refine or_congr ?_ (or_congr ?_ ?_)
  all_goals
    split_ifs with h
    · rw [List.mem_singleton]
      exact (and_iff_left h).symm
    · exact iff_of_false List.not_mem_nil fun hf => h hf.2

/-- The findings on the snippet as a whole are neither on lines nor on brackets. -/
theorem isLine_bracket?_of_mem_onSnippet (h : f ∈ onSnippet longLimit code) :
    f.isLine = false ∧ f.bracket? = none := by
  rcases mem_onSnippet.1 h with ⟨rfl, -⟩ | ⟨rfl, -⟩ | ⟨rfl, -⟩ <;> exact ⟨rfl, rfl⟩

/-- The findings on the snippet as a whole have no positions. -/
theorem map_relocate_onSnippet (g : Nat → Nat) :
    (onSnippet longLimit code).map (relocate g) = onSnippet longLimit code := by
  refine List.map_congr_left (g := id) (fun f hf => ?_) |>.trans (List.map_id _)
  rcases mem_onSnippet.1 hf with ⟨rfl, -⟩ | ⟨rfl, -⟩ | ⟨rfl, -⟩ <;> rfl

/-- Texts that differ only at the ends of their lines have the same findings as a whole, if no word
that is looked for ends in a character that they may end in. -/
theorem onSnippet_eq_of_sameUpToLineEnds {p : Char → Bool} {s t : Text}
    (hlower : ∀ c, p c = true → lowerChar c = [c])
    (hwords : ∀ w ∈ Marker.debugCalls ++ Marker.todoWords, Text.isSolidWord p w = true)
    (h : Text.SameUpToLineEnds p s t) : onSnippet longLimit s = onSnippet longLimit t := by
  rw [List.forall_mem_append] at hwords
  have hdebug : Marker.hasDebugOutput s = Marker.hasDebugOutput t :=
    Text.mentionsAny_eq_of_sameUpToLineEnds h hwords.1
  have htodo : Marker.hasTodo s = Marker.hasTodo t :=
    Text.mentionsAny_eq_of_sameUpToLineEnds (h.toLower hlower) hwords.2
  have hlong : Marker.isLong longLimit s = Marker.isLong longLimit t := by
    rw [Marker.isLong, Marker.isLong, h.length_lines]
  rw [onSnippet, onSnippet, hdebug, htodo, hlong]

end OnSnippet

section All

variable {longLimit : Int} {language code : Text}

theorem filter_isLine_all :
    (all longLimit language code).filter isLine = (onLines language code).map line := by
  have hsnippet : (onSnippet longLimit code).filter isLine = [] := by
    rw [List.filter_eq_nil_iff]
    intro f hf
    rw [(isLine_bracket?_of_mem_onSnippet hf).1]
    decide
  have hbrackets : ((Bracket.check code).map bracket).filter isLine = [] := by
    rw [List.filter_map, List.map_eq_nil_iff, List.filter_eq_nil_iff]
    exact fun _ _ => Bool.false_ne_true
  have hlines : ((onLines language code).map line).filter isLine
      = (onLines language code).map line := by
    rw [List.filter_map, List.filter_eq_self.2]
    exact fun _ _ => rfl
  rw [all_eq, List.filter_append, List.filter_append, hlines, hbrackets, hsnippet,
    List.append_nil, List.append_nil]

theorem filterMap_bracket?_all :
    (all longLimit language code).filterMap bracket? = Bracket.check code := by
  have hsnippet : (onSnippet longLimit code).filterMap bracket? = [] :=
    List.filterMap_eq_nil_iff.2 fun f hf => (isLine_bracket?_of_mem_onSnippet hf).2
  have hbrackets : ((Bracket.check code).map bracket).filterMap bracket? = Bracket.check code := by
    rw [List.filterMap_map]
    exact List.filterMap_some
  have hlines : ((onLines language code).map line).filterMap bracket? = [] := by
    rw [List.filterMap_map]
    exact List.filterMap_eq_nil_iff.2 fun _ _ => rfl
  rw [all_eq, List.filterMap_append, List.filterMap_append, hlines, hbrackets, hsnippet,
    List.nil_append, List.append_nil]

theorem mem_all_iff_mem_onSnippet {f : Finding} (hline : f.isLine = false)
    (hbracket : f.bracket? = none) :
    f ∈ all longLimit language code ↔ f ∈ onSnippet longLimit code := by
  rw [all_eq, List.mem_append, List.mem_append, List.mem_map, List.mem_map]
  constructor
  · rintro ((⟨l, -, rfl⟩ | ⟨b, -, rfl⟩) | hf)
    · exact absurd hline (by simp [isLine])
    · exact absurd hbracket (by simp [bracket?])
    · exact hf
  · exact Or.inr

theorem length_all : (all longLimit language code).length
    = (onLines language code).length + (Bracket.check code).length
      + (onSnippet longLimit code).length := by
  rw [all_eq, List.length_append, List.length_append, List.length_map, List.length_map]

end All

end Finding

/-- More findings never score better. -/
theorem Quality.score_ofCount_anti {m n : Int} (h : m ≤ n) :
    (ofCount n).score ≤ (ofCount m).score :=
  Nat.sub_le_sub_left (Nat.mul_le_mul_left penalty (Int.toNat_le_toNat h)) 100

end SnippetReview
