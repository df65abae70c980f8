import SnippetReview.Review
import SnippetReview.Proofs.Bracket.Balanced
import SnippetReview.Proofs.Finding
import SnippetReview.Proofs.Numeral.Digits

/-!
# Findings in words

Different findings are told in different words (`message_injective`): the first three characters
tell the kinds apart (`take_message`), and the numbers and brackets in a message can be read off
it.
-/

namespace SnippetReview

/-! ## Findings on lines -/

namespace Line

theorem Fault.message_injective : Function.Injective Fault.message := by
  intro f g h
  cases f <;> cases g
  · rfl
  · exact absurd h (by decide)
  · exact absurd h (by decide)
  · rfl

theorem Finding.message_eq (f : Finding) : f.message
    = "Line ".toList ++ (Numeral.digits f.number ++ (": ".toList ++ f.fault.message)) := by
  rw [← List.append_assoc, ← List.append_assoc]
  rfl

theorem Finding.message_injective : Function.Injective Finding.message := by
  intro f g h
  rw [message_eq, message_eq] at h
  obtain ⟨hnumber, hrest⟩ := Numeral.digits_append_cons_inj (x := ':')
    (s := ' ' :: f.fault.message) (t := ' ' :: g.fault.message) rfl (List.append_cancel_left h)
  have hfault := Fault.message_injective (List.cons.inj hrest).2
  cases f
  cases g
  rw [Finding.mk.injEq]
  exact ⟨hnumber, hfault⟩

end Line

/-! ## Findings on brackets -/

namespace Bracket

theorem message_unexpected (s : Shape) (n : Nat) : (Finding.unexpected s n).message
    = "Unexpected '".toList ++ (s.closeChar :: "' at position ".toList) ++ Numeral.digits n
      ++ ".".toList := rfl

theorem message_unclosed (shapes : List Shape) : (Finding.unclosed shapes).message
    = "Unclosed bracket(s) remain: ".toList
      ++ List.intercalate ", ".toList (shapes.map fun s => ['\'', s.openChar, '\''])
      ++ ".".toList := rfl

theorem message_unexpected_inj {s t : Shape} {m n : Nat}
    (h : (Finding.unexpected s m).message = (Finding.unexpected t n).message) : s = t ∧ m = n := by
  rw [message_unexpected, message_unexpected, List.append_assoc, List.append_assoc,
    List.append_assoc, List.append_assoc] at h
  obtain ⟨hchar, hrest⟩ := List.cons.inj (List.append_cancel_left h)
  have hposition := Numeral.digits_append_cons_inj (x := '.') (s := []) (t := []) rfl
    (List.append_cancel_left hrest)
  exact ⟨Shape.closeChar_injective hchar, hposition.1⟩

/-- The brackets that a list of openers holds are the openers. -/
theorem sequence_openers (shapes : List Shape) :
    sequence (List.intercalate ", ".toList (shapes.map fun s => ['\'', s.openChar, '\'']))
      = shapes.map opener := by
  have hitem : ∀ s : Shape, sequence ['\'', s.openChar, '\''] = [opener s] := by
    intro s
    cases s <;> rfl
  have hcomma : sequence ", ".toList = [] := rfl
  induction shapes with
  | nil => rfl
  | cons s shapes ih =>
    cases shapes with
    | nil => rw [List.map_singleton, List.intercalate_singleton, hitem, List.map_singleton]
    | cons t shapes =>
      rw [List.map_cons] at ih
      rw [List.map_cons, List.map_cons, List.intercalate_cons_cons, sequence_append,
        sequence_append, hitem, hcomma, ih]
      rfl

theorem message_unclosed_inj {ss ts : List Shape}
    (h : (Finding.unclosed ss).message = (Finding.unclosed ts).message) : ss = ts := by
  rw [message_unclosed, message_unclosed] at h
  have hopeners := congrArg sequence (List.append_cancel_left (List.append_cancel_right h))
  rw [sequence_openers, sequence_openers] at hopeners
  exact List.map_injective_iff.2 (fun _ _ => opener.inj) hopeners

end Bracket

/-! ## All findings -/

namespace Finding

/-- The kinds of findings that are told in words of their own. -/
inductive Kind
  | line
  | unexpectedCloser
  | unclosedOpeners
  | debugOutput
  | todo
  | longSnippet
  deriving DecidableEq

/-- The first three characters of a finding in words. -/
def Kind.opening : Kind → Text
  | line => ['L', 'i', 'n']
  | unexpectedCloser => ['U', 'n', 'e']
  | unclosedOpeners => ['U', 'n', 'c']
  | debugOutput => ['D', 'e', 'b']
  | todo => ['F', 'o', 'u']
  | longSnippet => ['F', 'u', 'n']

theorem Kind.opening_injective : Function.Injective Kind.opening := by
  intro k l h
  cases k <;> cases l <;> first | rfl | exact absurd h (by decide)

/-- The kind of a finding. -/
def kind : Finding → Kind
  | line _ => .line
  | bracket (.unexpected _ _) => .unexpectedCloser
  | bracket (.unclosed _) => .unclosedOpeners
  | debugOutput => .debugOutput
  | todo => .todo
  | longSnippet => .longSnippet

theorem take_message (f : Finding) : f.message.take 3 = f.kind.opening := by
  cases f with
  | bracket b => cases b <;> rfl
  | _ => rfl

theorem message_injective : Function.Injective message := by
  intro f g h
  have hkind : f.kind = g.kind := by
    apply Kind.opening_injective
    rw [← take_message, ← take_message, h]
  -- findings of different kinds are told apart by `hkind`
  rcases f with f | (⟨s, m⟩ | ss) | _ | _ | _ <;> rcases g with g | (⟨t, n⟩ | ts) | _ | _ | _ <;>
    try cases hkind
  · rw [Line.Finding.message_injective h]
  · rw [(Bracket.message_unexpected_inj h).1, (Bracket.message_unexpected_inj h).2]
  · rw [Bracket.message_unclosed_inj h]
  · rfl
  · rfl
  · rfl

/-- No finding reads like the sentence that says that there is none. -/
theorem message_ne_noFindings (f : Finding) : f.message ≠ Review.noFindings := by
  intro h
  have hopening : f.kind.opening = Review.noFindings.take 3 := by rw [← take_message, h]
  generalize f.kind = k at hopening
  cases k <;> exact absurd hopening (by decide)

end Finding

end SnippetReview
