import Mathlib.Data.List.Basic
import SnippetReview.Page.Markup

/-!
# Reading escaped text

Text that stands in markup is read back with `unescape`, which puts its character for every entity.
What has been escaped is read as what it was, whatever follows it (`unescape_escape_append`), if
all entities begin with an ampersand, the ampersand itself is one of the characters that are
escaped, and no entity begins another (`Readable`). Both the entities of pages and those of
paragraphs are such.
-/

namespace SnippetReview

namespace Entities

/-- Reads text that stands in markup, where the next `skip` characters belong to an entity that
has been read. -/
def unescapeFrom (e : Entities) : Nat → Text → Text
  | _, [] => []
  | skip + 1, _ :: cs => unescapeFrom e skip cs
  | 0, c :: cs =>
    match e.find? fun entity => entity.2.isPrefixOf (c :: cs) with
    | some entity => entity.1 :: unescapeFrom e (entity.2.length - 1) cs
    | none => c :: unescapeFrom e 0 cs

/-- Reads text that stands in markup. -/
def unescape (e : Entities) (s : Text) : Text := unescapeFrom e 0 s

/-- Entities that let escaped text be read back. -/
structure Readable (e : Entities) : Prop where
  ampersand_first : ∀ entity ∈ e, entity.2.head? = some '&'
  ampersand_escaped : '&' ∈ e.map Prod.fst
  prefix_free : ∀ p ∈ e, ∀ q ∈ e, p.2 <+: q.2 → p = q

theorem readable_page : page.Readable where
  ampersand_first := by decide
  ampersand_escaped := by decide
  prefix_free := by decide

variable {e : Entities}

/-! ## Escaping -/

theorem escape_cons (c : Char) (s : Text) : e.escape (c :: s) = e.escapeChar c ++ e.escape s :=
  List.flatMap_cons

/-- A character is escaped to its entity, or it has none and stays. -/
theorem escapeChar_cases (e : Entities) (c : Char) :
    (∃ t, (c, t) ∈ e ∧ e.escapeChar c = t) ∨ (c ∉ e.map Prod.fst ∧ e.escapeChar c = [c]) := by
  rw [escapeChar]
  cases h : e.lookup c with
  | some t =>
    obtain ⟨l, r, he, -⟩ := List.lookup_eq_some_iff.1 h
    refine Or.inl ⟨t, ?_, rfl⟩
    rw [he]
    exact List.mem_append_right l List.mem_cons_self
  | none =>
    refine Or.inr ⟨fun hmem => ?_, rfl⟩
    obtain ⟨p, hp, hc⟩ := List.mem_map.1 hmem
    exact absurd hc.symm (by simpa using List.lookup_eq_none_iff.1 h p hp)

/-- A character that is escaped and stands in no entity does not stand in escaped text. -/
theorem not_mem_escape {x : Char} (hx : x ∈ e.map Prod.fst) (h : ∀ p ∈ e, x ∉ p.2) (s : Text) :
    x ∉ e.escape s := by
  rw [escape, List.mem_flatMap]
  rintro ⟨c, -, hmem⟩
  rcases e.escapeChar_cases c with ⟨t, ht, hc⟩ | ⟨hnot, hc⟩
  · rw [hc] at hmem
    exact h _ ht hmem
  · rw [hc, List.mem_singleton] at hmem
    rw [hmem] at hx
    exact hnot hx

/-- In escaped text an ampersand begins an entity, if it stands in entities at their start only. The
induction is on the text; the ampersand stands in what the first character is escaped to, or after
it. -/
theorem exists_entity_of_escape_eq (he : e.Readable) (hstart : ∀ p ∈ e, '&' ∉ p.2.tail)
    {s u v : Text} (h : e.escape s = u ++ '&' :: v) : ∃ p ∈ e, p.2 <+: '&' :: v := by
  induction s generalizing u with
  | nil => simp [escape] at h
  | cons c s ih =>
    rw [escape_cons, List.append_eq_append_iff] at h
    obtain ⟨w, -, hw⟩ | ⟨w, hc, hw⟩ := h
    · exact ih hw
    · cases w with
      | nil => exact ih (u := []) hw.symm
      | cons d w =>
        rw [List.cons_append, List.cons.injEq] at hw
        obtain ⟨rfl, hv⟩ := hw
        rcases e.escapeChar_cases c with ⟨t, ht, hct⟩ | ⟨hnot, hct⟩
        · rw [hct] at hc
          cases u with
          | nil =>
            refine ⟨(c, t), ht, ?_⟩
            rw [hv, hc, List.nil_append, ← List.cons_append]
            exact List.prefix_append _ _
          | cons x u =>
            refine absurd ?_ (hstart _ ht)
            rw [hc]
            exact List.mem_append_right u List.mem_cons_self
        · have hmem : '&' ∈ [c] := by
            rw [← hct, hc]
            exact List.mem_append_right u List.mem_cons_self
          rw [← List.mem_singleton.1 hmem] at hnot
          exact absurd he.ampersand_escaped hnot

/-! ## Reading -/

@[simp] theorem unescape_nil : e.unescape [] = [] := by
  simp [unescape, unescapeFrom]

theorem unescapeFrom_append_length (s t : Text) :
    e.unescapeFrom s.length (s ++ t) = e.unescapeFrom 0 t := by
  induction s with
  | nil => rfl
  | cons c s ih =>
    rw [List.length_cons, List.cons_append, unescapeFrom]
    exact ih

/-- An ampersand has to be there for an entity to be read. -/
theorem unescape_cons_of_ne (he : e.Readable) {c : Char} (hc : c ≠ '&') (s : Text) :
    e.unescape (c :: s) = c :: e.unescape s := by
  have hnone : (e.find? fun entity => entity.2.isPrefixOf (c :: s)) = none := by
    rw [List.find?_eq_none]
    intro entity hmem hbegin
    obtain ⟨u, hu⟩ := List.head?_eq_some_iff.1 (he.ampersand_first entity hmem)
    rw [hu, List.isPrefixOf_cons_cons, Bool.and_eq_true, beq_iff_eq] at hbegin
    exact hc hbegin.1.symm
  rw [unescape, unescapeFrom, hnone]
  rfl

theorem unescape_append_of_not_mem (he : e.Readable) {s : Text} (hs : '&' ∉ s) (t : Text) :
    e.unescape (s ++ t) = s ++ e.unescape t := by
  induction s with
  | nil => rfl
  | cons c s ih =>
    rw [List.mem_cons, not_or] at hs
    rw [List.cons_append, unescape_cons_of_ne he (Ne.symm hs.1), ih hs.2, List.cons_append]

theorem unescape_entity_append (he : e.Readable) {c : Char} {u : Text} (hu : (c, u) ∈ e)
    (t : Text) : e.unescape (u ++ t) = c :: e.unescape t := by
  obtain ⟨v, hv⟩ := List.head?_eq_some_iff.1 (he.ampersand_first _ hu)
  have hfind : (e.find? fun entity => entity.2.isPrefixOf (u ++ t)) = some (c, u) := by
    obtain ⟨entity, hentity⟩ : ∃ entity, (e.find? fun entity => entity.2.isPrefixOf (u ++ t))
        = some entity := by
      rw [← Option.isSome_iff_exists, List.find?_isSome]
      exact ⟨(c, u), hu, List.isPrefixOf_iff_prefix.2 (List.prefix_append u t)⟩
    have hmem := List.mem_of_find?_eq_some hentity
    have hstart := List.find?_some hentity
    have hbegin := List.isPrefixOf_iff_prefix.1 hstart
    rw [hentity]
    rcases List.prefix_or_prefix_of_prefix hbegin (List.prefix_append u t) with h | h
    · rw [he.prefix_free _ hmem _ hu h]
    · rw [← he.prefix_free _ hu _ hmem h]
  subst hv
  rw [unescape, List.cons_append, unescapeFrom]
  rw [List.cons_append] at hfind
  rw [hfind]
  exact congrArg (List.cons c) (unescapeFrom_append_length v t)

/-- What has been escaped is read as what it was. -/
theorem unescape_escape_append (he : e.Readable) (s t : Text) :
    e.unescape (e.escape s ++ t) = s ++ e.unescape t := by
  induction s with
  | nil => rfl
  | cons c s ih =>
    rw [escape_cons, List.append_assoc]
    rcases e.escapeChar_cases c with ⟨u, hu, hc⟩ | ⟨hnot, hc⟩
    · rw [hc, unescape_entity_append he hu, ih, List.cons_append]
    · have hne : c ≠ '&' := by
        rintro rfl
        exact hnot he.ampersand_escaped
      rw [hc, List.singleton_append, unescape_cons_of_ne he hne, ih, List.cons_append]

theorem unescape_escape (he : e.Readable) (s : Text) : e.unescape (e.escape s) = s := by
  have h := unescape_escape_append he s []
  rwa [List.append_nil, unescape_nil, List.append_nil] at h

end Entities

end SnippetReview
