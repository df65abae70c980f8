import SnippetReview.Page.Form
import SnippetReview.Proofs.Page.Reading

/-!
# The skeleton of a page

The skeleton of a page is what is left of its text if only angle brackets and quotes are kept.
Escaped text has none of them, so the skeleton is that of the markup (`skeleton_text`), and
whatever text a page is made with, it has one skeleton: that of a report depends on how many items
its two lists have (`ReportPage.skeleton_markup`), that of the form on whether there is an error
(`FormPage.skeleton_markup`).

An ampersand is the one character with a meaning that escaped text still holds. Where it stems from
text, it begins an entity (`entity_of_ampersand`).
-/

namespace SnippetReview

namespace Page

/-! ## Brackets and quotes -/

/-- Whether a character is an angle bracket or a quote. -/
def isMark (c : Char) : Bool := c == '<' || c == '>' || c == '"' || c == '\''

/-- The angle brackets and quotes of a text, in their order. -/
def skeleton (s : Text) : Text := s.filter isMark

theorem skeleton_append (s t : Text) : skeleton (s ++ t) = skeleton s ++ skeleton t :=
  List.filter_append s t

theorem skeleton_escape (s : Text) : skeleton (Entities.page.escape s) = [] := by
  rw [skeleton, List.filter_eq_nil_iff]
  intro c hc hmark
  simp only [isMark, Bool.or_eq_true, beq_iff_eq] at hmark
  rcases hmark with ((rfl | rfl) | rfl) | rfl <;>
    exact absurd hc (Entities.not_mem_escape (by decide) (by decide) s)

/-- Text adds nothing to the skeleton of a page. -/
theorem skeleton_text (m : Markup) : skeleton (text m) = skeleton m.parts.flatten := by
  induction m with
  | nil => rfl
  | cons p m ih =>
    cases p with
    | markup s => rw [text_cons_markup, skeleton_append, ih, Markup.parts, List.flatten_cons,
        skeleton_append]
    | text s => rw [text_cons_text, skeleton_append, skeleton_escape, List.nil_append, ih,
        Markup.parts]

theorem skeleton_text_append (m n : Markup) :
    skeleton (text (m ++ n)) = skeleton (text m) ++ skeleton (text n) := by
  rw [text_append, skeleton_append]

/-! ## Where characters stem from -/

/-- Where a character of a page stems from. -/
inductive Origin
  | markup
  | text
  deriving DecidableEq

/-- The characters of a piece as they stand in the page, each with where it stems from. -/
def tracePiece : Piece → List (Char × Origin)
  | .markup s => s.map (·, .markup)
  | .text s => (Entities.page.escape s).map (·, .text)

/-- The characters of a page, each with where it stems from. -/
def trace (m : Markup) : List (Char × Origin) := m.flatMap tracePiece

theorem map_fst_tracePiece (p : Piece) : (tracePiece p).map Prod.fst = p.render Entities.page := by
  cases p with
  | markup s => rw [tracePiece, List.map_map]; exact List.map_id s
  | text s => rw [tracePiece, List.map_map]; exact List.map_id _

theorem map_fst_trace (m : Markup) : (trace m).map Prod.fst = text m := by
  rw [trace, List.map_flatMap, text, Markup.render]
  exact congrArg (m.flatMap ·) (funext map_fst_tracePiece)

theorem entity_of_tracePiece {p : Piece} {before after : List (Char × Origin)}
    (h : tracePiece p = before ++ ('&', .text) :: after) :
    ∃ entity ∈ Entities.page, entity.2 <+: '&' :: after.map Prod.fst := by
  cases p with
  | markup s =>
    have hmem : ('&', Origin.text) ∈ s.map (·, Origin.markup) := by
      rw [tracePiece] at h
      rw [h]
      exact List.mem_append_right before List.mem_cons_self
    obtain ⟨c, -, hc⟩ := List.mem_map.1 hmem
    exact absurd (congrArg Prod.snd hc) (by simp)
  | text s =>
    have hescape := map_fst_tracePiece (.text s)
    rw [h, List.map_append, List.map_cons] at hescape
    exact Entities.exists_entity_of_escape_eq Entities.readable_page (by decide) hescape.symm

/-- An ampersand that stems from text begins an entity. The induction is on the page; the ampersand
stands in its first piece or after it. -/
theorem entity_of_ampersand {m : Markup} {before after : List (Char × Origin)}
    (h : trace m = before ++ ('&', .text) :: after) :
    ∃ entity ∈ Entities.page, entity.2 <+: '&' :: after.map Prod.fst := by
  induction m generalizing before with
  | nil => simp [trace] at h
  | cons p m ih =>
    rw [trace, List.flatMap_cons, List.append_eq_append_iff] at h
    obtain ⟨w, -, hw⟩ | ⟨w, hp, hw⟩ := h
    · exact ih hw
    · cases w with
      | nil =>
        have hrest : trace m = [] ++ ('&', .text) :: after := hw.symm
        exact ih hrest
      | cons x w =>
        rw [List.cons_append, List.cons.injEq] at hw
        obtain ⟨rfl, rfl⟩ := hw
        obtain ⟨entity, hmem, hbegin⟩ := entity_of_tracePiece hp
        refine ⟨entity, hmem, hbegin.trans ?_⟩
        rw [List.map_append, ← List.cons_append]
        exact List.prefix_append _ _

end Page

/-! ## The skeleton of a report -/

namespace ReportPage

theorem parts_items_eq {ts us : List Text} (h : ts.length = us.length) :
    (items ts).parts = (items us).parts := by
  induction ts generalizing us with
  | nil => rw [List.length_eq_zero_iff.1 h.symm]
  | cons t ts ih =>
    obtain ⟨u, us, rfl⟩ := List.exists_cons_of_length_eq_add_one h.symm
    rw [List.length_cons, List.length_cons, Nat.add_right_cancel_iff] at h
    show "<li>".toList :: "</li>".toList :: (items ts).parts = _ :: _ :: (items us).parts
    rw [ih h]

/-- The skeleton of a report depends on how many items its two lists have. -/
theorem skeleton_markup {p q : ReportPage}
    (hissues : p.review.issues.length = q.review.issues.length)
    (himprovements : p.review.improvements.length = q.review.improvements.length) :
    Page.skeleton (Page.text p.markup) = Page.skeleton (Page.text q.markup) := by
  have hparts : p.markup.parts = q.markup.parts := by
    simp only [markup, Page.frame, content, heading, summary, complexity, Markup.parts_append,
      Markup.parts, parts_items_eq hissues, parts_items_eq himprovements]
  rw [Page.skeleton_text, Page.skeleton_text, hparts]

end ReportPage

/-! ## The skeleton of the form -/

namespace FormPage

theorem skeleton_selection (selected : Bool) :
    Page.skeleton (Page.text (selection selected)) = [] := by
  cases selected with
  | false => rfl
  | true => decide

theorem skeleton_option (selected selected' language : Text) :
    Page.skeleton (Page.text (option selected language))
      = Page.skeleton (Page.text (option selected' language)) := by
  simp only [option, Page.skeleton_text_append, skeleton_selection]

theorem skeleton_options (selected selected' : Text) (ls : List Language) :
    Page.skeleton (Page.text (ls.flatMap fun l => option selected l.name))
      = Page.skeleton (Page.text (ls.flatMap fun l => option selected' l.name)) := by
  induction ls with
  | nil => rfl
  | cons l ls ih =>
    rw [List.flatMap_cons, List.flatMap_cons, Page.skeleton_text_append, Page.skeleton_text_append,
      ih, skeleton_option selected selected']

theorem skeleton_content (f g : FormPage) :
    Page.skeleton (Page.text f.content) = Page.skeleton (Page.text g.content) := by
  have hcode : ∀ code : Text, Page.skeleton (Page.text [.markup beforeCode, .text code,
      .markup afterCode]) = Page.skeleton (beforeCode ++ (afterCode ++ [])) := by
    intro code
    rw [Page.skeleton_text]
    rfl
  have haction : ∀ address : Text, Page.skeleton (Page.text [.markup beforeAction, .text address,
      .markup beforeOptions]) = Page.skeleton (beforeAction ++ (beforeOptions ++ [])) := by
    intro address
    rw [Page.skeleton_text]
    rfl
  simp only [content, Page.skeleton_text_append, skeleton_selection, haction, hcode,
    skeleton_options f.language g.language]

theorem skeleton_errorBox (message message' : Text) :
    Page.skeleton (Page.text (Page.errorBox message))
      = Page.skeleton (Page.text (Page.errorBox message')) := by
  rw [Page.skeleton_text, Page.skeleton_text]
  rfl

/-- The skeleton of the form depends on whether there is an error. -/
theorem skeleton_markup {f g : FormPage} (h : f.error.isSome = g.error.isSome) :
    Page.skeleton (Page.text f.markup) = Page.skeleton (Page.text g.markup) := by
  have hbox : Page.skeleton (Page.text ((f.error.map Page.errorBox).getD []))
      = Page.skeleton (Page.text ((g.error.map Page.errorBox).getD [])) := by
    cases hf : f.error with
    | none =>
      rw [hf, eq_comm, Option.isSome_none, Option.isSome_eq_false_iff,
        Option.isNone_iff_eq_none] at h
      rw [h]
    | some message =>
      rw [hf, eq_comm, Option.isSome_some] at h
      obtain ⟨message', hg⟩ := Option.isSome_iff_exists.1 h
      rw [hg]
      exact skeleton_errorBox message message'
  simp only [markup, Page.frame, Page.skeleton_text_append, hbox, skeleton_content f g]

end FormPage

end SnippetReview
