import SnippetReview.Page.Report
import SnippetReview.Proofs.Page.Entities
import SnippetReview.Proofs.Text.Lines
import SnippetReview.Proofs.Text.Search

/-!
# Reading pages

A page is read from its text alone: `skipTo?` goes on after the next tag of a kind, `leadingText`
is the text that comes next, with its entities read, `readTags` reads one tag after the other up to
one that ends the row, and `listItems` are the items of a list. A tag begins with an angle bracket,
which no escaped text holds, so a tag is looked for in the markup only (`skipTo?_text`), and text
is read as it was put in (`leadingText_text`).
-/

namespace SnippetReview

/-! ## The text of a document -/

namespace Markup

/-- The pieces of markup of a document. -/
def parts : Markup → List Text
  | [] => []
  | .markup s :: m => s :: parts m
  | .text _ :: m => parts m

theorem parts_append (m n : Markup) : parts (m ++ n) = parts m ++ parts n := by
  induction m with
  | nil => rfl
  | cons p m ih =>
    cases p with
    | markup s => rw [List.cons_append, parts, parts, ih, List.cons_append]
    | text s => rw [List.cons_append, parts, parts, ih]

/-- A document with its text as it is, not escaped. -/
def plain : Markup → Text
  | [] => []
  | .markup s :: m => s ++ plain m
  | .text s :: m => s ++ plain m

variable (e : Entities)

@[simp] theorem render_nil : render e [] = [] := rfl

theorem render_cons (p : Piece) (m : Markup) : render e (p :: m) = p.render e ++ render e m :=
  List.flatMap_cons

theorem render_append (m n : Markup) : render e (m ++ n) = render e m ++ render e n :=
  List.flatMap_append

variable {e}

/-- A character that is escaped stands in a document only where its markup holds it. -/
theorem not_mem_render {x : Char} (hx : x ∈ e.map Prod.fst) (h : ∀ p ∈ e, x ∉ p.2) {m : Markup}
    (hm : ∀ s ∈ m.parts, x ∉ s) : x ∉ m.render e := by
  induction m with
  | nil => simp
  | cons p m ih =>
    cases p with
    | markup s =>
      simp only [parts, List.forall_mem_cons] at hm
      simp only [render_cons, Piece.render, List.mem_append, not_or]
      exact ⟨hm.1, ih hm.2⟩
    | text s =>
      simp only [render_cons, Piece.render, List.mem_append, not_or]
      exact ⟨Entities.not_mem_escape hx h s, ih hm⟩

/-- A document whose markup has no ampersand is read as it was put together, whatever follows it. -/
theorem unescape_render_append (he : e.Readable) {m : Markup} (hm : ∀ s ∈ m.parts, '&' ∉ s)
    (t : Text) : e.unescape (m.render e ++ t) = m.plain ++ e.unescape t := by
  induction m with
  | nil => rfl
  | cons p m ih =>
    cases p with
    | markup s =>
      simp only [parts, List.forall_mem_cons] at hm
      rw [render_cons, Piece.render, List.append_assoc,
        Entities.unescape_append_of_not_mem he hm.1, ih hm.2, plain, List.append_assoc]
    | text s =>
      rw [render_cons, Piece.render, List.append_assoc, Entities.unescape_escape_append he, ih hm,
        plain, List.append_assoc]

end Markup

namespace Page

/-- The text of a page. -/
def text (m : Markup) : Text := m.render Entities.page

theorem text_cons_markup (s : Text) (m : Markup) : text (.markup s :: m) = s ++ text m :=
  Markup.render_cons _ _ _

theorem text_cons_text (s : Text) (m : Markup) :
    text (.text s :: m) = Entities.page.escape s ++ text m :=
  Markup.render_cons _ _ _

theorem text_append (m n : Markup) : text (m ++ n) = text m ++ text n :=
  Markup.render_append _ _ _

theorem bracket_not_mem_escape (s : Text) : '<' ∉ Entities.page.escape s :=
  Entities.not_mem_escape (by decide) (by decide) s

/-! ## Tags -/

/-- An opening tag. -/
def openTag (tag : String) : Text := '<' :: (tag.toList ++ ['>'])

/-- What follows the next opening tag of a kind. -/
def skipTo? (tag : String) (s : Text) : Option Text := Text.after? (openTag tag) s

theorem isFreeOf_escape (mark s : Text) :
    Text.isFreeOf ('<' :: mark) (Entities.page.escape s) = true :=
  Text.isFreeOf_of_not_mem (bracket_not_mem_escape s) mark

/-- A page is free of a mark that begins a tag if its markup is. -/
theorem isFreeOf_text {mark : Text} {m : Markup}
    (h : ∀ s ∈ m.parts, Text.isFreeOf ('<' :: mark) s = true) :
    Text.isFreeOf ('<' :: mark) (text m) = true := by
  induction m with
  | nil => rfl
  | cons p m ih =>
    cases p with
    | markup s =>
      rw [Markup.parts, List.forall_mem_cons] at h
      rw [text_cons_markup]
      exact Text.isFreeOf_append h.1 (ih h.2)
    | text s =>
      rw [text_cons_text]
      exact Text.isFreeOf_append (isFreeOf_escape mark s) (ih h)

/-- A mark that begins a tag is found in the markup, whatever text the page holds. -/
theorem after?_text {mark place rest : Text} {m : Markup}
    (hfree : ∀ s ∈ m.parts, Text.isFreeOf ('<' :: mark) s = true)
    (hfound : Text.after? ('<' :: mark) place = some rest) (n : Markup) :
    Text.after? ('<' :: mark) (text (m ++ .markup place :: n))
      = some (text (.markup rest :: n)) := by
  rw [text_append, text_cons_markup, Text.after?_append_of_isFreeOf (isFreeOf_text hfree),
    Text.after?_append_of_some hfound, text_cons_markup]

/-- A place to stop at: a piece of markup with the first tag of a kind after other pieces without
one, and what follows the tag in it. -/
structure Landmark (tag : String) (before : List Text) (place rest : Text) : Prop where
  free : before.all (Text.isFreeOf (openTag tag)) = true
  found : Text.after? (openTag tag) place = some rest

/-- The tag is found in the markup, whatever text the page holds. -/
theorem skipTo?_text {tag : String} {before : List Text} {place rest : Text}
    (h : Landmark tag before place rest) {m : Markup} (hm : ∀ s ∈ m.parts, s ∈ before)
    (n : Markup) :
    skipTo? tag (text (m ++ .markup place :: n)) = some (text (.markup rest :: n)) :=
  after?_text (fun s hs => List.all_eq_true.1 h.free s (hm s hs)) h.found n

/-! ## Text -/

/-- The text up to the next tag, with its entities read. -/
def leadingText (s : Text) : Text := Entities.page.unescape (s.takeWhile (· != '<'))

/-- Whether a piece of markup holds neither tags nor entities. -/
def isPlain (s : Text) : Bool := !s.contains '<' && !s.contains '&'

theorem isPlain_eq_true_iff {s : Text} : isPlain s = true ↔ '<' ∉ s ∧ '&' ∉ s := by
  rw [isPlain, Bool.and_eq_true, Bool.not_eq_true', Bool.not_eq_true', List.contains_eq_mem,
    List.contains_eq_mem, decide_eq_false_iff_not, decide_eq_false_iff_not]

/-- Between tags, a page is read as it was put together. -/
theorem unescape_text_append {m : Markup} (hm : ∀ s ∈ m.parts, isPlain s = true) (t : Text) :
    Entities.page.unescape (text m ++ t) = m.plain ++ Entities.page.unescape t :=
  Markup.unescape_render_append Entities.readable_page
    (fun s hs => (isPlain_eq_true_iff.1 (hm s hs)).2) t

theorem bracket_not_mem_text {m : Markup} (hm : ∀ s ∈ m.parts, isPlain s = true) :
    '<' ∉ text m :=
  Markup.not_mem_render (by decide) (by decide) fun s hs => (isPlain_eq_true_iff.1 (hm s hs)).1

/-- A field of a page: plain markup before it, and after it the beginning of a piece of markup, up
to the tag in it. -/
structure Field (before after place : Text) : Prop where
  before_plain : isPlain before = true
  after_plain : isPlain after = true
  tag : after ++ ['<'] <+: place

/-- Text is read as it was put in, up to the next tag. -/
theorem leadingText_text {after place : Text} (hafter : isPlain after = true)
    (hplace : after ++ ['<'] <+: place) {m : Markup} (hm : ∀ s ∈ m.parts, isPlain s = true)
    (n : Markup) : leadingText (text (m ++ .markup place :: n)) = m.plain ++ after := by
  obtain ⟨c, rfl⟩ := hplace
  obtain ⟨hbracket, hampersand⟩ := isPlain_eq_true_iff.1 hafter
  have hrun : ∀ x ∈ text m ++ after, (x != '<') = true := by
    intro x hx
    rw [bne_iff_ne]
    rintro rfl
    rcases List.mem_append.1 hx with hx | hx
    · exact bracket_not_mem_text hm hx
    · exact hbracket hx
  have hread : Entities.page.unescape after = after := by
    have h := Entities.unescape_append_of_not_mem Entities.readable_page hampersand []
    rwa [List.append_nil, Entities.unescape_nil, List.append_nil] at h
  rw [leadingText, text_append, text_cons_markup, List.append_assoc, List.append_assoc,
    ← List.append_assoc, List.takeWhile_append_of_pos hrun, List.singleton_append,
    List.takeWhile_cons_of_neg (by decide), List.append_nil, unescape_text_append hm, hread]

theorem Field.leadingText {before after place : Text} (h : Field before after place) (t : Text)
    (n : Markup) : leadingText (text (.markup before :: .text t :: .markup place :: n))
      = before ++ t ++ after := by
  have hparts : ∀ s ∈ Markup.parts [.markup before, .text t], isPlain s = true := by
    intro s hs
    rw [List.mem_singleton.1 hs]
    exact h.before_plain
  have hread := leadingText_text h.after_plain h.tag hparts n
  rwa [Markup.plain, Markup.plain, Markup.plain, List.append_nil] at hread

theorem Field.inside? {before after place : Text} (h : Field before after place) (t : Text)
    (n : Markup) : Text.inside? before after
      (Page.leadingText (text (.markup before :: .text t :: .markup place :: n))) = some t := by
  rw [h.leadingText, Text.inside?_append]

/-! ## Rows of tags -/

section Rows

variable {α : Type} {read : Text → Option α} {stop : Text}

/-- What a row of tags is read as, up to the tag that ends it. Each tag is read with the text that
comes after it. -/
def readTags (read : Text → Option α) (stop s : Text) : List α :=
  ((pieces '<' s).takeWhile fun t => !stop.isPrefixOf t).filterMap read

/-- The first tag is read, and then those that come after it. -/
theorem readTags_append {s : Text} (hbracket : '<' ∉ s) (hend : stop.isPrefixOf s = false)
    (t : Text) :
    readTags read stop (s ++ '<' :: t) = (read s).toList ++ readTags read stop t := by
  rw [readTags, pieces_append_sep, pieces_of_not_mem hbracket, List.singleton_append,
    List.takeWhile_cons_of_pos (by rw [hend]; rfl), List.filterMap_cons]
  cases read s <;> rfl

/-- Nothing is read from the tag on that ends the row. -/
theorem readTags_of_end (hbracket : '<' ∉ stop) (t : Text) :
    readTags read stop (stop ++ t) = [] := by
  obtain ⟨p, ps, hps⟩ := exists_pieces_append hbracket t
  rw [readTags, hps, List.takeWhile_cons_of_neg]
  · rfl
  · rw [List.isPrefixOf_iff_prefix.2 (List.prefix_append _ _)]
    decide

end Rows

/-! ## Lists -/

/-- The text of an item, where what follows an angle bracket begins one. -/
def itemText? (s : Text) : Option Text :=
  if "li>".toList.isPrefixOf s then some (Entities.page.unescape (s.drop 3)) else none

/-- The items of a list, up to its end. -/
def listItems (s : Text) : List Text :=
  ((pieces '<' s).takeWhile fun t => !"/ul>".toList.isPrefixOf t).filterMap itemText?

theorem listItems_eq_readTags (s : Text) : listItems s = readTags itemText? "/ul>".toList s := rfl

theorem itemText?_item (t : Text) :
    itemText? ("li>".toList ++ Entities.page.escape t) = some t := by
  rw [itemText?, if_pos (List.isPrefixOf_iff_prefix.2 (List.prefix_append _ _))]
  exact congrArg some (Entities.unescape_escape Entities.readable_page t)

/-- The items of a list are read as they were put in. The induction is on the items; before the
next one stand blanks at first, and then the end of the item before it. -/
theorem listItems_text {before after : Text}
    (hbefore : before = "\n    ".toList ∨ before = "/li>".toList)
    (hafter : "\n  </ul>".toList <+: after) (ts : List Text) (n : Markup) :
    listItems (text (.markup before :: (ReportPage.items ts ++ .markup after :: n))) = ts := by
  rw [text_cons_markup]
  have hbracket : '<' ∉ before := by rcases hbefore with rfl | rfl <;> decide
  induction ts generalizing before with
  | nil =>
    obtain ⟨rest, rfl⟩ := hafter
    have hlead : before ++ text (ReportPage.items [] ++ .markup ("\n  </ul>".toList ++ rest) :: n)
        = (before ++ "\n  ".toList) ++ '<' :: ("/ul>".toList ++ (rest ++ text n)) := by
      simp [ReportPage.items, text_cons_markup]
    rw [hlead, listItems_eq_readTags, readTags_append, readTags_of_end (by decide)]
    · rcases hbefore with rfl | rfl <;> rfl
    · rcases hbefore with rfl | rfl <;> decide
    · rcases hbefore with rfl | rfl <;> decide
  | cons t ts ih =>
    have hlead : before ++ text (ReportPage.items (t :: ts) ++ .markup after :: n)
        = before ++ '<' :: ("li>".toList ++ Entities.page.escape t ++ '<' ::
          ("/li>".toList ++ text (ReportPage.items ts ++ .markup after :: n))) := by
      simp [ReportPage.items, text_cons_markup, text_cons_text]
    rw [hlead, listItems_eq_readTags, readTags_append hbracket, readTags_append, itemText?_item,
      ← listItems_eq_readTags, ih (Or.inr rfl) (by decide)]
    · rcases hbefore with rfl | rfl <;> rfl
    · rw [List.mem_append, not_or]
      exact ⟨by decide, bracket_not_mem_escape t⟩
    · rfl
    · rcases hbefore with rfl | rfl <;> decide

end Page

end SnippetReview
