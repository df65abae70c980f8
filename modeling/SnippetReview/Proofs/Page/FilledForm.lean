import Mathlib.Data.List.Nodup
import SnippetReview.Proofs.Page.Form
import SnippetReview.Proofs.Page.HiddenForm

/-!
# What the form is filled in with

The form offers languages to choose from, one of which may be selected, and an area for code. Both
are read from the text of the page: the value of each option with its mark, and the text of the
area. The form holds the code that the page was made with, whatever characters it holds, and the
option that is selected is that of the language, if there is one
(`FormPage.exists_filledForm_markup`).
-/

set_option maxRecDepth 100000

namespace SnippetReview

/-- An option of a form: what is sent if it is chosen, and whether it is selected. -/
structure Choice where
  value : Text
  selected : Bool
  deriving DecidableEq

/-- What a form is filled in with. -/
structure FilledForm where
  choices : List Choice
  code : Text
  deriving DecidableEq

/-- A form is filled in with a language and code: it holds the code, it offers no language and each
language, and the language is selected, and nothing else, if it is offered. -/
structure FilledForm.Shows (form : FilledForm) (language code : Text) : Prop where
  code_eq : form.code = code
  offered : form.choices.map Choice.value = [] :: Language.all.map Language.name
  selected_of_offered : language ∈ Language.all.map Language.name →
    form.choices.filter Choice.selected = [⟨language, true⟩]
  selected_of_other : language ∉ Language.all.map Language.name →
    form.choices.filter Choice.selected = []

namespace Page

/-! ## Options -/

/-- The beginning of the tag of an option, up to its value, without the angle bracket. -/
def optionMark : Text := "option value=\"".toList

/-- What stands in a tag after the value of an attribute, where what follows the quote that opens
the value is given. -/
def marksAfterValue (s : Text) : List Text :=
  pieces ' ' ((s.dropWhile (· != '"')).takeWhile (· != '>'))

/-- The option, where what follows an angle bracket begins one. -/
def choice? (s : Text) : Option Choice :=
  if optionMark.isPrefixOf s then
    let s := s.drop optionMark.length
    some ⟨attributeValue s, (marksAfterValue s).contains "selected".toList⟩
  else none

/-- The options of a list to choose from, up to its end. -/
def choices (s : Text) : List Choice := readTags choice? "/select>".toList s

/-- What follows the value of an option in its tag, and the text after the tag. -/
def afterValue (selected : Bool) (s : Text) : Text :=
  "\" ".toList ++ (text (FormPage.selection selected) ++ '>' :: s)

theorem contains_marksAfterValue (value : Text) (selected : Bool) (s : Text) :
    (marksAfterValue (Entities.page.escape value ++ afterValue selected s)).contains
      "selected".toList = selected := by
  have hrun : ∀ c ∈ Entities.page.escape value, (c != '"') = true := by
    intro c hc
    rw [bne_iff_ne]
    rintro rfl
    exact quote_not_mem_escape value hc
  rw [marksAfterValue, List.dropWhile_append_of_pos hrun]
  cases selected <;> rfl

theorem choice?_option (value : Text) (selected : Bool) (s : Text) :
    choice? (optionMark ++ (Entities.page.escape value ++ afterValue selected s))
      = some ⟨value, selected⟩ := by
  have hvalue : attributeValue (Entities.page.escape value ++ afterValue selected s) = value :=
    attributeValue_escape_append _ _
  rw [choice?, if_pos (List.isPrefixOf_iff_prefix.2 (List.prefix_append _ _)), List.drop_left]
  dsimp only
  rw [hvalue, contains_marksAfterValue]

theorem bracket_not_mem_option (value : Text) (selected : Bool) {label : Text} (h : '<' ∉ label) :
    '<' ∉ optionMark ++ (Entities.page.escape value ++ afterValue selected label) := by
  have hmark : '<' ∉ optionMark := by decide
  have hvalue := bracket_not_mem_escape value
  have hquote : '<' ∉ "\" ".toList := by decide
  have hselection : '<' ∉ text (FormPage.selection selected) := by cases selected <;> decide
  simp only [afterValue, List.mem_append, List.mem_cons, not_or]
  exact ⟨hmark, hvalue, hquote, hselection, by decide, h⟩

/-- What the options for some languages offer. -/
def offers (selected : Text) (languages : List Text) : List Choice :=
  languages.map fun l => ⟨l, l == selected⟩

/-- The languages among them that are selected. -/
theorem filter_offers (selected : Text) (languages : List Text) :
    (offers selected languages).filter Choice.selected
      = List.replicate (languages.count selected) ⟨selected, true⟩ := by
  rw [offers, List.filter_map]
  have hselected : Choice.selected ∘ (fun l => ⟨l, l == selected⟩) = (· == selected) := rfl
  rw [hselected, List.filter_beq, List.map_replicate, beq_self_eq_true]

theorem map_value_offers (selected : Text) (languages : List Text) :
    (offers selected languages).map Choice.value = languages := by
  rw [offers, List.map_map]
  exact List.map_id languages

/-- The tag of an option and the tag that ends it, and what comes before the next one. -/
theorem text_option (selected language : Text) (m : Markup) :
    text (FormPage.option selected language ++ m)
      = "\n        ".toList ++ '<' :: (optionMark ++ (Entities.page.escape language
        ++ afterValue (language == selected) (Entities.page.escape language)) ++ '<' ::
          ("/option>\n        ".toList ++ text m)) := by
  have hopen : "\n        <option value=\"".toList = "\n        ".toList ++ '<' :: optionMark := rfl
  have hclose : "</option>\n        ".toList = '<' :: "/option>\n        ".toList := rfl
  have hend : ">".toList = ['>'] := rfl
  rw [FormPage.option, hopen, hclose, hend]
  simp only [afterValue, text_append, text_cons_markup, text_cons_text, List.append_assoc,
    List.cons_append, List.nil_append]

/-- The options for some languages are read as they were put in, and it is seen which one is
selected. The induction is on the languages; before each option stands the end of the one before
it. -/
theorem choices_options {after : Text} (hafter : "\n      </select>".toList <+: after)
    (selected : Text) (languages : List Text) (n : Markup) :
    choices ("/option>\n        ".toList
        ++ text (languages.flatMap (FormPage.option selected) ++ .markup after :: n))
      = offers selected languages := by
  induction languages with
  | nil =>
    obtain ⟨rest, rfl⟩ := hafter
    have hlead : "/option>\n        ".toList ++ text ([].flatMap (FormPage.option selected)
          ++ .markup ("\n      </select>".toList ++ rest) :: n)
        = "/option>\n        \n      ".toList
          ++ '<' :: ("/select>".toList ++ (rest ++ text n)) := by
      simp [text_cons_markup]
    rw [hlead, choices, readTags_append (by decide) (by decide), readTags_of_end (by decide)]
    rfl
  | cons l languages ih =>
    rw [List.flatMap_cons, List.append_assoc, text_option, ← List.append_assoc, choices,
      readTags_append (by decide) (by decide),
      readTags_append (bracket_not_mem_option l _ (bracket_not_mem_escape l)) rfl, choice?_option,
      ← choices, ih]
    rfl

/-! ## The form of a page -/

/-- The tag of the list of languages. -/
def languageList : String := "select id=\"language\" name=\"language\""

/-- The tag of the area for code. -/
def codeArea : String :=
  "textarea name=\"code\" placeholder=\"// Paste your function, class, or snippet here...\""

/-- What the form of a page is filled in with. -/
def filledForm? (s : Text) : Option FilledForm := do
  let s ← skipTo? languageList s
  let offered := choices s
  let s ← skipTo? codeArea s
  let code ← areaText? s
  return ⟨offered, code⟩

end Page

namespace FormPage

/-- The markup before the languages, but for its last piece. -/
def beforeLanguages : List Text :=
  [Page.beforeTitle, "CodeChat Reviewer".toList, Page.afterTitle, "<div class=\"error\">".toList,
    "</div>".toList, "\n    ".toList, beforeAction]

/-- What is left of the markup before the options: the beginning of the first one, which has no
language. -/
def firstOption : String := "\n        <option value=\"\" "

/-- The markup from the first language on, up to the area for code. -/
def languageParts : List Text :=
  [firstOption.toList, ">Auto-detect (from file)</option>\n        ".toList,
    "\n        <option value=\"".toList, "\" ".toList, "selected".toList, ">".toList,
    "</option>\n        ".toList]

theorem landmark_languageList : Page.Landmark Page.languageList beforeLanguages beforeOptions
    firstOption.toList := by
  constructor
  all_goals
    simp only [Page.openTag, Page.languageList, beforeLanguages, Page.beforeTitle, Page.afterTitle,
      beforeAction, beforeOptions, firstOption, Page.block, List.flatMap_cons, List.flatMap_nil,
      String.toList_append]
    repeat rw [String.toList_ofList]
    decide

theorem landmark_codeArea :
    Page.Landmark Page.codeArea languageParts beforeCode "\n".toList := by
  constructor
  all_goals
    simp only [Page.openTag, Page.codeArea, languageParts, firstOption, beforeCode, Page.block,
      List.flatMap_cons, List.flatMap_nil, String.toList_append]
    repeat rw [String.toList_ofList]
    decide

theorem listEnd_prefix_beforeCode : "\n      </select>".toList <+: beforeCode := by
  simp only [beforeCode, Page.block, List.flatMap_cons, List.flatMap_nil, String.toList_append]
  repeat rw [String.toList_ofList]
  decide

theorem areaEnd_prefix_afterCode : "</textarea>".toList <+: afterCode := by
  simp only [afterCode, Page.block, List.flatMap_cons, List.flatMap_nil]
  repeat rw [String.toList_ofList]
  decide

theorem mem_parts_option (selected language : Text) :
    ∀ s ∈ (option selected language).parts, s ∈ languageParts := by
  rw [option]
  cases language == selected <;> simp [selection, Markup.parts, languageParts, firstOption]

/-- However many languages there are, the markup of their options is the same. -/
theorem mem_parts_options (selected : Text) (languages : List Text) :
    ∀ s ∈ Markup.parts (languages.flatMap (option selected)), s ∈ languageParts := by
  induction languages with
  | nil => simp [Markup.parts]
  | cons l languages ih =>
    rw [List.flatMap_cons, Markup.parts_append, List.forall_mem_append]
    exact ⟨mem_parts_option selected l, ih⟩

section Fields

variable (f : FormPage)

/-- The page from the area for code on. -/
def fromCode : Markup := [.text f.code, .markup afterCode, .markup Page.afterContent]

/-- The options, from what follows the value of the first one on. -/
def languages : Markup :=
  selection f.language.isEmpty ++ .markup ">Auto-detect (from file)</option>\n        ".toList
    :: (Language.all.map Language.name).flatMap (option f.language)

/-- The page up to the languages, but for its last piece. -/
def upToLanguages : Markup :=
  [.markup Page.beforeTitle, .markup "CodeChat Reviewer".toList, .markup Page.afterTitle]
    ++ (f.error.map Page.errorBox).getD []
    ++ [.markup "\n    ".toList, .markup beforeAction, .text (f.address ++ Site.reportPath)]

theorem markup_eq : f.markup = f.upToLanguages ++ .markup beforeOptions
    :: (f.languages ++ .markup beforeCode :: f.fromCode) := by
  simp [markup, Page.frame, content, upToLanguages, languages, fromCode, List.flatMap_map]

/-- The page from the first option on. -/
def fromOptions : Markup :=
  .markup firstOption.toList :: (f.languages ++ .markup beforeCode :: f.fromCode)

theorem mem_parts_upToLanguages : ∀ s ∈ f.upToLanguages.parts, s ∈ beforeLanguages := by
  rw [upToLanguages]
  cases f.error <;> simp [Markup.parts, beforeLanguages, Page.errorBox]

theorem mem_parts_languages :
    ∀ s ∈ Markup.parts (.markup firstOption.toList :: f.languages), s ∈ languageParts := by
  have hselection : ∀ s ∈ (selection f.language.isEmpty).parts, s ∈ languageParts := by
    cases f.language.isEmpty <;> simp [selection, Markup.parts, languageParts, firstOption]
  rw [Markup.parts, languages, Markup.parts_append, Markup.parts, List.forall_mem_cons,
    List.forall_mem_append, List.forall_mem_cons]
  refine ⟨?_, hselection, ?_, mem_parts_options _ _⟩
  all_goals simp [languageParts, firstOption]

theorem skipTo?_languageList : Page.skipTo? Page.languageList (Page.text f.markup)
    = some (Page.text f.fromOptions) := by
  rw [markup_eq]
  exact Page.skipTo?_text landmark_languageList f.mem_parts_upToLanguages _

/-- The options are read: none of them is a language, and then the languages. -/
theorem choices_fromOptions :
    Page.choices (Page.text f.fromOptions)
      = ⟨[], f.language.isEmpty⟩ :: Page.offers f.language (Language.all.map Language.name) := by
  have hlead : Page.text f.fromOptions
      = "\n        ".toList ++ '<' :: (Page.optionMark ++ (Entities.page.escape []
        ++ Page.afterValue f.language.isEmpty "Auto-detect (from file)".toList) ++ '<' ::
          ("/option>\n        ".toList ++ Page.text ((Language.all.map Language.name).flatMap
            (option f.language) ++ .markup beforeCode :: f.fromCode))) := by
    have hopen : firstOption.toList
        = "\n        ".toList ++ '<' :: (Page.optionMark ++ "\" ".toList) := rfl
    have hlabel : ">Auto-detect (from file)</option>\n        ".toList
        = '>' :: ("Auto-detect (from file)".toList ++ '<' :: "/option>\n        ".toList) := rfl
    have hempty : Entities.page.escape [] = [] := rfl
    rw [fromOptions, languages, hopen, hlabel, hempty]
    simp only [Page.afterValue, Page.text_append, Page.text_cons_markup, List.append_assoc,
      List.cons_append, List.nil_append]
  have hlabel : '<' ∉ "Auto-detect (from file)".toList := by decide
  rw [hlead, Page.choices, Page.readTags_append (by decide) (by decide),
    Page.readTags_append (Page.bracket_not_mem_option [] _ hlabel) rfl, Page.choice?_option,
    ← Page.choices, Page.choices_options listEnd_prefix_beforeCode]
  rfl

theorem skipTo?_codeArea : Page.skipTo? Page.codeArea (Page.text f.fromOptions)
    = some (Page.text (.markup "\n".toList :: f.fromCode)) :=
  Page.skipTo?_text landmark_codeArea f.mem_parts_languages _

theorem areaText?_fromCode :
    Page.areaText? (Page.text (.markup "\n".toList :: f.fromCode)) = some f.code := by
  obtain ⟨rest, hrest⟩ := areaEnd_prefix_afterCode
  rw [Page.text_cons_markup, fromCode, Page.text_cons_text, Page.text_cons_markup, ← hrest,
    List.append_assoc]
  exact Page.areaText?_escape_append _ _

/-- The form is filled in with the language and the code that the page was made with. -/
theorem filledForm?_markup : Page.filledForm? (Page.text f.markup)
    = some ⟨⟨[], f.language.isEmpty⟩ :: Page.offers f.language (Language.all.map Language.name),
        f.code⟩ := by
  rw [Page.filledForm?, skipTo?_languageList, Option.bind_eq_bind, Option.bind_some]
  dsimp only
  rw [choices_fromOptions, skipTo?_codeArea, Option.bind_some, areaText?_fromCode,
    Option.bind_some, Option.pure_def]

/-- The form of a page with a language shows the language and the code. -/
theorem exists_filledForm_markup (h : f.language ≠ []) :
    ∃ form, Page.filledForm? (Page.text f.markup) = some form ∧ form.Shows f.language f.code := by
  have hempty : f.language.isEmpty = false := List.isEmpty_eq_false_iff.2 h
  refine ⟨_, filledForm?_markup f, ?_⟩
  rw [hempty]
  have hselected : ∀ n, (Language.all.map Language.name).count f.language = n →
      (⟨[], false⟩ :: Page.offers f.language (Language.all.map Language.name)).filter
          Choice.selected
        = List.replicate n ⟨f.language, true⟩ := by
    intro n hn
    rw [List.filter_cons_of_neg (by decide), Page.filter_offers, hn]
  constructor
  · rfl
  · rw [List.map_cons, Page.map_value_offers]
  · intro hmem
    exact hselected 1 (List.count_eq_one_of_mem (by decide) hmem)
  · intro hnot
    exact hselected 0 (List.count_eq_zero_of_not_mem hnot)

end Fields

end FormPage

end SnippetReview
