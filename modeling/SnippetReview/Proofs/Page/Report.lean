import SnippetReview.Service.Payload
import SnippetReview.Proofs.Page.Reading

/-!
# Reading the report

`Shown` is what a review shows to its reader. It can be read off the text of the report page
(`Shown.ofPage?`) and, by the keys, off the JSON object that programs are sent (`Shown.ofJson?`).
Both give what the review holds, so the page and the object always show the same.
-/

set_option maxRecDepth 100000

namespace SnippetReview

namespace ReportPage

/-! ## The parts of the page

Each part of the page begins with a field that is read and goes on to the end of the page.
-/

variable (p : ReportPage)

/-- The language as the page shows it. -/
def shownLanguage : Text :=
  if p.review.language.isEmpty then "Unknown".toList else p.review.language

/-- The markup between the score and the grade. -/
def beforeGrade : Text := "/100</span>\n    <span>Grade ".toList

def fromFix : Markup :=
  [.text p.review.suggestedFix, .markup afterFix, .markup Page.afterContent]

def fromNotes : Markup := .text Complexity.notes :: .markup beforeFix :: p.fromFix

def fromSpace : Markup :=
  .text (Complexity.spaceText p.review.complexity.allocates) :: .markup beforeNotes :: p.fromNotes

def fromTime : Markup :=
  .text (Complexity.timeText p.review.complexity.time) :: .markup beforeSpace :: p.fromSpace

def fromImprovements : Markup := items p.review.improvements ++ .markup beforeTime :: p.fromTime

def fromIssues : Markup := items p.review.issues ++ .markup beforeImprovements :: p.fromImprovements

def fromGrade : Markup :=
  .text p.review.quality.grade.letter :: .markup " · ".toList ::
    .text p.review.quality.grade.label :: .markup beforeIssues :: p.fromIssues

def fromScore : Markup :=
  .text (Numeral.digits p.review.quality.score) :: .markup beforeGrade :: p.fromGrade

/-- The markup between the language and the score. -/
def hiddenForm : Markup :=
  [.markup beforeAction, .text (p.address ++ Site.printPath), .markup beforeHiddenLanguage,
   .text p.language, .markup beforeHiddenCode, .text p.code, .markup afterHiddenCode,
   .text (p.address ++ Site.homePath)]

def fromLanguage : Markup :=
  .text p.shownLanguage :: (p.hiddenForm ++ .markup beforeScore :: p.fromScore)

/-- The markup before the language, but for its last piece. -/
def opening : Markup :=
  [.markup Page.beforeTitle, .markup "Review · CodeChat Reviewer".toList, .markup Page.afterTitle,
   .markup "\n    ".toList]

theorem markup_eq : p.markup = opening ++ .markup beforeLanguage :: p.fromLanguage := by
  rw [markup, Page.frame, content, heading, summary, complexity]
  simp only [List.append_assoc, List.cons_append, List.nil_append]
  rfl

/-! ## The layout of the page

The markup between two fields is fixed, so where they begin and end is found by evaluation.
-/

/-- Where the fields of the page begin. -/
structure Beginnings : Prop where
  language : Page.Landmark "span" opening.parts beforeLanguage "Review Summary (".toList
  score : Page.Landmark "span class=\"score\""
    ["Review Summary (".toList, beforeAction, beforeHiddenLanguage, beforeHiddenCode,
      afterHiddenCode] beforeScore []
  grade : Page.Landmark "span" [[]] beforeGrade "Grade ".toList
  issues : Page.Landmark "ul id=\"issues\"" ["Grade ".toList, " · ".toList] beforeIssues
    "\n    ".toList
  improvements : Page.Landmark "ul id=\"improvements\""
    ["\n    ".toList, "<li>".toList, "</li>".toList] beforeImprovements "\n    ".toList
  time : Page.Landmark "p" ["\n    ".toList, "<li>".toList, "</li>".toList] beforeTime
    "Time: ".toList
  space : Page.Landmark "p" ["Time: ".toList] beforeSpace "Space: ".toList
  notes : Page.Landmark "p style=\"font-size: 11px; color: #64748b;\"" ["Space: ".toList]
    beforeNotes []
  fix : Page.Landmark "pre id=\"suggested-fix\"" [[]] beforeFix []

theorem beginnings : Beginnings := by
  refine ⟨⟨?_, ?_⟩, ⟨?_, ?_⟩, ⟨?_, ?_⟩, ⟨?_, ?_⟩, ⟨?_, ?_⟩, ⟨?_, ?_⟩, ⟨?_, ?_⟩, ⟨?_, ?_⟩, ⟨?_, ?_⟩⟩
  all_goals
    simp only [Page.openTag, opening, Markup.parts, Page.beforeTitle, Page.afterTitle,
      beforeLanguage, beforeAction, beforeHiddenLanguage, beforeHiddenCode, afterHiddenCode,
      beforeScore, beforeIssues, beforeImprovements, beforeTime, beforeSpace,
      beforeNotes, beforeFix, Page.block, List.flatMap_cons, List.flatMap_nil,
      String.toList_append]
    repeat rw [String.toList_ofList]
    decide

/-- Where the fields of the page end. -/
structure Ends : Prop where
  language : Page.Field "Review Summary (".toList ")".toList beforeAction
  score : Page.Field [] "/100".toList beforeGrade
  label : Page.Field "Grade ".toList [] beforeIssues
  issues : "\n  </ul>".toList <+: beforeImprovements
  improvements : "\n  </ul>".toList <+: beforeTime
  time : Page.Field "Time: ".toList [] beforeSpace
  space : Page.Field "Space: ".toList [] beforeNotes
  notes : Page.Field [] [] beforeFix
  fix : Page.Field [] [] afterFix

theorem ends : Ends := by
  refine ⟨⟨?_, ?_, ?_⟩, ⟨?_, ?_, ?_⟩, ⟨?_, ?_, ?_⟩, ?_, ?_, ⟨?_, ?_, ?_⟩, ⟨?_, ?_, ?_⟩,
    ⟨?_, ?_, ?_⟩, ⟨?_, ?_, ?_⟩⟩
  all_goals
    try simp only [beforeAction, beforeIssues, beforeImprovements, beforeTime, beforeSpace,
      beforeNotes, beforeFix, afterFix]
    repeat rw [String.toList_ofList]
    decide

end ReportPage

/-! ## What a review shows -/

/-- What a review shows to its reader. -/
structure Shown where
  language : Text
  score : Text
  grade : Text
  label : Text
  issues : List Text
  improvements : List Text
  time : Text
  space : Text
  notes : Text
  suggestedFix : Text
  deriving DecidableEq

/-- What a review holds, as it is shown. -/
def Shown.ofReview (r : Review) : Shown where
  language := r.language
  score := Numeral.digits r.quality.score
  grade := r.quality.grade.letter
  label := r.quality.grade.label
  issues := r.issues
  improvements := r.improvements
  time := Complexity.timeText r.complexity.time
  space := Complexity.spaceText r.complexity.allocates
  notes := Complexity.notes
  suggestedFix := r.suggestedFix

/-! ## The JSON object -/

namespace Json

/-- The value of a key, if the value is an object that has it. -/
def member? (key : String) (j : Json) : Option Json := j.members?.bind (lookup? key.toList)

/-- The integer that a value is, if it is one. -/
def integer? : Json → Option Int
  | integer n => some n
  | _ => none

/-- The texts that a value lists, if it is a list of texts. -/
def texts? : Json → Option (List Text)
  | array items => items.mapM text?
  | _ => none

theorem texts?_array_map_string (ts : List Text) : texts? (array (ts.map string)) = some ts := by
  show (ts.map string).mapM text? = some ts
  induction ts with
  | nil => rfl
  | cons t ts ih => simp [ih, text?]

end Json

/-- What a review that is sent as a JSON object shows. -/
def Shown.ofJson? (j : Json) : Option Shown := do
  let language ← (← j.member? "language").text?
  let quality ← j.member? "quality"
  let score ← (← quality.member? "score").integer?
  let grade ← (← quality.member? "grade").text?
  let label ← (← quality.member? "label").text?
  let issues ← (← (← j.member? "potentialIssues").member? "items").texts?
  let improvements ← (← (← j.member? "improvements").member? "items").texts?
  let complexity ← j.member? "complexity"
  let time ← (← complexity.member? "time").text?
  let space ← (← complexity.member? "space").text?
  let notes ← (← complexity.member? "notes").text?
  let suggestedFix ← (← j.member? "suggestedFix").text?
  return { language, score := Numeral.digits score.toNat, grade, label, issues, improvements,
           time, space, notes, suggestedFix }

theorem Shown.ofJson?_ofReview (r : Review) : ofJson? (Json.ofReview r) = some (ofReview r) := by
  have hissues := Json.texts?_array_map_string r.issues
  have himprovements := Json.texts?_array_map_string r.improvements
  simp [ofJson?, ofReview, Json.ofReview, Json.ofReviewWith, Json.ofQuality, Json.titledList,
    Json.ofComplexity, Json.member?, Json.members?, Json.lookup?, List.lookup_cons, Json.text?,
    Json.integer?, hissues, himprovements]

/-! ## The page as it is read -/

/-- What a report page shows, read from its text. -/
def Shown.ofPage? (s : Text) : Option Shown := do
  let s ← Page.skipTo? "span" s
  let language ← Text.inside? "Review Summary (".toList ")".toList (Page.leadingText s)
  let s ← Page.skipTo? "span class=\"score\"" s
  let score ← Text.inside? [] "/100".toList (Page.leadingText s)
  let s ← Page.skipTo? "span" s
  let rating ← Text.inside? "Grade ".toList [] (Page.leadingText s)
  let (grade, label) ← breakAt? " · ".toList rating
  let s ← Page.skipTo? "ul id=\"issues\"" s
  let issues := Page.listItems s
  let s ← Page.skipTo? "ul id=\"improvements\"" s
  let improvements := Page.listItems s
  let s ← Page.skipTo? "p" s
  let time ← Text.inside? "Time: ".toList [] (Page.leadingText s)
  let s ← Page.skipTo? "p" s
  let space ← Text.inside? "Space: ".toList [] (Page.leadingText s)
  let s ← Page.skipTo? "p style=\"font-size: 11px; color: #64748b;\"" s
  let notes := Page.leadingText s
  let s ← Page.skipTo? "pre id=\"suggested-fix\"" s
  return { language, score, grade, label, issues, improvements, time, space, notes,
           suggestedFix := Page.leadingText s }

namespace ReportPage

theorem parts_items {ts : List Text} {s : Text} (hs : s ∈ (items ts).parts) :
    s ∈ ["<li>".toList, "</li>".toList] := by
  induction ts with
  | nil => exact absurd hs List.not_mem_nil
  | cons t ts ih =>
    rcases List.mem_cons.1 hs with rfl | hs
    · exact List.mem_cons_self
    rcases List.mem_cons.1 hs with rfl | hs
    · exact List.mem_cons_of_mem _ List.mem_cons_self
    · exact ih hs

theorem mem_parts_list {ts : List Text} {a s : Text}
    (hs : s ∈ Markup.parts (.markup a :: items ts)) :
    s ∈ [a, "<li>".toList, "</li>".toList] := by
  rcases List.mem_cons.1 hs with rfl | hs
  · exact List.mem_cons_self
  · exact List.mem_cons_of_mem _ (parts_items hs)

section Fields

variable (p : ReportPage)

theorem skipTo?_language : Page.skipTo? "span" (Page.text p.markup)
    = some (Page.text (.markup "Review Summary (".toList :: p.fromLanguage)) := by
  rw [markup_eq]
  exact Page.skipTo?_text beginnings.language (fun _ hs => hs) _

theorem inside?_language : Text.inside? "Review Summary (".toList ")".toList
    (Page.leadingText (Page.text (.markup "Review Summary (".toList :: p.fromLanguage)))
      = some p.shownLanguage :=
  ends.language.inside? _ _

theorem skipTo?_score : Page.skipTo? "span class=\"score\""
    (Page.text (.markup "Review Summary (".toList :: p.fromLanguage))
      = some (Page.text (.markup [] :: p.fromScore)) :=
  Page.skipTo?_text beginnings.score
    (m := .markup "Review Summary (".toList :: .text p.shownLanguage :: p.hiddenForm)
    (fun _ hs => hs) _

theorem inside?_score : Text.inside? [] "/100".toList
    (Page.leadingText (Page.text (.markup [] :: p.fromScore)))
      = some (Numeral.digits p.review.quality.score) :=
  ends.score.inside? _ _

theorem skipTo?_grade : Page.skipTo? "span" (Page.text (.markup [] :: p.fromScore))
    = some (Page.text (.markup "Grade ".toList :: p.fromGrade)) :=
  Page.skipTo?_text beginnings.grade
    (m := [.markup [], .text (Numeral.digits p.review.quality.score)]) (fun _ hs => hs) _

theorem inside?_grade : Text.inside? "Grade ".toList []
    (Page.leadingText (Page.text (.markup "Grade ".toList :: p.fromGrade)))
      = some (p.review.quality.grade.letter ++ " · ".toList ++ p.review.quality.grade.label) := by
  have hplain : ∀ s ∈ ["Grade ".toList, " · ".toList], Page.isPlain s = true := by decide
  have hread := Page.leadingText_text ends.label.after_plain ends.label.tag
    (m := [.markup "Grade ".toList, .text p.review.quality.grade.letter, .markup " · ".toList,
      .text p.review.quality.grade.label]) hplain p.fromIssues
  have hframe := Text.inside?_append "Grade ".toList []
    (p.review.quality.grade.letter ++ " · ".toList ++ p.review.quality.grade.label)
  rw [← hframe]
  refine congrArg _ (hread.trans ?_)
  simp only [Markup.plain, List.append_assoc, List.append_nil]

theorem breakAt?_grade (g : Grade) :
    breakAt? " · ".toList (g.letter ++ " · ".toList ++ g.label) = some (g.letter, g.label) := by
  cases g <;> decide

theorem skipTo?_issues : Page.skipTo? "ul id=\"issues\""
    (Page.text (.markup "Grade ".toList :: p.fromGrade))
      = some (Page.text (.markup "\n    ".toList :: p.fromIssues)) :=
  Page.skipTo?_text beginnings.issues
    (m := [.markup "Grade ".toList, .text p.review.quality.grade.letter, .markup " · ".toList,
      .text p.review.quality.grade.label]) (fun _ hs => hs) _

theorem listItems_issues :
    Page.listItems (Page.text (.markup "\n    ".toList :: p.fromIssues)) = p.review.issues :=
  Page.listItems_text (Or.inl rfl) ends.issues _ _

theorem skipTo?_improvements : Page.skipTo? "ul id=\"improvements\""
    (Page.text (.markup "\n    ".toList :: p.fromIssues))
      = some (Page.text (.markup "\n    ".toList :: p.fromImprovements)) :=
  Page.skipTo?_text beginnings.improvements
    (m := .markup "\n    ".toList :: items p.review.issues) (fun _ => mem_parts_list) _

theorem listItems_improvements :
    Page.listItems (Page.text (.markup "\n    ".toList :: p.fromImprovements))
      = p.review.improvements :=
  Page.listItems_text (Or.inl rfl) ends.improvements _ _

theorem skipTo?_time :
    Page.skipTo? "p" (Page.text (.markup "\n    ".toList :: p.fromImprovements))
      = some (Page.text (.markup "Time: ".toList :: p.fromTime)) :=
  Page.skipTo?_text beginnings.time
    (m := .markup "\n    ".toList :: items p.review.improvements) (fun _ => mem_parts_list) _

theorem inside?_time : Text.inside? "Time: ".toList []
    (Page.leadingText (Page.text (.markup "Time: ".toList :: p.fromTime)))
      = some (Complexity.timeText p.review.complexity.time) :=
  ends.time.inside? _ _

theorem skipTo?_space : Page.skipTo? "p" (Page.text (.markup "Time: ".toList :: p.fromTime))
    = some (Page.text (.markup "Space: ".toList :: p.fromSpace)) :=
  Page.skipTo?_text beginnings.space
    (m := [.markup "Time: ".toList, .text (Complexity.timeText p.review.complexity.time)])
    (fun _ hs => hs) _

theorem inside?_space : Text.inside? "Space: ".toList []
    (Page.leadingText (Page.text (.markup "Space: ".toList :: p.fromSpace)))
      = some (Complexity.spaceText p.review.complexity.allocates) :=
  ends.space.inside? _ _

theorem skipTo?_notes : Page.skipTo? "p style=\"font-size: 11px; color: #64748b;\""
    (Page.text (.markup "Space: ".toList :: p.fromSpace))
      = some (Page.text (.markup [] :: p.fromNotes)) :=
  Page.skipTo?_text beginnings.notes
    (m := [.markup "Space: ".toList,
      .text (Complexity.spaceText p.review.complexity.allocates)]) (fun _ hs => hs) _

theorem leadingText_notes :
    Page.leadingText (Page.text (.markup [] :: p.fromNotes)) = Complexity.notes :=
  (ends.notes.leadingText _ _).trans (List.append_nil _)

theorem skipTo?_fix : Page.skipTo? "pre id=\"suggested-fix\""
    (Page.text (.markup [] :: p.fromNotes)) = some (Page.text (.markup [] :: p.fromFix)) :=
  Page.skipTo?_text beginnings.fix (m := [.markup [], .text Complexity.notes]) (fun _ hs => hs) _

theorem leadingText_fix :
    Page.leadingText (Page.text (.markup [] :: p.fromFix)) = p.review.suggestedFix :=
  (ends.fix.leadingText _ _).trans (List.append_nil _)

end Fields

end ReportPage

open ReportPage in
/-- The report page shows what the review holds. -/
theorem Shown.ofPage?_text (p : ReportPage) :
    ofPage? (Page.text p.markup) = some { ofReview p.review with language := p.shownLanguage } := by
  rw [ofPage?, skipTo?_language, Option.bind_eq_bind, Option.bind_some]
  rw [inside?_language, Option.bind_some, skipTo?_score, Option.bind_some]
  rw [inside?_score, Option.bind_some, skipTo?_grade, Option.bind_some]
  rw [inside?_grade, Option.bind_some, breakAt?_grade, Option.bind_eq_bind, Option.bind_some]
  dsimp only
  rw [skipTo?_issues, Option.bind_some, listItems_issues]
  rw [skipTo?_improvements, Option.bind_some, listItems_improvements]
  rw [skipTo?_time, Option.bind_some, inside?_time, Option.bind_some]
  rw [skipTo?_space, Option.bind_some, inside?_space, Option.bind_some]
  rw [skipTo?_notes, Option.bind_some, leadingText_notes]
  rw [skipTo?_fix, Option.bind_some, leadingText_fix]
  rfl

end SnippetReview
