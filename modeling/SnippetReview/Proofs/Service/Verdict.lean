import SnippetReview.Proofs.Review.Language
import SnippetReview.Proofs.Service.Agreement

/-!
# The verdict on a body

A program sends a body and is told a review or what is wrong. What it is told follows from the body
and the limits alone, by the first of a few conditions that is not met (`Verdict`): the body has to
be the form of an object, the object has to name a language and to hold code, and the code has to
be of an admitted length. There is exactly one verdict on every body, and it is what the program is
answered (`reply_verdict`). A body that meets all conditions and in whose language or code a lone
surrogate stands is answered as if the program had failed: the review of it cannot be sent
(`reply_loneSurrogate`).
-/

namespace SnippetReview

/-! ## The members of an object -/

namespace Json

/-- The members of an object give a key a value: it is that of the last member with the key. -/
def Gives (members : List (Text × Json)) (key : String) (value : Json) : Prop :=
  ∃ before after, members = before ++ (key.toList, value) :: after ∧ ∀ m ∈ after, m.1 ≠ key.toList

/-- The members of an object give a key a text with the given code points, not all of them blank. -/
def Names (members : List (Text × Json)) (key : String) (p : RawText) : Prop :=
  (∃ value, Gives members key value ∧ value.points? = some p) ∧ ∃ q ∈ p, isBlank q.legible = false

theorem lookup?_eq_some_iff {members : List (Text × Json)} {key : String} {value : Json} :
    lookup? key.toList members = some value ↔ Gives members key value := by
  rw [lookup?, List.lookup_eq_some_iff]
  constructor
  · rintro ⟨l, r, hmembers, hl⟩
    refine ⟨r.reverse, l.reverse, ?_, ?_⟩
    · have h := congrArg List.reverse hmembers
      simpa using h
    · intro m hm
      have hne := hl m (List.mem_reverse.1 hm)
      simp only [bne_iff_ne, ne_eq] at hne
      exact fun h => hne h.symm
  · rintro ⟨before, after, rfl, hafter⟩
    refine ⟨after.reverse, before.reverse, by simp, ?_⟩
    intro m hm
    have hne := hafter m (List.mem_reverse.1 hm)
    simp only [bne_iff_ne, ne_eq]
    exact fun h => hne h.symm

theorem text?_eq (value : Json) : value.text? = value.points?.map RawText.legible := by
  cases value <;> simp [text?, points?]

end Json

theorem Text.isBlankText_eq_false_iff {s : Text} :
    isBlankText s = false ↔ ∃ c ∈ s, isBlank c = false := by
  rw [isBlankText, List.isEmpty_eq_false_iff, ne_eq, trim_eq_nil_iff, Blank]
  simp

namespace Service

theorem isBlankText_legible_eq_false_iff {p : RawText} :
    Text.isBlankText p.legible = false ↔ ∃ q ∈ p, isBlank q.legible = false := by
  rw [Text.isBlankText_eq_false_iff, RawText.legible]
  simp

/-- What a key names is the text that it is given, if that is not blank. -/
theorem names_iff {members : List (Text × Json)} {key : String} {p : RawText} :
    Json.Names members key p
      ↔ pointsOf members key = p ∧ Text.isBlankText p.legible = false := by
  rw [Json.Names, ← isBlankText_legible_eq_false_iff]
  refine and_congr_left fun hsolid => ?_
  have hne : p ≠ [] := by
    rintro rfl
    exact absurd hsolid (by decide)
  simp only [← Json.lookup?_eq_some_iff]
  rw [pointsOf]
  cases Json.lookup? key.toList members with
  | none => simp [Ne.symm hne]
  | some value => cases h : value.points? <;> simp [h, Ne.symm hne]

theorem not_names_iff {members : List (Text × Json)} {key : String} :
    (∀ p, ¬ Json.Names members key p)
      ↔ Text.isBlankText (pointsOf members key).legible = true := by
  constructor
  · intro h
    by_contra hsolid
    exact h _ (names_iff.2 ⟨rfl, Bool.eq_false_iff.2 hsolid⟩)
  · intro hblank p hnames
    obtain ⟨rfl, hsolid⟩ := names_iff.1 hnames
    rw [hblank] at hsolid
    exact absurd hsolid (by decide)

/-! ## The verdict -/

/-- The answer that tells a program what is wrong. -/
def errorAnswer (message : Text) : Answer :=
  .of 400 (.json (.object [("error".toList, .string message)]))

/-- A body is the form of an object that names a language and code with the given code points. -/
def Reads (maxDepth : Nat) (body : Bytes) (language code : RawText) : Prop :=
  ∃ members, Json.ofBytes? maxDepth body = some (.object members)
    ∧ Json.Names members "language" language ∧ Json.Names members "code" code

/-- The verdict on a body, where `maxDepth` tells how deep JSON may be nested. -/
inductive Verdict (maxDepth : Nat) (settings : Settings) (body : Bytes) : Answer → Prop
  | noObject (refused : ∀ members, Json.ofBytes? maxDepth body ≠ some (.object members)) :
      Verdict maxDepth settings body (errorAnswer "Invalid request payload.".toList)
  | noLanguage {members : List (Text × Json)}
      (object : Json.ofBytes? maxDepth body = some (.object members))
      (language : ∀ p, ¬ Json.Names members "language" p) :
      Verdict maxDepth settings body (errorAnswer "Please select a language.".toList)
  | noCode {members : List (Text × Json)} {language : RawText}
      (object : Json.ofBytes? maxDepth body = some (.object members))
      (names : Json.Names members "language" language)
      (code : ∀ p, ¬ Json.Names members "code" p) :
      Verdict maxDepth settings body
        (errorAnswer "Please paste some code before requesting a review.".toList)
  | tooShort {language code : RawText} (reads : Reads maxDepth body language code)
      (short : code.length < settings.minCodeChars) :
      Verdict maxDepth settings body
        (errorAnswer "Please paste at least a few lines of code.".toList)
  | tooLarge {language code : RawText} (reads : Reads maxDepth body language code)
      (long : settings.minCodeChars ≤ code.length) (large : settings.maxCodeChars < code.length) :
      Verdict maxDepth settings body (errorAnswer ("Snippet too large. Max allowed is ".toList
        ++ Numeral.grouped settings.maxCodeChars ++ " characters.".toList))
  /-- It is accepted, and no lone surrogates stand in it. -/
  | reviewed {language code : Text}
      (reads : Reads maxDepth body (RawText.of language) (RawText.of code))
      (long : settings.minCodeChars ≤ code.length) (small : code.length ≤ settings.maxCodeChars) :
      Verdict maxDepth settings body
        (.of 200 (.json (Json.ofReview (review settings.longSnippetLines language code))))
  /-- It is accepted, but the review of it cannot be sent. -/
  | unencodable {language code : RawText} (reads : Reads maxDepth body language code)
      (long : settings.minCodeChars ≤ code.length) (small : code.length ≤ settings.maxCodeChars)
      (surrogate : (language.hasSurrogate || code.hasSurrogate) = true) :
      Verdict maxDepth settings body
        (.of 500 (.framework "text/plain; charset=utf-8".toList "Internal Server Error".toList))

/-! ## The reply to what has been read -/

section Answered

variable {platform : Platform} {settings : Settings} {body : Bytes}

/-- A body that is no object is refused. -/
theorem answer_of_no_object {reviewer : Reviewer}
    (h : ∀ members, Json.ofBytes? platform.maxDepth body ≠ some (.object members)) (r : Request) :
    (reply platform settings reviewer (programRequest r body)).answer
      = errorAnswer "Invalid request payload.".toList := by
  rw [reply_programRequest, submitBody_of_no_object h,
    Reply.encoded_of_json rfl (by simp [errorObject])]
  rfl

variable {members : List (Text × Json)}
  (hobject : Json.ofBytes? platform.maxDepth body = some (.object members))

/-- What members make a submission of is the text that their code points are looked at as. -/
theorem getD_submissionOf (members : List (Text × Json)) :
    (submissionOf members).language.getD [] = (pointsOf members "language").legible
      ∧ (submissionOf members).code.getD [] = (pointsOf members "code").legible := by
  have htext : ∀ key : String, ((Json.lookup? key.toList members).bind Json.text?).getD []
      = (pointsOf members key).legible := by
    intro key
    rw [pointsOf]
    cases Json.lookup? key.toList members with
    | none => rfl
    | some value =>
      rw [Option.bind_some, Option.bind_some, Json.text?_eq]
      cases value.points? <;> rfl
  exact ⟨htext "language", htext "code"⟩

include hobject

/-- A submission that is rejected is answered with the reason. -/
theorem answer_of_rejected {reviewer : Reviewer} {reason : Rejection}
    (h : (submissionOf members).validate settings = .error reason) (r : Request) :
    (reply platform settings reviewer (programRequest r body)).answer
      = errorAnswer reason.message := by
  rw [reply_programRequest, submitBody_of_object hobject, encoded_submitRead, settle, submitRead, h]
  · rfl
  · intro snippet result hvalid
    rw [h] at hvalid
    cases hvalid

/-- A submission that is accepted is answered with its review, if that can be sent. -/
theorem reply_of_accepted {snippet : Snippet}
    (h : (submissionOf members).validate settings = .ok snippet) (r : Request) :
    let language := pointsOf members "language"
    let code := pointsOf members "code"
    let result := review settings.longSnippetLines language.legible code.legible
    reply platform settings (Reviewer.standard settings) (programRequest r body)
      = ⟨if language.hasSurrogate || code.hasSurrogate then serverError
          else .of 200 (.json (Json.ofReview result)),
        [Reviewer.record snippet.code.length result]⟩ := by
  intro language code result
  obtain ⟨hlanguage, hcode⟩ := getD_submissionOf members
  have hread : submitBody platform settings (Reviewer.standard settings) body
      = ⟨.of 200 (.json (Json.ofReviewOf language code result)),
        [Reviewer.record snippet.code.length result]⟩ := by
    rw [submitBody_of_object hobject, submitRead, h]
    simp only [result, language, code, ← hlanguage, ← hcode, ← review_of_validate h]
    rfl
  have hwrite := Json.hasSurrogate_write_ofReviewOf settings.longSnippetLines language code
  set sent : Reply := ⟨.of 200 (.json (Json.ofReviewOf language code result)),
    [Reviewer.record snippet.code.length result]⟩ with hsent
  have hcontent : sent.answer.content = .json (Json.ofReviewOf language code result) := rfl
  rw [reply_programRequest, hread]
  split_ifs with hsurrogate
  · rw [hsurrogate] at hwrite
    obtain ⟨e, he⟩ := Reply.encoded_of_hasSurrogate hcontent hwrite []
    rw [he, settle]
  · rw [Bool.not_eq_true] at hsurrogate
    rw [hsurrogate] at hwrite
    rw [Bool.or_eq_false_iff] at hsurrogate
    rw [Reply.encoded_of_json hcontent hwrite, settle, hsent,
      Json.ofReviewOf_eq hsurrogate.1 hsurrogate.2]

end Answered

/-! ## There is one verdict, and it is the answer -/

section Verdict

variable {platform : Platform} {settings : Settings} {body : Bytes}

section Named

variable {members : List (Text × Json)} {language code : RawText}
  (hnames : Json.Names members "language" language) (hholds : Json.Names members "code" code)

include hnames hholds

/-- If an object names a language and code, the length of the code is left to decide. -/
theorem validate_of_names :
    (submissionOf members).validate settings
      = if code.length < settings.minCodeChars then .error .tooShort
        else if settings.maxCodeChars < code.length then .error (.tooLarge settings.maxCodeChars)
        else .ok ⟨Language.normalize language.legible, code.legible⟩ := by
  obtain ⟨rfl, hlanguage⟩ := names_iff.1 hnames
  obtain ⟨rfl, hcode⟩ := names_iff.1 hholds
  obtain ⟨hsent, hsent'⟩ := getD_submissionOf members
  simp only [Submission.validate, hsent, hsent', hlanguage, hcode, Bool.false_eq_true, if_false,
    RawText.length_legible]

theorem validate_of_admitted (hlong : settings.minCodeChars ≤ code.length)
    (hsmall : code.length ≤ settings.maxCodeChars) :
    (submissionOf members).validate settings
      = .ok ⟨Language.normalize language.legible, code.legible⟩ := by
  rw [validate_of_names hnames hholds, if_neg (Int.not_lt.2 hlong), if_neg (Int.not_lt.2 hsmall)]

end Named

theorem answer_eq_of_verdict {a : Answer} (h : Verdict platform.maxDepth settings body a)
    (r : Request) :
    (reply platform settings (Reviewer.standard settings) (programRequest r body)).answer = a := by
  cases h with
  | noObject hrefused => exact answer_of_no_object hrefused r
  | @noLanguage members hobject hlanguage =>
    obtain ⟨hsent, -⟩ := getD_submissionOf members
    rw [not_names_iff, ← hsent] at hlanguage
    have hrejected : (submissionOf members).validate settings = .error .noLanguage :=
      if_pos hlanguage
    exact answer_of_rejected hobject hrejected r
  | @noCode members language hobject hnames hcode =>
    obtain ⟨hsent, hsent'⟩ := getD_submissionOf members
    obtain ⟨rfl, hlanguage⟩ := names_iff.1 hnames
    rw [not_names_iff, ← hsent'] at hcode
    rw [← hsent] at hlanguage
    have hrejected : (submissionOf members).validate settings = .error .noCode :=
      (if_neg (Bool.eq_false_iff.1 hlanguage)).trans (if_pos hcode)
    exact answer_of_rejected hobject hrejected r
  | @tooShort language code hreads hshort =>
    obtain ⟨members, hobject, hnames, hholds⟩ := hreads
    have hvalid : (submissionOf members).validate settings = _ := validate_of_names hnames hholds
    rw [if_pos hshort] at hvalid
    exact answer_of_rejected hobject hvalid r
  | @tooLarge language code hreads hlong hlarge =>
    obtain ⟨members, hobject, hnames, hholds⟩ := hreads
    have hvalid : (submissionOf members).validate settings = _ := validate_of_names hnames hholds
    rw [if_neg (Int.not_lt.2 hlong), if_pos hlarge] at hvalid
    exact answer_of_rejected hobject hvalid r
  | @reviewed language code hreads hlong hsmall =>
    obtain ⟨members, hobject, hnames, hholds⟩ := hreads
    have hvalid := validate_of_admitted hnames hholds (by rwa [RawText.length_of])
      (by rwa [RawText.length_of])
    have hreply := reply_of_accepted hobject hvalid r
    rw [(names_iff.1 hnames).1, (names_iff.1 hholds).1] at hreply
    rw [hreply]
    simp
  | @unencodable language code hreads hlong hsmall hsurrogate =>
    obtain ⟨members, hobject, hnames, hholds⟩ := hreads
    have hreply := reply_of_accepted hobject (validate_of_admitted hnames hholds hlong hsmall) r
    rw [(names_iff.1 hnames).1, (names_iff.1 hholds).1] at hreply
    rw [hreply, if_pos hsurrogate]
    rfl

/-- There is a verdict on every body: the first condition that is not met gives it. -/
theorem exists_verdict (maxDepth : Nat) (settings : Settings) (body : Bytes) :
    ∃ a, Verdict maxDepth settings body a := by
  by_cases hobject : ∃ members, Json.ofBytes? maxDepth body = some (.object members)
  · obtain ⟨members, hobject⟩ := hobject
    by_cases hnames : ∃ language, Json.Names members "language" language
    · obtain ⟨language, hnames⟩ := hnames
      by_cases hholds : ∃ code, Json.Names members "code" code
      · obtain ⟨code, hholds⟩ := hholds
        have hreads : Reads maxDepth body language code := ⟨members, hobject, hnames, hholds⟩
        by_cases hlong : settings.minCodeChars ≤ code.length
        · by_cases hsmall : code.length ≤ settings.maxCodeChars
          · cases hsurrogate : language.hasSurrogate || code.hasSurrogate with
            | true => exact ⟨_, .unencodable hreads hlong hsmall hsurrogate⟩
            | false =>
              rw [Bool.or_eq_false_iff] at hsurrogate
              rw [RawText.eq_of_legible hsurrogate.1, RawText.eq_of_legible hsurrogate.2] at hreads
              rw [← RawText.length_legible] at hlong hsmall
              exact ⟨_, .reviewed hreads hlong hsmall⟩
          · exact ⟨_, .tooLarge hreads hlong (Int.not_le.1 hsmall)⟩
        · exact ⟨_, .tooShort hreads (Int.not_le.1 hlong)⟩
      · exact ⟨_, .noCode hobject hnames (not_exists.1 hholds)⟩
    · exact ⟨_, .noLanguage hobject (not_exists.1 hnames)⟩
  · exact ⟨_, .noObject (not_exists.1 hobject)⟩

theorem verdict_iff {a : Answer} (r : Request) : Verdict platform.maxDepth settings body a
    ↔ a
      = (reply platform settings (Reviewer.standard settings) (programRequest r body)).answer := by
  constructor
  · exact fun h => (answer_eq_of_verdict h r).symm
  · rintro rfl
    obtain ⟨a, h⟩ := exists_verdict platform.maxDepth settings body
    rwa [answer_eq_of_verdict h]

/-- A body is answered with success exactly if it is accepted and no lone surrogates stand in it. -/
theorem Verdict.status_eq_ok_iff {a : Answer} (h : Verdict platform.maxDepth settings body a) :
    a.status = 200 ↔ ∃ language code : Text,
      Reads platform.maxDepth body (RawText.of language) (RawText.of code)
        ∧ settings.minCodeChars ≤ code.length ∧ code.length ≤ settings.maxCodeChars := by
  constructor
  · intro hstatus
    cases h with
    | reviewed hreads hlong hsmall => exact ⟨_, _, hreads, hlong, hsmall⟩
    | unencodable => exact absurd hstatus (by decide : ¬ (500 : Nat) = 200)
    | _ => exact absurd hstatus (by decide : ¬ (400 : Nat) = 200)
  · rintro ⟨language, code, hreads, hlong, hsmall⟩
    have hreviewed := answer_eq_of_verdict (.reviewed hreads hlong hsmall) bareRequest
    rw [← answer_eq_of_verdict h bareRequest, hreviewed]
    rfl

/-- A body is answered as if the program had failed exactly if it is accepted and a lone surrogate
stands in it. -/
theorem Verdict.status_eq_failure_iff {a : Answer}
    (h : Verdict platform.maxDepth settings body a) :
    a.status = 500 ↔ ∃ language code : RawText, Reads platform.maxDepth body language code
      ∧ settings.minCodeChars ≤ code.length ∧ code.length ≤ settings.maxCodeChars
      ∧ (language.hasSurrogate || code.hasSurrogate) = true := by
  constructor
  · intro hstatus
    cases h with
    | reviewed => exact absurd hstatus (by decide : ¬ (200 : Nat) = 500)
    | unencodable hreads hlong hsmall hsurrogate =>
      exact ⟨_, _, hreads, hlong, hsmall, hsurrogate⟩
    | _ => exact absurd hstatus (by decide : ¬ (400 : Nat) = 500)
  · rintro ⟨language, code, hreads, hlong, hsmall, hsurrogate⟩
    have hfailed := answer_eq_of_verdict (.unencodable hreads hlong hsmall hsurrogate) bareRequest
    rw [← answer_eq_of_verdict h bareRequest, hfailed]
    rfl

theorem Verdict.status_eq {maxDepth : Nat} {a : Answer} (h : Verdict maxDepth settings body a) :
    a.status = 200 ∨ a.status = 400 ∨ a.status = 500 := by
  cases h with
  | reviewed => exact Or.inl rfl
  | unencodable => exact Or.inr (Or.inr rfl)
  | _ => exact Or.inr (Or.inl rfl)

end Verdict

/-- Every body that a program sends is answered with the one verdict on it. It is a success exactly
if the body is the form of an object that names a language and code of an admitted length without
lone surrogates, and a failure exactly if a lone surrogate stands in one of the two. Otherwise the
request is answered as a bad one. -/
theorem reply_verdict (platform : Platform) (settings : Settings) (r : Request) (body : Bytes) :
    let answer := (reply platform settings (Reviewer.standard settings)
      (programRequest r body)).answer
    (∀ a, Verdict platform.maxDepth settings body a ↔ a = answer)
      ∧ (answer.status = 200 ↔ ∃ language code : Text,
          Reads platform.maxDepth body (RawText.of language) (RawText.of code)
            ∧ settings.minCodeChars ≤ code.length ∧ code.length ≤ settings.maxCodeChars)
      ∧ (answer.status = 500 ↔ ∃ language code : RawText,
          Reads platform.maxDepth body language code
            ∧ settings.minCodeChars ≤ code.length ∧ code.length ≤ settings.maxCodeChars
            ∧ (language.hasSurrogate || code.hasSurrogate) = true)
      ∧ (answer.status = 200 ∨ answer.status = 400 ∨ answer.status = 500) := by
  intro answer
  have hverdict : Verdict platform.maxDepth settings body answer := (verdict_iff r).2 rfl
  exact ⟨fun _ => verdict_iff r, hverdict.status_eq_ok_iff, hverdict.status_eq_failure_iff,
    hverdict.status_eq⟩

/-! ## A lone surrogate -/

/-- Code of eleven characters, the last of which is a lone surrogate. -/
def surrogateCode : RawText := RawText.of "0123456789".toList ++ [.surrogate 0xD800]

/-- Go and this code as a JSON object, in UTF-8 as far as that can be carried over to a
surrogate. -/
def surrogateBody : Bytes :=
  Utf8.encode "\x7b\"language\":\"Go\",\"code\":\"0123456789".toList ++ [0xED, 0xA0, 0x80]
    ++ Utf8.encode "\"\x7d".toList

theorem reads_surrogateBody (maxDepth : Nat) :
    Reads maxDepth surrogateBody (RawText.of "Go".toList) surrogateCode := by
  have hdetect : Json.detect surrogateBody = (.utf8, surrogateBody) := by decide
  have hpoints : Utf8.decodePassing? surrogateBody = some (.char '\x7b'
      :: (Json.writePoints (RawText.of "language".toList) ++ .char ':'
        :: (Json.writePoints (RawText.of "Go".toList) ++ .char ','
        :: (Json.writePoints (RawText.of "code".toList) ++ .char ':'
        :: (Json.writePoints surrogateCode ++ [.char '\x7d']))))) := by decide +kernel
  refine ⟨[("language".toList, .string "Go".toList), ("code".toList, .illFormed surrogateCode)],
    ?_, ⟨⟨_, ⟨[], _, rfl, by decide⟩, rfl⟩, by decide⟩,
    ⟨⟨_, ⟨[_], [], rfl, by decide⟩, rfl⟩, by decide⟩⟩
  rw [Json.ofBytes?, hdetect]
  show (Utf8.decodePassing? surrogateBody).bind (Json.ofText? maxDepth) = _
  rw [hpoints, Option.bind_some, Json.ofText?, Json.Token.scan,
    Json.Token.scanFrom_cons_of_first? (by decide) (by rw [Json.Token.first?]),
    Json.Token.scanFrom_writePoints,
    Json.Token.scanFrom_cons_of_first? (by decide) (by rw [Json.Token.first?]),
    Json.Token.scanFrom_writePoints,
    Json.Token.scanFrom_cons_of_first? (by decide) (by rw [Json.Token.first?]),
    Json.Token.scanFrom_writePoints,
    Json.Token.scanFrom_cons_of_first? (by decide) (by rw [Json.Token.first?]),
    Json.Token.scanFrom_writePoints,
    Json.Token.scanFrom_cons_of_first? (by decide) (by rw [Json.Token.first?]), Json.Token.scanFrom]
  rfl

/-- A body is read as an object with a language and code that are accepted, but it is answered as if
the program had failed: a lone surrogate stands in the code. -/
theorem reply_loneSurrogate :
    Reads smallPlatform.maxDepth surrogateBody (RawText.of "Go".toList) surrogateCode
      ∧ defaultSettings.minCodeChars ≤ surrogateCode.length
      ∧ surrogateCode.length ≤ defaultSettings.maxCodeChars
      ∧ (reply smallPlatform defaultSettings (Reviewer.standard defaultSettings)
          (programRequest bareRequest surrogateBody)).answer.status = 500 := by
  have hreads := reads_surrogateBody smallPlatform.maxDepth
  have hlong : defaultSettings.minCodeChars ≤ surrogateCode.length := by decide
  have hsmall : surrogateCode.length ≤ defaultSettings.maxCodeChars := by decide
  have hfailed := answer_eq_of_verdict (.unencodable hreads hlong hsmall (by decide)) bareRequest
  exact ⟨hreads, hlong, hsmall, by rw [hfailed]; rfl⟩

end Service

end SnippetReview
