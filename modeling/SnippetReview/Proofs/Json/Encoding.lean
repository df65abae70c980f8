import SnippetReview.Json.Write
import SnippetReview.Proofs.Review.SuggestedFix
import SnippetReview.Proofs.Text.RawText
import SnippetReview.Service.Payload

/-!
# Values that have a form in UTF-8

A value is written with a lone surrogate exactly if one stands in one of its strings. The review of
a language and code is written with one exactly if one stands in what was sent: the normal form of
the language and the suggested fix keep every replacement character, so each lone surrogate is put
back (`hasSurrogate_write_ofReviewOf`).
-/

namespace SnippetReview

namespace Json

/-! ## Values as they are written -/

theorem hasSurrogate_writePoint (q : CodePoint) :
    (StringLiteral.writePoint q).hasSurrogate = q.isSurrogate := by
  cases q with
  | char c => exact RawText.hasSurrogate_of _
  | surrogate u => rfl

theorem hasSurrogate_writePoints (p : RawText) :
    (writePoints p).hasSurrogate = p.hasSurrogate := by
  have hflat : RawText.hasSurrogate (p.flatMap StringLiteral.writePoint) = p.hasSurrogate := by
    induction p with
    | nil => rfl
    | cons q p ih =>
      rw [List.flatMap_cons, RawText.hasSurrogate_append, hasSurrogate_writePoint, ih,
        RawText.hasSurrogate_cons]
  simp [writePoints, hflat, CodePoint.isSurrogate]

@[simp] theorem hasSurrogate_write_string (s : Text) : (string s).write.hasSurrogate = false := by
  rw [write, hasSurrogate_writePoints, RawText.hasSurrogate_of]

@[simp] theorem hasSurrogate_write_ofString (s : String) :
    (ofString s).write.hasSurrogate = false := hasSurrogate_write_string _

@[simp] theorem hasSurrogate_write_integer (n : Int) : (integer n).write.hasSurrogate = false :=
  RawText.hasSurrogate_of _

theorem hasSurrogate_write_ofPoints (p : RawText) :
    (ofPoints p).write.hasSurrogate = p.hasSurrogate := by
  rw [ofPoints]
  cases h : p.hasSurrogate with
  | true => rw [RawText.toText?_eq_none h]; exact (hasSurrogate_writePoints p).trans h
  | false => rw [RawText.eq_of_legible h, RawText.toText?_of]; exact hasSurrogate_write_string _

theorem hasSurrogate_writeItems (vs : List Json) :
    (writeItems vs).hasSurrogate = vs.any fun v => v.write.hasSurrogate := by
  induction vs with
  | nil => rfl
  | cons v vs ih =>
    cases vs with
    | nil => simp [writeItems]
    | cons w ws => simp [writeItems, ih, CodePoint.isSurrogate]

theorem hasSurrogate_writeMembers (ms : List (Text × Json)) :
    (writeMembers ms).hasSurrogate = ms.any fun m => m.2.write.hasSurrogate := by
  induction ms with
  | nil => rfl
  | cons m ms ih =>
    cases ms with
    | nil => simp [writeMembers, hasSurrogate_writePoints, CodePoint.isSurrogate]
    | cons n ns => simp [writeMembers, ih, hasSurrogate_writePoints, CodePoint.isSurrogate]

@[simp] theorem hasSurrogate_write_array (vs : List Json) :
    (array vs).write.hasSurrogate = vs.any fun v => v.write.hasSurrogate := by
  simp [write, hasSurrogate_writeItems, CodePoint.isSurrogate]

@[simp] theorem hasSurrogate_write_object (ms : List (Text × Json)) :
    (object ms).write.hasSurrogate = ms.any fun m => m.2.write.hasSurrogate := by
  simp [write, hasSurrogate_writeMembers, CodePoint.isSurrogate]

/-! ## Reviews as they are written -/

theorem hasSurrogate_write_ofReviewWith (language suggestedFix : Json) (r : Review) :
    (ofReviewWith language suggestedFix r).write.hasSurrogate
      = (language.write.hasSurrogate || suggestedFix.write.hasSurrogate) := by
  have htexts : ∀ ts : List Text, (ts.map string).any (fun v => v.write.hasSurrogate) = false := by
    intro ts
    simp
  simp [ofReviewWith, ofQuality, titledList, ofComplexity, htexts]

theorem hasSurrogate_write_ofReview (r : Review) : (ofReview r).write.hasSurrogate = false := by
  simp [ofReview, hasSurrogate_write_ofReviewWith]

/-- Of a text without lone surrogates none are put back. -/
theorem restored_eq_string {p : RawText} (h : p.hasSurrogate = false) (s : Text) :
    restored p s = string s := by
  rw [← RawText.hasSurrogate_marks] at h
  rw [restored, RawText.restore_eq_of (fun _ => RawText.legible_of_mem_marks) h, ofPoints,
    RawText.toText?_of]

theorem ofReviewOf_eq {language code : RawText} (hlanguage : language.hasSurrogate = false)
    (hcode : code.hasSurrogate = false) : ofReviewOf language code = ofReview := by
  funext r
  rw [ofReviewOf, ofReview, restored_eq_string hlanguage, restored_eq_string hcode]

/-- The review of a language and code is written with a lone surrogate exactly if one stands in the
language or in the code. -/
theorem hasSurrogate_write_ofReviewOf (longLimit : Int) (language code : RawText) :
    (ofReviewOf language code (review longLimit language.legible code.legible)).write.hasSurrogate
      = (language.hasSurrogate || code.hasSurrogate) := by
  have hlanguage : (Language.normalize language.legible).count Utf8.replacement
      = language.legible.count Utf8.replacement :=
    Language.count_normalize (by decide) (by decide) (by decide) (by decide) _
  have hcode := count_suggestFix (x := Utf8.replacement) (by decide) (by decide)
    (Language.normalize language.legible) code.legible
  rw [ofReviewOf, hasSurrogate_write_ofReviewWith, restored, restored, hasSurrogate_write_ofPoints,
    hasSurrogate_write_ofPoints, language_review, suggestedFix_review,
    RawText.hasSurrogate_restore hlanguage, RawText.hasSurrogate_restore hcode]

end Json

end SnippetReview
