import SnippetReview.Proofs.Launch
import SnippetReview.Proofs.Numeral.Decimal
import SnippetReview.Proofs.Service.Upload
import SnippetReview.Proofs.Upload.Limit

/-!
# The limit that is set

The most code that is admitted is set by an environment variable. What is written there in decimal
is read back, is what pasted code and files are held against, and is the number that a user is told
(`limit_enforced`): code is too large if it has more characters, and a file if it has more than four
times as many bytes.

Files do not follow it throughout. One that has been put aside on a disk cannot be asked for fewer
bytes than none or for more than there is room for. So below zero, where every file is too large,
only those in memory are rejected for that, and a file on a disk is a failure
(`merge_unread_of_negativeLimit`).
-/

namespace SnippetReview

namespace Service

/-- The limit that is set in decimal, with no more digits than are read, is the limit for pasted
code and for files, and both messages tell it in groups of three digits. Files go by it where it is
below 2⁶⁰ in size, and a file on a disk only where the limit is not below zero and there is room for
the bytes that are asked for; below zero it is a failure. -/
theorem limit_enforced {env : Environment} {n port least lines : Int}
    (hset : env .maxCodeChars = some (Numeral.decimal n))
    (hdigits : (Numeral.digits n.natAbs).length ≤ 4300)
    (hport : Settings.number env .port 8000 = .ok port)
    (hleast : Settings.number env .minCodeChars 10 = .ok least)
    (hlines : Settings.number env .longSnippetLines 80 = .ok lines) :
    ∃ settings shown,
      Settings.ofEnvironment env = .ok settings
      ∧ (∀ language code, Text.isBlankText language = false → Text.isBlankText code = false →
          least ≤ (code.length : Int) →
          Submission.validate settings ⟨some language, some code⟩
            = if n < code.length then .error (.tooLarge n)
              else .ok ⟨Language.normalize language, code⟩)
      ∧ (n.natAbs < 0x1000000000000000 →
          ∀ (room : Int) (file : Upload) (s : Submission), file.isNamed = true →
          (∀ reason, s.merge room settings (some file) = .error (.rejected reason) ↔
            reason = .uploadTooLarge n ∧ 4 * n < (file.data.length : Int)
              ∧ (file.storage = .disk → 0 ≤ n ∧ 4 * n + 1 ≤ room))
          ∧ (file.storage = .disk → n < 0 →
              s.merge room settings (some file) = .error (.unread .negativeSize)))
      ∧ Numeral.InThrees n shown
      ∧ (Rejection.tooLarge n).message
        = "Snippet too large. Max allowed is ".toList ++ shown ++ " characters.".toList
      ∧ (Rejection.uploadTooLarge n).message
        = "Uploaded file too large. Max allowed is ".toList ++ shown ++ " characters.".toList := by
  have hmost : Settings.number env .maxCodeChars 200000 = .ok n := by
    rw [Settings.number, hset]
    exact Numeral.read_decimal hdigits
  obtain ⟨settings, hsettings, rfl, rfl⟩ :=
    Settings.exists_ofEnvironment hport hleast hmost hlines
  refine ⟨settings, Numeral.grouped settings.maxCodeChars, hsettings, ?_, ?_,
    Numeral.grouped_inThrees _, rfl, rfl⟩
  · intro language code hlanguage hcode hlength
    exact Submission.validate_of_not_tooShort hlanguage hcode hlength
  · intro hword room file s hnamed
    constructor
    · exact Upload.merge_rejected_iff hword hnamed s
    · intro hdisk hnegative
      exact Upload.merge_disk_of_negative hword hnamed hdisk hnegative s

/-- The environment where only the most code that is admitted is set. -/
def environmentWithLimit (n : Int) : Environment :=
  fun v => if v = .maxCodeChars then some (Numeral.decimal n) else none

/-- A thousand characters below zero: no file in memory is small enough, not even an empty one. -/
theorem limit_enforced_negative :
    environmentWithLimit (-1000) .maxCodeChars = some (Numeral.decimal (-1000))
      ∧ (Numeral.digits (-1000 : Int).natAbs).length ≤ 4300
      ∧ ∃ settings, Settings.ofEnvironment (environmentWithLimit (-1000)) = .ok settings
        ∧ (∀ room,
          Submission.merge room settings (some ⟨some "a.py".toList, [], .memory⟩) ⟨some [], some []⟩
            = .error (.rejected (.uploadTooLarge (-1000))))
        ∧ (Rejection.uploadTooLarge (-1000)).message
          = "Uploaded file too large. Max allowed is -1,000 characters.".toList := by
  have hset : environmentWithLimit (-1000) .maxCodeChars = some (Numeral.decimal (-1000)) := rfl
  have hdigits : (Numeral.digits (-1000 : Int).natAbs).length ≤ 4300 := by decide
  obtain ⟨settings, shown, hsettings, -, hfile, -⟩ := limit_enforced hset hdigits rfl rfl rfl
  refine ⟨hset, hdigits, settings, hsettings, ?_, by decide⟩
  intro room
  have hempty := (hfile (by decide) room ⟨some "a.py".toList, [], .memory⟩ ⟨some [], some []⟩ rfl).1
  exact (hempty _).2 ⟨rfl, by decide, fun hdisk => by cases hdisk⟩

/-- One character below zero: a file that has been put aside on a disk has more bytes than it may
have but cannot be read. In memory it is rejected. -/
theorem merge_unread_of_negativeLimit :
    ∃ settings, Settings.ofEnvironment (environmentWithLimit (-1)) = .ok settings
      ∧ diskFile.isNamed = true
      ∧ diskFile.storage = Form.Multipart.storageOf diskFile.data
      ∧ 4 * (-1) < (diskFile.data.length : Int)
      ∧ ∀ room,
        Submission.merge room settings (some diskFile) ⟨some [], some []⟩
          = .error (.unread .negativeSize)
        ∧ Submission.merge room settings (some ⟨diskFile.fileName, diskFile.data, .memory⟩)
            ⟨some [], some []⟩
          = .error (.rejected (.uploadTooLarge (-1))) := by
  have hnamed : diskFile.isNamed = true := rfl
  have hlength : diskFile.data.length = 1048577 := by
    rw [diskFile, List.length_replicate]
  have hport : Settings.number (environmentWithLimit (-1)) .port 8000 = .ok 8000 := rfl
  have hmost : Settings.number (environmentWithLimit (-1)) .maxCodeChars 200000 = .ok (-1) := rfl
  obtain ⟨settings, hsettings, -, hlimit⟩ := Settings.exists_ofEnvironment hport rfl hmost rfl
  have hword : settings.maxCodeChars.natAbs < 0x1000000000000000 := by
    rw [hlimit]
    decide
  refine ⟨settings, hsettings, hnamed, ?_, by rw [hlength]; decide, fun room => ⟨?_, ?_⟩⟩
  · rw [Form.Multipart.storageOf, hlength]
    rfl
  · exact Upload.merge_disk_of_negative hword hnamed rfl (by rw [hlimit]; decide) _
  · have hmemory : Upload.isNamed ⟨diskFile.fileName, diskFile.data, .memory⟩ = true := hnamed
    refine (Upload.merge_rejected_iff hword hmemory _ _).2 ⟨by rw [hlimit], ?_, ?_⟩
    · rw [hlimit, hlength]
      decide
    · intro hdisk
      cases hdisk

end Service

end SnippetReview
