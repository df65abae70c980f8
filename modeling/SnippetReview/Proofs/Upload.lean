import SnippetReview.Upload
import SnippetReview.Proofs.Submission
import SnippetReview.Proofs.Text.Utf8

/-!
# Submissions and files

A file that can be read is as good as its text: the submission that it is put together with comes to
what it comes to with the text of the file pasted in (`merge_file`). The text of a file in UTF-8 is
what was written to it, without byte order marks at the start (`decode_encode`).

What a submission and a file are accepted as is accepted again without the file, and comes to the
same (`AcceptedAs.again`).
-/

namespace SnippetReview

/-! ## The text of a file -/

namespace Upload

theorem decode_encode (t : Text) :
    decode (Utf8.encode t) = t.dropWhile (· == byteOrderMark) := by
  rw [decode, Utf8.decode?_encode, Option.getD_some]

/-! ## What a file adds -/

/-- The language that counts where a language is sent with a file of the given name. -/
def languageOr (name language : Text) : Text :=
  if Text.isBlankText language then ((Language.ofFileName? name).map Language.name).getD language
  else language

/-- The code that counts where code is sent with a file that holds the given data. -/
def codeOr (data : Bytes) (code : Text) : Text :=
  if Text.isBlankText code then decode data else code

/-! ## How many bytes are asked for -/

theorem maxBytes_eq (settings : Settings) : maxBytes settings = 4 * settings.maxCodeChars := by
  rw [maxBytes]
  omega

theorem readSize_eq (settings : Settings) : readSize settings = 4 * settings.maxCodeChars + 1 := by
  rw [readSize, maxBytes_eq]

section ReadSize

variable {room : Int} {settings : Settings}
  (hword : settings.maxCodeChars.natAbs < 0x1000000000000000)

include hword

/-- Four bytes for each character that is admitted, and one more, fit into a word, where the limit
is below 2⁶⁰ in size. -/
theorem readSize_fits :
    ¬ (readSize settings < -wordLimit ∨ wordLimit ≤ readSize settings)
      ∧ ¬ wordLimit ≤ readSize settings + sequenceOverhead := by
  rw [readSize_eq, wordLimit, sequenceOverhead]
  omega

theorem readError?_memory :
    Storage.memory.readError? room (readSize settings) = none := by
  rw [Storage.readError?, if_neg (readSize_fits hword).1]

/-- From a disk not every number of bytes can be read. -/
theorem readError?_disk :
    Storage.disk.readError? room (readSize settings)
      = if settings.maxCodeChars < 0 then some .negativeSize
        else if room < 4 * settings.maxCodeChars + 1 then some .outOfMemory
        else none := by
  obtain ⟨hsize, hsequence⟩ := readSize_fits hword
  have hnegative : 4 * settings.maxCodeChars + 1 < 0 ↔ settings.maxCodeChars < 0 := by omega
  rw [Storage.readError?, if_neg hsize, if_neg hsequence, readSize_eq, if_congr hnegative rfl rfl]

/-- As many bytes as are asked for can be read, from a disk as long as they are not fewer than none
and there is room for them. -/
theorem readError?_eq_none_iff (storage : Storage) :
    storage.readError? room (readSize settings) = none ↔
      (storage = .disk → 0 ≤ settings.maxCodeChars ∧ 4 * settings.maxCodeChars + 1 ≤ room) := by
  cases storage with
  | memory => simp [readError?_memory hword]
  | disk =>
    rw [readError?_disk hword]
    split_ifs with hnegative hroom
    · simp [Int.not_le.2 hnegative]
    · simp [Int.not_le.2 hroom]
    · simp [Int.not_lt.1 hnegative, Int.not_lt.1 hroom]

end ReadSize

/-! ## Files that can be read -/

/-- A file with no more bytes than it may have. As many as are asked for fit into a word, since the
limit is below 2⁶⁰, and into the room there is if the file has been put aside on a disk. -/
structure Readable (room : Int) (settings : Settings) (file : Upload) : Prop where
  limit_lt : settings.maxCodeChars < 0x1000000000000000
  length_le : (file.data.length : Int) ≤ 4 * settings.maxCodeChars
  size_le_room : file.storage = .disk → 4 * settings.maxCodeChars + 1 ≤ room

theorem Readable.readError?_eq_none {room : Int} {settings : Settings} {file : Upload}
    (h : file.Readable room settings) :
    file.storage.readError? room (readSize settings) = none := by
  obtain ⟨hlimit, hlength, hroom⟩ := h
  -- a file has no negative number of bytes, so neither has the limit
  have hpos : 0 ≤ settings.maxCodeChars := by omega
  rw [readError?_eq_none_iff (by omega)]
  intro hdisk
  exact ⟨hpos, hroom hdisk⟩

/-- A file was chosen, and it has more bytes than it may have. -/
def TooLarge (settings : Settings) (file : Option Upload) : Prop :=
  ∃ f, file.filter isNamed = some f ∧ 4 * settings.maxCodeChars < f.data.length

end Upload

/-! ## Submissions put together with a file -/

namespace Submission

variable {room : Int}

theorem fillFrom_named {file : Upload} {name : Text} (hname : file.fileName = some name)
    (language code : Text) : fillFrom file ⟨some language, some code⟩
      = ⟨some (Upload.languageOr name language), some (Upload.codeOr file.data code)⟩ := by
  have hlanguage : file.language? = (Language.ofFileName? name).map Language.name := by
    rw [Upload.language?, hname, Option.bind_some]
  rw [fillFrom, hlanguage, Upload.languageOr, Upload.codeOr, Option.getD_some, Option.getD_some,
    Option.or_some, apply_ite some, apply_ite some]

/-- The code that a submission has been filled up with is its own or the text of the file. -/
theorem getD_code_fillFrom (file : Upload) (s : Submission) :
    (s.fillFrom file).code.getD [] = Upload.codeOr file.data (s.code.getD []) := by
  rw [fillFrom, Upload.codeOr]
  split_ifs <;> rfl

theorem merge_none (room : Int) (settings : Settings) (s : Submission) :
    s.merge room settings none = .ok s.trimCode := rfl

/-- A file that can be read counts like its text, pasted. -/
theorem merge_file {settings : Settings} {file : Upload} (hnamed : file.isNamed = true)
    (hreadable : file.Readable room settings) (s : Submission) :
    s.merge room settings (some file) = (s.fillFrom file).merge room settings none := by
  have hlength : ¬ Upload.maxBytes settings < file.data.length := by
    have h := hreadable.length_le
    rw [Upload.maxBytes]
    omega
  rw [merge_none, merge, Option.filter_some, if_pos hnamed]
  simp only [hreadable.readError?_eq_none, if_neg hlength]

/-- A submission is put together with a file to something whose code has been trimmed. -/
theorem exists_trimCode_of_merge {settings : Settings} {file : Option Upload}
    {s merged : Submission} (h : s.merge room settings file = .ok merged) :
    ∃ t : Submission, merged = t.trimCode := by
  rw [merge] at h
  split at h
  · exact ⟨s, (Except.ok.inj h).symm⟩
  · next f _ =>
    split at h
    · cases h
    · split_ifs at h
      exact ⟨s.fillFrom f, (Except.ok.inj h).symm⟩

/-- The language of a submission and a file: what was chosen or else what the name of the file
tells. -/
def mergedLanguage (file : Option Upload) (s : Submission) : Text :=
  match file.filter Upload.isNamed with
  | none => s.language.getD []
  | some f => Upload.languageOr (f.fileName.getD []) (s.language.getD [])

/-- The code of a submission and a file: what was pasted or else the text of the file, trimmed. -/
def mergedCode (file : Option Upload) (s : Submission) : Text :=
  match file.filter Upload.isNamed with
  | none => Text.trim (s.code.getD [])
  | some f => Text.trim (Upload.codeOr f.data (s.code.getD []))

theorem getD_language_fillFrom (file : Upload) (s : Submission) :
    (s.fillFrom file).language.getD []
      = Upload.languageOr (file.fileName.getD []) (s.language.getD []) := by
  have hlanguage : file.language?
      = (Language.ofFileName? (file.fileName.getD [])).map Language.name := by
    rw [Upload.language?]
    cases file.fileName <;> rfl
  have hfill : (s.fillFrom file).language = if Text.isBlankText (s.language.getD []) then
      file.language?.or s.language else s.language := rfl
  rw [hfill, hlanguage, Upload.languageOr]
  split_ifs
  · cases (Language.ofFileName? (file.fileName.getD [])).map Language.name <;> rfl
  · rfl

/-- What a submission and a file are put together to, and that the file is not too large then. -/
theorem of_merge_eq_ok {settings : Settings} {file : Option Upload} {s merged : Submission}
    (h : s.merge room settings file = .ok merged) :
    ¬ Upload.TooLarge settings file
      ∧ merged.language.getD [] = s.mergedLanguage file
      ∧ merged.code.getD [] = s.mergedCode file := by
  rw [merge] at h
  rw [Upload.TooLarge, mergedLanguage, mergedCode]
  cases hfile : file.filter Upload.isNamed with
  | none =>
    rw [hfile] at h
    cases h
    exact ⟨by simp, rfl, rfl⟩
  | some f =>
    rw [hfile] at h
    dsimp only at h
    split at h
    · cases h
    · split_ifs at h with hlarge
      cases h
      refine ⟨?_, getD_language_fillFrom f s, congrArg Text.trim (getD_code_fillFrom f s)⟩
      rintro ⟨g, hg, hmany⟩
      rw [Option.some.inj hg, Upload.maxBytes_eq] at hlarge
      exact hlarge hmany

/-- What a submission and a file are rejected for, put together: only that the file is too large. -/
theorem of_merge_eq_rejected {settings : Settings} {file : Option Upload} {s : Submission}
    {reason : Rejection} (h : s.merge room settings file = .error (.rejected reason)) :
    Upload.TooLarge settings file ∧ reason = .uploadTooLarge settings.maxCodeChars := by
  rw [merge] at h
  cases hfile : file.filter Upload.isNamed with
  | none =>
    rw [hfile] at h
    cases h
  | some f =>
    rw [hfile] at h
    dsimp only at h
    split at h
    · cases h
    · split_ifs at h with hlarge
      cases h
      rw [Upload.maxBytes_eq] at hlarge
      exact ⟨⟨f, hfile, hlarge⟩, rfl⟩

/-- What a submission and a file are accepted as. -/
def AcceptedAs (room : Int) (settings : Settings) (file : Option Upload) (s : Submission)
    (snippet : Snippet) : Prop :=
  ∃ merged, s.merge room settings file = .ok merged ∧ merged.validate settings = .ok snippet

/-- What has been accepted is accepted again without a file, and comes to the same. -/
theorem AcceptedAs.again {settings : Settings} {file : Option Upload} {s : Submission}
    {snippet : Snippet} (h : s.AcceptedAs room settings file snippet) :
    AcceptedAs room settings none ⟨some snippet.language, some snippet.code⟩ snippet := by
  obtain ⟨merged, hmerge, hvalid⟩ := h
  obtain ⟨t, rfl⟩ := exists_trimCode_of_merge hmerge
  have hcode : Text.trim snippet.code = snippet.code := by
    obtain ⟨-, -, -, -, rfl⟩ := validate_eq_ok_iff.1 hvalid
    exact Text.trim_trim _
  refine ⟨_, merge_none room settings _, ?_⟩
  rw [trimCode, Option.getD_some, hcode]
  exact validate_snippet hvalid

end Submission

end SnippetReview
