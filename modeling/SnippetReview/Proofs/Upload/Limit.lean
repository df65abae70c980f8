import SnippetReview.Proofs.Upload.Decoding

/-!
# The limit on files and the limit on code

A file may have four bytes for every character of code that is admitted, and no character needs
more. But byte order marks at the start of a file take up three bytes each and are no part of its
text. So a file whose text is admitted is not too large as long as its marks count as characters,
too, or it has none; and otherwise exactly if its bytes are not too many in spite of the marks
(`merge_tooLarge_iff_of_fits`). A mark and as many characters of four bytes as are admitted are too
many (`merge_rejects_marked`).
-/

namespace SnippetReview

namespace Upload

/-- The number of byte order marks that are dropped from the start of the text of a file. -/
def marks (data : Bytes) : Nat :=
  (((Utf8.decode? data).getD []).takeWhile (· == byteOrderMark)).length

/-! ## How long a file is -/

theorem length_encode_replicate (k : Nat) :
    (Utf8.encode (List.replicate k byteOrderMark)).length = 3 * k := by
  induction k with
  | zero => rfl
  | succ k ih =>
    have hmark : (String.utf8EncodeChar byteOrderMark).length = 3 := rfl
    rw [List.replicate_succ, Utf8.encode_cons, List.length_append, ih, hmark]
    omega

/-- A file in UTF-8 is its byte order marks and its text. -/
theorem length_eq_of_wellFormed {data : Bytes} (h : Utf8.WellFormed data) :
    data.length = 3 * marks data + (Utf8.encode (decode data)).length := by
  obtain ⟨s, rfl⟩ := Utf8.wellFormed_iff.1 h
  have hmarks : s.takeWhile (· == byteOrderMark)
      = List.replicate (marks (Utf8.encode s)) byteOrderMark := by
    rw [marks, Utf8.decode?_encode, Option.getD_some, List.eq_replicate_iff]
    refine ⟨rfl, fun c hc => ?_⟩
    have hmark := List.mem_takeWhile_imp hc
    exact eq_of_beq hmark
  rw [decode_encode]
  conv_lhs => rw [← List.takeWhile_append_dropWhile (p := (· == byteOrderMark)) (l := s)]
  rw [Utf8.encode_append, List.length_append, hmarks, length_encode_replicate]

theorem marks_of_not_wellFormed {data : Bytes} (h : ¬ Utf8.WellFormed data) : marks data = 0 := by
  rw [marks, Utf8.decode?_eq_none h]
  rfl

theorem length_decode_of_not_wellFormed {data : Bytes} (h : ¬ Utf8.WellFormed data) :
    (decode data).length = data.length := by
  rw [decode_of_not_wellFormed h, Bytes.toLatin1, List.length_map]

/-! ## Files that are too large -/

/-- A file is too large if it has too many bytes and they could be read. -/
theorem merge_tooLarge_iff {room : Int} {settings : Settings} {file : Upload}
    (hnamed : file.isNamed = true) (s : Submission) :
    (∃ limit, s.merge room settings (some file) = .error (.rejected (.uploadTooLarge limit))) ↔
      file.storage.readError? room (readSize settings) = none
        ∧ 4 * settings.maxCodeChars < file.data.length := by
  rw [Submission.merge, Option.filter_some, if_pos hnamed, ← maxBytes_eq]
  cases hread : file.storage.readError? room (readSize settings) with
  | some e => simp [hread]
  | none =>
    simp only [hread]
    split_ifs with hlarge
    · simp [hlarge]
    · simp [hlarge]

/-- A file is rejected exactly if it has more than four bytes for each character that is admitted
and as many bytes as are asked for can be read. -/
theorem merge_rejected_iff {room : Int} {settings : Settings}
    (hword : settings.maxCodeChars.natAbs < 0x1000000000000000) {file : Upload}
    (hnamed : file.isNamed = true) (s : Submission) (reason : Rejection) :
    s.merge room settings (some file) = .error (.rejected reason) ↔
      reason = .uploadTooLarge settings.maxCodeChars
        ∧ 4 * settings.maxCodeChars < file.data.length
        ∧ (file.storage = .disk → 0 ≤ settings.maxCodeChars
          ∧ 4 * settings.maxCodeChars + 1 ≤ room) := by
  rw [← readError?_eq_none_iff hword]
  constructor
  · intro h
    have hreason := (Submission.of_merge_eq_rejected h).2
    rw [hreason] at h
    obtain ⟨hread, hlarge⟩ := (merge_tooLarge_iff hnamed s).1 ⟨_, h⟩
    exact ⟨hreason, hlarge, hread⟩
  · rintro ⟨rfl, hlarge, hread⟩
    obtain ⟨limit, h⟩ := (merge_tooLarge_iff hnamed s).2 ⟨hread, hlarge⟩
    rwa [← (Submission.of_merge_eq_rejected h).2]

/-- A file that has been put aside on a disk cannot be read if the limit is below zero. -/
theorem merge_disk_of_negative {room : Int} {settings : Settings}
    (hword : settings.maxCodeChars.natAbs < 0x1000000000000000) {file : Upload}
    (hnamed : file.isNamed = true) (hdisk : file.storage = .disk)
    (hnegative : settings.maxCodeChars < 0) (s : Submission) :
    s.merge room settings (some file) = .error (.unread .negativeSize) := by
  have hread : Storage.disk.readError? room (readSize settings) = _ := readError?_disk hword
  rw [if_pos hnegative] at hread
  rw [Submission.merge, Option.filter_some, if_pos hnamed]
  simp only [hdisk, hread]

/-- A file whose text is not longer than the code that is admitted is too large only for its byte
order marks: if it can be read at all, and three bytes for each of them and the bytes of the text
are more than four for every admitted character. It never is if marks and text together are not
longer. -/
theorem merge_tooLarge_iff_of_fits {room : Int} {settings : Settings} {file : Upload}
    (hnamed : file.isNamed = true)
    (hfits : ((decode file.data).length : Int) ≤ settings.maxCodeChars) (s : Submission) :
    ((∃ limit, s.merge room settings (some file) = .error (.rejected (.uploadTooLarge limit))) ↔
        file.storage.readError? room (readSize settings) = none
          ∧ 4 * settings.maxCodeChars
            < ((3 * marks file.data + (Utf8.encode (decode file.data)).length : Nat) : Int))
      ∧ (((marks file.data + (decode file.data).length : Nat) : Int) ≤ settings.maxCodeChars →
        ∀ limit,
          s.merge room settings (some file) ≠ .error (.rejected (.uploadTooLarge limit))) := by
  have hbytes := Utf8.length_encode_le (decode file.data)
  have hiff : 4 * settings.maxCodeChars < (file.data.length : Int) ↔ 4 * settings.maxCodeChars
      < ((3 * marks file.data + (Utf8.encode (decode file.data)).length : Nat) : Int) := by
    by_cases h : Utf8.WellFormed file.data
    · rw [← length_eq_of_wellFormed h]
    · -- with one character per byte the text has as many characters as there are bytes
      have hlength := length_decode_of_not_wellFormed h
      rw [marks_of_not_wellFormed h]
      omega
  refine ⟨by rw [merge_tooLarge_iff hnamed, hiff], ?_⟩
  intro hmarks limit hlarge
  have hmany := ((merge_tooLarge_iff hnamed s).1 ⟨limit, hlarge⟩).2
  rw [hiff] at hmany
  omega

/-! ## Ten characters of four bytes -/

/-- The settings where ten characters of code are admitted and nothing else is set. -/
def tenCharSettings : Settings where
  debug := false
  logLevel := "INFO".toList
  host := "0.0.0.0".toList
  port := 8000
  minCodeChars := 10
  maxCodeChars := 10
  longSnippetLines := 80
  reportPreparedBy := "CodeChat Reviewer".toList

/-- Ten characters that take up four bytes each. -/
def wideText : Text := List.replicate 10 '😀'

/-- A file that begins with some byte order marks and holds ten characters of four bytes. -/
def wideFile (marks : Nat) : Upload where
  fileName := some "main.py".toList
  data := Utf8.encode (List.replicate marks byteOrderMark ++ wideText)

theorem decode_wideFile (k : Nat) : decode (wideFile k).data = wideText := by
  rw [wideFile, decode_encode, List.dropWhile_append_of_pos]
  · decide
  · intro c hc
    rw [List.eq_of_mem_replicate hc]
    decide

/-- Ten characters of four bytes are not too large, and take up all the bytes there may be. -/
theorem merge_tooLarge_iff_of_fits_wide :
    (wideFile 0).isNamed = true ∧ (wideFile 0).data.length = 40
      ∧ ((decode (wideFile 0).data).length : Int) ≤ tenCharSettings.maxCodeChars
      ∧ ((marks (wideFile 0).data + (decode (wideFile 0).data).length : Nat) : Int)
        ≤ tenCharSettings.maxCodeChars
      ∧ ∀ room limit, Submission.merge room tenCharSettings (some (wideFile 0)) ⟨some [], some []⟩
        ≠ .error (.rejected (.uploadTooLarge limit)) := by
  have hnamed : (wideFile 0).isNamed = true := rfl
  have hmarks : marks (wideFile 0).data = 0 := by
    rw [marks, wideFile, Utf8.decode?_encode]
    decide
  have hfits : ((decode (wideFile 0).data).length : Int) ≤ tenCharSettings.maxCodeChars := by
    rw [decode_wideFile]
    decide
  have hall : ((marks (wideFile 0).data + (decode (wideFile 0).data).length : Nat) : Int)
      ≤ tenCharSettings.maxCodeChars := by
    rw [hmarks, Nat.zero_add]
    exact hfits
  exact ⟨hnamed, by decide, hfits, hall, fun room =>
    (merge_tooLarge_iff_of_fits hnamed hfits _).2 hall⟩

/-- One byte order mark before as many characters of four bytes as are admitted: the file is
rejected for being too large. Its text is admitted, and accepted if it is pasted. -/
theorem merge_rejects_marked :
    Settings.ofEnvironment (fun v => if v = .maxCodeChars then some "10".toList else none)
        = .ok tenCharSettings
      ∧ (wideFile 1).isNamed = true
      ∧ ((decode (wideFile 1).data).length : Int) ≤ tenCharSettings.maxCodeChars
      ∧ (∀ room, Submission.merge room tenCharSettings (some (wideFile 1)) ⟨some [], some []⟩
        = .error (.rejected (.uploadTooLarge 10)))
      ∧ ∀ room, Submission.AcceptedAs room tenCharSettings none
        ⟨some "Python".toList, some (decode (wideFile 1).data)⟩ ⟨"Python".toList, wideText⟩ := by
  refine ⟨by decide, rfl, ?_, ?_, ?_⟩
  · rw [decode_wideFile]
    decide
  · intro room
    refine (merge_rejected_iff (by decide) rfl _ _).2 ⟨rfl, by decide, ?_⟩
    intro hdisk
    cases hdisk
  · intro room
    rw [decode_wideFile]
    exact ⟨_, rfl, by decide⟩

end Upload

end SnippetReview
