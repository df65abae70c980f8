import SnippetReview.Proofs.Upload

/-!
# How the text of a file is read

A file is read as UTF-8 if it is well-formed from its first byte to its last, and otherwise as one
character per byte. Byte order marks at its start are dropped, which only the first reading can
bring. So every file has a text, no text begins with a byte order mark, and what was written in
UTF-8 is read as what it was, but for such marks (`decode_exact`).
-/

namespace SnippetReview

/-! ## One character per byte -/

theorem Bytes.toNat_ofNat_toNat (b : UInt8) : (Char.ofNat b.toNat).toNat = b.toNat := by
  have hvalid : b.toNat.isValidChar := by
    have hlt := b.toNat_lt
    unfold Nat.isValidChar
    omega
  rw [Char.ofNat, dif_pos hvalid]
  rfl

theorem Bytes.map_toNat_toLatin1 (data : Bytes) :
    data.toLatin1.map Char.toNat = data.map UInt8.toNat := by
  rw [toLatin1, List.map_map]
  exact List.map_congr_left fun b _ => toNat_ofNat_toNat b

namespace Upload

/-- The byte order mark is no character of a single byte. -/
theorem ne_byteOrderMark_of_mem_toLatin1 {data : Bytes} {c : Char} (h : c ∈ data.toLatin1) :
    c ≠ byteOrderMark := by
  rw [Bytes.toLatin1, List.mem_map] at h
  obtain ⟨b, -, rfl⟩ := h
  intro hmark
  have hcode := congrArg Char.toNat hmark
  rw [Bytes.toNat_ofNat_toNat, show byteOrderMark.toNat = 0xFEFF from rfl] at hcode
  have hlt := b.toNat_lt
  omega

/-! ## The two readings -/

theorem decode_of_not_wellFormed {data : Bytes} (h : ¬ Utf8.WellFormed data) :
    decode data = data.toLatin1 := by
  rw [decode, Utf8.decode?_eq_none h, Option.getD_none]
  cases hdata : data.toLatin1 with
  | nil => rfl
  | cons c s =>
    have hmark : c ≠ byteOrderMark := ne_byteOrderMark_of_mem_toLatin1 (hdata ▸ List.mem_cons_self)
    exact List.dropWhile_cons_of_neg (by simpa using hmark)

theorem head?_decode (data : Bytes) : (decode data).head? ≠ some byteOrderMark := by
  intro h
  have hnot := List.head?_dropWhile_not (· == byteOrderMark)
    ((Utf8.decode? data).getD data.toLatin1)
  rw [← decode, h] at hnot
  exact absurd hnot (by decide)

/-- Bytes that are the UTF-8 form of a text, that is well-formed bytes, are read as this text
without the byte order marks at its start, and all other bytes as one character each. No text that
is read begins with a byte order mark. Whatever the bytes of a file are, it is put together with a
submission, if only it can be read and is not too large, and its text is the code where none was
pasted. -/
theorem decode_exact (data : Bytes) :
    ((∃ t, data = Utf8.encode t) ↔ Utf8.WellFormed data)
      ∧ (∀ t, data = Utf8.encode t → decode data = t.dropWhile (· == byteOrderMark))
      ∧ (¬ Utf8.WellFormed data → (decode data).map Char.toNat = data.map UInt8.toNat)
      ∧ (decode data).head? ≠ some byteOrderMark
      ∧ ∀ (room : Int) (settings : Settings) (file : Upload) (s : Submission),
        file.data = data → file.isNamed = true → file.Readable room settings →
        ∃ language, s.merge room settings (some file)
          = .ok ⟨language, some (Text.trim (codeOr data (s.code.getD [])))⟩ := by
  refine ⟨Utf8.wellFormed_iff.symm, ?_, ?_, head?_decode data, ?_⟩
  · rintro t rfl
    exact decode_encode t
  · intro h
    rw [decode_of_not_wellFormed h, Bytes.map_toNat_toLatin1]
  · rintro room settings file s rfl hnamed hreadable
    refine ⟨(s.fillFrom file).language, ?_⟩
    rw [Submission.merge_file hnamed hreadable, Submission.merge_none,
      Submission.trimCode, Submission.getD_code_fillFrom]

/-- A slash in two bytes is not well-formed: one is enough. It is read as two characters. -/
theorem decode_exact_slash :
    ¬ Utf8.WellFormed [0xC0, 0xAF] ∧ (decode [0xC0, 0xAF]).map Char.toNat = [0xC0, 0xAF] := by
  have hslash : ¬ Utf8.WellFormed [0xC0, 0xAF] := by
    rw [Utf8.wellFormed_iff]
    rintro ⟨s, hs⟩
    have hnone : Utf8.decode? [0xC0, 0xAF] = none := by decide +kernel
    rw [Utf8.decode?_eq_some_iff.2 hs] at hnone
    exact absurd hnone (by simp)
  exact ⟨hslash, (decode_exact [0xC0, 0xAF]).2.2.1 hslash⟩

end Upload

end SnippetReview
