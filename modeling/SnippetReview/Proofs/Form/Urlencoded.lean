import Mathlib.Data.List.SplitBy
import SnippetReview.Form.Body
import SnippetReview.Text.Percent
import SnippetReview.Proofs.Text.Lines
import SnippetReview.Proofs.Text.Search
import SnippetReview.Proofs.Text.Utf8

/-!
# Writing URL-encoded forms

A name or a value is written byte by byte in its UTF-8 form: a space as a plus, a letter, a digit
and four marks as themselves, and every other byte as a percent escape. What is written is ASCII
and holds neither an ampersand nor an equals sign, so it is read back as what it was whatever
characters it stands for (`decode_write`), and a form is cut where it was put together
(`fields_writeForm`). The one limit is on the length of a field as it is written.
-/

namespace SnippetReview

namespace Form

namespace Urlencoded

/-! ## Names and values -/

/-- A byte of a name or a value as it is written. -/
def writeByte (b : UInt8) : Bytes :=
  if b = 0x20 then [0x2B]
  else if Percent.isUnreserved (Char.ofNat b.toNat) then [b]
  else Bytes.ofLatin1 (Percent.ofByte b)

/-- A name or a value as it is written. -/
def write (s : Text) : Bytes := (Utf8.encode s).flatMap writeByte

/-- What holds of the first 256 bytes holds of all. -/
theorem forall_byte {P : UInt8 → Prop} (h : ∀ n < 256, P (UInt8.ofNat n)) (b : UInt8) : P b := by
  have hb := h b.toNat b.toNat_lt
  rwa [UInt8.ofNat_toNat] at hb

/-- Whether a byte is ASCII and separates neither fields nor names from values. -/
def isPlain (b : UInt8) : Bool := isAscii b && b != ampersand && b != equals

theorem isPlain_eq_true_iff {b : UInt8} :
    isPlain b = true ↔ isAscii b = true ∧ b ≠ ampersand ∧ b ≠ equals := by
  simp [isPlain, and_assoc]

theorem all_isPlain_writeByte (b : UInt8) : (writeByte b).all isPlain = true := by
  revert b
  exact forall_byte (by decide +kernel)

/-- What is written is ASCII and holds no separator. -/
theorem plain_of_mem_write {s : Text} {x : UInt8} (h : x ∈ write s) :
    isAscii x = true ∧ x ≠ ampersand ∧ x ≠ equals := by
  obtain ⟨b, -, hx⟩ := List.mem_flatMap.1 h
  exact isPlain_eq_true_iff.1 (List.all_eq_true.1 (all_isPlain_writeByte b) x hx)

theorem isAscii_plusToSpace {b : UInt8} (h : isAscii b = true) :
    isAscii (plusToSpace b) = true := by
  rw [plusToSpace]
  split_ifs
  · rfl
  · exact h

/-! ## Names and values are read back -/

/-- A hexadecimal digit as a byte. -/
def digitByte (n : Nat) : UInt8 := UInt8.ofNat (Percent.upperDigit n).toNat

/-- With pluses read as spaces, a byte stands for itself or is a percent escape. -/
theorem map_plusToSpace_writeByte (b : UInt8) :
    (writeByte b).map plusToSpace = [b] ∧ b ≠ 0x25
      ∨ (writeByte b).map plusToSpace = [0x25, digitByte (b.toNat / 16), digitByte (b.toNat % 16)]
        ∧ hexByte? (digitByte (b.toNat / 16)) (digitByte (b.toNat % 16)) = some b := by
  revert b
  exact forall_byte (by decide +kernel)

theorem unescapeFrom_cons {b : UInt8} (h : b ≠ 0x25) (done rest : Bytes) :
    unescapeFrom done (b :: rest) = unescapeFrom (b :: done) rest := by
  rw [unescapeFrom]
  rintro _ _ _ rfl
  exact absurd rfl h

theorem unescapeFrom_escape {high low b : UInt8} (h : hexByte? high low = some b)
    (done rest : Bytes) :
    unescapeFrom done (0x25 :: high :: low :: rest) = unescapeFrom (b :: done) rest := by
  rw [unescapeFrom, h]

/-- Bytes that have been written are read as what they were, whatever has been read before. -/
theorem unescapeFrom_flatMap (bytes done : Bytes) :
    unescapeFrom done ((bytes.flatMap writeByte).map plusToSpace) = done.reverse ++ bytes := by
  induction bytes generalizing done with
  | nil => rw [List.flatMap_nil, List.map_nil, unescapeFrom, List.append_nil]
  | cons b bytes ih =>
    have hnext : done.reverse ++ b :: bytes = (b :: done).reverse ++ bytes := by simp
    rw [List.flatMap_cons, List.map_append, hnext, ← ih]
    obtain ⟨hplain, hpercent⟩ | ⟨hescape, hbyte⟩ := map_plusToSpace_writeByte b
    · rw [hplain, List.singleton_append, unescapeFrom_cons hpercent]
    · rw [hescape]
      exact unescapeFrom_escape hbyte done _

/-- ASCII bytes are one run. -/
theorem decode_of_isAscii {bytes : Bytes} (h : ∀ b ∈ bytes, isAscii b = true) :
    decode bytes = Utf8.decodeRepairing (unescape (bytes.map plusToSpace)) := by
  have hascii : ∀ b ∈ bytes.map plusToSpace, isAscii b = true := by
    intro b hb
    obtain ⟨c, hc, rfl⟩ := List.mem_map.1 hb
    exact isAscii_plusToSpace (h c hc)
  -- no bytes are no run at all
  by_cases hne : bytes.map plusToSpace = []
  · rw [decode, hne]
    decide
  · have hchain : (bytes.map plusToSpace).IsChain fun a b => isAscii a == isAscii b := by
      refine (List.pairwise_of_forall_mem_list fun a ha b hb => ?_).isChain
      rw [hascii a ha, hascii b hb]
      rfl
    have hall : (bytes.map plusToSpace).all isAscii = true := List.all_eq_true.2 hascii
    rw [decode, List.splitBy_of_isChain hne hchain, List.flatMap_cons, List.flatMap_nil,
      List.append_nil, decodeRun, if_pos hall]

/-- A name or a value that has been written is read as what it was. -/
theorem decode_write (s : Text) : decode (write s) = s := by
  have hbytes : unescape ((write s).map plusToSpace) = Utf8.encode s :=
    unescapeFrom_flatMap (Utf8.encode s) []
  rw [decode_of_isAscii fun b hb => (plain_of_mem_write hb).1, hbytes, Utf8.decodeRepairing,
    Utf8.decode?_encode]

theorem write_append (s t : Text) : write (s ++ t) = write s ++ write t := by
  simp [write, Utf8.encode]

theorem length_write_replicate (c : Char) (n : Nat) :
    (write (List.replicate n c)).length
      = n * (write [c]).length := by
  induction n with
  | zero => simp [write, Utf8.encode]
  | succ n ih =>
    rw [List.replicate_succ', write_append, List.length_append, ih, Nat.succ_mul]

/-! ## Fields -/

/-- A field as it is written. -/
def writeField (f : Text × Text) : Bytes := write f.1 ++ equals :: write f.2

/-- The fields of a form as they are written. -/
def writeForm (fs : List (Text × Text)) : Bytes := joinPieces ampersand (fs.map writeField)

/-- Whether a field is no longer than a field may be. -/
def fits (f : Text × Text) : Bool := decide ((write f.1).length + (write f.2).length ≤ maxTextBytes)

theorem fits_eq_true_iff {f : Text × Text} :
    fits f = true ↔ (write f.1).length + (write f.2).length ≤ maxTextBytes := decide_eq_true_iff

theorem ampersand_not_mem_writeField (f : Text × Text) : ampersand ∉ writeField f := by
  intro h
  rw [writeField, List.mem_append, List.mem_cons] at h
  rcases h with h | h | h
  · exact (plain_of_mem_write h).2.1 rfl
  · exact absurd h (by decide)
  · exact (plain_of_mem_write h).2.1 rfl

/-- A field that has been written is read as what it was, unless it is too long. -/
theorem field_writeField (f : Text × Text) {before : Nat} (h : before < maxFields) :
    field (writeField f) before
      = if fits f then .ok (f.1, .text f.2) else .error .longField := by
  have hequals : equals ∉ write f.1 := fun hmem => (plain_of_mem_write hmem).2.2 rfl
  have hcut : nameAndValue (writeField f) = (write f.1, write f.2) := by
    rw [nameAndValue, writeField]
    show (breakAt? [equals] (write f.1 ++ ([equals] ++ write f.2))).getD _ = _
    rw [Text.breakAt?_append hequals, Option.getD_some]
  rw [field, hcut]
  simp only [fits, decode_write, if_neg (Nat.not_le.2 h), decide_eq_true_eq]
  by_cases hfits : (write f.1).length + (write f.2).length ≤ maxTextBytes
  · rw [if_pos hfits, if_neg (Nat.not_lt.2 hfits)]
  · rw [if_neg hfits, if_pos (Nat.not_le.1 hfits)]

/-- The first field that is too long is why fields are refused. -/
theorem mapM_field (fs : List (Text × Text)) {before : Nat} (h : before + fs.length ≤ maxFields) :
    ((fs.map writeField).zipIdx before).mapM (fun p => field p.1 p.2)
      = if fs.all fits then .ok (fs.map fun f => (f.1, .text f.2)) else .error .longField := by
  induction fs generalizing before with
  | nil => rfl
  | cons f fs ih =>
    rw [List.length_cons] at h
    rw [List.map_cons, List.zipIdx_cons, List.mapM_cons, field_writeField f (by omega),
      ih (by omega), List.all_cons]
    cases fits f with
    | false => rfl
    | true => cases fs.all fits <;> rfl

/-- A form that has been written is read as what it was, unless a field of it is too long. -/
theorem fields_writeForm {fs : List (Text × Text)} (h : fs.length ≤ maxFields) :
    fields (writeForm fs)
      = if fs.all fits then .ok (fs.map fun f => (f.1, .text f.2)) else .error .longField := by
  have hpieces : (pieces ampersand (writeForm fs)).filter (fun p => !p.isEmpty)
      = fs.map writeField := by
    cases fs with
    | nil => rfl
    | cons f fs =>
      have hfree : ∀ p ∈ (f :: fs).map writeField, ampersand ∉ p := by
        intro p hp
        obtain ⟨g, -, rfl⟩ := List.mem_map.1 hp
        exact ampersand_not_mem_writeField g
      rw [writeForm, pieces_joinPieces (by simp) hfree, List.filter_eq_self]
      intro p hp
      obtain ⟨g, -, rfl⟩ := List.mem_map.1 hp
      simp [writeField]
  rw [fields, hpieces]
  exact mapM_field fs (by omega)

end Urlencoded

/-- A URL-encoded body that has been written holds its fields, unless one of them is too long. -/
theorem fieldsOf_writeForm {fs : List (Text × Text)} (h : fs.length ≤ maxFields) :
    fieldsOf (some "application/x-www-form-urlencoded".toList) (Urlencoded.writeForm fs)
      = if fs.all Urlencoded.fits then .ok (fs.map fun f => (f.1, .text f.2))
        else .error .longField := by
  have htype : (Header.parse "application/x-www-form-urlencoded".toList).main
      = "application/x-www-form-urlencoded".toList := by decide
  rw [fieldsOf, Option.getD_some, if_pos htype, Urlencoded.fields_writeForm h]

end Form

end SnippetReview
