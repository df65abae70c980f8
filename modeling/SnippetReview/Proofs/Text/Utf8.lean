import Mathlib.Tactic.ByContra
import Mathlib.Tactic.SplitIfs
import SnippetReview.Text.Utf8

/-!
# What UTF-8 is

A character is laid out in one byte or in a lead byte and up to three more, which hold the bits of
its code point (`Layout`). Only the shortest layout that has room for a code point counts,
surrogates have none, and the code points end at 10FFFF (`IsCharacter`). Bytes are well-formed if
they are characters, one after the other (`WellFormed`).

The well-formed bytes are the UTF-8 forms of texts (`wellFormed_iff`), each of one text only, and
that is the one they are decoded to (`decode?_eq_some_iff`). Nothing else is decoded.
-/

namespace SnippetReview

namespace Utf8

/-! ## Well-formed bytes -/

/-- Bytes in the layout of a character, and the number whose bits they hold. -/
inductive Layout : Bytes → Nat → Prop
  | one {x : Nat} : x < 0x80 → Layout [UInt8.ofNat x] x
  | two {x y : Nat} : x < 0x20 → y < 0x40 →
    Layout [UInt8.ofNat (x + 0xC0), UInt8.ofNat (y + 0x80)] (x * 0x40 + y)
  | three {x y z : Nat} : x < 0x10 → y < 0x40 → z < 0x40 →
    Layout [UInt8.ofNat (x + 0xE0), UInt8.ofNat (y + 0x80), UInt8.ofNat (z + 0x80)]
      ((x * 0x40 + y) * 0x40 + z)
  | four {w x y z : Nat} : w < 0x08 → x < 0x40 → y < 0x40 → z < 0x40 →
    Layout [UInt8.ofNat (w + 0xF0), UInt8.ofNat (x + 0x80), UInt8.ofNat (y + 0x80),
      UInt8.ofNat (z + 0x80)] (((w * 0x40 + x) * 0x40 + y) * 0x40 + z)

/-- The least number that a layout of so many bytes is for. -/
def leastOfLength : Nat → Nat
  | 0 | 1 => 0
  | 2 => 0x80
  | 3 => 0x800
  | _ => 0x10000

/-- The bytes that are the character of a code point. -/
structure IsCharacter (s : Bytes) (code : Nat) : Prop where
  layout : Layout s code
  /-- The layout is no longer than it has to be. -/
  shortest : leastOfLength s.length ≤ code
  noSurrogate : ¬ (0xD800 ≤ code ∧ code ≤ 0xDFFF)
  inRange : code ≤ 0x10FFFF

/-- Bytes that are characters, one after the other. -/
inductive WellFormed : Bytes → Prop
  | nil : WellFormed []
  | append {s rest : Bytes} {code : Nat} :
    IsCharacter s code → WellFormed rest → WellFormed (s ++ rest)

/-! ## One character -/

theorem layout_utf8EncodeChar (c : Char) : Layout (String.utf8EncodeChar c) c.toNat := by
  have hrange : c.toNat < 0x110000 := by
    have hvalid : c.toNat < 0xD800 ∨ 0xDFFF < c.toNat ∧ c.toNat < 0x110000 := c.valid
    omega
  show Layout (String.utf8EncodeChar c) c.val.toNat
  rw [Char.toNat] at hrange
  simp only [String.utf8EncodeChar]
  generalize c.val.toNat = v at hrange
  split_ifs with hone htwo hthree
  · exact Layout.one (by omega)
  · have h := Layout.two (x := v / 64 % 32) (y := v % 64) (by omega) (by omega)
    rwa [show v / 64 % 32 * 0x40 + v % 64 = v by omega] at h
  · have h := Layout.three (x := v / 4096 % 16) (y := v / 64 % 64) (z := v % 64) (by omega)
      (by omega) (by omega)
    rwa [show (v / 4096 % 16 * 0x40 + v / 64 % 64) * 0x40 + v % 64 = v by omega] at h
  · have h := Layout.four (w := v / 262144 % 8) (x := v / 4096 % 64) (y := v / 64 % 64)
      (z := v % 64) (by omega) (by omega) (by omega) (by omega)
    rwa [show ((v / 262144 % 8 * 0x40 + v / 4096 % 64) * 0x40 + v / 64 % 64) * 0x40 + v % 64 = v
      by omega] at h

theorem isCharacter_utf8EncodeChar (c : Char) :
    IsCharacter (String.utf8EncodeChar c) c.toNat := by
  have hvalid : c.toNat < 0xD800 ∨ 0xDFFF < c.toNat ∧ c.toNat < 0x110000 := c.valid
  have hval : c.val.toNat = c.toNat := rfl
  refine ⟨layout_utf8EncodeChar c, ?_, by omega, by omega⟩
  simp only [String.utf8EncodeChar, hval]
  split_ifs <;> simp only [List.length_cons, List.length_nil, leastOfLength] <;> omega

/-- A code point has only one character. -/
theorem eq_utf8EncodeChar {s : Bytes} {c : Char} (h : IsCharacter s c.toNat) :
    s = String.utf8EncodeChar c := by
  obtain ⟨hlayout, hshort, -, hrange⟩ := h
  have hval : c.val.toNat = c.toNat := rfl
  simp only [String.utf8EncodeChar, hval]
  generalize c.toNat = v at hlayout hshort hrange ⊢
  cases hlayout with
  | one hx => rw [if_pos (by omega)]
  | @two x y hx hy =>
    have hleast : 0x80 ≤ x * 0x40 + y := hshort
    have hlead : (x * 0x40 + y) / 64 % 32 = x := by omega
    have hlast : (x * 0x40 + y) % 64 = y := by omega
    rw [if_neg (by omega), if_pos (by omega), hlead, hlast]
  | @three x y z hx hy hz =>
    have hleast : 0x800 ≤ (x * 0x40 + y) * 0x40 + z := hshort
    have hlead : ((x * 0x40 + y) * 0x40 + z) / 4096 % 16 = x := by omega
    have hsecond : ((x * 0x40 + y) * 0x40 + z) / 64 % 64 = y := by omega
    have hlast : ((x * 0x40 + y) * 0x40 + z) % 64 = z := by omega
    rw [if_neg (by omega), if_neg (by omega), if_pos (by omega), hlead, hsecond, hlast]
  | @four w x y z hw hx hy hz =>
    have hleast : 0x10000 ≤ ((w * 0x40 + x) * 0x40 + y) * 0x40 + z := hshort
    have hlead : (((w * 0x40 + x) * 0x40 + y) * 0x40 + z) / 262144 % 8 = w := by omega
    have hsecond : (((w * 0x40 + x) * 0x40 + y) * 0x40 + z) / 4096 % 64 = x := by omega
    have hthird : (((w * 0x40 + x) * 0x40 + y) * 0x40 + z) / 64 % 64 = y := by omega
    have hlast : (((w * 0x40 + x) * 0x40 + y) * 0x40 + z) % 64 = z := by omega
    rw [if_neg (by omega), if_neg (by omega), if_neg (by omega), hlead, hsecond, hthird, hlast]

theorem IsCharacter.exists_char {s : Bytes} {code : Nat} (h : IsCharacter s code) :
    ∃ c : Char, s = String.utf8EncodeChar c := by
  have hvalid : code.isValidChar := by
    have hsurrogate := h.noSurrogate
    have hrange := h.inRange
    unfold Nat.isValidChar
    omega
  exact ⟨Char.ofNatAux code hvalid, eq_utf8EncodeChar h⟩

/-! ## Texts -/

@[simp] theorem encode_nil : encode [] = [] := rfl

theorem encode_cons (c : Char) (s : Text) : encode (c :: s) = String.utf8EncodeChar c ++ encode s :=
  List.flatMap_cons

theorem encode_append (s t : Text) : encode (s ++ t) = encode s ++ encode t := List.flatMap_append

/-- Well-formed are exactly the UTF-8 forms of texts. -/
theorem wellFormed_iff {data : Bytes} : WellFormed data ↔ ∃ s, data = encode s := by
  constructor
  · intro h
    induction h with
    | nil => exact ⟨[], rfl⟩
    | append hchar _ ih =>
      obtain ⟨c, rfl⟩ := hchar.exists_char
      obtain ⟨s, rfl⟩ := ih
      exact ⟨c :: s, (encode_cons c s).symm⟩
  · rintro ⟨s, rfl⟩
    induction s with
    | nil => exact .nil
    | cons c s ih =>
      rw [encode_cons]
      exact .append (isCharacter_utf8EncodeChar c) ih

/-- A character takes up four bytes at most. -/
theorem length_encode_le (s : Text) : (encode s).length ≤ 4 * s.length := by
  induction s with
  | nil => exact Nat.le_refl 0
  | cons c s ih =>
    have hchar : (String.utf8EncodeChar c).length ≤ 4 := by
      rw [String.length_utf8EncodeChar]
      exact Char.utf8Size_le_four c
    rw [encode_cons, List.length_append, List.length_cons]
    omega

/-! ## Decoding -/

/-- What has been written in UTF-8 is read as what it was. -/
theorem decode?_encode (s : Text) : decode? (encode s) = some s := by
  have hbytes : (encode s).toByteArray = (String.ofList s).toByteArray := by
    rw [String.toByteArray_ofList]
    rfl
  rw [decode?, hbytes, String.fromUTF8?, dif_pos (String.ofList s).isValidUTF8, Option.map_some]
  show some (String.ofList s).toList = some s
  rw [String.toList_ofList]

/-- Bytes are decoded to a text exactly if they are its UTF-8 form. -/
theorem decode?_eq_some_iff {data : Bytes} {s : Text} :
    decode? data = some s ↔ data = encode s := by
  constructor
  · intro h
    have hvalid : data.toByteArray.IsValidUTF8 := by
      by_contra hnot
      rw [decode?, String.fromUTF8?, dif_neg hnot] at h
      exact absurd h (by simp)
    obtain ⟨t, ht⟩ := hvalid
    obtain rfl : data = encode t := List.toByteArray_inj.1 ht
    rw [decode?_encode, Option.some.injEq] at h
    rw [h]
  · rintro rfl
    exact decode?_encode s

theorem decode?_eq_none {data : Bytes} (h : ¬ WellFormed data) : decode? data = none := by
  rw [Option.eq_none_iff_forall_not_mem]
  intro s hs
  exact h (wellFormed_iff.2 ⟨s, decode?_eq_some_iff.1 hs⟩)

end Utf8

end SnippetReview
