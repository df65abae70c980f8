import SnippetReview.Text.EastAsian.Chinese
import SnippetReview.Text.EastAsian.Japanese
import SnippetReview.Text.EastAsian.Korean

/-!
# Sets that are called up by escape sequences

In ISO 2022 an escape sequence calls up a set of characters into one of three slots. Bytes of seven
bits are read in the set of the first slot, or of the second between the bytes that shift out and
in; a character of the third slot follows an escape of its own. Profiles differ in the sets that
they have.
-/

namespace SnippetReview

namespace Iso2022

open Decoder

/-! ## Sets -/

/-- A set of characters: the last byte of its escape sequence, whether that tells of two bytes for a
character, and how it is read. -/
structure CodedSet where
  final : UInt8
  isDouble : Bool
  read : Read

/-- A set of two bytes of seven bits. -/
def CodedSet.ofPlaces (final : UInt8) (text? : Nat → Nat → Option Text) : CodedSet where
  final := final
  isDouble := true
  read := Read.textPair fun a b => do
    text? (← placeIn? leftBytes a) (← placeIn? leftBytes b)

/-- A set of two bytes of seven bits with the characters of a grid. -/
def CodedSet.ofGrid (final : UInt8) (grid : CharGrid) : CodedSet :=
  CodedSet.ofPlaces final fun row cell => (grid.char? row cell).map fun c => [c]

/-- JIS X 0208. -/
def jisX0208 : CodedSet := CodedSet.ofGrid 0x42 Jis.x0208

/-- JIS X 0208 by its older name. -/
def jisC6226 : CodedSet := CodedSet.ofGrid 0x40 Jis.x0208

/-- JIS X 0212. -/
def jisX0212 : CodedSet := CodedSet.ofGrid 0x44 Jis.x0212

/-- The characters in a place of plane 1 of JIS X 0213, where the tilde is the one of ASCII. -/
def firstPlane? (edition : Jis.Edition) (row cell : Nat) : Option Text :=
  if row = 1 ∧ cell = 17 then some ['~'] else Jis.firstPlane? edition row cell

/-- Plane 1 of JIS X 0213. -/
def jisX0213First (edition : Jis.Edition) : CodedSet :=
  CodedSet.ofPlaces (if edition = .of2000 then 0x4F else 0x51) (firstPlane? edition)

/-- Plane 2 of JIS X 0213. -/
def jisX0213Second : CodedSet := CodedSet.ofGrid 0x50 Jis.x0213Second

/-- The Roman characters of JIS X 0201. -/
def jisRoman : CodedSet :=
  ⟨0x4A, false, fun b _ => some ([Jis.romanChar b.toNat], 0)⟩

/-- The katakana of JIS X 0201. -/
def jisKatakana : CodedSet :=
  ⟨0x49, false, fun b _ => (Jis.halfKatakana? (b.toNat + 0x80)).map fun c => ([c], 0)⟩

/-- KS X 1001. -/
def ksX1001 : CodedSet := CodedSet.ofGrid 0x43 KsX1001.grid

/-- GB 2312. -/
def gb2312 : CodedSet := CodedSet.ofGrid 0x41 Gb2312.grid

/-- The upper half of ISO 8859-1, of which characters follow an escape each. -/
def latin1 : CodedSet := ⟨0x41, false, fun _ _ => none⟩

/-- The upper half of ISO 8859-7, of which characters follow an escape each. -/
def greek : CodedSet := ⟨0x46, false, fun _ _ => none⟩

/-! ## Profiles -/

/-- What a profile has: sets, bytes that shift, a third slot, and the announcement of the newer
edition of JIS X 0208. -/
structure Profile where
  sets : List CodedSet
  hasShift : Bool := false
  hasThird : Bool := false
  hasAnnouncement : Bool := true

/-- The slots of a profile; an empty slot holds ASCII. `isShifted` tells whether the second one is
read, and `isPlain` that bytes stand for themselves up to the end of an escape sequence that is not
known. -/
structure Slots where
  first : Option CodedSet := none
  second : Option CodedSet := none
  third : Option CodedSet := none
  isShifted : Bool := false
  isPlain : Bool := false

/-- The escape. -/
def escape : UInt8 := 0x1B

/-- Whether a byte ends an escape sequence. -/
def isFinal (b : UInt8) : Bool := 0x40 ≤ b && b ≤ 0x5A

/-- Whether a byte after an escape calls up a set. -/
def isCall (b : UInt8) : Bool := "()$.&".toList.contains (Char.ofNat b.toNat)

/-- The set that the last byte of an escape sequence names: nothing inside for ASCII, and nothing at
all for a set that the profile does not have. -/
def Profile.set? (p : Profile) (isDouble : Bool) (final : UInt8) : Option (Option CodedSet) :=
  if !isFinal final then none
  else if !isDouble ∧ final = 0x42 then some none
  else (p.sets.find? fun set => set.isDouble == isDouble && set.final == final).map some

/-- Whether characters after an escape announce the newer edition of JIS X 0208: two characters, and
the escape sequence that calls the set up. The second of the two ends no sequence, but for the pair
that is meant for this. -/
def isAnnouncement : Text → Bool
  | a :: b :: '\x1b' :: '$' :: 'B' :: _ =>
    (a == '&' && b == '@') || !isFinal (UInt8.ofNat b.toNat)
  | _ => false

/-- The slots after the escape sequence that begins with the given bytes, and how many bytes it
has. -/
def Profile.call? (p : Profile) (slots : Slots) (bytes : Bytes) : Option (Slots × Nat) :=
  let chars := Bytes.toLatin1 (bytes.take 5)
  let called (isDouble : Bool) (final : Char) (length : Nat) (put : Option CodedSet → Slots) :=
    (p.set? isDouble (UInt8.ofNat final.toNat)).map fun set => (put set, length)
  if p.hasAnnouncement && isAnnouncement chars then
    called true 'B' 5 fun set => { slots with first := set }
  else
    match chars with
    | '$' :: '(' :: c :: _ => called true c 3 fun set => { slots with first := set }
    | '$' :: ')' :: c :: _ => called true c 3 fun set => { slots with second := set }
    | '$' :: c :: _ => called true c 2 fun set => { slots with first := set }
    | '(' :: c :: _ => called false c 2 fun set => { slots with first := set }
    | ')' :: c :: _ => called false c 2 fun set => { slots with second := set }
    | '.' :: c :: _ =>
      if p.hasThird then called false c 2 fun set => { slots with third := set } else none
    | _ => none

/-! ## Reading -/

/-- The characters of the upper half of ISO 8859-7, in the order of their bytes. -/
def greekChars : List String :=
  ["\u00A0‘’£��¦§¨©�«¬\u00AD�―°±²³΄΅Ά·ΈΉΊ»Ό½ΎΏ", "ΐΑΒΓΔΕΖΗΘΙΚΛΜΝΞΟΠΡ�ΣΤΥΦΧΨΩΪΫάέήί",
   "ΰαβγδεζηθικλμνξοπρςστυφχψωϊϋόύώ"]

/-- The character of a byte in ISO 8859-7. -/
def greekChar? (b : UInt8) : Option Char :=
  if b < 0xA0 then some (Char.ofNat b.toNat)
  else
    let chars := greekChars.flatMap String.toList
    (chars[b.toNat - 0xA0]?).filter (· != Utf8.replacement)

/-- The character of the third slot that a byte stands for. A set that has no characters for this
slot makes reading stop. -/
def thirdChar (slots : Slots) (b : UInt8) : Except Unread Char :=
  match slots.third with
  | none => if b < 0x80 then .ok (Char.ofNat b.toNat) else .error .malformed
  | some set =>
    if set.isDouble then .error .refused
    else if set.final = latin1.final then
      if b < 0x80 then .ok (Char.ofNat (b.toNat + 0x80)) else .error .malformed
    else if set.final = greek.final then
      match greekChar? (b ^^^ 0x80) with
      | some c => .ok c
      | none => .error .malformed
    else .error .refused

/-- Reads what follows an escape. -/
def Profile.readEscape (p : Profile) (slots : Slots) (rest : Bytes) :
    Except Unread (Reading Slots) :=
  match rest with
  | [] => .error .malformed
  | b :: after =>
    if isCall b then
      match p.call? slots rest with
      | some (next, more) => .ok ⟨[], more, next⟩
      | none => .error .malformed
    else if p.hasThird ∧ b = 0x4E then
      match after with
      | [] => .error .malformed
      | c :: _ => (thirdChar slots c).map fun c => ⟨[c], 2, slots⟩
    else .ok ⟨['\x1b'], 0, { slots with isPlain := true }⟩

/-- Reads one character or one escape sequence. -/
def Profile.read (p : Profile) (slots : Slots) (b : UInt8) (rest : Bytes) :
    Except Unread (Reading Slots) :=
  let self := [Char.ofNat b.toNat]
  if slots.isPlain then .ok ⟨self, 0, { slots with isPlain := !isFinal b }⟩
  else if b = escape then p.readEscape slots rest
  else if b = 0x0F ∧ p.hasShift then .ok ⟨[], 0, { slots with isShifted := false }⟩
  else if b = 0x0E ∧ p.hasShift then .ok ⟨[], 0, { slots with isShifted := true }⟩
  else if b = 0x0A then .ok ⟨self, 0, { slots with isShifted := false }⟩
  else if b < 0x20 then .ok ⟨self, 0, slots⟩
  else if 0x80 ≤ b then .error .malformed
  else
    match if slots.isShifted then slots.second else slots.first with
    | none => .ok ⟨self, 0, slots⟩
    | some set =>
      match set.read b rest with
      | some (text, more) => .ok ⟨text, more, slots⟩
      | none => .error .malformed

/-- The way to read a profile. -/
def Profile.decoder (p : Profile) : Decoder := ofStep p.read {}

/-! ## The profiles -/

/-- ISO-2022-JP. -/
def japanese : Profile where
  sets := [jisX0208, jisRoman, jisC6226]

/-- ISO-2022-JP-1. -/
def japanese1 : Profile where
  sets := [jisX0208, jisX0212, jisRoman, jisC6226]

/-- ISO-2022-JP-2. -/
def japanese2 : Profile where
  sets := [jisX0208, jisX0212, ksX1001, gb2312, jisRoman, jisC6226, latin1, greek]
  hasThird := true

/-- ISO-2022-JP-3, or its edition of 2004. -/
def japanese3 (edition : Jis.Edition) : Profile where
  sets := [jisX0208, jisX0213First edition, jisX0213Second]

/-- ISO-2022-JP with JIS X 0212 and the katakana of JIS X 0201. -/
def japaneseExtended : Profile where
  sets := [jisX0208, jisX0212, jisRoman, jisKatakana, jisC6226]

/-- ISO-2022-KR. -/
def korean : Profile where
  sets := [ksX1001]
  hasShift := true
  hasAnnouncement := false

end Iso2022

end SnippetReview
