import SnippetReview.Text.Decoding
import SnippetReview.Text.WideUnits

/-!
# UTF-7

UTF-7 writes ASCII characters as they are, and others in sections of base 64 that begin with a plus
and hold UTF-16 units. A section ends before the first byte that is no digit of base 64; a minus
there is passed over. `+-` stands for a plus. A surrogate without a partner passes, but not the
first unit of a pair at the end of the bytes.
-/

namespace SnippetReview

namespace Utf7

open Decoder

/-- The value of a digit of base 64. -/
def digitValue? (b : UInt8) : Option Nat :=
  if 0x41 ≤ b ∧ b ≤ 0x5A then some (b.toNat - 0x41)
  else if 0x61 ≤ b ∧ b ≤ 0x7A then some (b.toNat - 0x61 + 26)
  else if 0x30 ≤ b ∧ b ≤ 0x39 then some (b.toNat - 0x30 + 52)
  else if b = 0x2B then some 62
  else if b = 0x2F then some 63
  else none

/-- A section under way: how many bits have been read that make no unit yet, the number they are,
and the first unit of a surrogate pair that has begun. -/
structure Section where
  bits : Nat := 0
  value : Nat := 0
  lead : Option Nat := none

/-- Whether a section may end: what is left are fewer bits than a digit has, all zero. -/
def Section.mayEnd (s : Section) : Bool := s.bits < 6 && s.value == 0

/-- The surrogate that is left over when what follows does not complete its pair. -/
def Section.pending (s : Section) : RawText := (s.lead.map CodePoint.surrogate).toList

/-- Reads a unit that completes no pair: the code point that it is, or the first unit of a pair that
it begins. -/
def readSingle (unit : Nat) : RawText × Option Nat :=
  if Utf16.isLead unit then ([], some unit) else ([CodePoint.ofUnit unit], none)

/-- Reads a unit: the code points that are complete then, and the first unit of a pair that it
begins. -/
def readUnit (lead : Option Nat) (unit : Nat) : RawText × Option Nat :=
  match lead with
  | none => readSingle unit
  | some l =>
    if Utf16.isTrail unit then ([.char (Char.ofNat (Utf16.joinPair l unit))], none)
    else
      let (text, next) := readSingle unit
      (.surrogate l :: text, next)

/-- Reads a digit of a section. -/
def Section.add (s : Section) (digit : Nat) : RawText × Section :=
  let bits := s.bits + 6
  let value := s.value * 64 + digit
  if bits < 16 then ([], ⟨bits, value, s.lead⟩)
  else
    let left := 1 <<< (bits - 16)
    let (text, lead) := readUnit s.lead (value / left)
    (text, ⟨bits - 16, value % left, lead⟩)

/-- The plus, which begins a section. -/
def plus : UInt8 := 0x2B

/-- The minus, which may end a section. -/
def minus : UInt8 := 0x2D

/-- Reads a byte that stands in no section, after the code points that are left over. -/
def readDirect (left : RawText) (b : UInt8) (rest : Bytes) :
    Except Unread (ReadingTo CodePoint (Option Section)) :=
  if 0x80 ≤ b then .error .malformed
  else if b ≠ plus then .ok ⟨left ++ [.char (Char.ofNat b.toNat)], 0, none⟩
  else
    match rest with
    | [] => .ok ⟨left, 0, none⟩
    | next :: _ =>
      if next = minus then .ok ⟨left ++ [.char '+'], 1, none⟩
      else if (digitValue? next).isNone then .error .malformed
      else .ok ⟨left, 0, some {}⟩

/-- Reads a byte, in a section or outside of one. -/
def read (state : Option Section) (b : UInt8) (rest : Bytes) :
    Except Unread (ReadingTo CodePoint (Option Section)) :=
  match state with
  | none => readDirect [] b rest
  | some s =>
    match digitValue? b with
    | some digit =>
      let (text, next) := s.add digit
      if rest.isEmpty && !(next.mayEnd && next.lead.isNone) then .error .malformed
      else .ok ⟨text, 0, some next⟩
    | none =>
      if !s.mayEnd then .error .malformed
      else if b = minus then .ok ⟨s.pending, 0, none⟩
      else readDirect s.pending b rest

/-- UTF-7. -/
def decode : RawDecoder := ofStep read none

end Utf7

end SnippetReview
