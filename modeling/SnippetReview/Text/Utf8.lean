import SnippetReview.Text.Basic

/-!
# Bytes and UTF-8

Strict decoding accepts exactly the UTF-8 forms of texts: no overlong forms, no surrogates,
nothing above the last code point. Repairing decoding accepts all bytes and puts the
replacement character for every maximal part of an ill-formed sequence, that is for the longest
stretch that begins some well-formed sequence, or for one byte where there is none.
-/

namespace SnippetReview

/-- A sequence of bytes. -/
abbrev Bytes := List UInt8

/-- The text with one character per byte, the value of the byte as its code point. -/
def Bytes.toLatin1 (bytes : Bytes) : Text := bytes.map fun b => Char.ofNat b.toNat

/-- The bytes of a text that has one character per byte. -/
def Bytes.ofLatin1 (s : Text) : Bytes := s.map fun c => UInt8.ofNat c.toNat

namespace Utf8

/-- The UTF-8 form of a text. -/
def encode (s : Text) : Bytes := s.flatMap String.utf8EncodeChar

/-- The text whose UTF-8 form the bytes are, if they are one. -/
def decode? (bytes : Bytes) : Option Text :=
  (String.fromUTF8? bytes.toByteArray).map String.toList

/-! ## Repairing decoding -/

/-- A sequence that has begun: how many bytes it still needs, the code point so far, and the
range that the next byte has to lie in. -/
structure Pending where
  missing : Nat
  code : Nat
  low : UInt8
  high : UInt8

/-- What a byte at the start of a sequence begins, if it can begin one of several bytes. The
bounds on the second byte keep out overlong forms, surrogates and what lies above the last
code point. -/
def Pending.ofLead? (b : UInt8) : Option Pending :=
  if b < 0xC2 then none
  else if b < 0xE0 then some ⟨1, b.toNat % 32, 0x80, 0xBF⟩
  else if b < 0xF0 then
    some ⟨2, b.toNat % 16, if b = 0xE0 then 0xA0 else 0x80, if b = 0xED then 0x9F else 0xBF⟩
  else if b < 0xF5 then
    some ⟨3, b.toNat % 8, if b = 0xF0 then 0x90 else 0x80, if b = 0xF4 then 0x8F else 0xBF⟩
  else none

/-- A decoding under way: the characters so far, latest first, and the sequence that has
begun. -/
structure Repair where
  done : Text
  pending : Option Pending

/-- The character that stands for bytes that are not UTF-8. -/
def replacement : Char := '\uFFFD'

/-- Reads a byte at the start of a sequence. -/
def Repair.start (done : Text) (b : UInt8) : Repair :=
  if b < 0x80 then ⟨Char.ofNat b.toNat :: done, none⟩
  else
    match Pending.ofLead? b with
    | some p => ⟨done, some p⟩
    | none => ⟨replacement :: done, none⟩

/-- Reads a byte. One that cannot continue the sequence ends it and is read again as a
start. -/
def Repair.step (r : Repair) (b : UInt8) : Repair :=
  match r.pending with
  | none => Repair.start r.done b
  | some p =>
    if p.low ≤ b ∧ b ≤ p.high then
      let code := p.code * 64 + b.toNat % 64
      if p.missing = 1 then ⟨Char.ofNat code :: r.done, none⟩
      else ⟨r.done, some ⟨p.missing - 1, code, 0x80, 0xBF⟩⟩
    else Repair.start (replacement :: r.done) b

/-- The text read when the bytes have ended, where a sequence may be incomplete. -/
def Repair.finish (r : Repair) : Text :=
  (if r.pending.isSome then replacement :: r.done else r.done).reverse

/-- The text of the bytes, with the replacement character for what is not UTF-8. -/
def decodeRepairing (bytes : Bytes) : Text :=
  match decode? bytes with
  | some s => s
  | none => (bytes.foldl Repair.step ⟨[], none⟩).finish

end Utf8

end SnippetReview
