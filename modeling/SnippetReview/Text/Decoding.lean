import SnippetReview.Text.RawText

/-!
# Reading characters off bytes

A character set tells the text of bytes. Where a character takes several bytes, or where bytes
call up another table, the bytes are read from the front: `Decoder.ofStep` reads with a state,
`Decoder.ofRead` without one. A few character sets let lone surrogates pass; these read code
points in place of characters.
-/

namespace SnippetReview

/-- Why bytes have no text in a character set. -/
inductive Unread
  /-- The bytes are not in the form that the character set asks for. -/
  | malformed
  /-- The character set gives up on the bytes. -/
  | refused
  deriving DecidableEq

/-- A way to find what bytes stand for. -/
abbrev DecoderTo (α : Type) := Bytes → Except Unread (List α)

/-- A way to find the text of bytes. -/
abbrev Decoder := DecoderTo Char

/-- A way to find the code points of bytes. -/
abbrev RawDecoder := DecoderTo CodePoint

namespace Decoder

/-- What is read off the front of bytes: characters or code points, how many bytes after the first
belong to them, and the state in which the next bytes are read. -/
structure ReadingTo (α σ : Type) where
  text : List α
  more : Nat
  next : σ

/-- What is read off the front of bytes as characters. -/
abbrev Reading := ReadingTo Char

/-- Reads all bytes; `skip` bytes of them have been read before, and `done` is what has been read so
far, latest first. -/
def readFrom {α σ : Type} (read : σ → UInt8 → Bytes → Except Unread (ReadingTo α σ)) (s : σ)
    (skip : Nat) (done : List α) : DecoderTo α
  | [] => .ok done.reverse
  | b :: rest =>
    match skip with
    | n + 1 => readFrom read s n done rest
    | 0 =>
      match read s b rest with
      | .error e => .error e
      | .ok r => readFrom read r.next r.more (r.text.reverse ++ done) rest

/-- Reads bytes in a state that what is read can change. -/
def ofStep {α σ : Type} (read : σ → UInt8 → Bytes → Except Unread (ReadingTo α σ)) (start : σ) :
    DecoderTo α :=
  readFrom read start 0 []

/-- What stands at the front of bytes, given as the first byte and the others, and how many of the
others belong to it. -/
abbrev ReadTo (α : Type) := UInt8 → Bytes → Option (List α × Nat)

/-- The characters that stand at the front of bytes. -/
abbrev Read := ReadTo Char

/-- Reads bytes that are read in the same way everywhere. -/
def ofRead {α : Type} (read : ReadTo α) : DecoderTo α :=
  ofStep
    (fun _ b rest =>
      match read b rest with
      | some (text, more) => .ok ⟨text, more, ()⟩
      | none => .error .malformed)
    ()

/-- Reads bytes of which the text, if they have one, is told at once. -/
def ofOption (decode? : Bytes → Option Text) : Decoder := fun bytes =>
  match decode? bytes with
  | some s => .ok s
  | none => .error .malformed

/-- The code points of bytes in a character set whose texts hold no lone surrogates. -/
def raw (decoder : Decoder) : RawDecoder := fun bytes => (decoder bytes).map RawText.of

instance : Coe Decoder RawDecoder := ⟨raw⟩

/-! ## Ways to read -/

/-- Reads one byte as the character whose code point it is. -/
def byteAsChar (b : UInt8) : Text × Nat := ([Char.ofNat b.toNat], 0)

/-- Reads a byte below 128 as ASCII, and others as told. -/
def Read.orAscii (read : Read) : Read := fun b rest =>
  if b < 0x80 then some (byteAsChar b) else read b rest

/-- Reads two bytes as the characters that are told. -/
def Read.textPair (text? : Nat → Nat → Option Text) : Read
  | a, b :: _ => (text? a.toNat b.toNat).map fun s => (s, 1)
  | _, [] => none

/-- Reads two bytes as the character that is told. -/
def Read.pair (char? : Nat → Nat → Option Char) : Read :=
  Read.textPair fun a b => (char? a b).map fun c => [c]

end Decoder

end SnippetReview
