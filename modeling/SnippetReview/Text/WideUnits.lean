import SnippetReview.Text.RawText

/-!
# UTF-16 and UTF-32

Bytes are first put together to units of two or four bytes, in one of the two byte orders, and
the units then read as code points. Bytes that do not fill the last unit and numbers above the last
code point are refused. Surrogates without a partner are refused, too, or may pass.
-/

namespace SnippetReview

/-- The order in which the bytes of a unit stand. -/
inductive ByteOrder
  | big
  | little
  deriving DecidableEq

/-- A number from its two bytes. -/
def ByteOrder.join (order : ByteOrder) (first second : Nat) (base : Nat) : Nat :=
  match order with
  | .big => first * base + second
  | .little => second * base + first

namespace Utf16

/-- Puts bytes together in pairs; `units` are the units so far, latest first. -/
def joinBytes (order : ByteOrder) (units : List Nat) : Bytes → Option (List Nat)
  | [] => some units.reverse
  | [_] => none
  | a :: b :: rest => joinBytes order (order.join a.toNat b.toNat 256 :: units) rest

/-- Whether a unit is the first of a surrogate pair. -/
def isLead (u : Nat) : Bool := 0xD800 ≤ u && u < 0xDC00

/-- Whether a unit is the second of a surrogate pair. -/
def isTrail (u : Nat) : Bool := 0xDC00 ≤ u && u < 0xE000

/-- The code point that a surrogate pair stands for. -/
def joinPair (lead trail : Nat) : Nat := 0x10000 + (lead - 0xD800) * 0x400 + (trail - 0xDC00)

/-- Reads units; `done` are the code points so far, latest first. -/
def readUnits (done : RawText) : List Nat → RawText
  | [] => done.reverse
  | [u] => (CodePoint.ofUnit u :: done).reverse
  | u :: v :: rest =>
    if isLead u && isTrail v then readUnits (.char (Char.ofNat (joinPair u v)) :: done) rest
    else readUnits (CodePoint.ofUnit u :: done) (v :: rest)

/-- The code points whose UTF-16 form the bytes are, where surrogates may pass. -/
def decodePassing? (order : ByteOrder) (bytes : Bytes) : Option RawText :=
  (joinBytes order [] bytes).map (readUnits [])

/-- The text whose UTF-16 form the bytes are, if they are one. -/
def decode? (order : ByteOrder) (bytes : Bytes) : Option Text :=
  (decodePassing? order bytes).bind RawText.toText?

end Utf16

namespace Utf32

/-- Reads bytes in fours; `done` are the code points so far, latest first. -/
def readBytes? (order : ByteOrder) (done : RawText) : Bytes → Option RawText
  | [] => some done.reverse
  | a :: b :: c :: d :: rest =>
    let code := order.join (order.join a.toNat b.toNat 256) (order.join c.toNat d.toNat 256) 65536
    match CodePoint.ofCode? code with
    | some p => readBytes? order (p :: done) rest
    | none => none
  | _ => none

/-- The code points whose UTF-32 form the bytes are, where surrogates may pass. -/
def decodePassing? (order : ByteOrder) (bytes : Bytes) : Option RawText := readBytes? order [] bytes

/-- The text whose UTF-32 form the bytes are, if they are one. -/
def decode? (order : ByteOrder) (bytes : Bytes) : Option Text :=
  (decodePassing? order bytes).bind RawText.toText?

end Utf32

end SnippetReview
