import SnippetReview.Text.Utf8

/-!
# Percent encoding

Characters that may not stand in an address are written as the bytes of their UTF-8 form, each as
a percent sign and two hexadecimal digits in upper case.
-/

namespace SnippetReview

namespace Percent

/-- A hexadecimal digit in upper case. -/
def upperDigit (n : Nat) : Char := (Nat.digitChar n).toUpper

/-- A byte as a percent sign and two hexadecimal digits. -/
def ofByte (b : UInt8) : Text := ['%', upperDigit (b.toNat / 16), upperDigit (b.toNat % 16)]

/-- A text with all characters encoded that are not to be kept. -/
def encode (keep : Char → Bool) (s : Text) : Text :=
  s.flatMap fun c => if keep c then [c] else (Utf8.encode [c]).flatMap ofByte

/-- Whether a character is never encoded. -/
def isUnreserved (c : Char) : Bool :=
  c.isAlphanum || c == '_' || c == '.' || c == '-' || c == '~'

/-- Whether a character has a meaning in an address, and is therefore kept there. -/
def isReserved (c : Char) : Bool := ":/%#?=@[]!$&'()*+,;".toList.contains c

end Percent

end SnippetReview
