import SnippetReview.Text.Decoding
import SnippetReview.Text.EastAsian.Gb2312

/-!
# Character sets for simplified Chinese

GB 2312 has two bytes of eight bits. GBK goes on in the places beside them: with the ideographs
that GB 2312 lacks, in the order of Unicode, and with more signs. GB 18030 gives every other pair
of bytes a private character, and has four bytes for what is left of Unicode, again in order.
-/

namespace SnippetReview

namespace Chinese

open Decoder

/-! ## GB 2312 -/

/-- The character of two bytes in GB 2312. -/
def gb2312? (a b : Nat) : Option Char := Gb2312.grid.charOf? rightBytes rightBytes a b

/-- GB 2312. -/
def gb2312 : Decoder := ofRead (Read.orAscii (Read.pair gb2312?))

/-! ## GBK -/

/-- The first ideograph of Unicode. -/
def firstIdeograph : Nat := 0x4E00

/-- The last ideograph that GBK has in the order of Unicode. -/
def lastIdeograph : Nat := 0x9FA5

/-- The ideographs that follow those in the order of Unicode. -/
def compatibilityIdeographs : List Char :=
  ['\uF92C', '\uF979', '\uF995', '\uF9E7', '\uF9F1', '\uFA0C', '\uFA0D', '\uFA0E', '\uFA0F',
   '\uFA11', '\uFA13', '\uFA14', '\uFA18', '\uFA1F', '\uFA20', '\uFA21', '\uFA23', '\uFA24',
   '\uFA27', '\uFA28', '\uFA29']

/-- The ideographs that GB 2312 lacks. -/
def rareIdeographs : Array Char :=
  charsBesides firstIdeograph lastIdeograph Gb2312.grid.chars ++ compatibilityIdeographs.toArray

/-- The second bytes below those of GB 2312. -/
def lowerTrails : List (Nat × Nat) := [(0x40, 0x7E), (0x80, 0xA0)]

/-- All second bytes. -/
def trails : List (Nat × Nat) := [(0x40, 0x7E), (0x80, 0xFE)]

/-- The place of a rare ideograph among them. -/
def rarePlace? (a b : Nat) : Option Nat :=
  match placeIn? [(0x81, 0xA0)] a with
  | some lead => (placeIn? trails b).map (· + 190 * lead)
  | none => do
    let lead ← placeIn? [(0xAA, 0xFE)] a
    let trail ← placeIn? lowerTrails b
    some (32 * 190 + 96 * lead + trail)

/-- The signs that GBK adds to GB 2312 or has in place of its ones. -/
def addedSigns : CharRuns :=
  [(0xA1, 0xA4, "·"), (0xA1, 0xAA, "—"), (0xA2, 0xA1, "ⅰⅱⅲⅳⅴⅵⅶⅷⅸⅹ"),
   (0xA6, 0xE0, "︵︶︹︺︿﹀︽︾﹁﹂﹃﹄"), (0xA6, 0xEE, "︻︼︷︸︱"), (0xA6, 0xF4, "︳︴"),
   (0xA8, 0x40, "ˊˋ˙–―‥‵℅℉↖↗↘↙∕∟∣≒≦≧⊿═║╒╓╔╕╖╗╘╙╚╛╜╝╞╟╠╡╢╣╤╥╦╧╨╩╪╫╬╭╮╯╰╱╲╳▁▂▃▄▅▆▇"),
   (0xA8, 0x80, "█▉▊▋▌▍▎▏▓▔▕▼▽◢◣◤◥☉⊕〒〝〞"), (0xA8, 0xBB, "ɑ"), (0xA8, 0xBD, "ńň"),
   (0xA8, 0xC0, "ɡ"), (0xA9, 0x40, "〡〢〣〤〥〦〧〨〩㊣㎎㎏㎜㎝㎞㎡㏄㏎㏑㏒㏕︰￢￤"),
   (0xA9, 0x59, "℡㈱"), (0xA9, 0x5C, "‐"),
   (0xA9, 0x60, "ー゛゜ヽヾ〆ゝゞ﹉﹊﹋﹌﹍﹎﹏﹐﹑﹒﹔﹕﹖﹗﹙﹚﹛﹜﹝﹞﹟﹠﹡"),
   (0xA9, 0x80, "﹢﹣﹤﹥﹦﹨﹩﹪﹫"), (0xA9, 0x96, "〇")]

/-- The character of two bytes in GBK. -/
def gbk? (a b : Nat) : Option Char :=
  ((addedSigns.char? a b).or (gb2312? a b)).or
    ((rarePlace? a b).bind fun i => rareIdeographs[i]?)

/-- GBK. -/
def gbk : Decoder := ofRead (Read.orAscii (Read.pair gbk?))

/-! ## GB 18030 -/

/-- The private character of two bytes that are set aside for users. -/
def userChar? (a b : Nat) : Option Char :=
  let right (leads : List (Nat × Nat)) (start : Nat) : Option Char := do
    let lead ← placeIn? leads a
    let trail ← placeIn? rightBytes b
    some (Char.ofNat (start + 94 * lead + trail))
  let lower : Option Char := do
    let lead ← placeIn? [(0xA1, 0xA7)] a
    let trail ← placeIn? lowerTrails b
    some (Char.ofNat (0xE4C6 + 96 * lead + trail))
  ((right [(0xAA, 0xAF)] 0xE000).or (right [(0xF8, 0xFE)] 0xE234)).or lower

/-- The characters that have been assigned to pairs of bytes that would have a private one. -/
def assigned : CharRuns :=
  [(0xA2, 0xE3, "€"), (0xA8, 0xBF, "ǹ"), (0xA9, 0x89, "〾⿰⿱⿲⿳⿴⿵⿶⿷⿸⿹⿺⿻"),
   (0xFE, 0x50, "⺁"), (0xFE, 0x54, "⺄㑳㑇⺈⺋"), (0xFE, 0x5A, "㖞㘚㘎⺌⺗㥮㤘"),
   (0xFE, 0x62, "㧏㧟㩳㧐"), (0xFE, 0x68, "㭎㱮㳠⺧"), (0xFE, 0x6E, "⺪䁖䅟⺮䌷⺳⺶⺷"),
   (0xFE, 0x77, "䎱䎬⺻䏝䓖䙡䙌"), (0xFE, 0x80, "䜣䜩䝼䞍⻊䥇䥺䥽䦂䦃䦅䦆䦟䦛䦷䦶"),
   (0xFE, 0x92, "䲣䲟䲠䲡䱷䲢䴓䴔䴕䴖䴗䴘䴙䶮")]

/-- The first private character of the pairs of bytes that GBK leaves empty. -/
def firstSpare : Nat := 0xE766

/-- A table under way: the characters so far, and the next private character. -/
structure Filling where
  chars : Array Char
  spare : Nat

/-- Adds the character of two bytes. A pair that GBK leaves empty uses up a private character, be
it assigned another one or not. -/
def Filling.add (t : Filling) (a b : Nat) : Filling :=
  match (gbk? a b).or (userChar? a b) with
  | some c => ⟨t.chars.push c, t.spare⟩
  | none => ⟨t.chars.push ((assigned.char? a b).getD (Char.ofNat t.spare)), t.spare + 1⟩

/-- The characters of two bytes in GB 18030, in the order of the bytes. -/
def pairChars : Array Char :=
  let leads := (List.range 126).map (· + 0x81)
  let seconds := ((List.range 63).map (· + 0x40)) ++ ((List.range 127).map (· + 0x80))
  let row (t : Filling) (a : Nat) : Filling := seconds.foldl (fun t b => t.add a b) t
  (leads.foldl row ⟨#[], firstSpare⟩).chars

/-- The character of two bytes in GB 18030. -/
def gb18030Pair? (a b : Nat) : Option Char := do
  let lead ← placeIn? [(0x81, 0xFE)] a
  let trail ← placeIn? trails b
  pairChars[190 * lead + trail]?

/-- The characters of the basic plane that have four bytes. -/
def fourByteChars : Array Char := charsBesides 0x80 0xFFFF pairChars.toList

/-- The bytes that are digits. -/
def digitBytes : List (Nat × Nat) := [(0x30, 0x39)]

/-- The number that four bytes tell, of which the second and the fourth are digits. -/
def fourByteNumber? (a b c d : Nat) : Option Nat := do
  let first ← placeIn? [(0x81, 0xFE)] a
  let second ← placeIn? digitBytes b
  let third ← placeIn? [(0x81, 0xFE)] c
  let fourth ← placeIn? digitBytes d
  some (((first * 10 + second) * 126 + third) * 10 + fourth)

/-- The number of the first character beyond the basic plane. -/
def supplementaryNumber : Nat := 15 * 10 * 126 * 10

/-- The last code point. -/
def lastCodePoint : Nat := 0x10FFFF

/-- The character of four bytes. -/
def fourByteChar? (a b c d : Nat) : Option Char := do
  let n ← fourByteNumber? a b c d
  if n < supplementaryNumber then fourByteChars[n]?
  else
    let code := 0x10000 + (n - supplementaryNumber)
    if code ≤ lastCodePoint then some (Char.ofNat code) else none

/-- Reads GB 18030. A digit as second byte tells that there are four. -/
def gb18030Read : Read := fun a rest =>
  match rest with
  | b :: c :: d :: _ =>
    if (placeIn? digitBytes b.toNat).isSome then
      (fourByteChar? a.toNat b.toNat c.toNat d.toNat).map fun c => ([c], 3)
    else Read.pair gb18030Pair? a rest
  | _ => Read.pair gb18030Pair? a rest

/-- GB 18030. -/
def gb18030 : Decoder := ofRead (Read.orAscii gb18030Read)

/-! ## HZ -/

/-- The tilde, which begins what switches between ASCII and GB 2312. -/
def tilde : UInt8 := 0x7E

/-- What a tilde and the byte after it stand for: characters, and whether GB 2312 is called up. -/
def afterTilde? (isDouble : Bool) (b : UInt8) : Option (Text × Bool) :=
  if isDouble then
    if b = 0x7D then some ([], false) else none
  else if b = tilde then some (['~'], false)
  else if b = 0x7B then some ([], true)
  else if b = 0x0A then some ([], false)
  else none

/-- The character of two bytes of seven bits in GB 2312. -/
def leftGb2312? (a b : Nat) : Option Char := Gb2312.grid.charOf? leftBytes leftBytes a b

/-- Reads HZ, where `isDouble` tells whether GB 2312 is called up. -/
def switchedRead (isDouble : Bool) (a : UInt8) (rest : Bytes) :
    Except Unread (Reading Bool) :=
  if a = tilde then
    match rest.head?.bind (afterTilde? isDouble) with
    | some (text, next) => .ok ⟨text, 1, next⟩
    | none => .error .malformed
  else if 0x80 ≤ a then .error .malformed
  else if isDouble then
    match Read.pair leftGb2312? a rest with
    | some (text, more) => .ok ⟨text, more, isDouble⟩
    | none => .error .malformed
  else .ok ⟨[Char.ofNat a.toNat], 0, isDouble⟩

/-- HZ. -/
def switched : Decoder := ofStep switchedRead false

end Chinese

end SnippetReview
