import SnippetReview.Text.CodePage
import SnippetReview.Text.DomainName
import SnippetReview.Text.EastAsian.Switching
import SnippetReview.Text.EastAsian.TraditionalChinese
import SnippetReview.Text.Escapes
import SnippetReview.Text.LowerCase
import SnippetReview.Text.Utf7
import SnippetReview.Text.WideUnits

/-!
# Character sets

The sender of a form may name the character set of its texts. Names are compared in lower case with
one underscore for every run of characters that are no letters, digits or dots. Bytes that are not
in the form that the character set asks for, and bytes in a character set that is not known, are
read as one character each. `Charset.decode?` fails only where a character set refuses the bytes.
-/

namespace SnippetReview

/-- A character set: its own name and the other ones, and the way to find the code points of
bytes. -/
structure Charset where
  ownName : String
  otherNames : List String
  decoder : RawDecoder

namespace Charset

/-! ## Decoding -/

/-- The code points of the bytes, unless the character set refuses them. -/
def decode? (c : Charset) (bytes : Bytes) : Option RawText :=
  match c.decoder bytes with
  | .ok p => some p
  | .error .malformed => some (RawText.of bytes.toLatin1)
  | .error .refused => none

/-! ## Unicode -/

/-- Takes a byte order mark off the front, if it stands there. -/
def dropMark (mark bytes : Bytes) : Bytes :=
  if mark.isPrefixOf bytes then bytes.drop mark.length else bytes

/-- The text of bytes in units of two or four bytes, of which a byte order mark tells the order;
without one the lower byte comes first. -/
def decodeMarked? (decode? : ByteOrder → Bytes → Option Text) (little big bytes : Bytes) :
    Option Text :=
  if big.isPrefixOf bytes then decode? .big (bytes.drop big.length)
  else decode? .little (dropMark little bytes)

/-- UTF-8. -/
def utf8 : Charset :=
  ⟨"utf_8", ["utf8", "u8", "utf", "utf8_ucs2", "utf8_ucs4", "cp65001"],
    Decoder.ofOption Utf8.decode?⟩

/-- UTF-8 after a byte order mark that is no part of the text. -/
def utf8Marked : Charset :=
  ⟨"utf_8_sig", [],
    Decoder.ofOption fun bytes => Utf8.decode? (dropMark [0xEF, 0xBB, 0xBF] bytes)⟩

/-- The forms of Unicode. -/
def unicode : List Charset :=
  [utf8, utf8Marked,
   ⟨"utf_16", ["utf16", "u16"],
    Decoder.ofOption (decodeMarked? Utf16.decode? [0xFF, 0xFE] [0xFE, 0xFF])⟩,
   ⟨"utf_16_le", ["utf_16le", "unicodelittleunmarked"],
    Decoder.ofOption (Utf16.decode? .little)⟩,
   ⟨"utf_16_be", ["utf_16be", "unicodebigunmarked"], Decoder.ofOption (Utf16.decode? .big)⟩,
   ⟨"utf_32", ["utf32", "u32"],
    Decoder.ofOption (decodeMarked? Utf32.decode? [0xFF, 0xFE, 0, 0] [0, 0, 0xFE, 0xFF])⟩,
   ⟨"utf_32_le", ["utf_32le"], Decoder.ofOption (Utf32.decode? .little)⟩,
   ⟨"utf_32_be", ["utf_32be"], Decoder.ofOption (Utf32.decode? .big)⟩,
   ⟨"utf_7", ["utf7", "u7", "unicode_1_1_utf_7"], Utf7.decode⟩,
   ⟨"punycode", [], Punycode.decode⟩,
   ⟨"idna", [], DomainName.decode⟩,
   ⟨"unicode_escape", [], Escapes.all⟩,
   ⟨"raw_unicode_escape", [], Escapes.raw⟩]

/-! ## East Asian character sets -/

/-- The Chinese character sets. -/
def chinese : List Charset :=
  [⟨"big5", ["big5_tw", "csbig5", "x_mac_trad_chinese"], Big5.plain⟩,
   ⟨"big5hkscs", ["big5_hkscs", "hkscs"], Big5.hongKong⟩,
   ⟨"cp950", ["950", "ms950"], Big5.microsoft⟩,
   ⟨"gb2312",
    ["chinese", "csiso58gb231280", "euc_cn", "euccn", "eucgb2312_cn", "gb2312_1980", "gb2312_80",
     "iso_ir_58", "x_mac_simp_chinese"], Chinese.gb2312⟩,
   ⟨"gbk", ["936", "cp936", "ms936"], Chinese.gbk⟩,
   ⟨"gb18030", ["gb18030_2000"], Chinese.gb18030⟩,
   ⟨"hz", ["hzgb", "hz_gb", "hz_gb_2312"], Chinese.switched⟩]

/-- The Japanese character sets. -/
def japanese : List Charset :=
  [⟨"shift_jis", ["csshiftjis", "shiftjis", "sjis", "s_jis", "x_mac_japanese"], Jis.shift⟩,
   ⟨"shift_jisx0213", ["shiftjisx0213", "sjisx0213", "s_jisx0213"], Jis.shiftX0213 .of2000⟩,
   ⟨"shift_jis_2004", ["shiftjis2004", "sjis_2004", "s_jis_2004"], Jis.shiftX0213 .of2004⟩,
   ⟨"cp932", ["932", "ms932", "mskanji", "ms_kanji"], Jis.shiftMicrosoft⟩,
   ⟨"euc_jp", ["eucjp", "ujis", "u_jis"], Jis.extendedX0208⟩,
   ⟨"euc_jisx0213", ["eucjisx0213"], Jis.extendedX0213 .of2000⟩,
   ⟨"euc_jis_2004", ["jisx0213", "eucjis2004", "euc_jis2004"], Jis.extendedX0213 .of2004⟩,
   ⟨"iso2022_jp", ["csiso2022jp", "iso2022jp", "iso_2022_jp"], Iso2022.japanese.decoder⟩,
   ⟨"iso2022_jp_1", ["iso2022jp_1", "iso_2022_jp_1"], Iso2022.japanese1.decoder⟩,
   ⟨"iso2022_jp_2", ["iso2022jp_2", "iso_2022_jp_2"], Iso2022.japanese2.decoder⟩,
   ⟨"iso2022_jp_3", ["iso2022jp_3", "iso_2022_jp_3"], (Iso2022.japanese3 .of2000).decoder⟩,
   ⟨"iso2022_jp_2004", ["iso2022jp_2004", "iso_2022_jp_2004"],
    (Iso2022.japanese3 .of2004).decoder⟩,
   ⟨"iso2022_jp_ext", ["iso2022jp_ext", "iso_2022_jp_ext"], Iso2022.japaneseExtended.decoder⟩]

/-- The Korean character sets. -/
def korean : List Charset :=
  [⟨"euc_kr",
    ["euckr", "korean", "ksc5601", "ks_c_5601", "ks_c_5601_1987", "ksx1001", "ks_x_1001",
     "x_mac_korean"], Korean.extended⟩,
   ⟨"cp949", ["949", "ms949", "uhc"], Korean.unified⟩,
   ⟨"johab", ["cp1361", "ms1361"], Korean.johab⟩,
   ⟨"iso2022_kr", ["csiso2022kr", "iso2022kr", "iso_2022_kr"], Iso2022.korean.decoder⟩]

/-! ## Other character sets -/

/-- The character set of a code page. -/
def ofPage (p : CodePage) : Charset := ⟨p.ownName, p.otherNames, Decoder.ofOption p.decode?⟩

/-- One character per byte. -/
def latin1 : Charset := ⟨"latin_1", [], fun bytes => .ok (RawText.of bytes.toLatin1)⟩

/-- The character set that has no texts but the empty one. -/
def undefined : Charset :=
  ⟨"undefined", [], fun bytes => if bytes.isEmpty then .ok [] else .error .refused⟩

/-- The character set of a name that cannot be one. -/
def unnamable : Charset := ⟨"", [], fun _ => .error .refused⟩

/-- All character sets but those that are one character per byte. ASCII is left out with them, as it
differs from them only where it fails. -/
def all : List Charset :=
  unicode ++ chinese ++ japanese ++ korean ++ CodePage.all.map ofPage ++ [undefined]

/-! ## Names -/

/-- Whether a character is part of a name. -/
def isNameChar (c : Char) : Bool := c.isAlphanum || c == '.'

/-- A name in the form in which names are compared. -/
def normalName (name : Text) : Text :=
  let runs := (Text.toLower name).splitBy fun a b => isNameChar a == isNameChar b
  joinPieces '_' (runs.filter fun run => run.all isNameChar)

/-- A name with underscores for dots, which other names than a set's own are compared in. -/
def withoutDots (name : Text) : Text := name.map fun c => if c = '.' then '_' else c

/-- Whether a name in the form in which names are compared is one of the character set. -/
def hasName (c : Charset) (name : Text) : Bool :=
  String.ofList name == c.ownName || c.otherNames.contains (String.ofList (withoutDots name))

/-- The character set with a name. -/
def named (name : Text) : Charset :=
  let normal := normalName name
  if name.contains '\x00' then unnamable
  else (all.find? fun c => c.hasName normal).getD latin1

end Charset

end SnippetReview
