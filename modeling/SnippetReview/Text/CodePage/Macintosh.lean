import SnippetReview.Text.CodePage.Basic

/-!
# Character sets of the Macintosh

The character sets of the Macintosh, of which most differ from the Roman one in a few places.
-/

namespace SnippetReview

namespace CodePage

/-- Mac Roman. -/
def macRoman : CodePage where
  ownName := "mac_roman"
  otherNames := ["macintosh", "macroman"]
  high :=
    ["ÄÅÇÉÑÖÜáàâäãåçéèêëíìîïñóòôöõúùûü",
     "†°¢£§•¶ß®©™´¨≠ÆØ∞±≤≥¥µ∂∑∏π∫ªºΩæø",
     "¿¡¬√ƒ≈∆«»…\u00A0ÀÃÕŒœ–—“”‘’÷◊ÿŸ⁄€‹›ﬁﬂ",
     "‡·‚„‰ÂÊÁËÈÍÎÏÌÓÔ\uF8FFÒÚÛÙıˆ˜¯˘˙˚¸˝˛ˇ"]

/-- Mac Arabic. -/
def macArabic : CodePage where
  ownName := "mac_arabic"
  otherNames := []
  high :=
    ["Ä\u00A0ÇÉÑÖÜáàâäں«çéèêëí…îïñó»ôö÷úùûü",
     " !\"#$٪&'()*+،-./٠١٢٣٤٥٦٧٨٩:؛<=>؟",
     "❊ءآأؤإئابةتثجحخدذرزسشصضطظعغ[\\]^_",
     "ـفقكلمنهوىي\u064B\u064C\u064D\u064E\u064F\u0650\u0651\u0652پٹچەڤگڈڑ\x7b|\x7dژے"]

/-- Mac Croatian. -/
def macCroatian : CodePage where
  ownName := "mac_croatian"
  otherNames := []
  high :=
    ["ÄÅÇÉÑÖÜáàâäãåçéèêëíìîïñóòôöõúùûü",
     "†°¢£§•¶ß®Š™´¨≠ŽØ∞±≤≥∆µ∂∑∏š∫ªºΩžø",
     "¿¡¬√ƒ≈Ć«Č…\u00A0ÀÃÕŒœĐ—“”‘’÷◊\uF8FF©⁄€‹›Æ»",
     "–·‚„‰ÂćÁčÈÍÎÏÌÓÔđÒÚÛÙıˆ˜¯πË˚¸Êæˇ"]

/-- Mac Cyrillic. -/
def macCyrillic : CodePage where
  ownName := "mac_cyrillic"
  otherNames := ["maccyrillic"]
  high :=
    ["АБВГДЕЖЗИЙКЛМНОПРСТУФХЦЧШЩЪЫЬЭЮЯ",
     "†°Ґ£§•¶І®©™Ђђ≠Ѓѓ∞±≤≥іµґЈЄєЇїЉљЊњ",
     "јЅ¬√ƒ≈∆«»…\u00A0ЋћЌќѕ–—“”‘’÷„ЎўЏџ№Ёёя",
     "абвгдежзийклмнопрстуфхцчшщъыьэю€"]

/-- Mac Farsi. -/
def macFarsi : CodePage where
  ownName := "mac_farsi"
  otherNames := []
  high :=
    ["Ä\u00A0ÇÉÑÖÜáàâäں«çéèêëí…îïñó»ôö÷úùûü",
     " !\"#$٪&'()*+،-./۰۱۲۳۴۵۶۷۸۹:؛<=>؟",
     "❊ءآأؤإئابةتثجحخدذرزسشصضطظعغ[\\]^_",
     "ـفقكلمنهوىي\u064B\u064C\u064D\u064E\u064F\u0650\u0651\u0652پٹچەڤگڈڑ\x7b|\x7dژے"]

/-- Mac Greek. -/
def macGreek : CodePage where
  ownName := "mac_greek"
  otherNames := ["macgreek"]
  high :=
    ["Ä¹²É³ÖÜ΅àâä΄¨çéèêë£™îï•½‰ôö¦€ùûü",
     "†ΓΔΘΛΞΠß®©ΣΪ§≠°·Α±≤≥¥ΒΕΖΗΙΚΜΦΫΨΩ",
     "άΝ¬ΟΡ≈Τ«»…\u00A0ΥΧΆΈœ–―“”‘’÷ΉΊΌΎέήίόΏ",
     "ύαβψδεφγηιξκλμνοπώρστθωςχυζϊϋΐΰ\u00AD"]

/-- Mac Icelandic. -/
def macIcelandic : CodePage where
  ownName := "mac_iceland"
  otherNames := ["maciceland"]
  high :=
    ["ÄÅÇÉÑÖÜáàâäãåçéèêëíìîïñóòôöõúùûü",
     "Ý°¢£§•¶ß®©™´¨≠ÆØ∞±≤≥¥µ∂∑∏π∫ªºΩæø",
     "¿¡¬√ƒ≈∆«»…\u00A0ÀÃÕŒœ–—“”‘’÷◊ÿŸ⁄€ÐðÞþ",
     "ý·‚„‰ÂÊÁËÈÍÎÏÌÓÔ\uF8FFÒÚÛÙıˆ˜¯˘˙˚¸˝˛ˇ"]

/-- Mac Central European. -/
def macCentralEuropean : CodePage where
  ownName := "mac_latin2"
  otherNames := ["maccentraleurope", "mac_centeuro", "maclatin2"]
  high :=
    ["ÄĀāÉĄÖÜáąČäčĆćéŹźĎíďĒēĖóėôöõúĚěü",
     "†°Ę£§•¶ß®©™ę¨≠ģĮįĪ≤≥īĶ∂∑łĻļĽľĹĺŅ",
     "ņŃ¬√ńŇ∆«»…\u00A0ňŐÕőŌ–—“”‘’÷◊ōŔŕŘ‹›řŖ",
     "ŗŠ‚„šŚśÁŤťÍŽžŪÓÔūŮÚůŰűŲųÝýķŻŁżĢˇ"]

/-- Mac Romanian. -/
def macRomanian : CodePage where
  ownName := "mac_romanian"
  otherNames := []
  high :=
    ["ÄÅÇÉÑÖÜáàâäãåçéèêëíìîïñóòôöõúùûü",
     "†°¢£§•¶ß®©™´¨≠ĂȘ∞±≤≥¥µ∂∑∏π∫ªºΩăș",
     "¿¡¬√ƒ≈∆«»…\u00A0ÀÃÕŒœ–—“”‘’÷◊ÿŸ⁄€‹›Țț",
     "‡·‚„‰ÂÊÁËÈÍÎÏÌÓÔ\uF8FFÒÚÛÙıˆ˜¯˘˙˚¸˝˛ˇ"]

/-- Mac Turkish. -/
def macTurkish : CodePage where
  ownName := "mac_turkish"
  otherNames := ["macturkish"]
  high :=
    ["ÄÅÇÉÑÖÜáàâäãåçéèêëíìîïñóòôöõúùûü",
     "†°¢£§•¶ß®©™´¨≠ÆØ∞±≤≥¥µ∂∑∏π∫ªºΩæø",
     "¿¡¬√ƒ≈∆«»…\u00A0ÀÃÕŒœ–—“”‘’÷◊ÿŸĞğİıŞş",
     "‡·‚„‰ÂÊÁËÈÍÎÏÌÓÔ\uF8FFÒÚÛÙ\uF8A0ˆ˜¯˘˙˚¸˝˛ˇ"]

/-- All of them. -/
def macintosh : List CodePage :=
  [macRoman, macArabic, macCroatian, macCyrillic, macFarsi, macGreek, macIcelandic,
   macCentralEuropean, macRomanian, macTurkish]

end CodePage

end SnippetReview
