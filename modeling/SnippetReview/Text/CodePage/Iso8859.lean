import SnippetReview.Text.CodePage.Basic

/-!
# ISO 8859

The parts of ISO 8859, apart from the first, whose characters have their bytes as code points.
-/

namespace SnippetReview

namespace CodePage

/-- ISO 8859-2. -/
def iso8859Part2 : CodePage where
  ownName := "iso8859_2"
  otherNames := ["csisolatin2", "iso_8859_2", "iso_8859_2_1987", "iso_ir_101", "l2", "latin2"]
  high :=
    [controls,
     "\u00A0Ą˘Ł¤ĽŚ§¨ŠŞŤŹ\u00ADŽŻ°ą˛ł´ľśˇ¸šşťź˝žż",
     "ŔÁÂĂÄĹĆÇČÉĘËĚÍÎĎĐŃŇÓÔŐÖ×ŘŮÚŰÜÝŢß",
     "ŕáâăäĺćçčéęëěíîďđńňóôőö÷řůúűüýţ˙"]

/-- ISO 8859-3. -/
def iso8859Part3 : CodePage where
  ownName := "iso8859_3"
  otherNames := ["csisolatin3", "iso_8859_3", "iso_8859_3_1988", "iso_ir_109", "l3", "latin3"]
  high :=
    [controls,
     "\u00A0Ħ˘£¤�Ĥ§¨İŞĞĴ\u00AD�Ż°ħ²³´µĥ·¸ışğĵ½�ż",
     "ÀÁÂ�ÄĊĈÇÈÉÊËÌÍÎÏ�ÑÒÓÔĠÖ×ĜÙÚÛÜŬŜß",
     "àáâ�äċĉçèéêëìíîï�ñòóôġö÷ĝùúûüŭŝ˙"]

/-- ISO 8859-4. -/
def iso8859Part4 : CodePage where
  ownName := "iso8859_4"
  otherNames := ["csisolatin4", "iso_8859_4", "iso_8859_4_1988", "iso_ir_110", "l4", "latin4"]
  high :=
    [controls,
     "\u00A0ĄĸŖ¤ĨĻ§¨ŠĒĢŦ\u00ADŽ¯°ą˛ŗ´ĩļˇ¸šēģŧŊžŋ",
     "ĀÁÂÃÄÅÆĮČÉĘËĖÍÎĪĐŅŌĶÔÕÖ×ØŲÚÛÜŨŪß",
     "āáâãäåæįčéęëėíîīđņōķôõö÷øųúûüũū˙"]

/-- ISO 8859-5. -/
def iso8859Part5 : CodePage where
  ownName := "iso8859_5"
  otherNames := ["csisolatincyrillic", "cyrillic", "iso_8859_5", "iso_8859_5_1988", "iso_ir_144"]
  high :=
    [controls,
     "\u00A0ЁЂЃЄЅІЇЈЉЊЋЌ\u00ADЎЏАБВГДЕЖЗИЙКЛМНОП",
     "РСТУФХЦЧШЩЪЫЬЭЮЯабвгдежзийклмноп",
     "рстуфхцчшщъыьэюя№ёђѓєѕіїјљњћќ§ўџ"]

/-- ISO 8859-6. -/
def iso8859Part6 : CodePage where
  ownName := "iso8859_6"
  otherNames := ["arabic", "asmo_708", "csisolatinarabic", "ecma_114", "iso_8859_6",
    "iso_8859_6_1987", "iso_ir_127"]
  high :=
    [controls,
     "\u00A0���¤�������،\u00AD�������������؛���؟",
     "�ءآأؤإئابةتثجحخدذرزسشصضطظعغ�����",
     "ـفقكلمنهوىي\u064B\u064C\u064D\u064E\u064F\u0650\u0651\u0652�������������"]

/-- ISO 8859-7. -/
def iso8859Part7 : CodePage where
  ownName := "iso8859_7"
  otherNames := ["csisolatingreek", "ecma_118", "elot_928", "greek", "greek8", "iso_8859_7",
    "iso_8859_7_1987", "iso_ir_126"]
  high :=
    [controls,
     "\u00A0‘’£€₯¦§¨©ͺ«¬\u00AD�―°±²³΄΅Ά·ΈΉΊ»Ό½ΎΏ",
     "ΐΑΒΓΔΕΖΗΘΙΚΛΜΝΞΟΠΡ�ΣΤΥΦΧΨΩΪΫάέήί",
     "ΰαβγδεζηθικλμνξοπρςστυφχψωϊϋόύώ�"]

/-- ISO 8859-8. -/
def iso8859Part8 : CodePage where
  ownName := "iso8859_8"
  otherNames := ["csisolatinhebrew", "hebrew", "iso_8859_8", "iso_8859_8_1988", "iso_ir_138"]
  high :=
    [controls,
     "\u00A0�¢£¤¥¦§¨©×«¬\u00AD®¯°±²³´µ¶·¸¹÷»¼½¾�",
     "�������������������������������‗",
     "אבגדהוזחטיךכלםמןנסעףפץצקרשת��\u200E\u200F�"]

/-- ISO 8859-9. -/
def iso8859Part9 : CodePage where
  ownName := "iso8859_9"
  otherNames := ["csisolatin5", "iso_8859_9", "iso_8859_9_1989", "iso_ir_148", "l5", "latin5"]
  high :=
    [controls,
     "\u00A0¡¢£¤¥¦§¨©ª«¬\u00AD®¯°±²³´µ¶·¸¹º»¼½¾¿",
     "ÀÁÂÃÄÅÆÇÈÉÊËÌÍÎÏĞÑÒÓÔÕÖ×ØÙÚÛÜİŞß",
     "àáâãäåæçèéêëìíîïğñòóôõö÷øùúûüışÿ"]

/-- ISO 8859-10. -/
def iso8859Part10 : CodePage where
  ownName := "iso8859_10"
  otherNames := ["csisolatin6", "iso_8859_10", "iso_8859_10_1992", "iso_ir_157", "l6", "latin6"]
  high :=
    [controls,
     "\u00A0ĄĒĢĪĨĶ§ĻĐŠŦŽ\u00ADŪŊ°ąēģīĩķ·ļđšŧž―ūŋ",
     "ĀÁÂÃÄÅÆĮČÉĘËĖÍÎÏÐŅŌÓÔÕÖŨØŲÚÛÜÝÞß",
     "āáâãäåæįčéęëėíîïðņōóôõöũøųúûüýþĸ"]

/-- ISO 8859-11. -/
def iso8859Part11 : CodePage where
  ownName := "iso8859_11"
  otherNames := ["thai", "iso_8859_11", "iso_8859_11_2001"]
  high :=
    [controls,
     "\u00A0กขฃคฅฆงจฉชซฌญฎฏฐฑฒณดตถทธนบปผฝพฟ",
     "ภมยรฤลฦวศษสหฬอฮฯะ\u0E31าำ\u0E34\u0E35\u0E36\u0E37\u0E38\u0E39\u0E3A����฿",
     "เแโใไๅๆ\u0E47\u0E48\u0E49\u0E4A\u0E4B\u0E4C\u0E4D\u0E4E๏๐๑๒๓๔๕๖๗๘๙๚๛����"]

/-- ISO 8859-13. -/
def iso8859Part13 : CodePage where
  ownName := "iso8859_13"
  otherNames := ["iso_8859_13", "l7", "latin7"]
  high :=
    [controls,
     "\u00A0”¢£¤„¦§Ø©Ŗ«¬\u00AD®Æ°±²³“µ¶·ø¹ŗ»¼½¾æ",
     "ĄĮĀĆÄÅĘĒČÉŹĖĢĶĪĻŠŃŅÓŌÕÖ×ŲŁŚŪÜŻŽß",
     "ąįāćäåęēčéźėģķīļšńņóōõö÷ųłśūüżž’"]

/-- ISO 8859-14. -/
def iso8859Part14 : CodePage where
  ownName := "iso8859_14"
  otherNames := ["iso_8859_14", "iso_8859_14_1998", "iso_celtic", "iso_ir_199", "l8", "latin8"]
  high :=
    [controls,
     "\u00A0Ḃḃ£ĊċḊ§Ẁ©ẂḋỲ\u00AD®ŸḞḟĠġṀṁ¶ṖẁṗẃṠỳẄẅṡ",
     "ÀÁÂÃÄÅÆÇÈÉÊËÌÍÎÏŴÑÒÓÔÕÖṪØÙÚÛÜÝŶß",
     "àáâãäåæçèéêëìíîïŵñòóôõöṫøùúûüýŷÿ"]

/-- ISO 8859-15. -/
def iso8859Part15 : CodePage where
  ownName := "iso8859_15"
  otherNames := ["iso_8859_15", "l9", "latin9"]
  high :=
    [controls,
     "\u00A0¡¢£€¥Š§š©ª«¬\u00AD®¯°±²³Žµ¶·ž¹º»ŒœŸ¿",
     "ÀÁÂÃÄÅÆÇÈÉÊËÌÍÎÏÐÑÒÓÔÕÖ×ØÙÚÛÜÝÞß",
     "àáâãäåæçèéêëìíîïðñòóôõö÷øùúûüýþÿ"]

/-- ISO 8859-16. -/
def iso8859Part16 : CodePage where
  ownName := "iso8859_16"
  otherNames := ["iso_8859_16", "iso_8859_16_2001", "iso_ir_226", "l10", "latin10"]
  high :=
    [controls,
     "\u00A0ĄąŁ€„Š§š©Ș«Ź\u00ADźŻ°±ČłŽ”¶·žčș»ŒœŸż",
     "ÀÁÂĂÄĆÆÇÈÉÊËÌÍÎÏĐŃÒÓÔŐÖŚŰÙÚÛÜĘȚß",
     "àáâăäćæçèéêëìíîïđńòóôőöśűùúûüęțÿ"]

/-- All of them. -/
def iso8859 : List CodePage :=
  [iso8859Part2, iso8859Part3, iso8859Part4, iso8859Part5, iso8859Part6, iso8859Part7,
   iso8859Part8, iso8859Part9, iso8859Part10, iso8859Part11, iso8859Part13, iso8859Part14,
   iso8859Part15, iso8859Part16]

end CodePage

end SnippetReview
