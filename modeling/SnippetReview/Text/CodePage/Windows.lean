import SnippetReview.Text.CodePage.Basic

/-!
# Code pages of Windows

The code pages of Windows: ASCII below, letters of one or more scripts above.
-/

namespace SnippetReview

namespace CodePage

/-- Windows code page 874, for Thai. -/
def cp874 : CodePage where
  ownName := "cp874"
  otherNames := []
  high :=
    ["€����…�����������‘’“”•–—��������",
     "\u00A0กขฃคฅฆงจฉชซฌญฎฏฐฑฒณดตถทธนบปผฝพฟ",
     "ภมยรฤลฦวศษสหฬอฮฯะ\u0E31าำ\u0E34\u0E35\u0E36\u0E37\u0E38\u0E39\u0E3A����฿",
     "เแโใไๅๆ\u0E47\u0E48\u0E49\u0E4A\u0E4B\u0E4C\u0E4D\u0E4E๏๐๑๒๓๔๕๖๗๘๙๚๛����"]

/-- Windows code page 1250. -/
def cp1250 : CodePage where
  ownName := "cp1250"
  otherNames := ["1250", "windows_1250"]
  high :=
    ["€�‚�„…†‡�‰Š‹ŚŤŽŹ�‘’“”•–—�™š›śťžź",
     "\u00A0ˇ˘Ł¤Ą¦§¨©Ş«¬\u00AD®Ż°±˛ł´µ¶·¸ąş»Ľ˝ľż",
     "ŔÁÂĂÄĹĆÇČÉĘËĚÍÎĎĐŃŇÓÔŐÖ×ŘŮÚŰÜÝŢß",
     "ŕáâăäĺćçčéęëěíîďđńňóôőö÷řůúűüýţ˙"]

/-- Windows code page 1251. -/
def cp1251 : CodePage where
  ownName := "cp1251"
  otherNames := ["1251", "windows_1251"]
  high :=
    ["ЂЃ‚ѓ„…†‡€‰Љ‹ЊЌЋЏђ‘’“”•–—�™љ›њќћџ",
     "\u00A0ЎўЈ¤Ґ¦§Ё©Є«¬\u00AD®Ї°±Ііґµ¶·ё№є»јЅѕї",
     "АБВГДЕЖЗИЙКЛМНОПРСТУФХЦЧШЩЪЫЬЭЮЯ",
     "абвгдежзийклмнопрстуфхцчшщъыьэюя"]

/-- Windows code page 1252. -/
def cp1252 : CodePage where
  ownName := "cp1252"
  otherNames := ["1252", "windows_1252"]
  high :=
    ["€�‚ƒ„…†‡ˆ‰Š‹Œ�Ž��‘’“”•–—˜™š›œ�žŸ",
     "\u00A0¡¢£¤¥¦§¨©ª«¬\u00AD®¯°±²³´µ¶·¸¹º»¼½¾¿",
     "ÀÁÂÃÄÅÆÇÈÉÊËÌÍÎÏÐÑÒÓÔÕÖ×ØÙÚÛÜÝÞß",
     "àáâãäåæçèéêëìíîïðñòóôõö÷øùúûüýþÿ"]

/-- Windows code page 1253. -/
def cp1253 : CodePage where
  ownName := "cp1253"
  otherNames := ["1253", "windows_1253"]
  high :=
    ["€�‚ƒ„…†‡�‰�‹�����‘’“”•–—�™�›����",
     "\u00A0΅Ά£¤¥¦§¨©�«¬\u00AD®―°±²³΄µ¶·ΈΉΊ»Ό½ΎΏ",
     "ΐΑΒΓΔΕΖΗΘΙΚΛΜΝΞΟΠΡ�ΣΤΥΦΧΨΩΪΫάέήί",
     "ΰαβγδεζηθικλμνξοπρςστυφχψωϊϋόύώ�"]

/-- Windows code page 1254. -/
def cp1254 : CodePage where
  ownName := "cp1254"
  otherNames := ["1254", "windows_1254"]
  high :=
    ["€�‚ƒ„…†‡ˆ‰Š‹Œ����‘’“”•–—˜™š›œ��Ÿ",
     "\u00A0¡¢£¤¥¦§¨©ª«¬\u00AD®¯°±²³´µ¶·¸¹º»¼½¾¿",
     "ÀÁÂÃÄÅÆÇÈÉÊËÌÍÎÏĞÑÒÓÔÕÖ×ØÙÚÛÜİŞß",
     "àáâãäåæçèéêëìíîïğñòóôõö÷øùúûüışÿ"]

/-- Windows code page 1255. -/
def cp1255 : CodePage where
  ownName := "cp1255"
  otherNames := ["1255", "windows_1255"]
  high :=
    ["€�‚ƒ„…†‡ˆ‰�‹�����‘’“”•–—˜™�›����",
     "\u00A0¡¢£₪¥¦§¨©×«¬\u00AD®¯°±²³´µ¶·¸¹÷»¼½¾¿",
     "\u05B0\u05B1\u05B2\u05B3\u05B4\u05B5\u05B6\u05B7\u05B8\u05B9�\u05BB\u05BC\u05BD־\u05BF׀",
     "\u05C1\u05C2׃װױײ׳״�������",
     "אבגדהוזחטיךכלםמןנסעףפץצקרשת��\u200E\u200F�"]

/-- Windows code page 1256. -/
def cp1256 : CodePage where
  ownName := "cp1256"
  otherNames := ["1256", "windows_1256"]
  high :=
    ["€پ‚ƒ„…†‡ˆ‰ٹ‹Œچژڈگ‘’“”•–—ک™ڑ›œ\u200C\u200Dں",
     "\u00A0،¢£¤¥¦§¨©ھ«¬\u00AD®¯°±²³´µ¶·¸¹؛»¼½¾؟",
     "ہءآأؤإئابةتثجحخدذرزسشصض×طظعغـفقك",
     "àلâمنهوçèéêëىيîï\u064B\u064C\u064D\u064Eô\u064F\u0650÷\u0651ù\u0652ûü\u200E\u200Fے"]

/-- Windows code page 1257. -/
def cp1257 : CodePage where
  ownName := "cp1257"
  otherNames := ["1257", "windows_1257"]
  high :=
    ["€�‚�„…†‡�‰�‹�¨ˇ¸�‘’“”•–—�™�›�¯˛�",
     "\u00A0�¢£¤�¦§Ø©Ŗ«¬\u00AD®Æ°±²³´µ¶·ø¹ŗ»¼½¾æ",
     "ĄĮĀĆÄÅĘĒČÉŹĖĢĶĪĻŠŃŅÓŌÕÖ×ŲŁŚŪÜŻŽß",
     "ąįāćäåęēčéźėģķīļšńņóōõö÷ųłśūüżž˙"]

/-- Windows code page 1258. -/
def cp1258 : CodePage where
  ownName := "cp1258"
  otherNames := ["1258", "windows_1258"]
  high :=
    ["€�‚ƒ„…†‡ˆ‰�‹Œ����‘’“”•–—˜™�›œ��Ÿ",
     "\u00A0¡¢£¤¥¦§¨©ª«¬\u00AD®¯°±²³´µ¶·¸¹º»¼½¾¿",
     "ÀÁÂĂÄÅÆÇÈÉÊË\u0300ÍÎÏĐÑ\u0309ÓÔƠÖ×ØÙÚÛÜƯ\u0303ß",
     "àáâăäåæçèéêë\u0301íîïđñ\u0323óôơö÷øùúûüư₫ÿ"]

/-- All of them. -/
def windows : List CodePage :=
  [cp874, cp1250, cp1251, cp1252, cp1253, cp1254, cp1255, cp1256, cp1257, cp1258]

end CodePage

end SnippetReview
