import SnippetReview.Text.CodePage.Basic

/-!
# EBCDIC

The code pages of mainframes, in which letters and digits stand at other places than in ASCII.
-/

namespace SnippetReview

namespace CodePage

/-- The control characters from 0 to 63. -/
def ebcdicControls : List String :=
  ["\u0000\u0001\u0002\u0003\u009C\u0009\u0086\u007F\u0097\u008D\u008E\u000B\u000C\u000D",
   "\u000E\u000F\u0010\u0011\u0012\u0013\u009D\u0085\u0008\u0087\u0018\u0019\u0092\u008F",
   "\u001C\u001D\u001E\u001F\u0080\u0081\u0082\u0083\u0084\u000A\u0017\u001B\u0088\u0089",
   "\u008A\u008B\u008C\u0005\u0006\u0007\u0090\u0091\u0016\u0093\u0094\u0095\u0096\u0004",
   "\u0098\u0099\u009A\u009B\u0014\u0015\u009E\u001A"]

/-- EBCDIC code page 037. -/
def cp037 : CodePage where
  ownName := "cp037"
  otherNames := ["037", "csibm037", "ebcdic_cp_ca", "ebcdic_cp_nl", "ebcdic_cp_us",
    "ebcdic_cp_wt", "ibm037", "ibm039"]
  low :=
    ebcdicControls ++
      [" \u00A0âäàáãåçñ¢.<(+|&éêëèíîïìß!$*);¬",
       "-\x2fÂÄÀÁÃÅÇÑ¦,%_>?øÉÊËÈÍÎÏÌ`:#@'=\""]
  high :=
    ["Øabcdefghi«»ðýþ±°jklmnopqrªºæ¸Æ¤",
     "µ~stuvwxyz¡¿ÐÝÞ®^£¥·©§¶¼½¾[]¯¨´×",
     "\x7bABCDEFGHI\u00ADôöòóõ\x7dJKLMNOPQR¹ûüùúÿ",
     "\\÷STUVWXYZ²ÔÖÒÓÕ0123456789³ÛÜÙÚ\u009F"]

/-- EBCDIC code page 273, for German. -/
def cp273 : CodePage where
  ownName := "cp273"
  otherNames := ["273", "ibm273", "csibm273"]
  low :=
    ebcdicControls ++
      [" \u00A0â\x7bàáãåçñÄ.<(+!&éêëèíîïì~Ü$*);^",
       "-\x2fÂ[ÀÁÃÅÇÑö,%_>?øÉÊËÈÍÎÏÌ`:#§'=\""]
  high :=
    ["Øabcdefghi«»ðýþ±°jklmnopqrªºæ¸Æ¤",
     "µßstuvwxyz¡¿ÐÝÞ®¢£¥·©@¶¼½¾¬|‾¨´×",
     "äABCDEFGHI\u00ADô¦òóõüJKLMNOPQR¹û\x7dùúÿ",
     "Ö÷STUVWXYZ²Ô\\ÒÓÕ0123456789³Û]ÙÚ\u009F"]

/-- EBCDIC code page 424, for Hebrew. -/
def cp424 : CodePage where
  ownName := "cp424"
  otherNames := ["424", "csibm424", "ebcdic_cp_he", "ibm424"]
  low :=
    ebcdicControls ++
      [" אבגדהוזחט¢.<(+|&יךכלםמןנס!$*);¬",
       "-\x2fעףפץצקרש¦,%_>?�ת��\u00A0���‗`:#@'=\""]
  high :=
    ["�abcdefghi«»���±°jklmnopqr���¸�¤",
     "µ~stuvwxyz�����®^£¥·©§¶¼½¾[]¯¨´×",
     "\x7bABCDEFGHI\u00AD�����\x7dJKLMNOPQR¹�����",
     "\\÷STUVWXYZ²�����0123456789³����\u009F"]

/-- EBCDIC code page 500. -/
def cp500 : CodePage where
  ownName := "cp500"
  otherNames := ["500", "csibm500", "ebcdic_cp_be", "ebcdic_cp_ch", "ibm500"]
  low :=
    ebcdicControls ++
      [" \u00A0âäàáãåçñ[.<(+!&éêëèíîïìß]$*);^",
       "-\x2fÂÄÀÁÃÅÇÑ¦,%_>?øÉÊËÈÍÎÏÌ`:#@'=\""]
  high :=
    ["Øabcdefghi«»ðýþ±°jklmnopqrªºæ¸Æ¤",
     "µ~stuvwxyz¡¿ÐÝÞ®¢£¥·©§¶¼½¾¬|¯¨´×",
     "\x7bABCDEFGHI\u00ADôöòóõ\x7dJKLMNOPQR¹ûüùúÿ",
     "\\÷STUVWXYZ²ÔÖÒÓÕ0123456789³ÛÜÙÚ\u009F"]

/-- EBCDIC code page 875, for Greek. -/
def cp875 : CodePage where
  ownName := "cp875"
  otherNames := []
  low :=
    ebcdicControls ++
      [" ΑΒΓΔΕΖΗΘΙ[.<(+!&ΚΛΜΝΞΟΠΡΣ]$*);^",
       "-\x2fΤΥΦΧΨΩΪΫ|,%_>?¨ΆΈΉ\u00A0ΊΌΎΏ`:#@'=\""]
  high :=
    ["΅abcdefghiαβγδεζ°jklmnopqrηθικλμ",
     "´~stuvwxyzνξοπρσ£άέήϊίόύϋώςτυφχψ",
     "\x7bABCDEFGHI\u00ADωΐΰ‘―\x7dJKLMNOPQR±½\u001A·’¦",
     "\\\u001ASTUVWXYZ²§\u001A\u001A«¬0123456789³©\u001A\u001A»\u009F"]

/-- EBCDIC code page 1026, for Turkish. -/
def cp1026 : CodePage where
  ownName := "cp1026"
  otherNames := ["1026", "csibm1026", "ibm1026"]
  low :=
    ebcdicControls ++
      [" \u00A0âäàáãå\x7bñÇ.<(+!&éêëèíîïìßĞİ*);^",
       "-\x2fÂÄÀÁÃÅ[Ñş,%_>?øÉÊËÈÍÎÏÌı:ÖŞ'=Ü"]
  high :=
    ["Øabcdefghi«»\x7d`¦±°jklmnopqrªºæ¸Æ¤",
     "µöstuvwxyz¡¿]$@®¢£¥·©§¶¼½¾¬|¯¨´×",
     "çABCDEFGHI\u00ADô~òóõğJKLMNOPQR¹û\\ùúÿ",
     "ü÷STUVWXYZ²Ô#ÒÓÕ0123456789³Û\"ÙÚ\u009F"]

/-- EBCDIC code page 1140, which is 037 with the euro sign. -/
def cp1140 : CodePage where
  ownName := "cp1140"
  otherNames := ["1140", "ibm1140"]
  low :=
    ebcdicControls ++
      [" \u00A0âäàáãåçñ¢.<(+|&éêëèíîïìß!$*);¬",
       "-\x2fÂÄÀÁÃÅÇÑ¦,%_>?øÉÊËÈÍÎÏÌ`:#@'=\""]
  high :=
    ["Øabcdefghi«»ðýþ±°jklmnopqrªºæ¸Æ€",
     "µ~stuvwxyz¡¿ÐÝÞ®^£¥·©§¶¼½¾[]¯¨´×",
     "\x7bABCDEFGHI\u00ADôöòóõ\x7dJKLMNOPQR¹ûüùúÿ",
     "\\÷STUVWXYZ²ÔÖÒÓÕ0123456789³ÛÜÙÚ\u009F"]

/-- All of them. -/
def ebcdic : List CodePage :=
  [cp037, cp273, cp424, cp500, cp875, cp1026, cp1140]

end CodePage

end SnippetReview
