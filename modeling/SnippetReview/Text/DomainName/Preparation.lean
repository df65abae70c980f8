import SnippetReview.Numeral.Digit
import SnippetReview.Text.UpperCase
import SnippetReview.Text.Word

/-!
# Prepared labels

The labels of domain names are prepared before they are compared: letters become small ones,
compatibility characters plain ones, and characters that are not seen are left out. A label is
prepared if this leaves it as it is. Marks that can become one character with a letter before them
are taken to do so.
-/

set_option maxRecDepth 4000

namespace SnippetReview

namespace DomainName

/-- The code points of characters besides capital letters that preparation changes or forbids. -/
def unpreparedRanges : CodeRanges :=
  [(0x80, 0xA0), (0xA8, 0xA8), (0xAA, 0xAA), (0xAD, 0xAD), (0xAF, 0xAF), (0xB2, 0xB5),
   (0xB8, 0xBA), (0xBC, 0xBE), (0xDF, 0xDF), (0x130, 0x130), (0x133, 0x133), (0x140, 0x140),
   (0x149, 0x149), (0x17F, 0x17F), (0x1C5, 0x1CC), (0x1F2, 0x1F3), (0x2B0, 0x2B8), (0x2D8, 0x2DD),
   (0x2E0, 0x2E4), (0x300, 0x304), (0x306, 0x30C), (0x30F, 0x30F), (0x311, 0x311), (0x313, 0x314),
   (0x31B, 0x31B), (0x323, 0x328), (0x32D, 0x32E), (0x330, 0x331), (0x338, 0x338), (0x340, 0x345),
   (0x34F, 0x34F), (0x374, 0x374), (0x37A, 0x37A), (0x37E, 0x37E), (0x384, 0x387), (0x3C2, 0x3C2),
   (0x3D0, 0x3D6), (0x3F0, 0x3F2), (0x3F4, 0x3F5), (0x587, 0x587), (0x653, 0x655), (0x675, 0x678),
   (0x6DD, 0x6DD), (0x70F, 0x70F), (0x93C, 0x93C), (0x958, 0x95F), (0x9BE, 0x9BE), (0x9D7, 0x9D7),
   (0x9DC, 0x9DD), (0x9DF, 0x9DF), (0xA33, 0xA33), (0xA36, 0xA36), (0xA59, 0xA5B), (0xA5E, 0xA5E),
   (0xB3E, 0xB3E), (0xB56, 0xB57), (0xB5C, 0xB5D), (0xBBE, 0xBBE), (0xBD7, 0xBD7), (0xC56, 0xC56),
   (0xCC2, 0xCC2), (0xCD5, 0xCD6), (0xD3E, 0xD3E), (0xD57, 0xD57), (0xDCA, 0xDCA), (0xDCF, 0xDCF),
   (0xDDF, 0xDDF), (0xE33, 0xE33), (0xEB3, 0xEB3), (0xEDC, 0xEDD), (0xF0C, 0xF0C), (0xF43, 0xF43),
   (0xF4D, 0xF4D), (0xF52, 0xF52), (0xF57, 0xF57), (0xF5C, 0xF5C), (0xF69, 0xF69), (0xF73, 0xF73),
   (0xF75, 0xF79), (0xF81, 0xF81), (0xF93, 0xF93), (0xF9D, 0xF9D), (0xFA2, 0xFA2), (0xFA7, 0xFA7),
   (0xFAC, 0xFAC), (0xFB9, 0xFB9), (0x102E, 0x102E), (0x1161, 0x1175), (0x11A8, 0x11C2),
   (0x1680, 0x1680), (0x1806, 0x1806), (0x180B, 0x180E), (0x1E9A, 0x1E9B), (0x1E9E, 0x1E9E),
   (0x1F71, 0x1F71), (0x1F73, 0x1F73), (0x1F75, 0x1F75), (0x1F77, 0x1F77), (0x1F79, 0x1F79),
   (0x1F7B, 0x1F7B), (0x1F7D, 0x1F7D), (0x1F80, 0x1FAF), (0x1FB2, 0x1FB4), (0x1FB7, 0x1FC4),
   (0x1FC7, 0x1FCF), (0x1FD3, 0x1FD3), (0x1FDD, 0x1FDF), (0x1FE3, 0x1FE3), (0x1FED, 0x1FEF),
   (0x1FF2, 0x1FF4), (0x1FF7, 0x1FFE), (0x2000, 0x200F), (0x2011, 0x2011), (0x2017, 0x2017),
   (0x2024, 0x2026), (0x2028, 0x202F), (0x2033, 0x2034), (0x2036, 0x2037), (0x203C, 0x203C),
   (0x203E, 0x203E), (0x2047, 0x2049), (0x2057, 0x2057), (0x205F, 0x2063), (0x206A, 0x2071),
   (0x2074, 0x208E), (0x20A8, 0x20A8), (0x2100, 0x2103), (0x2105, 0x2107), (0x2109, 0x2113),
   (0x2115, 0x2116), (0x2119, 0x211D), (0x2120, 0x2122), (0x2124, 0x2124), (0x2126, 0x2126),
   (0x2128, 0x2128), (0x212A, 0x212D), (0x212F, 0x2139), (0x213D, 0x2140), (0x2145, 0x2149),
   (0x2153, 0x217F), (0x222C, 0x222D), (0x222F, 0x2230), (0x2329, 0x232A), (0x2460, 0x24EA),
   (0x2A0C, 0x2A0C), (0x2A74, 0x2A76), (0x2ADC, 0x2ADC), (0x2E9F, 0x2E9F), (0x2EF3, 0x2EF3),
   (0x2F00, 0x2FD5), (0x2FF0, 0x2FFB), (0x3000, 0x3000), (0x3036, 0x3036), (0x3038, 0x303A),
   (0x3099, 0x309C), (0x309F, 0x309F), (0x30FF, 0x30FF), (0x3131, 0x318E), (0x3192, 0x319F),
   (0x3200, 0x321C), (0x3220, 0x3243), (0x3251, 0x327B), (0x3280, 0x32CB), (0x32D0, 0x32FE),
   (0x3300, 0x3376), (0x337B, 0x33DD), (0x33E0, 0x33FE), (0xE000, 0xFA0D), (0xFA10, 0xFA10),
   (0xFA12, 0xFA12), (0xFA15, 0xFA1E), (0xFA20, 0xFA20), (0xFA22, 0xFA22), (0xFA25, 0xFA26),
   (0xFA2A, 0xFA2D), (0xFA30, 0xFA6A), (0xFB00, 0xFB06), (0xFB13, 0xFB17), (0xFB1D, 0xFB1D),
   (0xFB1F, 0xFB36), (0xFB38, 0xFB3C), (0xFB3E, 0xFB3E), (0xFB40, 0xFB41), (0xFB43, 0xFB44),
   (0xFB46, 0xFBB1), (0xFBD3, 0xFD3D), (0xFD50, 0xFD8F), (0xFD92, 0xFDC7), (0xFDD0, 0xFDFC),
   (0xFE00, 0xFE0F), (0xFE30, 0xFE44), (0xFE49, 0xFE52), (0xFE54, 0xFE66), (0xFE68, 0xFE6B),
   (0xFE70, 0xFE72), (0xFE74, 0xFE74), (0xFE76, 0xFEFC), (0xFEFF, 0xFEFF), (0xFF01, 0xFFBE),
   (0xFFC2, 0xFFC7), (0xFFCA, 0xFFCF), (0xFFD2, 0xFFD7), (0xFFDA, 0xFFDC), (0xFFE0, 0xFFE6),
   (0xFFE8, 0xFFEE), (0xFFF9, 0xFFFF), (0x1D15E, 0x1D164), (0x1D173, 0x1D17A), (0x1D1BB, 0x1D1C0),
   (0x1D400, 0x1D454), (0x1D456, 0x1D49C), (0x1D49E, 0x1D49F), (0x1D4A2, 0x1D4A2),
   (0x1D4A5, 0x1D4A6), (0x1D4A9, 0x1D4AC), (0x1D4AE, 0x1D4B9), (0x1D4BB, 0x1D4BB),
   (0x1D4BD, 0x1D4C0), (0x1D4C2, 0x1D4C3), (0x1D4C5, 0x1D505), (0x1D507, 0x1D50A),
   (0x1D50D, 0x1D514), (0x1D516, 0x1D51C), (0x1D51E, 0x1D539), (0x1D53B, 0x1D53E),
   (0x1D540, 0x1D544), (0x1D546, 0x1D546), (0x1D54A, 0x1D550), (0x1D552, 0x1D6A3),
   (0x1D6A8, 0x1D7C9), (0x1D7CE, 0x1D7FF), (0x1FFFE, 0x1FFFF), (0x2F800, 0x2FA1D),
   (0x2FFFE, 0x2FFFF), (0x3FFFE, 0x3FFFF), (0x4FFFE, 0x4FFFF), (0x5FFFE, 0x5FFFF),
   (0x6FFFE, 0x6FFFF), (0x7FFFE, 0x7FFFF), (0x8FFFE, 0x8FFFF), (0x9FFFE, 0x9FFFF),
   (0xAFFFE, 0xAFFFF), (0xBFFFE, 0xBFFFF), (0xCFFFE, 0xCFFFF), (0xDFFFE, 0xDFFFF),
   (0xE0001, 0xE0001), (0xE0020, 0xE007F), (0xEFFFE, 0x10FFFF)]

/-- The code points of letters that are written from right to left. -/
def rightToLeftRanges : CodeRanges :=
  [(0x5BE, 0x5BE), (0x5C0, 0x5C0), (0x5C3, 0x5C3), (0x5D0, 0x5EA), (0x5F0, 0x5F4), (0x61B, 0x61B),
   (0x61F, 0x61F), (0x621, 0x63A), (0x640, 0x64A), (0x66D, 0x66F), (0x671, 0x674), (0x679, 0x6D5),
   (0x6E5, 0x6E6), (0x6FA, 0x6FE), (0x700, 0x70D), (0x710, 0x710), (0x712, 0x72C), (0x780, 0x7A5),
   (0x7B1, 0x7B1), (0xFE73, 0xFE73)]

/-- Whether a character is a capital letter outside ASCII. -/
def isCapital (c : Char) : Bool :=
  let n : Int := c.toNat
  0x80 ≤ n && upperRuns.any fun r =>
    r.first + r.shift ≤ n && n ≤ r.last + r.shift && (n - r.shift - r.first) % r.step == 0

/-- Whether preparation leaves a character as it is. -/
def isPreparedChar (c : Char) : Bool := !isCapital c && !unpreparedRanges.covers c.toNat

/-- Whether a character is a letter that is written from right to left. -/
def isRightToLeft (c : Char) : Bool := rightToLeftRanges.covers c.toNat

/-- Whether a character is a letter that is written from left to right. -/
def isLeftToRight (c : Char) : Bool :=
  isWord c && c != '_' && (digitValue? c).isNone && !isRightToLeft c

/-- Whether letters of the two directions stand apart: a label that has one from right to left
begins and ends with such a letter, and has none from left to right. -/
def hasOneDirection (s : Text) : Bool :=
  !s.any isRightToLeft
    || (s.head?.any isRightToLeft && s.getLast?.any isRightToLeft && !s.any isLeftToRight)

/-- Whether a label is prepared, apart from the ASCII letters in it. -/
def isPrepared (s : Text) : Bool := s.all isPreparedChar && hasOneDirection s

end DomainName

end SnippetReview
