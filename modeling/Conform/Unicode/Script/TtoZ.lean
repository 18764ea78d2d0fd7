/-
The scripts with names from T to Z.
-/
import Conform.Unicode.Script.Basic

namespace Conform.Unicode

open Text

namespace Script

def tagalog : Script where
  names := ["Tagalog", "Tglg"]
  own := .ofRanges [(0x1700, 0x1715), (0x171f, 0x171f)]
  shared := .ofRanges [(0x1735, 0x1736)]

def tagbanwa : Script where
  names := ["Tagbanwa", "Tagb"]
  own := .ofRanges [(0x1760, 0x176c), (0x176e, 0x1770), (0x1772, 0x1773)]
  shared := .ofRanges [(0x1735, 0x1736)]

def taiLe : Script where
  names := ["Tai_Le", "Tale"]
  own := .ofRanges [(0x1950, 0x196d), (0x1970, 0x1974)]
  shared := .ofRanges [(0x300, 0x301), (0x307, 0x308), (0x30c, 0x30c), (0x1040, 0x1049)]

def taiTham : Script where
  names := ["Tai_Tham", "Lana"]
  own := .ofRanges [(0x1a20, 0x1a5e), (0x1a60, 0x1a7c), (0x1a7f, 0x1a89), (0x1a90, 0x1a99),
      (0x1aa0, 0x1aad)]

def taiViet : Script where
  names := ["Tai_Viet", "Tavt"]
  own := .ofRanges [(0xaa80, 0xaac2), (0xaadb, 0xaadf)]

def takri : Script where
  names := ["Takri", "Takr"]
  own := .ofRanges [(0x11680, 0x116b9), (0x116c0, 0x116c9)]
  shared := .ofRanges [(0x964, 0x965), (0xa830, 0xa839)]

def tamil : Script where
  names := ["Tamil", "Taml"]
  own := .ofRanges [(0xb82, 0xb83), (0xb85, 0xb8a), (0xb8e, 0xb90), (0xb92, 0xb95),
      (0xb99, 0xb9a), (0xb9c, 0xb9c), (0xb9e, 0xb9f), (0xba3, 0xba4), (0xba8, 0xbaa),
      (0xbae, 0xbb9), (0xbbe, 0xbc2), (0xbc6, 0xbc8), (0xbca, 0xbcd), (0xbd0, 0xbd0),
      (0xbd7, 0xbd7), (0xbe6, 0xbfa), (0x11fc0, 0x11ff1), (0x11fff, 0x11fff)]
  shared := .ofRanges [(0x951, 0x952), (0x964, 0x965), (0x1cda, 0x1cda), (0xa8f3, 0xa8f3),
      (0x11301, 0x11301), (0x11303, 0x11303), (0x1133b, 0x1133c)]

def tangsa : Script where
  names := ["Tangsa", "Tnsa"]
  own := .ofRanges [(0x16a70, 0x16abe), (0x16ac0, 0x16ac9)]

def tangut : Script where
  names := ["Tangut", "Tang"]
  own := .ofRanges [(0x16fe0, 0x16fe0), (0x17000, 0x187f7), (0x18800, 0x18aff),
      (0x18d00, 0x18d08)]
  shared := .ofRanges [(0x2ff0, 0x2fff), (0x31ef, 0x31ef)]

def telugu : Script where
  names := ["Telugu", "Telu"]
  own := .ofRanges [(0xc00, 0xc0c), (0xc0e, 0xc10), (0xc12, 0xc28), (0xc2a, 0xc39),
      (0xc3c, 0xc44), (0xc46, 0xc48), (0xc4a, 0xc4d), (0xc55, 0xc56), (0xc58, 0xc5a),
      (0xc5d, 0xc5d), (0xc60, 0xc63), (0xc66, 0xc6f), (0xc77, 0xc7f)]
  shared := .ofRanges [(0x951, 0x952), (0x964, 0x965), (0x1cd5, 0x1cd6), (0x1cd8, 0x1cd8),
      (0x1cda, 0x1cda), (0x1cf2, 0x1cf2)]

def thaana : Script where
  names := ["Thaana", "Thaa"]
  own := .ofRanges [(0x780, 0x7b1)]
  shared := .ofRanges [(0x60c, 0x60c), (0x61b, 0x61c), (0x61f, 0x61f), (0x660, 0x669),
      (0xfdf2, 0xfdf2), (0xfdfd, 0xfdfd)]

def thai : Script where
  names := ["Thai", "Thai"]
  own := .ofRanges [(0xe01, 0xe3a), (0xe40, 0xe5b)]
  shared := .ofRanges [(0x2bc, 0x2bc), (0x2d7, 0x2d7), (0x303, 0x303), (0x331, 0x331)]

def tibetan : Script where
  names := ["Tibetan", "Tibt"]
  own := .ofRanges [(0xf00, 0xf47), (0xf49, 0xf6c), (0xf71, 0xf97), (0xf99, 0xfbc),
      (0xfbe, 0xfcc), (0xfce, 0xfd4), (0xfd9, 0xfda)]
  shared := .ofRanges [(0x3008, 0x300b)]

def tifinagh : Script where
  names := ["Tifinagh", "Tfng"]
  own := .ofRanges [(0x2d30, 0x2d67), (0x2d6f, 0x2d70), (0x2d7f, 0x2d7f)]
  shared := .ofRanges [(0x302, 0x302), (0x304, 0x304), (0x306, 0x309), (0x323, 0x323)]

def tirhuta : Script where
  names := ["Tirhuta", "Tirh"]
  own := .ofRanges [(0x11480, 0x114c7), (0x114d0, 0x114d9)]
  shared := .ofRanges [(0x951, 0x952), (0x964, 0x965), (0x1cd5, 0x1cd5), (0x1ce2, 0x1ce2),
      (0x1cf2, 0x1cf2), (0xa830, 0xa839)]

def todhri : Script where
  names := ["Todhri", "Todr"]
  own := .ofRanges [(0x105c0, 0x105f3)]
  shared := .ofRanges [(0x301, 0x301), (0x304, 0x304), (0x307, 0x307), (0x311, 0x311),
      (0x313, 0x313), (0x35e, 0x35e)]

def toto : Script where
  names := ["Toto", "Toto"]
  own := .ofRanges [(0x1e290, 0x1e2ae)]
  shared := .ofRanges [(0x2bc, 0x2bc)]

def tuluTigalari : Script where
  names := ["Tulu_Tigalari", "Tutg"]
  own := .ofRanges [(0x11380, 0x11389), (0x1138b, 0x1138b), (0x1138e, 0x1138e),
      (0x11390, 0x113b5), (0x113b7, 0x113c0), (0x113c2, 0x113c2), (0x113c5, 0x113c5),
      (0x113c7, 0x113ca), (0x113cc, 0x113d5), (0x113d7, 0x113d8), (0x113e1, 0x113e2)]
  shared := .ofRanges [(0xce6, 0xcef), (0x1cf2, 0x1cf2), (0x1cf4, 0x1cf4), (0xa830, 0xa835),
      (0xa8f1, 0xa8f1)]

def ugaritic : Script where
  names := ["Ugaritic", "Ugar"]
  own := .ofRanges [(0x10380, 0x1039d), (0x1039f, 0x1039f)]

def vai : Script where
  names := ["Vai", "Vaii"]
  own := .ofRanges [(0xa500, 0xa62b)]

def vithkuqi : Script where
  names := ["Vithkuqi", "Vith"]
  own := .ofRanges [(0x10570, 0x1057a), (0x1057c, 0x1058a), (0x1058c, 0x10592),
      (0x10594, 0x10595), (0x10597, 0x105a1), (0x105a3, 0x105b1), (0x105b3, 0x105b9),
      (0x105bb, 0x105bc)]

def wancho : Script where
  names := ["Wancho", "Wcho"]
  own := .ofRanges [(0x1e2c0, 0x1e2f9), (0x1e2ff, 0x1e2ff)]

def warangCiti : Script where
  names := ["Warang_Citi", "Wara"]
  own := .ofRanges [(0x118a0, 0x118f2), (0x118ff, 0x118ff)]

def yezidi : Script where
  names := ["Yezidi", "Yezi"]
  own := .ofRanges [(0x10e80, 0x10ea9), (0x10eab, 0x10ead), (0x10eb0, 0x10eb1)]
  shared := .ofRanges [(0x60c, 0x60c), (0x61b, 0x61b), (0x61f, 0x61f), (0x660, 0x669)]

def yi : Script where
  names := ["Yi", "Yiii"]
  own := .ofRanges [(0xa000, 0xa48c), (0xa490, 0xa4c6)]
  shared := .ofRanges [(0x3001, 0x3002), (0x3008, 0x3011), (0x3014, 0x301b), (0x30fb, 0x30fb),
      (0xff61, 0xff65)]

def zanabazarSquare : Script where
  names := ["Zanabazar_Square", "Zanb"]
  own := .ofRanges [(0x11a00, 0x11a47)]

/-- The scripts from T to Z. -/
def fromTtoZ : List Script :=
  [tagalog, tagbanwa, taiLe, taiTham, taiViet, takri, tamil, tangsa, tangut, telugu, thaana,
    thai, tibetan, tifinagh, tirhuta, todhri, toto, tuluTigalari, ugaritic, vai, vithkuqi,
    wancho, warangCiti, yezidi, yi, zanabazarSquare]

end Script

end Conform.Unicode
