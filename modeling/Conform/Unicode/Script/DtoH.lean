/-
The scripts with names from D to H.
-/
import Conform.Unicode.Script.Basic

namespace Conform.Unicode

open Text

namespace Script

def deseret : Script where
  names := ["Deseret", "Dsrt"]
  own := .ofRanges [(0x10400, 0x1044f)]

def devanagari : Script where
  names := ["Devanagari", "Deva"]
  own := .ofRanges [(0x900, 0x950), (0x955, 0x963), (0x966, 0x97f), (0xa8e0, 0xa8ff),
      (0x11b00, 0x11b09)]
  shared := .ofRanges [(0x2bc, 0x2bc), (0x951, 0x952), (0x964, 0x965), (0x1cd0, 0x1cf6),
      (0x1cf8, 0x1cf9), (0x20f0, 0x20f0), (0xa830, 0xa839)]

def divesAkuru : Script where
  names := ["Dives_Akuru", "Diak"]
  own := .ofRanges [(0x11900, 0x11906), (0x11909, 0x11909), (0x1190c, 0x11913),
      (0x11915, 0x11916), (0x11918, 0x11935), (0x11937, 0x11938), (0x1193b, 0x11946),
      (0x11950, 0x11959)]

def dogra : Script where
  names := ["Dogra", "Dogr"]
  own := .ofRanges [(0x11800, 0x1183b)]
  shared := .ofRanges [(0x964, 0x96f), (0xa830, 0xa839)]

def duployan : Script where
  names := ["Duployan", "Dupl"]
  own := .ofRanges [(0x1bc00, 0x1bc6a), (0x1bc70, 0x1bc7c), (0x1bc80, 0x1bc88),
      (0x1bc90, 0x1bc99), (0x1bc9c, 0x1bc9f)]
  shared := .ofRanges [(0xb7, 0xb7), (0x307, 0x308), (0x30a, 0x30a), (0x323, 0x324),
      (0x2e3c, 0x2e3c), (0x1bca0, 0x1bca3)]

def egyptianHieroglyphs : Script where
  names := ["Egyptian_Hieroglyphs", "Egyp"]
  own := .ofRanges [(0x13000, 0x13455), (0x13460, 0x143fa)]

def elbasan : Script where
  names := ["Elbasan", "Elba"]
  own := .ofRanges [(0x10500, 0x10527)]
  shared := .ofRanges [(0xb7, 0xb7), (0x305, 0x305)]

def elymaic : Script where
  names := ["Elymaic", "Elym"]
  own := .ofRanges [(0x10fe0, 0x10ff6)]

def ethiopic : Script where
  names := ["Ethiopic", "Ethi"]
  own := .ofRanges [(0x1200, 0x1248), (0x124a, 0x124d), (0x1250, 0x1256), (0x1258, 0x1258),
      (0x125a, 0x125d), (0x1260, 0x1288), (0x128a, 0x128d), (0x1290, 0x12b0), (0x12b2, 0x12b5),
      (0x12b8, 0x12be), (0x12c0, 0x12c0), (0x12c2, 0x12c5), (0x12c8, 0x12d6), (0x12d8, 0x1310),
      (0x1312, 0x1315), (0x1318, 0x135a), (0x135d, 0x137c), (0x1380, 0x1399), (0x2d80, 0x2d96),
      (0x2da0, 0x2da6), (0x2da8, 0x2dae), (0x2db0, 0x2db6), (0x2db8, 0x2dbe), (0x2dc0, 0x2dc6),
      (0x2dc8, 0x2dce), (0x2dd0, 0x2dd6), (0x2dd8, 0x2dde), (0xab01, 0xab06), (0xab09, 0xab0e),
      (0xab11, 0xab16), (0xab20, 0xab26), (0xab28, 0xab2e), (0x1e7e0, 0x1e7e6),
      (0x1e7e8, 0x1e7eb), (0x1e7ed, 0x1e7ee), (0x1e7f0, 0x1e7fe)]
  shared := .ofRanges [(0x30e, 0x30e)]

def garay : Script where
  names := ["Garay", "Gara"]
  own := .ofRanges [(0x10d40, 0x10d65), (0x10d69, 0x10d85), (0x10d8e, 0x10d8f)]
  shared := .ofRanges [(0x60c, 0x60c), (0x61b, 0x61b), (0x61f, 0x61f)]

def georgian : Script where
  names := ["Georgian", "Geor"]
  own := .ofRanges [(0x10a0, 0x10c5), (0x10c7, 0x10c7), (0x10cd, 0x10cd), (0x10d0, 0x10fa),
      (0x10fc, 0x10ff), (0x1c90, 0x1cba), (0x1cbd, 0x1cbf), (0x2d00, 0x2d25), (0x2d27, 0x2d27),
      (0x2d2d, 0x2d2d)]
  shared := .ofRanges [(0xb7, 0xb7), (0x589, 0x589), (0x10fb, 0x10fb), (0x205a, 0x205a),
      (0x2e31, 0x2e31)]

def glagolitic : Script where
  names := ["Glagolitic", "Glag"]
  own := .ofRanges [(0x2c00, 0x2c5f), (0x1e000, 0x1e006), (0x1e008, 0x1e018), (0x1e01b, 0x1e021),
      (0x1e023, 0x1e024), (0x1e026, 0x1e02a)]
  shared := .ofRanges [(0xb7, 0xb7), (0x303, 0x303), (0x305, 0x305), (0x484, 0x484),
      (0x487, 0x487), (0x589, 0x589), (0x10fb, 0x10fb), (0x205a, 0x205a), (0x2e43, 0x2e43),
      (0xa66f, 0xa66f)]

def gothic : Script where
  names := ["Gothic", "Goth"]
  own := .ofRanges [(0x10330, 0x1034a)]
  shared := .ofRanges [(0xb7, 0xb7), (0x304, 0x305), (0x308, 0x308), (0x331, 0x331)]

def grantha : Script where
  names := ["Grantha", "Gran"]
  own := .ofRanges [(0x11300, 0x11303), (0x11305, 0x1130c), (0x1130f, 0x11310),
      (0x11313, 0x11328), (0x1132a, 0x11330), (0x11332, 0x11333), (0x11335, 0x11339),
      (0x1133c, 0x11344), (0x11347, 0x11348), (0x1134b, 0x1134d), (0x11350, 0x11350),
      (0x11357, 0x11357), (0x1135d, 0x11363), (0x11366, 0x1136c), (0x11370, 0x11374)]
  shared := .ofRanges [(0x951, 0x952), (0x964, 0x965), (0xbe6, 0xbf3), (0x1cd0, 0x1cd0),
      (0x1cd2, 0x1cd3), (0x1cf2, 0x1cf4), (0x1cf8, 0x1cf9), (0x20f0, 0x20f0), (0x1133b, 0x1133b),
      (0x11fd0, 0x11fd1), (0x11fd3, 0x11fd3)]

def greek : Script where
  names := ["Greek", "Grek"]
  own := .ofRanges [(0x370, 0x373), (0x375, 0x377), (0x37a, 0x37d), (0x37f, 0x37f),
      (0x384, 0x384), (0x386, 0x386), (0x388, 0x38a), (0x38c, 0x38c), (0x38e, 0x3a1),
      (0x3a3, 0x3e1), (0x3f0, 0x3ff), (0x1d26, 0x1d2a), (0x1d5d, 0x1d61), (0x1d66, 0x1d6a),
      (0x1dbf, 0x1dbf), (0x1f00, 0x1f15), (0x1f18, 0x1f1d), (0x1f20, 0x1f45), (0x1f48, 0x1f4d),
      (0x1f50, 0x1f57), (0x1f59, 0x1f59), (0x1f5b, 0x1f5b), (0x1f5d, 0x1f5d), (0x1f5f, 0x1f7d),
      (0x1f80, 0x1fb4), (0x1fb6, 0x1fc4), (0x1fc6, 0x1fd3), (0x1fd6, 0x1fdb), (0x1fdd, 0x1fef),
      (0x1ff2, 0x1ff4), (0x1ff6, 0x1ffe), (0x2126, 0x2126), (0xab65, 0xab65), (0x10140, 0x1018e),
      (0x101a0, 0x101a0), (0x1d200, 0x1d245)]
  shared := .ofRanges [(0xb7, 0xb7), (0x300, 0x301), (0x304, 0x304), (0x306, 0x306),
      (0x308, 0x308), (0x313, 0x313), (0x342, 0x342), (0x345, 0x345), (0x374, 0x374),
      (0x1dc0, 0x1dc1), (0x205d, 0x205d)]

def gujarati : Script where
  names := ["Gujarati", "Gujr"]
  own := .ofRanges [(0xa81, 0xa83), (0xa85, 0xa8d), (0xa8f, 0xa91), (0xa93, 0xaa8),
      (0xaaa, 0xab0), (0xab2, 0xab3), (0xab5, 0xab9), (0xabc, 0xac5), (0xac7, 0xac9),
      (0xacb, 0xacd), (0xad0, 0xad0), (0xae0, 0xae3), (0xae6, 0xaf1), (0xaf9, 0xaff)]
  shared := .ofRanges [(0x951, 0x952), (0x964, 0x965), (0xa830, 0xa839)]

def gunjalaGondi : Script where
  names := ["Gunjala_Gondi", "Gong"]
  own := .ofRanges [(0x11d60, 0x11d65), (0x11d67, 0x11d68), (0x11d6a, 0x11d8e),
      (0x11d90, 0x11d91), (0x11d93, 0x11d98), (0x11da0, 0x11da9)]
  shared := .ofRanges [(0xb7, 0xb7), (0x964, 0x965)]

def gurmukhi : Script where
  names := ["Gurmukhi", "Guru"]
  own := .ofRanges [(0xa01, 0xa03), (0xa05, 0xa0a), (0xa0f, 0xa10), (0xa13, 0xa28),
      (0xa2a, 0xa30), (0xa32, 0xa33), (0xa35, 0xa36), (0xa38, 0xa39), (0xa3c, 0xa3c),
      (0xa3e, 0xa42), (0xa47, 0xa48), (0xa4b, 0xa4d), (0xa51, 0xa51), (0xa59, 0xa5c),
      (0xa5e, 0xa5e), (0xa66, 0xa76)]
  shared := .ofRanges [(0x951, 0x952), (0x964, 0x965), (0xa830, 0xa839)]

def gurungKhema : Script where
  names := ["Gurung_Khema", "Gukh"]
  own := .ofRanges [(0x16100, 0x16139)]
  shared := .ofRanges [(0x965, 0x965)]

def han : Script where
  names := ["Han", "Hani"]
  own := .ofRanges [(0x2e80, 0x2e99), (0x2e9b, 0x2ef3), (0x2f00, 0x2fd5), (0x3005, 0x3005),
      (0x3007, 0x3007), (0x3021, 0x3029), (0x3038, 0x303b), (0x3400, 0x4dbf), (0x4e00, 0x9fff),
      (0xf900, 0xfa6d), (0xfa70, 0xfad9), (0x16fe2, 0x16fe3), (0x16ff0, 0x16ff1),
      (0x20000, 0x2a6df), (0x2a700, 0x2b739), (0x2b740, 0x2b81d), (0x2b820, 0x2cea1),
      (0x2ceb0, 0x2ebe0), (0x2ebf0, 0x2ee5d), (0x2f800, 0x2fa1d), (0x30000, 0x3134a),
      (0x31350, 0x323af)]
  shared := .ofRanges [(0xb7, 0xb7), (0x2ff0, 0x2fff), (0x3001, 0x3003), (0x3006, 0x3006),
      (0x3008, 0x3011), (0x3013, 0x301f), (0x302a, 0x302d), (0x3030, 0x3030), (0x3037, 0x3037),
      (0x303c, 0x303f), (0x30fb, 0x30fb), (0x3190, 0x319f), (0x31c0, 0x31e5), (0x31ef, 0x31ef),
      (0x3220, 0x3247), (0x3280, 0x32b0), (0x32c0, 0x32cb), (0x32ff, 0x32ff), (0x3358, 0x3370),
      (0x337b, 0x337f), (0x33e0, 0x33fe), (0xa700, 0xa707), (0xfe45, 0xfe46), (0xff61, 0xff65),
      (0x1d360, 0x1d371), (0x1f250, 0x1f251)]

def hangul : Script where
  names := ["Hangul", "Hang"]
  own := .ofRanges [(0x1100, 0x11ff), (0x302e, 0x302f), (0x3131, 0x318e), (0x3200, 0x321e),
      (0x3260, 0x327e), (0xa960, 0xa97c), (0xac00, 0xd7a3), (0xd7b0, 0xd7c6), (0xd7cb, 0xd7fb),
      (0xffa0, 0xffbe), (0xffc2, 0xffc7), (0xffca, 0xffcf), (0xffd2, 0xffd7), (0xffda, 0xffdc)]
  shared := .ofRanges [(0x3001, 0x3003), (0x3008, 0x3011), (0x3013, 0x301f), (0x3030, 0x3030),
      (0x3037, 0x3037), (0x30fb, 0x30fb), (0xfe45, 0xfe46), (0xff61, 0xff65)]

def hanifiRohingya : Script where
  names := ["Hanifi_Rohingya", "Rohg"]
  own := .ofRanges [(0x10d00, 0x10d27), (0x10d30, 0x10d39)]
  shared := .ofRanges [(0x60c, 0x60c), (0x61b, 0x61b), (0x61f, 0x61f), (0x640, 0x640),
      (0x6d4, 0x6d4)]

def hanunoo : Script where
  names := ["Hanunoo", "Hano"]
  own := .ofRanges [(0x1720, 0x1734)]
  shared := .ofRanges [(0x1735, 0x1736)]

def hatran : Script where
  names := ["Hatran", "Hatr"]
  own := .ofRanges [(0x108e0, 0x108f2), (0x108f4, 0x108f5), (0x108fb, 0x108ff)]

def hebrew : Script where
  names := ["Hebrew", "Hebr"]
  own := .ofRanges [(0x591, 0x5c7), (0x5d0, 0x5ea), (0x5ef, 0x5f4), (0xfb1d, 0xfb36),
      (0xfb38, 0xfb3c), (0xfb3e, 0xfb3e), (0xfb40, 0xfb41), (0xfb43, 0xfb44), (0xfb46, 0xfb4f)]
  shared := .ofRanges [(0x307, 0x308)]

def hiragana : Script where
  names := ["Hiragana", "Hira"]
  own := .ofRanges [(0x3041, 0x3096), (0x309d, 0x309f), (0x1b001, 0x1b11f), (0x1b132, 0x1b132),
      (0x1b150, 0x1b152), (0x1f200, 0x1f200)]
  shared := .ofRanges [(0x3001, 0x3003), (0x3008, 0x3011), (0x3013, 0x301f), (0x3030, 0x3035),
      (0x3037, 0x3037), (0x303c, 0x303d), (0x3099, 0x309c), (0x30a0, 0x30a0), (0x30fb, 0x30fc),
      (0xfe45, 0xfe46), (0xff61, 0xff65), (0xff70, 0xff70), (0xff9e, 0xff9f)]

/-- The scripts from D to H. -/
def fromDtoH : List Script :=
  [deseret, devanagari, divesAkuru, dogra, duployan, egyptianHieroglyphs, elbasan, elymaic,
    ethiopic, garay, georgian, glagolitic, gothic, grantha, greek, gujarati, gunjalaGondi,
    gurmukhi, gurungKhema, han, hangul, hanifiRohingya, hanunoo, hatran, hebrew, hiragana]

end Script

end Conform.Unicode
