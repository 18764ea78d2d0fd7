/-
The scripts with names from M to N.
-/
import Conform.Unicode.Script.Basic

namespace Conform.Unicode

open Text

namespace Script

def mahajani : Script where
  names := ["Mahajani", "Mahj"]
  own := .ofRanges [(0x11150, 0x11176)]
  shared := .ofRanges [(0xb7, 0xb7), (0x964, 0x96f), (0xa830, 0xa839)]

def makasar : Script where
  names := ["Makasar", "Maka"]
  own := .ofRanges [(0x11ee0, 0x11ef8)]

def malayalam : Script where
  names := ["Malayalam", "Mlym"]
  own := .ofRanges [(0xd00, 0xd0c), (0xd0e, 0xd10), (0xd12, 0xd44), (0xd46, 0xd48),
      (0xd4a, 0xd4f), (0xd54, 0xd63), (0xd66, 0xd7f)]
  shared := .ofRanges [(0x951, 0x952), (0x964, 0x965), (0x1cda, 0x1cda), (0x1cf2, 0x1cf2),
      (0xa830, 0xa832)]

def mandaic : Script where
  names := ["Mandaic", "Mand"]
  own := .ofRanges [(0x840, 0x85b), (0x85e, 0x85e)]
  shared := .ofRanges [(0x640, 0x640)]

def manichaean : Script where
  names := ["Manichaean", "Mani"]
  own := .ofRanges [(0x10ac0, 0x10ae6), (0x10aeb, 0x10af6)]
  shared := .ofRanges [(0x640, 0x640)]

def marchen : Script where
  names := ["Marchen", "Marc"]
  own := .ofRanges [(0x11c70, 0x11c8f), (0x11c92, 0x11ca7), (0x11ca9, 0x11cb6)]

def masaramGondi : Script where
  names := ["Masaram_Gondi", "Gonm"]
  own := .ofRanges [(0x11d00, 0x11d06), (0x11d08, 0x11d09), (0x11d0b, 0x11d36),
      (0x11d3a, 0x11d3a), (0x11d3c, 0x11d3d), (0x11d3f, 0x11d47), (0x11d50, 0x11d59)]
  shared := .ofRanges [(0x964, 0x965)]

def medefaidrin : Script where
  names := ["Medefaidrin", "Medf"]
  own := .ofRanges [(0x16e40, 0x16e9a)]

def meeteiMayek : Script where
  names := ["Meetei_Mayek", "Mtei"]
  own := .ofRanges [(0xaae0, 0xaaf6), (0xabc0, 0xabed), (0xabf0, 0xabf9)]

def mendeKikakui : Script where
  names := ["Mende_Kikakui", "Mend"]
  own := .ofRanges [(0x1e800, 0x1e8c4), (0x1e8c7, 0x1e8d6)]

def meroiticCursive : Script where
  names := ["Meroitic_Cursive", "Merc"]
  own := .ofRanges [(0x109a0, 0x109b7), (0x109bc, 0x109cf), (0x109d2, 0x109ff)]

def meroiticHieroglyphs : Script where
  names := ["Meroitic_Hieroglyphs", "Mero"]
  own := .ofRanges [(0x10980, 0x1099f)]
  shared := .ofRanges [(0x205d, 0x205d)]

def miao : Script where
  names := ["Miao", "Plrd"]
  own := .ofRanges [(0x16f00, 0x16f4a), (0x16f4f, 0x16f87), (0x16f8f, 0x16f9f)]

def modi : Script where
  names := ["Modi", "Modi"]
  own := .ofRanges [(0x11600, 0x11644), (0x11650, 0x11659)]
  shared := .ofRanges [(0xa830, 0xa839)]

def mongolian : Script where
  names := ["Mongolian", "Mong"]
  own := .ofRanges [(0x1800, 0x1801), (0x1804, 0x1804), (0x1806, 0x1819), (0x1820, 0x1878),
      (0x1880, 0x18aa), (0x11660, 0x1166c)]
  shared := .ofRanges [(0x1802, 0x1803), (0x1805, 0x1805), (0x202f, 0x202f), (0x3001, 0x3002),
      (0x3008, 0x300b)]

def mro : Script where
  names := ["Mro", "Mroo"]
  own := .ofRanges [(0x16a40, 0x16a5e), (0x16a60, 0x16a69), (0x16a6e, 0x16a6f)]

def multani : Script where
  names := ["Multani", "Mult"]
  own := .ofRanges [(0x11280, 0x11286), (0x11288, 0x11288), (0x1128a, 0x1128d),
      (0x1128f, 0x1129d), (0x1129f, 0x112a9)]
  shared := .ofRanges [(0xa66, 0xa6f)]

def myanmar : Script where
  names := ["Myanmar", "Mymr"]
  own := .ofRanges [(0x1000, 0x109f), (0xa9e0, 0xa9fe), (0xaa60, 0xaa7f), (0x116d0, 0x116e3)]
  shared := .ofRanges [(0xa92e, 0xa92e)]

def nabataean : Script where
  names := ["Nabataean", "Nbat"]
  own := .ofRanges [(0x10880, 0x1089e), (0x108a7, 0x108af)]

def nagMundari : Script where
  names := ["Nag_Mundari", "Nagm"]
  own := .ofRanges [(0x1e4d0, 0x1e4f9)]

def nandinagari : Script where
  names := ["Nandinagari", "Nand"]
  own := .ofRanges [(0x119a0, 0x119a7), (0x119aa, 0x119d7), (0x119da, 0x119e4)]
  shared := .ofRanges [(0x951, 0x951), (0x964, 0x965), (0xce6, 0xcef), (0x1ce9, 0x1ce9),
      (0x1cf2, 0x1cf2), (0x1cfa, 0x1cfa), (0xa830, 0xa835)]

def newTaiLue : Script where
  names := ["New_Tai_Lue", "Talu"]
  own := .ofRanges [(0x1980, 0x19ab), (0x19b0, 0x19c9), (0x19d0, 0x19da), (0x19de, 0x19df)]

def newa : Script where
  names := ["Newa", "Newa"]
  own := .ofRanges [(0x11400, 0x1145b), (0x1145d, 0x11461)]
  shared := .ofRanges [(0x951, 0x952), (0x1cd5, 0x1cd5), (0x1cd7, 0x1cd8), (0x1ce2, 0x1ce2),
      (0x1ce9, 0x1ce9), (0x1ceb, 0x1ceb), (0x1ced, 0x1ced)]

def nko : Script where
  names := ["Nko", "Nkoo"]
  own := .ofRanges [(0x7c0, 0x7fa), (0x7fd, 0x7ff)]
  shared := .ofRanges [(0x60c, 0x60c), (0x61b, 0x61b), (0x61f, 0x61f), (0xfd3e, 0xfd3f)]

def nushu : Script where
  names := ["Nushu", "Nshu"]
  own := .ofRanges [(0x16fe1, 0x16fe1), (0x1b170, 0x1b2fb)]

def nyiakengPuachueHmong : Script where
  names := ["Nyiakeng_Puachue_Hmong", "Hmnp"]
  own := .ofRanges [(0x1e100, 0x1e12c), (0x1e130, 0x1e13d), (0x1e140, 0x1e149),
      (0x1e14e, 0x1e14f)]

/-- The scripts from M to N. -/
def fromMtoN : List Script :=
  [mahajani, makasar, malayalam, mandaic, manichaean, marchen, masaramGondi, medefaidrin,
    meeteiMayek, mendeKikakui, meroiticCursive, meroiticHieroglyphs, miao, modi, mongolian, mro,
    multani, myanmar, nabataean, nagMundari, nandinagari, newTaiLue, newa, nko, nushu,
    nyiakengPuachueHmong]

end Script

end Conform.Unicode
