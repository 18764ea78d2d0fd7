/-
The scripts with names from A to C.
-/
import Conform.Unicode.Script.Basic

namespace Conform.Unicode

open Text

namespace Script

def adlam : Script where
  names := ["Adlam", "Adlm"]
  own := .ofRanges [(0x1e900, 0x1e94b), (0x1e950, 0x1e959), (0x1e95e, 0x1e95f)]
  shared := .ofRanges [(0x61f, 0x61f), (0x640, 0x640), (0x204f, 0x204f), (0x2e41, 0x2e41)]

def ahom : Script where
  names := ["Ahom", "Ahom"]
  own := .ofRanges [(0x11700, 0x1171a), (0x1171d, 0x1172b), (0x11730, 0x11746)]

def anatolianHieroglyphs : Script where
  names := ["Anatolian_Hieroglyphs", "Hluw"]
  own := .ofRanges [(0x14400, 0x14646)]

def arabic : Script where
  names := ["Arabic", "Arab"]
  own := .ofRanges [(0x600, 0x604), (0x606, 0x60b), (0x60d, 0x61a), (0x61c, 0x61e),
      (0x620, 0x63f), (0x641, 0x64a), (0x656, 0x66f), (0x671, 0x6dc), (0x6de, 0x6ff),
      (0x750, 0x77f), (0x870, 0x88e), (0x890, 0x891), (0x897, 0x8e1), (0x8e3, 0x8ff),
      (0xfb50, 0xfbc2), (0xfbd3, 0xfd3d), (0xfd40, 0xfd8f), (0xfd92, 0xfdc7), (0xfdcf, 0xfdcf),
      (0xfdf0, 0xfdff), (0xfe70, 0xfe74), (0xfe76, 0xfefc), (0x10e60, 0x10e7e),
      (0x10ec2, 0x10ec4), (0x10efc, 0x10eff), (0x1ee00, 0x1ee03), (0x1ee05, 0x1ee1f),
      (0x1ee21, 0x1ee22), (0x1ee24, 0x1ee24), (0x1ee27, 0x1ee27), (0x1ee29, 0x1ee32),
      (0x1ee34, 0x1ee37), (0x1ee39, 0x1ee39), (0x1ee3b, 0x1ee3b), (0x1ee42, 0x1ee42),
      (0x1ee47, 0x1ee47), (0x1ee49, 0x1ee49), (0x1ee4b, 0x1ee4b), (0x1ee4d, 0x1ee4f),
      (0x1ee51, 0x1ee52), (0x1ee54, 0x1ee54), (0x1ee57, 0x1ee57), (0x1ee59, 0x1ee59),
      (0x1ee5b, 0x1ee5b), (0x1ee5d, 0x1ee5d), (0x1ee5f, 0x1ee5f), (0x1ee61, 0x1ee62),
      (0x1ee64, 0x1ee64), (0x1ee67, 0x1ee6a), (0x1ee6c, 0x1ee72), (0x1ee74, 0x1ee77),
      (0x1ee79, 0x1ee7c), (0x1ee7e, 0x1ee7e), (0x1ee80, 0x1ee89), (0x1ee8b, 0x1ee9b),
      (0x1eea1, 0x1eea3), (0x1eea5, 0x1eea9), (0x1eeab, 0x1eebb), (0x1eef0, 0x1eef1)]
  shared := .ofRanges [(0x60c, 0x60c), (0x61b, 0x61b), (0x61f, 0x61f), (0x640, 0x640),
      (0x64b, 0x655), (0x670, 0x670), (0x204f, 0x204f), (0x2e41, 0x2e41), (0xfd3e, 0xfd3f),
      (0x102e0, 0x102fb)]

def armenian : Script where
  names := ["Armenian", "Armn"]
  own := .ofRanges [(0x531, 0x556), (0x559, 0x58a), (0x58d, 0x58f), (0xfb13, 0xfb17)]
  shared := .ofRanges [(0x308, 0x308)]

def avestan : Script where
  names := ["Avestan", "Avst"]
  own := .ofRanges [(0x10b00, 0x10b35), (0x10b39, 0x10b3f)]
  shared := .ofRanges [(0xb7, 0xb7), (0x2e30, 0x2e31)]

def balinese : Script where
  names := ["Balinese", "Bali"]
  own := .ofRanges [(0x1b00, 0x1b4c), (0x1b4e, 0x1b7f)]

def bamum : Script where
  names := ["Bamum", "Bamu"]
  own := .ofRanges [(0xa6a0, 0xa6f7), (0x16800, 0x16a38)]

def bassaVah : Script where
  names := ["Bassa_Vah", "Bass"]
  own := .ofRanges [(0x16ad0, 0x16aed), (0x16af0, 0x16af5)]

def batak : Script where
  names := ["Batak", "Batk"]
  own := .ofRanges [(0x1bc0, 0x1bf3), (0x1bfc, 0x1bff)]

def bengali : Script where
  names := ["Bengali", "Beng"]
  own := .ofRanges [(0x980, 0x983), (0x985, 0x98c), (0x98f, 0x990), (0x993, 0x9a8),
      (0x9aa, 0x9b0), (0x9b2, 0x9b2), (0x9b6, 0x9b9), (0x9bc, 0x9c4), (0x9c7, 0x9c8),
      (0x9cb, 0x9ce), (0x9d7, 0x9d7), (0x9dc, 0x9dd), (0x9df, 0x9e3), (0x9e6, 0x9fe)]
  shared := .ofRanges [(0x2bc, 0x2bc), (0x951, 0x952), (0x964, 0x965), (0x1cd0, 0x1cd0),
      (0x1cd2, 0x1cd2), (0x1cd5, 0x1cd6), (0x1cd8, 0x1cd8), (0x1ce1, 0x1ce1), (0x1cea, 0x1cea),
      (0x1ced, 0x1ced), (0x1cf2, 0x1cf2), (0x1cf5, 0x1cf7), (0xa8f1, 0xa8f1)]

def bhaiksuki : Script where
  names := ["Bhaiksuki", "Bhks"]
  own := .ofRanges [(0x11c00, 0x11c08), (0x11c0a, 0x11c36), (0x11c38, 0x11c45),
      (0x11c50, 0x11c6c)]

def bopomofo : Script where
  names := ["Bopomofo", "Bopo"]
  own := .ofRanges [(0x2ea, 0x2eb), (0x3105, 0x312f), (0x31a0, 0x31bf)]
  shared := .ofRanges [(0x2c7, 0x2c7), (0x2c9, 0x2cb), (0x2d9, 0x2d9), (0x3001, 0x3003),
      (0x3008, 0x3011), (0x3013, 0x301f), (0x302a, 0x302d), (0x3030, 0x3030), (0x3037, 0x3037),
      (0x30fb, 0x30fb), (0xfe45, 0xfe46), (0xff61, 0xff65)]

def brahmi : Script where
  names := ["Brahmi", "Brah"]
  own := .ofRanges [(0x11000, 0x1104d), (0x11052, 0x11075), (0x1107f, 0x1107f)]

def braille : Script where
  names := ["Braille", "Brai"]
  own := .ofRanges [(0x2800, 0x28ff)]

def buginese : Script where
  names := ["Buginese", "Bugi"]
  own := .ofRanges [(0x1a00, 0x1a1b), (0x1a1e, 0x1a1f)]
  shared := .ofRanges [(0xa9cf, 0xa9cf)]

def buhid : Script where
  names := ["Buhid", "Buhd"]
  own := .ofRanges [(0x1740, 0x1753)]
  shared := .ofRanges [(0x1735, 0x1736)]

def canadianAboriginal : Script where
  names := ["Canadian_Aboriginal", "Cans"]
  own := .ofRanges [(0x1400, 0x167f), (0x18b0, 0x18f5), (0x11ab0, 0x11abf)]

def carian : Script where
  names := ["Carian", "Cari"]
  own := .ofRanges [(0x102a0, 0x102d0)]
  shared := .ofRanges [(0xb7, 0xb7), (0x205a, 0x205a), (0x205d, 0x205d), (0x2e31, 0x2e31)]

def caucasianAlbanian : Script where
  names := ["Caucasian_Albanian", "Aghb"]
  own := .ofRanges [(0x10530, 0x10563), (0x1056f, 0x1056f)]
  shared := .ofRanges [(0x304, 0x304), (0x331, 0x331), (0x35e, 0x35e)]

def chakma : Script where
  names := ["Chakma", "Cakm"]
  own := .ofRanges [(0x11100, 0x11134), (0x11136, 0x11147)]
  shared := .ofRanges [(0x9e6, 0x9ef), (0x1040, 0x1049)]

def cham : Script where
  names := ["Cham", "Cham"]
  own := .ofRanges [(0xaa00, 0xaa36), (0xaa40, 0xaa4d), (0xaa50, 0xaa59), (0xaa5c, 0xaa5f)]

def cherokee : Script where
  names := ["Cherokee", "Cher"]
  own := .ofRanges [(0x13a0, 0x13f5), (0x13f8, 0x13fd), (0xab70, 0xabbf)]
  shared := .ofRanges [(0x300, 0x302), (0x304, 0x304), (0x30b, 0x30c), (0x323, 0x324),
      (0x330, 0x331)]

def chorasmian : Script where
  names := ["Chorasmian", "Chrs"]
  own := .ofRanges [(0x10fb0, 0x10fcb)]

def coptic : Script where
  names := ["Coptic", "Copt", "Qaac"]
  own := .ofRanges [(0x3e2, 0x3ef), (0x2c80, 0x2cf3), (0x2cf9, 0x2cff)]
  shared := .ofRanges [(0xb7, 0xb7), (0x300, 0x300), (0x304, 0x305), (0x307, 0x307),
      (0x374, 0x375), (0x2e17, 0x2e17), (0x102e0, 0x102fb)]

def cuneiform : Script where
  names := ["Cuneiform", "Xsux"]
  own := .ofRanges [(0x12000, 0x12399), (0x12400, 0x1246e), (0x12470, 0x12474),
      (0x12480, 0x12543)]

def cypriot : Script where
  names := ["Cypriot", "Cprt"]
  own := .ofRanges [(0x10800, 0x10805), (0x10808, 0x10808), (0x1080a, 0x10835),
      (0x10837, 0x10838), (0x1083c, 0x1083c), (0x1083f, 0x1083f)]
  shared := .ofRanges [(0x10100, 0x10102), (0x10107, 0x10133), (0x10137, 0x1013f)]

def cyproMinoan : Script where
  names := ["Cypro_Minoan", "Cpmn"]
  own := .ofRanges [(0x12f90, 0x12ff2)]
  shared := .ofRanges [(0x10100, 0x10101)]

def cyrillic : Script where
  names := ["Cyrillic", "Cyrl"]
  own := .ofRanges [(0x400, 0x484), (0x487, 0x52f), (0x1c80, 0x1c8a), (0x1d2b, 0x1d2b),
      (0x1d78, 0x1d78), (0x2de0, 0x2dff), (0xa640, 0xa69f), (0xfe2e, 0xfe2f), (0x1e030, 0x1e06d),
      (0x1e08f, 0x1e08f)]
  shared := .ofRanges [(0x2bc, 0x2bc), (0x300, 0x302), (0x304, 0x304), (0x306, 0x306),
      (0x308, 0x308), (0x30b, 0x30b), (0x311, 0x311), (0x485, 0x486), (0x1df8, 0x1df8),
      (0x2e43, 0x2e43)]

/-- The scripts from A to C. -/
def fromAtoC : List Script :=
  [adlam, ahom, anatolianHieroglyphs, arabic, armenian, avestan, balinese, bamum, bassaVah,
    batak, bengali, bhaiksuki, bopomofo, brahmi, braille, buginese, buhid, canadianAboriginal,
    carian, caucasianAlbanian, chakma, cham, cherokee, chorasmian, coptic, cuneiform, cypriot,
    cyproMinoan, cyrillic]

end Script

end Conform.Unicode
