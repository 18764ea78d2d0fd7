/-
The scripts with names from O to S.
-/
import Conform.Unicode.Script.Basic

namespace Conform.Unicode

open Text

namespace Script

def ogham : Script where
  names := ["Ogham", "Ogam"]
  own := .ofRanges [(0x1680, 0x169c)]

def olChiki : Script where
  names := ["Ol_Chiki", "Olck"]
  own := .ofRanges [(0x1c50, 0x1c7f)]

def olOnal : Script where
  names := ["Ol_Onal", "Onao"]
  own := .ofRanges [(0x1e5d0, 0x1e5fa), (0x1e5ff, 0x1e5ff)]
  shared := .ofRanges [(0x964, 0x965)]

def oldHungarian : Script where
  names := ["Old_Hungarian", "Hung"]
  own := .ofRanges [(0x10c80, 0x10cb2), (0x10cc0, 0x10cf2), (0x10cfa, 0x10cff)]
  shared := .ofRanges [(0x205a, 0x205a), (0x205d, 0x205d), (0x2e31, 0x2e31), (0x2e41, 0x2e41)]

def oldItalic : Script where
  names := ["Old_Italic", "Ital"]
  own := .ofRanges [(0x10300, 0x10323), (0x1032d, 0x1032f)]

def oldNorthArabian : Script where
  names := ["Old_North_Arabian", "Narb"]
  own := .ofRanges [(0x10a80, 0x10a9f)]

def oldPermic : Script where
  names := ["Old_Permic", "Perm"]
  own := .ofRanges [(0x10350, 0x1037a)]
  shared := .ofRanges [(0xb7, 0xb7), (0x300, 0x300), (0x306, 0x308), (0x313, 0x313),
      (0x483, 0x483)]

def oldPersian : Script where
  names := ["Old_Persian", "Xpeo"]
  own := .ofRanges [(0x103a0, 0x103c3), (0x103c8, 0x103d5)]

def oldSogdian : Script where
  names := ["Old_Sogdian", "Sogo"]
  own := .ofRanges [(0x10f00, 0x10f27)]

def oldSouthArabian : Script where
  names := ["Old_South_Arabian", "Sarb"]
  own := .ofRanges [(0x10a60, 0x10a7f)]

def oldTurkic : Script where
  names := ["Old_Turkic", "Orkh"]
  own := .ofRanges [(0x10c00, 0x10c48)]
  shared := .ofRanges [(0x205a, 0x205a), (0x2e30, 0x2e30)]

def oldUyghur : Script where
  names := ["Old_Uyghur", "Ougr"]
  own := .ofRanges [(0x10f70, 0x10f89)]
  shared := .ofRanges [(0x640, 0x640), (0x10af2, 0x10af2)]

def oriya : Script where
  names := ["Oriya", "Orya"]
  own := .ofRanges [(0xb01, 0xb03), (0xb05, 0xb0c), (0xb0f, 0xb10), (0xb13, 0xb28),
      (0xb2a, 0xb30), (0xb32, 0xb33), (0xb35, 0xb39), (0xb3c, 0xb44), (0xb47, 0xb48),
      (0xb4b, 0xb4d), (0xb55, 0xb57), (0xb5c, 0xb5d), (0xb5f, 0xb63), (0xb66, 0xb77)]
  shared := .ofRanges [(0x951, 0x952), (0x964, 0x965), (0x1cda, 0x1cda), (0x1cf2, 0x1cf2)]

def osage : Script where
  names := ["Osage", "Osge"]
  own := .ofRanges [(0x104b0, 0x104d3), (0x104d8, 0x104fb)]
  shared := .ofRanges [(0x301, 0x301), (0x304, 0x304), (0x30b, 0x30b), (0x358, 0x358)]

def osmanya : Script where
  names := ["Osmanya", "Osma"]
  own := .ofRanges [(0x10480, 0x1049d), (0x104a0, 0x104a9)]

def pahawhHmong : Script where
  names := ["Pahawh_Hmong", "Hmng"]
  own := .ofRanges [(0x16b00, 0x16b45), (0x16b50, 0x16b59), (0x16b5b, 0x16b61),
      (0x16b63, 0x16b77), (0x16b7d, 0x16b8f)]

def palmyrene : Script where
  names := ["Palmyrene", "Palm"]
  own := .ofRanges [(0x10860, 0x1087f)]

def pauCinHau : Script where
  names := ["Pau_Cin_Hau", "Pauc"]
  own := .ofRanges [(0x11ac0, 0x11af8)]

def phagsPa : Script where
  names := ["Phags_Pa", "Phag"]
  own := .ofRanges [(0xa840, 0xa877)]
  shared := .ofRanges [(0x1802, 0x1803), (0x1805, 0x1805), (0x202f, 0x202f), (0x3002, 0x3002)]

def phoenician : Script where
  names := ["Phoenician", "Phnx"]
  own := .ofRanges [(0x10900, 0x1091b), (0x1091f, 0x1091f)]

def psalterPahlavi : Script where
  names := ["Psalter_Pahlavi", "Phlp"]
  own := .ofRanges [(0x10b80, 0x10b91), (0x10b99, 0x10b9c), (0x10ba9, 0x10baf)]
  shared := .ofRanges [(0x640, 0x640)]

def rejang : Script where
  names := ["Rejang", "Rjng"]
  own := .ofRanges [(0xa930, 0xa953), (0xa95f, 0xa95f)]

def runic : Script where
  names := ["Runic", "Runr"]
  own := .ofRanges [(0x16a0, 0x16ea), (0x16ee, 0x16f8)]
  shared := .ofRanges [(0x16eb, 0x16ed)]

def samaritan : Script where
  names := ["Samaritan", "Samr"]
  own := .ofRanges [(0x800, 0x82d), (0x830, 0x83e)]
  shared := .ofRanges [(0x2e31, 0x2e31)]

def saurashtra : Script where
  names := ["Saurashtra", "Saur"]
  own := .ofRanges [(0xa880, 0xa8c5), (0xa8ce, 0xa8d9)]

def sharada : Script where
  names := ["Sharada", "Shrd"]
  own := .ofRanges [(0x11180, 0x111df)]
  shared := .ofRanges [(0x951, 0x951), (0x1cd7, 0x1cd7), (0x1cd9, 0x1cd9), (0x1cdc, 0x1cdd),
      (0x1ce0, 0x1ce0), (0x1cea, 0x1cea), (0x1ced, 0x1ced), (0xa830, 0xa835), (0xa838, 0xa838)]

def shavian : Script where
  names := ["Shavian", "Shaw"]
  own := .ofRanges [(0x10450, 0x1047f)]
  shared := .ofRanges [(0xb7, 0xb7)]

def siddham : Script where
  names := ["Siddham", "Sidd"]
  own := .ofRanges [(0x11580, 0x115b5), (0x115b8, 0x115dd)]

def signWriting : Script where
  names := ["SignWriting", "Sgnw"]
  own := .ofRanges [(0x1d800, 0x1da8b), (0x1da9b, 0x1da9f), (0x1daa1, 0x1daaf)]

def sinhala : Script where
  names := ["Sinhala", "Sinh"]
  own := .ofRanges [(0xd81, 0xd83), (0xd85, 0xd96), (0xd9a, 0xdb1), (0xdb3, 0xdbb),
      (0xdbd, 0xdbd), (0xdc0, 0xdc6), (0xdca, 0xdca), (0xdcf, 0xdd4), (0xdd6, 0xdd6),
      (0xdd8, 0xddf), (0xde6, 0xdef), (0xdf2, 0xdf4), (0x111e1, 0x111f4)]
  shared := .ofRanges [(0x964, 0x965), (0x1cf2, 0x1cf2)]

def sogdian : Script where
  names := ["Sogdian", "Sogd"]
  own := .ofRanges [(0x10f30, 0x10f59)]
  shared := .ofRanges [(0x640, 0x640)]

def soraSompeng : Script where
  names := ["Sora_Sompeng", "Sora"]
  own := .ofRanges [(0x110d0, 0x110e8), (0x110f0, 0x110f9)]

def soyombo : Script where
  names := ["Soyombo", "Soyo"]
  own := .ofRanges [(0x11a50, 0x11aa2)]

def sundanese : Script where
  names := ["Sundanese", "Sund"]
  own := .ofRanges [(0x1b80, 0x1bbf), (0x1cc0, 0x1cc7)]

def sunuwar : Script where
  names := ["Sunuwar", "Sunu"]
  own := .ofRanges [(0x11bc0, 0x11be1), (0x11bf0, 0x11bf9)]
  shared := .ofRanges [(0x300, 0x301), (0x303, 0x303), (0x30d, 0x30d), (0x310, 0x310),
      (0x32d, 0x32d), (0x331, 0x331)]

def sylotiNagri : Script where
  names := ["Syloti_Nagri", "Sylo"]
  own := .ofRanges [(0xa800, 0xa82c)]
  shared := .ofRanges [(0x964, 0x965), (0x9e6, 0x9ef)]

def syriac : Script where
  names := ["Syriac", "Syrc"]
  own := .ofRanges [(0x700, 0x70d), (0x70f, 0x74a), (0x74d, 0x74f), (0x860, 0x86a)]
  shared := .ofRanges [(0x303, 0x304), (0x307, 0x308), (0x30a, 0x30a), (0x323, 0x325),
      (0x32d, 0x32e), (0x330, 0x331), (0x60c, 0x60c), (0x61b, 0x61c), (0x61f, 0x61f),
      (0x640, 0x640), (0x64b, 0x655), (0x670, 0x670), (0x1df8, 0x1df8), (0x1dfa, 0x1dfa)]

/-- The scripts from O to S. -/
def fromOtoS : List Script :=
  [ogham, olChiki, olOnal, oldHungarian, oldItalic, oldNorthArabian, oldPermic, oldPersian,
    oldSogdian, oldSouthArabian, oldTurkic, oldUyghur, oriya, osage, osmanya, pahawhHmong,
    palmyrene, pauCinHau, phagsPa, phoenician, psalterPahlavi, rejang, runic, samaritan,
    saurashtra, sharada, shavian, siddham, signWriting, sinhala, sogdian, soraSompeng, soyombo,
    sundanese, sunuwar, sylotiNagri, syriac]

end Script

end Conform.Unicode
