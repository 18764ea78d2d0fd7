/-
The scripts with names from I to L.
-/
import Conform.Unicode.Script.Basic

namespace Conform.Unicode

open Text

namespace Script

def imperialAramaic : Script where
  names := ["Imperial_Aramaic", "Armi"]
  own := .ofRanges [(0x10840, 0x10855), (0x10857, 0x1085f)]

def inscriptionalPahlavi : Script where
  names := ["Inscriptional_Pahlavi", "Phli"]
  own := .ofRanges [(0x10b60, 0x10b72), (0x10b78, 0x10b7f)]

def inscriptionalParthian : Script where
  names := ["Inscriptional_Parthian", "Prti"]
  own := .ofRanges [(0x10b40, 0x10b55), (0x10b58, 0x10b5f)]

def javanese : Script where
  names := ["Javanese", "Java"]
  own := .ofRanges [(0xa980, 0xa9cd), (0xa9d0, 0xa9d9), (0xa9de, 0xa9df)]
  shared := .ofRanges [(0xa9cf, 0xa9cf)]

def kaithi : Script where
  names := ["Kaithi", "Kthi"]
  own := .ofRanges [(0x11080, 0x110c2), (0x110cd, 0x110cd)]
  shared := .ofRanges [(0x966, 0x96f), (0x2e31, 0x2e31), (0xa830, 0xa839)]

def kannada : Script where
  names := ["Kannada", "Knda"]
  own := .ofRanges [(0xc80, 0xc8c), (0xc8e, 0xc90), (0xc92, 0xca8), (0xcaa, 0xcb3),
      (0xcb5, 0xcb9), (0xcbc, 0xcc4), (0xcc6, 0xcc8), (0xcca, 0xccd), (0xcd5, 0xcd6),
      (0xcdd, 0xcde), (0xce0, 0xce3), (0xce6, 0xcef), (0xcf1, 0xcf3)]
  shared := .ofRanges [(0x951, 0x952), (0x964, 0x965), (0x1cd0, 0x1cd0), (0x1cd2, 0x1cd3),
      (0x1cda, 0x1cda), (0x1cf2, 0x1cf2), (0x1cf4, 0x1cf4), (0xa830, 0xa835)]

def katakana : Script where
  names := ["Katakana", "Kana"]
  own := .ofRanges [(0x30a1, 0x30fa), (0x30fd, 0x30ff), (0x31f0, 0x31ff), (0x32d0, 0x32fe),
      (0x3300, 0x3357), (0xff66, 0xff6f), (0xff71, 0xff9d), (0x1aff0, 0x1aff3),
      (0x1aff5, 0x1affb), (0x1affd, 0x1affe), (0x1b000, 0x1b000), (0x1b120, 0x1b122),
      (0x1b155, 0x1b155), (0x1b164, 0x1b167)]
  shared := .ofRanges [(0x305, 0x305), (0x323, 0x323), (0x3001, 0x3003), (0x3008, 0x3011),
      (0x3013, 0x301f), (0x3030, 0x3035), (0x3037, 0x3037), (0x303c, 0x303d), (0x3099, 0x309c),
      (0x30a0, 0x30a0), (0x30fb, 0x30fc), (0xfe45, 0xfe46), (0xff61, 0xff65), (0xff70, 0xff70),
      (0xff9e, 0xff9f)]

def kawi : Script where
  names := ["Kawi", "Kawi"]
  own := .ofRanges [(0x11f00, 0x11f10), (0x11f12, 0x11f3a), (0x11f3e, 0x11f5a)]

def kayahLi : Script where
  names := ["Kayah_Li", "Kali"]
  own := .ofRanges [(0xa900, 0xa92d), (0xa92f, 0xa92f)]
  shared := .ofRanges [(0xa92e, 0xa92e)]

def kharoshthi : Script where
  names := ["Kharoshthi", "Khar"]
  own := .ofRanges [(0x10a00, 0x10a03), (0x10a05, 0x10a06), (0x10a0c, 0x10a13),
      (0x10a15, 0x10a17), (0x10a19, 0x10a35), (0x10a38, 0x10a3a), (0x10a3f, 0x10a48),
      (0x10a50, 0x10a58)]

def khitanSmallScript : Script where
  names := ["Khitan_Small_Script", "Kits"]
  own := .ofRanges [(0x16fe4, 0x16fe4), (0x18b00, 0x18cd5), (0x18cff, 0x18cff)]

def khmer : Script where
  names := ["Khmer", "Khmr"]
  own := .ofRanges [(0x1780, 0x17dd), (0x17e0, 0x17e9), (0x17f0, 0x17f9), (0x19e0, 0x19ff)]

def khojki : Script where
  names := ["Khojki", "Khoj"]
  own := .ofRanges [(0x11200, 0x11211), (0x11213, 0x11241)]
  shared := .ofRanges [(0xae6, 0xaef), (0xa830, 0xa839)]

def khudawadi : Script where
  names := ["Khudawadi", "Sind"]
  own := .ofRanges [(0x112b0, 0x112ea), (0x112f0, 0x112f9)]
  shared := .ofRanges [(0x964, 0x965), (0xa830, 0xa839)]

def kiratRai : Script where
  names := ["Kirat_Rai", "Krai"]
  own := .ofRanges [(0x16d40, 0x16d79)]

def lao : Script where
  names := ["Lao", "Laoo"]
  own := .ofRanges [(0xe81, 0xe82), (0xe84, 0xe84), (0xe86, 0xe8a), (0xe8c, 0xea3),
      (0xea5, 0xea5), (0xea7, 0xebd), (0xec0, 0xec4), (0xec6, 0xec6), (0xec8, 0xece),
      (0xed0, 0xed9), (0xedc, 0xedf)]

def latin : Script where
  names := ["Latin", "Latn"]
  own := .ofRanges [(0x41, 0x5a), (0x61, 0x7a), (0xaa, 0xaa), (0xba, 0xba), (0xc0, 0xd6),
      (0xd8, 0xf6), (0xf8, 0x2b8), (0x2e0, 0x2e4), (0x1d00, 0x1d25), (0x1d2c, 0x1d5c),
      (0x1d62, 0x1d65), (0x1d6b, 0x1d77), (0x1d79, 0x1dbe), (0x1e00, 0x1eff), (0x2071, 0x2071),
      (0x207f, 0x207f), (0x2090, 0x209c), (0x212a, 0x212b), (0x2132, 0x2132), (0x214e, 0x214e),
      (0x2160, 0x2188), (0x2c60, 0x2c7f), (0xa722, 0xa787), (0xa78b, 0xa7cd), (0xa7d0, 0xa7d1),
      (0xa7d3, 0xa7d3), (0xa7d5, 0xa7dc), (0xa7f2, 0xa7ff), (0xab30, 0xab5a), (0xab5c, 0xab64),
      (0xab66, 0xab69), (0xfb00, 0xfb06), (0xff21, 0xff3a), (0xff41, 0xff5a), (0x10780, 0x10785),
      (0x10787, 0x107b0), (0x107b2, 0x107ba), (0x1df00, 0x1df1e), (0x1df25, 0x1df2a)]
  shared := .ofRanges [(0xb7, 0xb7), (0x2bc, 0x2bc), (0x2c7, 0x2c7), (0x2c9, 0x2cb),
      (0x2cd, 0x2cd), (0x2d7, 0x2d7), (0x2d9, 0x2d9), (0x300, 0x30e), (0x310, 0x311),
      (0x313, 0x313), (0x323, 0x325), (0x32d, 0x32e), (0x330, 0x331), (0x358, 0x358),
      (0x35e, 0x35e), (0x363, 0x36f), (0x485, 0x486), (0x951, 0x952), (0x10fb, 0x10fb),
      (0x1df8, 0x1df8), (0x202f, 0x202f), (0x20f0, 0x20f0), (0x2e17, 0x2e17), (0xa700, 0xa707),
      (0xa92e, 0xa92e)]

def lepcha : Script where
  names := ["Lepcha", "Lepc"]
  own := .ofRanges [(0x1c00, 0x1c37), (0x1c3b, 0x1c49), (0x1c4d, 0x1c4f)]

def limbu : Script where
  names := ["Limbu", "Limb"]
  own := .ofRanges [(0x1900, 0x191e), (0x1920, 0x192b), (0x1930, 0x193b), (0x1940, 0x1940),
      (0x1944, 0x194f)]
  shared := .ofRanges [(0x965, 0x965)]

def linearA : Script where
  names := ["Linear_A", "Lina"]
  own := .ofRanges [(0x10600, 0x10736), (0x10740, 0x10755), (0x10760, 0x10767)]
  shared := .ofRanges [(0x10107, 0x10133)]

def linearB : Script where
  names := ["Linear_B", "Linb"]
  own := .ofRanges [(0x10000, 0x1000b), (0x1000d, 0x10026), (0x10028, 0x1003a),
      (0x1003c, 0x1003d), (0x1003f, 0x1004d), (0x10050, 0x1005d), (0x10080, 0x100fa)]
  shared := .ofRanges [(0x10100, 0x10102), (0x10107, 0x10133), (0x10137, 0x1013f)]

def lisu : Script where
  names := ["Lisu", "Lisu"]
  own := .ofRanges [(0xa4d0, 0xa4ff), (0x11fb0, 0x11fb0)]
  shared := .ofRanges [(0x2bc, 0x2bc), (0x2cd, 0x2cd), (0x300a, 0x300b)]

def lycian : Script where
  names := ["Lycian", "Lyci"]
  own := .ofRanges [(0x10280, 0x1029c)]
  shared := .ofRanges [(0x205a, 0x205a)]

def lydian : Script where
  names := ["Lydian", "Lydi"]
  own := .ofRanges [(0x10920, 0x10939), (0x1093f, 0x1093f)]
  shared := .ofRanges [(0xb7, 0xb7), (0x2e31, 0x2e31)]

/-- The scripts from I to L. -/
def fromItoL : List Script :=
  [imperialAramaic, inscriptionalPahlavi, inscriptionalParthian, javanese, kaithi, kannada,
    katakana, kawi, kayahLi, kharoshthi, khitanSmallScript, khmer, khojki, khudawadi, kiratRai,
    lao, latin, lepcha, limbu, linearA, linearB, lisu, lycian, lydian]

end Script

end Conform.Unicode
