/-
Segmentation: the parts that characters play where text is cut into clusters, words and
sentences.
-/
import Conform.Unicode.Emoji
import Conform.Unicode.Property
import Conform.Unicode.Script

namespace Conform.Unicode

open Text

/-! ### Clusters: what is felt as one character -/

namespace Cluster

/-- Line breaks and codes that are not shown. -/
def control : CharSet :=
  (lineSeparator ∪ paragraphSeparator ∪ Unicode.control ∪ (unassigned ∩ defaultIgnorable) ∪
    format) \
    (.ofRanges [(0xa, 0xa), (0xd, 0xd), (0x200c, 0x200d)] ∪ prependedConcatenationMark ∪
      graphemeExtend)

/-- Characters that extend the one before them, skin tones among them. -/
def extend : CharSet := graphemeExtend ∪ emojiModifier

/-- Characters that the next one belongs to. -/
def prepended : CharSet :=
  prependedConcatenationMark ∪
    .ofRanges [(0xd4e, 0xd4e), (0x111c2, 0x111c3), (0x113d1, 0x113d1), (0x1193f, 0x1193f),
      (0x11941, 0x11941), (0x11a3a, 0x11a3a), (0x11a84, 0x11a89), (0x11d46, 0x11d46),
      (0x11f02, 0x11f02)]

/-- Marks that take room and belong to the character before them. -/
def spacing : CharSet :=
  (spacingMark ∪ .ofRanges [(0xe33, 0xe33), (0xeb3, 0xeb3)]) \
    (extend ∪
      .ofRanges [(0x102b, 0x102c), (0x1038, 0x1038), (0x1062, 0x1064), (0x1067, 0x106d),
        (0x1083, 0x1083), (0x1087, 0x108c), (0x108f, 0x108f), (0x109a, 0x109c), (0x1a61, 0x1a61),
        (0x1a63, 0x1a64), (0xaa7b, 0xaa7b), (0xaa7d, 0xaa7d), (0x11720, 0x11721)])

/-- Leading consonants of syllables. -/
def leading : CharSet := .ofRanges [(0x1100, 0x115f), (0xa960, 0xa97c)]

/-- Vowels of syllables. -/
def vowel : CharSet :=
  .ofRanges [(0x1160, 0x11a7), (0xd7b0, 0xd7c6), (0x16d63, 0x16d63), (0x16d67, 0x16d6a)]

/-- Trailing consonants of syllables. -/
def trailing : CharSet := .ofRanges [(0x11a8, 0x11ff), (0xd7cb, 0xd7fb)]

/-- Syllables of a leading consonant and a vowel: the first of every 28. -/
def openSyllable : CharSet :=
  .ofPoints ((List.range 399).map fun i => 0xac00 + 28 * i)

/-- Syllables that end with a consonant. -/
def closedSyllable : CharSet := .ofRange 0xac00 0xd7a3 \ openSyllable

end Cluster

/-- The parts that characters play in a cluster. -/
def clusterBreaks : List NamedSet :=
  [⟨["CR"], .single '\r'⟩, ⟨["LF"], .single '\n'⟩, ⟨["Control", "CN"], Cluster.control⟩,
    ⟨["Extend", "EX"], Cluster.extend⟩, ⟨["ZWJ"], .ofRange 0x200d 0x200d⟩,
    ⟨["Regional_Indicator", "RI"], regionalIndicator⟩, ⟨["Prepend", "PP"], Cluster.prepended⟩,
    ⟨["SpacingMark", "SM"], Cluster.spacing⟩, ⟨["L"], Cluster.leading⟩,
    ⟨["V"], Cluster.vowel⟩, ⟨["T"], Cluster.trailing⟩, ⟨["LV"], Cluster.openSyllable⟩,
    ⟨["LVT"], Cluster.closedSyllable⟩]

/-! ### Words -/

/-- Signs over numbers, which are taken for numbers themselves. -/
def numberSign : CharSet :=
  .ofRanges [(0x600, 0x605), (0x6dd, 0x6dd), (0x890, 0x891), (0x8e2, 0x8e2), (0x110bd, 0x110bd),
    (0x110cd, 0x110cd)]

/-- The abbreviation mark that is taken for a letter. -/
def letterSign : CharSet := .ofRange 0x70f 0x70f

namespace Word

/-- Breaks of lines other than the two of ASCII. -/
def newline : CharSet := .ofRanges [(0xb, 0xc), (0x85, 0x85), (0x2028, 0x2029)]

/-- Characters that extend the one before them. -/
def extend : CharSet :=
  (graphemeExtend ∪ spacingMark ∪ emojiModifier) \ .ofRange 0x200d 0x200d

/-- Characters that direct formatting inside words. -/
def formatting : CharSet :=
  format \ (.ofRanges [(0x200b, 0x200d)] ∪ extend ∪ numberSign ∪ letterSign)

/-- Characters that are written with those of Katakana. -/
def katakana : CharSet :=
  (Script.katakana.own ∪
    .ofRanges [(0x3031, 0x3035), (0x309b, 0x309c), (0x30a0, 0x30a0), (0x30fc, 0x30fc),
      (0xff70, 0xff70)]) \ extend

/-- Letters of Hebrew. -/
def hebrewLetter : CharSet := Script.hebrew.own ∩ otherLetter

/-- Letters of scripts that write words without spaces. -/
def unspacedLetter : CharSet :=
  .ofRanges [(0xe01, 0xe3a), (0xe40, 0xe4e), (0xe81, 0xedf), (0x1000, 0x1049), (0x1050, 0x109f),
    (0x1780, 0x17d3), (0x17d7, 0x17d7), (0x17dc, 0x17dd), (0x1950, 0x19df), (0x1a20, 0x1aad),
    (0xa9e0, 0xa9ef), (0xa9fa, 0xa9fe), (0xaa60, 0xaac2), (0xaadb, 0xaadf), (0x11700, 0x1172b),
    (0x1173a, 0x1173b), (0x11740, 0x11746)]

/-- Letters of the other alphabets. -/
def letter : CharSet :=
  (alphabetic ∪ letterSign ∪
    .ofRanges [(0xb8, 0xb8), (0x2c2, 0x2c5), (0x2d2, 0x2d7), (0x2de, 0x2df), (0x2e5, 0x2eb),
      (0x2ed, 0x2ed), (0x2ef, 0x2ff), (0x55a, 0x55c), (0x55e, 0x55e), (0x58a, 0x58a),
      (0x5f3, 0x5f3), (0xa708, 0xa716), (0xa720, 0xa721), (0xa789, 0xa78a), (0xab5b, 0xab5b)]) \
    (ideographic ∪ katakana ∪ unspacedLetter ∪ Script.hiragana.own ∪ extend ∪ hebrewLetter)

/-- Points that join letters and numbers. -/
def midNumberOrLetter : CharSet :=
  .ofRanges [(0x2e, 0x2e), (0x2018, 0x2019), (0x2024, 0x2024), (0xfe52, 0xfe52), (0xff07, 0xff07),
    (0xff0e, 0xff0e)]

/-- Points that join letters. -/
def midLetter : CharSet :=
  .ofRanges [(0x3a, 0x3a), (0xb7, 0xb7), (0x387, 0x387), (0x55f, 0x55f), (0x5f4, 0x5f4),
    (0x2027, 0x2027), (0xfe13, 0xfe13), (0xfe55, 0xfe55), (0xff1a, 0xff1a)]

/-- Points that join numbers. -/
def midNumber : CharSet :=
  .ofRanges [(0x2c, 0x2c), (0x3b, 0x3b), (0x37e, 0x37e), (0x589, 0x589), (0x60c, 0x60d),
    (0x66c, 0x66c), (0x7f8, 0x7f8), (0x2044, 0x2044), (0xfe10, 0xfe10), (0xfe14, 0xfe14),
    (0xfe50, 0xfe50), (0xfe54, 0xfe54), (0xff0c, 0xff0c), (0xff1b, 0xff1b)]

/-- Digits. -/
def numeric : CharSet := decimalNumber ∪ .ofRange 0x66b 0x66b ∪ numberSign

/-- Characters that connect letters and numbers. -/
def connector : CharSet := connectorPunctuation ∪ .ofRange 0x202f 0x202f

/-- Spaces that stay together. -/
def space : CharSet :=
  spaceSeparator \ .ofRanges [(0xa0, 0xa0), (0x2007, 0x2007), (0x202f, 0x202f)]

end Word

/-- The parts that characters play in a word. -/
def wordBreaks : List NamedSet :=
  [⟨["CR"], .single '\r'⟩, ⟨["LF"], .single '\n'⟩, ⟨["Newline", "NL"], Word.newline⟩,
    ⟨["Extend"], Word.extend⟩, ⟨["ZWJ"], .ofRange 0x200d 0x200d⟩,
    ⟨["Regional_Indicator", "RI"], regionalIndicator⟩, ⟨["Format", "FO"], Word.formatting⟩,
    ⟨["Katakana", "KA"], Word.katakana⟩, ⟨["Hebrew_Letter", "HL"], Word.hebrewLetter⟩,
    ⟨["ALetter", "LE"], Word.letter⟩, ⟨["Single_Quote", "SQ"], .single '\''⟩,
    ⟨["Double_Quote", "DQ"], .single '"'⟩, ⟨["MidNumLet", "MB"], Word.midNumberOrLetter⟩,
    ⟨["MidLetter", "ML"], Word.midLetter⟩, ⟨["MidNum", "MN"], Word.midNumber⟩,
    ⟨["Numeric", "NU"], Word.numeric⟩, ⟨["ExtendNumLet", "EX"], Word.connector⟩,
    ⟨["WSegSpace"], Word.space⟩]

/-! ### Sentences -/

namespace Sentence

/-- Characters that extend the one before them. -/
def extend : CharSet := graphemeExtend ∪ spacingMark ∪ .ofRange 0x200d 0x200d

/-- Breaks of lines other than the two of ASCII. -/
def separator : CharSet := .ofRanges [(0x85, 0x85), (0x2028, 0x2029)]

/-- Characters that direct formatting. -/
def formatting : CharSet :=
  format \ (.ofRange 0x200c 0x200d ∪ extend ∪ numberSign ∪ letterSign)

/-- Spaces. -/
def space : CharSet :=
  whiteSpace \ (separator ∪ .ofRanges [(0xa, 0xa), (0xd, 0xd)])

/-- Lowercase characters, of the scripts that tell sentences by their case. -/
def lower : CharSet :=
  lowercase \ (extend ∪ .ofRanges [(0x10d0, 0x10fa), (0x10fd, 0x10ff)])

/-- Uppercase and titlecase characters of those scripts. -/
def upper : CharSet :=
  (titlecaseLetter ∪ uppercase) \ .ofRanges [(0x1c90, 0x1cba), (0x1cbd, 0x1cbf)]

/-- Letters without case. -/
def letter : CharSet :=
  (alphabetic ∪ letterSign ∪ .ofRange 0x5f3 0x5f3) \ (lower ∪ upper ∪ extend)

/-- Digits. -/
def numeric : CharSet := decimalNumber ∪ .ofRange 0x66b 0x66c ∪ numberSign

/-- Points that may end a sentence. -/
def point : CharSet :=
  .ofRanges [(0x2e, 0x2e), (0x2024, 0x2024), (0xfe52, 0xfe52), (0xff0e, 0xff0e)]

/-- Marks after which a sentence goes on. -/
def continuing : CharSet :=
  .ofRanges [(0x2c, 0x2d), (0x3a, 0x3b), (0x37e, 0x37e), (0x55d, 0x55d), (0x60c, 0x60d),
    (0x7f8, 0x7f8), (0x1802, 0x1802), (0x1808, 0x1808), (0x2013, 0x2014), (0x3001, 0x3001),
    (0xfe10, 0xfe11), (0xfe13, 0xfe14), (0xfe31, 0xfe32), (0xfe50, 0xfe51), (0xfe54, 0xfe55),
    (0xfe58, 0xfe58), (0xfe63, 0xfe63), (0xff0c, 0xff0d), (0xff1a, 0xff1b), (0xff64, 0xff64)]

/-- Marks that end a sentence. -/
def terminal : CharSet := sentenceTerminal \ point

/-- Brackets and quotation marks. -/
def bracket : CharSet :=
  (openPunctuation ∪ closePunctuation ∪ initialPunctuation ∪ finalPunctuation ∪
    .ofRanges [(0x22, 0x22), (0x27, 0x27), (0x275b, 0x2760), (0x276c, 0x2775), (0x2e00, 0x2e01),
      (0x2e06, 0x2e08), (0x2e0b, 0x2e0b), (0x1f676, 0x1f678)]) \
    (point ∪ terminal)

end Sentence

/-- The parts that characters play in a sentence. -/
def sentenceBreaks : List NamedSet :=
  [⟨["CR"], .single '\r'⟩, ⟨["LF"], .single '\n'⟩, ⟨["Extend", "EX"], Sentence.extend⟩,
    ⟨["Sep", "SE"], Sentence.separator⟩, ⟨["Format", "FO"], Sentence.formatting⟩,
    ⟨["Sp"], Sentence.space⟩, ⟨["Lower", "LO"], Sentence.lower⟩,
    ⟨["Upper", "UP"], Sentence.upper⟩, ⟨["OLetter", "LE"], Sentence.letter⟩,
    ⟨["Numeric", "NU"], Sentence.numeric⟩, ⟨["ATerm", "AT"], Sentence.point⟩,
    ⟨["SContinue", "SC"], Sentence.continuing⟩, ⟨["STerm", "ST"], Sentence.terminal⟩,
    ⟨["Close", "CL"], Sentence.bracket⟩]

end Conform.Unicode
