/-
Characters of words, and of names.
-/
import Conform.Unicode.Property

namespace Conform.Text

open Unicode

/-- The characters that words are made of: those of alphabets, marks, digits, the
punctuation that connects, and what directs the joining of letters. -/
def wordChars : CharSet :=
  alphabetic ∪ mark ∪ decimalNumber ∪ connectorPunctuation ∪ joinControl

/-- The characters that words are made of within ASCII. -/
def asciiWordChars : CharSet :=
  .ofRanges [(0x30, 0x39), (0x41, 0x5a), (0x5f, 0x5f), (0x61, 0x7a)]

/-- The character belongs to a word. -/
def isWordChar (c : Char) : Bool :=
  wordChars.contains c

/-- The character belongs to a word within ASCII. -/
def isAsciiWordChar (c : Char) : Bool :=
  asciiWordChars.contains c

/-- The character is a letter of some alphabet. -/
def isAlphabetic (c : Char) : Bool :=
  alphabetic.contains c

/-- The character is a letter of some alphabet or a number of some kind. -/
def isAlphanumeric (c : Char) : Bool :=
  alphabetic.contains c || number.contains c

end Conform.Text
