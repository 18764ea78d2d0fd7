/-
The general categories: every character is in exactly one of the small ones.

A code point is unassigned if no other category has it, and a surrogate is no character.
-/
import Conform.Unicode.Letter
import Conform.Unicode.Mark
import Conform.Unicode.Named
import Conform.Unicode.Symbol

namespace Conform.Unicode

open Text

/-- Spaces. -/
def spaceSeparator : CharSet :=
  .ofRanges [(0x20, 0x20), (0xa0, 0xa0), (0x1680, 0x1680), (0x2000, 0x200a), (0x202f, 0x202f),
    (0x205f, 0x205f), (0x3000, 0x3000)]

/-- The separator of lines. -/
def lineSeparator : CharSet := .ofRanges [(0x2028, 0x2028)]

/-- The separator of paragraphs. -/
def paragraphSeparator : CharSet := .ofRanges [(0x2029, 0x2029)]

/-- Separators of every kind. -/
def separator : CharSet := spaceSeparator ∪ lineSeparator ∪ paragraphSeparator

/-- Control codes. -/
def control : CharSet := .ofRanges [(0x0, 0x1f), (0x7f, 0x9f)]

/-- Characters that direct formatting. -/
def format : CharSet :=
  .ofRanges [(0xad, 0xad), (0x600, 0x605), (0x61c, 0x61c), (0x6dd, 0x6dd), (0x70f, 0x70f),
    (0x890, 0x891), (0x8e2, 0x8e2), (0x180e, 0x180e), (0x200b, 0x200f), (0x202a, 0x202e),
    (0x2060, 0x2064), (0x2066, 0x206f), (0xfeff, 0xfeff), (0xfff9, 0xfffb), (0x110bd, 0x110bd),
    (0x110cd, 0x110cd), (0x13430, 0x1343f), (0x1bca0, 0x1bca3), (0x1d173, 0x1d17a),
    (0xe0001, 0xe0001), (0xe0020, 0xe007f)]

/-- Code points for private use. -/
def privateUse : CharSet := .ofRanges [(0xe000, 0xf8ff), (0xf0000, 0xffffd), (0x100000, 0x10fffd)]

/-- Code points with a meaning or set aside for private use. -/
def assigned : CharSet :=
  letter ∪ mark ∪ number ∪ punctuation ∪ symbol ∪ separator ∪ control ∪ format ∪ privateUse

/-- Code points without any meaning yet. -/
def unassigned : CharSet := assigned.complement

/-- All that is no letter, mark, number, punctuation, symbol or separator. -/
def other : CharSet := control ∪ format ∪ privateUse ∪ unassigned

/-- The categories by name, and with them all characters, the assigned ones and ASCII. -/
def categories : List NamedSet :=
  [⟨["Letter", "L"], letter⟩,
    ⟨["Cased_Letter", "LC"], casedLetter⟩,
    ⟨["Uppercase_Letter", "Lu"], uppercaseLetter⟩,
    ⟨["Lowercase_Letter", "Ll"], lowercaseLetter⟩,
    ⟨["Titlecase_Letter", "Lt"], titlecaseLetter⟩,
    ⟨["Modifier_Letter", "Lm"], modifierLetter⟩,
    ⟨["Other_Letter", "Lo"], otherLetter⟩,
    ⟨["Mark", "M", "Combining_Mark"], mark⟩,
    ⟨["Nonspacing_Mark", "Mn"], nonspacingMark⟩,
    ⟨["Spacing_Mark", "Mc"], spacingMark⟩,
    ⟨["Enclosing_Mark", "Me"], enclosingMark⟩,
    ⟨["Number", "N"], number⟩,
    ⟨["Decimal_Number", "Nd", "digit"], decimalNumber⟩,
    ⟨["Letter_Number", "Nl"], letterNumber⟩,
    ⟨["Other_Number", "No"], otherNumber⟩,
    ⟨["Punctuation", "P", "punct"], punctuation⟩,
    ⟨["Connector_Punctuation", "Pc"], connectorPunctuation⟩,
    ⟨["Dash_Punctuation", "Pd"], dashPunctuation⟩,
    ⟨["Open_Punctuation", "Ps"], openPunctuation⟩,
    ⟨["Close_Punctuation", "Pe"], closePunctuation⟩,
    ⟨["Initial_Punctuation", "Pi"], initialPunctuation⟩,
    ⟨["Final_Punctuation", "Pf"], finalPunctuation⟩,
    ⟨["Other_Punctuation", "Po"], otherPunctuation⟩,
    ⟨["Symbol", "S"], symbol⟩,
    ⟨["Math_Symbol", "Sm"], mathSymbol⟩,
    ⟨["Currency_Symbol", "Sc"], currencySymbol⟩,
    ⟨["Modifier_Symbol", "Sk"], modifierSymbol⟩,
    ⟨["Other_Symbol", "So"], otherSymbol⟩,
    ⟨["Separator", "Z"], separator⟩,
    ⟨["Space_Separator", "Zs"], spaceSeparator⟩,
    ⟨["Line_Separator", "Zl"], lineSeparator⟩,
    ⟨["Paragraph_Separator", "Zp"], paragraphSeparator⟩,
    ⟨["Other", "C"], other⟩,
    ⟨["Control", "Cc", "cntrl"], control⟩,
    ⟨["Format", "Cf"], format⟩,
    ⟨["Private_Use", "Co"], privateUse⟩,
    ⟨["Unassigned", "Cn"], unassigned⟩,
    ⟨["Any"], .all⟩,
    ⟨["Assigned"], assigned⟩,
    ⟨["ASCII"], .ofRange 0 0x7f⟩]

end Conform.Unicode
