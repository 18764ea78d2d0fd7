/-
Sets of characters asked for by the name of a property.

Either a name says it all, and is that of a property which characters have or have not,
of a general category or of a script; or a property is given with one of its values.
-/
import Conform.Unicode.Age
import Conform.Unicode.Folding
import Conform.Unicode.Segmentation

namespace Conform.Unicode

open Text

/-- The properties that a character has or has not. -/
def properties : List NamedSet :=
  [⟨["ASCII_Hex_Digit", "AHex"], asciiHexDigit⟩,
    ⟨["Alphabetic", "Alpha"], alphabetic⟩,
    ⟨["Bidi_Control", "Bidi_C"], bidiControl⟩,
    ⟨["Case_Ignorable", "CI"], caseIgnorable⟩,
    ⟨["Cased"], cased⟩,
    ⟨["Changes_When_Casefolded", "CWCF"], changesWhenCasefolded⟩,
    ⟨["Changes_When_Casemapped", "CWCM"], changesWhenCasemapped⟩,
    ⟨["Changes_When_Lowercased", "CWL"], changesWhenLowercased⟩,
    ⟨["Changes_When_Titlecased", "CWT"], changesWhenTitlecased⟩,
    ⟨["Changes_When_Uppercased", "CWU"], changesWhenUppercased⟩,
    ⟨["Dash"], dash⟩,
    ⟨["Default_Ignorable_Code_Point", "DI"], defaultIgnorable⟩,
    ⟨["Deprecated", "Dep"], deprecated⟩,
    ⟨["Diacritic", "Dia"], diacritic⟩,
    ⟨["Emoji"], emoji⟩,
    ⟨["Emoji_Component", "EComp"], emojiComponent⟩,
    ⟨["Emoji_Modifier", "EMod"], emojiModifier⟩,
    ⟨["Emoji_Modifier_Base", "EBase"], emojiModifierBase⟩,
    ⟨["Emoji_Presentation", "EPres"], emojiPresentation⟩,
    ⟨["Extended_Pictographic", "ExtPict"], extendedPictographic⟩,
    ⟨["Extender", "Ext"], extender⟩,
    ⟨["Grapheme_Base", "Gr_Base"], graphemeBase⟩,
    ⟨["Grapheme_Extend", "Gr_Ext"], graphemeExtend⟩,
    ⟨["Grapheme_Link", "Gr_Link"], graphemeLink⟩,
    ⟨["Hex_Digit", "Hex"], hexDigit⟩,
    ⟨["Hyphen"], hyphen⟩,
    ⟨["IDS_Binary_Operator", "IDSB"], idsBinaryOperator⟩,
    ⟨["IDS_Trinary_Operator", "IDST"], idsTrinaryOperator⟩,
    ⟨["IDS_Unary_Operator", "IDSU"], idsUnaryOperator⟩,
    ⟨["ID_Compat_Math_Continue"], idCompatMathContinue⟩,
    ⟨["ID_Compat_Math_Start"], idCompatMathStart⟩,
    ⟨["ID_Continue", "IDC"], idContinue⟩,
    ⟨["ID_Start", "IDS"], idStart⟩,
    ⟨["Ideographic", "Ideo"], ideographic⟩,
    ⟨["Join_Control", "Join_C"], joinControl⟩,
    ⟨["Logical_Order_Exception", "LOE"], logicalOrderException⟩,
    ⟨["Lowercase", "Lower"], lowercase⟩,
    ⟨["Math"], math⟩,
    ⟨["Modifier_Combining_Mark", "MCM"], modifierCombiningMark⟩,
    ⟨["Noncharacter_Code_Point", "NChar"], noncharacter⟩,
    ⟨["Other_Alphabetic", "OAlpha"], otherAlphabetic⟩,
    ⟨["Other_Default_Ignorable_Code_Point", "ODI"], otherDefaultIgnorable⟩,
    ⟨["Other_Grapheme_Extend", "OGr_Ext"], otherGraphemeExtend⟩,
    ⟨["Other_ID_Continue", "OIDC"], otherIdContinue⟩,
    ⟨["Other_ID_Start", "OIDS"], otherIdStart⟩,
    ⟨["Other_Lowercase", "OLower"], otherLowercase⟩,
    ⟨["Other_Math", "OMath"], otherMath⟩,
    ⟨["Other_Uppercase", "OUpper"], otherUppercase⟩,
    ⟨["Pattern_Syntax", "Pat_Syn"], patternSyntax⟩,
    ⟨["Pattern_White_Space", "Pat_WS"], patternWhiteSpace⟩,
    ⟨["Prepended_Concatenation_Mark", "PCM"], prependedConcatenationMark⟩,
    ⟨["Quotation_Mark", "QMark"], quotationMark⟩,
    ⟨["Radical"], radical⟩,
    ⟨["Regional_Indicator", "RI"], regionalIndicator⟩,
    ⟨["Sentence_Terminal", "STerm"], sentenceTerminal⟩,
    ⟨["Soft_Dotted", "SD"], softDotted⟩,
    ⟨["Terminal_Punctuation", "Term"], terminalPunctuation⟩,
    ⟨["Unified_Ideograph", "UIdeo"], unifiedIdeograph⟩,
    ⟨["Uppercase", "Upper"], uppercase⟩,
    ⟨["Variation_Selector", "VS"], variationSelector⟩,
    ⟨["White_Space", "WSpace", "space"], whiteSpace⟩,
    ⟨["XID_Continue", "XIDC"], xidContinue⟩,
    ⟨["XID_Start", "XIDS"], xidStart⟩]

/-- The characters that a single name stands for. -/
def named? (name : String) : Option CharSet :=
  find? properties name <|> find? categories name <|> find? Script.byScript name

/-- The sets that the values of a property stand for. -/
def valuesOf? (property : String) : Option (List NamedSet) :=
  match looseName property with
  | "generalcategory" | "gc" => some categories
  | "script" | "sc" => some Script.byScript
  | "scriptextensions" | "scx" => some Script.byScriptExtensions
  | "age" => some ages
  | "graphemeclusterbreak" | "gcb" => some clusterBreaks
  | "wordbreak" | "wb" => some wordBreaks
  | "sentencebreak" | "sb" => some sentenceBreaks
  | _ => none

/-- The characters that have a value of a property. -/
def valued? (property value : String) : Option CharSet := do
  find? (← valuesOf? property) value

end Conform.Unicode
