import Highlight.Text.Property.Letter
import Highlight.Text.Property.Identifier
import Highlight.Text.Property.Grapheme
import Highlight.Text.Property.Symbol
/-!
# Binary properties by name

The binary character properties of Unicode, each under its long name (`White_Space`,
`Alphabetic`), for looking a property up by the name a pattern gives.
-/

namespace Highlight.Text.Property

/-- The binary properties, by long name. -/
def binary : List (String × CharRanges) := [
  ("ASCII_Hex_Digit", asciiHexDigit),
  ("Alphabetic", alphabetic),
  ("Bidi_Control", bidiControl),
  ("Bidi_Mirrored", bidiMirrored),
  ("Case_Ignorable", caseIgnorable),
  ("Cased", cased),
  ("Changes_When_Casefolded", changesWhenCasefolded),
  ("Changes_When_Casemapped", changesWhenCasemapped),
  ("Changes_When_Lowercased", changesWhenLowercased),
  ("Changes_When_Titlecased", changesWhenTitlecased),
  ("Changes_When_Uppercased", changesWhenUppercased),
  ("Dash", dash),
  ("Default_Ignorable_Code_Point", defaultIgnorableCodePoint),
  ("Deprecated", deprecated),
  ("Diacritic", diacritic),
  ("Emoji", emoji),
  ("Emoji_Component", emojiComponent),
  ("Emoji_Modifier", emojiModifier),
  ("Emoji_Modifier_Base", emojiModifierBase),
  ("Emoji_Presentation", emojiPresentation),
  ("Extended_Pictographic", extendedPictographic),
  ("Extender", extender),
  ("Grapheme_Base", graphemeBase),
  ("Grapheme_Extend", graphemeExtend),
  ("Grapheme_Link", graphemeLink),
  ("Hex_Digit", hexDigit),
  ("Hyphen", hyphen),
  ("IDS_Binary_Operator", idsBinaryOperator),
  ("IDS_Trinary_Operator", idsTrinaryOperator),
  ("IDS_Unary_Operator", idsUnaryOperator),
  ("ID_Compat_Math_Continue", idCompatMathContinue),
  ("ID_Compat_Math_Start", idCompatMathStart),
  ("ID_Continue", idContinue),
  ("ID_Start", idStart),
  ("Ideographic", ideographic),
  ("Join_Control", joinControl),
  ("Logical_Order_Exception", logicalOrderException),
  ("Lowercase", lowercase),
  ("Math", math),
  ("Modifier_Combining_Mark", modifierCombiningMark),
  ("Noncharacter_Code_Point", noncharacterCodePoint),
  ("Other_Alphabetic", otherAlphabetic),
  ("Other_Default_Ignorable_Code_Point", otherDefaultIgnorableCodePoint),
  ("Other_Grapheme_Extend", otherGraphemeExtend),
  ("Other_ID_Continue", otherIdContinue),
  ("Other_ID_Start", otherIdStart),
  ("Other_Lowercase", otherLowercase),
  ("Other_Math", otherMath),
  ("Other_Uppercase", otherUppercase),
  ("Pattern_Syntax", patternSyntax),
  ("Pattern_White_Space", patternWhiteSpace),
  ("Prepended_Concatenation_Mark", prependedConcatenationMark),
  ("Quotation_Mark", quotationMark),
  ("Radical", radical),
  ("Regional_Indicator", regionalIndicator),
  ("Sentence_Terminal", sentenceTerminal),
  ("Soft_Dotted", softDotted),
  ("Terminal_Punctuation", terminalPunctuation),
  ("Unified_Ideograph", unifiedIdeograph),
  ("Uppercase", uppercase),
  ("Variation_Selector", variationSelector),
  ("White_Space", whiteSpace),
  ("XID_Continue", xidContinue),
  ("XID_Start", xidStart)]

/-- The binary property with long name `name`. -/
def binary? (name : String) : Option CharRanges := binary.lookup name

end Highlight.Text.Property
