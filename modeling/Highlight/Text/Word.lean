import Highlight.Text.Category
import Highlight.Text.Property.Letter
import Highlight.Text.Property.Grapheme
/-!
# Word characters and decimal digits

The classes `\w` and `\d` of patterns, in their Unicode sense. A word character is alphabetic,
a mark, a decimal digit, a connector punctuation or a join control; a decimal digit is any
character of general category `Nd`, so Arabic-Indic and full-width digits count as well.
Word boundaries of patterns are drawn between a word character and anything else.
-/

namespace Highlight.Text

/-- The decimal digits: general category `Nd`. -/
def decimalDigits : CharRanges := categoryRanges (· == .decimalNumber)

/-- The word characters: alphabetic characters, marks, decimal digits, connector punctuation and
the two joiners. -/
def wordChars : CharRanges :=
  CharRanges.unionAll [Property.alphabetic, Property.joinControl,
    categoryRanges fun g => [GeneralCategory.nonspacingMark, .spacingMark, .enclosingMark,
      .decimalNumber, .connectorPunctuation].contains g]

/-- Whether `c` is a decimal digit of any script. -/
def isDecimalDigit (c : Char) : Bool := decimalDigits.contains c

/-- Whether `c` is a word character. -/
def isWordChar (c : Char) : Bool := wordChars.contains c

end Highlight.Text
