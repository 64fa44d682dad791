/-!
# White space

The characters with the Unicode `White_Space` property. Blank runs, the first non-blank column of
a line, keyword separators outside ASCII and the `\s` class of patterns all use this one set.
-/

namespace Highlight.Text

/-- Whether `c` is white space in the Unicode sense: tab to carriage return, space, next line,
no-break space, the ogham space mark, the spaces U+2000 to U+200A, the line and paragraph
separators, the narrow no-break space, the medium mathematical space and the ideographic space. -/
def isBlank (c : Char) : Bool :=
  match c.toNat with
  | 0x09 | 0x0A | 0x0B | 0x0C | 0x0D | 0x20 | 0x85 | 0xA0 | 0x1680 => true
  | 0x2028 | 0x2029 | 0x202F | 0x205F | 0x3000 => true
  | n => 0x2000 ≤ n && n ≤ 0x200A

/-- The text without blanks at either end. -/
def trimBlanks (s : String) : String :=
  String.ofList ((s.toList.dropWhile isBlank).reverse.dropWhile isBlank).reverse

end Highlight.Text
