import Highlight.Grammar.Keywords
import Highlight.Text.Blank
import Highlight.Text.Case
/-!
# Lines prepared for matching

A line is matched column by column, a column being one character. Literal texts compare
character by character, exactly or, for a case-insensitive rule, when the two characters have the
same lowercase.
-/

namespace Highlight

/-- A line of text as an array of characters. -/
structure Line where
  /-- The characters. -/
  chars : Array Char
  /-- The first column that is not blank, or the length for a blank line. -/
  firstNonSpace : Nat

namespace Line

/-- Prepares a line. -/
def ofString (text : String) : Line :=
  let chars := text.toList.toArray
  ⟨chars, (chars.findIdx? (fun c => !Text.isBlank c)).getD chars.size⟩

/-- The number of columns. -/
def size (l : Line) : Nat := l.chars.size

/-- Whether two characters are equal, or equal up to case when `insensitive`: their lowercase
forms are the same. -/
def charsEq (a b : Char) (insensitive : Bool) : Bool :=
  a == b || (insensitive && Text.lowerChar a == Text.lowerChar b)

/-- Whether a word may start at column `pos` of the line: the line starts there or a separator
precedes it. The column is at most the line's end, so the character before it is on the line. -/
def isWordStart (l : Line) (seps : Separators) : (pos : Nat) → pos ≤ l.size → Bool
  | 0, _ => true
  | p + 1, h =>
    have : p < l.chars.size := h
    seps.contains l.chars[p]

/-- The column where a word from `pos` ends: the first separator from `pos` on, or the end of the
line. -/
def wordEnd (l : Line) (seps : Separators) (pos : Nat) : Nat :=
  (((l.chars.extract pos l.size).findIdx? seps.contains).map (pos + ·)).getD l.size

/-- Whether a word may end at `pos`: the line ends there or a separator follows. -/
def isWordEnd (l : Line) (seps : Separators) (pos : Nat) : Bool :=
  (l.chars[pos]?.map seps.contains).getD true

/-- The column after `text` if it occurs at `pos` and is not empty. -/
def literalAt (l : Line) (pos : Nat) (text : String) (insensitive : Bool) : Option Nat :=
  let cs := text.toList
  if cs.isEmpty then none
  else if cs.zipIdx.all (fun (c, i) => (l.chars[pos + i]?.map (charsEq · c insensitive)).getD false)
  then some (pos + cs.length)
  else none

/-- The column just past the first occurrence of `text` that starts at or after `start`; none for
an empty text. -/
def findLiteral (l : Line) (start : Nat) (text : String) (insensitive : Bool) : Option Nat :=
  let cs := text.toList
  if cs.isEmpty || start > l.size then none
  else
    ((List.range (l.size + 1 - start)).find? fun i =>
      start + i + cs.length ≤ l.size &&
        cs.zipIdx.all fun (c, j) => (l.chars[start + i + j]?.map (charsEq · c insensitive)).getD false)
    |>.map (start + · + cs.length)

end Line

end Highlight
