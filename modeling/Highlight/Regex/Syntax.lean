import Highlight.Text.Ranges
/-!
# Pattern trees

A pattern is read into a `Node` tree. Character classes are resolved while reading: a class in
brackets, an escape such as `\d` or `\p{Greek}`, or `.` becomes the set of characters it matches,
already closed under case when the pattern ignores case there. Literal characters keep a flag
saying whether they match up to case.

Besides the regular operators (sequence, alternatives, groups and counted repetition) a tree may
hold the parts that need a backtracking matcher: look-around, back-references, atomic groups,
conditionals, a reset of the match start (`\K`) and an anchor at the start of the search (`\G`).
-/

namespace Highlight.Regex

/-- Zero-width conditions on the position. Word characters are those of `\w`. -/
inductive Assertion where
  /-- The start of the text. -/
  | startText
  /-- The end of the text. -/
  | endText
  /-- The end of the text, or a position followed only by line feeds. -/
  | endTextNewlines
  /-- The start of a line. -/
  | startLine
  /-- The end of a line. -/
  | endLine
  /-- Between a word character and a character that is not one (or an end of the text). -/
  | wordBoundary
  /-- Not at a word boundary. -/
  | notWordBoundary
  /-- After a non-word character (or the start) and before a word character. -/
  | wordStart
  /-- After a word character and before a non-word character (or the end). -/
  | wordEnd
  /-- Not after a word character. -/
  | wordStartHalf
  /-- Not before a word character. -/
  | wordEndHalf
  /-- The position where the search started. -/
  | searchStart
  deriving Repr, DecidableEq, Inhabited

/-- A pattern as a tree. Capture groups are numbered by their opening parenthesis, from 1. -/
inductive Node where
  /-- Matches the empty string. -/
  | empty
  /-- One character, exactly or up to case. -/
  | char (c : Char) (caseless : Bool)
  /-- Any character; a line feed only when `newline`. -/
  | any (newline : Bool)
  /-- One character of a set. -/
  | set (s : Text.CharRanges)
  /-- A condition on the position. -/
  | assert (a : Assertion)
  /-- The parts one after another. -/
  | concat (parts : List Node)
  /-- The first part that leads to a match. -/
  | alt (parts : List Node)
  /-- A capture group. -/
  | group (body : Node)
  /-- From `lo` to `hi` (unbounded when `none`) repetitions, as many (greedy) or as few as
  possible. -/
  | rep (body : Node) (lo : Nat) (hi : Option Nat) (greedy : Bool)
  /-- A look-ahead or look-behind, positive or negative. -/
  | look (body : Node) (behind negative : Bool)
  /-- The text last captured by a group, exactly or up to case. -/
  | backref (group : Nat) (caseless : Bool)
  /-- Whether a group has captured something; matches the empty string. -/
  | captured (group : Nat)
  /-- A group that, once matched, is never entered again for another way to match. -/
  | atomic (body : Node)
  /-- If `test` matches here (its first match, kept), then `test` followed by `yes`; otherwise
  `no`. -/
  | cond (test yes no : Node)
  /-- Makes the match start here. -/
  | keep
  deriving Inhabited

/-- Why a pattern cannot be read. -/
structure SyntaxError where
  /-- Where the reader stopped, in characters. -/
  position : Nat
  /-- What is wrong. -/
  reason : String
  deriving Repr, Inhabited

/-- The two dialects: the full one of highlighting rules, and a plain one without look-around,
back-references and atomic groups. -/
inductive Dialect where
  | full
  | plain
  deriving DecidableEq, Inhabited

/-- A pattern read into its tree, with the number of its capture groups. -/
structure Pattern where
  /-- The tree. -/
  root : Node
  /-- The number of capture groups, not counting the whole match. -/
  groups : Nat
  deriving Inhabited

end Highlight.Regex
