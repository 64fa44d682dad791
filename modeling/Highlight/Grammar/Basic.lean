import Highlight.Grammar.Format
import Highlight.Grammar.Keywords
import Highlight.Grammar.Placeholder
import Highlight.Grammar.Header
import Highlight.Grammar.Definition
import Highlight.Regex.Run
/-!
# Grammars

A grammar is a definition with every reference resolved: contexts, attributes and keyword lists
are numbered tables, and each rule names them by index. Grammars included through `##Language`
are spliced into the same tables. Context 0 is where every document starts.

Indices in a grammar produced by linking are in range; the parser relies on that and looks
everything up with a default only to stay total.
-/

namespace Highlight

/-- What a match does to the context stack: pop `pop` levels, then push `push` in order. -/
structure Switch where
  /-- Levels to pop, at most `Definition.maxPops`. -/
  pop : Nat := 0
  /-- Contexts to push, by index. -/
  push : List Nat := []
  deriving Repr, Inhabited, BEq, DecidableEq

namespace Switch

/-- The switch that leaves the stack alone. -/
def stay : Switch := {}

/-- Whether the switch leaves the stack alone. -/
def isStay (s : Switch) : Bool := s.pop == 0 && s.push.isEmpty

/-- The same switch with `extra` more levels popped first; the count stops at
`Definition.maxPops`. -/
def afterPops (s : Switch) (extra : Nat) : Switch :=
  { s with pop := min Definition.maxPops (s.pop + extra) }

end Switch

/-- The pattern of a regular-expression rule. -/
inductive Pattern where
  /-- Compiled once when the grammar is linked; `regex` indexes the grammar's pattern table. -/
  | fixed (source : String) (regex : Nat)
  /-- Has `%N` placeholders, and is compiled for each binding of them. -/
  | dynamic (source : String) (insensitive : Bool)
  deriving Repr, Inhabited

/-- The text a pattern was written as. -/
def Pattern.source : Pattern → String
  | .fixed s _ | .dynamic s _ => s

/-- What a rule matches. -/
inductive RuleKind where
  /-- One character. -/
  | detectChar (ch : Char) (insensitive : Bool)
  /-- The first character of capture `capture` of the current frame. -/
  | dynamicChar (capture : Nat)
  /-- Two characters in a row. -/
  | detect2Chars (first second : Char) (insensitive : Bool)
  /-- Any one character of a set, kept sorted without repeats. -/
  | anyChar (set : List Char)
  /-- A fixed text. -/
  | stringDetect (text : String) (insensitive : Bool)
  /-- A fixed text that is a whole word. -/
  | wordDetect (text : String) (insensitive : Bool)
  /-- A word of a keyword list, by index. -/
  | keyword (list : Nat)
  /-- A regular expression. -/
  | regExpr (pattern : Pattern)
  /-- A decimal integer. -/
  | int
  /-- A decimal floating-point number. -/
  | float
  /-- An octal integer with a leading zero. -/
  | hlCOct
  /-- A hexadecimal integer with a leading `0x`. -/
  | hlCHex
  /-- An escape sequence inside a string. -/
  | hlCStringChar
  /-- A character literal. -/
  | hlCChar
  /-- A text from an opening to a closing delimiter; when the line ends first, the match runs to
  the end of the line and the context `continuation` takes over. -/
  | rangeDetect (opening closing : String) (continuation : Nat) (insensitive : Bool)
  /-- A character at the very end of the line that joins the next line on. -/
  | lineContinue (ch : Char)
  /-- A run of blanks. -/
  | detectSpaces
  /-- An identifier of ASCII letters, digits and underscores. -/
  | detectIdentifier
  deriving Repr, Inhabited

/-- The element a rule kind is written as in a definition. -/
def RuleKind.elementName : RuleKind → String
  | .detectChar .. | .dynamicChar _ => "DetectChar"
  | .detect2Chars .. => "Detect2Chars"
  | .anyChar _ => "AnyChar"
  | .stringDetect .. => "StringDetect"
  | .wordDetect .. => "WordDetect"
  | .keyword _ => "keyword"
  | .regExpr _ => "RegExpr"
  | .int => "Int"
  | .float => "Float"
  | .hlCOct => "HlCOct"
  | .hlCHex => "HlCHex"
  | .hlCStringChar => "HlCStringChar"
  | .hlCChar => "HlCChar"
  | .rangeDetect .. => "RangeDetect"
  | .lineContinue _ => "LineContinue"
  | .detectSpaces => "DetectSpaces"
  | .detectIdentifier => "DetectIdentifier"

/-- A rule of a grammar. -/
structure Rule where
  /-- What it matches. -/
  kind : RuleKind
  /-- The attribute of the matched text, by index. -/
  attr : Nat
  /-- The stack action on a match. -/
  switch : Switch
  /-- Match without consuming. -/
  lookAhead : Bool
  /-- Match only at the first non-blank column. -/
  firstNonSpace : Bool
  /-- Match only at this column. -/
  column : Option Nat
  /-- Texts are bound from the captures of the current frame. -/
  dynamic : Bool
  /-- Rules tried once after a match, the first that matches extending it; they never switch. -/
  children : List Rule
  deriving Repr, Inhabited

mutual

/-- The highest placeholder a rule or one of its children binds when it matches. -/
def Rule.placeholder : Rule → Nat
  | ⟨kind, _, _, _, _, _, dynamic, children⟩ =>
    let own :=
      if !dynamic then 0
      else match kind with
        | .dynamicChar n => n
        | .stringDetect t _ | .wordDetect t _ => Placeholder.highest t
        | .regExpr p => Placeholder.highest p.source
        | .rangeDetect b e _ _ => max (Placeholder.highest b) (Placeholder.highest e)
        | _ => 0
    Rule.placeholderFrom own children

/-- The larger of `m` and the highest placeholder the rules bind. -/
def Rule.placeholderFrom (m : Nat) : List Rule → Nat
  | [] => m
  | r :: rs => Rule.placeholderFrom (max m r.placeholder) rs

end

/-- A context of a grammar: a mode of the parser with its ordered rules. -/
structure Context where
  /-- The name, qualified as `Name##Language` when spliced from an included grammar. -/
  name : String
  /-- The attribute of text no rule matches, by index. -/
  attr : Nat
  /-- The rules, in order. -/
  rules : List Rule
  /-- The stack action at the end of a line. -/
  lineEnd : Switch
  /-- The stack action at an empty line, if it differs. -/
  lineEmpty : Option Switch
  /-- The stack action where no rule matches, if any. -/
  fallthrough : Option Switch
  /-- Which grammar's word separators its rules use, by index. -/
  separators : Nat
  /-- The highest placeholder its rules use: a frame of it needs more captures than this. -/
  maxPlaceholder : Nat
  deriving Repr, Inhabited

namespace Context

/-- Whether a frame of the context carries captures. -/
def isDynamic (c : Context) : Bool := c.maxPlaceholder > 0

/-- Whether the context survives the end of a line untouched. -/
def persists (c : Context) : Bool := c.lineEnd.isStay

end Context

/-- An attribute: a qualified name and the format class it is shown in. -/
structure Attribute where
  /-- The name, qualified as `Name##Language` when spliced from an included grammar. -/
  name : String
  /-- How text of the attribute is classified. -/
  format : FormatClass
  deriving Repr, Inhabited

/-- A linked grammar. -/
structure Grammar where
  /-- The root definition's header. -/
  header : Header
  /-- The contexts: those of the root, those of each included grammar, then the contexts that
  continue unterminated ranges. -/
  contexts : Array Context
  /-- The attributes, in declaration order, the root's first. -/
  attributes : Array Attribute
  /-- The keyword lists, with the words of the lists they include. -/
  lists : Array KeywordList
  /-- The word separators of each spliced grammar, the root's first. -/
  separators : Array Separators
  /-- The root definition's comment markers. -/
  comments : Definition.CommentMarkers
  /-- The compiled fixed patterns; rules with equal source and case rule share one. -/
  patterns : Array Regex
  deriving Inhabited

namespace Grammar

/-- The language name. -/
def name (g : Grammar) : String := g.header.name

/-- A context by index. -/
def context (g : Grammar) (id : Nat) : Context := g.contexts[id]?.getD default

/-- The name of an attribute by index. -/
def attrName (g : Grammar) (id : Nat) : String := (g.attributes[id]?.map (·.name)).getD ""

/-- The format class of an attribute by index. -/
def attrFormat (g : Grammar) (id : Nat) : FormatClass :=
  (g.attributes[id]?.map (·.format)).getD .normal

/-- The separators rules of a context use. -/
def separatorsOf (g : Grammar) (id : Nat) : Separators :=
  g.separators[(g.context id).separators]?.getD default

/-- A keyword list by index. -/
def list (g : Grammar) (id : Nat) : KeywordList := g.lists[id]?.getD default

end Grammar

end Highlight
