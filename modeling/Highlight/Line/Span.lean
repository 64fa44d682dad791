import Highlight.Line.State
/-!
# Spans

Parsing a line gives spans: runs of columns, each with an attribute and a coarse kind that tells
code from strings, comments and here-documents. The spans of a line tile it from column 0 to its
end, one span per unmatched character. `ParsedLine.runs` merges neighbours that look the same.
-/

namespace Highlight

/-- The coarse classification of text. -/
inductive TextKind where
  | code
  | string
  /-- A comment that ends with its line. -/
  | comment
  /-- A comment whose context survives line ends. -/
  | blockComment
  /-- Text in a context bound from captures, such as a here-document. -/
  | hereDoc
  deriving Repr, Inhabited, BEq, DecidableEq

namespace TextKind

/-- The kind's name. -/
def name : TextKind → String
  | .code => "code"
  | .string => "string"
  | .comment => "comment"
  | .blockComment => "block-comment"
  | .hereDoc => "here-doc"

/-- Code. -/
def isCode (k : TextKind) : Bool := k == .code

/-- A comment of any kind; here-documents count as comments. -/
def isComment (k : TextKind) : Bool := k == .comment || k == .blockComment || k == .hereDoc

/-- A block comment. -/
def isBlockComment (k : TextKind) : Bool := k == .blockComment

/-- A here-document. -/
def isHereDoc (k : TextKind) : Bool := k == .hereDoc

/-- A string. -/
def isString (k : TextKind) : Bool := k == .string

end TextKind

/-- A classified run of columns. -/
structure Span where
  /-- The first column. -/
  start : Nat
  /-- The number of columns. -/
  len : Nat
  /-- The attribute, by index. -/
  attr : Nat
  /-- The coarse kind. -/
  kind : TextKind
  deriving Repr, Inhabited, BEq, DecidableEq

namespace Span

/-- The column just past the span. -/
def stop (s : Span) : Nat := s.start + s.len

/-- Whether the span covers `column`. -/
def contains (s : Span) (column : Nat) : Bool := s.start ≤ column && column < s.stop

end Span

/-- The spans of a line and the state the next line starts in. -/
structure ParsedLine where
  /-- The spans, in column order. -/
  spans : Array Span
  /-- The state after the line. -/
  state : LineState
  deriving Repr, Inhabited, BEq, DecidableEq

namespace ParsedLine

/-- The span covering `column`: the first span not ending at or before it, if it covers it. -/
def spanAt (p : ParsedLine) (column : Nat) : Option Span :=
  (p.spans.find? fun s => !(s.stop ≤ column)).filter (·.contains column)

/-- The kind at `column`; past the end of the line, the kind of the last span, so that the end of
a line inside a comment is still in it. -/
def kindAt (p : ParsedLine) (column : Nat) : TextKind :=
  match p.spanAt column with
  | some s => s.kind
  | none => (p.spans.back?.map (·.kind)).getD .code

/-- Neighbouring spans with equal attribute and kind merged into one. -/
def runs (p : ParsedLine) : Array Span :=
  p.spans.foldl (fun (out : Array Span) s =>
    match out.back? with
    | some last =>
      if last.attr == s.attr && last.kind == s.kind && last.stop == s.start then
        out.pop.push { last with len := last.len + s.len }
      else out.push s
    | none => out.push s) #[]

end ParsedLine

end Highlight
