import Highlight.Document.Basic
import Highlight.Json.Value
/-!
# Highlighting reports

A file is highlighted the way an editor would do it: the whole text goes into a document, which
is reconciled slice by slice under a budget until it has caught up. The report lists, line by
line, the runs of the final parse: neighbouring spans that look the same are merged. Each run
names its attribute, the attribute's format class and the kind of text it covers.

The plain form is one line per run, `line:start..end attribute format kind`, with lines counted
from one. The JSON form is the pretty-printed report, lines counted from zero.
-/

namespace Highlight.Cli

/-- One run of a line. -/
structure SpanReport where
  /-- The first column. -/
  start : Nat
  /-- The number of characters. -/
  len : Nat
  /-- The attribute's name. -/
  attrName : String
  /-- The attribute's format class. -/
  format : FormatClass
  /-- The kind of text. -/
  kind : TextKind
  deriving Repr, Inhabited

/-- The runs of one line. -/
structure LineReport where
  /-- The line, counted from zero. -/
  line : Nat
  /-- Its runs. -/
  spans : List SpanReport
  deriving Repr, Inhabited

/-- The highlighting of a text. -/
structure Report where
  /-- The grammar's name. -/
  language : String
  /-- Every line. -/
  lines : List LineReport
  deriving Repr, Inhabited

/-- A document reconciled slice by slice until it has caught up. Each slice with work pending
parses at least one line and moves the resume point forward, so one slice per line (and one
more) is always enough. -/
def reconcileInSlices (budget : Budget) : Nat → Document → Document
  | 0, d => d
  | n + 1, d =>
    let (d, r) := d.reconcile budget
    if r.isDone then d else reconcileInSlices budget n d

/-- The report of a text highlighted with a grammar. -/
def highlightText (g : Grammar) (text : String) (budget : Budget) : Report :=
  let d := Document.ofText (some g) text
  let d := reconcileInSlices budget (d.lineCount + 1) d
  { language := g.name,
    lines := (List.range d.lineCount).map fun i =>
      { line := i,
        spans := ((d.parsed? i).map fun p => p.runs.toList.map fun s =>
          { start := s.start, len := s.len, attrName := g.attrName s.attr,
            format := g.attrFormat s.attr, kind := s.kind }).getD [] } }

/-- The plain form: one line per run, `line:start..end attribute format kind`. -/
def Report.plain (r : Report) : String :=
  String.join (r.lines.flatMap fun l => l.spans.map fun s =>
    toString (l.line + 1) ++ ":" ++ toString s.start ++ ".." ++ toString (s.start + s.len) ++ " " ++
      s.attrName ++ " " ++ s.format.kebabName ++ " " ++ s.kind.name ++ "\n")

/-- The report as a JSON value. -/
def Report.toValue (r : Report) : Json.Value :=
  .obj [("language", .str r.language),
    ("lines", .arr (r.lines.map fun l => .obj [("line", .num l.line),
      ("spans", .arr (l.spans.map fun s => .obj [("start", .num s.start), ("len", .num s.len),
        ("attribute", .str s.attrName), ("format", .str s.format.kebabName),
        ("kind", .str s.kind.name)]))]))]

/-- The JSON form: the pretty-printed report. -/
def Report.json (r : Report) : String := r.toValue.render

end Highlight.Cli
