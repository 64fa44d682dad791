import Highlight.Document.Budget
/-!
# Documents

A document is a list of lines, each with the parse it last received and a mark saying whether that
parse may be stale. Edits replace lines and mark what they touched; the resume point is the first
line whose parse cannot be trusted. Reconciliation reparses from the resume point, feeding each line
the state the line before it ended in, and stops early once a reparsed line ends in the same state
its old parse did: from there on every clean line already starts from the right state, so only the
next marked line needs work.

A query about a line at or after the resume point sees no parse; without a parse every column is
code and nothing else.
-/

namespace Highlight

/-- One line of a document with its last parse. -/
structure LineSlot where
  /-- The line's text, without its line break. -/
  text : String
  /-- The parse the line last received, if any. -/
  parsed : Option ParsedLine := none
  /-- Whether the parse may be stale: the text changed or the line before it ended differently. -/
  dirty : Bool := true
  deriving Repr, Inhabited

namespace LineSlot

/-- A line that has never been parsed. -/
def fresh (text : String) : LineSlot := { text }

/-- The line, marked for reparsing; its old parse stays for comparison. -/
def markDirty (s : LineSlot) : LineSlot := { s with dirty := true }

/-- The line, forgetting its parse. -/
def invalidate (s : LineSlot) : LineSlot := { s with parsed := none, dirty := true }

end LineSlot

/-- The text with one trailing carriage return removed. -/
def dropCarriageReturn (s : String) : String :=
  match s.toList.reverse with
  | '\r' :: rest => String.ofList rest.reverse
  | _ => s

/-- The lines of a text: split at every line feed, one trailing carriage return removed from each.
An empty text is one empty line, and a text ending in a line feed ends with an empty line. -/
def splitLines (text : String) : List String :=
  (text.splitOn "\n").map dropCarriageReturn

/-- A text being edited and highlighted line by line. -/
structure Document where
  /-- The grammar lines are parsed with; without one nothing is parsed. -/
  grammar : Option Grammar
  /-- Limits for each line's parse. -/
  limits : ParseLimits := {}
  /-- The lines; never empty. -/
  lines : Array LineSlot
  /-- How many lines are marked; it lets the search for the next marked line stop at once when
  there is none. -/
  dirtyCount : Nat
  /-- The first line whose parse cannot be trusted, none when the document has caught up. -/
  resume : Option Nat

/-- The number of marked lines in a stretch of lines. -/
def countDirty (lines : Array LineSlot) : Nat := (lines.filter (·.dirty)).size

/-- Marks line `i`, counting it if it was not marked; a line past the end is left alone. -/
def markDirtyAt (lines : Array LineSlot) (count i : Nat) : Array LineSlot × Nat :=
  match lines[i]? with
  | some s => if s.dirty then (lines, count) else (lines.set! i s.markDirty, count + 1)
  | none => (lines, count)

theorem markDirtyAt_size (lines : Array LineSlot) (count i : Nat) :
    (markDirtyAt lines count i).1.size = lines.size := by
  unfold markDirtyAt
  split
  · split <;> simp
  · rfl

namespace Document

/-- A document holding `text`, nothing parsed yet. -/
def ofText (grammar : Option Grammar) (text : String) : Document :=
  let lines := ((splitLines text).map LineSlot.fresh).toArray
  { grammar, lines, dirtyCount := lines.size, resume := some 0 }

/-- A document with one empty line. -/
def empty (grammar : Option Grammar) : Document := ofText grammar ""

/-- Every parse forgotten, reconciliation to start again at the first line. -/
def invalidateAll (d : Document) : Document :=
  { d with lines := d.lines.map LineSlot.invalidate, dirtyCount := d.lines.size, resume := some 0 }

/-- The document with its whole text replaced; the grammar and limits stay. -/
def setText (d : Document) (text : String) : Document :=
  { ofText d.grammar text with limits := d.limits }

/-- The document parsed with another grammar from now on. -/
def setGrammar (d : Document) (g : Grammar) : Document := invalidateAll { d with grammar := some g }

/-- The document with no grammar: nothing is parsed. -/
def clearGrammar (d : Document) : Document := invalidateAll { d with grammar := none }

/-- The document parsed under other limits from now on. -/
def setLimits (d : Document) (limits : ParseLimits) : Document := invalidateAll { d with limits }

/-- How many lines the document has. -/
def lineCount (d : Document) : Nat := d.lines.size

/-- The text of a line, none past the end. -/
def line? (d : Document) (line : Nat) : Option String := d.lines[line]?.map (·.text)

/-- The parse of a line, if it is final: none at or after the resume point. -/
def parsed? (d : Document) (line : Nat) : Option ParsedLine :=
  if d.resume.any (· ≤ line) then none else d.lines[line]?.bind (·.parsed)

/-- Whether there is a grammar and work left to do. -/
def inProgress (d : Document) : Bool := d.grammar.isSome && d.resume.isSome

/-- The resume point moved back to `line` if that is earlier. -/
def touch (d : Document) (line : Nat) : Document :=
  { d with resume := some (match d.resume with | some r => min r line | none => line) }

/-- The document with `removed` lines from `start` replaced by `inserted`. `start` is clamped to
the line count and `removed` to the lines there are. Removing every line leaves one empty line. When
nothing is inserted, the line that now follows the edit is marked, since the line before it
changed. -/
def replaceLines (d : Document) (start removed : Nat) (inserted : List String) : Document :=
  let start := min start d.lines.size
  let stop := min (start + removed) d.lines.size
  let added := inserted.length
  let lines := d.lines.extract 0 start ++ (inserted.map LineSlot.fresh).toArray ++
    d.lines.extract stop d.lines.size
  let count := d.dirtyCount - countDirty (d.lines.extract start stop) + added
  let (lines, count) := if lines.isEmpty then (#[LineSlot.fresh ""], count + 1) else (lines, count)
  let (lines, count) := if added == 0 then markDirtyAt lines count start else (lines, count)
  touch { d with lines, dirtyCount := count } (min start (lines.size - 1))

/-- The document with one line's text replaced; a line past the end is ignored. -/
def setLine (d : Document) (line : Nat) (text : String) : Document :=
  if line < d.lines.size then
    let (lines, count) := markDirtyAt (d.lines.modify line fun s => { s with text }) d.dirtyCount line
    touch { d with lines, dirtyCount := count } line
  else d

/-- The document with `inserted` placed before line `before` (clamped to the line count). -/
def insertLines (d : Document) (before : Nat) (inserted : List String) : Document :=
  replaceLines d before 0 inserted

/-- The document without `count` lines from `start`. -/
def removeLines (d : Document) (start count : Nat) : Document := replaceLines d start count []

/-- The state line `line` starts in: the state the line before it ended in, or the initial state
for the first line (or a line whose predecessor has no parse). -/
def incoming (lines : Array LineSlot) (line : Nat) : LineState :=
  match line with
  | 0 => LineState.initial
  | n + 1 => ((lines[n]?.bind (·.parsed)).map (·.state)).getD LineState.initial

/-- The first marked line at or after `start`; with no line marked there is none to look for. -/
def nextDirty (lines : Array LineSlot) (count start : Nat) : Option Nat :=
  if count == 0 then none
  else ((lines.extract start lines.size).findIdx? (·.dirty)).map (start + ·)

theorem nextDirty_ge {lines : Array LineSlot} {count start n : Nat}
    (h : nextDirty lines count start = some n) : start ≤ n := by
  unfold nextDirty at h
  split at h
  · simp at h
  · cases hf : (lines.extract start lines.size).findIdx? (·.dirty) with
    | none => simp [hf] at h
    | some i => simp [hf] at h; omega

/-- What a reconciliation run leaves: the lines, the count of marked lines, the line where the
budget stopped the run (none when the document caught up) and how many lines were parsed. -/
structure Reconciled where
  /-- The lines. -/
  lines : Array LineSlot
  /-- How many lines are marked. -/
  dirtyCount : Nat
  /-- Where the budget stopped the run, none when the document caught up. -/
  stoppedAt : Option Nat
  /-- How many lines were parsed. -/
  parsed : Nat

/-- Reparse from `line`, which starts in `state`, having parsed `parsed` lines so far. A line whose
new end state equals its old one ends the run of reparsing; the next marked line, if any,
continues it. Otherwise the following line is marked, since it now starts from a different
state. -/
def reconcileFrom (g : Grammar) (limits : ParseLimits) (budget : Budget) (line parsed : Nat)
    (state : LineState) (lines : Array LineSlot) (count : Nat) : Reconciled :=
  if h : line < lines.size then
    if budget.exhausted parsed then ⟨lines, count, some line, parsed⟩
    else
      let slot := lines[line]
      let result := g.parseLine slot.text state limits
      let converged := slot.parsed.any (·.state == result.state)
      let count := if slot.dirty then count - 1 else count
      let lines' := lines.set line { slot with parsed := some result, dirty := false } h
      if converged then
        match hn : nextDirty lines' count (line + 1) with
        | some next =>
          have := nextDirty_ge hn
          reconcileFrom g limits budget next (parsed + 1) (incoming lines' next) lines' count
        | none => ⟨lines', count, none, parsed + 1⟩
      else
        let marked := markDirtyAt lines' count (line + 1)
        reconcileFrom g limits budget (line + 1) (parsed + 1) result.state marked.1 marked.2
  else ⟨lines, count, none, parsed⟩
termination_by lines.size - line
decreasing_by
  all_goals (try simp only [Array.size_set, markDirtyAt_size] at *)
  all_goals omega

/-- One reconciliation slice under `budget`: reparse from the resume point until the budget runs
out or the document has caught up. Without a grammar or without pending work nothing happens. -/
def reconcile (d : Document) (budget : Budget) : Document × Report :=
  match d.grammar, d.resume with
  | some g, some start =>
    let r := reconcileFrom g d.limits budget start 0 (incoming d.lines start) d.lines d.dirtyCount
    ({ d with lines := r.lines, dirtyCount := r.dirtyCount, resume := r.stoppedAt },
      { status := if r.stoppedAt.isSome then .inProgress else .done, linesParsed := r.parsed,
        resumedAt := some start })
  | _, _ => (d, Report.idle)

/-- Reconciliation without a budget: afterwards every line holds its final parse. -/
def reconcileAll (d : Document) : Document × Report := reconcile d Budget.unbounded

/-- Whether a column is code; a line without a final parse is all code. -/
def isCode (d : Document) (line column : Nat) : Bool :=
  ((d.parsed? line).map fun p => (p.kindAt column).isCode).getD true

/-- Whether a column is in a comment of any kind, here-documents included. -/
def isComment (d : Document) (line column : Nat) : Bool :=
  (d.parsed? line).any fun p => (p.kindAt column).isComment

/-- Whether a column is in a block comment. -/
def isBlockComment (d : Document) (line column : Nat) : Bool :=
  (d.parsed? line).any fun p => (p.kindAt column).isBlockComment

/-- Whether a column is in a here-document. -/
def isHereDoc (d : Document) (line column : Nat) : Bool :=
  (d.parsed? line).any fun p => (p.kindAt column).isHereDoc

/-- Whether a column is in a string. -/
def isString (d : Document) (line column : Nat) : Bool :=
  (d.parsed? line).any fun p => (p.kindAt column).isString

end Document

end Highlight
