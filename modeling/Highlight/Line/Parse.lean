import Highlight.Line.Match
/-!
# Parsing a line

A line is parsed from the state the previous line left. At each column the active context's
first matching rule consumes text and switches contexts; where none matches, the context's
fallthrough switches without consuming, or the character is coloured with the context's own
attribute. A match that consumes nothing only switches; such steps are bounded per column, and a
switch that leaves the stack as it was advances one character instead, so parsing always ends.
At the end of the line the line-end switches run, unless a line continuation matched last.
-/

namespace Highlight

/-- Bounds that keep parsing total for any grammar. -/
structure ParseLimits where
  /-- Pushes beyond this stack depth are dropped. -/
  maxDepth : Nat := 256
  /-- Non-consuming switches allowed in a row at one column before one character is forced. -/
  maxZeroWidthSteps : Nat := 64
  deriving Repr, Inhabited, BEq

/-- The kind of text with attribute `attr` in the context of `frame`: text of a frame with
captures is a here-document; a comment attribute in a context that survives line ends and is
itself a comment is a block comment. -/
def textKind (g : Grammar) (attr : Nat) (frame : Frame) : TextKind :=
  if frame.hasCaptures then .hereDoc
  else
    let cls := g.attrFormat attr
    if cls.isComment then
      let ctx := g.context frame.context
      if ctx.persists && (g.attrFormat ctx.attr).isComment then .blockComment else .comment
    else if cls.isString then .string
    else .code

/-- The parser's progress through a line. -/
structure Progress where
  /-- The context stack. -/
  state : LineState
  /-- The spans so far. -/
  spans : Array Span
  /-- Non-consuming switches made in a row at this column. -/
  zeroSteps : Nat
  /-- The last consuming match was a line continuation. -/
  continued : Bool

namespace Progress

/-- Colours the character at `pos` with the attribute of the context of `frame`. -/
def unmatched (g : Grammar) (p : Progress) (pos : Nat) (frame : Frame) : Progress :=
  let attr := (g.context frame.context).attr
  { p with zeroSteps := 0, spans := p.spans.push ⟨pos, 1, attr, textKind g attr frame⟩ }

/-- Switches without consuming; none when the parser must advance a character instead, because
the limit of such steps is reached or the stack would not change. -/
def zeroWidth (g : Grammar) (limits : ParseLimits) (p : Progress) (sw : Switch)
    (bind : Option (Array String)) : Option Progress :=
  if p.zeroSteps ≥ limits.maxZeroWidthSteps then none
  else
    let next := p.state.apply g sw bind limits.maxDepth
    if next == p.state then none
    else some { p with state := next, zeroSteps := p.zeroSteps + 1 }

theorem zeroWidth_steps {g : Grammar} {limits : ParseLimits} {p q : Progress} {sw : Switch}
    {bind : Option (Array String)} (h : p.zeroWidth g limits sw bind = some q) :
    q.zeroSteps = p.zeroSteps + 1 ∧ p.zeroSteps < limits.maxZeroWidthSteps := by
  unfold zeroWidth at h
  by_cases h1 : p.zeroSteps ≥ limits.maxZeroWidthSteps
  · simp [h1] at h
  · by_cases h2 : (p.state.apply g sw bind limits.maxDepth == p.state) = true
    · simp [h1, h2] at h
    · simp only [h1, h2, if_false] at h
      cases h
      exact ⟨rfl, by omega⟩

end Progress

/-- One pass of the parser at column `pos` of `line`: the column, progress and matcher the next
pass starts from. The active context's first matching rule consumes text and switches; where none
matches, the context's fallthrough switches without consuming, or the character is coloured with
the context's own attribute. A match that consumes nothing only switches, and where it may not,
the character is coloured instead. -/
def scanStep (g : Grammar) (limits : ParseLimits) (line : Line) (pos : Nat) (p : Progress)
    (m : Matcher) : Nat × Progress × Matcher :=
  let frame := p.state.top
  let ctx := g.context frame.context
  let (found, m) := (firstMatch g line (g.separatorsOf frame.context) frame pos ctx).run m
  match found with
  | none =>
    match ctx.fallthrough with
    | some sw =>
      match p.zeroWidth g limits sw none with
      | some q => (pos, q, m)
      | none => (pos + 1, p.unmatched g pos frame, m)
    | none => (pos + 1, p.unmatched g pos frame, m)
  | some (rule, hit) =>
    let sw : Switch := match hit.continuation with
      | some c => { push := [c] }
      | none => rule.switch
    if rule.lookAhead || hit.stop ≤ pos then
      match p.zeroWidth g limits sw hit.bind with
      | some q => (pos, q, m)
      | none => (pos + 1, p.unmatched g pos frame, m)
    else
      let state := p.state.apply g sw hit.bind limits.maxDepth
      let owner := if sw.push.isEmpty then frame else state.top
      (hit.stop, { p with
        zeroSteps := 0, state, continued := hit.lineContinue,
        spans := p.spans.push ⟨pos, hit.stop - pos, rule.attr, textKind g rule.attr owner⟩ }, m)

/-- A pass advances the column, or stays at it with one more non-consuming switch, below the
limit. -/
theorem scanStep_advances (g : Grammar) (limits : ParseLimits) (line : Line) (pos : Nat)
    (p : Progress) (m : Matcher) :
    (pos < (scanStep g limits line pos p m).1 ∧ (scanStep g limits line pos p m).2.1.zeroSteps = 0) ∨
      ((scanStep g limits line pos p m).1 = pos ∧
        (scanStep g limits line pos p m).2.1.zeroSteps = p.zeroSteps + 1 ∧
        p.zeroSteps < limits.maxZeroWidthSteps) := by
  unfold scanStep
  dsimp only
  split
  next found m' hfound =>
    cases found with
    | none =>
      dsimp only
      cases hf : (g.context p.state.top.context).fallthrough with
      | none => exact .inl ⟨Nat.lt_succ_self pos, rfl⟩
      | some sw =>
        dsimp only
        cases hz : p.zeroWidth g limits sw none with
        | none => exact .inl ⟨Nat.lt_succ_self pos, rfl⟩
        | some q => exact .inr ⟨rfl, Progress.zeroWidth_steps hz⟩
    | some found =>
      obtain ⟨rule, hit⟩ := found
      dsimp only
      split
      · next hstop =>
        split
        · next q hz => exact .inr ⟨rfl, Progress.zeroWidth_steps hz⟩
        · exact .inl ⟨Nat.lt_succ_self pos, rfl⟩
      · next hstop =>
        simp only [Bool.or_eq_true, decide_eq_true_eq, not_or, Nat.not_le] at hstop
        exact .inl ⟨hstop.2, rfl⟩

/-- The main loop: parses the columns of `line` from `pos` on, with what the matcher remembers of
the line so far, and gives the progress it ends with and the matcher, whose cache of dynamic
patterns the grammar keeps for later lines. Each pass either advances or makes one more
non-consuming switch at the same column, which the limit bounds. -/
def scanLoop (g : Grammar) (limits : ParseLimits) (line : Line) (pos : Nat) (p : Progress)
    (m : Matcher) : Progress × Matcher :=
  if pos < line.size then
    let next := scanStep g limits line pos p m
    scanLoop g limits line next.1 next.2.1 next.2.2
  else (p, m)
termination_by (line.size - pos, limits.maxZeroWidthSteps - p.zeroSteps)
decreasing_by
  rcases scanStep_advances g limits line pos p m with ⟨h₁, -⟩ | ⟨h₁, h₂, h₃⟩
  · exact Prod.Lex.left _ _ (by omega)
  · rw [h₁]
    exact Prod.Lex.right _ (by omega)

/-- The progress the main loop ends with. -/
def scan (g : Grammar) (limits : ParseLimits) (line : Line) (pos : Nat) (p : Progress)
    (m : Matcher) : Progress :=
  (scanLoop g limits line pos p m).1

/-- On the line, the main loop makes a pass and goes on from where it leaves. -/
theorem scanLoop_of_lt {g : Grammar} {limits : ParseLimits} {line : Line} {pos : Nat}
    {p : Progress} {m : Matcher} (h : pos < line.size) :
    scanLoop g limits line pos p m =
      scanLoop g limits line (scanStep g limits line pos p m).1 (scanStep g limits line pos p m).2.1
        (scanStep g limits line pos p m).2.2 := by
  rw [scanLoop, if_pos h]

theorem scan_of_lt {g : Grammar} {limits : ParseLimits} {line : Line} {pos : Nat}
    {p : Progress} {m : Matcher} (h : pos < line.size) :
    scan g limits line pos p m =
      scan g limits line (scanStep g limits line pos p m).1 (scanStep g limits line pos p m).2.1
        (scanStep g limits line pos p m).2.2 := by
  rw [scan, scanLoop_of_lt h, scan]

/-- Past the end of the line the main loop stops. -/
theorem scanLoop_of_size_le {g : Grammar} {limits : ParseLimits} {line : Line} {pos : Nat}
    {p : Progress} {m : Matcher} (h : line.size ≤ pos) : scanLoop g limits line pos p m = (p, m) := by
  rw [scanLoop, if_neg (Nat.not_lt.2 h)]

theorem scan_of_size_le {g : Grammar} {limits : ParseLimits} {line : Line} {pos : Nat}
    {p : Progress} {m : Matcher} (h : line.size ≤ pos) : scan g limits line pos p m = p := by
  rw [scan, scanLoop_of_size_le h]

/-- The line-end switches: the active context's line-end switch is applied until a context that
survives line ends is on top, the stack stops changing, or `n` switches were made. -/
def closeLine (g : Grammar) (maxDepth : Nat) : Nat → LineState → LineState
  | 0, s => s
  | n + 1, s =>
    let sw := (g.context s.top.context).lineEnd
    if sw.isStay then s
    else
      let s' := s.apply g sw none maxDepth
      if s' == s then s else closeLine g maxDepth n s'

/-- The state after the end of a line: an empty line whose context has an empty-line switch
takes that switch alone; otherwise the line-end switches run, at most `maxDepth` of them. -/
def endOfLine (g : Grammar) (limits : ParseLimits) (s : LineState) (empty : Bool) : LineState :=
  match empty, (g.context s.top.context).lineEmpty with
  | true, some sw => s.apply g sw none limits.maxDepth
  | _, _ => closeLine g limits.maxDepth limits.maxDepth s

/-- Parses one line, without its terminator, from the state the previous line left, with the
grammar's cache of dynamic patterns as earlier parses left it; gives the parse and the cache the
line leaves. -/
def Grammar.parseLineWith (g : Grammar) (cache : RegexCache) (text : String) (previous : LineState)
    (limits : ParseLimits) : ParsedLine × RegexCache :=
  let line := Line.ofString text
  let r := scanLoop g limits line 0
    { state := previous, spans := #[], zeroSteps := 0, continued := false } { cache }
  (⟨r.1.spans, if r.1.continued then r.1.state else endOfLine g limits r.1.state (line.size == 0)⟩,
    r.2.cache)

/-- Parses one line as a freshly loaded grammar does, with nothing in its cache. -/
def Grammar.parseLine (g : Grammar) (text : String) (previous : LineState) (limits : ParseLimits) :
    ParsedLine :=
  (g.parseLineWith {} text previous limits).1

/-- A line's parse is what the main loop leaves, with the line-end switches unless a line
continuation matched last. -/
theorem Grammar.parseLine_eq (g : Grammar) (text : String) (previous : LineState)
    (limits : ParseLimits) :
    g.parseLine text previous limits =
      let line := Line.ofString text
      let p := scan g limits line 0
        { state := previous, spans := #[], zeroSteps := 0, continued := false } {}
      ⟨p.spans, if p.continued then p.state else endOfLine g limits p.state (line.size == 0)⟩ :=
  rfl

/-- Parses lines in order with one grammar, each from the state the line before it ended in and
with the cache of dynamic patterns the line before left. -/
def Grammar.parseLines (g : Grammar) (limits : ParseLimits) :
    RegexCache → LineState → List String → List ParsedLine
  | _, _, [] => []
  | c, s, t :: ts =>
    let r := g.parseLineWith c t s limits
    r.1 :: g.parseLines limits r.2 r.1.state ts

/-- Parses lines in order from `s`, each from the state the line before it ended in. -/
def Grammar.rescan (g : Grammar) (limits : ParseLimits) : LineState → List String → List ParsedLine
  | _, [] => []
  | s, t :: ts =>
    let p := g.parseLine t s limits
    p :: g.rescan limits p.state ts

namespace Grammar

variable (g : Grammar) (limits : ParseLimits)

@[simp] theorem rescan_nil (s : LineState) : g.rescan limits s [] = [] := rfl

@[simp] theorem rescan_cons (s : LineState) (t : String) (ts : List String) :
    g.rescan limits s (t :: ts) =
      g.parseLine t s limits :: g.rescan limits (g.parseLine t s limits).state ts := rfl

@[simp] theorem length_rescan (s : LineState) (ts : List String) :
    (g.rescan limits s ts).length = ts.length := by
  induction ts generalizing s with
  | nil => rfl
  | cons t ts ih => simp [ih]

end Grammar

end Highlight
