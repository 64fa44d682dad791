import Highlight.Line.Literal
import Highlight.Line.Span
import Highlight.Line.Text
import Highlight.Grammar.Cache
/-!
# Matching rules at a column

A rule is tried at a column of a line, with the frame of the active context and the separators of
its grammar. Its column and first-non-blank conditions come first, then its kind; after a match,
the first child rule that matches where it ended extends it.

Regular expressions search forward over the whole line, so that anchors and look-behind see the
real line start. The matcher remembers, for each pattern, where its latest search started and
where the match it found starts: a later column before that match, and after that start, cannot
be a match start, so the search is skipped. A pattern's searches are remembered under its
identity: a fixed pattern's index in the grammar's table, or the identity the grammar's cache gave
a dynamic pattern when it compiled it (`RegexCache`). The matcher reads and fills that cache,
which outlives the line.
-/

namespace Highlight

/-- What a successful rule match gives. -/
structure Hit where
  /-- The column just past the match, children included. -/
  stop : Nat
  /-- Captures to bind on pushed dynamic contexts. -/
  bind : Option (Array String) := none
  /-- The continuation context, when a range ran off the end of the line. -/
  continuation : Option Nat := none
  /-- A line continuation matched the last character. -/
  lineContinue : Bool := false
  deriving Inhabited

/-- The identity under which a pattern's searches are remembered. -/
inductive PatternKey where
  /-- A fixed pattern, by its index in the grammar's table. -/
  | fixed (id : Nat)
  /-- A dynamic pattern, by the identity of the compilation the grammar's cache handed out. -/
  | dynamic (id : Nat)
  deriving BEq, DecidableEq

/-- The latest search of one pattern on the line. -/
structure Search where
  /-- The pattern. -/
  key : PatternKey
  /-- The column the search started at. -/
  start : Nat
  /-- Where the match found starts, if one was found. -/
  found : Option Nat

/-- What matching one line remembers, with the grammar's cache of dynamic patterns it reads and
fills. -/
structure Matcher where
  /-- The latest search of each pattern on this line. -/
  searches : List Search := []
  /-- The grammar's cache of dynamic patterns, as earlier lines and this one left it. -/
  cache : RegexCache := {}
  deriving Inhabited

namespace Matcher

/-- The compiled form of a dynamic pattern's bound text, from the grammar's cache. -/
def dynamicRegex (source : String) (insensitive : Bool) : StateM Matcher (Option CachedRegex) :=
  modifyGet fun m =>
    let (r, cache) := m.cache.get source insensitive
    (r, { m with cache })

/-- Whether the remembered search of `key` shows that no match starts at `pos`: it started at or
before `pos` and found nothing, or found a match starting after `pos`. -/
def ruledOut (m : Matcher) (key : PatternKey) (pos : Nat) : Bool :=
  match m.searches.find? (·.key == key) with
  | some prev => prev.start ≤ pos && (prev.found.all (· > pos))
  | none => false

/-- Remembers a search. -/
def remember (m : Matcher) (s : Search) : Matcher :=
  { m with searches := s :: m.searches.filter (·.key != s.key) }

end Matcher

namespace Line

/-- The characters from column `pos` on. -/
def rest (l : Line) (pos : Nat) : List Char := (l.chars.extract pos l.size).toList

/-- The text of columns `a` to `b`. -/
def slice (l : Line) (a b : Nat) : String := String.ofList (l.chars.extract a b).toList

end Line

/-- Whether a rule pushes a context with placeholders. -/
def Rule.pushesDynamic (g : Grammar) (r : Rule) : Bool :=
  r.switch.push.any fun c => (g.context c).isDynamic

/-- The compiled form of a pattern in `frame`, with the key its searches are remembered under: a
fixed pattern from the grammar's table, a dynamic one from the grammar's cache with the frame's
captures bound; none when the bound text does not compile. -/
def patternIn (g : Grammar) (frame : Frame) : Pattern → StateM Matcher (Option (PatternKey × Regex))
  | .fixed _ id => pure (g.patterns[id]?.map (PatternKey.fixed id, ·))
  | .dynamic source insensitive => do
    let bound := Placeholder.substitute source frame.bound true
    return (← Matcher.dynamicRegex bound insensitive).map fun r => (PatternKey.dynamic r.id, r.regex)

/-- Matches a regular-expression rule at `pos`: a search from `pos` whose match starts there.
Groups are bound only when the rule pushes a dynamic context. -/
def searchPattern (g : Grammar) (line : Line) (frame : Frame) (r : Rule) (p : Pattern) (pos : Nat) :
    StateM Matcher (Option Hit) := do
  let some (key, regex) ← patternIn g frame p | return none
  if (← get).ruledOut key pos then return none
  let groups := match regex.search line.chars pos with
    | .spans gs => some gs
    | _ => none
  let whole := groups.bind fun gs => gs[0]?.join
  modify (·.remember ⟨key, pos, whole.map (·.1)⟩)
  let some (a, b) := whole | return none
  if a != pos then return none
  let bind := if r.pushesDynamic g then
      groups.map (·.map fun o => match o with
        | some (x, y) => line.slice x y
        | none => "")
    else none
  return some { stop := b, bind }

/-- Matches the kind of rule `r` at column `pos` of the line. -/
def matchKind (g : Grammar) (line : Line) (seps : Separators) (frame : Frame) (pos : Nat)
    (hpos : pos < line.size) (r : Rule) : StateM Matcher (Option Hit) :=
  have : pos < line.chars.size := hpos
  let current := line.chars[pos]
  let hitAt (stop : Nat) : Option Hit := some { stop }
  let bound (t : String) : String := if r.dynamic then Placeholder.substitute t frame.bound false else t
  let wordStart := line.isWordStart seps pos (Nat.le_of_lt hpos)
  let scanned (n : Option Nat) : Option Hit := n.bind fun n => hitAt (pos + n)
  match r.kind with
  | .detectChar ch ins => pure (if Line.charsEq current ch ins then hitAt (pos + 1) else none)
  | .dynamicChar n => pure do
    let c ← (← frame.bound[n]?).toList.head?
    if current == c then hitAt (pos + 1) else none
  | .detect2Chars a b ins => pure do
    let next ← line.chars[pos + 1]?
    if Line.charsEq current a ins && Line.charsEq next b ins then hitAt (pos + 2) else none
  | .anyChar set => pure (if set.contains current then hitAt (pos + 1) else none)
  | .stringDetect t ins => pure ((line.literalAt pos (bound t) ins).bind hitAt)
  | .wordDetect t ins => pure do
    if !wordStart then none
    let stop ← line.literalAt pos (bound t) ins
    if line.isWordEnd seps stop then hitAt stop else none
  | .keyword l => pure do
    if !wordStart then none
    let stop := line.wordEnd seps pos
    if stop == pos then none
    if (g.list l).contains (line.slice pos stop) then hitAt stop else none
  | .regExpr p => searchPattern g line frame r p pos
  | .int => pure (if wordStart then scanned (Literal.int (line.rest pos)) else none)
  | .float => pure (if wordStart then scanned (Literal.float (line.rest pos)) else none)
  | .hlCOct => pure (if wordStart then scanned (Literal.cOctal (line.rest pos)) else none)
  | .hlCHex => pure (if wordStart then scanned (Literal.cHex (line.rest pos)) else none)
  | .hlCStringChar => pure (scanned (Literal.cStringChar (line.rest pos)))
  | .hlCChar => pure (scanned (Literal.cChar (line.rest pos)))
  | .rangeDetect opening closing cont ins => pure do
    let afterOpening ← line.literalAt pos (bound opening) ins
    match line.findLiteral afterOpening (bound closing) ins with
    | some stop => hitAt stop
    | none => some { stop := line.size, bind := frame.captures, continuation := some cont }
  | .lineContinue ch =>
    pure (if current == ch && pos + 1 == line.size then some { stop := pos + 1, lineContinue := true }
      else none)
  | .detectSpaces =>
    let run := Literal.runLength Text.isBlank (line.rest pos)
    pure (if run > 0 then hitAt (pos + run) else none)
  | .detectIdentifier =>
    if current.isAlpha || current == '_' then
      pure (hitAt (pos + Literal.runLength (fun c => c.isAlphanum || c == '_') (line.rest pos)))
    else pure none

mutual

/-- Matches rule `r` at `pos`. A match that did not run off the line end is extended by the first
child rule that matches where it ended, unless it already reaches the end of the line. -/
def matchRule (g : Grammar) (line : Line) (seps : Separators) (frame : Frame) :
    Nat → Rule → StateM Matcher (Option Hit)
  | pos, r@⟨_, _, _, _, firstNonSpace, column, _, children⟩ => do
    if firstNonSpace && pos != line.firstNonSpace then return none
    if column.any (· != pos) then return none
    if hpos : pos < line.size then
      let some hit ← matchKind g line seps frame pos hpos r | return none
      if hit.continuation.isSome || hit.stop ≥ line.size then return some hit
      let extended ← matchChildren g line seps frame hit.stop children
      return some (match extended with
        | some e => { hit with stop := e.stop }
        | none => hit)
    else return none

/-- The match of the first of `rules` that matches at `pos`. -/
def matchChildren (g : Grammar) (line : Line) (seps : Separators) (frame : Frame) (pos : Nat) :
    List Rule → StateM Matcher (Option Hit)
  | [] => pure none
  | c :: cs => do
    match ← matchRule g line seps frame pos c with
    | some e => pure (some e)
    | none => matchChildren g line seps frame pos cs

end

/-- The first rule of a context that matches at `pos`, in order, with its match. -/
def firstMatch (g : Grammar) (line : Line) (seps : Separators) (frame : Frame) (pos : Nat)
    (ctx : Context) : StateM Matcher (Option (Rule × Hit)) :=
  ctx.rules.findSomeM? fun r => do
    return (← matchRule g line seps frame pos r).map (r, ·)

end Highlight
