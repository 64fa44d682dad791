import Std.Data.HashSet
import Highlight.Regex.Program
import Highlight.Regex.Read
import Highlight.Text.Word
/-!
# Running patterns

`LinearProgram.run` searches depth-first in priority order and remembers each (step, position)
pair it has tried: a pair tried once and met again can only fail again, because nothing in a
linear program depends on how the position was reached. The first path to reach `done` wins, so
the match is the leftmost one and, at that start, the first in priority order.

`Program.run` is a backtracking machine. It keeps a stack of saved alternatives, each with the
slot values to put back when it is resumed, and it counts resumptions: past `backtrackLimit` the
search gives up and reports `exhausted`, and a caller treats that as no match.
-/

namespace Highlight.Regex

/-- Whether an assertion holds at position `pos` of `text`, for a search that started at
`start`. -/
def Assertion.holds (a : Assertion) (text : Array Char) (start pos : Nat) : Bool :=
  let before := match pos with
    | 0 => false
    | p + 1 => (text[p]?.map Text.isWordChar).getD false
  let after := (text[pos]?.map Text.isWordChar).getD false
  match a with
  | .startText => pos == 0
  | .endText => pos == text.size
  | .endTextNewlines => (text.extract pos text.size).all (· == '\n')
  | .startLine => pos == 0 || text[pos - 1]? == some '\n'
  | .endLine => pos == text.size || text[pos]? == some '\n'
  | .wordBoundary => before != after
  | .notWordBoundary => before == after
  | .wordStart => !before && after
  | .wordEnd => before && !after
  | .wordStartHalf => !before
  | .wordEndHalf => !after
  | .searchStart => pos == start

/-- Whether the character `c` is `expected`, exactly or up to case. -/
def charMatches (expected c : Char) (caseless : Bool) : Bool :=
  c == expected || (caseless && Text.sameUpToCase c expected)

/-- Whether `.` matches `c`. -/
def anyMatches (newline : Bool) (c : Char) : Bool := newline || c != '\n'

/-- Capture slots: the position each holds, if any. -/
abbrev Slots := Array (Option Nat)

/-! ## Linear search -/

/-- Work left in a linear search: try a step at a position, or put a slot back. -/
inductive Task where
  | explore (pc pos : Nat)
  | undo (slot : Nat) (old : Option Nat)

/-- The (step, position) pairs a linear search has tried, by their index: an array of flags
when there are few pairs, else a set of the tried ones. -/
inductive Marks where
  | dense (flags : Array Bool)
  | sparse (tried : Std.HashSet Nat)

/-- The most pairs kept as an array of flags. -/
def denseMarkLimit : Nat := 4000000

namespace Marks

/-- No pair tried, out of `n`. -/
def fresh (n : Nat) : Marks :=
  if n ≤ denseMarkLimit then .dense (Array.replicate n false) else .sparse {}

/-- Whether pair `k` was tried; pairs out of range count as tried. -/
def tried (m : Marks) (k : Nat) : Bool :=
  match m with
  | .dense flags => flags[k]?.getD true
  | .sparse s => s.contains k

/-- Marks pair `k` as tried. -/
def mark (m : Marks) (k : Nat) : Marks :=
  match m with
  | .dense flags => .dense (flags.set! k true)
  | .sparse s => .sparse (s.insert k)

end Marks

namespace LinearProgram

/-- The depth-first search from the tasks `todo`, skipping pairs marked in `seen` (indexed
`pc * (text.size + 1) + pos`). Returns the slots and the end position of the first path to
`done` (that ends at `stop`, when given), with the marks made so far. `fuel` bounds the number
of tasks handled. -/
def explore (p : LinearProgram) (text : Array Char) (start : Nat) (stop : Option Nat) :
    Nat → List Task → Slots → Marks → Option (Slots × Nat) × Marks
  | 0, _, _, seen => (none, seen)
  | _ + 1, [], _, seen => (none, seen)
  | fuel + 1, .undo slot old :: todo, slots, seen =>
    explore p text start stop fuel todo (slots.set! slot old) seen
  | fuel + 1, .explore pc pos :: todo, slots, seen =>
    let key := pc * (text.size + 1) + pos
    if seen.tried key then explore p text start stop fuel todo slots seen
    else
      let seen := seen.mark key
      let next (ok : Bool) (pos' : Nat) :=
        if ok then explore p text start stop fuel (.explore (pc + 1) pos' :: todo) slots seen
        else explore p text start stop fuel todo slots seen
      match p.steps[pc]? with
      | some (.char c cl) => next ((text[pos]?.map (charMatches c · cl)).getD false) (pos + 1)
      | some (.any nl) => next ((text[pos]?.map (anyMatches nl)).getD false) (pos + 1)
      | some (.set s) => next ((text[pos]?.map s.contains).getD false) (pos + 1)
      | some (.assert a) => next (a.holds text start pos) pos
      | some (.split x y) =>
        explore p text start stop fuel (.explore x pos :: .explore y pos :: todo) slots seen
      | some (.jump t) => explore p text start stop fuel (.explore t pos :: todo) slots seen
      | some (.save slot) =>
        explore p text start stop fuel
          (.explore (pc + 1) pos :: .undo slot (slots[slot]?.join) :: todo)
          (slots.set! slot (some pos)) seen
      | some .done =>
        if stop.all (· == pos) then (some (slots, pos), seen)
        else explore p text start stop fuel todo slots seen
      | none => explore p text start stop fuel todo slots seen

/-- A task budget that a search over `text` cannot exhaust. -/
def budget (p : LinearProgram) (text : Array Char) : Nat :=
  4 * (p.steps.size + 1) * (text.size + 2) + 16

/-- No pair of a search over `text` tried yet. -/
def freshMarks (p : LinearProgram) (text : Array Char) : Marks :=
  Marks.fresh ((p.steps.size + 1) * (text.size + 1))

/-- The first match starting exactly at `pos`, with `slotCount` slots, for a search that started
at `start`. -/
def matchAt (p : LinearProgram) (text : Array Char) (start pos slotCount : Nat) :
    Option (Slots × Nat) :=
  (p.explore text start none (p.budget text) [.explore 0 pos] (Array.replicate slotCount none)
    (p.freshMarks text)).1

/-- The first match that ends exactly at `pos`, trying the starts from `pos` back to the start of
the text. -/
def matchEndingAt (p : LinearProgram) (text : Array Char) (start pos slotCount : Nat) :
    Option (Slots × Nat) :=
  (List.range (pos + 1)).findSome? fun k =>
    (p.explore text start (some pos) (p.budget text) [.explore 0 (pos - k)]
      (Array.replicate slotCount none) (p.freshMarks text)).1

/-- The leftmost match starting at or after `start`, trying each start in turn; what failed from
an earlier start fails from a later one too, so the marks are kept. -/
def search (p : LinearProgram) (text : Array Char) (start slotCount : Nat) : Option (Slots × Nat) :=
  let rec go (seen : Marks) : Nat → Nat → Option (Slots × Nat)
    | 0, _ => none
    | n + 1, s =>
      if s > text.size then none
      else
        match p.explore text start none (p.budget text) [.explore 0 s]
            (Array.replicate slotCount none) seen with
        | (some r, _) => some r
        | (none, seen) => go seen n (s + 1)
  go (p.freshMarks text) (text.size + 2 - start) start

end LinearProgram

/-! ## The backtracking machine -/

/-- A saved alternative: where to go on, the slot values to put back, and the atomic groups
being matched when it was saved. -/
structure Branch where
  pc : Nat
  pos : Nat
  undo : List (Nat × Option Nat)
  atomics : List Nat

/-- The state of the backtracking machine. -/
structure Machine where
  pc : Nat
  pos : Nat
  slots : Slots
  /-- Saved alternatives, latest first. -/
  stack : List Branch
  /-- How many alternatives are saved. -/
  depth : Nat
  /-- The slot values changed since the latest alternative was saved, latest first. -/
  undo : List (Nat × Option Nat)
  /-- How many alternatives have been resumed. -/
  backtracks : Nat
  /-- Stack heights at the entries of the atomic groups being matched. -/
  atomics : List Nat

/-- How a run of the machine ends. -/
inductive Outcome where
  | matched (slots : Slots)
  | failed
  /-- The resumption limit, the stack limit or the step budget ran out. -/
  | exhausted

/-- The most alternatives the machine resumes before it gives up. -/
def backtrackLimit : Nat := 1000000

/-- The most alternatives the machine keeps saved at once. -/
def stackLimit : Nat := 1000000

namespace Machine

/-- Writes a slot, remembering its old value unless it changed already since the latest
alternative was saved. -/
def write (m : Machine) (slot : Nat) (v : Option Nat) : Machine :=
  let undo := if m.undo.any (·.1 == slot) then m.undo else (slot, m.slots[slot]?.join) :: m.undo
  { m with slots := m.slots.set! slot v, undo }

/-- Saves an alternative. -/
def push (m : Machine) (pc pos : Nat) : Option Machine :=
  if m.depth ≥ stackLimit then none
  else
    some { m with stack := ⟨pc, pos, m.undo, m.atomics⟩ :: m.stack, depth := m.depth + 1,
                  undo := [] }

/-- Puts back the slots and atomic groups as they were when the latest alternative was saved,
and takes it off the stack. -/
def pop (m : Machine) : Option (Branch × Machine) :=
  let slots := m.undo.foldl (fun s (slot, v) => s.set! slot v) m.slots
  match m.stack with
  | b :: rest =>
    some (b, { m with slots, stack := rest, depth := m.depth - 1, undo := b.undo,
                      atomics := b.atomics })
  | [] => none

/-- Drops saved alternatives above height `h`; the slot changes they recorded join the current
ones, so that resuming an older alternative still puts everything back. -/
def cutTo (m : Machine) (h : Nat) : Machine :=
  let extra := m.depth - h
  let dropped := m.stack.take extra
  { m with stack := m.stack.drop extra, depth := m.depth - extra,
           undo := m.undo ++ dropped.flatMap (·.undo) }

/-- Drops alternatives up to and including the one that resumes at `target`. -/
def dropThrough (target : Nat) : Nat → Machine → Machine
  | 0, m => m
  | n + 1, m =>
    match m.pop with
    | some (b, m') => if b.pc == target then m' else dropThrough target n m'
    | none => m

/-- Writes the slots of groups `sm.firstGroup ..< sm.endGroup` from those a sub-program found. -/
def writeGroups (m : Machine) (sm : SubMatch) (found : Slots) : Machine :=
  (List.range (sm.endGroup - sm.firstGroup)).foldl (fun m i =>
    let slot := 2 * (sm.firstGroup + i)
    match found[slot]?.join, found[slot + 1]?.join with
    | some a, some b => (m.write slot (some a)).write (slot + 1) (some b)
    | _, _ => (m.write slot none).write (slot + 1) none) m

end Machine

/-- One step of the machine. -/
inductive StepResult where
  | next (m : Machine)
  | fail (m : Machine)
  | finish (o : Outcome)

namespace Program

/-- The number of characters from `pos` whose UTF-8 encodings take exactly `bytes` bytes. -/
def charsInBytes (text : Array Char) (pos bytes : Nat) : Option Nat :=
  let rec go (k used : Nat) : Nat → Option Nat
    | 0 => none
    | fuel + 1 =>
      if used == bytes then some k
      else if used > bytes then none
      else match text[pos + k]? with
        | some c => go (k + 1) (used + c.utf8Size) fuel
        | none => none
  go 0 0 (bytes + 1)

/-- Whether the text at `pos` repeats the captured text `a ..< b`: exactly, or, when
`caseless`, up to case in as many UTF-8 bytes. Returns the position after it. -/
def repeatsCapture (text : Array Char) (a b pos : Nat) (caseless : Bool) : Option Nat :=
  let captured := text.extract a b
  if (List.range captured.size).all fun i => text[pos + i]? == captured[i]? then
    some (pos + captured.size)
  else if !caseless then none
  else
    let bytes := captured.foldl (fun n c => n + c.utf8Size) 0
    match charsInBytes text pos bytes with
    | some n =>
      if n == captured.size && (List.range n).all fun i =>
          match text[pos + i]?, captured[i]? with
          | some x, some y => Text.sameUpToCase x y
          | _, _ => false
      then some (pos + n) else none
    | none => none

/-- Executes the instruction at the machine's `pc`, for a search that started at `start`. -/
def step (p : Program) (text : Array Char) (start : Nat) (m : Machine) : StepResult :=
  let advance (ok : Bool) (pos : Nat) : StepResult :=
    if ok then .next { m with pc := m.pc + 1, pos } else .fail m
  let get (slot : Nat) : Option Nat := m.slots[slot]?.join
  match p.ops[m.pc]? with
  | none => .fail m
  | some op =>
    match op with
    | .split x y =>
      match m.push y m.pos with
      | some m' => .next { m' with pc := x }
      | none => .finish .exhausted
    | .jump t => .next { m with pc := t }
    | .save slot => .next { m.write slot (some m.pos) with pc := m.pc + 1 }
    | .resetCount slot => .next { m.write slot (some 0) with pc := m.pc + 1 }
    | .restore slot => .next { m with pc := m.pc + 1, pos := (get slot).getD m.pos }
    | .lit cs =>
      advance (cs.zipIdx.all fun (c, i) => text[m.pos + i]? == some c) (m.pos + cs.length)
    | .char c cl => advance ((text[m.pos]?.map (charMatches c · cl)).getD false) (m.pos + 1)
    | .any nl => advance ((text[m.pos]?.map (anyMatches nl)).getD false) (m.pos + 1)
    | .set s => advance ((text[m.pos]?.map s.contains).getD false) (m.pos + 1)
    | .assert a => advance (a.holds text start m.pos) m.pos
    | .sub sm =>
      match sm.program.matchAt text start m.pos p.slots with
      | none => .fail m
      | some (found, stop) => .next { m.writeGroups sm found with pc := m.pc + 1, pos := stop }
    | .behind sm =>
      match sm.program.matchEndingAt text start m.pos p.slots with
      | none => .fail m
      | some (found, _) => .next { m.writeGroups sm found with pc := m.pc + 1 }
    | .captured slot => advance (get slot).isSome m.pos
    | .stepBack =>
      if m.pos == 0 then .next { m with pc := m.pc + 1 }
      else
        match m.push m.pc (m.pos - 1) with
        | some m' => .next { m' with pc := m.pc + 1 }
        | none => .finish .exhausted
    | .checkAt slot => advance (get slot == some m.pos) m.pos
    | .repeatCount lo hi next slot greedy =>
      let count := (get slot).getD 0
      if hi == some count then .next { m with pc := next }
      else
        let m := m.write slot (some (count + 1))
        if count < lo then .next { m with pc := m.pc + 1 }
        else if greedy then
          match m.push next m.pos with
          | some m' => .next { m' with pc := m.pc + 1 }
          | none => .finish .exhausted
        else
          match m.push (m.pc + 1) m.pos with
          | some m' => .next { m' with pc := next }
          | none => .finish .exhausted
    | .repeatNonEmpty lo next slot check greedy =>
      let count := (get slot).getD 0
      if count > lo && get check == some m.pos then .fail m
      else
        let m := m.write slot (some (count + 1))
        if count < lo then .next { m with pc := m.pc + 1 }
        else
          let m := m.write check (some m.pos)
          if greedy then
            match m.push next m.pos with
            | some m' => .next { m' with pc := m.pc + 1 }
            | none => .finish .exhausted
          else
            match m.push (m.pc + 1) m.pos with
            | some m' => .next { m' with pc := next }
            | none => .finish .exhausted
    | .goBack n => if n ≤ m.pos then .next { m with pc := m.pc + 1, pos := m.pos - n } else .fail m
    | .failNegative => .fail (Machine.dropThrough (m.pc + 1) (m.depth + 1) m)
    | .backref slot cl =>
      match get slot, get (slot + 1) with
      | some a, some b =>
        match repeatsCapture text a b m.pos cl with
        | some next => .next { m with pc := m.pc + 1, pos := next }
        | none => .fail m
      | _, _ => .fail m
    | .beginAtomic => .next { m with pc := m.pc + 1, atomics := m.depth :: m.atomics }
    | .endAtomic =>
      match m.atomics with
      | h :: rest => .next { (m.cutTo h) with pc := m.pc + 1, atomics := rest }
      | [] => .next { m with pc := m.pc + 1 }
    | .done => .finish (.matched m.slots)

/-- Runs the machine for at most `fuel` steps. A failure resumes the latest alternative and
counts one resumption; with no alternative left the search has failed. -/
def runFor (p : Program) (text : Array Char) (start : Nat) : Nat → Machine → Outcome
  | 0, _ => .exhausted
  | fuel + 1, m =>
    match p.step text start m with
    | .next m' => runFor p text start fuel m'
    | .finish o => o
    | .fail m' =>
      match m'.pop with
      | none => .failed
      | some (b, m'') =>
        if m'.backtracks + 1 > backtrackLimit then .exhausted
        else
          runFor p text start fuel
            { m'' with pc := b.pc, pos := b.pos, backtracks := m'.backtracks + 1 }

/-- Searches `text` from `start`. -/
def run (p : Program) (text : Array Char) (start : Nat) : Outcome :=
  let fuel := (backtrackLimit + 2) * (p.ops.size + 2) * (text.size + 2)
  p.runFor text start fuel {
    pc := 0, pos := start, slots := Array.replicate p.slots none, stack := [], depth := 0, undo := [],
    backtracks := 0, atomics := [] }

end Program

/-! ## Patterns -/

/-- How a compiled pattern is searched. -/
inductive Engine where
  | linear (p : LinearProgram)
  | backtracking (p : Program)
  deriving Inhabited

end Highlight.Regex

namespace Highlight

/-- A compiled pattern. -/
structure Regex where
  /-- The text it was compiled from. -/
  source : String
  /-- The number of capture groups, not counting the whole match. -/
  groups : Nat
  /-- How it is searched. -/
  engine : Regex.Engine
  deriving Inhabited

/-- Why a pattern does not compile. -/
inductive RegexError where
  | syntaxError (e : Regex.SyntaxError)
  | compileError (e : Regex.CompileError)
  deriving Inhabited

namespace Regex

/-- Whether some back-reference or test of a conditional names a group the pattern does not
have (group 0 included). -/
def badBackref (groups : Nat) : Node → Bool
  | .backref g _ | .captured g => g == 0 || g > groups
  | .concat parts | .alt parts => parts.attach.any fun ⟨p, _⟩ => badBackref groups p
  | .group body | .rep body .. | .look body .. | .atomic body => badBackref groups body
  | .cond test yes no => badBackref groups test || badBackref groups yes || badBackref groups no
  | _ => false

/-- Compiles a pattern of the full dialect. -/
def compile (source : String) : Except RegexError Regex := do
  let pat ← (Pattern.parse .full source).mapError .syntaxError
  if badBackref pat.groups pat.root then throw (.compileError ⟨"invalid back-reference"⟩)
  if pat.root.isHard then
    let p ← (Program.ofPattern pat).mapError .compileError
    pure ⟨source, pat.groups, .backtracking p⟩
  else
    let p ← (LinearProgram.ofNode (.group pat.root) 0).mapError .compileError
    pure ⟨source, pat.groups, .linear p⟩

/-- Compiles a pattern of the plain dialect (no look-around, back-references, atomic groups or
conditionals). -/
def compilePlain (source : String) : Except RegexError Regex := do
  let pat ← (Pattern.parse .plain source).mapError .syntaxError
  let p ← (LinearProgram.ofNode (.group pat.root) 0).mapError .compileError
  pure ⟨source, pat.groups, .linear p⟩

/-- The outcome of a search: the span of each group (group 0 the whole match), or no match, or
a search that gave up. -/
inductive Found where
  | spans (groups : Array (Option (Nat × Nat)))
  | none
  | gaveUp

/-- The spans of groups `0 ..= groups` in a slot array. -/
def spansOf (groups : Nat) (slots : Slots) : Array (Option (Nat × Nat)) :=
  (Array.range (groups + 1)).map fun g =>
    match slots[2 * g]?.join, slots[2 * g + 1]?.join with
    | some a, some b => some (a, b)
    | _, _ => Option.none

/-- Runs an engine from `start`; the linear machine keeps `slotCount` slots and never gives up. -/
def Engine.run (e : Engine) (text : Array Char) (start slotCount : Nat) : Outcome :=
  match e with
  | .linear p =>
    match p.search text start slotCount with
    | some (slots, _) => .matched slots
    | Option.none => .failed
  | .backtracking p => p.run text start

/-- What a run found, with the spans of groups `0 ..= groups`. -/
def Outcome.found (groups : Nat) : Outcome → Found
  | .matched slots => .spans (spansOf groups slots)
  | .failed => .none
  | .exhausted => .gaveUp

/-- Searches `text` for the leftmost match starting at or after `start`. The whole text is
visible to anchors, word boundaries and look-behind. -/
def search (r : Regex) (text : Array Char) (start : Nat) : Found :=
  (r.engine.run text start (2 * (r.groups + 1))).found r.groups

/-- Whether the pattern matches somewhere in `text`. -/
def isMatch (r : Regex) (text : String) : Bool :=
  match r.search text.toList.toArray 0 with
  | .spans _ => true
  | _ => false

end Regex

end Highlight
