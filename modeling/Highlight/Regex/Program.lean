import Highlight.Regex.Syntax
import Highlight.Regex.Size
/-!
# Compiled patterns

A pattern is compiled in one of two ways.

* A pattern without the parts that need backtracking (look-around, back-references, atomic
  groups, conditionals, `\K` and `\G`) becomes a `LinearProgram`: a
  small automaton of steps that is searched depth-first in priority order while remembering which
  (step, position) pairs have already failed, so a search takes time proportional to the size of
  the program times the length of the text.
* Any other pattern becomes a `Program` for a backtracking machine. Parts of it that need no
  backtracking from outside (a constant-width prefix or suffix of a sequence, the body of a
  look-around or of an atomic group when it is simple) are compiled as linear sub-programs that
  the machine runs as one step; everything else is spelt out in instructions, and the machine
  counts how often it resumes a saved alternative.

Every linear program must fit the automaton size limit of `Highlight.Regex.Size`, and its counts
must be below `maxCount`.

Capture group `g` keeps its start and end in slots `2g` and `2g+1`; group 0 is the whole match.
-/

namespace Highlight.Regex

/-! ## What a pattern needs -/

mutual

/-- The number of capture groups in a tree. -/
def Node.groupCount : Node → Nat
  | .concat parts | .alt parts => groupCountList parts
  | .group body => body.groupCount + 1
  | .rep body .. | .look body .. | .atomic body => body.groupCount
  | .cond test yes no => test.groupCount + yes.groupCount + no.groupCount
  | _ => 0

/-- The number of capture groups in a list of trees. -/
def groupCountList : List Node → Nat
  | [] => 0
  | n :: rest => n.groupCount + groupCountList rest

end

mutual

/-- The fewest characters a tree can match. -/
def Node.minSize : Node → Nat
  | .char .. | .any _ | .set .. => 1
  | .concat parts => minSizeSum parts
  | .alt [] => 0
  | .alt (p :: ps) => minSizeMin p.minSize ps
  | .group body | .atomic body => body.minSize
  | .rep body lo _ _ => body.minSize * lo
  | .cond test yes no => test.minSize + min yes.minSize no.minSize
  | _ => 0

/-- The sum of the fewest characters of the parts. -/
def minSizeSum : List Node → Nat
  | [] => 0
  | n :: rest => n.minSize + minSizeSum rest

/-- The least of `acc` and the fewest characters of the parts. -/
def minSizeMin (acc : Nat) : List Node → Nat
  | [] => acc
  | n :: rest => minSizeMin (min acc n.minSize) rest

end

mutual

/-- Whether every match of a tree has the same number of characters. -/
def Node.constSize : Node → Bool
  | .char .. | .any _ | .set .. | .assert _ | .empty | .look .. | .keep | .captured _ => true
  | .concat parts => constSizeAll parts
  | .alt [] => true
  | .alt (p :: ps) => p.constSize && sameSize p.minSize ps
  | .group body | .atomic body => body.constSize
  | .rep body lo hi _ => body.constSize && hi == some lo
  | .backref .. => false
  | .cond test yes no =>
    test.constSize && yes.constSize && no.constSize && test.minSize + yes.minSize == no.minSize

/-- Whether all parts have a constant size. -/
def constSizeAll : List Node → Bool
  | [] => true
  | n :: rest => n.constSize && constSizeAll rest

/-- Whether all parts have a constant size equal to `size`. -/
def sameSize (size : Nat) : List Node → Bool
  | [] => true
  | n :: rest => n.constSize && n.minSize == size && sameSize size rest

end

mutual

/-- Whether a tree needs the backtracking machine: it holds a look-around, a back-reference, an
atomic group, a conditional, `\K` or `\G`. -/
def Node.isHard : Node → Bool
  | .look .. | .backref .. | .atomic _ | .cond .. | .keep | .captured _ | .assert .searchStart =>
    true
  | .concat parts | .alt parts => anyHard parts
  | .group body | .rep body .. => body.isHard
  | _ => false

/-- Whether some part needs the backtracking machine. -/
def anyHard : List Node → Bool
  | [] => false
  | n :: rest => n.isHard || anyHard rest

end

/-- Whether a tree is a run of exact characters, and which. -/
def Node.literal? : Node → Option (List Char)
  | .char c false => some [c]
  | .concat parts => parts.attach.foldlM (fun acc ⟨p, _⟩ => (acc ++ ·) <$> p.literal?) []
  | _ => none

/-! ## Linear programs -/

/-- One step of a linear program. -/
inductive Step where
  | char (c : Char) (caseless : Bool)
  | any (newline : Bool)
  | set (s : Text.CharRanges)
  | assert (a : Assertion)
  /-- Try `first`, and `second` if that fails. -/
  | split (first second : Nat)
  | jump (target : Nat)
  /-- Record the position in a slot. -/
  | save (slot : Nat)
  | done
  deriving Inhabited

/-- A linear program. -/
structure LinearProgram where
  steps : Array Step
  deriving Inhabited

/-- Why a pattern cannot be compiled. -/
structure CompileError where
  reason : String
  deriving Repr, Inhabited

/-- The steps emitted so far. -/
abbrev LinearM := StateT (Array Step) (Except CompileError)

/-- The index the next step gets. -/
def LinearM.here : LinearM Nat := do pure (← get).size

/-- Appends a step. -/
def LinearM.emit (s : Step) : LinearM Unit := modify (·.push s)

/-- Replaces the step at `pc`. -/
def LinearM.patch (pc : Nat) (s : Step) : LinearM Unit := modify (·.set! pc s)

/-- The largest count a repetition of a linear program may have. -/
def maxCount : Nat := 4294967295

mutual

/-- Whether every count of a tree is at most `maxCount` and no count range is reversed. -/
def Node.countsFit : Node → Bool
  | .rep body lo hi _ =>
    lo ≤ maxCount && (hi.all fun h => h ≤ maxCount && lo ≤ h) && body.countsFit
  | .concat parts | .alt parts => allCountsFit parts
  | .group body | .look body .. | .atomic body => body.countsFit
  | .cond test yes no => test.countsFit && yes.countsFit && no.countsFit
  | _ => true

/-- Whether the counts of all parts fit. -/
def allCountsFit : List Node → Bool
  | [] => true
  | n :: rest => n.countsFit && allCountsFit rest

end

open LinearM in
/-- Compiles a tree whose first capture group is numbered `base`. Counted repetitions are spelt
out: `lo` copies, then either a loop or `hi - lo` optional copies that each end the repetition
when skipped. -/
def compileLinear : Node → Nat → LinearM Unit
  | .empty, _ => pure ()
  | .char c cl, _ => emit (.char c cl)
  | .any nl, _ => emit (.any nl)
  | .set s, _ => emit (.set s)
  | .assert a, _ => emit (.assert a)
  | .concat parts, base => do
    let mut b := base
    for ⟨p, _⟩ in parts.attach do
      compileLinear p b
      b := b + p.groupCount
  | .alt parts, base => do
    let mut jumps := #[]
    let mut b := base
    let n := parts.length
    for ⟨⟨p, _⟩, i⟩ in parts.attach.zipIdx do
      if i + 1 < n then
        let pc ← here
        emit (.split (pc + 1) 0)
        compileLinear p b
        jumps := jumps.push (← here)
        emit (.jump 0)
        patch pc (.split (pc + 1) (← here))
      else compileLinear p b
      b := b + p.groupCount
    let next ← here
    for j in jumps do patch j (.jump next)
  | .group body, base => do
    emit (.save (2 * base))
    compileLinear body (base + 1)
    emit (.save (2 * base + 1))
  | .rep body lo hi greedy, base => do
    if let some h := hi then
      if h < lo then throw ⟨"invalid repetition range"⟩
    for _ in [0:lo] do
      compileLinear body base
    match hi with
    | none =>
      let pc ← here
      emit (.split (pc + 1) 0)
      compileLinear body base
      emit (.jump pc)
      let next ← here
      patch pc (if greedy then .split (pc + 1) next else .split next (pc + 1))
    | some h =>
      let mut splits := #[]
      for _ in [0:h - lo] do
        splits := splits.push (← here)
        emit (.split 0 0)
        compileLinear body base
      let next ← here
      for pc in splits do
        patch pc (if greedy then .split (pc + 1) next else .split next (pc + 1))
  | .look .., _ | .backref .., _ | .atomic _, _ | .cond .., _ | .keep, _ | .captured _, _ =>
    throw ⟨"needs backtracking"⟩

/-- A tree compiled alone into a linear program ending in `done`, once its counts and the size of
its automaton are checked. -/
def LinearProgram.ofNode (n : Node) (base : Nat) : Except CompileError LinearProgram := do
  if !n.countsFit then throw ⟨"invalid repetition count"⟩
  if !n.fitsAutomaton then throw ⟨"pattern too large"⟩
  let ((), steps) ← (compileLinear n base *> LinearM.emit .done).run #[]
  pure ⟨steps⟩

/-! ## Backtracking programs -/

/-- A linear sub-program run as one instruction, which writes the capture groups
`firstGroup ..< endGroup`. -/
structure SubMatch where
  program : LinearProgram
  firstGroup : Nat
  endGroup : Nat
  deriving Inhabited

/-- An instruction of the backtracking machine. -/
inductive Op where
  /-- Go on at `first`, saving `second` as an alternative. -/
  | split (first second : Nat)
  | jump (target : Nat)
  /-- Record the position in a slot. -/
  | save (slot : Nat)
  /-- Set a repetition counter to zero. -/
  | resetCount (slot : Nat)
  /-- Go back to the position recorded in a slot. -/
  | restore (slot : Nat)
  | lit (cs : List Char)
  | char (c : Char) (caseless : Bool)
  | any (newline : Bool)
  | set (s : Text.CharRanges)
  | assert (a : Assertion)
  | sub (m : SubMatch)
  /-- A look-behind of variable width: the sub-program matches some text that ends here. -/
  | behind (m : SubMatch)
  /-- Fails unless the group whose start is kept in `slot` has started. -/
  | captured (slot : Nat)
  /-- Goes on here, keeping as an alternative this same instruction one character back. -/
  | stepBack
  /-- Fails unless the position is the one recorded in a slot. -/
  | checkAt (slot : Nat)
  /-- A counted repetition: another round of the body while fewer than `hi` are done; past `lo`
  rounds, leaving at `next` is the alternative (greedy) or the first choice (lazy). -/
  | repeatCount (lo : Nat) (hi : Option Nat) (next slot : Nat) (greedy : Bool)
  /-- An unbounded repetition of a body that may match the empty string; a round past `lo` that
  starts where the last one did fails. -/
  | repeatNonEmpty (lo next slot check : Nat) (greedy : Bool)
  | goBack (count : Nat)
  /-- The body of a negative look-around matched: drop its alternatives and fail. -/
  | failNegative
  | backref (slot : Nat) (caseless : Bool)
  | beginAtomic
  | endAtomic
  | done
  deriving Inhabited

/-- A backtracking program and how many slots it uses. -/
structure Program where
  ops : Array Op
  slots : Nat
  deriving Inhabited

/-- The instructions emitted so far and the next free slot. -/
abbrev ProgramM := StateT (Array Op × Nat) (Except CompileError)

namespace ProgramM

/-- The index the next instruction gets. -/
def here : ProgramM Nat := do pure (← get).1.size

/-- Appends an instruction. -/
def emit (o : Op) : ProgramM Unit := modify fun (ops, n) => (ops.push o, n)

/-- Replaces the instruction at `pc`. -/
def patch (pc : Nat) (o : Op) : ProgramM Unit := modify fun (ops, n) => (ops.set! pc o, n)

/-- A fresh slot for a counter or a saved position. -/
def newSlot : ProgramM Nat := modifyGet fun (ops, n) => (n, (ops, n + 1))

/-- Emits the parts `nodes`, whose first group is `base`, as one step that needs no
backtracking: a literal run when they are exact characters, else a linear sub-program. -/
def emitPlain (nodes : List Node) (base : Nat) : ProgramM Unit := do
  if nodes.isEmpty then return
  let whole := match nodes with
    | [n] => n
    | ns => .concat ns
  match whole.literal? with
  | some cs => emit (.lit cs)
  | none =>
    match whole with
    | .char c cl => emit (.char c cl)
    | .set s => emit (.set s)
    | .any nl => emit (.any nl)
    | .assert a => emit (.assert a)
    | _ =>
      match LinearProgram.ofNode whole base with
      | .ok p => emit (.sub ⟨p, base, base + whole.groupCount⟩)
      | .error e => throw e

/-- Emits alternatives: each but the last is tried first and, on failure, the next one; all
meet after the last. -/
def emitAlternatives (count : Nat) (body : Nat → ProgramM Unit) : ProgramM Unit := do
  let mut jumps := #[]
  let mut lastSplit : Option Nat := none
  for i in [0:count] do
    let pc ← here
    if i + 1 < count then emit (.split (pc + 1) 0)
    if let some l := lastSplit then patch l (.split (l + 1) pc)
    lastSplit := some pc
    body i
    if i + 1 < count then
      jumps := jumps.push (← here)
      emit (.jump 0)
  let next ← here
  for j in jumps do patch j (.jump next)

end ProgramM

mutual

/-- The nesting depth of a tree: a bound on the recursion of the compilers. -/
def Node.depth : Node → Nat
  | .concat parts | .alt parts => depthList parts + 1
  | .group body | .rep body .. | .look body .. | .atomic body => body.depth + 1
  | .cond test yes no => max test.depth (max yes.depth no.depth) + 1
  | _ => 1

/-- The greatest depth of the parts. -/
def depthList : List Node → Nat
  | [] => 0
  | n :: rest => max n.depth (depthList rest)

end

/-- The parts with the number of their first group, counting from `base`. -/
def numberParts (parts : List Node) (base : Nat) : List (Node × Nat) :=
  (parts.foldl (fun (acc, b) p => (acc ++ [(p, b)], b + p.groupCount)) ([], base)).1

open ProgramM in
/-- Compiles a tree whose first group is `base`. `hard` says whether what follows may still need
to backtrack into this tree; if not, and the tree itself needs no backtracking, it becomes one
plain step. In a sequence, a constant-width prefix that needs no backtracking is one plain step,
and so is the suffix that needs none (only its constant-width part when `hard`). `depth` bounds
the recursion and exceeds the depth of the tree. -/
def compileTree : Nat → Node → Nat → Bool → ProgramM Unit
  | 0, _, _, _ => throw ⟨"pattern nested too deeply"⟩
  | depth + 1, node, base, hard => do
    if !hard && !node.isHard then
      emitPlain [node] base
      return
    match node with
    | .empty => pure ()
    | .char c false => emit (.lit [c])
    | .char c true => emit (.char c true)
    | .any nl => emit (.any nl)
    | .set s => emit (.set s)
    | .assert a => emit (.assert a)
    | .keep => emit (.save 0)
    | .captured g => emit (.captured (2 * g))
    | .backref g cl => emit (.backref (2 * g) cl)
    | .group body =>
      emit (.save (2 * base))
      compileTree depth body (base + 1) hard
      emit (.save (2 * base + 1))
    | .atomic body =>
      emit .beginAtomic
      compileTree depth body base false
      emit .endAtomic
    | .cond test yes no =>
      -- the test runs as an atomic group, so that its success drops the way to `no`
      let yesBase := base + test.groupCount
      emit .beginAtomic
      let pc ← here
      emit (.split (pc + 1) 0)
      compileTree depth test base false
      emit .endAtomic
      compileTree depth yes yesBase hard
      let jump ← here
      emit (.jump 0)
      patch pc (.split (pc + 1) (← here))
      compileTree depth no (yesBase + yes.groupCount) hard
      patch jump (.jump (← here))
    | .concat parts =>
      let numbered := numberParts parts base
      let plainHead := (numbered.takeWhile fun (p, _) => p.constSize && !p.isHard).length
      let rest := numbered.drop plainHead
      let plainTail := if hard then
          (rest.reverse.takeWhile fun (p, _) => p.constSize && !p.isHard).length
        else (rest.reverse.takeWhile fun (p, _) => !p.isHard).length
      let middle := rest.take (rest.length - plainTail)
      let tail := rest.drop (rest.length - plainTail)
      emitPlain ((numbered.take plainHead).map (·.1)) base
      for (p, b) in middle do
        compileTree depth p b true
      match tail with
      | (_, b) :: _ => emitPlain (tail.map (·.1)) b
      | [] => pure ()
    | .alt parts =>
      let numbered := numberParts parts base
      emitAlternatives numbered.length fun i =>
        match numbered[i]? with
        | some (p, b) => compileTree depth p b hard
        | none => pure ()
    | .rep body lo hi greedy =>
      if let some h := hi then
        if h < lo then throw ⟨"invalid repetition range"⟩
      if lo == 0 && hi == some 1 then
        let pc ← here
        emit (.split (pc + 1) (pc + 1))
        compileTree depth body base hard
        let next ← here
        patch pc (if greedy then .split (pc + 1) next else .split next (pc + 1))
      else if hi.isNone && body.minSize == 0 then
        let counter ← newSlot
        let check ← newSlot
        emit (.resetCount counter)
        let pc ← here
        emit (.repeatNonEmpty lo 0 counter check greedy)
        compileTree depth body base true
        emit (.jump pc)
        let next ← here
        patch pc (.repeatNonEmpty lo next counter check greedy)
      else if lo == 0 && hi.isNone then
        let pc ← here
        emit (.split (pc + 1) (pc + 1))
        compileTree depth body base true
        emit (.jump pc)
        let next ← here
        patch pc (if greedy then .split (pc + 1) next else .split next (pc + 1))
      else if lo == 1 && hi.isNone then
        let pc ← here
        compileTree depth body base true
        let next := (← here) + 1
        emit (if greedy then .split pc next else .split next pc)
      else
        let counter ← newSlot
        emit (.resetCount counter)
        let pc ← here
        emit (.repeatCount lo hi 0 counter greedy)
        compileTree depth body base true
        emit (.jump pc)
        let next ← here
        patch pc (.repeatCount lo hi next counter greedy)
    | .look body behind negative =>
      -- a look-behind whose alternatives differ in width is split into one per alternative
      let pieces : List (Node × Nat) := match body with
        | .alt parts => if behind && !body.constSize then numberParts parts base else [(body, base)]
        | _ => [(body, base)]
      let inner (p : Node) (b : Nat) : ProgramM Unit := do
        if behind && !p.constSize then
          if p.isHard then
            -- every start from here back, nearest first, until the body ends here
            let slot ← newSlot
            emit (.save slot)
            emit .stepBack
            compileTree depth p b false
            emit (.checkAt slot)
          else
            match LinearProgram.ofNode p b with
            | .ok prog => emit (.behind ⟨prog, b, b + p.groupCount⟩)
            | .error e => throw e
        else
          if behind then emit (.goBack p.minSize)
          compileTree depth p b false
      let positive (p : Node) (b : Nat) : ProgramM Unit := do
        let slot ← newSlot
        emit (.save slot)
        inner p b
        emit (.restore slot)
      if negative then
        for (p, b) in pieces do
          let pc ← here
          emit (.split (pc + 1) 0)
          inner p b
          emit .failNegative
          let next ← here
          patch pc (.split (pc + 1) next)
      else if let [(p, b)] := pieces then positive p b
      else
        emitAlternatives pieces.length fun i =>
          match pieces[i]? with
          | some (p, b) => positive p b
          | none => pure ()

/-- Compiles a whole pattern for the backtracking machine: a lazy scan over any characters,
then the pattern as group 0, then `done`. -/
def Program.ofPattern (pat : Pattern) : Except CompileError Program := do
  let wrapped := Node.concat [.rep (.any true) 0 none false, .group pat.root]
  let slots := 2 * (pat.groups + 1)
  let ((), (ops, used)) ←
    (compileTree (wrapped.depth + 1) wrapped 0 false *> ProgramM.emit .done).run (#[], slots)
  pure ⟨ops, used⟩

end Highlight.Regex
