import Std.Data.HashMap
import Highlight.Regex.Syntax
import Highlight.Text.Case
/-!
# The size of a pattern's automaton

A pattern without backtracking parts is matched by an automaton over the bytes of the text's
UTF-8 encoding, and so is each such part of a pattern with backtracking parts. That automaton
may take at most `automatonLimit` bytes; a pattern whose automaton would be larger does not
compile.

The automaton is built from the pattern's `Shape`, which is the tree with its literal characters
written as bytes and its alternatives of single characters or classes merged into one class.
Every state costs `stateBytes`, every byte range leaving a class state `rangeBytes` and every
alternative of a branching state `alternateBytes`:

* a byte of a literal is one state, an assertion or the empty pattern one state, and a group two
  (its start and its end);
* a class of ASCII characters is one state with a range per run of characters, and one state
  where its runs meet; any other class is the smallest automaton over the UTF-8 encodings of its
  characters that shares common suffixes, built by `Utf8Automaton`;
* alternatives are a branching state, one state where they meet, and the alternatives;
* a repetition spells out its body: `n` copies for `{n}`, then a branching state and a copy for
  each optional round of `{n,m}` and one state where they meet, or a branching state looping
  back for `{n,}`.
-/

namespace Highlight.Regex

open Text

/-- The most bytes the automaton of a pattern may take. -/
def automatonLimit : Nat := 10 * 1024 * 1024

/-- The bytes of one state. -/
def stateBytes : Nat := 32

/-- The bytes of one byte range leaving a class state. -/
def rangeBytes : Nat := 8

/-- The bytes of one alternative of a branching state. -/
def alternateBytes : Nat := 4

/-- The UTF-8 encoding of the code point `n`. -/
def utf8Bytes (n : Nat) : List Nat :=
  if n < 0x80 then [n]
  else if n < 0x800 then [0xC0 + n / 64, 0x80 + n % 64]
  else if n < 0x10000 then [0xE0 + n / 4096, 0x80 + n / 64 % 64, 0x80 + n % 64]
  else [0xF0 + n / 262144, 0x80 + n / 4096 % 64, 0x80 + n / 64 % 64, 0x80 + n % 64]

/-! ## Byte sequences of a range of code points -/

/-- The largest code point whose encoding has `k` bytes. -/
def maxOfLength : Nat → Nat
  | 1 => 0x7F
  | 2 => 0x7FF
  | 3 => 0xFFFF
  | _ => 0x10FFFF

/-- One step of splitting a range of code points: either the range is to be split in two (and
the second half is set aside), or it is dropped, or it is one sequence of byte ranges. -/
inductive SplitStep where
  | split (first second : Nat × Nat)
  | drop
  | sequence (bytes : List (Nat × Nat))

/-- Splits a range once: around the surrogates, at the boundaries between encoding lengths, and
where a byte of the encoding would not cover its whole span; a range that needs no split is a
sequence of byte ranges, one per byte. -/
def splitOnce (r : Nat × Nat) : SplitStep :=
  let (lo, hi) := r
  if lo < 0xE000 && hi > 0xD7FF then .split (lo, 0xD7FF) (0xE000, hi)
  else if hi < lo then .drop
  else
    match [1, 2, 3].find? (fun k => lo ≤ maxOfLength k && maxOfLength k < hi) with
    | some k => .split (lo, maxOfLength k) (maxOfLength k + 1, hi)
    | none =>
      if hi ≤ 0x7F then .sequence [(lo, hi)]
      else
        let cut := [1, 2, 3].findSome? fun k =>
          let m := Nat.pow 2 (6 * k) - 1
          if lo / (m + 1) != hi / (m + 1) then
            if lo % (m + 1) != 0 then some ((lo, lo / (m + 1) * (m + 1) + m),
              (lo / (m + 1) * (m + 1) + m + 1, hi))
            else if hi % (m + 1) != m then some ((lo, hi / (m + 1) * (m + 1) - 1),
              (hi / (m + 1) * (m + 1), hi))
            else none
          else none
        match cut with
        | some (a, b) => .split a b
        | none => .sequence ((utf8Bytes lo).zip (utf8Bytes hi))

/-- The byte sequences of the ranges on a stack, in order; `fuel` bounds the splits. -/
def sequencesOf : Nat → List (Nat × Nat) → List (List (Nat × Nat))
  | 0, _ => []
  | _ + 1, [] => []
  | fuel + 1, r :: stack =>
    match splitOnce r with
    | .split a b => sequencesOf fuel (a :: b :: stack)
    | .drop => sequencesOf fuel stack
    | .sequence s => s :: sequencesOf fuel stack

/-- The byte sequences that together encode exactly the code points of a range. -/
def byteSequences (lo hi : Nat) : List (List (Nat × Nat)) :=
  sequencesOf 1024 [(lo, hi)]

/-! ## The automaton of a class -/

/-- A transition of a class automaton: a byte range and the state it leads to. -/
abbrev ByteEdge := Nat × Nat × Nat

/-- A state under construction: its finished transitions and the range of its last one, whose
target is not known yet. -/
structure Utf8Node where
  edges : Array ByteEdge := #[]
  last : Option (Nat × Nat) := none
  deriving Inhabited

/-- The transitions of a node once its last range leads to `next`. -/
def Utf8Node.freeze (n : Utf8Node) (next : Nat) : Array ByteEdge :=
  match n.last with
  | some (a, b) => n.edges.push (a, b, next)
  | none => n.edges

/-- A class automaton under construction: the path of unfinished states from the start, the
finished states by their transitions (state 0 is the final one), and how many finished states
and transitions there are. -/
structure Utf8Automaton where
  path : Array Utf8Node := #[{}]
  known : Std.HashMap (Array ByteEdge) Nat := {}
  states : Nat := 0
  edges : Nat := 0

namespace Utf8Automaton

/-- The state with these transitions: an existing one if there is one, else a new one. -/
def finish (a : Utf8Automaton) (edges : Array ByteEdge) : Utf8Automaton × Nat :=
  match a.known[edges]? with
  | some id => (a, id)
  | none =>
    let id := a.states + 1
    ({ a with known := a.known.insert edges id, states := id, edges := a.edges + edges.size }, id)

/-- Finishes the unfinished states after the first `keep + 1`, deepest first, and points the
last range of the state left on top at what they became. -/
def finishFrom (a : Utf8Automaton) (keep : Nat) : Utf8Automaton :=
  let rec go (a : Utf8Automaton) (next : Nat) : Nat → Utf8Automaton × Nat
    | 0 => (a, next)
    | fuel + 1 =>
      if keep + 1 < a.path.size then
        let node := a.path.back!
        let (a', id) := { a with path := a.path.pop }.finish (node.freeze next)
        go a' id fuel
      else (a, next)
  let (a, next) := go a 0 a.path.size
  let top := a.path.size - 1
  { a with path := a.path.modify top fun n => { edges := n.freeze next } }

/-- Adds one byte sequence: the unfinished states it shares with the previous one stay open. -/
def add (a : Utf8Automaton) (seq : List (Nat × Nat)) : Utf8Automaton :=
  let shared := ((seq.zip a.path.toList).takeWhile fun (r, n) => n.last == some r).length
  let a := a.finishFrom shared
  match seq.drop shared with
  | [] => a
  | r :: rest =>
    let top := a.path.size - 1
    let path := a.path.modify top fun n => { n with last := some r }
    { a with path := path ++ (rest.map fun r => ({ last := some r } : Utf8Node)).toArray }

/-- The automaton of a set of code points, finished: its number of states (the final one
included) and of transitions. -/
def ofRanges (rs : List (Nat × Nat)) : Nat × Nat :=
  let a := rs.foldl (fun a (lo, hi) => (byteSequences lo hi).foldl add a) ({} : Utf8Automaton)
  let a := a.finishFrom 0
  let root := (a.path[0]?.map (·.edges)).getD #[]
  let (a, _) := { a with path := #[] }.finish root
  (a.states + 1, a.edges)

end Utf8Automaton

/-- The bytes of the automaton of a class. -/
def classBytes (s : CharRanges) : Nat :=
  if s.isAscii then 2 * stateBytes + rangeBytes * s.ranges.size
  else
    let (states, edges) := Utf8Automaton.ofRanges s.ranges.toList
    stateBytes * states + rangeBytes * edges

/-! ## Shapes -/

/-- A pattern as the automaton builder sees it. -/
inductive Shape where
  | empty
  /-- Bytes one after another; never empty. -/
  | bytes (bs : List Nat)
  /-- One character of a class that has no or at least two characters. -/
  | chars (s : CharRanges)
  | look
  | capture (body : Shape)
  | concat (parts : List Shape)
  | alt (parts : List Shape)
  | rep (body : Shape) (lo : Nat) (hi : Option Nat)
  deriving Inhabited

/-- The shape of a class: the bytes of its character when it has exactly one. -/
def Shape.ofSet (s : CharRanges) : Shape :=
  match s.single? with
  | some n => .bytes (utf8Bytes n)
  | none => .chars s

mutual

/-- Whether a shape matches only the empty string. -/
def Shape.zeroWidth : Shape → Bool
  | .empty | .look => true
  | .bytes _ | .chars _ => false
  | .capture body => body.zeroWidth
  | .concat parts | .alt parts => allZeroWidth parts
  | .rep body _ hi => hi == some 0 || body.zeroWidth

/-- Whether all shapes match only the empty string. -/
def allZeroWidth : List Shape → Bool
  | [] => true
  | s :: rest => s.zeroWidth && allZeroWidth rest

end

mutual

/-- Whether every match of a shape is non-empty. -/
def Shape.nonEmpty : Shape → Bool
  | .empty | .look => false
  | .bytes _ => true
  | .chars s => !s.isEmpty
  | .capture body => body.nonEmpty
  | .concat parts => anyNonEmpty parts
  | .alt [] => false
  | .alt (p :: ps) => p.nonEmpty && allNonEmpty ps
  | .rep body lo _ => lo > 0 && body.nonEmpty

/-- Whether some shape has only non-empty matches. -/
def anyNonEmpty : List Shape → Bool
  | [] => false
  | s :: rest => s.nonEmpty || anyNonEmpty rest

/-- Whether all shapes have only non-empty matches. -/
def allNonEmpty : List Shape → Bool
  | [] => true
  | s :: rest => s.nonEmpty && allNonEmpty rest

end

/-- The character a shape of one character stands for. -/
def Shape.singleChar? : Shape → Option Nat
  | .bytes bs =>
    let n := match bs with
      | [a] => a
      | [a, b] => (a - 0xC0) * 64 + (b - 0x80)
      | [a, b, c] => (a - 0xE0) * 4096 + (b - 0x80) * 64 + (c - 0x80)
      | [a, b, c, d] => (a - 0xF0) * 262144 + (b - 0x80) * 4096 + (c - 0x80) * 64 + (d - 0x80)
      | _ => 0x110000
    if n < 0x110000 && utf8Bytes n == bs then some n else none
  | _ => none

/-- Alternatives as one shape: nested alternatives are flattened, and alternatives that are all
single characters, or all classes, become one class. -/
def Shape.ofAlternatives (parts : List Shape) : Shape :=
  let flat := parts.flatMap fun p =>
    match p with
    | .alt ps => ps
    | p => [p]
  match flat with
  | [] => .chars CharRanges.empty
  | [p] => p
  | _ =>
    match flat.mapM Shape.singleChar? with
    | some cs => Shape.ofSet (CharRanges.normalize (cs.map fun n => (n, n)))
    | none =>
      match flat.mapM (fun p => match p with | .chars s => some s | _ => none) with
      | some ss => Shape.ofSet (CharRanges.unionAll ss)
      | none => .alt flat

/-- A repetition as one shape: the body alone for `{1}`, nothing for `{0}`, and at most one
round of a body that matches only the empty string. -/
def Shape.ofRepetition (body : Shape) (lo : Nat) (hi : Option Nat) : Shape :=
  let (lo, hi) := if body.zeroWidth then (min lo 1, some (min (hi.getD 1) 1)) else (lo, hi)
  if lo == 0 && hi == some 0 then .empty
  else if lo == 1 && hi == some 1 then body
  else .rep body lo hi

/-- The shape of a tree. The parts that need backtracking have no automaton; they count as
empty. -/
def Node.shape : Node → Shape
  | .empty => .empty
  | .char c caseless =>
    if caseless then Shape.ofSet (CharRanges.range c.toNat c.toNat).foldCase
    else .bytes (utf8Bytes c.toNat)
  | .any newline =>
    Shape.ofSet (if newline then CharRanges.range 0 CharRanges.maxCodePoint
      else CharRanges.negate (CharRanges.range 10 10))
  | .set s => Shape.ofSet s
  | .assert _ => .look
  | .concat parts =>
    match parts.attach.map fun ⟨p, _⟩ => p.shape with
    | [] => .empty
    | [p] => p
    | ps => .concat ps
  | .alt parts => Shape.ofAlternatives (parts.attach.map fun ⟨p, _⟩ => p.shape)
  | .group body => .capture body.shape
  | .rep body lo hi _ => Shape.ofRepetition body.shape lo hi
  | .atomic body => body.shape
  | _ => .empty

mutual

/-- The bytes of the automaton of a shape. -/
def Shape.bytesOf : Shape → Nat
  | .empty | .look => stateBytes
  | .bytes bs => stateBytes * bs.length
  | .chars s => classBytes s
  | .capture body => 2 * stateBytes + body.bytesOf
  | .concat [] => stateBytes
  | .concat parts => sumBytes parts
  | .alt parts => 2 * stateBytes + alternateBytes * parts.length + sumBytes parts
  | .rep body lo hi =>
    let one := body.bytesOf
    let branch := stateBytes + 2 * alternateBytes
    match hi with
    | none =>
      if lo == 0 then
        if body.nonEmpty then branch + one else one + 2 * branch + stateBytes
      else lo * one + branch
    | some h =>
      let first := if lo == 0 then stateBytes else lo * one
      if h ≤ lo then first else first + stateBytes + (h - lo) * (branch + one)

/-- The bytes of the automata of several shapes together. -/
def sumBytes : List Shape → Nat
  | [] => 0
  | s :: rest => s.bytesOf + sumBytes rest

end

/-- Whether a shape starts by asserting the start of the text, so that its automaton needs no
loop to find a start. -/
def startsAnchored : Node → Bool
  | .assert .startText => true
  | .concat (p :: _) | .group p | .atomic p => startsAnchored p
  | _ => false

/-- The bytes of the automaton that searches for a tree: the search loop, the whole match as
group 0, and the final state. -/
def Node.automatonBytes (n : Node) : Nat :=
  let search := if startsAnchored n then stateBytes
    else stateBytes + 2 * alternateBytes + 2 * stateBytes + rangeBytes
  alternateBytes + search + 2 * stateBytes + n.shape.bytesOf + stateBytes

/-- Whether the automaton of a tree stays within `automatonLimit`. -/
def Node.fitsAutomaton (n : Node) : Bool :=
  n.automatonBytes ≤ automatonLimit

end Highlight.Regex
