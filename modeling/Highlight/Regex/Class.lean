import Highlight.Text.Blank
import Highlight.Text.Word
import Highlight.Text.Case
import Highlight.Regex.Property
/-!
# Character classes

A class in brackets is read in two steps. First its extent is found and its escapes are read,
giving a list of `ClassToken`s: characters written as themselves (which may be class syntax),
characters that stand only for themselves, and named sets such as `\d` or `\p{Greek}`. Then the
tokens are read by the grammar of classes:

* after `[` an optional `^` complements the class; any `-` right after that stands for itself,
  and so does a `]` that would otherwise leave the class empty;
* items are single characters, ranges `a-z` between two single characters, named sets, the ASCII
  classes `[:alpha:]` (or `[:^alpha:]`), and nested classes in brackets;
* `&&`, `--` and `~~` take the intersection, difference and symmetric difference of what stands
  on either side, from left to right;
* a `-` that is followed by `]` or by another `-` stands for itself.

When case is ignored, each class in brackets is closed under case before it is complemented, and
so are both sides of a set operation; a named `\p` set is closed under case before `\P`
complements it.
-/

namespace Highlight.Regex

open Text

/-- One unit of a class after its escapes are read. -/
inductive ClassToken where
  /-- A character written as itself: it may be part of the class syntax. -/
  | plain (c : Char)
  /-- A character that stands only for itself. -/
  | literal (c : Char)
  /-- A named set such as `\d` or `\p{Greek}`. -/
  | set (s : CharRanges)
  deriving Inhabited

/-- The characters that a class would read as syntax if they were not escaped. -/
def isClassSyntax (c : Char) : Bool :=
  "\\.+*?()|[]{}^$#&-~".toList.contains c

/-- The class `\s`: white space. -/
def spaceChars : CharRanges := Property.whiteSpace

/-- The sets `\d`, `\w` and `\s` named by their letter, and their complements by the capital
letter. -/
def perlClass? (letter : Char) : Option CharRanges :=
  match letter with
  | 'd' => some decimalDigits
  | 'D' => some (CharRanges.negate decimalDigits)
  | 'w' => some wordChars
  | 'W' => some (CharRanges.negate wordChars)
  | 's' => some spaceChars
  | 'S' => some (CharRanges.negate spaceChars)
  | _ => none

/-- The ASCII classes named `[:name:]` inside brackets. -/
def asciiClass? : String → Option CharRanges
  | "alnum" => some (CharRanges.normalize [(0x30, 0x39), (0x41, 0x5A), (0x61, 0x7A)])
  | "alpha" => some (CharRanges.normalize [(0x41, 0x5A), (0x61, 0x7A)])
  | "ascii" => some (CharRanges.range 0 0x7F)
  | "blank" => some (CharRanges.normalize [(0x09, 0x09), (0x20, 0x20)])
  | "cntrl" => some (CharRanges.normalize [(0, 0x1F), (0x7F, 0x7F)])
  | "digit" => some (CharRanges.range 0x30 0x39)
  | "graph" => some (CharRanges.range 0x21 0x7E)
  | "lower" => some (CharRanges.range 0x61 0x7A)
  | "print" => some (CharRanges.range 0x20 0x7E)
  | "punct" => some (CharRanges.normalize [(0x21, 0x2F), (0x3A, 0x40), (0x5B, 0x60), (0x7B, 0x7E)])
  | "space" => some (CharRanges.normalize [(0x09, 0x0D), (0x20, 0x20)])
  | "upper" => some (CharRanges.range 0x41 0x5A)
  | "word" => some (CharRanges.normalize [(0x30, 0x39), (0x41, 0x5A), (0x5F, 0x5F), (0x61, 0x7A)])
  | "xdigit" => some (CharRanges.normalize [(0x30, 0x39), (0x41, 0x46), (0x61, 0x66)])
  | _ => none

/-- A set closed under case when `caseless`. -/
def foldIf (caseless : Bool) (s : CharRanges) : CharRanges :=
  if caseless then s.foldCase else s

/-- The set named by a `\p` or `\P` escape: closed under case when `caseless`, then complemented
when exactly one of `\P` and `!=` asks for it. -/
def unicodeClass (text : String) (complement caseless : Bool) : Except String CharRanges := do
  let (s, notEqual) ← propertySet text
  let s := foldIf caseless s
  pure (if complement != notEqual then CharRanges.negate s else s)

namespace ClassReader

/-- The set operations between class items. -/
inductive SetOp where
  | inter
  | diff
  | symmDiff

/-- Applies a set operation. -/
def SetOp.apply : SetOp → CharRanges → CharRanges → CharRanges
  | .inter => CharRanges.inter
  | .diff => CharRanges.diff
  | .symmDiff => CharRanges.symmDiff

variable (toks : Array ClassToken) (caseless : Bool)

/-- Whether the token at `i` is the character `c` written as itself. -/
def isPlain (i : Nat) (c : Char) : Bool :=
  match toks[i]? with
  | some (.plain d) => d == c
  | _ => false

/-- Reads `[:name:]` or `[:^name:]` at `i`, which holds a `[`: the set and the index after it. -/
def asciiAt (i : Nat) : Option (CharRanges × Nat) := do
  guard (isPlain toks (i + 1) ':')
  let negated := isPlain toks (i + 2) '^'
  let start := if negated then i + 3 else i + 2
  let nameToks := (toks.extract start toks.size).toList.takeWhile fun t =>
    match t with
    | .plain c => c != ':'
    | _ => true
  let name ← nameToks.mapM fun t =>
    match t with
    | .plain c => some c
    | _ => none
  let close := start + name.length
  guard (isPlain toks close ':' && isPlain toks (close + 1) ']')
  let s ← asciiClass? (String.ofList name)
  pure (if negated then CharRanges.negate s else s, close + 2)

/-- The single character a token stands for, if it is one. -/
def charOf? : Option ClassToken → Option Char
  | some (.plain c) | some (.literal c) => some c
  | _ => none

/-- Reads one item that is not a nested class: a character, a range or a named set. Returns the
set and the index after it. -/
def item (i : Nat) : Except String (CharRanges × Nat) := do
  let some first := toks[i]? | throw "unclosed class"
  let single : CharRanges := match first with
    | .plain c | .literal c => CharRanges.range c.toNat c.toNat
    | .set s => s
  let isRange := isPlain toks (i + 1) '-' && !isPlain toks (i + 2) ']' &&
    !isPlain toks (i + 2) '-'
  if !isRange then return (single, i + 1)
  if toks[i + 2]?.isNone then throw "unclosed class"
  let some lo := charOf? (some first) | throw "a range must start with a character"
  let some hi := charOf? toks[i + 2]? | throw "a range must end with a character"
  if hi < lo then throw "invalid range"
  pure (CharRanges.range lo.toNat hi.toNat, i + 3)

/-- Reads the inside of a class after its `[`, up to and including its `]`: the set (closed
under case when `caseless`, then complemented if the class starts with `^`) and the index after
the class. `fuel` bounds the nesting. -/
def bracket : Nat → Nat → Except String (CharRanges × Nat)
  | 0, _ => throw "class nested too deeply"
  | fuel + 1, start => do
    let negated := isPlain toks start '^'
    let mut i := if negated then start + 1 else start
    let mut items : List CharRanges := []
    for _ in [0:toks.size] do
      if isPlain toks i '-' then
        items := CharRanges.range 0x2D 0x2D :: items
        i := i + 1
      else break
    if items.isEmpty && isPlain toks i ']' then
      items := [CharRanges.range 0x5D 0x5D]
      i := i + 1
    let mut pending : Option (CharRanges × SetOp) := none
    for _ in [0:toks.size + 1] do
      let op? : Option SetOp :=
        if isPlain toks i '&' && isPlain toks (i + 1) '&' then some .inter
        else if isPlain toks i '-' && isPlain toks (i + 1) '-' then some .diff
        else if isPlain toks i '~' && isPlain toks (i + 1) '~' then some .symmDiff
        else none
      if isPlain toks i ']' || op?.isSome then
        let current := foldIf caseless (CharRanges.unionAll items)
        let combined := match pending with
          | some (lhs, op) => op.apply lhs current
          | none => current
        match op? with
        | some op =>
          pending := some (foldIf caseless combined, op)
          items := []
          i := i + 2
        | none =>
          let s := foldIf caseless combined
          return (if negated then CharRanges.negate s else s, i + 1)
      else if isPlain toks i '[' then
        match asciiAt toks i with
        | some (s, next) =>
          items := s :: items
          i := next
        | none =>
          let (s, next) ← bracket fuel (i + 1)
          items := s :: items
          i := next
      else
        let (s, next) ← item toks i
        items := s :: items
        i := next
    throw "unclosed class"

end ClassReader

/-- Reads a whole class from its tokens, which follow its opening `[` and must end exactly with
its closing `]`. -/
def readClassTokens (toks : Array ClassToken) (caseless : Bool) : Except String CharRanges := do
  let (s, next) ← ClassReader.bracket toks caseless (toks.size + 1) 0
  if next != toks.size then throw "unclosed class"
  pure s

end Highlight.Regex
