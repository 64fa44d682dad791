/-!
# File-name patterns

Globs match file names: `?` is one byte other than `/`, `*` any run of such bytes, `[...]` a
class of ASCII characters (negated by a leading `!` or `^`; a leading `]` or `-`, and a trailing
`-`, stand for themselves), `{a,b}` either alternative (empty alternatives drop out), and a
backslash makes the next character literal. `**` as a whole path component matches across
separators; elsewhere it is two stars. Matching is on the UTF-8 bytes of the name, exactly, and
covers the whole name.

A pattern fails to compile when a class or an alternation is not closed, alternations nest, a
backslash ends the pattern, a range runs backwards, or a class holds a non-ASCII character.
-/

namespace Highlight.Glob

/-- A piece of a parsed glob. -/
inductive Piece where
  | lit (c : Char)
  /-- Any one byte other than a separator, written `?`. -/
  | one
  /-- Any run of bytes without a separator, written `*`. -/
  | star
  /-- A leading `**/`: nothing, or anything ending with a separator. -/
  | anyPrefix
  /-- A trailing `/**`: a separator and anything after it. -/
  | anySuffix
  /-- An inner `/**/`: one separator, or a separator, anything, and a separator. -/
  | anyMiddle
  | cls (negated : Bool) (ranges : List (Char × Char))
  /-- Alternatives, each a sequence of pieces without alternatives. -/
  | alt (branches : List (List Piece))
  deriving Repr, Inhabited, BEq

/-- Why a glob does not compile. -/
inductive GlobError where
  | unclosedClass
  | invalidRange (lo hi : Char)
  | unclosedAlternates
  | nestedAlternates
  | danglingEscape
  | nonAsciiClass
  deriving Repr, Inhabited, BEq

/-- The parser's state: the pieces of the enclosing sequence, and inside `{...}` the branches so
far, latest first, the current one being built. -/
structure Parser where
  outer : List Piece := []
  branches : Option (List (List Piece)) := none
  /-- The last character read. -/
  prev : Option Char := none

namespace Parser

/-- The sequence pieces go to. -/
def current (p : Parser) : List Piece :=
  match p.branches with
  | some (b :: _) => b
  | _ => p.outer

/-- Adds a piece to the current sequence. -/
def push (p : Parser) (x : Piece) : Parser :=
  match p.branches with
  | some (b :: rest) => { p with branches := some ((b ++ [x]) :: rest) }
  | _ => { p with outer := p.outer ++ [x] }

/-- Removes the last piece of the current sequence. -/
def popLast (p : Parser) : Parser × Option Piece :=
  match p.branches with
  | some (b :: rest) => ({ p with branches := some (b.dropLast :: rest) }, b.getLast?)
  | _ => ({ p with outer := p.outer.dropLast }, p.outer.getLast?)

end Parser

/-- Reads a class after its `[`: the pieces and the rest of the pattern. -/
def readClass (cs : List Char) : Except GlobError (Piece × List Char) := do
  let (negated, cs) := match cs with
    | '!' :: rest | '^' :: rest => (true, rest)
    | _ => (false, cs)
  let rec go (ranges : List (Char × Char)) (first inRange : Bool) :
      List Char → Except GlobError (List (Char × Char) × List Char)
    | [] => .error .unclosedClass
    | ']' :: rest =>
      if first then go (ranges ++ [(']', ']')]) false false rest
      else .ok (if inRange then ranges ++ [('-', '-')] else ranges, rest)
    | '-' :: rest =>
      if first then go (ranges ++ [('-', '-')]) false false rest
      else if inRange then
        match ranges.getLast? with
        | some (lo, _) =>
          if '-' < lo then .error (.invalidRange lo '-')
          else go (ranges.dropLast ++ [(lo, '-')]) false false rest
        | none => go ranges false false rest
      else go ranges false true rest
    | c :: rest =>
      if inRange then
        match ranges.getLast? with
        | some (lo, _) =>
          if c < lo then .error (.invalidRange lo c)
          else go (ranges.dropLast ++ [(lo, c)]) false false rest
        | none => go (ranges ++ [(c, c)]) false false rest
      else go (ranges ++ [(c, c)]) false false rest
  let (ranges, rest) ← go [] true false cs
  if ranges.any (fun (a, b) => a.toNat > 127 || b.toNat > 127) then throw .nonAsciiClass
  pure (.cls negated ranges, rest)

/-- Handles a star after the first `*` was read. -/
def readStar (p : Parser) (cs : List Char) : Parser × List Char :=
  match cs with
  | '*' :: rest =>
    let twoStars := ((p.push .star).push .star, rest)
    if p.current.isEmpty then
      match rest with
      | [] => (p.push .anyPrefix, [])
      | '/' :: rest' => (p.push .anyPrefix, rest')
      | _ => twoStars
    else if p.prev != some '/' then twoStars
    else
      let suffix := rest.isEmpty
      if !suffix && rest.head? != some '/' then twoStars
      else
        let (q, last) := p.popLast
        match last with
        | some .anyPrefix => (q.push .anyPrefix, rest)
        | some .anySuffix => (q.push .anySuffix, rest)
        | _ => (q.push (if suffix then .anySuffix else .anyMiddle), rest)
  | _ => (p.push .star, cs)

/-- The character read last when `rest'` remains of `c :: rest`. -/
def lastRead (c : Char) (rest rest' : List Char) : Char :=
  match rest.length - rest'.length with
  | 0 => c
  | n + 1 => rest[n]?.getD c

/-- Parses the pattern text `cs` on from parser state `p`; `fuel` bounds the steps, each of
which reads at least one character. -/
def parseFrom : Nat → Parser → List Char → Except GlobError (List Piece)
  | _, p, [] => if p.branches.isSome then .error .unclosedAlternates else .ok p.outer
  | 0, _, _ => .error .unclosedAlternates
  | fuel + 1, p, c :: rest =>
    let p' := { p with prev := some c }
    match c with
    | '?' => parseFrom fuel (p'.push .one) rest
    | '*' =>
      let (q, rest') := readStar p rest
      parseFrom fuel { q with prev := some (lastRead c rest rest') } rest'
    | '[' =>
      match readClass rest with
      | .ok (x, rest') => parseFrom fuel ({ p' with prev := some (lastRead c rest rest') }.push x) rest'
      | .error e => .error e
    | '{' =>
      if p.branches.isSome then .error .nestedAlternates
      else parseFrom fuel { p' with branches := some [[]] } rest
    | '}' =>
      let bs := (p.branches.getD []).reverse.filter (!·.isEmpty)
      let q := { p' with branches := none }
      parseFrom fuel (if bs.isEmpty then q else q.push (.alt bs)) rest
    | ',' =>
      match p.branches with
      | some bs => parseFrom fuel { p' with branches := some ([] :: bs) } rest
      | none => parseFrom fuel (p'.push (.lit ',')) rest
    | '\\' =>
      match rest with
      | [] => .error .danglingEscape
      | d :: rest' => parseFrom fuel ({ p with prev := some d }.push (.lit d)) rest'
    | _ => parseFrom fuel (p'.push (.lit c)) rest

/-- Parses a glob. -/
def parse (pattern : String) : Except GlobError (List Piece) :=
  parseFrom (pattern.length + 1) {} pattern.toList

/-! ## Matching -/

/-- The sequences of pieces without alternatives that a glob stands for. -/
def expand : List Piece → List (List Piece)
  | [] => [[]]
  | .alt bs :: rest => (expand rest).flatMap fun tail => bs.map (· ++ tail)
  | x :: rest => (expand rest).map (x :: ·)

/-- The byte of the separator. -/
def slash : UInt8 := 47

/-- Whether a byte is in a class of ASCII ranges. -/
def inClass (negated : Bool) (ranges : List (Char × Char)) (b : UInt8) : Bool :=
  ranges.any (fun (lo, hi) => lo.toNat ≤ b.toNat && b.toNat ≤ hi.toNat) != negated

/-- Whether a sequence of pieces without alternatives matches all of `bytes`. -/
def matchBytes : List Piece → List UInt8 → Bool
  | [], bs => bs.isEmpty
  | .lit c :: rest, bs =>
    let enc := (String.singleton c).toUTF8.toList
    enc.isPrefixOf bs && matchBytes rest (bs.drop enc.length)
  | .one :: rest, b :: bs => b != slash && matchBytes rest bs
  | .one :: _, [] => false
  | .star :: rest, bs =>
    (List.range (bs.length + 1)).any fun k =>
      (bs.take k).all (· != slash) && matchBytes rest (bs.drop k)
  | .anyPrefix :: rest, bs =>
    matchBytes rest bs || (bs.head? == some slash && matchBytes rest bs.tail) ||
      (List.range (bs.length + 1)).any fun k =>
        k > 0 && bs[k - 1]? == some slash && matchBytes rest (bs.drop k)
  | .anySuffix :: rest, bs =>
    bs.head? == some slash &&
      (List.range bs.length).any fun k => matchBytes rest (bs.drop (k + 1))
  | .anyMiddle :: rest, bs =>
    bs.head? == some slash &&
      ((matchBytes rest bs.tail) ||
        (List.range (bs.length + 1)).any fun k =>
          k > 1 && bs[k - 1]? == some slash && matchBytes rest (bs.drop k))
  | .cls negated ranges :: rest, b :: bs => inClass negated ranges b && matchBytes rest bs
  | .cls .. :: _, [] => false
  | .alt _ :: _, _ => false

end Highlight.Glob

namespace Highlight

/-- A compiled glob. -/
structure Glob where
  /-- The pattern text. -/
  source : String
  /-- The sequences of pieces it stands for. -/
  options : List (List Glob.Piece)
  deriving Inhabited

namespace Glob

/-- Compiles a glob. -/
def compile (pattern : String) : Except GlobError Glob :=
  (parse pattern).map fun ps => ⟨pattern, expand ps⟩

end Glob

/-- Whether the glob matches the whole of `name`. -/
def Glob.matches (g : Glob) (name : String) : Bool :=
  let bytes := name.toUTF8.toList
  g.options.any (Glob.matchBytes · bytes)

/-- A set of globs matched against a name all at once. -/
structure GlobSet where
  /-- The globs, in the order they were added. -/
  globs : Array Glob := #[]
  deriving Inhabited

namespace GlobSet

/-- Why a set of globs does not build: the glob it stopped at, if it names one, and why. -/
structure BuildError where
  glob : Option String
  message : String

/-- Builds the set of `globs`. Globs that each compiled always build into a set here: the size
limits of the engine that matches a whole set at once are not modelled. -/
def build (globs : Array Glob) : Except BuildError GlobSet := .ok ⟨globs⟩

end GlobSet

/-- The positions of the globs of the set that match `name`, in ascending order. -/
def GlobSet.matches (s : GlobSet) (name : String) : List Nat :=
  (List.range s.globs.size).filter fun k => (s.globs[k]?.map (·.matches name)).getD false

end Highlight
