import Highlight.Regex.Syntax
import Highlight.Regex.Class
/-!
# Reading patterns

The reader turns pattern text into a `Pattern`. It knows two dialects. The full dialect of
highlighting rules has, besides the regular operators:

* groups `(...)`, named groups `(?<name>...)` and `(?P<name>...)`, non-capturing groups with
  inline flags `(?flags:...)`, flags for the rest of the enclosing group `(?flags)`, comments
  `(?#...)`, atomic groups `(?>...)`, look-around `(?=...)`, `(?!...)`, `(?<=...)`, `(?<!...)` and
  conditionals `(?(test)yes|no)`, where the test is a group number or name, or a pattern;
* back-references `\1`, `\k<name>`, `\k'name'`, `\k<-1>` (counting back from the latest group)
  and `(?P=name)`; a name is looked up among the groups opened so far, the latest of a name
  winning, and otherwise read as a number;
* escapes for anchors (`\A`, `\z`, `\Z`, `\b`, `\B`, `\<`, `\>`, `\b{start}`, `\b{end}`,
  `\b{start-half}`, `\b{end-half}`, `\G`), for sets (`\d`, `\w`, `\s`, `\h`, `\p{...}` and their
  complements), for characters (`\x41`, `\x{41}`, `\u0041`, `\U00000041`, `\n`, `\t` and the like,
  and any character that is not an ASCII letter or digit), `\O` for any character and `\K`, which
  makes the match start where it stands;
* the quantifiers `?`, `*`, `+`, `{n}`, `{n,}`, `{n,m}` and `{,m}`, lazy with `?` and possessive
  with `+`. A `{` that does not open a well-formed count stands for itself; a count too large to
  read makes the `{` stand for itself too.

Only something that can match can be repeated: not the empty pattern, a look-around, `\K`, `\G`
or a test that a group has captured. Groups nest at most 63 deep. Once a pattern has a named
group, a numbered back-reference is refused in any part of the pattern that is not a list of
alternatives. In extended mode (`x`) ASCII blanks are skipped and `#` starts a comment up to the
end of the line, except inside classes.

The plain dialect has neither look-around nor back-references, atomic groups, conditionals,
comments, possessive quantifiers, `\K`, `\G`, `\Z`, `\O`, `\e` or `\h`; it takes a `{` only as
the start of a count, lets a quantifier repeat a repetition (`a**`, `a{2}{3}`), wants group names
that start with an ASCII letter or `_`, and skips every kind of blank in extended mode.
-/

namespace Highlight.Regex

open Text

/-- Inline flags: `i` case, `m` multi-line anchors, `s` dot matches line feeds, `U` swaps
greediness, `x` ignores blanks and `#` comments. -/
structure Flags where
  caseless : Bool := false
  multiLine : Bool := false
  dotAll : Bool := false
  swapGreed : Bool := false
  extended : Bool := false
  deriving Inhabited

/-- The reader's position, flags, the groups it has met, their names (latest first), and
whether it has met a numbered back-reference. -/
structure ReadState where
  pos : Nat := 0
  flags : Flags := {}
  groups : Nat := 0
  names : List (String × Nat) := []
  numbered : Bool := false

/-- The reader: a state over the pattern's characters, failing with a `SyntaxError`. -/
abbrev ReadM := StateT ReadState (Except SyntaxError)

/-- The deepest nesting of groups in the full dialect. -/
def maxGroupDepth : Nat := 64

/-- The deepest nesting of groups in the plain dialect. -/
def maxPlainDepth : Nat := 250

/-- Whether a character may stand in a group name: a letter or number of any script, or `_`. -/
def isNameChar (c : Char) : Bool :=
  c == '_' || Property.alphabetic.contains c ||
    [GeneralCategory.decimalNumber, .letterNumber, .otherNumber].contains (generalCategory c)

/-- Whether a character may stand in a group name of the plain dialect, which must start with an
ASCII letter or `_`. -/
def isPlainNameChar (c : Char) : Bool :=
  c.isAlphanum || c == '_' || c == '.' || c == '[' || c == ']'

/-- The value of an ASCII hexadecimal digit. -/
def hexDigit? (c : Char) : Option Nat :=
  if '0' ≤ c && c ≤ '9' then some (c.toNat - '0'.toNat)
  else if 'a' ≤ c && c ≤ 'f' then some (c.toNat - 'a'.toNat + 10)
  else if 'A' ≤ c && c ≤ 'F' then some (c.toNat - 'A'.toNat + 10)
  else none

/-- The characters that escapes name by a letter: `\a`, `\e`, `\f`, `\n`, `\r`, `\t`, `\v`. -/
def controlEscape? : Char → Option Char
  | 'a' => some '\x07'
  | 'e' => some '\x1b'
  | 'f' => some '\x0c'
  | 'n' => some '\n'
  | 'r' => some '\r'
  | 't' => some '\t'
  | 'v' => some '\x0b'
  | _ => none

/-- The hexadecimal digits as class text, for `\h` inside a class. -/
def hexClassText (negated : Bool) : List Char :=
  (if negated then "[^0-9A-Fa-f]" else "[0-9A-Fa-f]").toList

/-- The set of `\h`, or of `\H`. -/
def hexSet (negated : Bool) : CharRanges :=
  let s := CharRanges.normalize [(0x30, 0x39), (0x41, 0x46), (0x61, 0x66)]
  if negated then CharRanges.negate s else s

/-- The largest count a quantifier can hold; larger counts are not read as counts. -/
def countLimit : Nat := Nat.pow 2 64

namespace Reader

variable (re : Array Char) (byteSize : Nat) (dialect : Dialect)

/-- Fails at the current position. -/
def failHere {α : Type} (reason : String) : ReadM α := do
  throw ⟨(← get).pos, reason⟩

/-- The character `k` places ahead of the position. -/
def peekAt (k : Nat) : ReadM (Option Char) := do
  pure re[(← get).pos + k]?

/-- The character at the position. -/
def peek : ReadM (Option Char) := peekAt re 0

/-- Moves `k` characters on. -/
def advance (k : Nat) : ReadM Unit :=
  modify fun s => { s with pos := s.pos + k }

/-- Moves to position `p`. -/
def moveTo (p : Nat) : ReadM Unit :=
  modify fun s => { s with pos := p }

/-- Whether the text at the position starts with `word`. -/
def startsWith (word : String) : ReadM Bool := do
  let p := (← get).pos
  pure (word.toList.zipIdx.all fun (c, i) => re[p + i]? == some c)

/-- Whether the extended mode skips `c`. -/
def isSkippedBlank (c : Char) : Bool :=
  match dialect with
  | .full => c == ' ' || c == '\t' || c == '\n' || c == '\r'
  | .plain => isBlank c

/-- In extended mode, skips blanks and `#` comments to the end of the line. -/
def skipBlanks : ReadM Unit := do
  if !(← get).flags.extended then return
  for _ in [0:re.size] do
    match ← peek re with
    | some c =>
      if isSkippedBlank dialect c then advance 1
      else if c = '#' then
        for _ in [0:re.size] do
          match ← peek re with
          | some '\n' => advance 1; break
          | some _ => advance 1
          | none => break
      else break
    | none => break

/-- The number written by the ASCII digits at position `p`, with the position after them, if
there are digits and the number is below `countLimit`. -/
def decimalAt (p : Nat) : Option (Nat × Nat) :=
  let digits := ((re.extract p re.size).toList.takeWhile Char.isDigit)
  let n := digits.foldl (fun n d => n * 10 + (d.toNat - '0'.toNat)) 0
  if digits.isEmpty || n ≥ countLimit then none else some (n, p + digits.length)

/-- Reads a count at a `{`: `n`, `n,`, `n,m` or `,m`, then `}`, with blanks allowed between the
parts in extended mode. An upper bound of `countLimit - 1` means no bound. Returns `none`, with
the position restored, when the text is no count. -/
def readCount : ReadM (Option (Nat × Option Nat)) := do
  let start := (← get).pos
  let restore : ReadM (Option (Nat × Option Nat)) := do
    moveTo start
    pure none
  advance 1
  skipBlanks re dialect
  let lo ← if (← peek re) == some ',' then pure (some 0)
    else match decimalAt re (← get).pos with
      | some (n, next) => moveTo next; pure (some n)
      | none => pure none
  let some lo := lo | restore
  skipBlanks re dialect
  match ← peek re with
  | some '}' => advance 1; pure (some (lo, some lo))
  | some ',' =>
    advance 1
    skipBlanks re dialect
    let hi ← match decimalAt re (← get).pos with
      | some (n, next) => moveTo next; pure (if n + 1 == countLimit then none else some n)
      | none => pure none
    skipBlanks re dialect
    if (← peek re) == some '}' then
      advance 1
      pure (some (lo, hi))
    else restore
  | _ => restore

/-- Reads a name at the position and the text `close` after it: a run of name characters, or,
when `relative`, a `-` and ASCII digits. Returns `none`, with the position restored, when no
non-empty name followed by `close` stands there. -/
def readName (close : String) (relative : Bool) : ReadM (Option String) := do
  let start := (← get).pos
  let rest := (re.extract start re.size).toList
  let name := match rest with
    | '-' :: digits => if relative then '-' :: digits.takeWhile Char.isDigit else []
    | _ =>
      rest.takeWhile fun c => if dialect = .plain then isPlainNameChar c else isNameChar c
  moveTo (start + name.length)
  let firstOk := dialect = .full || name.head?.any fun c => c.isAlpha || c == '_'
  if !name.isEmpty && firstOk && (← startsWith re close) then
    advance close.length
    return some (String.ofList name)
  moveTo start
  return none

/-- Reads `n` hexadecimal digits, or up to eight between braces, as a character; in extended
mode blanks may come first. -/
def readHex (n : Nat) : ReadM Char := do
  skipBlanks re dialect
  let p := (← get).pos
  let fixed := (List.range n).filterMap fun i => re[p + i]?.bind hexDigit?
  let value ← if fixed.length == n then do
      advance n
      pure (fixed.foldl (fun v d => v * 16 + d) 0)
    else if re[p]? == some '\x7b' then do
      let digits := ((re.extract (p + 1) re.size).toList.takeWhile fun c => (hexDigit? c).isSome)
      if digits.isEmpty || digits.length > 8 || re[p + 1 + digits.length]? != some '\x7d' then
        failHere "invalid hexadecimal escape"
      advance (digits.length + 2)
      pure (digits.foldl (fun v d => v * 16 + (hexDigit? d).getD 0) 0)
    else failHere "invalid hexadecimal escape"
  if value < 0x110000 && !(0xD800 ≤ value && value ≤ 0xDFFF) then pure (Char.ofNat value)
  else failHere "invalid code point"

/-- Reads the name of a `\p` escape after its letter: the text between braces, or one
character. -/
def readPropertyText : ReadM String := do
  match ← peek re with
  | some '\x7b' =>
    advance 1
    let rest := (re.extract (← get).pos re.size).toList
    let text := rest.takeWhile (· != '\x7d')
    if text.length == rest.length then failHere "unclosed property name"
    advance (text.length + 1)
    pure (String.ofList text)
  | some c => advance 1; pure (String.singleton c)
  | none => failHere "missing property name"

/-- Reads a back-reference by name or number, then `close`: the group a name refers to (the
latest group of that name opened so far), or the number written, or, for `-n`, the group `n`
places back from the latest one opened. -/
def readNamedBackref (close : String) : ReadM Nat := do
  let some name ← readName re dialect close true | failHere "invalid group name"
  let st ← get
  match st.names.lookup name with
  | some g => pure g
  | none =>
    match name.toList with
    | '-' :: digits =>
      let n := digits.foldl (fun n d => n * 10 + (d.toNat - '0'.toNat)) 0
      if n ≤ st.groups && n > 0 then pure (st.groups + 1 - n) else failHere "invalid back-reference"
    | digits =>
      if digits.all Char.isDigit then
        pure (digits.foldl (fun n d => n * 10 + (d.toNat - '0'.toNat)) 0)
      else failHere "unknown group name"

/-- Reads `\b{...}`: the word boundaries `start`, `end`, `start-half` and `end-half`. -/
def readWordBoundaryBrace : ReadM Assertion := do
  if !(← startsWith re "\\b\x7b") then failHere "invalid word boundary"
  advance 3
  let rest := (re.extract (← get).pos re.size).toList
  let text := rest.takeWhile (· != '\x7d')
  if text.length == rest.length then failHere "unclosed word boundary"
  advance (text.length + 1)
  match String.ofList text with
  | "start" => pure .wordStart
  | "end" => pure .wordEnd
  | "start-half" => pure .wordStartHalf
  | "end-half" => pure .wordEndHalf
  | _ => failHere "unknown word boundary"

/-- Reads an escape outside classes, at its backslash. -/
def readEscape : ReadM Node := do
  let some b ← peekAt re 1 | failHere "trailing backslash"
  let st ← get
  let caseless := st.flags.caseless
  let full := dialect = .full
  let fullOnly {α : Type} (r : ReadM α) : ReadM α :=
    if full then r else failHere "unsupported escape"
  if b.isDigit then
    fullOnly do
      match decimalAt re (st.pos + 1) with
      | some (g, next) =>
        if g < byteSize / 2 then
          moveTo next
          modify fun s => { s with numbered := true }
          pure (.backref g caseless)
        else failHere "invalid back-reference"
      | none => failHere "invalid back-reference"
  else
  match b with
  | 'k' =>
    fullOnly do
      advance 2
      let close := if (← peek re) == some '\'' then "'" else ">"
      let opener := if close == "'" then "'" else "<"
      if !(← startsWith re opener) then failHere "invalid group name"
      advance 1
      pure (.backref (← readNamedBackref re dialect close) caseless)
  | 'A' => advance 2; pure (.assert .startText)
  | 'z' => advance 2; pure (.assert .endText)
  | 'Z' => fullOnly do advance 2; pure (.assert .endTextNewlines)
  | 'b' | 'B' =>
    let save := st.pos
    advance 2
    skipBlanks re dialect
    if (← peek re) == some '\x7b' then
      advance 1
      skipBlanks re dialect
      if ((← peek re).map Char.isAlpha).getD false then
        moveTo save
        return .assert (← readWordBoundaryBrace re)
    moveTo (save + 2)
    pure (.assert (if b == 'b' then .wordBoundary else .notWordBoundary))
  | '<' => advance 2; pure (.assert .wordStart)
  | '>' => advance 2; pure (.assert .wordEnd)
  | 'h' | 'H' => fullOnly do advance 2; pure (.set (hexSet (b == 'H')))
  | 'x' => advance 2; pure (.char (← readHex re dialect 2) caseless)
  | 'u' => advance 2; pure (.char (← readHex re dialect 4) caseless)
  | 'U' => advance 2; pure (.char (← readHex re dialect 8) caseless)
  | 'K' => fullOnly do advance 2; pure .keep
  | 'G' => fullOnly do advance 2; pure (.assert .searchStart)
  | 'O' => fullOnly do advance 2; pure (.any true)
  | _ =>
    if let some s := perlClass? b then
      advance 2
      return .set s
    if (b == 'p' || b == 'P') && (re[st.pos + 2]?).isSome then
      advance 2
      let text ← readPropertyText re
      match unicodeClass text (b == 'P') caseless with
      | .ok s => return .set s
      | .error e => failHere e
    if let some c := controlEscape? b then
      if dialect = .plain && b == 'e' then failHere "invalid escape"
      advance 2
      return .char c caseless
    if b.isAlphanum || (dialect = .plain && b.toNat > 0x7F) then failHere "invalid escape"
    advance 2
    pure (.char b caseless)

/-- Reads an escape inside a class, at its backslash, as class tokens. -/
def readClassEscape : ReadM (List ClassToken) := do
  let some b ← peekAt re 1 | failHere "trailing backslash"
  let caseless := (← get).flags.caseless
  let charToken (c : Char) : ClassToken := if isClassSyntax c then .literal c else .plain c
  if b.isDigit then failHere "back-reference in a class"
  match b with
  | 'b' =>
    if dialect = .plain then failHere "invalid escape in a class"
    advance 2; pure [.plain '\x08']
  | 'h' | 'H' =>
    if dialect = .plain then failHere "invalid escape in a class"
    advance 2; pure ((hexClassText (b == 'H')).map .plain)
  | 'x' => advance 2; pure [charToken (← readHex re dialect 2)]
  | 'u' => advance 2; pure [charToken (← readHex re dialect 4)]
  | 'U' => advance 2; pure [charToken (← readHex re dialect 8)]
  | _ =>
    if let some s := perlClass? b then
      advance 2
      return [.set s]
    if (b == 'p' || b == 'P') && (re[(← get).pos + 2]?).isSome then
      advance 2
      let text ← readPropertyText re
      match unicodeClass text (b == 'P') caseless with
      | .ok s => return [.set s]
      | .error e => failHere e
    if let some c := controlEscape? b then
      advance 2
      return [.plain c]
    if b.isAlphanum || (dialect = .plain && b.toNat > 0x7F) then failHere "invalid escape"
    advance 2
    pure [charToken b]

/-- Reads a class at its `[`: finds where it ends by counting brackets (a `]` right after the
opening `[` or `[^` counts as a character), reads its escapes into tokens, then reads the tokens
by the grammar of classes. -/
def readClass : ReadM Node := do
  advance 1
  let mut toks : Array ClassToken := #[]
  if (← peek re) == some '^' then
    toks := toks.push (.plain '^')
    advance 1
  if (← peek re) == some ']' then
    toks := toks.push (.plain ']')
    advance 1
  let mut nest := 1
  for _ in [0:re.size + 1] do
    match ← peek re with
    | none => failHere "unclosed class"
    | some '\\' => toks := toks ++ (← readClassEscape re dialect).toArray
    | some '[' =>
      nest := nest + 1
      toks := toks.push (.plain '[')
      advance 1
    | some ']' =>
      nest := nest - 1
      toks := toks.push (.plain ']')
      advance 1
      if nest == 0 then break
    | some c =>
      toks := toks.push (.plain c)
      advance 1
  if nest != 0 then failHere "unclosed class"
  match readClassTokens toks (← get).flags.caseless with
  | .ok s => pure (.set s)
  | .error e => failHere e

/-- Whether a tree may be repeated by a quantifier. -/
def repeatable : Node → Bool
  | .empty | .look .. | .keep | .captured _ | .assert .searchStart => false
  | _ => true

/-- Expects the `)` that closes a group, after any blanks. -/
def closeGroup : ReadM Unit := do
  skipBlanks re dialect
  match ← peek re with
  | some ')' => advance 1
  | some _ => failHere "expected a closing parenthesis"
  | none => failHere "unclosed group"

/-- Reads a quantifier, if one stands here: its bounds. -/
def readQuantifier : ReadM (Option (Nat × Option Nat)) := do
  match ← peek re with
  | some '?' => advance 1; pure (some (0, some 1))
  | some '*' => advance 1; pure (some (0, none))
  | some '+' => advance 1; pure (some (1, none))
  | some '\x7b' =>
    match ← readCount re dialect with
    | some b => pure (some b)
    | none => if dialect = .plain then failHere "invalid repetition" else pure none
  | _ => pure none

/-- Applies the quantifier with bounds `lo` and `hi` that was just read to `atom`: lazy when `?`
follows, and possessive when `+` follows in the full dialect. -/
def quantify (atom : Node) (lo : Nat) (hi : Option Nat) : ReadM Node := do
  if !repeatable atom then failHere "nothing to repeat"
  skipBlanks re dialect
  let mut greedy := true
  if (← peek re) == some '?' then
    advance 1
    greedy := false
  if (← get).flags.swapGreed then greedy := !greedy
  let node := Node.rep atom lo hi greedy
  if (← peek re) == some '+' && dialect = .full then
    advance 1
    return .atomic node
  pure node

mutual

/-- Reads alternatives separated by `|`. A part that is not a list of alternatives is refused
when the pattern has both a named group and a numbered back-reference. -/
def readAlt : Nat → Nat → ReadM Node
  | 0, _ => failHere "pattern nested too deeply"
  | fuel + 1, depth => do
    let first ← readBranch fuel depth
    skipBlanks re dialect
    if (← peek re) == some '|' then
      let mut parts := #[first]
      for _ in [0:re.size] do
        if (← peek re) != some '|' then break
        advance 1
        parts := parts.push (← readBranch fuel depth)
        skipBlanks re dialect
      return .alt parts.toList
    let st ← get
    if st.numbered && !st.names.isEmpty then
      failHere "numbered back-reference in a pattern with named groups"
    pure first

/-- Reads a sequence of pieces until `|`, `)` or the end. -/
def readBranch : Nat → Nat → ReadM Node
  | 0, _ => failHere "pattern nested too deeply"
  | fuel + 1, depth => do
    let mut parts : Array Node := #[]
    for _ in [0:re.size + 1] do
      let start := (← get).pos
      if start ≥ re.size then break
      let piece ← readPiece fuel depth
      if (← get).pos == start then break
      match piece with
      | .empty => pure ()
      | p => parts := parts.push p
    pure (match parts.toList with
      | [] => .empty
      | [p] => p
      | ps => .concat ps)

/-- Reads an atom and the quantifier after it, if any; the plain dialect allows further
quantifiers, each repeating what stands before it. -/
def readPiece : Nat → Nat → ReadM Node
  | 0, _ => failHere "pattern nested too deeply"
  | fuel + 1, depth => do
    let atom ← readAtom fuel depth
    skipBlanks re dialect
    let some (lo, hi) ← readQuantifier re dialect | return atom
    let mut node ← quantify re dialect atom lo hi
    if dialect = .plain then
      for _ in [0:re.size] do
        skipBlanks re dialect
        let some (lo, hi) ← readQuantifier re dialect | break
        node ← quantify re dialect node lo hi
    pure node

/-- Reads one atom: a character, `.`, an anchor, a class, an escape or a group. Where a
quantifier, `|` or `)` stands, it reads nothing. -/
def readAtom : Nat → Nat → ReadM Node
  | 0, _ => failHere "pattern nested too deeply"
  | fuel + 1, depth => do
    skipBlanks re dialect
    let st ← get
    match re[st.pos]? with
    | none => pure .empty
    | some '.' => advance 1; pure (.any st.flags.dotAll)
    | some '^' => advance 1; pure (.assert (if st.flags.multiLine then .startLine else .startText))
    | some '$' => advance 1; pure (.assert (if st.flags.multiLine then .endLine else .endText))
    | some '(' => readGroup fuel depth
    | some '\\' => readEscape re byteSize dialect
    | some '[' => readClass re dialect
    | some '+' | some '*' | some '?' | some '|' | some ')' => pure .empty
    | some '\x7b' =>
      if dialect = .plain then failHere "repetition without an operand"
      advance 1; pure (.char '\x7b' st.flags.caseless)
    | some c => advance 1; pure (.char c st.flags.caseless)

/-- Reads a group at its `(`. -/
def readGroup : Nat → Nat → ReadM Node
  | 0, _ => failHere "pattern nested too deeply"
  | fuel + 1, depth => do
    let depth := depth + 1
    if depth ≥ (if dialect = .full then maxGroupDepth else maxPlainDepth) then
      failHere "groups nested too deeply"
    let full := dialect = .full
    advance 1
    skipBlanks re dialect
    let lookAround : Option (Bool × Bool × Nat) ←
      if (← startsWith re "?=") then pure (some (false, false, 2))
      else if (← startsWith re "?!") then pure (some (false, true, 2))
      else if (← startsWith re "?<=") then pure (some (true, false, 3))
      else if (← startsWith re "?<!") then pure (some (true, true, 3))
      else pure none
    if let some (behind, negative, skip) := lookAround then
      if !full then failHere "look-around is not supported"
      advance skip
      let body ← readAlt fuel depth
      closeGroup re dialect
      return .look body behind negative
    if (← startsWith re "?<") || (← startsWith re "?P<") then
      advance (if (← startsWith re "?<") then 2 else 3)
      modify fun s => { s with groups := s.groups + 1 }
      let index := (← get).groups
      let some name ← readName re dialect ">" false | failHere "invalid group name"
      if !full && ((← get).names.lookup name).isSome then failHere "duplicate group name"
      modify fun s => { s with names := (name, index) :: s.names }
      let body ← readAlt fuel depth
      closeGroup re dialect
      return .group body
    if (← startsWith re "?P=") then
      if !full then failHere "back-references are not supported"
      advance 3
      return .backref (← readNamedBackref re dialect ")") (← get).flags.caseless
    if (← startsWith re "?>") then
      if !full then failHere "atomic groups are not supported"
      advance 2
      let body ← readAlt fuel depth
      closeGroup re dialect
      return .atomic body
    if (← startsWith re "?(") then
      if !full then failHere "conditionals are not supported"
      advance 2
      return ← readConditional fuel depth
    if (← startsWith re "?#") then
      if !full then failHere "comments are not supported"
      let rest := (re.extract (← get).pos re.size).toList
      let text := rest.takeWhile (· != ')')
      if text.length == rest.length then failHere "unclosed comment"
      advance (text.length + 1)
      return .empty
    if (← startsWith re "?") then
      advance 1
      return ← readFlags fuel depth
    modify fun s => { s with groups := s.groups + 1 }
    let body ← readAlt fuel depth
    closeGroup re dialect
    pure (.group body)

/-- Reads a conditional after `(?(`: a test that a group has captured (`(1)`, `(<name>)`,
`('name')`) or a test pattern in parentheses, then the branches up to the closing `)`. The first
alternative is taken when the test matches, the rest otherwise. -/
def readConditional : Nat → Nat → ReadM Node
  | 0, _ => failHere "pattern nested too deeply"
  | fuel + 1, depth => do
    let test : Node ← match ← peek re with
      | none => failHere "unclosed group"
      | some '\'' => do advance 1; pure (.captured (← readNamedBackref re dialect "')"))
      | some '<' => do advance 1; pure (.captured (← readNamedBackref re dialect ">)"))
      | some c =>
        if c == '+' || c == '-' || c.isDigit then
          pure (.captured (← readNamedBackref re dialect ")"))
        else do
          let t ← readAlt fuel depth
          closeGroup re dialect
          pure t
    let start := (← get).pos
    let body ← readAlt fuel depth
    if (← get).pos == start then
      match test with
      | .captured _ =>
        closeGroup re dialect
        return test
      | _ => failHere "a conditional needs a branch"
    let (yes, no) := match body with
      | .alt (first :: [second]) => (first, second)
      | .alt (first :: rest) => (first, Node.alt rest)
      | other => (other, Node.empty)
    closeGroup re dialect
    match yes, no with
    | .empty, .empty => pure test
    | _, _ => pure (.cond test yes no)

/-- Reads inline flags after `(?`: either `flags)`, which changes the flags from here on, or
`flags:body)`, which changes them for the body only. -/
def readFlags : Nat → Nat → ReadM Node
  | 0, _ => failHere "pattern nested too deeply"
  | fuel + 1, depth => do
    let start := (← get).pos
    let saved := (← get).flags
    let mut negate := false
    for _ in [0:re.size + 1] do
      skipBlanks re dialect
      let some c ← peek re | failHere "unclosed group"
      let set (f : Flags → Bool → Flags) : ReadM Unit :=
        modify fun s => { s with flags := f s.flags !negate }
      match c with
      | 'i' => set fun fl v => { fl with caseless := v }
      | 'm' => set fun fl v => { fl with multiLine := v }
      | 's' => set fun fl v => { fl with dotAll := v }
      | 'U' => set fun fl v => { fl with swapGreed := v }
      | 'x' => set fun fl v => { fl with extended := v }
      | 'u' => if negate then failHere "unsupported flag"
      | '-' =>
        if negate then failHere "unknown flag"
        negate := true
      | ')' =>
        let p := (← get).pos
        if p == start || (negate && p == start + 1) then failHere "unknown flag"
        advance 1
        return .empty
      | ':' =>
        if negate && (← get).pos == start + 1 then failHere "unknown flag"
        advance 1
        let body ← readAlt fuel depth
        closeGroup re dialect
        modify fun s => { s with flags := saved }
        return body
      | _ => failHere "unknown flag"
      advance 1
    failHere "unclosed group"

end

end Reader

/-- Reads a whole pattern in a dialect. -/
def Pattern.parse (dialect : Dialect) (source : String) : Except SyntaxError Pattern := do
  let re := source.toList.toArray
  let (root, st) ← (Reader.readAlt re source.utf8ByteSize dialect (4 * re.size + 8) 0).run {}
  if st.pos < re.size then throw ⟨st.pos, "unexpected text"⟩
  pure ⟨root, st.groups⟩

end Highlight.Regex
