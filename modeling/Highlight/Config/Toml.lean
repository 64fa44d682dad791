/-!
# TOML documents

A reader for TOML as settings files use it: comments, bare, quoted and dotted keys, table
headers, strings of all four kinds, integers, booleans, arrays and inline tables. A document is
read into its statements in order; what they mean is left to whoever reads the settings.

Floats and dates are refused outright: no setting takes one, so a document that holds one is
refused whichever way it is read. Every loop that does not consume its input structurally takes
a fuel argument; each step consumes at least one character, so the length of the input plus one
always suffices.
-/

namespace Highlight.Toml

/-- A value. -/
inductive Value where
  | str (s : String)
  | int (n : Int)
  | bool (b : Bool)
  | arr (items : List Value)
  /-- An inline table: its keys, each a dotted path, with their values, in order. -/
  | table (fields : List (List String × Value))
  deriving Repr, Inhabited

/-- One statement of a document. -/
inductive Statement where
  /-- A table header `[path]`, or `[[path]]` for a new element of an array of tables. -/
  | header (path : List String) (arrayElement : Bool)
  /-- A key-value pair `path = value`. -/
  | assign (path : List String) (value : Value)
  deriving Repr, Inhabited

/-- Spaces and tabs, the only blanks inside a line. -/
def isBlank (c : Char) : Bool := c == ' ' || c == '\t'

/-- Control characters other than the tab, which may not appear in comments or strings. -/
def isControl (c : Char) : Bool := (c.toNat < 32 && c != '\t') || c.toNat == 127

/-- Characters of a bare key. -/
def isBareKeyChar (c : Char) : Bool := c.isAlphanum || c == '_' || c == '-'

/-- The text after the blanks it starts with. -/
def skipBlanks : List Char → List Char
  | c :: rest => if isBlank c then skipBlanks rest else c :: rest
  | [] => []

/-- The text after the blanks and line breaks it starts with. -/
def skipBlankLines : List Char → List Char
  | '\r' :: '\n' :: rest => skipBlankLines rest
  | c :: rest => if isBlank c || c == '\n' then skipBlankLines rest else c :: rest
  | [] => []

/-- The text after a comment, if it starts with one: everything up to the line break. -/
def skipComment : List Char → Except String (List Char)
  | '#' :: rest => body rest
  | cs => .ok cs
where
  body : List Char → Except String (List Char)
  | [] => .ok []
  | '\n' :: rest => .ok ('\n' :: rest)
  | '\r' :: '\n' :: rest => .ok ('\r' :: '\n' :: rest)
  | c :: rest => if isControl c then .error "control character in a comment" else body rest

/-- The text after blanks, line breaks and comments, as they may stand between array elements. -/
def skipGaps : Nat → List Char → Except String (List Char)
  | 0, _ => .error "document too long"
  | fuel + 1, cs =>
    match skipBlankLines cs with
    | '#' :: rest => do skipGaps fuel (← skipComment ('#' :: rest))
    | rest => .ok rest

/-- The end of a statement: blanks, perhaps a comment, then a line break or the end. -/
def lineEnd (cs : List Char) : Except String (List Char) := do
  match ← skipComment (skipBlanks cs) with
  | [] => .ok []
  | '\n' :: rest => .ok rest
  | '\r' :: '\n' :: rest => .ok rest
  | _ => .error "expected a line break"

/-- The value of a hexadecimal digit. -/
def hexValue (c : Char) : Option Nat :=
  if c.isDigit then some (c.toNat - '0'.toNat)
  else if 'a' ≤ c && c ≤ 'f' then some (c.toNat - 'a'.toNat + 10)
  else if 'A' ≤ c && c ≤ 'F' then some (c.toNat - 'A'.toNat + 10)
  else none

/-- The character with the code written by hexadecimal digits, if it is a Unicode scalar value. -/
def scalarOfHex (digits : List Char) : Option Char := do
  let n ← digits.foldlM (fun n c => (hexValue c).map (16 * n + ·)) 0
  if n < 0xD800 || (0xE000 ≤ n && n ≤ 0x10FFFF) then some (Char.ofNat n) else none

/-- The character a one-letter escape stands for. -/
def simpleEscape : Char → Option Char
  | 'b' => some '\x08'
  | 't' => some '\t'
  | 'n' => some '\n'
  | 'f' => some '\x0c'
  | 'r' => some '\r'
  | '"' => some '"'
  | '\\' => some '\\'
  | _ => none

/-- The text after an escape's backslash: the character it stands for and the rest. -/
def escape : List Char → Except String (Char × List Char)
  | 'u' :: a :: b :: c :: d :: rest =>
    match scalarOfHex [a, b, c, d] with
    | some ch => .ok (ch, rest)
    | none => .error "invalid unicode escape"
  | 'U' :: a :: b :: c :: d :: e :: f :: g :: h :: rest =>
    match scalarOfHex [a, b, c, d, e, f, g, h] with
    | some ch => .ok (ch, rest)
    | none => .error "invalid unicode escape"
  | c :: rest =>
    match simpleEscape c with
    | some ch => .ok (ch, rest)
    | none => .error "invalid escape"
  | [] => .error "unterminated string"

/-- A basic string after its opening quote; `acc` holds what was read, last first. -/
def basicString (fuel : Nat) (cs acc : List Char) : Except String (String × List Char) :=
  match fuel, cs with
  | 0, _ => .error "document too long"
  | _, [] => .error "unterminated string"
  | _ + 1, '"' :: rest => .ok (String.ofList acc.reverse, rest)
  | f + 1, '\\' :: rest => do
    let (ch, rest) ← escape rest
    basicString f rest (ch :: acc)
  | f + 1, c :: rest =>
    if isControl c then .error "control character in a string" else basicString f rest (c :: acc)

/-- A literal string after its opening apostrophe. -/
def literalString (cs acc : List Char) : Except String (String × List Char) :=
  match cs with
  | [] => .error "unterminated string"
  | '\'' :: rest => .ok (String.ofList acc.reverse, rest)
  | c :: rest =>
    if isControl c then .error "control character in a string" else literalString rest (c :: acc)

/-- The text with the line break that may follow a multi-line string's opening removed. -/
def dropOpeningBreak : List Char → List Char
  | '\n' :: rest => rest
  | '\r' :: '\n' :: rest => rest
  | cs => cs

/-- The end of a multi-line string: three delimiters close it, and one or two more just before
them belong to the string. Six or more in a row are an error. -/
def closeMultiLine (delim : Char) (acc rest : List Char) : Except String (String × List Char) :=
  match rest with
  | d1 :: d2 :: d3 :: _ =>
    if d1 == delim && d2 == delim && d3 == delim then .error "too many quotes"
    else if d1 == delim && d2 == delim then .ok (String.ofList (delim :: delim :: acc).reverse, rest.drop 2)
    else if d1 == delim then .ok (String.ofList (delim :: acc).reverse, rest.drop 1)
    else .ok (String.ofList acc.reverse, rest)
  | d1 :: d2 :: _ =>
    if d1 == delim && d2 == delim then .ok (String.ofList (delim :: delim :: acc).reverse, rest.drop 2)
    else if d1 == delim then .ok (String.ofList (delim :: acc).reverse, rest.drop 1)
    else .ok (String.ofList acc.reverse, rest)
  | [d1] =>
    if d1 == delim then .ok (String.ofList (delim :: acc).reverse, []) else .ok (String.ofList acc.reverse, rest)
  | [] => .ok (String.ofList acc.reverse, [])

/-- Whether the text starts with blanks and then a line break: a backslash there ends the line and
joins it to the next non-blank text. -/
def breaksAfterBlanks (cs : List Char) : Bool :=
  match skipBlanks cs with
  | '\n' :: _ => true
  | '\r' :: '\n' :: _ => true
  | _ => false

/-- A multi-line basic string after its opening quotes. -/
def multiLineBasic (fuel : Nat) (cs acc : List Char) : Except String (String × List Char) :=
  match fuel, cs with
  | 0, _ => .error "document too long"
  | _, [] => .error "unterminated string"
  | _ + 1, '"' :: '"' :: '"' :: rest => closeMultiLine '"' acc rest
  | f + 1, '\\' :: rest =>
    if breaksAfterBlanks rest then multiLineBasic f (skipBlankLines rest) acc
    else do
      let (ch, rest) ← escape rest
      multiLineBasic f rest (ch :: acc)
  | f + 1, '\r' :: '\n' :: rest => multiLineBasic f rest ('\n' :: acc)
  | f + 1, c :: rest =>
    if isControl c && c != '\n' then .error "control character in a string"
    else multiLineBasic f rest (c :: acc)

/-- A multi-line literal string after its opening apostrophes. -/
def multiLineLiteral (cs acc : List Char) : Except String (String × List Char) :=
  match cs with
  | [] => .error "unterminated string"
  | '\'' :: '\'' :: '\'' :: rest => closeMultiLine '\'' acc rest
  | '\r' :: '\n' :: rest => multiLineLiteral rest ('\n' :: acc)
  | c :: rest =>
    if isControl c && c != '\n' then .error "control character in a string"
    else multiLineLiteral rest (c :: acc)

/-- A bare key's characters. -/
def bareKey (cs acc : List Char) : String × List Char :=
  match cs with
  | c :: rest => if isBareKeyChar c then bareKey rest (c :: acc) else (String.ofList acc.reverse, cs)
  | [] => (String.ofList acc.reverse, [])

/-- One part of a key: bare, or a single-line string. -/
def simpleKey (fuel : Nat) : List Char → Except String (String × List Char)
  | '"' :: rest => basicString fuel rest []
  | '\'' :: rest => literalString rest []
  | cs =>
    match bareKey cs [] with
    | ("", _) => .error "expected a key"
    | (k, rest) => .ok (k, rest)

/-- A dotted key: its parts in order. Blanks may surround the dots. -/
def dottedKey (fuel : Nat) (cs : List Char) (acc : List String) : Except String (List String × List Char) :=
  match fuel with
  | 0 => .error "document too long"
  | f + 1 => do
    let (k, rest) ← simpleKey fuel cs
    match skipBlanks rest with
    | '.' :: more => dottedKey f (skipBlanks more) (k :: acc)
    | _ => .ok ((k :: acc).reverse, rest)

/-- The digits of a number in base `base`, single underscores allowed between digits. -/
def digitsValue (base : Nat) (cs : List Char) : Option Nat :=
  let parts := (String.ofList cs).splitOn "_"
  if parts.any (·.isEmpty) then none
  else parts.foldlM (fun n part => part.toList.foldlM (fun n c =>
    (hexValue c).bind fun d => if d < base then some (base * n + d) else none) n) 0

/-- The integer a token spells: decimal with an optional sign and no leading zero, or unsigned
hexadecimal, octal or binary after `0x`, `0o` or `0b`; within the range of 64-bit integers. -/
def integer (token : List Char) : Option Int := do
  let n : Int ← match token with
    | '0' :: 'x' :: rest => (digitsValue 16 rest).map Int.ofNat
    | '0' :: 'o' :: rest => (digitsValue 8 rest).map Int.ofNat
    | '0' :: 'b' :: rest => (digitsValue 2 rest).map Int.ofNat
    | '+' :: rest => decimal rest
    | '-' :: rest => (decimal rest).map (- ·)
    | rest => decimal rest
  if -Int.pow 2 63 ≤ n && n < Int.pow 2 63 then some n else none
where
  decimal : List Char → Option Int
  | ['0'] => some 0
  | '0' :: _ => none
  | cs => if cs.all fun c => c.isDigit || c == '_' then (digitsValue 10 cs).map Int.ofNat else none

/-- Characters that end a bare value. -/
def endsValue (c : Char) : Bool :=
  isBlank c || c == ',' || c == ']' || c == '}' || c == '#' || c == '\n' || c == '\r'

mutual

/-- A value. -/
def value (fuel : Nat) (cs : List Char) : Except String (Value × List Char) :=
  match fuel, cs with
  | 0, _ => .error "document too long"
  | f + 1, '"' :: '"' :: '"' :: rest =>
    (multiLineBasic f (dropOpeningBreak rest) []).map fun (s, r) => (.str s, r)
  | f + 1, '"' :: rest => (basicString f rest []).map fun (s, r) => (.str s, r)
  | _ + 1, '\'' :: '\'' :: '\'' :: rest =>
    (multiLineLiteral (dropOpeningBreak rest) []).map fun (s, r) => (.str s, r)
  | _ + 1, '\'' :: rest => (literalString rest []).map fun (s, r) => (.str s, r)
  | f + 1, '[' :: rest => array f rest []
  | f + 1, '{' :: rest => inlineTable f (skipBlanks rest) []
  | _ + 1, cs =>
    let token := cs.takeWhile (!endsValue ·)
    let rest := cs.drop token.length
    if token == ['t', 'r', 'u', 'e'] then .ok (.bool true, rest)
    else if token == ['f', 'a', 'l', 's', 'e'] then .ok (.bool false, rest)
    else match integer token with
      | some n => .ok (.int n, rest)
      | none => .error "unsupported value"

/-- The elements of an array after its opening bracket, the last read first in `acc`. -/
def array (fuel : Nat) (cs : List Char) (acc : List Value) : Except String (Value × List Char) :=
  match fuel with
  | 0 => .error "document too long"
  | f + 1 => do
    match ← skipGaps fuel cs with
    | ']' :: rest => .ok (.arr acc.reverse, rest)
    | cs => do
      let (v, rest) ← value f cs
      match ← skipGaps fuel rest with
      | ',' :: more => array f more (v :: acc)
      | ']' :: more => .ok (.arr (v :: acc).reverse, more)
      | _ => .error "expected a comma or the end of the array"

/-- The members of an inline table after its opening brace, on one line. -/
def inlineTable (fuel : Nat) (cs : List Char) (acc : List (List String × Value)) : Except String (Value × List Char) :=
  match fuel, cs with
  | 0, _ => .error "document too long"
  | _ + 1, '}' :: rest =>
    if acc.isEmpty then .ok (.table [], rest) else .error "trailing comma in an inline table"
  | f + 1, cs => do
    let (key, rest) ← dottedKey fuel cs []
    let rest ← match skipBlanks rest with
      | '=' :: more => pure (skipBlanks more)
      | _ => .error "expected an equals sign"
    let (v, rest) ← value f rest
    match skipBlanks rest with
    | ',' :: more => inlineTable f (skipBlanks more) ((key, v) :: acc)
    | '}' :: more => .ok (.table ((key, v) :: acc).reverse, more)
    | _ => .error "expected a comma or the end of the inline table"

end

/-- A table header after its opening bracket (or brackets). -/
def header (fuel : Nat) (cs : List Char) (arrayElement : Bool) : Except String (Statement × List Char) := do
  let (path, rest) ← dottedKey fuel (skipBlanks cs) []
  match skipBlanks rest, arrayElement with
  | ']' :: ']' :: more, true => .ok (.header path true, more)
  | ']' :: more, false => .ok (.header path false, more)
  | _, _ => .error "expected the end of the header"

/-- A key-value pair. -/
def assignment (fuel : Nat) (cs : List Char) : Except String (Statement × List Char) := do
  let (path, rest) ← dottedKey fuel cs []
  match skipBlanks rest with
  | '=' :: more =>
    let (v, rest) ← value fuel (skipBlanks more)
    .ok (.assign path v, rest)
  | _ => .error "expected an equals sign"

/-- The statements of a document from `cs` on, the last read first in `acc`. -/
def statements (fuel : Nat) (cs : List Char) (acc : List Statement) :
    Except String (List Statement) :=
  match fuel with
  | 0 => .error "document too long"
  | f + 1 =>
    match skipBlanks cs with
    | [] => .ok acc.reverse
    | '\n' :: rest => statements f rest acc
    | '\r' :: '\n' :: rest => statements f rest acc
    | '#' :: rest => do statements f (← lineEnd ('#' :: rest)) acc
    | '[' :: '[' :: rest => do
      let (s, rest) ← header fuel rest true
      statements f (← lineEnd rest) (s :: acc)
    | '[' :: rest => do
      let (s, rest) ← header fuel rest false
      statements f (← lineEnd rest) (s :: acc)
    | rest => do
      let (s, rest) ← assignment fuel rest
      statements f (← lineEnd rest) (s :: acc)

/-- The statements of a TOML document, or why it is not one. -/
def parse (text : String) : Except String (List Statement) :=
  let cs := text.toList
  statements (4 * cs.length + 8) cs []

end Highlight.Toml
