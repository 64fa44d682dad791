/-!
# Reading JSON by shape

A reader is written for the shape it expects, and reads the text as it goes, so that a fault is
reported where it is met: a text that is not JSON is a syntax fault, a text that ends too soon is
an end-of-input fault, and JSON of the wrong shape (a number where a string belongs, a missing or
repeated member) is a data fault. Which of them a text has is decided by the first fault in reading
order. Members a shape does not know are read and skipped.
-/

namespace Highlight.Json

/-- The kind of fault a text has. -/
inductive Fault where
  /-- Not JSON at this point. -/
  | malformed
  /-- JSON of the wrong shape. -/
  | data
  /-- The text ends inside a value. -/
  | eof
  deriving Repr, Inhabited, BEq, DecidableEq

/-- The name of a fault kind. -/
def Fault.name : Fault → String
  | .malformed => "syntax"
  | .data => "data"
  | .eof => "eof"

/-- Reading from a position of a text. -/
abbrev Reader := ReaderT (Array Char) (StateT Nat (Except Fault))

namespace Reader

/-- The character at the position, if any. -/
def peekRaw : Reader (Option Char) := do return (← read)[← get]?

/-- Moves past one character. -/
def bump : Reader Unit := modify (· + 1)

/-- Whether `c` is blank between tokens. -/
def isSpace (c : Char) : Bool := c == ' ' || c == '\n' || c == '\t' || c == '\r'

/-- Skips blanks and gives the next character, if any. -/
def peek : Reader (Option Char) := do
  let t ← read
  let p ← get
  let n := ((t.extract p t.size).toList.takeWhile isSpace).length
  set (p + n)
  return t[p + n]?

/-- The next character, which is consumed; none at the end. -/
def next : Reader (Option Char) := do
  let c ← peekRaw
  if c.isSome then bump
  return c

/-- Reads the rest of a literal word whose first character was read. -/
def word (rest : List Char) : Reader Unit :=
  rest.forM fun expected => do
    match ← next with
    | none => throw .eof
    | some c => if c != expected then throw .malformed

/-- The value of a hexadecimal digit. -/
def hexValue (c : Char) : Option Nat :=
  if '0' ≤ c && c ≤ '9' then some (c.toNat - 48)
  else if 'a' ≤ c && c ≤ 'f' then some (c.toNat - 87)
  else if 'A' ≤ c && c ≤ 'F' then some (c.toNat - 55)
  else none

/-- Four hexadecimal digits. -/
def hex4 : Reader Nat := do
  let mut v := 0
  for _ in [0:4] do
    match ← next with
    | none => throw .eof
    | some c => match hexValue c with
      | some d => v := 16 * v + d
      | none => throw .malformed
  return v

/-- The character an escape after a backslash stands for, the backslash already read. Surrogate
pairs are joined; a surrogate alone is a fault. -/
def escape : Reader Char := do
  match ← next with
  | none => throw .eof
  | some '"' => return '"'
  | some '\\' => return '\\'
  | some '/' => return '/'
  | some 'b' => return '\x08'
  | some 'f' => return '\x0c'
  | some 'n' => return '\n'
  | some 'r' => return '\r'
  | some 't' => return '\t'
  | some 'u' =>
    let v ← hex4
    if 0xDC00 ≤ v && v < 0xE000 then throw .malformed
    if 0xD800 ≤ v && v < 0xDC00 then
      match ← next with
      | none => throw .eof
      | some '\\' =>
        match ← next with
        | none => throw .eof
        | some 'u' =>
          let w ← hex4
          if 0xDC00 ≤ w && w < 0xE000 then
            return Char.ofNat (0x10000 + (v - 0xD800) * 0x400 + (w - 0xDC00))
          else throw .malformed
        | some _ => throw .malformed
      | some _ => throw .malformed
    return Char.ofNat v
  | some _ => throw .malformed

/-- The rest of a string whose opening quote was read. Control characters must be escaped. -/
def stringBody : Reader String := do
  let t ← read
  let mut out : List Char := []
  for _ in [0:t.size + 1] do
    match ← next with
    | none => throw .eof
    | some '"' => return String.ofList out.reverse
    | some '\\' => out := (← escape) :: out
    | some c => if c.toNat < 32 then throw .malformed else out := c :: out
  throw .eof

/-- A number as read: an integer, or anything with a fraction or an exponent, or an integer
too large to hold, which counts as a float; negative zero is a float too. -/
inductive Number where
  | int (n : Int)
  | float
  deriving Repr, Inhabited

/-- Digits from the position on, consumed. -/
def digits : Reader (List Char) := do
  let t ← read
  let p ← get
  let ds := (t.extract p t.size).toList.takeWhile Char.isDigit
  set (p + ds.length)
  return ds

/-- The decimal value of digits. -/
def digitsValue (ds : List Char) : Nat := ds.foldl (fun n c => 10 * n + (c.toNat - 48)) 0

/-- A fraction or an exponent, from the point or the `e` on: each needs a digit. -/
def fractionAndExponent : Reader Bool := do
  let mut float := false
  if (← peekRaw) == some '.' then
    bump
    if (← digits).isEmpty then throw .malformed
    float := true
  match ← peekRaw with
  | some 'e' | some 'E' =>
    bump
    if (← peekRaw) == some '+' || (← peekRaw) == some '-' then bump
    if (← digits).isEmpty then throw .malformed
    float := true
  | _ => pure ()
  return float

/-- A number whose sign, if any, was read: a leading zero stands alone. -/
def number (negative : Bool) : Reader Number := do
  let ds ← digits
  match ds with
  | [] => throw .malformed
  | '0' :: _ :: _ => throw .malformed
  | _ =>
    let float ← fractionAndExponent
    let v := digitsValue ds
    if float || v ≥ Nat.pow 2 64 then return .float
    if negative then
      if v == 0 || v > Nat.pow 2 63 then return .float else return .int (-(v : Int))
    return .int v

/-- Reads and discards one value of any shape. `depth` bounds the nesting. -/
def skip : Nat → Reader Unit
  | 0 => throw .malformed
  | depth + 1 => do
    match ← peek with
    | none => throw .eof
    | some 'n' => bump; word ['u', 'l', 'l']
    | some 't' => bump; word ['r', 'u', 'e']
    | some 'f' => bump; word ['a', 'l', 's', 'e']
    | some '-' => bump; discard (number true)
    | some '"' => bump; discard stringBody
    | some '[' =>
      bump
      if (← peek) == some ']' then bump
      else
        let t ← read
        let mut fin := false
        for _ in [0:t.size + 1] do
          if fin then break
          skip depth
          match ← peek with
          | some ',' => bump
          | some ']' => bump; fin := true
          | some _ => throw .malformed
          | none => throw .eof
        if !fin then throw .eof
    | some '{' =>
      bump
      if (← peek) == some '}' then bump
      else
        let t ← read
        let mut fin := false
        for _ in [0:t.size + 1] do
          if fin then break
          match ← peek with
          | some '"' => bump; discard stringBody
          | some _ => throw .malformed
          | none => throw .eof
          match ← peek with
          | some ':' => bump
          | some _ => throw .malformed
          | none => throw .eof
          skip depth
          match ← peek with
          | some ',' => bump
          | some '}' => bump; fin := true
          | some _ => throw .malformed
          | none => throw .eof
        if !fin then throw .eof
    | some c => if c.isDigit then discard (number false) else throw .malformed

/-- The fault for a value of the wrong shape at the position: a literal, number or string is read
first, so that a fault inside it comes first; anything that is no value is a syntax fault. -/
def wrongShape {α : Type} : Reader α := do
  match ← peek with
  | none => throw .eof
  | some 'n' => bump; word ['u', 'l', 'l']; throw .data
  | some 't' => bump; word ['r', 'u', 'e']; throw .data
  | some 'f' => bump; word ['a', 'l', 's', 'e']; throw .data
  | some '-' => bump; discard (number true); throw .data
  | some '"' => bump; discard stringBody; throw .data
  | some '[' | some '{' => throw .data
  | some c => if c.isDigit then do discard (number false); throw .data else throw .malformed

/-- A string. -/
def str : Reader String := do
  if (← peek) == some '"' then bump; stringBody else wrongShape

/-- A boolean. -/
def bool : Reader Bool := do
  match ← peek with
  | some 't' => bump; word ['r', 'u', 'e']; return true
  | some 'f' => bump; word ['a', 'l', 's', 'e']; return false
  | _ => wrongShape

/-- A whole number from `lo` to `hi`. -/
def int (lo hi : Int) : Reader Int := do
  let n ← match ← peek with
    | some '-' => do bump; number true
    | some c => if c.isDigit then number false else wrongShape
    | none => throw .eof
  match n with
  | .int v => if lo ≤ v && v ≤ hi then return v else throw .data
  | .float => throw .data

/-- Either `null`, or a value read by `r`. -/
def optional {α : Type} (r : Reader α) : Reader (Option α) := do
  if (← peek) == some 'n' then
    bump; word ['u', 'l', 'l']; return none
  else return some (← r)

/-- Moves to the next element of an array: false at its end (the bracket not consumed). A comma
must separate elements, and may not come last. -/
def nextElement (first : Bool) : Reader Bool := do
  match ← peek with
  | some ']' => return false
  | some ',' =>
    if first then return true
    bump
    match ← peek with
    | some ']' => throw .malformed
    | some _ => return true
    | none => throw .eof
  | some _ => if first then return true else throw .malformed
  | none => throw .eof

/-- Closes an array whose elements were all read. -/
def endArray : Reader Unit := do
  match ← peek with
  | some ']' => bump
  | some _ => throw .malformed
  | none => throw .eof

/-- An array of values read by `r`. -/
def list {α : Type} (r : Reader α) : Reader (List α) := do
  if (← peek) != some '[' then wrongShape
  bump
  let t ← read
  let mut out : List α := []
  let mut first := true
  for _ in [0:t.size + 1] do
    if !(← nextElement first) then break
    first := false
    out := (← r) :: out
  endArray
  return out.reverse

/-- Moves to the next member of an object and reads its name: none at its end (the brace not
consumed). -/
def nextKey (first : Bool) : Reader (Option String) := do
  let c ← match ← peek with
    | some '}' => return none
    | some ',' =>
      if first then pure (some ',')
      else
        bump
        peek
    | some c => if first then pure (some c) else throw .malformed
    | none => throw .eof
  match c with
  | some '"' => bump; return some (← stringBody)
  | some '}' => throw .malformed
  | some _ => throw .malformed
  | none => throw .eof

/-- The colon after a member name. -/
def colon : Reader Unit := do
  match ← peek with
  | some ':' => bump
  | some _ => throw .malformed
  | none => throw .eof

/-- Closes an object whose members were all read. -/
def endObject : Reader Unit := do
  match ← peek with
  | some '}' => bump
  | some ',' => throw .malformed
  | some _ => throw .malformed
  | none => throw .eof

/-- An object read member by member into a state: `member` gets each name with the state so far,
and reads the colon and the value. -/
def object {σ : Type} (init : σ) (member : String → σ → Reader σ) : Reader σ := do
  bump
  let t ← read
  let mut st := init
  let mut first := true
  for _ in [0:t.size + 1] do
    match ← nextKey first with
    | none => break
    | some k =>
      first := false
      st ← member k st
  return st

/-- The end of the text: only blanks may follow the value. -/
def finish : Reader Unit := do
  if (← peek).isSome then throw .malformed

end Reader

/-- Runs a reader on a whole text. -/
def Reader.parse {α : Type} (r : Reader α) (text : String) : Except Fault α :=
  let t := text.toList.toArray
  match StateT.run (ReaderT.run (do let v ← r; Reader.finish; pure v : Reader α) t) 0 with
  | .ok (v, _) => .ok v
  | .error e => .error e

end Highlight.Json
