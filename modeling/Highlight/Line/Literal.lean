/-!
# Literal scanners

Each scanner looks at the characters from a column on and gives the length of the literal found
there, or nothing. They are written on lists so that "the longest prefix of the text in the
literal's language" can be stated about them directly.

* `int`: decimal digits, at least one.
* `float`: digits with a point and at least one digit, or digits with an exponent, each with an
  optional exponent `[eE][+-]?digits`.
* `cOctal`: `0` then octal digits, then any of `lLuU`.
* `cHex`: `0x` or `0X` then hexadecimal digits, then any of `lLuU`.
* `cStringChar`: a backslash escape: a letter of `abefnrtv`, a quote, `?` or a backslash;
  `x` and hexadecimal digits; or one to three octal digits.
* `cChar`: a character or an escape between single quotes.

Digits here are ASCII digits.
-/

namespace Highlight.Literal

/-- The length of the longest prefix of `cs` whose characters satisfy `p`. -/
def runLength (p : Char → Bool) (cs : List Char) : Nat := (cs.takeWhile p).length

/-- An ASCII decimal digit. -/
def isDecimal (c : Char) : Bool := '0' ≤ c && c ≤ '9'

/-- An ASCII octal digit. -/
def isOctal (c : Char) : Bool := '0' ≤ c && c ≤ '7'

/-- An ASCII hexadecimal digit. -/
def isHex (c : Char) : Bool := isDecimal c || ('a' ≤ c && c ≤ 'f') || ('A' ≤ c && c ≤ 'F')

/-- One of the integer suffixes `lLuU`. -/
def isIntSuffix (c : Char) : Bool := c == 'l' || c == 'L' || c == 'u' || c == 'U'

/-- A run of decimal digits, `[0-9]+`. -/
def int (cs : List Char) : Option Nat :=
  let n := runLength isDecimal cs
  if n > 0 then some n else none

/-- An exponent, `[eE][+-]?[0-9]+`. -/
def exponent : List Char → Option Nat
  | c :: rest =>
    if c == 'e' || c == 'E' then
      let sign := match rest with
        | s :: _ => if s == '+' || s == '-' then 1 else 0
        | [] => 0
      let n := runLength isDecimal (rest.drop sign)
      if n > 0 then some (1 + sign + n) else none
    else none
  | [] => none

/-- A decimal floating-point number: digits around a point with at least one digit, or digits
with an exponent; a point form may take an exponent too. -/
def float (cs : List Char) : Option Nat :=
  let whole := runLength isDecimal cs
  let (point, len) := match cs.drop whole with
    | '.' :: rest => (true, whole + 1 + runLength isDecimal rest)
    | _ => (false, whole)
  if len - (if point then 1 else 0) == 0 then none
  else match exponent (cs.drop len) with
    | some e => some (len + e)
    | none => if point then some len else none

/-- An octal literal with integer suffixes, `0[0-7]+[lLuU]*`. -/
def cOctal : List Char → Option Nat
  | '0' :: rest =>
    let n := runLength isOctal rest
    if n > 0 then some (1 + n + runLength isIntSuffix (rest.drop n)) else none
  | _ => none

/-- A hexadecimal literal with integer suffixes, `0[xX][0-9a-fA-F]+[lLuU]*`. -/
def cHex : List Char → Option Nat
  | '0' :: x :: rest =>
    if x == 'x' || x == 'X' then
      let n := runLength isHex rest
      if n > 0 then some (2 + n + runLength isIntSuffix (rest.drop n)) else none
    else none
  | _ => none

/-- The characters that follow a backslash in a one-letter escape. -/
def simpleEscapes : List Char := ['a', 'b', 'e', 'f', 'n', 'r', 't', 'v', '"', '\'', '?', '\\']

/-- A backslash escape: one letter, `x` and hexadecimal digits, or one to three octal digits. -/
def cStringChar : List Char → Option Nat
  | '\\' :: c :: rest =>
    if simpleEscapes.contains c then some 2
    else if c == 'x' then
      let n := runLength isHex rest
      if n > 0 then some (2 + n) else none
    else if isOctal c then some (1 + min 3 (runLength isOctal (c :: rest)))
    else none
  | _ => none

/-- A character literal: one character other than a quote, or an escape, between single
quotes. -/
def cChar : List Char → Option Nat
  | '\'' :: '\\' :: rest => do
    let n ← cStringChar ('\\' :: rest)
    if ('\\' :: rest)[n]? == some '\'' then some (n + 2) else none
  | '\'' :: '\'' :: _ => none
  | '\'' :: _ :: rest => if rest.head? == some '\'' then some 3 else none
  | _ => none

end Highlight.Literal
