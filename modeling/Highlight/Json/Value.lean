/-!
# JSON values and their pretty form

A small JSON value type for what the library writes, and the pretty layout: two spaces per
level, one member or element per line, `"key": value`, and `[]` or `{}` for empty containers.
Strings escape the quote, the backslash and control characters; control characters without a
short escape are written `\u00XX` with lowercase hexadecimal digits.
-/

namespace Highlight.Json

/-- A JSON value; numbers are integers, the only numbers written. -/
inductive Value where
  | null
  | bool (b : Bool)
  | num (n : Int)
  | str (s : String)
  | arr (items : List Value)
  | obj (fields : List (String × Value))
  deriving Repr, Inhabited

/-- The lowercase hexadecimal digit of `n < 16`. -/
def hexDigit (n : Nat) : Char := if n < 10 then Char.ofNat (48 + n) else Char.ofNat (87 + n)

/-- The escaped form of one character inside a string. -/
def escapeChar (c : Char) : List Char :=
  match c with
  | '"' => ['\\', '"']
  | '\\' => ['\\', '\\']
  | '\n' => ['\\', 'n']
  | '\r' => ['\\', 'r']
  | '\t' => ['\\', 't']
  | '\x08' => ['\\', 'b']
  | '\x0c' => ['\\', 'f']
  | c => if c.toNat < 32 then ['\\', 'u', '0', '0', hexDigit (c.toNat / 16), hexDigit (c.toNat % 16)]
    else [c]

/-- A string literal. -/
def quote (s : String) : String := String.ofList ('"' :: s.toList.flatMap escapeChar ++ ['"'])

mutual

/-- The pretty form of a value whose first line is indented by `indent` spaces. -/
def Value.pretty (indent : Nat) : Value → String
  | .null => "null"
  | .bool b => if b then "true" else "false"
  | .num n => toString n
  | .str s => quote s
  | .arr [] => "[]"
  | .arr items => "[\n" ++ prettyItems (indent + 2) items ++ "\n" ++ "".pushn ' ' indent ++ "]"
  | .obj [] => "\x7b\x7d"
  | .obj fields => "\x7b\n" ++ prettyFields (indent + 2) fields ++ "\n" ++ "".pushn ' ' indent ++ "\x7d"

/-- Elements, one per line, separated by commas. -/
def prettyItems (indent : Nat) : List Value → String
  | [] => ""
  | [v] => "".pushn ' ' indent ++ v.pretty indent
  | v :: rest => "".pushn ' ' indent ++ v.pretty indent ++ ",\n" ++ prettyItems indent rest

/-- Members, one per line, separated by commas. -/
def prettyFields (indent : Nat) : List (String × Value) → String
  | [] => ""
  | [(k, v)] => "".pushn ' ' indent ++ quote k ++ ": " ++ v.pretty indent
  | (k, v) :: rest =>
    "".pushn ' ' indent ++ quote k ++ ": " ++ v.pretty indent ++ ",\n" ++ prettyFields indent rest

end

/-- The pretty form of a value. -/
def Value.render (v : Value) : String := v.pretty 0

end Highlight.Json
