/-!
# Placeholders

Strings of a dynamic rule may hold placeholders `%1` to `%9`. When the rule is tried they are
replaced by the captures of the match that entered the rule's context; a capture that does not
exist reads as empty. In a pattern the inserted text is escaped, so that it matches only itself.
The highest placeholder of a text is looked for among the pairs of adjacent bytes of its UTF-8
encoding; the replacement walks its characters.
-/

namespace Highlight.Placeholder

/-- The placeholder a pair of adjacent bytes spells: `%` (byte 37) directly followed by a digit
`1` to `9` (bytes 49 to 57). -/
def windowNumber : UInt8 × UInt8 → Option Nat
  | (b, d) => if b = 37 ∧ 49 ≤ d ∧ d ≤ 57 then some (d.toNat - 48) else none

/-- The placeholder numbers of a text, in order, found among the pairs of adjacent bytes of its
UTF-8 encoding. -/
def numbers (template : String) : List Nat :=
  let bytes := template.toUTF8.data.toList
  (bytes.zip bytes.tail).filterMap windowNumber

/-- The highest placeholder number of a text, or 0 when it has none. -/
def highest (template : String) : Nat :=
  (numbers template).max?.getD 0

/-- The characters that carry a meaning in patterns and are escaped by a backslash when inserted:
`\ . + * ? ( ) | [ ] { } ^ $ # & - ~`. -/
def patternSpecials : List Char :=
  ['\\', '.', '+', '*', '?', '(', ')', '|', '[', ']', '\x7b', '\x7d', '^', '$', '#', '&', '-', '~']

/-- A text that a pattern matches literally: each special character gets a backslash. -/
def escapeForPattern (text : List Char) : List Char :=
  text.flatMap fun c => if patternSpecials.contains c then ['\\', c] else [c]

/-- Replaces every placeholder in `cs` by capture `n` of `captures` (or nothing), escaped when
`escape` holds; every other character is kept. -/
def fill (captures : List String) (escape : Bool) : List Char → List Char
  | '%' :: d :: rest =>
    if '1' ≤ d ∧ d ≤ '9' then
      let value := (captures.getD (d.toNat - '0'.toNat) "").toList
      (if escape then escapeForPattern value else value) ++ fill captures escape rest
    else '%' :: fill captures escape (d :: rest)
  | c :: rest => c :: fill captures escape rest
  | [] => []

/-- The text of `template` with its placeholders bound from `captures`. A text without
placeholders is returned as it is. -/
def substitute (template : String) (captures : List String) (escape : Bool) : String :=
  if highest template = 0 then template else String.ofList (fill captures escape template.toList)

end Highlight.Placeholder
