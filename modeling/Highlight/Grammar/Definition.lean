import Highlight.Grammar.Header
import Highlight.Text.Blank
import Highlight.Text.Quote
/-!
# Definitions as written

A definition read from its file, before anything in it is resolved: every reference to a context,
an attribute, a keyword list or another language is still the text the file gives. Linking turns
a definition into a grammar.
-/

namespace Highlight

namespace Definition

/-- A reference to a context as written: `Ctx`, `##Language` or `Ctx##Language`. -/
structure Target where
  /-- The context name, absent for a language's default context. -/
  context : Option String
  /-- The language, absent for a context of the same definition. -/
  language : Option String
  deriving Repr, Inhabited, BEq

namespace Target

/-- Splits a text at its first `##`: the characters before it and those after it. -/
def splitMarker : List Char → Option (List Char × List Char)
  | '#' :: '#' :: rest => some ([], rest)
  | c :: rest => (splitMarker rest).map fun (ctx, lang) => (c :: ctx, lang)
  | [] => none

/-- Reads a reference: the text before the first `##` names the context (none when empty), the
text after it the language. -/
def parse (text : String) : Target :=
  match splitMarker text.toList with
  | some (ctx, lang) =>
    ⟨if ctx.isEmpty then none else some (String.ofList ctx), some (String.ofList lang)⟩
  | none => ⟨some text, none⟩

/-- The reference as it was written. -/
def render (t : Target) : String :=
  match t.context, t.language with
  | some c, some l => c ++ "##" ++ l
  | none, some l => "##" ++ l
  | some c, none => c
  | none, none => ""

end Target

/-- The largest number of levels a switch pops; counts beyond it stay there. -/
def maxPops : Nat := 65535

/-- What a match does to the context stack, as written: pops first, then pushes. -/
structure Switch where
  /-- Levels to pop. -/
  pop : Nat := 0
  /-- Contexts to push, in order. -/
  push : List Target := []
  deriving Repr, Inhabited, BEq

namespace Switch

/-- Whether the switch leaves the stack alone. -/
def isStay (s : Switch) : Bool := s.pop == 0 && s.push.isEmpty

/-- Strips leading `#pop` markers, counting them. -/
def stripPops (count : Nat) : List Char → Nat → Nat × List Char
  | '#' :: 'p' :: 'o' :: 'p' :: rest, fuel + 1 => stripPops (min maxPops (count + 1)) rest fuel
  | cs, _ => (count, cs)

/-- Reads a switch: blank or `#stay` stays; `#pop` repeated pops; after pops, `!`-separated
targets are pushed; without pops the whole text is one target. Anything else, such as an empty
target after a `!`, cannot be read. Blanks around the text do not count. -/
def parse? (text : String) : Option Switch :=
  let t := Text.trimBlanks text
  if t.isEmpty || t == "#stay" then some {}
  else
    let (pops, rest) := stripPops 0 t.toList t.length
    if pops == 0 then some { push := [Target.parse t] }
    else if rest.isEmpty then some { pop := pops }
    else match rest with
      | '!' :: targets =>
        let parts := targets.splitOn '!'
        if parts.any (·.isEmpty) then none
        else some { pop := pops, push := parts.map fun part => Target.parse (String.ofList part) }
      | _ => none

end Switch

/-- A rule kind as written, with the attributes that belong to the kind. -/
inductive RuleKind where
  | detectChar (ch : String)
  | detect2Chars (first second : Char)
  | anyChar (set : String)
  | stringDetect (text : String)
  | wordDetect (text : String)
  | keyword (list : String)
  | regExpr (pattern : String)
  | int
  | float
  | hlCOct
  | hlCHex
  | hlCStringChar
  | hlCChar
  | rangeDetect (opening closing : String)
  | lineContinue (ch : Char)
  | detectSpaces
  | detectIdentifier
  /-- Splices the rules of another context in place. -/
  | includeRules (target : Target) (includeAttrib : Bool)
  deriving Repr, Inhabited

/-- A rule as written. -/
structure Rule where
  /-- The element name, as the file spells it. -/
  element : String
  /-- The kind and its own attributes. -/
  kind : RuleKind
  /-- The attribute of matched text, by name. -/
  attr : Option String
  /-- The stack action on a match. -/
  switch : Switch
  /-- Match without consuming. -/
  lookAhead : Bool
  /-- Match only at the first non-blank column. -/
  firstNonSpace : Bool
  /-- Match only at this column. -/
  column : Option Nat
  /-- Placeholders are bound from the current frame. -/
  dynamic : Bool
  /-- Compare up to case. -/
  insensitive : Bool
  /-- Rules tried once right after a match, to extend it. -/
  children : List Rule
  deriving Repr, Inhabited

/-- How a rule is named in messages: its element, then its text (or its two delimiters) quoted. -/
def Rule.describe (r : Rule) : String :=
  match r.kind with
  | .detectChar s | .anyChar s | .stringDetect s | .wordDetect s | .keyword s | .regExpr s =>
    r.element ++ " " ++ Text.quote s
  | .rangeDetect b e => r.element ++ " " ++ Text.quote b ++ ".." ++ Text.quote e
  | _ => r.element

/-- A context as written. -/
structure Context where
  /-- The context name. -/
  name : String
  /-- The attribute of text no rule matches, by name. -/
  attr : Option String
  /-- The stack action at the end of a line. -/
  lineEnd : Switch
  /-- The stack action at an empty line, if it differs. -/
  lineEmpty : Option Switch
  /-- The stack action where no rule matches, if any. -/
  fallthrough : Option Switch
  /-- The rules, in order. -/
  rules : List Rule
  deriving Repr, Inhabited

/-- A keyword list as written: its words and the lists it includes. -/
structure WordList where
  /-- The list name. -/
  name : String
  /-- The words. -/
  items : List String
  /-- Included lists, possibly of other languages. -/
  includes : List Target
  deriving Repr, Inhabited

/-- An attribute declaration: its name and style name. -/
structure Style where
  /-- The attribute name. -/
  name : String
  /-- The style name, such as `dsKeyword`. -/
  style : String
  deriving Repr, Inhabited

/-- Comment markers a definition declares, for hosts that toggle comments. -/
structure CommentMarkers where
  /-- The marker of a comment to the end of the line. -/
  singleLine : Option String := none
  /-- The start and end markers of a block comment. -/
  multiLine : Option (String × String) := none
  deriving Repr, Inhabited, BEq

end Definition

open Definition in
/-- A grammar definition as written. -/
structure Definition where
  /-- The language header. -/
  header : Header
  /-- Keyword lists. -/
  lists : List WordList
  /-- Contexts, the first being the default. -/
  contexts : List Context
  /-- Attribute declarations, in order. -/
  styles : List Style
  /-- Whether keyword lists compare exactly. -/
  keywordsCaseSensitive : Bool
  /-- Separators the definition weakens. -/
  weakDeliminators : String
  /-- Separators the definition adds. -/
  additionalDeliminators : String
  /-- Comment markers. -/
  comments : CommentMarkers
  deriving Repr, Inhabited

namespace Definition

mutual

/-- The targets a rule refers to: its pushes, its inclusion, and those of its children. -/
def Rule.targets : Rule → List Target
  | ⟨_, kind, _, switch, _, _, _, _, _, children⟩ =>
    let own := match kind with
      | .includeRules t _ => [t]
      | _ => []
    switch.push ++ own ++ Rule.targetsOf children

/-- The targets of several rules, in order. -/
def Rule.targetsOf : List Rule → List Target
  | [] => []
  | r :: rs => r.targets ++ Rule.targetsOf rs

end

/-- The languages a definition refers to through `##Language`, each once, in the order first
met: contexts in order (line end, then empty line and fallthrough, then rules), then lists. -/
def languages (d : Definition) : List String :=
  let fromContexts := d.contexts.flatMap fun c =>
    c.lineEnd.push ++ (c.lineEmpty.map (·.push)).getD [] ++ (c.fallthrough.map (·.push)).getD [] ++
      c.rules.flatMap Rule.targets
  let all := fromContexts ++ d.lists.flatMap (·.includes)
  (all.filterMap (·.language)).foldl (fun acc l => if acc.contains l then acc else acc ++ [l]) []

end Definition

end Highlight
