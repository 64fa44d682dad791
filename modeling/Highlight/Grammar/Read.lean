import Highlight.Grammar.Definition
import Highlight.Grammar.Error
import Highlight.Text.Number
import Highlight.Xml.Parse
/-!
# Reading definitions

A definition file is an XML document whose root is `language`. Its attributes form the header;
the `highlighting` element holds keyword lists, contexts with their rules, and attribute
declarations; the optional `general` element holds keyword settings and comment markers.

Faults are reported in reading order: the header first, then the elements of `highlighting` in
document order, each rule's own attributes before its column, stack action, flags and children.
Before the header is read the grammar is called `<unnamed>`.
-/

namespace Highlight

open Definition (Target WordList Style CommentMarkers)

/-- The grammar name used before a definition's name is known. -/
def unnamed : String := "<unnamed>"

/-- Reads a flag: `1`, `true`, `TRUE`, `True` are true; `0`, `false`, `FALSE`, `False` and the
empty text are false, blanks around the value aside. -/
def readFlag? (value : String) : Option Bool :=
  match Text.trimBlanks value with
  | "1" | "true" | "TRUE" | "True" => some true
  | "0" | "false" | "FALSE" | "False" | "" => some false
  | _ => none

/-- The failures of reading one definition, named after `grammar`. -/
structure DefinitionReader where
  /-- The grammar name for messages. -/
  grammar : String

namespace DefinitionReader

variable (r : DefinitionReader)

/-- A missing element or attribute. -/
def missing {α : Type} (element : String) : Except LoadError α :=
  .error (.missing r.grammar element)

/-- An attribute value that cannot be read. -/
def invalid {α : Type} (attr value : String) : Except LoadError α :=
  .error (.invalidValue r.grammar attr value)

/-- A required attribute of `node`, reported as `tag@attr` when absent. -/
def required (node : Xml.Node) (attr : String) : Except LoadError String :=
  match node.attr? attr with
  | some v => .ok v
  | none => r.missing (node.name ++ "@" ++ attr)

/-- A flag value. -/
def flag (attr value : String) : Except LoadError Bool :=
  match readFlag? value with
  | some b => .ok b
  | none => r.invalid attr value

/-- An optional flag attribute, false when absent. -/
def optFlag (node : Xml.Node) (attr : String) : Except LoadError Bool :=
  match node.attr? attr with
  | some v => r.flag attr v
  | none => .ok false

/-- A stack action. -/
def switch (attr value : String) : Except LoadError Definition.Switch :=
  match Definition.Switch.parse? value with
  | some s => .ok s
  | none => r.invalid attr value

/-- A required attribute holding exactly one character. -/
def singleChar (node : Xml.Node) (attr : String) : Except LoadError Char := do
  let value ← r.required node attr
  match value.toList with
  | [c] => pure c
  | _ => r.invalid attr value

/-- A keyword list: its name, then its `item` and `include` children with their trimmed text;
empty ones are skipped. -/
def wordList (node : Xml.Node) : Except LoadError WordList := do
  let name ← r.required node "name"
  let mut items := []
  let mut includes := []
  for item in node.elements do
    let text := Text.trimBlanks (item.text?.getD "")
    if text.isEmpty then continue
    if item.hasName "item" then items := items ++ [text]
    else if item.hasName "include" then includes := includes ++ [Target.parse text]
  pure { name, items, includes }

/-- The kind of a rule element and the attributes that belong to it. -/
def ruleKind (context : String) (node : Xml.Node) : Except LoadError Definition.RuleKind :=
  let string (attr : String) := r.required node attr
  match node.name with
  | "DetectChar" => return .detectChar (← string "char")
  | "Detect2Chars" => return .detect2Chars (← r.singleChar node "char") (← r.singleChar node "char1")
  | "AnyChar" => return .anyChar (← string "String")
  | "StringDetect" => return .stringDetect (← string "String")
  | "WordDetect" => return .wordDetect (← string "String")
  | "keyword" => return .keyword (← string "String")
  | "RegExpr" => return .regExpr (← string "String")
  | "Int" => pure .int
  | "Float" => pure .float
  | "HlCOct" => pure .hlCOct
  | "HlCHex" => pure .hlCHex
  | "HlCStringChar" => pure .hlCStringChar
  | "HlCChar" => pure .hlCChar
  | "RangeDetect" => do
    let either (a b : String) : Except LoadError String :=
      match node.attr? a <|> node.attr? b with
      | some v => pure v
      | none => r.missing ("RangeDetect@" ++ a)
    return .rangeDetect (← either "char" "String") (← either "char1" "end")
  | "LineContinue" =>
    match node.attr? "char" with
    | some _ => return .lineContinue (← r.singleChar node "char")
    | none => pure (.lineContinue '\\')
  | "DetectSpaces" => pure .detectSpaces
  | "DetectIdentifier" => pure .detectIdentifier
  | "IncludeRules" => do
    let target := Target.parse (← string "context")
    return .includeRules target (← r.optFlag node "includeAttrib")
  | element => .error (.unknownRule r.grammar context element)

mutual

/-- A rule element of context `context`, with its children. -/
def rule (context : String) : Xml.Node → Except LoadError Definition.Rule
  | node@(.element element _ kids) => do
    let kind ← r.ruleKind context node
    let column ← match node.attr? "column" with
      | some v =>
        match Text.parseUInt64? (Text.trimBlanks v) with
        | some n => pure (some n)
        | none => r.invalid "column" v
      | none => pure none
    let attr := node.attr? "attribute"
    let switch ← r.switch "context" ((node.attr? "context").getD "#stay")
    let lookAhead ← r.optFlag node "lookAhead"
    let firstNonSpace ← r.optFlag node "firstNonSpace"
    let dynamic ← r.optFlag node "dynamic"
    let insensitive ← r.optFlag node "insensitive"
    let children ← childRules context kids
    pure (Definition.Rule.mk element kind attr switch lookAhead firstNonSpace column dynamic insensitive
      children)
  | _ => .error (.unknownRule r.grammar context "")

/-- The child rules among the nodes inside a rule element, in document order; the text between
them is skipped. -/
def childRules (context : String) : List Xml.Node → Except LoadError (List Definition.Rule)
  | [] => pure []
  | k :: ks =>
    if k.isElement then do
      let c ← rule context k
      let cs ← childRules context ks
      pure (c :: cs)
    else childRules context ks

end

/-- A context element with its rules. The fallthrough action is kept unless `fallthrough` is set
to false, and dropped when it stays. -/
def context (node : Xml.Node) : Except LoadError Definition.Context := do
  let name ← r.required node "name"
  let lineEnd ← r.switch "lineEndContext" ((node.attr? "lineEndContext").getD "#stay")
  let lineEmpty ← match node.attr? "lineEmptyContext" with
    | some v => some <$> r.switch "lineEmptyContext" v
    | none => pure none
  let explicit ← match node.attr? "fallthrough" with
    | some v => some <$> r.flag "fallthrough" v
    | none => pure none
  let fallthrough ← match node.attr? "fallthroughContext" with
    | some v =>
      if explicit == some false then pure none
      else do
        let s ← r.switch "fallthroughContext" v
        pure (if s.isStay then none else some s)
    | none => pure none
  let rules ← node.elements.mapM (r.rule name)
  pure {
    name := name, attr := node.attr? "attribute", lineEnd := lineEnd, lineEmpty := lineEmpty,
    fallthrough := fallthrough, rules := rules }

end DefinitionReader

/-- Reads the header from the root element, which must be `language` with a `name`. -/
def readHeader (root : Xml.Node) : Except LoadError Header := do
  if !root.hasName "language" then .error (.missing unnamed "language")
  let name ← match root.attr? "name" with
    | some n => pure n
    | none => .error (.missing unnamed "language@name")
  let r : DefinitionReader := ⟨name⟩
  let listOf (attr : String) : List String :=
    match root.attr? attr with
    | some v => ((v.splitOn ";").map Text.trimBlanks).filter (!·.isEmpty)
    | none => []
  let text (attr : String) : String := (root.attr? attr).getD ""
  let priority ← match root.attr? "priority" with
    | some v =>
      match Text.parseInt32? (Text.trimBlanks v) with
      | some p => pure p
      | none => r.invalid "priority" v
    | none => pure 0
  let hidden ← match root.attr? "hidden" with
    | some v => r.flag "hidden" v
    | none => pure false
  pure {
    name := name, category := text "section", extensions := listOf "extensions",
    mimeTypes := listOf "mimetype", version := text "version", kateVersion := text "kateversion",
    priority := priority, author := text "author", license := text "license", hidden := hidden,
    indenter := root.attr? "indenter" }

/-- The XML document of a definition; a malformed text is reported for the unnamed grammar. -/
def readDocument (text : String) : Except LoadError Xml.Node :=
  match Xml.parseDocument text with
  | .ok root => .ok root
  | .error e => .error (.malformed unnamed e.reason)

/-- Reads only the header of a definition. -/
def parseHeader (text : String) : Except LoadError Header := do
  readHeader (← readDocument text)

/-- Reads a whole definition. -/
def parseDefinition (text : String) : Except LoadError Definition := do
  let root ← readDocument text
  let header ← readHeader root
  let r : DefinitionReader := ⟨header.name⟩
  let mut caseSensitive ← match root.attr? "casesensitive" with
    | some v => r.flag "casesensitive" v
    | none => pure true
  let some highlighting := root.child? "highlighting" | r.missing "highlighting"
  let mut lists := []
  let mut contexts := []
  let mut styles := []
  for node in highlighting.elements do
    match node.name with
    | "list" => lists := lists ++ [← r.wordList node]
    | "contexts" =>
      for c in node.elements do
        if c.hasName "context" then contexts := contexts ++ [← r.context c]
    | "itemDatas" =>
      for item in node.elements do
        if item.hasName "itemData" then
          let name ← r.required item "name"
          styles := styles ++ [{ name, style := (item.attr? "defStyleNum").getD "dsNormal" }]
    | _ => pure ()
  let mut weak := ""
  let mut additional := ""
  let mut comments : CommentMarkers := {}
  if let some general := root.child? "general" then
    if let some keywords := general.child? "keywords" then
      if let some v := keywords.attr? "casesensitive" then
        caseSensitive ← r.flag "casesensitive" v
      weak := (keywords.attr? "weakDeliminator").getD ""
      additional := (keywords.attr? "additionalDeliminator").getD ""
    if let some cs := general.child? "comments" then
      for c in cs.elements do
        if c.hasName "comment" then
          match c.attr? "name", c.attr? "start" with
          | some "singleLine", some start => comments := { comments with singleLine := some start }
          | some "multiLine", some start =>
            comments := { comments with multiLine := some (start, (c.attr? "end").getD "") }
          | _, _ => pure ()
  pure {
    header := header, lists := lists, contexts := contexts, styles := styles,
    keywordsCaseSensitive := caseSensitive, weakDeliminators := weak,
    additionalDeliminators := additional, comments := comments }

end Highlight
