import Highlight.Grammar.Basic
import Highlight.Grammar.Error
/-!
# Linking

Linking turns definitions into one grammar. The first definition is the root; the others were
reached through `##Language` references and are spliced in after it, their names qualified as
`Name##Language` so that nothing collides with the root's own names.

Linking checks what makes parsing total: every context, attribute and keyword-list reference
resolves; a rule whose whole effect is a context switch cannot match the empty text; and every
placeholder a dynamic context uses is bound by everything that pushes it. Faults are reported in
a fixed order: missing contexts, then keyword lists, then context attributes, then each context in
turn (its spliced rules, each rule's attribute, switch, kind and children, then its own
switches), and last the placeholder bindings.
-/

namespace Highlight

namespace Grammar

/-- The name tables every linking step reads. -/
structure Tables where
  /-- The name each definition is referred to by, the root's first. -/
  names : Array String
  /-- The definitions. -/
  defs : Array Definition
  /-- The index of each definition's first context in the context table. -/
  contextBase : Array Nat
  /-- The number of declared contexts; continuation contexts are numbered from here. -/
  declared : Nat
  /-- Each definition's attributes by name, the first declaration of a name winning. -/
  attrIds : Array (List (String × Nat))
  /-- Each definition's keyword lists by name, the first of a name winning. -/
  listIds : Array (List (String × Nat))
  /-- The attribute of each declared context, by context index. -/
  contextAttrs : Array Nat
  deriving Inhabited

namespace Tables

variable (t : Tables)

/-- The name of definition `g`. -/
def name (g : Nat) : String := t.names[g]?.getD ""

/-- A name of definition `g` as it is known in the grammar: the root's names stay as they are,
an included definition's get `##` and the language. -/
def qualify (n : String) (g : Nat) : String := if g == 0 then n else n ++ "##" ++ t.name g

/-- Definition `g`. -/
def definition (g : Nat) : Definition := t.defs[g]?.getD default

/-- Context `c` of definition `g`, as written. -/
def contextDef (g c : Nat) : Definition.Context := ((t.definition g).contexts[c]?).getD default

/-- The definition a language name refers to. Names are distinct. -/
def grammarOf (language : String) : Option Nat := t.names.findIdx? (· == language)

/-- Resolves a context reference written in definition `g` to a definition and a context in it;
a reference without a context name means the definition's first context. -/
def target (g : Nat) (r : Definition.Target) : Option (Nat × Nat) := do
  let tg ← match r.language with
    | some l => t.grammarOf l
    | none => some g
  let c ← match r.context with
    | some n => (((t.definition tg).contexts.zipIdx).find? (·.1.name == n)).map (·.2)
    | none => some 0
  pure (tg, c)

/-- The index of context `c` of definition `g` in the context table. -/
def contextId (g c : Nat) : Nat := t.contextBase[g]?.getD 0 + c

/-- The attribute of context `c` of definition `g`. -/
def contextAttr (g c : Nat) : Nat := t.contextAttrs[t.contextId g c]?.getD 0

/-- An attribute named in context `context` of definition `g`. -/
def attrId (g : Nat) (context n : String) : Except LoadError Nat :=
  match ((t.attrIds[g]?).getD []).lookup n with
  | some id => .ok id
  | none => .error (.unknownAttribute (t.name g) context n)

/-- A switch written in context `context` of definition `g`, with its targets resolved. -/
def switch (g : Nat) (context : String) (s : Definition.Switch) : Except LoadError Switch := do
  let push ← s.push.mapM fun r =>
    match t.target g r with
    | some (tg, c) => .ok (t.contextId tg c)
    | none => .error (.unknownContext (t.name g) context r.render)
  pure { pop := s.pop, push }

/-! ## Keyword lists -/

/-- Resolves an inclusion written in a keyword list of definition `g` to a definition and a list
in it: the language picks the definition (`g` itself when none is named), and the list is the
first of that name there. -/
def listTarget (g : Nat) (r : Definition.Target) : Option (Nat × Nat) :=
  (match r.language with
    | some lang => t.grammarOf lang
    | none => some g).bind fun tg =>
      r.context.bind fun n =>
        ((t.definition tg).lists.findIdx? (fun (w : Definition.WordList) => w.name == n)).map (tg, ·)

/-- The words of list `l` of definition `g`, followed by the words of the lists it includes,
depth first. A list already being collected on the current path adds nothing, so cycles of
inclusion end. `fuel` bounds the depth; the number of lists plus one is enough. -/
def listWords : Nat → Nat → Nat → List (Nat × Nat) → Except LoadError (List String)
  | 0, _, _, _ => .ok []
  | fuel + 1, g, l, visiting =>
    if visiting.contains (g, l) then .ok []
    else
      let list := ((t.definition g).lists[l]?).getD default
      list.includes.foldlM (fun acc (r : Definition.Target) => do
        match t.listTarget g r with
        | some (tg, tl) => pure (acc ++ (← listWords fuel tg tl ((g, l) :: visiting)))
        | none => throw (.unknownKeywordList (t.name g) ("list " ++ list.name) r.render))
        list.items

/-- The keyword lists of all definitions, in order, each with the words of the lists it
includes, and each definition's lists by name. -/
def keywordLists : Except LoadError (Array KeywordList × Array (List (String × Nat))) :=
  let total := t.defs.foldl (fun n d => n + d.lists.length) 0
  t.defs.toList.zipIdx.foldlM (fun (acc : Array KeywordList × Array (List (String × Nat))) dg => do
    let (d, g) := dg
    let (lists, named) ← d.lists.zipIdx.foldlM
      (fun (acc : Array KeywordList × List (String × Nat)) ll => do
        let (list, l) := ll
        let words ← t.listWords (total + 1) g l []
        pure (acc.1.push (KeywordList.ofWords (t.qualify list.name g) words d.keywordsCaseSensitive),
          acc.2 ++ [(list.name, acc.1.size)]))
      (acc.1, [])
    pure (lists, acc.2.push named)) (#[], #[])

/-- The attribute of context `ctx` of definition `d`, numbered `g`: the one it names, or else the
first its definition declares. -/
def contextAttribute (d : Definition) (g : Nat) (ctx : Definition.Context) : Except LoadError Nat :=
  match ctx.attr, d.styles.head? with
  | some n, _ => t.attrId g ctx.name n
  | none, some first => t.attrId g ctx.name first.name
  | none, none => .error (.missing (t.name g) ("context[" ++ ctx.name ++ "]@attribute"))

/-- The attribute of every declared context, in table order. -/
def contextAttributes : Except LoadError (Array Nat) :=
  t.defs.toList.zipIdx.foldlM (fun (out : Array Nat) dg =>
    let (d, g) := dg
    d.contexts.foldlM (fun (out : Array Nat) ctx => do
      let id ← t.contextAttribute d g ctx
      pure (out.push id)) out) #[]

/-! ## Splicing rules -/

/-- A rule after inclusions are spliced, with the definition and context it was written in:
its references resolve there. -/
structure Placed where
  /-- The definition it was written in. -/
  grammar : Nat
  /-- The context it was written in. -/
  context : Nat
  /-- The rule as written. -/
  rule : Definition.Rule

/-- The rules of context `c` of definition `g` with every inclusion replaced in place by the
rules of the context it names, and the context whose attribute the last adopting inclusion
(written in `c` itself) takes. Including a context already on the path `stack` is a cycle.
`fuel` bounds the depth; the number of contexts plus one is enough. -/
def expand : Nat → Nat → Nat → List (Nat × Nat) →
    Except LoadError (List Placed × Option (Nat × Nat))
  | 0, _, _, _ => .ok ([], none)
  | fuel + 1, g, c, stack =>
    let ctx := t.contextDef g c
    let stack := stack ++ [(g, c)]
    ctx.rules.foldlM (fun (acc : List Placed × Option (Nat × Nat)) (rule : Definition.Rule) =>
      let (out, adopt) := acc
      match rule.kind with
      | .includeRules r includeAttrib => do
        let some (tg, tc) := t.target g r
          | throw (.unknownContext (t.name g) ctx.name r.render)
        if stack.contains (tg, tc) then
          throw (.ruleIncludeCycle (t.name g)
            ((stack ++ [(tg, tc)]).map fun (sg, sc) => t.qualify (t.contextDef sg sc).name sg))
        let adopt := if includeAttrib then some (tg, tc) else adopt
        let (inner, _) ← expand fuel tg tc stack
        pure (out ++ inner, adopt)
      | _ => pure (out ++ [⟨g, c, rule⟩], adopt)) ([], none)

end Tables

/-! ## Compiling rules -/

/-- What linking builds besides the declared contexts. -/
structure LinkState where
  /-- Contexts that continue unterminated ranges, in the order they were made. -/
  extra : Array Context := #[]
  /-- Compiled fixed patterns. -/
  patterns : Array Regex := #[]
  /-- The source and case rule of each compiled pattern. -/
  patternKeys : Array (String × Bool) := #[]

/-- Linking steps that build contexts and patterns and may fail. -/
abbrev LinkM := StateT LinkState (Except LoadError)

/-- Compiles a pattern source, honouring a rule's case-insensitivity. -/
def compilePattern (source : String) (insensitive : Bool) : Except RegexError Regex :=
  Regex.compile (if insensitive then "(?i)" ++ source else source)

namespace Tables

variable (t : Tables)

/-- The index of a fixed pattern, compiling it the first time its source and case rule are met. -/
def pattern (g : Nat) (context source : String) (insensitive : Bool) : LinkM Nat := do
  let st ← get
  match st.patternKeys.findIdx? (· == (source, insensitive)) with
  | some i => pure i
  | none =>
    match compilePattern source insensitive with
    | .error e =>
      let reason := match e with
        | .syntaxError e => e.reason
        | .compileError e => e.reason
      throw (.invalidPattern (t.name g) context source reason)
    | .ok r =>
      set { st with patterns := st.patterns.push r, patternKeys := st.patternKeys.push (source, insensitive) }
      pure st.patterns.size

/-- Makes the context an unterminated range continues in. Its one rule is the closing delimiter,
which pops the continuation and then does the range rule's own switch; an empty closing text
gives it no rule. -/
def continuation (g : Nat) (context : String) (attr : Nat) (sw : Switch) (dynamic insensitive : Bool)
    (closing : String) : LinkM Nat := do
  let st ← get
  let bound := dynamic && Placeholder.highest closing > 0
  let rules : List Rule :=
    if closing.isEmpty then []
    else [{ kind := .stringDetect closing insensitive, attr, switch := sw.afterPops 1,
            lookAhead := false, firstNonSpace := false, column := none, dynamic := bound,
            children := [] }]
  let ctx : Context := {
    name := t.qualify context g ++ "#range" ++ toString st.extra.size, attr, rules,
    lineEnd := .stay, lineEmpty := none, fallthrough := none, separators := g,
    maxPlaceholder := if bound then Placeholder.highest closing else 0 }
  set { st with extra := st.extra.push ctx }
  pure (t.declared + st.extra.size)

/-- Compiles what rule `r`, written in context `context` of definition `g`, matches; `attrIdx` and
`sw` are its compiled attribute and switch. Fixed patterns are compiled here, and an open range
makes its continuation context. -/
def compileKind (g : Nat) (context : String) (r : Definition.Rule) (attrIdx : Nat) (sw : Switch) :
    LinkM RuleKind :=
  let zeroWidth : LoadError := .zeroWidth (t.name g) context r.describe
  match r.kind with
  | .detectChar text =>
    match text.toList with
    | [d] =>
      if r.dynamic && '1' ≤ d && d ≤ '9' then pure (RuleKind.dynamicChar (d.toNat - '0'.toNat))
      else pure (.detectChar d r.insensitive)
    | _ => throw (.invalidValue (t.name g) "char" text)
  | .detect2Chars a b => pure (.detect2Chars a b r.insensitive)
  | .anyChar set => pure (.anyChar (set.toList.mergeSort (· ≤ ·)).eraseDups)
  | .stringDetect text =>
    if text.isEmpty && !r.lookAhead then throw zeroWidth else pure (.stringDetect text r.insensitive)
  | .wordDetect text =>
    if text.isEmpty && !r.lookAhead then throw zeroWidth else pure (.wordDetect text r.insensitive)
  | .keyword list =>
    match ((t.listIds[g]?).getD []).lookup list with
    | some id => pure (.keyword id)
    | none => throw (.unknownKeywordList (t.name g) context list)
  | .regExpr source =>
    if r.dynamic && Placeholder.highest source > 0 then
      pure (.regExpr (.dynamic source r.insensitive))
    else do
      let id ← t.pattern g context source r.insensitive
      let regex := ((← get).patterns[id]?).getD default
      -- an empty match that only colours is harmless; one whose whole effect is a switch is not
      let switchOnly := !sw.isStay || r.attr.isNone
      if !r.lookAhead && switchOnly && regex.isMatch "" then throw zeroWidth
      pure (.regExpr (.fixed source id))
  | .int => pure .int
  | .float => pure .float
  | .hlCOct => pure .hlCOct
  | .hlCHex => pure .hlCHex
  | .hlCStringChar => pure .hlCStringChar
  | .hlCChar => pure .hlCChar
  | .rangeDetect opening closing =>
    if opening.isEmpty && !r.lookAhead then throw zeroWidth
    else do
      let cont ← t.continuation g context attrIdx sw r.dynamic r.insensitive closing
      pure (.rangeDetect opening closing cont r.insensitive)
  | .lineContinue ch => pure (.lineContinue ch)
  | .detectSpaces => pure .detectSpaces
  | .detectIdentifier => pure .detectIdentifier
  | .includeRules .. => throw (.unknownRule (t.name g) context "IncludeRules (as a child rule)")

mutual

/-- Compiles a rule written in context `context` of definition `g`; `defaultAttr` is the
attribute of a rule that names none. Children take their parent's attribute as default and never
switch. -/
def compileRule (g : Nat) (context : String) (defaultAttr : Nat) : Definition.Rule → LinkM Rule
  | r@⟨_, _, attr, switch, lookAhead, firstNonSpace, column, dynamic, _, children⟩ => do
    let attrIdx ← StateT.lift (match attr with
      | some n => t.attrId g context n
      | none => pure defaultAttr)
    let sw ← StateT.lift (t.switch g context switch)
    let kind ← t.compileKind g context r attrIdx sw
    let kids ← compileChildren g context attrIdx children
    pure { kind, attr := attrIdx, switch := sw, lookAhead, firstNonSpace, column, dynamic,
           children := kids }

/-- Compiles child rules in order; a child never switches. -/
def compileChildren (g : Nat) (context : String) (defaultAttr : Nat) :
    List Definition.Rule → LinkM (List Rule)
  | [] => pure []
  | c :: cs => do
    let k ← compileRule g context defaultAttr c
    let ks ← compileChildren g context defaultAttr cs
    pure ({ k with switch := Switch.stay } :: ks)

end

/-- Compiles context `c` of definition `g`: its spliced rules in order, then its own switches. -/
def compileContext (g c : Nat) : LinkM Context := do
  let ctx := t.contextDef g c
  let (placed, adopt) ← StateT.lift (t.expand (t.declared + 1) g c [])
  let attr := match adopt with
    | some (tg, tc) => t.contextAttr tg tc
    | none => t.contextAttr g c
  let rules ← placed.mapM fun p =>
    t.compileRule p.grammar (t.contextDef p.grammar p.context).name
      (t.contextAttr p.grammar p.context) p.rule
  let lineEnd ← StateT.lift (t.switch g ctx.name ctx.lineEnd)
  let lineEmpty ← StateT.lift (ctx.lineEmpty.mapM (t.switch g ctx.name))
  let fallthrough ← StateT.lift (ctx.fallthrough.mapM (t.switch g ctx.name))
  pure {
    name := t.qualify ctx.name g, attr, rules, lineEnd, lineEmpty, fallthrough, separators := g,
    maxPlaceholder := rules.foldl (fun m r => max m r.placeholder) 0 }

end Tables

/-! ## Placeholder bindings -/

/-- How many capture groups a rule binds when it pushes a context: those of its pattern, a
dynamic pattern counted with its placeholders left empty. -/
def boundCaptures (gr : Grammar) (r : Rule) : Nat :=
  match r.kind with
  | .regExpr (.fixed _ id) => (gr.patterns[id]?.map (·.groups)).getD 0
  | .regExpr (.dynamic source insensitive) =>
    match compilePattern (Placeholder.substitute source [] false) insensitive with
    | .ok regex => regex.groups
    | .error _ => 0
  | _ => 0

/-- Checks that each context a switch pushes needs no more captures than `available`;
continuation contexts, numbered from `declared`, keep the frame of their range and are exempt. -/
def checkPushes (gr : Grammar) (declared : Nat) (sw : Switch) (available : Nat) (pusher : String) :
    Except LoadError Unit :=
  sw.push.forM fun target =>
    let ctx := gr.context target
    if target < declared && ctx.maxPlaceholder > available then
      .error (.dynamicCapture gr.name ctx.name ctx.maxPlaceholder pusher available)
    else .ok ()

/-- Checks the pushes of one context: a rule binds its pattern's groups, and the line end, the
empty line and the fallthrough bind none. -/
def checkContextBindings (gr : Grammar) (declared : Nat) (ctx : Context) : Except LoadError Unit := do
  let cite := LoadError.cite ctx.name
  ctx.rules.forM fun r =>
    checkPushes gr declared r.switch (boundCaptures gr r) (r.kind.elementName ++ " in " ++ cite)
  checkPushes gr declared ctx.lineEnd 0 ("lineEndContext of " ++ cite)
  ctx.lineEmpty.forM fun sw => checkPushes gr declared sw 0 ("lineEmptyContext of " ++ cite)
  ctx.fallthrough.forM fun sw => checkPushes gr declared sw 0 ("fallthroughContext of " ++ cite)

/-- Checks every push of a dynamic context: the first context needs no captures, and then each
context's pushes in turn. -/
def checkBindings (gr : Grammar) (declared : Nat) : Except LoadError Unit := do
  let first := gr.context 0
  if first.maxPlaceholder > 0 then
    throw (.dynamicCapture gr.name first.name first.maxPlaceholder "the initial stack" 0)
  gr.contexts.toList.forM (checkContextBindings gr declared)

/-! ## Linking -/

/-- The index of each definition's first context in the context table, followed by the number of
declared contexts. -/
def contextBases (ds : Array Definition) : Array Nat :=
  ds.foldl (fun acc d => acc.push (acc.back?.getD 0 + d.contexts.length)) #[0]

/-- The attributes of one definition appended to `attributes`, each with its name qualified by
`qualify`, and their indices by name; a name declared twice keeps its first declaration. -/
def declareStyles (qualify : String → String) (styles : List Definition.Style)
    (attributes : Array Attribute) : Array Attribute × List (String × Nat) :=
  styles.foldl (fun (acc : Array Attribute × List (String × Nat)) s =>
    if acc.2.any (·.1 == s.name) then acc
    else (acc.1.push ⟨qualify s.name, (FormatClass.ofStyleName? s.style).getD .normal⟩,
      acc.2 ++ [(s.name, acc.1.size)])) (attributes, [])

/-- The attribute table and each definition's attributes by name. Attributes of included
definitions are qualified with their language; a name declared twice in one definition keeps its
first declaration. -/
def attributeTable (names : Array String) (ds : Array Definition) :
    Array Attribute × Array (List (String × Nat)) :=
  ds.toList.zipIdx.foldl (fun (acc : Array Attribute × Array (List (String × Nat))) dg =>
    let (d, g) := dg
    let qualify (n : String) : String := if g == 0 then n else n ++ "##" ++ (names[g]?.getD "")
    let (attributes, named) := declareStyles qualify d.styles acc.1
    (attributes, acc.2.push named)) (#[], #[])

/-- Every declared context as a definition index and a context index in it, in table order. -/
def contextRefs (ds : Array Definition) : List (Nat × Nat) :=
  ds.toList.zipIdx.flatMap fun (d, g) => (List.range d.contexts.length).map (g, ·)

/-- Compiles every declared context, in table order. -/
def Tables.compileContexts (t : Tables) : LinkM (Array Context) := do
  let out ← (contextRefs t.defs).mapM fun (g, c) => t.compileContext g c
  pure out.toArray

/-- Links definitions, each with the name it is referred to by, the root first, into one
grammar. -/
def link (defs : Array (String × Definition)) : Except LoadError Grammar := do
  let names := defs.map (·.1)
  let ds := defs.map (·.2)
  if let some (n, _) := defs.find? (·.2.contexts.isEmpty) then throw (.noDefaultContext n)
  let bases := contextBases ds
  let declared := bases.back?.getD 0
  let (attributes, attrIds) := attributeTable names ds
  let t : Tables := {
    names, defs := ds, contextBase := bases.pop, declared, attrIds, listIds := #[],
    contextAttrs := #[] }
  let (lists, listIds) ← t.keywordLists
  let t := { t with listIds }
  let contextAttrs ← t.contextAttributes
  let t := { t with contextAttrs }
  let (contexts, st) ← t.compileContexts.run {}
  let root := (ds[0]?).getD default
  let gr : Grammar := {
    header := root.header, contexts := contexts ++ st.extra, attributes, lists,
    separators := ds.map fun d => Separators.ofDefinition d.weakDeliminators d.additionalDeliminators,
    comments := root.comments, patterns := st.patterns }
  checkBindings gr declared
  pure gr

end Grammar

end Highlight
