import Highlight.Xml.Node
/-!
# Reading XML

`parseDocument` reads a text into its root element, or says why the text is not a well-formed
document. It knows what definition files use: an optional declaration, a document type whose
internal subset may declare entities, one root element, comments, processing instructions, CDATA
sections, character and entity references, and namespace prefixes, which must be declared.

Line ends are handled where text is collected, one run of character data at a time: in text a
`\r\n` becomes `\n` and a lone `\r` becomes `\n`; in attribute values every tab or line end
becomes a blank, `\r\n` one blank. Characters written as references are kept as they are, and so
is the character right after one, except inside an entity, where they count as written out.

Entities nest at most `maxEntityDepth` deep, and the expansion of one reference in the document
may meet at most `maxEntityReferences` further references.

Each reader is total: loops and nesting run on a step budget that no well-formed document
exhausts.
-/

namespace Highlight.Xml

/-- Why a text is not a well-formed document. -/
structure ParseError where
  /-- A short description of the fault. -/
  reason : String
  deriving Repr

/-- A failed read. -/
def fail {α : Type} (reason : String) : Except ParseError α := .error ⟨reason⟩

/-! ## Characters -/

/-- The four characters XML counts as blanks. -/
def isXmlSpace (c : Char) : Bool := c = ' ' || c = '\t' || c = '\n' || c = '\r'

/-- Characters that may appear in a document at all. -/
def isXmlChar (c : Char) : Bool :=
  let n := c.toNat
  if n < 0x20 then n == 0x9 || n == 0xA || n == 0xD else n != 0xFFFE && n != 0xFFFF

/-- Characters that may start a name. -/
def isNameStart (c : Char) : Bool :=
  let n := c.toNat
  c.isAlpha || c = '_' || c = ':' || (0xC0 ≤ n && n ≤ 0xD6) || (0xD8 ≤ n && n ≤ 0xF6) ||
    (0xF8 ≤ n && n ≤ 0x2FF) || (0x370 ≤ n && n ≤ 0x37D) || (0x37F ≤ n && n ≤ 0x1FFF) ||
    (0x200C ≤ n && n ≤ 0x200D) || (0x2070 ≤ n && n ≤ 0x218F) || (0x2C00 ≤ n && n ≤ 0x2FEF) ||
    (0x3001 ≤ n && n ≤ 0xD7FF) || (0xF900 ≤ n && n ≤ 0xFDCF) || (0xFDF0 ≤ n && n ≤ 0xFFFD) ||
    (0x10000 ≤ n && n ≤ 0xEFFFF)

/-- Characters that may continue a name. -/
def isNameChar (c : Char) : Bool :=
  let n := c.toNat
  isNameStart c || c.isDigit || c = '-' || c = '.' || n == 0xB7 || (0x300 ≤ n && n ≤ 0x36F) ||
    (0x203F ≤ n && n ≤ 0x2040)

/-- The namespace that the prefix `xml` stands for. -/
def xmlNamespace : String := "http://www.w3.org/XML/1998/namespace"

/-- The namespace of namespace declarations, which no prefix may stand for. -/
def xmlnsNamespace : String := "http://www.w3.org/2000/xmlns/"

/-! ## Small readers -/

/-- Splits `cs` at the first occurrence of the non-empty `stop`: what comes before and after it. -/
def breakAt (stop : List Char) : List Char → Option (List Char × List Char)
  | [] => none
  | c :: rest =>
    if stop.isPrefixOf (c :: rest) then some ([], (c :: rest).drop stop.length)
    else (breakAt stop rest).map fun (a, b) => (c :: a, b)

/-- Drops leading blanks. -/
def skipSpace (cs : List Char) : List Char := cs.dropWhile isXmlSpace

/-- Drops leading blanks, of which there must be at least one. -/
def spaces (cs : List Char) : Except ParseError (List Char) :=
  match cs with
  | c :: _ => if isXmlSpace c then .ok (skipSpace cs) else fail "expected a blank"
  | [] => fail "unexpected end"

/-- Drops `word` from the front of `cs`, or fails. -/
def expect (word : String) (cs : List Char) : Except ParseError (List Char) :=
  if word.toList.isPrefixOf cs then .ok (cs.drop word.length) else fail ("expected " ++ word)

/-- Reads a name: a name-start character, then name characters. -/
def readName : List Char → Except ParseError (String × List Char)
  | c :: rest =>
    if isNameStart c then
      let (more, after) := rest.span isNameChar
      .ok (String.ofList (c :: more), after)
    else fail "expected a name"
  | [] => fail "expected a name"

/-- Whether a character may stand in a qualified name: a name character other than `:`. -/
def isQNameChar (c : Char) : Bool := c != ':' && isNameChar c

/-- Reads a qualified name: its prefix (empty when there is none, or when the name starts with
the colon) and its local part. At most one colon; the prefix, when there is one, and the local
part start with a name-start character. -/
def readQName (cs : List Char) : Except ParseError ((String × String) × List Char) :=
  let (first, r1) := cs.span isQNameChar
  let (pre, loc, rest) := match r1 with
    | ':' :: r2 =>
      let (second, r3) := r2.span isQNameChar
      (first, second, r3)
    | _ => ([], first, r1)
  if rest.head? == some ':' then fail "more than one colon in a name"
  else if !(pre.head?.all isNameStart) then fail "invalid name"
  else match loc.head? with
    | some c => if isNameStart c then .ok ((String.ofList pre, String.ofList loc), rest)
      else fail "invalid name"
    | none => fail "invalid name"

/-- Reads `=` with optional blanks around it. -/
def readEq (cs : List Char) : Except ParseError (List Char) := do
  let r ← expect "=" (skipSpace cs)
  pure (skipSpace r)

/-- Reads a quote character. -/
def readQuote : List Char → Except ParseError (Char × List Char)
  | q :: rest => if q = '"' || q = '\'' then .ok (q, rest) else fail "expected a quote"
  | [] => fail "expected a quote"

/-- Reads a quoted literal without looking inside it. -/
def readLiteral (cs : List Char) : Except ParseError (List Char × List Char) := do
  let (q, rest) ← readQuote cs
  match breakAt [q] rest with
  | some r => pure r
  | none => fail "unclosed literal"

/-- Reads characters up to the first place where `stop` holds for the rest of the input (or the
end); each character read must be one that XML allows. -/
def readChars (stop : List Char → Bool) : List Char → Except ParseError (List Char × List Char)
  | [] => .ok ([], [])
  | c :: rest =>
    if stop (c :: rest) then .ok ([], c :: rest)
    else if !isXmlChar c then fail "invalid character"
    else (readChars stop rest).map fun (a, b) => (c :: a, b)

/-! ## References -/

/-- What a reference names: a character (`#65`, `#x41`, or one of the five predefined entities)
or a declared entity. -/
inductive Ref where
  | char (c : Char)
  | entity (name : String)

/-- The five entities every document knows. -/
def predefinedEntity : String → Option Char
  | "lt" => some '<'
  | "gt" => some '>'
  | "amp" => some '&'
  | "apos" => some '\''
  | "quot" => some '"'
  | _ => none

/-- The value of a run of digits in a base. -/
def digitsValue (base : Nat) (ds : List Char) : Nat :=
  ds.foldl (fun n d =>
    n * base + (if d.isDigit then d.toNat - '0'.toNat
      else if 'a' ≤ d && d ≤ 'f' then d.toNat - 'a'.toNat + 10 else d.toNat - 'A'.toNat + 10)) 0

/-- Whether `d` is a hexadecimal digit. -/
def isHexDigit (d : Char) : Bool := d.isDigit || ('a' ≤ d && d ≤ 'f') || ('A' ≤ d && d ≤ 'F')

/-- The character a character reference with value `n` stands for: code points that are no
characters become U+FFFD. Values past 32 bits, and characters XML does not allow, are errors. -/
def referencedChar (ds : List Char) (n : Nat) : Except ParseError Char :=
  if ds.isEmpty || n ≥ Nat.pow 2 32 then fail "invalid character reference"
  else
    let c := if n < 0x110000 && !(0xD800 ≤ n && n ≤ 0xDFFF) then Char.ofNat n else '�'
    if isXmlChar c then .ok c else fail "invalid character reference"

/-- Reads a reference after its `&`, up to and including the `;`. -/
def readRef (cs : List Char) : Except ParseError (Ref × List Char) := do
  let (r, after) ← match cs with
    | '#' :: 'x' :: rest =>
      let (ds, after) := rest.span isHexDigit
      pure (Ref.char (← referencedChar ds (digitsValue 16 ds)), after)
    | '#' :: rest =>
      let (ds, after) := rest.span Char.isDigit
      pure (Ref.char (← referencedChar ds (digitsValue 10 ds)), after)
    | _ => do
      let (n, after) ← readName cs
      pure ((match predefinedEntity n with
        | some c => Ref.char c
        | none => Ref.entity n), after)
  match after with
  | ';' :: rest => pure (r, rest)
  | _ => fail "unterminated reference"

/-! ## Collecting text -/

/-- Adds a character of text: a `\r` before it becomes `\n` (and disappears before `\n`), and a
`\r` at the end of the run becomes `\n`. -/
def pushText (buf : Array Char) (c : Char) (atEnd : Bool) : Array Char :=
  if buf.back? == some '\r' then
    let buf := buf.set! (buf.size - 1) '\n'
    if atEnd && c == '\r' then buf.push '\n'
    else if c != '\n' then buf.push c
    else buf
  else if atEnd && c == '\r' then buf.push '\n'
  else buf.push c

/-- Adds a character of an attribute value: tabs and line ends become blanks, and a `\r` right
before `\n` disappears. -/
def pushAttr (buf : Array Char) (c : Char) (next : Option Char) : Array Char :=
  if c == '\r' && next == some '\n' then buf
  else buf.push (if c == '\n' || c == '\r' || c == '\t' then ' ' else c)

/-- The deepest nesting of entity expansions. -/
def maxEntityDepth : Nat := 10

/-- The most references met inside the expansion of one reference of the document. -/
def maxEntityReferences : Nat := 255

/-- Enters the expansion of an entity referred to at depth `depth`, with `refs` references met
so far inside the current expansion: the new count. -/
def enterEntity (depth refs : Nat) : Except ParseError Nat :=
  let refs := if depth == 0 then .ok refs
    else if refs ≥ maxEntityReferences then fail "too many entity references"
    else .ok (refs + 1)
  if depth < maxEntityDepth then refs else fail "entities nest too deeply"

/-- The count of references once an expansion entered at depth `depth` is left: back at the
document's own text, the count starts over. -/
def leaveEntity (depth refs : Nat) : Nat := if depth == 0 then 0 else refs

/-! ## Attribute values -/

/-- Expands the references of an attribute value (`cs`, at entity depth `depth`) onto `buf`.
Characters written as references are kept, except inside an entity, where they count as written
out and a `<` is an error. Returns the value and the count of references met. -/
def attrChars (ents : List (String × List Char)) :
    Nat → Nat → Nat → List Char → Array Char → Except ParseError (Array Char × Nat)
  | 0, _, _, _, _ => fail "entity expansion too long"
  | _ + 1, _, refs, [], buf => .ok (buf, refs)
  | fuel + 1, depth, refs, '&' :: rest, buf => do
    let (r, after) ← readRef rest
    match r with
    | .char c =>
      if depth == 0 then attrChars ents fuel depth refs after (buf.push c)
      else if c == '<' then fail "'<' in an attribute value"
      else attrChars ents fuel depth refs after (pushAttr buf c none)
    | .entity n =>
      let some v := ents.lookup n | fail ("unknown entity " ++ n)
      let refs ← enterEntity depth refs
      let (buf, refs) ← attrChars ents fuel (depth + 1) refs v buf
      attrChars ents fuel depth (leaveEntity depth refs) after buf
  | fuel + 1, depth, refs, c :: rest, buf =>
    attrChars ents fuel depth refs rest (pushAttr buf c rest.head?)

/-! ## Tags -/

/-- What is in force at a point of a document: the declared entities, first declaration first,
and the namespace prefixes in scope, the nearest declaration first (`none` is the default
namespace). -/
structure Scope where
  /-- Entities from the document type, with their text as written. -/
  entities : List (String × List Char) := []
  /-- Prefixes and their namespaces. -/
  namespaces : List (Option String × String) := [(some "xml", xmlNamespace)]
  deriving Inhabited

/-- The number of characters of all declared entities. -/
def Scope.entityLength (sc : Scope) : Nat :=
  sc.entities.foldl (fun n e => n + e.2.length) 0

/-- A step budget for expanding the references of a text of `n` characters. -/
def Scope.budget (sc : Scope) (n : Nat) : Nat :=
  (n + 2) * (maxEntityReferences + 2) * (sc.entityLength + 2)

/-- An attribute as written in a start tag: prefix, local name and raw value. -/
abbrev RawAttr := (String × String) × List Char

/-- Reads the attributes of a start tag as written, up to `>` (false) or `/>` (true). An
attribute must follow a blank; its value may not hold `<`. -/
def readAttrs : Nat → List Char → Except ParseError (List RawAttr × Bool × List Char)
  | 0, _ => fail "tag too long"
  | fuel + 1, cs =>
    let spaced := cs.head?.any isXmlSpace
    match skipSpace cs with
    | '/' :: rest => do
      let r ← expect ">" rest
      pure ([], true, r)
    | '>' :: rest => .ok ([], false, rest)
    | [] => fail "unclosed tag"
    | after => do
      if !spaced then fail "expected a blank before an attribute"
      let (qname, r1) ← readQName after
      let r2 ← readEq r1
      let (q, r3) ← readQuote r2
      let (v, r4) ← readChars (fun cs => cs.head? == some q || cs.head? == some '<') r3
      let r5 ← expect (String.singleton q) r4
      let (more, closed, r6) ← readAttrs fuel r5
      pure ((qname, v) :: more, closed, r6)

/-- The namespace of a prefix in scope; an empty prefix stands for the default namespace, if
there is one. -/
def resolvePrefix (sc : Scope) (p : String) : Except ParseError (Option String) :=
  if p.isEmpty then .ok (sc.namespaces.lookup none)
  else match sc.namespaces.lookup (some p) with
    | some ns => .ok (some ns)
    | none => fail ("undeclared prefix " ++ p)

/-- The scope inside an element, its attributes with references expanded and prefixes
resolved, and the count of entity references met. Namespace declarations are not attributes:
`xmlns:p` binds a prefix (never to the namespace of `xml` or of declarations, and `xml` only to
its own), any other attribute named `xmlns` the default namespace. A prefix declared twice on one
element, or two attributes with the same namespace and name, are errors. -/
def openTag (sc : Scope) (prefixName : String) (raw : List RawAttr) (refs : Nat) :
    Except ParseError (Scope × List Attr × Nat) := do
  let mut refs := refs
  let mut declared : List (Option String × String) := []
  let mut pending : List (String × String × String) := []
  for ((p, l), v) in raw do
    let (text, refs') ← attrChars sc.entities (sc.budget v.length) 0 refs v #[]
    refs := refs'
    let value := String.ofList text.toList
    if p == "xmlns" then
      if value == xmlnsNamespace then fail "the namespace of declarations"
      let isXml := value == xmlNamespace
      if (l == "xml") != isXml then fail "the namespace of xml"
      if (declared.lookup (some l)).isSome then fail "prefix declared twice"
      if !isXml then declared := declared ++ [(some l, value)]
    else if l == "xmlns" then
      if value == xmlNamespace || value == xmlnsNamespace then fail "reserved default namespace"
      declared := declared ++ [(none, value)]
    else pending := pending ++ [(p, l, value)]
  let sc' := { sc with namespaces := declared ++ sc.namespaces }
  let _ ← resolvePrefix sc' prefixName
  let mut attrs : List Attr := []
  for (p, l, v) in pending do
    let ns ← if p == "xml" then pure (some xmlNamespace)
      else if p.isEmpty then pure none
      else resolvePrefix sc' p
    if attrs.any fun a => a.ns == ns && a.name == l then fail "repeated attribute"
    attrs := attrs ++ [⟨ns, l, v⟩]
  pure (sc', attrs, refs)

/-! ## Content -/

/-- The children read so far: finished nodes, then the text still open for more, and the count
of entity references met in the current expansion. -/
structure Content where
  nodes : Array Node := #[]
  text : Option String := none
  refs : Nat := 0

namespace Content

/-- Adds text to the open text node, opening one if needed. -/
def addText (c : Content) (s : String) : Content :=
  { c with text := some (c.text.getD "" ++ s) }

/-- Finishes the open text node, if any. -/
def closeText (c : Content) : Content :=
  match c.text with
  | some t => { c with nodes := c.nodes.push (.text t), text := none }
  | none => c

/-- Adds a node that is not text. -/
def push (c : Content) (n : Node) : Content :=
  let c := c.closeText
  { c with nodes := c.nodes.push n }

/-- Adds collected characters as text, if there are any. -/
def addChars (c : Content) (buf : Array Char) : Content :=
  if buf.isEmpty then c else c.addText (String.ofList buf.toList)

end Content

/-- Reads a comment after `<!--`: no `--` inside and no `-` at its end. -/
def readComment (cs : List Char) : Except ParseError (List Char) := do
  let (body, rest) ← readChars (fun r => "-->".toList.isPrefixOf r) cs
  let after ← expect "-->" rest
  if (breakAt ['-', '-'] body).isSome || body.getLast? == some '-' then fail "malformed comment"
  pure after

/-- Reads a processing instruction at its `<?`: a target name, then anything up to `?>`. An XML
declaration is refused here. -/
def readInstruction (cs : List Char) : Except ParseError (List Char) := do
  if "<?xml ".toList.isPrefixOf cs then fail "misplaced declaration"
  let (_, r1) ← readName (cs.drop 2)
  let (_, r2) ← readChars (fun r => "?>".toList.isPrefixOf r) (skipSpace r1)
  expect "?>" r2

/-- Adds the text of a CDATA section: as written when it has no `\r`, else with its line ends
handled as in text. -/
def cdataText (body : List Char) (c : Content) : Content :=
  if !body.contains '\r' then c.addText (String.ofList body)
  else
    let n := body.length
    c.addChars (body.zipIdx.foldl (fun buf (ch, i) => pushText buf ch (i + 1 == n)) #[])

/-- The end of a piece of content: a close tag with its prefix and local name, or the end of
the input. -/
abbrev Close := Option (String × String)

mutual

/-- Reads an element after its `<`: the start tag, then, unless it closes itself, the content up
to the matching end tag. The element is added to the content `c`. -/
def readElement : Nat → Scope → Nat → List Char → Content →
    Except ParseError (Content × List Char)
  | 0, _, _, _, _ => fail "document too deeply nested"
  | fuel + 1, sc, depth, cs, c => do
    let ((p, l), r1) ← readQName cs
    if p == "xmlns" then fail "the prefix xmlns on an element"
    let (raw, closed, r2) ← readAttrs (r1.length + 1) r1
    let (sc', attrs, refs) ← openTag sc p raw c.refs
    if closed then pure ({ c with refs }.push (.element l attrs []), r2)
    else
      let (inner, close, r3) ← readContent fuel sc' depth r2 { refs }
      match close with
      | some (p', l') =>
        if p' != p || l' != l then fail "mismatched end tag"
        let inner := inner.closeText
        pure ({ c with refs := inner.refs }.push (.element l attrs inner.nodes.toList), r3)
      | none => fail "unclosed element"

/-- Reads content at entity depth `depth`: character data, references, CDATA sections, comments,
processing instructions and child elements, until an end tag or the end of the input. -/
def readContent : Nat → Scope → Nat → List Char → Content →
    Except ParseError (Content × Close × List Char)
  | 0, _, _, _, _ => fail "document too long"
  | fuel + 1, sc, depth, cs, c =>
    match cs with
    | [] => .ok (c, none, [])
    | '<' :: '/' :: rest => do
      let ((p, l), r1) ← readQName rest
      let r2 ← expect ">" (skipSpace r1)
      pure (c, some (p, l), r2)
    | '<' :: '!' :: '-' :: '-' :: rest => do
      let after ← readComment rest
      readContent fuel sc depth after (c.push .marker)
    | '<' :: '!' :: '[' :: 'C' :: 'D' :: 'A' :: 'T' :: 'A' :: '[' :: rest => do
      let (body, r1) ← readChars (fun r => "]]>".toList.isPrefixOf r) rest
      let after ← expect "]]>" r1
      readContent fuel sc depth after (cdataText body c)
    | '<' :: '!' :: _ => fail "unknown markup"
    | '<' :: '?' :: rest => do
      let after ← readInstruction ('<' :: '?' :: rest)
      readContent fuel sc depth after (c.push .marker)
    | ['<'] => fail "unknown markup"
    | '<' :: rest => do
      let (c, after) ← readElement fuel sc depth rest c
      readContent fuel sc depth after c
    | _ => do
      let (run, after) ← readChars (fun r => r.head? == some '<') cs
      if (breakAt [']', ']', '>'] run).isSome then fail "']]>' in text"
      let c ← readText fuel sc depth run #[] false c
      readContent fuel sc depth after c

/-- Reads one run of character data at entity depth `depth`, collecting characters in `buf`.
`asIs` says that the previous character was written as a reference outside any entity, so this
one is kept as it is. An entity reference finishes the characters collected so far and reads the
entity's text as content. -/
def readText : Nat → Scope → Nat → List Char → Array Char → Bool → Content →
    Except ParseError Content
  | 0, _, _, _, _, _, _ => fail "document too long"
  | _ + 1, _, _, [], buf, _, c => .ok (c.addChars buf)
  | fuel + 1, sc, depth, '&' :: rest, buf, _, c => do
    let (r, after) ← readRef rest
    match r with
    | .char ch =>
      if depth == 0 then readText fuel sc depth after (buf.push ch) true c
      else readText fuel sc depth after (pushText buf ch after.isEmpty) false c
    | .entity n =>
      let some v := sc.entities.lookup n | fail ("unknown entity " ++ n)
      let c := c.addChars buf
      let refs ← enterEntity depth c.refs
      let (c, close, _) ← readContent fuel sc (depth + 1) v { c with refs }
      if close.isSome then fail "end tag inside an entity"
      readText fuel sc depth after #[] false { c with refs := leaveEntity depth c.refs }
  | fuel + 1, sc, depth, ch :: rest, buf, asIs, c =>
    readText fuel sc depth rest (if asIs then buf.push ch else pushText buf ch rest.isEmpty) false c

end

/-! ## The document -/

/-- Reads an entity declaration after `<!ENTITY`: a general or (after `%`) parameter entity
with a quoted value, which is recorded unless an entity of that name came first, or an external
identifier, which is not. -/
def readEntityDecl (ents : List (String × List Char)) (cs : List Char) :
    Except ParseError (List (String × List Char) × List Char) := do
  let r0 ← spaces cs
  let (general, r1) ← match r0 with
    | '%' :: r => do pure (false, ← spaces r)
    | _ => pure (true, r0)
  let (n, r2) ← readName r1
  let r3 ← spaces r2
  match r3 with
  | q :: _ =>
    if q == '"' || q == '\'' then do
      let (v, r4) ← readLiteral r3
      let r5 ← expect ">" (skipSpace r4)
      pure (ents ++ [(n, v)], r5)
    else if q == 'S' || q == 'P' then do
      let r4 ← externalId r3
      let r5 ← if general && "NDATA".toList.isPrefixOf (skipSpace r4) then do
          let r ← spaces ((skipSpace r4).drop 5)
          let (_, r') ← readName r
          pure r'
        else pure r4
      let r6 ← expect ">" (skipSpace r5)
      pure (ents, r6)
    else fail "expected an entity value"
  | [] => fail "unexpected end"
where
  /-- Reads `SYSTEM "..."` or `PUBLIC "..." "..."`. -/
  externalId (cs : List Char) : Except ParseError (List Char) :=
    if "SYSTEM".toList.isPrefixOf cs then do
      let (_, r) ← readLiteral (← spaces (cs.drop 6))
      pure r
    else if "PUBLIC".toList.isPrefixOf cs then do
      let (_, r1) ← readLiteral (← spaces (cs.drop 6))
      let (_, r2) ← readLiteral (← spaces r1)
      pure r2
    else fail "expected an external identifier"

/-- Skips an optional external identifier of a document type. -/
def skipExternalId (cs : List Char) : Except ParseError (List Char) :=
  if "SYSTEM".toList.isPrefixOf cs || "PUBLIC".toList.isPrefixOf cs then
    readEntityDecl.externalId cs
  else .ok cs

/-- Reads the internal subset of a document type after its `[`, up to and including the `]` and
the `>` that ends the document type: entity declarations, comments, processing instructions, and
element, attribute-list and notation declarations, which are skipped up to their `>`. -/
def readSubset : Nat → List (String × List Char) → List Char →
    Except ParseError (List (String × List Char) × List Char)
  | 0, _, _ => fail "document type too long"
  | fuel + 1, ents, cs =>
    let cs := skipSpace cs
    if "<!ENTITY".toList.isPrefixOf cs then do
      let (ents, after) ← readEntityDecl ents (cs.drop 8)
      readSubset fuel ents after
    else if "<!--".toList.isPrefixOf cs then do
      let after ← readComment (cs.drop 4)
      readSubset fuel ents after
    else if "<?".toList.isPrefixOf cs then do
      let after ← readInstruction cs
      readSubset fuel ents after
    else if "]".toList.isPrefixOf cs then do
      let after ← expect ">" (skipSpace (cs.drop 1))
      pure (ents, after)
    else if ["<!ELEMENT", "<!ATTLIST", "<!NOTATION"].any (·.toList.isPrefixOf cs) then
      match breakAt ['>'] cs with
      | some (_, after) => readSubset fuel ents after
      | none => fail "unclosed declaration"
    else fail "unknown declaration"

/-- Reads a document type after `<!DOCTYPE`: its name, an optional external identifier and an
optional internal subset. Returns the entities declared. -/
def readDoctype (cs : List Char) : Except ParseError (List (String × List Char) × List Char) := do
  let r0 ← spaces cs
  let (_, r1) ← readName r0
  let r2 ← skipExternalId (skipSpace r1)
  match skipSpace r2 with
  | '[' :: r3 => readSubset (r3.length + 1) [] r3
  | '>' :: r3 => pure ([], r3)
  | _ => fail "malformed document type"

/-- Skips blanks, comments and processing instructions. -/
def skipMisc : Nat → List Char → Except ParseError (List Char)
  | 0, cs => .ok cs
  | fuel + 1, cs =>
    let cs := skipSpace cs
    if "<!--".toList.isPrefixOf cs then do skipMisc fuel (← readComment (cs.drop 4))
    else if "<?".toList.isPrefixOf cs then do skipMisc fuel (← readInstruction cs)
    else .ok cs

/-- Reads an XML declaration after `<?xml`: a version, then optionally an encoding and a
standalone flag, each `name="value"`, separated by blanks, then `?>`. -/
def readDeclaration (cs : List Char) : Except ParseError (List Char) := do
  let sep (cs : List Char) : Except ParseError (List Char) :=
    if cs.head?.any isXmlSpace then .ok (skipSpace cs)
    else if "?>".toList.isPrefixOf cs || cs.isEmpty then .ok cs
    else fail "expected a blank"
  let pair (name : String) (cs : List Char) : Except ParseError (List Char) := do
    let r1 ← expect name cs
    let r2 ← readEq (r1.dropWhile isNameChar)
    let (q, r3) ← readQuote r2
    let (_, r4) ← readChars (fun r => r.head? == some q) r3
    expect (String.singleton q) r4
  let r0 ← sep cs
  let r1 ← sep (← pair "version" r0)
  let r2 ← if "encoding".toList.isPrefixOf r1 then do sep (← pair "encoding" r1) else pure r1
  let r3 ← if "standalone".toList.isPrefixOf r2 then pair "standalone" r2 else pure r2
  expect "?>" (skipSpace r3)

/-- Reads a whole document into its root element. -/
def parseDocument (text : String) : Except ParseError Node := do
  let cs := text.toList
  let cs := match cs with
    | '﻿' :: rest => rest
    | _ => cs
  let cs ← if "<?xml ".toList.isPrefixOf cs then readDeclaration (cs.drop 5) else pure cs
  let cs ← skipMisc (cs.length + 1) cs
  let (ents, cs) ← if "<!DOCTYPE".toList.isPrefixOf cs then do
      let (ents, after) ← readDoctype (cs.drop 9)
      pure (ents, ← skipMisc (after.length + 1) after)
    else pure ([], cs)
  let sc : Scope := { entities := ents }
  match skipSpace cs with
  | '<' :: r1 => do
    let (c, r2) ← readElement (sc.budget r1.length) sc 0 r1 {}
    let r3 ← skipMisc (r2.length + 1) r2
    if !r3.isEmpty then fail "content after the root element"
    match c.nodes.toList with
    | [root] => pure root
    | _ => fail "no root element"
  | _ => fail "no root element"

end Highlight.Xml
