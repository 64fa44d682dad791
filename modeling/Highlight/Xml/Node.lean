/-!
# XML trees

A well-formed XML document read into a tree. Elements keep the local part of their name and their
attributes in order; text keeps entity and character references expanded and CDATA sections
merged into the text around them. Comments and processing instructions stay in the tree as
markers, because they end a text node.
-/

namespace Highlight.Xml

/-- An attribute: its namespace when its name carries a declared prefix, its local name and its
value after references are expanded and blanks are normalised. -/
structure Attr where
  /-- The namespace of a prefixed name; unprefixed attributes have none. -/
  ns : Option String
  /-- The local part of the name. -/
  name : String
  /-- The value. -/
  value : String
  deriving Repr, Inhabited, BEq

/-- A node of a document. -/
inductive Node where
  /-- An element with the local part of its name, its attributes and its children. -/
  | element (name : String) (attrs : List Attr) (children : List Node)
  /-- A maximal run of character data. -/
  | text (content : String)
  /-- A comment or a processing instruction. -/
  | marker
  deriving Repr, Inhabited

namespace Node

/-- Whether the node is an element. -/
def isElement : Node → Bool
  | element .. => true
  | _ => false

/-- The local name of an element, or the empty string for other nodes. -/
def name : Node → String
  | element n _ _ => n
  | _ => ""

/-- Whether the node is an element whose local name is `n`. -/
def hasName (node : Node) (n : String) : Bool :=
  match node with
  | element m _ _ => m == n
  | _ => false

/-- The children of a node. -/
def children : Node → List Node
  | element _ _ cs => cs
  | _ => []

/-- The children of a node that are elements, in order. -/
def elements (node : Node) : List Node :=
  node.children.filter isElement

/-- The first element child named `n`. -/
def child? (node : Node) (n : String) : Option Node :=
  node.elements.find? (·.hasName n)

/-- The value of the unprefixed attribute `n`. -/
def attr? (node : Node) (n : String) : Option String :=
  match node with
  | element _ attrs _ => (attrs.find? fun a => a.ns.isNone && a.name == n).map (·.value)
  | _ => none

/-- The text of an element: its first child, when that child is text. -/
def text? (node : Node) : Option String :=
  match node.children with
  | text s :: _ => some s
  | _ => none

end Node

end Highlight.Xml
