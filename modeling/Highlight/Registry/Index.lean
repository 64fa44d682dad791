import Highlight.Grammar.Header
import Highlight.Json.Read
import Highlight.Json.Value
/-!
# Grammar indexes

An index lists definition files and the queries each answers: its language name, media types,
file-name patterns, an optional first-line pattern, a priority and whether it is hidden. Entry
order matters: it breaks ties between grammars of equal priority.

As JSON, an index is an object with a `grammars` array; each entry needs `file` and `name`, and
the other members default to empty, null, 0 and false. Unknown members are ignored; a member given
twice is a fault.
-/

namespace Highlight

/-- One definition file and the queries it answers. -/
structure IndexEntry where
  /-- The definition file, relative to its source. -/
  file : String
  /-- The language name. -/
  name : String
  /-- Media types. -/
  mimeTypes : List String := []
  /-- File-name patterns such as `*.sql`. -/
  patterns : List String := []
  /-- A pattern tried against the first line of a document. -/
  firstLine : Option String := none
  /-- Breaks ties: the highest wins. -/
  priority : Int := 0
  /-- Hidden grammars exist only to be included by others. -/
  hidden : Bool := false
  deriving Repr, Inhabited, BEq

/-- An index: entries in order. -/
structure GrammarIndex where
  /-- The entries. -/
  grammars : List IndexEntry := []
  deriving Repr, Inhabited, BEq

namespace IndexEntry

/-- The entry a definition header describes; headers carry no first-line pattern. -/
def ofHeader (file : String) (h : Header) : IndexEntry :=
  { file, name := h.name, mimeTypes := h.mimeTypes, patterns := h.extensions, priority := h.priority,
    hidden := h.hidden }

/-- The entry as a JSON value, members in declaration order. -/
def toValue (e : IndexEntry) : Json.Value :=
  .obj [("file", .str e.file), ("name", .str e.name),
    ("mime_types", .arr (e.mimeTypes.map .str)), ("patterns", .arr (e.patterns.map .str)),
    ("first_line", match e.firstLine with
      | some l => .str l
      | none => .null),
    ("priority", .num e.priority), ("hidden", .bool e.hidden)]

end IndexEntry

/-- The index as a JSON value. -/
def GrammarIndex.toValue (i : GrammarIndex) : Json.Value :=
  .obj [("grammars", .arr (i.grammars.map IndexEntry.toValue))]

namespace GrammarIndex

open Json Reader

/-- The members of an entry read so far. -/
structure Members where
  file : Option String := none
  name : Option String := none
  mimeTypes : Option (List String) := none
  patterns : Option (List String) := none
  firstLine : Option (Option String) := none
  priority : Option Int := none
  hidden : Option Bool := none

/-- The smallest and largest priorities. -/
def minPriority : Int := -2147483648

/-- The largest priority. -/
def maxPriority : Int := 2147483647

/-- Reads the value of one entry member, after its name; a member seen before is a fault. -/
def member (k : String) (m : Members) : Reader Members := do
  let once {β : Type} (seen : Option β) (r : Reader β) : Reader β := do
    if seen.isSome then throw .data
    colon
    r
  match k with
  | "file" => return { m with file := some (← once m.file str) }
  | "name" => return { m with name := some (← once m.name str) }
  | "mime_types" => return { m with mimeTypes := some (← once m.mimeTypes (list str)) }
  | "patterns" => return { m with patterns := some (← once m.patterns (list str)) }
  | "first_line" => return { m with firstLine := some (← once m.firstLine (optional str)) }
  | "priority" => return { m with priority := some (← once m.priority (int minPriority maxPriority)) }
  | "hidden" => return { m with hidden := some (← once m.hidden bool) }
  | _ => do colon; skip 128; return m

/-- An entry from its members: `file` and `name` are required. -/
def complete (m : Members) : Reader IndexEntry := do
  let some file := m.file | throw .data
  let some name := m.name | throw .data
  return { file, name, mimeTypes := m.mimeTypes.getD [], patterns := m.patterns.getD [],
           firstLine := m.firstLine.getD none, priority := m.priority.getD 0,
           hidden := m.hidden.getD false }

/-- An entry written as an array of its members in declaration order; the optional ones may be
left off the end. -/
def entryOfArray : Reader IndexEntry := do
  bump
  let required {β : Type} (first : Bool) (r : Reader β) : Reader β := do
    if ← nextElement first then r else throw .data
  let optional' {β : Type} (d : β) (r : Reader β) : Reader β := do
    if ← nextElement false then r else pure d
  let file ← required true str
  let name ← required false str
  let mimeTypes ← optional' [] (list str)
  let patterns ← optional' [] (list str)
  let firstLine ← optional' none (optional str)
  let priority ← optional' 0 (int minPriority maxPriority)
  let hidden ← optional' false bool
  endArray
  return { file, name, mimeTypes, patterns, firstLine, priority, hidden }

/-- An entry. -/
def entry : Reader IndexEntry := do
  match ← peek with
  | some '{' =>
    let m ← object {} member
    let e ← complete m
    endObject
    return e
  | some '[' => entryOfArray
  | _ => wrongShape

/-- An index. -/
def index : Reader GrammarIndex := do
  match ← peek with
  | some '{' =>
    let seen ← object (none : Option (List IndexEntry)) fun k seen => do
      if k == "grammars" then
        if seen.isSome then throw .data
        colon
        return some (← list entry)
      else
        colon; skip 128; return seen
    let some grammars := seen | throw .data
    endObject
    return ⟨grammars⟩
  | some '[' =>
    bump
    if !(← nextElement true) then throw .data
    let grammars ← list entry
    endArray
    return ⟨grammars⟩
  | _ => wrongShape

end GrammarIndex

/-- Reads an index from JSON text. -/
def GrammarIndex.ofJson (text : String) : Except Json.Fault GrammarIndex :=
  GrammarIndex.index.parse text

end Highlight
