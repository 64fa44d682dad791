import Highlight.Registry.Source
import Highlight.Registry.Glob
import Highlight.Grammar.Load
/-!
# Registries

A registry answers which grammar highlights a document: by language name, media type, file name,
first line or definition file. It is built from layers of sources with their indexes, the first
layer taking precedence: an entry whose name (ignoring ASCII case) an earlier entry has is
shadowed. Lookups by media type, file name and first line consider visible entries only and pick
the highest priority, then the earliest entry; lookups by name and definition file take the first
entry that fits, hidden or not.

Grammars load on first use and are kept per entry, so that every lookup that selects an entry
gives the same grammar; a failed load is not kept. Languages a definition includes are found by
name in the same registry and spliced in, without being kept as loaded entries themselves.
-/

namespace Highlight

/-- Whether two strings are equal up to ASCII case. -/
def sameAsciiCase (a b : String) : Bool := a.toLower == b.toLower

/-- An entry of a registry: its index entry, the source it reads from, and its compiled
patterns. -/
structure RegistryEntry where
  /-- The source, by position. -/
  source : Nat
  /-- What the index says. -/
  info : IndexEntry
  /-- The first-line pattern. -/
  firstLine : Option Regex

/-- A registry and the grammars it has loaded. -/
structure Registry where
  /-- The sources, in layer order. -/
  sources : Array Source
  /-- The entries, in order. -/
  entries : Array RegistryEntry
  /-- The file-name patterns of all entries, in entry order. -/
  globs : GlobSet
  /-- The entry of each glob of `globs`, by position. -/
  globEntries : Array Nat
  /-- The grammars loaded so far, by entry, in loading order. -/
  loaded : List (Nat × Grammar) := []

/-- A lookup's answer: the entry selected and its grammar. -/
abbrev Lookup := Except RegistryError (Nat × Grammar)

/-- Compiles an entry's first-line pattern, then its file-name patterns; the first that does not
compile is the error. -/
def compilePatterns (info : IndexEntry) : Except RegistryError (Option Regex × List Glob) := do
  let firstLine ← match info.firstLine with
    | none => pure none
    | some p => match Regex.compilePlain p with
      | .ok r => pure (some r)
      | .error _ => throw (.pattern info.name p)
  let globs ← info.patterns.mapM fun p =>
    match Glob.compile p with
    | .ok g => pure g
    | .error _ => throw (.pattern info.name p)
  pure (firstLine, globs)

namespace Registry

/-- Builds a registry from layers of sources and indexes, the first layer first. Shadowed
entries are dropped before their patterns are compiled. -/
def ofLayers (layers : List (Source × GrammarIndex)) : Except RegistryError Registry := do
  let mut entries : Array RegistryEntry := #[]
  let mut sources : Array Source := #[]
  let mut globs : Array Glob := #[]
  let mut globEntries : Array Nat := #[]
  for (source, index) in layers do
    for info in index.grammars do
      if entries.any (sameAsciiCase ·.info.name info.name) then continue
      let (firstLine, entryGlobs) ← compilePatterns info
      globs := globs ++ entryGlobs.toArray
      globEntries := globEntries ++ (entryGlobs.map fun _ => entries.size).toArray
      entries := entries.push ⟨sources.size, info, firstLine⟩
    sources := sources.push source
  match GlobSet.build globs with
  | .ok set => pure ⟨sources, entries, set, globEntries, []⟩
  | .error e => throw (.pattern "<index>" (e.glob.getD ""))

/-- The names of the entries a user may pick, in order. -/
def languages (r : Registry) : List String :=
  (r.entries.toList.filter (!·.info.hidden)).map (·.info.name)

/-- The index entries, hidden ones included. -/
def indexEntries (r : Registry) : List IndexEntry := r.entries.toList.map (·.info)

/-- How many grammars are loaded. -/
def loadedCount (r : Registry) : Nat := r.loaded.length

/-- Among candidate entries, the one with the highest priority, the earliest of equals. -/
def best (r : Registry) (candidates : List Nat) : Option Nat :=
  candidates.foldl (fun acc i =>
    match acc with
    | none => some i
    | some j =>
      let pi := (r.entries[i]?.map (·.info.priority)).getD 0
      let pj := (r.entries[j]?.map (·.info.priority)).getD 0
      if pi > pj || (pi == pj && i < j) then some i else some j) none

/-- The visible entries satisfying `p`, as candidates. -/
def visible (r : Registry) (p : RegistryEntry → Bool) : List Nat :=
  (List.range r.entries.size).filter fun i =>
    match r.entries[i]? with
    | some e => !e.info.hidden && p e
    | none => false

/-- The first entry named `name`, ignoring ASCII case. -/
def findName (r : Registry) (name : String) : Option Nat :=
  r.entries.findIdx? (sameAsciiCase ·.info.name name)

/-- The first entry whose definition file is `file`. -/
def findDefinitionFile (r : Registry) (file : String) : Option Nat :=
  r.entries.findIdx? (·.info.file == file)

/-- The best visible entry with the media type, ignoring ASCII case. -/
def findMimeType (r : Registry) (mime : String) : Option Nat :=
  r.best (r.visible fun e => e.info.mimeTypes.any (sameAsciiCase · mime))

/-- The visible entries of the globs that match `name`, by glob. -/
def globCandidates (r : Registry) (name : String) : List Nat :=
  (r.globs.matches name).filterMap fun k => r.globEntries[k]?.bind fun i =>
    if (r.entries[i]?.map (!·.info.hidden)).getD false then some i else none

/-- The best visible entry one of whose globs matches the file-name component of `path`. -/
def findFileName (r : Registry) (path : String) : Option Nat := do
  let name ← Path.fileName path
  r.best (r.globCandidates name)

/-- The best visible entry whose first-line pattern matches somewhere in `line`. -/
def findFirstLine (r : Registry) (line : String) : Option Nat :=
  r.best (r.visible fun e => (e.firstLine.map (·.isMatch line)).getD false)

/-- How many language names the registry can resolve: every spelling of an entry name that
differs only in ASCII case. -/
def nameSpellings (r : Registry) : Nat :=
  r.entries.foldl (fun n e => n + Nat.pow 2 (e.info.name.toList.filter Char.isAlpha).length) 0

/-- Languages a definition includes, found by name in the registry and read from the source of
their entry. -/
def includes (r : Registry) : Includes :=
  ⟨fun lang =>
    match r.findName lang with
    | none => .error "no such language in the grammar index"
    | some i =>
      match r.entries[i]? with
      | none => .error "no such language in the grammar index"
      | some e => match ((r.sources[e.source]?).getD .bundled).read e.info.file with
        | .ok text => .ok text
        | .error err => .error err.message,
   r.nameSpellings⟩

/-- The grammar of entry `i`: the one loaded before, or a fresh load that is then kept. -/
def load (r : Registry) (i : Nat) : Lookup × Registry :=
  match r.loaded.lookup i with
  | some g => (.ok (i, g), r)
  | none =>
    match r.entries[i]? with
    | none => (.error (.notFound ""), r)
    | some e =>
      match ((r.sources[e.source]?).getD .bundled).read e.info.file with
      | .error err => (.error (.read err), r)
      | .ok text =>
        match Grammar.load text r.includes with
        | .error err => (.error (.load err), r)
        | .ok g => (.ok (i, g), { r with loaded := r.loaded ++ [(i, g)] })

/-- Loads the selected entry, or fails with `query` when none was selected. -/
def select (r : Registry) (found : Option Nat) (query : String) : Lookup × Registry :=
  match found with
  | some i => r.load i
  | none => (.error (.notFound query), r)

/-- A text in backquotes. -/
def cite (s : String) : String := LoadError.cite s

/-- Looks up a grammar by language name, ignoring ASCII case; hidden grammars are found too. -/
def byName (r : Registry) (name : String) : Lookup × Registry :=
  r.select (r.findName name) ("name " ++ cite name)

/-- Looks up a grammar by media type. -/
def byMimeType (r : Registry) (mime : String) : Lookup × Registry :=
  r.select (r.findMimeType mime) ("MIME type " ++ cite mime)

/-- Looks up a grammar by the file-name component of a path. -/
def byFileName (r : Registry) (path : String) : Lookup × Registry :=
  r.select (r.findFileName path) ("file name " ++ cite path)

/-- Looks up a grammar by a document's first line. -/
def byFirstLine (r : Registry) (line : String) : Lookup × Registry :=
  r.select (r.findFirstLine line) ("first line " ++ cite line)

/-- Looks up a grammar by its definition file. -/
def byDefinitionFile (r : Registry) (file : String) : Lookup × Registry :=
  r.select (r.findDefinitionFile file) ("definition " ++ cite file)

end Registry

/-- What is known about a document, for detection. -/
structure DetectQuery where
  definitionFile : Option String := none
  mimeType : Option String := none
  name : Option String := none
  fileName : Option String := none
  firstLine : Option String := none

/-- The query as it is named in messages. -/
def DetectQuery.describe (q : DetectQuery) : String :=
  let parts := [q.definitionFile.map ("definition " ++ Registry.cite ·),
    q.mimeType.map ("MIME type " ++ Registry.cite ·), q.name.map ("name " ++ Registry.cite ·),
    q.fileName.map ("file name " ++ Registry.cite ·),
    q.firstLine.map ("first line " ++ Registry.cite ·)].filterMap id
  if parts.isEmpty then "an empty query" else ", ".intercalate parts

/-- Detects a grammar: the definition file, media type, name, file name and first line are tried
in that order, and the first that selects an entry decides, even if its grammar fails to load. -/
def Registry.detect (r : Registry) (q : DetectQuery) : Lookup × Registry :=
  let found := (q.definitionFile.bind r.findDefinitionFile)
    |>.orElse (fun _ => q.mimeType.bind r.findMimeType)
    |>.orElse (fun _ => q.name.bind r.findName)
    |>.orElse (fun _ => q.fileName.bind r.findFileName)
    |>.orElse (fun _ => q.firstLine.bind r.findFirstLine)
  r.select found q.describe

end Highlight
