import Highlight.Registry.Basic
/-!
# Registries over folders

A folder's index is its `index.json`, or, when it has none, one made from the headers of its
definition files in name order, skipping files whose header cannot be read. A registry over
folders takes each folder that exists as a layer, skipping one whose index cannot be read or
declares a pattern that does not compile, and adds the bundled definitions last when asked.
-/

namespace Highlight

/-- The index of the bundled definitions. -/
def bundledIndex : Except RegistryError GrammarIndex :=
  match GrammarIndex.ofJson Bundled.indexText with
  | .ok i => .ok i
  | .error fault => .error (.index "<bundled>" fault)

namespace GrammarIndex

/-- The index made from the headers of a folder's definition files. -/
def ofFolder (f : Folder) : GrammarIndex :=
  ⟨f.definitionFiles.filterMap fun (name, text) =>
    (parseHeader text).toOption.map (IndexEntry.ofHeader name)⟩

/-- A folder's index: its `index.json` if there is one, or else the index made from its
definition files. -/
def ofFolderFile (f : Folder) : Except RegistryError GrammarIndex :=
  match f.read "index.json" with
  | .ok text =>
    match ofJson text with
    | .ok i => .ok i
    | .error fault => .error (.index (f.join "index.json") fault)
  | .error e => if e.fault == .notFound then .ok (ofFolder f) else .error (.read e)

end GrammarIndex

/-- Whether every pattern of an index compiles. -/
def GrammarIndex.patternsCompile (i : GrammarIndex) : Bool :=
  i.grammars.all fun e =>
    match compilePatterns e with
    | .ok _ => true
    | .error _ => false

/-- A registry over folders, the first first; `none` stands for a folder that does not exist.
The bundled definitions come last when `bundled` is set. -/
def Registry.ofFolders (dirs : List (Option Folder)) (bundled : Bool) : Except RegistryError Registry := do
  let layers := dirs.filterMap fun d => d.bind fun f =>
    match GrammarIndex.ofFolderFile f with
    | .ok i => if i.patternsCompile then some (Source.folder f, i) else none
    | .error _ => none
  let last ← if bundled then (fun i => [(Source.bundled, i)]) <$> bundledIndex else pure []
  Registry.ofLayers (layers ++ last)

/-- The registry of the bundled definitions alone. -/
def Registry.bundled : Registry :=
  (Registry.ofFolders [] true).toOption.getD ⟨#[], #[], {}, #[], []⟩

end Highlight
