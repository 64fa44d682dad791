import Highlight.Registry.Folder
import Highlight.Registry.Bundled
import Highlight.Grammar.Error
/-!
# Definition sources and registry errors

A registry reads definition files from sources: a folder, files held in memory, or the bundled
definitions. A file a memory or bundled source lacks is "not found" under its own name.
-/

namespace Highlight

/-- Where definition files are read from. -/
inductive Source where
  | folder (f : Folder)
  | memory (files : List (String × String))
  | bundled
  deriving Inhabited

/-- The failure for a file a memory or bundled source lacks. -/
def absentDefinition (file : String) : ReadError :=
  ⟨file, .notFound, "definition not present in source"⟩

/-- Reads a definition file of a source. -/
def Source.read : Source → String → Except ReadError String
  | .folder f, file => f.read file
  | .memory files, file =>
    match files.lookup file with
    | some text => .ok text
    | none => .error (absentDefinition file)
  | .bundled, file =>
    match Bundled.definition? file with
    | some text => .ok text
    | none => .error (absentDefinition file)

/-- Why a registry cannot answer. -/
inductive RegistryError where
  /-- No grammar answers the query. -/
  | notFound (query : String)
  /-- The grammar that answers does not load. -/
  | load (e : LoadError)
  /-- A file cannot be read. -/
  | read (e : ReadError)
  /-- An index is not valid JSON of the right shape. -/
  | index (origin : String) (fault : Json.Fault)
  /-- A pattern of an index entry does not compile. -/
  | pattern (grammar pattern : String)
  deriving Inhabited

namespace RegistryError

/-- Whether the query simply had no answer. -/
def isNotFound : RegistryError → Bool
  | .notFound _ => true
  | _ => false

/-- The message of a query without an answer. -/
def notFoundMessage (query : String) : String := "no grammar found for " ++ query

end RegistryError

end Highlight
