import Highlight.Cli.Args
import Highlight.Cli.Host
import Highlight.Cli.Report
import Highlight.Config.Basic
import Highlight.Registry.Directory
/-!
# Running a command

The program reads its command line, then its settings (the file given by `--config`, which must
exist, or else the program's `config.toml` in the user's configuration directory if there is one),
then runs the command against a registry over the definition directories: those given by
`--runtime`, those the settings name, and the usual places, followed by the bundled definitions
unless the settings turn them off.

The outcome is an exit code with what was printed: 0 on success, 2 for a misuse of the command
line (reported before anything else is read), and 1 for any other failure, which prints nothing
on the standard output.
-/

namespace Highlight.Cli

/-- What a run printed and how it ended. -/
structure Outcome where
  /-- The exit code. -/
  code : Nat
  /-- The standard output. -/
  stdout : String := ""
  /-- The error output. -/
  stderr : String := ""
  deriving Repr, Inhabited, BEq

/-- A run that failed with a message. -/
def Outcome.failure (message : String) : Outcome := ⟨1, "", "Error: " ++ message ++ "\n"⟩

/-- A run that printed `text` and succeeded. -/
def Outcome.success (text : String) : Outcome := ⟨0, text, ""⟩

/-- The message of a registry error. -/
def describe : RegistryError → String
  | .notFound q => RegistryError.notFoundMessage q
  | .load e => e.message
  | .read e => e.message
  | .index origin fault => "invalid grammar index " ++ origin ++ ": " ++ fault.name ++ " error"
  | .pattern g p => "grammar " ++ g ++ ": invalid file pattern " ++ p

variable {m : Type → Type} [Monad m]

/-- The user's configuration directory: `$XDG_CONFIG_HOME`, or `.config` in the home directory. -/
def configDir (host : Host m) : m (Option String) := do
  match ← host.env "XDG_CONFIG_HOME" with
  | some d => pure (some d)
  | none => pure ((← host.env "HOME").map (joinPath · ".config"))

/-- The user's data directory: `$XDG_DATA_HOME`, or `.local/share` in the home directory. -/
def dataDir (host : Host m) : m (Option String) := do
  match ← host.env "XDG_DATA_HOME" with
  | some d => pure (some d)
  | none => pure ((← host.env "HOME").map (joinPath · ".local/share"))

/-- The environment variable naming a runtime directory. -/
def runtimeVariable : String := programName.toUpper ++ "_RUNTIME"

/-- The usual definition directories, in order: `syntax` under the runtime directory the
environment names, the program's `syntax` under the user's configuration and data directories,
and `syntax` beside the program and in its shared data. -/
def defaultSearchPaths (host : Host m) : m (List String) := do
  let runtime := (← host.env runtimeVariable).map (joinPath · "syntax")
  let config := (← configDir host).map (joinPath · (programName ++ "/syntax"))
  let data := (← dataDir host).map (joinPath · (programName ++ "/syntax"))
  let beside := match ← host.programDir with
    | some d => [joinPath d "syntax", joinPath d ("../share/" ++ programName ++ "/syntax")]
    | none => []
  pure ([runtime, config, data].filterMap id ++ beside)

/-- The settings: from the file given, or from the usual file if it exists, or the defaults. -/
def loadConfig (host : Host m) (explicit : Option String) : m (Except String Config) := do
  let path ← match explicit with
    | some p => pure (some p)
    | none => do
      match ← configDir host with
      | some d =>
        let p := joinPath d (programName ++ "/config.toml")
        pure (if ← host.isFile p then some p else none)
      | none => pure none
  match path with
  | none => pure (.ok {})
  | some path =>
    match ← host.readFile path with
    | .error e => pure (.error ("reading " ++ path ++ ": " ++ e.detail))
    | .ok text => pure ((Config.read text).mapError fun e => "parsing " ++ path ++ ": " ++ e)

/-- The texts of the named files of a directory that can be read. -/
def readFiles (host : Host m) (dir : String) (names : List String) : m (List (String × String)) :=
  names.filterMapM fun name => do
    match ← host.readFile (joinPath dir name) with
    | .ok text => pure (some (name, text))
    | .error _ => pure none

/-- A definition directory as a folder: its subdirectories, its index and definition files, and
every other file its index names. None when the path is not a directory. -/
def readFolder (host : Host m) (dir : String) : m (Option Folder) := do
  match ← host.listDir dir with
  | none => pure none
  | some entries =>
    let wanted := entries.filter fun e => !e.isDir && (e.name == "index.json" || e.name.endsWith ".xml")
    let f : Folder := { path := dir, files := ← readFiles host dir (wanted.map (·.name)),
                        dirs := (entries.filter (·.isDir)).map (·.name) }
    let named := match GrammarIndex.ofFolderFile f with
      | .ok i => (i.grammars.map (·.file)).filter fun n => (f.files.lookup n).isNone
      | .error _ => []
    pure (some { f with files := f.files ++ (← readFiles host dir named) })

/-- The registry over the definition directories, in order of precedence. -/
def openRegistry (host : Host m) (config : Config) (runtime : List String) :
    m (Except RegistryError Registry) := do
  let paths := runtime ++ config.runtimeDirs ++ (← defaultSearchPaths host)
  let folders ← paths.mapM (readFolder host)
  pure (Registry.ofFolders folders config.bundled)

/-- The first line of a file as detection reads it: up to the first line feed, without the
carriage returns and line feeds it ends with. -/
def detectionLine (text : String) : String :=
  String.ofList ((text.toList.takeWhile (· != '\n')).reverse.dropWhile (· == '\r')).reverse

/-- The first line of a text: none for an empty text; a carriage return before the first line
feed is not part of it. -/
def leadingLine (text : String) : Option String :=
  if text.isEmpty then none
  else match text.toList.span (· != '\n') with
    | (line, '\n' :: _) => some (dropCarriageReturn (String.ofList line))
    | (line, _) => some (String.ofList line)

/-- The grammar for a file: the named one, or else the one detection picks by file name and then
by first line. -/
def selectGrammar (r : Registry) (path : String) (firstLine language : Option String) : Lookup :=
  match language with
  | some name => (r.byName name).1
  | none => (r.detect { fileName := some path, firstLine }).1

/-- Runs a command with the settings read. -/
def execute (host : Host m) (config : Config) (inv : Invocation) : m Outcome := do
  match inv.command with
  | .detect path =>
    match ← openRegistry host config inv.runtime with
    | .error e => pure (.failure (describe e))
    | .ok r =>
      let firstLine := (← host.readFile path).toOption.map detectionLine
      match selectGrammar r path firstLine none with
      | .ok (_, g) => pure (.success (g.name ++ "\n"))
      | .error e => pure (.failure (describe e))
  | .highlight path language format =>
    match ← openRegistry host config inv.runtime with
    | .error e => pure (.failure (describe e))
    | .ok r =>
      match ← host.readFile path with
      | .error e => pure (.failure ("reading " ++ path ++ ": " ++ e.detail))
      | .ok text =>
        match selectGrammar r path (leadingLine text) language with
        | .error e => pure (.failure (describe e))
        | .ok (_, g) =>
          let report := highlightText g text config.budget
          pure (.success (match format with
            | .plain => report.plain
            | .json => report.json ++ "\n"))
  | .index dir toStdout =>
    match ← readFolder host dir with
    | none => pure (.failure ("failed to read " ++ dir))
    | some f =>
      let json := (GrammarIndex.ofFolder f).toValue.render
      if toStdout then pure (.success (json ++ "\n"))
      else
        let path := joinPath dir "index.json"
        match ← host.writeFile path (json ++ "\n") with
        | .ok () => pure (.success "")
        | .error e => pure (.failure ("writing " ++ path ++ ": " ++ e))

/-- A run of the program with the arguments after its name. -/
def run (host : Host m) (args : List String) : m Outcome := do
  match read args with
  | .display text => pure (.success text)
  | .usage message => pure ⟨2, "", "error: " ++ message ++ "\n"⟩
  | .run inv =>
    match ← loadConfig host inv.config with
    | .error e => pure (.failure e)
    | .ok config => execute host config inv

end Highlight.Cli
