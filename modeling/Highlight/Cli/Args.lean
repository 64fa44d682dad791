/-!
# The command line

`[--config PATH] [--runtime DIR]... COMMAND` after the program's name, where the command is one of

* `detect PATH`: name the grammar that would highlight a file;
* `highlight PATH [--syntax NAME] [--format plain|json]`: print a file's highlighting;
* `index DIR [--stdout]`: write (or print) the index of a directory of definitions;
* `help [COMMAND]`: print help.

`--config` and `--runtime` may stand before or after the command. Arguments are read left to
right: `-h`/`--help` prints help as soon as it is met, `-V`/`--version` (before the command)
prints the version, and the first misuse met is reported. An option takes its value after `=`
or from the next argument, which may not look like an option; path values may not be empty; an
option other than `--runtime` may not be repeated. After `--` every argument is positional.
-/

namespace Highlight.Cli

/-- How `highlight` prints. -/
inductive OutputFormat where
  /-- One line per span. -/
  | plain
  /-- A pretty JSON report. -/
  | json
  deriving Repr, Inhabited, BEq, DecidableEq

/-- What to do. -/
inductive Command where
  /-- Name the grammar for a file. -/
  | detect (path : String)
  /-- Highlight a file, with the named grammar if one is given. -/
  | highlight (path : String) (language : Option String) (format : OutputFormat)
  /-- Index a directory of definitions, printing the index instead of writing it if asked. -/
  | index (dir : String) (toStdout : Bool)
  deriving Repr, Inhabited, BEq

/-- A well-formed command line. -/
structure Invocation where
  /-- The settings file given, if any. -/
  config : Option String := none
  /-- Extra definition directories, searched first, in order. -/
  runtime : List String := []
  /-- The command. -/
  command : Command
  deriving Repr, Inhabited, BEq

/-- What reading the command line gives. -/
inductive Reading where
  /-- A command to run. -/
  | run (inv : Invocation)
  /-- Text to print before stopping successfully: help or the version. -/
  | display (text : String)
  /-- A misuse, with its message. -/
  | usage (message : String)
  deriving Repr, Inhabited, BEq

/-- The commands. -/
inductive Subcommand where
  | detect
  | highlight
  | index
  | help
  deriving Repr, Inhabited, BEq, DecidableEq

/-- The command a name denotes. -/
def Subcommand.ofName? : String → Option Subcommand
  | "detect" => some .detect
  | "highlight" => some .highlight
  | "index" => some .index
  | "help" => some .help
  | _ => none

/-- The program's name. -/
def programName : String := "synline"

/-- The program's version. -/
def version : String := "0.1.0"

/-- The help of the options every command accepts, padded to the given width of option texts. -/
def globalOptionLines (width : Nat) : List String :=
  let pad (s : String) : String := s.pushn ' ' (width + 2 - s.length)
  ["      " ++ pad "--config <PATH>" ++
      "Configuration file (defaults to $XDG_CONFIG_HOME/" ++ programName ++ "/config.toml)",
    "      " ++ pad "--runtime <DIR>" ++
      "Extra grammar directory, searched before all others (repeatable)"]

/-- The help line of the help flag, padded to the given width. -/
def helpFlagLine (width : Nat) : String := "  -h, " ++ "--help".pushn ' ' (width + 2 - 6) ++ "Print help"

/-- The help text of the program. -/
def rootHelp : String :=
  "\n".intercalate ([
    "Grammar-driven syntax highlighting", "",
    "Usage: " ++ programName ++ " [OPTIONS] <COMMAND>", "",
    "Commands:",
    "  detect     Print the grammar that would highlight a file",
    "  highlight  Print the highlighting spans of a file",
    "  index      Write index.json for a directory of grammar definitions",
    "  help       Print this message or the help of the given subcommand(s)", "",
    "Options:"] ++ globalOptionLines 15 ++
    [helpFlagLine 15, "  -V, " ++ "--version".pushn ' ' 8 ++ "Print version"]) ++ "\n"

/-- The help text of a command. -/
def commandHelp : Subcommand → String
  | .detect => "\n".intercalate ([
      "Print the grammar that would highlight a file", "",
      "Usage: " ++ programName ++ " detect [OPTIONS] <PATH>", "",
      "Arguments:", "  <PATH>  ", "",
      "Options:"] ++ globalOptionLines 15 ++ [helpFlagLine 15]) ++ "\n"
  | .highlight => "\n".intercalate ([
      "Print the highlighting spans of a file", "",
      "Usage: " ++ programName ++ " highlight [OPTIONS] <PATH>", "",
      "Arguments:", "  <PATH>  ", "",
      "Options:",
      "      --syntax <SYNTAX>  Grammar name to use instead of detecting one",
      "      --format <FORMAT>  [default: plain] [possible values: plain, json]"] ++
      globalOptionLines 17 ++ [helpFlagLine 17]) ++ "\n"
  | .index => "\n".intercalate ([
      "Write index.json for a directory of grammar definitions", "",
      "Usage: " ++ programName ++ " index [OPTIONS] <DIR>", "",
      "Arguments:", "  <DIR>  ", "",
      "Options:",
      "      --stdout         Print the index instead of writing it"] ++
      globalOptionLines 15 ++ [helpFlagLine 15]) ++ "\n"
  | .help => "\n".intercalate [
      "Print this message or the help of the given subcommand(s)", "",
      "Usage: " ++ programName ++ " help [COMMAND]...", "",
      "Arguments:", "  [COMMAND]...  Print help for the subcommand(s)"] ++ "\n"

/-- The version text. -/
def versionText : String := programName ++ " " ++ version ++ "\n"

/-- The command line read so far. -/
structure Partial where
  /-- The value of `--config`, once given. -/
  config : Option String := none
  /-- The values of `--runtime`, in order. -/
  runtime : List String := []
  /-- The command, once named. -/
  command : Option Subcommand := none
  /-- Positional arguments after the command. -/
  positionals : List String := []
  /-- The value of `--syntax`, once given. -/
  language : Option String := none
  /-- The value of `--format`, once given. -/
  format : Option OutputFormat := none
  /-- Whether `--stdout` was given. -/
  toStdout : Bool := false
  /-- Whether `--` was met. -/
  escaped : Bool := false
  deriving Repr, Inhabited

/-- Whether an argument looks like an option rather than a value. -/
def looksLikeOption (arg : String) : Bool := arg.startsWith "-" && arg != "-"

/-- An option's name and the value after its `=`, if any. -/
def splitOption (arg : String) : String × Option String :=
  match (arg.drop 2).toString.splitOn "=" with
  | [name] => (name, none)
  | name :: rest => (name, some ("=".intercalate rest))
  | [] => ("", none)

/-- The help text `help` prints for the names after it. -/
def helpFor : List String → Reading
  | [] => .display rootHelp
  | [name] =>
    match Subcommand.ofName? name with
    | some c => .display (commandHelp c)
    | none => .usage ("unrecognized subcommand '" ++ name ++ "'")
  | _ => .usage "unexpected argument"

/-- The reading of a finished command line. -/
def finish (p : Partial) : Reading :=
  match p.command, p.positionals with
  | none, _ => .usage "requires a subcommand but one was not provided"
  | some .help, names => helpFor names
  | some _, [] => .usage "the following required arguments were not provided"
  | some .detect, path :: _ => .run { config := p.config, runtime := p.runtime, command := .detect path }
  | some .highlight, path :: _ =>
    .run { config := p.config, runtime := p.runtime,
           command := .highlight path p.language (p.format.getD .plain) }
  | some .index, dir :: _ =>
    .run { config := p.config, runtime := p.runtime, command := .index dir p.toStdout }

/-- A positional argument taken. -/
def positional (p : Partial) (arg : String) : Except String Partial :=
  match p.command with
  | none =>
    if p.escaped then .error ("unexpected argument '" ++ arg ++ "' found")
    else match Subcommand.ofName? arg with
      | some c => .ok { p with command := some c }
      | none => .error ("unrecognized subcommand '" ++ arg ++ "'")
  | some .help => .ok { p with positionals := p.positionals ++ [arg] }
  | some _ =>
    if !p.positionals.isEmpty then .error ("unexpected argument '" ++ arg ++ "' found")
    else if arg.isEmpty then .error "a value is required for '<PATH>' but none was supplied"
    else .ok { p with positionals := [arg] }

/-- An option with a value taken. -/
def withValue (p : Partial) (name value : String) : Except String Partial :=
  let again := "the argument '--" ++ name ++ "' cannot be used multiple times"
  let empty := "a value is required for '--" ++ name ++ "' but none was supplied"
  match name, p.command with
  | "config", _ =>
    if p.config.isSome then .error again else if value.isEmpty then .error empty
    else .ok { p with config := some value }
  | "runtime", _ => if value.isEmpty then .error empty else .ok { p with runtime := p.runtime ++ [value] }
  | "syntax", some .highlight =>
    if p.language.isSome then .error again else .ok { p with language := some value }
  | "format", some .highlight =>
    if p.format.isSome then .error again
    else match value with
      | "plain" => .ok { p with format := some .plain }
      | "json" => .ok { p with format := some .json }
      | _ => .error ("invalid value '" ++ value ++ "' for '--format <FORMAT>'")
  | _, _ => .error ("unexpected argument '--" ++ name ++ "' found")

/-- Whether an option takes a value where it stands. -/
def takesValue (name : String) (command : Option Subcommand) : Bool :=
  name == "config" || name == "runtime" ||
    (command == some .highlight && (name == "syntax" || name == "format"))

/-- The command line read from `args` on. -/
def readFrom (p : Partial) : List String → Reading
  | [] => finish p
  | arg :: rest =>
    if p.escaped || !looksLikeOption arg then
      match positional p arg with
      | .ok p => readFrom p rest
      | .error e => .usage e
    else if arg == "--" then readFrom { p with escaped := true } rest
    else if arg.startsWith "--" then
      match splitOption arg with
      | ("help", none) => .display (match p.command with
          | some c => commandHelp c
          | none => rootHelp)
      | ("version", none) =>
        if p.command.isNone then .display versionText else .usage "unexpected argument '--version' found"
      | ("stdout", none) =>
        if p.command != some .index then .usage "unexpected argument '--stdout' found"
        else if p.toStdout then .usage "the argument '--stdout' cannot be used multiple times"
        else readFrom { p with toStdout := true } rest
      | (name, some value) =>
        if takesValue name p.command then
          match withValue p name value with
          | .ok p => readFrom p rest
          | .error e => .usage e
        else .usage ("unexpected argument '" ++ arg ++ "' found")
      | (name, none) =>
        if takesValue name p.command then
          match rest with
          | value :: more =>
            if looksLikeOption value then
              .usage ("a value is required for '--" ++ name ++ "' but none was supplied")
            else match withValue p name value with
              | .ok p => readFrom p more
              | .error e => .usage e
          | [] => .usage ("a value is required for '--" ++ name ++ "' but none was supplied")
        else .usage ("unexpected argument '" ++ arg ++ "' found")
    else
      match (arg.drop 1).toString.toList with
      | 'h' :: _ => .display (match p.command with
          | some c => commandHelp c
          | none => rootHelp)
      | 'V' :: _ =>
        if p.command.isNone then .display versionText else .usage ("unexpected argument '" ++ arg ++ "' found")
      | _ => .usage ("unexpected argument '" ++ arg ++ "' found")

/-- The reading of a command line (the arguments after the program's name). -/
def read (args : List String) : Reading := readFrom {} args

end Highlight.Cli
