import Highlight.Config.Toml
import Highlight.Document.Budget
/-!
# Settings

The settings file is TOML with four settings, every one optional: `log_level` (a string),
`runtime_dirs` (an array of directory paths searched for definitions before the usual places),
`bundled` (whether the bundled definitions are consulted last) and a `reconcile` table with
`max_lines` and `max_time_ms`, non-negative integers bounding each reconciliation slice.

Anything else is refused: an unknown key, a value of the wrong type, a key given twice, or a
`reconcile` table defined twice (by a header, an inline table, or dotted keys followed by either).
-/

namespace Highlight

/-- The bounds on each reconciliation slice; a missing one takes its default. -/
structure ReconcileSettings where
  /-- Lines per slice. -/
  maxLines : Option Nat := none
  /-- Milliseconds per slice. -/
  maxTimeMs : Option Nat := none
  deriving Repr, Inhabited, BEq, DecidableEq

/-- The settings, with their defaults. -/
structure Config where
  /-- The log filter. -/
  logLevel : String := "warn"
  /-- Directories searched for definitions, after those given on the command line. -/
  runtimeDirs : List String := []
  /-- Whether the bundled definitions are consulted after every directory. -/
  bundled : Bool := true
  /-- Bounds on reconciliation slices. -/
  reconcile : ReconcileSettings := {}
  deriving Repr, Inhabited, BEq, DecidableEq

namespace Config

/-- The reconciliation budget: the configured line bound, or 256 lines. Only lines are counted;
how the work is sliced never changes what is highlighted. -/
def budget (c : Config) : Budget := ⟨some (c.reconcile.maxLines.getD 256)⟩

/-- How far the `reconcile` table has been defined. -/
inductive TableState where
  /-- Not mentioned yet. -/
  | absent
  /-- Begun by dotted keys at the top level, which may add to it. -/
  | dotted
  /-- Defined by its header or as an inline table. -/
  | closed
  deriving Repr, Inhabited, BEq, DecidableEq

/-- Settings being read, statement by statement. -/
structure Reading where
  /-- The settings so far. -/
  config : Config := {}
  /-- The top-level keys defined so far. -/
  seen : List String := []
  /-- How the `reconcile` table has been defined. -/
  table : TableState := .absent
  /-- The keys of the `reconcile` table defined so far. -/
  tableSeen : List String := []
  /-- Whether the statements now belong to the `reconcile` table, after its header. -/
  inTable : Bool := false
  deriving Repr, Inhabited

/-- A quoted key for messages. -/
def cite (key : String) : String := "\"" ++ key ++ "\""

/-- A count: a non-negative integer. -/
def count (key : String) : Toml.Value → Except String Nat
  | .int n => if n < 0 then .error ("invalid value for " ++ cite key ++ ": expected a non-negative integer")
    else .ok n.toNat
  | _ => .error ("invalid type for " ++ cite key ++ ": expected an integer")

/-- A key of the `reconcile` table set. -/
def Reading.setBound (r : Reading) (key : String) (v : Toml.Value) : Except String Reading := do
  if r.tableSeen.contains key then throw ("duplicate key " ++ cite key)
  let n ← count key v
  let bounds := r.config.reconcile
  let bounds ← match key with
    | "max_lines" => pure { bounds with maxLines := some n }
    | "max_time_ms" => pure { bounds with maxTimeMs := some n }
    | _ => throw ("unknown field " ++ cite key ++ ", expected max_lines or max_time_ms")
  pure { r with config := { r.config with reconcile := bounds }, tableSeen := key :: r.tableSeen }

/-- A string. -/
def text (key : String) : Toml.Value → Except String String
  | .str s => .ok s
  | _ => .error ("invalid type for " ++ cite key ++ ": expected a string")

/-- A top-level key set to a value. -/
def Reading.setTop (r : Reading) (key : String) (v : Toml.Value) : Except String Reading := do
  if r.seen.contains key then throw ("duplicate key " ++ cite key)
  let r := { r with seen := key :: r.seen }
  match key, v with
  | "log_level", v => do
    let s ← text key v
    pure { r with config := { r.config with logLevel := s } }
  | "runtime_dirs", .arr items => do
    let dirs ← items.mapM (text key)
    pure { r with config := { r.config with runtimeDirs := dirs } }
  | "bundled", .bool b => pure { r with config := { r.config with bundled := b } }
  | "reconcile", .table fields =>
    fields.foldlM (fun r (path, v) =>
      match path with
      | [k] => r.setBound k v
      | _ => throw "unknown field in reconcile") { r with table := .closed }
  | "runtime_dirs", _ => throw ("invalid type for " ++ cite key ++ ": expected an array")
  | "bundled", _ => throw ("invalid type for " ++ cite key ++ ": expected a boolean")
  | "reconcile", _ => throw ("invalid type for " ++ cite key ++ ": expected a table")
  | _, _ => throw ("unknown field " ++ cite key ++
      ", expected one of log_level, runtime_dirs, bundled, reconcile")

/-- One statement applied. -/
def Reading.apply (r : Reading) : Toml.Statement → Except String Reading
  | .header ["reconcile"] false =>
    if r.seen.contains "reconcile" then .error "duplicate table reconcile"
    else .ok { r with seen := "reconcile" :: r.seen, table := .closed, inTable := true }
  | .header _ _ => .error "unknown table"
  | .assign path v =>
    if r.inTable then
      match path with
      | [k] => r.setBound k v
      | _ => .error "unknown field in reconcile"
    else
      match path with
      | [k] => r.setTop k v
      | ["reconcile", k] =>
        if r.seen.contains "reconcile" && r.table != .dotted then .error "duplicate key reconcile"
        else
          let seen := if r.seen.contains "reconcile" then r.seen else "reconcile" :: r.seen
          { r with seen, table := .dotted }.setBound k v
      | _ => .error "unknown field"

/-- The settings a TOML document gives, or why it gives none. -/
def read (text : String) : Except String Config := do
  let statements ← Toml.parse text
  let r ← statements.foldlM Reading.apply {}
  pure r.config

end Config

end Highlight
