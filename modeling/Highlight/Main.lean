import Highlight.Cli.Run
/-!
# The program

The command-line program: the host over the real system, and `main`, which runs the program
with it and prints what the run printed.
-/

namespace Highlight.Cli

/-- Why reading a path failed, as the system reported it. -/
def readErrorOf (path : String) : IO.Error → ReadError
  | .noFileOrDirectory _ _ _ => ⟨path, .notFound, "No such file or directory (os error 2)"⟩
  | e =>
    let detail := toString e
    if (detail.splitOn "Not a directory").length > 1 then ⟨path, .notADirectory, detail⟩
    else ⟨path, .isADirectory, detail⟩

/-- The host over the real system. -/
def systemHost : Host IO where
  readFile := fun p => do
    try pure (.ok (← IO.FS.readFile p)) catch e => pure (.error (readErrorOf p e))
  listDir := fun p => do
    try
      let entries ← (← IO.FS.realPath p).readDir
      let items ← entries.toList.mapM fun e => do
        pure (DirEntry.mk e.fileName (← e.path.isDir))
      pure (some items)
    catch _ => pure none
  isFile := fun p => do
    try pure ((← (← IO.FS.realPath p).metadata).type == .file) catch _ => pure false
  writeFile := fun p text => do
    try
      IO.FS.writeFile p text
      pure (.ok ())
    catch e => pure (.error (toString e))
  env := fun name => IO.getEnv name
  programDir := do
    try pure (some (toString (← IO.appDir))) catch _ => pure none

end Highlight.Cli

/-- Runs the program with its arguments, printing what it prints and exiting with its code. -/
def main (args : List String) : IO UInt32 := do
  let outcome ← Highlight.Cli.run Highlight.Cli.systemHost args
  IO.print outcome.stdout
  IO.eprint outcome.stderr
  pure outcome.code.toUInt32
