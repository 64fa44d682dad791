import Highlight.Registry.Folder
/-!
# Hosts

The program reaches the system it runs on only through a host: reading and writing files,
listing directories, reading environment variables and finding its own directory. A host is a
record of these operations in some monad, so the program itself is one definition whatever it
runs against: the real system, or a file system held in memory, against which it is an ordinary
pure function.

Paths are as the user wrote them; a relative path is relative to the working directory.
-/

namespace Highlight.Cli

/-- One entry of a directory. -/
structure DirEntry where
  /-- The entry's name. -/
  name : String
  /-- Whether it is a directory. -/
  isDir : Bool
  deriving Repr, Inhabited, BEq

/-- What the program needs from the system it runs on. -/
structure Host (m : Type → Type) where
  /-- The text of a file, or why it cannot be read. -/
  readFile : String → m (Except ReadError String)
  /-- The entries of a directory, none when the path is not a directory that can be read. -/
  listDir : String → m (Option (List DirEntry))
  /-- Whether a path names a regular file. -/
  isFile : String → m Bool
  /-- Writes a file, or says why it cannot be written. -/
  writeFile : String → String → m (Except String Unit)
  /-- An environment variable. -/
  env : String → m (Option String)
  /-- The directory holding the running program. -/
  programDir : m (Option String)

/-- A path joined to a directory; an absolute path stays as it is. -/
def joinPath (dir rel : String) : String :=
  if rel.startsWith "/" || dir.isEmpty then rel
  else if dir.endsWith "/" then dir ++ rel
  else dir ++ "/" ++ rel

/-- The parts of a path from the root, seen from the working directory `cwd` (an absolute path):
empty parts and `.` are dropped, and `..` takes back the part before it. -/
def resolvePath (cwd path : String) : List String :=
  let parts (p : String) : List String := (p.splitOn "/").filter (· != "")
  let all := (if path.startsWith "/" then [] else parts cwd) ++ parts path
  all.foldl (fun acc s => if s == "." then acc else if s == ".." then acc.dropLast else acc ++ [s]) []

/-- A file system held in memory: files by path relative to the working directory. The
directories are the working directory, the directories above it and every directory a file lies
in; nothing else exists. -/
structure MemoryFiles where
  /-- The working directory, an absolute path. -/
  cwd : String
  /-- Files by path relative to the working directory, with their texts. -/
  files : List (String × String)
  deriving Repr, Inhabited

namespace MemoryFiles

/-- The files by their parts from the root. -/
def entries (fs : MemoryFiles) : List (List String × String) :=
  fs.files.map fun (p, t) => (resolvePath fs.cwd p, t)

/-- The text of the file at the given parts. -/
def fileAt (fs : MemoryFiles) (parts : List String) : Option String :=
  (fs.entries.find? (·.1 == parts)).map (·.2)

/-- Whether the given parts name a directory. -/
def isFolderAt (fs : MemoryFiles) (parts : List String) : Bool :=
  parts.isPrefixOf (resolvePath "/" fs.cwd) ||
    fs.entries.any fun (p, _) => parts.length < p.length && parts.isPrefixOf p

/-- Whether a path goes on past a file, or names a file with a trailing slash: such a path
names nothing, and reading it fails because a file is not a directory. -/
def throughFile (fs : MemoryFiles) (path : String) : Bool :=
  let parts := resolvePath fs.cwd path
  ((List.range parts.length).any fun n => 0 < n && (fs.fileAt (parts.take n)).isSome) ||
    (path.endsWith "/" && (fs.fileAt parts).isSome)

/-- Reading a file. -/
def read (fs : MemoryFiles) (path : String) : Except ReadError String :=
  let parts := resolvePath fs.cwd path
  if fs.throughFile path then .error ⟨path, .notADirectory, "Not a directory (os error 20)"⟩
  else match fs.fileAt parts with
    | some text => .ok text
    | none =>
      if fs.isFolderAt parts then .error ⟨path, .isADirectory, "Is a directory (os error 21)"⟩
      else .error ⟨path, .notFound, "No such file or directory (os error 2)"⟩

/-- The entries of a directory, each name once. -/
def list (fs : MemoryFiles) (path : String) : Option (List DirEntry) :=
  let parts := resolvePath fs.cwd path
  if fs.throughFile path || !fs.isFolderAt parts then none
  else
    let below := fs.entries.filterMap fun (p, _) =>
      if parts.length < p.length && parts.isPrefixOf p then
        (p.drop parts.length).head?.map fun name => DirEntry.mk name (parts.length + 1 < p.length)
      else none
    let cwdParts := resolvePath "/" fs.cwd
    let above := if parts.length < cwdParts.length && parts.isPrefixOf cwdParts then
        (cwdParts.drop parts.length).head?.map (DirEntry.mk · true) |>.toList
      else []
    some ((above ++ below).foldl (fun acc e => if acc.any (·.name == e.name) then acc else acc ++ [e]) [])

/-- Whether a path names a file. -/
def isFile (fs : MemoryFiles) (path : String) : Bool :=
  !fs.throughFile path && (fs.fileAt (resolvePath fs.cwd path)).isSome

end MemoryFiles

/-- The host over a file system held in memory, with no environment variables and no program
directory. Writing a file succeeds and changes nothing: nothing reads it afterwards. -/
def Host.memory (fs : MemoryFiles) : Host Id where
  readFile := fun p => fs.read p
  listDir := fun p => fs.list p
  isFile := fun p => fs.isFile p
  writeFile := fun _ _ => Except.ok ()
  env := fun _ => none
  programDir := none

end Highlight.Cli
