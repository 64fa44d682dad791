import Highlight.Registry.Index
/-!
# Folders of definitions

A folder is a directory of definition files, held as the files it contains, by path relative to
the folder, and the subfolders it contains. Reading a file gives its text, or the reason it cannot
be read: there is no such file, or the path names a folder. A folder is shown in messages by its
path. Paths are `/`-separated.
-/

namespace Highlight

/-- The last component of a path, unless it is `..` or there is none: components are separated
by `/`, and empty and `.` components do not count. -/
def Path.fileName (p : String) : Option String :=
  match ((p.splitOn "/").filter fun s => !s.isEmpty && s != ".").getLast? with
  | some ".." => none
  | other => other

/-- Why a file cannot be read. -/
inductive ReadFault where
  | notFound
  | isADirectory
  | notADirectory
  deriving Repr, Inhabited, BEq

/-- The name of a read fault's kind. -/
def ReadFault.kindName : ReadFault → String
  | .notFound => "NotFound"
  | .isADirectory => "IsADirectory"
  | .notADirectory => "NotADirectory"

/-- A failed read: the path, the kind of fault, and the system's description of it. -/
structure ReadError where
  path : String
  fault : ReadFault
  detail : String
  deriving Repr, Inhabited

/-- The message `failed to read <path>: <detail>`. -/
def ReadError.message (e : ReadError) : String := "failed to read " ++ e.path ++ ": " ++ e.detail

/-- A directory: its files by relative path, and the subfolders that hold no file. -/
structure Folder where
  /-- How the folder is shown. -/
  path : String
  /-- Files by path relative to the folder, `/` separating components. -/
  files : List (String × String)
  /-- Further subfolders, by relative path. -/
  dirs : List String := []
  deriving Repr, Inhabited

namespace Folder

/-- The path of something in the folder. -/
def join (f : Folder) (rel : String) : String :=
  if rel.startsWith "/" then rel else f.path ++ "/" ++ rel

/-- Whether `rel` names a subfolder: one listed, or one some file lies in. -/
def isFolder (f : Folder) (rel : String) : Bool :=
  f.dirs.any (fun d => d == rel || d.startsWith (rel ++ "/")) ||
    f.files.any fun (p, _) => p.startsWith (rel ++ "/")

/-- The text of a file. -/
def read (f : Folder) (rel : String) : Except ReadError String :=
  match f.files.lookup rel with
  | some text => .ok text
  | none =>
    if f.isFolder rel then .error ⟨f.join rel, .isADirectory, "Is a directory (os error 21)"⟩
    else .error ⟨f.join rel, .notFound, "No such file or directory (os error 2)"⟩

/-- The subfolder at `rel`, if there is one. -/
def sub (f : Folder) (rel : String) : Option Folder :=
  let rel := if rel.endsWith "/" then String.ofList rel.toList.dropLast else rel
  if rel.isEmpty then some f
  else if !f.isFolder rel then none
  else
    let pre := rel ++ "/"
    some {
      path := f.join rel,
      files := f.files.filterMap fun (p, t) =>
        if p.startsWith pre then some (String.ofList (p.toList.drop pre.length), t) else none,
      dirs := f.dirs.filterMap fun d =>
        if d.startsWith pre then some (String.ofList (d.toList.drop pre.length)) else none }

/-- The files directly in the folder whose extension is `xml`, by name in byte order. The
extension is what follows the last dot of a name that does not start with it. -/
def definitionFiles (f : Folder) : List (String × String) :=
  let isXml (name : String) : Bool :=
    !name.contains '/' && name.endsWith ".xml" && name.length > 4
  (f.files.filter (isXml ·.1)).mergeSort (fun a b => a.1 ≤ b.1)

end Folder

end Highlight
