import PageRecords.Files.Basic
import PageRecords.Unicode.Utf8

/-!
# Trees of files

A file system as a value. Paths lead from the working directory; nothing is known to be
outside it.
-/

namespace PageRecords

open Unicode (Utf8.decode?)

inductive FileTree where
  | file (bytes : List UInt8)
  | directory (entries : List (String × FileTree))
deriving Inhabited

namespace FileTree

def empty : FileTree := .directory []

def entries : FileTree → List (String × FileTree)
  | .file _ => []
  | .directory entries => entries

def isFile : FileTree → Bool
  | .file _ => true
  | .directory _ => false

-- --------------------------------------------------------------------
-- Building
-- --------------------------------------------------------------------

/-- The entries with one put in under a name. -/
def set (name : String) (t : FileTree) : List (String × FileTree) → List (String × FileTree)
  | [] => [(name, t)]
  | (n, u) :: rest => if n = name then (n, t) :: rest else (n, u) :: set name t rest

/-- The tree with a subtree put in at the end of a path. Directories on the way are
made. -/
def insert (t : FileTree) (leaf : FileTree) : List String → FileTree
  | [] =>
    match leaf with
    | .file _ => leaf
    | .directory _ => if t.isFile then leaf else t
  | name :: rest =>
    let child := (t.entries.lookup name).getD empty
    .directory (set name (child.insert leaf rest) t.entries)

-- --------------------------------------------------------------------
-- Reading
-- --------------------------------------------------------------------

/-- Follows the parts of a path. What lies on the way back is kept, the nearest first;
outside the working directory there is nothing. -/
def walk (back : List FileTree) (here : FileTree) : List String → Except FileError FileTree
  | [] => .ok here
  | name :: rest =>
    match here with
    | .file _ => .error .notDirectory
    | .directory entries =>
      if name.isEmpty || name = "." then walk back here rest
      else if name = ".." then
        match back with
        | parent :: back => walk back parent rest
        | [] => walk [] empty rest
      else
        match entries.lookup name with
        | some t => walk (here :: back) t rest
        | none => .error .notFound

/-- What a path leads to. -/
def find (t : FileTree) (path : String) : Except FileError FileTree :=
  match (path.toList.splitOn '/').map String.ofList with
  | [""] => .error .notFound
  | "" :: rest => walk [] empty rest
  | names => walk [] t names

def text (t : FileTree) (path : String) : Except FileError String := do
  match ← t.find path with
  | .directory _ => throw .isDirectory
  | .file bytes =>
    match Utf8.decode? bytes with
    | some cs => return String.ofList cs
    | none => throw .notText

def list (t : FileTree) (path : String) : Except FileError (List String) := do
  match ← t.find path with
  | .file _ => throw .notDirectory
  | .directory entries => return (entries.filter (·.2.isFile)).map (·.1)

def files (t : FileTree) : Files := ⟨t.text, t.list⟩

end FileTree

end PageRecords
