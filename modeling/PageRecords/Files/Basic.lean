/-!
# Files

What can be asked of a file system: the text of a file, and the files of a directory.
-/

namespace PageRecords

/-- Why a file or directory cannot be read. -/
inductive FileError where
  | notFound
  | notDirectory
  | isDirectory
  /-- The bytes of the file are no text. -/
  | notText
  | other (text : String)
deriving DecidableEq, Repr, Inhabited

def FileError.message : FileError → String
  | .notFound => "No such file or directory (os error 2)"
  | .notDirectory => "Not a directory (os error 20)"
  | .isDirectory => "Is a directory (os error 21)"
  | .notText => "stream did not contain valid UTF-8"
  | .other text => text

structure Files where
  text : String → Except FileError String
  /-- The names of the regular files in a directory, in any order. -/
  list : String → Except FileError (List String)

namespace Path

/-- The path of a name in a directory. -/
def join (dir name : String) : String :=
  if dir.isEmpty || dir.endsWith "/" then dir ++ name else dir ++ "/" ++ name

/-- What stands behind the last dot of a name that does not start with it. -/
def extension? (name : String) : Option String :=
  let behind := (name.toList.reverse.takeWhile (· ≠ '.')).reverse
  if behind.length + 1 < name.length then some (String.ofList behind) else none

/-- The parts of a path. Slashes count once, and a dot only at the start. -/
def parts (path : String) : List String :=
  match (path.toList.splitOn '/').map String.ofList with
  | [] => []
  | first :: rest =>
    let kept := rest.filter fun p => !p.isEmpty && p ≠ "."
    if first.isEmpty && !path.isEmpty then "/" :: kept
    else if first.isEmpty then kept
    else first :: kept

/-- Whether two paths are the same, however often their slashes are written. -/
def same (p q : String) : Bool := parts p = parts q

end Path

end PageRecords
