import PageRecords.Registry.Load

/-!
# Registries

Documents by name, in the order in which the names came. A directory of documents is
loaded in the order of its file names, up to the first that cannot be loaded.
-/

namespace PageRecords

structure Registry where
  documents : List RuleDocument
deriving Inhabited

namespace Registry

def empty : Registry := ⟨[]⟩

/-- Adds a document, in the place of an earlier one of its name. -/
def register (r : Registry) (d : RuleDocument) : Registry :=
  ⟨go r.documents⟩
where
  go : List RuleDocument → List RuleDocument
    | [] => [d]
    | e :: rest => if e.name = d.name then d :: rest else e :: go rest

def get? (r : Registry) (name : String) : Option RuleDocument :=
  r.documents.find? (·.name = name)

/-- The first document that handles an address. -/
def find? (r : Registry) (url : String) : Option RuleDocument :=
  r.documents.find? (·.handles url)

def names (r : Registry) : List String := r.documents.map (·.name)

def size (r : Registry) : Nat := r.documents.length

def isEmpty (r : Registry) : Bool := r.documents.isEmpty

-- --------------------------------------------------------------------
-- Directories
-- --------------------------------------------------------------------

/-- The extensions of documents. -/
def extensions : List String := ["yaml", "yml", "json"]

def isDocumentName (name : String) : Bool :=
  match Path.extension? name with
  | some e => extensions.contains e
  | none => false

/-- The names of the documents among files, in order. -/
def documentNames (names : List String) : List String :=
  (names.filter isDocumentName).mergeSort fun a b => !decide (b < a)

/-- Registers the documents of files up to the first that cannot be loaded. -/
def loadAll (r : Registry) (files : Files) : List String → Registry × Option LoadError
  | [] => (r, none)
  | path :: rest =>
    match RuleDocument.load files path with
    | .ok d => (r.register d).loadAll files rest
    | .error e => (r, some e)

/-- Loads the documents of a directory, and tells how many there are. -/
def loadDir (r : Registry) (files : Files) (dir : String) : Registry × Except LoadError Nat :=
  match files.list dir with
  | .error e => (r, .error (.unreadable dir e))
  | .ok names =>
    let paths := (documentNames names).map (Path.join dir)
    match r.loadAll files paths with
    | (r, none) => (r, .ok paths.length)
    | (r, some e) => (r, .error e)

end Registry

end PageRecords
