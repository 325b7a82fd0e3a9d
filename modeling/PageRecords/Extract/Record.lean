import PageRecords.Json.Basic

/-!
# Records

What is taken from a page: lists of values by name, the names in the order in which
they first came. A value is text or a record of its own.
-/

namespace PageRecords

inductive Value where
  | text (s : String)
  | record (entries : List (String × List Value))
deriving Repr, Inhabited

structure Record where
  entries : List (String × List Value)
deriving Repr, Inhabited

def Value.ofRecord (r : Record) : Value := .record r.entries

def Value.text? : Value → Option String
  | .text s => some s
  | .record _ => none

def Value.record? : Value → Option Record
  | .text _ => none
  | .record entries => some ⟨entries⟩

namespace Record

def empty : Record := ⟨[]⟩

/-- Stores values under a name. A name already there keeps its position. -/
def insert (r : Record) (name : String) (values : List Value) : Record :=
  ⟨go r.entries⟩
where
  go : List (String × List Value) → List (String × List Value)
    | [] => [(name, values)]
    | (n, vs) :: rest => if n = name then (n, values) :: rest else (n, vs) :: go rest

def get? (r : Record) (name : String) : Option (List Value) := r.entries.lookup name

/-- The texts under a name, records left out. -/
def texts? (r : Record) (name : String) : Option (List String) :=
  (r.get? name).map (·.filterMap Value.text?)

def contains (r : Record) (name : String) : Bool := (r.get? name).isSome

def size (r : Record) : Nat := r.entries.length

def isEmpty (r : Record) : Bool := r.entries.isEmpty

def names (r : Record) : List String := r.entries.map (·.1)

/-- Stores the entries of a list one after another. -/
def insertAll (r : Record) (entries : List (String × List Value)) : Record :=
  entries.foldl (fun r (name, values) => r.insert name values) r

end Record

-- --------------------------------------------------------------------
-- Printing
-- --------------------------------------------------------------------

mutual
def Value.toJson : Value → Json
  | .text s => .string s
  | .record entries => .object (entriesToJson entries)
def entriesToJson : List (String × List Value) → Json.Members
  | [] => []
  | (name, values) :: rest => (name, .array (valuesToJson values)) :: entriesToJson rest
def valuesToJson : List Value → List Json
  | [] => []
  | v :: rest => v.toJson :: valuesToJson rest
end

/-- The record as an object of lists. -/
def Record.toJson (r : Record) : Json := .object (entriesToJson r.entries)

-- --------------------------------------------------------------------
-- Comparing
-- --------------------------------------------------------------------

mutual
def Value.same : Value → Value → Bool
  | .text s, .text t => s = t
  | .record a, .record b => sameEntries a b
  | _, _ => false
def sameEntries : List (String × List Value) → List (String × List Value) → Bool
  | [], [] => true
  | (n, vs) :: a, (m, ws) :: b => n = m && sameValues vs ws && sameEntries a b
  | _, _ => false
def sameValues : List Value → List Value → Bool
  | [], [] => true
  | v :: vs, w :: ws => v.same w && sameValues vs ws
  | _, _ => false
end

/-- Whether two records have the same entries in the same order. -/
def Record.same (r s : Record) : Bool := sameEntries r.entries s.entries

end PageRecords
