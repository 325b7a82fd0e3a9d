import PageRecords.Document.Field

/-!
# Lenient readers

Documents are written by hand, so a single string stands for a list of one, a
flag may be spelled `"true"` or `1`, and an empty value counts as absent.
-/

namespace PageRecords

namespace Json

/-- Null, false, zero and the empty string count as absent. -/
def isPresent : Json → Bool
  | .null => false
  | .bool b => b
  | .number n => !n.isZero
  | .string s => s != ""
  | .array _ | .object _ => true

/-- The first of some keys that has a present value, with that value. -/
def Members.lookup? (members : Members) : List String → Option (String × Json)
  | [] => none
  | key :: keys =>
    match members.get? key with
    | some value => if value.isPresent then some (key, value) else members.lookup? keys
    | none => members.lookup? keys

def asObject (value : Json) (field : Field) : Except Fault Members :=
  match value with
  | .object members => .ok members
  | _ => .error (.invalid field .notObject)

def asString (value : Json) (field : Field) : Except Fault String :=
  match value with
  | .string s => .ok s
  | _ => .error (.invalid field .notString)

/-- The string under the first present key, with that key. -/
def Members.keyedString (members : Members) (field : Field) (keys : List String) :
    Except Fault (Option (String × String)) :=
  match members.lookup? keys with
  | some (key, value) => do
    let s ← value.asString (field.key key)
    pure (some (key, s))
  | none => .ok none

def Members.optionalString (members : Members) (field : Field) (keys : List String) :
    Except Fault (Option String) := do
  let found ← members.keyedString field keys
  pure (found.map (·.2))

/-- As `optionalString`; what is missing is missing under the first key. -/
def Members.requireString (members : Members) (field : Field) (key : String)
    (aliases : List String := []) : Except Fault String := do
  match ← members.optionalString field (key :: aliases) with
  | some s => pure s
  | none => .error (.missing (field.key key))

/-- The strings of an array, from an index on. -/
def stringItems (field : Field) (i : Nat) : List Json → Except Fault (List String)
  | [] => .ok []
  | item :: rest => do
    let s ← item.asString (field.index i)
    let more ← stringItems field (i + 1) rest
    pure (s :: more)

/-- A string or an array of strings. Nothing gives an empty list. -/
def stringList (value : Option Json) (field : Field) : Except Fault (List String) :=
  match value with
  | none => .ok []
  | some (.string s) => .ok [s]
  | some (.array items) => stringItems field 0 items
  | some _ => .error (.invalid field .notStringList)

/-- A truth value, its name, or the integers one and zero. Nothing and null give
false. -/
def flag (value : Option Json) (field : Field) : Except Fault Bool :=
  match value with
  | none | some .null => .ok false
  | some (.bool b) => .ok b
  | some v =>
    match v with
    | .string "true" | .number (.int 1) => .ok true
    | .string "false" | .number (.int 0) => .ok false
    | v => .error (.invalid field (.notFlag v))

/-- The text that a scalar compares by with the value of a query parameter. -/
def scalarText (value : Json) (field : Field) : Except Fault String :=
  match value with
  | .string s => .ok s
  | .number n => .ok n.text
  | .bool true => .ok "true"
  | .bool false => .ok "false"
  | _ => .error (.invalid field .notScalar)

end Json

end PageRecords
