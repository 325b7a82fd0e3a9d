import PageRecords.Decimal.Binary64

/-!
# Decoded data

The value that a rule document is read from. Objects keep the order of their
members, and an integer is told apart from a double of the same size.
-/

namespace PageRecords

open Decimal (Binary64)

/-- A number as it was written: an integer of sixty-four bits, signed or
unsigned, or a double. -/
inductive JsonNumber where
  | int (n : Int)
  | double (x : Binary64)
deriving DecidableEq, Repr, Inhabited

namespace JsonNumber

def isZero : JsonNumber → Bool
  | .int n => n == 0
  | .double x => x.isZero

def text : JsonNumber → String
  | .int n => toString n
  | .double x => x.text

end JsonNumber

/-- Decoded data. No object repeats a key. -/
inductive Json where
  | null
  | bool (b : Bool)
  | number (n : JsonNumber)
  | string (s : String)
  | array (items : List Json)
  | object (members : List (String × Json))
deriving Repr, Inhabited

namespace Json

/-- The members of an object in their written order. -/
abbrev Members := List (String × Json)

/-- The value under a key. -/
def Members.get? (members : Members) (key : String) : Option Json :=
  members.lookup key

/-- Stores a value under a key. A key already there keeps its position. -/
def Members.insert (members : Members) (key : String) (value : Json) : Members :=
  match members with
  | [] => [(key, value)]
  | (k, v) :: rest =>
    if k = key then (k, value) :: rest else (k, v) :: Members.insert rest key value

end Json

end PageRecords
