import PageRecords.Unicode.Code

/-!
# Tables as text

Large tables stand as text: hex numbers with blanks between them.
-/

namespace PageRecords.Unicode.NumberText

/-- The numbers after those read before, the latest first, and the one being read. -/
def numbersFrom (before : List Nat) (current : Option Nat) : List Char → List Nat
  | [] => (current.toList ++ before).reverse
  | c :: rest =>
    match hexValue? c with
    | some d => numbersFrom before (some (current.getD 0 * 16 + d)) rest
    | none => numbersFrom (current.toList ++ before) none rest

def numbers (text : String) : List Nat := numbersFrom [] none text.toList

def pairs : List Nat → List (Nat × Nat)
  | a :: b :: rest => (a, b) :: pairs rest
  | _ => []

def triples : List Nat → List (Nat × Nat × Nat)
  | a :: b :: c :: rest => (a, b, c) :: triples rest
  | _ => []

def quadruples : List Nat → List (Nat × Nat × Nat × Nat)
  | a :: b :: c :: d :: rest => (a, b, c, d) :: quadruples rest
  | _ => []

/-- A first number and those after it. -/
def group? (text : String) : Option (Nat × List Nat) :=
  match numbers text with
  | first :: rest => some (first, rest)
  | [] => none

/-- Groups of numbers, with a semicolon between them. -/
def groups (text : String) : List (Nat × List Nat) := (text.splitOn ";").filterMap group?

end PageRecords.Unicode.NumberText
