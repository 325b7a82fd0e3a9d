import PageRecords.Unicode.CaseFolding

/-!
# Sets of characters

A set is a list of ranges of code points in ascending order, no two of which
touch. Union, complement and the operations built from them keep that form.
-/

namespace PageRecords.Unicode

/-- Ascending ranges of code points, ends included. -/
structure CharSet where
  ranges : List (Nat × Nat)
deriving DecidableEq, Repr, Inhabited

namespace CharSet

/-- Past the last code point. -/
def bound : Nat := 0x110000

def empty : CharSet := ⟨[]⟩

def all : CharSet := ⟨[(0, bound - 1)]⟩

def range (first last : Nat) : CharSet := ⟨[(first, last)]⟩

def singleton (c : Char) : CharSet := range c.toNat c.toNat

/-- Looks no further than the first range that starts past the code point. -/
def containsCode : List (Nat × Nat) → Nat → Bool
  | [], _ => false
  | (first, last) :: rest, n =>
    if n < first then false else n ≤ last || containsCode rest n

def contains (s : CharSet) (c : Char) : Bool :=
  containsCode s.ranges c.toNat

/-- Joins a range with those after it that it touches. The ranges are ascending
by their first code point. -/
def joinRanges (first last : Nat) : List (Nat × Nat) → List (Nat × Nat)
  | [] => [(first, last)]
  | (f, l) :: rest =>
    if f ≤ last + 1 then joinRanges first (max last l) rest
    else (first, last) :: joinRanges f l rest

/-- The set of the code points in any of the ranges, given in any order. -/
def ofRanges (ranges : List (Nat × Nat)) : CharSet :=
  match ranges.mergeSort (fun a b => a.1 ≤ b.1) with
  | [] => empty
  | (first, last) :: rest => ⟨joinRanges first last rest⟩

def union (s t : CharSet) : CharSet :=
  ofRanges (s.ranges ++ t.ranges)

/-- The gaps from a code point on. -/
def gaps (start : Nat) : List (Nat × Nat) → List (Nat × Nat)
  | [] => if start < bound then [(start, bound - 1)] else []
  | (first, last) :: rest =>
    if start < first then (start, first - 1) :: gaps (last + 1) rest
    else gaps (last + 1) rest

def complement (s : CharSet) : CharSet :=
  ⟨gaps 0 s.ranges⟩

def inter (s t : CharSet) : CharSet :=
  (s.complement.union t.complement).complement

def diff (s t : CharSet) : CharSet :=
  s.inter t.complement

def symmDiff (s t : CharSet) : CharSet :=
  (s.union t).diff (s.inter t)

/-- The code points of a run that are in a set, moved by the run's shift. -/
def shifted (s : CharSet) (run : CaseFolding.Run) : List (Nat × Nat) :=
  let count := (run.last - run.first) / run.step + 1
  ((List.range count).map fun i => run.first + i * run.step).filterMap fun n =>
    if containsCode s.ranges n then
      let m := ((n : Int) + run.shift).toNat
      some (m, m)
    else none

/-- The set with every character that differs from a member in case only. -/
def foldCase (s : CharSet) : CharSet :=
  ofRanges (s.ranges ++ CaseFolding.runs.flatMap s.shifted)

/-- As `foldCase`, within ASCII. -/
def foldAsciiCase (s : CharSet) : CharSet :=
  let upper := (List.range 26).filterMap fun i =>
    if containsCode s.ranges (0x61 + i) then some (0x41 + i, 0x41 + i) else none
  let lower := (List.range 26).filterMap fun i =>
    if containsCode s.ranges (0x41 + i) then some (0x61 + i, 0x61 + i) else none
  ofRanges (s.ranges ++ upper ++ lower)

end CharSet

end PageRecords.Unicode
