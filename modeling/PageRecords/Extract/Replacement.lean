import PageRecords.Document.Rule
import PageRecords.Regex.Match

/-!
# Replacing values

An output is text with placeholders: a dollar sign and as many decimal digits as
follow it. A placeholder stands for the group of that number.
-/

namespace PageRecords.Replacement

/-- The number of a group. Digits other than the ASCII ones name none, nor does a
number past sixty-four bits. -/
def groupNumber? (digits : List Char) : Option Nat :=
  if digits.all Char.isDigit then
    let n := digits.foldl (fun n d => n * 10 + (d.toNat - '0'.toNat)) 0
    if n < Nat.pow 2 64 then some n else none
  else none

/-- The text of a placeholder's group, empty if there is none. -/
def groupText (c : Regex.Captures) (digits : List Char) : List Char :=
  match (groupNumber? digits).bind c.get? with
  | some s => s.toList
  | none => []

/-- Fills the placeholders in. `dollar` holds the digits read since a dollar sign,
the latest first, while one may still become a placeholder. -/
def fill (c : Regex.Captures) (dollar : Option (List Char)) : List Char → List Char
  | [] =>
    match dollar with
    | none => []
    | some [] => ['$']
    | some digits => groupText c digits.reverse
  | x :: rest =>
    match dollar with
    | none => if x = '$' then fill c (some []) rest else x :: fill c none rest
    | some digits =>
      if Unicode.Class.digit.contains x then fill c (some (x :: digits)) rest
      else
        let done := if digits.isEmpty then ['$'] else groupText c digits.reverse
        if x = '$' then done ++ fill c (some []) rest else done ++ x :: fill c none rest

/-- The value put in place of another, if `find` matches in it. -/
def run? (r : Replacement) (value : String) : Option String :=
  (r.find.captures? value).map fun c => String.ofList (fill c none r.output.toList)

end PageRecords.Replacement
