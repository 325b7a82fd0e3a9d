import PageRecords.Json.Basic
import PageRecords.Unicode.Code

/-!
# Values of plain scalars

What a scalar without quotes means: nothing, a truth value, a number, or its own text.
A number with leading zeros is text.
-/

namespace PageRecords.Yaml.Plain

open Decimal (Binary64)
open Unicode (hexValue?)

-- --------------------------------------------------------------------
-- Words
-- --------------------------------------------------------------------

def isNull (s : String) : Bool := ["null", "Null", "NULL", "~"].contains s

def bool? (s : String) : Option Bool :=
  if ["true", "True", "TRUE"].contains s then some true
  else if ["false", "False", "FALSE"].contains s then some false
  else none

-- --------------------------------------------------------------------
-- Integers
-- --------------------------------------------------------------------

/-- The number of one or more digits in a base. -/
def digits? (base : Nat) (cs : List Char) : Option Nat :=
  if cs.isEmpty then none
  else
    cs.foldlM (fun n c =>
      match hexValue? c with
      | some d => if d < base then some (n * base + d) else none
      | none => none) 0

/-- The number of digits behind the mark of their base, if there is one. -/
def marked? (cs : List Char) : Option Nat :=
  match cs with
  | '0' :: 'x' :: rest => digits? 16 rest
  | '0' :: 'o' :: rest => digits? 8 rest
  | '0' :: 'b' :: rest => digits? 2 rest
  | _ => none

/-- Whether digits start with a zero that does not count. -/
def isPadded (cs : List Char) : Bool :=
  match cs with
  | '0' :: rest => !rest.isEmpty && rest.all Char.isDigit
  | _ => false

/-- An integer that fits its sign: sixty-four bits can be kept, up to twice as many are
read and refused, and more are none. -/
def fit (size : Nat) (isNegative : Bool) (n : Nat) : Option (Option JsonNumber) :=
  let bound (bits : Nat) : Bool :=
    if isNegative then n ≤ Nat.pow 2 (bits - 1) else n < Nat.pow 2 bits
  if bound size then some (some (.int (if isNegative then -(n : Int) else n)))
  else if bound (2 * size) then some none
  else none

/-- The magnitude of an integer without its sign. -/
def magnitude? (cs : List Char) : Option Nat :=
  match marked? cs with
  | some n => some n
  | none => if isPadded cs then none else digits? 10 cs

/-- An integer, or nothing in its place if it is too large to keep. -/
def int? (cs : List Char) : Option (Option JsonNumber) :=
  match cs with
  | '-' :: rest => (magnitude? rest).bind (fit 64 true)
  | '+' :: rest => (magnitude? rest).bind (fit 64 false)
  | cs => (magnitude? cs).bind (fit 64 false)

-- --------------------------------------------------------------------
-- Doubles
-- --------------------------------------------------------------------

/-- The exponent behind an `e`, nothing being zero. -/
def exponent? (cs : List Char) : Option Int :=
  match cs with
  | [] => some 0
  | e :: rest =>
    if e = 'e' || e = 'E' then
      match rest with
      | '-' :: ds => (digits? 10 ds).map fun n => -(n : Int)
      | '+' :: ds => (digits? 10 ds).map fun n => (n : Int)
      | ds => (digits? 10 ds).map fun n => (n : Int)
    else none

/-- A finite double in decimal digits. -/
def decimal? (isNegative : Bool) (cs : List Char) : Option Binary64 := do
  let whole := cs.takeWhile Char.isDigit
  let rest := cs.dropWhile Char.isDigit
  let (fraction, rest) := match rest with
    | '.' :: rest => (rest.takeWhile Char.isDigit, rest.dropWhile Char.isDigit)
    | rest => ([], rest)
  let n ← digits? 10 (whole ++ fraction)
  let e ← exponent? rest
  let x := Binary64.ofDecimal isNegative n (e - fraction.length)
  if x.isFinite then some x else none

def isInfinite (cs : List Char) : Bool := [".inf", ".Inf", ".INF"].contains (String.ofList cs)

def isNan (cs : List Char) : Bool := [".nan", ".NaN", ".NAN"].contains (String.ofList cs)

/-- A double. Only a number without a sign may be none. -/
def double? (cs : List Char) : Option Binary64 :=
  if isNan cs then some .nan
  else
    let (isNegative, rest) := match cs with
      | '-' :: rest => (true, rest)
      | '+' :: rest => (false, rest)
      | cs => (false, cs)
    if isInfinite rest then some (.infinity isNegative) else decimal? isNegative rest

-- --------------------------------------------------------------------
-- Values
-- --------------------------------------------------------------------

/-- A double as data, which has no infinities. -/
def ofDouble (x : Binary64) : Json := if x.isFinite then .number (.double x) else .null

/-- The value of a plain scalar. An integer that is too large has none. -/
def value? (s : String) : Option Json :=
  if s.isEmpty || isNull s then some .null
  else
    match bool? s with
    | some b => some (.bool b)
    | none =>
      match int? s.toList with
      | some n => n.map .number
      | none =>
        let unsigned := match s.toList with
          | '-' :: rest | '+' :: rest => rest
          | cs => cs
        match if isPadded unsigned then none else double? s.toList with
        | some x => some (ofDouble x)
        | none => some (.string s)

end PageRecords.Yaml.Plain
