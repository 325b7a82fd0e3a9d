/-!
# Doubles by their bits

A double is kept as its sixty-four bits, so that reading a decimal, writing the
fewest digits that read back and comparing with zero are exact arithmetic on
natural numbers.
-/

namespace PageRecords.Decimal

/-- A number of the IEEE 754 binary64 format. -/
structure Binary64 where
  bits : UInt64
deriving DecidableEq, Repr, Inhabited

namespace Binary64

def ofSign (negative : Bool) : UInt64 :=
  if negative then 0x8000000000000000 else 0

def isNegative (x : Binary64) : Bool :=
  x.bits >>> 63 != 0

/-- The biased exponent field. -/
def exponentField (x : Binary64) : Nat :=
  ((x.bits >>> 52) &&& 0x7ff).toNat

/-- The fraction field, without the hidden bit. -/
def fractionField (x : Binary64) : Nat :=
  (x.bits &&& 0xfffffffffffff).toNat

/-- Both zeros count. -/
def isZero (x : Binary64) : Bool :=
  x.bits <<< 1 == 0

def isFinite (x : Binary64) : Bool :=
  x.exponentField != 0x7ff

def zero (negative : Bool) : Binary64 :=
  ⟨ofSign negative⟩

def infinity (negative : Bool) : Binary64 :=
  ⟨ofSign negative ||| 0x7ff0000000000000⟩

def nan : Binary64 :=
  ⟨0x7ff8000000000000⟩

-- --------------------------------------------------------------------
-- Rounding a ratio
-- --------------------------------------------------------------------

/-- The quotient rounded to the nearest integer, a tie to the even one. -/
def roundDiv (num den : Nat) : Nat :=
  let q := num / den
  let r := num % den
  if 2 * r < den then q
  else if den < 2 * r then q + 1
  else q + q % 2

/-- The double nearest to `num / den`, a tie to the even significand and a
value past the largest double to infinity. `den` is positive. -/
def ofRatio (negative : Bool) (num den : Nat) : Binary64 :=
  if num = 0 then zero negative
  else
    -- The binary exponent of the ratio, one too large at most.
    let guess : Int := (num.log2 : Int) - (den.log2 : Int)
    let small : Bool :=
      match guess with
      | .ofNat g => num < den * Nat.pow 2 g
      | .negSucc g => num * Nat.pow 2 (g + 1) < den
    let top : Int := if small then guess - 1 else guess
    -- The weight of the last bit: fifty-two below the top, never under -1074.
    let last : Int := max (top - 52) (-1074)
    let m : Nat :=
      match last with
      | .ofNat l => roundDiv num (den * Nat.pow 2 l)
      | .negSucc l => roundDiv (num * Nat.pow 2 (l + 1)) den
    -- Rounding up to the next power of two carries into the exponent field.
    let field : Nat := (last + 1074).toNat
    let packed : Nat := field * Nat.pow 2 52 + m
    if 0x7ff0000000000000 ≤ packed then infinity negative
    else ⟨ofSign negative ||| packed.toUInt64⟩

/-- The double nearest to `digits * 10 ^ exponent`. An exponent that no double
of that many digits can reach gives zero or infinity at once. -/
def ofDecimal (negative : Bool) (digits : Nat) (exponent : Int) : Binary64 :=
  let size : Int := digits.log2
  if digits = 0 then zero negative
  else if exponent > 400 then infinity negative
  else if exponent < -(800 + size) then zero negative
  else
    match exponent with
    | .ofNat e => ofRatio negative (digits * Nat.pow 10 e) 1
    | .negSucc e => ofRatio negative digits (Nat.pow 10 (e + 1))

-- --------------------------------------------------------------------
-- The fewest digits that read back
-- --------------------------------------------------------------------

/-- A positive finite double over a common denominator: its value, and the ends
of the interval of numbers that round to it, which belong to it iff the
significand is even. -/
structure Interval where
  value : Nat
  low : Nat
  high : Nat
  den : Nat
  closed : Bool

def interval (x : Binary64) : Interval :=
  let e := x.exponentField
  let f := x.fractionField
  let m : Nat := if e = 0 then f else f + Nat.pow 2 52
  -- The weight of the last bit, less 1074.
  let shift : Nat := if e = 0 then 0 else e - 1
  let closed := m % 2 = 0
  -- Below a power of two the neighbours stand closer together.
  let below : Nat := if f = 0 ∧ 1 < e then 1 else 2
  let unit : Nat := Nat.pow 2 shift
  { value := 4 * m * unit, low := (4 * m - below) * unit, high := (4 * m + 2) * unit,
    den := Nat.pow 2 1076, closed := closed }

def Interval.contains (i : Interval) (num den : Nat) : Bool :=
  let x := num * i.den
  if i.closed then decide (i.low * den ≤ x ∧ x ≤ i.high * den)
  else decide (i.low * den < x ∧ x < i.high * den)

/-- A decimal `digits * 10 ^ exponent`. -/
structure Scientific where
  digits : Nat
  exponent : Int
deriving DecidableEq, Repr

/-- The ratio `digits * 10 ^ exponent` as numerator and denominator. -/
def Scientific.ratio (s : Scientific) : Nat × Nat :=
  match s.exponent with
  | .ofNat e => (s.digits * Nat.pow 10 e, 1)
  | .negSucc e => (s.digits, Nat.pow 10 (e + 1))

/-- The multiple of `10 ^ exponent` in the interval nearest to its value, if one
of the value's two neighbours on that grid lies in it. -/
def Interval.onGrid? (i : Interval) (exponent : Int) : Option Scientific :=
  let floor : Nat :=
    match exponent with
    | .ofNat e => i.value / (i.den * Nat.pow 10 e)
    | .negSucc e => i.value * Nat.pow 10 (e + 1) / i.den
  let lower : Scientific := ⟨floor, exponent⟩
  let upper : Scientific := ⟨floor + 1, exponent⟩
  let (ln, ld) := lower.ratio
  let (un, ud) := upper.ratio
  let hasLower := 0 < floor && i.contains ln ld
  let hasUpper := i.contains un ud
  if hasLower && hasUpper then
    -- value - lower against upper - value
    let toLower := (i.value * ld - ln * i.den) * ud
    let toUpper := (un * i.den - i.value * ud) * ld
    if toLower < toUpper then some lower
    else if toUpper < toLower then some upper
    else if floor % 2 = 0 then some lower else some upper
  else if hasLower then some lower
  else if hasUpper then some upper
  else none

/-- The exponent of ten of the leading digit, counting down from a bound. -/
def leadingExponent (value den : Nat) : Nat → Int → Int
  | 0, e => e
  | fuel + 1, e =>
    let big : Bool :=
      match e with
      | .ofNat k => den * Nat.pow 10 k ≤ value
      | .negSucc k => den ≤ value * Nat.pow 10 (k + 1)
    if big then e else leadingExponent value den fuel (e - 1)

/-- Tries one digit more while there is fuel. Seventeen digits always read back. -/
def Interval.shortestFrom (i : Interval) (lead : Int) : Nat → Nat → Scientific
  | 0, n => ⟨i.value * Nat.pow 10 n / i.den, -(n : Int)⟩
  | fuel + 1, n =>
    match i.onGrid? (lead - n) with
    | some s => s
    | none => i.shortestFrom lead fuel (n + 1)

/-- The shortest decimal that reads back as the positive finite double `x`, and
of those the nearest. -/
def shortest (x : Binary64) : Scientific :=
  let i := x.interval
  -- Doubles lie between 10 ^ -324 and 10 ^ 309; log 2 is a little over 0.301.
  let estimate : Int := ((i.value.log2 : Int) - 1076) * 302 / 1000 + 2
  let lead := leadingExponent i.value i.den 40 estimate
  i.shortestFrom lead 17 0

-- --------------------------------------------------------------------
-- Text
-- --------------------------------------------------------------------

/-- The decimal digits without trailing zeros, and the exponent of ten of the
first one. -/
def Scientific.normal (s : Scientific) : List Char × Int :=
  let ds := Nat.toDigits 10 s.digits
  let kept := (ds.reverse.dropWhile (· = '0')).reverse
  (kept, s.exponent + (ds.length : Int) - 1)

/-- Positional from `1e-5` up to `1e16`, always with a point; otherwise with an
exponent that carries its sign. -/
def writeDigits (digits : List Char) (lead : Int) : String :=
  let n : Int := digits.length
  if lead < -5 ∨ 16 ≤ lead then
    let mantissa := match digits with
      | [] => "0"
      | [d] => String.ofList [d]
      | d :: rest => String.ofList (d :: '.' :: rest)
    let sign := if lead < 0 then "-" else "+"
    mantissa ++ "e" ++ sign ++ toString lead.natAbs
  else if lead < 0 then
    "0." ++ String.ofList (List.replicate (-lead - 1).toNat '0' ++ digits)
  else if n ≤ lead + 1 then
    String.ofList (digits ++ List.replicate (lead + 1 - n).toNat '0') ++ ".0"
  else
    String.ofList (digits.take (lead + 1).toNat ++ '.' :: digits.drop (lead + 1).toNat)

/-- The text of a finite double. -/
def text (x : Binary64) : String :=
  let sign := if x.isNegative then "-" else ""
  if x.isZero then sign ++ "0.0"
  else
    let (digits, lead) := x.shortest.normal
    sign ++ writeDigits digits lead

end Binary64

end PageRecords.Decimal
