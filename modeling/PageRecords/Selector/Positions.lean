import PageRecords.Selector.Basic

/-!
# Positions among siblings

The notation `2n + 1`. How it falls into tokens depends on where blanks stand:
`n-1` is one name, and so is the unit of `2n-1`.
-/

namespace PageRecords.Selector

def dropBlanks (ts : List Token) : List Token := ts.dropWhile (· = .blank)

namespace Positions

/-- The whole number, without sign, that completes an offset. -/
def unsigned? (step sign : Int) (ts : List Token) : Option (Positions × List Token) :=
  match dropBlanks ts with
  | .number false (some b) :: rest => some (⟨step, sign * b⟩, rest)
  | _ => none

/-- The offset after the `n`, zero if there is none. -/
def offset? (step : Int) (ts : List Token) : Option (Positions × List Token) :=
  match dropBlanks ts with
  | .delim '+' :: rest => unsigned? step 1 rest
  | .delim '-' :: rest => unsigned? step (-1) rest
  | .number true (some b) :: rest => some (⟨step, b⟩, rest)
  | _ => some (⟨step, 0⟩, ts)

/-- The offset in a name such as `n-12`. -/
def attachedOffset? (name : List Char) : Option Int :=
  match name with
  | n :: '-' :: digits =>
    if n.toLower = 'n' && !digits.isEmpty && digits.all Char.isDigit then
      some (clamp (-(digitsValue digits : Int)))
    else none
  | _ => none

/-- What a name that starts with the `n` goes on to. -/
def named? (step : Int) (name : String) (rest : List Token) : Option (Positions × List Token) :=
  if name.toLower = "n" then offset? step rest
  else if name.toLower = "n-" then unsigned? step (-1) rest
  else (attachedOffset? name.toList).map fun b => (⟨step, b⟩, rest)

def read? (ts : List Token) : Option (Positions × List Token) :=
  match dropBlanks ts with
  | .number _ (some b) :: rest => some (⟨0, b⟩, rest)
  | .dimension (some a) unit :: rest => named? a unit rest
  | .ident v :: rest =>
    if v.toLower = "even" then some (⟨2, 0⟩, rest)
    else if v.toLower = "odd" then some (⟨2, 1⟩, rest)
    else
      match v.toList with
      | '-' :: more => named? (-1) (String.ofList more) rest
      | _ => named? 1 v rest
  | .delim '+' :: .ident v :: rest => named? 1 v rest
  | _ => none

/-- Indices are counted in thirty-two bits. -/
def largest : Int := 2147483647

/-- Whether an index from one on is among the positions. -/
def contains (p : Positions) (index : Nat) : Bool :=
  let distance := index - p.offset
  if distance > largest then false
  else if p.step = 0 then distance = 0
  else distance.tdiv p.step ≥ 0 && p.step * distance.tdiv p.step = distance

end Positions

end PageRecords.Selector
