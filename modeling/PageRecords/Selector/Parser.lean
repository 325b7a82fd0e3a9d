import PageRecords.Selector.Positions

/-!
# Reading selectors

Each reader takes the tokens from where its part starts and gives what it read
with the tokens that remain, or nothing if the selector is malformed there. An end
of the text closes what is open.
-/

namespace PageRecords.Selector

/-- The tokens after the closing one. -/
def closed? (closing : Token) (ts : List Token) : Option (List Token) :=
  match dropBlanks ts with
  | [] => some []
  | t :: rest => if t = closing then some rest else none

-- --------------------------------------------------------------------
-- Names
-- --------------------------------------------------------------------

/-- The tests of a name or an asterisk, or none if neither stands here. No prefix
is known, so a named vocabulary is an error. -/
def typeTests? : List Token → Option (List Test × List Token)
  | .ident _ :: .delim '|' :: _ => none
  | .ident n :: rest => some ([.name n], rest)
  | .delim '*' :: .delim '|' :: .delim '*' :: rest => some ([.any], rest)
  | .delim '*' :: .delim '|' :: .ident n :: rest => some ([.name n], rest)
  | .delim '*' :: .delim '|' :: _ => none
  | .delim '*' :: rest => some ([.any], rest)
  | .delim '|' :: .delim '*' :: rest => some ([.spaceless, .any], rest)
  | .delim '|' :: .ident n :: rest => some ([.spaceless, .name n], rest)
  | .delim '|' :: _ => none
  | rest => some ([], rest)

-- --------------------------------------------------------------------
-- Attributes
-- --------------------------------------------------------------------

/-- Attributes of HTML whose values are compared without regard to case. -/
def caselessAttributes : List String :=
  ["accept", "accept-charset", "align", "alink", "axis", "bgcolor", "charset", "checked", "clear",
   "codetype", "color", "compact", "declare", "defer", "dir", "direction", "disabled", "enctype",
   "face", "frame", "hreflang", "http-equiv", "lang", "language", "link", "media", "method",
   "multiple", "nohref", "noresize", "noshade", "nowrap", "readonly", "rel", "rev", "rules",
   "scope", "scrolling", "selected", "shape", "target", "text", "type", "valign", "valuetype",
   "vlink"]

/-- The name of an attribute, and whether every vocabulary will do. -/
def attributeName? : List Token → Option (Bool × String × List Token)
  | .ident _ :: .delim '|' :: _ => none
  | .ident n :: rest => some (false, n, rest)
  | .delim '*' :: .delim '|' :: .ident n :: rest => some (true, n, rest)
  | .delim '|' :: .ident n :: rest => some (false, n, rest)
  | _ => none

/-- The letter that says how case counts, and the closing bracket. -/
def letterCase? (default : LetterCase) (ts : List Token) : Option (LetterCase × List Token) :=
  match dropBlanks ts with
  | .ident flag :: rest =>
    if flag.toLower = "i" then (closed? .closeBracket rest).map (.ignored, ·)
    else if flag.toLower = "s" then (closed? .closeBracket rest).map (.kept, ·)
    else none
  | ts => (closed? .closeBracket ts).map (default, ·)

/-- The inside of brackets and the closing one. -/
def attribute? (ts : List Token) : Option (AttributeTest × List Token) := do
  let (anySpace, name, ts) ← attributeName? (dropBlanks ts)
  match dropBlanks ts with
  | .operator op :: rest =>
    let (value, rest) ← match dropBlanks rest with
      | .ident v :: rest | .string v :: rest => some (v, rest)
      | _ => none
    let default :=
      if !anySpace && caselessAttributes.contains name.toLower then .ignoredInHtml else .kept
    let (letterCase, rest) ← letterCase? default rest
    return (⟨anySpace, name, some ⟨op, value, letterCase⟩⟩, rest)
  | ts =>
    let rest ← closed? .closeBracket ts
    return (⟨anySpace, name, none⟩, rest)

-- --------------------------------------------------------------------
-- Conditions
-- --------------------------------------------------------------------

def first (fromEnd sameName : Bool) : Test := .position ⟨0, 1⟩ fromEnd sameName

/-- States that a page at rest does not have. -/
def stateNames : List String :=
  ["visited", "active", "focus", "hover", "enabled", "disabled", "checked", "indeterminate"]

def pseudoClass? (name : String) : Option Test :=
  match name.toLower with
  | "first-child" => some (first false false)
  | "last-child" => some (first true false)
  | "only-child" => some (.only false)
  | "first-of-type" => some (first false true)
  | "last-of-type" => some (first true true)
  | "only-of-type" => some (.only true)
  | "root" | "scope" => some .root
  | "empty" => some .empty
  | "link" | "any-link" => some .link
  | n => if stateNames.contains n then some .never else none

/-- Which siblings the function counts, and from which end. -/
def countingFunction? (name : String) : Option (Bool × Bool) :=
  match name.toLower with
  | "nth-child" => some (false, false)
  | "nth-last-child" => some (true, false)
  | "nth-of-type" => some (false, true)
  | "nth-last-of-type" => some (true, true)
  | _ => none

/-- A single test other than a name, or nothing read if none starts here. -/
def test? : List Token → Option (Option Test × List Token)
  | .hash id :: rest => some (some (.id id), rest)
  | .delim '.' :: .ident name :: rest => some (some (.inClass name), rest)
  | .delim '.' :: _ => none
  | .openBracket :: rest => (attribute? rest).map fun (t, rest) => (some (.attr t), rest)
  | .colon :: .ident name :: rest => (pseudoClass? name).map fun t => (some t, rest)
  | .colon :: .function name :: rest => do
    let (fromEnd, sameName) ← countingFunction? name
    let (p, rest) ← Positions.read? rest
    let rest ← closed? .closeParen rest
    return (some (.position p fromEnd sameName), rest)
  | .colon :: _ => none
  | rest => some (none, rest)

/-- One name or one other test, and the closing parenthesis. -/
def negated? (ts : List Token) : Option (List Test × List Token) := do
  let (tests, rest) ← typeTests? (dropBlanks ts)
  let (tests, rest) ←
    if tests.isEmpty then
      match ← test? rest with
      | (some t, rest) => some ([t], rest)
      | (none, _) => none
    else some (tests, rest)
  let rest ← closed? .closeParen rest
  return (tests, rest)

def condition? : List Token → Option (Option Condition × List Token)
  | .colon :: .function name :: rest =>
    if name.toLower = "not" then
      (negated? rest).map fun (ts, rest) => (some (.fails ts), rest)
    else (test? (.colon :: .function name :: rest)).map fun (t, rest) => (t.map .holds, rest)
  | ts => (test? ts).map fun (t, rest) => (t.map .holds, rest)

def conditions? (fuel : Nat) (ts : List Token) : Option (List Condition × List Token) :=
  match fuel with
  | 0 => some ([], ts)
  | fuel + 1 => do
    match ← condition? ts with
    | (none, rest) => return ([], rest)
    | (some c, rest) =>
      let (cs, rest) ← conditions? fuel rest
      return (c :: cs, rest)

/-- All that is asked of one element; at least one condition. -/
def compound? (ts : List Token) : Option (List Condition × List Token) := do
  let (tests, ts) ← typeTests? (dropBlanks ts)
  let (cs, rest) ← conditions? ts.length ts
  if tests.isEmpty && cs.isEmpty then none
  else return (tests.map .holds ++ cs, rest)

-- --------------------------------------------------------------------
-- Combinations
-- --------------------------------------------------------------------

/-- The combinator here; none at the end of the alternative. -/
def combinator? (ts : List Token) : Option Combinator × List Token :=
  match dropBlanks ts with
  | .delim '>' :: rest => (some .child, rest)
  | .delim '+' :: rest => (some .nextSibling, rest)
  | .delim '~' :: rest => (some .laterSibling, rest)
  | [] => (none, [])
  | .comma :: rest => (none, .comma :: rest)
  | t :: rest =>
    if ts.head? = some .blank then (some .descendant, t :: rest) else (none, t :: rest)

/-- Adds what comes after an alternative read so far. -/
def Complex.push (c : Complex) (by_ : Combinator) (next : List Condition) : Complex :=
  ⟨next, (by_, c.last) :: c.before⟩

def complexFrom? (fuel : Nat) (c : Complex) (ts : List Token) : Option (Complex × List Token) :=
  match fuel with
  | 0 => some (c, ts)
  | fuel + 1 =>
    match combinator? ts with
    | (none, rest) => some (c, rest)
    | (some by_, rest) => do
      let (next, rest) ← compound? rest
      complexFrom? fuel (c.push by_ next) rest

def complex? (ts : List Token) : Option (Complex × List Token) := do
  let (cs, rest) ← compound? ts
  complexFrom? rest.length ⟨cs, []⟩ rest

def alternatives? (fuel : Nat) (ts : List Token) : Option (List Complex) :=
  match fuel with
  | 0 => none
  | fuel + 1 => do
    match ← complex? ts with
    | (c, []) => return [c]
    | (c, .comma :: rest) =>
      let cs ← alternatives? fuel rest
      return c :: cs
    | _ => none

end Selector

/-- The selector that a text spells. -/
def Selector.parse? (s : String) : Option Selector :=
  let ts := Selector.tokensOf s
  (Selector.alternatives? (ts.length + 1) ts).map Selector.mk

end PageRecords
