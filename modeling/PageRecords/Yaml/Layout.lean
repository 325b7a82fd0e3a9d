import PageRecords.Yaml.Scalar
import PageRecords.Yaml.Token

/-!
# The layout of a document

Its tokens in order. What may be a key shows only by the colon behind it; until then it
is kept in mind where it started, and its token is put in there. Indentation starts and
ends block collections.
-/

namespace PageRecords.Yaml

/-- A place where a key may start. -/
structure KeyStart where
  /-- How many tokens stand before it. -/
  number : Nat
  place : Placed
  /-- It stands where nothing but a key can stand. -/
  isRequired : Bool

structure Layout where
  /-- The tokens so far, the latest first. -/
  tokens : List Token
  count : Nat
  /-- The column of the innermost block collection. -/
  indent : Int
  /-- The columns of those around it. -/
  indents : List Int
  keyAllowed : Bool
  keyStart : Option KeyStart
  /-- The starts of keys outside the flow collections that are open. -/
  outer : List (Option KeyStart)

namespace Layout

def start : Layout := ⟨[], 0, -1, [], true, none, []⟩

def inFlow (l : Layout) : Bool := !l.outer.isEmpty

def push (l : Layout) (t : Token) : Layout :=
  { l with tokens := t :: l.tokens, count := l.count + 1 }

/-- Puts a token behind the first so many. -/
def insert (l : Layout) (number : Nat) (t : Token) : Layout :=
  let behind := l.count - number
  { l with tokens := l.tokens.take behind ++ t :: l.tokens.drop behind, count := l.count + 1 }

-- --------------------------------------------------------------------
-- Keys
-- --------------------------------------------------------------------

/-- A key cannot start where one was expected, if one has to. -/
def giveUp (k : Option KeyStart) : Option (Option KeyStart) :=
  if k.any (·.isRequired) then none else some none

def dropKey (l : Layout) : Option Layout := do return { l with keyStart := ← giveUp l.keyStart }

/-- A key ends on its line, and is not longer than 1024 characters. -/
def giveUpFar (s : Source) (k : Option KeyStart) : Option (Option KeyStart) :=
  match k, s with
  | some start, p :: _ =>
    if start.place.line < p.line || start.place.index + 1024 < p.index then giveUp k else some k
  | some _, [] => giveUp k
  | none, _ => some none

def dropFarKeys (l : Layout) (s : Source) : Option Layout := do
  return { l with keyStart := ← giveUpFar s l.keyStart, outer := ← l.outer.mapM (giveUpFar s) }

/-- Keeps in mind that a key may start here. -/
def mayStartKey (l : Layout) (p : Placed) : Option Layout :=
  if l.keyAllowed then do
    let l ← l.dropKey
    return { l with keyStart := some ⟨l.count, p, !l.inFlow && l.indent = p.column⟩ }
  else some l

-- --------------------------------------------------------------------
-- Indentation
-- --------------------------------------------------------------------

/-- Starts a block collection behind the first so many tokens, if the column is deeper
than the one around it. -/
def deepen (l : Layout) (column : Nat) (number : Nat) (t : Token) : Layout :=
  if !l.inFlow && l.indent < column then
    { l.insert number t with indent := column, indents := l.indent :: l.indents }
  else l

/-- Ends the block collections deeper than a column. -/
def endDeeper (column : Int) (l : Layout) : List Int → Layout
  | [] => { l with indents := [] }
  | i :: rest =>
    if l.indent > column then endDeeper column { l.push .blockEnd with indent := i } rest
    else { l with indents := i :: rest }

def unindent (l : Layout) (column : Int) : Layout :=
  if l.inFlow then l else endDeeper column l l.indents

-- --------------------------------------------------------------------
-- Spaces
-- --------------------------------------------------------------------

/-- Goes past spaces and comments; a new line of a block may start a key. A tab is no
space where indentation counts. -/
def skipFrom (l : Layout) (inComment : Bool) : Source → Layout × Source
  | [] => (l, [])
  | p :: rest =>
    if isBreak p.char then
      skipFrom { l with keyAllowed := l.keyAllowed || !l.inFlow } false rest
    else if inComment || p.char = ' ' || (p.char = '\ufeff' && p.column = 0) ||
        (p.char = '\t' && (l.inFlow || !l.keyAllowed)) then
      skipFrom l inComment rest
    else if p.char = '#' then skipFrom l true rest
    else (l, p :: rest)

-- --------------------------------------------------------------------
-- Tokens
-- --------------------------------------------------------------------

/-- What ends all blocks: a directive or the mark of a document. -/
def atMargin (l : Layout) : Option Layout := do
  let l ← (l.unindent (-1)).dropKey
  return { l with keyAllowed := false }

def openFlow (l : Layout) (p : Placed) (t : Token) : Option Layout := do
  let l ← l.mayStartKey p
  return { l.push t with keyStart := none, outer := l.keyStart :: l.outer, keyAllowed := true }

def closeFlow (l : Layout) (t : Token) : Option Layout := do
  let l ← l.dropKey
  let l := { l.push t with keyAllowed := false }
  match l.outer with
  | k :: rest => return { l with keyStart := k, outer := rest }
  | [] => return l

def comma (l : Layout) : Option Layout := do
  let l ← l.dropKey
  return { l.push .comma with keyAllowed := true }

def entry (l : Layout) (p : Placed) : Option Layout :=
  if !l.inFlow && !l.keyAllowed then none
  else do
    let l ← (l.deepen p.column l.count .blockSequence).dropKey
    return { l.push .entry with keyAllowed := true }

def markedKey (l : Layout) (p : Placed) : Option Layout :=
  if !l.inFlow && !l.keyAllowed then none
  else do
    let l ← (l.deepen p.column l.count .blockMapping).dropKey
    return { l.push .key with keyAllowed := !l.inFlow }

def value (l : Layout) (p : Placed) : Option Layout :=
  match l.keyStart with
  | some k =>
    let l := (l.insert k.number .key).deepen k.place.column k.number .blockMapping
    some { l.push .value with keyStart := none, keyAllowed := false }
  | none =>
    if !l.inFlow && !l.keyAllowed then none
    else
      let l := l.deepen p.column l.count .blockMapping
      some { l.push .value with keyAllowed := !l.inFlow }

/-- A token that may be a key or the start of one. -/
def content (l : Layout) (p : Placed) (t : Option (Token × Source)) : Option (Layout × Source) := do
  let l ← l.mayStartKey p
  let (t, rest) ← t
  return ({ l.push t with keyAllowed := false }, rest)

def blockScalar (l : Layout) (folds : Bool) (rest : Source) : Option (Layout × Source) := do
  let l ← l.dropKey
  let (text, rest) ← block? folds l.indent rest
  return ({ l.push (.scalar false text) with keyAllowed := true }, rest)

def quotedScalar (l : Layout) (p : Placed) (rest : Source) : Option (Layout × Source) :=
  l.content p ((quoted? p.char rest).map fun (text, rest) => (.scalar false text, rest))

def plainScalar (l : Layout) (p : Placed) (s : Source) : Option (Layout × Source) := do
  let l ← l.mayStartKey p
  let scalar ← plain? l.inFlow (l.indent + 1).toNat s
  return ({ l.push (.scalar true scalar.text) with keyAllowed := scalar.endsLine }, scalar.rest)

/-- Whether a plain scalar starts here. -/
def startsPlain (inFlow : Bool) (c : Char) (rest : Source) : Bool :=
  if c = '-' then !rest.head?.any (isBlank ·.char)
  else if c = '?' || c = ':' then !inFlow && !endsWord rest
  else !"-?:,[]\x7b\x7d#&*!|>'\"%@`".toList.contains c && !isBlank c

/-- Reads the token that starts here. -/
def next (l : Layout) (p : Placed) (rest : Source) : Option (Layout × Source) :=
  let s := p :: rest
  let isIndicator (c : Char) : Bool := p.char = c && (l.inFlow || endsWord rest)
  if p.column = 0 && p.char = '%' then do
    let l ← l.atMargin
    let (t, rest) ← directive? rest
    return (l.push t, rest)
  else if isMarker s then do
    let l ← l.atMargin
    return (l.push (if p.char = '-' then .documentStart else .documentEnd), s.drop 3)
  else if p.char = '[' then (l.openFlow p .flowSequence).map (·, rest)
  else if p.char = '{' then (l.openFlow p .flowMapping).map (·, rest)
  else if p.char = ']' then (l.closeFlow .flowSequenceEnd).map (·, rest)
  else if p.char = '}' then (l.closeFlow .flowMappingEnd).map (·, rest)
  else if p.char = ',' then l.comma.map (·, rest)
  else if p.char = '-' && endsWord rest then (l.entry p).map (·, rest)
  else if isIndicator '?' then (l.markedKey p).map (·, rest)
  else if isIndicator ':' then (l.value p).map (·, rest)
  else if p.char = '*' then
    l.content p ((anchorName? rest).map fun (name, rest) => (.reference name, rest))
  else if p.char = '&' then
    l.content p ((anchorName? rest).map fun (name, rest) => (.anchor name, rest))
  else if p.char = '!' then l.content p (tag? l.inFlow rest)
  else if p.char = '|' && !l.inFlow then l.blockScalar false rest
  else if p.char = '>' && !l.inFlow then l.blockScalar true rest
  else if p.char = '\'' || p.char = '"' then l.quotedScalar p rest
  else if startsPlain l.inFlow p.char rest then l.plainScalar p s
  else none

/-- Reads tokens up to the end. Every token takes a character, so the fuel of the
characters is enough. -/
def readFrom : Nat → Layout → Source → Option (List Token)
  | 0, _, _ => none
  | fuel + 1, l, s => do
    let (l, s) := l.skipFrom false s
    let l ← l.dropFarKeys s
    match s with
    | [] => return ((l.unindent (-1)).tokens).reverse
    | p :: rest =>
      let (l, rest) ← (l.unindent p.column).next p rest
      readFrom fuel l rest

end Layout

/-- The tokens of a text. -/
def tokens? (text : String) : Option (List Token) := do
  let s ← source? text
  Layout.readFrom (s.length + 1) .start s

end PageRecords.Yaml
