import PageRecords.Unicode.Code
import PageRecords.Yaml.Source

/-!
# Reading scalars

A plain or quoted scalar folds the line ends inside it; a block scalar keeps its lines,
or folds them too. Each reader gives the text and the characters that remain, or
nothing if the scalar is malformed.
-/

namespace PageRecords.Yaml

open Unicode (hexValue? charOfCode?)

-- --------------------------------------------------------------------
-- Gaps
-- --------------------------------------------------------------------

/-- The space between two words of a scalar, each part with its latest first. -/
structure Gap where
  blanks : List Char
  /-- The first line end; an escaped one has no text. -/
  break_ : Option (List Char)
  breaks : List Char
deriving DecidableEq, Repr

namespace Gap

def none : Gap := ⟨[], .none, []⟩

def isNone (g : Gap) : Bool := g.blanks.isEmpty && g.break_.isNone

/-- A gap with one more character. Once a line has ended, blanks do not count. -/
def add (g : Gap) (c : Char) : Gap :=
  match g.break_ with
  | some _ => if isBreak c then { g with breaks := c :: g.breaks } else g
  | .none => if isBreak c then ⟨[], some [c], []⟩ else { g with blanks := c :: g.blanks }

/-- What the gap stands for: a line end is a space, unless others follow it. -/
def text (g : Gap) : List Char :=
  match g.break_ with
  | .none => g.blanks.reverse
  | some ['\n'] => if g.breaks.isEmpty then [' '] else g.breaks.reverse
  | some cs => cs ++ g.breaks.reverse

end Gap

/-- The text before with a gap behind it, the latest first. -/
def joinGap (before : List Char) (g : Gap) : List Char := g.text.reverse ++ before

-- --------------------------------------------------------------------
-- Plain
-- --------------------------------------------------------------------

structure Plain where
  text : String
  /-- The scalar is followed by a line end. -/
  endsLine : Bool
  rest : Source

def isFlowMark (c : Char) : Bool := ",[]\x7b\x7d".toList.contains c

/-- The plain scalar that goes on here: `before` is its text so far, the latest first.
In a block, lines after the first are indented. -/
def plainFrom (inFlow : Bool) (indent : Nat) (before : List Char) (gap : Gap) :
    Source → Option Plain
  | [] => some ⟨String.ofList before.reverse, gap.break_.isSome, []⟩
  | p :: rest =>
    let done := some ⟨String.ofList before.reverse, gap.break_.isSome, p :: rest⟩
    if isSpace p.char then
      if p.char = '\t' && gap.break_.isSome && p.column < indent then none
      else plainFrom inFlow indent before (gap.add p.char) rest
    else if !gap.isNone &&
        ((!inFlow && p.column < indent) || isMarker (p :: rest) || p.char = '#') then done
    else if inFlow && p.char = ':' && rest.head?.any (fun q => isFlowMark q.char || q.char = '?') then
      none
    else if (p.char = ':' && endsWord rest) || (inFlow && isFlowMark p.char) then done
    else plainFrom inFlow indent (p.char :: joinGap before gap) .none rest

def plain? (inFlow : Bool) (indent : Nat) (s : Source) : Option Plain :=
  plainFrom inFlow indent [] .none s

-- --------------------------------------------------------------------
-- Quoted
-- --------------------------------------------------------------------

/-- The character that a code of so many hex digits stands for. -/
def code? (length : Nat) (s : Source) : Option Char := do
  let digits ← (s.take length).mapM fun p => hexValue? p.char
  if digits.length = length then charOfCode? (digits.foldl (fun n d => n * 16 + d) 0) else none

/-- What stands behind a backslash: the character meant, and how many spell it. -/
def escape? : Source → Option (Char × Nat)
  | [] => none
  | p :: rest =>
    match p.char with
    | '0' => some ('\x00', 1)
    | 'a' => some ('\x07', 1)
    | 'b' => some ('\x08', 1)
    | 't' | '\t' => some ('\t', 1)
    | 'n' => some ('\n', 1)
    | 'v' => some ('\x0b', 1)
    | 'f' => some ('\x0c', 1)
    | 'r' => some ('\r', 1)
    | 'e' => some ('\x1b', 1)
    | ' ' => some (' ', 1)
    | '"' => some ('"', 1)
    | '/' => some ('/', 1)
    | '\\' => some ('\\', 1)
    | 'N' => some ('\x85', 1)
    | '_' => some ('\xa0', 1)
    | 'L' => some ('\u2028', 1)
    | 'P' => some ('\u2029', 1)
    | 'x' => (code? 2 rest).map (·, 3)
    | 'u' => (code? 4 rest).map (·, 5)
    | 'U' => (code? 8 rest).map (·, 9)
    | _ => none

/-- The quoted scalar that goes on here, with as many characters to skip as the last
one was spelled with. A single quote is written twice; after a double one, a backslash
escapes. -/
def quotedFrom (quote : Char) (skip : Nat) (before : List Char) (gap : Gap) :
    Source → Option (String × Source)
  | [] => none
  | p :: rest =>
    match skip with
    | n + 1 => quotedFrom quote n before gap rest
    | 0 =>
      let joined := joinGap before gap
      if isSpace p.char then quotedFrom quote 0 before (gap.add p.char) rest
      else if isMarker (p :: rest) then none
      else if p.char = quote then
        if quote = '\'' && stands '\'' rest then quotedFrom quote 1 ('\'' :: joined) .none rest
        else some (String.ofList joined.reverse, rest)
      else if quote = '"' && p.char = '\\' then
        if rest.head?.any (isBreak ·.char) then quotedFrom quote 1 joined ⟨[], some [], []⟩ rest
        else
          match escape? rest with
          | some (c, length) => quotedFrom quote length (c :: joined) .none rest
          | none => none
      else quotedFrom quote 0 (p.char :: joined) .none rest

/-- The quoted scalar whose first quote is read. -/
def quoted? (quote : Char) (s : Source) : Option (String × Source) :=
  quotedFrom quote 0 [] .none s

-- --------------------------------------------------------------------
-- Blocks
-- --------------------------------------------------------------------

/-- What becomes of the line ends at the end of a block. -/
inductive Chomping where
  | strip
  | clip
  | keep
deriving DecidableEq, Repr

structure BlockHeader where
  chomping : Chomping
  /-- How much deeper the block is indented; where it is not said, its lines show it. -/
  increment : Option Nat

def chomping? : Source → Option (Chomping × Source)
  | p :: rest =>
    if p.char = '+' then some (.keep, rest) else if p.char = '-' then some (.strip, rest) else none
  | [] => none

/-- A digit that stands here. Zero is none that a header may have. -/
def increment? : Source → Option (Option Nat × Source)
  | p :: rest =>
    if p.char = '0' then none
    else if p.char.isDigit then some (some (p.char.toNat - '0'.toNat), rest)
    else some (none, p :: rest)
  | [] => some (none, [])

/-- The header of a block, and what follows its line. -/
def blockHeader? (s : Source) : Option (BlockHeader × Source) := do
  let (header, s) ← match chomping? s with
    | some (c, s) => do
      let (i, s) ← increment? s
      some (BlockHeader.mk c i, s)
    | none => do
      let (i, s) ← increment? s
      match i, chomping? s with
      | some _, some (c, s) => some (BlockHeader.mk c i, s)
      | _, _ => some (BlockHeader.mk .clip i, s)
  let s := s.dropWhile (isBlank ·.char)
  let s := if stands '#' s then s.dropWhile (!isBreak ·.char) else s
  match s with
  | [] => some (header, [])
  | p :: rest => if isBreak p.char then some (header, rest) else none

/-- The empty lines here, the latest first, and the depth of the deepest. With no
indentation yet, all blanks before a line's text count for it. -/
def emptyLines (indent : Nat) (deepest : Nat) (breaks : List Char) :
    Source → Option (Nat × List Char × Source)
  | [] => some (deepest, breaks, [])
  | p :: rest =>
    let outside := indent = 0 || p.column < indent
    if outside && p.char = ' ' then emptyLines indent deepest breaks rest
    else
      let deepest := max deepest p.column
      if outside && p.char = '\t' then none
      else if isBreak p.char then emptyLines indent deepest (p.char :: breaks) rest
      else some (deepest, breaks, p :: rest)

/-- A block as far as it is read, texts with the latest first. -/
structure Block where
  text : List Char
  /-- The end of the last line of text. -/
  break_ : Option Char
  /-- The empty lines after it. -/
  breaks : List Char
  /-- The last line of text starts with a blank. -/
  blankStart : Bool

/-- Starts a line of text. Folding joins it to the one before by a space, if neither
starts with a blank and no empty line is between. -/
def Block.startLine (folds : Bool) (b : Block) (c : Char) : Block :=
  let text :=
    if folds && b.break_ = some '\n' && !b.blankStart && !isBlank c then
      if b.breaks.isEmpty then ' ' :: b.text else b.breaks ++ b.text
    else b.breaks ++ b.break_.toList ++ b.text
  ⟨c :: text, none, [], isBlank c⟩

def Block.result (b : Block) : Chomping → String
  | .strip => String.ofList b.text.reverse
  | .clip => String.ofList (b.break_.toList ++ b.text).reverse
  | .keep => String.ofList (b.breaks ++ b.break_.toList ++ b.text).reverse

/-- The lines of a block, which goes on as long as lines are indented so far. -/
def blockLines (folds : Bool) (indent : Nat) (inLine : Bool) (b : Block) :
    Source → Option (Block × Source)
  | [] => some (b, [])
  | p :: rest =>
    if inLine then
      if isBreak p.char then blockLines folds indent false { b with break_ := some p.char } rest
      else blockLines folds indent true { b with text := p.char :: b.text } rest
    else if p.column < indent && p.char = ' ' then blockLines folds indent false b rest
    else if p.column < indent && p.char = '\t' then none
    else if isBreak p.char then
      blockLines folds indent false { b with breaks := p.char :: b.breaks } rest
    else if p.column = indent then blockLines folds indent true (b.startLine folds p.char) rest
    else some (b, p :: rest)

/-- The block scalar whose indicator is read; `outer` is the indentation around it. -/
def block? (folds : Bool) (outer : Int) (s : Source) : Option (String × Source) := do
  let (header, s) ← blockHeader? s
  let said := match header.increment with
    | some n => (max outer 0).toNat + n
    | none => 0
  let (deepest, breaks, s) ← emptyLines said 0 [] s
  let indent := if said = 0 then max deepest (max (outer + 1).toNat 1) else said
  let (b, rest) ← blockLines folds indent false ⟨[], none, breaks, false⟩ s
  return (b.result header.chomping, rest)

end PageRecords.Yaml
