import PageRecords.Regex.Bracket

/-!
# Reading a pattern

A pattern is read from left to right. What is complete lies in the state: the
pieces of the current concatenation, the finished alternatives before it, and
the open groups around both. Main definition: `Regex.compile?`, which gives
nothing for a malformed pattern, nor for one with a Unicode property that is not
known here.
-/

namespace PageRecords.Regex

/-- A piece of a concatenation. A mode setting has no node and takes no
repetition. `depth` counts nested constructs. -/
structure Piece where
  node : Option Node
  depth : Nat
deriving Repr, Inhabited

/-- An open group: what was read before it, its number if it captures, and the
modes to return to. -/
structure Group where
  pieces : List Piece
  branches : List Piece
  index : Option Nat
  flags : Flags
deriving Repr, Inhabited

structure State where
  rest : List Char
  /-- Pieces of the current concatenation, the latest first. -/
  pieces : List Piece
  /-- Finished alternatives, the latest first. -/
  branches : List Piece
  groups : List Group
  flags : Flags
  /-- How many capturing groups were opened. -/
  captures : Nat
  names : List String
deriving Repr, Inhabited

namespace State

def start (pattern : List Char) : State :=
  { rest := pattern, pieces := [], branches := [], groups := [], flags := {}, captures := 0,
    names := [] }

def push (st : State) (node : Node) (depth : Nat) (rest : List Char) : State :=
  { st with pieces := ⟨some node, depth⟩ :: st.pieces, rest := rest }

/-- One after the other, from the left. -/
def catAll (nodes : List Node) : Node :=
  match nodes with
  | [] => .empty
  | n :: rest => rest.foldl .cat n

/-- The current concatenation as one piece. -/
def concat (pieces : List Piece) : Piece :=
  match pieces with
  | [] => ⟨some .empty, 0⟩
  | [p] => ⟨some (p.node.getD .empty), p.depth⟩
  | pieces =>
    ⟨some (catAll (pieces.reverse.filterMap (·.node))),
      (pieces.map (·.depth)).foldl max 0 + 1⟩

/-- The alternatives read so far and the current concatenation as one piece. -/
def alternation (st : State) : Piece :=
  let last := concat st.pieces
  match st.branches with
  | [] => last
  | branches =>
    let node := branches.foldl (fun acc b => Node.alt (b.node.getD .empty) acc)
      (last.node.getD .empty)
    ⟨some node, (branches.map (·.depth)).foldl max last.depth + 1⟩

end State

/-- May start or stand in the name of a group. -/
def isNameChar (first : Bool) (c : Char) : Bool :=
  c = '_' || Unicode.Class.alphabetic.contains c
    || (!first && (c = '.' || c = '[' || c = ']' || Unicode.Class.numeric.contains c))

/-- A group's name, after its opening angle bracket. -/
def groupName? (cs : List Char) : Option (String × List Char) :=
  let name := cs.takeWhile (· != '>')
  match cs.dropWhile (· != '>'), name with
  | '>' :: rest, c :: more =>
    if isNameChar true c && more.all (isNameChar false) then some (String.ofList name, rest)
    else none
  | _, _ => none

/-- Mode letters up to a colon or a closing parenthesis, which comes back with
what follows it. Letters after a hyphen are switched off. -/
def modes? (f : Flags) (off : Bool) (seen : List Char) : List Char →
    Option (Flags × List Char × Char × List Char)
  | [] => none
  | c :: rest =>
    if c = ':' ∨ c = ')' then
      if seen.head? = some '-' then none else some (f, seen, c, rest)
    else if c ∈ seen then none
    else if c = '-' then modes? f true (c :: seen) rest
    else
      match f.set? c (!off) with
      | some f => modes? f off (c :: seen) rest
      | none => none

/-- A decimal, with blanks around it. -/
def decimal? (f : Flags) (cs : List Char) : Option (Nat × List Char) :=
  let isBlank (c : Char) : Bool := Unicode.Class.space.contains c
  let cs := cs.dropWhile isBlank
  let rec digits : Nat → List Char → List Char × List Char
    | 0, cs => ([], cs)
    | fuel + 1, cs =>
      match cs with
      | c :: rest =>
        if c.isDigit then
          let (ds, rest) := digits fuel (skip f rest)
          (c :: ds, rest)
        else ([], cs)
      | [] => ([], [])
  let (ds, rest) := digits (cs.length + 1) cs
  let rest := skip f (rest.dropWhile isBlank)
  let value := ds.foldl (fun n d => n * 10 + (d.toNat - '0'.toNat)) 0
  if ds.isEmpty || Nat.pow 2 32 ≤ value then none else some (value, rest)

/-- A count in braces, after the opening one. -/
def counted? (f : Flags) (cs : List Char) : Option (Nat × Option Nat × List Char) :=
  match skip f cs with
  | [] => none
  | cs => do
    let (least, rest) ← decimal? f cs
    match rest with
    | ',' :: rest =>
      match skip f rest with
      | '}' :: rest => pure (least, none, rest)
      | rest => do
        let (most, rest) ← decimal? f rest
        match rest with
        | '}' :: rest => if least ≤ most then pure (least, some most, rest) else none
        | _ => none
    | '}' :: rest => pure (least, some least, rest)
    | _ => none

namespace State

/-- Repeats the latest piece. A question mark right after the operator makes the
repetition prefer fewer rounds. -/
def repeatLast? (st : State) (least : Nat) (most : Option Nat) (rest : List Char) :
    Option State :=
  match st.pieces with
  | ⟨some node, depth⟩ :: pieces =>
    let (lazy_, rest) := match rest with
      | '?' :: rest => (true, rest)
      | rest => (false, rest)
    let greedy := lazy_ == st.flags.swapGreed
    some ({ st with pieces := pieces }.push (.rep least most greedy node) (depth + 1) rest)
  | _ => none

def openGroup (st : State) (index : Option Nat) (flags : Flags) (rest : List Char) : State :=
  { st with
    rest := rest, pieces := [], branches := [], flags := flags,
    groups := ⟨st.pieces, st.branches, index, st.flags⟩ :: st.groups }

def openNamed? (st : State) (cs : List Char) : Option State := do
  let (name, rest) ← groupName? cs
  if st.names.contains name then none
  else
    let index := st.captures + 1
    pure ({ st with captures := index, names := name :: st.names }.openGroup
      (some index) st.flags rest)

/-- After an opening parenthesis: a group or a mode setting. -/
def openParen? (st : State) (cs : List Char) : Option State :=
  match skip st.flags cs with
  | '?' :: '=' :: _ | '?' :: '!' :: _ | '?' :: '<' :: '=' :: _ | '?' :: '<' :: '!' :: _ => none
  | '?' :: 'P' :: '<' :: rest => st.openNamed? rest
  | '?' :: '<' :: rest => st.openNamed? rest
  | '?' :: rest => do
    let (flags, seen, close, rest) ← modes? st.flags false [] rest
    if close = ')' then
      if seen.isEmpty then none
      else pure { st with flags := flags, pieces := ⟨none, 0⟩ :: st.pieces, rest := rest }
    else pure (st.openGroup none flags rest)
  | rest =>
    let index := st.captures + 1
    some ({ st with captures := index }.openGroup (some index) st.flags rest)

/-- After a closing parenthesis. -/
def closeParen? (st : State) (rest : List Char) : Option State :=
  match st.groups with
  | [] => none
  | g :: groups =>
    let inner := st.alternation
    let body := inner.node.getD .empty
    let node := match g.index with
      | some index => .group index body
      | none => body
    some ({ st with
      pieces := g.pieces, branches := g.branches, flags := g.flags, groups := groups }.push
        node (inner.depth + 1) rest)

/-- Reads one construct that begins with a character. -/
def step? (st : State) (c : Char) (rest : List Char) : Option State :=
  match c with
  | '(' => st.openParen? rest
  | ')' => st.closeParen? rest
  | '|' =>
    some { st with branches := concat st.pieces :: st.branches, pieces := [], rest := rest }
  | '[' => (bracket? st.flags rest).map fun (s, rest) => st.push (.set s.set) s.depth rest
  | '?' => st.repeatLast? 0 (some 1) rest
  | '*' => st.repeatLast? 0 none rest
  | '+' => st.repeatLast? 1 none rest
  | '{' => do
    let (least, most, rest) ← counted? st.flags rest
    st.repeatLast? least most (skip st.flags rest)
  | '\\' => do
    let (e, rest) ← escape? st.flags rest
    match e with
    | .literal c byte => (st.flags.literal? c byte).map fun n => st.push n 0 rest
    | .set s => pure (st.push (.set s) 0 rest)
    | .look l => pure (st.push (.look l) 0 rest)
  | '.' => (st.flags.dot?).map fun n => st.push n 0 rest
  | '^' => some (st.push (.look st.flags.caret) 0 rest)
  | '$' => some (st.push (.look st.flags.dollar) 0 rest)
  | c => (st.flags.literal? c false).map fun n => st.push n 0 rest

/-- Reads to the end. Each construct takes a character at least. -/
def run? : Nat → State → Option State
  | 0, st => some st
  | fuel + 1, st =>
    match skip st.flags st.rest with
    | [] => some { st with rest := [] }
    | c :: rest => (st.step? c rest).bind (run? fuel)

end State

/-- Constructs nested deeper are refused. -/
def maxDepth : Nat := 250

/-- How many bytes a range of characters takes beside its set. -/
def rangeSize (low high : Nat) : Nat :=
  if high < 0x80 then 8 else if high - low < 0x10000 then 60 else 860

/-- A single character takes a state of thirty-two bytes for each of its own. -/
def setSize (s : Unicode.CharSet) : Nat :=
  match s.ranges with
  | [(low, high)] =>
    if low = high then 32 * (Char.ofNat low).utf8Size else 64 + rangeSize low high
  | ranges => ranges.foldl (fun n r => n + rangeSize r.1 r.2) 64

/-- About how many bytes an expression takes once its counted repetitions are written
out. -/
def Node.size : Node → Nat
  | .empty => 32
  | .set s => setSize s
  | .look _ => 32
  | .group _ body => body.size + 64
  | .cat a b => a.size + b.size
  | .alt a b => a.size + b.size + 40
  | .rep least none _ body => max least 1 * body.size + 40
  | .rep least (some most) _ body => most * body.size + (most - least) * 40

/-- Larger expressions are refused. -/
def maxSize : Nat := 10 * Nat.pow 2 20

/-- Reads a pattern to its tree. -/
def parse? (pattern : List Char) : Option Node := do
  let st ← State.run? (pattern.length + 1) (.start pattern)
  match st.groups with
  | [] =>
    let whole := st.alternation
    let node := whole.node.getD .empty
    if whole.depth ≤ maxDepth ∧ node.size ≤ maxSize then pure node else none
  | _ :: _ => none

/-- Compiles a pattern, unless it is malformed or asks for a property that
`Unicode.Class` does not have. -/
def compile? (pattern : String) : Option Regex :=
  (parse? pattern.toList).map fun root => ⟨pattern, root⟩

end PageRecords.Regex
