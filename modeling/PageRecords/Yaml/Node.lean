import PageRecords.Yaml.Layout

/-!
# Nodes

The tree that the tokens of a document spell. A reference stands for the node that
bears the anchor, so the tree has none. How often references were followed is counted,
since a short text can spell a huge tree.
-/

namespace PageRecords.Yaml

inductive Node where
  | scalar (tag : Option String) (isPlain : Bool) (text : String)
  | sequence (tag : Option String) (items : List Node)
  | mapping (tag : Option String) (entries : List (Node × Node))
deriving Inhabited

namespace Node

/-- What stands where nothing is written. -/
def nothing : Node := .scalar none true ""

-- --------------------------------------------------------------------
-- Reading
-- --------------------------------------------------------------------

/-- A node that bears an anchor, with the references that were followed inside it. -/
structure Anchored where
  node : Node
  followed : Nat

structure Reading where
  tokens : List Token
  /-- What the handles of tags stand for. -/
  stems : List (String × String)
  /-- The latest first. A node that is still being read is not known yet. -/
  anchors : List (String × Option Anchored)
  /-- How many references were followed. -/
  followed : Nat
  /-- How many scalars, references, and starts and ends of collections there are. -/
  events : Nat

abbrev Reader := StateT Reading Option

def fail {α : Type} : Reader α := fun _ => none

/-- The token that comes next. -/
def peek : Reader (Option Token) := do return (← get).tokens.head?

def skip : Reader Unit := modify fun r => { r with tokens := r.tokens.drop 1 }

/-- Whether one of the tokens comes next. -/
def nextIsIn (ts : List Token) : Reader Bool := do return (← peek).any ts.contains

/-- Goes past a token if it comes next. -/
def take (t : Token) : Reader Bool := do
  if (← peek) = some t then
    skip
    return true
  else return false

def count (n : Nat) : Reader Unit := modify fun r => { r with events := r.events + n }

def empty : Reader Node := do
  count 1
  return nothing

/-- The tag that a handle and the text behind it make. -/
def fullTag (handle rest : String) : Reader String := do
  if handle.isEmpty then return rest
  else
    match (← get).stems.lookup handle with
    | some stem => return stem ++ rest
    | none => fail

def anchor? : Reader (Option String) := do
  match ← peek with
  | some (.anchor name) =>
    skip
    return some name
  | _ => return none

def tag? : Reader (Option String) := do
  match ← peek with
  | some (.tag handle rest) =>
    skip
    return some (← fullTag handle rest)
  | _ => return none

/-- An anchor and a tag, in either order. -/
def properties : Reader (Option String × Option String) := do
  match ← anchor? with
  | some a => return (some a, ← tag?)
  | none =>
    match ← tag? with
    | some t => return (← anchor?, some t)
    | none => return (none, none)

/-- The node that bears an anchor. -/
def follow (name : String) : Reader Node := do
  match (← get).anchors.lookup name with
  | some (some a) =>
    modify fun r => { r with followed := r.followed + 1 + a.followed, events := r.events + 1 }
    return a.node
  | _ => fail

/-- Reads a node that bears an anchor. -/
def bearing (name : Option String) (read : Reader Node) : Reader Node := do
  match name with
  | none => read
  | some name =>
    modify fun r => { r with anchors := (name, none) :: r.anchors }
    let before := (← get).followed
    let node ← read
    modify fun r =>
      { r with anchors := (name, some ⟨node, r.followed - before⟩) :: r.anchors }
    return node

/-- Tokens that no value of a block mapping starts with. -/
def blockStops : List Token := [.key, .value, .blockEnd]

mutual
/-- A node. Only in a block may it be a block collection, and only below a key a
sequence that is not indented. -/
def read (inBlock belowKey : Bool) : Nat → Reader Node
  | 0 => fail
  | fuel + 1 => do
    match ← peek with
    | some (.reference name) =>
      skip
      follow name
    | _ =>
      let (name, tag) ← properties
      bearing name (content inBlock belowKey (name.isSome || tag.isSome) tag fuel)
/-- A node behind its properties. -/
def content (inBlock belowKey hasProperties : Bool) (tag : Option String) : Nat → Reader Node
  | 0 => fail
  | fuel + 1 => do
    match ← peek with
    | some (.scalar isPlain text) =>
      skip
      count 1
      return .scalar (if tag = some "!" then none else tag) isPlain text
    | some .flowSequence =>
      skip
      count 2
      return .sequence tag (← flowItems true fuel)
    | some .flowMapping =>
      skip
      count 2
      return .mapping tag (← flowEntries true fuel)
    | t =>
      if belowKey && t = some .entry then
        count 2
        return .sequence tag (← flatItems fuel)
      else if inBlock && t = some .blockSequence then
        skip
        count 2
        return .sequence tag (← blockItems fuel)
      else if inBlock && t = some .blockMapping then
        skip
        count 2
        return .mapping tag (← blockEntries fuel)
      else if hasProperties then
        count 1
        return .scalar tag true ""
      else fail
/-- The items of a block sequence. -/
def blockItems : Nat → Reader (List Node)
  | 0 => fail
  | fuel + 1 => do
    if ← take .entry then
      let item ← if ← nextIsIn [.entry, .blockEnd] then empty else read true false fuel
      return item :: (← blockItems fuel)
    else if ← take .blockEnd then return []
    else fail
/-- The items of a sequence that is not indented. -/
def flatItems : Nat → Reader (List Node)
  | 0 => fail
  | fuel + 1 => do
    if ← take .entry then
      let item ← if ← nextIsIn (.entry :: blockStops) then empty else read true false fuel
      return item :: (← flatItems fuel)
    else return []
/-- The entries of a block mapping. -/
def blockEntries : Nat → Reader (List (Node × Node))
  | 0 => fail
  | fuel + 1 => do
    if ← take .key then
      let key ← if ← nextIsIn blockStops then empty else read true true fuel
      let value ←
        if ← take .value then
          if ← nextIsIn blockStops then empty else read true true fuel
        else empty
      return (key, value) :: (← blockEntries fuel)
    else if ← take .blockEnd then return []
    else fail
/-- The items of a flow sequence. A lone pair is a mapping. -/
def flowItems (isFirst : Bool) : Nat → Reader (List Node)
  | 0 => fail
  | fuel + 1 => do
    if ← take .flowSequenceEnd then return []
    else
      if !isFirst then
        if !(← take .comma) then fail
      if ← take .flowSequenceEnd then return []
      else
        let item ← if ← take .key then lonePair fuel else read false false fuel
        return item :: (← flowItems false fuel)
/-- A pair in a flow sequence, from behind the mark of its key. A key that is missing
costs the token in its place. -/
def lonePair : Nat → Reader Node
  | 0 => fail
  | fuel + 1 => do
    count 2
    let key ←
      if ← nextIsIn [.value, .comma, .flowSequenceEnd] then
        skip
        empty
      else read false false fuel
    let value ←
      if ← take .value then
        if ← nextIsIn [.comma, .flowSequenceEnd] then empty else read false false fuel
      else empty
    return .mapping none [(key, value)]
/-- The entries of a flow mapping. -/
def flowEntries (isFirst : Bool) : Nat → Reader (List (Node × Node))
  | 0 => fail
  | fuel + 1 => do
    if ← take .flowMappingEnd then return []
    else
      if !isFirst then
        if !(← take .comma) then fail
      if ← take .flowMappingEnd then return []
      else if ← take .key then
        let key ←
          if ← nextIsIn [.value, .comma, .flowMappingEnd] then empty else read false false fuel
        let value ←
          if ← take .value then
            if ← nextIsIn [.comma, .flowMappingEnd] then empty else read false false fuel
          else empty
        return (key, value) :: (← flowEntries false fuel)
      else
        let key ← read false false fuel
        count 1
        return (key, nothing) :: (← flowEntries false fuel)
end

-- --------------------------------------------------------------------
-- Documents
-- --------------------------------------------------------------------

/-- Adds what a handle stands for. A handle is declared once at most. -/
def declare (handle stem : String) : Reader Unit := do
  if ((← get).stems.lookup handle).isSome then fail
  else modify fun r => { r with stems := (handle, stem) :: r.stems }

/-- The directives of a document. -/
def directives (hasVersion : Bool) : Nat → Reader Unit
  | 0 => fail
  | fuel + 1 => do
    match ← peek with
    | some (.version major minor) =>
      if hasVersion || major ≠ 1 || (minor ≠ 1 && minor ≠ 2) then fail
      else
        skip
        directives true fuel
    | some (.handle name stem) =>
      skip
      declare name stem
      directives hasVersion fuel
    | _ => return ()

/-- What the handles stand for that are not declared. -/
def knownStems : List (String × String) := [("!", "!"), ("!!", "tag:yaml.org,2002:")]

def opensDocument : Option Token → Bool
  | some (.version ..) | some (.handle ..) | some .documentStart => true
  | _ => false

/-- The node of the only document, if there is one at all. -/
def document (fuel : Nat) : Reader (Option Node) := do
  let t ← peek
  if t.isNone then return none
  else
    let node ←
      if opensDocument t then do
        directives false fuel
        modify fun r => { r with stems := r.stems ++ knownStems }
        if !(← take .documentStart) then fail
        let t ← peek
        if opensDocument t || t = some .documentEnd || t.isNone then empty
        else read true false fuel
      else do
        modify fun r => { r with stems := knownStems }
        read true false fuel
    modify fun r => { r with tokens := r.tokens.dropWhile (· = .documentEnd) }
    if (← peek).isSome then fail
    return some node

/-- The node that tokens spell, unless references are followed too often in it. Every
step takes a token or goes inward before one is taken, so the fuel is enough. -/
def ofTokens? (ts : List Token) : Option Node := do
  let (node, r) ← (document (4 * ts.length + 8)).run ⟨ts, [], [], 0, 0⟩
  if r.followed > 100 * r.events then none else some (node.getD nothing)

end Node

end PageRecords.Yaml
