import PageRecords.Document.Rule
import PageRecords.Dom.Forest
import PageRecords.Extract.Failure
import PageRecords.Selector.Parser

/-!
# Match blocks

A block takes the elements below a context that it includes and does not exclude,
and makes nodes for sub-rules or values of them. Nodes of the page are never
changed: whatever is cleaned is a copy first.
-/

namespace PageRecords

open Dom (Forest NodeId)

/-- Work on a forest that a malformed selector may cut short. What was added to the
forest until then stays. -/
abbrev Extract := ExceptT BadSelector (StateM Forest)

namespace Extract

def compile (selector : String) : Extract Selector :=
  match Selector.parse? selector with
  | some s => pure s
  | none => throw ⟨selector⟩

/-- The elements below a node that meet a selector. -/
def select (id : NodeId) (selector : String) : Extract (List NodeId) := do
  let s ← compile selector
  return (← get).select id s

def accepts (id : NodeId) (selector : String) : Extract Bool := do
  let s ← compile selector
  return (← get).accepts id s

/-- The elements that follow a node, up to one that meets a selector. -/
def siblingsUntil (id : NodeId) (stop : String) : Extract (List NodeId) := do
  let s ← compile stop
  return (← get).siblingsUntil id s

def copy (id : NodeId) : Extract NodeId := do
  let (new, f) := (← get).copy id
  set f
  return new

def wrapCopies (ids : List NodeId) : Extract NodeId := do
  let (new, f) := (← get).wrapCopies ids
  set f
  return new

def removeMatching (id : NodeId) (selector : String) : Extract Unit := do
  let s ← compile selector
  modify (·.removeMatching id s)

end Extract

/-- What a block gives: nodes for sub-rules, or values. -/
inductive Matched where
  | nodes (ids : List NodeId)
  | values (vs : List String)
deriving DecidableEq, Repr, Inhabited

namespace Matched

def size : Matched → Nat
  | .nodes ids => ids.length
  | .values vs => vs.length

def isEmpty (m : Matched) : Bool := m.size = 0

end Matched

/-- Attributes that no extracted markup has. -/
def stylingAttributes : List String :=
  ["align", "bgcolor", "border", "class", "color", "dir", "height", "style", "width"]

/-- Elements that extracted markup may have. -/
def basicTags : List String :=
  ["h1", "h2", "h3", "h4", "h5", "h6", "p", "blockquote", "br", "i", "em", "b", "strong", "ul",
   "ol", "li", "dl", "dt", "dd", "hr", "code", "del", "pre", "s", "u", "small", "sub", "sup",
   "img", "audio", "video", "source", "a", "table", "th", "tr", "td", "thead", "tbody", "tfoot",
   "div", "span", "iframe", "article", "details", "figcaption", "figure", "footer", "header",
   "main", "mark", "section", "summary", "time", "wbr", "font", "center", "cite"]

namespace MatchBlock

open Extract

/-- The elements that the block is about. -/
def matched (b : MatchBlock) (context : NodeId) : Extract (List NodeId) := do
  let found ← select context b.included
  if b.excluded.isEmpty then return found
  else found.filterM fun id => return !(← accepts id b.excluded)

/-- The elements with their following siblings, each group copied into a container of
its own. -/
def grouped (stop : String) (ids : List NodeId) : Extract (List NodeId) :=
  ids.mapM fun id => do
    let siblings ← siblingsUntil id stop
    wrapCopies (id :: siblings)

/-- Removes what meets one of the selectors below each node. -/
def cleaned (selectors : List String) (ids : List NodeId) : Extract Unit :=
  ids.forM fun id => selectors.forM fun s => removeMatching id s

/-- The nodes that the values are made of, and whether they are copies. -/
def prepared (b : MatchBlock) (context : NodeId) : Extract (List NodeId × Bool) := do
  let ids ← b.matched context
  let isCopy := b.addNextUntil.isSome
  let ids ← match b.addNextUntil with
    | some stop => grouped stop ids
    | none => pure ids
  if b.removeInside.isEmpty then return (ids, isCopy)
  else
    let ids ← if isCopy then pure ids else ids.mapM copy
    cleaned b.removeInside ids
    return (ids, true)

/-- The value of a node: an attribute that may be missing, or the content of a copy
that keeps basic elements only. -/
def value? (b : MatchBlock) (isCopy : Bool) (id : NodeId) : Extract (Option String) := do
  match b.attr with
  | some name => return (← get).attribute? id name
  | none =>
    let id ← if isCopy then pure id else copy id
    modify (·.unwrap id basicTags)
    if b.keepBasicMarkup then
      modify (·.removeAttributes id stylingAttributes)
      let n := (← get).node id
      return some (if b.outerNode then n.outerMarkup else n.innerMarkup)
    else return some ((← get).node id).text

/-- Evaluates the block below a context. -/
def evaluate (b : MatchBlock) (context : NodeId) (hasSubRules : Bool) : Extract Matched := do
  let (ids, isCopy) ← b.prepared context
  if hasSubRules then return .nodes ids
  else do
    let values ← ids.mapM (b.value? isCopy)
    return .values (values.filterMap id)

end MatchBlock

/-- Evaluates a block, or the branches of an alternation in order until one yields
something. The branches after it are not looked at. -/
def MatchSpec.evaluate (context : NodeId) (hasSubRules : Bool) : MatchSpec → Extract Matched
  | .single b => b.evaluate context hasSubRules
  | .any bs => go bs
where
  go : List MatchBlock → Extract Matched
    | [] => return .values []
    | b :: rest => do
      let m ← b.evaluate context hasSubRules
      if m.isEmpty then go rest else return m

end PageRecords
