import PageRecords.Dom.Change
import PageRecords.Dom.Markup
import PageRecords.Selector.Match

/-!
# Forests

All trees in play, the newest first, and the first identity not in use. A page is
one tree; copies and nodes taken out of a tree stand beside it. An operation names
the node it is about by identity, and what is not below that node stays as it is.
-/

namespace PageRecords.Dom

structure Forest where
  trees : List Node
  fresh : NodeId
deriving Repr, Inhabited

namespace Forest

/-- Every place of a forest. -/
def places (f : Forest) : List Place :=
  f.trees.flatMap fun t => (Place.top t).inclusiveDescendants

/-- Where a node stands. What a template holds is not below it and has no place: no selector
reaches it, so no evaluation comes to have its context there. -/
def place? (f : Forest) (id : NodeId) : Option Place :=
  (f.trees.find? (·.has id)).bind fun t =>
    (Place.top t).inclusiveDescendants.find? fun p => p.node.id = id

/-- The node of an identity; a bare fragment if there is none. -/
def node (f : Forest) (id : NodeId) : Node :=
  ((f.place? id).map Place.node).getD (.root id .fragment [])

-- --------------------------------------------------------------------
-- Searching
-- --------------------------------------------------------------------

/-- The elements below a node that meet a selector, in document order. -/
def select (f : Forest) (id : NodeId) (s : Selector) : List NodeId :=
  match f.place? id with
  | some p => (p.descendants.filter s.accepts).map (·.node.id)
  | none => []

def accepts (f : Forest) (id : NodeId) (s : Selector) : Bool :=
  (f.place? id).any s.accepts

/-- The elements that follow a node under the same parent, up to the first that
meets the selector. -/
def siblingsUntil (f : Forest) (id : NodeId) (stop : Selector) : List NodeId :=
  match f.place? id with
  | some p =>
    ((p.next.filter (·.node.isElement)).takeWhile fun q => !stop.accepts q).map (·.node.id)
  | none => []

/-- The value of an ordinary attribute. Names are looked up in lower case. -/
def attribute? (f : Forest) (id : NodeId) (name : String) : Option String :=
  (f.node id).attribute? name.toLower

-- --------------------------------------------------------------------
-- Copying
-- --------------------------------------------------------------------

/-- Adds a tree with identities of its own. -/
def plant (f : Forest) (n : Node) : NodeId × Forest :=
  let (copy, after) := n.renumber f.fresh
  (f.fresh, ⟨copy :: f.trees, after⟩)

/-- Adds a copy of a node and of all below it. -/
def copy (f : Forest) (id : NodeId) : NodeId × Forest :=
  f.plant (f.node id)

/-- An element around the nodes, of the vocabulary of the first element among them;
a bare fragment if there is no element. -/
def wrapper (ns : List Node) : Node :=
  match ns.findSome? Node.tag? with
  | some tag => .element 0 ⟨tag.space, "div"⟩ [] [] ns
  | none => .root 0 .fragment ns

/-- Adds an element that holds copies of the nodes, in order. -/
def wrapCopies (f : Forest) (ids : List NodeId) : NodeId × Forest :=
  f.plant (wrapper (ids.map f.node))

-- --------------------------------------------------------------------
-- Changing
-- --------------------------------------------------------------------

/-- Replaces a node by what a change makes of it. -/
def edit (f : Forest) (id : NodeId) (change : Node → Node) : Forest :=
  ⟨f.trees.map (·.edit id change), f.fresh⟩

def add (f : Forest) (ns : List Node) : Forest :=
  ⟨ns ++ f.trees, f.fresh⟩

/-- Takes the elements that meet the selector out from below a node. -/
def removeMatching (f : Forest) (id : NodeId) (s : Selector) : Forest :=
  let found := f.select id s
  (f.edit id (·.prune found)).add ((f.node id).pruned found)

/-- Unwraps the elements below a node whose name is not allowed. -/
def unwrap (f : Forest) (id : NodeId) (allowed : List String) : Forest :=
  (f.edit id fun n => (n.unwrap allowed).1).add ((f.node id).unwrap allowed).2

/-- Takes the attributes of those names off a node and all below it. -/
def removeAttributes (f : Forest) (id : NodeId) (names : List String) : Forest :=
  f.edit id (·.strip names)

end Forest

end PageRecords.Dom
