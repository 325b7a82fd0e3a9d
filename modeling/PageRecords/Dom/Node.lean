/-!
# Page trees

A page is a tree of nodes, each with an identity that outlives changes around
it. The contents of a template element hang beside its children: they are part of
no markup, no text and no search until the template is unwrapped.
-/

namespace PageRecords.Dom

/-- The vocabularies that names of elements and attributes come from. `none` is
that of ordinary attributes. -/
inductive Space where
  | none
  | html
  | svg
  | mathml
  | xlink
  | xml
  | xmlns
deriving DecidableEq, Repr, Inhabited

/-- The name of an element. -/
structure Tag where
  space : Space
  name : String
deriving DecidableEq, Repr, Inhabited

structure Attribute where
  space : Space
  name : String
  value : String
deriving DecidableEq, Repr, Inhabited

abbrev NodeId := Nat

inductive Leaf where
  | doctype (name : String)
  | comment (text : String)
  | text (text : String)
deriving DecidableEq, Repr, Inhabited

inductive RootKind where
  | document
  | fragment
deriving DecidableEq, Repr, Inhabited

inductive Node where
  | leaf (id : NodeId) (content : Leaf)
  | root (id : NodeId) (kind : RootKind) (children : List Node)
  /-- `contents` is empty unless the element is a template. -/
  | element (id : NodeId) (tag : Tag) (attributes : List Attribute) (contents : List Node)
      (children : List Node)
deriving Repr, Inhabited

namespace Node

def id : Node → NodeId
  | .leaf id _ | .root id _ _ | .element id _ _ _ _ => id

def children : Node → List Node
  | .leaf _ _ => []
  | .root _ _ children | .element _ _ _ _ children => children

def isElement : Node → Bool
  | .element .. => true
  | _ => false

def tag? : Node → Option Tag
  | .element _ tag _ _ _ => some tag
  | _ => none

def attributes : Node → List Attribute
  | .element _ _ attributes _ _ => attributes
  | _ => []

/-- The value of an ordinary attribute of that very name. -/
def attribute? (n : Node) (name : String) : Option String :=
  (n.attributes.find? fun a => a.space = .none && a.name = name).map (·.value)

mutual
/-- The text of a node: all text in it, in order. -/
def text : Node → String
  | .leaf _ (.text s) => s
  | .leaf _ _ => ""
  | .root _ _ children => listText children
  | .element _ _ _ _ children => listText children
def listText : List Node → String
  | [] => ""
  | n :: rest => n.text ++ listText rest
end

mutual
/-- The number of nodes, template contents included. -/
def size : Node → Nat
  | .leaf _ _ => 1
  | .root _ _ children => listSize children + 1
  | .element _ _ _ contents children => listSize contents + listSize children + 1
def listSize : List Node → Nat
  | [] => 0
  | n :: rest => n.size + listSize rest
end

mutual
/-- Whether a node of that identity is in the tree, template contents aside. -/
def has (id : NodeId) : Node → Bool
  | .leaf i _ => i = id
  | .root i _ children => i = id || listHas id children
  | .element i _ _ _ children => i = id || listHas id children
def listHas (id : NodeId) : List Node → Bool
  | [] => false
  | n :: rest => n.has id || listHas id rest
end

mutual
/-- The same tree with the identities `next`, `next + 1`, … in document order, and
the first identity left over. -/
def renumber (next : NodeId) : Node → Node × NodeId
  | .leaf _ content => (.leaf next content, next + 1)
  | .root _ kind children =>
    let (children, after) := listRenumber (next + 1) children
    (.root next kind children, after)
  | .element _ tag attributes contents children =>
    let (contents, between) := listRenumber (next + 1) contents
    let (children, after) := listRenumber between children
    (.element next tag attributes contents children, after)
def listRenumber (next : NodeId) : List Node → List Node × NodeId
  | [] => ([], next)
  | n :: rest =>
    let (n, between) := n.renumber next
    let (rest, after) := listRenumber between rest
    (n :: rest, after)
end

mutual
/-- The tree with a change made to the node of that identity. -/
def edit (id : NodeId) (change : Node → Node) : Node → Node
  | .leaf i content =>
    if i = id then change (.leaf i content) else .leaf i content
  | .root i kind children =>
    if i = id then change (.root i kind children)
    else .root i kind (listEdit id change children)
  | .element i tag attributes contents children =>
    if i = id then change (.element i tag attributes contents children)
    else .element i tag attributes contents (listEdit id change children)
def listEdit (id : NodeId) (change : Node → Node) : List Node → List Node
  | [] => []
  | n :: rest => n.edit id change :: listEdit id change rest
end

end Node

end PageRecords.Dom
