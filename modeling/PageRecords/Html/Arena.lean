import PageRecords.Dom.Node

/-!
# Trees under construction

While a page is read its nodes lie in one array and know each other by index, since
nodes already placed still move. A finished arena turns into a tree.
-/

namespace PageRecords.Html

open Dom (Node Leaf RootKind Tag Attribute)

abbrev Handle := Nat

inductive Content where
  | leaf (content : Leaf)
  | root (kind : RootKind)
  /-- `contents` is the root of what a template holds. -/
  | element (tag : Tag) (attributes : List Attribute) (contents : Option Handle)
deriving Repr, Inhabited

structure Cell where
  content : Content
  parent : Option Handle
  children : Array Handle
deriving Repr, Inhabited

abbrev Arena := Array Cell

namespace Arena

def content (a : Arena) (h : Handle) : Content :=
  (a[h]?.map Cell.content).getD (.root .fragment)

def parent (a : Arena) (h : Handle) : Option Handle := a[h]?.bind Cell.parent

def children (a : Arena) (h : Handle) : Array Handle := (a[h]?.map Cell.children).getD #[]

/-- The name of an element; of any other node one that no element has. -/
def tag (a : Arena) (h : Handle) : Tag :=
  match a.content h with
  | .element tag _ _ => tag
  | _ => ⟨.none, ""⟩

/-- Adds a node that stands nowhere yet. -/
def create (a : Arena) (c : Content) : Handle × Arena :=
  (a.size, a.push ⟨c, none, #[]⟩)

/-- Adds an element, with a root for its contents if it is a template. -/
def createElement (a : Arena) (tag : Tag) (attributes : List Attribute) : Handle × Arena :=
  if tag = ⟨.html, "template"⟩ then
    let (contents, a) := a.create (.root .fragment)
    a.create (.element tag attributes (some contents))
  else a.create (.element tag attributes none)

/-- Takes a node from its parent. -/
def detach (a : Arena) (h : Handle) : Arena :=
  match a.parent h with
  | none => a
  | some p =>
    (a.modify p fun c => { c with children := c.children.filter (· ≠ h) }).modify h
      fun c => { c with parent := none }

/-- Moves a node to the end of a parent. -/
def append (a : Arena) (parent child : Handle) : Arena :=
  ((a.detach child).modify parent fun c => { c with children := c.children.push child }).modify
    child fun c => { c with parent := some parent }

/-- Moves a node to just before another one, which has a parent. -/
def insertBefore (a : Arena) (sibling child : Handle) : Arena :=
  let a := a.detach child
  match a.parent sibling with
  | none => a
  | some p =>
    let place := (a.children p).toList.takeWhile (· ≠ sibling)
    (a.modify p fun c =>
      { c with children := c.children.take place.length ++ #[child] ++ c.children.drop place.length
      }).modify child fun c => { c with parent := some p }

/-- Lengthens a text; any other node stays as it is. -/
def lengthen (a : Arena) (h : Handle) (s : String) : Arena :=
  a.modify h fun c =>
    match c with
    | ⟨.leaf (.text t), parent, children⟩ => ⟨.leaf (.text (t ++ s)), parent, children⟩
    | c => c

def isText (a : Arena) (h : Handle) : Bool :=
  match a.content h with
  | .leaf (.text _) => true
  | _ => false

/-- Adds text at the end of a parent, to the text that stands there if any. -/
def appendText (a : Arena) (parent : Handle) (s : String) : Arena :=
  match (a.children parent).back? with
  | some last =>
    if a.isText last then a.lengthen last s
    else
      let (h, a) := a.create (.leaf (.text s))
      a.append parent h
  | none =>
    let (h, a) := a.create (.leaf (.text s))
    a.append parent h

def previousSibling (a : Arena) (h : Handle) : Option Handle := do
  let p ← a.parent h
  ((a.children p).toList.takeWhile (· ≠ h)).getLast?

/-- Adds text just before a node, to the text that stands there if any. -/
def insertTextBefore (a : Arena) (sibling : Handle) (s : String) : Arena :=
  let fresh (_ : Unit) :=
    let (h, a) := a.create (.leaf (.text s))
    a.insertBefore sibling h
  match a.previousSibling sibling with
  | some previous => if a.isText previous then a.lengthen previous s else fresh ()
  | none => fresh ()

/-- Moves all children of a node to the end of another. -/
def moveChildren (a : Arena) (source target : Handle) : Arena :=
  (a.children source).foldl (fun a child => a.append target child) a

/-- Adds the attributes whose names the element does not have yet. -/
def addMissing (a : Arena) (h : Handle) (attributes : List Attribute) : Arena :=
  a.modify h fun c =>
    match c with
    | ⟨.element tag old contents, parent, children⟩ =>
      let missing := attributes.filter fun x =>
        !old.any fun y => y.space = x.space && y.name = x.name
      ⟨.element tag (old ++ missing) contents, parent, children⟩
    | c => c

/-- The tree below a node. No tree is deeper than there are nodes. -/
def nodeFrom (a : Arena) (fuel : Nat) (h : Handle) : Node :=
  match fuel with
  | 0 => .leaf h (.text "")
  | fuel + 1 =>
    let below (h : Handle) := (a.children h).toList.map (a.nodeFrom fuel)
    match a.content h with
    | .leaf content => .leaf h content
    | .root kind => .root h kind (below h)
    | .element tag attributes contents =>
      .element h tag attributes ((contents.map below).getD []) (below h)

def node (a : Arena) (h : Handle) : Node := a.nodeFrom a.size h

end Arena

end PageRecords.Html
