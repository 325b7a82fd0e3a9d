import PageRecords.Dom.Node

/-!
# Places

A node together with what stands around it: its parent's place and its siblings on
either side. Selectors look at places, since they ask about both.
-/

namespace PageRecords.Dom

inductive Place where
  | top (node : Node)
  /-- `left` is reversed: the nearest sibling comes first on either side. -/
  | under (parent : Place) (left : List Node) (node : Node) (right : List Node)
deriving Inhabited

namespace Place

def node : Place → Node
  | .top n => n
  | .under _ _ n _ => n

def parent? : Place → Option Place
  | .top _ => none
  | .under parent _ _ _ => some parent

/-- The siblings before the node, the nearest first. -/
def left : Place → List Node
  | .top _ => []
  | .under _ left _ _ => left

/-- The siblings after the node, in order. -/
def right : Place → List Node
  | .top _ => []
  | .under _ _ _ right => right

/-- The places of the siblings before, the nearest first. -/
def previous : Place → List Place
  | .top _ => []
  | .under parent left node right => go parent left (node :: right)
where
  go (parent : Place) : List Node → List Node → List Place
    | [], _ => []
    | n :: left, right => .under parent left n right :: go parent left (n :: right)

/-- The places of the siblings after, in order. -/
def next : Place → List Place
  | .top _ => []
  | .under parent left node right => go parent (node :: left) right
where
  go (parent : Place) (left : List Node) : List Node → List Place
    | [] => []
    | n :: right => .under parent left n right :: go parent (n :: left) right

/-- The places of the elements around the node, the innermost first, up to the
first ancestor that is not an element. -/
def elementsAround : Place → List Place
  | .top _ => []
  | .under parent _ _ _ =>
    if parent.node.isElement then parent :: parent.elementsAround else []

mutual
/-- The places below a node that stands at `here`, in document order. -/
def listOf (here : Place) : Node → List Place
  | .leaf _ _ => []
  | .root _ _ children => listBelow here [] children
  | .element _ _ _ _ children => listBelow here [] children
def listBelow (parent : Place) (left : List Node) : List Node → List Place
  | [] => []
  | n :: rest =>
    let here := Place.under parent left n rest
    here :: (listOf here n ++ listBelow parent (n :: left) rest)
end

/-- The places below, in document order. -/
def descendants (p : Place) : List Place := listOf p p.node

/-- The place itself and those below, in document order. -/
def inclusiveDescendants (p : Place) : List Place := p :: p.descendants

end Place

end PageRecords.Dom
