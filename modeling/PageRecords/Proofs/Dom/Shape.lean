import PageRecords.Dom.Change
import PageRecords.Dom.Markup
import PageRecords.Dom.Place

/-!
# Shapes

The shape of a tree is the tree with every identity set to zero. What is read off
a tree is read off its shape, and every change but the removal of nodes named by
identity goes through to the shape. So two trees of one shape, such as a node and
a copy of it, yield the same values.
-/

namespace PageRecords.Dom

namespace Node

mutual
/-- The tree without its identities, template contents included. -/
def shape : Node → Node
  | .leaf _ content => .leaf 0 content
  | .root _ kind children => .root 0 kind (listShape children)
  | .element _ tag attributes contents children =>
    .element 0 tag attributes (listShape contents) (listShape children)
def listShape : List Node → List Node
  | [] => []
  | n :: rest => n.shape :: listShape rest
end

@[simp] theorem listShape_eq_map (ns : List Node) : listShape ns = ns.map shape := by
  induction ns with
  | nil => rfl
  | cons n rest ih => simp [listShape, ih]

-- --------------------------------------------------------------------
-- Reading
-- --------------------------------------------------------------------

@[simp] theorem isElement_shape (n : Node) : n.shape.isElement = n.isElement := by
  cases n <;> rfl

@[simp] theorem tag?_shape (n : Node) : n.shape.tag? = n.tag? := by
  cases n <;> rfl

@[simp] theorem attributes_shape (n : Node) : n.shape.attributes = n.attributes := by
  cases n <;> rfl

@[simp] theorem attribute?_shape (n : Node) (name : String) :
    n.shape.attribute? name = n.attribute? name := by
  simp [attribute?]

@[simp] theorem children_shape (n : Node) : n.shape.children = n.children.map shape := by
  cases n <;> simp [shape, children]

mutual
@[simp] theorem text_shape : (n : Node) → n.shape.text = n.text
  | .leaf _ content => by cases content <;> rfl
  | .root _ _ children => by simpa [shape, text] using listText_shape children
  | .element _ _ _ _ children => by simpa [shape, text] using listText_shape children
theorem listText_shape : (ns : List Node) → listText (ns.map shape) = listText ns
  | [] => rfl
  | n :: rest => by simp [listText, text_shape n, listText_shape rest]
end

mutual
@[simp] theorem markupIn_shape (raw : Bool) : (n : Node) → n.shape.markupIn raw = n.markupIn raw
  | .leaf _ _ => rfl
  | .root _ _ children => by simpa [shape, markupIn] using listMarkupIn_shape raw children
  | .element _ tag _ _ children => by
    simp [shape, markupIn, listMarkupIn_shape tag.hasRawText children]
theorem listMarkupIn_shape (raw : Bool) :
    (ns : List Node) → listMarkupIn raw (ns.map shape) = listMarkupIn raw ns
  | [] => rfl
  | n :: rest => by simp [listMarkupIn, markupIn_shape raw n, listMarkupIn_shape raw rest]
end

@[simp] theorem outerMarkup_shape (n : Node) : n.shape.outerMarkup = n.outerMarkup :=
  markupIn_shape false n

@[simp] theorem innerMarkup_shape (n : Node) : n.shape.innerMarkup = n.innerMarkup := by
  simp [innerMarkup, listMarkupIn_shape]

-- --------------------------------------------------------------------
-- Changing
-- --------------------------------------------------------------------

mutual
/-- A copy with new identities has the shape of what it copies. -/
@[simp] theorem shape_renumber (next : NodeId) : (n : Node) → (n.renumber next).1.shape = n.shape
  | .leaf _ _ => rfl
  | .root _ _ children => by simp [renumber, shape, map_shape_listRenumber _ children]
  | .element _ _ _ contents children => by
    simp [renumber, shape, map_shape_listRenumber _ contents, map_shape_listRenumber _ children]
theorem map_shape_listRenumber (next : NodeId) :
    (ns : List Node) → (listRenumber next ns).1.map shape = ns.map shape
  | [] => rfl
  | n :: rest => by
    simp [listRenumber, shape_renumber next n, map_shape_listRenumber _ rest]
end

mutual
@[simp] theorem shape_strip (names : List String) :
    (n : Node) → (n.strip names).shape = n.shape.strip names
  | .leaf _ _ => rfl
  | .root _ _ children => by simp [strip, shape, map_shape_listStrip names children]
  | .element _ _ _ _ children => by simp [strip, shape, map_shape_listStrip names children]
theorem map_shape_listStrip (names : List String) :
    (ns : List Node) → (listStrip names ns).map shape = listStrip names (ns.map shape)
  | [] => rfl
  | n :: rest => by simp [listStrip, shape_strip names n, map_shape_listStrip names rest]
end

theorem unwrap_of_nil {allowed : List String} {n : Node} (h : n.unwrapped allowed = []) :
    n.unwrap allowed = (n, []) := by
  rw [unwrap]
  split
  · rfl
  · simp_all

theorem unwrap_of_ne_nil {allowed : List String} {n : Node} (h : n.unwrapped allowed ≠ []) :
    n.unwrap allowed = (((n.unwrapPass allowed).unwrap allowed).1,
      n.unwrapped allowed ++ ((n.unwrapPass allowed).unwrap allowed).2) := by
  rw [unwrap]
  split
  · contradiction
  · simp_all

/-- Induction on the passes that unwrapping makes. -/
@[elab_as_elim]
theorem unwrap_induction (allowed : List String) {motive : Node → Prop}
    (done : ∀ n, n.unwrapped allowed = [] → motive n)
    (pass : ∀ n, n.unwrapped allowed ≠ [] → motive (n.unwrapPass allowed) → motive n)
    (n : Node) : motive n :=
  unwrap.induct allowed motive done
    (fun n _ _ h _ _ _ ih => pass n (by simp [h]) ih) n

theorem map_shape_listUnwrapped (allowed : List String) (ns : List Node) :
    (listUnwrapped allowed ns).map shape = listUnwrapped allowed (ns.map shape) := by
  fun_induction listUnwrapped allowed ns <;> simp_all [listUnwrapped, shape]

theorem map_shape_unwrapped (allowed : List String) (n : Node) :
    (n.unwrapped allowed).map shape = n.shape.unwrapped allowed := by
  cases n <;> simp [unwrapped, shape, map_shape_listUnwrapped]

theorem map_shape_listUnwrapPass (allowed : List String) (ns : List Node) :
    (listUnwrapPass allowed ns).map shape = listUnwrapPass allowed (ns.map shape) := by
  fun_induction listUnwrapPass allowed ns <;> simp_all [listUnwrapPass, shape]

theorem shape_unwrapPass (allowed : List String) (n : Node) :
    (n.unwrapPass allowed).shape = n.shape.unwrapPass allowed := by
  cases n <;> simp [unwrapPass, shape, map_shape_listUnwrapPass]

/-- Unwrapping asks for names only, so it does the same to the shape. -/
@[simp] theorem shape_unwrap (allowed : List String) (n : Node) :
    (n.unwrap allowed).1.shape = (n.shape.unwrap allowed).1 := by
  induction n using unwrap_induction allowed with
  | done n h =>
    have hs : n.shape.unwrapped allowed = [] := by simp [← map_shape_unwrapped, h]
    rw [unwrap_of_nil h, unwrap_of_nil hs]
  | pass n h ih =>
    have hs : n.shape.unwrapped allowed ≠ [] := by simpa [← map_shape_unwrapped] using h
    rw [unwrap_of_ne_nil h, unwrap_of_ne_nil hs]
    simpa [shape_unwrapPass] using ih

end Node

-- --------------------------------------------------------------------
-- Places
-- --------------------------------------------------------------------

namespace Place

/-- The place without the identities of its node and of what stands around. -/
def shape : Place → Place
  | .top n => .top n.shape
  | .under parent left n right =>
    .under parent.shape (left.map Node.shape) n.shape (right.map Node.shape)

@[simp] theorem node_shape (p : Place) : p.shape.node = p.node.shape := by
  cases p <;> rfl

@[simp] theorem parent?_shape (p : Place) : p.shape.parent? = p.parent?.map shape := by
  cases p <;> rfl

@[simp] theorem left_shape (p : Place) : p.shape.left = p.left.map Node.shape := by
  cases p <;> rfl

@[simp] theorem right_shape (p : Place) : p.shape.right = p.right.map Node.shape := by
  cases p <;> rfl

theorem previous_go_shape (parent : Place) (left right : List Node) :
    previous.go parent.shape (left.map Node.shape) (right.map Node.shape) =
      (previous.go parent left right).map shape := by
  induction left generalizing right with
  | nil => rfl
  | cons n left ih => simpa [previous.go, shape] using ih (n :: right)

@[simp] theorem previous_shape (p : Place) : p.shape.previous = p.previous.map shape := by
  cases p with
  | top => rfl
  | under parent left n right => exact previous_go_shape parent left (n :: right)

theorem next_go_shape (parent : Place) (left right : List Node) :
    next.go parent.shape (left.map Node.shape) (right.map Node.shape) =
      (next.go parent left right).map shape := by
  induction right generalizing left with
  | nil => rfl
  | cons n right ih => simpa [next.go, shape] using ih (n :: left)

@[simp] theorem next_shape (p : Place) : p.shape.next = p.next.map shape := by
  cases p with
  | top => rfl
  | under parent left n right => exact next_go_shape parent (n :: left) right

@[simp] theorem elementsAround_shape (p : Place) :
    p.shape.elementsAround = p.elementsAround.map shape := by
  induction p with
  | top => rfl
  | under parent left n right ih =>
    simp only [shape, elementsAround, node_shape, Node.isElement_shape, ih]
    split <;> rfl

mutual
theorem listOf_shape (here : Place) :
    (n : Node) → listOf here.shape n.shape = (listOf here n).map shape
  | .leaf _ _ => rfl
  | .root _ _ children => by simpa [listOf, Node.shape] using listBelow_shape here [] children
  | .element _ _ _ _ children => by
    simpa [listOf, Node.shape] using listBelow_shape here [] children
theorem listBelow_shape (parent : Place) (left : List Node) : (ns : List Node) →
    listBelow parent.shape (left.map Node.shape) (ns.map Node.shape) =
      (listBelow parent left ns).map shape
  | [] => rfl
  | n :: rest => by
    have hn := listOf_shape (.under parent left n rest) n
    have hrest := listBelow_shape parent (n :: left) rest
    simp only [shape, List.map_cons] at hn hrest
    simp [listBelow, shape, hn, hrest]
end

@[simp] theorem descendants_shape (p : Place) : p.shape.descendants = p.descendants.map shape := by
  simp [descendants, listOf_shape]

end Place

end PageRecords.Dom
