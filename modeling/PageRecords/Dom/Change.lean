import PageRecords.Dom.Node

/-!
# Changes below a node

Removing nodes, unwrapping elements and stripping attributes, as functions on
trees. Each of the first two also gives the nodes it took out, as they are
afterwards. Template contents stay as they are until their template is unwrapped.
-/

namespace PageRecords.Dom

namespace Node

-- --------------------------------------------------------------------
-- Removing
-- --------------------------------------------------------------------

mutual
/-- What stays of a node when the nodes of those identities below it are gone. -/
def prune (ids : List NodeId) : Node → Node
  | .leaf i content => .leaf i content
  | .root i kind children => .root i kind (listPrune ids children)
  | .element i tag attributes contents children =>
    .element i tag attributes contents (listPrune ids children)
def listPrune (ids : List NodeId) : List Node → List Node
  | [] => []
  | n :: rest =>
    if ids.contains n.id then listPrune ids rest else n.prune ids :: listPrune ids rest
end

mutual
/-- The nodes of those identities below a node, each without the others in it. -/
def pruned (ids : List NodeId) : Node → List Node
  | .leaf _ _ => []
  | .root _ _ children => listPruned ids children
  | .element _ _ _ _ children => listPruned ids children
def listPruned (ids : List NodeId) : List Node → List Node
  | [] => []
  | n :: rest =>
    if ids.contains n.id then n.prune ids :: n.pruned ids ++ listPruned ids rest
    else n.pruned ids ++ listPruned ids rest
end

-- --------------------------------------------------------------------
-- Unwrapping
-- --------------------------------------------------------------------

mutual
/-- The elements below a node whose name is not allowed, emptied. -/
def unwrapped (allowed : List String) : Node → List Node
  | .leaf _ _ => []
  | .root _ _ children => listUnwrapped allowed children
  | .element _ _ _ _ children => listUnwrapped allowed children
def listUnwrapped (allowed : List String) : List Node → List Node
  | [] => []
  | .leaf _ _ :: rest => listUnwrapped allowed rest
  | .root _ _ children :: rest =>
    listUnwrapped allowed children ++ listUnwrapped allowed rest
  | .element i tag attributes _ children :: rest =>
    if allowed.contains tag.name then
      listUnwrapped allowed children ++ listUnwrapped allowed rest
    else
      .element i tag attributes [] [] ::
        (listUnwrapped allowed children ++ listUnwrapped allowed rest)
termination_by ns => sizeOf ns
decreasing_by
  all_goals
    simp only [List.cons.sizeOf_spec, root.sizeOf_spec, element.sizeOf_spec]
    omega
end

mutual
/-- One pass: every element below the node whose name is not allowed gives way to
its template contents and its children. The contents are not looked into. -/
def unwrapPass (allowed : List String) : Node → Node
  | .leaf i content => .leaf i content
  | .root i kind children => .root i kind (listUnwrapPass allowed children)
  | .element i tag attributes contents children =>
    .element i tag attributes contents (listUnwrapPass allowed children)
def listUnwrapPass (allowed : List String) : List Node → List Node
  | [] => []
  | .leaf i content :: rest => .leaf i content :: listUnwrapPass allowed rest
  | .root i kind children :: rest =>
    .root i kind (listUnwrapPass allowed children) :: listUnwrapPass allowed rest
  | .element i tag attributes contents children :: rest =>
    if allowed.contains tag.name then
      .element i tag attributes contents (listUnwrapPass allowed children) ::
        listUnwrapPass allowed rest
    else
      contents ++ listUnwrapPass allowed children ++ listUnwrapPass allowed rest
termination_by ns => sizeOf ns
decreasing_by
  all_goals
    simp only [List.cons.sizeOf_spec, root.sizeOf_spec, element.sizeOf_spec]
    omega
end

theorem listSize_append (a b : List Node) : listSize (a ++ b) = listSize a + listSize b := by
  induction a with
  | nil => simp [listSize]
  | cons n rest ih => simp [listSize, ih, Nat.add_assoc]

/-- A pass takes away the elements it unwraps, one node for each. -/
theorem listSize_listUnwrapPass (allowed : List String) (ns : List Node) :
    listSize (listUnwrapPass allowed ns) + (listUnwrapped allowed ns).length = listSize ns := by
  fun_induction listUnwrapPass allowed ns <;>
    simp_all [listUnwrapped, listSize, size, listSize_append] <;> omega

theorem size_unwrapPass (allowed : List String) (n : Node) :
    (n.unwrapPass allowed).size + (n.unwrapped allowed).length = n.size := by
  cases n with
  | leaf => simp [unwrapPass, unwrapped, size]
  | root i k children =>
    have := listSize_listUnwrapPass allowed children
    simp only [unwrapPass, unwrapped, size]; omega
  | element i t a c children =>
    have := listSize_listUnwrapPass allowed children
    simp only [unwrapPass, unwrapped, size]; omega

/-- Passes until no element below the node has a name that is not allowed; with the
result, the elements that were unwrapped. -/
def unwrap (allowed : List String) (n : Node) : Node × List Node :=
  match _h : n.unwrapped allowed with
  | [] => (n, [])
  | first :: more =>
    let (result, later) := (n.unwrapPass allowed).unwrap allowed
    (result, first :: more ++ later)
termination_by n.size
decreasing_by
  have := size_unwrapPass allowed n
  simp [_h] at this
  omega

-- --------------------------------------------------------------------
-- Stripping
-- --------------------------------------------------------------------

mutual
/-- The tree without the attributes of those names, of whatever vocabulary. -/
def strip (names : List String) : Node → Node
  | .leaf i content => .leaf i content
  | .root i kind children => .root i kind (listStrip names children)
  | .element i tag attributes contents children =>
    .element i tag (attributes.filter fun a => !names.contains a.name) contents
      (listStrip names children)
def listStrip (names : List String) : List Node → List Node
  | [] => []
  | n :: rest => n.strip names :: listStrip names rest
end

end Node

end PageRecords.Dom
