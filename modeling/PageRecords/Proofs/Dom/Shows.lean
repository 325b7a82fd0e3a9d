import Mathlib.Data.List.Forall2
import PageRecords.Proofs.Dom.Growth
import PageRecords.Proofs.Dom.Removal

/-!
# Operations read off places

In a well-formed forest each operation on a node depends on the shape of the
node's place only. `Shows` ties a node to that shape, `Roots` ties the root of a
tree to the shape of the tree. Both survive growth.
-/

namespace PageRecords.Dom

namespace Forest

variable {f g : Forest} {i : NodeId} {p q : Place} {n t u : Node}

/-- The node stands at a place of that shape. -/
def Shows (f : Forest) (i : NodeId) (p : Place) : Prop := ∃ q, f.place? i = some q ∧ q.shape = p

/-- The node is the root of a tree of that shape. -/
def Roots (f : Forest) (i : NodeId) (n : Node) : Prop := ∃ t ∈ f.trees, t.id = i ∧ t.shape = n

theorem exists_shows (h : (f.place? i).isSome) : ∃ p, f.Shows i p := by
  obtain ⟨q, hq⟩ := Option.isSome_iff_exists.mp h
  exact ⟨q.shape, q, hq, rfl⟩

theorem Shows.grow (hg : Grows f g) (wf : g.WellFormed) (h : f.Shows i p) : g.Shows i p := by
  obtain ⟨q, hq, rfl⟩ := h
  exact ⟨q, hg.place? wf hq, rfl⟩

theorem Roots.grow (hg : Grows f g) (h : f.Roots i n) : g.Roots i n := by
  obtain ⟨t, ht, hid, hn⟩ := h
  exact ⟨t, hg.mem_trees ht, hid, hn⟩

theorem Roots.shows (wf : f.WellFormed) (h : f.Roots i n) : f.Shows i (.top n) := by
  obtain ⟨t, ht, rfl, rfl⟩ := h
  exact ⟨.top t, place?_root wf ht, rfl⟩

theorem shows_of_mem (wf : f.WellFormed) (hq : q ∈ f.places) : f.Shows q.node.id q.shape :=
  ⟨q, place?_of_mem wf hq, rfl⟩

/-- Nodes whose places are listed show the shapes of those places, in the same order. -/
theorem forall₂_shows (wf : f.WellFormed) {qs : List Place} (h : qs ⊆ f.places) :
    List.Forall₂ f.Shows (qs.map (·.node.id)) (qs.map Place.shape) := by
  rw [List.forall₂_map_left_iff, List.forall₂_map_right_iff, List.forall₂_same]
  exact fun q hq => shows_of_mem wf (h hq)

-- --------------------------------------------------------------------
-- Reading
-- --------------------------------------------------------------------

theorem select_shows (wf : f.WellFormed) (h : f.Shows i p) (s : Selector) :
    List.Forall₂ f.Shows (f.select i s) (p.descendants.filter s.accepts) := by
  obtain ⟨q, hq, rfl⟩ := h
  have hshape : q.shape.descendants.filter s.accepts =
      (q.descendants.filter s.accepts).map Place.shape := by
    simp [List.filter_map, Function.comp_def]
  rw [select, hq, hshape]
  refine forall₂_shows wf fun r hr => ?_
  exact descendants_subset_places (mem_places_of_place? hq).1 (List.mem_filter.mp hr).1

/-- What is selected below a node is what is accepted there, in document order. -/
theorem select_eq_filter (wf : f.WellFormed) (i : NodeId) (s : Selector) :
    f.select i s = (f.node i).liveIds.filter (f.accepts · s) := by
  cases hp : f.place? i with
  | none => simp [select, node, hp, Node.liveIds, Node.listLiveIds]
  | some p =>
    have hids : p.node.liveIds = p.descendants.map (·.node.id) := (Place.map_id_listOf p _).symm
    rw [select, hp, node_of_place? hp, hids, List.filter_map]
    refine congrArg (List.map _) (List.filter_congr fun r hr => ?_)
    have hplace := place?_of_mem wf (descendants_subset_places (mem_places_of_place? hp).1 hr)
    simp [accepts, hplace]

theorem accepts_of_shows (h : f.Shows i p) (s : Selector) : f.accepts i s = s.accepts p := by
  obtain ⟨q, hq, rfl⟩ := h
  simp [accepts, hq]

theorem siblingsUntil_shows (wf : f.WellFormed) (h : f.Shows i p) (stop : Selector) :
    List.Forall₂ f.Shows (f.siblingsUntil i stop)
      ((p.next.filter (·.node.isElement)).takeWhile fun q => !stop.accepts q) := by
  obtain ⟨q, hq, rfl⟩ := h
  have hshape : (q.shape.next.filter (·.node.isElement)).takeWhile (fun r => !stop.accepts r) =
      ((q.next.filter (·.node.isElement)).takeWhile fun r => !stop.accepts r).map Place.shape := by
    simp [List.filter_map, List.takeWhile_map, Function.comp_def]
  rw [siblingsUntil, hq, hshape]
  refine forall₂_shows wf fun r hr => ?_
  exact next_subset_places (mem_places_of_place? hq).1
    (List.mem_filter.mp ((List.takeWhile_sublist _).mem hr)).1

theorem node_of_shows (h : f.Shows i p) : (f.node i).shape = p.node := by
  obtain ⟨q, hq, rfl⟩ := h
  simp [node_of_place? hq]

theorem attribute?_of_shows (h : f.Shows i p) (name : String) :
    f.attribute? i name = p.node.attribute? name.toLower := by
  rw [attribute?, ← node_of_shows h, Node.attribute?_shape]

-- --------------------------------------------------------------------
-- Copying
-- --------------------------------------------------------------------

theorem plant_roots (f : Forest) (n : Node) : (f.plant n).2.Roots f.fresh n.shape :=
  ⟨(n.renumber f.fresh).1, by simp [plant_trees], by simp, by simp⟩

@[simp] theorem children_wrapper (ns : List Node) : (wrapper ns).children = ns := by
  rw [wrapper]
  split <;> rfl

theorem shape_wrapper (ns : List Node) : (wrapper ns).shape = wrapper (ns.map Node.shape) := by
  have htag : (ns.map Node.shape).findSome? Node.tag? = ns.findSome? Node.tag? := by
    simp [List.findSome?_map, Function.comp_def]
  simp only [wrapper, htag]
  cases ns.findSome? Node.tag? <;> simp [Node.shape]

theorem shape_wrapper_nodes {ids : List NodeId} {ps : List Place}
    (h : List.Forall₂ f.Shows ids ps) :
    (wrapper (ids.map f.node)).shape = wrapper (ps.map Place.node) := by
  have hnodes : (ids.map f.node).map Node.shape = ps.map Place.node := by
    induction h with
    | nil => rfl
    | cons h _ ih => simp [node_of_shows h, ih]
  rw [shape_wrapper, hnodes]

-- --------------------------------------------------------------------
-- Changing
-- --------------------------------------------------------------------

/-- Work on one tree leaves the roots of the others alone. -/
theorem Reworked.roots (h : Reworked f g t u) (hne : i ≠ t.id) (hi : f.Roots i n) :
    g.Roots i n := by
  obtain ⟨v, hv, rfl, rfl⟩ := hi
  exact ⟨v, h.others v hv hne, rfl, rfl⟩

theorem Reworked.root (h : Reworked f g t u) : g.Roots t.id u.shape :=
  ⟨u, h.mem, h.id, rfl⟩

theorem shape_removeMatching (wf : f.WellFormed) (ht : t ∈ f.trees) (s : Selector) :
    (t.prune (f.select t.id s)).shape = t.shape.cut s := by
  rw [prune_select wf ht, Node.shape_cut]

end Forest

end PageRecords.Dom
