import PageRecords.Proofs.Dom.Editing
import PageRecords.Proofs.Selector.Shape

/-!
# Removal by selector

Removing what a selector selects below a node, said without identities: a node goes
if the selector accepts it where it stands before anything is removed. In a
well-formed forest that is what removal by identity comes to.
-/

namespace PageRecords.Dom

namespace Node

mutual
/-- What stays of a node that stands at `here` when the nodes below go whose places
are `gone`. Places are those of the tree before. -/
def cutAt (gone : Place → Bool) (here : Place) : Node → Node
  | .leaf i content => .leaf i content
  | .root i kind children => .root i kind (listCutAt gone here [] children)
  | .element i tag attributes contents children =>
    .element i tag attributes contents (listCutAt gone here [] children)
def listCutAt (gone : Place → Bool) (parent : Place) (left : List Node) : List Node → List Node
  | [] => []
  | n :: rest =>
    let here := Place.under parent left n rest
    if gone here then listCutAt gone parent (n :: left) rest
    else n.cutAt gone here :: listCutAt gone parent (n :: left) rest
end

/-- A tree without what the selector selects below its root. -/
def cut (s : Selector) (n : Node) : Node := n.cutAt s.accepts (.top n)

mutual
theorem prune_eq_cutAt {gone : Place → Bool} {ids : List NodeId} {here : Place} : (n : Node) →
    (∀ q ∈ Place.listOf here n, ids.contains q.node.id = gone q) → n.prune ids = n.cutAt gone here
  | .leaf _ _, _ => rfl
  | .root _ _ children, h => by
    simp only [prune, cutAt, listPrune_eq_listCutAt children h]
  | .element _ _ _ _ children, h => by
    simp only [prune, cutAt, listPrune_eq_listCutAt children h]
theorem listPrune_eq_listCutAt {gone : Place → Bool} {ids : List NodeId} {parent : Place}
    {left : List Node} : (ns : List Node) →
    (∀ q ∈ Place.listBelow parent left ns, ids.contains q.node.id = gone q) →
    listPrune ids ns = listCutAt gone parent left ns
  | [], _ => rfl
  | n :: rest, h => by
    simp only [Place.listBelow, List.mem_cons, List.mem_append] at h
    have hn := h _ (.inl rfl)
    simp only [listPrune, listCutAt, ← hn, Place.node_under,
      prune_eq_cutAt n fun q hq => h q (.inr (.inl hq)),
      listPrune_eq_listCutAt rest fun q hq => h q (.inr (.inr hq))]
end

mutual
/-- Removal that asks about shapes does the same to the shape. -/
theorem shape_cutAt {gone : Place → Bool} (hgone : ∀ p : Place, gone p.shape = gone p)
    (here : Place) : (n : Node) → (n.cutAt gone here).shape = n.shape.cutAt gone here.shape
  | .leaf _ _ => rfl
  | .root _ _ children => by
    simpa [cutAt, shape] using map_shape_listCutAt hgone here [] children
  | .element _ _ _ _ children => by
    simpa [cutAt, shape] using map_shape_listCutAt hgone here [] children
theorem map_shape_listCutAt {gone : Place → Bool} (hgone : ∀ p : Place, gone p.shape = gone p)
    (parent : Place) (left : List Node) : (ns : List Node) →
    (listCutAt gone parent left ns).map shape =
      listCutAt gone parent.shape (left.map shape) (ns.map shape)
  | [] => rfl
  | n :: rest => by
    have hhere := hgone (.under parent left n rest)
    have hn := shape_cutAt hgone (.under parent left n rest) n
    have hrest := map_shape_listCutAt hgone parent (n :: left) rest
    simp only [Place.shape, List.map_cons] at hhere hn hrest
    simp only [listCutAt, List.map_cons, hhere]
    split
    · exact hrest
    · rw [List.map_cons, hn, hrest]
end

@[simp] theorem shape_cut (s : Selector) (n : Node) : (n.cut s).shape = n.shape.cut s :=
  shape_cutAt s.accepts_shape (.top n) n

end Node

namespace Forest

variable {f : Forest} {i : NodeId} {p : Place} {t : Node}

/-- Identities are distinct, so a node was selected exactly if it is accepted where it stands. -/
theorem contains_select (wf : f.WellFormed) (hp : f.place? i = some p) (s : Selector) :
    ∀ q ∈ p.descendants, (f.select i s).contains q.node.id = s.accepts q := by
  have hnodup := wf.nodup_descendants (mem_places_of_place? hp).1
  intro q hq
  rw [select, hp, Bool.eq_iff_iff, List.contains_iff_mem, List.mem_map]
  constructor
  · rintro ⟨r, hr, hrq⟩
    rw [List.mem_filter] at hr
    have hsame := List.inj_on_of_nodup_map hnodup hr.1 hq hrq
    exact hsame ▸ hr.2
  · intro haccepts
    exact ⟨q, List.mem_filter.mpr ⟨hq, haccepts⟩, rfl⟩

theorem prune_select (wf : f.WellFormed) (ht : t ∈ f.trees) (s : Selector) :
    t.prune (f.select t.id s) = t.cut s :=
  Node.prune_eq_cutAt t (contains_select wf (place?_root wf ht) s)

end Forest

end PageRecords.Dom
