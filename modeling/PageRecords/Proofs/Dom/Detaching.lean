import Mathlib.Data.List.Perm.Basic
import PageRecords.Proofs.Dom.Flattening
import PageRecords.Proofs.Dom.Removal

/-!
# Removal one node at a time

Removal by a selector collects what the selector accepts below a node and then detaches the nodes
collected, one after the other. Those inside others are detached from nodes that stand alone by
then. `Forest.foldl_detach` says that this comes to one pass over the trees, and
`removal_is_simultaneous` what is left: all that is asked is asked of the tree as it was before.
-/

namespace PageRecords.Dom

open Node (listIds)

namespace Node

variable {i : NodeId} {is js : List NodeId} {n : Node} {ns : List Node}

-- --------------------------------------------------------------------
-- Taking out
-- --------------------------------------------------------------------

/-- What a tree comes to when nodes are taken out of it: these, and what is left. -/
def apart (is : List NodeId) (n : Node) : List Node := n.pruned is ++ [n.prune is]

mutual
theorem prune_prune (is js : List NodeId) : (n : Node) → (n.prune is).prune js = n.prune (is ++ js)
  | .leaf _ _ => rfl
  | .root _ _ children => by simp only [prune, listPrune_listPrune is js children]
  | .element _ _ _ _ children => by simp only [prune, listPrune_listPrune is js children]
theorem listPrune_listPrune (is js : List NodeId) :
    (ns : List Node) → listPrune js (listPrune is ns) = listPrune (is ++ js) ns
  | [] => rfl
  | n :: rest => by
    have hn := prune_prune is js n
    have hrest := listPrune_listPrune is js rest
    by_cases hi : n.id ∈ is <;> by_cases hj : n.id ∈ js <;>
      simp [listPrune, id_prune, hi, hj, hn, hrest]
end

mutual
/-- It does not matter whether nodes are taken out in one go or in two, the second one also from
what the first one took out. -/
theorem pruned_append (is js : List NodeId) : (n : Node) →
    ((n.pruned is).flatMap (apart js) ++ (n.prune is).pruned js).Perm (n.pruned (is ++ js))
  | .leaf _ _ => .nil
  | .root _ _ children => listPruned_append is js children
  | .element _ _ _ _ children => listPruned_append is js children
theorem listPruned_append (is js : List NodeId) : (ns : List Node) →
    ((listPruned is ns).flatMap (apart js) ++ listPruned js (listPrune is ns)).Perm
      (listPruned (is ++ js) ns)
  | [] => .nil
  | n :: rest => by
    classical
    rw [List.perm_iff_count]
    intro m
    have hn := (pruned_append is js n).count_eq m
    have hrest := (listPruned_append is js rest).count_eq m
    by_cases hi : n.id ∈ is <;> by_cases hj : n.id ∈ js <;>
      simp [listPruned, listPrune, id_prune, hi, hj, apart, prune_prune, List.count_cons]
        at hn hrest ⊢ <;>
      omega
end

theorem apart_append (is js : List NodeId) (n : Node) :
    ((n.apart is).flatMap (apart js)).Perm (n.apart (is ++ js)) := by
  have htaken := (pruned_append is js n).append_right [n.prune (is ++ js)]
  simpa [apart, prune_prune] using htaken

mutual
theorem apart_of_not_mem : (n : Node) → (∀ i ∈ is, i ∉ n.liveIds) →
    n.pruned is = [] ∧ n.prune is = n
  | .leaf _ _, _ => ⟨rfl, rfl⟩
  | .root _ _ children, h => by
    obtain ⟨hpruned, hprune⟩ := listApart_of_not_mem children h
    exact ⟨hpruned, by rw [prune, hprune]⟩
  | .element _ _ _ _ children, h => by
    obtain ⟨hpruned, hprune⟩ := listApart_of_not_mem children h
    exact ⟨hpruned, by rw [prune, hprune]⟩
theorem listApart_of_not_mem : (ns : List Node) → (∀ i ∈ is, i ∉ listLiveIds ns) →
    listPruned is ns = [] ∧ listPrune is ns = ns
  | [], _ => ⟨rfl, rfl⟩
  | n :: rest, h => by
    simp only [listLiveIds, List.mem_cons, List.mem_append, not_or] at h
    have hn : n.id ∉ is := fun hmem => (h _ hmem).1 rfl
    obtain ⟨hpruned, hprune⟩ := apart_of_not_mem n fun i hi => (h i hi).2.1
    obtain ⟨hpruned', hprune'⟩ := listApart_of_not_mem rest fun i hi => (h i hi).2.2
    simp [listPruned, listPrune, hn, hpruned, hprune, hpruned', hprune']
end

theorem flatMap_apart_of_not_mem (h : ∀ i ∈ is, i ∉ listIds ns) : ns.flatMap (apart is) = ns := by
  induction ns with
  | nil => rfl
  | cons n rest ih =>
    simp only [listIds, List.mem_append, not_or] at h
    obtain ⟨hpruned, hprune⟩ := apart_of_not_mem n fun i hi hmem =>
      (h i hi).1 ((liveIds_sublist_ids n).mem (List.mem_cons_of_mem _ hmem))
    rw [List.flatMap_cons, ih fun i hi => (h i hi).2, apart, hpruned, hprune]
    rfl

theorem liveIds_subset_of_mem_listOf {here q : Place} (hq : q ∈ Place.listOf here n) :
    q.node.liveIds ⊆ n.liveIds := by
  rw [← Place.map_id_listOf here n, ← Place.map_id_listOf q q.node]
  exact ((Place.descendants_sublist_listOf n hq).map _).subset

theorem liveIds_subset_of_mem_listBelow {parent q : Place} {left : List Node}
    (hq : q ∈ Place.listBelow parent left ns) : q.node.liveIds ⊆ listLiveIds ns := by
  rw [← Place.map_id_listBelow parent left ns, ← Place.map_id_listOf q q.node]
  exact ((Place.descendants_sublist_listBelow ns hq).map _).subset

mutual
/-- What is taken out from below one node is taken out by a change of that node. -/
theorem apart_below {here q : Place} : (n : Node) → n.ids.Nodup → q ∈ Place.listOf here n →
    (∀ i ∈ is, i ∈ q.node.liveIds) →
    n.pruned is = q.node.pruned is ∧ n.prune is = n.edit q.node.id (prune is)
  | .leaf _ _, _, hq, _ => by simp [Place.listOf] at hq
  | .root k kind children, hnodup, hq, his => by
    rw [ids, List.nodup_cons] at hnodup
    have hne : k ≠ q.node.id := fun h => hnodup.1 (h ▸ id_mem_of_mem_listBelow hq)
    obtain ⟨hpruned, hprune⟩ := listApart_below children hnodup.2 hq his
    exact ⟨hpruned, by rw [prune, edit, if_neg hne, hprune]⟩
  | .element k tag attributes contents children, hnodup, hq, his => by
    rw [ids, List.nodup_cons, List.nodup_append'] at hnodup
    have hne : k ≠ q.node.id := fun h =>
      hnodup.1 (List.mem_append_right _ (h ▸ id_mem_of_mem_listBelow hq))
    obtain ⟨hpruned, hprune⟩ := listApart_below children hnodup.2.2.1 hq his
    exact ⟨hpruned, by rw [prune, edit, if_neg hne, hprune]⟩
theorem listApart_below {parent q : Place} {left : List Node} : (ns : List Node) →
    (listIds ns).Nodup → q ∈ Place.listBelow parent left ns → (∀ i ∈ is, i ∈ q.node.liveIds) →
    listPruned is ns = q.node.pruned is ∧ listPrune is ns = listEdit q.node.id (prune is) ns
  | [], _, hq, _ => by simp [Place.listBelow] at hq
  | n :: rest, hnodup, hq, his => by
    rw [listIds, List.nodup_append'] at hnodup
    obtain ⟨hn, hrest, hapart⟩ := hnodup
    have hlive := liveIds_sublist_ids n
    have hnot : n.id ∉ n.liveIds := (List.nodup_cons.mp (hn.sublist hlive)).1
    have hlater := listLiveIds_sublist_listIds rest
    simp only [Place.listBelow, List.mem_cons, List.mem_append] at hq
    rcases hq with rfl | hq | hq
    · have hother : ∀ i ∈ is, i ∉ listLiveIds rest := fun i hi hmem =>
        hapart (hlive.mem (List.mem_cons_of_mem _ (his i hi))) (hlater.mem hmem)
      obtain ⟨hpruned, hprune⟩ := listApart_of_not_mem rest hother
      have hstays : n.id ∉ is := fun hmem => hnot (his _ hmem)
      have hedit : listEdit n.id (prune is) rest = rest :=
        listEdit_of_not_mem rest (hapart (id_mem_ids n))
      simp [listPruned, listPrune, listEdit, hstays, hpruned, hprune, edit_self, hedit]
    · have hinside := fun i hi => liveIds_subset_of_mem_listOf hq (his i hi)
      have hother : ∀ i ∈ is, i ∉ listLiveIds rest := fun i hi hmem =>
        hapart (hlive.mem (List.mem_cons_of_mem _ (hinside i hi))) (hlater.mem hmem)
      obtain ⟨hpruned, hprune⟩ := listApart_of_not_mem rest hother
      obtain ⟨hpruned', hprune'⟩ := apart_below n hn hq his
      have hstays : n.id ∉ is := fun hmem => hnot (hinside _ hmem)
      have hmem := hlive.mem (List.mem_cons_of_mem _ (id_mem_of_mem_listOf hq))
      have hedit : listEdit q.node.id (prune is) rest = rest :=
        listEdit_of_not_mem rest (hapart hmem)
      simp [listPruned, listPrune, listEdit, hstays, hpruned, hprune, hpruned', hprune', hedit]
    · have hinside := fun i hi => liveIds_subset_of_mem_listBelow hq (his i hi)
      have hother : ∀ i ∈ is, i ∉ n.id :: n.liveIds := fun i hi hmem =>
        hapart (hlive.mem hmem) (hlater.mem (hinside i hi))
      obtain ⟨hpruned, hprune⟩ := apart_of_not_mem n fun i hi hmem =>
        hother i hi (List.mem_cons_of_mem _ hmem)
      obtain ⟨hpruned', hprune'⟩ := listApart_below rest hrest hq his
      have hstays : n.id ∉ is := fun hmem => hother _ hmem List.mem_cons_self
      have hedit : n.edit q.node.id (prune is) = n := edit_of_not_mem n fun hmem =>
        hapart hmem (id_mem_of_mem_listBelow hq)
      simp [listPruned, listPrune, listEdit, hstays, hpruned, hprune, hpruned', hprune', hedit]
end

end Node

namespace Forest

variable {f : Forest} {i : NodeId} {p : Place}

-- --------------------------------------------------------------------
-- One after the other
-- --------------------------------------------------------------------

/-- Takes a node out of the tree that it stands in; it stands alone then. -/
def detach (f : Forest) (i : NodeId) : Forest := ⟨f.trees.flatMap (·.apart [i]), f.fresh⟩

/-- Detaching nodes one after the other, in whatever order, takes them out in one go. -/
theorem foldl_detach (is : List NodeId) (f : Forest) :
    (is.foldl detach f).trees.Perm (f.trees.flatMap (·.apart is)) := by
  induction is generalizing f with
  | nil =>
    rw [Node.flatMap_apart_of_not_mem (by simp)]
    exact .refl _
  | cons i is ih =>
    refine (ih (f.detach i)).trans ?_
    rw [detach, List.flatMap_assoc]
    exact List.Perm.flatMap_left _ fun t _ => Node.apart_append [i] is t

theorem select_subset_liveIds (hp : f.place? i = some p) (s : Selector) :
    f.select i s ⊆ p.node.liveIds := by
  rw [select, hp, ← Place.map_id_listOf p p.node]
  exact List.map_subset _ List.filter_sublist.subset

/-- Removal by a selector detaches what it selected, and nothing else. -/
theorem foldl_detach_select (wf : f.WellFormed) (hp : f.place? i = some p) (s : Selector) :
    ((f.select i s).foldl detach f).trees.Perm (f.removeMatching i s).trees := by
  refine (foldl_detach _ f).trans ?_
  have hfound := select_subset_liveIds hp s
  rw [removeMatching, node_of_place? hp]
  generalize f.select i s = found at hfound ⊢
  obtain ⟨hmem, rfl⟩ := mem_places_of_place? hp
  obtain ⟨t, ht, htop⟩ := List.mem_flatMap.mp hmem
  obtain ⟨before, after, htrees⟩ := List.append_of_mem ht
  have hlive := (Node.liveIds_sublist_ids t).mem (id_mem_of_mem_inclusiveDescendants htop)
  rw [edit_add_trees _ _ wf htrees hlive, htrees]
  obtain ⟨hpruned, hprune, hfound⟩ : t.pruned found = p.node.pruned found ∧
      t.prune found = t.edit p.node.id (·.prune found) ∧ ∀ j ∈ found, j ∈ t.ids := by
    rw [Place.inclusiveDescendants, List.mem_cons] at htop
    rcases htop with rfl | hbelow
    · exact ⟨rfl, (Node.edit_self _ t).symm, fun j hj =>
        (Node.liveIds_sublist_ids t).mem (List.mem_cons_of_mem _ (hfound hj))⟩
    · obtain ⟨hpruned, hprune⟩ := Node.apart_below t (wf.nodup_tree ht) hbelow hfound
      exact ⟨hpruned, hprune, fun j hj => (Node.liveIds_sublist_ids t).mem
        (List.mem_cons_of_mem _ (Node.liveIds_subset_of_mem_listOf hbelow (hfound hj)))⟩
  have hnodup := wf.nodup
  rw [htrees, Node.listIds_append, List.nodup_append', listIds, List.nodup_append'] at hnodup
  obtain ⟨-, ⟨-, -, hafter⟩, hbefore⟩ := hnodup
  have hbefore : before.flatMap (·.apart found) = before :=
    Node.flatMap_apart_of_not_mem fun j hj hmem =>
      hbefore hmem (List.mem_append_left _ (hfound j hj))
  have hafter : after.flatMap (·.apart found) = after :=
    Node.flatMap_apart_of_not_mem fun j hj hmem => hafter (hfound j hj) hmem
  rw [List.flatMap_append, List.flatMap_cons, hbefore, hafter, Node.apart, hpruned, hprune]
  simpa using List.perm_append_comm_assoc before (p.node.pruned found) _

end Forest

-- --------------------------------------------------------------------
-- What is left
-- --------------------------------------------------------------------

namespace Place

variable {gone : Place → Bool} {p : Place} {ps qs : List Place}

/-- What a place says of its node alone: the node without its children, and whose child it is. -/
def entry (p : Place) : Node × Option NodeId := (p.node.bare, p.parent?.map (·.node.id))

@[simp] theorem entry_id (p : Place) : p.entry.1.id = p.node.id := by
  cases h : p.node <;> simp [entry, Node.bare, Node.withChildren, Node.id, h]

/-- Some of the places go, and the node of that identity lies below one of those that do. -/
def coversId (gone : Place → Bool) (ps : List Place) (i : NodeId) : Bool :=
  ps.any fun y => gone y && y.node.liveIds.contains i

/-- The places of a list that stay when some go: those that neither go nor lie below one that
goes. -/
def staying (gone : Place → Bool) (ps : List Place) : List Place :=
  ps.filter fun x => !gone x && !coversId gone ps x.node.id

theorem coversId_of_not_mem {i : NodeId} (h : ∀ y ∈ ps, i ∉ y.node.liveIds) :
    coversId gone ps i = false := by
  rw [coversId, List.any_eq_false]
  intro y hy
  simp [h y hy]

/-- A place, those below it and those after it: the last have nothing to do with the others. -/
theorem staying_cons (hself : p.node.id ∉ p.node.liveIds)
    (hbelow : ∀ x ∈ ps, x.node.id ∈ p.node.liveIds ∧ x.node.liveIds ⊆ p.node.liveIds)
    (hafter : ∀ x ∈ qs, x.node.id ∉ p.node.liveIds)
    (happart : ∀ x ∈ qs, ∀ i ∈ p.node.id :: p.node.liveIds, i ∉ x.node.liveIds) :
    staying gone (p :: (ps ++ qs)) =
      (if gone p then [] else p :: staying gone ps) ++ staying gone qs := by
  have hcovers : ∀ i, coversId gone (p :: (ps ++ qs)) i =
      (gone p && p.node.liveIds.contains i || (coversId gone ps i || coversId gone qs i)) :=
    fun i => by simp [coversId]
  have hhere : coversId gone (p :: (ps ++ qs)) p.node.id = false := by
    rw [hcovers, @coversId_of_not_mem gone ps _ fun y hy hmem => hself ((hbelow y hy).2 hmem),
      @coversId_of_not_mem gone qs _ fun y hy => happart y hy _ List.mem_cons_self]
    simp [hself]
  have hps : ps.filter (fun x => !gone x && !coversId gone (p :: (ps ++ qs)) x.node.id) =
      if gone p then [] else staying gone ps := by
    have hcovered : ∀ x ∈ ps, coversId gone (p :: (ps ++ qs)) x.node.id =
        (gone p || coversId gone ps x.node.id) := fun x hx => by
      rw [hcovers, @coversId_of_not_mem gone qs _ fun y hy =>
        happart y hy _ (List.mem_cons_of_mem _ (hbelow x hx).1)]
      simp [(hbelow x hx).1]
    rw [List.filter_congr fun x hx => by rw [hcovered x hx]]
    cases gone p <;> simp [staying]
  have hqs : qs.filter (fun x => !gone x && !coversId gone (p :: (ps ++ qs)) x.node.id) =
      staying gone qs := by
    refine List.filter_congr fun x hx => ?_
    rw [hcovers, @coversId_of_not_mem gone ps _ fun y hy hmem =>
      hafter x hx ((hbelow y hy).2 hmem)]
    simp [hafter x hx]
  rw [staying, List.filter_cons, hhere, List.filter_append, hps, hqs]
  cases gone p <;> rfl

end Place

namespace Node

variable {gone : Place → Bool}

open Place (entry staying)

theorem id_cutAt (gone : Place → Bool) (here : Place) (n : Node) :
    (n.cutAt gone here).id = n.id := by
  cases n <;> rfl

theorem bare_cutAt (gone : Place → Bool) (here : Place) (n : Node) :
    (n.cutAt gone here).bare = n.bare := by
  cases n <;> rfl

mutual
/-- What stands below a node after a removal, by what stood below it before. -/
theorem entries_cutAt {here here' : Place} (hid : here'.node.id = here.node.id) : (n : Node) →
    n.liveIds.Nodup → (Place.listOf here' (n.cutAt gone here)).map entry =
      (staying gone (Place.listOf here n)).map entry
  | .leaf _ _, _ => rfl
  | .root _ _ children, h => entries_listCutAt hid [] [] children h
  | .element _ _ _ _ children, h => entries_listCutAt hid [] [] children h
theorem entries_listCutAt {parent parent' : Place} (hid : parent'.node.id = parent.node.id)
    (left left' : List Node) : (ns : List Node) → (listLiveIds ns).Nodup →
    (Place.listBelow parent' left' (listCutAt gone parent left ns)).map entry =
      (staying gone (Place.listBelow parent left ns)).map entry
  | [], _ => rfl
  | n :: rest, h => by
    rw [listLiveIds, List.nodup_cons, List.nodup_append', List.mem_append, not_or] at h
    obtain ⟨⟨hself, hlater⟩, hn, hrest, hapart⟩ := h
    have hids : ∀ x ∈ Place.listBelow parent (n :: left) rest, x.node.id ∈ listLiveIds rest :=
      fun x hx => by
        rw [← Place.map_id_listBelow parent (n :: left) rest]
        exact List.mem_map_of_mem hx
    have hstays := @Place.staying_cons gone (.under parent left n rest)
      (Place.listOf (.under parent left n rest) n) (Place.listBelow parent (n :: left) rest) hself
      (fun x hx => ⟨id_mem_of_mem_listOf hx, liveIds_subset_of_mem_listOf hx⟩)
      (fun x hx hmem => hapart hmem (hids x hx)) fun x hx i hi hmem => by
        have hmem' := liveIds_subset_of_mem_listBelow hx hmem
        rcases List.mem_cons.mp hi with rfl | hi
        · exact hlater hmem'
        · exact hapart hi hmem'
    rw [Place.listBelow, hstays, listCutAt]
    split
    · exact entries_listCutAt hid (n :: left) left' rest hrest
    · have hbelow := @entries_cutAt (.under parent left n rest)
        (.under parent' left' (n.cutAt gone (.under parent left n rest))
          (listCutAt gone parent (n :: left) rest)) (id_cutAt gone _ n) n hn
      have hrest := entries_listCutAt hid (n :: left)
        (n.cutAt gone (.under parent left n rest) :: left') rest hrest
      rw [Place.listBelow, List.map_cons, List.map_append, hbelow, hrest]
      simp [entry, Place.parent?, bare_cutAt, hid]
end

mutual
/-- What is taken out, in document order. -/
theorem pruned_eq_map (is : List NodeId) (here : Place) : (n : Node) →
    n.pruned is = ((Place.listOf here n).filter fun x => is.contains x.node.id).map
      fun x => x.node.prune is
  | .leaf _ _ => rfl
  | .root _ _ children => listPruned_eq_map is here [] children
  | .element _ _ _ _ children => listPruned_eq_map is here [] children
theorem listPruned_eq_map (is : List NodeId) (parent : Place) (left : List Node) :
    (ns : List Node) → listPruned is ns =
      ((Place.listBelow parent left ns).filter fun x => is.contains x.node.id).map
        fun x => x.node.prune is
  | [] => rfl
  | n :: rest => by
    rw [listPruned, Place.listBelow, List.filter_cons, List.filter_append,
      pruned_eq_map is (.under parent left n rest) n,
      listPruned_eq_map is parent (n :: left) rest, Place.node_under]
    split <;> simp
end

end Node

namespace Forest

variable {f : Forest} {i : NodeId} {p y : Place} {s : Selector}

/-- A node without what was selected in it. -/
theorem prune_select_below (wf : f.WellFormed) (hp : f.place? i = some p) (s : Selector)
    (hy : y = p ∨ y ∈ p.descendants) :
    y.node.prune (f.select i s) = y.node.cutAt s.accepts y := by
  refine Node.prune_eq_cutAt y.node fun q hq => contains_select wf hp s q ?_
  rcases hy with rfl | hy
  · exact hq
  · exact (Place.descendants_sublist_listOf p.node hy).mem hq

/-- With the children of the changed node left off, the trees are as they were. -/
theorem map_bare_edit_add {change : Node → Node} {out : List Node}
    (hid : ∀ n, (change n).id = n.id) (hbare : ∀ n, (change n).bare = n.bare)
    (hout : i ∉ listIds out) : ((f.edit i change).add out).trees.map (·.edit i Node.bare) =
      out ++ f.trees.map (·.edit i Node.bare) := by
  have hhidden : ∀ t : Node, (t.edit i change).edit i Node.bare = t.edit i Node.bare :=
    Node.edit_edit hid hbare
  simp only [add, edit, List.map_append, List.map_map, Function.comp_def, hhidden,
    map_edit_of_not_mem hout]

/-- Removal by a selector takes out all that the selector accepts below a node, and asks about
the tree as it was. Below the node stay, in order, with all that is theirs and under their
parents, the nodes that were neither accepted nor below an accepted one. Those accepted stand
alone, each with what stays below it by the same rule; with the children of the node left off,
the other trees are as they were. To detach the accepted nodes one after the other comes to the
same. A node that a template holds has no place and is left out. -/
theorem removal_is_simultaneous (wf : f.WellFormed) (hp : f.place? i = some p) (s : Selector) :
    ∃ r detached,
      (f.removeMatching i s).WellFormed ∧ (f.removeMatching i s).place? i = some r ∧
      r.node.bare = p.node.bare ∧
      r.descendants.map Place.entry = (Place.staying s.accepts p.descendants).map Place.entry ∧
      List.Forall₂ (fun y t => (f.removeMatching i s).place? y.node.id = some (.top t) ∧
          t.bare = y.node.bare ∧ (Place.top t).descendants.map Place.entry =
            (Place.staying s.accepts y.descendants).map Place.entry)
        (p.descendants.filter s.accepts) detached ∧
      (f.removeMatching i s).trees.map (·.edit i Node.bare) =
        detached ++ f.trees.map (·.edit i Node.bare) ∧
      ((f.select i s).foldl detach f).trees.Perm (f.removeMatching i s).trees := by
  obtain ⟨hmem, hi⟩ := mem_places_of_place? hp
  have hnodup := wf.nodup_node hmem
  have hperm := Node.perm_prune (f.select i s) p.node
  have hid : (p.node.prune (f.select i s)).id = i := (Node.id_prune _ _).trans hi
  have hremove : f.removeMatching i s =
      (f.edit i (·.prune (f.select i s))).add (p.node.pruned (f.select i s)) := by
    rw [removeMatching, node_of_place? hp]
  obtain ⟨hwf, r, hr, hnode⟩ := edit_add_keeps (·.prune (f.select i s)) wf hp hid hperm
  rw [← hremove] at hwf hr
  have hentries : ∀ y, y = p ∨ y ∈ p.descendants → ∀ here : Place,
      here.node = y.node.prune (f.select i s) → here.node.bare = y.node.bare ∧
        here.descendants.map Place.entry =
          (Place.staying s.accepts y.descendants).map Place.entry := by
    intro y hy here hhere
    have hyNodup : y.node.liveIds.Nodup := by
      have hids : y.node.ids.Nodup := by
        rcases hy with rfl | hy
        · exact hnodup
        · exact hnodup.sublist (Node.ids_sublist_of_mem_listOf p.node hy)
      exact (hids.sublist (Node.liveIds_sublist_ids y.node)).of_cons
    rw [prune_select_below wf hp s hy] at hhere
    have hsame : here.node.id = y.node.id := by rw [hhere, Node.id_cutAt]
    rw [hhere, Node.bare_cutAt, Place.descendants, hhere]
    exact ⟨rfl, Node.entries_cutAt hsame y.node hyNodup⟩
  obtain ⟨hbare, hbelow⟩ := hentries p (.inl rfl) r hnode
  refine ⟨r, p.node.pruned (f.select i s), hwf, hr, hbare, hbelow, ?_, ?_,
    foldl_detach_select wf hp s⟩
  · have hpruned : p.node.pruned (f.select i s) =
        (p.descendants.filter s.accepts).map fun y => y.node.prune (f.select i s) := by
      rw [Node.pruned_eq_map _ p, ← List.filter_congr (contains_select wf hp s)]
      rfl
    rw [hpruned, List.forall₂_map_right_iff, List.forall₂_same]
    intro y hy
    have hbelow := (List.mem_filter.mp hy).1
    have htree : y.node.prune (f.select i s) ∈ (f.removeMatching i s).trees := by
      rw [hremove, hpruned]
      exact List.mem_append_left _ (List.mem_map_of_mem hy)
    have hplace := place?_root hwf htree
    rw [Node.id_prune] at hplace
    exact ⟨hplace, hentries y (.inr hbelow) (.top _) rfl⟩
  · rw [hremove]
    have hsame : ∀ n : Node, (n.prune (f.select i s)).bare = n.bare := fun n => by cases n <;> rfl
    refine map_bare_edit_add (Node.id_prune _) hsame ?_
    have hdealt := hperm.nodup_iff.mpr hnodup
    rw [List.nodup_append'] at hdealt
    have hself := Node.id_mem_ids (p.node.prune (f.select i s))
    rw [hid] at hself
    exact hdealt.2.2 hself

end Forest

/-- A list with a list in its first item. -/
def listPage : Forest :=
  ⟨[.root 0 .document
      [.element 1 ⟨.html, "ul"⟩ [] []
        [.element 2 ⟨.html, "li"⟩ [⟨.none, "class", "x"⟩] []
          [.element 3 ⟨.html, "b"⟩ [] [] [], .element 4 ⟨.html, "i"⟩ [] [] [.leaf 5 (.text "a")]],
         .leaf 6 (.text "c"),
         .element 7 ⟨.html, "li"⟩ [] [] []]]], 8⟩

/-- What `:first-child` means. -/
def firstChild : Selector := ⟨[⟨[.holds (.position ⟨0, 1⟩ false false)], []⟩]⟩

/-- The second item and the second node of the first one come first once those before them are
gone. They stay. -/
theorem later_first_child_stays :
    listPage.WellFormed ∧ listPage.select 1 firstChild = [2, 3] ∧
      ∃ p r detached, listPage.place? 1 = some p ∧
        (listPage.removeMatching 1 firstChild).place? 1 = some r ∧
        r.descendants.map (·.node.id) = [6, 7] ∧
        (listPage.removeMatching 1 firstChild).select 1 firstChild = [7] ∧
        detached.map (·.outerMarkup) = ["<li class=\"x\"><i>a</i></li>", "<b></b>"] ∧
        (listPage.removeMatching 1 firstChild).trees.map (·.edit 1 Node.bare) =
          detached ++ listPage.trees.map (·.edit 1 Node.bare) := by
  have wf : listPage.WellFormed := ⟨by decide, by decide⟩
  obtain ⟨p, hp⟩ := Option.isSome_iff_exists.mp
    (show (listPage.place? 1).isSome = true by decide)
  obtain ⟨r, detached, -, hr, -, hbelow, -, htrees, -⟩ :=
    Forest.removal_is_simultaneous wf hp firstChild
  have hids : ((listPage.place? 1).map fun q =>
      (Place.staying firstChild.accepts q.descendants).map (·.node.id)) = some [6, 7] := by decide
  rw [hp, Option.map_some, Option.some_inj] at hids
  have hmarkup := congrArg (List.map Node.outerMarkup) htrees
  rw [List.map_append, show ((listPage.removeMatching 1 firstChild).trees.map
      (·.edit 1 Node.bare)).map Node.outerMarkup =
    ["<li class=\"x\"><i>a</i></li>", "<b></b>"] ++
      (listPage.trees.map (·.edit 1 Node.bare)).map Node.outerMarkup by decide +kernel] at hmarkup
  refine ⟨wf, by decide, p, r, detached, hp, hr, ?_, by decide,
    (List.append_cancel_right hmarkup).symm, htrees⟩
  have hbelow := congrArg (List.map fun e => e.1.id) hbelow
  simpa only [List.map_map, Function.comp_def, Place.entry_id, hids] using hbelow

end PageRecords.Dom
