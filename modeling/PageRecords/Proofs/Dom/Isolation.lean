import Mathlib.Data.List.Forall2
import PageRecords.Proofs.Dom.Flattening
import PageRecords.Proofs.Dom.Shows

/-!
# Copies stand apart

A copy looks like what it copies, down to the contents of templates in templates, and has no
identity in common with it. A change is about one node and deals its identities out between what
becomes of it and what is taken out (`Change.run_deals`). That holds for a change in template
contents too, which is one of the template around them (`Forest.Deals.within`). A tree without
the node stays as it is (`Forest.Deals.mem_trees`). So whatever is done to either of the two, and
in whatever order, the other is not concerned.
-/

namespace PageRecords.Dom

open Node (listIds)

namespace Node

variable {n m : Node}

-- --------------------------------------------------------------------
-- Looks
-- --------------------------------------------------------------------

mutual
theorem inside_shape : (n : Node) → n.shape.inside = n.inside.map shape
  | .leaf _ _ => rfl
  | .root _ _ children => by simp [shape, inside, listInside_shape children]
  | .element _ _ _ contents children => by
    simp [shape, inside, listInside_shape contents, listInside_shape children]
theorem listInside_shape : (ns : List Node) → listInside (ns.map shape) = (listInside ns).map shape
  | [] => rfl
  | n :: rest => by simp [listInside, inside_shape n, listInside_shape rest]
end

/-- The trees differ in identities at most, and each node in one is written as its counterpart
in the other, template contents included. -/
structure LooksLike (n m : Node) : Prop where
  shape : n.shape = m.shape
  written : List.Forall₂ (fun x y => x.outerMarkup = y.outerMarkup ∧
    x.innerMarkup = y.innerMarkup ∧ x.text = y.text) (n :: n.inside) (m :: m.inside)

theorem looksLike_of_shape (h : n.shape = m.shape) : n.LooksLike m := by
  have hinside : List.Forall₂ Eq ((n :: n.inside).map Node.shape)
      ((m :: m.inside).map Node.shape) := by
    rw [List.forall₂_eq_eq_eq, List.map_cons, List.map_cons, ← inside_shape, ← inside_shape, h]
  rw [List.forall₂_map_left_iff, List.forall₂_map_right_iff] at hinside
  refine ⟨h, hinside.imp fun x y hxy => ⟨?_, ?_, ?_⟩⟩
  · rw [← outerMarkup_shape, hxy, outerMarkup_shape]
  · rw [← innerMarkup_shape, hxy, innerMarkup_shape]
  · rw [← text_shape, hxy, text_shape]

end Node

-- --------------------------------------------------------------------
-- Template contents
-- --------------------------------------------------------------------

namespace Node

variable {i : NodeId} {change : Node → Node} {n : Node}

/-- The node over other template contents. -/
def withContents (contents : List Node) : Node → Node
  | .leaf i content => .leaf i content
  | .root i kind children => .root i kind children
  | .element i tag attributes _ children => .element i tag attributes contents children

/-- The template contents of a node are a tree of their own. Its root goes by the identity of the
template. -/
def contentsTree (n : Node) : Node := .root n.id .fragment n.contents

theorem id_withContents (ns : List Node) (n : Node) : (n.withContents ns).id = n.id := by
  cases n <;> rfl

theorem isElement_withContents (ns : List Node) (n : Node) :
    (n.withContents ns).isElement = n.isElement := by
  cases n <;> rfl

theorem isElement_prune (gone : List NodeId) (n : Node) :
    (n.prune gone).isElement = n.isElement := by
  cases n <;> rfl

theorem isElement_strip (names : List String) (n : Node) :
    (n.strip names).isElement = n.isElement := by
  cases n <;> rfl

theorem isElement_unwrap (allowed : List String) (n : Node) :
    (n.unwrap allowed).1.isElement = n.isElement := by
  rw [fst_unwrap]
  cases n <;> rfl

theorem perm_withContents {inside out : List Node}
    (h : (listIds inside ++ listIds out).Perm (listIds n.contents)) :
    ((n.withContents inside).ids ++ listIds out).Perm n.ids := by
  rw [List.perm_iff_count] at h ⊢
  intro j
  have := h j
  cases n <;> simp only [contents, withContents, ids, listIds, List.count_append, List.count_cons,
    List.count_nil] at this ⊢ <;> omega

theorem ids_of_not_element (h : n.isElement = false) : n.ids = n.id :: listIds n.children := by
  cases n with
  | leaf => rfl
  | root => rfl
  | element => cases h

theorem contentsTree_ids_sublist (n : Node) : n.contentsTree.ids.Sublist n.ids := by
  cases n with
  | leaf => exact List.Sublist.refl _
  | root => exact (List.nil_sublist _).cons_cons _
  | element => exact (List.sublist_append_left _ _).cons_cons _

theorem id_edit (h : ∀ n, (change n).id = n.id) (n : Node) : (n.edit i change).id = n.id := by
  cases n <;> rw [edit] <;> split <;> first | rfl | exact h _

theorem isElement_edit (h : ∀ n, (change n).isElement = n.isElement) (n : Node) :
    (n.edit i change).isElement = n.isElement := by
  cases n <;> rw [edit] <;> split <;> first | rfl | exact h _

end Node

-- --------------------------------------------------------------------
-- Changes
-- --------------------------------------------------------------------

namespace Forest

variable {f g : Forest} {i j : NodeId} {p : Place} {change : Node → Node} {out : List Node}
  {t : Node}

theorem wellFormed_contentsTree (wf : f.WellFormed) (hp : p ∈ f.places) :
    WellFormed ⟨[p.node.contentsTree], f.fresh⟩ := by
  obtain ⟨t, ht, hnode⟩ : ∃ t ∈ f.trees, p.node.ids.Sublist t.ids := by
    obtain ⟨t, ht, rfl | hbelow⟩ := mem_places.mp hp
    · exact ⟨_, ht, List.Sublist.refl _⟩
    · exact ⟨t, ht, Node.ids_sublist_of_mem_listOf t hbelow⟩
  have hids : listIds [p.node.contentsTree] = p.node.contentsTree.ids := List.append_nil _
  have hsub := (Node.contentsTree_ids_sublist p.node).trans hnode
  rw [← hids] at hsub
  exact ⟨(wf.nodup_tree ht).sublist hsub, fun j hj => wf.lt_fresh_of_mem ht (hsub.mem hj)⟩

/-- One node is changed, and others may be taken out of it. Its identities are dealt out between
what it becomes and what was taken out. -/
structure Deals (f g : Forest) (i : NodeId) (change : Node → Node) (out : List Node) : Prop where
  eq : g = (f.edit i change).add out
  id : ∀ n, (change n).id = n.id
  /-- The root of template contents has no contents itself, before and after. -/
  isElement : ∀ n, (change n).isElement = n.isElement
  perm : ((change (f.node i)).ids ++ listIds out).Perm (f.node i).ids

namespace Deals

/-- Without the node nothing is changed. -/
theorem eq_of_none (h : f.Deals g i change out) (wf : f.WellFormed) (hp : f.place? i = none) :
    g = f := by
  have hnode : f.node i = .root i .fragment [] := by simp [node, hp]
  have hlength := h.perm.length_eq
  have hself := List.length_pos_of_mem (Node.id_mem_ids (change (f.node i)))
  rw [List.length_append, show (f.node i).ids.length = 1 by rw [hnode]; rfl] at hlength
  have hout : out = [] := by
    cases out with
    | nil => rfl
    | cons n rest =>
      have hn := List.length_pos_of_mem (Node.id_mem_ids n)
      rw [listIds, List.length_append] at hlength
      omega
  rw [h.eq, edit_of_none wf hp, hout]
  rfl

theorem perm_listIds (h : f.Deals g i change out) (wf : f.WellFormed) :
    (listIds g.trees).Perm (listIds f.trees) := by
  cases hp : f.place? i with
  | none => rw [h.eq_of_none wf hp]
  | some p =>
    have hperm := h.perm
    rw [node_of_place? hp] at hperm
    rw [h.eq]
    exact (edit_add_perm change wf hp hperm).1

theorem wellFormed (h : f.Deals g i change out) (wf : f.WellFormed) : g.WellFormed := by
  have hids := h.perm_listIds wf
  refine ⟨hids.nodup_iff.mpr wf.nodup, fun j hj => ?_⟩
  rw [h.eq]
  exact wf.lt_fresh j (hids.mem_iff.mp hj)

theorem mem_trees (h : f.Deals g i change out) (ht : t ∈ f.trees) (hi : i ∉ t.ids) :
    t ∈ g.trees := by
  rw [h.eq]
  exact List.mem_append_right _ (List.mem_map.mpr ⟨t, ht, Node.edit_of_not_mem t hi⟩)

/-- What changes a node in the contents of a template changes the template. -/
theorem within (wf : f.WellFormed) (hp : f.place? i = some p)
    (h : Deals ⟨[p.node.contentsTree], f.fresh⟩ g j change out) :
    f.Deals ((f.edit i (·.withContents (g.node i).children)).add (g.trees.filter (·.id ≠ i))) i
      (·.withContents (g.node i).children) (g.trees.filter (·.id ≠ i)) := by
  obtain ⟨hmem, rfl⟩ := mem_places_of_place? hp
  have hinside := wellFormed_contentsTree wf hmem
  have htrees : g.trees = out ++ [p.node.contentsTree.edit j change] := by rw [h.eq]; rfl
  have hid := Node.id_edit (i := j) h.id p.node.contentsTree
  have hkind := Node.isElement_edit (i := j) h.isElement p.node.contentsTree
  have hperm := h.perm_listIds hinside
  have hwf := h.wellFormed hinside
  generalize p.node.contentsTree.edit j change = root at htrees hid hkind
  replace hid : root.id = p.node.id := hid
  replace hkind : root.isElement = false := hkind
  have hnode : g.node p.node.id = root := by
    rw [← hid]
    exact node_root hwf (by simp [htrees])
  have hnodup := hwf.nodup
  rw [htrees, Node.listIds_append, listIds, listIds, List.append_nil] at hperm hnodup
  rw [Node.ids_of_not_element hkind, hid] at hperm hnodup
  have hout : g.trees.filter (·.id ≠ p.node.id) = out := by
    have hothers : ∀ n ∈ out, n.id ≠ p.node.id := fun n hn heq =>
      (List.nodup_append'.mp hnodup).2.2
        (Node.mem_listIds.mpr ⟨n, hn, heq ▸ Node.id_mem_ids n⟩) List.mem_cons_self
    rw [htrees, List.filter_append, List.filter_eq_self.mpr (by simpa using hothers)]
    simp [hid]
  refine ⟨rfl, Node.id_withContents _, Node.isElement_withContents _, ?_⟩
  rw [hnode, hout, node_of_place? hp]
  refine Node.perm_withContents (List.perm_append_comm.trans ?_)
  have hroot : listIds [p.node.contentsTree] = p.node.id :: listIds p.node.contents := by
    simp [listIds, Node.contentsTree, Node.ids]
  rw [hroot] at hperm
  exact (List.perm_middle.symm.trans hperm).cons_inv

end Deals

end Forest

/-- What is done to a node. One in template contents is reached through the templates around it,
the outermost first. -/
inductive Change where
  | removeMatching (i : NodeId) (s : Selector)
  | unwrap (i : NodeId) (allowed : List String)
  | removeAttributes (i : NodeId) (names : List String)
  /-- A change in the tree of the contents of a template. -/
  | within (template : NodeId) (c : Change)

namespace Change

variable {f : Forest} {t : Node}

/-- The node that a change is about, or the outermost template around it. -/
def target : Change → NodeId
  | .removeMatching i _ | .unwrap i _ | .removeAttributes i _ | .within i _ => i

def run (f : Forest) (c : Change) : Forest :=
  match c with
  | .removeMatching i s => f.removeMatching i s
  | .unwrap i allowed => f.unwrap i allowed
  | .removeAttributes i names => f.removeAttributes i names
  | .within i c =>
    match f.place? i with
    | none => f
    | some p =>
      let inside := run ⟨[p.node.contentsTree], f.fresh⟩ c
      -- What was taken out of the contents does not go back into the template.
      (f.edit i (·.withContents (inside.node i).children)).add (inside.trees.filter (·.id ≠ i))

theorem run_deals (wf : f.WellFormed) (c : Change) :
    ∃ change out, f.Deals (c.run f) c.target change out := by
  induction c generalizing f with
  | removeMatching i s =>
    exact ⟨_, _, rfl, Node.id_prune _, Node.isElement_prune _, Node.perm_prune _ _⟩
  | unwrap i allowed =>
    exact ⟨_, _, rfl, Node.id_unwrap _, Node.isElement_unwrap _, Node.perm_unwrap _ _⟩
  | removeAttributes i names =>
    exact ⟨(·.strip names), [], rfl, Node.id_strip _, Node.isElement_strip _, by
      simp [listIds, Node.ids_strip]⟩
  | within i c ih =>
    cases hp : f.place? i with
    | none =>
      refine ⟨id, [], ?_, fun _ => rfl, fun _ => rfl, by simp [listIds]⟩
      rw [run, hp, target, Forest.edit_of_none wf hp]
      rfl
    | some p =>
      have hmem := (Forest.mem_places_of_place? hp).1
      obtain ⟨change, out, hinside⟩ := ih (Forest.wellFormed_contentsTree wf hmem)
      rw [run, hp]
      exact ⟨_, _, hinside.within wf hp⟩

end Change

namespace Forest

variable {f g : Forest} {t n : Node} {cs : List Change}

/-- The forest after some changes, one after the other. -/
def after (f : Forest) (cs : List Change) : Forest := cs.foldl Change.run f

/-- Changes about other trees leave a tree as it is, and its nodes where they stand. -/
theorem stays_after (wf : f.WellFormed) (ht : t ∈ f.trees) (h : ∀ c ∈ cs, c.target ∉ t.ids) :
    (f.after cs).WellFormed ∧ t ∈ (f.after cs).trees := by
  induction cs generalizing f with
  | nil => exact ⟨wf, ht⟩
  | cons c cs ih =>
    obtain ⟨change, out, hdeals⟩ := Change.run_deals wf c
    have hc := h c List.mem_cons_self
    exact ih (hdeals.wellFormed wf) (hdeals.mem_trees ht hc) fun d hd =>
      h d (List.mem_cons_of_mem _ hd)

/-- A tree that was added to a forest, and what there is to say of it and of the others. -/
structure StandsApart (f g : Forest) (t : Node) : Prop where
  wellFormed : g.WellFormed
  trees : g.trees = t :: f.trees
  /-- The tree has no node in common with those that were there. -/
  disjoint : (t.ids).Disjoint (listIds f.trees)
  /-- Nothing stands around it. -/
  place : g.place? t.id = some (.top t)
  /-- What is done to its nodes is not done to the others. -/
  others_stay : ∀ cs : List Change, (∀ c ∈ cs, c.target ∈ t.ids) →
    f.trees ⊆ (g.after cs).trees ∧ ∀ i p, f.place? i = some p → (g.after cs).place? i = some p
  /-- Nor the other way round. -/
  stays : ∀ cs : List Change, (∀ c ∈ cs, c.target ∈ listIds f.trees) →
    t ∈ (g.after cs).trees ∧
      ∀ p ∈ (Place.top t).inclusiveDescendants, (g.after cs).place? p.node.id = some p

theorem plant_standsApart (wf : f.WellFormed) (n : Node) :
    f.StandsApart (f.plant n).2 (n.renumber f.fresh).1 := by
  have hwf := wellFormed_plant wf n
  have hdisjoint : (n.renumber f.fresh).1.ids.Disjoint (listIds f.trees) := by
    have hnodup := hwf.nodup
    rw [plant_trees, listIds, List.nodup_append'] at hnodup
    exact hnodup.2.2
  generalize ht : (n.renumber f.fresh).1 = t at hdisjoint
  have htrees : (f.plant n).2.trees = t :: f.trees := by rw [plant_trees, ht]
  have hmem : t ∈ (f.plant n).2.trees := htrees ▸ List.mem_cons_self
  refine ⟨hwf, htrees, hdisjoint, place?_root hwf hmem, fun cs hcs => ?_, fun cs hcs => ?_⟩
  · have hstays : ∀ u ∈ f.trees, ((f.plant n).2.after cs).WellFormed ∧
        u ∈ ((f.plant n).2.after cs).trees := fun u hu =>
      stays_after hwf (htrees ▸ List.mem_cons_of_mem t hu) fun c hc hcu =>
        hdisjoint (hcs c hc) (Node.mem_listIds.mpr ⟨u, hu, hcu⟩)
    refine ⟨fun u hu => (hstays u hu).2, fun i p hp => ?_⟩
    obtain ⟨hplace, rfl⟩ := mem_places_of_place? hp
    obtain ⟨u, hu, hup⟩ := List.mem_flatMap.mp hplace
    obtain ⟨hwf', hu'⟩ := hstays u hu
    exact place?_of_mem hwf' (List.mem_flatMap.mpr ⟨u, hu', hup⟩)
  · obtain ⟨hwf', ht'⟩ := stays_after hwf hmem fun c hc hct => hdisjoint hct (hcs c hc)
    exact ⟨ht', fun p hp => place?_of_mem hwf' (List.mem_flatMap.mpr ⟨t, ht', hp⟩)⟩

/-- A copy, of a node wherever it is, looks like the node, template contents included, and stands
apart: no change of the one is seen in the other. A copy of several nodes holds copies of them
that look like them, and stands apart just so. -/
theorem copies_stand_apart (wf : f.WellFormed) :
    (∀ n ∈ Node.listInside f.trees, ∃ t, f.StandsApart (f.plant n).2 t ∧
      (f.plant n).1 = t.id ∧ t.LooksLike n) ∧
    (∀ i p, f.place? i = some p → ∃ t, f.StandsApart (f.copy i).2 t ∧
      (f.copy i).1 = t.id ∧ t.LooksLike p.node) ∧
    (∀ is ps, List.Forall₂ (fun i p => f.place? i = some p) is ps →
      ∃ t, f.StandsApart (f.wrapCopies is).2 t ∧ (f.wrapCopies is).1 = t.id ∧
        List.Forall₂ Node.LooksLike t.children (ps.map Place.node)) := by
  have hplant : ∀ n, ∃ t, f.StandsApart (f.plant n).2 t ∧ (f.plant n).1 = t.id ∧ t.LooksLike n :=
    fun n => ⟨_, plant_standsApart wf n, (Node.id_renumber _ n).symm,
      Node.looksLike_of_shape (Node.shape_renumber _ n)⟩
  refine ⟨fun n _ => hplant n, fun i p hp => ?_, fun is ps hps => ?_⟩
  · rw [copy, node_of_place? hp]
    exact hplant p.node
  · have hnodes : is.map f.node = ps.map Place.node := by
      induction hps with
      | nil => rfl
      | cons hp _ ih => rw [List.map_cons, List.map_cons, node_of_place? hp, ih]
    obtain ⟨t, hapart, hid, hlooks⟩ := hplant (wrapper (is.map f.node))
    refine ⟨t, hapart, hid, ?_⟩
    have hchildren := congrArg Node.children hlooks.shape
    rw [Node.children_shape, Node.children_shape, children_wrapper, hnodes,
      ← List.forall₂_eq_eq_eq, List.forall₂_map_left_iff, List.forall₂_map_right_iff] at hchildren
    exact hchildren.imp fun _ _ => Node.looksLike_of_shape

end Forest

/-- In a copy of the section, an element goes from the template in the template before both are
unwrapped. The section has all that is in it still. -/
theorem section_stands_apart :
    nestedPage.WellFormed ∧
      ∃ p, nestedPage.place? 1 = some p ∧
        ((nestedPage.copy 1).2.after
          [.within 10 (.within 11 (.removeMatching 11 ⟨[⟨[.holds .any], []⟩]⟩)),
            .unwrap 9 ["b"]]).place? 1 = some p ∧
        (((nestedPage.copy 1).2.after
          [.within 10 (.within 11 (.removeMatching 11 ⟨[⟨[.holds .any], []⟩]⟩)),
            .unwrap 9 ["b"]]).node 9).outerMarkup = "<section>ade</section>" := by
  have wf : nestedPage.WellFormed := ⟨by decide, by decide⟩
  obtain ⟨p, hp⟩ := Option.isSome_iff_exists.mp
    (show (nestedPage.place? 1).isSome = true by decide)
  obtain ⟨t, hapart, -, -⟩ := (Forest.copies_stand_apart wf).2.1 1 p hp
  have hids : (nestedPage.copy 1).2.trees.head?.map Node.ids = some [9, 10, 11, 12, 13, 14, 15, 16] :=
    rfl
  rw [hapart.trees, List.head?_cons, Option.map_some, Option.some_inj] at hids
  refine ⟨wf, p, hp, (hapart.others_stay _ ?_).2 1 p hp, by decide +kernel⟩
  simp [Change.target, hids]

end PageRecords.Dom
