import Mathlib.Data.List.Nodup
import PageRecords.Dom.Forest
import PageRecords.Proofs.Dom.Identity

/-!
# Nodes of a forest and where they stand

In a well-formed forest no identity occurs twice, template contents included, and
the next one is larger than all of them. Then a node is found by its identity where
it stands: `Forest.place?_eq_some_iff`. Planting keeps a forest well formed.
-/

namespace PageRecords.Dom

open Node (listIds)

namespace Place

@[simp] theorem node_top (n : Node) : (top n).node = n := rfl

@[simp] theorem node_under (parent : Place) (left : List Node) (n : Node) (right : List Node) :
    (under parent left n right).node = n := rfl

mutual
theorem map_id_listOf (here : Place) : (n : Node) → (listOf here n).map (·.node.id) = n.liveIds
  | .leaf _ _ => rfl
  | .root _ _ children => map_id_listBelow here [] children
  | .element _ _ _ _ children => map_id_listBelow here [] children
theorem map_id_listBelow (parent : Place) (left : List Node) :
    (ns : List Node) → (listBelow parent left ns).map (·.node.id) = Node.listLiveIds ns
  | [] => rfl
  | n :: rest => by
    simp [listBelow, Node.listLiveIds, map_id_listOf _ n, map_id_listBelow parent _ rest]
end

theorem map_id_inclusiveDescendants (p : Place) :
    p.inclusiveDescendants.map (·.node.id) = p.node.id :: p.node.liveIds := by
  simp [inclusiveDescendants, descendants, map_id_listOf]

mutual
/-- What stands below a place below stands below, in the same order. -/
theorem descendants_sublist_listOf {here q : Place} :
    (n : Node) → q ∈ listOf here n → q.descendants.Sublist (listOf here n)
  | .leaf _ _, h => by simp [listOf] at h
  | .root _ _ children, h => descendants_sublist_listBelow children h
  | .element _ _ _ _ children, h => descendants_sublist_listBelow children h
theorem descendants_sublist_listBelow {parent q : Place} {left : List Node} : (ns : List Node) →
    q ∈ listBelow parent left ns → q.descendants.Sublist (listBelow parent left ns)
  | [], h => by simp [listBelow] at h
  | n :: rest, h => by
    simp only [listBelow, List.mem_cons, List.mem_append] at h
    refine .cons _ ?_
    rcases h with rfl | h | h
    · exact List.sublist_append_left _ _
    · exact (descendants_sublist_listOf n h).trans (List.sublist_append_left _ _)
    · exact (descendants_sublist_listBelow rest h).trans (List.sublist_append_right _ _)
end

theorem next_go_sublist_listBelow (parent : Place) (left ns : List Node) :
    (next.go parent left ns).Sublist (listBelow parent left ns) := by
  induction ns generalizing left with
  | nil => exact .slnil
  | cons n rest ih => exact ((ih (n :: left)).trans (List.sublist_append_right _ _)).cons_cons _

mutual
/-- The siblings after a place below stand below. -/
theorem next_subset_listOf {here q : Place} :
    (n : Node) → q ∈ listOf here n → q.next ⊆ listOf here n
  | .leaf _ _, h => by simp [listOf] at h
  | .root _ _ children, h => next_subset_listBelow children h
  | .element _ _ _ _ children, h => next_subset_listBelow children h
theorem next_subset_listBelow {parent q : Place} {left : List Node} : (ns : List Node) →
    q ∈ listBelow parent left ns → q.next ⊆ listBelow parent left ns
  | [], h => by simp [listBelow] at h
  | n :: rest, h => by
    simp only [listBelow, List.mem_cons, List.mem_append] at h
    intro r hr
    simp only [listBelow, List.mem_cons, List.mem_append]
    rcases h with rfl | h | h
    · exact .inr (.inr ((next_go_sublist_listBelow parent (n :: left) rest).mem hr))
    · exact .inr (.inl (next_subset_listOf n h hr))
    · exact .inr (.inr (next_subset_listBelow rest h hr))
end

end Place

namespace Forest

structure WellFormed (f : Forest) : Prop where
  /-- No identity occurs twice. -/
  nodup : (listIds f.trees).Nodup
  /-- Identities from `fresh` on are not in use. -/
  lt_fresh : ∀ i ∈ listIds f.trees, i < f.fresh

variable {f g : Forest} {i : NodeId} {p q : Place} {n t u : Node}

theorem mem_places : p ∈ f.places ↔ ∃ t ∈ f.trees, p = .top t ∨ p ∈ (Place.top t).descendants := by
  simp [places, Place.inclusiveDescendants]

theorem top_mem_places (ht : t ∈ f.trees) : .top t ∈ f.places :=
  mem_places.mpr ⟨t, ht, .inl rfl⟩

theorem descendants_subset_places (hp : p ∈ f.places) : p.descendants ⊆ f.places := by
  obtain ⟨t, ht, rfl | hp⟩ := mem_places.mp hp
  · exact fun r hr => mem_places.mpr ⟨t, ht, .inr hr⟩
  · exact fun r hr => mem_places.mpr
      ⟨t, ht, .inr ((Place.descendants_sublist_listOf t hp).mem hr)⟩

theorem next_subset_places (hp : p ∈ f.places) : p.next ⊆ f.places := by
  obtain ⟨t, ht, rfl | hp⟩ := mem_places.mp hp
  · exact fun r hr => by simp [Place.next] at hr
  · exact fun r hr => mem_places.mpr ⟨t, ht, .inr (Place.next_subset_listOf t hp hr)⟩

theorem id_mem_of_mem_inclusiveDescendants (hp : p ∈ (Place.top t).inclusiveDescendants) :
    p.node.id ∈ t.id :: t.liveIds := by
  have := List.mem_map_of_mem (f := fun p : Place => p.node.id) hp
  rwa [Place.map_id_inclusiveDescendants] at this

namespace WellFormed

theorem nodup_tree (wf : f.WellFormed) (ht : t ∈ f.trees) : t.ids.Nodup := by
  obtain ⟨before, after, h⟩ := List.append_of_mem ht
  have := wf.nodup
  simp only [h, Node.listIds_append, listIds] at this
  exact (List.nodup_append.mp (List.nodup_append.mp this).2.1).1

/-- Trees that share an identity are one. -/
theorem tree_unique (wf : f.WellFormed) (ht : t ∈ f.trees) (hu : u ∈ f.trees)
    (hti : i ∈ t.ids) (hui : i ∈ u.ids) : t = u := by
  obtain ⟨before, after, h⟩ := List.append_of_mem ht
  have hnodup := wf.nodup
  rw [h, Node.listIds_append, List.nodup_append'] at hnodup
  obtain ⟨-, hafter, hbefore⟩ := hnodup
  rw [h, List.mem_append, List.mem_cons] at hu
  rcases hu with hu | rfl | hu
  · exact (hbefore (Node.mem_listIds.mpr ⟨u, hu, hui⟩) (by simp [listIds, hti])).elim
  · rfl
  · rw [listIds, List.nodup_append'] at hafter
    exact (hafter.2.2 hti (Node.mem_listIds.mpr ⟨u, hu, hui⟩)).elim

theorem lt_fresh_of_mem (wf : f.WellFormed) (ht : t ∈ f.trees) (hi : i ∈ t.ids) : i < f.fresh :=
  wf.lt_fresh i (Node.mem_listIds.mpr ⟨t, ht, hi⟩)

end WellFormed

theorem mem_places_of_place? (h : f.place? i = some p) : p ∈ f.places ∧ p.node.id = i := by
  simp only [place?, Option.bind_eq_some_iff] at h
  obtain ⟨t, ht, hp⟩ := h
  refine ⟨?_, by simpa using List.find?_some hp⟩
  exact List.mem_flatMap.mpr ⟨t, List.mem_of_find?_eq_some ht, List.mem_of_find?_eq_some hp⟩

/-- A node is found where it stands. -/
theorem place?_eq_some_iff (wf : f.WellFormed) :
    f.place? i = some p ↔ p ∈ f.places ∧ p.node.id = i := by
  refine ⟨mem_places_of_place?, ?_⟩
  rintro ⟨hp, rfl⟩
  obtain ⟨t, ht, hp⟩ := List.mem_flatMap.mp hp
  have hlive := id_mem_of_mem_inclusiveDescendants hp
  have hids : ∀ j ∈ t.id :: t.liveIds, j ∈ t.ids := fun j => (Node.liveIds_sublist_ids t).mem
  have htree : f.trees.find? (·.has p.node.id) = some t := by
    obtain ⟨u, hu⟩ := Option.isSome_iff_exists.mp
      (List.find?_isSome.mpr ⟨t, ht, (Node.has_iff t).mpr hlive⟩)
    have hui := (Node.liveIds_sublist_ids u).mem
      ((Node.has_iff u).mp (by simpa using List.find?_some hu))
    rw [hu, wf.tree_unique (List.mem_of_find?_eq_some hu) ht hui (hids _ hlive)]
  have hplace : (Place.top t).inclusiveDescendants.find? (fun q => q.node.id = p.node.id) =
      some p := by
    obtain ⟨q, hq⟩ : ∃ q, (Place.top t).inclusiveDescendants.find?
        (fun q => q.node.id = p.node.id) = some q := by
      rw [← Option.isSome_iff_exists, List.find?_isSome]
      exact ⟨p, hp, by simp⟩
    have hnodup : ((Place.top t).inclusiveDescendants.map (·.node.id)).Nodup := by
      rw [Place.map_id_inclusiveDescendants]
      exact (wf.nodup_tree ht).sublist (Node.liveIds_sublist_ids t)
    have hqp : q.node.id = p.node.id := by
      have := List.find?_some hq
      simpa using this
    rw [hq, List.inj_on_of_nodup_map hnodup (List.mem_of_find?_eq_some hq) hp hqp]
  simp [place?, htree, hplace]

theorem place?_of_mem (wf : f.WellFormed) (hp : p ∈ f.places) : f.place? p.node.id = some p :=
  (place?_eq_some_iff wf).mpr ⟨hp, rfl⟩

theorem place?_root (wf : f.WellFormed) (ht : t ∈ f.trees) : f.place? t.id = some (.top t) :=
  place?_of_mem wf (top_mem_places ht)

theorem node_of_place? (h : f.place? i = some p) : f.node i = p.node := by
  simp [node, h]

theorem node_root (wf : f.WellFormed) (ht : t ∈ f.trees) : f.node t.id = t :=
  node_of_place? (place?_root wf ht)

-- --------------------------------------------------------------------
-- Planting
-- --------------------------------------------------------------------

theorem wellFormed_empty (fresh : NodeId) : WellFormed ⟨[], fresh⟩ :=
  ⟨.nil, by simp [listIds]⟩

theorem plant_trees (f : Forest) (n : Node) :
    (f.plant n).2.trees = (n.renumber f.fresh).1 :: f.trees := rfl

theorem plant_fresh (f : Forest) (n : Node) : (f.plant n).2.fresh = (f.fresh + n.size : Nat) :=
  (Node.renumber_ids f.fresh n).2

theorem fresh_lt_plant (f : Forest) (n : Node) : f.fresh < (f.plant n).2.fresh := by
  rw [plant_fresh]
  exact Nat.lt_add_of_pos_right (Node.size_pos n)

theorem wellFormed_plant (wf : f.WellFormed) (n : Node) : (f.plant n).2.WellFormed := by
  have hids := (Node.renumber_ids f.fresh n).1
  refine ⟨?_, ?_⟩
  · rw [plant_trees, listIds, hids, List.nodup_append']
    refine ⟨List.nodup_range', wf.nodup, ?_⟩
    intro j hj hj'
    exact Nat.lt_irrefl j (Nat.lt_of_lt_of_le (wf.lt_fresh j hj') (List.mem_range'_1.mp hj).1)
  · intro j hj
    rw [plant_fresh]
    rw [plant_trees, listIds, hids, List.mem_append] at hj
    rcases hj with hj | hj
    · exact (List.mem_range'_1.mp hj).2
    · exact Nat.lt_of_lt_of_le (wf.lt_fresh j hj) (Nat.le_add_right ..)

end Forest

end PageRecords.Dom
