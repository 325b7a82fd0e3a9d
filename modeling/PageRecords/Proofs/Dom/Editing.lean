import PageRecords.Proofs.Dom.Growth

/-!
# Changing one node

A change of one node that deals its identities out between what stays of it and what was taken
out leaves the forest well formed, with the changed node where the node stood
(`Forest.edit_add_keeps`). What else stands in the forest can be told apart from the node by
a second change that makes the first one unseen (`Node.edit_edit`).
-/

namespace PageRecords.Dom

open Node (listIds)

namespace Node

variable {i : NodeId} {change : Node → Node} {here parent q : Place} {left : List Node}

theorem edit_changed {hide : Node → Node} (hid : ∀ n, (change n).id = n.id)
    (hhide : ∀ n, hide (change n) = hide n) (n : Node) :
    (change n).edit n.id hide = hide n := by
  rw [← hid n, edit_self, hhide]

mutual
/-- An edit that another one hides. -/
theorem edit_edit {hide : Node → Node} (hid : ∀ n, (change n).id = n.id)
    (hhide : ∀ n, hide (change n) = hide n) :
    (n : Node) → (n.edit i change).edit i hide = n.edit i hide
  | .leaf j content => by
    by_cases hj : j = i
    · subst hj
      simp only [edit, if_true]
      exact edit_changed hid hhide (.leaf j content)
    · simp [edit, hj]
  | .root j kind children => by
    by_cases hj : j = i
    · subst hj
      simp only [edit, if_true]
      exact edit_changed hid hhide (.root j kind children)
    · simp [edit, hj, listEdit_listEdit hid hhide children]
  | .element j tag attributes contents children => by
    by_cases hj : j = i
    · subst hj
      simp only [edit, if_true]
      exact edit_changed hid hhide (.element j tag attributes contents children)
    · simp [edit, hj, listEdit_listEdit hid hhide children]
theorem listEdit_listEdit {hide : Node → Node} (hid : ∀ n, (change n).id = n.id)
    (hhide : ∀ n, hide (change n) = hide n) :
    (ns : List Node) → listEdit i hide (listEdit i change ns) = listEdit i hide ns
  | [] => rfl
  | n :: rest => by
    simp only [listEdit, edit_edit hid hhide n, listEdit_listEdit hid hhide rest]
end

mutual
/-- A change that leaves the node as it is, wherever that stands, changes nothing. -/
theorem edit_of_fixed (here : Place) : (n : Node) → (n.id = i → change n = n) →
    (∀ q ∈ Place.listOf here n, q.node.id = i → change q.node = q.node) → n.edit i change = n
  | .leaf j content, hn, _ => by
    simp only [edit]
    split
    · next hj => exact hn hj
    · rfl
  | .root j kind children, hn, hbelow => by
    simp only [edit]
    split
    · next hj => exact hn hj
    · rw [listEdit_of_fixed here [] children hbelow]
  | .element j tag attributes contents children, hn, hbelow => by
    simp only [edit]
    split
    · next hj => exact hn hj
    · rw [listEdit_of_fixed here [] children hbelow]
theorem listEdit_of_fixed (parent : Place) (left : List Node) : (ns : List Node) →
    (∀ q ∈ Place.listBelow parent left ns, q.node.id = i → change q.node = q.node) →
    listEdit i change ns = ns
  | [], _ => rfl
  | n :: rest, h => by
    simp only [Place.listBelow, List.mem_cons, List.mem_append] at h
    rw [listEdit, edit_of_fixed _ n (h _ (.inl rfl)) fun q hq => h q (.inr (.inl hq)),
      listEdit_of_fixed _ _ rest fun q hq => h q (.inr (.inr hq))]
end

theorem id_mem_of_mem_listOf {n : Node} (hq : q ∈ Place.listOf here n) :
    q.node.id ∈ n.liveIds := by
  rw [← Place.map_id_listOf here n]
  exact List.mem_map_of_mem hq

theorem id_mem_of_mem_listBelow {ns : List Node} (hq : q ∈ Place.listBelow parent left ns) :
    q.node.id ∈ listIds ns := by
  have hlive : q.node.id ∈ listLiveIds ns := by
    rw [← Place.map_id_listBelow parent left ns]
    exact List.mem_map_of_mem hq
  exact (listLiveIds_sublist_listIds ns).mem hlive

mutual
/-- The identities of a node below are among those of the whole, in their order. -/
theorem ids_sublist_of_mem_listOf {here : Place} :
    (n : Node) → q ∈ Place.listOf here n → q.node.ids.Sublist n.ids
  | .leaf _ _, hq => by simp [Place.listOf] at hq
  | .root _ _ children, hq => (ids_sublist_of_mem_listBelow children hq).cons _
  | .element _ _ _ _ children, hq =>
    ((ids_sublist_of_mem_listBelow children hq).trans (List.sublist_append_right _ _)).cons _
theorem ids_sublist_of_mem_listBelow {parent : Place} {left : List Node} :
    (ns : List Node) → q ∈ Place.listBelow parent left ns → q.node.ids.Sublist (listIds ns)
  | [], hq => by simp [Place.listBelow] at hq
  | n :: rest, hq => by
    simp only [Place.listBelow, List.mem_cons, List.mem_append] at hq
    rcases hq with rfl | hq | hq
    · exact List.sublist_append_left _ _
    · exact (ids_sublist_of_mem_listOf n hq).trans (List.sublist_append_left _ _)
    · exact (ids_sublist_of_mem_listBelow rest hq).trans (List.sublist_append_right _ _)
end

mutual
/-- A node below stands there after it was changed, and the identities of the whole change as
those of the node do. -/
theorem edit_below (change : Node → Node) {here : Place} (here' : Place) : (n : Node) →
    n.ids.Nodup → q ∈ Place.listOf here n →
    (∃ r ∈ Place.listOf here' (n.edit q.node.id change), r.node = change q.node) ∧
    (n.edit q.node.id change).id = n.id ∧
    ∀ j, (n.edit q.node.id change).ids.count j + q.node.ids.count j =
      n.ids.count j + (change q.node).ids.count j
  | .leaf _ _, _, hq => by simp [Place.listOf] at hq
  | .root k kind children, hnodup, hq => by
    rw [ids, List.nodup_cons] at hnodup
    have hne : k ≠ q.node.id := fun h => hnodup.1 (h ▸ id_mem_of_mem_listBelow hq)
    obtain ⟨hthere, hcount⟩ := listEdit_below change here' [] children hnodup.2 hq
    rw [edit, if_neg hne]
    refine ⟨hthere, rfl, fun j => ?_⟩
    have := hcount j
    simp only [ids, List.count_cons]
    omega
  | .element k tag attributes contents children, hnodup, hq => by
    rw [ids, List.nodup_cons, List.nodup_append] at hnodup
    have hne : k ≠ q.node.id := fun h =>
      hnodup.1 (List.mem_append_right _ (h ▸ id_mem_of_mem_listBelow hq))
    obtain ⟨hthere, hcount⟩ := listEdit_below change here' [] children hnodup.2.2.1 hq
    rw [edit, if_neg hne]
    refine ⟨hthere, rfl, fun j => ?_⟩
    have := hcount j
    simp only [ids, List.count_cons, List.count_append]
    omega
theorem listEdit_below (change : Node → Node) {parent : Place} {left : List Node}
    (parent' : Place) (left' : List Node) : (ns : List Node) → (listIds ns).Nodup →
    q ∈ Place.listBelow parent left ns →
    (∃ r ∈ Place.listBelow parent' left' (listEdit q.node.id change ns), r.node = change q.node) ∧
    ∀ j, (listIds (listEdit q.node.id change ns)).count j + q.node.ids.count j =
      (listIds ns).count j + (change q.node).ids.count j
  | [], _, hq => by simp [Place.listBelow] at hq
  | n :: rest, hnodup, hq => by
    rw [listIds, List.nodup_append'] at hnodup
    obtain ⟨hn, hrest, hapart⟩ := hnodup
    simp only [Place.listBelow, List.mem_cons, List.mem_append] at hq
    rcases hq with rfl | hq | hq
    · have hstays : listEdit n.id change rest = rest :=
        listEdit_of_not_mem rest (hapart (id_mem_ids n))
      rw [Place.node_under, listEdit, edit_self, hstays]
      refine ⟨⟨_, List.mem_cons_self, rfl⟩, fun j => ?_⟩
      simp only [listIds, List.count_append]
      omega
    · have hmem : q.node.id ∈ n.ids :=
        (liveIds_sublist_ids n).mem (List.mem_cons_of_mem _ (id_mem_of_mem_listOf hq))
      have hstays : listEdit q.node.id change rest = rest :=
        listEdit_of_not_mem rest (hapart hmem)
      obtain ⟨⟨r, hr, hnode⟩, -, hcount⟩ := edit_below change
        (.under parent' left' (n.edit q.node.id change) rest) n hn hq
      rw [listEdit, hstays]
      refine ⟨⟨r, ?_, hnode⟩, fun j => ?_⟩
      · exact List.mem_cons_of_mem _ (List.mem_append_left _ hr)
      · have := hcount j
        simp only [listIds, List.count_append]
        omega
    · have hmem := id_mem_of_mem_listBelow hq
      have hstays : n.edit q.node.id change = n := edit_of_not_mem n fun h => hapart h hmem
      obtain ⟨⟨r, hr, hnode⟩, hcount⟩ := listEdit_below change parent'
        (n :: left') rest hrest hq
      rw [listEdit, hstays]
      refine ⟨⟨r, ?_, hnode⟩, fun j => ?_⟩
      · exact List.mem_cons_of_mem _ (List.mem_append_right _ hr)
      · have := hcount j
        simp only [listIds, List.count_append]
        omega
end

end Node

namespace Forest

variable {f : Forest} {i : NodeId} {p : Place} {change : Node → Node} {out : List Node}

theorem WellFormed.nodup_node (wf : f.WellFormed) (hp : p ∈ f.places) : p.node.ids.Nodup := by
  obtain ⟨t, ht, rfl | hp⟩ := mem_places.mp hp
  · exact wf.nodup_tree ht
  · exact (wf.nodup_tree ht).sublist (Node.ids_sublist_of_mem_listOf t hp)

theorem WellFormed.nodup_descendants (wf : f.WellFormed) (hp : p ∈ f.places) :
    (p.descendants.map (·.node.id)).Nodup := by
  rw [Place.descendants, Place.map_id_listOf]
  exact ((wf.nodup_node hp).sublist (Node.liveIds_sublist_ids p.node)).of_cons

/-- The forest has the changed node, and the identities that it had. -/
theorem edit_add_perm (change : Node → Node) (wf : f.WellFormed) (hp : f.place? i = some p)
    (hperm : ((change p.node).ids ++ listIds out).Perm p.node.ids) :
    (listIds ((f.edit i change).add out).trees).Perm (listIds f.trees) ∧
      ∃ r ∈ ((f.edit i change).add out).places, r.node = change p.node := by
  obtain ⟨hmem, rfl⟩ := mem_places_of_place? hp
  obtain ⟨t, ht, htop⟩ := List.mem_flatMap.mp hmem
  obtain ⟨before, after, htrees⟩ := List.append_of_mem ht
  have hlive := (Node.liveIds_sublist_ids t).mem (id_mem_of_mem_inclusiveDescendants htop)
  have hgtrees := edit_add_trees change out wf htrees hlive
  obtain ⟨⟨r, hr, hnode⟩, hcount⟩ :
      (∃ r ∈ (Place.top (t.edit p.node.id change)).inclusiveDescendants,
        r.node = change p.node) ∧
      ∀ j, (t.edit p.node.id change).ids.count j + p.node.ids.count j =
        t.ids.count j + (change p.node).ids.count j := by
    rw [Place.inclusiveDescendants, List.mem_cons] at htop
    rcases htop with rfl | hbelow
    · rw [Place.node_top, Node.edit_self]
      refine ⟨⟨_, List.mem_cons_self, rfl⟩, fun j => Nat.add_comm _ _⟩
    · obtain ⟨⟨r, hr, hnode⟩, -, hcount⟩ := Node.edit_below change
        (.top (t.edit p.node.id change)) t (wf.nodup_tree ht) hbelow
      exact ⟨⟨r, List.mem_cons_of_mem _ hr, hnode⟩, hcount⟩
  refine ⟨?_, r, List.mem_flatMap.mpr ⟨t.edit p.node.id change, by simp [hgtrees], hr⟩, hnode⟩
  rw [List.perm_iff_count]
  intro j
  have := hperm.count_eq j
  have := hcount j
  simp only [hgtrees, htrees, Node.listIds_append, listIds, List.count_append] at *
  omega

/-- The changed node stands where the node stood. -/
theorem edit_add_keeps (change : Node → Node) (wf : f.WellFormed) (hp : f.place? i = some p)
    (hid : (change p.node).id = i) (hperm : ((change p.node).ids ++ listIds out).Perm p.node.ids) :
    ((f.edit i change).add out).WellFormed ∧
      ∃ r, ((f.edit i change).add out).place? i = some r ∧ r.node = change p.node := by
  obtain ⟨hids, r, hr, hnode⟩ := edit_add_perm change wf hp hperm
  have hwf : ((f.edit i change).add out).WellFormed :=
    ⟨hids.nodup_iff.mpr wf.nodup, fun j hj => wf.lt_fresh j (hids.mem_iff.mp hj)⟩
  exact ⟨hwf, r, (place?_eq_some_iff hwf).mpr ⟨hr, by rw [hnode, hid]⟩, hnode⟩

/-- A change that leaves the nodes of the identity as they are changes nothing. -/
theorem edit_of_forall (h : ∀ q ∈ f.places, q.node.id = i → change q.node = q.node) :
    f.edit i change = f := by
  have hstays : ∀ t ∈ f.trees, t.edit i change = t := by
    intro t ht
    refine Node.edit_of_fixed (.top t) t ?_ fun q hq => ?_
    · exact h (.top t) (top_mem_places ht)
    · exact h q (mem_places.mpr ⟨t, ht, .inr hq⟩)
  rw [edit, List.map_congr_left hstays, List.map_id']

/-- A change that the node already went through changes nothing. -/
theorem edit_of_fixed (wf : f.WellFormed) (hp : f.place? i = some p)
    (hfixed : change p.node = p.node) : f.edit i change = f := by
  refine edit_of_forall fun q hq hqi => ?_
  have hsame := (place?_eq_some_iff wf).mpr ⟨hq, hqi⟩
  rw [hp, Option.some.injEq] at hsame
  rwa [← hsame]

theorem edit_of_none (wf : f.WellFormed) (hp : f.place? i = none) (change : Node → Node) :
    f.edit i change = f := by
  refine edit_of_forall fun q hq hqi => ?_
  rw [(place?_eq_some_iff wf).mpr ⟨hq, hqi⟩] at hp
  cases hp

end Forest

end PageRecords.Dom
