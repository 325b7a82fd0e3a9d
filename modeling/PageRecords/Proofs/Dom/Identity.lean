import PageRecords.Proofs.Dom.Shape

/-!
# Identities

The identities in a tree, those in template contents included. A copy takes a run
of new ones, and a change below a node deals its identities out between what stays
and what was taken out: none is lost, and none occurs twice.
-/

namespace PageRecords.Dom

namespace Node

mutual
/-- Every identity in the tree, template contents included. -/
def ids : Node → List NodeId
  | .leaf i _ => [i]
  | .root i _ children => i :: listIds children
  | .element i _ _ contents children => i :: (listIds contents ++ listIds children)
def listIds : List Node → List NodeId
  | [] => []
  | n :: rest => n.ids ++ listIds rest
end

@[simp] theorem listIds_append (a b : List Node) : listIds (a ++ b) = listIds a ++ listIds b := by
  induction a with
  | nil => rfl
  | cons n rest ih => simp [listIds, ih]

theorem mem_listIds {i : NodeId} {ns : List Node} : i ∈ listIds ns ↔ ∃ n ∈ ns, i ∈ n.ids := by
  induction ns with
  | nil => simp [listIds]
  | cons n rest ih => simp [listIds, ih]

theorem id_mem_ids (n : Node) : n.id ∈ n.ids := by
  cases n <;> simp [ids, id]

mutual
/-- The identities of the nodes below, template contents aside, in document order. -/
def liveIds : Node → List NodeId
  | .leaf _ _ => []
  | .root _ _ children => listLiveIds children
  | .element _ _ _ _ children => listLiveIds children
def listLiveIds : List Node → List NodeId
  | [] => []
  | n :: rest => n.id :: (n.liveIds ++ listLiveIds rest)
end

mutual
theorem liveIds_sublist_ids : (n : Node) → (n.id :: n.liveIds).Sublist n.ids
  | .leaf _ _ => by simp [liveIds, ids, id]
  | .root _ _ children => (listLiveIds_sublist_listIds children).cons_cons _
  | .element _ _ _ contents children =>
    ((listLiveIds_sublist_listIds children).trans (List.sublist_append_right _ _)).cons_cons _
theorem listLiveIds_sublist_listIds : (ns : List Node) → (listLiveIds ns).Sublist (listIds ns)
  | [] => .slnil
  | n :: rest => (liveIds_sublist_ids n).append (listLiveIds_sublist_listIds rest)
end

mutual
theorem has_iff {i : NodeId} : (n : Node) → (n.has i = true ↔ i ∈ n.id :: n.liveIds)
  | .leaf _ _ => by simp [has, liveIds, id, eq_comm (a := i)]
  | .root _ _ children => by simp [has, liveIds, id, listHas_iff children, eq_comm (a := i)]
  | .element _ _ _ _ children => by
    simp [has, liveIds, id, listHas_iff children, eq_comm (a := i)]
theorem listHas_iff {i : NodeId} : (ns : List Node) → (listHas i ns = true ↔ i ∈ listLiveIds ns)
  | [] => by simp [listHas, listLiveIds]
  | n :: rest => by simp [listHas, listLiveIds, has_iff n, listHas_iff rest, or_assoc]
end

-- --------------------------------------------------------------------
-- Copies
-- --------------------------------------------------------------------

theorem size_pos (n : Node) : 0 < n.size := by
  cases n <;> simp [size]

mutual
/-- A copy has the identities from `next` on, one for each node. -/
theorem renumber_ids (next : NodeId) : (n : Node) →
    (n.renumber next).1.ids = List.range' next n.size ∧ (n.renumber next).2 = next + n.size
  | .leaf _ _ => by simp [renumber, ids, size]
  | .root _ _ children => by
    obtain ⟨hids, hnext⟩ := listRenumber_ids (next + 1) children
    refine ⟨?_, ?_⟩
    · simp [renumber, ids, size, hids, List.range'_succ]
    · simp [renumber, hnext, size, Nat.add_assoc, Nat.add_comm]
  | .element _ _ _ contents children => by
    obtain ⟨hids, hnext⟩ := listRenumber_ids (next + 1) contents
    obtain ⟨hids', hnext'⟩ := listRenumber_ids (next + 1 + listSize contents) children
    refine ⟨?_, ?_⟩
    · simp [renumber, ids, size, hids, hnext, hids', List.range'_succ, List.range'_append_1]
    · simp only [renumber, hnext, hnext', size]
      simp [Nat.add_assoc, Nat.add_comm]
theorem listRenumber_ids (next : NodeId) : (ns : List Node) →
    listIds (listRenumber next ns).1 = List.range' next (listSize ns) ∧
      (listRenumber next ns).2 = next + listSize ns
  | [] => by simp [listRenumber, listIds, listSize]
  | n :: rest => by
    obtain ⟨hids, hnext⟩ := renumber_ids next n
    obtain ⟨hids', hnext'⟩ := listRenumber_ids (next + n.size) rest
    refine ⟨?_, ?_⟩
    · simp [listRenumber, listIds, listSize, hids, hnext, hids', List.range'_append_1]
    · simp [listRenumber, hnext, hnext', listSize, Nat.add_assoc]
end

@[simp] theorem id_renumber (next : NodeId) (n : Node) : (n.renumber next).1.id = next := by
  cases n <;> rfl

-- --------------------------------------------------------------------
-- Changes
-- --------------------------------------------------------------------

mutual
theorem count_prune (i : NodeId) (gone : List NodeId) : (n : Node) →
    (n.prune gone).ids.count i + (listIds (n.pruned gone)).count i = n.ids.count i
  | .leaf _ _ => by simp [prune, pruned, listIds]
  | .root _ _ children => by
    have := count_listPrune i gone children
    simp only [prune, pruned, ids, List.count_cons]; omega
  | .element _ _ _ _ children => by
    have := count_listPrune i gone children
    simp only [prune, pruned, ids, List.count_cons, List.count_append]; omega
theorem count_listPrune (i : NodeId) (gone : List NodeId) : (ns : List Node) →
    (listIds (listPrune gone ns)).count i + (listIds (listPruned gone ns)).count i =
      (listIds ns).count i
  | [] => by simp [listPrune, listPruned, listIds]
  | n :: rest => by
    have hn := count_prune i gone n
    have hrest := count_listPrune i gone rest
    simp only [listPrune, listPruned]
    split <;> simp only [listIds, listIds_append, List.count_append, List.cons_append] <;> omega
end

/-- What stays of a node and what is taken out of it share its identities out. -/
theorem perm_prune (gone : List NodeId) (n : Node) :
    ((n.prune gone).ids ++ listIds (n.pruned gone)).Perm n.ids := by
  rw [List.perm_iff_count]
  intro i
  rw [List.count_append, count_prune]

theorem id_prune (gone : List NodeId) (n : Node) : (n.prune gone).id = n.id := by
  cases n <;> rfl

theorem count_listUnwrapPass (i : NodeId) (allowed : List String) (ns : List Node) :
    (listIds (listUnwrapPass allowed ns)).count i + (listIds (listUnwrapped allowed ns)).count i =
      (listIds ns).count i := by
  fun_induction listUnwrapPass allowed ns with
  | case1 => simp [listUnwrapped, listIds]
  | case2 _ _ rest ih =>
    simp only [listUnwrapped, listIds, List.count_append]
    omega
  | case3 _ _ children rest ihc ih =>
    simp only [listUnwrapped, listIds, ids, listIds_append, List.count_append, List.count_cons]
    omega
  | case4 _ tag _ contents children rest h ihc ih =>
    rw [listUnwrapped, if_pos h]
    simp only [listIds, ids, listIds_append, List.count_append, List.count_cons]
    omega
  | case5 _ tag _ contents children rest h ihc ih =>
    rw [listUnwrapped, if_neg h]
    simp only [listIds, ids, listIds_append, List.count_append, List.count_cons, List.count_nil]
    omega

theorem count_unwrapPass (i : NodeId) (allowed : List String) (n : Node) :
    (n.unwrapPass allowed).ids.count i + (listIds (n.unwrapped allowed)).count i =
      n.ids.count i := by
  cases n with
  | leaf => simp [unwrapPass, unwrapped, listIds]
  | root _ _ children =>
    have := count_listUnwrapPass i allowed children
    simp only [unwrapPass, unwrapped, ids, List.count_cons]; omega
  | element _ _ _ _ children =>
    have := count_listUnwrapPass i allowed children
    simp only [unwrapPass, unwrapped, ids, List.count_cons, List.count_append]; omega

theorem count_unwrap (i : NodeId) (allowed : List String) (n : Node) :
    (n.unwrap allowed).1.ids.count i + (listIds (n.unwrap allowed).2).count i = n.ids.count i := by
  induction n using unwrap_induction allowed with
  | done n h => simp [unwrap_of_nil h, listIds]
  | pass n h ih =>
    have := count_unwrapPass i allowed n
    rw [unwrap_of_ne_nil h]
    simp only [listIds_append, List.count_append]
    omega

/-- An unwrapped tree and the emptied elements share the identities out. -/
theorem perm_unwrap (allowed : List String) (n : Node) :
    ((n.unwrap allowed).1.ids ++ listIds (n.unwrap allowed).2).Perm n.ids := by
  rw [List.perm_iff_count]
  intro i
  rw [List.count_append, count_unwrap]

theorem id_unwrapPass (allowed : List String) (n : Node) : (n.unwrapPass allowed).id = n.id := by
  cases n <;> rfl

theorem id_unwrap (allowed : List String) (n : Node) : (n.unwrap allowed).1.id = n.id := by
  induction n using unwrap_induction allowed with
  | done n h => rw [unwrap_of_nil h]
  | pass n h ih => rw [unwrap_of_ne_nil h, ih, id_unwrapPass]

mutual
theorem ids_strip (names : List String) : (n : Node) → (n.strip names).ids = n.ids
  | .leaf _ _ => rfl
  | .root _ _ children => by simp [strip, ids, listIds_listStrip names children]
  | .element _ _ _ _ children => by simp [strip, ids, listIds_listStrip names children]
theorem listIds_listStrip (names : List String) :
    (ns : List Node) → listIds (listStrip names ns) = listIds ns
  | [] => rfl
  | n :: rest => by simp [listStrip, listIds, ids_strip names n, listIds_listStrip names rest]
end

theorem id_strip (names : List String) (n : Node) : (n.strip names).id = n.id := by
  cases n <;> rfl

mutual
/-- A change to a node that is not in the tree does not touch the tree. -/
theorem edit_of_not_mem {i : NodeId} {change : Node → Node} :
    (n : Node) → i ∉ n.ids → n.edit i change = n
  | .leaf j _, h => by
    simp only [ids, List.mem_singleton] at h
    simp [edit, Ne.symm h]
  | .root j _ children, h => by
    simp only [ids, List.mem_cons, not_or] at h
    simp [edit, Ne.symm h.1, listEdit_of_not_mem children h.2]
  | .element j _ _ contents children, h => by
    simp only [ids, List.mem_cons, List.mem_append, not_or] at h
    simp [edit, Ne.symm h.1, listEdit_of_not_mem children h.2.2]
theorem listEdit_of_not_mem {i : NodeId} {change : Node → Node} :
    (ns : List Node) → i ∉ listIds ns → listEdit i change ns = ns
  | [], _ => rfl
  | n :: rest, h => by
    simp only [listIds, List.mem_append, not_or] at h
    simp [listEdit, edit_of_not_mem n h.1, listEdit_of_not_mem rest h.2]
end

theorem edit_self (change : Node → Node) (n : Node) : n.edit n.id change = change n := by
  cases n <;> simp [edit, id]

end Node

end PageRecords.Dom
