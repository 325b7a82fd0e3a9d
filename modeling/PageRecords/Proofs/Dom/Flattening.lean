import PageRecords.Proofs.Dom.Cleaning
import PageRecords.Proofs.Dom.Editing

/-!
# Unwrapping as flattening

Unwrapping below a node comes to one pass over the tree: every element with a name that is not
allowed gives way to what its template contents and its children flatten to, and every other
node stays, over flattened children (`unwrap_flattens`). The loop that does it an element at a
time, `Unwraps`, collects the elements first and takes them out by identity, in document order:
those inside others are taken out after the others are gone.
-/

namespace PageRecords.Dom

open Node (listIds)

namespace Node

variable {i : NodeId} {allowed : List String} {n m : Node} {ns rest : List Node}

/-- The template contents of a node. -/
def contents : Node → List Node
  | .element _ _ _ contents _ => contents
  | _ => []

/-- The node over other children. -/
def withChildren (children : List Node) : Node → Node
  | .leaf i content => .leaf i content
  | .root i kind _ => .root i kind children
  | .element i tag attributes contents _ => .element i tag attributes contents children

@[simp] theorem id_withChildren (ns : List Node) (n : Node) : (n.withChildren ns).id = n.id := by
  cases n <;> rfl

@[simp] theorem withChildren_withChildren (ms ns : List Node) (n : Node) :
    (n.withChildren ms).withChildren ns = n.withChildren ns := by
  cases n <;> rfl

@[simp] theorem withChildren_children (n : Node) : n.withChildren n.children = n := by
  cases n <;> rfl

theorem descendants_top (n : Node) :
    (Place.top n).descendants = Place.listBelow (.top n) [] n.children := by
  cases n <;> rfl

-- --------------------------------------------------------------------
-- Flattening
-- --------------------------------------------------------------------

mutual
/-- What a node comes to: an element with a name that is not allowed gives way to what its
template contents and its children come to. -/
def flatten (allowed : List String) : Node → List Node
  | .leaf i content => [.leaf i content]
  | .root i kind children => [.root i kind (listFlatten allowed children)]
  | .element i tag attributes contents children =>
    if allowed.contains tag.name then
      [.element i tag attributes contents (listFlatten allowed children)]
    else listFlatten allowed contents ++ listFlatten allowed children
def listFlatten (allowed : List String) : List Node → List Node
  | [] => []
  | n :: rest => n.flatten allowed ++ listFlatten allowed rest
end

theorem listFlatten_append (allowed : List String) (ms ns : List Node) :
    listFlatten allowed (ms ++ ns) = listFlatten allowed ms ++ listFlatten allowed ns := by
  induction ms with
  | nil => rfl
  | cons n rest ih => simp [listFlatten, ih]

/-- A pass does not change what the nodes come to. -/
theorem listFlatten_listUnwrapPass (allowed : List String) (ns : List Node) :
    listFlatten allowed (listUnwrapPass allowed ns) = listFlatten allowed ns := by
  fun_induction listUnwrapPass allowed ns with
  | case1 => rfl
  | case2 i content rest ih => simp [listFlatten, flatten, ih]
  | case3 i kind children rest ihc ih => simp [listFlatten, flatten, ihc, ih]
  | case4 i tag attributes contents children rest h ihc ih =>
    simp only [listFlatten, flatten, h, if_true, ihc, ih]
  | case5 i tag attributes contents children rest h ihc ih =>
    simp only [listFlatten, flatten, h, listFlatten_append, ihc, ih]
    rfl

theorem listFlatten_of_listUnwrapped (h : listUnwrapped allowed ns = []) :
    listFlatten allowed ns = ns := by
  fun_induction listUnwrapped allowed ns with
  | case1 => rfl
  | case2 i content rest ih => simp [listFlatten, flatten, ih h]
  | case3 i kind children rest ihc ih =>
    rw [List.append_eq_nil_iff] at h
    simp [listFlatten, flatten, ihc h.1, ih h.2]
  | case4 i tag attributes contents children rest hallowed ihc ih =>
    rw [List.append_eq_nil_iff] at h
    simp only [listFlatten, flatten, hallowed, if_true, ihc h.1, ih h.2]
    rfl
  | case5 => cases h

theorem unwrapped_eq (allowed : List String) (n : Node) :
    n.unwrapped allowed = listUnwrapped allowed n.children := by
  cases n <;> simp [unwrapped, children, listUnwrapped]

theorem unwrapPass_eq (allowed : List String) (n : Node) :
    n.unwrapPass allowed = n.withChildren (listUnwrapPass allowed n.children) := by
  cases n <;> rfl

/-- Whatever the number of passes, together they flatten what is below the node once. -/
theorem fst_unwrap (allowed : List String) (n : Node) :
    (n.unwrap allowed).1 = n.withChildren (listFlatten allowed n.children) := by
  induction n using unwrap_induction allowed with
  | done n h =>
    rw [unwrapped_eq] at h
    rw [unwrap_of_nil (by rwa [unwrapped_eq]), listFlatten_of_listUnwrapped h,
      withChildren_children]
  | pass n h ih =>
    have hpass : listFlatten allowed (n.unwrapPass allowed).children =
        listFlatten allowed n.children := by
      cases n with
      | leaf => rfl
      | root _ _ children => exact listFlatten_listUnwrapPass allowed children
      | element _ _ _ _ children => exact listFlatten_listUnwrapPass allowed children
    rw [unwrap_of_ne_nil h, ih, hpass, unwrapPass_eq, withChildren_withChildren]

mutual
/-- The texts, comments and doctypes of a node in order, those in template contents before
those in the children. -/
def leaves : Node → List (NodeId × Leaf)
  | .leaf i content => [(i, content)]
  | .root _ _ children => listLeaves children
  | .element _ _ _ contents children => listLeaves contents ++ listLeaves children
def listLeaves : List Node → List (NodeId × Leaf)
  | [] => []
  | n :: rest => n.leaves ++ listLeaves rest
end

theorem listLeaves_append (ms ns : List Node) :
    listLeaves (ms ++ ns) = listLeaves ms ++ listLeaves ns := by
  induction ms with
  | nil => rfl
  | cons n rest ih => simp [listLeaves, ih]

mutual
theorem listLeaves_flatten (allowed : List String) :
    (n : Node) → listLeaves (n.flatten allowed) = n.leaves
  | .leaf _ _ => rfl
  | .root _ _ children => by
    simp [flatten, listLeaves, leaves, listLeaves_listFlatten allowed children]
  | .element _ tag _ contents children => by
    simp only [flatten]
    split
    · simp [listLeaves, leaves, listLeaves_listFlatten allowed children]
    · simp [listLeaves_append, leaves, listLeaves_listFlatten allowed contents,
        listLeaves_listFlatten allowed children]
theorem listLeaves_listFlatten (allowed : List String) :
    (ns : List Node) → listLeaves (listFlatten allowed ns) = listLeaves ns
  | [] => rfl
  | n :: rest => by
    simp [listFlatten, listLeaves, listLeaves_append, listLeaves_flatten allowed n,
      listLeaves_listFlatten allowed rest]
end

theorem leaves_unwrap (allowed : List String) (n : Node) :
    (n.unwrap allowed).1.leaves = n.leaves := by
  rw [fst_unwrap]
  cases n <;> simp [withChildren, leaves, children, listLeaves_listFlatten]

-- --------------------------------------------------------------------
-- One element at a time
-- --------------------------------------------------------------------

mutual
/-- The tree once the element of that identity below the node has given way: the nodes that
its template holds and then its children stand in its place. -/
def hoist (i : NodeId) : Node → Node
  | .leaf j content => .leaf j content
  | .root j kind children => .root j kind (listHoist i children)
  | .element j tag attributes contents children =>
    .element j tag attributes contents (listHoist i children)
def listHoist (i : NodeId) : List Node → List Node
  | [] => []
  | n :: rest =>
    (if n.id = i then n.contents ++ n.children else [n.hoist i]) ++ listHoist i rest
end

/-- An element whose name is not allowed. -/
def isDisallowed (allowed : List String) (n : Node) : Bool :=
  n.tag?.any fun tag => !allowed.contains tag.name

@[simp] theorem isDisallowed_leaf (content : Leaf) :
    (leaf i content).isDisallowed allowed = false := rfl

@[simp] theorem isDisallowed_root (kind : RootKind) (ns : List Node) :
    (root i kind ns).isDisallowed allowed = false := rfl

@[simp] theorem isDisallowed_element (tag : Tag) (attributes : List Attribute)
    (contents ns : List Node) : (element i tag attributes contents ns).isDisallowed allowed =
      !allowed.contains tag.name := rfl

/-- The elements below a node whose names are not allowed, in document order. -/
def disallowed (allowed : List String) (n : Node) : List NodeId :=
  ((Place.top n).descendants.filter (·.node.isDisallowed allowed)).map (·.node.id)

/-- The loop: as long as there are elements below the node that are not allowed, all of them
are collected and then give way one after the other. -/
inductive Unwraps (allowed : List String) : Node → Node → Prop
  | done {n : Node} (h : n.disallowed allowed = []) : Unwraps allowed n n
  | round {n m : Node} (h : n.disallowed allowed ≠ [])
      (again : Unwraps allowed ((n.disallowed allowed).foldl (fun t i => t.hoist i) n) m) :
      Unwraps allowed n m

theorem map_id_filter_listBelow (allowed : List String) (parent : Place) (left ns : List Node) :
    ((Place.listBelow parent left ns).filter (·.node.isDisallowed allowed)).map (·.node.id) =
      (listUnwrapped allowed ns).map id := by
  fun_induction listUnwrapped allowed ns generalizing parent left with
  | case1 => rfl
  | case2 i content rest ih =>
    simp [Place.listBelow, Place.listOf, ih]
  | case3 i kind children rest ihc ih =>
    simp [Place.listBelow, Place.listOf, ihc, ih]
  | case4 i tag attributes contents children rest h ihc ih =>
    have hallowed : tag.name ∈ allowed := by simpa using h
    simp [Place.listBelow, Place.listOf, hallowed, ihc, ih]
  | case5 i tag attributes contents children rest h ihc ih =>
    have hdisallowed : tag.name ∉ allowed := by simpa using h
    have hid : ∀ ms ns, (element i tag attributes ms ns).id = i := fun _ _ => rfl
    simp [Place.listBelow, Place.listOf, hdisallowed, hid, ihc, ih]

theorem disallowed_eq (allowed : List String) (n : Node) :
    n.disallowed allowed = (n.unwrapped allowed).map id := by
  rw [disallowed, descendants_top, map_id_filter_listBelow, unwrapped_eq]

theorem listHoist_append (i : NodeId) (ms ns : List Node) :
    listHoist i (ms ++ ns) = listHoist i ms ++ listHoist i ns := by
  induction ms with
  | nil => rfl
  | cons n rest ih => simp [listHoist, ih]

mutual
theorem hoist_of_not_mem : (n : Node) → i ∉ n.ids → n.hoist i = n
  | .leaf _ _, _ => rfl
  | .root _ _ children, h => by
    simp only [ids, List.mem_cons, not_or] at h
    rw [hoist, listHoist_of_not_mem children h.2]
  | .element _ _ _ _ children, h => by
    simp only [ids, List.mem_cons, List.mem_append, not_or] at h
    rw [hoist, listHoist_of_not_mem children h.2.2]
theorem listHoist_of_not_mem : (ns : List Node) → i ∉ listIds ns → listHoist i ns = ns
  | [], _ => rfl
  | n :: rest, h => by
    simp only [listIds, List.mem_append, not_or] at h
    have hne : n.id ≠ i := fun heq => h.1 (heq ▸ id_mem_ids n)
    rw [listHoist, if_neg hne, hoist_of_not_mem n h.1, listHoist_of_not_mem rest h.2]
    rfl
end

theorem hoist_eq (i : NodeId) (n : Node) : n.hoist i = n.withChildren (listHoist i n.children) := by
  cases n <;> rfl

/-- Elements that give way one after the other. -/
def hoistAll (is : List NodeId) (ns : List Node) : List Node :=
  is.foldl (fun ns i => listHoist i ns) ns

theorem hoistAll_append (is : List NodeId) (ms ns : List Node) :
    hoistAll is (ms ++ ns) = hoistAll is ms ++ hoistAll is ns := by
  induction is generalizing ms ns with
  | nil => rfl
  | cons i is ih =>
    unfold hoistAll at ih ⊢
    rw [List.foldl_cons, List.foldl_cons, List.foldl_cons, listHoist_append]
    exact ih (listHoist i ms) (listHoist i ns)

theorem hoistAll_of_not_mem {is : List NodeId} (h : ∀ i ∈ is, i ∉ listIds ns) :
    hoistAll is ns = ns := by
  induction is with
  | nil => rfl
  | cons i is ih =>
    rw [hoistAll, List.foldl_cons, listHoist_of_not_mem ns (h i List.mem_cons_self)]
    exact ih fun j hj => h j (List.mem_cons_of_mem _ hj)

theorem foldl_hoist (is : List NodeId) (n : Node) :
    is.foldl (fun t i => t.hoist i) n = n.withChildren (hoistAll is n.children) := by
  induction is generalizing n with
  | nil => simp [hoistAll]
  | cons i is ih =>
    rw [List.foldl_cons, ih, hoist_eq, withChildren_withChildren]
    cases n <;> rfl

/-- A node that stays while nodes below it give way. -/
theorem hoistAll_singleton {is : List NodeId} (h : n.id ∉ is) :
    hoistAll is [n] = [n.withChildren (hoistAll is n.children)] := by
  rw [← foldl_hoist]
  induction is generalizing n with
  | nil => rfl
  | cons i is ih =>
    rw [List.mem_cons, not_or] at h
    have hstep : listHoist i [n] = [n.hoist i] := by simp [listHoist, h.1]
    have hid : (n.hoist i).id = n.id := by rw [hoist_eq, id_withChildren]
    rw [hoistAll, List.foldl_cons, List.foldl_cons, hstep]
    exact ih (hid ▸ h.2)

theorem mem_listIds_of_mem_disallowed (h : i ∈ (listUnwrapped allowed ns).map id) :
    i ∈ listIds ns := by
  obtain ⟨n, hn, rfl⟩ := List.mem_map.mp h
  have hcount := count_listUnwrapPass n.id allowed ns
  have hpos := List.count_pos_iff.mpr (mem_listIds.mpr ⟨n, hn, id_mem_ids n⟩)
  exact List.count_pos_iff.mp (by omega)

mutual
/-- No identity comes up that was not there. -/
theorem mem_ids_of_hoist {j : NodeId} : (n : Node) → j ∈ (n.hoist i).ids → j ∈ n.ids
  | .leaf _ _, h => h
  | .root _ _ children, h => by
    simp only [hoist, ids, List.mem_cons] at h ⊢
    exact h.imp_right (mem_listIds_of_hoist children)
  | .element _ _ _ _ children, h => by
    simp only [hoist, ids, List.mem_cons, List.mem_append] at h ⊢
    exact h.imp_right (Or.imp_right (mem_listIds_of_hoist children))
theorem mem_listIds_of_hoist {j : NodeId} :
    (ns : List Node) → j ∈ listIds (listHoist i ns) → j ∈ listIds ns
  | [], h => h
  | n :: rest, h => by
    simp only [listHoist, listIds_append, List.mem_append] at h
    simp only [listIds, List.mem_append]
    refine h.imp ?_ (mem_listIds_of_hoist rest)
    intro hn
    split at hn
    · cases n with
      | leaf => simp [contents, children, listIds] at hn
      | root => exact List.mem_cons_of_mem _ hn
      | element =>
        rw [listIds_append] at hn
        exact List.mem_cons_of_mem _ hn
    · exact mem_ids_of_hoist n (by simpa [listIds] using hn)
end

theorem mem_listIds_of_hoistAll {is : List NodeId} (h : i ∈ listIds (hoistAll is ns)) :
    i ∈ listIds ns := by
  induction is generalizing ns with
  | nil => exact h
  | cons j is ih => exact mem_listIds_of_hoist ns (ih h)

/-- What gives way in one part of a tree leaves the other parts as they are. -/
theorem hoistAll_cons {is js : List NodeId} (his : ∀ i ∈ is, i ∈ n.ids)
    (hjs : ∀ j ∈ js, j ∈ listIds rest) (hapart : n.ids.Disjoint (listIds rest)) :
    hoistAll (is ++ js) (n :: rest) = hoistAll is [n] ++ hoistAll js rest := by
  have hrest : hoistAll is rest = rest :=
    hoistAll_of_not_mem fun i hi hmem => hapart (his i hi) hmem
  have hn : hoistAll js (hoistAll is [n]) = hoistAll is [n] :=
    hoistAll_of_not_mem fun j hj hmem => by
      have hmem := mem_listIds_of_hoistAll hmem
      rw [listIds, listIds, List.append_nil] at hmem
      exact hapart hmem (hjs j hj)
  calc hoistAll (is ++ js) (n :: rest)
      = hoistAll js (hoistAll is ([n] ++ rest)) := List.foldl_append
    _ = hoistAll js (hoistAll is [n] ++ rest) := by rw [hoistAll_append, hrest]
    _ = hoistAll is [n] ++ hoistAll js rest := by rw [hoistAll_append, hn]

/-- A round does what a pass does. The elements collected in one part of the tree are in no
other part, whatever has been moved there. -/
theorem hoistAll_disallowed (allowed : List String) (ns : List Node) (hnodup : (listIds ns).Nodup) :
    hoistAll ((listUnwrapped allowed ns).map id) ns = listUnwrapPass allowed ns := by
  fun_induction listUnwrapPass allowed ns with
  | case1 =>
    rw [listUnwrapped]
    rfl
  | case2 i content rest ih =>
    rw [listIds, List.nodup_append'] at hnodup
    obtain ⟨-, hrest, hapart⟩ := hnodup
    rw [listUnwrapped, ← ih hrest, ← List.nil_append ((listUnwrapped allowed rest).map id)]
    exact hoistAll_cons (by simp) (fun _ => mem_listIds_of_mem_disallowed) hapart
  | case3 i kind children rest ihc ih =>
    rw [listIds, List.nodup_append'] at hnodup
    obtain ⟨hn, hrest, hapart⟩ := hnodup
    rw [ids, List.nodup_cons] at hn
    obtain ⟨hi, hchildren⟩ := hn
    rw [listUnwrapped, List.map_append, hoistAll_cons _ (fun _ => mem_listIds_of_mem_disallowed)
      hapart, hoistAll_singleton, ih hrest]
    · rw [← ihc hchildren]
      rfl
    · exact fun hmem => hi (mem_listIds_of_mem_disallowed hmem)
    · exact fun j hj => List.mem_cons_of_mem _ (mem_listIds_of_mem_disallowed hj)
  | case4 i tag attributes contents children rest h ihc ih =>
    rw [listIds, List.nodup_append'] at hnodup
    obtain ⟨hn, hrest, hapart⟩ := hnodup
    rw [ids, List.nodup_cons, List.nodup_append'] at hn
    obtain ⟨hi, -, hchildren, -⟩ := hn
    rw [List.mem_append, not_or] at hi
    rw [listUnwrapped, if_pos h, List.map_append, hoistAll_cons _
      (fun _ => mem_listIds_of_mem_disallowed) hapart, hoistAll_singleton, ih hrest]
    · rw [← ihc hchildren]
      rfl
    · exact fun hmem => hi.2 (mem_listIds_of_mem_disallowed hmem)
    · exact fun j hj => List.mem_cons_of_mem _
        (List.mem_append_right _ (mem_listIds_of_mem_disallowed hj))
  | case5 i tag attributes contents children rest h ihc ih =>
    rw [listIds, List.nodup_append'] at hnodup
    obtain ⟨hn, hrest, hapart⟩ := hnodup
    rw [ids, List.nodup_cons, List.nodup_append'] at hn
    obtain ⟨hi, -, hchildren, hcontents⟩ := hn
    have hbelow : hoistAll ((listUnwrapped allowed children).map id) (contents ++ children) =
        contents ++ listUnwrapPass allowed children := by
      rw [hoistAll_append, ihc hchildren, hoistAll_of_not_mem]
      exact fun j hj hmem => hcontents hmem (mem_listIds_of_mem_disallowed hj)
    have hhere : hoistAll (i :: (listUnwrapped allowed children).map id)
        [element i tag attributes contents children] =
          contents ++ listUnwrapPass allowed children := by
      rw [← hbelow, hoistAll, List.foldl_cons]
      simp [listHoist, id, Node.contents, Node.children, hoistAll]
    rw [listUnwrapped, if_neg h, List.map_cons, List.map_append, ← List.cons_append]
    refine (hoistAll_cons ?_ (fun _ => mem_listIds_of_mem_disallowed) hapart).trans ?_
    · intro j hj
      rw [List.mem_cons] at hj
      rcases hj with rfl | hj
      · exact List.mem_cons_self
      · exact List.mem_cons_of_mem _
          (List.mem_append_right _ (mem_listIds_of_mem_disallowed hj))
    · rw [ih hrest]
      exact congrArg (· ++ listUnwrapPass allowed rest) hhere

theorem nodup_children (h : n.ids.Nodup) : (listIds n.children).Nodup := by
  cases n with
  | leaf => exact .nil
  | root => exact (List.nodup_cons.mp h).2
  | element => exact (List.nodup_append'.mp (List.nodup_cons.mp h).2).2.1

theorem nodup_unwrapPass (h : n.ids.Nodup) : (n.unwrapPass allowed).ids.Nodup := by
  rw [List.nodup_iff_count_le_one] at h ⊢
  intro i
  have hcount := count_unwrapPass i allowed n
  have hone := h i
  omega

theorem round_eq (h : n.ids.Nodup) :
    (n.disallowed allowed).foldl (fun t i => t.hoist i) n = n.unwrapPass allowed := by
  rw [foldl_hoist, disallowed_eq, unwrapped_eq, hoistAll_disallowed _ _ (nodup_children h),
    unwrapPass_eq]

/-- The loop ends, and with one result only. -/
theorem unwraps_iff (h : n.ids.Nodup) : Unwraps allowed n m ↔ m = (n.unwrap allowed).1 := by
  constructor
  · intro hloop
    induction hloop with
    | done hnone =>
      rw [disallowed_eq, List.map_eq_nil_iff] at hnone
      rw [unwrap_of_nil hnone]
    | round hsome again ih =>
      rw [disallowed_eq, ne_eq, List.map_eq_nil_iff] at hsome
      rw [round_eq h] at ih
      rw [unwrap_of_ne_nil hsome]
      exact ih (nodup_unwrapPass h)
  · rintro rfl
    induction n using unwrap_induction allowed with
    | done n hnone =>
      rw [unwrap_of_nil hnone]
      exact .done (by rw [disallowed_eq, hnone, List.map_nil])
    | pass n hsome ih =>
      rw [unwrap_of_ne_nil hsome]
      refine .round (by rwa [disallowed_eq, ne_eq, List.map_eq_nil_iff]) ?_
      rw [round_eq h]
      exact ih (nodup_unwrapPass h)

-- --------------------------------------------------------------------
-- What is taken out
-- --------------------------------------------------------------------

/-- Nothing is left of an element but its name and attributes. -/
structure Emptied (allowed : List String) (n : Node) : Prop where
  disallowed : n.isDisallowed allowed = true
  contents : n.contents = []
  children : n.children = []

theorem emptied_listUnwrapped : ∀ n ∈ listUnwrapped allowed ns, n.Emptied allowed := by
  fun_induction listUnwrapped allowed ns with
  | case1 => simp
  | case2 i content rest ih => exact ih
  | case3 i kind children rest ihc ih =>
    intro n hn
    exact (List.mem_append.mp hn).elim (ihc n) (ih n)
  | case4 i tag attributes contents children rest h ihc ih =>
    intro n hn
    exact (List.mem_append.mp hn).elim (ihc n) (ih n)
  | case5 i tag attributes contents children rest h ihc ih =>
    intro n hn
    rw [List.mem_cons, List.mem_append] at hn
    rcases hn with rfl | hn | hn
    · exact ⟨by simpa using h, rfl, rfl⟩
    · exact ihc n hn
    · exact ih n hn

theorem emptied_unwrap : ∀ m ∈ (n.unwrap allowed).2, m.Emptied allowed := by
  induction n using unwrap_induction allowed with
  | done n h =>
    rw [unwrap_of_nil h]
    simp
  | pass n h ih =>
    rw [unwrap_of_ne_nil h, unwrapped_eq]
    intro m hm
    exact (List.mem_append.mp hm).elim (emptied_listUnwrapped m) (ih m)

/-- The node without its children. -/
def bare (n : Node) : Node := n.withChildren []

theorem bare_unwrap (allowed : List String) (n : Node) : (n.unwrap allowed).1.bare = n.bare := by
  rw [fst_unwrap, bare, withChildren_withChildren, bare]

end Node

/-- Unwrapping flattens what is below a node, in one loop that ends: no element below is left
that is not allowed, and texts stay in order. All else stays: with the children of that node
left off, the trees are as they were, beside the elements that were emptied and taken out. A
second time changes nothing. A node that a template holds has no place and is left out. -/
theorem Forest.unwrap_flattens {f : Forest} {i : NodeId} {p : Place} (wf : f.WellFormed)
    (hp : f.place? i = some p) (allowed : List String) :
    ∃ r emptied,
      (f.unwrap i allowed).WellFormed ∧ (f.unwrap i allowed).place? i = some r ∧
      (∀ m, Node.Unwraps allowed p.node m ↔ m = r.node) ∧
      r.node = p.node.withChildren (Node.listFlatten allowed p.node.children) ∧
      r.node.disallowed allowed = [] ∧ r.node.leaves = p.node.leaves ∧
      (f.unwrap i allowed).trees.map (·.edit i Node.bare) =
        emptied ++ f.trees.map (·.edit i Node.bare) ∧
      (∀ n ∈ emptied, n.id ∈ p.node.ids ∧ n.Emptied allowed) ∧
      (f.unwrap i allowed).unwrap i allowed = f.unwrap i allowed := by
  have hnode := node_of_place? hp
  obtain ⟨hmem, hi⟩ := mem_places_of_place? hp
  have hperm := Node.perm_unwrap allowed p.node
  have hid := (Node.id_unwrap allowed p.node).trans hi
  obtain ⟨hwf, r, hr, hrnode⟩ := edit_add_keeps (fun n => (n.unwrap allowed).1) wf hp hid hperm
  have hunwrap : f.unwrap i allowed =
      (f.edit i fun n => (n.unwrap allowed).1).add (p.node.unwrap allowed).2 := by
    rw [Forest.unwrap, hnode]
  rw [← hunwrap] at hwf hr
  have hnodup := wf.nodup_node hmem
  have hnone : r.node.unwrapped allowed = [] := by
    rw [hrnode]
    exact Node.unwrapped_unwrap allowed p.node
  refine ⟨r, (p.node.unwrap allowed).2, hwf, hr, ?_, ?_, ?_, ?_, ?_, ?_, ?_⟩
  · intro m
    rw [Node.unwraps_iff hnodup, hrnode]
  · rw [hrnode, Node.fst_unwrap]
  · rw [Node.disallowed_eq, hnone, List.map_nil]
  · rw [hrnode, Node.leaves_unwrap]
  · have hout : i ∉ listIds (p.node.unwrap allowed).2 := by
      have hdealt := hperm.nodup_iff.mpr hnodup
      rw [List.nodup_append'] at hdealt
      exact hdealt.2.2 (hid ▸ Node.id_mem_ids _)
    have hhidden : ∀ t : Node, (t.edit i fun n => (n.unwrap allowed).1).edit i Node.bare =
        t.edit i Node.bare := Node.edit_edit (Node.id_unwrap allowed) (Node.bare_unwrap allowed)
    simp only [hunwrap, add, edit, List.map_append, List.map_map, Function.comp_def, hhidden,
      map_edit_of_not_mem hout]
  · intro n hn
    refine ⟨hperm.mem_iff.mp (List.mem_append_right _ ?_), Node.emptied_unwrap n hn⟩
    exact Node.mem_listIds.mpr ⟨n, hn, Node.id_mem_ids n⟩
  · have hfixed : r.node.unwrap allowed = (r.node, []) := Node.unwrap_of_nil hnone
    have hsame : (f.unwrap i allowed).edit i (fun n => (n.unwrap allowed).1) =
        f.unwrap i allowed := edit_of_fixed hwf hr (by rw [hfixed])
    rw [Forest.unwrap, node_of_place? hr, hfixed, hsame]
    rfl

/-- A section with a template in a template. -/
def nestedPage : Forest :=
  ⟨[.root 0 .document
      [.element 1 ⟨.html, "section"⟩ [] []
        [.element 2 ⟨.html, "template"⟩ []
          [.element 3 ⟨.html, "template"⟩ []
            [.leaf 4 (.text "a"), .element 5 ⟨.html, "b"⟩ [] [] [.leaf 6 (.text "c")]] []]
          [.leaf 7 (.text "d")],
         .leaf 8 (.text "e")]]], 9⟩

theorem nested_templates_are_flattened :
    nestedPage.WellFormed ∧
      ∃ p r, nestedPage.place? 1 = some p ∧ (nestedPage.unwrap 1 ["b"]).place? 1 = some r ∧
        r.node = .element 1 ⟨.html, "section"⟩ [] []
          [.leaf 4 (.text "a"), .element 5 ⟨.html, "b"⟩ [] [] [.leaf 6 (.text "c")],
           .leaf 7 (.text "d"), .leaf 8 (.text "e")] := by
  have wf : nestedPage.WellFormed := ⟨by decide, by decide⟩
  obtain ⟨p, hp⟩ := Option.isSome_iff_exists.mp
    (show (nestedPage.place? 1).isSome = true by decide)
  obtain ⟨r, -, -, hr, -, hflat, -⟩ := Forest.unwrap_flattens wf hp ["b"]
  refine ⟨wf, p, r, hp, hr, ?_⟩
  rw [hflat, ← Forest.node_of_place? hp]
  rfl

end PageRecords.Dom
