import PageRecords.Proofs.Dom.Places
import PageRecords.Proofs.Selector.Shape

/-!
# Growth

What evaluation does to a forest: it adds trees of new nodes, and changes no tree
but those it added. `Grows` relates the forest before to the one after. `Reworked`
says what an operation on the root of one tree does: that tree is replaced, what
was taken out of it stands beside it, and every other tree stays.
-/

namespace PageRecords.Dom.Forest

open Node (listIds)

variable {f g h base : Forest} {i : NodeId} {p : Place} {n t u v : Node}

/-- The trees of `f` are all there in `g`, and the others consist of nodes that `f`
does not have. -/
structure Grows (f g : Forest) : Prop where
  trees : ∃ added, g.trees = added ++ f.trees ∧ ∀ i ∈ listIds added, f.fresh ≤ i
  fresh : f.fresh ≤ g.fresh

namespace Grows

theorem refl (f : Forest) : Grows f f :=
  ⟨⟨[], by simp [listIds]⟩, Nat.le_refl _⟩

theorem trans (hfg : Grows f g) (hgh : Grows g h) : Grows f h := by
  obtain ⟨⟨added, hg, hnew⟩, hfresh⟩ := hfg
  obtain ⟨⟨later, hh, hlater⟩, hfresh'⟩ := hgh
  refine ⟨⟨later ++ added, by rw [hh, hg, List.append_assoc], ?_⟩, Nat.le_trans hfresh hfresh'⟩
  intro i hi
  rw [Node.listIds_append, List.mem_append] at hi
  rcases hi with hi | hi
  · exact Nat.le_trans hfresh (hlater i hi)
  · exact hnew i hi

theorem mem_trees (hg : Grows f g) (ht : t ∈ f.trees) : t ∈ g.trees := by
  obtain ⟨⟨added, h, -⟩, -⟩ := hg
  rw [h]
  exact List.mem_append_right _ ht

theorem mem_places (hg : Grows f g) (hp : p ∈ f.places) : p ∈ g.places := by
  obtain ⟨t, ht, hp⟩ := Forest.mem_places.mp hp
  exact Forest.mem_places.mpr ⟨t, hg.mem_trees ht, hp⟩

/-- Every node stands where it stood, with all that is around and below it. -/
theorem place? (hg : Grows f g) (wf : g.WellFormed) (h : f.place? i = some p) :
    g.place? i = some p := by
  obtain ⟨hp, rfl⟩ := mem_places_of_place? h
  exact place?_of_mem wf (hg.mem_places hp)

end Grows

theorem grows_plant (f : Forest) (n : Node) : Grows f (f.plant n).2 := by
  refine ⟨⟨[(n.renumber f.fresh).1], rfl, ?_⟩, ?_⟩
  · intro i hi
    rw [listIds, listIds, (Node.renumber_ids f.fresh n).1, List.append_nil] at hi
    exact (List.mem_range'_1.mp hi).1
  · rw [plant_fresh]
    exact Nat.le_add_right ..

-- --------------------------------------------------------------------
-- Work on one tree
-- --------------------------------------------------------------------

/-- `g` comes from `f` by making `u` of the tree `t`, whatever that leaves over. -/
structure Reworked (f g : Forest) (t u : Node) : Prop where
  wellFormed : g.WellFormed
  mem : u ∈ g.trees
  id : u.id = t.id
  others : ∀ v ∈ f.trees, v.id ≠ t.id → v ∈ g.trees
  /-- Trees that were there before `t` are not concerned. -/
  grows : ∀ base : Forest, base.WellFormed → Grows base f → base.fresh ≤ t.id → Grows base g

namespace Reworked

theorem refl (wf : f.WellFormed) (ht : t ∈ f.trees) : Reworked f f t t :=
  ⟨wf, ht, rfl, fun _ hv _ => hv, fun _ _ hb _ => hb⟩

theorem trans (hfg : Reworked f g t u) (hgh : Reworked g h u v) : Reworked f h t v where
  wellFormed := hgh.wellFormed
  mem := hgh.mem
  id := hgh.id.trans hfg.id
  others w hw hne := hgh.others w (hfg.others w hw hne) (by rwa [hfg.id])
  grows base wf hb hle := hgh.grows base wf (hfg.grows base wf hb hle) (by rwa [hfg.id])

end Reworked

theorem map_edit_of_not_mem {change : Node → Node} {ns : List Node} (h : i ∉ listIds ns) :
    ns.map (·.edit i change) = ns := by
  have hstays : ∀ n ∈ ns, n.edit i change = n := fun n hn =>
    Node.edit_of_not_mem n fun hi => h (Node.mem_listIds.mpr ⟨n, hn, hi⟩)
  rw [List.map_congr_left hstays, List.map_id']

/-- Editing a node of one tree leaves the others alone. -/
theorem edit_add_trees (change : Node → Node) (out : List Node) {before after : List Node}
    (wf : f.WellFormed) (h : f.trees = before ++ t :: after) (hi : i ∈ t.ids) :
    ((f.edit i change).add out).trees = out ++ (before ++ t.edit i change :: after) := by
  have hnodup := wf.nodup
  rw [h, Node.listIds_append, List.nodup_append', listIds, List.nodup_append'] at hnodup
  obtain ⟨-, ⟨-, -, hafter⟩, hbefore⟩ := hnodup
  simp only [add, edit, h, List.map_append, List.map_cons]
  rw [map_edit_of_not_mem fun hj => hbefore hj (List.mem_append_left _ hi),
    map_edit_of_not_mem fun hj => hafter hi hj]

/-- A change that deals the identities of a tree out between the new tree and what
is left over. -/
theorem reworked_edit_add (change : Node → Node) (out : List Node) (wf : f.WellFormed)
    (ht : t ∈ f.trees) (hid : (change t).id = t.id)
    (hperm : ((change t).ids ++ listIds out).Perm t.ids) :
    Reworked f ((f.edit t.id change).add out) t (change t) := by
  obtain ⟨before, after, htrees⟩ := List.append_of_mem ht
  have hgtrees := edit_add_trees change out wf htrees (Node.id_mem_ids t)
  rw [Node.edit_self] at hgtrees
  have hids : (listIds ((f.edit t.id change).add out).trees).Perm (listIds f.trees) := by
    rw [List.perm_iff_count]
    intro j
    have := hperm.count_eq j
    simp only [hgtrees, htrees, Node.listIds_append, listIds, List.count_append] at this ⊢
    omega
  constructor
  case wellFormed =>
    exact ⟨hids.nodup_iff.mpr wf.nodup, fun j hj => wf.lt_fresh j (hids.mem_iff.mp hj)⟩
  case mem => simp [hgtrees]
  case id => exact hid
  case others =>
    intro v hv hne
    rw [htrees, List.mem_append, List.mem_cons] at hv
    rw [hgtrees]
    rcases hv with hv | rfl | hv
    · simp [hv]
    · contradiction
    · simp [hv]
  case grows =>
    intro base hbase hgrow hle
    obtain ⟨⟨added, hadded, hnew⟩, hfresh⟩ := hgrow
    -- The tree is one of those added since, for its identity is too large for the others.
    have htadded : t ∈ added := by
      rw [hadded, List.mem_append] at ht
      refine ht.resolve_right fun hmem => ?_
      exact Nat.lt_irrefl _ (Nat.lt_of_lt_of_le
        (hbase.lt_fresh_of_mem hmem (Node.id_mem_ids t)) hle)
    obtain ⟨first, last, rfl⟩ := List.append_of_mem htadded
    have hsplit : f.trees = first ++ t :: (last ++ base.trees) := by simp [hadded]
    refine ⟨⟨out ++ (first ++ change t :: last), ?_, ?_⟩, hfresh⟩
    · rw [edit_add_trees change out wf hsplit (Node.id_mem_ids t), Node.edit_self]
      simp
    · intro j hj
      have hmem : j ∈ (change t).ids ++ listIds out ∨ j ∈ listIds (first ++ t :: last) := by
        simp only [Node.listIds_append, listIds, List.mem_append] at hj ⊢
        tauto
      rcases hmem with hmem | hmem
      · exact hnew j (Node.mem_listIds.mpr ⟨t, htadded, hperm.mem_iff.mp hmem⟩)
      · exact hnew j hmem

/-- An operation on the root of a tree. -/
theorem reworked_removeMatching (wf : f.WellFormed) (ht : t ∈ f.trees) (s : Selector) :
    Reworked f (f.removeMatching t.id s) t (t.prune (f.select t.id s)) := by
  have hnode := node_root wf ht
  simp only [removeMatching, hnode]
  exact reworked_edit_add _ _ wf ht (Node.id_prune _ t) (Node.perm_prune _ t)

theorem reworked_unwrap (wf : f.WellFormed) (ht : t ∈ f.trees) (allowed : List String) :
    Reworked f (f.unwrap t.id allowed) t (t.unwrap allowed).1 := by
  have hnode := node_root wf ht
  simp only [Forest.unwrap, hnode]
  exact reworked_edit_add _ _ wf ht (Node.id_unwrap _ t) (Node.perm_unwrap _ t)

theorem reworked_removeAttributes (wf : f.WellFormed) (ht : t ∈ f.trees) (names : List String) :
    Reworked f (f.removeAttributes t.id names) t (t.strip names) := by
  have h := reworked_edit_add (·.strip names) [] wf ht (Node.id_strip names t) (by
      simp [listIds, Node.ids_strip])
  simpa [add, removeAttributes] using h

end PageRecords.Dom.Forest
