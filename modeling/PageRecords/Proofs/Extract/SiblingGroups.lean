import Mathlib.Data.List.TakeWhile
import PageRecords.Proofs.Extract.LeafValues

/-!
# Groups of siblings

A block that takes siblings along makes a group of each element it is about: the element and the
elements after it under the same parent, up to the next one the block is about. Selection goes
through everything below the context and groups go along siblings, so groups of one parent stand
between those of another. For each parent they deal out, once and in order, its element children
from the first accepted one on (`siblings_are_grouped_once`).
-/

namespace PageRecords

open Dom (Forest Node NodeId Place)
open Extract

namespace Dom.Place

variable {s : Selector} {p q : Place}

/-- The places of the children, in order. -/
def childPlaces (q : Place) : List Place := next.go q [] q.node.children

theorem map_node_next_go (parent : Place) (left ns : List Node) :
    (next.go parent left ns).map node = ns := by
  induction ns generalizing left with
  | nil => rfl
  | cons n rest ih => rw [next.go, List.map_cons, ih, node_under]

theorem map_node_childPlaces (q : Place) : q.childPlaces.map node = q.node.children :=
  map_node_next_go q [] _

theorem map_id_children (q : Place) :
    q.node.children.map Node.id = q.childPlaces.map (·.node.id) := by
  rw [← q.map_node_childPlaces, List.map_map]
  rfl

theorem childPlaces_sublist (q : Place) : q.childPlaces.Sublist q.descendants := by
  have hgo := next_go_sublist_listBelow q [] q.node.children
  rw [childPlaces, descendants]
  cases h : q.node with
  | leaf => exact .slnil
  | root => rwa [h] at hgo
  | element => rwa [h] at hgo

theorem childPlaces_sublist_of_mem (hq : q ∈ p.inclusiveDescendants) :
    q.childPlaces.Sublist p.descendants := by
  rcases List.mem_cons.mp hq with rfl | hq
  · exact childPlaces_sublist q
  · exact (childPlaces_sublist q).trans (descendants_sublist_listOf p.node hq)

/-- The elements after a place under the same parent, up to the first that is accepted. -/
def followers (s : Selector) (q : Place) : List Place :=
  (q.next.filter (·.node.isElement)).takeWhile fun r => !s.accepts r

theorem isElement_of_accepts (h : s.accepts q = true) : q.node.isElement = true := by
  rw [Selector.accepts, Bool.and_eq_true] at h
  exact h.1

/-- Along siblings, the accepted ones with their followers are all elements from the first
accepted one on. -/
theorem flatMap_followers (s : Selector) (parent : Place) (left ns : List Node) :
    ((next.go parent left ns).filter s.accepts).flatMap (fun c => c :: c.followers s) =
      ((next.go parent left ns).filter (·.node.isElement)).dropWhile fun c => !s.accepts c := by
  induction ns generalizing left with
  | nil => rfl
  | cons n rest ih =>
    have hrest := ih (n :: left)
    rw [next.go]
    cases haccepts : s.accepts (.under parent left n rest) with
    | false =>
      rw [List.filter_cons_of_neg (by simp [haccepts]), hrest]
      cases hn : n.isElement <;> simp [hn, haccepts]
    | true =>
      have hn : n.isElement = true := isElement_of_accepts haccepts
      rw [List.filter_cons_of_pos haccepts, List.flatMap_cons, hrest, followers, next,
        List.cons_append, List.takeWhile_append_dropWhile]
      simp [hn, haccepts]

end Dom.Place

namespace Dom.Forest

variable {f : Forest} {i : NodeId} {p q : Place} {s : Selector}

/-- The groups that the elements below a node begin. -/
def siblingGroups (f : Forest) (i : NodeId) (s : Selector) : List (List NodeId) :=
  (f.select i s).map fun m => m :: f.siblingsUntil m s

/-- The groups that begin with a child of a node. -/
def groupsUnder (groups : List (List NodeId)) (n : Node) : List (List NodeId) :=
  groups.filter fun group => group.head?.any (n.children.map Node.id).contains

theorem siblingGroups_eq (wf : f.WellFormed) (hp : f.place? i = some p) (s : Selector) :
    f.siblingGroups i s = (p.descendants.filter s.accepts).map fun c =>
      (c :: c.followers s).map (·.node.id) := by
  rw [siblingGroups, select, hp, List.map_map]
  refine List.map_congr_left fun c hc => ?_
  have hbelow := (List.mem_filter.mp hc).1
  have hplace := place?_of_mem wf (descendants_subset_places (mem_places_of_place? hp).1 hbelow)
  simp only [Function.comp_apply, siblingsUntil, hplace, List.map_cons, Place.followers]

/-- Distinct identities pick the places of a part out of the whole. -/
theorem filter_of_sublist {cs ds : List Place} (h : cs.Sublist ds)
    (hnodup : (ds.map (·.node.id)).Nodup) :
    (ds.filter fun d => (cs.map (·.node.id)).contains d.node.id) = cs := by
  induction h with
  | slnil => rfl
  | @cons cs ds d h ih =>
    rw [List.map_cons, List.nodup_cons] at hnodup
    have hd : d.node.id ∉ cs.map (·.node.id) := fun hmem => hnodup.1 ((h.map _).mem hmem)
    rw [List.filter_cons_of_neg (by simpa using hd), ih hnodup.2]
  | @cons_cons cs ds d h ih =>
    rw [List.map_cons, List.nodup_cons] at hnodup
    rw [List.filter_cons_of_pos (by simp)]
    have hrest : ∀ r ∈ ds, ((d :: cs).map (·.node.id)).contains r.node.id =
        (cs.map (·.node.id)).contains r.node.id := fun r hr => by
      have hne : r.node.id ≠ d.node.id := fun heq => hnodup.1 (heq ▸ List.mem_map_of_mem hr)
      simp [hne]
    rw [List.filter_congr hrest, ih hnodup.2]

theorem dropWhile_congr {α : Type} {keep keep' : α → Bool} {as : List α}
    (h : ∀ a ∈ as, keep a = keep' a) : as.dropWhile keep = as.dropWhile keep' := by
  induction as with
  | nil => rfl
  | cons a as ih =>
    rw [List.dropWhile_cons, List.dropWhile_cons, h a List.mem_cons_self,
      ih fun a' ha' => h a' (List.mem_cons_of_mem _ ha')]

/-- The groups that begin under one parent deal out its elements from the first accepted one on. -/
theorem flatten_groupsUnder (wf : f.WellFormed) (hp : f.place? i = some p) (s : Selector)
    (hq : q ∈ p.inclusiveDescendants) :
    (groupsUnder (f.siblingGroups i s) q.node).flatten =
      ((q.node.children.filter Node.isElement).map Node.id).dropWhile
        fun j => !f.accepts j s := by
  have hplace := (mem_places_of_place? hp).1
  have hnodup := wf.nodup_descendants hplace
  have hsub := Place.childPlaces_sublist_of_mem hq
  have helements : (q.node.children.filter Node.isElement).map Node.id =
      (q.childPlaces.filter (·.node.isElement)).map (·.node.id) := by
    rw [← q.map_node_childPlaces, List.filter_map, List.map_map]
    rfl
  have hunder : groupsUnder (f.siblingGroups i s) q.node =
      (q.childPlaces.filter s.accepts).map fun c => (c :: c.followers s).map (·.node.id) := by
    rw [groupsUnder, siblingGroups_eq wf hp, List.filter_map, q.map_id_children]
    refine congrArg (List.map _) ?_
    rw [List.filter_comm]
    exact congrArg (List.filter _) (filter_of_sublist hsub hnodup)
  have haccepts : ∀ c ∈ q.childPlaces.filter (·.node.isElement),
      (!f.accepts c.node.id s) = !s.accepts c := fun c hc => by
    have hbelow := hsub.mem (List.mem_filter.mp hc).1
    rw [accepts, place?_of_mem wf (descendants_subset_places hplace hbelow)]
    rfl
  calc (groupsUnder (f.siblingGroups i s) q.node).flatten
      = ((q.childPlaces.filter s.accepts).flatMap fun c => c :: c.followers s).map
          (·.node.id) := by
        rw [hunder, List.map_flatMap, List.flatMap_def]
    _ = ((q.childPlaces.filter (·.node.isElement)).dropWhile fun c => !s.accepts c).map
          (·.node.id) := by
        rw [Place.childPlaces, Place.flatMap_followers]
    _ = ((q.node.children.filter Node.isElement).map Node.id).dropWhile
          fun j => !f.accepts j s := by
        rw [helements, List.dropWhile_map, ← dropWhile_congr haccepts]
        rfl

/-- What follows the first of a group is not accepted. -/
theorem siblingsUntil_not_accepted (wf : f.WellFormed) (m : NodeId) (s : Selector) :
    ∀ x ∈ f.siblingsUntil m s, f.accepts x s = false := by
  intro x hx
  rw [siblingsUntil] at hx
  cases hm : f.place? m with
  | none => simp [hm] at hx
  | some q =>
    simp only [hm, List.mem_map] at hx
    obtain ⟨r, hr, rfl⟩ := hx
    have hnext := (List.mem_filter.mp ((List.takeWhile_sublist _).mem hr)).1
    have hplace := next_subset_places (mem_places_of_place? hm).1 hnext
    rw [accepts, place?_of_mem wf hplace]
    simpa using List.mem_takeWhile_imp hr

end Dom.Forest

namespace MatchBlock

variable {f : Forest} {context : NodeId} {ids : List NodeId} {ps : List Place} {b : MatchBlock}
  {text : String} {s : Selector}

/-- Copies are cleaned where they are. -/
theorem exec_cleanedCopies_true {base g : Forest} {ns : List Node}
    (hread : ∀ t ∈ b.removeInside, ¬Unreadable t) (hbase : base.WellFormed) (wf : g.WellFormed)
    (grows : base.Grows g) (h : Copies base g ids ns) :
    ∃ g', exec (b.cleanedCopies true ids) g = (.ok (ids, true), g') ∧ g'.WellFormed ∧
      base.Grows g' ∧ Copies base g' ids (ns.map b.remainder) := by
  have hparsed := mapM_compiled_of_readable hread
  rw [cleanedCopies]
  split
  · next hempty =>
    have hsame : ns.map b.remainder = ns := by
      rw [List.isEmpty_iff] at hempty
      have hall : b.remainder = fun n => n := funext fun n => by
        rw [remainder, hempty]
        rfl
      rw [hall, List.map_id']
    exact ⟨g, rfl, wf, grows, hsame.symm ▸ h⟩
  · obtain ⟨g', hexec, hwf, hgrow, -, hroots⟩ := exec_cleaned hparsed hbase wf grows h
    refine ⟨g', ?_, hwf, hgrow, h.nodup, h.new, hroots⟩
    simp only [if_true, pure_bind]
    rw [exec_bind_ok hexec, exec_pure]

theorem map_remainder_group (wf : f.WellFormed) (h : List.Forall₂ f.Shows ids ps)
    (hstop : b.stop? = some s) : (ps.map (group s)).map b.remainder =
      ids.map fun m => (b.remainder (b.subject f m)).shape := by
  induction h with
  | nil => rfl
  | @cons m q _ _ hm _ ih =>
    have hgroup : b.remainder (group s q) = (b.remainder (b.subject f m)).shape := by
      rw [remainder, remainder, shape_cuts, shape_subject hm wf, subjectAt, hstop]
      rfl
    rw [List.map_cons, List.map_cons, List.map_cons, ih, hgroup]

/-- A block that takes siblings along prepares one tree of its own for each element. -/
theorem exec_prepared_groups (wf : f.WellFormed) (hcontext : (f.place? context).isSome)
    (hread : ∀ t ∈ b.selectors, ¬Unreadable t) (hnext : b.addNextUntil = some text) :
    ∃ roots g, exec (b.prepared context) f = (.ok (roots, true), g) ∧ g.WellFormed ∧ f.Grows g ∧
      Copies f g roots ((b.leftIn f context).map fun m => (b.remainder (b.subject f m)).shape) := by
  obtain ⟨p, hp⟩ := Forest.exists_shows hcontext
  obtain ⟨s, hs⟩ := exists_stop hread hnext
  have hcompiled : compiled text = .ok s := by rw [compiled, hs]
  have hstop : b.stop? = some s := by rw [stop?, hnext, Option.bind_some, hs]
  have hleft := left_shows wf hp b
  obtain ⟨roots, g, htaken, hwf, hgrow, hnodup, hnew, hroots⟩ :=
    mapM_plants (plants_group hcompiled) wf hleft
  have hinside : ∀ t ∈ b.removeInside, ¬Unreadable t := fun t ht =>
    hread t (by simp [selectors, ht])
  obtain ⟨g', hcleaned, hwf', hgrow', hcopies⟩ :=
    exec_cleanedCopies_true hinside wf hwf hgrow ⟨hnodup, hnew, hroots⟩
  rw [map_remainder_group wf hleft hstop] at hcopies
  refine ⟨roots, g', ?_, hwf', hgrow', hcopies⟩
  rw [prepared_eq, exec_bind_ok (exec_matched hread context f), taken, hnext]
  exact (exec_bind_ok htaken).trans hcleaned

/-- A tree of its own that holds copies of the nodes of a group, cleaned as the block says. -/
def Holds (b : MatchBlock) (f g : Forest) (root : NodeId) (group : List NodeId) : Prop :=
  ∃ t, g.place? root = some (.top t) ∧
    t.shape = (b.remainder (Forest.wrapper (group.map f.node))).shape ∧
    (b.removeInside = [] → t.children.map Node.shape = group.map fun m => (f.node m).shape)

/-- The block includes what a selector accepts, takes siblings along up to the next that it
accepts, and excludes nothing. -/
structure GroupsBy (b : MatchBlock) (text : String) : Prop where
  included : b.included = text
  next : b.addNextUntil = some text
  excluded : b.excluded = ""

namespace GroupsBy

theorem readable (hb : b.GroupsBy text) (hs : Selector.parse? text = some s)
    (hread : ∀ t ∈ b.removeInside, ¬Unreadable t) : ∀ t ∈ b.selectors, ¬Unreadable t := by
  intro t ht
  have hreadable : ¬Unreadable text := by simp [Unreadable, hs]
  simp only [selectors, hb.excluded, hb.included, hb.next, List.mem_cons, List.mem_append] at ht
  rcases ht with rfl | (ht | ht) | ht
  · exact hreadable
  · simp at ht
  · rw [Option.mem_toList] at ht
    cases ht
    exact hreadable
  · exact hread t ht

theorem leftIn_eq (hb : b.GroupsBy text) (hs : Selector.parse? text = some s) :
    b.leftIn f context = f.select context s := by
  simp [leftIn, includedIn, excluder?, hb.included, hb.excluded, hs]

theorem subject_eq (hb : b.GroupsBy text) (hs : Selector.parse? text = some s) (m : NodeId) :
    b.subject f m = Forest.wrapper ((m :: f.siblingsUntil m s).map f.node) := by
  rw [subject, stop?, hb.next, Option.bind_some, hs]
  rfl

theorem evaluate_nodes (hb : b.GroupsBy text) (wf : f.WellFormed)
    (hcontext : (f.place? context).isSome) (hs : Selector.parse? text = some s)
    (hread : ∀ t ∈ b.removeInside, ¬Unreadable t) :
    ∃ roots g, (b.evaluate context true).run.run f = (.ok (.nodes roots), g) ∧ g.WellFormed ∧
      f.Grows g ∧ roots.Nodup ∧ List.Forall₂ (b.Holds f g) roots (f.siblingGroups context s) := by
  obtain ⟨roots, g, hexec, hwf, hgrow, hcopies⟩ :=
    exec_prepared_groups wf hcontext (hb.readable hs hread) hb.next
  refine ⟨roots, g, exec_bind_ok hexec, hwf, hgrow, hcopies.nodup, ?_⟩
  have hroots := hcopies.roots
  rw [hb.leftIn_eq hs, List.forall₂_map_right_iff] at hroots
  rw [Forest.siblingGroups, List.forall₂_map_right_iff]
  refine hroots.imp fun r m hroot => ?_
  obtain ⟨t, ht, rfl, hshape⟩ := hroot
  rw [hb.subject_eq hs] at hshape
  refine ⟨t, Forest.place?_root hwf ht, hshape, fun hnone => ?_⟩
  have hchildren := congrArg Node.children hshape
  rw [Node.children_shape, Node.children_shape, remainder, hnone] at hchildren
  simpa [parsed, Node.cuts, Function.comp_def] using hchildren

theorem evaluate_values (hb : b.GroupsBy text) (wf : f.WellFormed)
    (hcontext : (f.place? context).isSome) (hs : Selector.parse? text = some s)
    (hread : ∀ t ∈ b.removeInside, ¬Unreadable t) (hattr : b.attr = none) :
    ((b.evaluate context false).run.run f).1 =
      .ok (.values ((f.siblingGroups context s).map fun group =>
        b.contentOf (b.remainder (Forest.wrapper (group.map f.node))))) := by
  rw [MatchBlock.evaluate_values wf hcontext (hb.readable hs hread), hb.leftIn_eq hs,
    Forest.siblingGroups, List.map_map]
  simp only [valueIn_of_no_attr hattr, List.filterMap_eq_map', hb.subject_eq hs]
  rfl

end GroupsBy

end MatchBlock

/-- A block that includes what a selector accepts, takes siblings along up to the next that it
accepts and excludes nothing makes one group of each element accepted below the context, in
document order: the element and elements after it that are not accepted. Under each parent, the
context or below, the groups deal out all elements from the first accepted one on, each once and
in order. Each group is copied into a tree of its own, and is what a value is made of. Contexts
that a template holds are left out. -/
theorem siblings_are_grouped_once {f : Forest} {context : NodeId} {p : Place} {b : MatchBlock}
    {text : String} {s : Selector} (wf : f.WellFormed) (hp : f.place? context = some p)
    (hs : Selector.parse? text = some s) (hb : b.GroupsBy text)
    (hread : ∀ t ∈ b.removeInside, ¬Unreadable t) :
    ∃ groups : List (List NodeId),
      (∃ roots g, (b.evaluate context true).run.run f = (.ok (.nodes roots), g) ∧
        g.WellFormed ∧ f.Grows g ∧ roots.Nodup ∧ List.Forall₂ (b.Holds f g) roots groups) ∧
      (b.attr = none → ((b.evaluate context false).run.run f).1 =
        .ok (.values (groups.map fun group =>
          b.contentOf (b.remainder (Forest.wrapper (group.map f.node)))))) ∧
      (groups.map List.head? = (p.node.liveIds.filter (f.accepts · s)).map some ∧
        p.node.liveIds.Nodup) ∧
      (∀ group ∈ groups, ∃ m rest, group = m :: rest ∧ f.accepts m s = true ∧
        ∀ x ∈ rest, f.accepts x s = false) ∧
      ∀ q ∈ p.inclusiveDescendants,
        (Forest.groupsUnder groups q.node).flatten =
            ((q.node.children.filter Node.isElement).map Node.id).dropWhile
              (fun j => !f.accepts j s) ∧
          (Forest.groupsUnder groups q.node).flatten.Nodup := by
  have hcontext : (f.place? context).isSome := by simp [hp]
  have hnodup := wf.nodup_descendants (Forest.mem_places_of_place? hp).1
  refine ⟨f.siblingGroups context s, hb.evaluate_nodes wf hcontext hs hread,
    hb.evaluate_values wf hcontext hs hread, ⟨?_, ?_⟩, ?_, ?_⟩
  · rw [Forest.siblingGroups, List.map_map, Forest.select_eq_filter wf, Forest.node_of_place? hp]
    rfl
  · rwa [Place.descendants, Place.map_id_listOf] at hnodup
  · intro group hgroup
    obtain ⟨m, hm, rfl⟩ := List.mem_map.mp hgroup
    rw [Forest.select_eq_filter wf] at hm
    exact ⟨m, _, rfl, (List.mem_filter.mp hm).2, Forest.siblingsUntil_not_accepted wf m s⟩
  · intro q hq
    have hflatten := Forest.flatten_groupsUnder wf hp s hq
    refine ⟨hflatten, ?_⟩
    have hdistinct : (q.node.children.map Node.id).Nodup := by
      rw [q.map_id_children]
      exact hnodup.sublist ((Place.childPlaces_sublist_of_mem hq).map _)
    rw [hflatten]
    exact hdistinct.sublist ((List.dropWhile_sublist _).trans (List.filter_sublist.map _))

/-- A section with two headings, and another one inside the paragraph between them. -/
def headingsPage : Forest :=
  ⟨[.root 0 .document
      [.element 1 ⟨.html, "section"⟩ [] []
        [.leaf 2 (.text "x"),
         .element 3 ⟨.html, "h2"⟩ [] [] [.leaf 4 (.text "A")],
         .leaf 5 (.comment "y"),
         .element 6 ⟨.html, "p"⟩ [] []
          [.element 7 ⟨.html, "h2"⟩ [] [] [.leaf 8 (.text "B")],
           .leaf 9 (.text "z"), .element 10 ⟨.html, "i"⟩ [] [] []],
         .element 11 ⟨.html, "h2"⟩ [] [] [.leaf 12 (.text "C")]]]], 13⟩

def headingsBlock : MatchBlock := { included := "h2", addNextUntil := some "h2" }

/-- The groups of the section and of the paragraph in it. -/
theorem headings_are_grouped_once :
    headingsPage.WellFormed ∧ (Selector.parse? "h2").isSome ∧ ∃ groups,
      ((headingsBlock.evaluate 0 false).run.run headingsPage).1 =
        .ok (.values (groups.map fun group => headingsBlock.contentOf
          (headingsBlock.remainder (Forest.wrapper (group.map headingsPage.node))))) ∧
      groups.map List.head? = [some 3, some 7, some 11] ∧
      (Forest.groupsUnder groups (headingsPage.node 1)).flatten = [3, 6, 11] ∧
      (Forest.groupsUnder groups (headingsPage.node 6)).flatten = [7, 10] := by
  have wf : headingsPage.WellFormed := ⟨by decide, by decide⟩
  have hp : headingsPage.place? 0 = some (.top (headingsPage.node 0)) := rfl
  have hread : (Selector.parse? "h2").isSome := by decide +kernel
  obtain ⟨s, hs⟩ := Option.isSome_iff_exists.mp hread
  have hbegin : (Selector.parse? "h2").map (fun s =>
      ((headingsPage.node 0).liveIds.filter (headingsPage.accepts · s)).map some) =
        some [some 3, some 7, some 11] := by decide +kernel
  have hdealt : (Selector.parse? "h2").map (fun s => [1, 6].map fun i =>
      (((headingsPage.node i).children.filter Node.isElement).map Node.id).dropWhile
        fun j => !headingsPage.accepts j s) = some [[3, 6, 11], [7, 10]] := by decide +kernel
  obtain ⟨groups, -, hvalues, ⟨hheads, -⟩, -, hunder⟩ :=
    siblings_are_grouped_once (b := headingsBlock) wf hp hs ⟨rfl, rfl, rfl⟩ (by simp [headingsBlock])
  rw [hs, Option.map_some, Option.some_inj] at hbegin hdealt
  simp only [List.map_cons, List.map_nil, List.cons.injEq, and_true] at hdealt
  have hsection := (hunder _ (List.getElem_mem (show 1 < _ by decide))).1
  have hparagraph := (hunder _ (List.getElem_mem (show 6 < _ by decide))).1
  exact ⟨wf, hread, groups, hvalues rfl, hheads.trans hbegin, hsection.trans hdealt.1,
    hparagraph.trans hdealt.2⟩

end PageRecords
