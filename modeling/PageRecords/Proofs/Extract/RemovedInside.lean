import PageRecords.Proofs.Extract.LeafValues

/-!
# What is removed inside

The selectors of `removeInside` are applied one after the other to a copy of each node that a
block matches, with nothing of the page around it. What one of them accepts there, when its
turn comes, and nothing else stays out of the value (`removed_inside_stays_out`). To be accepted
on the page is not enough: `copies_are_searched_apart`.
-/

namespace PageRecords

open Dom (Forest Node NodeId Place)
open Extract

namespace MatchBlock

variable {f : Forest} {context : NodeId} {b : MatchBlock}

/-- A block without attribute gives the content of what is left of each node it takes. -/
theorem evaluate_of_readable (wf : f.WellFormed) (hcontext : (f.place? context).isSome)
    (hattr : b.attr = none) (hnext : b.addNextUntil = none)
    (hread : ∀ s ∈ b.selectors, ¬Unreadable s) :
    ((b.evaluate context false).run.run f).1 =
      .ok (.values ((b.leftIn f context).map fun m => b.contentOf (b.remainder (f.node m)))) := by
  have hsubject : ∀ m, b.subject f m = f.node m := fun m => by
    rw [subject, stop?, hnext]
    rfl
  rw [evaluate_values wf hcontext hread]
  simp only [valueIn_of_no_attr hattr, hsubject, List.filterMap_eq_map']

end MatchBlock

/-- Out of the value of a node stays exactly what a selector of `removeInside` accepts, when its
turn comes, in a tree that is the node alone, with all below. It does not matter when its turn
comes if the selector is steady, nor whether it is asked there or on the page if it asks about
nothing above what it accepts. Contexts that a template holds are left out. -/
theorem removed_inside_stays_out {f : Forest} {context : NodeId} {b : MatchBlock}
    (wf : f.WellFormed) (hcontext : (f.place? context).isSome) (hattr : b.attr = none)
    (hnext : b.addNextUntil = none) (hread : ∀ s ∈ b.selectors, ¬Unreadable s) :
    ((b.evaluate context false).run.run f).1 =
        .ok (.values ((b.leftIn f context).map fun m => b.contentOf (b.remainder (f.node m)))) ∧
      ∀ m ∈ b.leftIn f context,
        (∀ j, j ∈ (b.remainder (f.node m)).ids ↔ j ∈ (f.node m).ids ∧
          ∀ before s after, MatchBlock.parsed b.removeInside = before ++ s :: after →
            ∀ x ∈ (Place.top ((f.node m).cuts before)).descendants, s.accepts x = true →
              j ∉ x.node.ids) ∧
        ∀ before s after, MatchBlock.parsed b.removeInside = before ++ s :: after →
          before = [] ∨ s.isSteady = true →
            (∀ x ∈ (Place.top (f.node m)).descendants, s.accepts x = true →
              x.node.ids.Disjoint (b.remainder (f.node m)).ids) ∧
            (s.isSideways = true → ∀ x ∈ f.select m s,
              (f.node x).ids.Disjoint (b.remainder (f.node m)).ids) := by
  refine ⟨b.evaluate_of_readable wf hcontext hattr hnext hread, ?_⟩
  intro m hm
  obtain ⟨q, hq, rfl⟩ := MatchBlock.exists_place_of_mem_leftIn hm
  have hplace := Forest.place?_of_mem wf hq
  have hnode := Forest.node_of_place? hplace
  have hnodup := wf.nodup_node hq
  rw [MatchBlock.remainder, hnode]
  refine ⟨fun j => Node.mem_ids_cuts_iff _ hnodup, ?_⟩
  intro before s after hparsed hturn
  have hcopy : ∀ x ∈ (Place.top q.node).descendants, s.accepts x = true →
      x.node.ids.Disjoint (q.node.cuts (MatchBlock.parsed b.removeInside)).ids := by
    rw [hparsed]
    intro x hx haccepts j hj
    rcases hturn with rfl | hsteady
    · exact Node.not_mem_cuts [] after hnodup hx haccepts hj
    · exact Node.not_mem_cuts_of_steady before after hsteady hnodup hx haccepts hj
  refine ⟨hcopy, fun hsideways x hx => ?_⟩
  rw [Forest.select, hplace, List.mem_map] at hx
  obtain ⟨r, hr, rfl⟩ := hx
  obtain ⟨hr, haccepts⟩ := List.mem_filter.mp hr
  have hrplace := Forest.place?_of_mem wf (Forest.descendants_subset_places hq hr)
  obtain ⟨x, hx, hmirrors⟩ := Place.exists_mirror_listOf q (.top q.node) rfl q.node hr
  rw [Forest.node_of_place? hrplace, hmirrors.node]
  exact hcopy x hx (Place.mirrors_follows.accepts hmirrors hsideways haccepts)

def adBlock (texts : List String) : MatchBlock := { included := "div", removeInside := texts }

theorem ad_stays_out :
    adPage.WellFormed ∧ (adPage.place? 0).isSome ∧
      (∀ s ∈ (adBlock ["section p", "p"]).selectors, ¬Unreadable s) ∧
      (((adBlock ["section p", "p"]).evaluate 0 false).run.run adPage).1 =
        .ok (.values ["x"]) ∧
      (adPage.node 5).ids.Disjoint
        ((adBlock ["section p", "p"]).remainder (adPage.node 2)).ids := by
  have wf : adPage.WellFormed := ⟨by decide, by decide⟩
  have hcontext : (adPage.place? 0).isSome := by decide
  have hread : ∀ s ∈ (adBlock ["section p", "p"]).selectors, ¬Unreadable s := by decide +kernel
  have hleft : (adBlock ["section p", "p"]).leftIn adPage 0 = [2] := by decide +kernel
  have hcontent : (adBlock ["section p", "p"]).contentOf
      ((adBlock ["section p", "p"]).remainder (adPage.node 2)) = "x" := by decide +kernel
  obtain ⟨hvalues, hout⟩ := removed_inside_stays_out wf hcontext rfl rfl hread
  refine ⟨wf, hcontext, hread, ?_, ?_⟩
  · rw [hvalues, hleft, List.map_singleton, hcontent]
  · have hlength : (MatchBlock.parsed ["section p", "p"]).length = 2 := by decide +kernel
    have hlast : (MatchBlock.parsed ["section p", "p"]).getLast?.any (fun s =>
        s.isSteady && s.isSideways && (adPage.select 2 s).contains 5) = true := by decide +kernel
    obtain ⟨first, last, hparsed⟩ := List.length_eq_two.mp hlength
    obtain ⟨⟨hsteady, hsideways⟩, hselected⟩ :
        (last.isSteady = true ∧ last.isSideways = true) ∧ 5 ∈ adPage.select 2 last := by
      simpa [hparsed] using hlast
    obtain ⟨-, hturns⟩ := hout 2 (by rw [hleft]; simp)
    exact (hturns [first] last [] hparsed (.inr hsteady)).2 hsideways 5 hselected

/-- In a copy nothing is left of what stands around the node on the page, nor of what was removed
before. So an advertisement stays in the value that a selector accepts on the page. -/
theorem copies_are_searched_apart :
    adPage.WellFormed ∧ (adPage.place? 0).isSome ∧ (adPage.node 5).text = "ad" ∧
      ∀ b ∈ [(adBlock ["section p"], "xad"), (adBlock ["b", "b + p"], "ad")],
        b.1.attr = none ∧ b.1.addNextUntil = none ∧ (∀ s ∈ b.1.selectors, ¬Unreadable s) ∧
        b.1.leftIn adPage 0 = [2] ∧
        (∃ text ∈ b.1.removeInside, (Selector.parse? text).map (adPage.select 2) = some [5]) ∧
        ((b.1.evaluate 0 false).run.run adPage).1.toOption = some (.values [b.2]) := by
  refine ⟨⟨by decide, by decide⟩, by decide, by decide, ?_⟩
  decide +kernel

end PageRecords
