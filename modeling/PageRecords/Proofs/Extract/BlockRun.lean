import PageRecords.Proofs.Dom.Shows
import PageRecords.Proofs.Extract.Run

/-!
# Running a block

`MatchBlock.evaluate_runs`: a block run on a forest gives its outcome at the place of
the context, and the forest has only grown. Copies are worked on in place, so the
lemmas on them carry the roots of all copies along: work on one leaves the others.
-/

namespace PageRecords

open Dom (Forest Node NodeId Place)
open Extract

variable {f g base : Forest} {i context : NodeId} {ids : List NodeId} {p : Place}
  {ps : List Place} {n t : Node} {ns : List Node} {b : MatchBlock}

namespace Extract

-- --------------------------------------------------------------------
-- Loops
-- --------------------------------------------------------------------

theorem exec_filterAuxM {k : NodeId → Extract Bool} (keep : NodeId → Bool)
    (h : ∀ i ∈ ids, exec (k i) f = (.ok (keep i), f)) (acc : List NodeId) :
    exec (ids.filterAuxM k acc) f = (.ok ((ids.filter keep).reverse ++ acc), f) := by
  induction ids generalizing acc with
  | nil => rfl
  | cons i rest ih =>
    rw [List.filterAuxM, exec_bind_ok (h i List.mem_cons_self),
      ih fun j hj => h j (List.mem_cons_of_mem _ hj)]
    cases hk : keep i <;> simp [hk]

theorem exec_filterM {k : NodeId → Extract Bool} (keep : NodeId → Bool)
    (h : ∀ i ∈ ids, exec (k i) f = (.ok (keep i), f)) :
    exec (ids.filterM k) f = (.ok (ids.filter keep), f) := by
  rw [List.filterM, exec_bind_ok (exec_filterAuxM keep h [])]
  simp

theorem exec_filterM_error {k : NodeId → Extract Bool} {e : BadSelector}
    (h : exec (k i) f = (.error e, f)) : exec ((i :: ids).filterM k) f = (.error e, f) := by
  rw [List.filterM, List.filterAuxM, exec_bind_error (exec_bind_error h)]

theorem exec_mapM_error {α β : Type} {k : α → Extract β} {e : BadSelector} {a : α} {as : List α}
    (h : exec (k a) f = (.error e, g)) : exec ((a :: as).mapM k) f = (.error e, g) := by
  rw [List.mapM_cons, exec_bind_error h]

theorem exec_mapM_cons {α β : Type} {k : α → Extract β} {a : α} {as : List α} {b : β}
    {bs : List β} {h : Forest} (ha : exec (k a) f = (.ok b, g))
    (has : exec (as.mapM k) g = (.ok bs, h)) :
    exec ((a :: as).mapM k) f = (.ok (b :: bs), h) := by
  rw [List.mapM_cons, exec_bind_ok ha, exec_bind_ok has, exec_pure]

theorem forall₂_imp_of_mem {α β : Type} {R S : α → β → Prop} {as : List α} {bs : List β}
    (h : List.Forall₂ R as bs) (hRS : ∀ a ∈ as, ∀ b, R a b → S a b) : List.Forall₂ S as bs := by
  induction h with
  | nil => exact .nil
  | cons hab _ ih =>
    exact .cons (hRS _ List.mem_cons_self _ hab)
      (ih fun a ha => hRS a (List.mem_cons_of_mem _ ha))

/-- A program that plants one tree for a node. -/
def Plants (k : NodeId → Extract NodeId) (shapeOf : Place → Node) : Prop :=
  ∀ (f : Forest) (i : NodeId) (p : Place), f.WellFormed → f.Shows i p →
    ∃ n : Node, exec (k i) f = (.ok f.fresh, (f.plant n).2) ∧ n.shape = shapeOf p

/-- Planting one tree for each node: the roots are new, distinct and of the shapes that
were to be planted. -/
theorem mapM_plants {k : NodeId → Extract NodeId} {shapeOf : Place → Node}
    (hk : Plants k shapeOf) (wf : f.WellFormed) (h : List.Forall₂ f.Shows ids ps) :
    ∃ roots g, exec (ids.mapM k) f = (.ok roots, g) ∧ g.WellFormed ∧ f.Grows g ∧
      roots.Nodup ∧ (∀ r ∈ roots, f.fresh ≤ r) ∧
      List.Forall₂ g.Roots roots (ps.map shapeOf) := by
  induction ids generalizing f ps with
  | nil =>
    cases h
    exact ⟨[], f, rfl, wf, .refl f, .nil, by simp, .nil⟩
  | cons i ids ih =>
    cases h with
    | @cons _ p _ ps hi hids =>
      obtain ⟨n, hplant, hshape⟩ := hk f i p wf hi
      have hgrow := Forest.grows_plant f n
      have hwf := Forest.wellFormed_plant wf n
      obtain ⟨roots, g, hrest, hgwf, hgrow', hnodup, hnew, hroots⟩ :=
        ih hwf (hids.imp fun _ _ h => h.grow hgrow hwf)
      have hroot : (f.plant n).2.Roots f.fresh (shapeOf p) := hshape ▸ Forest.plant_roots f n
      have hlater : ∀ r ∈ roots, f.fresh < r := fun r hr =>
        Nat.lt_of_lt_of_le (Forest.fresh_lt_plant f n) (hnew r hr)
      refine ⟨f.fresh :: roots, g, exec_mapM_cons hplant hrest, hgwf, hgrow.trans hgrow', ?_, ?_,
        .cons (hroot.grow hgrow') hroots⟩
      · exact List.nodup_cons.mpr ⟨fun hmem => Nat.lt_irrefl _ (hlater _ hmem), hnodup⟩
      · intro r hr
        rcases List.mem_cons.mp hr with rfl | hr
        · exact Nat.le_refl _
        · exact Nat.le_of_lt (hlater r hr)

theorem plants_copy : Plants copy Place.node := fun f i _ _ h =>
  ⟨f.node i, rfl, Forest.node_of_shows h⟩

end Extract

namespace MatchBlock

-- --------------------------------------------------------------------
-- Matching and grouping
-- --------------------------------------------------------------------

theorem select_runs (wf : f.WellFormed) (i : NodeId) (selector : String) :
    Runs f f (select i selector) (compiled selector) fun g ids s => g = f ∧ ids = f.select i s := by
  have hexec := exec_select i selector f
  cases hs : compiled selector with
  | error e => exact .of_error (by rw [hexec, hs]; rfl) wf (.refl f)
  | ok s => exact .of_ok (by rw [hexec, hs]; rfl) wf (.refl f) ⟨rfl, rfl⟩

theorem forall₂_filter_not_accepts (h : List.Forall₂ f.Shows ids ps) (s : Selector) :
    List.Forall₂ f.Shows (ids.filter fun i => !f.accepts i s)
      (ps.filter fun q => !s.accepts q) := by
  induction h with
  | nil => exact .nil
  | @cons i q _ _ hi _ ih =>
    rw [List.filter_cons, List.filter_cons, Forest.accepts_of_shows hi]
    split
    · exact .cons hi ih
    · exact ih

/-- An excluding selector is read once there is an element to ask about. -/
theorem exclude_runs (wf : f.WellFormed) (h : List.Forall₂ f.Shows ids ps) (excluded : String) :
    Runs f f (ids.filterM fun i => return !(← accepts i excluded))
      (ifAny ps do
        let s ← compiled excluded
        return ps.filter fun q => !s.accepts q)
      fun g ids ps => List.Forall₂ g.Shows ids ps := by
  have hexec : ∀ i, exec (do return !(← accepts i excluded)) f =
      ((compiled excluded).map fun s => !f.accepts i s, f) := by
    intro i
    rw [exec_bind, exec_accepts]
    cases compiled excluded <;> rfl
  cases h with
  | nil => exact .of_ok rfl wf (.refl f) .nil
  | @cons i q ids ps hi hids =>
    cases hs : compiled excluded with
    | error e => exact .of_error (exec_filterM_error (by rw [hexec, hs]; rfl)) wf (.refl f)
    | ok s =>
      refine .of_ok (exec_filterM (fun i => !f.accepts i s) fun j _ => ?_) wf (.refl f)
        (forall₂_filter_not_accepts (.cons hi hids) s)
      rw [hexec, hs]
      rfl

theorem matched_runs (wf : f.WellFormed) (h : f.Shows context p) :
    Runs f f (b.matched context) (b.matchedAt p) fun g ids ps => List.Forall₂ g.Shows ids ps := by
  refine (select_runs wf context b.included).bind ?_
  rintro g ids s - - ⟨rfl, rfl⟩
  have hfound := Forest.select_shows wf h s
  dsimp only
  split
  · exact .of_ok rfl wf (.refl g) hfound
  · exact exclude_runs wf hfound b.excluded

theorem plants_group {stop : String} {s : Selector} (hs : compiled stop = .ok s) :
    Plants (fun i => do wrapCopies (i :: (← siblingsUntil i stop))) (group s) := by
  intro f i p wf h
  have hnodes := List.Forall₂.cons h (Forest.siblingsUntil_shows wf h s)
  refine ⟨_, ?_, Forest.shape_wrapper_nodes hnodes⟩
  rw [exec_bind_ok (by rw [exec_siblingsUntil, hs]; rfl)]
  rfl

/-- Trees of their own, planted since `base`, of these shapes. -/
structure Copies (base g : Forest) (ids : List NodeId) (ns : List Node) : Prop where
  nodup : ids.Nodup
  new : ∀ i ∈ ids, base.fresh ≤ i
  roots : List.Forall₂ g.Roots ids ns

theorem Copies.of_base (hbase : base.Grows f) (h : Copies f g ids ns) : Copies base g ids ns :=
  ⟨h.nodup, fun i hi => Nat.le_trans hbase.fresh (h.new i hi), h.roots⟩

/-- Nodes to go on with: copies, or nodes that stand somewhere. -/
inductive Ready (base g : Forest) : List NodeId → Bool → List Place → Prop
  | copies {roots : List NodeId} {trees : List Node} (h : Copies base g roots trees) :
    Ready base g roots true (trees.map .top)
  | standing {nodes : List NodeId} {places : List Place} (h : List.Forall₂ g.Shows nodes places) :
    Ready base g nodes false places

theorem Ready.of_base {isCopy : Bool} (hbase : base.Grows f) (h : Ready f g ids isCopy ps) :
    Ready base g ids isCopy ps := by
  cases h with
  | copies h => exact .copies (h.of_base hbase)
  | standing h => exact .standing h

theorem mapM_plants_runs {k : NodeId → Extract NodeId} {shapeOf : Place → Node}
    (hk : Plants k shapeOf) (wf : f.WellFormed) (h : List.Forall₂ f.Shows ids ps) :
    Runs f f (ids.mapM k) (.ok (ps.map fun q => .top (shapeOf q)))
      fun g ids ps => Ready f g ids true ps := by
  obtain ⟨roots, g, hexec, hgwf, hgrow, hnodup, hnew, hroots⟩ := mapM_plants hk wf h
  refine .of_ok hexec hgwf hgrow ?_
  have := Ready.copies ⟨hnodup, hnew, hroots⟩
  rwa [List.map_map] at this

/-- The second step of `prepared`. -/
def taken (b : MatchBlock) (ids : List NodeId) : Extract (List NodeId) :=
  match b.addNextUntil with
  | some stop => grouped stop ids
  | none => pure ids

theorem taken_runs (wf : f.WellFormed) (h : List.Forall₂ f.Shows ids ps) :
    Runs f f (b.taken ids) (b.groupedAt ps)
      fun g ids ps => Ready f g ids b.addNextUntil.isSome ps := by
  rw [taken, groupedAt]
  cases b.addNextUntil with
  | none => exact .of_ok rfl wf (.refl f) (.standing h)
  | some stop =>
    cases h with
    | nil => exact .of_ok rfl wf (.refl f) (.copies ⟨.nil, by simp, .nil⟩)
    | @cons i q ids ps hi hids =>
      show Runs f f (grouped stop (i :: ids)) _ _
      simp only [ifAny_cons]
      cases hs : compiled stop with
      | error e =>
        refine Runs.of_error (exec_mapM_error (exec_bind_error ?_)) wf (.refl f)
        rw [exec_siblingsUntil, hs]
        rfl
      | ok s => exact mapM_plants_runs (plants_group hs) wf (.cons hi hids)

-- --------------------------------------------------------------------
-- Cleaning
-- --------------------------------------------------------------------

/-- Removal by several selectors below one root, up to the first that cannot be read. -/
theorem exec_removeAll (selectors : List String) (wf : f.WellFormed) (ht : t ∈ f.trees) :
    ∃ g u, exec (selectors.forM (removeMatching t.id)) f =
        ((selectors.mapM compiled).map fun _ => (), g) ∧ f.Reworked g t u ∧
      ∀ ss, selectors.mapM compiled = .ok ss →
        u.shape = ss.foldl (fun n s => n.cut s) t.shape := by
  induction selectors generalizing f t with
  | nil =>
    refine ⟨f, t, rfl, .refl wf ht, ?_⟩
    rintro ss ⟨⟩
    rfl
  | cons selector selectors ih =>
    rw [List.mapM_cons]
    cases hs : compiled selector with
    | error e =>
      refine ⟨f, t, exec_bind_error (exec_removeMatching_error hs t.id f), .refl wf ht, ?_⟩
      rintro ss ⟨⟩
    | ok s =>
      have hwork := Forest.reworked_removeMatching wf ht s
      obtain ⟨g, u, hexec, hlater, hshape⟩ := ih hwork.wellFormed hwork.mem
      rw [hwork.id] at hexec
      have hall : exec ((selector :: selectors).forM (removeMatching t.id)) f = (_, g) :=
        (exec_bind_ok (exec_removeMatching hs t.id f)).trans hexec
      refine ⟨g, u, hall.trans ?_, hwork.trans hlater, ?_⟩
      · cases selectors.mapM compiled <;> rfl
      · intro ss hss
        cases hrest : selectors.mapM compiled with
        | error e => rw [hrest] at hss; cases hss
        | ok rest =>
          rw [hrest] at hss
          cases hss
          rw [hshape rest hrest, List.foldl_cons, Forest.shape_removeMatching wf ht]

/-- Every copy is cleaned, and no other tree is touched. -/
theorem exec_cleaned {selectors : List String} {ss : List Selector}
    (hss : selectors.mapM compiled = .ok ss) (hbase : base.WellFormed) (wf : f.WellFormed)
    (grows : base.Grows f) (h : Copies base f ids ns) :
    ∃ g, exec (cleaned selectors ids) f = (.ok (), g) ∧ g.WellFormed ∧ base.Grows g ∧
      (∀ i n, i ∉ ids → f.Roots i n → g.Roots i n) ∧
      List.Forall₂ g.Roots ids (ns.map fun n => ss.foldl (fun n s => n.cut s) n) := by
  obtain ⟨hnodup, hnew, hroots⟩ := h
  induction ids generalizing f ns with
  | nil =>
    cases hroots
    exact ⟨f, rfl, wf, grows, fun _ _ _ h => h, .nil⟩
  | cons i ids ih =>
    cases hroots with
    | @cons _ n _ ns hroot hroots =>
      obtain ⟨t, ht, rfl, rfl⟩ := hroot
      obtain ⟨hnot, hnodup⟩ := List.nodup_cons.mp hnodup
      obtain ⟨f', u, hexec, hwork, hshape⟩ := exec_removeAll selectors wf ht
      rw [hss] at hexec
      have hgrow := hwork.grows base hbase grows (hnew _ List.mem_cons_self)
      have hothers : List.Forall₂ f'.Roots ids ns :=
        forall₂_imp_of_mem hroots fun j hj m hm => hwork.roots (fun heq => hnot (heq ▸ hj)) hm
      obtain ⟨g, hrest, hgwf, hgrow', hkeeps, hcleaned⟩ :=
        ih hwork.wellFormed hgrow hnodup (fun j hj => hnew j (List.mem_cons_of_mem _ hj)) hothers
      refine ⟨g, (exec_bind_ok hexec).trans hrest, hgwf, hgrow', ?_, ?_⟩
      · intro j m hj hm
        rw [List.mem_cons, not_or] at hj
        exact hkeeps j m hj.2 (hwork.roots hj.1 hm)
      · have hroot := hkeeps _ _ hnot hwork.root
        rw [hshape ss hss] at hroot
        exact .cons hroot hcleaned

theorem cleaned_runs (hbase : base.WellFormed) (wf : f.WellFormed) (grows : base.Grows f)
    (h : Copies base f ids ns) (selectors : List String) :
    Runs base f (cleaned selectors ids)
      (cutAll selectors ns) fun g _ ns => Copies base g ids ns := by
  rw [cutAll]
  cases hss : selectors.mapM compiled with
  | ok ss =>
    obtain ⟨g, hexec, hgwf, hgrow, -, hroots⟩ := exec_cleaned hss hbase wf grows h
    have hifAny : (ifAny ns do
        let ss ← Except.ok ss
        return ns.map fun n => ss.foldl (fun n s => n.cut s) n) =
        .ok (ns.map fun n => ss.foldl (fun n s => n.cut s) n) := by
      cases ns <;> rfl
    rw [hifAny]
    exact .of_ok hexec hgwf hgrow ⟨h.nodup, h.new, hroots⟩
  | error e =>
    obtain ⟨hnodup, hnew, hroots⟩ := h
    cases hroots with
    | nil => exact .of_ok rfl wf grows ⟨.nil, by simp, .nil⟩
    | cons hroot hroots =>
      obtain ⟨t, ht, rfl, rfl⟩ := hroot
      obtain ⟨g, u, hexec, hwork, -⟩ := exec_removeAll selectors wf ht
      rw [hss] at hexec
      rw [ifAny_cons]
      exact .of_error (exec_bind_error hexec) hwork.wellFormed
        (hwork.grows base hbase grows (hnew _ List.mem_cons_self))

/-- The third step of `prepared`. -/
def cleanedCopies (b : MatchBlock) (isCopy : Bool) (ids : List NodeId) :
    Extract (List NodeId × Bool) :=
  if b.removeInside.isEmpty then return (ids, isCopy)
  else do
    let ids ← if isCopy then pure ids else ids.mapM copy
    cleaned b.removeInside ids
    return (ids, true)

theorem prepared_eq (b : MatchBlock) (context : NodeId) : b.prepared context =
    (do
      let ids ← b.matched context
      let ids ← b.taken ids
      b.cleanedCopies b.addNextUntil.isSome ids) := by
  rcases b with ⟨_, _, _, _, _, _, addNextUntil⟩
  cases addNextUntil <;> rfl

theorem cleanedCopies_runs {isCopy : Bool} (hbase : base.WellFormed) (wf : f.WellFormed)
    (grows : base.Grows f) (h : Ready base f ids isCopy ps) :
    Runs base f (b.cleanedCopies isCopy ids) (b.cleanedAt ps)
      fun g ready ps => Ready base g ready.1 ready.2 ps := by
  have hclean : ∀ f ids ns, f.WellFormed → base.Grows f → Copies base f ids ns →
      Runs base f (do cleaned b.removeInside ids; return (ids, true))
        (do let ns ← cutAll b.removeInside ns; return ns.map Place.top)
        fun g ready ps => Ready base g ready.1 ready.2 ps := by
    intro f ids ns wf grows hcopies
    refine (cleaned_runs hbase wf grows hcopies b.removeInside).bind ?_
    intro g _ ns hgwf hgrow hcopies
    exact .of_ok rfl hgwf hgrow (.copies hcopies)
  rw [cleanedCopies, cleanedAt]
  split
  · exact .of_ok rfl wf grows h
  · cases h with
    | copies hcopies =>
      simpa [Function.comp_def] using hclean f ids _ wf grows hcopies
    | standing hids =>
      obtain ⟨roots, g, hexec, hgwf, hgrow, hnodup, hnew, hroots⟩ := mapM_plants plants_copy wf hids
      have hcopies : Copies base g roots (ps.map Place.node) :=
        .of_base grows ⟨hnodup, hnew, hroots⟩
      exact Runs.after hexec (hclean g roots _ hgwf (grows.trans hgrow) hcopies)

theorem prepared_runs (wf : f.WellFormed) (h : f.Shows context p) :
    Runs f f (b.prepared context) (b.preparedAt p)
      fun g ready ps => Ready f g ready.1 ready.2 ps := by
  rw [prepared_eq]
  refine (matched_runs wf h).bind ?_
  intro g ids ps hgwf hgrow hids
  refine ((taken_runs hgwf hids).of_base hgrow).bind ?_
  intro g' ids ps hgwf' hgrow' hready
  exact cleanedCopies_runs wf hgwf' hgrow' (hready.of_base hgrow)

-- --------------------------------------------------------------------
-- Values
-- --------------------------------------------------------------------

theorem exec_value?_attr {name : String} (hattr : b.attr = some name) (h : f.Shows i p)
    (isCopy : Bool) : exec (b.value? isCopy i) f = (.ok (b.valueOf p.node), f) := by
  simp only [value?, valueOf, hattr]
  rw [exec_bind_ok (exec_get f), exec_pure, Forest.attribute?_of_shows h]

/-- The content of a tree of its own, which is changed on the way. -/
theorem exec_value?_content (hattr : b.attr = none) (wf : f.WellFormed) (ht : t ∈ f.trees) :
    ∃ g u, exec (b.value? true t.id) f = (.ok (b.valueOf t.shape), g) ∧ f.Reworked g t u := by
  have hunwrap := Forest.reworked_unwrap wf ht basicTags
  have hnode := Forest.node_root hunwrap.wellFormed hunwrap.mem
  rw [hunwrap.id] at hnode
  cases hkeep : b.keepBasicMarkup with
  | false =>
    refine ⟨_, _, ?_, hunwrap⟩
    simp only [value?, valueOf, hattr, hkeep, exec_bind, exec_pure, exec_modify, exec_get, if_true,
      Bool.false_eq_true, if_false, hnode]
    rw [← Node.shape_unwrap, Node.text_shape]
  | true =>
    have hstrip :=
      Forest.reworked_removeAttributes hunwrap.wellFormed hunwrap.mem stylingAttributes
    have hwork := hunwrap.trans hstrip
    have hnode' := Forest.node_root hstrip.wellFormed hstrip.mem
    rw [hunwrap.id] at hwork
    rw [hstrip.id, hunwrap.id] at hnode'
    refine ⟨_, _, ?_, hwork⟩
    simp only [value?, valueOf, hattr, hkeep, exec_bind, exec_pure, exec_modify, exec_get, if_true,
      hnode']
    rw [← Node.shape_unwrap, ← Node.shape_strip, Node.outerMarkup_shape, Node.innerMarkup_shape]

theorem exec_value?_copy (wf : f.WellFormed) (ht : t ∈ f.trees) :
    ∃ g u, exec (b.value? true t.id) f = (.ok (b.valueOf t.shape), g) ∧ f.Reworked g t u := by
  cases hattr : b.attr with
  | none => exact exec_value?_content hattr wf ht
  | some name =>
    have hshows : f.Shows t.id (.top t.shape) := ⟨.top t, Forest.place?_root wf ht, rfl⟩
    exact ⟨f, t, exec_value?_attr hattr hshows true, .refl wf ht⟩

/-- The content of a node of the page is read off a copy. -/
theorem exec_value?_standing (wf : f.WellFormed) (h : f.Shows i p) :
    ∃ g, exec (b.value? false i) f = (.ok (b.valueOf p.node), g) ∧ g.WellFormed ∧ f.Grows g := by
  cases hattr : b.attr with
  | some name => exact ⟨f, exec_value?_attr hattr h false, wf, .refl f⟩
  | none =>
    have hwf := Forest.wellFormed_plant wf (f.node i)
    have hgrow := Forest.grows_plant f (f.node i)
    have hmem : ((f.node i).renumber f.fresh).1 ∈ (f.plant (f.node i)).2.trees := by
      simp [Forest.plant_trees]
    obtain ⟨g, u, hexec, hwork⟩ := exec_value?_content hattr hwf hmem
    rw [Node.shape_renumber, Forest.node_of_shows h, Node.id_renumber] at hexec
    refine ⟨g, ?_, hwork.wellFormed, hwork.grows f wf hgrow (by simp)⟩
    have hsame : exec (b.value? false i) f =
        exec (b.value? true f.fresh) (f.plant (f.node i)).2 := by
      simp only [value?, hattr]
      rfl
    rw [hsame, hexec]

theorem mapM_value?_standing (wf : f.WellFormed) (h : List.Forall₂ f.Shows ids ps) :
    ∃ g, exec (ids.mapM (b.value? false)) f = (.ok (ps.map fun q => b.valueOf q.node), g) ∧
      g.WellFormed ∧ f.Grows g := by
  induction ids generalizing f ps with
  | nil =>
    cases h
    exact ⟨f, rfl, wf, .refl f⟩
  | cons i ids ih =>
    cases h with
    | cons hi hids =>
      obtain ⟨f', hexec, hwf, hgrow⟩ := exec_value?_standing (b := b) wf hi
      obtain ⟨g, hrest, hgwf, hgrow'⟩ := ih hwf (hids.imp fun _ _ h => h.grow hgrow hwf)
      exact ⟨g, exec_mapM_cons hexec hrest, hgwf, hgrow.trans hgrow'⟩

theorem mapM_value?_copies (hbase : base.WellFormed) (wf : f.WellFormed) (grows : base.Grows f)
    (h : Copies base f ids ns) :
    ∃ g, exec (ids.mapM (b.value? true)) f = (.ok (ns.map b.valueOf), g) ∧
      g.WellFormed ∧ base.Grows g := by
  obtain ⟨hnodup, hnew, hroots⟩ := h
  induction ids generalizing f ns with
  | nil =>
    cases hroots
    exact ⟨f, rfl, wf, grows⟩
  | cons i ids ih =>
    cases hroots with
    | cons hroot hroots =>
      obtain ⟨t, ht, rfl, rfl⟩ := hroot
      obtain ⟨hnot, hnodup⟩ := List.nodup_cons.mp hnodup
      obtain ⟨f', u, hexec, hwork⟩ := exec_value?_copy (b := b) wf ht
      have hothers := forall₂_imp_of_mem hroots fun j hj m hm =>
        hwork.roots (fun heq => hnot (heq ▸ hj)) hm
      obtain ⟨g, hrest, hgwf, hgrow⟩ := ih hwork.wellFormed
        (hwork.grows base hbase grows (hnew _ List.mem_cons_self)) hnodup
        (fun j hj => hnew j (List.mem_cons_of_mem _ hj)) hothers
      exact ⟨g, exec_mapM_cons hexec hrest, hgwf, hgrow⟩

theorem mapM_value?_ready {isCopy : Bool} (hbase : base.WellFormed) (wf : f.WellFormed)
    (grows : base.Grows f) (h : Ready base f ids isCopy ps) :
    ∃ g, exec (ids.mapM (b.value? isCopy)) f = (.ok (ps.map fun q => b.valueOf q.node), g) ∧
      g.WellFormed ∧ base.Grows g := by
  cases h with
  | copies h =>
    rw [List.map_map]
    exact mapM_value?_copies hbase wf grows h
  | standing h =>
    obtain ⟨g, hexec, hwf, hgrow⟩ := mapM_value?_standing (b := b) wf h
    exact ⟨g, hexec, hwf, grows.trans hgrow⟩

-- --------------------------------------------------------------------
-- The whole block
-- --------------------------------------------------------------------

/-- What a block gave is what it should give: nodes that show the places, or the same
values. -/
inductive Yields (g : Forest) : Matched → Found → Prop
  | nodes {ids : List NodeId} {ps : List Place} (h : List.Forall₂ g.Shows ids ps) :
    Yields g (.nodes ids) (.places ps)
  | values (vs : List String) : Yields g (.values vs) (.values vs)

theorem Ready.shows {isCopy : Bool} (wf : g.WellFormed) (h : Ready base g ids isCopy ps) :
    List.Forall₂ g.Shows ids ps := by
  cases h with
  | copies h =>
    rw [List.forall₂_map_right_iff]
    exact h.roots.imp fun _ _ h => h.shows wf
  | standing h => exact h

/-- A block run on a forest gives its outcome at the place of the context. -/
theorem evaluate_runs (wf : f.WellFormed) (h : f.Shows context p) (b : MatchBlock)
    (hasSubRules : Bool) :
    Runs f f (b.evaluate context hasSubRules) (b.outcome p hasSubRules) Yields := by
  refine (prepared_runs wf h).bind ?_
  rintro g ⟨ids, isCopy⟩ ps hgwf hgrow hready
  cases hasSubRules with
  | true => exact .of_ok rfl hgwf hgrow (.nodes (hready.shows hgwf))
  | false =>
    obtain ⟨g', hexec, hgwf', hgrow'⟩ := mapM_value?_ready (b := b) wf hgwf hgrow hready
    refine Runs.after hexec (.of_ok rfl hgwf' hgrow' ?_)
    rw [List.filterMap_map]
    exact .values _

end MatchBlock

end PageRecords
