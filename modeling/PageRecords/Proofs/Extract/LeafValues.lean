import PageRecords.Proofs.Dom.Survivors
import PageRecords.Proofs.Extract.BlockFailure

/-!
# Values node by node

A block without sub-rules makes one pass over the elements that it takes. Each value is what its
element would give alone, on the page as it was (`leaf_extraction_is_pointwise`): copies are
worked on, and work on one does not show in another, not even if one element stands inside the
other or two groups have siblings in common. Selectors that cannot be read are left to
`block_fails_iff`.
-/

namespace PageRecords

open Dom (Forest Node NodeId Place)
open Extract

namespace MatchBlock

variable {f : Forest} {context m : NodeId} {ids : List NodeId} {ps : List Place} {q : Place}
  {b : MatchBlock} {name : String}

-- --------------------------------------------------------------------
-- What a value is made of
-- --------------------------------------------------------------------

/-- The selectors of some texts. -/
def parsed (texts : List String) : List Selector := texts.filterMap Selector.parse?

/-- What is left of a node once a block has removed what it is to remove inside. -/
def remainder (b : MatchBlock) (n : Node) : Node := n.cuts (parsed b.removeInside)

/-- The selector up to which siblings are taken along. -/
def stop? (b : MatchBlock) : Option Selector := b.addNextUntil.bind Selector.parse?

/-- What the value of an element is made of: the element, or the group that it begins. -/
def subject (b : MatchBlock) (f : Forest) (m : NodeId) : Node :=
  b.stop?.elim (f.node m) fun stop =>
    Forest.wrapper ((m :: f.siblingsUntil m stop).map f.node)

def subjectAt (b : MatchBlock) (q : Place) : Node := b.stop?.elim q.node (group · q)

/-- The value that an element gives, if it gives one. -/
def valueIn (b : MatchBlock) (f : Forest) (m : NodeId) : Option String :=
  b.valueOf (b.remainder (b.subject f m))

theorem shape_cuts (ss : List Selector) (n : Node) : (n.cuts ss).shape = n.shape.cuts ss := by
  induction ss generalizing n with
  | nil => rfl
  | cons s ss ih => rw [Node.cuts, List.foldl_cons, ← Node.cuts, ih, Node.shape_cut]; rfl

theorem attributes_cuts (ss : List Selector) (n : Node) :
    (n.cuts ss).attributes = n.attributes := by
  induction ss generalizing n with
  | nil => rfl
  | cons s ss ih =>
    have hcut : (n.cut s).attributes = n.attributes := by cases n <;> rfl
    rw [Node.cuts, List.foldl_cons, ← Node.cuts, ih, hcut]

theorem contentOf_shape (b : MatchBlock) (n : Node) : b.contentOf n.shape = b.contentOf n := by
  simp only [contentOf, ← Node.shape_unwrap, ← Node.shape_strip, Node.outerMarkup_shape,
    Node.innerMarkup_shape, Node.text_shape]

theorem valueOf_shape (b : MatchBlock) (n : Node) : b.valueOf n.shape = b.valueOf n := by
  cases hattr : b.attr with
  | none => rw [valueOf_eq_contentOf hattr, valueOf_eq_contentOf hattr, contentOf_shape]
  | some name => simp [valueOf, hattr]

theorem shape_subject (h : f.Shows m q) (wf : f.WellFormed) :
    (b.subject f m).shape = b.subjectAt q := by
  rw [subject, subjectAt]
  cases b.stop? with
  | none => exact Forest.node_of_shows h
  | some stop =>
    exact Forest.shape_wrapper_nodes (.cons h (Forest.siblingsUntil_shows wf h stop))

theorem valueIn_of_shows (h : f.Shows m q) (wf : f.WellFormed) :
    b.valueIn f m = b.valueOf (b.remainder (b.subjectAt q)) := by
  rw [valueIn, ← valueOf_shape, remainder, shape_cuts, shape_subject h wf, remainder]

theorem filterMap_valueIn (wf : f.WellFormed) (h : List.Forall₂ f.Shows ids ps) :
    ps.filterMap (fun q => b.valueOf (b.remainder (b.subjectAt q))) =
      ids.filterMap (b.valueIn f) := by
  induction h with
  | nil => rfl
  | cons hm _ ih => rw [List.filterMap_cons, List.filterMap_cons, ih, valueIn_of_shows hm wf]

/-- Without attribute every element gives its content. -/
theorem valueIn_of_no_attr (hattr : b.attr = none) (f : Forest) (m : NodeId) :
    b.valueIn f m = some (b.contentOf (b.remainder (b.subject f m))) :=
  valueOf_eq_contentOf hattr _

theorem valueIn_of_attr (hattr : b.attr = some name) (f : Forest) (m : NodeId) :
    b.valueIn f m = (b.subject f m).attribute? name.toLower := by
  simp only [valueIn, valueOf, hattr, remainder, Node.attribute?, attributes_cuts]

/-- An attribute is read off the element itself. -/
theorem valueIn_of_attr_alone (hattr : b.attr = some name) (hnext : b.addNextUntil = none)
    (f : Forest) (m : NodeId) : b.valueIn f m = f.attribute? m name := by
  rw [valueIn_of_attr hattr, subject, stop?, hnext]
  rfl

/-- A group stands in an element without attributes. -/
theorem valueIn_of_attr_group {stop : Selector} (hattr : b.attr = some name)
    (hstop : b.stop? = some stop) (f : Forest) (m : NodeId) : b.valueIn f m = none := by
  have hwrapper : ∀ ns, (Forest.wrapper ns).attributes = [] := fun ns => by
    rw [Forest.wrapper]
    cases ns.findSome? Node.tag? <;> rfl
  rw [valueIn_of_attr hattr, subject, hstop, Option.elim_some, Node.attribute?, hwrapper]
  rfl

-- --------------------------------------------------------------------
-- Blocks whose selectors can be read
-- --------------------------------------------------------------------

theorem mapM_compiled_of_readable {texts : List String} (h : ∀ s ∈ texts, ¬Unreadable s) :
    texts.mapM compiled = .ok (parsed texts) := by
  induction texts with
  | nil => rfl
  | cons text texts ih =>
    obtain ⟨s, hs⟩ := Option.ne_none_iff_exists'.mp (h text List.mem_cons_self)
    have hcons : parsed (text :: texts) = s :: parsed texts := by
      rw [parsed, List.filterMap_cons, hs]
      rfl
    rw [List.mapM_cons, ih fun t ht => h t (List.mem_cons_of_mem _ ht), compiled, hs, hcons]
    rfl

theorem exists_stop (hread : ∀ s ∈ b.selectors, ¬Unreadable s) {text : String}
    (hnext : b.addNextUntil = some text) : ∃ stop, Selector.parse? text = some stop :=
  Option.ne_none_iff_exists'.mp (hread text (by simp [selectors, hnext]))

theorem groupedAt_of_readable (hread : ∀ s ∈ b.selectors, ¬Unreadable s) (ps : List Place) :
    ∃ qs, b.groupedAt ps = .ok qs ∧ qs.map Place.node = ps.map b.subjectAt := by
  cases hnext : b.addNextUntil with
  | none =>
    refine ⟨ps, by rw [groupedAt, hnext]; rfl, List.map_congr_left fun q _ => ?_⟩
    rw [subjectAt, stop?, hnext]
    rfl
  | some text =>
    obtain ⟨stop, hstop⟩ := exists_stop hread hnext
    refine ⟨ps.map fun q => .top (group stop q), ?_, ?_⟩
    · rw [groupedAt, hnext]
      cases ps with
      | nil => rfl
      | cons q ps => simp only [ifAny_cons, compiled, hstop, ok_bind]; rfl
    · simp [subjectAt, stop?, hnext, hstop]

theorem cleanedAt_of_readable (hread : ∀ s ∈ b.selectors, ¬Unreadable s) (ps : List Place) :
    ∃ qs, b.cleanedAt ps = .ok qs ∧ qs.map Place.node = ps.map fun q => b.remainder q.node := by
  have hinside : ∀ s ∈ b.removeInside, ¬Unreadable s := fun s hs =>
    hread s (by simp [selectors, hs])
  simp only [cleanedAt, remainder]
  cases hempty : b.removeInside with
  | nil => exact ⟨ps, rfl, rfl⟩
  | cons s ss =>
    rw [hempty] at hinside
    rw [cutAll, mapM_compiled_of_readable hinside]
    cases ps with
    | nil => exact ⟨[], rfl, rfl⟩
    | cons q qs =>
      refine ⟨_, rfl, ?_⟩
      simp [Node.cuts, Function.comp_def]

/-- What the values are made of is what is left of the elements or their groups. -/
theorem made_of_readable (hread : ∀ s ∈ b.selectors, ¬Unreadable s) (ps : List Place) :
    ∃ qs, (b.groupedAt ps >>= b.cleanedAt) = .ok qs ∧
      qs.map Place.node = ps.map fun q => b.remainder (b.subjectAt q) := by
  obtain ⟨gs, hgs, hgroups⟩ := groupedAt_of_readable hread ps
  obtain ⟨qs, hqs, hnodes⟩ := cleanedAt_of_readable hread gs
  refine ⟨qs, by rw [hgs, ok_bind, hqs], ?_⟩
  have hleft : gs.map (fun q => b.remainder q.node) = (gs.map Place.node).map b.remainder := by
    rw [List.map_map]
    rfl
  rw [hnodes, hleft, hgroups, List.map_map]
  rfl

-- --------------------------------------------------------------------
-- Evaluation without sub-rules
-- --------------------------------------------------------------------

theorem exec_matched (hread : ∀ s ∈ b.selectors, ¬Unreadable s) (context : NodeId) (f : Forest) :
    exec (b.matched context) f = (.ok (b.leftIn f context), f) := by
  obtain ⟨s, hs⟩ := Option.ne_none_iff_exists'.mp (hread b.included List.mem_cons_self)
  have hselect : exec (select context b.included) f = (.ok (f.select context s), f) := by
    rw [exec_select, compiled, hs]
    rfl
  rw [matched, exec_bind_ok hselect, leftIn, includedIn, hs, excluder?]
  cases hempty : b.excluded.isEmpty with
  | true => simp
  | false =>
    have hexcluded : b.excluded ∈ b.selectors := by simp [selectors, hempty]
    obtain ⟨t, ht⟩ := Option.ne_none_iff_exists'.mp (hread _ hexcluded)
    rw [ht]
    refine exec_filterM (fun i => !f.accepts i t) fun i _ => ?_
    rw [exec_bind, exec_accepts, compiled, ht]
    rfl

/-- The values that a block makes of elements, in one pass over all of them. -/
def valuesOf (b : MatchBlock) (ids : List NodeId) : Extract (List String) := do
  let ids ← b.taken ids
  let (ids, isCopy) ← b.cleanedCopies b.addNextUntil.isSome ids
  let values ← ids.mapM (b.value? isCopy)
  return values.filterMap id

/-- A block without sub-rules gives the values of the elements that it is about. -/
theorem evaluate_eq (b : MatchBlock) (context : NodeId) : b.evaluate context false =
    (do
      let ids ← b.matched context
      let values ← b.valuesOf ids
      return .values values) := by
  simp only [evaluate, prepared_eq, valuesOf, bind_assoc, pure_bind, Bool.false_eq_true, if_false]

theorem valuesOf_runs (wf : f.WellFormed) (hread : ∀ s ∈ b.selectors, ¬Unreadable s)
    (h : List.Forall₂ f.Shows ids ps) :
    Runs f f (b.valuesOf ids) (.ok (ids.filterMap (b.valueIn f))) fun _ vs vs' => vs = vs' := by
  obtain ⟨qs, hqs, hnodes⟩ := made_of_readable hread ps
  have hvalues : qs.filterMap (fun q => b.valueOf q.node) = ids.filterMap (b.valueIn f) := by
    have hmap : qs.filterMap (fun q => b.valueOf q.node) =
        (qs.map Place.node).filterMap b.valueOf := by
      rw [List.filterMap_map]
      rfl
    rw [hmap, hnodes, List.filterMap_map, ← filterMap_valueIn wf h]
    rfl
  have hrun : Runs f f (b.valuesOf ids)
      (b.groupedAt ps >>= fun gs => b.cleanedAt gs >>= fun qs =>
        pure (qs.filterMap fun q => b.valueOf q.node)) fun _ vs vs' => vs = vs' := by
    refine (taken_runs wf h).bind fun g ids gs hwf hgrow hready => ?_
    refine (cleanedCopies_runs wf hwf hgrow (hready.of_base (.refl f))).bind ?_
    rintro g' ⟨ids, isCopy⟩ qs hwf' hgrow' hready'
    obtain ⟨g'', hexec, hwf'', hgrow''⟩ := mapM_value?_ready (b := b) wf hwf' hgrow' hready'
    refine Runs.after hexec (.of_ok rfl hwf'' hgrow'' ?_)
    rw [List.filterMap_map]
    rfl
  rw [← bind_assoc, hqs, ok_bind, hvalues] at hrun
  exact hrun

theorem valuesOf_gives (wf : f.WellFormed) (hread : ∀ s ∈ b.selectors, ¬Unreadable s)
    (h : List.Forall₂ f.Shows ids ps) :
    ((b.valuesOf ids).run.run f).1 = .ok (ids.filterMap (b.valueIn f)) := by
  have hagree := (valuesOf_runs wf hread h).agree
  rw [exec] at hagree
  generalize ((b.valuesOf ids).run.run f).1 = result at hagree ⊢
  cases hagree with
  | ok heq => rw [heq]

theorem exists_place_of_mem_leftIn (hm : m ∈ b.leftIn f context) :
    ∃ q ∈ f.places, q.node.id = m := by
  have hincluded := (List.mem_filter.mp hm).1
  rw [includedIn] at hincluded
  cases hs : Selector.parse? b.included with
  | none => simp [hs] at hincluded
  | some s =>
    rw [hs, Option.elim_some, Forest.select] at hincluded
    cases hp : f.place? context with
    | none => simp [hp] at hincluded
    | some p =>
      rw [hp, List.mem_map] at hincluded
      obtain ⟨q, hq, rfl⟩ := hincluded
      have hplace := (Forest.mem_places_of_place? hp).1
      exact ⟨q, Forest.descendants_subset_places hplace (List.mem_filter.mp hq).1, rfl⟩

/-- An element alone gives its value, if it has one. -/
theorem valuesOf_singleton (wf : f.WellFormed) (hread : ∀ s ∈ b.selectors, ¬Unreadable s)
    (hm : m ∈ b.leftIn f context) :
    ((b.valuesOf [m]).run.run f).1 = .ok (b.valueIn f m).toList := by
  obtain ⟨q, hq, rfl⟩ := exists_place_of_mem_leftIn hm
  rw [valuesOf_gives wf hread (.cons (Forest.shows_of_mem wf hq) .nil), List.filterMap_cons,
    List.filterMap_nil]
  cases b.valueIn f q.node.id <;> rfl

/-- All elements together give the values that each gives. -/
theorem evaluate_values (wf : f.WellFormed) (hcontext : (f.place? context).isSome)
    (hread : ∀ s ∈ b.selectors, ¬Unreadable s) :
    ((b.evaluate context false).run.run f).1 =
      .ok (.values ((b.leftIn f context).filterMap (b.valueIn f))) := by
  obtain ⟨p, hp⟩ := Forest.exists_shows hcontext
  have hvalues := valuesOf_gives wf hread (left_shows wf hp b)
  have hrun : (exec (b.evaluate context false) f).1 =
      (exec (b.valuesOf (b.leftIn f context)) f).1.map .values := by
    rw [evaluate_eq, exec_bind_ok (exec_matched hread context f), exec_bind]
    rcases exec (b.valuesOf (b.leftIn f context)) f with ⟨_ | _, _⟩ <;> rfl
  rw [exec, exec, hvalues] at hrun
  exact hrun

/-- The block includes the element and does not exclude it. -/
def takes (b : MatchBlock) (f : Forest) (i : NodeId) : Bool :=
  (Selector.parse? b.included).any (f.accepts i) && !b.excluder?.any (f.accepts i)

theorem leftIn_eq_filter (wf : f.WellFormed) (context : NodeId) :
    b.leftIn f context = (f.node context).liveIds.filter (b.takes f) := by
  have htakes : b.takes f = fun i => (Selector.parse? b.included).any (f.accepts i) &&
      !b.excluder?.any (f.accepts i) := rfl
  rw [leftIn, includedIn, htakes]
  cases Selector.parse? b.included with
  | none => simp
  | some s =>
    rw [Option.elim_some, Forest.select_eq_filter wf, List.filter_filter]
    exact List.filter_congr fun i _ => Bool.and_comm _ _

end MatchBlock

/-- A block without sub-rules whose selectors can be read gives, in document order, what each
element that it includes and does not exclude gives alone on the same page. Without attribute
that is one value, the content of what is left of the element or its group; with attribute it
is the attribute, if the element has it, and nothing if siblings are taken along. Contexts that
a template holds are left out. -/
theorem leaf_extraction_is_pointwise {f : Forest} {context : NodeId} {b : MatchBlock}
    (wf : f.WellFormed) (hcontext : (f.place? context).isSome)
    (hread : ∀ s ∈ b.selectors, ¬Unreadable s) :
    ∃ values, ((b.evaluate context false).run.run f).1 = .ok (.values values) ∧
      (∃ alone : NodeId → List String,
        (∀ m ∈ b.leftIn f context, ((b.valuesOf [m]).run.run f).1 = .ok (alone m)) ∧
        values = (b.leftIn f context).flatMap alone) ∧
      b.leftIn f context = (f.node context).liveIds.filter (b.takes f) ∧
      (b.attr = none →
        values = (b.leftIn f context).map fun m => b.contentOf (b.remainder (b.subject f m))) ∧
      ∀ name, b.attr = some name →
        (b.addNextUntil = none →
          values = (b.leftIn f context).filterMap fun m => f.attribute? m name) ∧
        (b.addNextUntil.isSome → values = []) := by
  refine ⟨_, b.evaluate_values wf hcontext hread, ⟨fun m => (b.valueIn f m).toList,
    fun m hm => MatchBlock.valuesOf_singleton wf hread hm, ?_⟩,
    MatchBlock.leftIn_eq_filter wf context, fun hattr => ?_, fun name hattr => ⟨fun hnext => ?_,
    fun hnext => ?_⟩⟩
  · rw [List.filterMap_eq_flatMap_toList]
  · simp only [MatchBlock.valueIn_of_no_attr hattr, List.filterMap_eq_map']
  · simp only [MatchBlock.valueIn_of_attr_alone hattr hnext]
  · obtain ⟨text, htext⟩ := Option.isSome_iff_exists.mp hnext
    obtain ⟨stop, hstop⟩ := MatchBlock.exists_stop hread htext
    have hgroup : b.stop? = some stop := by rw [MatchBlock.stop?, htext, Option.bind_some, hstop]
    simp [MatchBlock.valueIn_of_attr_group hattr hgroup]

/-- A section with a block in which an advertisement follows a bold text. -/
def adPage : Forest :=
  ⟨[.root 0 .document
      [.element 1 ⟨.html, "section"⟩ [] []
        [.element 2 ⟨.html, "div"⟩ [] []
          [.element 3 ⟨.html, "b"⟩ [] [] [.leaf 4 (.text "x")],
           .element 5 ⟨.html, "p"⟩ [] [] [.leaf 6 (.text "ad")]]]]], 7⟩

/-- A block whose elements stand inside one another and have siblings in common. -/
def overlappingBlock : MatchBlock :=
  { included := "section, b, p", addNextUntil := some "i", removeInside := ["section b"] }

/-- The bold text is removed from the section's group but not from its own, and the
advertisement is in all three groups. -/
theorem overlapping_values_are_separate :
    adPage.WellFormed ∧ (adPage.place? 0).isSome ∧
      (∀ s ∈ overlappingBlock.selectors, ¬Unreadable s) ∧
      ((overlappingBlock.evaluate 0 false).run.run adPage).1 =
        .ok (.values ["ad", "xad", "ad"]) := by
  have wf : adPage.WellFormed := ⟨by decide, by decide⟩
  have hcontext : (adPage.place? 0).isSome := by decide
  have hread : ∀ s ∈ overlappingBlock.selectors, ¬Unreadable s := by decide +kernel
  have hcontents : ((overlappingBlock.leftIn adPage 0).map fun m => overlappingBlock.contentOf
      (overlappingBlock.remainder (overlappingBlock.subject adPage m))) = ["ad", "xad", "ad"] := by
    decide +kernel
  obtain ⟨values, hvalues, -, -, hcontent, -⟩ := leaf_extraction_is_pointwise wf hcontext hread
  exact ⟨wf, hcontext, hread, by rw [hvalues, hcontent rfl, hcontents]⟩

end PageRecords
