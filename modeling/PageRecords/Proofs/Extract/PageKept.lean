import PageRecords.Proofs.Extract.RuleRun

/-!
# Evaluation keeps the page

Whatever is evaluated and however it ends, the trees that were there are there as
they were, and the nodes added since share nothing with them: `evaluation_keeps_page`.
So what is evaluated again gives the same again.
-/

namespace PageRecords

open Dom (Forest Node NodeId Place)
open Extract

/-- Everything in `f` is in `g` as it was. -/
structure Dom.Forest.Kept (f g : Forest) : Prop where
  /-- Every tree, its template contents included, is the same value, and no other tree
  has a node of it. -/
  trees : ∃ added, g.trees = added ++ f.trees ∧
    ∀ i ∈ Node.listIds added, i ∉ Node.listIds f.trees
  /-- Every node stands where it stood: same content, children, parent and siblings. -/
  places : ∀ i p, f.place? i = some p → g.place? i = some p

/-- Two results of a block: the same values, or nodes that stand at places of one shape. -/
inductive Matched.Alike (f g : Forest) : Matched → Matched → Prop
  | nodes {ids ids' : List NodeId}
    (h : List.Forall₂ (fun i j => ∃ p, f.Shows i p ∧ g.Shows j p) ids ids') :
    Alike f g (.nodes ids) (.nodes ids')
  | values (vs : List String) : Alike f g (.values vs) (.values vs)

variable {f g : Forest} {context : NodeId} {p : Place}

theorem Dom.Forest.Grows.kept (h : f.Grows g) (wf : f.WellFormed) (hg : g.WellFormed) :
    f.Kept g := by
  obtain ⟨added, htrees, hnew⟩ := h.trees
  refine ⟨⟨added, htrees, fun i hi hmem => ?_⟩, fun i p hp => h.place? hg hp⟩
  exact Nat.lt_irrefl i (Nat.lt_of_lt_of_le (wf.lt_fresh i hmem) (hnew i hi))

/-- Every page that is read meets what is asked of a forest and its context below. -/
theorem page_wellFormed (html : String) :
    (Forest.ofHtml html).WellFormed ∧ ((Forest.ofHtml html).place? 0).isSome := by
  have wf := Forest.wellFormed_plant (Forest.wellFormed_empty 0) (Html.readPage html)
  refine ⟨wf, ?_⟩
  have hroot := Forest.place?_root wf (t := ((Html.readPage html).renumber 0).1) (by
    simp [Forest.plant_trees])
  rw [Node.id_renumber] at hroot
  exact Option.isSome_iff_exists.mpr ⟨_, hroot⟩

theorem alike_of_yields {m m' : Matched} {found : Found} (h : MatchBlock.Yields f m found)
    (h' : MatchBlock.Yields g m' found) : Matched.Alike f g m m' := by
  cases h with
  | nodes h =>
    cases h' with
    | @nodes ids' _ h' =>
      refine .nodes ?_
      induction h generalizing ids' with
      | nil =>
        cases h'
        exact .nil
      | cons hp _ ih =>
        cases h' with
        | cons hq hrest => exact .cons ⟨_, hp, hq⟩ (ih hrest)
  | values vs =>
    cases h'
    exact .values vs

theorem agree_of_agree {r r' : Except BadSelector Matched} {y : Except BadSelector Found}
    (h : Agree (MatchBlock.Yields f) r y) (h' : Agree (MatchBlock.Yields g) r' y) :
    Agree (Matched.Alike f g) r r' := by
  cases h with
  | ok hR =>
    cases h' with
    | ok hR' => exact .ok (alike_of_yields hR hR')
  | error e =>
    cases h'
    exact .error e

/-- Evaluation keeps the page. For a forest with any number of trees and any context in
it, whether a document, a rule or a block is evaluated and whether it succeeds or fails:
everything there is kept, template contents too, and the same evaluation on the forest that
is left gives the same record, the same values and the same failures. The context itself is a
node with a place, and so none that a template holds. -/
theorem evaluation_keeps_page (wf : f.WellFormed) (hcontext : (f.place? context).isSome) :
    (∀ d : RuleDocument,
      let (result, g) := d.evaluate context f
      g.WellFormed ∧ f.Kept g ∧ (d.evaluate context g).1 = result) ∧
    (∀ r : Rule,
      let (result, g) := r.evaluate context f
      g.WellFormed ∧ f.Kept g ∧ (r.evaluate context g).1 = result) ∧
    (∀ (b : MatchBlock) (hasSubRules : Bool),
      let (result, g) := (b.evaluate context hasSubRules).run.run f
      let (again, h) := (b.evaluate context hasSubRules).run.run g
      g.WellFormed ∧ f.Kept g ∧ Agree (Matched.Alike g h) result again) := by
  obtain ⟨p, hp⟩ := Forest.exists_shows hcontext
  refine ⟨fun d => ?_, fun r => ?_, fun b hasSubRules => ?_⟩
  · obtain ⟨hresult, hwf, hgrow⟩ := d.evaluate_gives wf hp
    obtain ⟨hagain, -, -⟩ := d.evaluate_gives hwf (hp.grow hgrow hwf)
    exact ⟨hwf, hgrow.kept wf hwf, hagain.trans hresult.symm⟩
  · have hfirst := Rule.evaluateAt_gives [] wf hp r
    have hagain := Rule.evaluateAt_gives [] hfirst.wellFormed
      (hp.grow hfirst.grows hfirst.wellFormed) r
    exact ⟨hfirst.wellFormed, hfirst.grows.kept wf hfirst.wellFormed,
      hagain.result.trans hfirst.result.symm⟩
  · have hfirst := b.evaluate_runs wf hp hasSubRules
    have hagain := b.evaluate_runs hfirst.wellFormed
      (hp.grow hfirst.grows hfirst.wellFormed) hasSubRules
    exact ⟨hfirst.wellFormed, hfirst.grows.kept wf hfirst.wellFormed,
      agree_of_agree hfirst.agree hagain.agree⟩

/-- A page whose section has a template, the contents of which are no children. -/
def templatePage : Forest :=
  ⟨[.root 0 .document
      [.element 1 ⟨.html, "section"⟩ [⟨.none, "class", "x"⟩] []
        [.element 2 ⟨.html, "template"⟩ [] [.element 3 ⟨.html, "q"⟩ [] [] []] [],
         .leaf 4 (.text "t")]]], 5⟩

/-- A rule that cleans a copy of the section and unwraps the template in it. -/
def sectionRule : Rule :=
  { name := "section",
    source := .match_ (.single
      { included := "section", removeInside := ["p"], keepBasicMarkup := true }),
    subRules := [], replacement := none }

theorem template_page_is_kept :
    templatePage.WellFormed ∧ (templatePage.place? 0).isSome ∧
      templatePage.Kept (sectionRule.evaluate 0 templatePage).2 :=
  ⟨⟨by decide, by decide⟩, by decide,
    ((evaluation_keeps_page ⟨by decide, by decide⟩ (by decide)).2.1 sectionRule).2.1⟩

end PageRecords
