import PageRecords.Proofs.Dom.Cleaning
import PageRecords.Proofs.Extract.PageKept

/-!
# Extracted markup is sanitized

What a block gives as markup is the markup of the matched node's cleaned tree, which has no
styling and only basic elements below the top: `extracted_markup_is_sanitized`. The node is
copied, and the copy unwrapped and stripped. Markup does not show what a template holds, so the
cleaned tree leaves that out.
-/

namespace PageRecords

open Dom (Forest Node NodeId Place)
open Extract

variable {f g : Forest} {context i : NodeId} {p : Place} {b : MatchBlock} {n : Node}

/-- A tree fit for use in another page. Its own tag is whatever was matched. -/
structure Dom.Node.Sanitized (n : Node) : Prop where
  /-- Below the top, template contents included, there are basic elements only. -/
  tags : ∀ m ∈ n.inside, ∀ tag, m.tag? = some tag → tag.name ∈ basicTags
  attributes : ∀ m ∈ n :: n.inside, ∀ a ∈ m.attributes, a.name ∉ stylingAttributes

namespace MatchBlock

/-- The markup that a block takes of a tree. -/
def markupOf (b : MatchBlock) (n : Node) : String :=
  if b.outerNode then n.outerMarkup else n.innerMarkup

/-- The tree with all but basic elements unwrapped below the top, and without styling and
template contents. -/
def cleanTree (n : Node) : Node := ((n.unwrap basicTags).1.strip stylingAttributes).shown

theorem cleanTree_sanitized (n : Node) : (cleanTree n).Sanitized where
  tags := Node.tags_inside_shown _ (Node.unwrapped_strip _ (Node.unwrapped_unwrap basicTags n))
  attributes := Node.attributes_strip_shown _

theorem tag?_cleanTree (n : Node) : (cleanTree n).tag? = n.tag? := by
  rw [cleanTree, Node.tag?_shown, Node.tag?_strip, Node.tag?_unwrap]

theorem markupOf_cleanTree (b : MatchBlock) (n : Node) :
    b.markupOf (cleanTree n) = b.markupOf ((n.unwrap basicTags).1.strip stylingAttributes) := by
  rw [markupOf, markupOf, cleanTree, Node.outerMarkup_shown, Node.innerMarkup_shown]

/-- Markup does not show identities. -/
theorem markupOf_shape (b : MatchBlock) (n : Node) : b.markupOf n.shape = b.markupOf n := by
  rw [markupOf, markupOf, Node.outerMarkup_shape, Node.innerMarkup_shape]

theorem valueOf_eq_markupOf (hattr : b.attr = none) (hkeep : b.keepBasicMarkup = true)
    (h : f.Shows i p) : b.valueOf p.node = some (b.markupOf (cleanTree (f.node i))) := by
  rw [markupOf_cleanTree, ← markupOf_shape, Node.shape_strip, Node.shape_unwrap,
    Forest.node_of_shows h, valueOf, hattr, hkeep]
  rfl

theorem values_sanitized {ids : List NodeId} {ps : List Place} (hattr : b.attr = none)
    (hkeep : b.keepBasicMarkup = true) (h : List.Forall₂ f.Shows ids ps) :
    List.Forall₂ (fun i v => v = b.markupOf (cleanTree (f.node i)) ∧
        (cleanTree (f.node i)).Sanitized ∧ (cleanTree (f.node i)).tag? = (f.node i).tag?) ids
      ((ps.map fun q => b.valueOf q.node).filterMap id) := by
  induction h with
  | nil => exact .nil
  | @cons i q _ _ hi _ ih =>
    rw [List.map_cons, valueOf_eq_markupOf hattr hkeep hi, List.filterMap_cons]
    exact .cons ⟨rfl, cleanTree_sanitized _, tag?_cleanTree _⟩ ih

end MatchBlock

/-- Extracted markup is sanitized. A block without attribute that keeps basic markup gives
for each node that it takes, in order, the markup of that node's cleaned tree, which is
sanitized and has the node's tag. It gives nothing only if one of its selectors cannot be
read. Contexts that a template holds are left out. -/
theorem extracted_markup_is_sanitized (wf : f.WellFormed) (hcontext : (f.place? context).isSome)
    (hattr : b.attr = none) (hkeep : b.keepBasicMarkup = true) :
    match (b.prepared context).run.run f with
    | (.error e, _) => ((b.evaluate context false).run.run f).1 = .error e
    | (.ok (ids, _), g) =>
      ∃ vs, ((b.evaluate context false).run.run f).1 = .ok (.values vs) ∧
        List.Forall₂ (fun i v => v = b.markupOf (MatchBlock.cleanTree (g.node i)) ∧
          (MatchBlock.cleanTree (g.node i)).Sanitized ∧
          (MatchBlock.cleanTree (g.node i)).tag? = (g.node i).tag?) ids vs := by
  obtain ⟨p, hp⟩ := Forest.exists_shows hcontext
  obtain ⟨hwf, hgrow, hagree⟩ := MatchBlock.prepared_runs (b := b) wf hp
  rcases hprepared : exec (b.prepared context) f with ⟨e | ⟨ids, isCopy⟩, g⟩ <;>
    rw [hprepared] at hwf hgrow hagree
  · have hexec : exec (b.evaluate context false) f = (.error e, g) := exec_bind_error hprepared
    rw [exec] at hprepared hexec
    rw [hprepared, hexec]
  · generalize b.preparedAt p = prepared at hagree
    cases hagree with
    | ok hready =>
      obtain ⟨g', hvalues, -, -⟩ := MatchBlock.mapM_value?_ready (b := b) wf hwf hgrow hready
      have hexec : exec (b.evaluate context false) f = (.ok (.values _), g') :=
        (exec_bind_ok hprepared).trans (exec_bind_ok hvalues)
      rw [exec] at hprepared hexec
      rw [hprepared, hexec]
      exact ⟨_, rfl, MatchBlock.values_sanitized hattr hkeep (hready.shows hwf)⟩

/-- A block that takes a styled section and the template in it. -/
def wholeBlock : MatchBlock :=
  { included := "section, template", outerNode := true, keepBasicMarkup := true }

theorem whole_section_is_sanitized :
    templatePage.WellFormed ∧ (templatePage.place? 0).isSome ∧ wholeBlock.attr = none ∧
      wholeBlock.keepBasicMarkup = true ∧
      ∃ vs, ((wholeBlock.evaluate 0 false).run.run templatePage).1 = .ok (.values vs) ∧
        List.Forall₂ (fun i v => v = (MatchBlock.cleanTree (templatePage.node i)).outerMarkup ∧
          (MatchBlock.cleanTree (templatePage.node i)).Sanitized) [1, 2] vs := by
  have hids : ((wholeBlock.prepared 0).run.run templatePage).1.toOption.map (·.1) =
      some [1, 2] := by
    decide +kernel
  -- Nothing is copied, as there is nothing to group and nothing to remove.
  have hforest : ((wholeBlock.prepared 0).run.run templatePage).2 = templatePage := by
    rw [MatchBlock.prepared, MatchBlock.matched, select, compile]
    cases Selector.parse? wholeBlock.included <;> rfl
  have wf : templatePage.WellFormed := ⟨by decide, by decide⟩
  have hcontext : (templatePage.place? 0).isSome := by decide
  have hsanitized := extracted_markup_is_sanitized wf hcontext (b := wholeBlock) rfl rfl
  split at hsanitized
  · next h => simp [h, Except.toOption] at hids
  · next h =>
    obtain rfl : _ = [1, 2] := by simpa [h, Except.toOption] using hids
    obtain rfl : _ = templatePage := by simpa [h] using hforest
    obtain ⟨vs, hvalues, hall⟩ := hsanitized
    exact ⟨wf, hcontext, rfl, rfl, vs, hvalues, hall.imp fun _ _ h => ⟨h.1, h.2.1⟩⟩

end PageRecords
