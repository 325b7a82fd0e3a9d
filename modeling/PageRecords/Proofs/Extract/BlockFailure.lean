import PageRecords.Proofs.Document.ReadLaws
import PageRecords.Proofs.Extract.PageKept

/-!
# When a block fails

Selectors are read when there is something to apply them to, so a malformed one is only
noticed on some pages. `MatchBlock.reached` lists those that a block comes to read at a
place, in order; the block fails by the first of them that cannot be read, and otherwise
gives as many nodes as are left after exclusion (`MatchBlock.reads_preparedAt`).
-/

namespace PageRecords

open Dom (Forest Node NodeId Place)
open Extract

-- --------------------------------------------------------------------
-- Selectors in a row
-- --------------------------------------------------------------------

namespace Extract

variable {α β : Type} {selector : String} {selectors more : List String} {cause : BadSelector}
  {x : Except BadSelector (List α)} {k : List α → Except BadSelector (List β)} {n m : Nat}

/-- No selector can be read from the text. -/
def Unreadable (selector : String) : Prop := Selector.parse? selector = none

instance (selector : String) : Decidable (Unreadable selector) :=
  decidable_of_iff ((Selector.parse? selector).isNone = true) Option.isNone_iff_eq_none

/-- The first selector of a list that cannot be read. -/
def firstUnreadable? (selectors : List String) : Option String :=
  selectors.find? fun s => Unreadable s

theorem firstUnreadable?_cons : firstUnreadable? (selector :: selectors) =
    if Unreadable selector then some selector else firstUnreadable? selectors := by
  rw [firstUnreadable?, List.find?_cons]
  split <;> simp_all [firstUnreadable?]

theorem firstUnreadable?_append : firstUnreadable? (selectors ++ more) =
    (firstUnreadable? selectors).or (firstUnreadable? more) :=
  List.find?_append

theorem firstUnreadable?_isSome :
    (firstUnreadable? selectors).isSome ↔ ∃ s ∈ selectors, Unreadable s := by
  simp [firstUnreadable?]

/-- Fails by the first of the selectors that cannot be read, or else gives `n` things. -/
def Reads (selectors : List String) (x : Except BadSelector (List α)) (n : Nat) : Prop :=
  match firstUnreadable? selectors with
  | some s => x = .error ⟨s⟩
  | none => ∃ as, x = .ok as ∧ as.length = n

namespace Reads

theorem pure {as : List α} (h : as.length = n) : Reads [] (pure as) n := ⟨as, rfl, h⟩

theorem pure_self (as : List α) : Reads [] (Pure.pure as) as.length := .pure rfl

theorem error_iff (h : Reads selectors x n) :
    x = .error cause ↔ firstUnreadable? selectors = some cause.selector := by
  rw [Reads] at h
  split at h
  · next s hs =>
    rw [h, hs, Except.error.injEq, Option.some.injEq]
    exact ⟨fun heq => heq ▸ rfl, fun heq => heq ▸ rfl⟩
  · next hnone =>
    obtain ⟨as, rfl, -⟩ := h
    rw [hnone]
    exact ⟨nofun, nofun⟩

theorem bind (hx : Reads selectors x n) (hk : ∀ as : List α, as.length = n → Reads more (k as) m) :
    Reads (selectors ++ more) (x >>= k) m := by
  rw [Reads] at hx
  rw [Reads, firstUnreadable?_append]
  split at hx
  · next s hs =>
    rw [hs, hx]
    rfl
  · next hnone =>
    obtain ⟨as, rfl, hlength⟩ := hx
    rw [hnone]
    exact hk as hlength

/-- Something made of all that was read. -/
theorem map (make : List α → List β) (hx : Reads selectors x n)
    (hmake : ∀ as, as.length = n → (make as).length = m) :
    Reads selectors (x >>= fun as => Pure.pure (make as)) m := by
  have hmade : Reads (selectors ++ []) (x >>= fun as => Pure.pure (make as)) m :=
    hx.bind fun as has => .pure (hmake as has)
  rwa [List.append_nil] at hmade

/-- One selector, and what is done with it. -/
theorem compiled {use : Selector → Except BadSelector (List β)}
    (huse : ∀ s, Selector.parse? selector = some s → Reads selectors (use s) n) :
    Reads (selector :: selectors) (compiled selector >>= use) n := by
  cases hs : Selector.parse? selector with
  | none =>
    have hunreadable : Unreadable selector := hs
    rw [Reads, firstUnreadable?_cons, if_pos hunreadable, Extract.compiled, hs]
    rfl
  | some s =>
    have hreadable : ¬Unreadable selector := by
      unfold Unreadable
      rw [hs]
      exact Option.some_ne_none s
    rw [Reads, firstUnreadable?_cons, if_neg hreadable, Extract.compiled, hs]
    exact huse s hs

theorem mapM_compiled : Reads selectors (selectors.mapM Extract.compiled) selectors.length := by
  induction selectors with
  | nil => exact .pure rfl
  | cons s rest ih =>
    rw [List.mapM_cons]
    exact .compiled fun t _ => ih.map (t :: ·) fun ts hts => congrArg (· + 1) hts

/-- Nothing is read if there is nothing to apply it to. -/
theorem ifAny {as : List α} {use : Except BadSelector (List β)} (hnone : as = [] → n = 0)
    (huse : Reads selectors use n) : Reads (if as = [] then [] else selectors) (ifAny as use) n := by
  cases as with
  | nil => exact .pure (hnone rfl).symm
  | cons a as => exact huse

end Reads

end Extract

theorem Extract.Agree.error_iff {α β : Type} {R : α → β → Prop} {x : Except BadSelector α}
    {y : Except BadSelector β} {cause : BadSelector} (h : Agree R x y) :
    x = .error cause ↔ y = .error cause := by
  cases h with
  | ok => exact ⟨nofun, nofun⟩
  | error e => simp

namespace MatchBlock

variable {f : Forest} {context : NodeId} {p : Place} {b : MatchBlock} {cause : BadSelector}
  {hasSubRules : Bool}

-- --------------------------------------------------------------------
-- What is left after exclusion
-- --------------------------------------------------------------------

/-- The selector that excludes, if there is one and it can be read. -/
def excluder? (b : MatchBlock) : Option Selector :=
  if b.excluded.isEmpty then none else Selector.parse? b.excluded

/-- The elements below a node that the block includes: none if its selector cannot be read. -/
def includedIn (b : MatchBlock) (f : Forest) (context : NodeId) : List NodeId :=
  (Selector.parse? b.included).elim [] (f.select context)

/-- Those of them that the block does not exclude. -/
def leftIn (b : MatchBlock) (f : Forest) (context : NodeId) : List NodeId :=
  (b.includedIn f context).filter fun i => !b.excluder?.any (f.accepts i)

/-- The places of the elements included. -/
def includedAt (b : MatchBlock) (p : Place) : List Place :=
  (Selector.parse? b.included).elim [] fun s => p.descendants.filter s.accepts

/-- The places of those not excluded. -/
def leftAt (b : MatchBlock) (p : Place) : List Place :=
  (b.includedAt p).filter fun q => !b.excluder?.any (·.accepts q)

theorem included_shows (wf : f.WellFormed) (h : f.Shows context p) (b : MatchBlock) :
    List.Forall₂ f.Shows (b.includedIn f context) (b.includedAt p) := by
  rw [includedIn, includedAt]
  cases Selector.parse? b.included with
  | none => exact .nil
  | some s => exact Forest.select_shows wf h s

theorem left_shows (wf : f.WellFormed) (h : f.Shows context p) (b : MatchBlock) :
    List.Forall₂ f.Shows (b.leftIn f context) (b.leftAt p) := by
  have hincluded := included_shows wf h b
  rw [leftIn, leftAt]
  cases b.excluder? with
  | none => simpa using hincluded
  | some s => exact forall₂_filter_not_accepts hincluded s

-- --------------------------------------------------------------------
-- The selectors that are reached
-- --------------------------------------------------------------------

/-- The selector that is to exclude, if there is one. -/
def exclusion (b : MatchBlock) : List String := if b.excluded.isEmpty then [] else [b.excluded]

/-- The selectors that the block applies. An empty one excludes nothing and is not applied. -/
def selectors (b : MatchBlock) : List String :=
  b.included :: ((if b.excluded.isEmpty then [] else [b.excluded]) ++ b.addNextUntil.toList ++
    b.removeInside)

/-- The selectors that the block comes to read at a place. -/
def reached (b : MatchBlock) (p : Place) : List String :=
  b.included :: ((if b.includedAt p = [] then [] else b.exclusion) ++
    if b.leftAt p = [] then [] else b.addNextUntil.toList ++ b.removeInside)

theorem reached_isPrefix (b : MatchBlock) (p : Place) : b.reached p <+: b.selectors := by
  rw [reached, selectors, List.cons_prefix_cons, List.append_assoc]
  refine ⟨rfl, ?_⟩
  by_cases hincluded : b.includedAt p = []
  · simp [hincluded, leftAt]
  · rw [if_neg hincluded]
    refine (List.prefix_append_right_inj b.exclusion).mpr ?_
    split
    · exact List.nil_prefix
    · exact List.prefix_rfl

theorem reads_matchedAt (b : MatchBlock) (p : Place) :
    Reads (b.included :: if b.includedAt p = [] then [] else b.exclusion) (b.matchedAt p)
      (b.leftAt p).length := by
  refine .compiled fun s hs => ?_
  have hincluded : b.includedAt p = p.descendants.filter s.accepts := by rw [includedAt, hs]; rfl
  simp only [leftAt, excluder?, exclusion, hincluded]
  cases b.excluded.isEmpty with
  | true =>
    simp only [if_true, ite_self]
    exact .pure (by simp)
  | false =>
    refine .ifAny (fun hnone => by simp [hnone]) (.compiled fun t ht => ?_)
    exact .pure (by simp [ht])

theorem reads_groupedAt (b : MatchBlock) (ps : List Place) :
    Reads (if ps = [] then [] else b.addNextUntil.toList) (b.groupedAt ps) ps.length := by
  rw [groupedAt]
  cases b.addNextUntil with
  | none => simpa using Reads.pure_self ps
  | some stop =>
    exact .ifAny (fun hnone => by rw [hnone]; rfl) (.compiled fun s _ => .pure (by simp))

theorem reads_cutAll (selectors : List String) (ns : List Node) :
    Reads (if ns = [] then [] else selectors) (cutAll selectors ns) ns.length :=
  .ifAny (fun hnone => by rw [hnone]; rfl)
    (Reads.mapM_compiled.map (fun ss => ns.map fun n => ss.foldl (fun n s => n.cut s) n)
      fun ss _ => by simp)

theorem reads_cleanedAt (b : MatchBlock) (ps : List Place) :
    Reads (if ps = [] then [] else b.removeInside) (b.cleanedAt ps) ps.length := by
  rw [cleanedAt]
  cases hnone : b.removeInside with
  | nil => simpa using Reads.pure_self ps
  | cons s rest =>
    have hcut := (reads_cutAll (s :: rest) (ps.map Place.node)).map (List.map Place.top)
      fun ns hns => (List.length_map Place.top).trans (hns.trans (List.length_map Place.node))
    simp only [List.map_eq_nil_iff] at hcut
    exact hcut

/-- What a block is to work on is as many nodes as are left after exclusion, unless one of the
selectors that are reached cannot be read. -/
theorem reads_preparedAt (b : MatchBlock) (p : Place) :
    Reads (b.reached p) (b.preparedAt p) (b.leftAt p).length := by
  have hrest : ∀ ps : List Place, ps.length = (b.leftAt p).length →
      Reads (if b.leftAt p = [] then [] else b.addNextUntil.toList ++ b.removeInside)
        (b.groupedAt ps >>= b.cleanedAt) (b.leftAt p).length := by
    intro ps hps
    have hempty : ∀ qs : List Place, qs.length = (b.leftAt p).length →
        (qs = [] ↔ b.leftAt p = []) := fun qs hqs => by
      rw [← List.length_eq_zero_iff, hqs, List.length_eq_zero_iff]
    have hcleaned : ∀ qs : List Place, qs.length = ps.length →
        Reads (if b.leftAt p = [] then [] else b.removeInside) (b.cleanedAt qs)
          (b.leftAt p).length := fun qs hqs => by
      have hqs := hqs.trans hps
      simpa only [hempty qs hqs, hqs] using b.reads_cleanedAt qs
    have hboth := (b.reads_groupedAt ps).bind hcleaned
    simp only [hempty ps hps] at hboth
    cases hleft : b.leftAt p with
    | nil => simpa [hleft] using hboth
    | cons q qs => simpa [hleft] using hboth
  exact (b.reads_matchedAt p).bind hrest

/-- The content of a tree, as a block without attribute takes it. -/
def contentOf (b : MatchBlock) (n : Node) : String :=
  let kept := (n.unwrap basicTags).1
  if b.keepBasicMarkup then
    let plain := kept.strip stylingAttributes
    if b.outerNode then plain.outerMarkup else plain.innerMarkup
  else kept.text

theorem valueOf_eq_contentOf (h : b.attr = none) (n : Node) :
    b.valueOf n = some (b.contentOf n) := by
  simp only [valueOf, contentOf, h]
  split <;> rfl

theorem outcome_error_iff : b.outcome p hasSubRules = .error cause ↔
    firstUnreadable? (b.reached p) = some cause.selector := by
  rw [← (b.reads_preparedAt p).error_iff, outcome, bind_error]
  cases hasSubRules <;> simp [pure_error]

theorem firstUnreadable?_selectors (h : firstUnreadable? (b.reached p) = some selector) :
    firstUnreadable? b.selectors = some selector := by
  obtain ⟨rest, hrest⟩ := b.reached_isPrefix p
  rw [← hrest, firstUnreadable?_append, h]
  rfl

theorem mem_exclusion {selector : String} :
    selector ∈ b.exclusion ↔ b.excluded ≠ "" ∧ selector = b.excluded := by
  simp [exclusion]

/-- The block comes to a selector that cannot be read. -/
theorem firstUnreadable?_reached_isSome : (firstUnreadable? (b.reached p)).isSome ↔
    Unreadable b.included ∨
      (b.includedAt p ≠ [] ∧ b.excluded ≠ "" ∧ Unreadable b.excluded) ∨
      (b.leftAt p ≠ [] ∧ ∃ stop, b.addNextUntil = some stop ∧ Unreadable stop) ∨
      (b.leftAt p ≠ [] ∧ ∃ s ∈ b.removeInside, Unreadable s) := by
  rw [firstUnreadable?_isSome]
  by_cases hincluded : b.includedAt p = []
  · have hnone : b.leftAt p = [] := by simp [leftAt, hincluded]
    simp [reached, hincluded, hnone]
  · by_cases hnone : b.leftAt p = []
    · simp [reached, hincluded, hnone, mem_exclusion]
    · simp [reached, hincluded, hnone, mem_exclusion, or_and_right, exists_or, and_assoc]

end MatchBlock

/-- A block fails exactly if its including selector cannot be read, or an excluding selector
cannot and there is an element included, or one of the others cannot and there is an element
left after exclusion; by the first of these in the order in which the block lists them. Nodes
for sub-rules are as many as values are. Contexts that a template holds are left out. -/
theorem block_fails_iff (wf : f.WellFormed) (hcontext : (f.place? context).isSome)
    (b : MatchBlock) :
    (∀ hasSubRules,
      ((∃ cause, ((b.evaluate context hasSubRules).run.run f).1 = .error cause) ↔
        Unreadable b.included ∨
          (b.includedIn f context ≠ [] ∧ b.excluded ≠ "" ∧ Unreadable b.excluded) ∨
          (b.leftIn f context ≠ [] ∧ ∃ stop, b.addNextUntil = some stop ∧ Unreadable stop) ∨
          (b.leftIn f context ≠ [] ∧ ∃ s ∈ b.removeInside, Unreadable s)) ∧
      ∀ cause, ((b.evaluate context hasSubRules).run.run f).1 = .error cause →
        firstUnreadable? b.selectors = some cause.selector) ∧
    (b.attr = none → ∀ m, ((b.evaluate context true).run.run f).1 = .ok m →
      ∃ ids vs, m = .nodes ids ∧ ((b.evaluate context false).run.run f).1 = .ok (.values vs) ∧
        ids.length = vs.length) := by
  obtain ⟨p, hp⟩ := Forest.exists_shows hcontext
  have hincluded := (MatchBlock.included_shows wf hp b).length_eq
  have hleft := (MatchBlock.left_shows wf hp b).length_eq
  refine ⟨fun hasSubRules => ?_, fun hattr m hm => ?_⟩
  · have herror : ∀ cause, ((b.evaluate context hasSubRules).run.run f).1 = .error cause ↔
        firstUnreadable? (b.reached p) = some cause.selector := fun cause =>
      (b.evaluate_runs wf hp hasSubRules).agree.error_iff.trans MatchBlock.outcome_error_iff
    refine ⟨?_, fun cause h => MatchBlock.firstUnreadable?_selectors ((herror cause).mp h)⟩
    have hreached : (∃ cause, ((b.evaluate context hasSubRules).run.run f).1 = .error cause) ↔
        (firstUnreadable? (b.reached p)).isSome := by
      rw [Option.isSome_iff_exists]
      exact ⟨fun ⟨cause, h⟩ => ⟨_, (herror cause).mp h⟩, fun ⟨s, h⟩ => ⟨⟨s⟩, (herror ⟨s⟩).mpr h⟩⟩
    rw [hreached, MatchBlock.firstUnreadable?_reached_isSome]
    simp only [ne_eq, ← List.length_eq_zero_iff, hincluded, hleft]
  · have hnodes := (b.evaluate_runs wf hp true).agree
    have hvalues := (b.evaluate_runs wf hp false).agree
    rw [exec, hm, MatchBlock.outcome] at hnodes
    rw [exec, MatchBlock.outcome] at hvalues
    cases hprepared : b.preparedAt p with
    | error e =>
      rw [hprepared] at hnodes
      cases hnodes
    | ok ps =>
      rw [hprepared] at hnodes hvalues
      have hlength : (ps.filterMap fun q => b.valueOf q.node).length = ps.length := by
        simp [MatchBlock.valueOf_eq_contentOf hattr]
      generalize ((b.evaluate context false).run.run f).1 = result at hvalues ⊢
      cases hnodes with
      | ok hids =>
        cases hvalues with
        | ok hvs =>
          cases hids with
          | nodes hids =>
            cases hvs with
            | values vs => exact ⟨_, _, rfl, rfl, hids.length_eq.trans hlength.symm⟩

/-- A block whose second selector to remove is malformed. -/
def brokenBlock : MatchBlock :=
  { included := "section", excluded := "p", removeInside := ["q", "p[["] }

/-- A block that takes a section and the template in it, and removes from copies of them. -/
def sectionsBlock : MatchBlock := { included := "section, template", removeInside := ["q"] }

/-- A page with a section is enough for the block to fail; without the malformed selector there
are as many nodes as values. -/
theorem broken_block_fails :
    templatePage.WellFormed ∧ (templatePage.place? 0).isSome ∧
      (∀ hasSubRules, ∃ cause,
        ((brokenBlock.evaluate 0 hasSubRules).run.run templatePage).1 = .error cause ∧
          cause.selector = "p[[") ∧
      ∃ vs, ((sectionsBlock.evaluate 0 false).run.run templatePage).1 = .ok (.values vs) ∧
        vs.length = 2 := by
  have wf : templatePage.WellFormed := ⟨by decide, by decide⟩
  have hcontext : (templatePage.place? 0).isSome := by decide
  have hleft : brokenBlock.leftIn templatePage 0 ≠ [] := by decide +kernel
  have hbad : Unreadable "p[[" := by
    unfold Unreadable
    decide +kernel
  have hfirst : firstUnreadable? brokenBlock.selectors = some "p[[" := by decide +kernel
  have hfails := (block_fails_iff wf hcontext brokenBlock).1
  refine ⟨wf, hcontext, fun hasSubRules => ?_, ?_⟩
  · obtain ⟨cause, hcause⟩ := (hfails hasSubRules).1.mpr
      (.inr (.inr (.inr ⟨hleft, "p[[", by decide, hbad⟩)))
    refine ⟨cause, hcause, ?_⟩
    have hnamed := (hfails hasSubRules).2 cause hcause
    exact Option.some.inj (hnamed.symm.trans hfirst)
  · have hnodes : ((sectionsBlock.evaluate 0 true).run.run templatePage).1.toOption =
        some (.nodes [5, 9]) := by
      decide +kernel
    cases hm : ((sectionsBlock.evaluate 0 true).run.run templatePage).1 with
    | error e => simp [hm, Except.toOption] at hnodes
    | ok m =>
      obtain ⟨ids, vs, rfl, hvs, hlength⟩ := (block_fails_iff wf hcontext sectionsBlock).2 rfl m hm
      obtain rfl : ids = [5, 9] := by simpa [hm, Except.toOption] using hnodes
      exact ⟨vs, hvs, hlength.symm⟩

end PageRecords
