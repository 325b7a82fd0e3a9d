import PageRecords.Proofs.Document.ReadLaws
import PageRecords.Proofs.Extract.PageKept

/-!
# The branch that decides

An alternation gives what its deciding block gives alone: the first one that fails or
yields something (`alternation_goes_by_first_deciding`). What the blocks before it leave in
the forest does not show, and those after it have no part in the result, readable or not.
A block decides by its output. One that matches elements of which none has the attribute it
reads does not decide.
-/

namespace PageRecords

open Dom (Forest NodeId Place)
open Extract

variable {f : Forest} {context : NodeId} {p : Place} {hasSubRules : Bool} {b : MatchBlock}
  {bs before after : List MatchBlock}

-- --------------------------------------------------------------------
-- Blocks
-- --------------------------------------------------------------------

/-- The outcome is no failure, and nothing is found. -/
def Extract.FindsNothing (outcome : Except BadSelector Found) : Prop :=
  ∃ found, outcome = .ok found ∧ found.isEmpty = true

namespace MatchBlock

/-- Evaluated alone, the block fails or yields something. -/
def decides (f : Forest) (context : NodeId) (hasSubRules : Bool) (b : MatchBlock) : Bool :=
  !((b.evaluate context hasSubRules).run.run f).1.toOption.any Matched.isEmpty

theorem decides_eq_false_iff (wf : f.WellFormed) (h : f.Shows context p) :
    b.decides f context hasSubRules = false ↔ FindsNothing (b.outcome p hasSubRules) := by
  have hagree := (b.evaluate_runs wf h hasSubRules).agree
  rw [exec] at hagree
  rw [decides]
  generalize ((b.evaluate context hasSubRules).run.run f).1 = result,
    b.outcome p hasSubRules = outcome at hagree ⊢
  cases hagree with
  | ok hyields => simp [FindsNothing, Except.toOption, MatchSpec.isEmpty_of_yields hyields]
  | error e => simp [FindsNothing, Except.toOption]

end MatchBlock

namespace MatchSpec

/-- Blocks that yield nothing are passed over. -/
theorem firstOutcome_append (h : ∀ b ∈ before, FindsNothing (b.outcome p hasSubRules)) :
    firstOutcome p hasSubRules (before ++ bs) = firstOutcome p hasSubRules bs := by
  induction before with
  | nil => rfl
  | cons b before ih =>
    obtain ⟨⟨found, hfound, hempty⟩, hbefore⟩ := List.forall_mem_cons.mp h
    rw [List.cons_append, firstOutcome, hfound, ok_bind, if_pos hempty, ih hbefore]

/-- A block that fails or yields something is the last one looked at. -/
theorem firstOutcome_cons (h : ¬FindsNothing (b.outcome p hasSubRules)) :
    firstOutcome p hasSubRules (b :: after) = b.outcome p hasSubRules := by
  rw [firstOutcome]
  cases hfound : b.outcome p hasSubRules with
  | error e => rfl
  | ok found =>
    have hsome : found.isEmpty ≠ true := fun hempty => h ⟨found, hfound, hempty⟩
    rw [ok_bind, if_neg hsome]
    rfl

theorem outcome_any_of_decides (wf : f.WellFormed) (h : f.Shows context p)
    (hbefore : ∀ c ∈ before, c.decides f context hasSubRules = false)
    (hb : b.decides f context hasSubRules = true) (after : List MatchBlock) :
    (any (before ++ b :: after)).outcome p hasSubRules = (single b).outcome p hasSubRules := by
  have hpassed : ∀ c ∈ before, FindsNothing (c.outcome p hasSubRules) := fun c hc =>
    (MatchBlock.decides_eq_false_iff wf h).mp (hbefore c hc)
  have hdecides : ¬FindsNothing (b.outcome p hasSubRules) := by
    rw [← MatchBlock.decides_eq_false_iff wf h, hb]
    exact Bool.noConfusion
  exact (firstOutcome_append hpassed).trans (firstOutcome_cons hdecides)

theorem findsNothing_any (wf : f.WellFormed) (h : f.Shows context p)
    (hbs : ∀ b ∈ bs, b.decides f context hasSubRules = false) :
    FindsNothing ((any bs).outcome p hasSubRules) := by
  have hpassed : ∀ b ∈ bs, FindsNothing (b.outcome p hasSubRules) := fun b hb =>
    (MatchBlock.decides_eq_false_iff wf h).mp (hbs b hb)
  have hnone : (any (bs ++ [])).outcome p hasSubRules = .ok (.values []) :=
    firstOutcome_append hpassed
  rw [List.append_nil] at hnone
  exact ⟨_, hnone, rfl⟩

end MatchSpec

-- --------------------------------------------------------------------
-- Rules
-- --------------------------------------------------------------------

namespace Rule

variable {name : String} {spec : MatchSpec} {subRules : List Rule}
  {replacement : Option Replacement} {path : List String}

/-- What a rule gives on a forest, with the failures inside it. -/
def given (path : List String) (context : NodeId) (f : Forest) (r : Rule) :
    Except BadSelector (List Value) × List Failure :=
  let e := evaluateAt path context f r
  (e.result, e.failures)

theorem given_eq (wf : f.WellFormed) (h : f.Shows context p) (path : List String) (r : Rule) :
    r.given path context f = ((r.outcome path p).result, (r.outcome path p).inner) := by
  obtain ⟨hresult, hfailures, -, -⟩ := evaluateAt_gives path wf h r
  rw [given, hresult, hfailures]

theorem outcome_of_nothing (h : FindsNothing (spec.outcome p (!subRules.isEmpty))) :
    outcome path p ⟨name, .match_ spec, subRules, replacement⟩ = ⟨name, .ok [], []⟩ := by
  obtain ⟨found, hfound, hempty⟩ := h
  cases found with
  | places ps =>
    obtain rfl : ps = [] := by simpa [Found.isEmpty, Found.size] using hempty
    simp [outcome, hfound]
  | values vs =>
    obtain rfl : vs = [] := by simpa [Found.isEmpty, Found.size] using hempty
    simp [outcome, hfound, Value.replaced]

end Rule

/-- A rule with an alternation gives what it gives with the first block alone that fails or
yields something, whatever the blocks after it are: the same values or failure, and the same
failures inside. Without such a block it gives the empty list. So an alternation of one block
is that block. Contexts that a template holds are left out. -/
theorem alternation_goes_by_first_deciding (wf : f.WellFormed)
    (hcontext : (f.place? context).isSome) (path : List String) (name : String)
    (subRules : List Rule) (replacement : Option Replacement) :
    let rule (spec : MatchSpec) : Rule := ⟨name, .match_ spec, subRules, replacement⟩
    let decides := MatchBlock.decides f context (!subRules.isEmpty)
    (∀ before b after, (∀ c ∈ before, decides c = false) → decides b = true →
      (rule (.any (before ++ b :: after))).given path context f =
        (rule (.single b)).given path context f) ∧
    (∀ bs, (∀ b ∈ bs, decides b = false) →
      (rule (.any bs)).given path context f = (.ok [], [])) ∧
    ∀ b, (rule (.any [b])).given path context f = (rule (.single b)).given path context f := by
  obtain ⟨p, hp⟩ := Forest.exists_shows hcontext
  intro rule decides
  have hfirst : ∀ before b after, (∀ c ∈ before, decides c = false) → decides b = true →
      (rule (.any (before ++ b :: after))).given path context f =
        (rule (.single b)).given path context f := by
    intro before b after hbefore hb
    have hspec := MatchSpec.outcome_any_of_decides wf hp hbefore hb after
    simp only [Rule.given_eq wf hp, rule, Rule.outcome, hspec]
  have hnothing : ∀ spec : MatchSpec, FindsNothing (spec.outcome p !subRules.isEmpty) →
      (rule spec).given path context f = (.ok [], []) := by
    intro spec hspec
    rw [Rule.given_eq wf hp, Rule.outcome_of_nothing hspec]
  refine ⟨hfirst, fun bs hbs => hnothing _ (MatchSpec.findsNothing_any wf hp hbs), fun b => ?_⟩
  cases hb : decides b with
  | true => exact hfirst [] b [] (List.forall_mem_nil _) hb
  | false =>
    have hall : ∀ c ∈ [b], decides c = false := List.forall_mem_singleton.mpr hb
    have hsingle := hnothing (.single b) ((MatchBlock.decides_eq_false_iff wf hp).mp hb)
    exact (hnothing _ (MatchSpec.findsNothing_any wf hp hall)).trans hsingle.symm

/-- The section's address. -/
def addressBlock : MatchBlock := { included := "section", attr := some "href" }

/-- The section's text. -/
def textBlock : MatchBlock := { included := "section" }

/-- The section is matched but has no address, so its text decides. The third block cannot be
read. -/
theorem section_text_decides :
    templatePage.WellFormed ∧ (templatePage.place? 0).isSome ∧
      (∀ c ∈ [addressBlock], c.decides templatePage 0 false = false) ∧
      textBlock.decides templatePage 0 false = true ∧
      Rule.given [] 0 templatePage
          ⟨"part", .match_ (.any [addressBlock, textBlock, { included := "[" }]), [], none⟩ =
        Rule.given [] 0 templatePage ⟨"part", .match_ (.single textBlock), [], none⟩ := by
  have wf : templatePage.WellFormed := ⟨by decide, by decide⟩
  have hcontext : (templatePage.place? 0).isSome := by decide
  have hbefore : ∀ c ∈ [addressBlock], c.decides templatePage 0 false = false := by
    decide +kernel
  have hdecides : textBlock.decides templatePage 0 false = true := by decide +kernel
  have hfirst := (alternation_goes_by_first_deciding wf hcontext [] "part" [] none).1
  exact ⟨wf, hcontext, hbefore, hdecides,
    hfirst [addressBlock] textBlock [{ included := "[" }] hbefore hdecides⟩

end PageRecords
