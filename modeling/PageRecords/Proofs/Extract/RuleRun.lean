import PageRecords.Proofs.Extract.BlockRun

/-!
# Running rules

`Rule.evaluateAllAt_gives`: rules run on a forest one after another give the outcomes
that each has alone at the place of the context, and the forest has only grown. So the
order of work on the forest has no part in the result.
-/

namespace PageRecords

open Dom (Forest Node NodeId Place)
open Extract

variable {f g : Forest} {context : NodeId} {ids : List NodeId} {p : Place} {ps : List Place}

namespace MatchSpec

theorem isEmpty_of_yields {m : Matched} {found : Found} (h : MatchBlock.Yields g m found) :
    m.isEmpty = found.isEmpty := by
  cases h with
  | nodes h => simp [Matched.isEmpty, Matched.size, Found.isEmpty, Found.size, h.length_eq]
  | values => rfl

theorem go_runs (wf : f.WellFormed) (h : f.Shows context p) (hasSubRules : Bool)
    (bs : List MatchBlock) :
    Runs f f (evaluate.go context hasSubRules bs) (firstOutcome p hasSubRules bs)
      MatchBlock.Yields := by
  induction bs generalizing f with
  | nil => exact .of_ok rfl wf (.refl f) (.values [])
  | cons b rest ih =>
    refine (b.evaluate_runs wf h hasSubRules).bind ?_
    intro g m found hgwf hgrow hyields
    rw [isEmpty_of_yields hyields]
    split
    · exact (ih hgwf (h.grow hgrow hgwf)).of_base hgrow
    · exact .of_ok rfl hgwf hgrow hyields

theorem evaluate_runs (wf : f.WellFormed) (h : f.Shows context p) (hasSubRules : Bool)
    (spec : MatchSpec) :
    Runs f f (spec.evaluate context hasSubRules) (spec.outcome p hasSubRules)
      MatchBlock.Yields := by
  cases spec with
  | single b => exact b.evaluate_runs wf h hasSubRules
  | any bs => exact go_runs wf h hasSubRules bs

end MatchSpec

-- --------------------------------------------------------------------
-- Rules
-- --------------------------------------------------------------------

/-- An evaluation that gives this result and these failures, on a forest that has only
grown. -/
structure Evaluated.Gives {α : Type} (e : Evaluated α) (f : Forest) (result : α)
    (failures : List Failure) : Prop where
  result : e.result = result
  failures : e.failures = failures
  wellFormed : e.forest.WellFormed
  grows : f.Grows e.forest

theorem evaluateEach_gives {α : Type} {k : NodeId → Forest → Evaluated α} {result : Place → α}
    {failures : Place → List Failure}
    (hk : ∀ f i p, f.WellFormed → f.Shows i p → (k i f).Gives f (result p) (failures p))
    (wf : f.WellFormed) (h : List.Forall₂ f.Shows ids ps) :
    (evaluateEach k f ids).Gives f (ps.map result) (ps.flatMap failures) := by
  induction ids generalizing f ps with
  | nil =>
    cases h
    exact ⟨rfl, rfl, wf, .refl f⟩
  | cons i ids ih =>
    cases h with
    | cons hi hids =>
      have hfirst := hk f i _ wf hi
      have hothers := ih hfirst.wellFormed
        (hids.imp fun _ _ h => h.grow hfirst.grows hfirst.wellFormed)
      refine ⟨?_, ?_, hothers.wellFormed, hfirst.grows.trans hothers.grows⟩
      · simp [evaluateEach, hfirst.result, hothers.result]
      · simp [evaluateEach, hfirst.failures, hothers.failures]

namespace Rule

mutual
theorem evaluateAt_gives {f : Forest} {context : NodeId} {p : Place} (path : List String)
    (wf : f.WellFormed) (h : f.Shows context p) : (r : Rule) →
    (evaluateAt path context f r).Gives f (r.outcome path p).result (r.outcome path p).inner
  | ⟨name, source, subRules, replacement⟩ => by
    cases source with
    | literals values => exact ⟨rfl, rfl, wf, .refl f⟩
    | attr attribute_ =>
      refine ⟨?_, rfl, wf, .refl f⟩
      simp only [evaluateAt, outcome, Forest.attribute?_of_shows h]
    | match_ spec =>
      obtain ⟨hwf, hgrow, hagree⟩ := spec.evaluate_runs wf h !subRules.isEmpty
      rcases hexec : exec (spec.evaluate context !subRules.isEmpty) f with ⟨m, g⟩
      rcases hfound : spec.outcome p !subRules.isEmpty with e | found <;>
        rw [hexec, hfound] at hagree <;> rw [hexec] at hwf hgrow
      · cases hagree
        rw [exec] at hexec
        simp only [evaluateAt, outcome, hexec, hfound]
        exact ⟨rfl, rfl, hwf, hgrow⟩
      · cases hagree with
        | ok hyields =>
          rw [exec] at hexec
          simp only [evaluateAt, outcome, hexec, hfound]
          cases hyields with
          | values vs => exact ⟨rfl, rfl, hwf, hgrow⟩
          | nodes hids =>
            have heach := evaluateEach_gives
              (fun f i q wf h => evaluateAllAt_gives (path ++ [name]) wf h .empty subRules) hwf hids
            refine ⟨?_, ?_, heach.wellFormed, hgrow.trans heach.grows⟩
            · simp [heach.result]
            · simp [heach.failures, List.flatMap_map]
/-- The forest that earlier rules leave shows the context as it was, so a later rule
gives what it gives alone. -/
theorem evaluateAllAt_gives {f : Forest} {context : NodeId} {p : Place} (path : List String)
    (wf : f.WellFormed) (h : f.Shows context p) (record : Record) : (rules : List Rule) →
    (evaluateAllAt path context f record rules).Gives f
      (record.insertAll (entriesOf (outcomes path p rules)))
      (failuresOf path (outcomes path p rules))
  | [] => ⟨rfl, rfl, wf, .refl f⟩
  | rule :: rest => by
    have hfirst := evaluateAt_gives path wf h rule
    have hlater := h.grow hfirst.grows hfirst.wellFormed
    have hname : (rule.outcome path p).name = rule.name := outcome_name path p rule
    rcases hresult : (rule.outcome path p).result with cause | values <;>
      simp only [evaluateAllAt, outcomes, hfirst.result, hfirst.failures, hresult]
    · have hothers := evaluateAllAt_gives path hfirst.wellFormed hlater record rest
      refine ⟨?_, ?_, hothers.wellFormed, hfirst.grows.trans hothers.grows⟩
      · simp [hothers.result, entriesOf, Outcome.success?, hresult]
      · simp [hothers.failures, failuresOf, Outcome.failures, hresult, hname]
    · have hothers := evaluateAllAt_gives path hfirst.wellFormed hlater
        (record.insert rule.name values) rest
      refine ⟨?_, ?_, hothers.wellFormed, hfirst.grows.trans hothers.grows⟩
      · simp [hothers.result, entriesOf, Outcome.success?, hresult, hname, Record.insertAll]
      · simp [hothers.failures, failuresOf, Outcome.failures, hresult]
end

end Rule

/-- A document evaluated on a forest gives its outcome at the place of the root. -/
theorem RuleDocument.evaluate_gives (wf : f.WellFormed) (h : f.Shows context p)
    (d : RuleDocument) :
    (d.evaluate context f).1 = d.outcome p ∧ (d.evaluate context f).2.WellFormed ∧
      f.Grows (d.evaluate context f).2 := by
  obtain ⟨hresult, hfailures, hwf, hgrow⟩ := Rule.evaluateAllAt_gives [] wf h .empty d.rules
  simp only [evaluate, outcome, ← hresult, ← hfailures]
  split <;> exact ⟨rfl, hwf, hgrow⟩

end PageRecords
