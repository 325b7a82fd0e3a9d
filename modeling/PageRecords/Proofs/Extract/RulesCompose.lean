import PageRecords.Proofs.Document.NormalForm
import PageRecords.Proofs.Extract.PageKept
import PageRecords.Proofs.Extract.RecordLaws

/-!
# Rules compose

Each rule gives what it gives alone on the untouched page, and the record of a list of
rules is that of its parts put together: `rules_compose`. A failure further inside never
counts as one of a document's own rules.
-/

namespace PageRecords

open Dom (Forest NodeId Place)

variable {f : Forest} {context : NodeId} {p : Place} {path : List String} {rules : List Rule}

namespace Rule

/-- The entries of the rules that succeed when each is evaluated alone on the forest. -/
def successes (path : List String) (context : NodeId) (f : Forest) (rules : List Rule) :
    List (String × List Value) :=
  rules.filterMap fun r =>
    match (evaluateAt path context f r).result with
    | .ok values => some (r.name, values)
    | .error _ => none

theorem successes_eq (wf : f.WellFormed) (h : f.Shows context p) (path : List String)
    (rules : List Rule) : successes path context f rules = entriesOf (outcomes path p rules) := by
  rw [outcomes_eq_map, entriesOf, List.filterMap_map, successes]
  refine List.filterMap_congr fun r _ => ?_
  have hname : (r.outcome path p).name = r.name := outcome_name path p r
  have halone := (evaluateAt_gives path wf h r).result
  cases hresult : (r.outcome path p).result <;>
    simp [halone, hresult, hname, Outcome.success?]

theorem evaluate_eq (wf : f.WellFormed) (h : f.Shows context p) (r : Rule) :
    (r.evaluate context f).1 = (r.outcome [] p).result :=
  (evaluateAt_gives [] wf h r).result

-- --------------------------------------------------------------------
-- Where failures lie
-- --------------------------------------------------------------------

mutual
/-- A failure inside a rule has a path beyond the rule's own. -/
theorem length_path_inner (path : List String) (p : Place) : (r : Rule) →
    ∀ x ∈ (r.outcome path p).inner, path.length + 1 < x.path.length
  | ⟨name, source, subRules, replacement⟩ => by
    cases source with
    | literals values => simp [outcome]
    | attr attribute_ => simp [outcome]
    | match_ spec =>
      intro x hx
      simp only [outcome] at hx
      split at hx
      · cases hx
      · cases hx
      · simp only [List.flatMap_map, List.mem_flatMap] at hx
        obtain ⟨q, -, hx⟩ := hx
        simpa using length_path_failures (path ++ [name]) q subRules x hx
theorem length_path_failures (path : List String) (p : Place) : (rules : List Rule) →
    ∀ x ∈ failuresOf path (outcomes path p rules), path.length < x.path.length
  | [] => by simp [outcomes, failuresOf]
  | rule :: rest => by
    intro x hx
    simp only [outcomes, failuresOf, List.flatMap_cons, List.mem_append] at hx
    rcases hx with hx | hx
    · have hinner := length_path_inner path p rule x
      rw [Outcome.failures] at hx
      split at hx
      · exact Nat.lt_of_succ_lt (hinner hx)
      · rcases List.mem_append.mp hx with hx | hx
        · exact Nat.lt_of_succ_lt (hinner hx)
        · rw [List.mem_singleton.mp hx]
          simp
    · exact length_path_failures path p rest x hx
end

theorem inner_of_error {e : BadSelector} (r : Rule) (h : (r.outcome path p).result = .error e) :
    (r.outcome path p).inner = [] := by
  obtain ⟨name, source, subRules, replacement⟩ := r
  cases source with
  | literals values => rfl
  | attr attribute_ => rfl
  | match_ spec =>
    simp only [outcome] at h ⊢
    split <;> simp_all

/-- Of the failures of one rule of a document, only its own is one of the document. -/
theorem countP_failures (p : Place) (r : Rule) :
    ((r.outcome [] p).failures []).countP (·.isTopLevel) =
      if (r.outcome [] p).success?.isNone then 1 else 0 := by
  rw [Outcome.failures, Outcome.success?]
  cases hresult : (r.outcome [] p).result with
  | ok values =>
    simp only [Option.isNone_some, Bool.false_eq_true, if_false, List.countP_eq_zero]
    intro x hx
    have hdeep := length_path_inner [] p r x hx
    simp only [Failure.isTopLevel, decide_eq_true_eq]
    exact fun h => by simp [h] at hdeep
  | error cause => simp [inner_of_error r hresult, Failure.isTopLevel]

theorem countP_failuresOf (p : Place) (rules : List Rule) :
    (failuresOf [] (outcomes [] p rules)).countP (·.isTopLevel) =
      (outcomes [] p rules).countP (·.success?.isNone) := by
  induction rules with
  | nil => rfl
  | cons rule rest ih =>
    rw [failuresOf] at ih ⊢
    rw [outcomes, List.flatMap_cons, List.countP_append, List.countP_cons, ih, countP_failures,
      Nat.add_comm]

/-- Rules that all fail leave one failure each, in order. -/
theorem failuresOf_of_all (hall : ∀ r ∈ rules, ∃ cause, (r.outcome path p).result = .error cause) :
    List.Forall₂ (fun r x => x.path = path ++ [r.name] ∧ (r.outcome path p).result = .error x.cause)
      rules (failuresOf path (outcomes path p rules)) := by
  induction rules with
  | nil => exact .nil
  | cons rule rest ih =>
    obtain ⟨hrule, hrest⟩ := List.forall_mem_cons.mp hall
    obtain ⟨cause, hcause⟩ := hrule
    have hname : (rule.outcome path p).name = rule.name := outcome_name path p rule
    rw [outcomes, failuresOf, List.flatMap_cons, Outcome.failures, hcause,
      inner_of_error rule hcause]
    exact .cons ⟨by rw [hname], hcause⟩ (ih hrest)

theorem all_failed_iff (p : Place) (rules : List Rule) :
    (failuresOf [] (outcomes [] p rules)).countP (·.isTopLevel) = rules.length ↔
      ∀ r ∈ rules, ∃ cause, (r.outcome [] p).result = .error cause := by
  have hlength : (outcomes [] p rules).length = rules.length := by
    rw [outcomes_eq_map, List.length_map]
  rw [countP_failuresOf, ← hlength, List.countP_eq_length, outcomes_eq_map]
  simp only [List.forall_mem_map, Outcome.success?]
  refine forall₂_congr fun r _ => ?_
  cases (r.outcome [] p).result <;> simp

end Rule

-- --------------------------------------------------------------------
-- Documents
-- --------------------------------------------------------------------

namespace RuleDocument

variable {d : RuleDocument}

theorem outcome_error_iff (hrules : d.rules ≠ []) (p : Place) :
    (∃ e, d.outcome p = .error e) ↔
      ∀ r ∈ d.rules, ∃ cause, (r.outcome [] p).result = .error cause := by
  rw [← Rule.all_failed_iff, outcome]
  have hsome : d.rules.isEmpty = false := by simpa using hrules
  simp only [hsome, Bool.not_false, Bool.true_and, decide_eq_true_eq]
  split
  · next h => simp [h]
  · next h => simp [h]

theorem failures_of_error {e : AllRulesFailed} (h : d.outcome p = .error e) :
    e.failures = Rule.failuresOf [] (Rule.outcomes [] p d.rules) := by
  simp only [outcome] at h
  split at h
  · cases h
    rfl
  · cases h

end RuleDocument

/-- Rules are independent and compose. The record of two lists of rules is the first one's
with the entries of the second one's inserted, the failures stand one after the other, and
so the last success of a name counts. A document fails only if each of its rules does, and
then with one failure for each. Contexts that a template holds are left out. -/
theorem rules_compose (wf : f.WellFormed) (hcontext : (f.place? context).isSome) :
    (∀ (path : List String) (A B : List Rule),
      let a := Rule.evaluateAllAt path context f .empty A
      let b := Rule.evaluateAllAt path context f .empty B
      let both := Rule.evaluateAllAt path context f .empty (A ++ B)
      both.result = a.result.insertAll b.result.entries ∧
        both.failures = a.failures ++ b.failures) ∧
    (∀ (path : List String) (rules : List Rule),
      let record := (Rule.evaluateAllAt path context f .empty rules).result
      let found := Rule.successes path context f rules
      record.names = (found.map (·.1)).eraseDups ∧
        ∀ name, record.get? name = found.reverse.lookup name) ∧
    ∀ (raw : Json) (d : RuleDocument), RuleDocument.read raw = .ok d →
      ((∃ e, (d.evaluate context f).1 = .error e) ↔
        ∀ r ∈ d.rules, ∃ cause, (r.evaluate context f).1 = .error cause) ∧
      ∀ e, (d.evaluate context f).1 = .error e →
        List.Forall₂ (fun r x => x.path = [r.name] ∧ (r.evaluate context f).1 = .error x.cause)
          d.rules e.failures := by
  obtain ⟨p, hp⟩ := Forest.exists_shows hcontext
  refine ⟨fun path A B => ?_, fun path rules => ?_, fun raw d hread => ?_⟩
  · have hall := fun rules => Rule.evaluateAllAt_gives path wf hp .empty rules
    dsimp only
    rw [(hall A).result, (hall B).result, (hall (A ++ B)).result, (hall A).failures,
      (hall B).failures, (hall (A ++ B)).failures, Record.insertAll_insertAll]
    simp only [Rule.outcomes_eq_map, List.map_append, Rule.entriesOf, Rule.failuresOf,
      List.filterMap_append, List.flatMap_append, Record.insertAll_append, and_self]
  · dsimp only
    rw [(Rule.evaluateAllAt_gives path wf hp .empty rules).result, Rule.successes_eq wf hp]
    refine ⟨Record.names_insertAll_empty _, fun name => ?_⟩
    rw [Record.get?_insertAll]
    exact Option.or_none
  · have hrules := RuleDocument.rules_ne_nil hread
    rw [(d.evaluate_gives wf hp).1]
    simp only [Rule.evaluate_eq wf hp]
    refine ⟨RuleDocument.outcome_error_iff hrules p, fun e he => ?_⟩
    rw [RuleDocument.failures_of_error he]
    exact Rule.failuresOf_of_all ((RuleDocument.outcome_error_iff hrules p).mp ⟨e, he⟩)

/-- Two rules of one name, the second with a selector that cannot be read. -/
def brokenRule : Rule :=
  { name := "section", source := .match_ (.single { included := "[" }), subRules := [],
    replacement := none }

theorem broken_rule_composes :
    templatePage.WellFormed ∧ (templatePage.place? 0).isSome ∧
    (Rule.evaluateAllAt [] 0 templatePage .empty ([sectionRule] ++ [brokenRule])).failures =
      (Rule.evaluateAllAt [] 0 templatePage .empty [sectionRule]).failures ++
        (Rule.evaluateAllAt [] 0 templatePage .empty [brokenRule]).failures ∧
    ∃ d, RuleDocument.read listingDocument = .ok d ∧
      ((∃ e, (d.evaluate 0 templatePage).1 = .error e) ↔
        ∀ r ∈ d.rules, ∃ cause, (r.evaluate 0 templatePage).1 = .error cause) := by
  have wf : templatePage.WellFormed := ⟨by decide, by decide⟩
  have hcontext : (templatePage.place? 0).isSome := by decide
  obtain ⟨d, hread⟩ := listing_is_read
  obtain ⟨hlists, -, hdocument⟩ := rules_compose wf hcontext
  exact ⟨wf, hcontext, (hlists [] [sectionRule] [brokenRule]).2, d, hread,
    (hdocument listingDocument d hread).1⟩

end PageRecords
