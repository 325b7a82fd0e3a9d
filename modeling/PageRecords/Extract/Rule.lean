import PageRecords.Extract.Block
import PageRecords.Extract.Record
import PageRecords.Extract.Replacement
import PageRecords.Document.Basic
import PageRecords.Html.Page

/-!
# Evaluating rules

Rules are evaluated in order, each on its own. One that fails leaves its name out of
the record, and a failure behind.
-/

namespace PageRecords

open Dom (Forest NodeId)

/-- The values of a rule and the failures inside it, on the forest as it then is. -/
structure Evaluated (α : Type) where
  result : α
  failures : List Failure
  forest : Forest

/-- Replaces a value and strips the markup off the new one; a value that the pattern does
not match stays. -/
def Replacement.applyTo (replacement : Option Replacement) (value : String) : String :=
  match replacement.bind (·.run? value) with
  | some output => Html.plainText output
  | none => value

def Value.replaced (replacement : Option Replacement) (values : List String) : List Value :=
  values.map fun v => .text (Replacement.applyTo replacement v)

/-- Evaluates at each node in turn. -/
def evaluateEach {α : Type} (f : NodeId → Forest → Evaluated α) (forest : Forest) :
    List NodeId → Evaluated (List α)
  | [] => ⟨[], [], forest⟩
  | id :: rest =>
    let first := f id forest
    let others := evaluateEach f first.forest rest
    ⟨first.result :: others.result, first.failures ++ others.failures, others.forest⟩

namespace Rule

mutual
/-- Evaluates a rule whose path is that of the rules around it and its name. -/
def evaluateAt (path : List String) (context : NodeId) (forest : Forest) :
    Rule → Evaluated (Except BadSelector (List Value))
  | ⟨name, source, subRules, replacement⟩ =>
    match source with
    | .literals values =>
      ⟨.ok (Value.replaced replacement (values.map Html.plainText)), [], forest⟩
    | .attr attribute_ =>
      let value := (forest.attribute? context attribute_).getD ""
      ⟨.ok (Value.replaced replacement [value]), [], forest⟩
    | .match_ spec =>
      match (spec.evaluate context !subRules.isEmpty).run.run forest with
      | (.error e, forest) => ⟨.error e, [], forest⟩
      | (.ok (.values values), forest) => ⟨.ok (Value.replaced replacement values), [], forest⟩
      | (.ok (.nodes ids), forest) =>
        let each := evaluateEach
          (fun id forest => evaluateAllAt (path ++ [name]) id forest .empty subRules) forest ids
        ⟨.ok (each.result.map .ofRecord), each.failures, each.forest⟩
/-- Evaluates rules one after another into a record. -/
def evaluateAllAt (path : List String) (context : NodeId) (forest : Forest) (record : Record) :
    List Rule → Evaluated Record
  | [] => ⟨record, [], forest⟩
  | rule :: rest =>
    let first := evaluateAt path context forest rule
    match first.result with
    | .ok values =>
      let others :=
        evaluateAllAt path context first.forest (record.insert rule.name values) rest
      { others with failures := first.failures ++ others.failures }
    | .error cause =>
      let others := evaluateAllAt path context first.forest record rest
      { others with failures := first.failures ++ ⟨path ++ [rule.name], cause⟩ :: others.failures }
end

/-- Evaluates a rule on its own. Failures of its sub-rules only cost their entries. -/
def evaluate (r : Rule) (context : NodeId) (forest : Forest) :
    Except BadSelector (List Value) × Forest :=
  let e := evaluateAt [] context forest r
  (e.result, e.forest)

end Rule

/-- What a document takes from a page. -/
structure Extraction where
  record : Record
  failures : List Failure
deriving Repr, Inhabited

/-- Every rule of a document failed. -/
structure AllRulesFailed where
  failures : List Failure
deriving DecidableEq, Repr, Inhabited

def AllRulesFailed.message (e : AllRulesFailed) : String :=
  "all " ++ toString e.failures.length ++ " rules failed"

namespace RuleDocument

/-- Evaluates the rules of a document. It fails only if each of them does. -/
def evaluate (d : RuleDocument) (root : NodeId) (forest : Forest) :
    Except AllRulesFailed Extraction × Forest :=
  let e := Rule.evaluateAllAt [] root forest .empty d.rules
  let failed := e.failures.countP (·.isTopLevel)
  if !d.rules.isEmpty && failed = d.rules.length then (.error ⟨e.failures⟩, e.forest)
  else (.ok ⟨e.result, e.failures⟩, e.forest)

/-- Reads a page and evaluates the document on it. -/
def extract (d : RuleDocument) (html : String) : Except AllRulesFailed Extraction :=
  (d.evaluate 0 (Forest.ofHtml html)).1

end RuleDocument

end PageRecords
