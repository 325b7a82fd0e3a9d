import PageRecords.Extract.Rule
import PageRecords.Proofs.Dom.Removal

/-!
# Outcomes

What a block and a rule give, as functions of the place they are evaluated at: no
forest, no copies, no order of work. `MatchBlock.outcome` and `Rule.outcome` are
this second reading of blocks and rules. Evaluation on a forest yields the same.
-/

namespace PageRecords

open Dom (Node Place)

namespace Extract

/-- A selector that can be read, or itself as the fault. -/
def compiled (selector : String) : Except BadSelector Selector :=
  match Selector.parse? selector with
  | some s => .ok s
  | none => .error ⟨selector⟩

/-- Selectors are looked at only if there is something to apply them to. -/
def ifAny {α β : Type} (xs : List α) (use : Except BadSelector (List β)) :
    Except BadSelector (List β) :=
  if xs.isEmpty then .ok [] else use

theorem ifAny_cons {α β : Type} (x : α) (xs : List α) (use : Except BadSelector (List β)) :
    ifAny (x :: xs) use = use := rfl

end Extract

/-- What a block gives: places for sub-rules, or values. -/
inductive Found where
  | places (ps : List Place)
  | values (vs : List String)

namespace Found

def size : Found → Nat
  | .places ps => ps.length
  | .values vs => vs.length

def isEmpty (found : Found) : Bool := found.size = 0

end Found

namespace MatchBlock

open Extract

/-- The elements below that the block includes and does not exclude. -/
def matchedAt (b : MatchBlock) (p : Place) : Except BadSelector (List Place) := do
  let s ← compiled b.included
  let found := p.descendants.filter s.accepts
  if b.excluded.isEmpty then return found
  else
    ifAny found do
      let s ← compiled b.excluded
      return found.filter fun q => !s.accepts q

/-- An element with its following siblings up to one that meets the selector, in a
container. -/
def group (stop : Selector) (p : Place) : Node :=
  let siblings := (p.next.filter (·.node.isElement)).takeWhile fun q => !stop.accepts q
  Dom.Forest.wrapper ((p :: siblings).map Place.node)

/-- The elements, or groups if siblings are taken along. A group stands alone. -/
def groupedAt (b : MatchBlock) (ps : List Place) : Except BadSelector (List Place) :=
  match b.addNextUntil with
  | none => return ps
  | some stop =>
    ifAny ps do
      let s ← compiled stop
      return ps.map fun q => .top (group s q)

/-- Trees without what one of the selectors selects. -/
def cutAll (selectors : List String) (ns : List Node) : Except BadSelector (List Node) :=
  ifAny ns do
    let ss ← selectors.mapM compiled
    return ns.map fun n => ss.foldl (fun n s => n.cut s) n

/-- The nodes without what is to be removed inside. Where something is, each is a tree
of its own. -/
def cleanedAt (b : MatchBlock) (ps : List Place) : Except BadSelector (List Place) :=
  if b.removeInside.isEmpty then return ps
  else do
    let ns ← cutAll b.removeInside (ps.map Place.node)
    return ns.map .top

/-- What the values are made of, or sub-rules are evaluated in. -/
def preparedAt (b : MatchBlock) (p : Place) : Except BadSelector (List Place) := do
  let ps ← b.matchedAt p
  let ps ← b.groupedAt ps
  b.cleanedAt ps

/-- The value that a node gives. -/
def valueOf (b : MatchBlock) (n : Node) : Option String :=
  match b.attr with
  | some name => n.attribute? name.toLower
  | none =>
    let kept := (n.unwrap basicTags).1
    if b.keepBasicMarkup then
      let plain := kept.strip stylingAttributes
      some (if b.outerNode then plain.outerMarkup else plain.innerMarkup)
    else some kept.text

def outcome (b : MatchBlock) (p : Place) (hasSubRules : Bool) : Except BadSelector Found := do
  let ps ← b.preparedAt p
  if hasSubRules then return .places ps
  else return .values (ps.filterMap fun q => b.valueOf q.node)

end MatchBlock

namespace MatchSpec

/-- The outcome of the first block that yields something. -/
def firstOutcome (p : Place) (hasSubRules : Bool) : List MatchBlock → Except BadSelector Found
  | [] => .ok (.values [])
  | b :: rest => do
    let found ← b.outcome p hasSubRules
    if found.isEmpty then firstOutcome p hasSubRules rest else return found

def outcome (p : Place) (hasSubRules : Bool) : MatchSpec → Except BadSelector Found
  | .single b => b.outcome p hasSubRules
  | .any bs => firstOutcome p hasSubRules bs

end MatchSpec

namespace Rule

/-- What a rule gives under its name, with the failures inside it. -/
structure Outcome where
  name : String
  result : Except BadSelector (List Value)
  inner : List Failure

namespace Outcome

/-- The entry of a rule that does not fail. -/
def success? (o : Outcome) : Option (String × List Value) :=
  match o.result with
  | .ok values => some (o.name, values)
  | .error _ => none

/-- The failures inside, then the rule's own. -/
def failures (path : List String) (o : Outcome) : List Failure :=
  match o.result with
  | .ok _ => o.inner
  | .error cause => o.inner ++ [⟨path ++ [o.name], cause⟩]

end Outcome

/-- The entries of the rules that do not fail, in order. -/
def entriesOf (os : List Outcome) : List (String × List Value) := os.filterMap Outcome.success?

def failuresOf (path : List String) (os : List Outcome) : List Failure :=
  os.flatMap (Outcome.failures path)

mutual
def outcome (path : List String) (p : Place) : Rule → Outcome
  | ⟨name, source, subRules, replacement⟩ =>
    match source with
    | .literals values => ⟨name, .ok (Value.replaced replacement (values.map Html.plainText)), []⟩
    | .attr attribute_ =>
      let value := (p.node.attribute? attribute_.toLower).getD ""
      ⟨name, .ok (Value.replaced replacement [value]), []⟩
    | .match_ spec =>
      match spec.outcome p !subRules.isEmpty with
      | .error e => ⟨name, .error e, []⟩
      | .ok (.values values) => ⟨name, .ok (Value.replaced replacement values), []⟩
      | .ok (.places ps) =>
        let each := ps.map fun q => outcomes (path ++ [name]) q subRules
        ⟨name, .ok (each.map fun os => .ofRecord (Record.empty.insertAll (entriesOf os))),
          each.flatMap (failuresOf (path ++ [name]))⟩
/-- The outcomes of rules, each on its own. -/
def outcomes (path : List String) (p : Place) : List Rule → List Outcome
  | [] => []
  | rule :: rest => outcome path p rule :: outcomes path p rest
end

theorem outcome_name (path : List String) (p : Place) (r : Rule) :
    (r.outcome path p).name = r.name := by
  obtain ⟨name, source, subRules, replacement⟩ := r
  simp only [outcome]
  repeat' split
  all_goals rfl

theorem outcomes_eq_map (path : List String) (p : Place) (rules : List Rule) :
    outcomes path p rules = rules.map (outcome path p) := by
  induction rules with
  | nil => rfl
  | cons rule rest ih => simp [outcomes, ih]

end Rule

/-- What a document takes from the page at a place. -/
def RuleDocument.outcome (d : RuleDocument) (p : Place) : Except AllRulesFailed Extraction :=
  let os := Rule.outcomes [] p d.rules
  let failures := Rule.failuresOf [] os
  if !d.rules.isEmpty && failures.countP (·.isTopLevel) = d.rules.length then .error ⟨failures⟩
  else .ok ⟨Record.empty.insertAll (Rule.entriesOf os), failures⟩

end PageRecords
