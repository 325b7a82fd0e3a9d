import PageRecords.Document.Rule
import PageRecords.Document.Read

/-!
# Reading rules

Decoded data to rules in normal form, or the first fault in reading order.
-/

namespace PageRecords

open Json (Members)

/-- Matches every text at its start, up to the end of the first line. -/
def matchAll : String := ".*"

def compilePattern (pattern : String) (field : Field) : Except Fault Regex :=
  match Regex.compile? pattern with
  | some r => .ok r
  | none => .error (.malformedPattern field)

namespace MatchBlock

/-- A string is a block that includes it. Siblings taken along are wrapped in a
container of their own, so then the outer node is never the page's; markup is
kept where the outer node or sub-rules need it. -/
def read (value : Json) (field : Field) (hasSubRules : Bool) : Except Fault MatchBlock :=
  match value with
  | .string included => .ok { included, keepBasicMarkup := hasSubRules }
  | value => do
    let o ← value.asObject field
    let included ← o.requireString field "include"
    let excluded ← o.optionalString field ["exclude"]
    let attr ← o.optionalString field ["attribute"]
    let addNextUntil ← o.optionalString field ["addNextUntil"]
    let outerNode ← match addNextUntil with
      | some _ => pure false
      | none => Json.flag (o.get? "outerNode") (field.key "outerNode")
    let removeInside ← Json.stringList ((o.lookup? ["removeInside"]).map (·.2))
      (field.key "removeInside")
    let keepBasicMarkup ←
      if outerNode || hasSubRules then pure true
      else Json.flag (o.get? "keepBasicMarkup") (field.key "keepBasicMarkup")
    pure { included, excluded := excluded.getD "", attr, outerNode, keepBasicMarkup,
           removeInside, addNextUntil }

/-- The branches of an alternation, from an index on. -/
def readAll (field : Field) (hasSubRules : Bool) (i : Nat) :
    List Json → Except Fault (List MatchBlock)
  | [] => .ok []
  | value :: rest => do
    let block ← read value (field.index i) hasSubRules
    let more ← readAll field hasSubRules (i + 1) rest
    pure (block :: more)

/-- A block takes the attribute of its rule unless it names another one. -/
def withAttribute (attr : String) (field : Field) (block : MatchBlock) :
    Except Fault MatchBlock :=
  match block.attr with
  | some own =>
    if own = attr then .ok block else .error (.invalid field (.attributeConflict own))
  | none => .ok { block with attr := some attr }

def withAttributeAll (attr : String) (field : Field) :
    List MatchBlock → Except Fault (List MatchBlock)
  | [] => .ok []
  | block :: rest => do
    let block ← block.withAttribute attr field
    let more ← withAttributeAll attr field rest
    pure (block :: more)

end MatchBlock

namespace MatchSpec

def read (value : Json) (field : Field) (hasSubRules : Bool) : Except Fault MatchSpec :=
  match value with
  | .string _ => return .single (← MatchBlock.read value field hasSubRules)
  | .object o =>
    match Members.lookup? o ["or"] with
    | some (key, .array (b :: bs)) =>
      return .any (← MatchBlock.readAll (field.key key) hasSubRules 0 (b :: bs))
    | some (key, _) => .error (.invalid (field.key key) .emptyAlternation)
    | none => return .single (← MatchBlock.read value field hasSubRules)
  | _ => .error (.invalid field .matchShape)

/-- The attribute of a rule applies to every block. -/
def withAttribute (spec : MatchSpec) (attr : Option String) (field : Field) :
    Except Fault MatchSpec :=
  match attr with
  | none => .ok spec
  | some attr =>
    match spec with
    | .single block => return .single (← block.withAttribute attr field)
    | .any blocks => return .any (← MatchBlock.withAttributeAll attr field blocks)

end MatchSpec

namespace Replacement

/-- A string is an output for whatever is found. -/
def read (value : Json) (field : Field) (hasSubRules : Bool) : Except Fault Replacement :=
  if hasSubRules then .error (.invalid field .replacementWithSubRules)
  else
    match value with
    | .string output =>
      return { find := ← compilePattern matchAll (field.key "find"), output }
    | .object o => do
      let output ← Members.requireString o field "output"
      let find ← Members.optionalString o field ["find"]
      return { find := ← compilePattern (find.getD matchAll) (field.key "find"), output }
    | _ => .error (.invalid field .replacementShape)

end Replacement

namespace Json

theorem sizeOf_get?_lt {members : Members} {key : String} {value : Json}
    (h : members.get? key = some value) : sizeOf value < sizeOf members := by
  induction members with
  | nil => simp [Members.get?] at h
  | cons m rest ih =>
    obtain ⟨k, v⟩ := m
    simp only [Members.get?, List.lookup_cons] at h ih
    split at h
    · cases h
      simp
      omega
    · have := ih h
      simp
      omega

theorem sizeOf_lookup?_lt {members : Members} {keys : List String} {found : String × Json}
    (h : members.lookup? keys = some found) : sizeOf found.2 < sizeOf members := by
  induction keys with
  | nil => simp [Members.lookup?] at h
  | cons key keys ih =>
    simp only [Members.lookup?] at h
    split at h
    · next hg =>
      split at h
      · cases h
        exact sizeOf_get?_lt hg
      · exact ih h
    · exact ih h

end Json

namespace Rule

/-- Literal values, sub-rules and the three sources exclude each other as the
checks before say; a rule without any source lacks its match. -/
def readSource (o : Members) (field : Field) (attr : Option String) (hasSubRules : Bool) :
    Except Fault Source :=
  match o.lookup? ["match"] with
  | some (key, value) => do
    let spec ← MatchSpec.read value (field.key key) hasSubRules
    return .match_ (← spec.withAttribute attr (field.key "attribute"))
  | none =>
    match attr with
    | some attr => .ok (.attr attr)
    | none =>
      match o.lookup? ["value", "literalValues"] with
      | some (key, value) => return .literals (← Json.stringList (some value) (field.key key))
      | none => .error (.missing (field.key "match"))

/-- Literal values stand alone. -/
def checkLiteral (o : Members) (field : Field) (attr : Option String) :
    Except Fault Unit :=
  match o.lookup? ["value", "literalValues"] with
  | some (key, _) =>
    if (o.lookup? ["match"]).isSome || attr.isSome then
      .error (.invalid (field.key key) .literalNotAlone)
    else .ok ()
  | none => .ok ()

def readReplacement (o : Members) (field : Field) (hasSubRules : Bool) :
    Except Fault (Option Replacement) :=
  match o.lookup? ["rewrite"] with
  | some (key, value) => return some (← Replacement.read value (field.key key) hasSubRules)
  | none => .ok none

mutual
/-- A non-empty array of rules. -/
def readAll (value : Json) (field : Field) : Except Fault (List Rule) :=
  match value with
  | .array [] => .error (.invalid field .noRules)
  | .array (item :: rest) => readItems (item :: rest) field 0
  | _ => .error (.invalid field .rulesNotArray)
termination_by sizeOf value

/-- The rules of an array, from an index on. -/
def readItems (items : List Json) (field : Field) (i : Nat) : Except Fault (List Rule) :=
  match items with
  | [] => .ok []
  | item :: rest => do
    let rule ← read item (field.index i)
    let more ← readItems rest field (i + 1)
    pure (rule :: more)
termination_by sizeOf items

def read (value : Json) (field : Field) : Except Fault Rule :=
  if !value.isPresent then .error (.missing field)
  else
    match value with
    | .object o => do
      let name ← Members.requireString o field "name"
      let attr ← Members.optionalString o field ["attribute"]
      checkLiteral o field attr
      let subRules ← readSubRules o field
      let source ← readSource o field attr (!subRules.isEmpty)
      let replacement ← readReplacement o field (!subRules.isEmpty)
      pure { name, source, subRules, replacement }
    | _ => .error (.invalid field .notObject)
termination_by sizeOf value

/-- Sub-rules stand beside a match only. -/
def readSubRules (o : Members) (field : Field) : Except Fault (List Rule) :=
  match h : o.lookup? ["rules", "subRules"] with
  | some (key, value) =>
    if (o.lookup? ["match"]).isSome then
      have := Json.sizeOf_lookup?_lt h
      readAll value (field.key key)
    else .error (.invalid (field.key key) .subRulesWithoutMatch)
  | none => .ok []
termination_by sizeOf o
end

end Rule

end PageRecords
