import PageRecords.Json.Printer

/-!
# Faults of a document

A fault names the field it lies in by a path from the root of what was read, and
its cause. The wording stands here once.
-/

namespace PageRecords

/-- A step from a value into one of its parts. -/
inductive Field.Step where
  | key (name : String)
  | index (i : Nat)
deriving DecidableEq, Repr

/-- A path: the text it starts with, then steps. -/
structure Field where
  root : String
  steps : List Field.Step
deriving DecidableEq, Repr

namespace Field

def at_ (root : String) : Field := ⟨root, []⟩

def key (f : Field) (name : String) : Field := { f with steps := f.steps ++ [.key name] }

def index (f : Field) (i : Nat) : Field := { f with steps := f.steps ++ [.index i] }

/-- A child key after its parent's path, which may be empty. -/
def join (path name : String) : String :=
  if path = "" then name else path ++ "." ++ name

def Step.append (path : String) : Step → String
  | .key name => join path name
  | .index i => path ++ "[" ++ toString i ++ "]"

/-- The dotted form. -/
def text (f : Field) : String :=
  f.steps.foldl Step.append f.root

end Field

/-- Why a value is refused. -/
inductive Fault.Reason where
  | notObject
  | notString
  | notStringList
  | notFlag (value : Json)
  | notScalar
  | rulesNotArray
  | noRules
  | literalNotAlone
  | subRulesWithoutMatch
  | emptyAlternation
  | matchShape
  | attributeConflict (own : String)
  | replacementWithSubRules
  | replacementShape
  | authorShape
deriving Repr

/-- What is wrong with a document. -/
inductive Fault where
  | missing (field : Field)
  /-- The type is none of the built-in ones. -/
  | unknownType (field : Field) (name : String)
  /-- The custom type has the name of a built-in one. -/
  | builtInCustomType (field : Field)
  | invalid (field : Field) (reason : Fault.Reason)
  | malformedPattern (field : Field)
  | testPageMismatch (parser url : String)
deriving Repr

/-- The names of the built-in types, as documents spell them. -/
def builtInTypes : List String := ["article", "feed", "custom"]

namespace Fault

def Reason.text : Reason → String
  | .notObject => "must be an object"
  | .notString => "must be a string"
  | .notStringList => "must be either a string or an array of strings"
  | .notFlag value => "allowed values are true/false/1/0, but got " ++ value.compact
  | .notScalar => "must be a string, number or boolean"
  | .rulesNotArray => "rules must be an array"
  | .noRules => "must contain at least one rule"
  | .literalNotAlone => "literal values can not be combined with match or attribute"
  | .subRulesWithoutMatch => "sub-rules are only allowed alongside match"
  | .emptyAlternation => "OR block must contain a non-empty array"
  | .matchShape => "rule match must be either a string or an object"
  | .attributeConflict own => "conflicts with match attribute '" ++ own ++ "'"
  | .replacementWithSubRules => "rule with sub-rules can not contain a rewrite block"
  | .replacementShape => "rewrite must be either a string or an object"
  | .authorShape => "must be a string or an object"

/-- The field at fault, if the fault lies in one. -/
def field? : Fault → Option Field
  | .missing f | .unknownType f _ | .builtInCustomType f | .invalid f _ | .malformedPattern f =>
    some f
  | .testPageMismatch .. => none

def message : Fault → String
  | .missing f => "missing field: " ++ f.text
  | .unknownType f name =>
    "invalid type in " ++ f.text ++ ": '" ++ name ++ "' is not one of these: "
      ++ ", ".intercalate builtInTypes
  | .builtInCustomType f =>
    "invalid type in " ++ f.text ++ ": must NOT be one of these: "
      ++ ", ".intercalate builtInTypes
  | .invalid f reason => "invalid value for " ++ f.text ++ ": " ++ reason.text
  | .malformedPattern f => "invalid regex in " ++ f.text
  | .testPageMismatch parser url =>
    "test page doesn't match for parser '" ++ parser ++ "': " ++ url

end Fault

end PageRecords
