import PageRecords.Regex.Parser

/-!
# Rules

A rule names an entry of the record and says where its values come from: matched
elements of the page, an attribute of the context element, or the rule itself.
-/

namespace PageRecords

/-- Which descendants of the context are taken, and what becomes of them. -/
structure MatchBlock where
  /-- Selector of the elements taken. -/
  included : String
  /-- Selector of those left out again; empty for none. -/
  excluded : String := ""
  /-- The attribute to read; without one, the content. -/
  attr : Option String := none
  /-- The element's own tags belong to its markup. -/
  outerNode : Bool := false
  /-- The value is markup rather than text. -/
  keepBasicMarkup : Bool := false
  /-- Selectors of descendants to remove first. -/
  removeInside : List String := []
  /-- Take the following siblings along, up to the first that matches. -/
  addNextUntil : Option String := none
deriving DecidableEq, Repr, Inhabited

inductive MatchSpec where
  | single (block : MatchBlock)
  /-- The first block that yields something counts. -/
  | any (blocks : List MatchBlock)
deriving DecidableEq, Repr, Inhabited

def MatchSpec.blocks : MatchSpec → List MatchBlock
  | .single block => [block]
  | .any blocks => blocks

/-- Replaces a value in which `find` matches by `output`, whose placeholders
stand for the groups of the match. -/
structure Replacement where
  find : Regex
  output : String
deriving Repr, Inhabited

inductive Rule.Source where
  | match_ (spec : MatchSpec)
  /-- Read off the context element. -/
  | attr (name : String)
  | literals (values : List String)
deriving DecidableEq, Repr, Inhabited

structure Rule where
  name : String
  source : Rule.Source
  /-- Evaluated inside each matched element. -/
  subRules : List Rule
  replacement : Option Replacement
deriving Repr, Inhabited

def Rule.hasSubRules (r : Rule) : Bool := !r.subRules.isEmpty

end PageRecords
