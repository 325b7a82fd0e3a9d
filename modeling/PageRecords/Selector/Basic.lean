import PageRecords.Selector.Token

/-!
# Selectors

A selector is a list of alternatives. An alternative is read from its end: the
conditions on the element itself, then, going outward, how the next element is
reached and the conditions on it.
-/

namespace PageRecords

namespace Selector

/-- Whether upper and lower case letters differ. -/
inductive LetterCase where
  | kept
  | ignored
  | ignoredInHtml
deriving DecidableEq, Repr

structure ValueTest where
  operator : Operator
  value : String
  letterCase : LetterCase
deriving DecidableEq, Repr

structure AttributeTest where
  anySpace : Bool
  name : String
  value : Option ValueTest
deriving DecidableEq, Repr

/-- The positions `step * n + offset`, for `n` from zero on. -/
structure Positions where
  step : Int
  offset : Int
deriving DecidableEq, Repr

inductive Test where
  | any
  | spaceless
  | name (name : String)
  | id (value : String)
  | inClass (value : String)
  | attr (test : AttributeTest)
  /-- Positions among the siblings, or among those of the same name. -/
  | position (at_ : Positions) (fromEnd sameName : Bool)
  | only (sameName : Bool)
  | root
  | empty
  | link
  | never
deriving DecidableEq, Repr

inductive Condition where
  | holds (test : Test)
  /-- Not all of the tests hold. -/
  | fails (tests : List Test)
deriving DecidableEq, Repr

inductive Combinator where
  | descendant
  | child
  | nextSibling
  | laterSibling
deriving DecidableEq, Repr

structure Complex where
  last : List Condition
  before : List (Combinator × List Condition)
deriving DecidableEq, Repr

end Selector

structure Selector where
  alternatives : List Selector.Complex
deriving DecidableEq, Repr

end PageRecords
