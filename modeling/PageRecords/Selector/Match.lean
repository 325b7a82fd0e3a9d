import PageRecords.Selector.Positions
import PageRecords.Dom.Place

/-!
# Matching

Whether the element at a place meets a selector. Nodes other than elements meet
none.
-/

namespace PageRecords.Selector

open Dom

/-- The parts of a text between blanks. -/
def words : List Char → List (List Char)
  | [] => [[]]
  | c :: rest =>
    if isBlank c then [] :: words rest
    else
      match words rest with
      | w :: ws => (c :: w) :: ws
      | [] => [[c]]

def occursIn (part : List Char) : List Char → Bool
  | [] => part.isEmpty
  | c :: rest => part.isPrefixOf (c :: rest) || occursIn part rest

/-- Whether the value of an attribute compares with the one named. No value has an
empty part, nor a word with a blank in it. -/
def Operator.compare (op : Operator) (actual expected : List Char) : Bool :=
  match op with
  | .equal => actual = expected
  | .word => !expected.isEmpty && !expected.any isBlank && (words actual).contains expected
  | .dash => actual = expected || (expected ++ ['-']).isPrefixOf actual
  | .start => !expected.isEmpty && expected.isPrefixOf actual
  | .stop => !expected.isEmpty && expected.isSuffixOf actual
  | .part => !expected.isEmpty && occursIn expected actual

/-- Whether letter case is to be ignored on an element of that name. -/
def LetterCase.ignoredOn (l : LetterCase) (tag : Tag) : Bool :=
  match l with
  | .kept => false
  | .ignored => true
  | .ignoredInHtml => tag.space = .html

def ValueTest.accepts (t : ValueTest) (tag : Tag) (actual : String) : Bool :=
  if t.letterCase.ignoredOn tag then
    t.operator.compare (actual.toList.map Char.toLower) (t.value.toList.map Char.toLower)
  else t.operator.compare actual.toList t.value.toList

/-- A name as it is looked for on an element: those of HTML are in lower case. -/
def nameOn (tag : Tag) (name : String) : String :=
  if tag.space = .html then name.toLower else name

def AttributeTest.accepts (t : AttributeTest) (tag : Tag) (attributes : List Attribute) : Bool :=
  attributes.any fun a =>
    (t.anySpace || a.space = .none) && a.name = nameOn tag t.name &&
      match t.value with
      | none => true
      | some v => v.accepts tag a.value

/-- How many of the nodes are elements, of that name if one is asked for. -/
def countElements (sameName : Bool) (tag : Tag) (ns : List Node) : Nat :=
  ns.countP fun n =>
    match n.tag? with
    | some t => !sameName || t = tag
    | none => false

def isDocument : Node → Bool
  | .root _ .document _ => true
  | _ => false

def isEmptyText : Node → Bool
  | .leaf _ (.text s) => s.isEmpty
  | .leaf _ _ => true
  | .root .. => true
  | .element .. => false

def linkNames : List String := ["a", "area", "link"]

def Test.acceptsElement (p : Place) (tag : Tag) : Test → Bool
  | .any => true
  | .spaceless => tag.space = .none
  | .name n => tag.name = nameOn tag n
  | .id v => p.node.attribute? "id" = some v
  | .inClass v => (p.node.attribute? "class").any fun s => (words s.toList).contains v.toList
  | .attr t => t.accepts tag p.node.attributes
  | .position at_ fromEnd sameName =>
    at_.contains (countElements sameName tag (if fromEnd then p.right else p.left) + 1)
  | .only sameName =>
    countElements sameName tag p.left = 0 && countElements sameName tag p.right = 0
  | .root => p.parent?.any fun parent => isDocument parent.node
  | .empty => p.node.children.all isEmptyText
  | .link =>
    tag.space = .html && linkNames.contains tag.name && (p.node.attribute? "href").isSome
  | .never => false

def Test.accepts (p : Place) (t : Test) : Bool :=
  match p.node.tag? with
  | some tag => t.acceptsElement p tag
  | none => false

def Condition.accepts (p : Place) : Condition → Bool
  | .holds t => t.accepts p
  | .fails ts => p.node.isElement && !ts.all (·.accepts p)

/-- The elements that a combinator leads to, the nearest first. -/
def Combinator.candidates (p : Place) : Combinator → List Place
  | .descendant => p.elementsAround
  | .child => p.elementsAround.take 1
  | .nextSibling => (p.previous.filter (·.node.isElement)).take 1
  | .laterSibling => p.previous.filter (·.node.isElement)

/-- Whether elements that meet the rest of an alternative stand around a place. -/
def acceptsAround (p : Place) : List (Combinator × List Condition) → Bool
  | [] => true
  | (by_, conditions) :: rest =>
    (by_.candidates p).any fun q => conditions.all (·.accepts q) && acceptsAround q rest

def Complex.accepts (p : Place) (c : Complex) : Bool :=
  c.last.all (·.accepts p) && acceptsAround p c.before

/-- The node at the place is an element that meets one of the alternatives. -/
def accepts (s : Selector) (p : Place) : Bool :=
  p.node.isElement && s.alternatives.any (·.accepts p)

end PageRecords.Selector
