import PageRecords.Proofs.Dom.Shape
import PageRecords.Selector.Match

/-!
# Selectors ask about shapes

Whether the element at a place meets a selector depends on the shape of the place,
not on identities.
-/

namespace PageRecords.Selector

open Dom

@[simp] theorem isEmptyText_shape (n : Node) : isEmptyText n.shape = isEmptyText n := by
  cases n with
  | leaf _ content => cases content <;> rfl
  | root => rfl
  | element => rfl

@[simp] theorem isDocument_shape (n : Node) : isDocument n.shape = isDocument n := by
  cases n with
  | leaf => rfl
  | root _ kind _ => cases kind <;> rfl
  | element => rfl

@[simp] theorem countElements_map_shape (sameName : Bool) (tag : Tag) (ns : List Node) :
    countElements sameName tag (ns.map Node.shape) = countElements sameName tag ns := by
  simp [countElements, List.countP_map, Function.comp_def]

@[simp] theorem Test.accepts_shape (p : Place) (t : Test) : t.accepts p.shape = t.accepts p := by
  simp only [Test.accepts, Place.node_shape, Node.tag?_shape]
  cases p.node.tag? with
  | none => rfl
  | some tag =>
    cases t with
    | position at_ fromEnd sameName => cases fromEnd <;> simp [Test.acceptsElement]
    | _ => simp [Test.acceptsElement, Option.any_map, List.all_map, Function.comp_def]

@[simp] theorem Condition.accepts_shape (p : Place) (c : Condition) :
    c.accepts p.shape = c.accepts p := by
  cases c <;> simp [Condition.accepts]

theorem Combinator.candidates_shape (p : Place) (c : Combinator) :
    c.candidates p.shape = (c.candidates p).map Place.shape := by
  have hfilter : (p.previous.map Place.shape).filter (·.node.isElement) =
      (p.previous.filter (·.node.isElement)).map Place.shape := by
    simp [List.filter_map, Function.comp_def]
  cases c <;> simp [candidates, hfilter, List.map_take]

/-- What stands around is looked at in steps, each from one element to the next. -/
@[simp] theorem acceptsAround_shape (p : Place) (rest : List (Combinator × List Condition)) :
    acceptsAround p.shape rest = acceptsAround p rest := by
  induction rest generalizing p with
  | nil => rfl
  | cons step rest ih =>
    obtain ⟨by_, conditions⟩ := step
    simp [acceptsAround, Combinator.candidates_shape, List.any_map, Function.comp_def, ih]

@[simp] theorem Complex.accepts_shape (p : Place) (c : Complex) :
    c.accepts p.shape = c.accepts p := by
  simp [Complex.accepts]

@[simp] theorem accepts_shape (s : Selector) (p : Place) : s.accepts p.shape = s.accepts p := by
  simp [accepts]

end PageRecords.Selector
