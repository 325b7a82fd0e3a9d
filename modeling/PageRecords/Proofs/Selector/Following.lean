import PageRecords.Proofs.Dom.Places
import PageRecords.Selector.Match

/-!
# Selectors that follow a relation

Where conditions do not tell related places apart, and what a combinator leads to from one of
them it leads to, up to the relation, from the other, a selector that accepts the one accepts
the other (`Follows.accepts`). What is asked depends on what the selector is made of: a steady
one asks about elements themselves and those around them, a sideways one about nothing above
the element, so that a tree can be taken out of its page (`Place.mirrors_follows`).
-/

namespace PageRecords

open Dom

namespace Selector

/-- What the alternatives of a selector are made of. -/
def consistsOf (onCondition : Condition → Bool) (onCombinator : Combinator → Bool)
    (s : Selector) : Bool :=
  s.alternatives.all fun c =>
    c.last.all onCondition && c.before.all fun step => onCombinator step.1 && step.2.all onCondition

/-- Places that conditions do not tell apart, with candidates that are so related again. -/
structure Follows (onCondition : Condition → Bool) (onCombinator : Combinator → Bool)
    (R : Place → Place → Prop) : Prop where
  element : ∀ {p q}, R p q → p.node.isElement = q.node.isElement
  condition : ∀ {p q c}, R p q → onCondition c = true → c.accepts p = c.accepts q
  combinator : ∀ {p q k}, R p q → onCombinator k = true →
    ∀ r ∈ k.candidates p, ∃ t ∈ k.candidates q, R r t

variable {onCondition : Condition → Bool} {onCombinator : Combinator → Bool}
  {R : Place → Place → Prop} {p q : Place} {s : Selector}

theorem Follows.conditions {cs : List Condition} (h : Follows onCondition onCombinator R)
    (hpq : R p q) (hcs : cs.all onCondition = true) :
    cs.all (·.accepts p) = cs.all (·.accepts q) := by
  rw [List.all_eq_true] at hcs
  rw [Bool.eq_iff_iff, List.all_eq_true, List.all_eq_true]
  refine forall₂_congr fun c hc => ?_
  rw [h.condition hpq (hcs c hc)]

theorem Follows.around {rest : List (Combinator × List Condition)}
    (h : Follows onCondition onCombinator R) (hpq : R p q)
    (hrest : rest.all (fun step => onCombinator step.1 && step.2.all onCondition) = true)
    (haccepts : acceptsAround p rest = true) : acceptsAround q rest = true := by
  induction rest generalizing p q with
  | nil => rfl
  | cons step rest ih =>
    obtain ⟨k, conditions⟩ := step
    simp only [List.all_cons, Bool.and_eq_true] at hrest
    obtain ⟨⟨hk, hconditions⟩, hrest⟩ := hrest
    simp only [acceptsAround, List.any_eq_true, Bool.and_eq_true] at haccepts ⊢
    obtain ⟨r, hr, hhere, haround⟩ := haccepts
    obtain ⟨t, ht, hrt⟩ := h.combinator hpq hk r hr
    exact ⟨t, ht, h.conditions hrt hconditions ▸ hhere, ih hrt hrest haround⟩

/-- A selector accepts what it accepted, at related places. -/
theorem Follows.accepts (h : Follows onCondition onCombinator R) (hpq : R p q)
    (hs : s.consistsOf onCondition onCombinator = true) (haccepts : s.accepts p = true) :
    s.accepts q = true := by
  simp only [Selector.accepts, Complex.accepts, Bool.and_eq_true, List.any_eq_true] at haccepts ⊢
  obtain ⟨helement, c, hc, hlast, haround⟩ := haccepts
  rw [consistsOf, List.all_eq_true] at hs
  have hparts := hs c hc
  rw [Bool.and_eq_true] at hparts
  refine ⟨h.element hpq ▸ helement, c, hc, h.conditions hpq hparts.1 ▸ hlast, ?_⟩
  exact h.around hpq hparts.2 haround

-- --------------------------------------------------------------------
-- Steady selectors
-- --------------------------------------------------------------------

/-- The test is about the element itself: its name and attributes. -/
def Test.isOwn : Test → Bool
  | .position .. | .only _ | .root | .empty => false
  | _ => true

def Condition.isOwn : Condition → Bool
  | .holds t => t.isOwn
  | .fails ts => ts.all Test.isOwn

/-- The combinator leads to elements around. -/
def Combinator.isUpward : Combinator → Bool
  | .descendant | .child => true
  | .nextSibling | .laterSibling => false

/-- The selector asks about elements themselves and those around them. -/
def isSteady (s : Selector) : Bool := s.consistsOf Condition.isOwn Combinator.isUpward

theorem Test.accepts_of_own {t : Test} (ht : t.isOwn = true) (htag : p.node.tag? = q.node.tag?)
    (hattributes : p.node.attributes = q.node.attributes) : t.accepts p = t.accepts q := by
  simp only [Test.accepts, htag]
  cases q.node.tag? with
  | none => rfl
  | some tag =>
    cases t with
    | position | only | root | empty => cases ht
    | _ => simp [Test.acceptsElement, Node.attribute?, hattributes]

theorem Condition.accepts_of_own {c : Condition} (hc : c.isOwn = true)
    (helement : p.node.isElement = q.node.isElement) (htag : p.node.tag? = q.node.tag?)
    (hattributes : p.node.attributes = q.node.attributes) : c.accepts p = c.accepts q := by
  cases c with
  | holds t => exact Test.accepts_of_own hc htag hattributes
  | fails ts =>
    rw [isOwn, List.all_eq_true] at hc
    have htests : ts.all (·.accepts p) = ts.all (·.accepts q) := by
      rw [Bool.eq_iff_iff, List.all_eq_true, List.all_eq_true]
      refine forall₂_congr fun t ht => ?_
      rw [Test.accepts_of_own (hc t ht) htag hattributes]
    simp only [accepts, helement, htests]

-- --------------------------------------------------------------------
-- Sideways selectors
-- --------------------------------------------------------------------

/-- The combinator leads to siblings. -/
def Combinator.isSideways : Combinator → Bool
  | .nextSibling | .laterSibling => true
  | .descendant | .child => false

/-- The selector asks about no element above the one it is to accept. -/
def isSideways (s : Selector) : Bool := s.consistsOf (fun _ => true) Combinator.isSideways

end Selector

-- --------------------------------------------------------------------
-- Trees taken out of their page
-- --------------------------------------------------------------------

namespace Dom.Place

variable {p q : Place}

/-- Places with the same node and the same siblings, under the same node. -/
inductive Mirrors : Place → Place → Prop
  | under {parent parent' : Place} (left : List Node) (n : Node) (right : List Node)
      (hparent : parent.node = parent'.node) :
      Mirrors (.under parent left n right) (.under parent' left n right)

theorem Mirrors.node (h : Mirrors p q) : p.node = q.node := by
  cases h
  rfl

theorem Mirrors.test (h : Mirrors p q) (t : Selector.Test) : t.accepts p = t.accepts q := by
  cases h with
  | under left n right hparent =>
    simp only [Selector.Test.accepts, node_under]
    cases n.tag? with
    | none => rfl
    | some tag =>
      cases t with
      | root => simp [Selector.Test.acceptsElement, parent?, hparent]
      | _ => rfl

theorem Mirrors.condition (h : Mirrors p q) (c : Selector.Condition) :
    c.accepts p = c.accepts q := by
  cases c with
  | holds t => exact h.test t
  | fails ts => simp only [Selector.Condition.accepts, h.node, h.test]

/-- The same siblings under another node. -/
def rehang (p parent : Place) : Place :=
  match p with
  | .top n => .top n
  | .under _ left n right => .under parent left n right

@[simp] theorem node_rehang (p parent : Place) : (p.rehang parent).node = p.node := by
  cases p <;> rfl

theorem previous_go_rehang (parent parent' : Place) (left right : List Node) :
    previous.go parent' left right = (previous.go parent left right).map (·.rehang parent') := by
  induction left generalizing right with
  | nil => rfl
  | cons n left ih => rw [previous.go, previous.go, ih, List.map_cons, rehang]

theorem mirrors_rehang {parent parent' : Place} (hparent : parent.node = parent'.node)
    (left right : List Node) :
    ∀ r ∈ previous.go parent left right, Mirrors r (r.rehang parent') := by
  induction left generalizing right with
  | nil => simp [previous.go]
  | cons n left ih =>
    intro r hr
    rw [previous.go, List.mem_cons] at hr
    rcases hr with rfl | hr
    · exact .under left n right hparent
    · exact ih (n :: right) r hr

theorem mirrors_follows :
    Selector.Follows (fun _ => true) Selector.Combinator.isSideways Mirrors where
  element h := by rw [h.node]
  condition h _ := h.condition _
  combinator {p q k} h hk r hr := by
    cases h with
    | @under parent parent' left n right hparent =>
      have hmirrors := mirrors_rehang hparent left (n :: right)
      have hsame : (previous.go parent' left (n :: right)).filter (·.node.isElement) =
          ((previous.go parent left (n :: right)).filter (·.node.isElement)).map
            (·.rehang parent') := by
        rw [previous_go_rehang parent parent', List.filter_map]
        simp [Function.comp_def]
      cases k with
      | descendant | child => cases hk
      | nextSibling =>
        simp only [Selector.Combinator.candidates, previous, hsame, ← List.map_take] at hr ⊢
        refine ⟨_, List.mem_map_of_mem hr, hmirrors r ?_⟩
        exact (List.mem_filter.mp (List.mem_of_mem_take hr)).1
      | laterSibling =>
        simp only [Selector.Combinator.candidates, previous, hsame] at hr ⊢
        exact ⟨_, List.mem_map_of_mem hr, hmirrors r (List.mem_filter.mp hr).1⟩

mutual
/-- What stands below a node stands below it wherever that is. -/
theorem exists_mirror_listOf (here here' : Place) (hnode : here.node = here'.node) :
    (n : Node) → q ∈ listOf here n → ∃ r ∈ listOf here' n, Mirrors q r
  | .leaf _ _, hq => by simp [listOf] at hq
  | .root _ _ children, hq => exists_mirror_listBelow here here' hnode [] children hq
  | .element _ _ _ _ children, hq => exists_mirror_listBelow here here' hnode [] children hq
theorem exists_mirror_listBelow (parent parent' : Place) (hnode : parent.node = parent'.node)
    (left : List Node) : (ns : List Node) → q ∈ listBelow parent left ns →
    ∃ r ∈ listBelow parent' left ns, Mirrors q r
  | [], hq => by simp [listBelow] at hq
  | n :: rest, hq => by
    simp only [listBelow, List.mem_cons, List.mem_append] at hq
    rcases hq with rfl | hq | hq
    · exact ⟨_, List.mem_cons_self, .under left n rest hnode⟩
    · obtain ⟨r, hr, hqr⟩ := exists_mirror_listOf (.under parent left n rest)
        (.under parent' left n rest) rfl n hq
      exact ⟨r, List.mem_cons_of_mem _ (List.mem_append_left _ hr), hqr⟩
    · obtain ⟨r, hr, hqr⟩ := exists_mirror_listBelow parent parent' hnode (n :: left) rest hq
      exact ⟨r, List.mem_cons_of_mem _ (List.mem_append_right _ hr), hqr⟩
end

end Dom.Place

end PageRecords
