import PageRecords.Dom.Markup
import PageRecords.Proofs.Dom.Shape

/-!
# What cleaning leaves

Unwrapping ends once no element below has a name that is not allowed, and stripping
leaves no attribute of the names given. Template contents are not looked at by either;
they are no part of the markup, so the tree that the markup shows has none.
-/

namespace PageRecords.Dom.Node

variable {n m : Node} {allowed names : List String}

-- --------------------------------------------------------------------
-- The tree that markup shows
-- --------------------------------------------------------------------

mutual
/-- The tree without template contents. -/
def shown : Node → Node
  | .leaf i content => .leaf i content
  | .root i kind children => .root i kind (listShown children)
  | .element i tag attributes _ children => .element i tag attributes [] (listShown children)
def listShown : List Node → List Node
  | [] => []
  | n :: rest => n.shown :: listShown rest
end

mutual
theorem markupIn_shown (raw : Bool) : (n : Node) → n.shown.markupIn raw = n.markupIn raw
  | .leaf _ _ => rfl
  | .root _ _ children => listMarkupIn_shown raw children
  | .element _ tag attributes _ children => by
    simp only [shown, markupIn, listMarkupIn_shown tag.hasRawText children]
theorem listMarkupIn_shown (raw : Bool) :
    (ns : List Node) → listMarkupIn raw (listShown ns) = listMarkupIn raw ns
  | [] => rfl
  | n :: rest => by
    simp only [listShown, listMarkupIn, markupIn_shown raw n, listMarkupIn_shown raw rest]
end

theorem outerMarkup_shown (n : Node) : n.shown.outerMarkup = n.outerMarkup :=
  markupIn_shown false n

theorem innerMarkup_shown (n : Node) : n.shown.innerMarkup = n.innerMarkup := by
  cases n with
  | leaf => rfl
  | root i kind children => exact listMarkupIn_shown false children
  | element i tag attributes contents children => exact listMarkupIn_shown false children

theorem tag?_shown (n : Node) : n.shown.tag? = n.tag? := by
  cases n <;> rfl

-- --------------------------------------------------------------------
-- Nodes inside
-- --------------------------------------------------------------------

mutual
/-- All nodes below, those held as template contents included. -/
def inside : Node → List Node
  | .leaf _ _ => []
  | .root _ _ children => listInside children
  | .element _ _ _ contents children => listInside contents ++ listInside children
def listInside : List Node → List Node
  | [] => []
  | n :: rest => n :: (n.inside ++ listInside rest)
end

-- --------------------------------------------------------------------
-- Unwrapping
-- --------------------------------------------------------------------

theorem unwrapped_unwrap (allowed : List String) (n : Node) :
    (n.unwrap allowed).1.unwrapped allowed = [] := by
  induction n using unwrap_induction allowed with
  | done n h => rwa [unwrap_of_nil h]
  | pass n h ih => rwa [unwrap_of_ne_nil h]

theorem tag?_unwrapPass (allowed : List String) (n : Node) :
    (n.unwrapPass allowed).tag? = n.tag? := by
  cases n <;> rfl

/-- A node keeps its own tag, allowed or not. -/
theorem tag?_unwrap (allowed : List String) (n : Node) : (n.unwrap allowed).1.tag? = n.tag? := by
  induction n using unwrap_induction allowed with
  | done n h => rw [unwrap_of_nil h]
  | pass n h ih => rw [unwrap_of_ne_nil h, ih, tag?_unwrapPass]

mutual
theorem tags_inside_shown : (n : Node) → n.unwrapped allowed = [] →
    ∀ m ∈ n.shown.inside, ∀ tag, m.tag? = some tag → tag.name ∈ allowed
  | .leaf _ _, _ => by simp [shown, inside]
  | .root _ _ children, h => tags_listInside_shown children h
  | .element _ _ _ _ children, h => by
    simpa [shown, inside, listInside] using tags_listInside_shown children h
theorem tags_listInside_shown : (ns : List Node) → listUnwrapped allowed ns = [] →
    ∀ m ∈ listInside (listShown ns), ∀ tag, m.tag? = some tag → tag.name ∈ allowed
  | [], _ => by simp [listShown, listInside]
  | n :: rest, h => by
    have hhere : (∀ tag, n.tag? = some tag → tag.name ∈ allowed) ∧ n.unwrapped allowed = [] ∧
        listUnwrapped allowed rest = [] := by
      cases n with
      | leaf i content =>
        simp only [listUnwrapped] at h
        exact ⟨by simp [tag?], rfl, h⟩
      | root i kind children =>
        simp only [listUnwrapped, List.append_eq_nil_iff] at h
        exact ⟨by simp [tag?], h.1, h.2⟩
      | element i tag attributes contents children =>
        simp only [listUnwrapped] at h
        split at h
        · next hallowed =>
          rw [List.append_eq_nil_iff] at h
          exact ⟨by simpa [tag?] using hallowed, h.1, h.2⟩
        · cases h
    obtain ⟨hn, hinside, hrest⟩ := hhere
    intro m hm
    simp only [listShown, listInside, List.mem_cons, List.mem_append] at hm
    rcases hm with rfl | hm | hm
    · rwa [tag?_shown]
    · exact tags_inside_shown n hinside m hm
    · exact tags_listInside_shown rest hrest m hm
end

-- --------------------------------------------------------------------
-- Stripping
-- --------------------------------------------------------------------

theorem tag?_strip (names : List String) (n : Node) : (n.strip names).tag? = n.tag? := by
  cases n <;> rfl

mutual
/-- Stripping takes no element's name away, so nothing is left to unwrap afterwards. -/
theorem unwrapped_strip : (n : Node) → n.unwrapped allowed = [] →
    (n.strip names).unwrapped allowed = []
  | .leaf _ _, _ => rfl
  | .root _ _ children, h => listUnwrapped_strip children h
  | .element _ _ _ _ children, h => listUnwrapped_strip children h
theorem listUnwrapped_strip : (ns : List Node) → listUnwrapped allowed ns = [] →
    listUnwrapped allowed (listStrip names ns) = []
  | [], h => h
  | .leaf _ _ :: rest, h => by
    simp only [listUnwrapped] at h
    simp only [listStrip, strip, listUnwrapped, listUnwrapped_strip rest h]
  | .root _ _ children :: rest, h => by
    simp only [listUnwrapped, List.append_eq_nil_iff] at h
    simp [listStrip, strip, listUnwrapped, listUnwrapped_strip children h.1,
      listUnwrapped_strip rest h.2]
  | .element _ tag _ _ children :: rest, h => by
    simp only [listUnwrapped] at h
    split at h
    · next hallowed =>
      rw [List.append_eq_nil_iff] at h
      simp only [listStrip, strip, listUnwrapped, hallowed, if_true,
        listUnwrapped_strip children h.1, listUnwrapped_strip rest h.2, List.append_nil]
    · cases h
end

mutual
theorem attributes_strip_shown : (n : Node) →
    ∀ m ∈ (n.strip names).shown :: (n.strip names).shown.inside,
      ∀ a ∈ m.attributes, a.name ∉ names
  | .leaf _ _ => by simp [strip, shown, inside, attributes]
  | .root _ _ children => by
    simpa [strip, shown, inside, attributes] using attributes_listStrip_shown children
  | .element _ _ _ _ children => by
    simpa [strip, shown, inside, listInside, attributes] using attributes_listStrip_shown children
theorem attributes_listStrip_shown : (ns : List Node) →
    ∀ m ∈ listInside (listShown (listStrip names ns)), ∀ a ∈ m.attributes, a.name ∉ names
  | [] => by simp [listStrip, listShown, listInside]
  | n :: rest => by
    intro m hm
    simp only [listStrip, listShown, listInside, List.mem_cons, List.mem_append] at hm
    rcases hm with rfl | hm | hm
    · exact attributes_strip_shown n _ List.mem_cons_self
    · exact attributes_strip_shown n m (List.mem_cons_of_mem _ hm)
    · exact attributes_listStrip_shown rest m hm
end

end PageRecords.Dom.Node
