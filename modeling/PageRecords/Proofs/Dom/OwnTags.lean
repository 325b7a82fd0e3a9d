import PageRecords.Html.Page
import PageRecords.Proofs.Dom.Shape

/-!
# A node's own tags

The markup of an element is its start tag, its children and its end tag. The children as
written inside it differ from the children as written on their own in one way: text whose
element keeps it unescaped is escaped when it stands alone. So the two agree exactly if the
element escapes its text, or none of that text has a character to escape
(`own_tags_around_content`).
-/

namespace PageRecords.Dom

variable {c : Char} {s : String}

-- --------------------------------------------------------------------
-- Escaping
-- --------------------------------------------------------------------

/-- Written as a reference in text. -/
def IsEscaped (c : Char) : Prop := c = '&' ∨ c = '<' ∨ c = '>' ∨ c = '\u00a0'

instance (c : Char) : Decidable (IsEscaped c) :=
  inferInstanceAs (Decidable (_ ∨ _ ∨ _ ∨ _))

/-- Text that is written as it is. -/
def IsVerbatim (s : String) : Prop := ∀ c ∈ s.toList, ¬ IsEscaped c

instance (s : String) : Decidable (IsVerbatim s) := List.decidableBAll _ s.toList

theorem escapeTextChar_of_not_isEscaped (h : ¬ IsEscaped c) : escapeTextChar c = [c] := by
  simp only [IsEscaped, not_or] at h
  simp only [escapeTextChar, h, ↓reduceIte]

theorem length_escapeTextChar_of_isEscaped (h : IsEscaped c) : 1 < (escapeTextChar c).length := by
  obtain rfl | rfl | rfl | rfl := h <;> decide

theorem length_escapeTextChar_pos (c : Char) : 1 ≤ (escapeTextChar c).length := by
  by_cases h : IsEscaped c
  · exact Nat.le_of_lt (length_escapeTextChar_of_isEscaped h)
  · rw [escapeTextChar_of_not_isEscaped h]
    exact Nat.le_refl 1

theorem length_le_length_escaped (cs : List Char) :
    cs.length ≤ (cs.flatMap escapeTextChar).length := by
  induction cs with
  | nil => exact Nat.le_refl _
  | cons c cs ih =>
    have hc := length_escapeTextChar_pos c
    rw [List.flatMap_cons, List.length_cons, List.length_append]
    omega

theorem escaped_eq_self_iff (cs : List Char) :
    cs.flatMap escapeTextChar = cs ↔ ∀ c ∈ cs, ¬ IsEscaped c := by
  induction cs with
  | nil => simp
  | cons c cs ih =>
    rw [List.flatMap_cons, List.forall_mem_cons, ← ih]
    constructor
    · intro h
      have hlength := congrArg List.length h
      have hc := length_escapeTextChar_pos c
      have hcs := length_le_length_escaped cs
      rw [List.length_append, List.length_cons] at hlength
      have hone : ¬ IsEscaped c := fun hesc => by
        have := length_escapeTextChar_of_isEscaped hesc
        omega
      rw [escapeTextChar_of_not_isEscaped hone] at h
      exact ⟨hone, (List.cons.inj h).2⟩
    · rintro ⟨hc, hcs⟩
      rw [escapeTextChar_of_not_isEscaped hc, hcs, List.singleton_append]

theorem length_le_length_escapeText (s : String) : s.length ≤ (escapeText s).length := by
  rw [escapeText, String.length_ofList, ← String.length_toList]
  exact length_le_length_escaped s.toList

theorem escapeText_eq_self_iff : escapeText s = s ↔ IsVerbatim s := by
  rw [IsVerbatim, ← escaped_eq_self_iff, escapeText, ← String.toList_inj, String.toList_ofList]

/-- Of two pairs of texts, none longer than its counterpart, both agree if what they make
together agrees. -/
theorem append_eq_append_iff_of_length_le {a b a' b' : String} (ha : a.length ≤ a'.length)
    (hb : b.length ≤ b'.length) : a' ++ b' = a ++ b ↔ a' = a ∧ b' = b := by
  constructor
  · intro h
    have hlength := congrArg String.length h
    rw [String.length_append, String.length_append] at hlength
    have hlists := congrArg String.toList h
    rw [String.toList_append, String.toList_append] at hlists
    have := List.append_inj hlists (by rw [String.length_toList, String.length_toList]; omega)
    exact ⟨String.toList_inj.mp this.1, String.toList_inj.mp this.2⟩
  · rintro ⟨rfl, rfl⟩
    rfl

namespace Node

-- --------------------------------------------------------------------
-- The text that an element's own rule is about
-- --------------------------------------------------------------------

mutual
/-- The texts of no element below: whether they are escaped is up to what the node
stands in. -/
def bareTexts : Node → List String
  | .leaf _ (.text s) => [s]
  | .leaf _ _ => []
  | .root _ _ children => listBareTexts children
  | .element .. => []
def listBareTexts : List Node → List String
  | [] => []
  | n :: rest => n.bareTexts ++ listBareTexts rest
end

mutual
/-- Raw markup is never the longer one. -/
theorem length_markupIn_le : (n : Node) → (n.markupIn true).length ≤ (n.markupIn false).length
  | .leaf _ (.text s) => length_le_length_escapeText s
  | .leaf _ (.comment _) | .leaf _ (.doctype _) => Nat.le_refl _
  | .root _ _ children => length_listMarkupIn_le children
  | .element .. => Nat.le_refl _
theorem length_listMarkupIn_le :
    (ns : List Node) → (listMarkupIn true ns).length ≤ (listMarkupIn false ns).length
  | [] => Nat.le_refl _
  | n :: rest => by
    rw [listMarkupIn, listMarkupIn, String.length_append, String.length_append]
    exact Nat.add_le_add (length_markupIn_le n) (length_listMarkupIn_le rest)
end

mutual
/-- Escaping shows in the markup of a node exactly through its bare texts. -/
theorem markupIn_eq_iff :
    (n : Node) → (n.markupIn false = n.markupIn true ↔ ∀ s ∈ n.bareTexts, IsVerbatim s)
  | .leaf _ (.text s) => by
    rw [bareTexts, List.forall_mem_singleton]
    exact escapeText_eq_self_iff
  | .leaf _ (.comment _) | .leaf _ (.doctype _) => iff_of_true rfl (by simp [bareTexts])
  | .root _ _ children => listMarkupIn_eq_iff children
  | .element .. => iff_of_true rfl (by simp [bareTexts])
theorem listMarkupIn_eq_iff :
    (ns : List Node) →
      (listMarkupIn false ns = listMarkupIn true ns ↔ ∀ s ∈ listBareTexts ns, IsVerbatim s)
  | [] => iff_of_true rfl (by simp [listBareTexts])
  | n :: rest => by
    rw [listMarkupIn, listMarkupIn, listBareTexts, List.forall_mem_append,
      append_eq_append_iff_of_length_le (length_markupIn_le n) (length_listMarkupIn_le rest),
      markupIn_eq_iff n, listMarkupIn_eq_iff rest]
end

-- --------------------------------------------------------------------
-- Content and own tags
-- --------------------------------------------------------------------

theorem listMarkupIn_eq_join (raw : Bool) (ns : List Node) :
    listMarkupIn raw ns = String.join (ns.map (·.markupIn raw)) := by
  induction ns with
  | nil => rfl
  | cons n rest ih => rw [listMarkupIn, ih, List.map_cons, String.join_cons]

/-- The own tags of an element stand around its children, the text in them escaped or raw as
the element has it. Without them there is the markup of the children one after the other. The
two differ by the own tags alone exactly if the element has its text escaped or nothing in that
text would be. -/
theorem own_tags_around_content (i : NodeId) (tag : Tag) (attributes : List Attribute)
    (contents children : List Node) (hvoid : tag.isVoid = false) :
    let n := Node.element i tag attributes contents children
    n.innerMarkup = String.join (children.map outerMarkup) ∧
    n.outerMarkup = startTag tag attributes ++
      String.join (children.map (·.markupIn tag.hasRawText)) ++ endTag tag ∧
    (n.outerMarkup = startTag tag attributes ++ n.innerMarkup ++ endTag tag ↔
      (tag.hasRawText = true → ∀ s ∈ listBareTexts children, IsVerbatim s)) := by
  intro n
  have hinner : n.innerMarkup = listMarkupIn false children := rfl
  have houter : n.outerMarkup =
      startTag tag attributes ++ listMarkupIn tag.hasRawText children ++ endTag tag := by
    simp only [n, outerMarkup, markupIn, hvoid, Bool.false_eq_true, ↓reduceIte]
  refine ⟨hinner.trans (listMarkupIn_eq_join false children), ?_, ?_⟩
  · rw [houter, listMarkupIn_eq_join]
  · rw [houter, hinner, String.append_left_inj, String.append_right_inj]
    cases tag.hasRawText with
    | false => simp
    | true => rw [eq_comm, listMarkupIn_eq_iff]; simp

/-- A script without a character to escape is its tags around what it holds. -/
theorem plain_script_has_its_tags_around :
    let n := Node.element 1 ⟨.html, "script"⟩ [] [] [.leaf 2 (.text "go()")]
    Tag.isVoid ⟨.html, "script"⟩ = false ∧
      n.outerMarkup = startTag ⟨.html, "script"⟩ [] ++ n.innerMarkup ++ endTag ⟨.html, "script"⟩ :=
  ⟨by decide, (own_tags_around_content 1 ⟨.html, "script"⟩ [] [] [.leaf 2 (.text "go()")]
    (by decide)).2.2.mpr (by decide)⟩

/-- The script of a page is written with its text as it is and holds, on its own, the text
escaped. -/
theorem script_is_escaped_without_its_tags :
    let n := (Forest.ofHtml "<script>if (a<b) x()</script>").node 3
    n.tag?.map Tag.isVoid = some false ∧ n.innerMarkup = "if (a&lt;b) x()" ∧
      n.outerMarkup = "<script>if (a<b) x()</script>" ∧
      n.outerMarkup ≠ "<script>" ++ n.innerMarkup ++ "</script>" := by
  decide +kernel

end Node

end PageRecords.Dom
