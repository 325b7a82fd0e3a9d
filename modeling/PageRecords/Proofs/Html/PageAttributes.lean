import PageRecords.Html.Page
import PageRecords.Proofs.Dom.Isolation
import PageRecords.Proofs.Html.RuleAttributes

/-!
# Attributes of pages

A page is read token by token, and what every token keeps the whole run keeps: all elements of a
page have attributes as they can have them, those in template contents included
(`suited_page`).
-/

namespace PageRecords.Html

open Dom (Node)
open Dom.Node (inside listInside)

-- --------------------------------------------------------------------
-- Reading
-- --------------------------------------------------------------------

namespace Builder

variable {b : Builder} {t : Token}

theorem space_of_readsAsForeign (h : b.readsAsForeign t = true) :
    b.currentTag.space ≠ .html := by
  intro hspace
  have hhtml : (b.open_.isEmpty || b.currentTag.space = .html : Bool) = true := by simp [hspace]
  unfold readsAsForeign at h
  simp only at h
  rw [if_pos hhtml] at h
  cases h

namespace Sound

/-- Whichever rules hold for a token. -/
theorem outcome (hb : b.Sound) (ht : t.Written) :
    Outcome.Sound (if b.readsAsForeign t then b.inForeign t else b.byMode t) := by
  by_cases h : b.readsAsForeign t = true
  · rw [if_pos h]
    exact hb.inForeign ht (space_of_readsAsForeign h)
  · rw [if_neg h]
    exact hb.byMode ht

theorem settle (hb : b.Sound) (ht : t.Written) (fuel : Nat) : (b.settle t fuel).Sound := by
  induction fuel generalizing b t with
  | zero => exact hb
  | succ fuel ih =>
    obtain ⟨hnext, hleft⟩ := hb.outcome ht
    rw [Builder.settle]
    split
    · next heq =>
      rw [heq] at hnext
      exact hnext
    · next heq =>
      rw [heq] at hnext hleft
      exact ih hnext (hleft _ rfl)

theorem take (hb : b.Sound) (ht : t.Written) : (b.take t).Sound := by
  have hkept : { b with skipLineBreak := false }.Sound := hb.same rfl rfl
  unfold Builder.take
  simp only
  split
  · exact .ite hkept (hkept.settle ht _)
  · exact .ite (hkept.settle ht 1) hkept
  · exact hkept.settle ht _

end Sound

end Builder

namespace Reading

variable {r : Reading}

theorem sound_take {t : Token} (hr : r.builder.Sound) (ht : t.Written) :
    (r.take t).builder.Sound :=
  (hr.take ht).same rfl rfl

theorem sound_run (hr : r.builder.Sound) (cs : List Char) (fuel : Nat) :
    (r.run cs fuel).builder.Sound := by
  induction fuel generalizing r cs with
  | zero => exact hr
  | succ fuel ih =>
    rw [run]
    have htokens := written_lex ⟨r.lastStarted,
      !r.builder.open_.isEmpty && r.builder.currentTag.space != .html⟩ r.mode cs
    generalize lex _ r.mode cs = step at htokens
    have hstep : (step.tokens.foldl Reading.take { r with mode := step.mode }).builder.Sound :=
      List.foldlRecOn (motive := fun r => Builder.Sound (builder r)) _ _ hr
        fun _ hr t ht => sound_take hr (htokens t ht)
    split
    · exact hstep
    · exact ih hstep step.rest

end Reading

-- --------------------------------------------------------------------
-- Trees
-- --------------------------------------------------------------------

/-- An element has attributes as it can have them. -/
def Suited (n : Node) : Prop := ∀ tag ∈ n.tag?, Suits tag n.attributes

theorem mem_listInside {m : Node} {ns : List Node} :
    m ∈ listInside ns ↔ ∃ n ∈ ns, m = n ∨ m ∈ n.inside := by
  induction ns with
  | nil => simp [listInside]
  | cons n rest ih => simp [listInside, ih, or_assoc]

/-- An arena gives a tree whose elements are those in it. -/
theorem suited_nodeFrom {a : Arena} (ha : a.Sound) (fuel : Nat) (h : Handle) :
    ∀ m ∈ listInside [a.nodeFrom fuel h], Suited m := by
  induction fuel generalizing h with
  | zero => simp [Arena.nodeFrom, listInside, inside, Suited, Dom.Node.tag?]
  | succ fuel ih =>
    have hbelow : ∀ g, ∀ m ∈ listInside ((a.children g).toList.map (a.nodeFrom fuel)),
        Suited m := by
      intro g m hm
      obtain ⟨n, hn, hmn⟩ := mem_listInside.mp hm
      obtain ⟨i, -, rfl⟩ := List.mem_map.mp hn
      exact ih i m (mem_listInside.mpr ⟨_, List.mem_singleton_self _, hmn⟩)
    have hcontent := ha.content h
    intro m hm
    obtain ⟨n, hn, hmn⟩ := mem_listInside.mp hm
    rw [List.mem_singleton] at hn
    rw [Arena.nodeFrom] at hn
    simp only at hn
    cases hc : a.content h with
    | leaf content =>
      rw [hc] at hn
      subst hn
      rcases hmn with rfl | hmn
      · simp [Suited, Dom.Node.tag?]
      · simp [inside] at hmn
    | root kind =>
      rw [hc] at hn
      subst hn
      rcases hmn with rfl | hmn
      · simp [Suited, Dom.Node.tag?]
      · exact hbelow h m hmn
    | element tag attributes contents =>
      rw [hc] at hn hcontent
      subst hn
      rcases hmn with rfl | hmn
      · rintro _ ⟨⟩
        exact hcontent
      · rw [inside] at hmn
        rcases List.mem_append.mp hmn with hmn | hmn
        · cases contents with
          | none => simp [listInside] at hmn
          | some root => exact hbelow root m hmn
        · exact hbelow h m hmn

/-- Trees of one shape have the same elements. -/
theorem suited_of_shape {ns ms : List Node} (hshape : ns.map Node.shape = ms.map Node.shape)
    (h : ∀ m ∈ listInside ms, Suited m) : ∀ n ∈ listInside ns, Suited n := by
  intro n hn
  have hmem : n.shape ∈ (listInside ms).map Node.shape := by
    rw [← Node.listInside_shape, ← hshape, Node.listInside_shape]
    exact List.mem_map_of_mem hn
  obtain ⟨m, hm, heq⟩ := List.mem_map.mp hmem
  have hsuited := h m hm
  rw [Suited, ← Node.tag?_shape, ← Node.attributes_shape, heq, Node.tag?_shape,
    Node.attributes_shape] at hsuited
  exact hsuited

-- --------------------------------------------------------------------
-- Pages
-- --------------------------------------------------------------------

/-- Every element of a page, wherever it stands in it. -/
theorem suited_page (html : String) : ∀ n ∈ listInside (Dom.Forest.ofHtml html).trees, Suited n := by
  have hrun := Reading.sound_run (r := ⟨.start, .data, ""⟩) Builder.Sound.start (pageText html)
    ((pageText html).length + 1)
  have htree : ∀ m ∈ listInside [Arena.node _ Builder.document], Suited m :=
    suited_nodeFrom hrun.elements _ _
  refine suited_of_shape ?_ htree
  rw [Dom.Forest.ofHtml, Dom.Forest.plant_trees, List.map_cons, List.map_cons,
    Node.shape_renumber, readPage, Node.shape_renumber]

end PageRecords.Html
