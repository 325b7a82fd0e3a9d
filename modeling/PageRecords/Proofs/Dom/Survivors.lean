import PageRecords.Proofs.Dom.Editing
import PageRecords.Proofs.Dom.Removal
import PageRecords.Proofs.Selector.Following

/-!
# What removal leaves standing

A node that holds an identity which a removal leaves was kept itself, and so was every node
around it: `Node.stays_listOf`. A steady selector still accepts such a node, so that what it
accepts is gone in the end, whatever was removed before its turn (`Node.not_mem_cuts_of_steady`).
-/

namespace PageRecords.Dom

/-- A place after a removal, if the node and all nodes around it stay. -/
inductive Place.Stays (gone : Place → Bool) : Place → Place → Prop
  | top (n : Node) : Stays gone (.top n) (.top (n.cutAt gone (.top n)))
  | under {parent parent' : Place} {left right : List Node} {n : Node} (left' right' : List Node)
      (hparent : Stays gone parent parent') (hkept : gone (.under parent left n right) = false) :
      Stays gone (.under parent left n right)
        (.under parent' left' (n.cutAt gone (.under parent left n right)) right')

namespace Place.Stays

variable {gone : Place → Bool} {p q : Place}

theorem node (h : Stays gone p q) : q.node = p.node.cutAt gone p := by
  cases h <;> rfl

theorem isElement (h : Stays gone p q) : p.node.isElement = q.node.isElement := by
  rw [h.node]
  cases p.node <;> rfl

theorem tag? (h : Stays gone p q) : p.node.tag? = q.node.tag? := by
  rw [h.node]
  cases p.node <;> rfl

theorem attributes (h : Stays gone p q) : p.node.attributes = q.node.attributes := by
  rw [h.node]
  cases p.node <;> rfl

/-- Every element around a node that stays is still around it. -/
theorem exists_around (h : Stays gone p q) :
    ∀ r ∈ p.elementsAround, ∃ t ∈ q.elementsAround, Stays gone r t := by
  induction h with
  | top n => simp [Place.elementsAround]
  | under left' right' hparent hkept ih =>
    rw [Place.elementsAround, Place.elementsAround, hparent.isElement]
    split
    · intro r hr
      rcases List.mem_cons.mp hr with rfl | hr
      · exact ⟨_, List.mem_cons_self, hparent⟩
      · obtain ⟨t, ht, hrt⟩ := ih r hr
        exact ⟨t, List.mem_cons_of_mem _ ht, hrt⟩
    · simp

theorem exists_nearest (h : Stays gone p q) :
    ∀ r ∈ p.elementsAround.take 1, ∃ t ∈ q.elementsAround.take 1, Stays gone r t := by
  cases h with
  | top n => simp [Place.elementsAround]
  | under left' right' hparent hkept =>
    rw [Place.elementsAround, Place.elementsAround, hparent.isElement]
    split
    · simpa using hparent
    · simp

theorem follows (gone : Place → Bool) :
    Selector.Follows Selector.Condition.isOwn Selector.Combinator.isUpward (Stays gone) where
  element := isElement
  condition h hc := Selector.Condition.accepts_of_own hc h.isElement h.tag? h.attributes
  combinator {p q k} h hk r hr := by
    cases k with
    | descendant => exact h.exists_around r hr
    | child => exact h.exists_nearest r hr
    | nextSibling | laterSibling => cases hk

end Place.Stays

namespace Node

variable {gone : Place → Bool} {j : NodeId} {r : Place}

mutual
theorem ids_cutAt_sublist (gone : Place → Bool) (here : Place) :
    (n : Node) → (n.cutAt gone here).ids.Sublist n.ids
  | .leaf _ _ => .refl _
  | .root _ _ children => (listIds_listCutAt_sublist gone here [] children).cons_cons _
  | .element _ _ _ _ children =>
    ((List.Sublist.refl _).append (listIds_listCutAt_sublist gone here [] children)).cons_cons _
theorem listIds_listCutAt_sublist (gone : Place → Bool) (parent : Place) (left : List Node) :
    (ns : List Node) → (listIds (listCutAt gone parent left ns)).Sublist (listIds ns)
  | [] => .slnil
  | n :: rest => by
    have hrest := listIds_listCutAt_sublist gone parent (n :: left) rest
    simp only [listCutAt]
    split
    · exact hrest.trans (List.sublist_append_right _ _)
    · exact (ids_cutAt_sublist gone _ n).append hrest
end

mutual
/-- A node that still holds an identity after a removal was kept, and stands where it stood. -/
theorem stays_listOf {here here' : Place} (hhere : here.Stays gone here') : (n : Node) →
    n.ids.Nodup → r ∈ Place.listOf here n → j ∈ r.node.ids → j ∈ (n.cutAt gone here).ids →
    gone r = false ∧ ∃ r' ∈ Place.listOf here' (n.cutAt gone here),
      r.Stays gone r' ∧ j ∈ r'.node.ids
  | .leaf _ _, _, hr, _, _ => by simp [Place.listOf] at hr
  | .root k kind children, hnodup, hr, hj, hleft => by
    have hmem := (ids_sublist_of_mem_listBelow children hr).mem hj
    rw [ids, List.nodup_cons] at hnodup
    rw [cutAt, ids, List.mem_cons] at hleft
    refine stays_listBelow hhere [] [] children hnodup.2 hr hj (hleft.resolve_left ?_)
    rintro rfl
    exact hnodup.1 hmem
  | .element k tag attributes contents children, hnodup, hr, hj, hleft => by
    have hmem := (ids_sublist_of_mem_listBelow children hr).mem hj
    rw [ids, List.nodup_cons, List.nodup_append'] at hnodup
    obtain ⟨hk, -, hchildren, hapart⟩ := hnodup
    rw [cutAt, ids, List.mem_cons, List.mem_append] at hleft
    refine stays_listBelow hhere [] [] children hchildren hr hj
      ((hleft.resolve_left ?_).resolve_left fun hcontents => hapart hcontents hmem)
    rintro rfl
    exact hk (List.mem_append_right _ hmem)
theorem stays_listBelow {parent parent' : Place} (hparent : parent.Stays gone parent')
    (left left' : List Node) : (ns : List Node) → (listIds ns).Nodup →
    r ∈ Place.listBelow parent left ns → j ∈ r.node.ids →
    j ∈ listIds (listCutAt gone parent left ns) →
    gone r = false ∧ ∃ r' ∈ Place.listBelow parent' left' (listCutAt gone parent left ns),
      r.Stays gone r' ∧ j ∈ r'.node.ids
  | [], _, hr, _, _ => by simp [Place.listBelow] at hr
  | n :: rest, hnodup, hr, hj, hleft => by
    rw [listIds, List.nodup_append'] at hnodup
    obtain ⟨hn, hrest, hapart⟩ := hnodup
    have hafter := listIds_listCutAt_sublist gone parent (n :: left) rest
    simp only [Place.listBelow, List.mem_cons, List.mem_append] at hr
    have hthere : j ∈ n.ids ∧ (r = .under parent left n rest ∨
        r ∈ Place.listOf (.under parent left n rest) n) ∨
        r ∈ Place.listBelow parent (n :: left) rest := by
      rcases hr with rfl | hr | hr
      · exact .inl ⟨hj, .inl rfl⟩
      · exact .inl ⟨(ids_sublist_of_mem_listOf n hr).mem hj, .inr hr⟩
      · exact .inr hr
    rw [listCutAt] at hleft ⊢
    split at hleft
    · next hgone =>
      rw [if_pos hgone]
      rcases hthere with ⟨hmem, -⟩ | hr
      · exact (hapart hmem (hafter.mem hleft)).elim
      · exact stays_listBelow hparent (n :: left) left' rest hrest hr hj hleft
    · next hkept =>
      rw [Bool.not_eq_true] at hkept
      rw [if_neg (by simp [hkept])]
      rw [listIds, List.mem_append] at hleft
      have hstays := Place.Stays.under left' (listCutAt gone parent (n :: left) rest) hparent hkept
      rcases hthere with ⟨hmem, hr⟩ | hr
      · have hleft := hleft.resolve_right fun h => hapart hmem (hafter.mem h)
        rcases hr with rfl | hr
        · exact ⟨hkept, _, List.mem_cons_self, hstays, hleft⟩
        · obtain ⟨hgone, r', hr', hrest⟩ := stays_listOf hstays n hn hr hj hleft
          exact ⟨hgone, r', List.mem_cons_of_mem _ (List.mem_append_left _ hr'), hrest⟩
      · have hmem := (ids_sublist_of_mem_listBelow rest hr).mem hj
        have hleft := hleft.resolve_left fun h =>
          hapart ((ids_cutAt_sublist gone _ n).mem h) hmem
        obtain ⟨hgone, r', hr', hrest⟩ := stays_listBelow hparent (n :: left)
          (n.cutAt gone (.under parent left n rest) :: left') rest hrest hr hj hleft
        exact ⟨hgone, r', List.mem_cons_of_mem _ (List.mem_append_right _ hr'), hrest⟩
end

mutual
/-- What no removed node holds stays. -/
theorem mem_ids_cutAt (here : Place) : (n : Node) → j ∈ n.ids →
    (∀ x ∈ Place.listOf here n, gone x = true → j ∉ x.node.ids) → j ∈ (n.cutAt gone here).ids
  | .leaf _ _, hj, _ => hj
  | .root _ _ children, hj, hkept => by
    rw [ids, List.mem_cons] at hj
    rw [cutAt, ids, List.mem_cons]
    exact hj.imp_right fun hj => mem_listIds_listCutAt here [] children hj hkept
  | .element _ _ _ _ children, hj, hkept => by
    rw [ids, List.mem_cons, List.mem_append] at hj
    rw [cutAt, ids, List.mem_cons, List.mem_append]
    exact hj.imp_right (Or.imp_right fun hj => mem_listIds_listCutAt here [] children hj hkept)
theorem mem_listIds_listCutAt (parent : Place) (left : List Node) : (ns : List Node) →
    j ∈ listIds ns → (∀ x ∈ Place.listBelow parent left ns, gone x = true → j ∉ x.node.ids) →
    j ∈ listIds (listCutAt gone parent left ns)
  | [], hj, _ => hj
  | n :: rest, hj, hkept => by
    simp only [Place.listBelow, List.mem_cons, List.mem_append] at hkept
    have hrest := fun hj => mem_listIds_listCutAt parent (n :: left) rest hj fun x hx =>
      hkept x (.inr (.inr hx))
    rw [listIds, List.mem_append] at hj
    simp only [listCutAt]
    split
    · next hgone => exact hrest (hj.resolve_left (hkept _ (.inl rfl) hgone))
    · rw [listIds, List.mem_append]
      exact hj.imp (fun hj => mem_ids_cutAt _ n hj fun x hx => hkept x (.inr (.inl hx))) hrest
end

/-- A tree without what selectors select, one selector after the other. -/
def cuts (ss : List Selector) (n : Node) : Node := ss.foldl (fun n s => n.cut s) n

theorem cuts_append (ss us : List Selector) (n : Node) :
    n.cuts (ss ++ us) = (n.cuts ss).cuts us :=
  List.foldl_append

theorem ids_cut_sublist (s : Selector) (n : Node) : (n.cut s).ids.Sublist n.ids :=
  ids_cutAt_sublist s.accepts (.top n) n

theorem ids_cuts_sublist (ss : List Selector) (n : Node) : (n.cuts ss).ids.Sublist n.ids := by
  induction ss generalizing n with
  | nil => exact .refl _
  | cons s ss ih => exact (ih (n.cut s)).trans (ids_cut_sublist s n)

variable {n : Node} {s : Selector} {x : Place}

theorem not_mem_cut (hnodup : n.ids.Nodup) (hx : x ∈ (Place.top n).descendants)
    (haccepts : s.accepts x = true) (hj : j ∈ x.node.ids) : j ∉ (n.cut s).ids := by
  intro hleft
  obtain ⟨hkept, -⟩ := stays_listOf (.top n) n hnodup hx hj hleft
  rw [haccepts] at hkept
  cases hkept

/-- What a selector accepts when its turn comes does not stay. -/
theorem not_mem_cuts (before after : List Selector) (hnodup : n.ids.Nodup)
    (hx : x ∈ (Place.top (n.cuts before)).descendants) (haccepts : s.accepts x = true)
    (hj : j ∈ x.node.ids) : j ∉ (n.cuts (before ++ s :: after)).ids := by
  intro hleft
  rw [cuts_append] at hleft
  have hbefore := hnodup.sublist (ids_cuts_sublist before n)
  exact not_mem_cut hbefore hx haccepts hj ((ids_cuts_sublist after _).mem hleft)

/-- What stays is what no selector accepts, or accepts something around, when its turn comes. -/
theorem mem_ids_cuts_iff (ss : List Selector) (hnodup : n.ids.Nodup) :
    j ∈ (n.cuts ss).ids ↔ j ∈ n.ids ∧ ∀ before s after, ss = before ++ s :: after →
      ∀ x ∈ (Place.top (n.cuts before)).descendants, s.accepts x = true → j ∉ x.node.ids := by
  constructor
  · intro hleft
    refine ⟨(ids_cuts_sublist ss n).mem hleft, ?_⟩
    rintro before s after rfl x hx haccepts hj
    exact not_mem_cuts before after hnodup hx haccepts hj hleft
  · rintro ⟨hj, hkept⟩
    induction ss generalizing n with
    | nil => exact hj
    | cons s ss ih =>
      refine ih (hnodup.sublist (ids_cut_sublist s n)) ?_ ?_
      · exact mem_ids_cutAt (.top n) n hj (hkept [] s ss rfl)
      · rintro before u after rfl
        exact hkept (s :: before) u after rfl

/-- What a steady selector accepts does not stay, whatever was removed when its turn comes. -/
theorem not_mem_cuts_of_steady (before after : List Selector) (hs : s.isSteady = true)
    (hnodup : n.ids.Nodup) (hx : x ∈ (Place.top n).descendants) (haccepts : s.accepts x = true)
    (hj : j ∈ x.node.ids) : j ∉ (n.cuts (before ++ s :: after)).ids := by
  induction before generalizing n x with
  | nil => exact not_mem_cuts [] after hnodup hx haccepts hj
  | cons u before ih =>
    intro hleft
    have hnow : j ∈ (n.cut u).ids := (ids_cuts_sublist (before ++ s :: after) _).mem hleft
    obtain ⟨-, x', hx', hstays, hj'⟩ := stays_listOf (.top n) n hnodup hx hj hnow
    have haccepts' := (Place.Stays.follows u.accepts).accepts hstays hs haccepts
    exact ih (hnodup.sublist (ids_cut_sublist u n)) hx' haccepts' hj' hleft

end Node

end PageRecords.Dom
