import PageRecords.Proofs.Regex.Run

/-!
# The groups of an expression

A thread takes down a group when it comes to the end of one, under the number that the
expression has for it. So a match has no other groups than those of the expression and the
whole match: `get?_of_not_mem_groups`. Which part of the text a group has is left to the search.
-/

namespace PageRecords.Regex

/-- The numbers of the groups in an expression. -/
def Node.groupNumbers : Node → List Nat
  | .empty | .set _ | .look _ => []
  | .group index body => index :: body.groupNumbers
  | .cat first second | .alt first second => first.groupNumbers ++ second.groupNumbers
  | .rep _ _ _ body => body.groupNumbers

/-- The numbers of the groups of a pattern. Group 0 is the whole match. -/
def groups (r : Regex) : List Nat := 0 :: r.root.groupNumbers

variable {numbers : List Nat} {t u : Thread} {ts us : List Thread}

-- --------------------------------------------------------------------
-- Threads
-- --------------------------------------------------------------------

namespace Thread

/-- The thread has taken down no groups but those of some numbers. -/
def Within (numbers : List Nat) (t : Thread) : Prop := ∀ g ∈ t.groups, g.1 ∈ numbers

theorem Within.take? {s : Unicode.CharSet} (ht : t.Within numbers) (h : t.take? s = some u) :
    u.Within numbers := by
  rw [Thread.take?] at h
  split at h
  · split at h
    · cases h
      exact ht
    · cases h
  · cases h

theorem Within.close {index : Nat} (ht : t.Within numbers) (hindex : index ∈ numbers) :
    (t.close index).Within numbers := by
  rw [Thread.close]
  split
  · exact List.forall_mem_cons.mpr ⟨hindex, ht⟩
  · exact ht

theorem within_rankFrom (n : Nat) (hts : ∀ t ∈ ts, t.Within numbers) :
    ∀ t ∈ rankFrom n ts, t.Within numbers := by
  induction ts generalizing n with
  | nil => exact List.forall_mem_nil _
  | cons t rest ih =>
    obtain ⟨ht, hrest⟩ := List.forall_mem_cons.mp hts
    exact List.forall_mem_cons.mpr ⟨ht, ih (n + 1) hrest⟩

theorem distinctFrom_sublist (seen : Std.HashSet Nat) (ts : List Thread) :
    (distinctFrom seen ts).Sublist ts := by
  induction ts generalizing seen with
  | nil => exact .slnil
  | cons t rest ih =>
    rw [distinctFrom]
    split
    · exact (ih seen).cons t
    · exact (ih _).cons_cons t

theorem distinct_subset (ts : List Thread) : distinct ts ⊆ ts := (distinctFrom_sublist ∅ ts).subset

end Thread

theorem within_mergeRanks (hts : ∀ t ∈ ts, t.Within numbers) (hus : ∀ u ∈ us, u.Within numbers) :
    ∀ t ∈ mergeRanks ts us, t.Within numbers := by
  intro t ht
  obtain ⟨u, hu, rfl⟩ := List.mem_map.mp (Thread.distinct_subset _ ht)
  exact (List.mem_merge.mp hu).elim (hts u) (hus u)

-- --------------------------------------------------------------------
-- Repetition
-- --------------------------------------------------------------------

section

variable {P : Thread → Prop} {round : Thread → List Thread} {greedy : Bool}

namespace Loop

theorem all_threads {κ : Type} [BEq κ] [Hashable κ] {l : Loop κ} (hl : l.All P) :
    ∀ t ∈ l.threads, P t :=
  fun t ht => hl t (List.mem_reverse.mp (Thread.distinct_subset _ ht))

/-- What every round keeps, the exits after any number of rounds have. -/
theorem all_many (hround : ∀ t, P t → ∀ r ∈ round t, P r) (fuel : Nat) {l : Loop Nat}
    (ht : P t) (hl : l.All P) : (many round greedy fuel t l).All P := by
  induction fuel generalizing t l with
  | zero => exact hl
  | succ fuel ih =>
    rw [many]
    split
    · exact hl
    · have hbegin : (l.begin t.place.index).All P := hl
      refine List.foldlRecOn _ _ hbegin fun l' hl' r hr => ?_
      have hr := hround t ht r hr
      exact hl'.enter hr fun l'' hl'' => ih hr hl''

theorem all_upTo (hround : ∀ t, P t → ∀ r ∈ round t, P r) (left : Nat) {l : Loop (Nat × Nat)}
    (ht : P t) (hl : l.All P) : (upTo round greedy left t l).All P := by
  induction left generalizing t l with
  | zero => exact hl.exit ht
  | succ left ih =>
    rw [upTo]
    split
    · exact hl
    · have hbegin : (l.begin (left + 1, t.place.index)).All P := hl
      refine hbegin.enter
        (F := fun l' => (round t).foldl (fun loop r => upTo round greedy left r loop) l') ht ?_
      intro l' hl'
      exact List.foldlRecOn _ _ hl' fun l'' hl'' r hr => ih (hround t ht r hr) hl''

end Loop

theorem forall_mem_plus (hround : ∀ t, P t → ∀ r ∈ round t, P r) (hts : ∀ t ∈ ts, P t) :
    ∀ t ∈ plus round greedy ts, P t :=
  Loop.all_threads (List.foldlRecOn _ _ Loop.all_none fun _ hl t ht =>
    Loop.all_many hround t.fuel (hts t ht) hl)

theorem forall_mem_star (hround : ∀ t, P t → ∀ r ∈ round t, P r) (hts : ∀ t ∈ ts, P t) :
    ∀ t ∈ star round greedy ts, P t :=
  Loop.all_threads (List.foldlRecOn _ _ Loop.all_none fun _ hl t ht =>
    hl.enter (hts t ht) fun _ hl' => Loop.all_many hround t.fuel (hts t ht) hl')

theorem forall_mem_atMost (hround : ∀ t, P t → ∀ r ∈ round t, P r) (most : Nat)
    (hts : ∀ t ∈ ts, P t) : ∀ t ∈ atMost round greedy most ts, P t :=
  Loop.all_threads (List.foldlRecOn _ _ Loop.all_none fun _ hl t ht =>
    Loop.all_upTo hround most (hts t ht) hl)

theorem forall_mem_repeat {run : List Thread → List Thread}
    (hrun : ∀ ts, (∀ t ∈ ts, P t) → ∀ t ∈ run ts, P t) (n : Nat) (hts : ∀ t ∈ ts, P t) :
    ∀ t ∈ Nat.repeat run n ts, P t := by
  induction n with
  | zero => exact hts
  | succ n ih => exact hrun _ ih

end

-- --------------------------------------------------------------------
-- Expressions and searches
-- --------------------------------------------------------------------

/-- An expression adds no groups but its own. -/
theorem within_run (n : Node) (hn : n.groupNumbers ⊆ numbers) (hts : ∀ t ∈ ts, t.Within numbers) :
    ∀ t ∈ n.run ts, t.Within numbers := by
  induction n generalizing ts with
  | empty => exact hts
  | set s =>
    intro u hu
    obtain ⟨t, ht, htake⟩ := List.mem_filterMap.mp hu
    exact (hts t ht).take? htake
  | look l => exact fun t ht => hts t (List.mem_filter.mp ht).1
  | group index body ih =>
    obtain ⟨hindex, hbody⟩ := List.cons_subset.mp hn
    have hopened : ∀ t ∈ ts.map Thread.open_, t.Within numbers :=
      List.forall_mem_map.mpr fun t ht => hts t ht
    exact List.forall_mem_map.mpr fun t ht => (ih hbody hopened t ht).close hindex
  | cat first second ih₁ ih₂ =>
    obtain ⟨hfirst, hsecond⟩ := List.append_subset.mp hn
    exact ih₂ hsecond (ih₁ hfirst hts)
  | alt first second ih₁ ih₂ =>
    obtain ⟨hfirst, hsecond⟩ := List.append_subset.mp hn
    have hranked := Thread.within_rankFrom 0 hts
    exact within_mergeRanks (ih₁ hfirst hranked) (ih₂ hsecond hranked)
  | rep least most greedy body ih =>
    have hround : ∀ t : Thread, t.Within numbers → ∀ r ∈ body.run [t], r.Within numbers :=
      fun t ht => ih hn (List.forall_mem_singleton.mpr ht)
    have hrepeat : ∀ m, ∀ t ∈ Nat.repeat body.run m ts, t.Within numbers :=
      fun m => forall_mem_repeat (fun _ hus => ih hn hus) m hts
    cases most with
    | some most => exact forall_mem_atMost hround _ (hrepeat least)
    | none =>
      cases least with
      | zero => exact forall_mem_star hround hts
      | succ least => exact forall_mem_plus hround (hrepeat least)

/-- A match has nothing under a number that is of no group. -/
theorem get?_of_not_mem_groups {r : Regex} {text : String} {c : Captures} {index : Nat}
    (hc : r.captures? text = some c) (hindex : index ∉ r.groups) : c.get? index = none := by
  obtain ⟨t, ht, rfl⟩ := Option.map_eq_some_iff.mp hc
  have hstarts : ∀ t ∈ (Place.all 0 [] text.toList).map Thread.start, t.Within r.groups :=
    List.forall_mem_map.mpr fun p _ => List.forall_mem_nil _
  have hwithin := within_run (.group 0 r.root) (List.Subset.refl r.groups) hstarts t
    (List.mem_of_mem_head? ht)
  have hnone : t.groups.lookup index = none := by
    refine List.lookup_eq_none_iff.mpr fun g hg => ?_
    rw [bne_iff_ne]
    rintro rfl
    exact hindex (hwithin g hg)
  rw [Captures.get?, hnone, Option.map_none]

end PageRecords.Regex
