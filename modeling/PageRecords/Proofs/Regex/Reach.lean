import PageRecords.Regex.Match

/-!
# Where an expression leads

`Node.Reach` says between which places of a text an expression matches, by the meaning of
each of its forms and without an order of preference. It is what a search goes by: a
pattern is found in a text if it leads from some place of the text to some other
(`isMatch_iff`), which `mem_places_run` shows of the threads that the search runs.
-/

namespace PageRecords.Regex

-- --------------------------------------------------------------------
-- Places of one text
-- --------------------------------------------------------------------

namespace Place

variable {text : List Char} {p q : Place} {c : Char}

/-- The place lies in the text. -/
structure In (text : List Char) (p : Place) : Prop where
  index : p.index = p.before.length
  text : p.before.reverse ++ p.after = text

theorem In.length (hp : p.In text) : p.index + p.after.length = text.length := by
  rw [hp.index, ← hp.text, List.length_append, List.length_reverse]

/-- A place of a text is known by its index. -/
theorem In.eq (hp : p.In text) (hq : q.In text) (h : p.index = q.index) : p = q := by
  obtain ⟨i, before, after⟩ := p
  obtain ⟨j, before', after'⟩ := q
  obtain ⟨hi, htext⟩ := hp
  obtain ⟨hj, htext'⟩ := hq
  dsimp only at *
  have hlength : before.reverse.length = before'.reverse.length := by
    simp only [List.length_reverse]
    omega
  obtain ⟨hbefore, rfl⟩ := List.append_inj (htext.trans htext'.symm) hlength
  rw [List.reverse_inj] at hbefore
  rw [h, hbefore]

theorem next?_eq_some (h : p.next? = some (c, q)) :
    p.after = c :: q.after ∧ q.before = c :: p.before ∧ q.index = p.index + 1 := by
  rw [next?] at h
  split at h
  · cases h
  · next hafter =>
    cases h
    exact ⟨hafter, rfl, rfl⟩

theorem In.next? (hp : p.In text) (h : p.next? = some (c, q)) : q.In text := by
  obtain ⟨hafter, hbefore, hindex⟩ := next?_eq_some h
  obtain ⟨hi, htext⟩ := hp
  refine ⟨by rw [hindex, hbefore, hi, List.length_cons], ?_⟩
  rw [hbefore, List.reverse_cons, List.append_assoc, List.singleton_append, ← hafter, htext]

theorem mem_all_from {i : Nat} {before cs : List Char} :
    p ∈ all i before cs ↔
      ∃ w, cs = w ++ p.after ∧ p.before = w.reverse ++ before ∧ p.index = i + w.length := by
  induction cs generalizing i before with
  | nil =>
    rw [all, List.mem_singleton]
    constructor
    · rintro rfl
      exact ⟨[], rfl, rfl, rfl⟩
    · rintro ⟨w, hafter, hbefore, hindex⟩
      obtain ⟨rfl, hnil⟩ := List.append_eq_nil_iff.mp hafter.symm
      obtain ⟨_, _, _⟩ := p
      cases hnil
      cases hbefore
      cases hindex
      rfl
  | cons c rest ih =>
    rw [all, List.mem_cons, ih]
    constructor
    · rintro (rfl | ⟨w, rfl, hbefore, hindex⟩)
      · exact ⟨[], rfl, rfl, rfl⟩
      · refine ⟨c :: w, rfl, by simp [hbefore], ?_⟩
        rw [hindex, List.length_cons]
        omega
    · rintro ⟨w, hafter, hbefore, hindex⟩
      cases w with
      | nil =>
        left
        obtain ⟨_, _, _⟩ := p
        cases hafter
        cases hbefore
        cases hindex
        rfl
      | cons d w =>
        obtain ⟨rfl, rfl⟩ := List.cons.inj hafter
        refine .inr ⟨w, rfl, by simpa using hbefore, ?_⟩
        rw [hindex, List.length_cons]
        omega

/-- A search begins at every place of the text. -/
theorem mem_all : p ∈ all 0 [] text ↔ p.In text := by
  rw [mem_all_from]
  constructor
  · rintro ⟨w, htext, hbefore, hindex⟩
    rw [List.append_nil] at hbefore
    exact ⟨by rw [hindex, hbefore, List.length_reverse, Nat.zero_add],
      by rw [hbefore, List.reverse_reverse, htext]⟩
  · rintro ⟨hindex, htext⟩
    exact ⟨p.before.reverse, htext.symm, by simp, by simp [hindex]⟩

end Place

-- --------------------------------------------------------------------
-- Where expressions lead
-- --------------------------------------------------------------------

/-- So many rounds, each from where the one before it led. -/
def Rounds (R : Place → Place → Prop) : Nat → Place → Place → Prop
  | 0, p, q => p = q
  | n + 1, p, q => ∃ m, R p m ∧ Rounds R n m q

theorem rounds_add {R : Place → Place → Prop} {m n : Nat} {p q : Place} :
    Rounds R (m + n) p q ↔ ∃ x, Rounds R m p x ∧ Rounds R n x q := by
  induction m generalizing p with
  | zero => simp [Rounds]
  | succ m ih =>
    rw [Nat.add_right_comm, Rounds]
    simp only [ih, Rounds]
    constructor
    · rintro ⟨y, hy, x, hx, hq⟩
      exact ⟨x, ⟨y, hy, hx⟩, hq⟩
    · rintro ⟨x, ⟨y, hy, hx⟩, hq⟩
      exact ⟨y, hy, x, hx, hq⟩

theorem rounds_one {R : Place → Place → Prop} {p q : Place} : Rounds R 1 p q ↔ R p q := by
  simp [Rounds]

/-- An expression matches what lies between two places. -/
def Node.Reach : Node → Place → Place → Prop
  | .empty => fun p q => p = q
  | .set s => fun p q => ∃ c, p.next? = some (c, q) ∧ s.contains c
  | .look l => fun p q => p = q ∧ l.holds p
  | .group _ body => body.Reach
  | .cat first second => fun p q => ∃ m, first.Reach p m ∧ second.Reach m q
  | .alt first second => fun p q => first.Reach p q ∨ second.Reach p q
  | .rep least most _ body => fun p q =>
    ∃ n, least ≤ n ∧ (∀ m, most = some m → n ≤ max least m) ∧ Rounds body.Reach n p q

/-- A relation between places that stays in the text and does not go back. -/
def Forward (text : List Char) (R : Place → Place → Prop) : Prop :=
  ∀ p q, p.In text → R p q → q.In text ∧ q.after.length ≤ p.after.length

theorem Forward.rounds {text : List Char} {R : Place → Place → Prop} (h : Forward text R)
    (n : Nat) : Forward text (Rounds R n) := by
  induction n with
  | zero =>
    rintro p _ hp rfl
    exact ⟨hp, Nat.le_refl _⟩
  | succ n ih =>
    rintro p q hp ⟨m, hm, hq⟩
    obtain ⟨hmin, hmlen⟩ := h p m hp hm
    obtain ⟨hqin, hqlen⟩ := ih m q hmin hq
    exact ⟨hqin, Nat.le_trans hqlen hmlen⟩

theorem Node.reach_forward (text : List Char) (n : Node) : Forward text n.Reach := by
  induction n with
  | empty =>
    rintro p _ hp rfl
    exact ⟨hp, Nat.le_refl _⟩
  | set s =>
    rintro p q hp ⟨c, hnext, -⟩
    have hafter := (Place.next?_eq_some hnext).1
    exact ⟨hp.next? hnext, by simp [hafter]⟩
  | look l =>
    rintro p _ hp ⟨rfl, -⟩
    exact ⟨hp, Nat.le_refl _⟩
  | group _ body ih => exact ih
  | cat first second ih₁ ih₂ =>
    rintro p q hp ⟨m, hm, hq⟩
    obtain ⟨hmin, hmlen⟩ := ih₁ p m hp hm
    obtain ⟨hqin, hqlen⟩ := ih₂ m q hmin hq
    exact ⟨hqin, Nat.le_trans hqlen hmlen⟩
  | alt first second ih₁ ih₂ =>
    rintro p q hp (h | h)
    · exact ih₁ p q hp h
    · exact ih₂ p q hp h
  | rep least most _ body ih =>
    rintro p q hp ⟨n, -, -, hn⟩
    exact ih.rounds n p q hp hn

-- --------------------------------------------------------------------
-- Threads by their places
-- --------------------------------------------------------------------

def places (ts : List Thread) : List Place := ts.map Thread.place

section

variable {text : List Char} {ts us : List Thread} {p q : Place}

@[simp] theorem places_nil : places [] = [] := rfl

@[simp] theorem places_cons (t : Thread) : places (t :: ts) = t.place :: places ts := rfl

theorem mem_places : q ∈ places ts ↔ ∃ t ∈ ts, t.place = q := List.mem_map

theorem places_map {f : Thread → Thread} (h : ∀ t, (f t).place = t.place) :
    places (ts.map f) = places ts := by
  rw [places, places, List.map_map]
  exact List.map_congr_left fun t _ => h t

@[simp] theorem places_rankFrom (n : Nat) : places (Thread.rankFrom n ts) = places ts := by
  induction ts generalizing n with
  | nil => rfl
  | cons t rest ih => simp [Thread.rankFrom, ih]

theorem place_close (index : Nat) (t : Thread) : (t.close index).place = t.place := by
  rw [Thread.close]
  split <;> rfl

theorem mem_places_distinctFrom (seen : Std.HashSet Nat) (hin : ∀ p ∈ places ts, p.In text) :
    q ∈ places (Thread.distinctFrom seen ts) ↔ q ∈ places ts ∧ q.index ∉ seen := by
  induction ts generalizing seen with
  | nil => simp [Thread.distinctFrom]
  | cons t rest ih =>
    rw [places_cons, List.forall_mem_cons] at hin
    obtain ⟨ht, hrest⟩ := hin
    rw [Thread.distinctFrom, places_cons, List.mem_cons]
    split
    · next hseen =>
      rw [Std.HashSet.contains_iff_mem] at hseen
      rw [ih seen hrest]
      refine ⟨fun ⟨hq, hnot⟩ => ⟨.inr hq, hnot⟩, ?_⟩
      rintro ⟨rfl | hq, hnot⟩
      · exact absurd hseen hnot
      · exact ⟨hq, hnot⟩
    · next hseen =>
      rw [Std.HashSet.contains_iff_mem] at hseen
      rw [places_cons, List.mem_cons, ih _ hrest, Std.HashSet.mem_insert, beq_iff_eq]
      constructor
      · rintro (rfl | ⟨hq, hnot⟩)
        · exact ⟨.inl rfl, hseen⟩
        · exact ⟨.inr hq, fun h => hnot (.inr h)⟩
      · rintro ⟨rfl | hq, hnot⟩
        · exact .inl rfl
        · -- The thread that is left out is at the place of the one that is kept.
          by_cases hindex : t.place.index = q.index
          · exact .inl ((hrest q hq).eq ht hindex.symm)
          · exact .inr ⟨hq, fun h => h.elim hindex hnot⟩

theorem mem_places_distinct (hin : ∀ p ∈ places ts, p.In text) :
    q ∈ places (Thread.distinct ts) ↔ q ∈ places ts := by
  rw [Thread.distinct, mem_places_distinctFrom ∅ hin]
  simp

theorem mem_places_mergeRanks (hts : ∀ p ∈ places ts, p.In text)
    (hus : ∀ p ∈ places us, p.In text) :
    q ∈ places (mergeRanks ts us) ↔ q ∈ places ts ∨ q ∈ places us := by
  have hmerge : ∀ q, q ∈ places ((ts.merge us fun t u => decide (t.rank ≤ u.rank)).map
      Thread.unrank) ↔ q ∈ places ts ∨ q ∈ places us := by
    intro q
    have hplace : ∀ t : Thread, t.unrank.place = t.place := fun _ => rfl
    rw [places_map hplace]
    simp only [mem_places, List.mem_merge, or_and_right, exists_or]
  have hin : ∀ p ∈ places ((ts.merge us fun t u => decide (t.rank ≤ u.rank)).map Thread.unrank),
      p.In text := fun p hp => ((hmerge p).mp hp).elim (hts p) (hus p)
  rw [mergeRanks, mem_places_distinct hin, hmerge]

end

end PageRecords.Regex
