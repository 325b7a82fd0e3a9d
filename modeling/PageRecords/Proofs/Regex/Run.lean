import PageRecords.Proofs.Regex.Reach

/-!
# Threads go where an expression leads

The threads that an expression gives are at the places that it leads to from those it was
given: `mem_places_run`. For a repetition the marks of a loop carry the proof: where a
round was begun, every place that it leads to is an exit and has had its round begun.
So a search finds a match just where there is one (`isMatch_iff`).
-/

namespace PageRecords.Regex

namespace Loop

variable {κ : Type} [BEq κ] [Hashable κ]

-- --------------------------------------------------------------------
-- What rounds add to a loop
-- --------------------------------------------------------------------

/-- The later loop has all marks and exits of the earlier one, and what its further marks
are to ensure. -/
structure Grows (done : κ → Loop κ → Prop) (l l' : Loop κ) : Prop where
  begun : ∀ k ∈ l.begun, k ∈ l'.begun
  exits : ∀ q ∈ places l.exits, q ∈ places l'.exits
  done : ∀ k ∈ l'.begun, k ∉ l.begun → done k l'

/-- What more marks and more exits do not undo. -/
def Stable (P : Loop κ → Prop) : Prop :=
  ∀ l l' : Loop κ, (∀ k ∈ l.begun, k ∈ l'.begun) →
    (∀ q ∈ places l.exits, q ∈ places l'.exits) → P l → P l'

variable {done : κ → Loop κ → Prop} {l l' l'' : Loop κ}

theorem Grows.refl (l : Loop κ) : Grows done l l :=
  ⟨fun _ h => h, fun _ h => h, fun _ h hnot => absurd h hnot⟩

theorem Grows.trans (hdone : ∀ k, Stable (done k)) (h : Grows done l l')
    (h' : Grows done l' l'') : Grows done l l'' := by
  refine ⟨fun k hk => h'.begun k (h.begun k hk), fun q hq => h'.exits q (h.exits q hq), ?_⟩
  intro k hk hnot
  by_cases hmid : k ∈ l'.begun
  · exact hdone k l' l'' h'.begun h'.exits (h.done k hmid hnot)
  · exact h'.done k hk hmid

theorem Grows.exit (t : Thread) : Grows done l (l.exit t) :=
  ⟨fun _ h => h, fun _ h => List.mem_cons_of_mem _ h, fun _ h hnot => absurd h hnot⟩

theorem mem_exit (l : Loop κ) (t : Thread) : t.place ∈ places (l.exit t).exits :=
  List.mem_cons_self

/-- What each thread ensures, all of them ensure together. -/
theorem Grows.foldl {G : Thread → Loop κ → Prop} {f : Loop κ → Thread → Loop κ}
    (ts : List Thread) (hdone : ∀ k, Stable (done k)) (hgood : ∀ t, Stable (G t))
    (hstep : ∀ l', Grows done l l' → ∀ t ∈ ts, G t (f l' t) ∧ Grows done l' (f l' t)) :
    (∀ t ∈ ts, G t (ts.foldl f l)) ∧ Grows done l (ts.foldl f l) := by
  suffices h : ∀ l', Grows done l l' →
      (∀ t ∈ ts, G t (ts.foldl f l')) ∧ Grows done l' (ts.foldl f l') from h l (.refl l)
  intro l' hl'
  induction ts generalizing l' with
  | nil => exact ⟨by simp, .refl l'⟩
  | cons t rest ih =>
    obtain ⟨ht, hgrows⟩ := hstep l' hl' t List.mem_cons_self
    obtain ⟨hrest, hrestGrows⟩ := ih (fun l' hl' t ht => hstep l' hl' t (List.mem_cons_of_mem _ ht))
      (f l' t) (hl'.trans hdone hgrows)
    rw [List.foldl_cons, List.forall_mem_cons]
    exact ⟨⟨hgood t _ _ hrestGrows.begun hrestGrows.exits ht, hrest⟩,
      hgrows.trans hdone hrestGrows⟩

/-- A thread is made an exit after its rounds if they are preferred, and before them if not. -/
theorem enter_grows (greedy : Bool) (t : Thread) {G : Loop κ → Prop}
    {F : Loop κ → Loop κ} (hdone : ∀ k, Stable (done k)) (hgood : Stable G)
    (h : ∀ l', Grows done l l' → G (F l') ∧ Grows done l' (F l')) :
    (t.place ∈ places (if greedy then (F l).exit t else F (l.exit t)).exits ∧
        G (if greedy then (F l).exit t else F (l.exit t))) ∧
      Grows done l (if greedy then (F l).exit t else F (l.exit t)) := by
  cases greedy with
  | true =>
    obtain ⟨hrounds, hgrows⟩ := h l (.refl l)
    have hexit : Grows done (F l) ((F l).exit t) := .exit t
    exact ⟨⟨mem_exit _ t, hgood _ _ hexit.begun hexit.exits hrounds⟩, hgrows.trans hdone hexit⟩
  | false =>
    obtain ⟨hrounds, hgrows⟩ := h (l.exit t) (.exit t)
    exact ⟨⟨hgrows.exits _ (mem_exit l t), hrounds⟩, (Grows.exit t).trans hdone hgrows⟩

/-- All exits have a property. -/
def All (P : Thread → Prop) (l : Loop κ) : Prop := ∀ t ∈ l.exits, P t

theorem All.exit {P : Thread → Prop} {t : Thread} (hl : l.All P) (ht : P t) : (l.exit t).All P := by
  rw [All, Loop.exit, List.forall_mem_cons]
  exact ⟨ht, hl⟩

theorem All.enter {P : Thread → Prop} {greedy : Bool} {t : Thread} {F : Loop κ → Loop κ}
    (hl : l.All P) (ht : P t) (h : ∀ l' : Loop κ, l'.All P → (F l').All P) :
    (if greedy then (F l).exit t else F (l.exit t)).All P := by
  cases greedy with
  | true => exact (h l hl).exit ht
  | false => exact h _ (hl.exit ht)

theorem all_none {P : Thread → Prop} : (none : Loop κ).All P := by
  intro t ht
  cases ht

/-- All exits are at places that have a property. -/
def Exits (P : Place → Prop) (l : Loop κ) : Prop := ∀ q ∈ places l.exits, P q

theorem exits_iff_all {P : Place → Prop} : Exits P l ↔ l.All fun t => P t.place :=
  List.forall_mem_map

theorem Exits.imp {P Q : Place → Prop} (h : Exits P l) (himp : ∀ q, P q → Q q) : Exits Q l :=
  fun q hq => himp q (h q hq)

theorem Exits.exit {P : Place → Prop} {t : Thread} (hl : Exits P l) (ht : P t.place) :
    Exits P (l.exit t) :=
  exits_iff_all.mpr ((exits_iff_all.mp hl).exit ht)

theorem Exits.enter {P : Place → Prop} {greedy : Bool} {t : Thread} {F : Loop κ → Loop κ}
    (hl : Exits P l) (ht : P t.place) (h : ∀ l', Exits P l' → Exits P (F l')) :
    Exits P (if greedy then (F l).exit t else F (l.exit t)) := by
  simp only [exits_iff_all] at hl h ⊢
  exact hl.enter ht h

theorem exits_none {P : Place → Prop} : Exits P (none : Loop κ) :=
  exits_iff_all.mpr all_none

theorem Exits.foldl {P : Place → Prop} {f : Loop κ → Thread → Loop κ} {ts : List Thread}
    (hl : Exits P l) (hstep : ∀ t ∈ ts, ∀ l', Exits P l' → Exits P (f l' t)) :
    Exits P (ts.foldl f l) :=
  List.foldlRecOn ts f hl fun l' hl' t ht => hstep t ht l' hl'

theorem not_mem_begun_none (k : κ) : k ∉ (none : Loop κ).begun := by
  simp [none]

theorem mem_places_threads {text : List Char} {q : Place} (h : Exits (Place.In text) l) :
    q ∈ places l.threads ↔ q ∈ places l.exits := by
  have hreverse : ∀ q, q ∈ places l.exits.reverse ↔ q ∈ places l.exits := by
    intro q
    simp only [mem_places, List.mem_reverse]
  have hin : ∀ p ∈ places l.exits.reverse, p.In text := fun p hp => h p ((hreverse p).mp hp)
  rw [threads, mem_places_distinct hin, hreverse]

end Loop

-- --------------------------------------------------------------------
-- Rounds without a bound
-- --------------------------------------------------------------------

/-- A round gives threads where a relation leads, within a text. -/
structure LeadsBy (text : List Char) (round : Thread → List Thread) (R : Place → Place → Prop) :
    Prop where
  forward : Forward text R
  mem : ∀ t, t.place.In text → ∀ q, q ∈ places (round t) ↔ R t.place q

namespace Loop

variable {text : List Char} {round : Thread → List Thread} {R : Place → Place → Prop}
  {greedy : Bool} {t : Thread} {ts : List Thread} {p q : Place}

/-- Where a round leads to is an exit and has its round begun. -/
def FollowedUp (text : List Char) (R : Place → Place → Prop) (index : Nat) (l : Loop Nat) : Prop :=
  ∀ p, p.In text → p.index = index → ∀ q, R p q → q.index ∈ l.begun ∧ q ∈ places l.exits

theorem followedUp_stable (k : Nat) : Stable (FollowedUp text R k) := by
  intro l l' hbegun hexits h p hp hindex q hq
  obtain ⟨hb, he⟩ := h p hp hindex q hq
  exact ⟨hbegun _ hb, hexits q he⟩

/-- The thread is an exit and has its round begun. -/
def Entered (t : Thread) (l : Loop Nat) : Prop :=
  t.place ∈ places l.exits ∧ t.place.index ∈ l.begun

theorem marked_stable (i : Nat) : Stable fun l : Loop Nat => i ∈ l.begun :=
  fun _ _ hbegun _ h => hbegun i h

theorem entered_stable (t : Thread) : Stable (Entered t) := by
  intro l l' hbegun hexits ⟨hexit, hmark⟩
  exact ⟨hexits _ hexit, hbegun _ hmark⟩

theorem many_grows (hround : LeadsBy text round R) (fuel : Nat) (l : Loop Nat)
    (ht : t.place.In text)
    (hfuel : t.place.index ∈ l.begun ∨ t.place.after.length < fuel) :
    t.place.index ∈ (many round greedy fuel t l).begun ∧
      Grows (FollowedUp text R) l (many round greedy fuel t l) := by
  induction fuel generalizing t l with
  | zero =>
    rw [many]
    exact ⟨hfuel.resolve_right (Nat.not_lt_zero _), .refl l⟩
  | succ fuel ih =>
    rw [many]
    split
    · next hbegun => exact ⟨Std.HashSet.contains_iff_mem.mp hbegun, .refl l⟩
    next hnot =>
    rw [Std.HashSet.contains_iff_mem] at hnot
    have hmark : t.place.index ∈ (l.begin t.place.index).begun := by simp [begin]
    -- A thread that the round leads to is at the same place, and has its mark, or further on.
    have hfuel' : ∀ l', Grows (FollowedUp text R) (l.begin t.place.index) l' →
        ∀ r ∈ round t, r.place.In text ∧
          (r.place.index ∈ l'.begun ∨ r.place.after.length < fuel) := by
      intro l' hl' r hr
      have hR : R t.place r.place := (hround.mem t ht _).mp (mem_places.mpr ⟨r, hr, rfl⟩)
      obtain ⟨hrin, hrlen⟩ := hround.forward _ _ ht hR
      have htlength := ht.length
      have hrlength := hrin.length
      refine ⟨hrin, ?_⟩
      by_cases hindex : r.place.index = t.place.index
      · rw [hindex]
        exact .inl (hl'.begun _ hmark)
      · have hlt := hfuel.resolve_left hnot
        exact .inr (by omega)
    obtain ⟨hentered, hgrows⟩ := Grows.foldl (round t) followedUp_stable entered_stable
      fun l' hl' r hr => enter_grows _ _ followedUp_stable (marked_stable _) fun l'' hl'' =>
        ih l'' (hfuel' l' hl' r hr).1 (hfuel' l'' (hl'.trans followedUp_stable hl'') r hr).2
    refine ⟨hgrows.begun _ hmark, fun k hk => hgrows.begun k ?_, hgrows.exits, fun k hk hknot => ?_⟩
    · simp [begin, hk]
    · by_cases hkt : k = t.place.index
      · subst hkt
        intro p hp hindex q hq
        rw [hp.eq ht hindex] at hq
        obtain ⟨r, hr, rfl⟩ := mem_places.mp ((hround.mem t ht q).mpr hq)
        exact (hentered r hr).symm
      · refine hgrows.done k hk ?_
        simp only [begin, Std.HashSet.mem_insert, beq_iff_eq, not_or]
        exact ⟨fun h => hkt h.symm, hknot⟩

theorem exits_many {P : Place → Prop} (hround : LeadsBy text round R) (fuel : Nat) (l : Loop Nat)
    (ht : t.place.In text) (hP : ∀ n q, Rounds R (n + 1) t.place q → P q) (hl : Exits P l) :
    Exits P (many round greedy fuel t l) := by
  induction fuel generalizing t l with
  | zero => exact hl
  | succ fuel ih =>
    rw [many]
    split
    · exact hl
    refine Exits.foldl (l := l.begin t.place.index) hl fun r hr l' hl' => ?_
    have hR : R t.place r.place := (hround.mem t ht _).mp (mem_places.mpr ⟨r, hr, rfl⟩)
    have hrin := (hround.forward _ _ ht hR).1
    exact hl'.enter (hP 0 _ (rounds_one.mpr hR)) fun l'' hl'' =>
      ih l'' hrin (fun n q hn => hP (n + 1) q ⟨r.place, hR, hn⟩) hl''

/-- Rounds from a mark end at exits, if every mark is followed up. -/
theorem exits_of_rounds {l : Loop Nat} (hforward : Forward text R)
    (h : ∀ k ∈ l.begun, FollowedUp text R k l) (n : Nat) (hp : p.In text)
    (hmark : p.index ∈ l.begun) (hn : Rounds R (n + 1) p q) : q ∈ places l.exits := by
  induction n generalizing p with
  | zero => exact (h _ hmark p hp rfl q (rounds_one.mp hn)).2
  | succ n ih =>
    obtain ⟨m, hm, hrest⟩ := hn
    exact ih (hforward p m hp hm).1 (h _ hmark p hp rfl m hm).1 hrest

end Loop

-- --------------------------------------------------------------------
-- Rounds within a bound
-- --------------------------------------------------------------------

namespace Loop

variable {text : List Char} {round : Thread → List Thread} {R : Place → Place → Prop}
  {greedy : Bool} {t : Thread} {p q : Place} {left : Nat}

/-- At most so many rounds from a place are begun: without any the place is an exit. -/
def Covered (left : Nat) (p : Place) (l : Loop (Nat × Nat)) : Prop :=
  match left with
  | 0 => p ∈ places l.exits
  | left + 1 => (left + 1, p.index) ∈ l.begun

theorem covered_stable (left : Nat) (p : Place) : Stable (Covered left p) := by
  intro l l' hbegun hexits h
  cases left with
  | zero => exact hexits p h
  | succ left => exact hbegun _ h

/-- The place where a round was begun is an exit, and where it leads to, one round less
is begun. -/
def Bounded (text : List Char) (R : Place → Place → Prop) (k : Nat × Nat)
    (l : Loop (Nat × Nat)) : Prop :=
  ∀ left p, k = (left + 1, p.index) → p.In text →
    p ∈ places l.exits ∧ ∀ q, R p q → Covered left q l

theorem bounded_stable (k : Nat × Nat) : Stable (Bounded text R k) := by
  intro l l' hbegun hexits h left p hk hp
  obtain ⟨hexit, hnext⟩ := h left p hk hp
  exact ⟨hexits p hexit, fun q hq => covered_stable left q l l' hbegun hexits (hnext q hq)⟩

theorem upTo_grows (hround : LeadsBy text round R) (l : Loop (Nat × Nat))
    (ht : t.place.In text) :
    Covered left t.place (upTo round greedy left t l) ∧
      Grows (Bounded text R) l (upTo round greedy left t l) := by
  induction left generalizing t l with
  | zero => exact ⟨mem_exit l t, .exit t⟩
  | succ left ih =>
    rw [upTo]
    split
    · next hbegun => exact ⟨Std.HashSet.contains_iff_mem.mp hbegun, .refl l⟩
    have hrounds : ∀ l', (∀ r ∈ round t, Covered left r.place
          ((round t).foldl (fun loop r => upTo round greedy left r loop) l')) ∧
        Grows (Bounded text R) l'
          ((round t).foldl (fun loop r => upTo round greedy left r loop) l') := by
      intro l'
      refine Grows.foldl (G := fun r => Covered left r.place) (round t) bounded_stable
        (fun r => covered_stable left r.place) fun l' _ r hr => ih l' ?_
      exact (hround.forward _ _ ht
        ((hround.mem t ht _).mp (mem_places.mpr ⟨r, hr, rfl⟩))).1
    obtain ⟨⟨hexit, hcovered⟩, hgrows⟩ := enter_grows greedy t
      (l := l.begin (left + 1, t.place.index))
      (G := fun l' => ∀ r ∈ round t, Covered left r.place l')
      (F := fun l' => (round t).foldl (fun loop r => upTo round greedy left r loop) l')
      bounded_stable
      (fun l₁ l₂ hbegun hexits h r hr =>
        covered_stable left r.place l₁ l₂ hbegun hexits (h r hr))
      (fun l' _ => hrounds l')
    have hmark : (left + 1, t.place.index) ∈ (l.begin (left + 1, t.place.index)).begun := by
      simp [begin]
    refine ⟨hgrows.begun _ hmark, fun k hk => hgrows.begun k ?_, hgrows.exits, fun k hk hknot => ?_⟩
    · simp [begin, hk]
    · by_cases hkt : k = (left + 1, t.place.index)
      · subst hkt
        intro n p hkey hp
        obtain ⟨rfl, hindex⟩ : left = n ∧ t.place.index = p.index := by simpa using hkey
        obtain rfl := ht.eq hp hindex
        refine ⟨hexit, fun q hq => ?_⟩
        obtain ⟨r, hr, rfl⟩ := mem_places.mp ((hround.mem t ht q).mpr hq)
        exact hcovered r hr
      · refine hgrows.done k hk ?_
        simp only [begin, Std.HashSet.mem_insert, beq_iff_eq, not_or]
        exact ⟨fun h => hkt h.symm, hknot⟩

theorem exits_upTo {P : Place → Prop} (hround : LeadsBy text round R) (l : Loop (Nat × Nat))
    (ht : t.place.In text) (hP : ∀ n q, n ≤ left → Rounds R n t.place q → P q)
    (hl : Exits P l) : Exits P (upTo round greedy left t l) := by
  induction left generalizing t l with
  | zero => exact hl.exit (hP 0 _ (Nat.le_refl _) rfl)
  | succ left ih =>
    rw [upTo]
    split
    · exact hl
    refine Exits.enter (l := l.begin (left + 1, t.place.index))
      (F := fun l' => (round t).foldl (fun loop r => upTo round greedy left r loop) l')
      hl (hP 0 _ (Nat.zero_le _) rfl) fun l' hl' => hl'.foldl fun r hr l'' hl'' => ?_
    have hR : R t.place r.place := (hround.mem t ht _).mp (mem_places.mpr ⟨r, hr, rfl⟩)
    exact ih l'' (hround.forward _ _ ht hR).1
      (fun n q hn hrounds => hP (n + 1) q (Nat.succ_le_succ hn) ⟨r.place, hR, hrounds⟩) hl''

/-- Where at most so many rounds from a place lead is an exit, if every mark is bounded. -/
theorem exits_of_covered {l : Loop (Nat × Nat)} {n : Nat} (hforward : Forward text R)
    (h : ∀ k ∈ l.begun, Bounded text R k l) (hp : p.In text) (hcovered : Covered left p l)
    (hle : n ≤ left) (hn : Rounds R n p q) : q ∈ places l.exits := by
  induction n generalizing p left with
  | zero =>
    obtain rfl : p = q := hn
    cases left with
    | zero => exact hcovered
    | succ left => exact (h _ hcovered left p rfl hp).1
  | succ n ih =>
    obtain ⟨m, hm, hrest⟩ := hn
    obtain ⟨left, rfl⟩ : ∃ k, left = k + 1 := ⟨left - 1, by omega⟩
    exact ih (hforward p m hp hm).1 ((h _ hcovered left p rfl hp).2 m hm) (by omega) hrest

end Loop

section

variable {text : List Char} {round : Thread → List Thread} {R : Place → Place → Prop}
  {greedy : Bool} {ts : List Thread} {q : Place}

open Loop

theorem mem_places_plus (hround : LeadsBy text round R) (hts : ∀ p ∈ places ts, p.In text) :
    q ∈ places (plus round greedy ts) ↔ ∃ p ∈ places ts, ∃ n, Rounds R (n + 1) p q := by
  have hin : ∀ t ∈ ts, t.place.In text := fun t ht => hts _ (mem_places.mpr ⟨t, ht, rfl⟩)
  have hsound : Exits (fun q => ∃ p ∈ places ts, ∃ n, Rounds R (n + 1) p q)
      (ts.foldl (fun loop t => many round greedy t.fuel t loop) .none) := by
    refine exits_none.foldl fun t ht l hl => exits_many hround _ _ (hin t ht) ?_ hl
    exact fun n q hn => ⟨t.place, mem_places.mpr ⟨t, ht, rfl⟩, n, hn⟩
  obtain ⟨hmarks, hgrows⟩ := Grows.foldl (l := .none)
    (f := fun loop t => many round greedy t.fuel t loop)
    (G := fun t l => t.place.index ∈ l.begun) ts followedUp_stable
    (fun t => marked_stable t.place.index)
    (fun l' _ t ht => many_grows hround t.fuel l' (hin t ht) (.inr (by simp [Thread.fuel])))
  have hexits := hsound.imp (Q := Place.In text) fun q ⟨p, hp, n, hn⟩ =>
    (hround.forward.rounds (n + 1) p q (hts p hp) hn).1
  rw [plus, mem_places_threads hexits]
  refine ⟨hsound q, ?_⟩
  rintro ⟨p, hp, n, hn⟩
  obtain ⟨t, ht, rfl⟩ := mem_places.mp hp
  exact exits_of_rounds hround.forward
    (fun k hk => hgrows.done k hk (not_mem_begun_none k)) n (hin t ht) (hmarks t ht) hn

theorem mem_places_star (hround : LeadsBy text round R) (hts : ∀ p ∈ places ts, p.In text) :
    q ∈ places (star round greedy ts) ↔ ∃ p ∈ places ts, ∃ n, Rounds R n p q := by
  have hin : ∀ t ∈ ts, t.place.In text := fun t ht => hts _ (mem_places.mpr ⟨t, ht, rfl⟩)
  have hsound : Exits (fun q => ∃ p ∈ places ts, ∃ n, Rounds R n p q)
      (ts.foldl (fun loop t => if greedy then (many round greedy t.fuel t loop).exit t
        else many round greedy t.fuel t (loop.exit t)) .none) := by
    refine exits_none.foldl fun t ht l hl => hl.enter ?_ fun l' hl' =>
      exits_many hround _ _ (hin t ht) ?_ hl'
    · exact ⟨t.place, mem_places.mpr ⟨t, ht, rfl⟩, 0, rfl⟩
    · exact fun n q hn => ⟨t.place, mem_places.mpr ⟨t, ht, rfl⟩, n + 1, hn⟩
  obtain ⟨hentered, hgrows⟩ := Grows.foldl (l := .none) (G := Entered)
    (f := fun loop t => if greedy then (many round greedy t.fuel t loop).exit t
      else many round greedy t.fuel t (loop.exit t)) ts followedUp_stable entered_stable
    (fun l' _ t ht => enter_grows _ _ followedUp_stable (marked_stable _) fun l'' _ =>
      many_grows hround t.fuel l'' (hin t ht) (.inr (by simp [Thread.fuel])))
  have hexits := hsound.imp (Q := Place.In text) fun q ⟨p, hp, n, hn⟩ =>
    (hround.forward.rounds n p q (hts p hp) hn).1
  rw [star, mem_places_threads hexits]
  refine ⟨hsound q, ?_⟩
  rintro ⟨p, hp, n, hn⟩
  obtain ⟨t, ht, rfl⟩ := mem_places.mp hp
  cases n with
  | zero =>
    cases hn
    exact (hentered t ht).1
  | succ n =>
    exact exits_of_rounds hround.forward
      (fun k hk => hgrows.done k hk (not_mem_begun_none k)) n (hin t ht) (hentered t ht).2 hn

theorem mem_places_atMost {most : Nat} (hround : LeadsBy text round R)
    (hts : ∀ p ∈ places ts, p.In text) :
    q ∈ places (atMost round greedy most ts) ↔
      ∃ p ∈ places ts, ∃ n, n ≤ most ∧ Rounds R n p q := by
  have hin : ∀ t ∈ ts, t.place.In text := fun t ht => hts _ (mem_places.mpr ⟨t, ht, rfl⟩)
  have hsound : Exits (fun q => ∃ p ∈ places ts, ∃ n, n ≤ most ∧ Rounds R n p q)
      (ts.foldl (fun loop t => upTo round greedy most t loop) .none) := by
    refine exits_none.foldl fun t ht l hl => exits_upTo hround _ (hin t ht) ?_ hl
    exact fun n q hle hn => ⟨t.place, mem_places.mpr ⟨t, ht, rfl⟩, n, hle, hn⟩
  obtain ⟨hcovered, hgrows⟩ := Grows.foldl (l := .none)
    (f := fun loop t => upTo round greedy most t loop)
    (G := fun t => Covered most t.place) ts bounded_stable
    (fun t => covered_stable most t.place) (fun l' _ t ht => upTo_grows hround l' (hin t ht))
  have hexits := hsound.imp (Q := Place.In text) fun q ⟨p, hp, n, _, hn⟩ =>
    (hround.forward.rounds n p q (hts p hp) hn).1
  rw [atMost, mem_places_threads hexits]
  refine ⟨hsound q, ?_⟩
  rintro ⟨p, hp, n, hle, hn⟩
  obtain ⟨t, ht, rfl⟩ := mem_places.mp hp
  exact exits_of_covered hround.forward
    (fun k hk => hgrows.done k hk (not_mem_begun_none k)) (hin t ht) (hcovered t ht) hle hn

end

-- --------------------------------------------------------------------
-- Expressions and searches
-- --------------------------------------------------------------------

section

variable {text : List Char} {ts : List Thread} {q : Place}

theorem mem_places_repeat {run : List Thread → List Thread} {R : Place → Place → Prop}
    (hforward : Forward text R)
    (hrun : ∀ ts, (∀ p ∈ places ts, p.In text) →
      ∀ q, q ∈ places (run ts) ↔ ∃ p ∈ places ts, R p q)
    (hts : ∀ p ∈ places ts, p.In text) (n : Nat) :
    q ∈ places (Nat.repeat run n ts) ↔ ∃ p ∈ places ts, Rounds R n p q := by
  induction n generalizing q with
  | zero => simp [Nat.repeat, Rounds]
  | succ n ih =>
    have hin : ∀ p ∈ places (Nat.repeat run n ts), p.In text := by
      intro p hp
      obtain ⟨o, ho, hn⟩ := ih.mp hp
      exact (hforward.rounds n o p (hts o ho) hn).1
    rw [Nat.repeat, hrun _ hin]
    simp only [ih, rounds_add, rounds_one]
    constructor
    · rintro ⟨m, ⟨p, hp, hm⟩, hq⟩
      exact ⟨p, hp, m, hm, hq⟩
    · rintro ⟨p, hp, m, hm, hq⟩
      exact ⟨m, ⟨p, hp, hm⟩, hq⟩

theorem mem_places_take? (s : Unicode.CharSet) :
    q ∈ places (ts.filterMap (Thread.take? s)) ↔ ∃ p ∈ places ts, (Node.set s).Reach p q := by
  have htake : ∀ t : Thread, (∃ u, t.take? s = some u ∧ u.place = q) ↔
      (Node.set s).Reach t.place q := by
    intro t
    constructor
    · rintro ⟨u, hu, rfl⟩
      rw [Thread.take?] at hu
      split at hu
      · next c place hnext =>
        split at hu
        · next hc =>
          cases hu
          exact ⟨c, hnext, hc⟩
        · cases hu
      · cases hu
    · rintro ⟨c, hnext, hc⟩
      exact ⟨{ t with place := q }, by simp [Thread.take?, hnext, hc], rfl⟩
  simp only [places, List.map_filterMap, List.mem_filterMap, List.mem_map,
    Option.map_eq_some_iff, htake]
  constructor
  · rintro ⟨t, ht, h⟩
    exact ⟨_, ⟨t, ht, rfl⟩, h⟩
  · rintro ⟨_, ⟨t, ht, rfl⟩, h⟩
    exact ⟨t, ht, h⟩

/-- The threads that an expression gives are where it leads to. -/
theorem mem_places_run (n : Node) (hts : ∀ p ∈ places ts, p.In text) :
    q ∈ places (n.run ts) ↔ ∃ p ∈ places ts, n.Reach p q := by
  induction n generalizing ts q with
  | empty => simp [Node.run, Node.Reach]
  | set s => exact mem_places_take? s
  | look l =>
    rw [Node.run, Node.Reach]
    simp only [mem_places, List.mem_filter]
    constructor
    · rintro ⟨t, ⟨ht, hl⟩, rfl⟩
      exact ⟨_, ⟨t, ht, rfl⟩, rfl, hl⟩
    · rintro ⟨_, ⟨t, ht, rfl⟩, rfl, hl⟩
      exact ⟨t, ⟨ht, hl⟩, rfl⟩
  | group index body ih =>
    have hopen : places (ts.map Thread.open_) = places ts := places_map fun _ => rfl
    rw [Node.run, places_map (place_close index), ih (by rwa [hopen]), hopen]
    rfl
  | cat first second ih₁ ih₂ =>
    have hmid : ∀ m ∈ places (first.run ts), m.In text := by
      intro m hm
      obtain ⟨p, hp, hreach⟩ := (ih₁ hts).mp hm
      exact (first.reach_forward text p m (hts p hp) hreach).1
    rw [Node.run, ih₂ hmid]
    simp only [ih₁ hts, Node.Reach]
    constructor
    · rintro ⟨m, ⟨p, hp, hm⟩, hq⟩
      exact ⟨p, hp, m, hm, hq⟩
    · rintro ⟨p, hp, m, hm, hq⟩
      exact ⟨m, ⟨p, hp, hm⟩, hq⟩
  | alt first second ih₁ ih₂ =>
    have hranked : ∀ p ∈ places (Thread.rankFrom 0 ts), p.In text := by
      rwa [places_rankFrom]
    have hin : ∀ n : Node, (∀ q, q ∈ places (n.run (Thread.rankFrom 0 ts)) ↔
        ∃ p ∈ places (Thread.rankFrom 0 ts), n.Reach p q) →
        ∀ q ∈ places (n.run (Thread.rankFrom 0 ts)), q.In text := by
      intro n ih q hq
      obtain ⟨p, hp, hreach⟩ := (ih q).mp hq
      exact (n.reach_forward text p q (hranked p hp) hreach).1
    rw [Node.run, mem_places_mergeRanks (hin first fun _ => ih₁ hranked)
      (hin second fun _ => ih₂ hranked), ih₁ hranked, ih₂ hranked, places_rankFrom]
    simp only [Node.Reach, and_or_left, exists_or]
  | rep least most greedy body ih =>
    have hforward : Forward text body.Reach := body.reach_forward text
    have hround : LeadsBy text (fun t => body.run [t]) body.Reach := by
      refine ⟨hforward, fun t ht q => ?_⟩
      rw [ih (by simpa using ht)]
      simp
    have hrepeat : ∀ n q, q ∈ places (Nat.repeat body.run n ts) ↔
        ∃ p ∈ places ts, Rounds body.Reach n p q :=
      fun n q => mem_places_repeat hforward (fun ts hts q => ih hts) hts n
    have hin : ∀ n, ∀ p ∈ places (Nat.repeat body.run n ts), p.In text := by
      intro n q hq
      obtain ⟨p, hp, hn⟩ := (hrepeat n q).mp hq
      exact (hforward.rounds n p q (hts p hp) hn).1
    -- The rounds that are due come first, and those that may follow after them.
    cases most with
    | some most =>
      rw [Node.run, mem_places_atMost hround (hin least)]
      simp only [hrepeat, Node.Reach]
      constructor
      · rintro ⟨m, ⟨p, hp, hm⟩, n, hle, hn⟩
        refine ⟨p, hp, least + n, by omega, ?_, rounds_add.mpr ⟨m, hm, hn⟩⟩
        rintro _ ⟨⟩
        omega
      · rintro ⟨p, hp, n, hleast, hmost, hn⟩
        obtain ⟨more, rfl⟩ := Nat.exists_eq_add_of_le hleast
        obtain ⟨m, hm, hmore⟩ := rounds_add.mp hn
        have hle := hmost most rfl
        exact ⟨m, ⟨p, hp, hm⟩, more, by omega, hmore⟩
    | none =>
      cases least with
      | zero =>
        rw [Node.run, mem_places_star hround hts]
        simp [Node.Reach]
      | succ least =>
        rw [Node.run, mem_places_plus hround (hin least)]
        simp only [hrepeat, Node.Reach]
        constructor
        · rintro ⟨m, ⟨p, hp, hm⟩, n, hn⟩
          exact ⟨p, hp, least + (n + 1), by omega, nofun, rounds_add.mpr ⟨m, hm, hn⟩⟩
        · rintro ⟨p, hp, n, hleast, -, hn⟩
          obtain ⟨more, rfl⟩ := Nat.exists_eq_add_of_le hleast
          rw [show least + 1 + more = least + (more + 1) by omega] at hn
          obtain ⟨m, hm, hmore⟩ := rounds_add.mp hn
          exact ⟨m, ⟨p, hp, hm⟩, more, hmore⟩

/-- A pattern is found in a text if it leads from one place of the text to another. -/
theorem isMatch_iff {r : Regex} {s : String} :
    r.isMatch s = true ↔ ∃ p q, p.In s.toList ∧ r.root.Reach p q := by
  have hstarts : places ((Place.all 0 [] s.toList).map Thread.start) = Place.all 0 [] s.toList := by
    rw [places, List.map_map]
    exact List.map_id _
  have hin : ∀ p ∈ places ((Place.all 0 [] s.toList).map Thread.start), p.In s.toList := by
    rw [hstarts]
    exact fun p hp => Place.mem_all.mp hp
  have hsome : r.isMatch s = true ↔
      ∃ q, q ∈ places ((Node.group 0 r.root).run ((Place.all 0 [] s.toList).map Thread.start)) := by
    rw [isMatch, captures?]
    cases (Node.group 0 r.root).run ((Place.all 0 [] s.toList).map Thread.start) with
    | nil => simp
    | cons t rest => simp
  rw [hsome]
  simp only [mem_places_run _ hin, hstarts, Place.mem_all, Node.Reach]
  exact exists_comm.trans (by simp only [exists_and_left])

end

end PageRecords.Regex
