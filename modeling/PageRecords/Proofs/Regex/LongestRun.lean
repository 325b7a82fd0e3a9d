import PageRecords.Proofs.Regex.Groups

/-!
# The longest run of a set

A set repeated as often as possible, with nothing after it, takes at the first place of a text
all characters of the set that follow there: `captures?_star_set`. The rounds end where the run
does, and of the exits the one made first, by the innermost round, is the preferred one.
-/

namespace PageRecords.Regex

open Unicode (CharSet)

variable {s : CharSet} {p q : Place} {t r : Thread} {l : Loop Nat} {c : Char}

-- --------------------------------------------------------------------
-- Where a run ends
-- --------------------------------------------------------------------

/-- The place after the characters of a set that follow. -/
def Place.past (s : CharSet) (p : Place) : Place :=
  let run := p.after.takeWhile s.contains
  ⟨p.index + run.length, run.reverse ++ p.before, p.after.dropWhile s.contains⟩

theorem Place.past_of_next? (h : p.next? = some (c, q)) (hc : s.contains c = true) :
    p.past s = q.past s := by
  obtain ⟨hafter, hbefore, hindex⟩ := Place.next?_eq_some h
  simp only [past, hafter, hbefore, hindex, List.takeWhile_cons_of_pos hc,
    List.dropWhile_cons_of_pos hc, List.length_cons, List.reverse_cons, List.append_assoc,
    List.singleton_append, mk.injEq, and_true]
  omega

theorem Place.past_of_stop (h : p.after.takeWhile s.contains = []) : p.past s = p := by
  have hdrop := List.takeWhile_append_dropWhile (p := s.contains) (l := p.after)
  rw [h, List.nil_append] at hdrop
  rw [past, h, hdrop]
  rfl

theorem Thread.take?_eq_some (h : t.take? s = some r) :
    ∃ c q, t.place.next? = some (c, q) ∧ s.contains c = true ∧ r = { t with place := q } := by
  rw [take?] at h
  split at h
  · next c q hnext =>
    split at h
    · next hc =>
      cases h
      exact ⟨c, q, hnext, hc, rfl⟩
    · cases h
  · cases h

theorem Thread.takeWhile_of_take?_eq_none (h : t.take? s = none) :
    t.place.after.takeWhile s.contains = [] := by
  rw [take?, Place.next?] at h
  cases hafter : t.place.after with
  | nil => rfl
  | cons c rest =>
    rw [hafter] at h
    dsimp only at h
    split at h
    · cases h
    · next hc => exact List.takeWhile_cons_of_neg hc

-- --------------------------------------------------------------------
-- The first exit
-- --------------------------------------------------------------------

namespace Loop

/-- The exit made first, which is the preferred one. -/
def first? (l : Loop Nat) : Option Thread := l.exits.getLast?

theorem first?_exit_of_some {u : Thread} (h : l.first? = some u) : (l.exit t).first? = some u := by
  rw [first?] at h
  rw [first?, exit, List.getLast?_cons, h, Option.getD_some]

/-- Rounds add exits to those that there are. -/
theorem exits_suffix_many {round : Thread → List Thread} {greedy : Bool} (fuel : Nat) (t : Thread)
    (l : Loop Nat) : l.exits <:+ (many round greedy fuel t l).exits := by
  induction fuel generalizing t l with
  | zero => exact List.suffix_refl _
  | succ fuel ih =>
    rw [many]
    split
    · exact List.suffix_refl _
    · refine List.foldlRecOn (motive := fun l' : Loop Nat => l.exits <:+ l'.exits) _ _
        (List.suffix_refl _) ?_
      intro l' hl' r _
      cases greedy with
      | true => exact hl'.trans ((ih r l').trans (List.suffix_cons r _))
      | false => exact hl'.trans ((List.suffix_cons r _).trans (ih r (l'.exit r)))

theorem first?_many_of_some {round : Thread → List Thread} {greedy : Bool} {fuel : Nat}
    {u : Thread} (h : l.first? = some u) : (many round greedy fuel t l).first? = some u := by
  have hsuffix : l.exits <:+ (many round greedy fuel t l).exits := exits_suffix_many fuel t l
  obtain ⟨more, hmore⟩ := hsuffix
  rw [first?] at h
  rw [first?, ← hmore, List.getLast?_append, h, Option.some_or]

theorem head?_threads (l : Loop Nat) : l.threads.head? = l.first? := by
  rw [threads, Thread.distinct, first?, ← List.head?_reverse]
  cases l.exits.reverse with
  | nil => rfl
  | cons t rest => simp [Thread.distinctFrom]

/-- Rounds that each take a character of the set first make an exit of the place where none
follows. -/
theorem first?_many_set (fuel : Nat) (hexits : l.exits = [])
    (hbegun : ∀ k ∈ l.begun, k < t.place.index) (hfuel : t.place.after.length < fuel) :
    ((many (fun t => (Node.set s).run [t]) true fuel t l).exit t).first? =
      some { t with place := t.place.past s } := by
  induction fuel generalizing t l with
  | zero => exact absurd hfuel (Nat.not_lt_zero _)
  | succ fuel ih =>
    have hnot : l.begun.contains t.place.index = false := by
      rw [← Bool.not_eq_true, Std.HashSet.contains_iff_mem]
      exact fun hmem => Nat.lt_irrefl _ (hbegun _ hmem)
    rw [many, if_neg (by simp [hnot]), Node.run, List.filterMap_cons, List.filterMap_nil]
    cases htake : t.take? s with
    | none =>
      rw [Place.past_of_stop (Thread.takeWhile_of_take?_eq_none htake)]
      simp [first?, exit, begin, hexits]
    | some r =>
      obtain ⟨c, q, hnext, hc, rfl⟩ := Thread.take?_eq_some htake
      obtain ⟨hafter, -, hindex⟩ := Place.next?_eq_some hnext
      have hbegun' : ∀ k ∈ (l.begin t.place.index).begun, k < q.index := by
        intro k hk
        simp only [begin, Std.HashSet.mem_insert, beq_iff_eq] at hk
        rcases hk with rfl | hk
        · omega
        · have := hbegun k hk
          omega
      have hfuel' : q.after.length < fuel := by
        rw [hafter, List.length_cons] at hfuel
        omega
      simp only [List.foldl_cons, List.foldl_nil, if_true]
      rw [Place.past_of_next? hnext hc]
      exact first?_exit_of_some (ih (t := { t with place := q }) (l := l.begin t.place.index)
        hexits hbegun' hfuel')

end Loop

-- --------------------------------------------------------------------
-- The preferred match
-- --------------------------------------------------------------------

/-- Of the threads after any number of rounds the preferred one is the first thread's, at the
end of its run. -/
theorem head?_star_set (t : Thread) (rest : List Thread) :
    (star (fun t => (Node.set s).run [t]) true (t :: rest)).head? =
      some { t with place := t.place.past s } := by
  have hfirst := Loop.first?_many_set (s := s) (t := t) (l := .none) t.fuel rfl
    (fun k hk => absurd hk (Loop.not_mem_begun_none k)) (by rw [Thread.fuel]; omega)
  rw [star, Loop.head?_threads, List.foldl_cons]
  refine List.foldlRecOn
    (motive := fun l : Loop Nat => l.first? = some { t with place := t.place.past s }) _ _ hfirst ?_
  intro l hl u _
  exact Loop.first?_exit_of_some (Loop.first?_many_of_some hl)

/-- A set repeated as often as possible matches any text, from its start to the end of the run
there. -/
theorem captures?_star_set (source : String) (s : CharSet) (text : String) :
    Regex.captures? ⟨source, .rep 0 none true (.set s)⟩ text =
      some ⟨[(0, ⟨.start text.toList, (Place.start text.toList).past s⟩)]⟩ := by
  have hstarts : ∃ rest, Place.all 0 [] text.toList = .start text.toList :: rest := by
    cases text.toList with
    | nil => exact ⟨[], rfl⟩
    | cons c cs => exact ⟨_, rfl⟩
  obtain ⟨rest, hrest⟩ := hstarts
  have hhead := head?_star_set (s := s) (Thread.start (.start text.toList)).open_
    ((rest.map Thread.start).map Thread.open_)
  rw [captures?, hrest]
  simp only [Node.run, List.map_cons, List.head?_map]
  simp only [Node.run] at hhead
  rw [hhead]
  rfl

theorem Span.text_past (s : CharSet) (cs : List Char) :
    (Span.mk (.start cs) ((Place.start cs).past s)).text =
      String.ofList (cs.takeWhile s.contains) := by
  have hprefix := List.prefix_iff_eq_take.mp (List.takeWhile_prefix (l := cs) s.contains)
  simp only [Span.text, Place.past, Place.start, Nat.zero_add, Nat.sub_zero]
  rw [← hprefix]

end PageRecords.Regex
