import Mathlib.Data.List.Induction
import PageRecords.Url.Forced

/-!
# What forcing makes of a list of pairs

Forcing works through the required pairs one after the other, each on the list that the
one before it left. Main statement: `foldl_force`, which gives the result in one pass over
the list that it began with.
-/

namespace PageRecords.Url.Form.Pairs

-- --------------------------------------------------------------------
-- The result in one pass
-- --------------------------------------------------------------------

/-- The value that a name is forced to: the required one, if the first pair of the name
has another. -/
def forcedValue? (ps required : Pairs) (name : String) : Option String :=
  (required.lookup name).filter fun value => (ps.lookup name).any (· ≠ value)

/-- The pairs in order. Of a forced name only the first pair stays, with the value that
it is forced to; the names in `seen` have had theirs. -/
def forceNames (forced : String → Option String) (seen : List String) : Pairs → Pairs
  | [] => []
  | p :: rest =>
    match forced p.1 with
    | none => p :: forceNames forced seen rest
    | some value =>
      if p.1 ∈ seen then forceNames forced seen rest
      else (p.1, value) :: forceNames forced (p.1 :: seen) rest

/-- The required pairs whose names do not occur, in their order. -/
def missing (ps required : Pairs) : Pairs := required.filter fun q => q.1 ∉ ps.map (·.1)

/-- The pairs with the forced names collapsed, then the required pairs that were missing. -/
def settled (ps required : Pairs) : Pairs :=
  forceNames (forcedValue? ps required) [] ps ++ missing ps required

-- --------------------------------------------------------------------
-- First pairs
-- --------------------------------------------------------------------

variable {ps required more : Pairs} {p q : String × String} {name : String}

theorem lookup_cons_eq (p : String × String) (ps : Pairs) (name : String) :
    (p :: ps).lookup name = if p.1 = name then some p.2 else ps.lookup name := by
  obtain ⟨n, v⟩ := p
  by_cases h : n = name
  · subst h
    rw [List.lookup_cons_self, if_pos rfl]
  · have hne : (name == n) = false := beq_false_of_ne fun heq => h heq.symm
    rw [List.lookup_cons, hne, if_neg h]

theorem lookup_eq_none : ps.lookup name = none ↔ name ∉ ps.map (·.1) := by
  rw [List.lookup_eq_none_iff, List.mem_map, not_exists]
  refine forall_congr' fun p => ?_
  rw [bne_iff_ne, not_and]
  exact imp_congr_right fun _ => not_congr eq_comm

/-- Where no name repeats, every pair is the first of its name. -/
theorem lookup_of_mem (hnodup : (ps.map (·.1)).Nodup) (h : q ∈ ps) :
    ps.lookup q.1 = some q.2 := by
  obtain ⟨before, after, rfl⟩ := List.append_of_mem h
  refine List.lookup_eq_some_iff.mpr ⟨before, after, rfl, fun p hp => bne_iff_ne.mpr ?_⟩
  rw [List.map_append, List.map_cons] at hnodup
  have hdisjoint := (List.nodup_append.mp hnodup).2.2
  exact fun heq => hdisjoint p.1 (List.mem_map_of_mem hp) q.1 List.mem_cons_self heq.symm

theorem carries_iff : ps.carries q = true ↔ ps.lookup q.1 = some q.2 := by
  simp [carries]

-- --------------------------------------------------------------------
-- Which names are forced
-- --------------------------------------------------------------------

theorem forcedValue?_of_not_mem (h : name ∉ required.map (·.1)) :
    forcedValue? ps required name = none := by
  rw [forcedValue?, lookup_eq_none.mpr h]
  rfl

/-- A further required pair says nothing of other names. -/
theorem forcedValue?_append_of_ne (h : name ≠ q.1) :
    forcedValue? ps (required ++ [q]) name = forcedValue? ps required name := by
  have hlast : ([q] : Pairs).lookup name = none := lookup_eq_none.mpr (by simpa using h)
  rw [forcedValue?, forcedValue?, List.lookup_append, hlast, Option.or_none]

theorem forcedValue?_append_self (h : q.1 ∉ required.map (·.1)) :
    forcedValue? ps (required ++ [q]) q.1 =
      if (ps.lookup q.1).any (· ≠ q.2) then some q.2 else none := by
  have hlast : ([q] : Pairs).lookup q.1 = some q.2 := List.lookup_cons_self
  rw [forcedValue?, List.lookup_append, lookup_eq_none.mpr h, hlast, Option.none_or,
    Option.filter_some]

/-- A required pair that is carried, or whose name does not occur, forces no name. -/
theorem forcedValue?_append (hnot : q.1 ∉ required.map (·.1))
    (h : ps.lookup q.1 = none ∨ ps.lookup q.1 = some q.2) :
    forcedValue? ps (required ++ [q]) = forcedValue? ps required := by
  funext name
  by_cases hname : name = q.1
  · subst hname
    rw [forcedValue?_append_self hnot, forcedValue?_of_not_mem hnot]
    rcases h with h | h <;> simp [h]
  · exact forcedValue?_append_of_ne hname

-- --------------------------------------------------------------------
-- Forced names in order
-- --------------------------------------------------------------------

variable {forced forced' : String → Option String} {seen seen' : List String}

theorem lookup_forceNames (h : name ∉ seen) :
    (forceNames forced seen ps).lookup name =
      (ps.lookup name).map fun own => (forced name).getD own := by
  induction ps generalizing seen with
  | nil => rfl
  | cons p rest ih =>
    rw [forceNames, lookup_cons_eq p rest]
    split
    · next hnone =>
      rw [lookup_cons_eq, ih h]
      split
      · next hname => rw [← hname, hnone, Option.map_some, Option.getD_none]
      · rfl
    · next value hvalue =>
      split
      · next hseen =>
        have hname : ¬p.1 = name := fun heq => h (heq ▸ hseen)
        rw [if_neg hname, ih h]
      · rw [lookup_cons_eq]
        split
        · next hname => rw [← hname, hvalue, Option.map_some, Option.getD_some]
        · next hname =>
          exact ih (by simp [h, Ne.symm hname])

theorem forceNames_none : forceNames (fun _ => none) seen ps = ps := by
  induction ps with
  | nil => rfl
  | cons p rest ih => rw [forceNames, ih]

/-- Forcing one name more takes away its later pairs. -/
theorem filter_forceNames (hnone : forced q.1 = none) (hsome : forced' q.1 = some q.2)
    (hother : ∀ n, n ≠ q.1 → forced' n = forced n) (hq : q.1 ∈ seen')
    (hseen : ∀ n, n ≠ q.1 → (n ∈ seen' ↔ n ∈ seen)) :
    (forceNames forced seen ps).filter (·.1 ≠ q.1) = forceNames forced' seen' ps := by
  induction ps generalizing seen seen' with
  | nil => rfl
  | cons p rest ih =>
    rw [forceNames, forceNames]
    by_cases hname : p.1 = q.1
    · rw [hname, hnone, hsome]
      dsimp only
      rw [if_pos hq, List.filter_cons_of_neg (by simpa using hname), ih hq hseen]
    · rw [hother p.1 hname]
      split
      · rw [List.filter_cons_of_pos (by simpa using hname), ih hq hseen]
      · simp only [hseen p.1 hname]
        split
        · exact ih hq hseen
        · rw [List.filter_cons_of_pos (by simpa using hname)]
          refine congrArg _ (ih (List.mem_cons_of_mem _ hq) fun n hn => ?_)
          rw [List.mem_cons, List.mem_cons, hseen n hn]

/-- Giving a name its value in the result is forcing that name too. -/
theorem put_forceNames (hnone : forced q.1 = none) (hsome : forced' q.1 = some q.2)
    (hother : ∀ n, n ≠ q.1 → forced' n = forced n) (hseen : q.1 ∉ seen)
    (hmem : q.1 ∈ ps.map (·.1)) (hmore : q.1 ∉ more.map (·.1)) :
    put q (forceNames forced seen ps ++ more) = forceNames forced' seen ps ++ more := by
  induction ps generalizing seen with
  | nil => cases hmem
  | cons p rest ih =>
    rw [forceNames, forceNames]
    by_cases hname : p.1 = q.1
    · have hkeep : more.filter (·.1 ≠ q.1) = more :=
        List.filter_eq_self.mpr fun p hp =>
          decide_eq_true fun heq => hmore (heq ▸ List.mem_map_of_mem hp)
      rw [hname, hnone, hsome]
      dsimp only
      rw [if_neg hseen, List.cons_append, put, if_pos hname, List.filter_append, hkeep,
        filter_forceNames hnone hsome hother List.mem_cons_self]
      · rfl
      · intro n hn
        rw [List.mem_cons, or_iff_right hn]
    · have hrest : q.1 ∈ rest.map (·.1) :=
        (List.mem_cons.mp hmem).resolve_left fun heq => hname heq.symm
      rw [hother p.1 hname]
      split
      · rw [List.cons_append, put, if_neg hname, ih hseen hrest, List.cons_append]
      · split
        · exact ih hseen hrest
        · have hseen' : q.1 ∉ p.1 :: seen := by simp [hseen, Ne.symm hname]
          rw [List.cons_append, put, if_neg hname, ih hseen' hrest, List.cons_append]

theorem put_of_not_mem (h : q.1 ∉ ps.map (·.1)) : put q ps = ps ++ [q] := by
  induction ps with
  | nil => rfl
  | cons p rest ih =>
    rw [List.map_cons, List.mem_cons, not_or] at h
    obtain ⟨hname, hrest⟩ := h
    rw [put, if_neg fun heq => hname heq.symm, ih hrest, List.cons_append]

-- --------------------------------------------------------------------
-- One required pair, and all of them
-- --------------------------------------------------------------------

theorem missing_append : missing ps (required ++ [q]) =
    missing ps required ++ if q.1 ∈ ps.map (·.1) then [] else [q] := by
  rw [missing, missing, List.filter_append]
  congr 1
  by_cases h : q.1 ∈ ps.map (·.1) <;> simp only [List.filter_cons, List.filter_nil, h] <;> simp

theorem not_mem_missing (h : q.1 ∉ required.map (·.1)) :
    q.1 ∉ (missing ps required).map (·.1) := by
  intro hmem
  obtain ⟨p, hp, heq⟩ := List.mem_map.mp hmem
  exact h (heq ▸ List.mem_map_of_mem (List.mem_filter.mp hp).1)

/-- The first pair of a name that is not required is what it was. -/
theorem lookup_settled_of_not_mem (h : q.1 ∉ required.map (·.1)) :
    (settled ps required).lookup q.1 = ps.lookup q.1 := by
  rw [settled, List.lookup_append, lookup_forceNames List.not_mem_nil,
    forcedValue?_of_not_mem h, lookup_eq_none.mpr (not_mem_missing h), Option.or_none]
  simp

theorem force_settled (h : q.1 ∉ required.map (·.1)) :
    force (settled ps required) q = settled ps (required ++ [q]) := by
  have hcarries : (settled ps required).carries q = ps.carries q := by
    rw [carries, lookup_settled_of_not_mem h, carries]
  rw [force, hcarries]
  cases hlookup : ps.lookup q.1 with
  | none =>
    have hnot : q.1 ∉ ps.map (·.1) := lookup_eq_none.mp hlookup
    have hsettled : q.1 ∉ (settled ps required).map (·.1) :=
      lookup_eq_none.mp ((lookup_settled_of_not_mem h).trans hlookup)
    have hcarry : ¬ps.carries q = true := by
      rw [carries_iff, hlookup]
      exact nofun
    rw [if_neg hcarry, put_of_not_mem hsettled, settled, settled, missing_append, if_neg hnot,
      forcedValue?_append h (.inl hlookup), List.append_assoc]
  | some own =>
    have hmem : q.1 ∈ ps.map (·.1) := by
      refine Classical.not_not.mp fun hnot => ?_
      rw [lookup_eq_none.mpr hnot] at hlookup
      cases hlookup
    rw [settled, settled, missing_append, if_pos hmem, List.append_nil]
    by_cases hown : own = q.2
    · rw [hown] at hlookup
      rw [if_pos (carries_iff.mpr hlookup), forcedValue?_append h (.inr hlookup)]
    · have hcarry : ¬ps.carries q = true := by
        rw [carries_iff, hlookup]
        exact fun heq => hown (Option.some.inj heq)
      rw [if_neg hcarry]
      refine put_forceNames (forcedValue?_of_not_mem h) ?_
        (fun n hn => forcedValue?_append_of_ne hn) List.not_mem_nil hmem (not_mem_missing h)
      rw [forcedValue?_append_self h, hlookup]
      simp [hown]

/-- Forcing pairs of different names one after the other settles all of them at once. -/
theorem foldl_force (h : (required.map (·.1)).Nodup) :
    required.foldl force ps = settled ps required := by
  induction required using List.reverseRecOn with
  | nil =>
    have hforced : forcedValue? ps [] = fun _ => none := rfl
    rw [settled, hforced, forceNames_none]
    exact (List.append_nil ps).symm
  | append_singleton required q ih =>
    rw [List.map_append, List.nodup_append] at h
    obtain ⟨hnodup, -, hdisjoint⟩ := h
    have hnot : q.1 ∉ required.map (·.1) :=
      fun hmem => hdisjoint _ hmem q.1 List.mem_cons_self rfl
    rw [List.foldl_append, ih hnodup, List.foldl_cons, List.foldl_nil, force_settled hnot]

theorem lookup_settled (hnodup : (required.map (·.1)).Nodup) (h : q ∈ required) :
    (settled ps required).lookup q.1 = some q.2 := by
  have hrequired : required.lookup q.1 = some q.2 := lookup_of_mem hnodup h
  rw [settled, List.lookup_append, lookup_forceNames List.not_mem_nil, forcedValue?, hrequired]
  cases hlookup : ps.lookup q.1 with
  | none =>
    have hnot : q.1 ∉ ps.map (·.1) := lookup_eq_none.mp hlookup
    rw [Option.map_none, Option.none_or]
    refine lookup_of_mem (hnodup.sublist (List.Sublist.map _ List.filter_sublist)) ?_
    exact List.mem_filter.mpr ⟨h, decide_eq_true hnot⟩
  | some own =>
    by_cases hown : own = q.2
    · simp [hown, Option.filter_some]
    · simp [hown, Option.filter_some]

end PageRecords.Url.Form.Pairs
