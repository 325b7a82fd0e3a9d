import PageRecords.Extract.Record
import PageRecords.Proofs.Names

/-!
# Laws of records

What a record holds after insertions: each name once, where it first came, with the
values that came last. So inserting a record that was itself made by insertions is the
same as inserting what it was made of: `Record.insertAll_insertAll`.
-/

namespace PageRecords.Record

variable {name other : String} {values : List Value}

@[simp] theorem entries_insert (r : Record) (name : String) (values : List Value) :
    (r.insert name values).entries = insert.go name values r.entries := rfl

@[simp] theorem insertAll_nil (r : Record) : r.insertAll [] = r := rfl

@[simp] theorem insertAll_cons (r : Record) (entry : String × List Value)
    (entries : List (String × List Value)) :
    r.insertAll (entry :: entries) = (r.insert entry.1 entry.2).insertAll entries := rfl

theorem insertAll_append (r : Record) (xs ys : List (String × List Value)) :
    r.insertAll (xs ++ ys) = (r.insertAll xs).insertAll ys :=
  List.foldl_append

-- --------------------------------------------------------------------
-- One insertion
-- --------------------------------------------------------------------

theorem lookup_go (entries : List (String × List Value)) :
    (insert.go name values entries).lookup other =
      if other = name then some values else entries.lookup other := by
  induction entries with
  | nil => exact lookup_cons_if (name, values) [] other
  | cons entry rest ih =>
    obtain ⟨n, vs⟩ := entry
    by_cases hn : n = name
    · subst hn
      simp only [insert.go, if_true, lookup_cons_if]
      split <;> rfl
    · simp only [insert.go, hn, if_false, lookup_cons_if, ih]
      by_cases ho : other = n <;> simp [ho, hn]

theorem get?_insert (r : Record) :
    (r.insert name values).get? other = if other = name then some values else r.get? other :=
  lookup_go r.entries

theorem map_fst_go (entries : List (String × List Value)) :
    (insert.go name values entries).map (·.1) =
      if name ∈ entries.map (·.1) then entries.map (·.1) else entries.map (·.1) ++ [name] := by
  induction entries with
  | nil => simp [insert.go]
  | cons entry rest ih =>
    obtain ⟨n, vs⟩ := entry
    by_cases hn : n = name
    · simp [insert.go, hn]
    · have hne : ¬name = n := fun h => hn h.symm
      simp only [insert.go, hn, if_false, List.map_cons, ih, List.mem_cons, hne, false_or]
      split <;> rfl

theorem names_insert (r : Record) :
    (r.insert name values).names = if name ∈ r.names then r.names else r.names ++ [name] :=
  map_fst_go r.entries

theorem insert_insert (r : Record) (first last : List Value) :
    (r.insert name first).insert name last = r.insert name last := by
  obtain ⟨entries⟩ := r
  simp only [insert, mk.injEq]
  induction entries with
  | nil => simp [insert.go]
  | cons entry rest ih =>
    obtain ⟨n, vs⟩ := entry
    by_cases hn : n = name
    · simp [insert.go, hn]
    · simp [insert.go, hn, ih]

/-- A name that has its position already can be stored before or after another. -/
theorem insert_comm (r : Record) (hname : name ∈ r.names) (hne : other ≠ name)
    (theirs : List Value) :
    (r.insert other theirs).insert name values = (r.insert name values).insert other theirs := by
  obtain ⟨entries⟩ := r
  simp only [insert, mk.injEq]
  induction entries with
  | nil => simp [names] at hname
  | cons entry rest ih =>
    obtain ⟨n, vs⟩ := entry
    by_cases hn : n = name
    · subst hn
      simp [insert.go, hne.symm]
    · have hrest : name ∈ names ⟨rest⟩ :=
        (List.mem_cons.mp hname).resolve_left fun h => hn h.symm
      by_cases ho : n = other
      · subst ho
        simp [insert.go, hn]
      · simp [insert.go, hn, ho, ih hrest]

-- --------------------------------------------------------------------
-- Many insertions
-- --------------------------------------------------------------------

theorem names_insertAll_empty (xs : List (String × List Value)) :
    (empty.insertAll xs).names = (xs.map (·.1)).eraseDups := by
  induction xs using List.reverseRecOn with
  | nil => rfl
  | append_singleton xs x ih =>
    rw [insertAll_append, insertAll_cons, insertAll_nil, names_insert, ih, List.map_append,
      List.map_singleton, eraseDups_concat]
    simp only [List.mem_eraseDups]

theorem nodup_names_insertAll_empty (xs : List (String × List Value)) :
    (empty.insertAll xs).names.Nodup := by
  rw [names_insertAll_empty]
  exact nodup_eraseDups _

theorem get?_insertAll (r : Record) (xs : List (String × List Value)) (name : String) :
    (r.insertAll xs).get? name = (xs.reverse.lookup name).or (r.get? name) := by
  induction xs using List.reverseRecOn with
  | nil => rfl
  | append_singleton xs x ih =>
    rw [insertAll_append, insertAll_cons, insertAll_nil, get?_insert, ih, List.reverse_append,
      List.reverse_singleton, List.singleton_append, lookup_cons_if]
    split <;> rfl

/-- A name that has its position can be stored before or after all others. -/
theorem insert_insertAll (r : Record) (hname : name ∈ r.names)
    (entries : List (String × List Value)) (hnot : name ∉ entries.map (·.1)) :
    (r.insertAll entries).insert name values = (r.insert name values).insertAll entries := by
  induction entries generalizing r with
  | nil => rfl
  | cons entry rest ih =>
    simp only [List.map_cons, List.mem_cons, not_or] at hnot
    obtain ⟨hne, hrest⟩ := hnot
    have hlater : name ∈ (r.insert entry.1 entry.2).names := by
      rw [names_insert]
      split
      · exact hname
      · exact List.mem_append_left _ hname
    rw [insertAll_cons, insertAll_cons, ih _ hlater hrest, insert_comm r hname (Ne.symm hne)]

theorem insertAll_insert (r s : Record) (hs : s.names.Nodup) :
    r.insertAll (s.insert name values).entries = (r.insertAll s.entries).insert name values := by
  obtain ⟨entries⟩ := s
  rw [entries_insert]
  dsimp only
  induction entries generalizing r with
  | nil => rfl
  | cons entry rest ih =>
    obtain ⟨n, vs⟩ := entry
    obtain ⟨hnot, hnodup⟩ := List.nodup_cons.mp hs
    by_cases hn : n = name
    · -- The name has its position by now, so its new values can go in ahead of the rest.
      subst hn
      have hmem : n ∈ (r.insert n vs).names := by
        rw [names_insert]
        split
        · assumption
        · simp
      simp only [insert.go, if_true, insertAll_cons]
      rw [insert_insertAll _ hmem rest hnot, insert_insert]
    · simp only [insert.go, hn, if_false, insertAll_cons]
      exact ih _ hnodup

/-- Inserting what a record holds is inserting what it was made of. -/
theorem insertAll_insertAll (r : Record) (xs : List (String × List Value)) :
    r.insertAll (empty.insertAll xs).entries = r.insertAll xs := by
  induction xs using List.reverseRecOn with
  | nil => rfl
  | append_singleton xs x ih =>
    rw [insertAll_append, insertAll_append, insertAll_cons, insertAll_nil,
      insertAll_insert _ _ (nodup_names_insertAll_empty xs), ih, insertAll_cons, insertAll_nil]

end PageRecords.Record
