import Mathlib.Data.List.Nodup
import PageRecords.Proofs.Names
import PageRecords.Registry.Basic

/-!
# What a registry holds

Whatever was registered with a registry, and in whatever order: each name stands once, where
it first came, with the document that came last. `Holds` says so of a registry and the
documents registered with it, and everything a registry can be asked follows from them.
-/

namespace PageRecords.Registry

variable {r s : Registry} {d : RuleDocument} {ds history : List RuleDocument} {n url : String}

-- --------------------------------------------------------------------
-- One registration
-- --------------------------------------------------------------------

theorem names_go (documents : List RuleDocument) :
    (register.go d documents).map (·.name) =
      if d.name ∈ documents.map (·.name) then documents.map (·.name)
      else documents.map (·.name) ++ [d.name] := by
  induction documents with
  | nil => simp [register.go]
  | cons e rest ih =>
    by_cases he : e.name = d.name
    · simp [register.go, he]
    · have hne : ¬d.name = e.name := fun h => he h.symm
      simp only [register.go, he, if_false, List.map_cons, ih, List.mem_cons, hne, false_or]
      split <;> rfl

theorem names_register (r : Registry) (d : RuleDocument) :
    (r.register d).names = if d.name ∈ r.names then r.names else r.names ++ [d.name] :=
  names_go r.documents

theorem find?_go (documents : List RuleDocument) :
    (register.go d documents).find? (·.name = n) =
      if d.name = n then some d else documents.find? (·.name = n) := by
  induction documents with
  | nil =>
    by_cases hd : d.name = n <;> simp [register.go, hd]
  | cons e rest ih =>
    by_cases he : e.name = d.name
    · by_cases hd : d.name = n <;> simp [register.go, he, hd]
    · rw [register.go, if_neg he, List.find?_cons, List.find?_cons, ih]
      by_cases hn : e.name = n
      · have hd : ¬d.name = n := fun h => he (hn.trans h.symm)
        simp [hn, hd]
      · simp [hn]

theorem get?_register (r : Registry) (d : RuleDocument) :
    (r.register d).get? n = if d.name = n then some d else r.get? n :=
  find?_go r.documents

-- --------------------------------------------------------------------
-- Many registrations
-- --------------------------------------------------------------------

/-- Registers documents one after the other. -/
def registerAll (r : Registry) (ds : List RuleDocument) : Registry := ds.foldl register r

@[simp] theorem registerAll_nil (r : Registry) : r.registerAll [] = r := rfl

@[simp] theorem registerAll_cons (r : Registry) (d : RuleDocument) (ds : List RuleDocument) :
    r.registerAll (d :: ds) = (r.register d).registerAll ds := rfl

/-- The document that came last under a name. -/
def lastNamed (n : String) (history : List RuleDocument) : Option RuleDocument :=
  history.reverse.find? (·.name = n)

theorem lastNamed_append (first second : List RuleDocument) :
    lastNamed n (first ++ second) = (lastNamed n second).or (lastNamed n first) := by
  rw [lastNamed, List.reverse_append, List.find?_append]
  rfl

/-- What a registry holds after documents have been registered: names stand where they first
came, each with the document that came last. -/
structure Holds (history : List RuleDocument) (r : Registry) : Prop where
  names : r.names = (history.map (·.name)).eraseDups
  get? : ∀ n, r.get? n = lastNamed n history

theorem Holds.register (h : r.Holds history) (d : RuleDocument) :
    (r.register d).Holds (history ++ [d]) := by
  constructor
  · rw [names_register, h.names, List.map_append, List.map_singleton, eraseDups_concat]
    simp only [List.mem_eraseDups]
  · intro n
    rw [get?_register, h.get?, lastNamed_append]
    by_cases hd : d.name = n <;> simp [lastNamed, hd]

theorem Holds.registerAll (h : r.Holds history) (ds : List RuleDocument) :
    (r.registerAll ds).Holds (history ++ ds) := by
  induction ds generalizing r history with
  | nil => simpa using h
  | cons d ds ih => simpa using ih (h.register d)

theorem Holds.nodup (h : r.Holds history) : r.names.Nodup := by
  rw [h.names]
  exact nodup_eraseDups _

-- --------------------------------------------------------------------
-- Registries by their names
-- --------------------------------------------------------------------

theorem find?_of_nodup {documents : List RuleDocument} (h : (documents.map (·.name)).Nodup)
    (hd : d ∈ documents) : documents.find? (·.name = d.name) = some d := by
  induction documents with
  | nil => cases hd
  | cons e rest ih =>
    obtain ⟨hnot, hrest⟩ := List.nodup_cons.mp h
    rcases List.mem_cons.mp hd with rfl | hd
    · simp
    · have hne : ¬e.name = d.name := fun he => hnot (List.mem_map.mpr ⟨d, hd, he.symm⟩)
      simpa [hne] using ih hrest hd

/-- The documents are what stands under the names, in the order of the names. -/
theorem documents_eq (h : r.names.Nodup) : r.documents = r.names.filterMap r.get? := by
  have hget : ∀ d ∈ r.documents, (r.get? ∘ (·.name)) d = some d := fun d hd => find?_of_nodup h hd
  rw [names, List.filterMap_map, List.filterMap_congr hget, List.filterMap_some]

/-- A registry without repeated names can be thought of as made by registering what it has. -/
theorem holds_documents (h : r.names.Nodup) : r.Holds r.documents := by
  refine ⟨(eraseDups_of_nodup h).symm, fun n => ?_⟩
  rw [lastNamed]
  have hreverse : (r.documents.reverse.map (·.name)).Nodup := by
    rw [List.map_reverse]
    exact List.nodup_reverse.mpr h
  cases hfound : r.get? n with
  | none =>
    symm
    simpa [Registry.get?] using hfound
  | some d =>
    have hname : d.name = n := by simpa using List.find?_some hfound
    subst hname
    exact (find?_of_nodup hreverse (List.mem_reverse.mpr (List.mem_of_find?_eq_some hfound))).symm

/-- Names and documents make the registry. -/
theorem eq_of_holds {earlier : List RuleDocument} (hr : r.Holds history) (hs : s.Holds earlier)
    (hnames : (history.map (·.name)).eraseDups = (earlier.map (·.name)).eraseDups)
    (hlast : ∀ n, lastNamed n history = lastNamed n earlier) : r = s := by
  have hsame : r.names = s.names := by rw [hr.names, hs.names, hnames]
  have hget : r.get? = s.get? := funext fun n => by rw [hr.get?, hs.get?, hlast]
  obtain ⟨documents⟩ := r
  obtain ⟨others⟩ := s
  congr 1
  exact (documents_eq hr.nodup).trans (by rw [hsame, hget]; exact (documents_eq hs.nodup).symm)

/-- Registering the same documents again changes nothing. -/
theorem registerAll_registerAll (h : r.names.Nodup) (ds : List RuleDocument) :
    (r.registerAll ds).registerAll ds = r.registerAll ds := by
  have honce := (holds_documents h).registerAll ds
  refine eq_of_holds (honce.registerAll ds) honce ?_ fun n => ?_
  · have hnone : (ds.map (·.name)).removeAll ((r.documents ++ ds).map (·.name)) = [] := by
      refine List.filter_eq_nil_iff.mpr fun n hn => ?_
      simp only [List.map_append, List.elem_eq_mem, List.mem_append, hn, or_true, decide_true,
        Bool.not_true, Bool.false_eq_true, not_false_eq_true]
    rw [List.map_append, List.eraseDups_append, hnone, List.eraseDups_nil, List.append_nil]
  · rw [lastNamed_append (r.documents ++ ds), lastNamed_append]
    cases lastNamed n ds <;> rfl

end PageRecords.Registry
