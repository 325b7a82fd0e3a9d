import Mathlib.Data.List.Forall2
import PageRecords.Proofs.Registry.Laws
import PageRecords.Proofs.Unicode.Utf8Order

/-!
# Loading a directory

A directory is loaded as if its documents were registered one by one, in the order of the
bytes of their names, up to the first that cannot be loaded: `loadDir_in_order`. In which
order the file system lists the names makes no difference (`loadDir_of_perm`), and neither
does loading a second time (`loadDir_again`).
-/

namespace PageRecords.Registry

open Unicode (Utf8.encode Utf8.encode_lt_iff)

variable {r : Registry} {files : Files} {dir name : String} {names others : List String}
  {front back : List Char}

-- --------------------------------------------------------------------
-- Names of documents
-- --------------------------------------------------------------------

/-- A name with one of the extensions of documents, and something before it. -/
def NamesDocument (name : String) : Prop :=
  ∃ stem ext, stem ≠ "" ∧ ext ∈ ["yaml", "yml", "json"] ∧ name = stem ++ "." ++ ext

theorem extension?_of_no_dot (h : '.' ∉ name.toList) : Path.extension? name = none := by
  have hall : ∀ c ∈ name.toList.reverse, decide (c ≠ '.') = true := by
    intro c hc
    simpa using fun hdot : c = '.' => h (hdot ▸ List.mem_reverse.mp hc)
  have hbehind : (name.toList.reverse ++ []).takeWhile (· ≠ '.') = name.toList.reverse ++ [] :=
    List.takeWhile_append_of_pos hall
  rw [List.append_nil] at hbehind
  rw [Path.extension?, hbehind, List.reverse_reverse, String.length_toList]
  simp

/-- The extension stands behind the last dot. -/
theorem extension?_of_last_dot (h : '.' ∉ back) :
    Path.extension? (.ofList (front ++ '.' :: back)) =
      if front = [] then none else some (.ofList back) := by
  have hall : ∀ c ∈ back.reverse, decide (c ≠ '.') = true := by
    intro c hc
    simpa using fun hdot : c = '.' => h (hdot ▸ List.mem_reverse.mp hc)
  have hbehind : (front ++ '.' :: back).reverse.takeWhile (· ≠ '.') = back.reverse := by
    rw [List.reverse_append, List.reverse_cons, List.append_assoc,
      List.takeWhile_append_of_pos hall, List.singleton_append, List.takeWhile_cons]
    simp
  rw [Path.extension?, String.toList_ofList, hbehind, List.reverse_reverse, String.length_ofList]
  cases front with
  | nil => simp
  | cons c front =>
    have hlength : back.length + 1 < (c :: front ++ '.' :: back).length := by
      rw [List.length_append, List.length_cons, List.length_cons]
      omega
    rw [if_pos hlength, if_neg (List.cons_ne_nil c front)]

theorem isDocumentName_iff : isDocumentName name = true ↔ NamesDocument name := by
  constructor
  · intro h
    by_cases hdot : '.' ∈ name.toList
    · obtain ⟨back, front, hback, hlast⟩ :=
        List.eq_append_cons_of_mem (List.mem_reverse.mpr hdot)
      obtain rfl : name = .ofList (front.reverse ++ '.' :: back.reverse) := by
        rw [← String.toList_inj, String.toList_ofList, ← List.reverse_inj, hback]
        simp
      rw [isDocumentName, extension?_of_last_dot (by simpa using hlast)] at h
      split at h
      · next ext hext =>
        obtain ⟨hfront, rfl⟩ : ¬front.reverse = [] ∧ .ofList back.reverse = ext := by
          simpa using hext
        refine ⟨.ofList front.reverse, .ofList back.reverse, ?_, ?_, ?_⟩
        · simpa [← String.toList_inj] using hfront
        · simpa [extensions] using h
        · simp [← String.toList_inj]
      · cases h
    · rw [isDocumentName, extension?_of_no_dot hdot] at h
      cases h
  · rintro ⟨stem, ext, hstem, hext, rfl⟩
    have hlast : '.' ∉ ext.toList := by
      revert ext
      decide
    have hname : stem ++ "." ++ ext = .ofList (stem.toList ++ '.' :: ext.toList) := by
      simp [← String.toList_inj]
    have hfront : stem.toList ≠ [] := by simpa using hstem
    rw [isDocumentName, hname, extension?_of_last_dot hlast, if_neg hfront, String.ofList_toList]
    simpa [extensions] using hext

-- --------------------------------------------------------------------
-- The order of documents
-- --------------------------------------------------------------------

/-- The names of documents among others, in the order of their bytes. -/
structure DocumentOrder (names ordered : List String) : Prop where
  documents : ∀ name ∈ ordered, NamesDocument name
  complete : ∃ others, names.Perm (ordered ++ others) ∧ ∀ name ∈ others, ¬NamesDocument name
  sorted : ordered.Pairwise fun a b => Utf8.encode a.toList ≤ Utf8.encode b.toList

theorem documentNames_perm (names : List String) :
    (documentNames names).Perm (names.filter isDocumentName) :=
  List.mergeSort_perm _ _

theorem documentNames_sorted (names : List String) :
    (documentNames names).Pairwise fun a b => a ≤ b := by
  have hle : ∀ a b : String, (!decide (b < a)) = true ↔ a ≤ b := by
    intro a b
    rw [Bool.not_eq_true', decide_eq_false_iff_not, String.not_lt]
  refine (List.pairwise_mergeSort ?_ ?_ _).imp fun h => (hle _ _).mp h
  · intro a b c hab hbc
    exact (hle a c).mpr (String.le_trans ((hle a b).mp hab) ((hle b c).mp hbc))
  · intro a b
    rw [Bool.or_eq_true, hle, hle]
    exact String.le_total a b

theorem documentOrder (names : List String) : DocumentOrder names (documentNames names) := by
  have hperm := documentNames_perm names
  refine ⟨fun name hname => ?_, ⟨names.filter fun name => !isDocumentName name, ?_, ?_⟩,
    (documentNames_sorted names).imp fun h => ?_⟩
  · exact isDocumentName_iff.mp (List.mem_filter.mp (hperm.mem_iff.mp hname)).2
  · exact (List.filter_append_perm isDocumentName names).symm.trans (hperm.symm.append_right _)
  · intro name hname
    simpa [← isDocumentName_iff] using (List.mem_filter.mp hname).2
  · rw [← List.not_lt, Utf8.encode_lt_iff]
    exact String.not_lt.mpr h

/-- The listing does not decide the order. -/
theorem documentNames_of_perm (h : names.Perm others) :
    documentNames names = documentNames others := by
  refine List.Perm.eq_of_pairwise (fun a b _ _ => String.le_antisymm) (documentNames_sorted names)
    (documentNames_sorted others) ?_
  exact (documentNames_perm names).trans
    ((h.filter isDocumentName).trans (documentNames_perm others).symm)

-- --------------------------------------------------------------------
-- Loading
-- --------------------------------------------------------------------

/-- The documents of files in order up to the first that cannot be loaded, and why that one
cannot. -/
def loaded (files : Files) : List String → List RuleDocument × Option LoadError
  | [] => ([], none)
  | path :: rest =>
    match RuleDocument.load files path with
    | .ok d => (d :: (loaded files rest).1, (loaded files rest).2)
    | .error e => ([], some e)

theorem loadAll_eq (r : Registry) (paths : List String) :
    r.loadAll files paths = (r.registerAll (loaded files paths).1, (loaded files paths).2) := by
  induction paths generalizing r with
  | nil => rfl
  | cons path rest ih =>
    rw [loadAll, loaded]
    cases RuleDocument.load files path with
    | ok d => exact ih (r.register d)
    | error e => rfl

/-- A file of the directory gives a document. -/
def Gives (files : Files) (dir name : String) (d : RuleDocument) : Prop :=
  RuleDocument.load files (Path.join dir name) = .ok d

theorem loaded_cases (files : Files) (dir : String) (names : List String) :
    (∃ ds, loaded files (names.map (Path.join dir)) = (ds, none) ∧
      List.Forall₂ (Gives files dir) names ds) ∨
    ∃ before name after ds e, names = before ++ name :: after ∧
      loaded files (names.map (Path.join dir)) = (ds, some e) ∧
      List.Forall₂ (Gives files dir) before ds ∧
      RuleDocument.load files (Path.join dir name) = .error e := by
  induction names with
  | nil => exact .inl ⟨[], rfl, .nil⟩
  | cons name rest ih =>
    rw [List.map_cons, loaded]
    cases hload : RuleDocument.load files (Path.join dir name) with
    | error e => exact .inr ⟨[], name, rest, [], e, rfl, rfl, .nil, hload⟩
    | ok d =>
      rcases ih with ⟨ds, hloaded, hds⟩ | ⟨before, failing, after, ds, e, rfl, hloaded, hds, he⟩
      · exact .inl ⟨d :: ds, by rw [hloaded], .cons hload hds⟩
      · exact .inr ⟨name :: before, failing, after, d :: ds, e, rfl, by rw [hloaded],
          .cons hload hds, he⟩

/-- The documents that loading a directory registers. -/
def documentsIn (files : Files) (dir : String) : List RuleDocument :=
  match files.list dir with
  | .error _ => []
  | .ok names => (loaded files ((documentNames names).map (Path.join dir))).1

/-- How a directory is loaded: which documents are registered, and what comes of it. -/
inductive Loads (r : Registry) (files : Files) (dir : String) :
    List RuleDocument → Registry × Except LoadError Nat → Prop
  | unlisted {e : FileError} (hlist : files.list dir = .error e) :
      Loads r files dir [] (r, .error (.unreadable dir e))
  | all {names ordered : List String} {ds : List RuleDocument} (hlist : files.list dir = .ok names)
      (horder : DocumentOrder names ordered) (hall : List.Forall₂ (Gives files dir) ordered ds) :
      Loads r files dir ds (r.registerAll ds, .ok ordered.length)
  | stopped {names before after : List String} {name : String} {ds : List RuleDocument}
      {e : LoadError} (hlist : files.list dir = .ok names)
      (horder : DocumentOrder names (before ++ name :: after))
      (hbefore : List.Forall₂ (Gives files dir) before ds)
      (hname : RuleDocument.load files (Path.join dir name) = .error e) :
      Loads r files dir ds (r.registerAll ds, .error e)

theorem loadDir_of_list (r : Registry) (hlist : files.list dir = .ok names) :
    r.loadDir files dir =
      (r.registerAll (documentsIn files dir),
        match (loaded files ((documentNames names).map (Path.join dir))).2 with
        | none => .ok (documentNames names).length
        | some e => .error e) := by
  rw [loadDir, documentsIn, hlist]
  simp only [loadAll_eq, List.length_map]
  cases (loaded files ((documentNames names).map (Path.join dir))).2 <;> rfl

theorem loadDir_in_order (r : Registry) (files : Files) (dir : String) :
    r.Loads files dir (documentsIn files dir) (r.loadDir files dir) := by
  cases hlist : files.list dir with
  | error e =>
    rw [loadDir, documentsIn, hlist]
    exact .unlisted hlist
  | ok names =>
    rw [loadDir_of_list r hlist, documentsIn, hlist]
    have horder := documentOrder names
    rcases loaded_cases files dir (documentNames names) with ⟨ds, hloaded, hds⟩ |
      ⟨before, name, after, ds, e, hnames, hloaded, hds, he⟩
    · simp only [hloaded]
      exact .all hlist horder hds
    · simp only [hloaded]
      exact .stopped hlist (hnames ▸ horder) hds he

theorem fst_loadDir (r : Registry) (files : Files) (dir : String) :
    (r.loadDir files dir).1 = r.registerAll (documentsIn files dir) := by
  cases hlist : files.list dir with
  | error e =>
    rw [loadDir, documentsIn, hlist]
    rfl
  | ok names => rw [loadDir_of_list r hlist]

/-- What is loaded depends on the files and on which names are listed only. -/
theorem loadDir_of_perm (r : Registry) {files' : Files} (htext : files'.text = files.text)
    (hlist : files.list dir = .ok names) (hlist' : files'.list dir = .ok others)
    (h : names.Perm others) : r.loadDir files' dir = r.loadDir files dir := by
  have hloaded : loaded files' = loaded files := by
    funext paths
    induction paths with
    | nil => rfl
    | cons path rest ih => rw [loaded, loaded, ih, RuleDocument.load, RuleDocument.load, htext]
  rw [loadDir_of_list r hlist, loadDir_of_list r hlist', documentsIn, documentsIn, hlist, hlist',
    hloaded]
  simp only [documentNames_of_perm h]

theorem loadDir_again (h : r.names.Nodup) (files : Files) (dir : String) :
    (r.loadDir files dir).1.loadDir files dir = r.loadDir files dir := by
  cases hlist : files.list dir with
  | error e => rw [loadDir, loadDir, hlist]
  | ok names =>
    rw [fst_loadDir, loadDir_of_list _ hlist, loadDir_of_list _ hlist, registerAll_registerAll h]

end PageRecords.Registry
