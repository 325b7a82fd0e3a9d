import PageRecords.Proofs.Registry.Directory

/-!
# Registries over whole runs

Documents are registered and directories loaded in any order, with some loads breaking off.
What a registry then has is told by the documents that were registered, first to last:
`registry_over_runs`. One call adds its documents to that history (`Holds.perform`).
-/

namespace PageRecords.Registry

variable {r : Registry} {history : List RuleDocument}

/-- What is asked of a registry that changes it. The files may change between calls. -/
inductive Call where
  | register (d : RuleDocument)
  | loadDir (files : Files) (dir : String)

namespace Call

def perform (r : Registry) : Call → Registry
  | .register d => r.register d
  | .loadDir files dir => (r.loadDir files dir).1

/-- The documents that a call registers, in order. -/
def documents : Call → List RuleDocument
  | .register d => [d]
  | .loadDir files dir => documentsIn files dir

end Call

def run (r : Registry) (calls : List Call) : Registry := calls.foldl Call.perform r

theorem Holds.perform (h : r.Holds history) (call : Call) :
    (call.perform r).Holds (history ++ call.documents) := by
  cases call with
  | register d => exact h.register d
  | loadDir files dir =>
    rw [Call.perform, fst_loadDir]
    exact h.registerAll _

theorem Holds.run (h : r.Holds history) (calls : List Call) :
    (r.run calls).Holds (history ++ calls.flatMap Call.documents) := by
  induction calls generalizing r history with
  | nil => simpa [Registry.run] using h
  | cons call rest ih =>
    rw [List.flatMap_cons, ← List.append_assoc]
    exact ih (h.perform call)

/-- The first document that handles an address, in the order of the names and by what stands
under them now. -/
theorem find?_eq (h : r.names.Nodup) (url : String) :
    r.find? url = (r.names.filterMap r.get?).find? (·.handles url) := by
  rw [← documents_eq h, find?]

/-- What registering and loading come to over any calls, from any registry without repeated
names. -/
theorem registry_over_runs {r : Registry} (h : r.names.Nodup) (calls : List Call) :
    (r.run calls).Holds (r.documents ++ calls.flatMap Call.documents) ∧
      (r.run calls).names.Nodup ∧
      (∀ url, (r.run calls).find? url =
        ((r.run calls).names.filterMap (r.run calls).get?).find? (·.handles url)) ∧
      ∀ files dir,
        (r.run calls).Loads files dir (Call.loadDir files dir).documents
          ((r.run calls).loadDir files dir) ∧
        (∀ files' names names', files'.text = files.text → files.list dir = .ok names →
          files'.list dir = .ok names' → names.Perm names' →
          (r.run calls).loadDir files' dir = (r.run calls).loadDir files dir) ∧
        ((r.run calls).loadDir files dir).1.loadDir files dir = (r.run calls).loadDir files dir := by
  have hholds := (holds_documents h).run calls
  refine ⟨hholds, hholds.nodup, find?_eq hholds.nodup, fun files dir =>
    ⟨loadDir_in_order _ files dir, fun files' names names' htext hlist hlist' hperm =>
      loadDir_of_perm _ htext hlist hlist' hperm, loadDir_again hholds.nodup files dir⟩⟩

/-- A directory whose only document is not even text. -/
def brokenShelf : Files := ⟨fun _ => .error .notText, fun _ => .ok ["notes.txt", "10.yml"]⟩

def titled (name description : String) : RuleDocument :=
  { (default : RuleDocument) with info := { (default : RuleInfo) with name, description } }

/-- Two documents of one name, with a load that breaks off and another document between them. -/
def brokenRun : List Call :=
  [.register (titled "A" "old"), .loadDir brokenShelf "p", .register (titled "B" ""),
    .register (titled "A" "new")]

theorem documentsIn_brokenShelf : documentsIn brokenShelf "p" = [] := by
  have hnames : documentNames ["notes.txt", "10.yml"] = ["10.yml"] := by
    have hfilter : ["notes.txt", "10.yml"].filter isDocumentName = ["10.yml"] := by decide
    rw [documentNames, hfilter, List.mergeSort_singleton]
  rw [documentsIn, brokenShelf]
  simp only [hnames]
  rfl

theorem broken_run_keeps_order :
    empty.names.Nodup ∧ (empty.run brokenRun).names = ["A", "B"] ∧
      ((empty.run brokenRun).get? "A").map (·.info.description) = some "new" := by
  have hnodup : empty.names.Nodup := .nil
  obtain ⟨hholds, -⟩ := registry_over_runs hnodup brokenRun
  have hhistory : empty.documents ++ brokenRun.flatMap Call.documents =
      [titled "A" "old", titled "B" "", titled "A" "new"] := by
    simp only [brokenRun, List.flatMap_cons, List.flatMap_nil, Call.documents,
      documentsIn_brokenShelf]
    rfl
  rw [hhistory] at hholds
  refine ⟨hnodup, ?_, ?_⟩
  · rw [hholds.names]
    decide
  · rw [hholds.get?]
    rfl

end PageRecords.Registry
