import PageRecords.Command.Run
import PageRecords.Proofs.Document.ReadLaws
import PageRecords.Proofs.Names
import PageRecords.Proofs.Registry.Runs

/-!
# Finding and extracting

The command that finds the document of an address and the one that extracts with a document
agree on a directory that loads: what is found is the document of the last file of its name,
and extracting with that file is not refused; if none is found, extracting is refused whatever
the file (`find_and_extract_agree`). A directory is thought of as its shelf: the files with
documents in the order of their names, each with its document.
-/

namespace PageRecords

-- --------------------------------------------------------------------
-- Shelves
-- --------------------------------------------------------------------

/-- Files of a directory and their documents, in the order of the file names. -/
abbrev Shelf := List (String × RuleDocument)

namespace Shelf

variable {shelf : Shelf} {n m file url : String} {d : RuleDocument}

def documents (shelf : Shelf) : List RuleDocument := shelf.map (·.2)

/-- The file is the last one whose document has the name. -/
def Last (shelf : Shelf) (n file : String) (d : RuleDocument) : Prop :=
  ∃ before after, shelf = before ++ (file, d) :: after ∧ d.name = n ∧ ∀ e ∈ after, e.2.name ≠ n

/-- One name is first seen in an earlier file than another, if that is seen at all. -/
def Earlier (shelf : Shelf) (m n : String) : Prop :=
  ∃ before after, shelf = before ++ after ∧ (∃ e ∈ before, e.2.name = m) ∧
    ∀ e ∈ before, e.2.name ≠ n

/-- The document of the last file of a name handles an address, and no name first seen in an
earlier file does so with the document of its last file. -/
def Chooses (shelf : Shelf) (url n file : String) (d : RuleDocument) : Prop :=
  shelf.Last n file d ∧ d.handles url = true ∧
    ∀ m, shelf.Earlier m n → ∀ file' e, shelf.Last m file' e → e.handles url = false

theorem Last.mem (h : shelf.Last n file d) : (file, d) ∈ shelf := by
  obtain ⟨before, after, rfl, -, -⟩ := h
  simp

theorem Last.name (h : shelf.Last n file d) : d.name = n := by
  obtain ⟨-, -, -, hname, -⟩ := h
  exact hname

theorem lastNamed_eq_some_iff :
    Registry.lastNamed n shelf.documents = some d ↔ ∃ file, shelf.Last n file d := by
  rw [Registry.lastNamed, documents, ← List.map_reverse, List.find?_map, Option.map_eq_some_iff]
  simp only [List.find?_eq_some_iff_append, Function.comp_apply]
  constructor
  · rintro ⟨⟨file, d⟩, ⟨hname, after, before, hshelf, hafter⟩, rfl⟩
    refine ⟨file, before.reverse, after.reverse, ?_, by simpa using hname, ?_⟩
    · rw [← List.reverse_inj, hshelf]
      simp
    · simpa using hafter
  · rintro ⟨file, before, after, rfl, hname, hafter⟩
    refine ⟨(file, d), ⟨by simpa using hname, after.reverse, before.reverse, by simp, ?_⟩, rfl⟩
    simpa using hafter

end Shelf

namespace Registry

variable {r : Registry} {shelf : Shelf} {n m file url : String} {d e : RuleDocument}

theorem get?_eq_some_iff (h : r.Holds shelf.documents) :
    r.get? n = some d ↔ ∃ file, shelf.Last n file d := by
  rw [h.get?, Shelf.lastNamed_eq_some_iff]

/-- A document of a registry is what stands under its name. -/
theorem get?_of_mem (h : r.Holds shelf.documents) (hd : d ∈ r.documents) : r.get? d.name = some d :=
  find?_of_nodup h.nodup hd

theorem mem_documents_of_get? (h : r.get? n = some d) : d ∈ r.documents ∧ d.name = n :=
  ⟨List.mem_of_find?_eq_some h, by simpa using List.find?_some h⟩

/-- The names before a document are those first seen in earlier files. -/
theorem mem_before_iff {before after : List RuleDocument} (h : r.Holds shelf.documents)
    (hsplit : r.documents = before ++ d :: after) :
    m ∈ before.map (·.name) ↔ shelf.Earlier m d.name := by
  have hnames : (shelf.documents.map (·.name)).eraseDups =
      before.map (·.name) ++ d.name :: after.map (·.name) := by
    rw [← h.names, names, hsplit, List.map_append, List.map_cons]
  rw [mem_before_eraseDups hnames, Shelf.documents, List.map_map]
  constructor
  · rintro ⟨front, back, hshelf, hm, hd⟩
    obtain ⟨first, last, rfl, rfl, rfl⟩ := List.map_eq_append_iff.mp hshelf
    refine ⟨first, last, rfl, by simpa using hm, ?_⟩
    intro e he hname
    exact hd (List.mem_map.mpr ⟨e, he, hname⟩)
  · rintro ⟨first, last, rfl, ⟨e, he, rfl⟩, hfirst⟩
    refine ⟨_, _, List.map_append, List.mem_map.mpr ⟨e, he, rfl⟩, ?_⟩
    intro hd
    obtain ⟨e, he, hname⟩ := List.mem_map.mp hd
    exact hfirst e he hname

/-- What a registry finds, told by the files that its documents came from. -/
theorem find?_eq_some_iff (h : r.Holds shelf.documents) :
    r.find? url = some d ↔ ∃ file, shelf.Chooses url d.name file d := by
  rw [find?, List.find?_eq_some_iff_append]
  constructor
  · rintro ⟨hhandles, before, after, hsplit, hbefore⟩
    have hmem : d ∈ r.documents := by simp [hsplit]
    obtain ⟨file, hlast⟩ := (get?_eq_some_iff h).mp (get?_of_mem h hmem)
    refine ⟨file, hlast, hhandles, fun m hm file' e he => ?_⟩
    obtain ⟨a, ha, rfl⟩ := List.mem_map.mp ((mem_before_iff h hsplit).mpr hm)
    -- One document stands under the name, so the one before is that of the name's last file.
    have hget := get?_of_mem h (hsplit ▸ List.mem_append_left _ ha)
    rw [(get?_eq_some_iff h).mpr ⟨file', he⟩, Option.some.injEq] at hget
    simpa [hget] using hbefore a ha
  · rintro ⟨file, hlast, hhandles, hearlier⟩
    have hmem := (mem_documents_of_get? ((get?_eq_some_iff h).mpr ⟨file, hlast⟩)).1
    obtain ⟨before, after, hsplit⟩ := List.append_of_mem hmem
    refine ⟨hhandles, before, after, hsplit, fun a ha => ?_⟩
    obtain ⟨file', ha'⟩ := (get?_eq_some_iff h).mp
      (get?_of_mem h (hsplit ▸ List.mem_append_left _ ha))
    have hm := (mem_before_iff h hsplit).mp (List.mem_map_of_mem ha)
    simpa using hearlier a.name hm file' a ha'

theorem find?_eq_none_iff (h : r.Holds shelf.documents) :
    r.find? url = none ↔ ∀ n file d, shelf.Last n file d → d.handles url = false := by
  rw [find?, List.find?_eq_none]
  constructor
  · intro hnone n file d hlast
    have hmem := (mem_documents_of_get? ((get?_eq_some_iff h).mpr ⟨file, hlast⟩)).1
    simpa using hnone d hmem
  · intro hnone d hd
    obtain ⟨file, hlast⟩ := (get?_eq_some_iff h).mp (get?_of_mem h hd)
    simpa using hnone d.name file d hlast

end Registry

-- --------------------------------------------------------------------
-- Commands
-- --------------------------------------------------------------------

namespace Command

variable {files : Files} {dir rules html page url n : String} {isPretty : Bool} {d : RuleDocument}

/-- What is printed of a document that is found. -/
def announced (d : RuleDocument) (url : String) : Outcome :=
  match d.redirectTarget url with
  | .ok none => .success (d.name ++ "\n")
  | .ok (some target) => .success (d.name ++ "\nredirect: " ++ target.text ++ "\n")
  | .error e => .failure (d.name ++ "\n") e.message

/-- The error if none of some documents handles an address. -/
def unhandled (count : Nat) (url : String) : String :=
  "none of " ++ toString count ++ " parsers handles " ++ url

/-- The error if a document does not handle the address it is to be used for. -/
def refusal (name url : String) : String := "parser '" ++ name ++ "' does not handle " ++ url

/-- The search for an address comes to a document of the name, and that is what is printed. -/
def FindPrints (files : Files) (dir url n : String) : Prop :=
  ∃ d, d.name = n ∧ (Registry.empty.loadDir files dir).1.find? url = some d ∧
    runFind files dir url = announced d url

theorem runFind_of_some {r : Registry} {count : Nat}
    (hload : Registry.empty.loadDir files dir = (r, .ok count)) (hfind : r.find? url = some d) :
    runFind files dir url = announced d url := by
  rw [runFind, hload]
  simp only [hfind]
  rfl

theorem findPrints_of_find {r : Registry} {count : Nat}
    (hload : Registry.empty.loadDir files dir = (r, .ok count)) (hfind : r.find? url = some d) :
    FindPrints files dir url d.name :=
  ⟨d, rfl, by rw [hload]; exact hfind, runFind_of_some hload hfind⟩

theorem runFind_of_none {r : Registry} {count : Nat}
    (hload : Registry.empty.loadDir files dir = (r, .ok count)) (hfind : r.find? url = none) :
    runFind files dir url = .failure "" (unhandled r.size url) := by
  rw [runFind, hload]
  simp only [hfind]
  rfl

theorem mapError_error {α ε φ : Type} {x : Except ε α} {name : ε → φ} {e : φ} :
    x.mapError name = .error e ↔ ∃ cause, x = .error cause ∧ name cause = e := by
  cases x <;> simp [Except.mapError]

theorem mapError_ok {α ε φ : Type} {x : Except ε α} {name : ε → φ} {a : α} :
    x.mapError name = .ok a ↔ x = .ok a := by
  cases x <;> simp [Except.mapError]

theorem mapM_some {α β ε : Type} (k : α → Except ε β) (a : α) :
    (some a).mapM k = (do return some (← k a)) := rfl

/-- What can go wrong once the document is loaded. -/
theorem extracted_error {e : String} (hload : RuleDocument.load files rules = .ok d)
    (h : extracted files rules html (some url) isPretty = .error e) :
    e = "failed to read " ++ html ∨ pageUrl d url = .error e ∨
      ∃ failed : AllRulesFailed, e = failed.message := by
  simp only [extracted, hload, mapM_some, bind_error, mapError_error, mapError_ok, pure_error,
    reduceCtorEq, false_and, exists_false, false_or, and_false, or_false, Except.ok.injEq,
    exists_eq_left'] at h
  rcases h with ⟨-, -, rfl⟩ | ⟨page, -, h | ⟨u, -, failed, -, rfl⟩⟩
  · exact .inl rfl
  · exact .inr (.inl h)
  · exact .inr (.inr ⟨failed, rfl⟩)

theorem pageUrl_of_handles (h : d.handles url = true) :
    pageUrl d url = (Url.parse url).mapError fun _ => "invalid page URL " ++ url := by
  simp [pageUrl, h]

theorem pageUrl_of_not_handles (h : d.handles url = false) :
    pageUrl d url = .error (refusal d.name url) := by
  simp [pageUrl, h, refusal]

/-- Whatever goes wrong once the document handles the address, the error is another one. -/
theorem extracted_ne_refusal {e name address : String}
    (hload : RuleDocument.load files rules = .ok d) (hhandles : d.handles url = true)
    (h : extracted files rules html (some url) isPretty = .error e) : e ≠ refusal name address := by
  have hp : (refusal name address).toList.head? = some 'p' := by simp [refusal]
  rcases extracted_error hload h with rfl | h | ⟨failed, rfl⟩
  · intro heq
    simp [← heq] at hp
  · rw [pageUrl_of_handles hhandles, mapError_error] at h
    obtain ⟨-, -, rfl⟩ := h
    intro heq
    simp [← heq] at hp
  · intro heq
    simp [← heq, AllRulesFailed.message] at hp

theorem runExtract_refused (hload : RuleDocument.load files rules = .ok d)
    (hpage : files.text html = .ok page) (h : d.handles url = false) :
    runExtract files rules html (some url) isPretty = .failure "" (refusal d.name url) := by
  have herror : extracted files rules html (some url) isPretty = .error (refusal d.name url) := by
    simp only [extracted, hload, hpage, mapM_some, Except.mapError, ok_bind,
      pageUrl_of_not_handles h, error_bind]
  rw [runExtract, herror]

theorem runExtract_not_refused {name address : String}
    (hload : RuleDocument.load files rules = .ok d) (hhandles : d.handles url = true) :
    (runExtract files rules html (some url) isPretty).error ≠ some (refusal name address) := by
  rw [runExtract]
  split
  · exact nofun
  · next e h =>
    intro heq
    exact extracted_ne_refusal hload hhandles h (Option.some.inj heq)

/-- The text printed for a document is its name on a line of its own, and perhaps more. -/
theorem output_announced (d : RuleDocument) (url : String) :
    ∃ rest, (announced d url).output = d.name ++ "\n" ++ rest := by
  rw [announced]
  split
  · exact ⟨"", by simp [Outcome.success]⟩
  · next target _ =>
    refine ⟨"redirect: " ++ target.text ++ "\n", ?_⟩
    simp [Outcome.success, ← String.toList_inj]
  · exact ⟨"", by simp [Outcome.failure]⟩

/-- Names without line breaks can be told from what is printed. -/
theorem output_announced_iff (hd : '\n' ∉ d.name.toList) (hn : '\n' ∉ n.toList) :
    (∃ rest, (announced d url).output = n ++ "\n" ++ rest) ↔ d.name = n := by
  constructor
  · rintro ⟨rest, hrest⟩
    obtain ⟨rest', hrest'⟩ := output_announced d url
    rw [hrest, ← String.toList_inj] at hrest'
    -- Up to the first line break each of the two texts is its name.
    have hline : ∀ name rest : List Char, '\n' ∉ name →
        (name ++ '\n' :: rest).takeWhile (· ≠ '\n') = name := by
      intro name rest hname
      rw [List.takeWhile_append_of_pos]
      · simp
      · intro c hc
        have hne : c ≠ '\n' := ne_of_mem_of_not_mem hc hname
        simpa using hne
    have hlines := congrArg (List.takeWhile (· ≠ '\n')) hrest'
    simp only [String.toList_append, List.append_assoc] at hlines
    rw [show "\n".toList = ['\n'] from rfl] at hlines
    simp only [List.cons_append, List.nil_append, hline _ _ hn, hline _ _ hd] at hlines
    exact String.toList_inj.mp hlines.symm
  · rintro rfl
    exact output_announced d url

/-- Names without line breaks can be told from the output of a search. -/
theorem output_eq_iff {r : Registry} {count : Nat}
    (hload : Registry.empty.loadDir files dir = (r, .ok count))
    (hbreaks : ∀ d, r.find? url = some d → '\n' ∉ d.name.toList) (hn : '\n' ∉ n.toList) :
    (∃ rest, (runFind files dir url).output = n ++ "\n" ++ rest) ↔ FindPrints files dir url n := by
  cases hfind : r.find? url with
  | none =>
    rw [runFind_of_none hload hfind]
    refine iff_of_false ?_ ?_
    · rintro ⟨rest, hrest⟩
      have hlength := congrArg String.length hrest
      rw [String.length_append, String.length_append] at hlength
      have hbreak : "\n".length = 1 := rfl
      have hempty : (Outcome.failure "" (unhandled r.size url)).output.length = 0 := rfl
      omega
    · rintro ⟨d, -, hd, -⟩
      rw [hload, hfind] at hd
      cases hd
  | some d =>
    rw [runFind_of_some hload hfind, output_announced_iff (hbreaks d hfind) hn]
    constructor
    · rintro rfl
      exact findPrints_of_find hload hfind
    · rintro ⟨e, hname, he, -⟩
      rw [hload, hfind, Option.some.injEq] at he
      rw [he, hname]

theorem error_announced {count : Nat} {address : String} :
    (announced d url).error ≠ some (unhandled count address) := by
  rw [announced]
  split
  · exact nofun
  · exact nofun
  · next e _ =>
    intro h
    have hn : (unhandled count address).toList.head? = some 'n' := by simp [unhandled]
    rw [← Option.some.inj h] at hn
    cases e <;> simp [Url.Error.message] at hn

end Command

/-- The directory of a shelf is loaded into a registry that holds its documents. -/
theorem exists_shelf {files : Files} {dir : String} {names : List String}
    (hlist : files.list dir = .ok names)
    (hload : ∀ name ∈ names, Registry.NamesDocument name →
      ∃ d, RuleDocument.load files (Path.join dir name) = .ok d) :
    ∃ (shelf : Shelf) (r : Registry), Registry.DocumentOrder names (shelf.map (·.1)) ∧
      (∀ file d, (file, d) ∈ shelf → RuleDocument.load files (Path.join dir file) = .ok d) ∧
      Registry.empty.loadDir files dir = (r, .ok shelf.length) ∧ r.Holds shelf.documents := by
  have hloads := Registry.loadDir_in_order Registry.empty files dir
  generalize Registry.documentsIn files dir = ds at hloads
  generalize Registry.empty.loadDir files dir = loaded at hloads ⊢
  cases hloads with
  | unlisted h => simp [hlist] at h
  | @all names' ordered _ hlist' horder hall =>
    have hlength := hall.length_eq
    have hfiles : (ordered.zip ds).map (·.1) = ordered := List.map_fst_zip (by omega)
    have hdocuments : Shelf.documents (ordered.zip ds) = ds := List.map_snd_zip (by omega)
    obtain rfl : names = names' := Except.ok.inj (hlist.symm.trans hlist')
    refine ⟨ordered.zip ds, Registry.empty.registerAll ds, hfiles.symm ▸ horder, ?_, ?_, ?_⟩
    · intro file d hmem
      exact (List.forall₂_iff_zip.mp hall).2 hmem
    · rw [List.length_zip, hlength, Nat.min_self]
    · rw [hdocuments]
      exact (Registry.holds_documents (r := Registry.empty) .nil).registerAll ds
  | @stopped names' before after name _ e hlist' horder hbefore hname =>
    obtain rfl : names = names' := Except.ok.inj (hlist.symm.trans hlist')
    have hmem : name ∈ before ++ name :: after := by simp
    obtain ⟨others, hperm, -⟩ := horder.complete
    obtain ⟨d, hd⟩ := hload name (hperm.mem_iff.mpr (List.mem_append_left _ hmem))
      (horder.documents name hmem)
    rw [hname] at hd
    cases hd

/-- Finding and extracting agree on a directory whose documents all load. Finding prints a name
exactly if the shelf chooses it for the address; extracting with the file chosen is then not
refused; and if finding reports that none handles the address, extracting is refused with the
last file of every name. -/
theorem find_and_extract_agree {files : Files} {dir : String} {names : List String}
    (hlist : files.list dir = .ok names)
    (hload : ∀ name ∈ names, Registry.NamesDocument name →
      ∃ d, RuleDocument.load files (Path.join dir name) = .ok d) :
    ∃ shelf : Shelf, Registry.DocumentOrder names (shelf.map (·.1)) ∧
      (∀ file d, (file, d) ∈ shelf → RuleDocument.load files (Path.join dir file) = .ok d) ∧
      ∀ url,
        (∀ n, Command.FindPrints files dir url n ↔ ∃ file d, shelf.Chooses url n file d) ∧
        -- Without line breaks in names the output itself tells which name is printed.
        ((∀ e ∈ shelf, '\n' ∉ e.2.name.toList) → ∀ n, '\n' ∉ n.toList →
          ((∃ rest, (Command.runFind files dir url).output = n ++ "\n" ++ rest) ↔
            ∃ file d, shelf.Chooses url n file d)) ∧
        (∀ n file d, shelf.Chooses url n file d → ∀ html isPretty name address,
          (Command.runExtract files (Path.join dir file) html (some url) isPretty).error ≠
            some (Command.refusal name address)) ∧
        ((∃ count, (Command.runFind files dir url).error = some (Command.unhandled count url)) →
          ∀ n file d, shelf.Last n file d → ∀ html page isPretty, files.text html = .ok page →
            Command.runExtract files (Path.join dir file) html (some url) isPretty =
              .failure "" (Command.refusal n url)) := by
  obtain ⟨shelf, r, horder, hdocuments, hloaded, hholds⟩ := exists_shelf hlist hload
  have hprints : ∀ url n, Command.FindPrints files dir url n ↔
      ∃ file d, shelf.Chooses url n file d := by
    intro url n
    constructor
    · rintro ⟨d, rfl, hfind, -⟩
      rw [hloaded] at hfind
      obtain ⟨file, hchooses⟩ := (Registry.find?_eq_some_iff hholds).mp hfind
      exact ⟨file, d, hchooses⟩
    · rintro ⟨file, d, hchooses⟩
      obtain rfl := hchooses.1.name
      have hfind := (Registry.find?_eq_some_iff hholds).mpr ⟨file, hchooses⟩
      exact Command.findPrints_of_find hloaded hfind
  refine ⟨shelf, horder, hdocuments, fun url => ⟨hprints url, ?_, ?_, ?_⟩⟩
  · intro hbreaks n hn
    rw [← hprints]
    refine Command.output_eq_iff hloaded (fun d hfind => ?_) hn
    obtain ⟨file, hchooses⟩ := (Registry.find?_eq_some_iff hholds).mp hfind
    exact hbreaks (file, d) hchooses.1.mem
  · intro n file d hchooses html isPretty name address
    exact Command.runExtract_not_refused (hdocuments file d hchooses.1.mem) hchooses.2.1
  · rintro ⟨count, hnone⟩ n file d hlast html page isPretty hpage
    cases hfind : r.find? url with
    | some e =>
      rw [Command.runFind_of_some hloaded hfind] at hnone
      exact (Command.error_announced hnone).elim
    | none =>
      have hrefuses := (Registry.find?_eq_none_iff hholds).mp hfind n file d hlast
      rw [Command.runExtract_refused (hdocuments file d hlast.mem) hpage hrefuses, hlast.name]

/-- The text of a small document. -/
def feed (name pattern : String) : String :=
  "\x7binfo: \x7bname: " ++ name ++ ", type: feed, domain: b, suggestedRegex: " ++ pattern ++
    "\x7d, rules: [\x7bname: t, value: v\x7d]\x7d"

/-- Three documents, the last of which takes the place of the first. -/
def feeds : Files :=
  ⟨fun path =>
    if path = "p/10.yml" then .ok (feed "A" "a")
    else if path = "p/20.yml" then .ok (feed "B" "b")
    else if path = "p/30.yml" then .ok (feed "A" "c")
    else .error .notFound,
  fun _ => .ok ["30.yml", "10.yml", "20.yml"]⟩

theorem documentNames_feeds :
    Registry.documentNames ["30.yml", "10.yml", "20.yml"] = ["10.yml", "20.yml", "30.yml"] := by
  have hfilter : ["10.yml", "20.yml", "30.yml"].filter Registry.isDocumentName =
      ["10.yml", "20.yml", "30.yml"] := by decide
  have hperm : ["30.yml", "10.yml", "20.yml"].Perm ["10.yml", "20.yml", "30.yml"] := by decide
  rw [Registry.documentNames_of_perm hperm, Registry.documentNames, hfilter,
    List.mergeSort_of_pairwise (by decide)]

/-- What a document of the directory is called, and whether it handles the three addresses. -/
def feedFacts (name : String) : Option (String × Bool × Bool × Bool) :=
  (RuleDocument.load feeds (Path.join "p" name)).toOption.map fun d =>
    (d.name, d.handles "ab", d.handles "c", d.handles "a")

theorem load_of_feedFacts {name n : String} {ab c a : Bool} (h : feedFacts name = some (n, ab, c, a)) :
    ∃ d, RuleDocument.load feeds (Path.join "p" name) = .ok d ∧ d.name = n ∧
      d.handles "ab" = ab ∧ d.handles "c" = c ∧ d.handles "a" = a := by
  rw [feedFacts] at h
  cases hd : RuleDocument.load feeds (Path.join "p" name) with
  | error e => simp [hd, Except.toOption] at h
  | ok d =>
    obtain ⟨hname, hab, hc, ha⟩ : d.name = n ∧ d.handles "ab" = ab ∧ d.handles "c" = c ∧
        d.handles "a" = a := by simpa [hd, Except.toOption] using h
    exact ⟨d, rfl, hname, hab, hc, ha⟩

theorem superseded_feed_is_not_found :
    feeds.list "p" = .ok ["30.yml", "10.yml", "20.yml"] ∧
    (∀ name ∈ ["30.yml", "10.yml", "20.yml"], Registry.NamesDocument name →
      ∃ d, RuleDocument.load feeds (Path.join "p" name) = .ok d) ∧
    Command.FindPrints feeds "p" "ab" "B" ∧
    (∀ html isPretty name address,
      (Command.runExtract feeds (Path.join "p" "20.yml") html (some "ab") isPretty).error ≠
        some (Command.refusal name address)) ∧
    ∀ html page isPretty, feeds.text html = .ok page →
      Command.runExtract feeds (Path.join "p" "30.yml") html (some "a") isPretty =
        .failure "" (Command.refusal "A" "a") := by
  have hfacts : feedFacts "10.yml" = some ("A", true, false, true) ∧
      feedFacts "20.yml" = some ("B", true, false, false) ∧
      feedFacts "30.yml" = some ("A", false, true, false) := by decide +kernel
  obtain ⟨first, hfirst, hfirstName, -, hfirstC, -⟩ := load_of_feedFacts hfacts.1
  obtain ⟨second, hsecond, hsecondName, hsecondAb, hsecondC, hsecondA⟩ := load_of_feedFacts hfacts.2.1
  obtain ⟨third, hthird, hthirdName, hthirdAb, hthirdC, hthirdA⟩ := load_of_feedFacts hfacts.2.2
  have hlist : feeds.list "p" = .ok ["30.yml", "10.yml", "20.yml"] := rfl
  have hload : ∀ name ∈ ["30.yml", "10.yml", "20.yml"], Registry.NamesDocument name →
      ∃ d, RuleDocument.load feeds (Path.join "p" name) = .ok d := by
    intro name hname _
    simp only [List.mem_cons, List.not_mem_nil, or_false] at hname
    rcases hname with rfl | rfl | rfl
    · exact ⟨third, hthird⟩
    · exact ⟨first, hfirst⟩
    · exact ⟨second, hsecond⟩
  obtain ⟨_, r, -, -, hloaded, -⟩ := exists_shelf hlist hload
  have hr : r.documents = [third, second] := by
    have hloads : Registry.documentsIn feeds "p" = [first, second, third] := by
      simp [Registry.documentsIn, hlist, documentNames_feeds, Registry.loaded, hfirst, hsecond,
        hthird]
    have hregistered : r = Registry.empty.registerAll [first, second, third] := by
      rw [← hloads, ← Registry.fst_loadDir, hloaded]
    rw [hregistered]
    simp [Registry.registerAll, Registry.register, Registry.register.go, Registry.empty,
      hfirstName, hsecondName, hthirdName]
  have hprintsB : Command.FindPrints feeds "p" "ab" "B" := by
    rw [← hsecondName]
    exact Command.findPrints_of_find hloaded (by simp [Registry.find?, hr, hthirdAb, hsecondAb])
  have hprintsA : Command.FindPrints feeds "p" "c" "A" := by
    rw [← hthirdName]
    exact Command.findPrints_of_find hloaded (by simp [Registry.find?, hr, hthirdC])
  have hnone : r.find? "a" = none := by simp [Registry.find?, hr, hthirdA, hsecondA]
  obtain ⟨shelf, horder, hdocuments, hagree⟩ := find_and_extract_agree hlist hload
  have hfile : ∀ file d, (file, d) ∈ shelf → file = "30.yml" ∧ d = third ∨
      file = "10.yml" ∧ d = first ∨ file = "20.yml" ∧ d = second := by
    intro file d hmem
    obtain ⟨others, hperm, -⟩ := horder.complete
    have hname := hperm.mem_iff.mpr (List.mem_append_left _ (List.mem_map_of_mem hmem))
    have hd := hdocuments file d hmem
    simp only [List.mem_cons, List.not_mem_nil, or_false] at hname
    rcases hname with rfl | rfl | rfl
    · exact .inl ⟨rfl, Except.ok.inj (hd.symm.trans hthird)⟩
    · exact .inr (.inl ⟨rfl, Except.ok.inj (hd.symm.trans hfirst)⟩)
    · exact .inr (.inr ⟨rfl, Except.ok.inj (hd.symm.trans hsecond)⟩)
  refine ⟨hlist, hload, hprintsB, ?_, ?_⟩
  · obtain ⟨prints, -, kept, -⟩ := hagree "ab"
    obtain ⟨file, d, hchooses⟩ := (prints "B").mp hprintsB
    have hname := hchooses.1.name
    rcases hfile file d hchooses.1.mem with ⟨-, rfl⟩ | ⟨-, rfl⟩ | ⟨rfl, -⟩
    · simp [hthirdName] at hname
    · simp [hfirstName] at hname
    · exact kept "B" "20.yml" d hchooses
  · obtain ⟨prints, -⟩ := hagree "c"
    obtain ⟨file, d, hlast, hhandles, -⟩ := (prints "A").mp hprintsA
    obtain ⟨-, -, -, refused⟩ := hagree "a"
    rcases hfile file d hlast.mem with ⟨rfl, -⟩ | ⟨-, rfl⟩ | ⟨-, rfl⟩
    · refine refused ⟨r.size, ?_⟩ "A" "30.yml" d hlast
      rw [Command.runFind_of_none hloaded hnone]
      rfl
    · simp [hfirstC] at hhandles
    · simp [hsecondC] at hhandles

end PageRecords
