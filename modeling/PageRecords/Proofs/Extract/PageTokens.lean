import PageRecords.Extract.PageTokens
import PageRecords.Extract.Rule
import PageRecords.Proofs.Extract.RecordLaws

/-!
# Page tokens and entries

Tokens and entries share their names. An insertion keeps the position of a name and takes the
last values, so the tokens stand first whatever the rules are called, while an entry named like
one of them has its values there (`page_tokens_come_first`). A record that has its tokens keeps
them: those of another page do not replace them.
-/

namespace PageRecords

open Dom (Forest NodeId)

namespace Record

variable {name : String} {values : List Value}

-- --------------------------------------------------------------------
-- Insertion where names are distinct
-- --------------------------------------------------------------------

theorem nodup_names_insert {r : Record} (h : r.names.Nodup) : (r.insert name values).names.Nodup := by
  rw [names_insert]
  split
  · exact h
  · next hnot =>
    refine List.nodup_append.mpr ⟨h, by simp, ?_⟩
    rintro n hn _ hname rfl
    exact hnot (List.mem_singleton.mp hname ▸ hn)

theorem nodup_names_insertAll {r : Record} (h : r.names.Nodup)
    (xs : List (String × List Value)) : (r.insertAll xs).names.Nodup := by
  induction xs generalizing r with
  | nil => exact h
  | cons x xs ih => exact ih (nodup_names_insert h)

theorem insert_of_not_mem {r : Record} (h : name ∉ r.names) :
    (r.insert name values).entries = r.entries ++ [(name, values)] := by
  obtain ⟨entries⟩ := r
  rw [entries_insert]
  dsimp only
  induction entries with
  | nil => rfl
  | cons entry rest ih =>
    obtain ⟨n, vs⟩ := entry
    obtain ⟨hne, hrest⟩ := not_or.mp (List.mem_cons.not.mp h)
    rw [insert.go, if_neg (Ne.symm hne), ih hrest, List.cons_append]

theorem insert_of_mem {r : Record} (hr : r.names.Nodup) (h : name ∈ r.names) :
    (r.insert name values).entries =
      r.entries.map fun e => if e.1 = name then (e.1, values) else e := by
  obtain ⟨entries⟩ := r
  rw [entries_insert]
  dsimp only
  induction entries with
  | nil => cases h
  | cons entry rest ih =>
    obtain ⟨n, vs⟩ := entry
    obtain ⟨hnot, hrest⟩ := List.nodup_cons.mp hr
    by_cases hn : n = name
    · subst hn
      have hothers : rest.map (fun e => if e.1 = n then (e.1, values) else e) = rest := by
        refine (List.map_congr_left fun e he => if_neg fun heq => ?_).trans (List.map_id' rest)
        exact hnot (List.mem_map.mpr ⟨e, he, heq⟩)
      rw [insert.go, if_pos rfl, List.map_cons, if_pos rfl, hothers]
    · have hmem := (List.mem_cons.mp h).resolve_left (Ne.symm hn)
      rw [insert.go, if_neg hn, List.map_cons, if_neg hn, ih hrest hmem]

/-- What was there keeps its position and takes new values if there are any; the new names
follow in their order. -/
theorem entries_insertAll {r : Record} {xs : List (String × List Value)} (hr : r.names.Nodup)
    (hxs : (xs.map (·.1)).Nodup) :
    (r.insertAll xs).entries =
      r.entries.map (fun e => (e.1, (xs.lookup e.1).getD e.2)) ++
        xs.filter (·.1 ∉ r.names) := by
  induction xs generalizing r with
  | nil => simp
  | cons x rest ih =>
    obtain ⟨n, vs⟩ := x
    obtain ⟨hnot, hrest⟩ := List.nodup_cons.mp hxs
    have hgone : rest.lookup n = none := by
      refine List.lookup_eq_none_iff.mpr fun e he => ?_
      exact bne_iff_ne.mpr fun heq => hnot (List.mem_map.mpr ⟨e, he, heq.symm⟩)
    rw [insertAll_cons, ih (nodup_names_insert hr) hrest, names_insert]
    by_cases hn : n ∈ r.names
    · rw [if_pos hn, insert_of_mem hr hn, List.map_map, List.filter_cons_of_neg (by simpa using hn)]
      congr 1
      refine List.map_congr_left fun e _ => ?_
      by_cases he : e.1 = n <;> simp [lookup_cons_if, he, hgone]
    · have hsame : rest.filter (·.1 ∉ r.names ++ [n]) = rest.filter (·.1 ∉ r.names) := by
        refine List.filter_congr fun e he => ?_
        have hne : e.1 ≠ n := fun heq => hnot (List.mem_map.mpr ⟨e, he, heq⟩)
        simp [hne]
      have hkept : r.entries.map (fun e => (e.1, (rest.lookup e.1).getD e.2)) =
          r.entries.map (fun e => (e.1, (((n, vs) :: rest).lookup e.1).getD e.2)) := by
        refine List.map_congr_left fun e he => ?_
        have hne : e.1 ≠ n := fun heq => hn (heq ▸ List.mem_map.mpr ⟨e, he, rfl⟩)
        simp [lookup_cons_if, hne]
      rw [if_neg hn, insert_of_not_mem hn, List.map_append, List.map_singleton, hgone,
        List.filter_cons_of_pos (by simpa using hn), hsame, hkept, List.append_assoc]
      rfl

-- --------------------------------------------------------------------
-- The two tokens
-- --------------------------------------------------------------------

/-- The tokens stand first, with the values of the entries of their names if there are such;
the other entries follow. -/
theorem entries_withPageUrls {r : Record} (h : r.names.Nodup) (page : Url) :
    (r.withPageUrls page).entries =
      (baseUrl, (r.get? baseUrl).getD [.text page.origin]) ::
        (fullUrl, (r.get? fullUrl).getD [.text page.text]) ::
          r.entries.filter (·.1 ∉ [baseUrl, fullUrl]) :=
  entries_insertAll (r := ⟨[(baseUrl, [.text page.origin]), (fullUrl, [.text page.text])]⟩)
    (show [baseUrl, fullUrl].Nodup by decide) h

theorem nodup_names_withPageUrls (r : Record) (page : Url) : (r.withPageUrls page).names.Nodup :=
  nodup_names_insertAll (r := ⟨[(baseUrl, [.text page.origin]), (fullUrl, [.text page.text])]⟩)
    (show [baseUrl, fullUrl].Nodup by decide) r.entries

theorem get?_baseUrl_withPageUrls {r : Record} (h : r.names.Nodup) (page : Url) :
    (r.withPageUrls page).get? baseUrl = some ((r.get? baseUrl).getD [.text page.origin]) := by
  rw [get?, entries_withPageUrls h, lookup_cons_if, if_pos rfl]

theorem get?_fullUrl_withPageUrls {r : Record} (h : r.names.Nodup) (page : Url) :
    (r.withPageUrls page).get? fullUrl = some ((r.get? fullUrl).getD [.text page.text]) := by
  have hne : fullUrl ≠ baseUrl := by decide
  rw [get?, entries_withPageUrls h, lookup_cons_if, if_neg hne, lookup_cons_if, if_pos rfl]

/-- Tokens that are there stay. -/
theorem withPageUrls_withPageUrls {r : Record} (h : r.names.Nodup) (p q : Url) :
    (r.withPageUrls p).withPageUrls q = r.withPageUrls p := by
  have hentries : ((r.withPageUrls p).withPageUrls q).entries = (r.withPageUrls p).entries := by
    rw [entries_withPageUrls (nodup_names_withPageUrls r p), get?_baseUrl_withPageUrls h,
      get?_fullUrl_withPageUrls h, Option.getD_some, Option.getD_some, entries_withPageUrls h,
      List.filter_cons_of_neg (by simp), List.filter_cons_of_neg (by simp), List.filter_filter]
    simp only [Bool.and_self]
  exact congrArg Record.mk hentries

end Record

-- --------------------------------------------------------------------
-- The record of a page
-- --------------------------------------------------------------------

namespace Rule

theorem nodup_names_evaluateAllAt (path : List String) (context : NodeId) (f : Forest)
    {r : Record} (h : r.names.Nodup) (rules : List Rule) :
    (evaluateAllAt path context f r rules).result.names.Nodup := by
  induction rules generalizing f r with
  | nil => simpa [evaluateAllAt] using h
  | cons rule rest ih =>
    rw [evaluateAllAt]
    dsimp only
    split
    · exact ih _ (Record.nodup_names_insert h)
    · exact ih _ h

theorem names_evaluateAllAt (path : List String) (context : NodeId) (f : Forest) (r : Record)
    (rules : List Rule) {name : String}
    (h : name ∈ (evaluateAllAt path context f r rules).result.names) :
    name ∈ r.names ∨ ∃ rule ∈ rules, rule.name = name := by
  induction rules generalizing f r with
  | nil => exact .inl (by simpa [evaluateAllAt] using h)
  | cons rule rest ih =>
    rw [evaluateAllAt] at h
    dsimp only at h
    split at h
    · obtain hmem | ⟨later, hlater, hname⟩ := ih _ _ h
      · rw [Record.names_insert] at hmem
        split at hmem
        · exact .inl hmem
        · obtain hmem | hmem := List.mem_append.mp hmem
          · exact .inl hmem
          · exact .inr ⟨rule, List.mem_cons_self, (List.mem_singleton.mp hmem).symm⟩
      · exact .inr ⟨later, List.mem_cons_of_mem _ hlater, hname⟩
    · obtain hmem | ⟨later, hlater, hname⟩ := ih _ _ h
      · exact .inl hmem
      · exact .inr ⟨later, List.mem_cons_of_mem _ hlater, hname⟩

end Rule

/-- The record that rules make of a page, as it is handed on: `BASE_URL`, `FULL_URL`, then the
other entries as they were, in their order. The tokens hold the origin and the text of the
page's address unless a rule is named like one of them: then that rule's values stand under
the token. Handing the result on for another page leaves it as it is. -/
theorem page_tokens_come_first (path : List String) (context : NodeId) (f : Forest)
    (rules : List Rule) (p q : Url) :
    let r := (Rule.evaluateAllAt path context f .empty rules).result
    (r.withPageUrls p).entries =
        (Record.baseUrl, (r.get? Record.baseUrl).getD [.text p.origin]) ::
          (Record.fullUrl, (r.get? Record.fullUrl).getD [.text p.text]) ::
            r.entries.filter (·.1 ∉ [Record.baseUrl, Record.fullUrl]) ∧
      ((∀ rule ∈ rules, rule.name ∉ [Record.baseUrl, Record.fullUrl]) →
        (r.withPageUrls p).entries = (Record.baseUrl, [.text p.origin]) ::
          (Record.fullUrl, [.text p.text]) :: r.entries) ∧
      (r.withPageUrls p).withPageUrls q = r.withPageUrls p := by
  intro r
  have hnodup : r.names.Nodup :=
    Rule.nodup_names_evaluateAllAt path context f (r := .empty) .nil rules
  refine ⟨Record.entries_withPageUrls hnodup p, fun hrules => ?_,
    Record.withPageUrls_withPageUrls hnodup p q⟩
  have hnames : ∀ name ∈ r.names, name ∉ [Record.baseUrl, Record.fullUrl] := by
    intro name hname
    obtain hempty | ⟨rule, hrule, rfl⟩ := Rule.names_evaluateAllAt path context f .empty rules hname
    · cases hempty
    · exact hrules rule hrule
  have hnone : ∀ name ∈ [Record.baseUrl, Record.fullUrl], r.get? name = none := by
    intro name htoken
    refine List.lookup_eq_none_iff.mpr fun e he => bne_iff_ne.mpr ?_
    rintro rfl
    exact hnames e.1 (List.mem_map.mpr ⟨e, he, rfl⟩) htoken
  have hall : r.entries.filter (·.1 ∉ [Record.baseUrl, Record.fullUrl]) = r.entries :=
    List.filter_eq_self.mpr fun e he =>
      decide_eq_true (hnames e.1 (List.mem_map.mpr ⟨e, he, rfl⟩))
  rw [Record.entries_withPageUrls hnodup, hnone _ (by simp), hnone _ (by simp), hall]
  rfl

def storyAddress : Url where
  scheme := "https"
  authority := some ⟨"", "", .name "news.example.com", none⟩
  path := .rooted ["story", "42"]
  query := some "page=all"
  fragment := none

def otherAddress : Url := { storyAddress with path := .rooted ["story", "43"], query := none }

/-- A rule of that name that takes one text. -/
def textRule (name : String) : Rule := ⟨name, .literals ["x"], [], none⟩

/-- A rule of another name leaves the tokens to the page. -/
theorem headline_follows_the_tokens :
    (∀ rule ∈ [textRule "headline"], rule.name ∉ [Record.baseUrl, Record.fullUrl]) ∧
      let r := (Rule.evaluateAllAt [] 0 (Forest.ofHtml "") .empty [textRule "headline"]).result
      (r.withPageUrls storyAddress).entries =
        (Record.baseUrl, [.text storyAddress.origin]) ::
          (Record.fullUrl, [.text storyAddress.text]) :: r.entries :=
  ⟨by decide, (page_tokens_come_first [] 0 (Forest.ofHtml "") [textRule "headline"] storyAddress
    storyAddress).2.1 (by decide)⟩

/-- A rule named like a token hides the page's origin, and a second page does not get its own
tokens. -/
theorem named_like_a_token_hides_the_page :
    let r := (Rule.evaluateAllAt [] 0 (Forest.ofHtml "") .empty [textRule "BASE_URL"]).result
    let tokens := r.withPageUrls storyAddress
    let again := tokens.withPageUrls otherAddress
    storyAddress.origin = "https://news.example.com" ∧
      tokens.texts? Record.baseUrl = some ["x"] ∧
      otherAddress.text = "https://news.example.com/story/43" ∧
      again.texts? Record.fullUrl = some ["https://news.example.com/story/42?page=all"] := by
  decide +kernel

end PageRecords
