import Mathlib.Data.Finset.Card
import PageRecords.Proofs.Document.NormalForm
import PageRecords.Proofs.Extract.PageTokens
import PageRecords.Proofs.Extract.RuleTree
import PageRecords.Proofs.Json.Quoting

/-!
# Records over whole runs

A record is a list of entries that nothing but its own operations keeps free of repeated
names. So what holds of it is what each call preserves, over any run of calls from the empty
record (`record_is_ordered_map`). Records among the values are made by runs of their own, and
the object printed then repeats no key at any depth.
-/

namespace PageRecords

namespace Record

variable {r : Record} {name : String} {values : List Value}

/-- What is asked of a record that changes it. -/
inductive Call where
  | insert (name : String) (values : List Value)
  | withPageUrls (page : Url)

def Call.perform (r : Record) : Call → Record
  | .insert name values => r.insert name values
  | .withPageUrls page => r.withPageUrls page

def run (r : Record) (calls : List Call) : Record := calls.foldl Call.perform r

/-- A call that inserts an entry. -/
def Call.ofEntry (entry : String × List Value) : Call := .insert entry.1 entry.2

theorem run_ofEntry (r : Record) (entries : List (String × List Value)) :
    r.run (entries.map Call.ofEntry) = r.insertAll entries := by
  rw [run, List.foldl_map]
  rfl

-- --------------------------------------------------------------------
-- Names and values
-- --------------------------------------------------------------------

theorem nodup_names_perform (h : r.names.Nodup) (call : Call) :
    (call.perform r).names.Nodup := by
  cases call with
  | insert name values => exact nodup_names_insert h
  | withPageUrls page => exact nodup_names_withPageUrls r page

theorem nodup_names_run (h : r.names.Nodup) (calls : List Call) : (r.run calls).names.Nodup := by
  induction calls generalizing r with
  | nil => exact h
  | cons call rest ih => exact ih (nodup_names_perform h call)

theorem size_eq_card (h : r.names.Nodup) : r.size = r.names.toFinset.card := by
  rw [List.toFinset_card_of_nodup h, names, List.length_map, size]

/-- Insertions under other names leave the values of a name as they are. -/
theorem get?_insertAll_of_not_mem {entries : List (String × List Value)}
    (h : name ∉ entries.map (·.1)) : (r.insertAll entries).get? name = r.get? name := by
  have hnone : entries.reverse.lookup name = none := by
    refine List.lookup_eq_none_iff.mpr fun entry hentry => bne_iff_ne.mpr ?_
    rintro rfl
    exact h (List.mem_map.mpr ⟨entry, List.mem_reverse.mp hentry, rfl⟩)
  rw [get?_insertAll, hnone, Option.none_or]

-- --------------------------------------------------------------------
-- Printed keys
-- --------------------------------------------------------------------

theorem itemsDistinct_valuesToJson (values : List Value) :
    Json.itemsDistinct (valuesToJson values) = true ↔ ∀ v ∈ values, v.toJson.distinctKeys := by
  induction values with
  | nil => simp [valuesToJson, Json.itemsDistinct]
  | cons v rest ih =>
    rw [valuesToJson, Json.itemsDistinct, Bool.and_eq_true, ih, List.forall_mem_cons]

theorem keys_entriesToJson (entries : List (String × List Value)) :
    (entriesToJson entries).map (·.1) = entries.map (·.1) := by
  induction entries with
  | nil => rfl
  | cons entry rest ih => rw [entriesToJson, List.map_cons, List.map_cons, ih]

theorem membersDistinct_entriesToJson (entries : List (String × List Value)) :
    Json.membersDistinct (entriesToJson entries) = true ↔
      ∀ entry ∈ entries, ∀ v ∈ entry.2, v.toJson.distinctKeys := by
  induction entries with
  | nil => simp [entriesToJson, Json.membersDistinct]
  | cons entry rest ih =>
    rw [entriesToJson, Json.membersDistinct, Bool.and_eq_true, ih, List.forall_mem_cons,
      Json.distinctKeys, itemsDistinct_valuesToJson]

theorem distinctKeys_toJson : r.toJson.distinctKeys = true ↔
    r.names.Nodup ∧ ∀ entry ∈ r.entries, ∀ v ∈ entry.2, v.toJson.distinctKeys := by
  rw [toJson, Json.distinctKeys, Bool.and_eq_true, decide_eq_true_iff, keys_entriesToJson,
    membersDistinct_entriesToJson]
  rfl

theorem distinctKeys_insert (h : r.toJson.distinctKeys)
    (hvalues : ∀ v ∈ values, v.toJson.distinctKeys) :
    (r.insert name values).toJson.distinctKeys := by
  obtain ⟨hnames, hentries⟩ := distinctKeys_toJson.mp h
  refine distinctKeys_toJson.mpr ⟨nodup_names_insert hnames, fun entry hentry => ?_⟩
  rcases mem_go hentry with rfl | hold
  · exact hvalues
  · exact hentries entry hold

theorem distinctKeys_withPageUrls (h : r.toJson.distinctKeys) (page : Url) :
    (r.withPageUrls page).toJson.distinctKeys := by
  obtain ⟨-, hentries⟩ := distinctKeys_toJson.mp h
  refine distinctKeys_toJson.mpr ⟨nodup_names_withPageUrls r page, fun entry hentry => ?_⟩
  rcases mem_entries_insertAll _ hentry with htoken | hold
  · -- The tokens are texts.
    have htokens : entry ∈ [(baseUrl, [.text page.origin]), (fullUrl, [.text page.text])] := htoken
    simp only [List.mem_cons, List.not_mem_nil, or_false] at htokens
    rcases htokens with rfl | rfl <;> simp [Value.toJson, Json.distinctKeys]
  · exact hentries entry hold

/-- Made by calls, and each record inserted made in this way as well. -/
inductive Made : Record → Prop
  | run (calls : List Call)
      (inner : ∀ name values, .insert name values ∈ calls →
        ∀ r, .ofRecord r ∈ values → Made r) : Made (empty.run calls)

/-- A value is a text, which has no keys, or a record. -/
theorem distinctKeys_value {v : Value} (h : ∀ r, v = .ofRecord r → r.toJson.distinctKeys) :
    v.toJson.distinctKeys := by
  cases v with
  | text s => rfl
  | record entries => exact h ⟨entries⟩ rfl

theorem distinctKeys_run {calls : List Call} (h : r.toJson.distinctKeys)
    (hinner : ∀ name values, .insert name values ∈ calls →
      ∀ r, .ofRecord r ∈ values → r.toJson.distinctKeys) :
    (r.run calls).toJson.distinctKeys := by
  induction calls generalizing r with
  | nil => exact h
  | cons call rest ih =>
    refine ih ?_ fun name values hcall => hinner name values (List.mem_cons_of_mem _ hcall)
    cases call with
    | insert name values =>
      refine distinctKeys_insert h fun v hv => distinctKeys_value ?_
      rintro r rfl
      exact hinner name values List.mem_cons_self r hv
    | withPageUrls page => exact distinctKeys_withPageUrls h page

theorem Made.distinctKeys (h : r.Made) : r.toJson.distinctKeys := by
  induction h with
  | run calls _ ih => exact distinctKeys_run rfl ih

end Record

-- --------------------------------------------------------------------
-- The map
-- --------------------------------------------------------------------

/-- A record is an ordered map after any calls on the empty one. No name repeats, so its size
is the number of its names. If nothing but insertions made it, the names stand in the order in
which they first came, and each has the values that came last. Whatever made it, insertions
under other names leave the values of a name as they are, and page tokens go to the front and
leave the other entries as they are, in their order. If the records inserted were made by such
calls themselves, no key is printed twice in one object, at any depth. -/
theorem record_is_ordered_map (calls : List Record.Call) :
    let r := Record.empty.run calls
    r.names.Nodup ∧ r.size = r.names.toFinset.card ∧
      (∀ entries : List (String × List Value), calls = entries.map Record.Call.ofEntry →
        r.names = (entries.map (·.1)).eraseDups ∧
          ∀ name, r.get? name = entries.reverse.lookup name) ∧
      (∀ (entries : List (String × List Value)) (name : String), name ∉ entries.map (·.1) →
        (r.run (entries.map Record.Call.ofEntry)).get? name = r.get? name) ∧
      (∀ page, ∃ base full, (r.withPageUrls page).entries =
        (Record.baseUrl, base) :: (Record.fullUrl, full) ::
          r.entries.filter (·.1 ∉ [Record.baseUrl, Record.fullUrl])) ∧
      ((∀ name values, .insert name values ∈ calls → ∀ s, .ofRecord s ∈ values → s.Made) →
        r.toJson.distinctKeys ∧ Function.Injective Json.quote) := by
  intro r
  have hnodup : r.names.Nodup := Record.nodup_names_run (r := .empty) .nil calls
  refine ⟨hnodup, Record.size_eq_card hnodup, ?_, ?_, ?_, ?_⟩
  · rintro entries rfl
    have hr : r = Record.empty.insertAll entries := Record.run_ofEntry _ entries
    refine ⟨by rw [hr, Record.names_insertAll_empty], fun name => ?_⟩
    rw [hr, Record.get?_insertAll]
    exact Option.or_none
  · intro entries name hname
    rw [Record.run_ofEntry]
    exact Record.get?_insertAll_of_not_mem hname
  · intro page
    exact ⟨_, _, Record.entries_withPageUrls hnodup page⟩
  · intro hmade
    exact ⟨(Record.Made.run calls hmade).distinctKeys, Json.quote_injective⟩

/-- What a comment is taken as. -/
def commentBy (author : String) : Record := Record.empty.run [.insert "author" [.text author]]

/-- Comments under a name that is inserted again after another one. -/
def commentEntries : List (String × List Value) :=
  [("comments", [.ofRecord (commentBy "ann")]), ("title", [.text "Hello"]),
    ("comments", [.ofRecord (commentBy "bob"), .ofRecord (commentBy "cy")])]

theorem ofRecord_injective : Function.Injective Value.ofRecord := by
  rintro ⟨entries⟩ ⟨_⟩ ⟨⟩
  rfl

theorem commentBy_made (author : String) : (commentBy author).Made :=
  .run _ fun name values hcall r hr => by
    cases List.mem_singleton.mp hcall
    cases List.mem_singleton.mp hr

theorem comments_made {name : String} {values : List Value}
    (hcall : .insert name values ∈ commentEntries.map Record.Call.ofEntry) {r : Record}
    (hr : .ofRecord r ∈ values) : r.Made := by
  simp only [commentEntries, List.map_cons, List.map_nil, List.mem_cons, List.not_mem_nil, or_false,
    Record.Call.ofEntry, Record.Call.insert.injEq] at hcall
  obtain ⟨-, rfl⟩ | ⟨-, rfl⟩ | ⟨-, rfl⟩ := hcall
  · obtain rfl := ofRecord_injective (List.mem_singleton.mp hr)
    exact commentBy_made "ann"
  · cases List.mem_singleton.mp hr
  · simp only [List.mem_cons, List.not_mem_nil, or_false] at hr
    obtain hr | hr := hr <;> obtain rfl := ofRecord_injective hr
    · exact commentBy_made "bob"
    · exact commentBy_made "cy"

/-- The name that came first stays first, with the comments that came last. -/
theorem comments_keep_their_place :
    (∀ name values, .insert name values ∈ commentEntries.map Record.Call.ofEntry →
      ∀ s, .ofRecord s ∈ values → s.Made) ∧
    "title" ∉ [("comments", ([] : List Value))].map (·.1) ∧
    let r := Record.empty.run (commentEntries.map Record.Call.ofEntry)
    r.names = ["comments", "title"] ∧
      (r.run [.insert "comments" []]).texts? "title" = some ["Hello"] ∧ r.toJson.distinctKeys := by
  have hmade : ∀ name values, .insert name values ∈ commentEntries.map Record.Call.ofEntry →
      ∀ s, .ofRecord s ∈ values → s.Made := fun _ _ hcall _ => comments_made hcall
  have hnot : "title" ∉ [("comments", ([] : List Value))].map (·.1) := by decide
  obtain ⟨-, -, hinserts, hothers, -, hkeys⟩ :=
    record_is_ordered_map (commentEntries.map Record.Call.ofEntry)
  obtain ⟨hnames, hget⟩ := hinserts commentEntries rfl
  have hother := (hothers _ "title" hnot).trans (hget "title")
  refine ⟨hmade, hnot, hnames.trans (by decide), ?_, (hkeys hmade).1⟩
  exact congrArg (Option.map (·.filterMap Value.text?)) hother

end PageRecords
