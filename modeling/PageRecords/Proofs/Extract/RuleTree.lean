import PageRecords.Proofs.Extract.BlockFailure
import PageRecords.Proofs.Extract.RulesCompose

/-!
# Records and failures follow the rule tree

What a document takes from a page has the shape of its rules, at every depth:
`extraction_follows_rules`. Texts and records are never mixed, for a match that is to have
sub-rules evaluated inside gives no texts. A failure's path leads through the rules to the
match with the malformed selector.
-/

namespace PageRecords

open Dom (Forest NodeId Place)
open Extract

variable {f : Forest} {context : NodeId} {p : Place} {cause : BadSelector} {hasSubRules : Bool}

-- --------------------------------------------------------------------
-- Malformed selectors
-- --------------------------------------------------------------------

namespace MatchBlock

variable {b : MatchBlock}

/-- The cause is a selector of the block that cannot be read. -/
def FailsBy (b : MatchBlock) (cause : BadSelector) : Prop :=
  cause.selector ∈ b.selectors ∧ Selector.parse? cause.selector = none

theorem outcome_error (h : b.outcome p hasSubRules = .error cause) : b.FailsBy cause := by
  have hfirst := firstUnreadable?_selectors (outcome_error_iff.mp h)
  have hbad : Unreadable cause.selector := by simpa using List.find?_some hfirst
  exact ⟨List.mem_of_find?_eq_some hfirst, hbad⟩

end MatchBlock

/-- Places are found for sub-rules only, and for sub-rules no text is. -/
def Found.Suits (hasSubRules : Bool) : Found → Prop
  | .places _ => hasSubRules = true
  | .values vs => hasSubRules = true → vs = []

theorem MatchBlock.outcome_suits {b : MatchBlock} {found : Found}
    (h : b.outcome p hasSubRules = .ok found) : found.Suits hasSubRules := by
  simp only [outcome, bind_ok] at h
  obtain ⟨ps, -, h⟩ := h
  cases hasSubRules with
  | true =>
    cases h
    rfl
  | false =>
    cases h
    intro htrue
    cases htrue

namespace MatchSpec

variable {spec : MatchSpec} {bs : List MatchBlock} {found : Found}

theorem firstOutcome_error (h : firstOutcome p hasSubRules bs = .error cause) :
    ∃ b ∈ bs, b.FailsBy cause := by
  induction bs with
  | nil => cases h
  | cons b rest ih =>
    simp only [firstOutcome, bind_error] at h
    rcases h with h | ⟨found, -, h⟩
    · exact ⟨b, List.mem_cons_self, MatchBlock.outcome_error h⟩
    · split at h
      · obtain ⟨c, hc, hfails⟩ := ih h
        exact ⟨c, List.mem_cons_of_mem _ hc, hfails⟩
      · cases h

theorem firstOutcome_suits (h : firstOutcome p hasSubRules bs = .ok found) :
    found.Suits hasSubRules := by
  induction bs with
  | nil =>
    cases h
    exact fun _ => rfl
  | cons b rest ih =>
    simp only [firstOutcome, bind_ok] at h
    obtain ⟨first, hfirst, h⟩ := h
    split at h
    · exact ih h
    · cases h
      exact MatchBlock.outcome_suits hfirst

theorem outcome_error (h : spec.outcome p hasSubRules = .error cause) :
    ∃ b ∈ spec.blocks, b.FailsBy cause := by
  cases spec with
  | single b => exact ⟨b, List.mem_singleton_self b, MatchBlock.outcome_error h⟩
  | any bs => exact firstOutcome_error h

theorem outcome_suits (h : spec.outcome p hasSubRules = .ok found) :
    found.Suits hasSubRules := by
  cases spec with
  | single b => exact MatchBlock.outcome_suits h
  | any bs => exact firstOutcome_suits h

end MatchSpec

-- --------------------------------------------------------------------
-- Records
-- --------------------------------------------------------------------

/-- The names of the record are distinct, and each entry comes from a rule of its name: texts
if the rule has no sub-rules, else records that follow these in turn. -/
def Record.Follows (r : Record) (rules : List Rule) : Prop :=
  r.names.Nodup ∧ ∀ entry ∈ r.entries, ∃ rule, ∃ _ : rule ∈ rules, rule.name = entry.1 ∧
    (rule.subRules = [] → ∀ v ∈ entry.2, ∃ s, v = .text s) ∧
    (rule.subRules ≠ [] →
      ∀ v ∈ entry.2, ∃ inner : Record, v = .ofRecord inner ∧ inner.Follows rule.subRules)
termination_by sizeOf rules
decreasing_by
  have hlt := List.sizeOf_lt_of_mem ‹rule ∈ rules›
  cases rule
  simp at hlt ⊢
  omega

/-- The values are such as an entry made by the rule has. -/
def Rule.Gives (r : Rule) (values : List Value) : Prop :=
  (r.subRules = [] → ∀ v ∈ values, ∃ s, v = .text s) ∧
    (r.subRules ≠ [] → ∀ v ∈ values, ∃ inner : Record, v = .ofRecord inner ∧ inner.Follows r.subRules)

theorem Record.follows_iff {r : Record} {rules : List Rule} : r.Follows rules ↔
    r.names.Nodup ∧ ∀ entry ∈ r.entries, ∃ rule ∈ rules, rule.name = entry.1 ∧
      rule.Gives entry.2 := by
  rw [Follows]
  simp only [Rule.Gives, exists_prop]

theorem Record.mem_go {entry : String × List Value} {name : String} {values : List Value}
    {entries : List (String × List Value)} (h : entry ∈ insert.go name values entries) :
    entry = (name, values) ∨ entry ∈ entries := by
  induction entries with
  | nil => exact .inl (List.mem_singleton.mp h)
  | cons first rest ih =>
    rw [insert.go] at h
    split at h
    · next heq =>
      rcases List.mem_cons.mp h with h | h
      · exact .inl (heq ▸ h)
      · exact .inr (List.mem_cons_of_mem _ h)
    · rcases List.mem_cons.mp h with rfl | h
      · exact .inr List.mem_cons_self
      · exact (ih h).imp_right (List.mem_cons_of_mem _)

theorem Record.mem_entries_insertAll {entry : String × List Value} (r : Record)
    {entries : List (String × List Value)} (h : entry ∈ (r.insertAll entries).entries) :
    entry ∈ r.entries ∨ entry ∈ entries := by
  induction entries generalizing r with
  | nil => exact .inl h
  | cons first rest ih =>
    rcases ih _ h with h | h
    · rcases mem_go h with rfl | h
      · exact .inr List.mem_cons_self
      · exact .inl h
    · exact .inr (List.mem_cons_of_mem _ h)

namespace Rule

theorem gives_replaced {r : Rule} (values : List String)
    (hvalues : r.subRules ≠ [] → values = []) :
    r.Gives (Value.replaced r.replacement values) := by
  refine ⟨fun _ v hv => ?_, fun hne v hv => ?_⟩
  · obtain ⟨s, -, rfl⟩ := List.mem_map.mp hv
    exact ⟨_, rfl⟩
  · rw [hvalues hne] at hv
    cases hv

theorem follows_insertAll {rules : List Rule} {entries : List (String × List Value)}
    (h : ∀ entry ∈ entries, ∃ r ∈ rules, r.name = entry.1 ∧ r.Gives entry.2) :
    (Record.empty.insertAll entries).Follows rules := by
  refine Record.follows_iff.mpr ⟨Record.nodup_names_insertAll_empty _, fun entry hentry => ?_⟩
  rcases Record.mem_entries_insertAll _ hentry with hempty | hmem
  · cases hempty
  · exact h entry hmem

-- What is given by a rule on its own and what by the rules inside it go by one induction on
-- the tree of rules.
mutual
theorem outcome_gives {p : Place} (path : List String) : (r : Rule) → r.Normal →
    Everywhere Normal r.subRules → ∀ values, (r.outcome path p).result = .ok values →
    r.Gives values
  | ⟨name, source, subRules, replacement⟩, hnormal, hbelow, values, h => by
    have hmatch : subRules ≠ [] → ∃ spec, source = .match_ spec := fun hne =>
      (hnormal.subRules hne).2.imp fun _ hspec => hspec.1
    cases source with
    | literals texts =>
      cases h
      exact gives_replaced _ fun hne => nomatch hmatch hne
    | attr attribute_ =>
      cases h
      exact gives_replaced _ fun hne => nomatch hmatch hne
    | match_ spec =>
      simp only [outcome] at h
      split at h
      · cases h
      · next texts hfound =>
        cases h
        have hsuits := MatchSpec.outcome_suits hfound
        exact gives_replaced _ fun hne => hsuits (by simpa using hne)
      · next ps hfound =>
        cases h
        have hsuits : (!subRules.isEmpty) = true := MatchSpec.outcome_suits hfound
        have hsome : subRules ≠ [] := by simpa using hsuits
        refine ⟨fun hnil => absurd hnil hsome, fun _ v hv => ?_⟩
        simp only [List.map_map, List.mem_map] at hv
        obtain ⟨q, -, rfl⟩ := hv
        exact ⟨_, rfl, follows_insertAll (entries_given (path ++ [name]) subRules hbelow)⟩
theorem entries_given {p : Place} (path : List String) : (rules : List Rule) →
    Everywhere Normal rules → ∀ entry ∈ entriesOf (outcomes path p rules),
      ∃ r ∈ rules, r.name = entry.1 ∧ r.Gives entry.2
  | [], _ => by simp [outcomes, entriesOf]
  | rule :: rest, h => by
    obtain ⟨hrule, hbelow, hrest⟩ := everywhere_cons.mp h
    intro entry hentry
    simp only [outcomes, entriesOf, List.mem_filterMap, List.mem_cons] at hentry
    obtain ⟨o, rfl | ho, hsuccess⟩ := hentry
    · rw [Outcome.success?] at hsuccess
      split at hsuccess
      · next values hvalues =>
        cases hsuccess
        exact ⟨rule, List.mem_cons_self, (outcome_name path p rule).symm,
          outcome_gives path rule hrule hbelow values hvalues⟩
      · cases hsuccess
    · obtain ⟨r, hr, hgives⟩ := entries_given path rest hrest entry
        (List.mem_filterMap.mpr ⟨o, ho, hsuccess⟩)
      exact ⟨r, List.mem_cons_of_mem _ hr, hgives⟩
end

-- --------------------------------------------------------------------
-- Failures
-- --------------------------------------------------------------------

/-- The names lead from a list of rules through sub-rules to a rule. -/
inductive Chain : List Rule → List String → Rule → Prop
  | here {rules : List Rule} {r : Rule} (h : r ∈ rules) : Chain rules [r.name] r
  | inside {rules : List Rule} {r s : Rule} {names : List String} (h : r ∈ rules)
      (hinside : Chain r.subRules names s) : Chain rules (r.name :: names) s

theorem Chain.mono {rules more : List Rule} {names : List String} {r : Rule}
    (hsub : ∀ q ∈ rules, q ∈ more) (h : Chain rules names r) : Chain more names r := by
  cases h with
  | here h => exact .here (hsub _ h)
  | inside h hinside => exact .inside (hsub _ h) hinside

/-- The rule takes matches, and one of its blocks has the malformed selector. -/
def FailsBy (r : Rule) (cause : BadSelector) : Prop :=
  ∃ spec, r.source = .match_ spec ∧ ∃ b ∈ spec.blocks, b.FailsBy cause

/-- The failure's path goes on from another one along a chain of names to the rule that
fails by its cause. -/
def Leads (path : List String) (rules : List Rule) (x : Failure) : Prop :=
  ∃ names r, x.path = path ++ names ∧ Chain rules names r ∧ r.FailsBy x.cause

theorem failsBy_of_error {path : List String} (r : Rule)
    (h : (r.outcome path p).result = .error cause) : r.FailsBy cause := by
  obtain ⟨name, source, subRules, replacement⟩ := r
  cases source with
  | literals values => cases h
  | attr attribute_ => cases h
  | match_ spec =>
    simp only [outcome] at h
    split at h
    · next hbad =>
      cases h
      exact ⟨spec, rfl, MatchSpec.outcome_error hbad⟩
    · cases h
    · cases h

mutual
theorem inner_leads {p : Place} (path : List String) : (r : Rule) →
    ∀ x ∈ (r.outcome path p).inner, Leads (path ++ [r.name]) r.subRules x
  | ⟨name, source, subRules, replacement⟩ => by
    cases source with
    | literals values => simp [outcome]
    | attr attribute_ => simp [outcome]
    | match_ spec =>
      intro x hx
      simp only [outcome] at hx
      split at hx
      · cases hx
      · cases hx
      · simp only [List.flatMap_map, List.mem_flatMap] at hx
        obtain ⟨q, -, hx⟩ := hx
        exact failures_lead (path ++ [name]) subRules x hx
theorem failures_lead {p : Place} (path : List String) : (rules : List Rule) →
    ∀ x ∈ failuresOf path (outcomes path p rules), Leads path rules x
  | [] => by simp [outcomes, failuresOf]
  | rule :: rest => by
    intro x hx
    simp only [outcomes, failuresOf, List.flatMap_cons, List.mem_append] at hx
    rcases hx with hx | hx
    · have hinner : x ∈ (rule.outcome path p).inner → Leads path (rule :: rest) x := by
        intro hx
        obtain ⟨names, r, hpath, hchain, hfails⟩ := inner_leads path rule x hx
        exact ⟨rule.name :: names, r, by simpa using hpath, .inside List.mem_cons_self hchain, hfails⟩
      rw [Outcome.failures] at hx
      split at hx
      · exact hinner hx
      · next cause hcause =>
        rcases List.mem_append.mp hx with hx | hx
        · exact hinner hx
        · cases List.mem_singleton.mp hx
          rw [outcome_name]
          exact ⟨[rule.name], rule, rfl, .here List.mem_cons_self, failsBy_of_error rule hcause⟩
    · obtain ⟨names, r, hpath, hchain, hfails⟩ := failures_lead path rest x hx
      exact ⟨names, r, hpath, hchain.mono fun _ => List.mem_cons_of_mem _, hfails⟩
end

end Rule

-- --------------------------------------------------------------------
-- Documents
-- --------------------------------------------------------------------

theorem RuleDocument.extraction_of_ok {d : RuleDocument} {e : Extraction}
    (h : d.outcome p = .ok e) :
    e.record = Record.empty.insertAll (Rule.entriesOf (Rule.outcomes [] p d.rules)) ∧
      e.failures = Rule.failuresOf [] (Rule.outcomes [] p d.rules) := by
  simp only [outcome] at h
  split at h
  · cases h
  · cases h
    exact ⟨rfl, rfl⟩

/-- What a document takes from a page follows its rules. The record has distinct names,
each of a rule that its values fit, and so have the records inside. The path of a failure
spells the names from one of the document's rules down to a rule with a match, and its
cause is a selector of one of the match's blocks that cannot be read. Contexts that a template
holds are left out. -/
theorem extraction_follows_rules {raw : Json} {d : RuleDocument} {e : Extraction}
    (hread : RuleDocument.read raw = .ok d) (wf : f.WellFormed)
    (hcontext : (f.place? context).isSome) (he : (d.evaluate context f).1 = .ok e) :
    e.record.Follows d.rules ∧
      ∀ x ∈ e.failures, ∃ r spec b, Rule.Chain d.rules x.path r ∧ r.source = .match_ spec ∧
        b ∈ spec.blocks ∧ x.cause.selector ∈ b.selectors ∧
        Selector.parse? x.cause.selector = none := by
  obtain ⟨p, hp⟩ := Forest.exists_shows hcontext
  obtain ⟨own, hnormal⟩ := read_gives_normal_form hread
  rw [(d.evaluate_gives wf hp).1] at he
  obtain ⟨hrecord, hfailures⟩ := RuleDocument.extraction_of_ok he
  refine ⟨?_, fun x hx => ?_⟩
  · rw [hrecord]
    exact Rule.follows_insertAll (Rule.entries_given [] d.rules hnormal.everyRule)
  · rw [hfailures] at hx
    obtain ⟨names, r, hpath, hchain, spec, hspec, b, hb, hmem, hbad⟩ :=
      Rule.failures_lead [] d.rules x hx
    rw [List.nil_append] at hpath
    exact ⟨r, spec, b, hpath ▸ hchain, hspec, hb, hmem, hbad⟩

/-- A rule for sections whose sub-rule has a selector that cannot be read. -/
def brokenPartDocument : Json :=
  .object [
    ("info", .object [("name", .string "Parts"), ("type", .string "feed"),
      ("domain", .string "a.b"), ("suggestedRegex", .string "a")]),
    ("rules", .array [.object [("name", .string "part"), ("match", .string "section"),
      ("rules", .array [.object [("name", .string "text"), ("match", .string "[")]])]])]

theorem broken_part_follows_rules :
    ∃ d e, RuleDocument.read brokenPartDocument = .ok d ∧ templatePage.WellFormed ∧
      (templatePage.place? 0).isSome ∧ (d.evaluate 0 templatePage).1 = .ok e ∧
      e.failures = [⟨["part", "text"], ⟨"["⟩⟩] ∧ e.record.Follows d.rules ∧
      ∃ r, Rule.Chain d.rules ["part", "text"] r := by
  have hrun : ((RuleDocument.read brokenPartDocument).toOption.bind fun d =>
      (d.evaluate 0 templatePage).1.toOption).map (·.failures) =
        some [⟨["part", "text"], ⟨"["⟩⟩] := by decide +kernel
  cases hread : RuleDocument.read brokenPartDocument with
  | error fault => simp [hread, Except.toOption] at hrun
  | ok d =>
    cases he : (d.evaluate 0 templatePage).1 with
    | error failed => simp [hread, he, Except.toOption] at hrun
    | ok e =>
      have hfailures : e.failures = [⟨["part", "text"], ⟨"["⟩⟩] := by
        simpa [hread, he, Except.toOption] using hrun
      have wf : templatePage.WellFormed := ⟨by decide, by decide⟩
      obtain ⟨hrecord, hchains⟩ := extraction_follows_rules hread wf (by decide) he
      obtain ⟨r, -, -, hchain, -⟩ := hchains _ (hfailures ▸ List.mem_singleton_self _)
      exact ⟨d, e, rfl, wf, by decide, he, hfailures, hrecord, r, hchain⟩

end PageRecords
