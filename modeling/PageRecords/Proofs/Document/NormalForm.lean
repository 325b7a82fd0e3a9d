import PageRecords.Proofs.Document.ReadLaws

/-!
# The normal form of documents

`read_gives_normal_form`: whatever value a document is read from, what the readers
accept is in normal form. Evaluation relies on it, at every depth of rules.
-/

namespace PageRecords

open Json (Members)

-- --------------------------------------------------------------------
-- Positions
-- --------------------------------------------------------------------

section Positions

variable {α β : Type} {below : α → List α} {under : β → List β} {R : α → β → Prop}
  {as : List α} {bs : List β} {a : α} {b : β} {i : Nat}

/-- What stands at a position: an index into a list, then into what is below, and so on. -/
def descend (below : α → List α) (as : List α) (i : Nat) : List Nat → Option α
  | [] => as[i]?
  | j :: path => as[i]?.bind fun a => descend below (below a) j path

theorem descend_induct {P : α → Prop} (hbelow : ∀ a, P a → ∀ b ∈ below a, P b)
    (has : ∀ a ∈ as, P a) (path : List Nat) (ha : descend below as i path = some a) : P a := by
  induction path generalizing as i with
  | nil => exact has a (List.mem_of_getElem? ha)
  | cons j path ih =>
    obtain ⟨top, htop, ha⟩ := Option.bind_eq_some_iff.mp ha
    exact ih (hbelow top (has top (List.mem_of_getElem? htop))) ha

theorem forall₂_getElem? (h : List.Forall₂ R as bs) (hb : bs[i]? = some b) :
    ∃ a, as[i]? = some a ∧ R a b := by
  induction h generalizing i with
  | nil => cases hb
  | @cons a c as bs hac _ ih =>
    cases i with
    | zero =>
      cases hb
      exact ⟨a, rfl, hac⟩
    | succ i => exact ih hb

theorem forall₂_mem (h : List.Forall₂ R as bs) (hb : b ∈ bs) : ∃ a ∈ as, R a b := by
  obtain ⟨i, hi⟩ := List.getElem?_of_mem hb
  obtain ⟨a, ha, hab⟩ := forall₂_getElem? h hi
  exact ⟨a, List.mem_of_getElem? ha, hab⟩

/-- What stands at one position in related trees is related. -/
theorem descend_related (hR : ∀ a b, R a b → List.Forall₂ R (below a) (under b))
    (h : List.Forall₂ R as bs) (path : List Nat) (hb : descend under bs i path = some b) :
    ∃ a, descend below as i path = some a ∧ R a b := by
  induction path generalizing as bs i with
  | nil => exact forall₂_getElem? h hb
  | cons j path ih =>
    obtain ⟨bottom, hbottom, hb⟩ := Option.bind_eq_some_iff.mp hb
    obtain ⟨top, htop, hrel⟩ := forall₂_getElem? h hbottom
    obtain ⟨a, ha, hab⟩ := ih (hR top bottom hrel) hb
    exact ⟨a, Option.bind_eq_some_iff.mpr ⟨top, htop, ha⟩, hab⟩

end Positions

/-- The rule at a position. -/
def Rule.at? (rules : List Rule) : Nat → List Nat → Option Rule := descend Rule.subRules rules

/-- A property of the rules of a list and of those below them, at every depth. -/
def Rule.Everywhere (P : Rule → Prop) (rules : List Rule) : Prop :=
  ∀ i path r, at? rules i path = some r → P r

theorem Rule.everywhere_nil {P : Rule → Prop} : Everywhere P [] := by
  rintro i (_ | ⟨j, path⟩) r hr <;> cases hr

theorem Rule.everywhere_cons {P : Rule → Prop} {r : Rule} {rest : List Rule} :
    Everywhere P (r :: rest) ↔ P r ∧ Everywhere P r.subRules ∧ Everywhere P rest := by
  constructor
  · intro h
    refine ⟨h 0 [] r rfl, fun j path => h 0 (j :: path), fun i path s hs => h (i + 1) path s ?_⟩
    cases path <;> exact hs
  · rintro ⟨hr, hbelow, hrest⟩ (_ | i) (_ | ⟨j, path⟩) s hs
    · cases hs
      exact hr
    · exact hbelow j path s hs
    · exact hrest i [] s hs
    · exact hrest i (j :: path) s hs

mutual
def Rule.decidableBelow (P : Rule → Prop) [DecidablePred P] :
    (r : Rule) → Decidable (Everywhere P r.subRules)
  | ⟨_, _, subRules, _⟩ => decidableEverywhere P subRules
instance Rule.decidableEverywhere (P : Rule → Prop) [DecidablePred P] :
    (rules : List Rule) → Decidable (Everywhere P rules)
  | [] => isTrue everywhere_nil
  | r :: rest =>
    have := decidableBelow P r
    have := decidableEverywhere P rest
    decidable_of_iff (P r ∧ Everywhere P r.subRules ∧ Everywhere P rest) everywhere_cons.symm
end

/-- What holds of a rule that is read holds everywhere below: sub-rules are read as well. -/
theorem Rule.everywhere_of_read {P : Rule → Prop} {items : List Json} {rules : List Rule}
    (hP : ∀ item r, ReadFrom item r → P r) (h : List.Forall₂ ReadFrom items rules) :
    Everywhere P rules := by
  intro i path r hr
  obtain ⟨item, -, hread⟩ := descend_related (fun _ _ hread => (read_ok hread).2.1) h path hr
  exact hP item r hread

/-- The value that stands at the position of a rule. -/
def Json.ruleItem? (items : List Json) : Nat → List Nat → Option Json :=
  descend (Json.itemsUnder ["rules", "subRules"]) items

-- --------------------------------------------------------------------
-- Keys
-- --------------------------------------------------------------------

namespace Json

mutual
/-- No object in the value repeats a key. -/
def distinctKeys : Json → Bool
  | .object members => (members.map (·.1)).Nodup && membersDistinct members
  | .array items => itemsDistinct items
  | _ => true
def membersDistinct : List (String × Json) → Bool
  | [] => true
  | (_, value) :: rest => value.distinctKeys && membersDistinct rest
def itemsDistinct : List Json → Bool
  | [] => true
  | item :: rest => item.distinctKeys && itemsDistinct rest
end

theorem distinctKeys_get? {o : Members} {key : String} {value : Json}
    (h : membersDistinct o) (hget : o.get? key = some value) : value.distinctKeys := by
  induction o with
  | nil => cases hget
  | cons member rest ih =>
    obtain ⟨k, v⟩ := member
    simp only [membersDistinct, Bool.and_eq_true] at h
    simp only [Members.get?, List.lookup_cons] at hget ih
    split at hget
    · cases hget
      exact h.1
    · exact ih h.2 hget

theorem distinctKeys_lookup? {o : Members} {keys : List String} {key : String} {value : Json}
    (h : (object o).distinctKeys) (hlookup : o.lookup? keys = some (key, value)) :
    value.distinctKeys := by
  simp only [distinctKeys, Bool.and_eq_true] at h
  exact distinctKeys_get? h.2 (lookup?_some hlookup).2.1

end Json

-- --------------------------------------------------------------------
-- Parts of a document
-- --------------------------------------------------------------------

namespace Redirect

variable {value : Json} {field : Field}

theorem readRequired_ok {members : Members} {required : List (String × String)}
    (h : readRequired field members = .ok required) :
    required.map (·.1) = members.map (·.1) := by
  induction members generalizing required with
  | nil =>
    cases h
    rfl
  | cons member rest ih =>
    simp only [readRequired, bind_ok, pure_ok] at h
    obtain ⟨text, -, more, hmore, rfl⟩ := h
    simp [ih hmore]

theorem params_ok {redirect : Redirect} (hkeys : value.distinctKeys)
    (h : (do
      let members ← value.asObject field
      let required ← readRequired field members
      pure { required } : Except Fault Redirect) = .ok redirect) :
    (redirect.required.map (·.1)).Nodup := by
  simp only [bind_ok, pure_ok] at h
  obtain ⟨members, hmembers, required, hrequired, rfl⟩ := h
  rw [Json.asObject_ok hmembers] at hkeys
  simp only [Json.distinctKeys, Bool.and_eq_true, decide_eq_true_eq] at hkeys
  rw [readRequired_ok hrequired]
  exact hkeys.1

/-- The parameters keep the keys of the object they are read from. -/
theorem read_ok {redirect : Redirect} (hkeys : value.distinctKeys)
    (h : read value field = .ok redirect) : (redirect.required.map (·.1)).Nodup := by
  simp only [read, bind_ok] at h
  obtain ⟨o, ho, h⟩ := h
  obtain rfl := Json.asObject_ok ho
  split at h
  · next hparams => exact params_ok (Json.distinctKeys_lookup? hkeys hparams) h
  · split at h
    · cases h
    · next hquery =>
      rw [bind_ok] at h
      obtain ⟨inner, hinner, h⟩ := h
      have hkeys := Json.distinctKeys_lookup? hkeys hquery
      obtain rfl := Json.asObject_ok hinner
      split at h
      · next hparams => exact params_ok (Json.distinctKeys_lookup? hkeys hparams) h
      · cases h

end Redirect

theorem ExtractionType.read_ok {o : Members} {field : Field} {name : String}
    (h : ExtractionType.read o field = .ok (.custom name)) :
    name ≠ "" ∧ name ∉ builtInTypes := by
  simp only [ExtractionType.read, bind_ok] at h
  obtain ⟨kind, -, h⟩ := h
  split at h
  · cases h
  · cases h
  · rw [bind_ok] at h
    obtain ⟨custom, hcustom, h⟩ := h
    split at h
    · cases h
    · next hnot =>
      cases h
      exact ⟨Json.requireString_ne_empty hcustom, hnot⟩
  · cases h

/-- What the description of a document promises. -/
structure RuleInfo.Normal (info : RuleInfo) : Prop where
  name : info.name ≠ ""
  domain : info.domain ≠ ""
  customType : ∀ name, info.type = .custom name → name ≠ "" ∧ name ∉ builtInTypes
  matcher : Regex.compile? info.pattern = some info.matcher
  testPages : ∀ page ∈ info.testPages, info.matcher.isMatch page

theorem PagePattern.checkTestPages_ok {parser : String} {matcher : Regex} {pages : List String}
    {u : Unit} (h : checkTestPages parser matcher pages = .ok u) :
    ∀ page ∈ pages, matcher.isMatch page := by
  rw [checkTestPages] at h
  split at h
  · cases h
  · next hnone => simpa using hnone

theorem RuleInfo.read_ok {value : Json} {field : Field} {info : RuleInfo}
    (h : RuleInfo.read value field = .ok info) : info.Normal := by
  simp only [read, bind_ok, pure_ok] at h
  obtain ⟨o, -, name, hname, type, htype, domain, hdomain, path, -, declared, -, _, -,
    ⟨key, pattern⟩, -, matcher, hmatcher, testPages, -, _, hpages, author, -, description, -,
    rfl⟩ := h
  refine ⟨Json.requireString_ne_empty hname, Json.requireString_ne_empty hdomain, ?_,
    compilePattern_ok hmatcher, PagePattern.checkTestPages_ok hpages⟩
  rintro custom rfl
  exact ExtractionType.read_ok htype

-- --------------------------------------------------------------------
-- Documents
-- --------------------------------------------------------------------

/-- The normal form of a document that is read from a value and has these rules of its
own. -/
structure RuleDocument.Normal (raw : Json) (own : List Rule) (d : RuleDocument) : Prop where
  source : ∃ o key value, raw = .object o ∧ Members.lookup? o ["rules"] = some (key, value) ∧
    Rule.readAll value (.at_ key) = .ok own
  /-- The built-in rules that no rule of its own has the name of come last. -/
  rules : d.rules = own ++ Rule.builtIn.filter fun b => b.name ∉ own.map Rule.name
  /-- At every depth, the built-in rules included. -/
  everyRule : ∀ i path r, Rule.at? d.rules i path = some r → r.Normal
  /-- At every depth, each rule with the object it is read from. -/
  attributes : ∀ i path r, Rule.at? own i path = some r →
    ∃ o, Json.ruleItem? (raw.itemsUnder ["rules"]) i path = some (.object o) ∧ r.TakesAttribute o
  info : d.info.Normal
  /-- Decoded data repeats no key. -/
  required : raw.distinctKeys → ∀ redirect, d.redirect = some redirect →
    (redirect.required.map (·.1)).Nodup

namespace Rule

variable {own : List Rule} {items : List Json}

theorem withBuiltIn_eq (rules : List Rule) : withBuiltIn rules =
    rules ++ builtIn.filter fun b => b.name ∉ rules.map Rule.name := by
  rw [withBuiltIn]
  congr 1
  refine List.filter_congr fun b _ => ?_
  rw [Bool.eq_iff_iff]
  simp

theorem builtIn_normal : ∀ r ∈ builtIn, r.Normal ∧ r.subRules = [] := by
  simp only [builtIn, List.forall_mem_cons, List.not_mem_nil, false_implies, implies_true, and_true]
  refine ⟨⟨⟨by decide, ?_, fun h => (h rfl).elim⟩, rfl⟩,
    ⟨⟨by decide, ?_, fun h => (h rfl).elim⟩, rfl⟩, ⟨⟨by decide, ?_, fun h => (h rfl).elim⟩, rfl⟩⟩
  all_goals
    rintro spec ⟨⟩
    exact ⟨by decide, by decide⟩

theorem normal_of_read (h : List.Forall₂ ReadFrom items own) (i : Nat) (path : List Nat) (r : Rule)
    (hr : at? (withBuiltIn own) i path = some r) : r.Normal := by
  have hgood : (∃ item, ReadFrom item r) ∨ r ∈ builtIn := by
    -- What is below a rule was read with it, for the built-in rules have nothing below.
    refine descend_induct (P := fun r => (∃ item, ReadFrom item r) ∨ r ∈ builtIn) ?_ ?_ path hr
    · rintro q (⟨item, hq⟩ | hq) s hs
      · obtain ⟨sub, -, hsub⟩ := forall₂_mem (read_ok hq).2.1 hs
        exact .inl ⟨sub, hsub⟩
      · rw [(builtIn_normal q hq).2] at hs
        cases hs
    · intro q hq
      rcases List.mem_append.mp hq with hq | hq
      · obtain ⟨item, -, hitem⟩ := forall₂_mem h hq
        exact .inl ⟨item, hitem⟩
      · exact .inr (List.mem_filter.mp hq).1
  rcases hgood with ⟨item, hr⟩ | hr
  · exact (read_ok hr).1
  · exact (builtIn_normal r hr).1

theorem takesAttribute_of_read (h : List.Forall₂ ReadFrom items own) (i : Nat) (path : List Nat)
    (r : Rule) (hr : at? own i path = some r) :
    ∃ o, Json.ruleItem? items i path = some (.object o) ∧ r.TakesAttribute o := by
  obtain ⟨item, hitem, hread⟩ :=
    descend_related (fun _ _ hread => (read_ok hread).2.1) h path hr
  obtain ⟨o, rfl, htakes⟩ := (read_ok hread).2.2
  exact ⟨o, hitem, htakes⟩

end Rule

theorem RuleDocument.readRedirect_ok {o : Members} {redirect : Redirect}
    (hkeys : (Json.object o).distinctKeys) (h : readRedirect o = .ok (some redirect)) :
    (redirect.required.map (·.1)).Nodup := by
  rw [readRedirect] at h
  split at h
  · next hlookup =>
    simp only [bind_ok, pure_ok] at h
    obtain ⟨found, hfound, h⟩ := h
    cases h
    exact Redirect.read_ok (Json.distinctKeys_lookup? hkeys hlookup) hfound
  · cases h

/-- Every document that is read is in normal form. -/
theorem read_gives_normal_form {raw : Json} {d : RuleDocument} (h : RuleDocument.read raw = .ok d) :
    ∃ own, d.Normal raw own := by
  obtain ⟨o, rfl, ⟨described, field, hinfo⟩, ⟨key, listed, own, hlookup, hown, hrules⟩,
    hredirect⟩ := RuleDocument.read_ok h
  obtain ⟨items, rfl, -, hitems⟩ := Rule.readAll_ok hown
  have hunder : (Json.object o).itemsUnder ["rules"] = items := by
    simp only [Json.itemsUnder, hlookup]
  refine ⟨own, ⟨o, key, _, rfl, hlookup, hown⟩, hrules.trans (Rule.withBuiltIn_eq own), ?_, ?_,
    RuleInfo.read_ok hinfo, ?_⟩
  · rw [hrules]
    exact Rule.normal_of_read hitems
  · rw [hunder]
    exact Rule.takesAttribute_of_read hitems
  · intro hkeys redirect hsome
    rw [hsome] at hredirect
    exact RuleDocument.readRedirect_ok hkeys hredirect

/-- A value with each part that the normal form speaks of. -/
def listingDocument : Json :=
  .object [
    ("info", .object [("name", .string "Listing"), ("type", .string "custom"),
      ("customType", .string "list"), ("domain", .string "a.b"), ("suggestedRegex", .string "a"),
      ("testPages", .string "a")]),
    ("rules", .array [.object [("name", .string "links"), ("attribute", .string "href"),
      ("match", .object [("or", .array [.string "a", .object [("include", .string "b"),
        ("addNextUntil", .string "hr"), ("outerNode", .bool true)]])]),
      ("rules", .array [.object [("name", .string "text"), ("match", .string "i")]])]]),
    ("redirect", .object [("requiredQueryParams", .object [("page", .number (.int 1))])])]

theorem listing_is_read : ∃ d, RuleDocument.read listingDocument = .ok d := by
  have hread : (RuleDocument.read listingDocument).toOption.isSome := by decide +kernel
  cases h : RuleDocument.read listingDocument with
  | error e => simp [h, Except.toOption] at hread
  | ok d => exact ⟨d, rfl⟩

theorem listing_is_in_normal_form :
    listingDocument.distinctKeys ∧
      ∃ d own, RuleDocument.read listingDocument = .ok d ∧ d.Normal listingDocument own := by
  obtain ⟨d, hread⟩ := listing_is_read
  obtain ⟨own, hnormal⟩ := read_gives_normal_form hread
  exact ⟨by decide, d, own, hread, hnormal⟩

end PageRecords
