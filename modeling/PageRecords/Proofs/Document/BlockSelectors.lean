import PageRecords.Proofs.Document.RuleGrammar

/-!
# Selectors of accepted blocks

An object is a block only with a selector that says something, and so is a text that is a
match by itself. A text among the branches of an alternation is taken as it is: if it is
empty, so is the selector. `empty_selector_iff` says that this is the only way, at every depth
of rules.
-/

namespace PageRecords

open Json (Members)

/-- The branches of the alternation that a rule's match is, if it is one. -/
def Json.alternatives : Json → List Json
  | .object o =>
    match Members.lookup? o ["match"] with
    | some (_, value) => value.itemsUnder ["or"]
    | none => []
  | _ => []

variable {value item : Json} {field : Field} {hasSubRules : Bool} {j : Nat}

-- --------------------------------------------------------------------
-- Blocks
-- --------------------------------------------------------------------

namespace MatchBlock

variable {b : MatchBlock}

theorem included_ne_empty_of_object {o : Members}
    (h : read (.object o) field hasSubRules = .ok b) : b.included ≠ "" :=
  Json.requireString_ne_empty (read_object_ok_iff.mp h).1

/-- Only an empty text is read as a block without a selector. -/
theorem included_eq_empty_iff (h : ReadFrom hasSubRules value b) :
    b.included = "" ↔ value = .string "" := by
  obtain ⟨field, h⟩ := h
  rcases shape_of_read h with ⟨s, rfl, rfl⟩ | ⟨o, rfl⟩
  · simp
  · simp [included_ne_empty_of_object h]

end MatchBlock

namespace MatchSpec

variable {spec : MatchSpec} {b : MatchBlock}

/-- The value of a rule's match says something, so a selector alone is not empty. -/
theorem included_eq_empty_iff (h : read value field hasSubRules = .ok spec)
    (hpresent : value.isPresent = true) (hb : spec.blocks[j]? = some b) :
    b.included = "" ↔ (value.itemsUnder ["or"])[j]? = some (.string "") := by
  unfold read at h
  split at h
  · next s =>
    simp only [bind_ok, pure_ok] at h
    obtain ⟨c, ⟨⟩, rfl⟩ := h
    obtain rfl := List.mem_singleton.mp (List.mem_of_getElem? hb)
    simpa [Json.itemsUnder, Json.isPresent] using hpresent
  · split at h
    · next hlookup =>
      simp only [bind_ok, pure_ok] at h
      obtain ⟨bs, hbs, rfl⟩ := h
      obtain ⟨branch, hbranch, hread⟩ := forall₂_getElem? (MatchBlock.forall₂_of_readAll hbs) hb
      rw [MatchBlock.included_eq_empty_iff hread, Json.itemsUnder, hlookup]
      simp [hbranch]
    · cases h
    · next hlookup =>
      simp only [bind_ok, pure_ok] at h
      obtain ⟨c, hc, rfl⟩ := h
      obtain rfl := List.mem_singleton.mp (List.mem_of_getElem? hb)
      simp [Json.itemsUnder, hlookup, MatchBlock.included_ne_empty_of_object hc]
  · cases h

end MatchSpec

-- --------------------------------------------------------------------
-- Rules
-- --------------------------------------------------------------------

namespace Rule

variable {r : Rule} {spec : MatchSpec} {b : MatchBlock}

/-- The attribute of a rule is put into its blocks and leaves their selectors alone. -/
theorem included_eq_empty_iff (h : ReadFrom item r) (hsource : r.source = .match_ spec)
    (hb : spec.blocks[j]? = some b) :
    b.included = "" ↔ item.alternatives[j]? = some (.string "") := by
  obtain ⟨field, h⟩ := h
  obtain ⟨o, rfl⟩ := object_of_read h
  obtain ⟨-, attr, -, -, -, hread, -⟩ := read_object_ok_iff.mp h
  rw [hsource] at hread
  rcases readSource_ok_iff.mp hread with ⟨key, value, own, _, hlookup, hown, hattr, ⟨⟩⟩ |
    ⟨_, -, -, ⟨⟩⟩ | ⟨_, _, _, -, -, -, -, ⟨⟩⟩
  rw [MatchSpec.withAttribute_ok hattr, List.getElem?_map, Option.map_eq_some_iff] at hb
  obtain ⟨c, hc, rfl⟩ := hb
  rw [Json.alternatives, hlookup]
  exact MatchSpec.included_eq_empty_iff (b := c) hown (Json.lookup?_some hlookup).2.2 hc

end Rule

/-- Of the blocks of rules that are read, at every depth, those have no selector that are given
as an empty text among the branches of an alternation. -/
theorem empty_selector_iff {value : Json} {field : Field} {rules : List Rule}
    (h : Rule.readAll value field = .ok rules) :
    ∃ items, value = .array items ∧
      ∀ (i : Nat) (path : List Nat) (r : Rule) (spec : MatchSpec) (j : Nat) (b : MatchBlock),
        Rule.at? rules i path = some r → r.source = .match_ spec → spec.blocks[j]? = some b →
        ∃ item, Json.ruleItem? items i path = some item ∧
          (b.included = "" ↔ item.alternatives[j]? = some (.string "")) := by
  obtain ⟨items, rfl, -, hitems⟩ := Rule.readAll_ok h
  refine ⟨items, rfl, fun i path r spec j b hr hsource hb => ?_⟩
  obtain ⟨item, hitem, hread⟩ :=
    descend_related (fun _ _ hread => (Rule.read_ok hread).2.1) hitems path hr
  exact ⟨item, hitem, Rule.included_eq_empty_iff hread hsource hb⟩

/-- An alternation below another rule, with a selector, an object and an empty text. -/
def iconRules : Json :=
  .array [.object [("name", .string "head"), ("match", .string "head"),
    ("rules", .array [.object [("name", .string "icon"), ("match", .object [("or", .array
      [.string "link", .object [("include", .string "img")], .string ""])])]])]]

def iconBlocks : List MatchBlock :=
  [{ included := "link" }, { included := "img" }, { included := "" }]

theorem icon_rules_are_read : ∃ rules, Rule.readAll iconRules (.at_ "rules") = .ok rules ∧
    (Rule.at? rules 0 [0]).map (·.source) = some (.match_ (.any iconBlocks)) := by
  have hread : (Rule.readAll iconRules (.at_ "rules")).toOption.any fun rules =>
      (Rule.at? rules 0 [0]).map (·.source) = some (.match_ (.any iconBlocks)) := by
    decide +kernel
  cases h : Rule.readAll iconRules (.at_ "rules") with
  | error e => simp [h, Except.toOption] at hread
  | ok rules => exact ⟨rules, rfl, by simpa [h, Except.toOption] using hread⟩

/-- The third branch has no selector, and only the third. -/
theorem third_icon_has_no_selector :
    ∃ rules r, Rule.readAll iconRules (.at_ "rules") = .ok rules ∧ Rule.at? rules 0 [0] = some r ∧
      ∀ (spec : MatchSpec) (j : Nat) (b : MatchBlock), r.source = .match_ spec →
        spec.blocks[j]? = some b → (b.included = "" ↔ j = 2) := by
  obtain ⟨rules, hread, hat⟩ := icon_rules_are_read
  obtain ⟨r, hr, -⟩ := Option.map_eq_some_iff.mp hat
  refine ⟨rules, r, hread, hr, fun spec j b hsource hb => ?_⟩
  obtain ⟨items, hitems, hselectors⟩ := empty_selector_iff hread
  obtain ⟨item, hitem, hiff⟩ := hselectors 0 [0] r spec j b hr hsource hb
  obtain rfl := Json.array.inj hitems
  have halternatives : item.alternatives =
      [.string "link", .object [("include", .string "img")], .string ""] := by
    obtain rfl := Option.some.inj hitem
    rfl
  rw [hiff, halternatives]
  match j with
  | 0 | 1 | 2 | j + 3 => simp

/-- An empty branch is accepted, and so a block without a selector. -/
theorem empty_branch_is_accepted :
    ∃ rules r spec b, Rule.readAll iconRules (.at_ "rules") = .ok rules ∧
      Rule.at? rules 0 [0] = some r ∧ r.source = .match_ spec ∧ b ∈ spec.blocks ∧
      b.included = "" := by
  obtain ⟨rules, hread, hat⟩ := icon_rules_are_read
  obtain ⟨r, hr, hsource⟩ := Option.map_eq_some_iff.mp hat
  exact ⟨rules, r, _, { included := "" }, hread, hr, hsource,
    by simp [MatchSpec.blocks, iconBlocks], rfl⟩

end PageRecords
