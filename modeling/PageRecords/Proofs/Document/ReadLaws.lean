import Mathlib.Data.List.Forall2
import PageRecords.Document.Reader

/-!
# What the readers accept

Each lemma reads the success of one reader as what it says of the value and of the
result. `Rule.read_ok` and `Rule.readAll_ok` are the ones that a rule document is taken
apart with, one level of rules at a time.
-/

namespace PageRecords

open Json (Members)

-- --------------------------------------------------------------------
-- Reading in order
-- --------------------------------------------------------------------

section
variable {ε α β : Type} {x : Except ε α} {k : α → Except ε β}

theorem ok_bind (a : α) : .ok a >>= k = k a := rfl

theorem error_bind (e : ε) : .error e >>= k = .error e := rfl

theorem bind_ok {b : β} : x >>= k = .ok b ↔ ∃ a, x = .ok a ∧ k a = .ok b := by
  cases x <;> simp [bind, Except.bind]

theorem pure_ok {a b : α} : (pure a : Except ε α) = .ok b ↔ a = b := by
  simp [pure, Except.pure]

theorem bind_error {e : ε} :
    x >>= k = .error e ↔ x = .error e ∨ ∃ a, x = .ok a ∧ k a = .error e := by
  cases x <;> simp [bind, Except.bind]

theorem pure_error {a : α} {e : ε} : (pure a : Except ε α) = .error e ↔ False := by
  simp [pure, Except.pure]

end

variable {o : Members} {field : Field} {key s : String} {keys : List String} {value : Json}

namespace Json

theorem lookup?_some (h : o.lookup? keys = some (key, value)) :
    key ∈ keys ∧ o.get? key = some value ∧ value.isPresent := by
  induction keys with
  | nil => simp [Members.lookup?] at h
  | cons k keys ih =>
    simp only [Members.lookup?] at h
    split at h
    · next hget =>
      split at h
      · next hpresent =>
        cases h
        exact ⟨List.mem_cons_self, hget, hpresent⟩
      · obtain ⟨hkey, hrest⟩ := ih h
        exact ⟨List.mem_cons_of_mem _ hkey, hrest⟩
    · obtain ⟨hkey, hrest⟩ := ih h
      exact ⟨List.mem_cons_of_mem _ hkey, hrest⟩

theorem asObject_ok (h : value.asObject field = .ok o) : value = .object o := by
  cases value <;> simp_all [asObject]

theorem asString_ok (h : value.asString field = .ok s) : value = .string s := by
  cases value <;> simp_all [asString]

theorem keyedString_ok {found : Option (String × String)}
    (h : o.keyedString field keys = .ok found) :
    o.lookup? keys = found.map fun (key, s) => (key, .string s) := by
  rw [Members.keyedString] at h
  split at h
  · next hlookup =>
    simp only [bind_ok, pure_ok] at h
    obtain ⟨s, hs, rfl⟩ := h
    rw [hlookup, asString_ok hs]
    rfl
  · next hlookup =>
    cases h
    exact hlookup

/-- The string read is the present value, and there is none only if nothing is present. -/
theorem optionalString_ok {found : Option String} (h : o.optionalString field keys = .ok found) :
    (o.lookup? keys).map (·.2) = found.map .string := by
  simp only [Members.optionalString, bind_ok, pure_ok] at h
  obtain ⟨found, hfound, rfl⟩ := h
  rw [keyedString_ok hfound]
  simp [Function.comp_def]

theorem optionalString_ne_empty (h : o.optionalString field keys = .ok (some s)) : s ≠ "" := by
  have hfound := optionalString_ok h
  simp only [Option.map_some, Option.map_eq_some_iff] at hfound
  obtain ⟨⟨key, value⟩, hlookup, rfl⟩ := hfound
  have hpresent := (lookup?_some hlookup).2.2
  rintro rfl
  simp [isPresent] at hpresent

theorem requireString_ne_empty {aliases : List String}
    (h : o.requireString field key aliases = .ok s) : s ≠ "" := by
  simp only [Members.requireString, bind_ok] at h
  obtain ⟨found, hfound, h⟩ := h
  cases found with
  | none => cases h
  | some t =>
    cases h
    exact optionalString_ne_empty hfound

end Json

theorem compilePattern_ok {pattern : String} {r : Regex}
    (h : compilePattern pattern field = .ok r) :
    Regex.compile? pattern = some r := by
  rw [compilePattern] at h
  split at h
  · next hcompile =>
    cases h
    exact hcompile
  · cases h

-- --------------------------------------------------------------------
-- Blocks
-- --------------------------------------------------------------------

/-- What a block read from a document promises to whoever evaluates it. -/
structure MatchBlock.Normal (b : MatchBlock) : Prop where
  outer : b.outerNode = true → b.keepBasicMarkup = true
  grouped : b.addNextUntil.isSome → b.outerNode = false

instance (b : MatchBlock) : Decidable b.Normal :=
  decidable_of_iff ((b.outerNode = true → b.keepBasicMarkup = true) ∧
      (b.addNextUntil.isSome → b.outerNode = false))
    ⟨fun h => ⟨h.1, h.2⟩, fun h => ⟨h.outer, h.grouped⟩⟩

namespace MatchBlock

variable {b c : MatchBlock} {bs cs : List MatchBlock} {attr : String} {hasSubRules : Bool}

/-- A flag that is read only where it is not forced. -/
theorem forced_ok_iff {forced : Bool} {flag : Except Fault Bool} {k : Bool → MatchBlock} :
    (if forced then do let keep ← pure true; pure (k keep)
      else do let keep ← flag; pure (k keep)) = .ok b ↔
      ∃ keep, (if forced then keep = true else flag = .ok keep) ∧ k keep = b := by
  cases forced with
  | true =>
    constructor
    · rintro ⟨⟩
      exact ⟨true, rfl, rfl⟩
    · rintro ⟨keep, rfl, rfl⟩
      rfl
  | false => simp only [Bool.false_eq_true, if_false, bind_ok, pure_ok]

/-- A block is read from an object field by field. -/
theorem read_object_ok_iff : read (.object o) field hasSubRules = .ok b ↔
    o.requireString field "include" = .ok b.included ∧
    (∃ excluded, o.optionalString field ["exclude"] = .ok excluded ∧
      b.excluded = excluded.getD "") ∧
    o.optionalString field ["attribute"] = .ok b.attr ∧
    o.optionalString field ["addNextUntil"] = .ok b.addNextUntil ∧
    (if b.addNextUntil.isSome then b.outerNode = false
      else Json.flag (o.get? "outerNode") (field.key "outerNode") = .ok b.outerNode) ∧
    Json.stringList ((o.lookup? ["removeInside"]).map (·.2)) (field.key "removeInside") =
      .ok b.removeInside ∧
    (if b.outerNode || hasSubRules then b.keepBasicMarkup = true
      else Json.flag (o.get? "keepBasicMarkup") (field.key "keepBasicMarkup") =
        .ok b.keepBasicMarkup) := by
  constructor
  · intro h
    simp only [read, Json.asObject, bind_ok] at h
    obtain ⟨_, ⟨⟩, included, hincluded, excluded, hexcluded, attr, hattr, addNextUntil, hnext, h⟩ :=
      h
    cases addNextUntil with
    | some stop =>
      simp only [bind_ok, pure_ok] at h
      obtain ⟨outerNode, rfl, removeInside, hremove, h⟩ := h
      obtain ⟨keep, hkeep, rfl⟩ := forced_ok_iff.mp h
      exact ⟨hincluded, ⟨excluded, hexcluded, rfl⟩, hattr, hnext, rfl, hremove, hkeep⟩
    | none =>
      simp only [bind_ok] at h
      obtain ⟨outerNode, houter, removeInside, hremove, h⟩ := h
      obtain ⟨keep, hkeep, rfl⟩ := forced_ok_iff.mp h
      exact ⟨hincluded, ⟨excluded, hexcluded, rfl⟩, hattr, hnext, houter, hremove, hkeep⟩
  · obtain ⟨included, excluded, attr, outerNode, keep, removeInside, addNextUntil⟩ := b
    rintro ⟨hincluded, ⟨found, hexcluded, ⟨⟩⟩, hattr, hnext, houter, hremove, hkeep⟩
    simp only [read, Json.asObject, bind_ok]
    refine ⟨o, rfl, included, hincluded, found, hexcluded, attr, hattr, addNextUntil, hnext, ?_⟩
    cases addNextUntil with
    | some stop =>
      cases houter
      simp only [bind_ok]
      exact ⟨false, rfl, removeInside, hremove, forced_ok_iff.mpr ⟨keep, hkeep, rfl⟩⟩
    | none =>
      simp only [bind_ok]
      exact ⟨outerNode, houter, removeInside, hremove, forced_ok_iff.mpr ⟨keep, hkeep, rfl⟩⟩

/-- A block comes from a selector or from an object. -/
theorem shape_of_read (h : read value field hasSubRules = .ok b) :
    (∃ s, value = .string s ∧ b = { included := s, keepBasicMarkup := hasSubRules }) ∨
      ∃ o : Members, value = .object o := by
  unfold read at h
  split at h
  · cases h
    exact .inl ⟨_, rfl, rfl⟩
  · rw [bind_ok] at h
    obtain ⟨o, ho, -⟩ := h
    exact .inr ⟨o, Json.asObject_ok ho⟩

theorem read_ok (h : read value field hasSubRules = .ok b) :
    b.Normal ∧ (hasSubRules → b.keepBasicMarkup = true) := by
  rcases shape_of_read h with ⟨s, rfl, rfl⟩ | ⟨o, rfl⟩
  · exact ⟨⟨by simp, by simp⟩, id⟩
  · obtain ⟨-, -, -, -, houter, -, hkeep⟩ := read_object_ok_iff.mp h
    refine ⟨⟨fun ho => ?_, fun hnext => ?_⟩, fun hsub => ?_⟩
    · simpa [ho] using hkeep
    · simpa [hnext] using houter
    · simpa [hsub] using hkeep

theorem readAll_ok {values : List Json} {i : Nat}
    (h : readAll field hasSubRules i values = .ok bs) :
    bs.length = values.length ∧
      ∀ b ∈ bs, b.Normal ∧ (hasSubRules → b.keepBasicMarkup = true) := by
  induction values generalizing i bs with
  | nil =>
    cases h
    exact ⟨rfl, by simp⟩
  | cons value rest ih =>
    simp only [readAll, bind_ok, pure_ok] at h
    obtain ⟨b, hb, more, hmore, rfl⟩ := h
    obtain ⟨hlength, hall⟩ := ih hmore
    exact ⟨by simp [hlength], List.forall_mem_cons.mpr ⟨read_ok hb, hall⟩⟩

theorem withAttribute_ok (h : b.withAttribute attr field = .ok c) :
    c = { b with attr := some attr } := by
  rw [withAttribute] at h
  split at h
  · next own hown =>
    split at h
    · next heq =>
      cases h
      rw [← heq, ← hown]
    · cases h
  · cases h
    rfl

theorem withAttributeAll_ok (h : withAttributeAll attr field bs = .ok cs) :
    cs = bs.map fun b => { b with attr := some attr } := by
  induction bs generalizing cs with
  | nil =>
    cases h
    rfl
  | cons b rest ih =>
    simp only [withAttributeAll, bind_ok, pure_ok] at h
    obtain ⟨c, hc, more, hmore, rfl⟩ := h
    rw [withAttribute_ok hc, ih hmore, List.map_cons]

end MatchBlock

namespace MatchSpec

variable {spec spec' : MatchSpec} {hasSubRules : Bool}

theorem read_ok (h : read value field hasSubRules = .ok spec) :
    spec.blocks ≠ [] ∧ ∀ b ∈ spec.blocks, b.Normal ∧ (hasSubRules → b.keepBasicMarkup = true) := by
  unfold read at h
  split at h
  · simp only [bind_ok, pure_ok] at h
    obtain ⟨b, hb, rfl⟩ := h
    simpa [blocks] using MatchBlock.read_ok hb
  · split at h
    · simp only [bind_ok, pure_ok] at h
      obtain ⟨bs, hbs, rfl⟩ := h
      obtain ⟨hlength, hall⟩ := MatchBlock.readAll_ok hbs
      exact ⟨fun hnil : bs = [] => by simp [hnil] at hlength, hall⟩
    · cases h
    · simp only [bind_ok, pure_ok] at h
      obtain ⟨b, hb, rfl⟩ := h
      simpa [blocks] using MatchBlock.read_ok hb
  · cases h

theorem withAttribute_ok {attr : Option String} (h : spec.withAttribute attr field = .ok spec') :
    spec'.blocks = spec.blocks.map fun b => { b with attr := attr.or b.attr } := by
  cases attr with
  | none =>
    cases h
    simp
  | some attr =>
    cases spec with
    | single b =>
      simp only [withAttribute, bind_ok, pure_ok] at h
      obtain ⟨c, hc, rfl⟩ := h
      rw [MatchBlock.withAttribute_ok hc]
      rfl
    | any bs =>
      simp only [withAttribute, bind_ok, pure_ok] at h
      obtain ⟨cs, hcs, rfl⟩ := h
      exact MatchBlock.withAttributeAll_ok hcs

end MatchSpec

-- --------------------------------------------------------------------
-- Rules
-- --------------------------------------------------------------------

/-- The items of the array that an object has under the first of some keys. -/
def Json.itemsUnder (keys : List String) : Json → List Json
  | .object o =>
    match Members.lookup? o keys with
    | some (_, .array items) => items
    | _ => []
  | _ => []

namespace Rule

/-- What a rule read from a document promises to whoever evaluates it. -/
structure Normal (r : Rule) : Prop where
  name : r.name ≠ ""
  blocks : ∀ spec, r.source = .match_ spec → spec.blocks ≠ [] ∧ ∀ b ∈ spec.blocks, b.Normal
  subRules : r.subRules ≠ [] → r.replacement = none ∧
    ∃ spec, r.source = .match_ spec ∧ ∀ b ∈ spec.blocks, b.keepBasicMarkup = true

/-- An attribute that the rule's object names beside a match is that of all blocks. -/
def TakesAttribute (o : Members) (r : Rule) : Prop :=
  ∀ key value, o.lookup? ["attribute"] = some (key, value) → (o.lookup? ["match"]).isSome →
    ∃ attr spec, value = .string attr ∧ r.source = .match_ spec ∧
      ∀ b ∈ spec.blocks, b.attr = some attr

/-- The rule is what some value is read as, wherever it stands. -/
def ReadFrom (item : Json) (r : Rule) : Prop := ∃ field, read item field = .ok r

variable {r : Rule} {rules : List Rule} {items : List Json} {item : Json} {source : Source}
  {attr : Option String} {hasSubRules : Bool}

/-- A source is a match with the rule's attribute, the attribute alone, or literal values. -/
theorem readSource_ok_iff : readSource o field attr hasSubRules = .ok source ↔
    (∃ key value read spec, o.lookup? ["match"] = some (key, value) ∧
      MatchSpec.read value (field.key key) hasSubRules = .ok read ∧
      read.withAttribute attr (field.key "attribute") = .ok spec ∧ source = .match_ spec) ∨
    (∃ name, o.lookup? ["match"] = none ∧ attr = some name ∧ source = .attr name) ∨
    ∃ key value values, o.lookup? ["match"] = none ∧ attr = none ∧
      o.lookup? ["value", "literalValues"] = some (key, value) ∧
      Json.stringList (some value) (field.key key) = .ok values ∧ source = .literals values := by
  rw [readSource.eq_def]
  cases o.lookup? ["match"] with
  | some found =>
    obtain ⟨key, value⟩ := found
    simp only [bind_ok, pure_ok]
    constructor
    · rintro ⟨read, hread, spec, hspec, rfl⟩
      exact .inl ⟨key, value, read, spec, rfl, hread, hspec, rfl⟩
    · rintro (⟨_, _, read, spec, ⟨⟩, hread, hspec, rfl⟩ | ⟨_, ⟨⟩, -⟩ | ⟨_, _, _, ⟨⟩, -⟩)
      exact ⟨read, hread, spec, hspec, rfl⟩
  | none =>
    cases attr with
    | some name =>
      constructor
      · rintro ⟨⟩
        exact .inr (.inl ⟨name, rfl, rfl, rfl⟩)
      · rintro (⟨_, _, _, _, ⟨⟩, -⟩ | ⟨_, -, ⟨⟩, rfl⟩ | ⟨_, _, _, -, ⟨⟩, -⟩)
        rfl
    | none =>
      cases o.lookup? ["value", "literalValues"] with
      | some found =>
        obtain ⟨key, value⟩ := found
        constructor
        · intro h
          simp only [bind_ok, pure_ok] at h
          obtain ⟨values, hvalues, rfl⟩ := h
          exact .inr (.inr ⟨key, value, values, rfl, rfl, rfl, hvalues, rfl⟩)
        · rintro (⟨_, _, _, _, ⟨⟩, -⟩ | ⟨_, -, ⟨⟩, -⟩ | ⟨_, _, values, -, -, ⟨⟩, hvalues, rfl⟩)
          simp only [bind_ok, pure_ok]
          exact ⟨values, hvalues, rfl⟩
      | none =>
        constructor
        · rintro ⟨⟩
        · rintro (⟨_, _, _, _, ⟨⟩, -⟩ | ⟨_, -, ⟨⟩, -⟩ | ⟨_, _, _, -, -, ⟨⟩, -⟩)

theorem readSource_ok (h : readSource o field attr hasSubRules = .ok source) :
    ((o.lookup? ["match"]).isSome → ∃ spec, source = .match_ spec) ∧
      ∀ spec, source = .match_ spec → spec.blocks ≠ [] ∧ ∀ b ∈ spec.blocks,
        b.Normal ∧ (hasSubRules → b.keepBasicMarkup = true) ∧
          ∀ own, attr = some own → b.attr = some own := by
  rcases readSource_ok_iff.mp h with ⟨key, value, read, spec, hlookup, hread, hspec, rfl⟩ |
    ⟨name, hlookup, -, rfl⟩ | ⟨key, value, values, hlookup, -, -, -, rfl⟩
  · obtain ⟨hne, hall⟩ := MatchSpec.read_ok hread
    have hblocks := MatchSpec.withAttribute_ok hspec
    refine ⟨fun _ => ⟨spec, rfl⟩, ?_⟩
    rintro _ ⟨⟩
    rw [hblocks]
    refine ⟨by simpa using hne, ?_⟩
    intro c hc
    obtain ⟨b, hb, rfl⟩ := List.mem_map.mp hc
    obtain ⟨⟨houter, hgrouped⟩, hkeep⟩ := hall b hb
    refine ⟨⟨houter, hgrouped⟩, hkeep, ?_⟩
    rintro own rfl
    rfl
  · exact ⟨fun hsome => by simp [hlookup] at hsome, nofun⟩
  · exact ⟨fun hsome => by simp [hlookup] at hsome, nofun⟩

theorem readReplacement_ok_iff {found : Option Replacement} :
    readReplacement o field hasSubRules = .ok found ↔
      (o.lookup? ["rewrite"] = none ∧ found = none) ∨
      ∃ key value r, o.lookup? ["rewrite"] = some (key, value) ∧
        Replacement.read value (field.key key) hasSubRules = .ok r ∧ found = some r := by
  rw [readReplacement]
  cases o.lookup? ["rewrite"] with
  | none => simp [eq_comm]
  | some read =>
    obtain ⟨key, value⟩ := read
    simp only [bind_ok, pure_ok]
    constructor
    · rintro ⟨r, hr, rfl⟩
      exact .inr ⟨key, value, r, rfl, hr, rfl⟩
    · rintro (⟨⟨⟩, -⟩ | ⟨_, _, r, ⟨⟩, hr, rfl⟩)
      exact ⟨r, hr, rfl⟩

theorem readReplacement_ok {replacement : Option Replacement}
    (h : readReplacement o field true = .ok replacement) : replacement = none := by
  rcases readReplacement_ok_iff.mp h with ⟨-, hnone⟩ | ⟨_, _, r, -, hr, -⟩
  · exact hnone
  · cases hr

theorem readItems_ok {i : Nat} (h : readItems items field i = .ok rules) :
    List.Forall₂ ReadFrom items rules := by
  induction items generalizing i rules with
  | nil =>
    rw [readItems] at h
    cases h
    exact .nil
  | cons item rest ih =>
    rw [readItems] at h
    simp only [bind_ok, pure_ok] at h
    obtain ⟨rule, hrule, more, hmore, rfl⟩ := h
    exact .cons ⟨_, hrule⟩ (ih hmore)

theorem readAll_ok (h : readAll value field = .ok rules) :
    ∃ items, value = .array items ∧ items ≠ [] ∧ List.Forall₂ ReadFrom items rules := by
  rw [readAll.eq_def] at h
  split at h
  · cases h
  · exact ⟨_, rfl, by simp, readItems_ok h⟩
  · cases h

theorem readAll_ne_nil (h : readAll value field = .ok rules) : rules ≠ [] := by
  obtain ⟨items, -, hne, hitems⟩ := readAll_ok h
  rintro rfl
  cases hitems
  exact hne rfl

theorem readSubRules_ok_iff : readSubRules o field = .ok rules ↔
    (o.lookup? ["rules", "subRules"] = none ∧ rules = []) ∨
    ∃ key value, o.lookup? ["rules", "subRules"] = some (key, value) ∧
      (o.lookup? ["match"]).isSome ∧ readAll value (field.key key) = .ok rules := by
  rw [readSubRules.eq_def]
  split
  · next key value hlookup =>
    constructor
    · intro h
      split at h
      · next hmatch => exact .inr ⟨key, value, hlookup, hmatch, h⟩
      · cases h
    · rintro (⟨hnone, -⟩ | ⟨_, _, hsome, hmatch, hread⟩)
      · cases hnone.symm.trans hlookup
      · cases hsome.symm.trans hlookup
        rw [if_pos hmatch, hread]
  · next hlookup =>
    constructor
    · rintro ⟨⟩
      exact .inl ⟨hlookup, rfl⟩
    · rintro (⟨-, rfl⟩ | ⟨_, _, hsome, -⟩)
      · rfl
      · cases hlookup.symm.trans hsome

theorem readSubRules_ok (h : readSubRules o field = .ok rules) :
    (rules ≠ [] → (o.lookup? ["match"]).isSome) ∧
      List.Forall₂ ReadFrom ((Json.object o).itemsUnder ["rules", "subRules"]) rules := by
  rcases readSubRules_ok_iff.mp h with ⟨hlookup, rfl⟩ | ⟨key, value, hlookup, hmatch, hread⟩
  · refine ⟨fun hne => (hne rfl).elim, ?_⟩
    simp only [Json.itemsUnder, hlookup]
    exact .nil
  · obtain ⟨items, rfl, -, hitems⟩ := readAll_ok hread
    refine ⟨fun _ => hmatch, ?_⟩
    simpa only [Json.itemsUnder, hlookup] using hitems

/-- A rule is read from an object: its name, its own attribute, and what the checks before
let pass. -/
theorem read_object_ok_iff : read (.object o) field = .ok r ↔
    o.requireString field "name" = .ok r.name ∧
    ∃ attr, o.optionalString field ["attribute"] = .ok attr ∧
      checkLiteral o field attr = .ok () ∧ readSubRules o field = .ok r.subRules ∧
      readSource o field attr r.hasSubRules = .ok r.source ∧
      readReplacement o field r.hasSubRules = .ok r.replacement := by
  have hpresent : (!(Json.object o).isPresent) = false := rfl
  rw [read.eq_def, hpresent]
  simp only [Bool.false_eq_true, if_false, bind_ok, pure_ok]
  constructor
  · rintro ⟨name, hname, attr, hattr, _, hliteral, subRules, hsub, source, hsource, replacement,
      hrep, rfl⟩
    exact ⟨hname, attr, hattr, hliteral, hsub, hsource, hrep⟩
  · obtain ⟨name, source, subRules, replacement⟩ := r
    rintro ⟨hname, attr, hattr, hliteral, hsub, hsource, hrep⟩
    exact ⟨name, hname, attr, hattr, (), hliteral, subRules, hsub, source, hsource, replacement,
      hrep, rfl⟩

theorem object_of_read (h : read item field = .ok r) : ∃ o : Members, item = .object o := by
  rw [read.eq_def] at h
  split at h
  · cases h
  split at h
  · exact ⟨_, rfl⟩
  · cases h

/-- A rule that is read is in normal form, and so is each below it: its sub-rules are read
from the items of its own object. -/
theorem read_ok (h : ReadFrom item r) :
    r.Normal ∧ List.Forall₂ ReadFrom (item.itemsUnder ["rules", "subRules"]) r.subRules ∧
      ∃ o, item = .object o ∧ TakesAttribute o r := by
  obtain ⟨field, h⟩ := h
  obtain ⟨o, rfl⟩ := object_of_read h
  obtain ⟨hname, attr, hattr, -, hsub, hsource, hrep⟩ := read_object_ok_iff.mp h
  obtain ⟨hmatch, hitems⟩ := readSubRules_ok hsub
  obtain ⟨hspec, hblocks⟩ := readSource_ok hsource
  refine ⟨⟨Json.requireString_ne_empty hname, fun spec hs => ?_, fun hne => ?_⟩, hitems, o, rfl,
    ?_⟩
  · obtain ⟨hne, hall⟩ := hblocks spec hs
    exact ⟨hne, fun b hb => (hall b hb).1⟩
  · have hsome : r.hasSubRules = true := by simpa [hasSubRules] using hne
    obtain ⟨spec, hs⟩ := hspec (hmatch hne)
    rw [hsome] at hrep
    refine ⟨readReplacement_ok hrep, spec, hs, fun b hb => ?_⟩
    exact ((hblocks spec hs).2 b hb).2.1 hsome
  · intro key value hlookup hpresent
    obtain ⟨spec, hs⟩ := hspec hpresent
    have hown := Json.optionalString_ok hattr
    rw [hlookup] at hown
    cases attr with
    | none => cases hown
    | some own =>
      refine ⟨own, spec, Option.some.inj hown, hs, fun b hb => ?_⟩
      exact ((hblocks spec hs).2 b hb).2.2 own rfl

end Rule

-- --------------------------------------------------------------------
-- Documents
-- --------------------------------------------------------------------

namespace RuleDocument

variable {d : RuleDocument}

/-- The parts of a document in the order in which they are read. -/
theorem read_object : read (.object o) = (do
    let info ← (match o.lookup? ["info"] with
      | some (key, value) => RuleInfo.read value (.at_ key)
      | none => .error (.missing (.at_ "info")))
    let rules ← (match o.lookup? ["rules"] with
      | some (key, value) => Rule.readAll value (.at_ key)
      | none => .error (.missing (.at_ "rules")))
    let redirect ← readRedirect o
    pure { info, rules := Rule.withBuiltIn rules, redirect }) := by
  have hpresent : (!(Json.object o).isPresent) = false := rfl
  rw [read, hpresent]
  simp only [Json.asObject, Bool.false_eq_true, if_false, ok_bind]
  cases o.lookup? ["info"] <;> cases o.lookup? ["rules"] <;> rfl

theorem object_of_read (h : read value = .ok d) : ∃ o : Members, value = .object o := by
  rw [read] at h
  split at h
  · cases h
  · obtain ⟨o, ho, -⟩ := bind_ok.mp h
    exact ⟨o, Json.asObject_ok ho⟩

/-- A document is put together from its description, its own rules with the built-in ones,
and its redirect. -/
theorem read_ok (h : read value = .ok d) :
    ∃ o, value = .object o ∧
      (∃ described field, RuleInfo.read described field = .ok d.info) ∧
      (∃ key listed own, Members.lookup? o ["rules"] = some (key, listed) ∧
        Rule.readAll listed (.at_ key) = .ok own ∧ d.rules = Rule.withBuiltIn own) ∧
      readRedirect o = .ok d.redirect := by
  obtain ⟨o, rfl⟩ := object_of_read h
  rw [read_object] at h
  simp only [bind_ok, pure_ok] at h
  obtain ⟨info, hinfo, own, hown, redirect, hredirect, rfl⟩ := h
  split at hinfo
  · split at hown
    · next hlookup => exact ⟨o, rfl, ⟨_, _, hinfo⟩, ⟨_, _, own, hlookup, hown, rfl⟩, hredirect⟩
    · cases hown
  · cases hinfo

/-- A document that is read has a rule. -/
theorem rules_ne_nil (h : read value = .ok d) : d.rules ≠ [] := by
  obtain ⟨o, -, -, ⟨key, listed, own, -, hown, hrules⟩, -⟩ := read_ok h
  rw [hrules]
  exact List.append_ne_nil_of_left_ne_nil (Rule.readAll_ne_nil hown) _

end RuleDocument

end PageRecords
