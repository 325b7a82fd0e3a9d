import PageRecords.Document.Writer
import PageRecords.Proofs.Document.RuleGrammar
import PageRecords.Proofs.Names

/-!
# Rules read back

A rule in normal form is written as an object that is read as the same rule:
`written_rules_read_back`. The writer leaves out what there is nothing to say of, and a text
that is empty counts as nothing when it is read, so what matters is which texts of a rule
that was read cannot be empty. `MatchBlock.Lasting` and `Rule.Lasting` collect that.
-/

namespace PageRecords

open Json (Members)

variable {o : Members} {field : Field} {key : String} {value : Json} {hasSubRules : Bool}

-- --------------------------------------------------------------------
-- Written members
-- --------------------------------------------------------------------

namespace Json

theorem get?_cons (name : String) (first : Json) (rest : Members) :
    Members.get? ((name, first) :: rest) key = if key = name then some first else rest.get? key :=
  lookup_cons_if (name, first) rest key

theorem get?_append (front back : Members) :
    Members.get? (front ++ back) key = (front.get? key).or (back.get? key) := by
  induction front with
  | nil => rfl
  | cons first rest ih =>
    rw [List.cons_append, get?_cons, get?_cons, ih]
    split <;> rfl

theorem get?_optional (name : String) (written : Option Json) :
    (Json.optional name written).get? key = if key = name then written else none := by
  cases written with
  | none =>
    split <;> rfl
  | some value => exact get?_cons name value []

theorem lookup?_congr {o o' : Members} {keys : List String}
    (h : ∀ key ∈ keys, o.get? key = o'.get? key) :
    o.lookup? keys = o'.lookup? keys := by
  induction keys with
  | nil => rfl
  | cons key keys ih =>
    obtain ⟨hkey, hkeys⟩ := List.forall_mem_cons.mp h
    rw [Members.lookup?, Members.lookup?, hkey, ih hkeys]

theorem lookup?_present (hget : o.get? key = some value) (h : value.isPresent = true)
    (keys : List String) : o.lookup? (key :: keys) = some (key, value) := by
  rw [Members.lookup?, hget]
  simp only [h, if_true]

theorem lookup?_absent (hget : o.get? key = none) (keys : List String) :
    o.lookup? (key :: keys) = o.lookup? keys := by
  rw [Members.lookup?, hget]

theorem isPresent_string {s : String} (h : s ≠ "") : (Json.string s).isPresent = true := by
  simpa [isPresent] using h

theorem requireString_written {s : String} (hget : o.get? key = some (.string s)) (h : s ≠ "") :
    o.requireString field key = .ok s :=
  requireString_ok_iff.mpr (has_iff.mpr ⟨key, lookup?_present hget (isPresent_string h) []⟩)

theorem optionalString_written {found : Option String} (hget : o.get? key = found.map .string)
    (h : found ≠ some "") : o.optionalString field [key] = .ok found := by
  cases found with
  | none => exact optionalString_none_iff.mpr (lookup?_eq_none_iff.mp (lookup?_absent hget []))
  | some s =>
    have hpresent := isPresent_string fun hs => h (congrArg some hs)
    exact optionalString_some_iff.mpr (has_iff.mpr ⟨key, lookup?_present hget hpresent []⟩)

/-- Where an empty text and none come to the same, any text is read back. -/
theorem optionalString_getD_written {s : String} (hget : o.get? key = some (.string s)) :
    ∃ found, o.optionalString field [key] = .ok found ∧ s = found.getD "" := by
  by_cases h : s = ""
  · subst h
    refine ⟨none, ?_, rfl⟩
    rw [optionalString_none_iff, ← lookup?_eq_none_iff, Members.lookup?, hget]
    rfl
  · exact ⟨some s, optionalString_written hget (by simpa using h), rfl⟩

theorem stringItems_strings (ss : List String) (i : Nat) :
    stringItems field i (ss.map .string) = .ok ss := by
  induction ss generalizing i with
  | nil => rfl
  | cons s rest ih =>
    simp only [List.map_cons, stringItems, ih]
    rfl

theorem stringList_strings (ss : List String) : stringList (some (.strings ss)) field = .ok ss :=
  stringItems_strings ss 0

end Json

-- --------------------------------------------------------------------
-- Blocks
-- --------------------------------------------------------------------

namespace MatchBlock

variable {b : MatchBlock} {bs : List MatchBlock}

/-- What a block needs to be read back from what it is written as. -/
structure Lasting (hasSubRules : Bool) (b : MatchBlock) : Prop where
  included : b.included ≠ ""
  attr : b.attr ≠ some ""
  addNextUntil : b.addNextUntil ≠ some ""
  normal : b.Normal
  subRules : hasSubRules → b.keepBasicMarkup = true

theorem lasting_of_read (h : read value field hasSubRules = .ok b) (hincluded : b.included ≠ "") :
    b.Lasting hasSubRules := by
  obtain ⟨hnormal, hkeep⟩ := read_ok h
  rcases shape_of_read h with ⟨s, rfl, rfl⟩ | ⟨o, rfl⟩
  · exact ⟨hincluded, nofun, nofun, hnormal, hkeep⟩
  · obtain ⟨-, -, hattr, hnext, -⟩ := read_object_ok_iff.mp h
    exact ⟨hincluded, fun hempty => Json.optionalString_ne_empty (hempty ▸ hattr) rfl,
      fun hempty => Json.optionalString_ne_empty (hempty ▸ hnext) rfl, hnormal, hkeep⟩

/-- What an object has that the block is written as. -/
structure WrittenAs (b : MatchBlock) (o : Members) : Prop where
  toJson : b.toJson = .object o
  included : o.get? "include" = some (.string b.included)
  excluded : o.get? "exclude" = some (.string b.excluded)
  attr : o.get? "attribute" = b.attr.map .string
  outerNode : o.get? "outerNode" = some (.bool b.outerNode)
  keepBasicMarkup : o.get? "keepBasicMarkup" = some (.bool b.keepBasicMarkup)
  removeInside : o.get? "removeInside" = some (.strings b.removeInside)
  addNextUntil : o.get? "addNextUntil" = b.addNextUntil.map .string
  branches : o.get? "or" = none

theorem exists_writtenAs (b : MatchBlock) : ∃ o, b.WrittenAs o := by
  refine ⟨_, rfl, ?_, ?_, ?_, ?_, ?_, ?_, ?_, ?_⟩ <;>
    simp [Json.get?_append, Json.get?_cons, Json.get?_optional]

theorem read_toJson (h : b.Lasting hasSubRules) (field : Field) :
    read b.toJson field hasSubRules = .ok b := by
  obtain ⟨o, hw⟩ := exists_writtenAs b
  rw [hw.toJson, read_object_ok_iff]
  refine ⟨Json.requireString_written hw.included h.included,
    Json.optionalString_getD_written hw.excluded, Json.optionalString_written hw.attr h.attr,
    Json.optionalString_written hw.addNextUntil h.addNextUntil, ?_, ?_, ?_⟩
  · split
    · next hgrouped => exact h.normal.grouped hgrouped
    · rw [hw.outerNode]
      rfl
  · rw [Json.lookup?_present hw.removeInside rfl]
    exact Json.stringList_strings b.removeInside
  · split
    · next hforced =>
      rcases Bool.or_eq_true_iff.mp hforced with ho | hs
      · exact h.normal.outer ho
      · exact h.subRules hs
    · rw [hw.keepBasicMarkup]
      rfl

theorem readAll_toJson (h : ∀ b ∈ bs, b.Lasting hasSubRules) (field : Field) (i : Nat) :
    readAll field hasSubRules i (bs.map (·.toJson)) = .ok bs := by
  induction bs generalizing i with
  | nil => rfl
  | cons b rest ih =>
    obtain ⟨hb, hrest⟩ := List.forall_mem_cons.mp h
    simp only [List.map_cons, readAll, read_toJson hb, ih hrest]
    rfl

end MatchBlock

namespace MatchSpec

variable {spec : MatchSpec}

theorem read_toJson (hne : spec.blocks ≠ []) (h : ∀ b ∈ spec.blocks, b.Lasting hasSubRules)
    (field : Field) : read spec.toJson field hasSubRules = .ok spec := by
  cases spec with
  | single b =>
    have hb := MatchBlock.read_toJson (h b (List.mem_singleton_self b)) field
    obtain ⟨o, hw⟩ := MatchBlock.exists_writtenAs b
    have hlookup : o.lookup? ["or"] = none := Json.lookup?_absent hw.branches []
    rw [hw.toJson] at hb
    rw [toJson, hw.toJson, read, hlookup]
    simp only [hb]
    rfl
  | any bs =>
    obtain ⟨first, rest, rfl⟩ := List.exists_cons_of_ne_nil hne
    have hbs : MatchBlock.readAll (field.key "or") hasSubRules 0
        ((first :: rest).map (·.toJson)) = .ok (first :: rest) :=
      MatchBlock.readAll_toJson h _ 0
    have hor : Members.get? [("or", .array ((first :: rest).map (·.toJson)))] "or" =
        some (.array (first.toJson :: rest.map (·.toJson))) := Json.get?_cons "or" _ []
    simp only [toJson, read, Json.lookup?_present hor rfl]
    simp only [← List.map_cons, hbs]
    rfl

end MatchSpec

-- --------------------------------------------------------------------
-- Replacements
-- --------------------------------------------------------------------

theorem Regex.source_of_compile? {pattern : String} {r : Regex}
    (h : Regex.compile? pattern = some r) : r.source = pattern := by
  obtain ⟨root, -, rfl⟩ := Option.map_eq_some_iff.mp h
  rfl

namespace Replacement

variable {r : Replacement}

/-- What a replacement needs to be read back from what it is written as. -/
structure Lasting (r : Replacement) : Prop where
  find : Regex.compile? r.find.source = some r.find
  source : r.find.source ≠ ""
  output : r.output ≠ ""

theorem lasting_of_compile {pattern output : String} {find : Regex}
    (h : compilePattern pattern field = .ok find) (hpattern : pattern ≠ "") (houtput : output ≠ "") :
    Lasting ⟨find, output⟩ := by
  have hcompile := compilePattern_ok h
  have hsource := Regex.source_of_compile? hcompile
  exact ⟨hsource ▸ hcompile, hsource ▸ hpattern, houtput⟩

theorem lasting_of_read (hpresent : value.isPresent = true)
    (h : Replacement.read value field hasSubRules = .ok r) : r.Lasting := by
  rw [Replacement.read.eq_def] at h
  split at h
  · cases h
  split at h
  · simp only [bind_ok, pure_ok] at h
    obtain ⟨find, hfind, rfl⟩ := h
    exact lasting_of_compile hfind (by decide) (by simpa [Json.isPresent] using hpresent)
  · simp only [bind_ok, pure_ok] at h
    obtain ⟨output, houtput, found, hfound, find, hfind, rfl⟩ := h
    refine lasting_of_compile hfind ?_ (Json.requireString_ne_empty houtput)
    cases found with
    | none => decide
    | some s => exact Json.optionalString_ne_empty hfound
  · cases h

theorem read_toJson (h : r.Lasting) (field : Field) :
    Replacement.read r.toJson field false = .ok r := by
  have hfind : Members.get? [("find", .string r.find.source), ("output", .string r.output)] "find" =
      (some r.find.source).map .string := Json.get?_cons "find" _ _
  have houtput : Members.get? [("find", .string r.find.source), ("output", .string r.output)]
      "output" = some (.string r.output) := by simp [Json.get?_cons]
  simp only [toJson, Replacement.read, Bool.false_eq_true, if_false, bind_ok, pure_ok]
  refine ⟨r.output, Json.requireString_written houtput h.output, some r.find.source,
    Json.optionalString_written hfind (by simpa using h.source), r.find, ?_, rfl⟩
  simp only [compilePattern, Option.getD_some, h.find]

end Replacement

-- --------------------------------------------------------------------
-- Rules
-- --------------------------------------------------------------------

namespace Rule

variable {r : Rule} {source : Source} {attr : Option String}

/-- What a rule needs, beside its sub-rules, to be read back from what it is written as. -/
structure Lasting (r : Rule) : Prop where
  name : r.name ≠ ""
  match_ : ∀ spec, r.source = .match_ spec →
    spec.blocks ≠ [] ∧ ∀ b ∈ spec.blocks, b.Lasting r.hasSubRules
  attr : r.source ≠ .attr ""
  subRules : r.hasSubRules → (∃ spec, r.source = .match_ spec) ∧ r.replacement = none
  replacement : ∀ written, r.replacement = some written → written.Lasting

/-- Every block of the rule includes something. -/
def Includes (r : Rule) : Prop :=
  ∀ spec, r.source = .match_ spec → ∀ b ∈ spec.blocks, b.included ≠ ""

instance : DecidablePred Includes
  | ⟨_, .match_ spec, _, _⟩ =>
    decidable_of_iff (∀ b ∈ spec.blocks, b.included ≠ "")
      ⟨fun h => by rintro _ ⟨⟩; exact h, fun h => h spec rfl⟩
  | ⟨_, .attr _, _, _⟩ => isTrue nofun
  | ⟨_, .literals _, _, _⟩ => isTrue nofun

theorem blocks_of_readSource {spec : MatchSpec}
    (h : readSource o field attr hasSubRules = .ok (.match_ spec)) :
    ∀ b ∈ spec.blocks, ∃ value own, MatchBlock.ReadFrom hasSubRules value own ∧
      b = { own with attr := attr.or own.attr } := by
  rcases readSource_ok_iff.mp h with ⟨_, _, read, _, -, hread, hspec, ⟨⟩⟩ | ⟨_, -, -, ⟨⟩⟩ |
    ⟨_, _, _, -, -, -, -, ⟨⟩⟩
  obtain ⟨branches, -, hblocks⟩ := MatchSpec.branches_of_read hread
  rw [MatchSpec.withAttribute_ok hspec]
  intro b hb
  obtain ⟨own, hown, rfl⟩ := List.mem_map.mp hb
  obtain ⟨value, -, hvalue⟩ := forall₂_mem hblocks hown
  exact ⟨value, own, hvalue, rfl⟩

theorem attr_of_readSource {name : String}
    (h : readSource o field attr hasSubRules = .ok (.attr name)) : attr = some name := by
  rcases readSource_ok_iff.mp h with ⟨_, _, _, _, -, -, -, ⟨⟩⟩ | ⟨_, -, hattr, ⟨⟩⟩ |
    ⟨_, _, _, -, -, -, -, ⟨⟩⟩
  exact hattr

theorem lasting_of_readReplacement {written : Replacement}
    (h : readReplacement o field hasSubRules = .ok (some written)) : written.Lasting := by
  rcases readReplacement_ok_iff.mp h with ⟨-, ⟨⟩⟩ | ⟨_, _, _, hlookup, hread, ⟨⟩⟩
  exact Replacement.lasting_of_read (Json.lookup?_some hlookup).2.2 hread

theorem lasting_of_read {item : Json} (h : ReadFrom item r) (hincludes : r.Includes) :
    r.Lasting := by
  obtain ⟨hnormal, -⟩ := read_ok h
  obtain ⟨field, h⟩ := h
  obtain ⟨o, rfl⟩ := object_of_read h
  obtain ⟨-, attr, hattr, -, -, hsource, hrep⟩ := read_object_ok_iff.mp h
  have hempty : attr ≠ some "" := fun hs => Json.optionalString_ne_empty (hs ▸ hattr) rfl
  refine ⟨hnormal.name, fun spec hs => ⟨(hnormal.blocks spec hs).1, fun b hb => ?_⟩, fun hs => ?_,
    fun hsub => ?_, fun written hw => lasting_of_readReplacement (hw ▸ hrep)⟩
  · have hincluded := hincludes spec hs b hb
    rw [hs] at hsource
    obtain ⟨value, own, ⟨field, hread⟩, rfl⟩ := blocks_of_readSource hsource b hb
    obtain ⟨hinc, hown, hnext, hnormal, hkeep⟩ := MatchBlock.lasting_of_read hread hincluded
    refine ⟨hinc, ?_, hnext, ⟨hnormal.outer, hnormal.grouped⟩, hkeep⟩
    cases attr with
    | none => exact hown
    | some name => exact hempty
  · rw [hs] at hsource
    exact hempty (attr_of_readSource hsource)
  · obtain ⟨hnone, spec, hs, -⟩ := hnormal.subRules (by simpa [hasSubRules] using hsub)
    exact ⟨⟨spec, hs⟩, hnone⟩

-- --------------------------------------------------------------------
-- Written rules
-- --------------------------------------------------------------------

/-- What an object has that the rule is written as. -/
structure WrittenAs (r : Rule) (o : Members) : Prop where
  toJson : r.toJson = .object o
  name : o.get? "name" = some (.string r.name)
  match_ : o.get? "match" = match r.source with | .match_ spec => some spec.toJson | _ => none
  attr : o.get? "attribute" =
    Option.map .string (match r.source with | .attr name => some name | _ => none)
  value : o.get? "value" = none
  literals : o.get? "literalValues" =
    match r.source with | .literals values => some (.strings values) | _ => none
  rules : o.get? "rules" = none
  subRules : o.get? "subRules" =
    if r.hasSubRules then some (.array (listToJson r.subRules)) else none
  replacement : o.get? "rewrite" = r.replacement.map (·.toJson)

theorem exists_writtenAs (r : Rule) : ∃ o, r.WrittenAs o := by
  obtain ⟨name, source, subRules, replacement⟩ := r
  refine ⟨_, by rw [toJson], ?_, ?_, ?_, ?_, ?_, ?_, ?_, ?_⟩ <;>
    cases source <;> cases h : subRules.isEmpty <;>
    simp [Source.toMember, hasSubRules, h, Json.get?_append, Json.get?_cons, Json.get?_optional]

theorem readAll_of_items {rules : List Rule} (hne : rules ≠ [])
    (h : ∀ field i, readItems (listToJson rules) field i = .ok rules) (field : Field) :
    readAll (.array (listToJson rules)) field = .ok rules := by
  have hitems := h field 0
  obtain ⟨first, rest, rfl⟩ := List.exists_cons_of_ne_nil hne
  rw [listToJson] at hitems ⊢
  rw [readAll, hitems]

theorem isPresent_spec (spec : MatchSpec) : spec.toJson.isPresent = true := by
  cases spec <;> rfl

theorem lookup?_match_written {spec : MatchSpec} (hw : r.WrittenAs o)
    (hs : r.source = .match_ spec) : o.lookup? ["match"] = some ("match", spec.toJson) := by
  have hmatch := hw.match_
  rw [hs] at hmatch
  exact Json.lookup?_present hmatch (isPresent_spec spec) []

theorem readSubRules_written (hw : r.WrittenAs o) (h : r.Lasting)
    (hitems : ∀ field i, readItems (listToJson r.subRules) field i = .ok r.subRules) :
    readSubRules o field = .ok r.subRules := by
  have hsub := hw.subRules
  have hrules := Json.lookup?_absent hw.rules ["subRules"]
  rw [readSubRules_ok_iff]
  cases hhas : r.hasSubRules with
  | false =>
    rw [hhas, if_neg Bool.false_ne_true] at hsub
    exact .inl ⟨hrules.trans (Json.lookup?_absent hsub []), by simpa [hasSubRules] using hhas⟩
  | true =>
    rw [hhas, if_pos rfl] at hsub
    obtain ⟨⟨spec, hs⟩, -⟩ := h.subRules hhas
    refine .inr ⟨"subRules", _, hrules.trans (Json.lookup?_present hsub rfl []), ?_,
      readAll_of_items (by simpa [hasSubRules] using hhas) hitems _⟩
    rw [lookup?_match_written hw hs]
    rfl

/-- The source is read back, and the attribute before it, which only a source that is one
has written. -/
theorem readSource_written (hw : r.WrittenAs o) (h : r.Lasting) :
    ∃ attr, o.optionalString field ["attribute"] = .ok attr ∧ checkLiteral o field attr = .ok () ∧
      readSource o field attr r.hasSubRules = .ok r.source := by
  obtain ⟨-, -, hmatch, hattr, hvalue, hliterals, -, -, -⟩ := hw
  have hneither (habsent : o.get? "literalValues" = none) :
      o.Lacks ["value", "literalValues"] :=
    Json.lookup?_eq_none_iff.mp ((Json.lookup?_absent hvalue _).trans
      (Json.lookup?_absent habsent []))
  cases hs : r.source with
  | match_ spec =>
    simp only [hs] at hmatch hattr hliterals
    have hlookup := Json.lookup?_present hmatch (isPresent_spec spec) []
    obtain ⟨hne, hblocks⟩ := h.match_ spec hs
    exact ⟨none, Json.optionalString_written hattr nofun,
      checkLiteral_ok_iff.mpr (.inl (hneither hliterals)), readSource_ok_iff.mpr (.inl
        ⟨"match", _, spec, spec, hlookup, MatchSpec.read_toJson hne hblocks _, rfl, rfl⟩)⟩
  | attr name =>
    simp only [hs] at hmatch hattr hliterals
    have hempty : name ≠ "" := fun hempty => h.attr (hempty ▸ hs)
    exact ⟨some name, Json.optionalString_written hattr (by simpa using hempty),
      checkLiteral_ok_iff.mpr (.inl (hneither hliterals)),
      readSource_ok_iff.mpr (.inr (.inl ⟨name, Json.lookup?_absent hmatch [], rfl, rfl⟩))⟩
  | literals values =>
    simp only [hs] at hmatch hattr hliterals
    have hlookup := Json.lookup?_absent hmatch []
    exact ⟨none, Json.optionalString_written hattr nofun,
      checkLiteral_ok_iff.mpr (.inr ⟨Json.lookup?_eq_none_iff.mp hlookup, rfl⟩),
      readSource_ok_iff.mpr (.inr (.inr ⟨"literalValues", _, values, hlookup, rfl,
        (Json.lookup?_absent hvalue _).trans (Json.lookup?_present hliterals rfl []),
        Json.stringList_strings values, rfl⟩))⟩

theorem readReplacement_written (hw : r.WrittenAs o) (h : r.Lasting) :
    readReplacement o field r.hasSubRules = .ok r.replacement := by
  have hget := hw.replacement
  rw [readReplacement_ok_iff]
  cases hr : r.replacement with
  | none =>
    rw [hr] at hget
    exact .inl ⟨Json.lookup?_absent hget [], rfl⟩
  | some written =>
    rw [hr] at hget
    have hleaf : r.hasSubRules = false := by
      by_contra hsome
      cases hr.symm.trans (h.subRules (by simpa using hsome)).2
    exact .inr ⟨"rewrite", _, written, Json.lookup?_present hget rfl [],
      hleaf ▸ Replacement.read_toJson (h.replacement written hr) _, rfl⟩

/-- A rule reads back if the items of its sub-rules do. -/
theorem read_toJson_of_items (h : r.Lasting)
    (hitems : ∀ field i, readItems (listToJson r.subRules) field i = .ok r.subRules)
    (field : Field) : read r.toJson field = .ok r := by
  obtain ⟨o, hw⟩ := exists_writtenAs r
  obtain ⟨attr, hattr, hliteral, hsource⟩ := readSource_written hw h
  rw [hw.toJson, read_object_ok_iff]
  exact ⟨Json.requireString_written hw.name h.name, attr, hattr, hliteral,
    readSubRules_written hw h hitems, hsource, readReplacement_written hw h⟩

mutual
theorem read_toJson : (r : Rule) → r.Lasting → Everywhere Lasting r.subRules → (field : Field) →
    read r.toJson field = .ok r
  | ⟨_, _, subRules, _⟩, h, hbelow, field =>
    read_toJson_of_items h (readItems_listToJson subRules hbelow) field
theorem readItems_listToJson : (rules : List Rule) → Everywhere Lasting rules → (field : Field) →
    (i : Nat) → readItems (listToJson rules) field i = .ok rules
  | [], _, field, i => by rw [listToJson, readItems]
  | r :: rest, h, field, i => by
    obtain ⟨hr, hbelow, hrest⟩ := everywhere_cons.mp h
    rw [listToJson, readItems, read_toJson r hr hbelow, readItems_listToJson rest hrest]
    rfl
end

end Rule

/-- Rules in normal form read back to themselves from what they are written as, wherever it
stands, if every block of theirs includes something. -/
theorem written_rules_read_back {value : Json} {field : Field} {rules : List Rule}
    (h : Rule.readAll value field = .ok rules) (hincludes : Rule.Everywhere Rule.Includes rules)
    (again : Field) : Rule.readAll (.array (Rule.listToJson rules)) again = .ok rules := by
  obtain ⟨items, -, -, hitems⟩ := Rule.readAll_ok h
  have hread := Rule.everywhere_of_read (fun item r hr => Exists.intro item hr) hitems
  have hlasting : Rule.Everywhere Rule.Lasting rules := by
    intro i path r hr
    obtain ⟨item, hitem⟩ := hread i path r hr
    exact Rule.lasting_of_read hitem (hincludes i path r hr)
  exact Rule.readAll_of_items (Rule.readAll_ne_nil h) (Rule.readItems_listToJson rules hlasting)
    again

/-- A list of rules with each part that is written otherwise than it stands here. -/
def nestedRules : Json :=
  .array [
    .object [("name", .string "comments"), ("match", .object [("or", .array [.string "ol",
        .object [("include", .string "ul"), ("addNextUntil", .string "hr"),
          ("outerNode", .string "true")]])]),
      ("rules", .array [
        .object [("name", .string "link"), ("match", .string "a"), ("attribute", .string "href"),
          ("rewrite", .string "$0")],
        .object [("name", .string "id"), ("attribute", .string "id")]])],
    .object [("name", .string "kind"), ("value", .array [.string ""])]]

theorem nested_rules_are_read : ∃ rules, Rule.readAll nestedRules (.at_ "rules") = .ok rules ∧
    Rule.Everywhere Rule.Includes rules := by
  have hread : (Rule.readAll nestedRules (.at_ "rules")).toOption.any
      fun rules => Rule.Everywhere Rule.Includes rules := by decide +kernel
  cases h : Rule.readAll nestedRules (.at_ "rules") with
  | error e => simp [h, Except.toOption] at hread
  | ok rules => exact ⟨rules, rfl, by simpa [h, Except.toOption] using hread⟩

theorem nested_rules_read_back :
    ∃ rules, Rule.readAll nestedRules (.at_ "rules") = .ok rules ∧
      Rule.Everywhere Rule.Includes rules ∧
      Rule.readAll (.array (Rule.listToJson rules)) ((Field.at_ "a").index 1) = .ok rules := by
  obtain ⟨rules, hread, hincludes⟩ := nested_rules_are_read
  exact ⟨rules, hread, hincludes, written_rules_read_back hread hincludes _⟩

end PageRecords
