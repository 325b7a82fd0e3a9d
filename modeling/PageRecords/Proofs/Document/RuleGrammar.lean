import PageRecords.Proofs.Document.NormalForm

/-!
# The grammar of rules

Which values are lists of rules, said of the values alone: what an object has under which
keys, and at which place. `rules_are_read_iff` says that the readers accept these values and
no others, wherever they stand. The lemmas before it settle one reader each, without its
field: a field takes part in faults only.
-/

namespace PageRecords

open Json (Members)

-- --------------------------------------------------------------------
-- Keys
-- --------------------------------------------------------------------

namespace Json

/-- Null, false, zero and the empty text count as if they were not there. -/
inductive SaysNothing : Json → Prop
  | null : SaysNothing .null
  | false : SaysNothing (.bool false)
  | zero {n : JsonNumber} (h : n.isZero = true) : SaysNothing (.number n)
  | empty : SaysNothing (.string "")

/-- Nothing is said under a key. -/
def Members.Silent (o : Members) (key : String) : Prop :=
  ∀ value, o.get? key = some value → value.SaysNothing

/-- Nothing is said under any of the spellings of a key. -/
def Members.Lacks (o : Members) (keys : List String) : Prop := ∀ key ∈ keys, o.Silent key

/-- The value under the first of the spellings under which something is said. -/
inductive Members.Has (o : Members) : List String → Json → Prop
  | here {key : String} {keys : List String} {value : Json} (hget : o.get? key = some value)
      (hsaid : ¬value.SaysNothing) : Has o (key :: keys) value
  | later {key : String} {keys : List String} {value : Json} (hsilent : o.Silent key)
      (h : Has o keys value) : Has o (key :: keys) value

def Members.HasText (o : Members) (keys : List String) : Prop := ∃ s, o.Has keys (.string s)

def Members.MayHaveText (o : Members) (keys : List String) : Prop := o.Lacks keys ∨ o.HasText keys

/-- A text, or an array of texts. -/
inductive IsTexts : Json → Prop
  | one (s : String) : IsTexts (.string s)
  | many {items : List Json} (h : ∀ item ∈ items, ∃ s, item = .string s) : IsTexts (.array items)

/-- A truth value as it may be spelled. Nothing and null say false. -/
inductive SaysFlag : Option Json → Bool → Prop
  | none : SaysFlag .none false
  | null : SaysFlag (some .null) false
  | bool (b : Bool) : SaysFlag (some (.bool b)) b
  | trueText : SaysFlag (some (.string "true")) true
  | falseText : SaysFlag (some (.string "false")) false
  | one : SaysFlag (some (.number (.int 1))) true
  | zero : SaysFlag (some (.number (.int 0))) false

end Json

-- --------------------------------------------------------------------
-- Rules
-- --------------------------------------------------------------------

/-- A block: a selector, or an object that has one. Whether the outer node is taken is asked
only of a block without siblings taken along, and whether markup is kept only where neither
the outer node nor sub-rules have it kept. -/
inductive MatchBlock.IsBlock (hasSubRules : Bool) : Json → Prop
  | selector (s : String) : IsBlock hasSubRules (.string s)
  | object {o : Members} (included : o.HasText ["include"])
      (excluded : o.MayHaveText ["exclude"]) (attr : o.MayHaveText ["attribute"])
      (addNextUntil : o.MayHaveText ["addNextUntil"])
      (outerNode : o.Lacks ["addNextUntil"] → ∃ b, Json.SaysFlag (o.get? "outerNode") b)
      (removeInside : ∀ value, o.Has ["removeInside"] value → value.IsTexts)
      (keepBasicMarkup : hasSubRules = false →
        ¬(o.Lacks ["addNextUntil"] ∧ Json.SaysFlag (o.get? "outerNode") true) →
        ∃ b, Json.SaysFlag (o.get? "keepBasicMarkup") b) :
      IsBlock hasSubRules (.object o)

/-- The attribute that the value of a block names. -/
def MatchBlock.Names (value : Json) (attr : String) : Prop :=
  ∃ o : Members, value = .object o ∧ o.Has ["attribute"] (.string attr)

/-- The values of the blocks that a match is made of: a selector alone, an object alone, or
the branches of an alternation, of which there is one at least. -/
inductive MatchSpec.Branches : Json → List Json → Prop
  | selector (s : String) : Branches (.string s) [.string s]
  | block {o : Members} (h : o.Lacks ["or"]) : Branches (.object o) [.object o]
  | any {o : Members} {values : List Json} (h : o.Has ["or"] (.array values)) (hne : values ≠ []) :
      Branches (.object o) values

/-- An output alone, or an object that has one and may have a pattern. -/
inductive Replacement.IsReplacement : Json → Prop
  | output (s : String) : IsReplacement (.string s)
  | object {o : Members} (output : o.HasText ["output"])
      (find : o.Lacks ["find"] ∨ ∃ s, o.Has ["find"] (.string s) ∧ (Regex.compile? s).isSome) :
      IsReplacement (.object o)

namespace Rule

/-- Exactly one source: a match, an attribute alone, or literal values alone. An attribute
beside a match is that of every block that names one. -/
inductive HasSource (hasSubRules : Bool) (o : Members) : Prop
  | matched {value : Json} {branches : List Json} (hmatch : o.Has ["match"] value)
      (hbranches : MatchSpec.Branches value branches)
      (blocks : ∀ b ∈ branches, MatchBlock.IsBlock hasSubRules b)
      (attr : ∀ name, o.Has ["attribute"] (.string name) →
        ∀ b ∈ branches, ∀ own, MatchBlock.Names b own → own = name)
      (literals : o.Lacks ["value", "literalValues"])
  | attr (hmatch : o.Lacks ["match"]) (attr : o.HasText ["attribute"])
      (literals : o.Lacks ["value", "literalValues"])
  | literals {value : Json} (hmatch : o.Lacks ["match"]) (attr : o.Lacks ["attribute"])
      (literals : o.Has ["value", "literalValues"] value) (texts : value.IsTexts)

/-- A rule without sub-rules may have a replacement. One with sub-rules has a match and no
replacement. -/
inductive IsRule : Json → Prop
  | leaf {o : Members} (name : o.HasText ["name"]) (attr : o.MayHaveText ["attribute"])
      (source : HasSource false o) (subRules : o.Lacks ["rules", "subRules"])
      (replacement : ∀ value, o.Has ["rewrite"] value → Replacement.IsReplacement value) :
      IsRule (.object o)
  | branch {o : Members} {value : Json} {items : List Json} (name : o.HasText ["name"])
      (attr : o.MayHaveText ["attribute"]) (hmatch : o.Has ["match"] value)
      (source : HasSource true o) (subRules : o.Has ["rules", "subRules"] (.array items))
      (hne : items ≠ []) (each : ∀ item ∈ items, IsRule item) (replacement : o.Lacks ["rewrite"]) :
      IsRule (.object o)

/-- A list of rules has one rule at least. -/
def IsRuleList (value : Json) : Prop :=
  ∃ items, value = .array items ∧ items ≠ [] ∧ ∀ item ∈ items, IsRule item

end Rule

-- --------------------------------------------------------------------
-- Reading keys
-- --------------------------------------------------------------------

variable {o : Members} {field : Field} {key s : String} {keys : List String} {value : Json}
  {hasSubRules : Bool}

namespace Json

theorem isPresent_eq_false_iff : value.isPresent = false ↔ value.SaysNothing := by
  constructor
  · intro h
    cases value with
    | null => exact .null
    | bool b =>
      cases h
      exact .false
    | number n => exact .zero (by simpa [isPresent] using h)
    | string s =>
      obtain rfl : s = "" := by simpa [isPresent] using h
      exact .empty
    | array items => cases h
    | object members => cases h
  · intro h
    cases h with
    | zero h => simp [isPresent, h]
    | _ => rfl

theorem lookup?_eq_none_iff : o.lookup? keys = none ↔ o.Lacks keys := by
  induction keys with
  | nil => simp [Members.lookup?, Members.Lacks]
  | cons key keys ih =>
    rw [Members.Lacks, List.forall_mem_cons, ← Members.Lacks, ← ih, Members.lookup?,
      Members.Silent]
    cases hget : o.get? key with
    | none => simp
    | some value =>
      cases hpresent : value.isPresent with
      | false => simp [hpresent, isPresent_eq_false_iff.mp hpresent]
      | true =>
        have hsaid : ¬value.SaysNothing := by simp [← isPresent_eq_false_iff, hpresent]
        simp [hpresent, hsaid]

theorem has_iff : o.Has keys value ↔ ∃ key, o.lookup? keys = some (key, value) := by
  constructor
  · intro h
    induction h with
    | @here key keys value hget hsaid =>
      have hpresent : value.isPresent = true := by
        simpa [← isPresent_eq_false_iff] using hsaid
      exact ⟨key, by simp [Members.lookup?, hget, hpresent]⟩
    | @later key keys value hsilent _ ih =>
      obtain ⟨found, hfound⟩ := ih
      refine ⟨found, ?_⟩
      rw [Members.lookup?]
      cases hget : o.get? key with
      | none => exact hfound
      | some w => simpa [isPresent_eq_false_iff.mpr (hsilent w hget)] using hfound
  · rintro ⟨found, h⟩
    induction keys with
    | nil => cases h
    | cons key keys ih =>
      rw [Members.lookup?] at h
      cases hget : o.get? key with
      | none => exact .later (by simp [Members.Silent, hget]) (ih (by simpa [hget] using h))
      | some w =>
        rw [hget] at h
        cases hpresent : w.isPresent with
        | false =>
          refine .later ?_ (ih (by simpa [hpresent] using h))
          simpa [Members.Silent, hget] using isPresent_eq_false_iff.mp hpresent
        | true =>
          simp only [hpresent, if_true, Option.some.injEq, Prod.mk.injEq] at h
          obtain ⟨rfl, rfl⟩ := h
          exact .here hget (by simp [← isPresent_eq_false_iff, hpresent])

theorem not_lacks_of_has (h : o.Has keys value) : ¬o.Lacks keys := by
  obtain ⟨key, hkey⟩ := has_iff.mp h
  simp [← lookup?_eq_none_iff, hkey]

theorem lookup?_isSome_iff : (o.lookup? keys).isSome = true ↔ ∃ value, o.Has keys value := by
  simp only [has_iff, Option.isSome_iff_exists, Prod.exists]
  exact exists_comm

theorem asString_ok_iff : value.asString field = .ok s ↔ value = .string s :=
  ⟨asString_ok, fun h => h ▸ rfl⟩

theorem keyedString_ok_iff {found : Option (String × String)} :
    o.keyedString field keys = .ok found ↔
      o.lookup? keys = found.map fun (key, s) => (key, .string s) := by
  refine ⟨keyedString_ok, fun h => ?_⟩
  rw [Members.keyedString, h]
  cases found <;> rfl

theorem optionalString_some_iff :
    o.optionalString field keys = .ok (some s) ↔ o.Has keys (.string s) := by
  simp only [has_iff, Members.optionalString, bind_ok, pure_ok, keyedString_ok_iff]
  constructor
  · rintro ⟨found, hfound, hs⟩
    obtain ⟨⟨key, t⟩, rfl, rfl⟩ := Option.map_eq_some_iff.mp hs
    exact ⟨key, hfound⟩
  · rintro ⟨key, hkey⟩
    exact ⟨some (key, s), hkey, rfl⟩

theorem optionalString_none_iff : o.optionalString field keys = .ok none ↔ o.Lacks keys := by
  simp only [← lookup?_eq_none_iff, Members.optionalString, bind_ok, pure_ok, keyedString_ok_iff]
  constructor
  · rintro ⟨found, hfound, hnone⟩
    rw [hfound, Option.map_eq_none_iff.mp hnone]
    rfl
  · intro h
    exact ⟨none, h, rfl⟩

theorem optionalString_exists_iff (field : Field) :
    (∃ found, o.optionalString field keys = .ok found) ↔ o.MayHaveText keys := by
  simp only [Option.exists, optionalString_none_iff, optionalString_some_iff]
  rfl

theorem requireString_ok_iff {aliases : List String} :
    o.requireString field key aliases = .ok s ↔ o.Has (key :: aliases) (.string s) := by
  rw [← optionalString_some_iff, Members.requireString, bind_ok]
  constructor
  · rintro ⟨_ | t, hfound, h⟩
    · cases h
    · cases h
      exact hfound
  · intro h
    exact ⟨some s, h, rfl⟩

theorem stringItems_exists_iff (field : Field) {items : List Json} {i : Nat} :
    (∃ ss, stringItems field i items = .ok ss) ↔ ∀ item ∈ items, ∃ s, item = .string s := by
  induction items generalizing i with
  | nil => simp [stringItems]
  | cons item rest ih =>
    rw [List.forall_mem_cons, ← ih (i := i + 1)]
    simp only [stringItems, bind_ok, pure_ok, asString_ok_iff]
    constructor
    · rintro ⟨-, s, hs, more, hmore, -⟩
      exact ⟨⟨s, hs⟩, more, hmore⟩
    · rintro ⟨⟨s, hs⟩, more, hmore⟩
      exact ⟨_, s, hs, more, hmore, rfl⟩

theorem stringList_exists_iff (field : Field) :
    (∃ ss, stringList (some value) field = .ok ss) ↔ value.IsTexts := by
  cases value with
  | string s => exact ⟨fun _ => .one s, fun _ => ⟨[s], rfl⟩⟩
  | array items =>
    refine (stringItems_exists_iff _).trans ⟨.many, fun h => ?_⟩
    cases h with
    | many h => exact h
  | _ => exact ⟨fun ⟨_, h⟩ => (nomatch h), fun h => (nomatch h)⟩

theorem stringList_under_exists_iff (field : Field) :
    (∃ ss, stringList ((o.lookup? keys).map (·.2)) field = .ok ss) ↔
      ∀ value, o.Has keys value → value.IsTexts := by
  simp only [has_iff]
  cases o.lookup? keys with
  | none => simp [stringList]
  | some found => simp [stringList_exists_iff, Prod.ext_iff]

theorem flag_ok_iff {value : Option Json} {b : Bool} :
    flag value field = .ok b ↔ SaysFlag value b := by
  constructor
  · intro h
    rw [flag.eq_def] at h
    split at h
    · cases h
      exact .none
    · cases h
      exact .null
    · cases h
      exact .bool _
    · split at h
      · cases h
        exact .trueText
      · cases h
        exact .one
      · cases h
        exact .falseText
      · cases h
        exact .zero
      · cases h
  · intro h
    cases h <;> rfl

end Json

-- --------------------------------------------------------------------
-- Reading blocks
-- --------------------------------------------------------------------

namespace MatchBlock

open Json

variable {b : MatchBlock} {bs : List MatchBlock} {values : List Json} {i : Nat}

theorem isBlock_of_read (h : read value field hasSubRules = .ok b) : IsBlock hasSubRules value := by
  rcases shape_of_read h with ⟨s, rfl, -⟩ | ⟨o, rfl⟩
  · exact .selector s
  obtain ⟨hincluded, ⟨excluded, hexcluded, -⟩, hattr, hnext, houter, hremove, hkeep⟩ :=
    read_object_ok_iff.mp h
  have hnone : o.Lacks ["addNextUntil"] → b.addNextUntil = none := fun hlacks =>
    Except.ok.inj (hnext.symm.trans (optionalString_none_iff.mpr hlacks))
  have hflag : o.Lacks ["addNextUntil"] → SaysFlag (o.get? "outerNode") b.outerNode := by
    intro hlacks
    simp only [hnone hlacks, Option.isSome_none, Bool.false_eq_true, if_false] at houter
    exact flag_ok_iff.mp houter
  refine .object ⟨_, requireString_ok_iff.mp hincluded⟩
    ((optionalString_exists_iff _).mp ⟨_, hexcluded⟩) ((optionalString_exists_iff _).mp ⟨_, hattr⟩)
    ((optionalString_exists_iff _).mp ⟨_, hnext⟩) (fun hlacks => ⟨_, hflag hlacks⟩)
    ((stringList_under_exists_iff _).mp ⟨_, hremove⟩) ?_
  rintro rfl hnot
  have hinner : b.outerNode = false := by
    cases hsome : b.addNextUntil with
    | some stop => simpa [hsome] using houter
    | none =>
      have hlacks := optionalString_none_iff.mp (hsome ▸ hnext)
      rw [Bool.eq_false_iff]
      intro htrue
      exact hnot ⟨hlacks, htrue ▸ hflag hlacks⟩
  simp only [hinner, Bool.or_self, Bool.false_eq_true, if_false] at hkeep
  exact ⟨_, flag_ok_iff.mp hkeep⟩

theorem read_of_isBlock (h : IsBlock hasSubRules value) (field : Field) :
    ∃ b, read value field hasSubRules = .ok b := by
  cases h with
  | selector s => exact ⟨_, rfl⟩
  | @object o included excluded attr addNextUntil outerNode removeInside keepBasicMarkup =>
    obtain ⟨included, hincluded⟩ := included
    obtain ⟨excluded, hexcluded⟩ := (optionalString_exists_iff _).mpr excluded
    obtain ⟨attr, hattr⟩ := (optionalString_exists_iff _).mpr attr
    obtain ⟨next, hnext⟩ := (optionalString_exists_iff field).mpr addNextUntil
    obtain ⟨removed, hremove⟩ := (stringList_under_exists_iff _).mpr removeInside
    have houter : ∃ outer, (if next.isSome then outer = false
        else flag (o.get? "outerNode") (field.key "outerNode") = .ok outer) := by
      cases next with
      | some stop => exact ⟨false, rfl⟩
      | none =>
        obtain ⟨outer, h⟩ := outerNode (optionalString_none_iff.mp hnext)
        exact ⟨outer, flag_ok_iff.mpr h⟩
    obtain ⟨outer, houter⟩ := houter
    have hkeep : ∃ keep, (if outer || hasSubRules then keep = true
        else flag (o.get? "keepBasicMarkup") (field.key "keepBasicMarkup") = .ok keep) := by
      cases hforced : outer || hasSubRules with
      | true => exact ⟨true, rfl⟩
      | false =>
        obtain ⟨rfl, rfl⟩ := Bool.or_eq_false_iff.mp hforced
        obtain ⟨keep, h⟩ := keepBasicMarkup rfl fun ⟨hlacks, htrue⟩ => by
          have hnone : next = none :=
            Except.ok.inj (hnext.symm.trans (optionalString_none_iff.mpr hlacks))
          subst hnone
          cases Except.ok.inj (houter.symm.trans (flag_ok_iff.mpr htrue))
        exact ⟨keep, flag_ok_iff.mpr h⟩
    obtain ⟨keep, hkeep⟩ := hkeep
    exact ⟨⟨included, excluded.getD "", attr, outer, keep, removed, next⟩,
      read_object_ok_iff.mpr ⟨requireString_ok_iff.mpr hincluded, ⟨excluded, hexcluded, rfl⟩, hattr,
        hnext, houter, hremove, hkeep⟩⟩

theorem names_of_read (h : read value field hasSubRules = .ok b) (own : String) :
    b.attr = some own ↔ Names value own := by
  rcases shape_of_read h with ⟨s, rfl, rfl⟩ | ⟨o, rfl⟩
  · simp [Names]
  · obtain ⟨-, -, hattr, -⟩ := read_object_ok_iff.mp h
    have hnames : Names (.object o) own ↔ o.Has ["attribute"] (.string own) := by simp [Names]
    rw [hnames, ← optionalString_some_iff, hattr, Except.ok.injEq]

/-- The block is what a value is read as, wherever it stands. -/
def ReadFrom (hasSubRules : Bool) (value : Json) (b : MatchBlock) : Prop :=
  ∃ field, read value field hasSubRules = .ok b

theorem forall₂_of_readAll (h : readAll field hasSubRules i values = .ok bs) :
    List.Forall₂ (ReadFrom hasSubRules) values bs := by
  induction values generalizing i bs with
  | nil =>
    cases h
    exact .nil
  | cons value rest ih =>
    simp only [readAll, bind_ok, pure_ok] at h
    obtain ⟨b, hb, more, hmore, rfl⟩ := h
    exact .cons ⟨_, hb⟩ (ih hmore)

theorem readAll_of_isBlock (h : ∀ value ∈ values, IsBlock hasSubRules value) (field : Field)
    (i : Nat) : ∃ bs, readAll field hasSubRules i values = .ok bs := by
  induction values generalizing i with
  | nil => exact ⟨[], rfl⟩
  | cons value rest ih =>
    obtain ⟨hvalue, hrest⟩ := List.forall_mem_cons.mp h
    obtain ⟨b, hb⟩ := read_of_isBlock hvalue (field.index i)
    obtain ⟨more, hmore⟩ := ih hrest (i + 1)
    simp only [readAll, bind_ok, pure_ok]
    exact ⟨_, b, hb, more, hmore, rfl⟩

theorem withAttribute_exists_iff (field : Field) {attr : String} :
    (∃ c, b.withAttribute attr field = .ok c) ↔ ∀ own, b.attr = some own → own = attr := by
  rw [withAttribute]
  cases b.attr with
  | none => simp
  | some own =>
    by_cases h : own = attr <;> simp [h]

theorem withAttributeAll_exists_iff (field : Field) {attr : String} :
    (∃ cs, withAttributeAll attr field bs = .ok cs) ↔
      ∀ b ∈ bs, ∀ own, b.attr = some own → own = attr := by
  induction bs with
  | nil => simp [withAttributeAll]
  | cons b rest ih =>
    rw [List.forall_mem_cons, ← ih, ← withAttribute_exists_iff field]
    simp only [withAttributeAll, bind_ok, pure_ok]
    constructor
    · rintro ⟨-, c, hc, more, hmore, -⟩
      exact ⟨⟨c, hc⟩, more, hmore⟩
    · rintro ⟨⟨c, hc⟩, more, hmore⟩
      exact ⟨_, c, hc, more, hmore, rfl⟩

end MatchBlock

namespace MatchSpec

variable {spec : MatchSpec} {branches : List Json}

theorem branches_of_read (h : read value field hasSubRules = .ok spec) :
    ∃ branches, Branches value branches ∧
      List.Forall₂ (MatchBlock.ReadFrom hasSubRules) branches spec.blocks := by
  unfold read at h
  split at h
  · simp only [bind_ok, pure_ok] at h
    obtain ⟨b, hb, rfl⟩ := h
    exact ⟨_, .selector _, .cons ⟨_, hb⟩ .nil⟩
  · split at h
    · next hlookup =>
      simp only [bind_ok, pure_ok] at h
      obtain ⟨bs, hbs, rfl⟩ := h
      exact ⟨_, .any (Json.has_iff.mpr ⟨_, hlookup⟩) (by simp), MatchBlock.forall₂_of_readAll hbs⟩
    · cases h
    · next hlookup =>
      simp only [bind_ok, pure_ok] at h
      obtain ⟨b, hb, rfl⟩ := h
      exact ⟨_, .block (Json.lookup?_eq_none_iff.mp hlookup), .cons ⟨_, hb⟩ .nil⟩
  · cases h

theorem read_of_branches (h : Branches value branches)
    (hblocks : ∀ b ∈ branches, MatchBlock.IsBlock hasSubRules b) (field : Field) :
    ∃ spec, read value field hasSubRules = .ok spec ∧
      List.Forall₂ (MatchBlock.ReadFrom hasSubRules) branches spec.blocks := by
  cases h with
  | selector s => exact ⟨_, rfl, .cons ⟨field, rfl⟩ .nil⟩
  | @block o hlacks =>
    obtain ⟨b, hb⟩ := MatchBlock.read_of_isBlock (hblocks _ (List.mem_singleton_self _)) field
    rw [read, Json.lookup?_eq_none_iff.mpr hlacks]
    simp only [bind_ok, pure_ok]
    exact ⟨_, ⟨b, hb, rfl⟩, .cons ⟨_, hb⟩ .nil⟩
  | @any o values hor hne =>
    obtain ⟨key, hkey⟩ := Json.has_iff.mp hor
    obtain ⟨bs, hbs⟩ := MatchBlock.readAll_of_isBlock hblocks (field.key key) 0
    obtain ⟨first, rest, rfl⟩ := List.exists_cons_of_ne_nil hne
    rw [read, hkey]
    simp only [bind_ok, pure_ok]
    exact ⟨_, ⟨bs, hbs, rfl⟩, MatchBlock.forall₂_of_readAll hbs⟩

theorem withAttribute_exists_iff (field : Field) {attr : Option String} :
    (∃ spec', spec.withAttribute attr field = .ok spec') ↔
      ∀ name, attr = some name → ∀ b ∈ spec.blocks, ∀ own, b.attr = some own → own = name := by
  cases attr with
  | none => simp [withAttribute]
  | some name =>
    simp only [Option.some.injEq, forall_eq']
    cases spec with
    | single b =>
      simp only [withAttribute, bind_ok, pure_ok, blocks, List.mem_singleton, forall_eq]
      rw [← MatchBlock.withAttribute_exists_iff field]
      constructor
      · rintro ⟨-, c, hc, -⟩
        exact ⟨c, hc⟩
      · rintro ⟨c, hc⟩
        exact ⟨_, c, hc, rfl⟩
    | any bs =>
      simp only [withAttribute, bind_ok, pure_ok, blocks]
      rw [← MatchBlock.withAttributeAll_exists_iff field]
      constructor
      · rintro ⟨-, cs, hcs, -⟩
        exact ⟨cs, hcs⟩
      · rintro ⟨cs, hcs⟩
        exact ⟨_, cs, hcs, rfl⟩

end MatchSpec

-- --------------------------------------------------------------------
-- Reading replacements
-- --------------------------------------------------------------------

namespace Replacement

theorem compilePattern_exists_iff (field : Field) {pattern : String} :
    (∃ r, compilePattern pattern field = .ok r) ↔ (Regex.compile? pattern).isSome := by
  rw [compilePattern]
  cases Regex.compile? pattern <;> simp

theorem matchAll_compiles : (Regex.compile? matchAll).isSome := by decide +kernel

theorem read_exists_iff (field : Field) :
    (∃ r, Replacement.read value field false = .ok r) ↔ IsReplacement value := by
  cases value with
  | string s =>
    obtain ⟨find, hfind⟩ :=
      (compilePattern_exists_iff (field.key "find")).mpr matchAll_compiles
    refine ⟨fun _ => .output s, fun _ => ⟨⟨find, s⟩, ?_⟩⟩
    simp only [Replacement.read, Bool.false_eq_true, if_false, hfind]
    rfl
  | object o =>
    simp only [Replacement.read, Bool.false_eq_true, if_false, bind_ok, pure_ok,
      Json.requireString_ok_iff]
    constructor
    · rintro ⟨-, output, houtput, found, hfound, find, hfind, -⟩
      refine .object ⟨output, houtput⟩ ?_
      cases found with
      | none => exact .inl (Json.optionalString_none_iff.mp hfound)
      | some s =>
        exact .inr ⟨s, Json.optionalString_some_iff.mp hfound,
          (compilePattern_exists_iff _).mp ⟨find, hfind⟩⟩
    · rintro ⟨⟩
      next houtput hfind =>
      obtain ⟨output, houtput⟩ := houtput
      rcases hfind with hlacks | ⟨s, hs, hcompile⟩
      · obtain ⟨find, hfind⟩ :=
          (compilePattern_exists_iff (field.key "find")).mpr matchAll_compiles
        exact ⟨_, output, houtput, none, Json.optionalString_none_iff.mpr hlacks, find, hfind, rfl⟩
      · obtain ⟨find, hfind⟩ :=
          (compilePattern_exists_iff (field.key "find")).mpr hcompile
        exact ⟨_, output, houtput, some s, Json.optionalString_some_iff.mpr hs, find, hfind, rfl⟩
  | _ => exact ⟨fun ⟨_, h⟩ => (nomatch h), fun h => (nomatch h)⟩

end Replacement

-- --------------------------------------------------------------------
-- Reading rules
-- --------------------------------------------------------------------

namespace Rule

variable {r : Rule} {rules : List Rule} {items : List Json} {item : Json} {source : Source}
  {attr : Option String}

theorem readReplacement_leaf_iff (field : Field) :
    (∃ found, readReplacement o field false = .ok found) ↔
      ∀ value, o.Has ["rewrite"] value → Replacement.IsReplacement value := by
  simp only [readReplacement_ok_iff, Json.has_iff]
  constructor
  · rintro ⟨_, ⟨hnone, -⟩ | ⟨_, _, r, hsome, hr, -⟩⟩ value ⟨key, hkey⟩
    · cases hnone.symm.trans hkey
    · cases hsome.symm.trans hkey
      exact (Replacement.read_exists_iff _).mp ⟨r, hr⟩
  · intro h
    cases hlookup : o.lookup? ["rewrite"] with
    | none => exact ⟨none, .inl ⟨rfl, rfl⟩⟩
    | some found =>
      obtain ⟨key, value⟩ := found
      obtain ⟨r, hr⟩ := (Replacement.read_exists_iff (field.key key)).mpr (h value ⟨key, hlookup⟩)
      exact ⟨some r, .inr ⟨key, value, r, rfl, hr, rfl⟩⟩

theorem readReplacement_branch_iff (field : Field) :
    (∃ found, readReplacement o field true = .ok found) ↔ o.Lacks ["rewrite"] := by
  simp only [readReplacement_ok_iff, ← Json.lookup?_eq_none_iff]
  constructor
  · rintro ⟨_, ⟨hnone, -⟩ | ⟨_, _, _, -, hr, -⟩⟩
    · exact hnone
    · cases hr
  · intro h
    exact ⟨none, .inl ⟨h, rfl⟩⟩

/-- Literal values stand alone. -/
theorem checkLiteral_ok_iff : checkLiteral o field attr = .ok () ↔
    o.Lacks ["value", "literalValues"] ∨ (o.Lacks ["match"] ∧ attr = none) := by
  rw [← Json.lookup?_eq_none_iff, ← Json.lookup?_eq_none_iff, checkLiteral]
  cases o.lookup? ["value", "literalValues"] with
  | none => simp
  | some found =>
    cases o.lookup? ["match"] <;> cases attr <;> simp

theorem hasSource_of_read (hattr : o.optionalString field ["attribute"] = .ok attr)
    (hliteral : checkLiteral o field attr = .ok ())
    (h : readSource o field attr hasSubRules = .ok source) : HasSource hasSubRules o := by
  have hliteral := checkLiteral_ok_iff.mp hliteral
  rcases readSource_ok_iff.mp h with ⟨key, value, spec, spec', hlookup, hspec, hattribute, -⟩ |
    ⟨name, hlookup, rfl, -⟩ | ⟨key, value, texts, hlookup, rfl, hvalue, htexts, -⟩
  · have hmatch := Json.has_iff.mpr ⟨key, hlookup⟩
    obtain ⟨branches, hbranches, hblocks⟩ := MatchSpec.branches_of_read hspec
    have hread : ∀ v ∈ branches, ∃ b ∈ spec.blocks, MatchBlock.ReadFrom hasSubRules v b :=
      fun v hv => forall₂_mem (R := flip (MatchBlock.ReadFrom hasSubRules)) hblocks.flip hv
    refine .matched hmatch hbranches ?_ ?_
      (hliteral.resolve_right fun h => Json.not_lacks_of_has hmatch h.1)
    · intro v hv
      obtain ⟨b, -, _, hb⟩ := hread v hv
      exact MatchBlock.isBlock_of_read hb
    · intro name hname v hv own hown
      obtain ⟨b, hb, _, hread⟩ := hread v hv
      have hattr : attr = some name :=
        Except.ok.inj (hattr.symm.trans (Json.optionalString_some_iff.mpr hname))
      exact (MatchSpec.withAttribute_exists_iff _).mp ⟨_, hattribute⟩ name hattr b hb own
        ((MatchBlock.names_of_read hread own).mpr hown)
  · exact .attr (Json.lookup?_eq_none_iff.mp hlookup) ⟨_, Json.optionalString_some_iff.mp hattr⟩
      (hliteral.resolve_right fun h => nomatch h.2)
  · exact .literals (Json.lookup?_eq_none_iff.mp hlookup) (Json.optionalString_none_iff.mp hattr)
      (Json.has_iff.mpr ⟨key, hvalue⟩) ((Json.stringList_exists_iff _).mp ⟨texts, htexts⟩)

theorem read_of_hasSource (h : HasSource hasSubRules o)
    (hattr : o.optionalString field ["attribute"] = .ok attr) :
    checkLiteral o field attr = .ok () ∧
      ∃ source, readSource o field attr hasSubRules = .ok source := by
  simp only [readSource_ok_iff]
  cases h with
  | matched hmatch hbranches blocks hagrees literals =>
    obtain ⟨key, hkey⟩ := Json.has_iff.mp hmatch
    obtain ⟨spec, hspec, hblocks⟩ := MatchSpec.read_of_branches hbranches blocks (field.key key)
    refine ⟨checkLiteral_ok_iff.mpr (.inl literals), ?_⟩
    have hattribute : ∃ spec', spec.withAttribute attr (field.key "attribute") = .ok spec' := by
      rw [MatchSpec.withAttribute_exists_iff]
      rintro name rfl b hb own hown
      obtain ⟨v, hv, _, hread⟩ := forall₂_mem hblocks hb
      exact hagrees name (Json.optionalString_some_iff.mp hattr) v hv own
        ((MatchBlock.names_of_read hread own).mp hown)
    obtain ⟨spec', hspec'⟩ := hattribute
    exact ⟨_, .inl ⟨key, _, spec, spec', hkey, hspec, hspec', rfl⟩⟩
  | attr hmatch hname literals =>
    obtain ⟨name, hname⟩ := hname
    obtain rfl : attr = some name :=
      Except.ok.inj (hattr.symm.trans (Json.optionalString_some_iff.mpr hname))
    exact ⟨checkLiteral_ok_iff.mpr (.inl literals), .attr name,
      .inr (.inl ⟨name, Json.lookup?_eq_none_iff.mpr hmatch, rfl, rfl⟩)⟩
  | literals hmatch hnone hvalue texts =>
    obtain rfl : attr = none :=
      Except.ok.inj (hattr.symm.trans (Json.optionalString_none_iff.mpr hnone))
    obtain ⟨key, hkey⟩ := Json.has_iff.mp hvalue
    obtain ⟨ss, hss⟩ := (Json.stringList_exists_iff (field.key key)).mpr texts
    exact ⟨checkLiteral_ok_iff.mpr (.inr ⟨hmatch, rfl⟩), .literals ss,
      .inr (.inr ⟨key, _, ss, Json.lookup?_eq_none_iff.mpr hmatch, rfl, hkey, hss, rfl⟩)⟩

mutual
theorem isRule_of_read : (r : Rule) → {item : Json} → ReadFrom item r → IsRule item
  | ⟨name, source, subRules, replacement⟩, item, ⟨field, h⟩ => by
    obtain ⟨o, rfl⟩ := object_of_read h
    obtain ⟨hname, attr, hattr, hliteral, hsub, hsource, hrep⟩ := read_object_ok_iff.mp h
    have hnamed : o.HasText ["name"] := ⟨_, Json.requireString_ok_iff.mp hname⟩
    have hmay := (Json.optionalString_exists_iff _).mp ⟨_, hattr⟩
    have hhas := hasSource_of_read hattr hliteral hsource
    rcases readSubRules_ok_iff.mp hsub with ⟨hlookup, rfl⟩ | ⟨key, value, hlookup, hmatch, hread⟩
    · exact .leaf hnamed hmay hhas (Json.lookup?_eq_none_iff.mp hlookup)
        ((readReplacement_leaf_iff _).mp ⟨_, hrep⟩)
    · have hsome : hasSubRules ⟨name, source, subRules, replacement⟩ = true := by
        simpa [hasSubRules] using readAll_ne_nil hread
      rw [hsome] at hhas hrep
      obtain ⟨items, rfl, hne, hitems⟩ := readAll_ok hread
      obtain ⟨_, hmatch⟩ := Json.lookup?_isSome_iff.mp hmatch
      exact .branch hnamed hmay hmatch hhas (Json.has_iff.mpr ⟨key, hlookup⟩) hne
        (each_isRule_of_read subRules hitems) ((readReplacement_branch_iff _).mp ⟨_, hrep⟩)
theorem each_isRule_of_read : (rules : List Rule) → {items : List Json} →
    List.Forall₂ ReadFrom items rules → ∀ item ∈ items, IsRule item
  | [], _, .nil => nofun
  | r :: rest, _, .cons hr hrest =>
    List.forall_mem_cons.mpr ⟨isRule_of_read r hr, each_isRule_of_read rest hrest⟩
end

theorem readItems_of_each (h : ∀ item ∈ items, ∀ field, ∃ r, read item field = .ok r)
    (field : Field) (i : Nat) : ∃ rules, readItems items field i = .ok rules := by
  induction items generalizing i with
  | nil => exact ⟨[], by rw [readItems]⟩
  | cons item rest ih =>
    obtain ⟨hitem, hrest⟩ := List.forall_mem_cons.mp h
    obtain ⟨r, hr⟩ := hitem (field.index i)
    obtain ⟨more, hmore⟩ := ih hrest (i + 1)
    rw [readItems]
    simp only [bind_ok, pure_ok]
    exact ⟨_, r, hr, more, hmore, rfl⟩

theorem readAll_of_each (hne : items ≠ [])
    (h : ∀ item ∈ items, ∀ field, ∃ r, read item field = .ok r) (field : Field) :
    ∃ rules, readAll (.array items) field = .ok rules := by
  obtain ⟨rules, hrules⟩ := readItems_of_each h field 0
  obtain ⟨first, rest, rfl⟩ := List.exists_cons_of_ne_nil hne
  exact ⟨rules, by rw [readAll, hrules]⟩

theorem read_of_isRule (h : IsRule item) (field : Field) : ∃ r, read item field = .ok r := by
  induction h generalizing field with
  | @leaf o name attr source subRules replacement =>
    obtain ⟨name, hname⟩ := name
    obtain ⟨attr, hattr⟩ := (Json.optionalString_exists_iff field).mpr attr
    obtain ⟨hliteral, source, hsource⟩ := read_of_hasSource source hattr
    obtain ⟨replacement, hrep⟩ := (readReplacement_leaf_iff field).mpr replacement
    have hsub : readSubRules o field = .ok [] :=
      readSubRules_ok_iff.mpr (.inl ⟨Json.lookup?_eq_none_iff.mpr subRules, rfl⟩)
    exact ⟨⟨name, source, [], replacement⟩, read_object_ok_iff.mpr
      ⟨Json.requireString_ok_iff.mpr hname, attr, hattr, hliteral, hsub, hsource, hrep⟩⟩
  | @branch o value items name attr hmatch source subRules hne each replacement ih =>
    obtain ⟨name, hname⟩ := name
    obtain ⟨attr, hattr⟩ := (Json.optionalString_exists_iff field).mpr attr
    obtain ⟨hliteral, source, hsource⟩ := read_of_hasSource source hattr
    obtain ⟨replacement, hrep⟩ := (readReplacement_branch_iff field).mpr replacement
    obtain ⟨key, hkey⟩ := Json.has_iff.mp subRules
    obtain ⟨rules, hrules⟩ := readAll_of_each hne ih (field.key key)
    have hsub : readSubRules o field = .ok rules := readSubRules_ok_iff.mpr
      (.inr ⟨key, _, hkey, Json.lookup?_isSome_iff.mpr ⟨value, hmatch⟩, hrules⟩)
    have hhas : (Rule.mk name source rules replacement).hasSubRules = true := by
      simpa [hasSubRules] using readAll_ne_nil hrules
    exact ⟨⟨name, source, rules, replacement⟩, read_object_ok_iff.mpr
      ⟨Json.requireString_ok_iff.mpr hname, attr, hattr, hliteral, hsub, hhas ▸ hsource,
        hhas ▸ hrep⟩⟩

end Rule

/-- The readers accept the lists of rules of the grammar and nothing else, wherever these
stand. -/
theorem rules_are_read_iff (value : Json) (field : Field) :
    (∃ rules, Rule.readAll value field = .ok rules) ↔ Rule.IsRuleList value := by
  constructor
  · rintro ⟨rules, h⟩
    obtain ⟨items, rfl, hne, hitems⟩ := Rule.readAll_ok h
    exact ⟨items, rfl, hne, Rule.each_isRule_of_read rules hitems⟩
  · rintro ⟨items, rfl, hne, heach⟩
    exact Rule.readAll_of_each hne (fun item hitem => Rule.read_of_isRule (heach item hitem)) field

end PageRecords
