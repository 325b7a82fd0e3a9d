import PageRecords.Proofs.Document.TwoReadings

/-!
# Values read alike in a slot

`Slot.ReadAlike` says of two values that they are read alike where they fill a slot. Objects are
if they agree in their fields (`Slot.Agree`), arrays if their items are, and every value is read
like itself, also where it stands at another field. So a change to one value somewhere in
another does no more than it does to that value: `Slot.readAlike_of_within`.
-/

namespace PageRecords

open Json (Members)

variable {c : Comparison} {o o' : Members} {items items' : List Json} {v v' : Json}
  {f f' : Field} {field : Field} {hasSubRules : Bool} {p : Slot}

-- --------------------------------------------------------------------
-- Readers that stand inside others
-- --------------------------------------------------------------------

namespace MatchSpec

/-- The branches of an alternation. -/
def readBranches (value : Json) (field : Field) (hasSubRules : Bool) : Except Fault MatchSpec :=
  match value with
  | .array (b :: bs) => return .any (← MatchBlock.readAll field hasSubRules 0 (b :: bs))
  | _ => .error (.invalid field .emptyAlternation)

theorem read_object : read (.object o) field hasSubRules =
    match o.lookup? ["or"] with
    | some (key, value) => readBranches value (field.key key) hasSubRules
    | none => do
      let block ← MatchBlock.read (.object o) field hasSubRules
      return .single block := by
  cases hfound : o.lookup? ["or"] with
  | none => simp only [read, hfound]
  | some found =>
    obtain ⟨key, value⟩ := found
    cases value with
    | array values => cases values <;> simp only [read, readBranches, hfound]
    | _ => simp only [read, readBranches, hfound]

end MatchSpec

namespace Redirect

/-- The object of the parameters. -/
def readParams (value : Json) (field : Field) : Except Fault Redirect := do
  let members ← value.asObject field
  let required ← readRequired field members
  pure { required }

/-- The parameters of the older form, one level further down. -/
def readQuery (value : Json) (field : Field) : Except Fault Redirect := do
  let inner ← value.asObject field
  match inner.lookup? ["setParams"] with
  | some (key, value) => readParams value (field.key key)
  | none => .error (.missing (field.key "setParams"))

theorem read_object : read (.object o) field =
    match o.lookup? ["requiredQueryParams"], o.lookup? ["query"] with
    | some (key, value), _ => readParams value (field.key key)
    | none, some (_, value) => readQuery value (field.key "query")
    | none, none => .error (.missing (field.key "query")) := by
  cases hparams : o.lookup? ["requiredQueryParams"] with
  | some found => simp only [read, readParams, hparams, Json.asObject, ok_bind, pure_bind]
  | none =>
    cases hquery : o.lookup? ["query"] with
    | none => simp only [read, hparams, hquery, Json.asObject, ok_bind, error_bind]
    | some found =>
      obtain ⟨key, value⟩ := found
      cases value with
      | object inner =>
        cases hset : Members.lookup? inner ["setParams"] <;>
          simp only [read, readQuery, readParams, hparams, hquery, hset, Json.asObject, ok_bind,
            error_bind, pure_bind]
      | _ => simp only [read, readQuery, hparams, hquery, Json.asObject, ok_bind, error_bind]

end Redirect

theorem Rule.readSubRules_eq : readSubRules o field =
    match o.lookup? ["rules", "subRules"] with
    | some (key, value) =>
      if (o.lookup? ["match"]).isSome then readAll value (field.key key)
      else .error (.invalid (field.key key) .subRulesWithoutMatch)
    | none => .ok [] := by
  rw [readSubRules.eq_def]
  split <;> simp_all

-- --------------------------------------------------------------------
-- Reading alike
-- --------------------------------------------------------------------

namespace Slot

/-- What is read from a value that fills a slot. -/
def Reads (c : Comparison) : Slot → Json → Json → Prop
  | .document, v, v' => Alike c Eq (RuleDocument.read v) (RuleDocument.read v')
  | .info, v, v' => AlikeAt c (RuleInfo.read v) (RuleInfo.read v')
  | .author, v, v' => AlikeAt c (Author.read (some v)) (Author.read (some v'))
  | .rules, v, v' => AlikeAt c (Rule.readAll v) (Rule.readAll v')
  | .rule, v, v' => AlikeAt c (Rule.read v) (Rule.read v')
  | .matched, v, v' => ∀ b, AlikeAt c (MatchSpec.read v · b) (MatchSpec.read v' · b)
  | .branches, v, v' =>
    ∀ b, AlikeAt c (MatchSpec.readBranches v · b) (MatchSpec.readBranches v' · b)
  | .block, v, v' => ∀ b, AlikeAt c (MatchBlock.read v · b) (MatchBlock.read v' · b)
  | .replacement, v, v' => ∀ b, AlikeAt c (Replacement.read v · b) (Replacement.read v' · b)
  | .redirect, v, v' => AlikeAt c (Redirect.read v) (Redirect.read v')
  | .query, v, v' => AlikeAt c (Redirect.readQuery v) (Redirect.readQuery v')
  | .params, v, v' => AlikeAt c (Redirect.readParams v) (Redirect.readParams v')
  | .plain, v, v' => PlainAlike c v v'
  | .data, v, v' => v = v'

/-- Two values are both there or both absent, and are read alike. -/
structure ReadAlike (c : Comparison) (p : Slot) (v v' : Json) : Prop where
  isPresent : v.isPresent = v'.isPresent
  reads : p.Reads c v v'

/-- Members under the same key with values that are read alike where they stand. -/
def MemberAlike (c : Comparison) (p : Slot) (m m' : String × Json) : Prop :=
  m.1 = m'.1 ∧ (p.under m.1).ReadAlike c m.2 m'.2

/-- Two objects agree in what is read from them in a slot. -/
structure Agree (c : Comparison) (p : Slot) (o o' : Members) : Prop where
  found : ∀ field ∈ p.fields,
    Option.Rel (FoundAlike c (field.2.ReadAlike c)) (o.lookup? field.1) (o'.lookup? field.1)
  /-- Flags are read whether or not they count as absent. -/
  flag : ∀ key ∈ p.flags, AlikeAt c (fun f => Json.flag (o.get? key) (f.key key))
    (fun f => Json.flag (o'.get? key) (f.key key))
  author : p = .info → AlikeAt c (Author.read (o.get? "author")) (Author.read (o'.get? "author"))
  members : p.ordered = true → List.Forall₂ (p.MemberAlike c) o o'
  same : p = .plain → c.strict → o = o'

theorem Agree.plain (h : p.Agree c o o') (keys : List String) (hkeys : (keys, .plain) ∈ p.fields) :
    Option.Rel (FoundAlike c (PlainAlike c)) (o.lookup? keys) (o'.lookup? keys) := by
  have hfound := h.found _ hkeys
  generalize o.lookup? keys = found, o'.lookup? keys = found' at hfound ⊢
  cases hfound with
  | some hm => exact .some ⟨hm.1, hm.2.reads⟩
  | none => exact .none

end Slot

open Slot (Agree ReadAlike MemberAlike)

-- --------------------------------------------------------------------
-- Blocks
-- --------------------------------------------------------------------

/-- A flag that is read only where it is not forced. -/
theorem forced_alike {forced : Bool} {flag flag' : Except Fault Bool} {k : Bool → MatchBlock}
    (h : Alike c Eq flag flag') :
    Alike c Eq (if forced then do let keep ← pure true; pure (k keep)
        else do let keep ← flag; pure (k keep))
      (if forced then do let keep ← pure true; pure (k keep)
        else do let keep ← flag'; pure (k keep)) := by
  cases forced with
  | true => exact .refl _
  | false => exact h.bind_eq fun _ => .ok rfl

theorem block_object_alike (h : Agree c .block o o') :
    AlikeAt c (MatchBlock.read (.object o) · hasSubRules)
      (MatchBlock.read (.object o') · hasSubRules) := by
  intro f f' hf
  -- The value is asked for its members first; both come to their own, and these agree.
  refine (Alike.ok h : Alike c (Agree c .block) _ _).bind fun o o' h => ?_
  refine (requireString_alike (h.plain _ (by decide)) hf).bind_eq fun included => ?_
  refine (optionalString_alike (h.plain _ (by decide)) hf).bind_eq fun excluded => ?_
  refine (optionalString_alike (h.plain _ (by decide)) hf).bind_eq fun attr => ?_
  refine (optionalString_alike (h.plain _ (by decide)) hf).bind_eq fun addNextUntil => ?_
  have hremove := stringList_alike (h.plain ["removeInside"] (by decide))
    (hf.sameKey "removeInside")
  have hkeep := h.flag "keepBasicMarkup" (by decide) _ _ hf
  cases addNextUntil with
  | some stop => exact hremove.bind_eq fun removeInside => forced_alike hkeep
  | none =>
    refine (h.flag "outerNode" (by decide) _ _ hf).bind_eq fun outerNode => ?_
    exact hremove.bind_eq fun removeInside => forced_alike hkeep

theorem blocks_alike (h : List.Forall₂ (ReadAlike c .block) items items') (hf : c.Fields f f')
    (i : Nat) : Alike c Eq (MatchBlock.readAll f hasSubRules i items)
      (MatchBlock.readAll f' hasSubRules i items') := by
  induction h generalizing i with
  | nil => exact .ok rfl
  | cons hitem _ ih =>
    refine (hitem.reads hasSubRules _ _ (hf.index i)).bind_eq fun block => ?_
    exact (ih (i + 1)).bind_eq fun more => .ok rfl

theorem branches_array_alike (h : List.Forall₂ (ReadAlike c .block) items items') :
    AlikeAt c (MatchSpec.readBranches (.array items) · hasSubRules)
      (MatchSpec.readBranches (.array items') · hasSubRules) := by
  intro f f' hf
  cases h with
  | nil => exact .invalid hf _
  | cons hitem hrest => exact (blocks_alike (.cons hitem hrest) hf 0).bind_eq fun _ => .ok rfl

/-- An object with branches is read by them alone, and one without is a block. -/
theorem matched_object_alike (h : Agree c .matched o o') :
    AlikeAt c (MatchSpec.read (.object o) · hasSubRules)
      (MatchSpec.read (.object o') · hasSubRules) := by
  intro f f' hf
  have hblock : Agree c .block o o' :=
    ⟨fun field hfield => h.found field (List.mem_cons_of_mem _ hfield), h.flag, nofun, nofun, nofun⟩
  have hor := h.found (["or"], .branches) List.mem_cons_self
  simp only [MatchSpec.read_object]
  generalize Members.lookup? o ["or"] = found, Members.lookup? o' ["or"] = found' at hor ⊢
  cases hor with
  | some hm => exact hm.2.reads hasSubRules _ _ (hf.key hm.1)
  | none => exact (block_object_alike hblock f f' hf).bind_eq fun _ => .ok rfl

-- --------------------------------------------------------------------
-- Rules
-- --------------------------------------------------------------------

theorem replacement_object_alike (h : Agree c .replacement o o') :
    AlikeAt c (Replacement.read (.object o) · hasSubRules)
      (Replacement.read (.object o') · hasSubRules) := by
  intro f f' hf
  unfold Replacement.read
  cases hasSubRules with
  | true => exact .invalid hf _
  | false =>
    refine (requireString_alike (h.plain _ (by decide)) hf).bind_eq fun output => ?_
    refine (optionalString_alike (h.plain _ (by decide)) hf).bind_eq fun find => ?_
    exact (compilePattern_alike _ (hf.sameKey _)).bind_eq fun _ => .ok rfl

theorem withAttribute_alike (hf : c.Fields f f') (attr : String) (b : MatchBlock) :
    Alike c Eq (b.withAttribute attr f) (b.withAttribute attr f') := by
  unfold MatchBlock.withAttribute
  split
  · split
    · exact .ok rfl
    · exact .invalid hf _
  · exact .ok rfl

theorem withAttributeAll_alike (hf : c.Fields f f') (attr : String) (bs : List MatchBlock) :
    Alike c Eq (MatchBlock.withAttributeAll attr f bs)
      (MatchBlock.withAttributeAll attr f' bs) := by
  induction bs with
  | nil => exact .ok rfl
  | cons b rest ih =>
    exact (withAttribute_alike hf attr b).bind_eq fun _ => ih.bind_eq fun _ => .ok rfl

theorem specWithAttribute_alike (hf : c.Fields f f') (attr : Option String) (spec : MatchSpec) :
    Alike c Eq (spec.withAttribute attr f) (spec.withAttribute attr f') := by
  cases attr with
  | none => exact .ok rfl
  | some attr =>
    cases spec with
    | single b => exact (withAttribute_alike hf attr b).bind_eq fun _ => .ok rfl
    | any bs => exact (withAttributeAll_alike hf attr bs).bind_eq fun _ => .ok rfl

theorem isSome_eq_of_rel {α β : Type} {R : α → β → Prop} {x : Option α} {y : Option β}
    (h : Option.Rel R x y) : x.isSome = y.isSome := by
  cases h <;> rfl

theorem checkLiteral_alike (h : Agree c .rule o o') (hf : c.Fields f f') (attr : Option String) :
    Alike c Eq (Rule.checkLiteral o f attr) (Rule.checkLiteral o' f' attr) := by
  have hmatch := isSome_eq_of_rel (h.found (["match"], .matched) (by decide))
  have hvalue := h.found (["value", "literalValues"], .plain) (by decide)
  unfold Rule.checkLiteral
  rw [← hmatch]
  generalize o.lookup? ["value", "literalValues"] = found,
    o'.lookup? ["value", "literalValues"] = found' at hvalue ⊢
  cases hvalue with
  | none => exact .ok rfl
  | some hm =>
    dsimp only
    split
    · exact .invalid (hf.key hm.1) _
    · exact .ok rfl

theorem readSource_alike (h : Agree c .rule o o') (hf : c.Fields f f') (attr : Option String) :
    Alike c Eq (Rule.readSource o f attr hasSubRules) (Rule.readSource o' f' attr hasSubRules) := by
  have hmatch := h.found (["match"], .matched) (by decide)
  have hvalue := h.plain ["value", "literalValues"] (by decide)
  unfold Rule.readSource
  generalize o.lookup? ["match"] = found, o'.lookup? ["match"] = found' at hmatch ⊢
  cases hmatch with
  | some hm =>
    refine (hm.2.reads hasSubRules _ _ (hf.key hm.1)).bind_eq fun spec => ?_
    exact (specWithAttribute_alike (hf.sameKey _) attr spec).bind_eq fun _ => .ok rfl
  | none =>
    cases attr with
    | some attr => exact .ok rfl
    | none =>
      generalize o.lookup? ["value", "literalValues"] = found,
        o'.lookup? ["value", "literalValues"] = found' at hvalue ⊢
      cases hvalue with
      | some hm => exact (hm.2.texts _ _ (hf.key hm.1)).bind_eq fun _ => .ok rfl
      | none => exact .missing (hf.sameKey _)

theorem readSubRules_alike (h : Agree c .rule o o') (hf : c.Fields f f') :
    Alike c Eq (Rule.readSubRules o f) (Rule.readSubRules o' f') := by
  have hmatch := isSome_eq_of_rel (h.found (["match"], .matched) (by decide))
  have hrules := h.found (["rules", "subRules"], .rules) (by decide)
  rw [Rule.readSubRules_eq, Rule.readSubRules_eq, ← hmatch]
  generalize o.lookup? ["rules", "subRules"] = found,
    o'.lookup? ["rules", "subRules"] = found' at hrules ⊢
  cases hrules with
  | none => exact .ok rfl
  | some hm =>
    dsimp only
    split
    · exact hm.2.reads _ _ (hf.key hm.1)
    · exact .invalid (hf.key hm.1) _

theorem readReplacement_alike (h : Agree c .rule o o') (hf : c.Fields f f') :
    Alike c Eq (Rule.readReplacement o f hasSubRules) (Rule.readReplacement o' f' hasSubRules) := by
  have hrewrite := h.found (["rewrite"], .replacement) (by decide)
  unfold Rule.readReplacement
  generalize o.lookup? ["rewrite"] = found, o'.lookup? ["rewrite"] = found' at hrewrite ⊢
  cases hrewrite with
  | some hm => exact (hm.2.reads hasSubRules _ _ (hf.key hm.1)).bind_eq fun _ => .ok rfl
  | none => exact .ok rfl

theorem rule_object_alike (h : Agree c .rule o o') :
    AlikeAt c (Rule.read (.object o)) (Rule.read (.object o')) := by
  intro f f' hf
  rw [Rule.read.eq_def, Rule.read.eq_def]
  refine (requireString_alike (h.plain _ (by decide)) hf).bind_eq fun name => ?_
  refine (optionalString_alike (h.plain _ (by decide)) hf).bind_eq fun attr => ?_
  refine (checkLiteral_alike h hf attr).bind_eq fun _ => ?_
  refine (readSubRules_alike h hf).bind_eq fun subRules => ?_
  refine (readSource_alike h hf attr).bind_eq fun source => ?_
  exact (readReplacement_alike h hf).bind_eq fun replacement => .ok rfl

theorem ruleItems_alike (h : List.Forall₂ (ReadAlike c .rule) items items') (hf : c.Fields f f')
    (i : Nat) : Alike c Eq (Rule.readItems items f i) (Rule.readItems items' f' i) := by
  induction h generalizing i with
  | nil =>
    rw [Rule.readItems, Rule.readItems]
    exact .ok rfl
  | cons hitem _ ih =>
    rw [Rule.readItems, Rule.readItems]
    refine (hitem.reads _ _ (hf.index i)).bind_eq fun rule => ?_
    exact (ih (i + 1)).bind_eq fun more => .ok rfl

theorem rules_array_alike (h : List.Forall₂ (ReadAlike c .rule) items items') :
    AlikeAt c (Rule.readAll (.array items)) (Rule.readAll (.array items')) := by
  intro f f' hf
  cases h with
  | nil =>
    rw [Rule.readAll, Rule.readAll]
    exact .invalid hf _
  | cons hitem hrest =>
    rw [Rule.readAll, Rule.readAll]
    exact ruleItems_alike (.cons hitem hrest) hf 0

-- --------------------------------------------------------------------
-- Redirects
-- --------------------------------------------------------------------

theorem required_alike (h : List.Forall₂ (MemberAlike c .params) o o') (hf : c.Fields f f') :
    Alike c Eq (Redirect.readRequired f o) (Redirect.readRequired f' o') := by
  induction h with
  | nil => exact .ok rfl
  | @cons m m' _ _ hm _ ih =>
    obtain ⟨key, value⟩ := m
    obtain ⟨_, value'⟩ := m'
    obtain ⟨rfl, hvalue⟩ := hm
    refine (hvalue.reads.scalar _ _ (hf.sameKey key)).bind_eq fun text => ?_
    exact ih.bind_eq fun more => .ok rfl

theorem params_object_alike (h : Agree c .params o o') :
    AlikeAt c (Redirect.readParams (.object o)) (Redirect.readParams (.object o')) :=
  fun _ _ hf => (required_alike (h.members rfl) hf).bind_eq fun _ => .ok rfl

theorem query_object_alike (h : Agree c .query o o') :
    AlikeAt c (Redirect.readQuery (.object o)) (Redirect.readQuery (.object o')) := by
  intro f f' hf
  refine (Alike.ok h : Alike c (Agree c .query) _ _).bind fun o o' h => ?_
  have hset := h.found (["setParams"], .params) (by decide)
  generalize o.lookup? ["setParams"] = found, o'.lookup? ["setParams"] = found' at hset ⊢
  cases hset with
  | some hm => exact hm.2.reads _ _ (hf.key hm.1)
  | none => exact .missing (hf.sameKey _)

theorem redirect_object_alike (h : Agree c .redirect o o') :
    AlikeAt c (Redirect.read (.object o)) (Redirect.read (.object o')) := by
  intro f f' hf
  have hparams := h.found (["requiredQueryParams"], .params) (by decide)
  have hquery := h.found (["query"], .query) (by decide)
  rw [Redirect.read_object, Redirect.read_object]
  generalize o.lookup? ["requiredQueryParams"] = params,
    o'.lookup? ["requiredQueryParams"] = params' at hparams ⊢
  cases hparams with
  | some hm => exact hm.2.reads _ _ (hf.key hm.1)
  | none =>
    generalize o.lookup? ["query"] = query, o'.lookup? ["query"] = query' at hquery ⊢
    cases hquery with
    | some hm => exact hm.2.reads _ _ (hf.sameKey _)
    | none => exact .missing (hf.sameKey _)

-- --------------------------------------------------------------------
-- The description of a document
-- --------------------------------------------------------------------

theorem Slot.under_author {key : String} (h : key ≠ "name") : Slot.author.under key = .data := by
  simp [Slot.under, Slot.fields, h]

theorem metadata_eq (h : List.Forall₂ (MemberAlike c .author) o o') :
    (o.filter fun m => m.1 != "name") = o'.filter fun m => m.1 != "name" := by
  induction h with
  | nil => rfl
  | @cons m m' _ _ hm _ ih =>
    obtain ⟨key, value⟩ := m
    obtain ⟨_, value'⟩ := m'
    obtain ⟨rfl, hvalue⟩ := hm
    by_cases hname : key = "name"
    · simpa [hname] using ih
    · rw [Slot.under_author hname] at hvalue
      obtain rfl : value = value' := hvalue.reads
      simp [hname, ih]

theorem author_object_alike (h : Agree c .author o o') :
    AlikeAt c (Author.read (some (.object o))) (Author.read (some (.object o'))) := by
  intro f f' hf
  simp only [Author.read]
  rw [metadata_eq (h.members rfl)]
  exact (requireString_alike (h.plain _ (by decide)) hf).bind_eq fun _ => .ok rfl

theorem extractionType_alike (h : Agree c .info o o') (hf : c.Fields f f') :
    Alike c Eq (ExtractionType.read o f) (ExtractionType.read o' f') := by
  refine (requireString_alike (h.plain _ (by decide)) hf).bind_eq fun kind => ?_
  split
  · exact .ok rfl
  · exact .ok rfl
  · refine (requireString_alike (h.plain _ (by decide)) hf).bind_eq fun custom => ?_
    split
    · exact .error fun hc => by rw [hf hc]
    · exact .ok rfl
  · exact .error fun hc => by rw [hf hc]

theorem checkPath_alike {path path' : Option (String × String)} (h : TextsAlike c path path')
    (hf : c.Fields f f') :
    Alike c Eq (RuleInfo.checkPath f path) (RuleInfo.checkPath f' path') := by
  cases h with
  | none => exact .ok rfl
  | @some a a' h =>
    obtain ⟨key, pattern⟩ := a
    obtain ⟨key', _⟩ := a'
    obtain ⟨hkey, rfl⟩ := h
    exact (compilePattern_alike pattern (hf.key hkey)).bind_eq fun _ => .ok rfl

/-- The derived pattern is the same, and a declared one was found alike. -/
theorem choosePattern_alike {declared declared' path path' : Option (String × String)}
    (hdeclared : TextsAlike c declared declared') (hpath : TextsAlike c path path')
    (hf : c.Fields f f') (domain : String) :
    Alike c (fun a a' => (c.strict → a.1 = a'.1) ∧ a.2 = a'.2)
      (RuleInfo.choosePattern f domain declared path)
      (RuleInfo.choosePattern f' domain declared' path') := by
  cases hdeclared with
  | some h => exact .ok h
  | none =>
    cases hpath with
    | some h => exact .ok ⟨fun _ => rfl, congrArg (PagePattern.derive domain) h.2⟩
    | none => exact .missing (hf.sameKey _)

theorem info_object_alike (h : Agree c .info o o') :
    AlikeAt c (RuleInfo.read (.object o)) (RuleInfo.read (.object o')) := by
  intro f f' hf
  refine (Alike.ok h : Alike c (Agree c .info) _ _).bind fun o o' h => ?_
  refine (requireString_alike (h.plain _ (by decide)) hf).bind_eq fun name => ?_
  refine (extractionType_alike h hf).bind_eq fun type => ?_
  refine (requireString_alike (h.plain _ (by decide)) hf).bind_eq fun domain => ?_
  refine (keyedString_alike (h.plain _ (by decide)) hf).bind fun path path' hpath => ?_
  refine (keyedString_alike (h.plain _ (by decide)) hf).bind fun declared declared' hdeclared => ?_
  refine (checkPath_alike hpath hf).bind_eq fun _ => ?_
  refine (choosePattern_alike hdeclared hpath hf domain).bind fun a a' ha => ?_
  obtain ⟨key, pattern⟩ := a
  obtain ⟨key', _⟩ := a'
  obtain ⟨hkey, rfl⟩ := ha
  refine (compilePattern_alike pattern (hf.key hkey)).bind_eq fun matcher => ?_
  refine (stringList_alike (h.plain ["testPages"] (by decide)) (hf.sameKey _)).bind_eq
    fun testPages => ?_
  refine (Alike.refl (PagePattern.checkTestPages name matcher testPages)).bind_eq fun _ => ?_
  refine (h.author rfl _ _ (hf.sameKey "author")).bind_eq fun author => ?_
  refine (optionalString_alike (h.plain _ (by decide)) hf).bind_eq fun description => ?_
  rw [hpath.map_eq]
  exact .ok rfl

theorem Comparison.Fields.root {key key' : String} (h : c.strict → key = key') :
    c.Fields (.at_ key) (.at_ key') :=
  fun hc => by rw [h hc]

theorem document_object_alike (h : Agree c .document o o') :
    Alike c Eq (RuleDocument.read (.object o)) (RuleDocument.read (.object o')) := by
  have hinfo := h.found (["info"], .info) (by decide)
  have hrules := h.found (["rules"], .rules) (by decide)
  have hredirect := h.found (["redirect"], .redirect) (by decide)
  rw [RuleDocument.read_object, RuleDocument.read_object]
  refine Alike.bind_eq ?_ fun info => Alike.bind_eq ?_ fun rules =>
    Alike.bind_eq ?_ fun redirect => .ok rfl
  · generalize o.lookup? ["info"] = found, o'.lookup? ["info"] = found' at hinfo ⊢
    cases hinfo with
    | some hm => exact hm.2.reads _ _ (.root hm.1)
    | none => exact .missing fun _ => rfl
  · generalize o.lookup? ["rules"] = found, o'.lookup? ["rules"] = found' at hrules ⊢
    cases hrules with
    | some hm => exact hm.2.reads _ _ (.root hm.1)
    | none => exact .missing fun _ => rfl
  · unfold RuleDocument.readRedirect
    generalize o.lookup? ["redirect"] = found, o'.lookup? ["redirect"] = found' at hredirect ⊢
    cases hredirect with
    | some hm => exact (hm.2.reads _ _ (.root hm.1)).bind_eq fun _ => .ok rfl
    | none => exact .ok rfl

-- --------------------------------------------------------------------
-- Values
-- --------------------------------------------------------------------

/-- A value is no object where an object is wanted. -/
theorem notObject_alike {α : Type} {k l : Members → Except Fault α} (hv : ∀ o, v ≠ .object o)
    (hf : c.Fields f f') : Alike c Eq (v.asObject f >>= k) (v.asObject f' >>= l) := by
  cases v with
  | object o => exact (hv o rfl).elim
  | _ => exact .invalid hf _

namespace Slot

theorem readAlike_object (h : p.Agree c o o') : p.ReadAlike c (.object o) (.object o') := by
  refine ⟨rfl, ?_⟩
  cases p with
  | document => exact document_object_alike h
  | info => exact info_object_alike h
  | author => exact author_object_alike h
  | rules =>
    intro f f' hf
    rw [Rule.readAll.eq_def, Rule.readAll.eq_def]
    exact .invalid hf _
  | rule => exact rule_object_alike h
  | matched => exact fun _ => matched_object_alike h
  | branches => exact fun _ _ _ hf => .invalid hf _
  | block => exact fun _ => block_object_alike h
  | replacement => exact fun _ => replacement_object_alike h
  | redirect => exact redirect_object_alike h
  | query => exact query_object_alike h
  | params => exact params_object_alike h
  | plain => exact .object (h.same rfl)
  | data =>
    exact congrArg Json.object
      (eq_of_forall₂ (h.members rfl) fun _ _ hm => Prod.ext hm.1 hm.2.reads)

theorem readAlike_array (h : List.Forall₂ (p.item.ReadAlike c) items items') :
    p.ReadAlike c (.array items) (.array items') := by
  refine ⟨rfl, ?_⟩
  cases p with
  | document => exact .refl _
  | rules => exact rules_array_alike h
  | rule =>
    intro f f' hf
    rw [Rule.read.eq_def, Rule.read.eq_def]
    exact .invalid hf _
  | branches => exact fun _ => branches_array_alike h
  | replacement =>
    intro b f f' hf
    cases b <;> exact .invalid hf _
  | plain => exact .array (h.imp fun _ _ hitem => hitem.reads)
  | data => exact congrArg Json.array (eq_of_forall₂ h fun _ _ hitem => hitem.reads)
  | matched | block => exact fun _ _ _ hf => .invalid hf _
  | info | author | redirect | query | params => exact fun _ _ hf => .invalid hf _

/-- What is neither an object nor an array is read like itself. -/
theorem readAlike_scalar (hobject : ∀ o, v ≠ .object o) (harray : ∀ items, v ≠ .array items) :
    p.ReadAlike c v v := by
  -- Each reader takes the same text, or refuses both for the same reason.
  refine ⟨rfl, ?_⟩
  cases p with
  | document => exact .refl _
  | info | redirect | query | params => exact fun _ _ hf => notObject_alike hobject hf
  | author =>
    intro f f' hf
    cases v with
    | null | string => exact .ok rfl
    | object o => exact (hobject o rfl).elim
    | _ => exact .invalid hf _
  | rules =>
    intro f f' hf
    rw [Rule.readAll.eq_def, Rule.readAll.eq_def]
    cases v with
    | array items => exact (harray items rfl).elim
    | _ => exact .invalid hf _
  | rule =>
    intro f f' hf
    rw [Rule.read.eq_def, Rule.read.eq_def]
    split
    · exact .missing hf
    · cases v with
      | object o => exact (hobject o rfl).elim
      | _ => exact .invalid hf _
  | branches =>
    intro b f f' hf
    cases v with
    | array items => exact (harray items rfl).elim
    | _ => exact .invalid hf _
  | matched | block =>
    intro b f f' hf
    cases v with
    | string => exact .ok rfl
    | object o => exact (hobject o rfl).elim
    | _ => exact .invalid hf _
  | replacement =>
    intro b f f' hf
    unfold Replacement.read
    split
    · exact .invalid hf _
    · cases v with
      | string => exact (compilePattern_alike matchAll (hf.sameKey _)).bind_eq fun _ => .ok rfl
      | object o => exact (hobject o rfl).elim
      | _ => exact .invalid hf _
  | plain => exact .of_scalar hobject harray
  | data => rfl

/-- What is found under some spellings is found alike if each of them holds alike values. -/
theorem lookup?_alike {q : Slot} {keys : List String}
    (h : ∀ key ∈ keys, Option.Rel (q.ReadAlike c) (o.get? key) (o'.get? key)) :
    Option.Rel (FoundAlike c (q.ReadAlike c)) (o.lookup? keys) (o'.lookup? keys) := by
  induction keys with
  | nil => exact .none
  | cons key keys ih =>
    obtain ⟨hkey, hkeys⟩ := List.forall_mem_cons.mp h
    simp only [Members.lookup?]
    generalize o.get? key = value, o'.get? key = value' at hkey ⊢
    cases hkey with
    | none => exact ih hkeys
    | some hvalue =>
      dsimp only
      rw [← hvalue.isPresent]
      split
      · exact .some ⟨fun _ => rfl, hvalue⟩
      · exact ih hkeys

theorem mem_keys {key : String} : key ∈ p.keys ↔ ∃ field ∈ p.fields, key ∈ field.1 := by
  simp [keys]

/-- Objects agree if what stands under the keys that are read is alike. -/
theorem agree_of_get?
    (hget : ∀ key ∈ p.keys, Option.Rel ((p.under key).ReadAlike c) (o.get? key) (o'.get? key))
    (hmembers : p.ordered = true → List.Forall₂ (p.MemberAlike c) o o')
    (hsame : p = .plain → c.strict → o = o') : p.Agree c o o' where
  found field hfield := by
    refine lookup?_alike fun key hkey => ?_
    rw [← under_eq field hfield key hkey]
    exact hget key (mem_keys.mpr ⟨field, hfield, hkey⟩)
  flag key hkey := by
    have hfield := mem_fields_of_flag key hkey
    have hvalue := hget key (mem_keys.mpr ⟨_, hfield, List.mem_cons_self⟩)
    rw [under_eq _ hfield key List.mem_cons_self] at hvalue
    generalize o.get? key = value, o'.get? key = value' at hvalue ⊢
    intro f f' hf
    cases hvalue with
    | some hvalue => exact hvalue.reads.flag _ _ (hf.sameKey key)
    | none => exact .ok rfl
  author hp := by
    subst hp
    have hvalue := hget "author" (by decide)
    generalize o.get? "author" = value, o'.get? "author" = value' at hvalue ⊢
    cases hvalue with
    | some hvalue => exact hvalue.reads
    | none => exact fun _ _ _ => .ok rfl
  members := hmembers
  same := hsame

theorem get?_alike (h : List.Forall₂ (p.MemberAlike c) o o') (key : String) :
    Option.Rel ((p.under key).ReadAlike c) (o.get? key) (o'.get? key) := by
  induction h with
  | nil => exact .none
  | @cons m m' _ _ hm _ ih =>
    obtain ⟨name, value⟩ := m
    obtain ⟨_, value'⟩ := m'
    obtain ⟨rfl, hvalue⟩ := hm
    rw [Json.get?_cons, Json.get?_cons]
    split
    · next hkey =>
      subst hkey
      exact .some hvalue
    · exact ih

/-- Objects agree if their members are alike one by one. -/
theorem agree_of_members (h : List.Forall₂ (p.MemberAlike c) o o') : p.Agree c o o' := by
  refine agree_of_get? (fun key _ => get?_alike h key) (fun _ => h) ?_
  rintro rfl hc
  exact eq_of_forall₂ h fun _ _ hm => Prod.ext hm.1 (hm.2.reads.same hc)

/-- Every value is read like itself, also at another field. -/
theorem readAlike_refl (c : Comparison) (p : Slot) : ∀ v : Json, p.ReadAlike c v v
  | .object o => readAlike_object (agree_of_members (List.forall₂_same.mpr fun m hm =>
      have hlt : sizeOf m.2 < sizeOf (Json.object o) := by
        have hm := List.sizeOf_lt_of_mem hm
        obtain ⟨key, value⟩ := m
        simp only [Prod.mk.sizeOf_spec, Json.object.sizeOf_spec] at hm ⊢
        omega
      ⟨rfl, readAlike_refl c _ m.2⟩))
  | .array items => readAlike_array (List.forall₂_same.mpr fun item hitem =>
      have hlt : sizeOf item < sizeOf (Json.array items) := by
        have hitem := List.sizeOf_lt_of_mem hitem
        simp only [Json.array.sizeOf_spec]
        omega
      readAlike_refl c _ item)
  | .null | .bool _ | .number _ | .string _ => readAlike_scalar nofun nofun
termination_by v => sizeOf v
decreasing_by all_goals exact hlt

/-- An author is read alike at every field, also if there is none. -/
theorem author_alike (found : Option Json) : AlikeAt c (Author.read found) (Author.read found) := by
  cases found with
  | none => exact fun _ _ _ => .ok rfl
  | some value => exact (readAlike_refl c .author value).reads

/-- A change that leaves the changed value read alike leaves the whole value read alike. -/
theorem readAlike_of_within {change : Slot → Json → Json → Prop}
    (hchange : ∀ p v v', change p v v' → p.ReadAlike c v v') (h : p.Within change v v') :
    p.ReadAlike c v v' := by
  have hmember (p : Slot) (members : Members) : List.Forall₂ (p.MemberAlike c) members members :=
    List.forall₂_same.mpr fun m _ => ⟨rfl, readAlike_refl c _ m.2⟩
  have hitem (p : Slot) (items : List Json) : List.Forall₂ (p.ReadAlike c) items items :=
    List.forall₂_same.mpr fun item _ => readAlike_refl c p item
  -- Around the change all members and items stay, and are read like themselves.
  induction h with
  | here h => exact hchange _ _ _ h
  | member _ ih =>
    exact readAlike_object (agree_of_members
      (List.rel_append (hmember _ _) (.cons ⟨rfl, ih⟩ (hmember _ _))))
  | item _ ih => exact readAlike_array (List.rel_append (hitem _ _) (.cons ih (hitem _ _)))

theorem readAlike_of_edit {change : Slot → Members → Members → Prop}
    (hchange : ∀ p o o', change p o o' → p.ReadAlike c (.object o) (.object o'))
    (h : p.Edit change v v') : p.ReadAlike c v v' := by
  refine readAlike_of_within ?_ h.within
  rintro p _ _ ⟨o, o', rfl, rfl, h⟩
  exact hchange p o o' h

end Slot

end PageRecords
