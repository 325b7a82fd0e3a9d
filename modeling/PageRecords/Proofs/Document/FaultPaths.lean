import PageRecords.Proofs.Document.DerivedPattern
import PageRecords.Proofs.Document.RuleGrammar

/-!
# Where faults point

What the readers refuse they name by a field, and the field leads from the root of the
document to what was refused, in the spelling that stands there. `Points` says so of one
reader, which is given a value and the field that the value stands at; a reader that is put
together from others points where they do. Two faults are named after a key that the
document need not have: `RuleInfo.Misnamed`. What is missing stands nowhere, and is left out.
-/

namespace PageRecords

open Json (Members)

-- --------------------------------------------------------------------
-- Paths
-- --------------------------------------------------------------------

namespace Json

/-- The part of a value that a step leads to. -/
def step? : Json → Field.Step → Option Json
  | .object o, .key name => Members.get? o name
  | .array items, .index i => items[i]?
  | _, _ => none

def follow? (value : Json) : List Field.Step → Option Json
  | [] => some value
  | step :: steps => (value.step? step).bind (follow? · steps)

end Json

namespace Field

variable {document value : Json} {field f : Field} {o : Members} {items : List Json}
  {name : String} {i : Nat}

/-- The field leads to a value of the document. -/
def Reaches (f : Field) (document : Json) : Prop :=
  (document.follow? (.key f.root :: f.steps)).isSome

instance : Decidable (f.Reaches document) := inferInstanceAs (Decidable (_ = true))

/-- From a field that a value stands at, steps into the value lead to another field. -/
def LeadsTo (field : Field) (value : Json) (f : Field) : Prop :=
  ∃ steps, f = ⟨field.root, field.steps ++ steps⟩ ∧ (value.follow? steps).isSome

theorem LeadsTo.refl (field : Field) (value : Json) : field.LeadsTo value field :=
  ⟨[], by rw [List.append_nil], rfl⟩

theorem LeadsTo.key (hget : o.get? name = some value) (h : (field.key name).LeadsTo value f) :
    field.LeadsTo (.object o) f := by
  obtain ⟨steps, rfl, hsome⟩ := h
  refine ⟨.key name :: steps, by simp [Field.key], ?_⟩
  rwa [Json.follow?, Json.step?, hget]

theorem LeadsTo.index (hget : items[i]? = some value) (h : (field.index i).LeadsTo value f) :
    field.LeadsTo (.array items) f := by
  obtain ⟨steps, rfl, hsome⟩ := h
  refine ⟨.index i :: steps, by simp [Field.index], ?_⟩
  rwa [Json.follow?, Json.step?, hget]

theorem LeadsTo.reaches (hget : o.get? name = some value) (h : (at_ name).LeadsTo value f) :
    f.Reaches (.object o) := by
  obtain ⟨steps, rfl, hsome⟩ := h
  rw [Reaches, Json.follow?, Json.step?]
  simpa [at_, hget] using hsome

end Field

-- --------------------------------------------------------------------
-- Readers that point
-- --------------------------------------------------------------------

/-- The fault of a reader, if it is one of something written and none of those set apart,
lies in a field that leads into the value. -/
def Points {α : Type} (apart : Fault → Prop) (value : Json) (field : Field)
    (read : Except Fault α) : Prop :=
  ∀ fault f, read = .error fault → fault.field? = some f →
    fault = .missing f ∨ apart fault ∨ field.LeadsTo value f

section Points

variable {α β : Type} {apart : Fault → Prop} {value : Json} {field : Field} {o : Members}
  {items : List Json} {name : String} {keys : List String} {i : Nat}
  {x : Except Fault α} {k : α → Except Fault β}

theorem points_ok {a : α} : Points apart value field (.ok a) := nofun

theorem points_missing {f : Field} :
    Points apart value field (.error (.missing f) : Except Fault α) := by
  rintro _ _ ⟨⟩ ⟨⟩
  exact .inl rfl

/-- What is laid to the value as a whole. -/
theorem points_here {fault : Fault} (h : fault.field? = some field) :
    Points apart value field (.error fault : Except Fault α) := by
  rintro _ f ⟨⟩ hf
  cases h.symm.trans hf
  exact .inr (.inr (.refl field value))

theorem points_apart {fault : Fault} (h : apart fault) :
    Points apart value field (.error fault : Except Fault α) := by
  rintro _ f ⟨⟩ -
  exact .inr (.inl h)

theorem Points.bind (hx : Points apart value field x)
    (hk : ∀ a, x = .ok a → Points apart value field (k a)) :
    Points apart value field (x >>= k) := by
  intro fault f h hf
  rcases bind_error.mp h with h | ⟨a, ha, h⟩
  · exact hx fault f h hf
  · exact hk a ha fault f h hf

theorem Points.map (hx : Points apart value field x) {g : α → β} :
    Points apart value field (do let a ← x; pure (g a)) :=
  hx.bind fun _ _ => points_ok

theorem Points.key (hget : o.get? name = some value) (h : Points apart value (field.key name) x) :
    Points apart (.object o) field x :=
  fun fault f hx hf => (h fault f hx hf).imp_right (Or.imp_right (Field.LeadsTo.key hget))

theorem Points.lookup (hlookup : o.lookup? keys = some (name, value))
    (h : Points apart value (field.key name) x) : Points apart (.object o) field x :=
  h.key (Json.lookup?_some hlookup).2.1

theorem Points.index (hget : items[i]? = some value)
    (h : Points apart value (field.index i) x) : Points apart (.array items) field x :=
  fun fault f hx hf => (h fault f hx hf).imp_right (Or.imp_right (Field.LeadsTo.index hget))

/-- Items are read one after the other, each at its index. -/
theorem points_items (go : Nat → List Json → Except Fault (List α))
    (read : Json → Field → Except Fault α) (hnil : ∀ i, go i [] = .ok [])
    (hcons : ∀ i item rest, go i (item :: rest) = do
      let a ← read item (field.index i)
      let more ← go (i + 1) rest
      pure (a :: more))
    (hread : ∀ item ∈ items, ∀ i, Points apart item (field.index i) (read item (field.index i))) :
    Points apart (.array items) field (go 0 items) := by
  -- What is still to be read is what the items are from an index on.
  suffices h : ∀ rest i, items.drop i = rest → Points apart (.array items) field (go i rest) from
    h items 0 rfl
  intro rest
  induction rest with
  | nil =>
    intro i _
    rw [hnil]
    exact points_ok
  | cons item rest ih =>
    intro i hdrop
    have hget : items[i]? = some item := by rw [← List.head?_drop, hdrop, List.head?_cons]
    have hrest : items.drop (i + 1) = rest := by rw [← List.tail_drop, hdrop, List.tail_cons]
    rw [hcons]
    exact ((hread item (List.mem_of_getElem? hget) i).index hget).bind fun _ _ =>
      (ih (i + 1) hrest).map

end Points

variable {apart : Fault → Prop} {value : Json} {field : Field} {o : Members} {key : String}
  {keys : List String} {hasSubRules : Bool} {attr : Option String}

-- --------------------------------------------------------------------
-- Keys
-- --------------------------------------------------------------------

namespace Json

theorem get?_of_has (h : o.Has [key] value) : o.get? key = some value := by
  cases h with
  | here hget => exact hget
  | later _ h => cases h

theorem get?_of_optionalString {s : String} (h : o.optionalString field [key] = .ok (some s)) :
    o.get? key = some (.string s) :=
  get?_of_has (optionalString_some_iff.mp h)

theorem points_asObject : Points apart value field (value.asObject field) := by
  rw [asObject.eq_def]
  split
  · exact points_ok
  · exact points_here rfl

theorem points_asString : Points apart value field (value.asString field) := by
  rw [asString.eq_def]
  split
  · exact points_ok
  · exact points_here rfl

theorem points_keyedString : Points apart (.object o) field (o.keyedString field keys) := by
  rw [Members.keyedString]
  split
  · next hlookup => exact points_asString.map.lookup hlookup
  · exact points_ok

theorem points_optionalString : Points apart (.object o) field (o.optionalString field keys) :=
  points_keyedString.map

theorem points_requireString {aliases : List String} :
    Points apart (.object o) field (o.requireString field key aliases) := by
  refine points_optionalString.bind fun found _ => ?_
  cases found with
  | none => exact points_missing
  | some s => exact points_ok

theorem points_stringList : Points apart value field (stringList (some value) field) := by
  rw [stringList.eq_def]
  split
  · exact points_ok
  · exact points_ok
  · next hitems =>
    cases hitems
    exact points_items (stringItems field) asString (fun _ => rfl) (fun _ _ _ => rfl)
      fun _ _ _ => points_asString
  · next hother =>
    cases hother
    exact points_here rfl

theorem points_stringList_under : Points apart (.object o) field
    (stringList ((o.lookup? [key]).map (·.2)) (field.key key)) := by
  cases hlookup : o.lookup? [key] with
  | none => exact points_ok
  | some found =>
    exact points_stringList.key (get?_of_has (has_iff.mpr ⟨found.1, hlookup⟩))

theorem points_flag : Points apart (.object o) field (flag (o.get? key) (field.key key)) := by
  rw [flag.eq_def]
  split
  · exact points_ok
  · exact points_ok
  · exact points_ok
  · next hget =>
    split
    · exact points_ok
    · exact points_ok
    · exact points_ok
    · exact points_ok
    · exact (points_here rfl).key hget

/-- A scalar is refused as a whole. -/
theorem points_scalarText {scalar : Json} : Points apart value field (scalar.scalarText field) := by
  rw [scalarText.eq_def]
  split
  · exact points_ok
  · exact points_ok
  · exact points_ok
  · exact points_ok
  · exact points_here rfl

end Json

theorem points_compilePattern {pattern : String} :
    Points apart value field (compilePattern pattern field) := by
  rw [compilePattern]
  split
  · exact points_ok
  · exact points_here rfl

-- --------------------------------------------------------------------
-- Rules
-- --------------------------------------------------------------------

namespace MatchBlock

variable {b : MatchBlock} {bs : List MatchBlock}

/-- A flag that is read only where it is not forced. -/
theorem points_forced {α : Type} {forced : Bool} {k : Bool → α} :
    Points apart (.object o) field
      (if forced then do let keep ← pure true; pure (k keep)
        else do let keep ← Json.flag (o.get? key) (field.key key); pure (k keep)) := by
  split
  · exact points_ok
  · exact Json.points_flag.map

theorem points_read : Points apart value field (read value field hasSubRules) := by
  unfold read
  split
  · exact points_ok
  · refine Json.points_asObject.bind fun o ho => ?_
    obtain rfl := Json.asObject_ok ho
    refine Json.points_requireString.bind fun included _ =>
      Json.points_optionalString.bind fun excluded _ =>
      Json.points_optionalString.bind fun attr _ =>
      Json.points_optionalString.bind fun addNextUntil _ => ?_
    cases addNextUntil with
    | some _ =>
      exact points_ok.bind fun outerNode _ => Json.points_stringList_under.bind fun _ _ =>
        points_forced
    | none =>
      exact Json.points_flag.bind fun outerNode _ => Json.points_stringList_under.bind fun _ _ =>
        points_forced

theorem points_withAttribute {own : String} :
    Points apart value field (b.withAttribute own field) := by
  rw [withAttribute]
  split
  · split
    · exact points_ok
    · exact points_here rfl
  · exact points_ok

theorem points_withAttributeAll {own : String} :
    Points apart value field (withAttributeAll own field bs) := by
  induction bs with
  | nil => exact points_ok
  | cons b rest ih => exact points_withAttribute.bind fun _ _ => ih.map

end MatchBlock

namespace MatchSpec

theorem points_read : Points apart value field (read value field hasSubRules) := by
  unfold read
  split
  · exact MatchBlock.points_read.map
  · split
    · next hlookup =>
      refine (Points.lookup hlookup ?_).map
      exact points_items (MatchBlock.readAll _ hasSubRules) (MatchBlock.read · · hasSubRules)
        (fun _ => rfl) (fun _ _ _ => rfl) fun _ _ _ => MatchBlock.points_read
    · next hlookup => exact (points_here rfl).lookup hlookup
    · exact MatchBlock.points_read.map
  · exact points_here rfl

/-- A conflict is laid to the attribute of the rule, which is written beside the match. -/
theorem points_withAttribute {spec : MatchSpec}
    (hattr : o.optionalString field ["attribute"] = .ok attr) :
    Points apart (.object o) field (spec.withAttribute attr (field.key "attribute")) := by
  cases attr with
  | none => exact points_ok
  | some own =>
    refine Points.key (Json.get?_of_optionalString hattr) ?_
    cases spec with
    | single b => exact MatchBlock.points_withAttribute.map
    | any bs => exact MatchBlock.points_withAttributeAll.map

end MatchSpec

namespace Replacement

/-- The pattern that stands in for none is not at fault, wherever it is said to stand. -/
theorem points_compile_matchAll {f : Field} :
    Points apart value field (compilePattern matchAll f) := by
  obtain ⟨r, hr⟩ := Option.isSome_iff_exists.mp matchAll_compiles
  rw [compilePattern, hr]
  exact points_ok

theorem points_read : Points apart value field (Replacement.read value field hasSubRules) := by
  rw [Replacement.read.eq_def]
  split
  · exact points_here rfl
  split
  · exact points_compile_matchAll.map
  · refine Json.points_requireString.bind fun output _ =>
      Json.points_optionalString.bind fun find hfind => ?_
    cases find with
    | none => exact points_compile_matchAll.map
    | some s => exact (Points.key (Json.get?_of_optionalString hfind) points_compilePattern).map
  · exact points_here rfl

end Replacement

namespace Rule

theorem points_readSource (hattr : o.optionalString field ["attribute"] = .ok attr) :
    Points apart (.object o) field (readSource o field attr hasSubRules) := by
  rw [readSource.eq_def]
  split
  · next hlookup =>
    exact (MatchSpec.points_read.lookup hlookup).bind fun spec _ =>
      (MatchSpec.points_withAttribute hattr).map
  · split
    · exact points_ok
    · split
      · next hlookup => exact (Json.points_stringList.lookup hlookup).map
      · exact points_missing

theorem points_checkLiteral : Points apart (.object o) field (checkLiteral o field attr) := by
  rw [checkLiteral]
  split
  · next hlookup =>
    split
    · exact (points_here rfl).lookup hlookup
    · exact points_ok
  · exact points_ok

theorem points_readReplacement :
    Points apart (.object o) field (readReplacement o field hasSubRules) := by
  rw [readReplacement]
  split
  · next hlookup => exact (Replacement.points_read.lookup hlookup).map
  · exact points_ok

mutual
theorem points_readAll (value : Json) (field : Field) :
    Points apart value field (readAll value field) := by
  cases value with
  | array items =>
    cases items with
    | nil =>
      rw [readAll]
      exact points_here rfl
    | cons item rest =>
      rw [readAll]
      exact points_items (fun i items => readItems items field i) read (fun _ => by rw [readItems])
        (fun _ _ _ => by rw [readItems]) fun sub hsub i => points_read sub (field.index i)
  | _ =>
    rw [readAll.eq_def]
    exact points_here rfl
termination_by sizeOf value

theorem points_read (value : Json) (field : Field) :
    Points apart value field (read value field) := by
  rw [read.eq_def]
  split
  · exact points_missing
  split
  · refine Json.points_requireString.bind fun name _ =>
      Json.points_optionalString.bind fun attr hattr =>
      points_checkLiteral.bind fun _ _ => (points_readSubRules _ field).bind fun subRules _ =>
      (points_readSource hattr).bind fun source _ => points_readReplacement.map
  · exact points_here rfl
termination_by sizeOf value

theorem points_readSubRules (o : Members) (field : Field) :
    Points apart (.object o) field (readSubRules o field) := by
  rw [readSubRules.eq_def]
  split
  · next hlookup =>
    split
    · have := Json.sizeOf_lookup?_lt hlookup
      exact (points_readAll _ _).lookup hlookup
    · exact (points_here rfl).lookup hlookup
  · exact points_ok
termination_by sizeOf o
end

end Rule

-- --------------------------------------------------------------------
-- Descriptions
-- --------------------------------------------------------------------

/-- The faults that are named after a key the description does not have. A type is said to
stand under `type`, though it may stand under the other spelling, and a pattern that comes
from domain and path is said to stand under `suggestedRegex`. -/
inductive RuleInfo.Misnamed (field : Field) : Json → Fault → Prop
  | type {o : Members} {kind : String} (habsent : o.get? "type" = none)
      (hkind : o.Has ["extractionType"] (.string kind)) :
      Misnamed field (.object o) (.unknownType (field.key "type") kind)
  | pattern {o : Members} {domain path : String} (habsent : o.get? "suggestedRegex" = none)
      (hdeclared : o.Lacks ["suggestedPattern"]) (hdomain : o.Has ["domain"] (.string domain))
      (hpath : o.Has ["path", "pathPattern"] (.string path))
      (hcompiles : (Regex.compile? path).isSome)
      (hmalformed : Regex.compile? (PagePattern.derive domain path) = none) :
      Misnamed field (.object o) (.malformedPattern (field.key "suggestedRegex"))

open RuleInfo (Misnamed)

theorem ExtractionType.points_read :
    Points (Misnamed field (.object o)) (.object o) field (ExtractionType.read o field) := by
  refine Json.points_requireString.bind fun kind hkind => ?_
  split
  · exact points_ok
  · exact points_ok
  · refine Json.points_requireString.bind fun custom hcustom => ?_
    split
    · exact (points_here rfl).key (Json.get?_of_has (Json.requireString_ok_iff.mp hcustom))
    · exact points_ok
  · cases htype : o.get? "type" with
    | some value => exact (points_here rfl).key htype
    | none =>
      cases Json.requireString_ok_iff.mp hkind with
      | here hget => cases htype.symm.trans hget
      | later _ h => exact points_apart (.type htype h)

theorem Author.points_read :
    Points apart (.object o) field (Author.read (o.get? "author") (field.key "author")) := by
  rw [Author.read.eq_def]
  split
  · exact points_ok
  · exact points_ok
  · exact points_ok
  · next hget => exact Json.points_requireString.map.key hget
  · next hget => exact (points_here rfl).key hget

/-- A page that does not match is laid to no field. -/
theorem PagePattern.points_checkTestPages {parser : String} {matcher : Regex}
    {pages : List String} : Points apart value field (checkTestPages parser matcher pages) := by
  rw [checkTestPages]
  split
  · rintro _ _ ⟨⟩ ⟨⟩
  · exact points_ok

namespace RuleInfo

variable {declared path : Option (String × String)} {domain pattern : String}

theorem points_checkPath (hpath : o.keyedString field ["path", "pathPattern"] = .ok path) :
    Points apart (.object o) field (checkPath field path) := by
  cases path with
  | none => exact points_ok
  | some found => exact points_compilePattern.map.lookup (Json.keyedString_ok hpath)

theorem points_choosePattern :
    Points apart value field (choosePattern field domain declared path) := by
  rw [choosePattern.eq_def]
  split
  · exact points_ok
  · exact points_ok
  · exact points_missing

theorem points_compile_chosen (hdomain : o.requireString field "domain" = .ok domain)
    (hpath : o.keyedString field ["path", "pathPattern"] = .ok path)
    (hdeclared : o.keyedString field ["suggestedRegex", "suggestedPattern"] = .ok declared)
    (hcheck : checkPath field path = .ok ())
    (h : choosePattern field domain declared path = .ok (key, pattern)) :
    Points (Misnamed field (.object o)) (.object o) field
      (compilePattern pattern (field.key key)) := by
  rw [choosePattern.eq_def] at h
  split at h
  · cases h
    exact points_compilePattern.lookup (Json.keyedString_ok hdeclared)
  · next key path =>
    cases h
    cases hget : o.get? "suggestedRegex" with
    | some value => exact points_compilePattern.key hget
    | none =>
      rw [compilePattern]
      split
      · exact points_ok
      · next hmalformed =>
        obtain ⟨r, hr, -⟩ := bind_ok.mp hcheck
        have hcompiles := Option.isSome_iff_exists.mpr ⟨r, compilePattern_ok hr⟩
        have hlacks := Json.lookup?_eq_none_iff.mp (Json.keyedString_ok hdeclared)
        exact points_apart (.pattern hget
          (fun name hname => hlacks name (List.mem_cons_of_mem _ hname))
          (Json.requireString_ok_iff.mp hdomain)
          (Json.has_iff.mpr ⟨key, Json.keyedString_ok hpath⟩) hcompiles hmalformed)
  · cases h

theorem points_read : Points (Misnamed field value) value field (read value field) := by
  refine Json.points_asObject.bind fun o ho => ?_
  obtain rfl := Json.asObject_ok ho
  refine Json.points_requireString.bind fun name _ => ExtractionType.points_read.bind fun type _ =>
    Json.points_requireString.bind fun domain hdomain =>
    Json.points_keyedString.bind fun path hpath =>
    Json.points_keyedString.bind fun declared hdeclared =>
    (points_checkPath hpath).bind fun _ hcheck =>
    points_choosePattern.bind fun chosen hchosen => ?_
  exact (points_compile_chosen hdomain hpath hdeclared hcheck hchosen).bind fun matcher _ =>
    Json.points_stringList_under.bind fun testPages _ =>
    PagePattern.points_checkTestPages.bind fun _ _ =>
    Author.points_read.bind fun author _ => Json.points_optionalString.map

/-- The path that a derived pattern comes from compiles, so a derived pattern that does not
is refused under a key that nothing was declared under. -/
theorem read_of_malformed_derived {name domain path : String} {type : ExtractionType}
    (hname : o.requireString field "name" = .ok name)
    (htype : ExtractionType.read o field = .ok type)
    (hdomain : o.requireString field "domain" = .ok domain)
    (hpath : o.keyedString field ["path", "pathPattern"] = .ok (some (key, path)))
    (hdeclared : o.keyedString field ["suggestedRegex", "suggestedPattern"] = .ok none)
    (hcompiles : (Regex.compile? path).isSome)
    (hmalformed : Regex.compile? (PagePattern.derive domain path) = none) :
    read (.object o) field = .error (.malformedPattern (field.key "suggestedRegex")) := by
  obtain ⟨r, hr⟩ := Option.isSome_iff_exists.mp hcompiles
  have hcheck : checkPath field (some (key, path)) = .ok () := by
    rw [checkPath, compilePattern, hr]
    rfl
  have hchosen : compilePattern (PagePattern.derive domain path) (field.key "suggestedRegex") =
      .error (.malformedPattern (field.key "suggestedRegex")) := by
    rw [compilePattern, hmalformed]
  simp only [read, bind_error]
  exact .inr ⟨o, rfl, .inr ⟨name, hname, .inr ⟨type, htype, .inr ⟨domain, hdomain, .inr ⟨_, hpath,
    .inr ⟨none, hdeclared, .inr ⟨(), hcheck, .inr ⟨_, rfl, .inl hchosen⟩⟩⟩⟩⟩⟩⟩⟩

end RuleInfo

-- --------------------------------------------------------------------
-- Redirects
-- --------------------------------------------------------------------

namespace Redirect

theorem points_readRequired {params : Members} (h : ∀ m ∈ params, m ∈ o) :
    Points apart (.object o) field (readRequired field params) := by
  induction params with
  | nil => exact points_ok
  | cons m rest ih =>
    obtain ⟨hm, hrest⟩ := List.forall_mem_cons.mp h
    -- Under a repeated key another value may be found, but one is.
    obtain ⟨found, hfound⟩ : ∃ found, o.get? m.1 = some found := by
      rw [← Option.isSome_iff_exists, Members.get?, ← Option.ne_none_iff_isSome, Ne,
        List.lookup_eq_none_iff]
      intro hnone
      simpa using hnone m hm
    exact (Json.points_scalarText.key hfound).bind fun text _ => (ih hrest).map

theorem points_params : Points apart value field (do
    let members ← value.asObject field
    let required ← readRequired field members
    pure (Redirect.mk required)) := by
  refine Json.points_asObject.bind fun members hmembers => ?_
  obtain rfl := Json.asObject_ok hmembers
  exact (points_readRequired fun _ => id).map

theorem points_read : Points apart value field (read value field) := by
  refine Json.points_asObject.bind fun o ho => ?_
  obtain rfl := Json.asObject_ok ho
  split
  · next hlookup => exact points_params.lookup hlookup
  · split
    · exact points_missing
    · next hlookup =>
      refine Points.key (Json.get?_of_has (Json.has_iff.mpr ⟨_, hlookup⟩)) ?_
      refine Json.points_asObject.bind fun inner hinner => ?_
      obtain rfl := Json.asObject_ok hinner
      split
      · next hlookup => exact points_params.lookup hlookup
      · exact points_missing

end Redirect

-- --------------------------------------------------------------------
-- Documents
-- --------------------------------------------------------------------

namespace RuleDocument

variable {fault : Fault} {f : Field}

/-- The description of the document names the fault after a key that it does not have. -/
def Misnamed (o : Members) (fault : Fault) : Prop :=
  ∃ described, o.get? "info" = some described ∧
    RuleInfo.Misnamed (.at_ "info") described fault

theorem read_of_info_error {key : String} {described : Json}
    (hinfo : o.lookup? ["info"] = some (key, described))
    (h : RuleInfo.read described (.at_ key) = .error fault) : read (.object o) = .error fault := by
  rw [read_object, hinfo]
  exact bind_error.mpr (.inl h)

/-- A document is refused for what it lacks, or for one of its parts. -/
theorem part_of_fault (h : read (.object o) = .error fault) :
    (∃ f, fault = .missing f) ∨
      (∃ key value, o.lookup? ["info"] = some (key, value) ∧
        RuleInfo.read value (.at_ key) = .error fault) ∨
      (∃ key value, o.lookup? ["rules"] = some (key, value) ∧
        Rule.readAll value (.at_ key) = .error fault) ∨
      ∃ key value, o.lookup? ["redirect"] = some (key, value) ∧
        Redirect.read value (.at_ key) = .error fault := by
  rw [read_object] at h
  rcases bind_error.mp h with h | ⟨info, -, h⟩
  · split at h
    · next hinfo => exact .inr (.inl ⟨_, _, hinfo, h⟩)
    · cases h
      exact .inl ⟨_, rfl⟩
  rcases bind_error.mp h with h | ⟨rules, -, h⟩
  · split at h
    · next hrules => exact .inr (.inr (.inl ⟨_, _, hrules, h⟩))
    · cases h
      exact .inl ⟨_, rfl⟩
  rcases bind_error.mp h with h | ⟨_, -, ⟨⟩⟩
  rw [readRedirect] at h
  split at h
  · next hredirect =>
    rcases bind_error.mp h with h | ⟨_, -, ⟨⟩⟩
    exact .inr (.inr (.inr ⟨_, _, hredirect, h⟩))
  · cases h

theorem fault_cases (h : read (.object o) = .error fault) (hf : fault.field? = some f) :
    fault = .missing f ∨ Misnamed o fault ∨ f.Reaches (.object o) := by
  rcases part_of_fault h with ⟨_, rfl⟩ | ⟨key, value, hlookup, h⟩ | ⟨key, value, hlookup, h⟩ |
    ⟨key, value, hlookup, h⟩
  · cases hf
    exact .inl rfl
  · obtain ⟨hkey, hinfo, -⟩ := Json.lookup?_some hlookup
    obtain rfl := List.mem_singleton.mp hkey
    exact (RuleInfo.points_read fault f h hf).imp_right
      (Or.imp (fun hmisnamed => ⟨value, hinfo, hmisnamed⟩) (Field.LeadsTo.reaches hinfo))
  · exact (Rule.points_readAll value _ fault f h hf).imp_right
      (Or.imp_right (Field.LeadsTo.reaches (Json.lookup?_some hlookup).2.1))
  · exact (Redirect.points_read fault f h hf).imp_right
      (Or.imp_right (Field.LeadsTo.reaches (Json.lookup?_some hlookup).2.1))

theorem field_of_misnamed (h : Misnamed o fault) (hf : fault.field? = some f) :
    ∃ (described : Members) (name : String), o.get? "info" = some (.object described) ∧
      described.get? name = none ∧ f = (Field.at_ "info").key name := by
  obtain ⟨described, hinfo, h⟩ := h
  cases h with
  | type habsent _ =>
    cases hf
    exact ⟨_, "type", hinfo, habsent, rfl⟩
  | pattern habsent _ _ _ _ _ =>
    cases hf
    exact ⟨_, "suggestedRegex", hinfo, habsent, rfl⟩

/-- A misnamed fault points nowhere. -/
theorem not_reaches_of_misnamed (h : Misnamed o fault) (hf : fault.field? = some f) :
    ¬f.Reaches (.object o) := by
  obtain ⟨described, name, hinfo, habsent, rfl⟩ := field_of_misnamed h hf
  simp [Field.Reaches, Field.at_, Field.key, Json.follow?, Json.step?, hinfo, habsent]

end RuleDocument

/-- What a document is refused for in what is written there is named by a field that leads to
a value of the document, except for the two faults that are misnamed. -/
theorem fault_reaches_iff {o : Members} {fault : Fault} {f : Field}
    (h : RuleDocument.read (.object o) = .error fault) (hf : fault.field? = some f)
    (hwritten : fault ≠ .missing f) :
    f.Reaches (.object o) ↔ ¬RuleDocument.Misnamed o fault := by
  constructor
  · exact fun hreaches hmisnamed => RuleDocument.not_reaches_of_misnamed hmisnamed hf hreaches
  · intro hnamed
    rcases RuleDocument.fault_cases h hf with hmissing | hmisnamed | hreaches
    · exact (hwritten hmissing).elim
    · exact (hnamed hmisnamed).elim
    · exact hreaches

/-- A sub-rule with a pattern that cannot be read, under the second spelling of its key. -/
def nestedFindDocument : Members :=
  [("info", .object [("name", .string "Parts"), ("extractionType", .string "feed"),
      ("domain", .string "a.b"), ("suggestedPattern", .string "a")]),
    ("rules", .array [.object [("name", .string "title"), ("match", .string "h1")],
      .object [("name", .string "part"), ("match", .string "ul"), ("subRules", .array [
        .object [("name", .string "text"), ("match", .string "li"), ("rewrite", .object
          [("find", .string "("), ("output", .string "$0")])]])]])]

def nestedFind : Field :=
  ⟨"rules", [.index 1, .key "subRules", .index 0, .key "rewrite", .key "find"]⟩

theorem nested_find_is_refused :
    RuleDocument.read (.object nestedFindDocument) = .error (.malformedPattern nestedFind) := by
  have hread : (match RuleDocument.read (.object nestedFindDocument) with
    | .error (.malformedPattern f) => decide (f = nestedFind)
    | _ => false) = true := by decide +kernel
  split at hread
  · next h => exact of_decide_eq_true hread ▸ h
  · cases hread

theorem nested_find_is_reached :
    RuleDocument.read (.object nestedFindDocument) = .error (.malformedPattern nestedFind) ∧
      nestedFind.text = "rules[1].subRules[0].rewrite.find" ∧
      nestedFind.Reaches (.object nestedFindDocument) := by
  have hnamed : ¬RuleDocument.Misnamed nestedFindDocument (.malformedPattern nestedFind) := by
    intro h
    obtain ⟨_, _, -, -, hfield⟩ := RuleDocument.field_of_misnamed h rfl
    have hroot : "rules" = "info" := congrArg Field.root hfield
    exact absurd hroot (by decide)
  exact ⟨nested_find_is_refused, by decide,
    (fault_reaches_iff nested_find_is_refused rfl nofun).mpr hnamed⟩

-- --------------------------------------------------------------------
-- The misnamed faults
-- --------------------------------------------------------------------

/-- A type that is none of the known ones, under the second spelling of its key. -/
def aliasedTypeDocument : Members :=
  [("info", .object [("name", .string "Example"), ("extractionType", .string "gallery"),
      ("domain", .string "example.com"), ("path", .string "/a")]),
    ("rules", .array [.object [("name", .string "content"), ("match", .string "article")]])]

/-- A path in verbose mode. -/
def verbosePathDocument : Members :=
  [("info", .object [("name", .string "Example"), ("type", .string "article"),
      ("domain", .string "example.com"), ("path", .string "/a(?x)")]),
    ("rules", .array [.object [("name", .string "content"), ("match", .string "article")]])]

section

open Regex Regex.State PagePattern

/-- In verbose mode the derived pattern ends in a comment, in which its last group would be
closed. -/
theorem verbose_path_derives_nothing :
    Regex.compile? (derive "example.com" "/a(?x)") = none := by
  generalize htail : "example\\.com/a(?x)(\\?.*)?(#.*)?$".toList = tail
  have hderive : (derive "example.com" "/a(?x)").toList = '^' :: (origin.toList ++ tail) := by
    rw [← htail]
    decide
  have hanchor : Steps 1 (start ('^' :: (origin.toList ++ tail)))
      (top [] [⟨some (.look .textStart), 0⟩] 0 (origin.toList ++ tail)) := .one rfl rfl
  have hsteps := hanchor.trans (steps_origin (by rw [← htail]; nofun))
  have hlength : ('^' :: (origin.toList ++ tail)).length + 1 = 36 + 12 := by
    rw [← htail]
    decide
  rw [compile?, hderive, parse?, hlength, hsteps, ← htail, ← Option.isNone_iff_eq_none]
  decide +kernel

end

/-- Both occur, and the fields that they name lead to no value of the document. -/
theorem misnamed_faults_reach_nothing :
    (∃ f, RuleDocument.read (.object aliasedTypeDocument) = .error (.unknownType f "gallery") ∧
      f.text = "info.type" ∧ ¬f.Reaches (.object aliasedTypeDocument)) ∧
    ∃ f, RuleDocument.read (.object verbosePathDocument) = .error (.malformedPattern f) ∧
      f.text = "info.suggestedRegex" ∧ ¬f.Reaches (.object verbosePathDocument) := by
  refine ⟨⟨(Field.at_ "info").key "type", rfl, by decide, by decide⟩,
    (Field.at_ "info").key "suggestedRegex", ?_, by decide, by decide⟩
  exact RuleDocument.read_of_info_error rfl (RuleInfo.read_of_malformed_derived rfl rfl rfl rfl rfl
    (by decide +kernel) verbose_path_derives_nothing)

end PageRecords
