import PageRecords.Proofs.Document.ReadLaws

/-!
# Rules anywhere

A reader is told the field that its value stands at only to name it in a fault. So it gives
the same wherever the value stands: one result, or one cause at one path below the field
(`Portable`). Readers that are put together from portable ones are portable. As text, the path
of a fault of a rule list is that of the list with something added to it, the empty path
included: what is added begins with an index, which is written without a dot.
-/

namespace PageRecords

open Json (Members)

-- --------------------------------------------------------------------
-- Causes
-- --------------------------------------------------------------------

/-- What is wrong with a field, whichever field it is. -/
inductive Fault.Cause where
  | missing
  | unknownType (name : String)
  | builtInCustomType
  | invalid (reason : Fault.Reason)
  | malformedPattern

def Fault.Cause.at_ (field : Field) : Fault.Cause → Fault
  | .missing => .missing field
  | .unknownType name => .unknownType field name
  | .builtInCustomType => .builtInCustomType field
  | .invalid reason => .invalid field reason
  | .malformedPattern => .malformedPattern field

/-- The field that some steps lead to. -/
def Field.along (field : Field) (steps : List Field.Step) : Field :=
  ⟨field.root, field.steps ++ steps⟩

@[simp] theorem Field.along_nil (field : Field) : field.along [] = field := by
  rw [along, List.append_nil]

theorem Field.along_key (field : Field) (name : String) (steps : List Field.Step) :
    (field.key name).along steps = field.along (.key name :: steps) := by
  simp [along, key]

theorem Field.along_index (field : Field) (i : Nat) (steps : List Field.Step) :
    (field.index i).along steps = field.along (.index i :: steps) := by
  simp [along, index]

-- --------------------------------------------------------------------
-- Portable readers
-- --------------------------------------------------------------------

variable {α β : Type}

/-- The reader fails at every field, with one cause and at one path below the field. -/
def FailsAlong (read : Field → Except Fault α) (cause : Fault.Cause)
    (steps : List Field.Step) : Prop :=
  ∀ field, read field = .error (cause.at_ (field.along steps))

/-- The reader gives the same at every field, up to where faults are laid. -/
def Portable (read : Field → Except Fault α) : Prop :=
  (∃ a, ∀ field, read field = .ok a) ∨ ∃ cause steps, FailsAlong read cause steps

section Portable

variable {x : Field → Except Fault α} {k : α → Field → Except Fault β} {cause : Fault.Cause}
  {steps : List Field.Step}

theorem portable_ok (a : α) : Portable fun _ => (.ok a : Except Fault α) := .inl ⟨a, fun _ => rfl⟩

/-- What is laid to the value as a whole. -/
theorem portable_error (cause : Fault.Cause) :
    Portable fun field => (.error (cause.at_ field) : Except Fault α) :=
  .inr ⟨cause, [], fun field => by rw [Field.along_nil]⟩

theorem FailsAlong.bind (h : FailsAlong x cause steps) :
    FailsAlong (fun field => x field >>= (k · field)) cause steps :=
  fun field => bind_error.mpr (.inl (h field))

theorem FailsAlong.bind_of_ok {a : α} (hx : ∀ field, x field = .ok a)
    (h : FailsAlong (k a) cause steps) :
    FailsAlong (fun field => x field >>= (k · field)) cause steps :=
  fun field => bind_error.mpr (.inr ⟨a, hx field, h field⟩)

theorem Portable.bind (hx : Portable x) (hk : ∀ a, Portable (k a)) :
    Portable fun field => x field >>= (k · field) := by
  obtain ⟨a, ha⟩ | ⟨cause, steps, hfails⟩ := hx
  · obtain ⟨b, hb⟩ | ⟨cause, steps, hfails⟩ := hk a
    · exact .inl ⟨b, fun field => bind_ok.mpr ⟨a, ha field, hb field⟩⟩
    · exact .inr ⟨cause, steps, hfails.bind_of_ok ha⟩
  · exact .inr ⟨cause, steps, hfails.bind⟩

theorem Portable.congr {y : Field → Except Fault α} (hx : Portable x)
    (h : ∀ field, y field = x field) : Portable y := by
  rwa [funext h]

theorem Portable.map (hx : Portable x) (f : α → β) :
    Portable fun field => x field >>= fun a => pure (f a) :=
  hx.bind fun a => portable_ok (f a)

theorem Portable.key (hx : Portable x) (name : String) : Portable fun field => x (field.key name) :=
  hx.imp (fun ⟨a, ha⟩ => ⟨a, fun field => ha (field.key name)⟩)
    fun ⟨cause, steps, hfails⟩ =>
      ⟨cause, .key name :: steps, fun field => (hfails (field.key name)).trans (by rw [Field.along_key])⟩

theorem FailsAlong.index (h : FailsAlong x cause steps) (i : Nat) :
    FailsAlong (fun field => x (field.index i)) cause (.index i :: steps) :=
  fun field => (h (field.index i)).trans (by rw [Field.along_index])

theorem Portable.index (hx : Portable x) (i : Nat) : Portable fun field => x (field.index i) :=
  hx.imp (fun ⟨a, ha⟩ => ⟨a, fun field => ha (field.index i)⟩)
    fun ⟨cause, steps, hfails⟩ => ⟨cause, .index i :: steps, hfails.index i⟩

/-- What is read once is read everywhere. -/
theorem Portable.ok_of_ok {a : α} {f : Field} (hx : Portable x) (h : x f = .ok a) (field : Field) :
    x field = .ok a := by
  obtain ⟨b, hb⟩ | ⟨cause, steps, hfails⟩ := hx
  · rw [hb, ← hb f, h]
  · cases (hfails f).symm.trans h

/-- What is refused once is refused everywhere, for one cause and along one path. -/
theorem Portable.failsAlong_of_error {fault : Fault} {f : Field} (hx : Portable x)
    (h : x f = .error fault) : ∃ cause steps, FailsAlong x cause steps := by
  obtain ⟨a, ha⟩ | hfails := hx
  · cases (ha f).symm.trans h
  · exact hfails

theorem FailsAlong.unique {other : Fault.Cause} {others : List Field.Step}
    (h : FailsAlong x cause steps) (h' : FailsAlong x other others) :
    cause = other ∧ steps = others := by
  have hfault := Except.error.inj ((h (.at_ "")).symm.trans (h' (.at_ "")))
  cases cause <;> cases other <;> cases hfault <;> exact ⟨rfl, rfl⟩

/-- Items are read one after the other, each at its index. -/
theorem portable_items {items : List Json} (go : Field → Nat → List Json → Except Fault (List α))
    (read : Json → Field → Except Fault α) (hnil : ∀ field i, go field i [] = .ok [])
    (hcons : ∀ field i item rest, go field i (item :: rest) = do
      let a ← read item (field.index i)
      let more ← go field (i + 1) rest
      pure (a :: more))
    (hread : ∀ item ∈ items, Portable (read item)) (i : Nat) :
    Portable fun field => go field i items := by
  induction items generalizing i with
  | nil =>
    simp only [hnil]
    exact portable_ok []
  | cons item rest ih =>
    simp only [hcons]
    have hrest := ih (fun sub hsub => hread sub (List.mem_cons_of_mem _ hsub)) (i + 1)
    exact ((hread item List.mem_cons_self).index i).bind fun a => hrest.map (a :: ·)

end Portable

-- --------------------------------------------------------------------
-- Values
-- --------------------------------------------------------------------

namespace Json

variable {o : Members} {keys : List String}

theorem portable_asObject (value : Json) : Portable value.asObject := by
  cases value with
  | object o => exact portable_ok o
  | _ => exact portable_error (.invalid .notObject)

theorem portable_asString (value : Json) : Portable value.asString := by
  cases value with
  | string s => exact portable_ok s
  | _ => exact portable_error (.invalid .notString)

theorem portable_keyedString (o : Members) (keys : List String) :
    Portable (o.keyedString · keys) := by
  simp only [Members.keyedString]
  cases o.lookup? keys with
  | none => exact portable_ok none
  | some found => exact ((portable_asString found.2).key found.1).map _

theorem portable_optionalString (o : Members) (keys : List String) :
    Portable (o.optionalString · keys) :=
  (portable_keyedString o keys).map _

theorem portable_requireString (o : Members) (key : String) (aliases : List String) :
    Portable (o.requireString · key aliases) := by
  refine (portable_optionalString o (key :: aliases)).bind fun found => ?_
  cases found with
  | none => exact (portable_error .missing).key key
  | some s => exact portable_ok s

theorem portable_stringList (value : Option Json) : Portable (stringList value) := by
  rcases value with _ | (_ | _ | _ | s | items | _)
  case none => exact portable_ok []
  case some.string => exact portable_ok [s]
  case some.array =>
    exact portable_items stringItems asString (fun _ _ => rfl) (fun _ _ _ _ => rfl)
      (fun item _ => portable_asString item) 0
  all_goals exact portable_error (.invalid .notStringList)

theorem portable_flag (value : Option Json) : Portable (flag value) := by
  unfold flag
  split
  · exact portable_ok false
  · exact portable_ok false
  · exact portable_ok _
  · split
    · exact portable_ok true
    · exact portable_ok true
    · exact portable_ok false
    · exact portable_ok false
    · exact portable_error (.invalid (.notFlag _))

end Json

theorem portable_compilePattern (pattern : String) : Portable (compilePattern pattern) := by
  unfold compilePattern
  cases Regex.compile? pattern with
  | none => exact portable_error .malformedPattern
  | some r => exact portable_ok r

-- --------------------------------------------------------------------
-- Rules
-- --------------------------------------------------------------------

namespace MatchBlock

/-- A flag that is read only where it is not forced. -/
theorem portable_forced (forced : Bool) (o : Members) (key : String) (k : Bool → α) :
    Portable fun field =>
      (if forced then do let keep ← pure true; pure (k keep)
        else do let keep ← Json.flag (o.get? key) (field.key key); pure (k keep) :
          Except Fault α) := by
  cases forced with
  | true => exact portable_ok (k true)
  | false => exact ((Json.portable_flag (o.get? key)).key key).map k

theorem portable_read (value : Json) (hasSubRules : Bool) : Portable (read value · hasSubRules) := by
  unfold read
  split
  · exact portable_ok _
  · refine (Json.portable_asObject value).bind fun o =>
      (Json.portable_requireString o "include" []).bind fun included =>
      (Json.portable_optionalString o ["exclude"]).bind fun excluded =>
      (Json.portable_optionalString o ["attribute"]).bind fun attr =>
      (Json.portable_optionalString o ["addNextUntil"]).bind fun addNextUntil => ?_
    have hremove := (Json.portable_stringList ((o.lookup? ["removeInside"]).map (·.2))).key
      "removeInside"
    cases addNextUntil with
    | some stop => exact (portable_ok false).bind fun _ => hremove.bind fun _ => portable_forced _ _ _ _
    | none =>
      exact ((Json.portable_flag (o.get? "outerNode")).key "outerNode").bind fun _ =>
        hremove.bind fun _ => portable_forced _ _ _ _

theorem portable_withAttribute (attr : String) (b : MatchBlock) :
    Portable (withAttribute attr · b) := by
  unfold withAttribute
  split
  · split
    · exact portable_ok b
    · exact portable_error (.invalid (.attributeConflict _))
  · exact portable_ok _

theorem portable_withAttributeAll (attr : String) (bs : List MatchBlock) :
    Portable (withAttributeAll attr · bs) := by
  induction bs with
  | nil => exact portable_ok []
  | cons b rest ih => exact (portable_withAttribute attr b).bind fun c => ih.map (c :: ·)

end MatchBlock

namespace MatchSpec

theorem portable_read (value : Json) (hasSubRules : Bool) : Portable (read value · hasSubRules) := by
  unfold read
  split
  · exact (MatchBlock.portable_read _ hasSubRules).map _
  · split
    · next key b bs _ =>
      refine Portable.map ?_ _
      have hbranches : ∀ item ∈ b :: bs, Portable (MatchBlock.read item · hasSubRules) :=
        fun item _ => MatchBlock.portable_read item hasSubRules
      exact (portable_items (MatchBlock.readAll · hasSubRules) (MatchBlock.read · · hasSubRules)
        (fun _ _ => rfl) (fun _ _ _ _ => rfl) hbranches 0).key key
    · next key _ _ _ => exact (portable_error (.invalid .emptyAlternation)).key key
    · exact (MatchBlock.portable_read _ hasSubRules).map _
  · exact portable_error (.invalid .matchShape)

theorem portable_withAttribute (spec : MatchSpec) (attr : Option String) :
    Portable (spec.withAttribute attr) := by
  unfold withAttribute
  split
  · exact portable_ok spec
  · split
    · exact (MatchBlock.portable_withAttribute _ _).map _
    · exact (MatchBlock.portable_withAttributeAll _ _).map _

end MatchSpec

namespace Replacement

theorem portable_read (value : Json) (hasSubRules : Bool) :
    Portable (Replacement.read value · hasSubRules) := by
  unfold Replacement.read
  split
  · exact portable_error (.invalid .replacementWithSubRules)
  split
  · exact ((portable_compilePattern matchAll).key "find").map _
  · next o =>
    exact (Json.portable_requireString o "output" []).bind fun output =>
      (Json.portable_optionalString o ["find"]).bind fun find =>
      ((portable_compilePattern (find.getD matchAll)).key "find").map _
  · exact portable_error (.invalid .replacementShape)

end Replacement

namespace Rule

theorem portable_readSource (o : Members) (attr : Option String) (hasSubRules : Bool) :
    Portable (readSource o · attr hasSubRules) := by
  unfold readSource
  split
  · next key value _ =>
    exact ((MatchSpec.portable_read value hasSubRules).key key).bind fun spec =>
      ((spec.portable_withAttribute attr).key "attribute").map _
  · split
    · exact portable_ok _
    · split
      · next key value _ => exact ((Json.portable_stringList (some value)).key key).map _
      · exact (portable_error .missing).key "match"

theorem portable_checkLiteral (o : Members) (attr : Option String) :
    Portable (checkLiteral o · attr) := by
  unfold checkLiteral
  split
  · next key _ _ =>
    split
    · exact (portable_error (.invalid .literalNotAlone)).key key
    · exact portable_ok ()
  · exact portable_ok ()

theorem portable_readReplacement (o : Members) (hasSubRules : Bool) :
    Portable (readReplacement o · hasSubRules) := by
  unfold readReplacement
  split
  · next key value _ => exact ((Replacement.portable_read value hasSubRules).key key).map _
  · exact portable_ok none

mutual
theorem portable_readAll (value : Json) : Portable (readAll value) := by
  refine Portable.congr ?_ fun field => readAll.eq_def value field
  cases value with
  | array items =>
    cases items with
    | nil => exact portable_error (.invalid .noRules)
    | cons item rest =>
      exact portable_items (fun field i items => readItems items field i) read
        (fun _ _ => by rw [readItems]) (fun _ _ _ _ => by rw [readItems])
        (fun sub hsub => portable_read sub) 0
  | _ => exact portable_error (.invalid .rulesNotArray)
termination_by sizeOf value

theorem portable_read (value : Json) : Portable (read value) := by
  refine Portable.congr ?_ fun field => read.eq_def value field
  split
  · exact portable_error .missing
  split
  · next o _ =>
    exact (Json.portable_requireString o "name" []).bind fun name =>
      (Json.portable_optionalString o ["attribute"]).bind fun attr =>
      (portable_checkLiteral o attr).bind fun _ => (portable_readSubRules o).bind fun subRules =>
      (portable_readSource o attr (!subRules.isEmpty)).bind fun source =>
      (portable_readReplacement o (!subRules.isEmpty)).map _
  · exact portable_error (.invalid .notObject)
termination_by sizeOf value

theorem portable_readSubRules (o : Members) : Portable (readSubRules o) := by
  refine Portable.congr ?_ fun field => readSubRules.eq_def o field
  split
  · next key value hlookup =>
    split
    · have := Json.sizeOf_lookup?_lt hlookup
      exact (portable_readAll value).key key
    · exact (portable_error (.invalid .subRulesWithoutMatch)).key key
  · exact portable_ok []
termination_by sizeOf o
end

-- --------------------------------------------------------------------
-- The first rule refused
-- --------------------------------------------------------------------

/-- The value is read as a rule, wherever it stands. -/
def Accepted (item : Json) : Prop := ∃ r, ReadFrom item r

variable {accepted items : List Json} {item value : Json} {cause : Fault.Cause}
  {steps : List Field.Step}

/-- A rule that is alone in its list. -/
theorem readAll_singleton (item : Json) (field : Field) :
    readAll (.array [item]) field = read item (field.index 0) >>= fun r => pure [r] := by
  rw [readAll, readItems]
  simp only [readItems, ok_bind]

theorem accepted_of_readAll_singleton {rules : List Rule} {field : Field}
    (h : readAll (.array [item]) field = .ok rules) : Accepted item := by
  rw [readAll_singleton] at h
  obtain ⟨r, hr, -⟩ := bind_ok.mp h
  exact ⟨r, _, hr⟩

theorem failsAlong_of_readAll_singleton {fault : Fault} {field : Field}
    (h : readAll (.array [item]) field = .error fault) :
    ∃ cause steps, FailsAlong (read item) cause steps := by
  rw [readAll_singleton] at h
  rcases bind_error.mp h with h | ⟨r, -, h⟩
  · exact (portable_read item).failsAlong_of_error h
  · cases h

/-- A list fails where its first rule that is refused fails, at the index of that rule. -/
theorem failsAlong_readItems (haccepted : ∀ a ∈ accepted, Accepted a)
    (hitem : FailsAlong (read item) cause steps) (rest : List Json) (i : Nat) :
    FailsAlong (fun field => readItems (accepted ++ item :: rest) field i) cause
      (.index (i + accepted.length) :: steps) := by
  induction accepted generalizing i with
  | nil =>
    simp only [List.nil_append, List.length_nil, Nat.add_zero, readItems]
    exact (hitem.index i).bind
  | cons a accepted ih =>
    obtain ⟨⟨r, f, hr⟩, hothers⟩ := List.forall_mem_cons.mp haccepted
    have hlater := ih hothers (i + 1)
    rw [Nat.add_assoc, Nat.add_comm 1] at hlater
    simp only [List.cons_append, List.length_cons, readItems]
    exact FailsAlong.bind_of_ok (fun field => (portable_read a).ok_of_ok hr _) hlater.bind

theorem failsAlong_readAll (haccepted : ∀ a ∈ accepted, Accepted a)
    (hitem : FailsAlong (read item) cause steps) (rest : List Json) :
    FailsAlong (readAll (.array (accepted ++ item :: rest))) cause
      (.index accepted.length :: steps) := by
  intro field
  have hitems := failsAlong_readItems haccepted hitem rest 0 field
  rw [Nat.zero_add] at hitems
  cases accepted <;> exact (readAll.eq_def _ _).trans hitems

theorem readItems_cases (items : List Json) (i : Nat) :
    (∃ rules, ∀ field, readItems items field i = .ok rules) ∨
      ∃ cause k more, FailsAlong (fun field => readItems items field i) cause (.index k :: more) := by
  induction items generalizing i with
  | nil => exact .inl ⟨[], fun field => by rw [readItems]⟩
  | cons item rest ih =>
    simp only [readItems]
    rcases portable_read item with ⟨r, hr⟩ | ⟨cause, steps, hitem⟩
    · rcases ih (i + 1) with ⟨rules, hrules⟩ | ⟨cause, k, more, hrest⟩
      · exact .inl ⟨r :: rules, fun field => by rw [hr, hrules]; rfl⟩
      · exact .inr ⟨cause, k, more, FailsAlong.bind_of_ok (fun _ => hr _) hrest.bind⟩
    · exact .inr ⟨cause, i, steps, (hitem.index i).bind⟩

/-- A rule list is refused as a whole or for one of its rules. -/
theorem steps_of_failsAlong (h : FailsAlong (readAll value) cause steps) :
    steps = [] ∨ ∃ k more, steps = .index k :: more := by
  have hwhole : ∀ reason : Fault.Reason,
      (∀ field, readAll value field = .error (.invalid field reason)) → steps = [] := by
    intro reason hfails
    have hnil : FailsAlong (readAll value) (.invalid reason) [] := fun field => by
      rw [hfails, Field.along_nil, Fault.Cause.at_]
    exact (h.unique hnil).2
  cases value with
  | array items =>
    cases items with
    | nil => exact .inl (hwhole .noRules fun field => by rw [readAll])
    | cons item rest =>
      rcases readItems_cases (item :: rest) 0 with ⟨rules, hrules⟩ | ⟨cause, k, more, hitems⟩
      · have hok : readAll (.array (item :: rest)) (.at_ "") = .ok rules := by rw [readAll, hrules]
        cases (h (.at_ "")).symm.trans hok
      · have hfails : FailsAlong (readAll (.array (item :: rest))) cause (.index k :: more) :=
          fun field => by rw [readAll, ← hitems]
        exact .inr ⟨k, more, (h.unique hfails).2⟩
  | _ => exact .inl (hwhole .rulesNotArray fun field => by rw [readAll.eq_def])

end Rule

-- --------------------------------------------------------------------
-- Paths as text
-- --------------------------------------------------------------------

namespace Field

variable {path rest : String} {steps : List Step}

/-- A path that is not empty goes on in the same way whatever stands before it. -/
theorem foldl_append_of_ne_empty (h : rest ≠ "") :
    steps.foldl Step.append (path ++ rest) = path ++ steps.foldl Step.append rest := by
  induction steps generalizing rest with
  | nil => rfl
  | cons step steps ih =>
    have hpath : path ++ rest ≠ "" := fun heq => h (String.append_eq_empty_iff.mp heq).2
    have hstep : step.append (path ++ rest) = path ++ step.append rest := by
      cases step with
      | key name =>
        simp only [Step.append, join, h, hpath, if_false, String.append_assoc]
      | index i => simp only [Step.append, String.append_assoc]
    have hne : step.append rest ≠ "" := by
      cases step with
      | key name => simp [Step.append, join, h]
      | index i => simp [Step.append, h]
    rw [List.foldl_cons, List.foldl_cons, hstep, ih hne]

theorem exists_foldl_append_eq (path : String) (steps : List Step) :
    ∃ more, steps.foldl Step.append path = path ++ more := by
  induction steps generalizing path with
  | nil => exact ⟨"", String.append_empty.symm⟩
  | cons step steps ih =>
    have hstep : ∃ added, step.append path = path ++ added := by
      cases step with
      | key name =>
        rw [Step.append, join]
        split
        · next hempty => exact ⟨name, by rw [hempty, String.empty_append]⟩
        · exact ⟨"." ++ name, String.append_assoc⟩
      | index i => exact ⟨"[" ++ (toString i ++ "]"), by simp only [Step.append, String.append_assoc]⟩
    obtain ⟨added, hadded⟩ := hstep
    obtain ⟨more, hmore⟩ := ih (path ++ added)
    exact ⟨added ++ more, by rw [List.foldl_cons, hadded, hmore, String.append_assoc]⟩

/-- An index needs no dot, so the empty path is no exception where one comes first. -/
theorem text_along_index (path : String) (i : Nat) (steps : List Step) :
    ((at_ path).along (.index i :: steps)).text =
      path ++ steps.foldl Step.append ("[" ++ toString i ++ "]") := by
  have hne : "[" ++ toString i ++ "]" ≠ "" := by simp
  rw [← foldl_append_of_ne_empty hne, ← String.append_assoc, ← String.append_assoc]
  rfl

end Field

-- --------------------------------------------------------------------
-- Rule lists
-- --------------------------------------------------------------------

/-- The rules read from a value do not depend on the path that it is said to stand at, and
neither does the fault: for every path it has one cause, and its field is that path with one
text added to it. In an array the text begins with the index of the first rule that is not
read when alone. -/
theorem rules_are_read_alike_anywhere (value : Json) :
    (∃ rules, ∀ path, Rule.readAll value (.at_ path) = .ok rules) ∨
      ∃ (cause : Fault.Cause) (suffix : String),
        (∀ path, ∃ field : Field, Rule.readAll value (.at_ path) = .error (cause.at_ field) ∧
          field.text = path ++ suffix) ∧
        ∀ accepted item rest, value = .array (accepted ++ item :: rest) →
          (∀ a ∈ accepted, ∃ path rules, Rule.readAll (.array [a]) (.at_ path) = .ok rules) →
          (∃ path fault, Rule.readAll (.array [item]) (.at_ path) = .error fault) →
          ∃ more, suffix = "[" ++ toString accepted.length ++ "]" ++ more := by
  obtain ⟨rules, hrules⟩ | ⟨cause, steps, hfails⟩ := Rule.portable_readAll value
  · exact .inl ⟨rules, fun path => hrules (.at_ path)⟩
  · refine .inr ⟨cause, ((Field.at_ "").along steps).text,
      fun path => ⟨(Field.at_ path).along steps, hfails (.at_ path), ?_⟩, ?_⟩
    · obtain rfl | ⟨k, more, rfl⟩ := Rule.steps_of_failsAlong hfails
      · exact String.append_empty.symm
      · rw [Field.text_along_index, Field.text_along_index, String.empty_append]
    · rintro accepted item rest rfl haccepted ⟨path, fault, hrejected⟩
      obtain ⟨own, inner, hitem⟩ := Rule.failsAlong_of_readAll_singleton hrejected
      have hbefore : ∀ a ∈ accepted, Rule.Accepted a := fun a ha => by
        obtain ⟨path, rules, hread⟩ := haccepted a ha
        exact Rule.accepted_of_readAll_singleton hread
      have hfirst := Rule.failsAlong_readAll hbefore hitem rest
      obtain ⟨-, rfl⟩ := hfails.unique hfirst
      rw [Field.text_along_index, String.empty_append]
      exact Field.exists_foldl_append_eq _ inner

/-- A rule that is read. -/
def headlineItem : Json := .object [("name", .string "headline"), ("match", .string "h1")]

/-- A rule with a sub-rule whose second branch lacks its selector. -/
def branchItem : Json :=
  .object [("name", .string "part"), ("match", .string "ul"), ("rules", .array [
    .object [("name", .string "icon"), ("match", .object [("or", .array
      [.string "img", .object [("exclude", .string "svg")]])])]])]

/-- A rule list is refused for its second rule wherever it stands, also at the empty path. -/
theorem second_rule_is_refused_anywhere :
    (∀ a ∈ [headlineItem], ∃ path rules, Rule.readAll (.array [a]) (.at_ path) = .ok rules) ∧
      (∃ path fault, Rule.readAll (.array [branchItem]) (.at_ path) = .error fault) ∧
      ∃ (cause : Fault.Cause) (suffix : String),
        (∀ path, ∃ field : Field,
          Rule.readAll (.array [headlineItem, branchItem]) (.at_ path) = .error (cause.at_ field) ∧
            field.text = path ++ suffix) ∧
        ∃ more, suffix = "[1]" ++ more := by
  have haccepted : ∀ a ∈ [headlineItem],
      ∃ path rules, Rule.readAll (.array [a]) (.at_ path) = .ok rules := by
    rintro _ ha
    obtain rfl := List.mem_singleton.mp ha
    have hread : (Rule.readAll (.array [headlineItem]) (.at_ "rules")).isOk := by decide +kernel
    cases h : Rule.readAll (.array [headlineItem]) (.at_ "rules") with
    | ok rules => exact ⟨"rules", rules, h⟩
    | error fault => simp [h, Except.isOk, Except.toBool] at hread
  have hrefused : ∃ path fault, Rule.readAll (.array [branchItem]) (.at_ path) = .error fault := by
    have hread : (Rule.readAll (.array [branchItem]) (.at_ "")).isOk = false := by decide +kernel
    cases h : Rule.readAll (.array [branchItem]) (.at_ "") with
    | ok rules => simp [h, Except.isOk, Except.toBool] at hread
    | error fault => exact ⟨"", fault, h⟩
  refine ⟨haccepted, hrefused, ?_⟩
  obtain ⟨rules, hrules⟩ | ⟨cause, suffix, hfails, hindex⟩ :=
    rules_are_read_alike_anywhere (.array [headlineItem, branchItem])
  · have hread : (Rule.readAll (.array [headlineItem, branchItem]) (.at_ "")).isOk = false := by
      decide +kernel
    simp [hrules, Except.isOk, Except.toBool] at hread
  · exact ⟨cause, suffix, hfails, hindex [headlineItem] branchItem [] rfl haccepted hrefused⟩

end PageRecords
