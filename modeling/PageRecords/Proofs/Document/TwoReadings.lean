import PageRecords.Proofs.Document.RuleRoundTrip

/-!
# Two readings side by side

Two values may be read alike although they are not the same. `Alike` compares the outcomes of
two readings; a `Comparison` says whether faults count, and which faults excuse whatever the
other reading comes to. What a value is read as depends on where it stands: `Slot` lists the
kinds of places in a document with the fields of each. `Slot.Edit` is a change to one object
somewhere in a value, and `Slot.Within` to a value of any kind. The lemmas here are about the
readers that all slots share.
-/

namespace PageRecords

open Json (Members)

-- --------------------------------------------------------------------
-- Outcomes
-- --------------------------------------------------------------------

/-- How the outcomes of two readings are compared. -/
structure Comparison where
  /-- Both readings are refused for the same fault, in the same field. -/
  strict : Prop
  /-- Faults of the first reading with which the second may come to anything. -/
  excused : Fault → Prop

/-- Two readings come to related results, or both are refused. -/
inductive Alike (c : Comparison) {α β : Type} (R : α → β → Prop) :
    Except Fault α → Except Fault β → Prop
  | ok {a : α} {b : β} (h : R a b) : Alike c R (.ok a) (.ok b)
  | error {e e' : Fault} (h : c.strict → e = e') : Alike c R (.error e) (.error e')
  | excused {e : Fault} {y : Except Fault β} (h : c.excused e) : Alike c R (.error e) y

/-- Fields that are told apart only where faults are. -/
def Comparison.Fields (c : Comparison) (f f' : Field) : Prop := c.strict → f = f'

/-- Readings that come out alike at such fields. -/
def AlikeAt (c : Comparison) {α : Type} (read read' : Field → Except Fault α) : Prop :=
  ∀ f f', c.Fields f f' → Alike c Eq (read f) (read' f')

section Alike

variable {c : Comparison} {α β γ δ : Type} {R : α → β → Prop} {Q : γ → δ → Prop}
  {x : Except Fault α} {y : Except Fault β} {k : α → Except Fault γ} {l : β → Except Fault δ}
  {f f' : Field} {name name' : String}

theorem Comparison.Fields.key (hf : c.Fields f f') (h : c.strict → name = name') :
    c.Fields (f.key name) (f'.key name') :=
  fun hc => by rw [hf hc, h hc]

theorem Comparison.Fields.sameKey (hf : c.Fields f f') (name : String) :
    c.Fields (f.key name) (f'.key name) :=
  hf.key fun _ => rfl

theorem Comparison.Fields.index (hf : c.Fields f f') (i : Nat) :
    c.Fields (f.index i) (f'.index i) :=
  fun hc => by rw [hf hc]

theorem Alike.refl (x : Except Fault α) : Alike c Eq x x := by
  cases x with
  | ok a => exact .ok rfl
  | error e => exact .error fun _ => rfl

theorem Alike.bind (hx : Alike c R x y) (hk : ∀ a b, R a b → Alike c Q (k a) (l b)) :
    Alike c Q (x >>= k) (y >>= l) := by
  cases hx with
  | ok h => exact hk _ _ h
  | error h => exact .error h
  | excused h => exact .excused h

/-- Readings that go on alike with the same result. -/
theorem Alike.bind_eq {y : Except Fault α} {l : α → Except Fault δ} (hx : Alike c Eq x y)
    (hk : ∀ a, Alike c Q (k a) (l a)) : Alike c Q (x >>= k) (y >>= l) :=
  hx.bind fun a _ h => h ▸ hk a

/-- Both readings are refused for the same reason where they stand. -/
theorem Alike.invalid (hf : c.Fields f f') (reason : Fault.Reason) :
    Alike c R (.error (.invalid f reason)) (.error (.invalid f' reason)) :=
  .error fun hc => by rw [hf hc]

theorem Alike.missing (hf : c.Fields f f') :
    Alike c R (.error (.missing f)) (.error (.missing f')) :=
  .error fun hc => by rw [hf hc]

end Alike

-- --------------------------------------------------------------------
-- Places
-- --------------------------------------------------------------------

/-- The kinds of places in a document. A plain value is read as a text, a flag, a list of texts
or a scalar; data is taken as it is. -/
inductive Slot where
  | document
  | info
  | author
  | rules
  | rule
  | matched
  | branches
  | block
  | replacement
  | redirect
  | query
  | params
  | plain
  | data
deriving DecidableEq, Repr

namespace Slot

def blockFields : List (List String × Slot) :=
  [(["include"], .plain), (["exclude"], .plain), (["attribute"], .plain),
    (["addNextUntil"], .plain), (["outerNode"], .plain), (["removeInside"], .plain),
    (["keepBasicMarkup"], .plain)]

/-- The fields of an object, each with its spellings and the kind of place it is. -/
def fields : Slot → List (List String × Slot)
  | document => [(["info"], .info), (["rules"], .rules), (["redirect"], .redirect)]
  | info =>
    [(["name"], .plain), (["type", "extractionType"], .plain), (["customType"], .plain),
      (["domain"], .plain), (["path", "pathPattern"], .plain),
      (["suggestedRegex", "suggestedPattern"], .plain), (["testPages"], .plain),
      (["author"], .author), (["description"], .plain)]
  | author => [(["name"], .plain)]
  | rule =>
    [(["name"], .plain), (["match"], .matched), (["attribute"], .plain),
      (["value", "literalValues"], .plain), (["rules", "subRules"], .rules),
      (["rewrite"], .replacement)]
  | matched => (["or"], .branches) :: blockFields
  | block => blockFields
  | replacement => [(["output"], .plain), (["find"], .plain)]
  | redirect => [(["requiredQueryParams"], .params), (["query"], .query)]
  | query => [(["setParams"], .params)]
  | _ => []

/-- The keys that are read from an object. -/
def keys (p : Slot) : List String := p.fields.flatMap (·.1)

/-- The kind of what stands under a key. -/
def under (p : Slot) (key : String) : Slot :=
  match p.fields.find? fun field => key ∈ field.1, p with
  | some field, _ => field.2
  | none, .author | none, .data => .data
  | none, _ => .plain

/-- The kind of the items of an array. -/
def item : Slot → Slot
  | rules => .rule
  | branches => .block
  | data => .data
  | _ => .plain

/-- The fields that are flags. -/
def flags : Slot → List String
  | matched | block => ["outerNode", "keepBasicMarkup"]
  | _ => []

/-- Objects whose members are data: what they are, and their order. -/
def ordered : Slot → Bool
  | author | params | data => true
  | _ => false

/-- One object of a value is changed, in a way that depends on the kind of its place. -/
inductive Edit (change : Slot → Members → Members → Prop) : Slot → Json → Json → Prop
  | here {p : Slot} {o o' : Members} (h : change p o o') : Edit change p (.object o) (.object o')
  | member {p : Slot} {before after : Members} {key : String} {value value' : Json}
      (h : Edit change (p.under key) value value') :
      Edit change p (.object (before ++ (key, value) :: after))
        (.object (before ++ (key, value') :: after))
  | item {p : Slot} {before after : List Json} {value value' : Json}
      (h : Edit change p.item value value') :
      Edit change p (.array (before ++ value :: after)) (.array (before ++ value' :: after))

/-- One value within another is changed, in a way that depends on the kind of its place. -/
inductive Within (change : Slot → Json → Json → Prop) : Slot → Json → Json → Prop
  | here {p : Slot} {v v' : Json} (h : change p v v') : Within change p v v'
  | member {p : Slot} {before after : Members} {key : String} {value value' : Json}
      (h : Within change (p.under key) value value') :
      Within change p (.object (before ++ (key, value) :: after))
        (.object (before ++ (key, value') :: after))
  | item {p : Slot} {before after : List Json} {value value' : Json}
      (h : Within change p.item value value') :
      Within change p (.array (before ++ value :: after)) (.array (before ++ value' :: after))

theorem Edit.within {change : Slot → Members → Members → Prop} {p : Slot} {v v' : Json}
    (h : p.Edit change v v') :
    p.Within (fun p v v' => ∃ o o', v = .object o ∧ v' = .object o' ∧ change p o o') v v' := by
  induction h with
  | here h => exact .here ⟨_, _, rfl, rfl, h⟩
  | member _ ih => exact .member ih
  | item _ ih => exact .item ih

theorem under_eq {p : Slot} :
    ∀ field ∈ p.fields, ∀ key ∈ field.1, p.under key = field.2 := by
  cases p <;> decide

/-- No field shares a spelling with another. -/
theorem eq_of_mem_keys {p : Slot} : ∀ field ∈ p.fields, ∀ field' ∈ p.fields,
    ∀ key ∈ field.1, key ∈ field'.1 → field = field' := by
  cases p <;> decide

/-- A flag has one spelling. -/
theorem mem_fields_of_flag {p : Slot} : ∀ key ∈ p.flags, ([key], Slot.plain) ∈ p.fields := by
  cases p <;> decide

end Slot

-- --------------------------------------------------------------------
-- Texts, flags and lists of texts
-- --------------------------------------------------------------------

/-- Values that every reader of plain values reads alike. -/
structure PlainAlike (c : Comparison) (v v' : Json) : Prop where
  text : AlikeAt c v.asString v'.asString
  texts : AlikeAt c (Json.stringList (some v)) (Json.stringList (some v'))
  flag : AlikeAt c (Json.flag (some v)) (Json.flag (some v'))
  scalar : AlikeAt c v.scalarText v'.scalarText
  same : c.strict → v = v'

/-- Found members, under the same key where faults count, with values that are related. -/
def FoundAlike (c : Comparison) (R : Json → Json → Prop) (m m' : String × Json) : Prop :=
  (c.strict → m.1 = m'.1) ∧ R m.2 m'.2

section Plain

variable {c : Comparison} {f f' : Field} {o o' : Members} {keys : List String}

theorem eq_of_forall₂ {α : Type} {R : α → α → Prop} {xs ys : List α} (h : List.Forall₂ R xs ys)
    (heq : ∀ x y, R x y → x = y) : xs = ys := by
  have hall := h.imp heq
  rwa [List.forall₂_eq_eq_eq] at hall

/-- An object is neither a text nor a list of texts, and all readers refuse it. -/
theorem PlainAlike.object (h : c.strict → o = o') :
    PlainAlike c (.object o) (.object o') where
  text _ _ hf := .invalid hf _
  texts _ _ hf := .invalid hf _
  flag _ _ hf := .error fun hc => by rw [hf hc, h hc]
  scalar _ _ hf := .invalid hf _
  same hc := by rw [h hc]

theorem stringItems_alike {items items' : List Json} (h : List.Forall₂ (PlainAlike c) items items')
    (hf : c.Fields f f') (i : Nat) :
    Alike c Eq (Json.stringItems f i items) (Json.stringItems f' i items') := by
  induction h generalizing i with
  | nil => exact .ok rfl
  | cons hitem _ ih =>
    exact (hitem.text _ _ (hf.index i)).bind_eq fun _ => (ih (i + 1)).bind_eq fun _ => .ok rfl

theorem PlainAlike.array {items items' : List Json}
    (h : List.Forall₂ (PlainAlike c) items items') : PlainAlike c (.array items) (.array items') :=
  have heq (hc : c.strict) : items = items' := eq_of_forall₂ h fun _ _ hitem => hitem.same hc
  { text := fun _ _ hf => .invalid hf _
    texts := fun _ _ hf => stringItems_alike h hf 0
    flag := fun _ _ hf => .error fun hc => by rw [hf hc, heq hc]
    scalar := fun _ _ hf => .invalid hf _
    same := fun hc => by rw [heq hc] }

theorem flag_alike (found : Option Json) : AlikeAt c (Json.flag found) (Json.flag found) := by
  intro f f' hf
  unfold Json.flag
  split
  · exact .ok rfl
  · exact .ok rfl
  · exact .ok rfl
  · split
    · exact .ok rfl
    · exact .ok rfl
    · exact .ok rfl
    · exact .ok rfl
    · exact .invalid hf _

/-- What is neither an object nor an array is read like itself. -/
theorem PlainAlike.of_scalar {v : Json} (hobject : ∀ o, v ≠ .object o)
    (harray : ∀ items, v ≠ .array items) : PlainAlike c v v where
  text f f' hf := by
    cases v with
    | string => exact .ok rfl
    | _ => exact .invalid hf _
  texts f f' hf := by
    cases v with
    | string => exact .ok rfl
    | array items => exact (harray items rfl).elim
    | _ => exact .invalid hf _
  flag := flag_alike (some v)
  scalar f f' hf := by
    cases v with
    | string | number => exact .ok rfl
    | bool b => cases b <;> exact .ok rfl
    | _ => exact .invalid hf _
  same _ := rfl

theorem compilePattern_alike (pattern : String) (hf : c.Fields f f') :
    Alike c Eq (compilePattern pattern f) (compilePattern pattern f') := by
  unfold compilePattern
  cases Regex.compile? pattern with
  | some r => exact .ok rfl
  | none => exact .error fun hc => by rw [hf hc]

/-- Texts found under the same key where faults count. -/
def TextsAlike (c : Comparison) : Option (String × String) → Option (String × String) → Prop :=
  Option.Rel fun a a' => (c.strict → a.1 = a'.1) ∧ a.2 = a'.2

theorem TextsAlike.map_eq {a a' : Option (String × String)} (h : TextsAlike c a a') :
    a.map (·.2) = a'.map (·.2) := by
  cases h with
  | some h => exact congrArg some h.2
  | none => rfl

theorem keyedString_alike
    (h : Option.Rel (FoundAlike c (PlainAlike c)) (o.lookup? keys) (o'.lookup? keys))
    (hf : c.Fields f f') :
    Alike c (TextsAlike c) (o.keyedString f keys) (o'.keyedString f' keys) := by
  unfold Members.keyedString
  generalize o.lookup? keys = found, o'.lookup? keys = found' at h ⊢
  cases h with
  | some h =>
    refine (h.2.text _ _ (hf.key h.1)).bind ?_
    rintro s _ rfl
    exact .ok (.some ⟨h.1, rfl⟩)
  | none => exact .ok .none

theorem optionalString_alike
    (h : Option.Rel (FoundAlike c (PlainAlike c)) (o.lookup? keys) (o'.lookup? keys))
    (hf : c.Fields f f') :
    Alike c Eq (o.optionalString f keys) (o'.optionalString f' keys) :=
  (keyedString_alike h hf).bind fun _ _ hfound => .ok hfound.map_eq

theorem requireString_alike {key : String} {aliases : List String}
    (h : Option.Rel (FoundAlike c (PlainAlike c)) (o.lookup? (key :: aliases))
      (o'.lookup? (key :: aliases))) (hf : c.Fields f f') :
    Alike c Eq (o.requireString f key aliases) (o'.requireString f' key aliases) := by
  refine (optionalString_alike h hf).bind_eq fun found => ?_
  cases found with
  | some s => exact .ok rfl
  | none => exact .missing (hf.sameKey key)

theorem stringList_alike
    (h : Option.Rel (FoundAlike c (PlainAlike c)) (o.lookup? keys) (o'.lookup? keys))
    (hf : c.Fields f f') :
    Alike c Eq (Json.stringList ((o.lookup? keys).map (·.2)) f)
      (Json.stringList ((o'.lookup? keys).map (·.2)) f') := by
  generalize o.lookup? keys = found, o'.lookup? keys = found' at h ⊢
  cases h with
  | some h => exact h.2.texts _ _ hf
  | none => exact .ok rfl

end Plain

end PageRecords
