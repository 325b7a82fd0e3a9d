import Mathlib.Logic.Relation
import PageRecords.Proofs.Document.SlotsAlike

/-!
# Shorthands and their long forms

A text may stand for a block that includes it, for a replacement that puts it out, or for a list
of nothing else. Writing such a text out, anywhere in a document and as often as one likes,
changes neither what is read nor the fault (`shorthands_mean_long_forms`). The text must not be
empty: an empty one counts as absent, and an object or a list does not.
-/

namespace PageRecords

open Json (Members)

variable {p : Slot} {o o' : Members} {v v' : Json} {key listed s : String} {keys : List String}
  {field : Field} {hasSubRules : Bool}

-- --------------------------------------------------------------------
-- Shorthands
-- --------------------------------------------------------------------

namespace Slot

/-- The keys of an object under which a list of texts stands. -/
def lists : Slot → List String
  | matched | block => ["removeInside"]
  | rule => ["value", "literalValues"]
  | info => ["testPages"]
  | _ => []

/-- A text that is short for something, and what it is short for. -/
inductive Shorthand : Slot → Json → Json → Prop
  | matched {s : String} (hs : s ≠ "") :
    Shorthand .matched (.string s) (.object [("include", .string s)])
  | block {s : String} (hs : s ≠ "") :
    Shorthand .block (.string s) (.object [("include", .string s)])
  | replacement {s : String} (hs : s ≠ "") :
    Shorthand .replacement (.string s) (.object [("output", .string s)])
  /-- The text is short for a list in the object around it. -/
  | list {p : Slot} {before after : Members} {key s : String} (hkey : key ∈ p.lists)
      (hs : s ≠ "") :
      Shorthand p (.object (before ++ (key, .string s) :: after))
        (.object (before ++ (key, .array [.string s]) :: after))

end Slot

/-- The same result, or the same fault. -/
def exactly : Comparison := ⟨True, fun _ => False⟩

theorem alike_exactly_iff {α : Type} {x y : Except Fault α} : Alike exactly Eq x y ↔ x = y := by
  constructor
  · intro h
    cases h with
    | ok h => rw [h]
    | error h => rw [h trivial]
    | excused h => exact h.elim
  · rintro rfl
    exact .refl _

theorem alikeAt_exactly_iff {α : Type} {read read' : Field → Except Fault α} :
    AlikeAt exactly read read' ↔ ∀ field, read field = read' field := by
  constructor
  · exact fun h field => alike_exactly_iff.mp (h field field fun _ => rfl)
  · rintro h field field' hfield
    obtain rfl := hfield trivial
    exact alike_exactly_iff.mpr (h field)

-- --------------------------------------------------------------------
-- Blocks and replacements
-- --------------------------------------------------------------------

theorem get?_single (name : String) (v : Json) (key : String) :
    Members.get? [(name, v)] key = if key = name then some v else none :=
  Json.get?_cons name v []

theorem requireString_single (hs : s ≠ "") (name : String) :
    Members.requireString [(name, .string s)] field name = .ok s :=
  Json.requireString_written (by rw [get?_single, if_pos rfl]) hs

theorem lookup?_single (hkeys : key ∉ keys) : Members.lookup? [(key, v)] keys = none := by
  refine Json.lookup?_eq_none_iff.mpr fun other hother value hvalue => ?_
  rw [get?_single, if_neg (ne_of_mem_of_not_mem hother hkeys)] at hvalue
  cases hvalue

theorem MatchBlock.read_long_form (hs : s ≠ "") :
    read (.object [("include", .string s)]) field hasSubRules =
      read (.string s) field hasSubRules := by
  cases hasSubRules <;>
    simp [read, Json.asObject, requireString_single hs, Members.optionalString,
      Members.keyedString, lookup?_single, get?_single, Json.flag, Json.stringList, ok_bind]

theorem MatchSpec.read_long_form (hs : s ≠ "") :
    read (.object [("include", .string s)]) field hasSubRules =
      read (.string s) field hasSubRules := by
  rw [read_object, lookup?_single (by decide)]
  dsimp only
  rw [MatchBlock.read_long_form hs]
  rfl

theorem Replacement.read_long_form (hs : s ≠ "") :
    read (.object [("output", .string s)]) field hasSubRules =
      read (.string s) field hasSubRules := by
  cases hasSubRules with
  | true => rfl
  | false =>
    simp [read, requireString_single hs, Members.optionalString, Members.keyedString,
      lookup?_single, ok_bind]

-- --------------------------------------------------------------------
-- Lists
-- --------------------------------------------------------------------

/-- Two values are both there or both absent, and are the same lists of texts. -/
def SameList (v v' : Json) : Prop :=
  v.isPresent = v'.isPresent ∧ ∀ field, Json.stringList (some v) field =
    Json.stringList (some v') field

/-- Two objects are the same but for one key, under which they have the same list. -/
structure SameBut (listed : String) (o o' : Members) : Prop where
  get? : ∀ key, key ≠ listed → o.get? key = o'.get? key
  list : Option.Rel SameList (o.get? listed) (o'.get? listed)

theorem sameList_long_form (hs : s ≠ "") : SameList (.string s) (.array [.string s]) :=
  ⟨Json.isPresent_string hs, fun _ => rfl⟩

theorem sameBut_long_form (before after : Members) (key : String) (hs : s ≠ "") :
    SameBut key (before ++ (key, .string s) :: after)
      (before ++ (key, .array [.string s]) :: after) where
  get? other hother := by simp only [Json.get?_append, Json.get?_cons, if_neg hother]
  list := by
    rw [Json.get?_append, Json.get?_append, Json.get?_cons, Json.get?_cons, if_pos rfl, if_pos rfl]
    cases before.get? key with
    | none => exact .some (sameList_long_form hs)
    | some value => exact .some ⟨rfl, fun _ => rfl⟩

namespace SameBut

variable (h : SameBut listed o o')
include h

theorem lookup?_eq (hkeys : listed ∉ keys) : o.lookup? keys = o'.lookup? keys :=
  Json.lookup?_congr fun key hkey => h.get? key (ne_of_mem_of_not_mem hkey hkeys)

/-- What is found under some spellings of the key is found under the same one. -/
theorem lookup?_rel (keys : List String) :
    Option.Rel (fun m m' => m.1 = m'.1 ∧ SameList m.2 m'.2) (o.lookup? keys)
      (o'.lookup? keys) := by
  induction keys with
  | nil => exact .none
  | cons key keys ih =>
    have hkey : Option.Rel SameList (o.get? key) (o'.get? key) := by
      by_cases hne : key = listed
      · exact hne ▸ h.list
      · rw [h.get? key hne]
        cases o'.get? key with
        | none => exact .none
        | some value => exact .some ⟨rfl, fun _ => rfl⟩
    simp only [Members.lookup?]
    generalize o.get? key = value, o'.get? key = value' at hkey ⊢
    cases hkey with
    | none => exact ih
    | some hvalue =>
      dsimp only
      rw [← hvalue.1]
      split
      · exact .some ⟨rfl, hvalue⟩
      · exact ih

theorem stringList_eq (keys : List String) (field : Field) :
    Json.stringList ((o.lookup? keys).map (·.2)) field =
      Json.stringList ((o'.lookup? keys).map (·.2)) field := by
  have hfound := h.lookup?_rel keys
  generalize o.lookup? keys = found, o'.lookup? keys = found' at hfound ⊢
  cases hfound with
  | none => rfl
  | some hm => exact hm.2.2 field

theorem keyedString_eq (hkeys : listed ∉ keys) (field : Field) :
    o.keyedString field keys = o'.keyedString field keys := by
  rw [Members.keyedString, Members.keyedString, h.lookup?_eq hkeys]

theorem optionalString_eq (hkeys : listed ∉ keys) (field : Field) :
    o.optionalString field keys = o'.optionalString field keys := by
  rw [Members.optionalString, Members.optionalString, h.keyedString_eq hkeys]

theorem requireString_eq {aliases : List String} (hkeys : listed ∉ key :: aliases)
    (field : Field) : o.requireString field key aliases = o'.requireString field key aliases := by
  rw [Members.requireString, Members.requireString, h.optionalString_eq hkeys]

end SameBut

theorem MatchBlock.read_sameBut (h : SameBut "removeInside" o o') :
    read (.object o) field hasSubRules = read (.object o') field hasSubRules := by
  simp only [read, Json.asObject, ok_bind, h.requireString_eq (show _ ∉ ["include"] by decide),
    h.optionalString_eq (show _ ∉ ["exclude"] by decide),
    h.optionalString_eq (show _ ∉ ["attribute"] by decide),
    h.optionalString_eq (show _ ∉ ["addNextUntil"] by decide),
    h.get? "outerNode" (by decide), h.get? "keepBasicMarkup" (by decide), h.stringList_eq]

theorem MatchSpec.read_sameBut (h : SameBut "removeInside" o o') :
    read (.object o) field hasSubRules = read (.object o') field hasSubRules := by
  rw [read_object, read_object, h.lookup?_eq (by decide), MatchBlock.read_sameBut h]

namespace Rule

theorem checkLiteral_sameBut (h : SameBut listed o o') (hlisted : listed ∉ ["match"])
    (attr : Option String) : checkLiteral o field attr = checkLiteral o' field attr := by
  have hfound := h.lookup?_rel ["value", "literalValues"]
  rw [checkLiteral, checkLiteral, h.lookup?_eq hlisted]
  generalize o.lookup? ["value", "literalValues"] = found,
    o'.lookup? ["value", "literalValues"] = found' at hfound ⊢
  cases hfound with
  | none => rfl
  | @some m m' hm =>
    obtain ⟨key, value⟩ := m
    obtain ⟨_, value'⟩ := m'
    obtain ⟨rfl, -⟩ := hm
    rfl

theorem readSource_sameBut (h : SameBut listed o o') (hlisted : listed ∉ ["match"])
    (attr : Option String) :
    readSource o field attr hasSubRules = readSource o' field attr hasSubRules := by
  have hfound := h.lookup?_rel ["value", "literalValues"]
  unfold readSource
  rw [h.lookup?_eq hlisted]
  generalize o.lookup? ["value", "literalValues"] = found,
    o'.lookup? ["value", "literalValues"] = found' at hfound ⊢
  cases hfound with
  | none => rfl
  | @some m m' hm =>
    obtain ⟨key, value⟩ := m
    obtain ⟨_, value'⟩ := m'
    obtain ⟨rfl, -, htexts⟩ := hm
    simp only [htexts]

theorem readReplacement_sameBut (h : SameBut listed o o') (hlisted : listed ∉ ["rewrite"]) :
    readReplacement o field hasSubRules = readReplacement o' field hasSubRules := by
  rw [readReplacement, readReplacement, h.lookup?_eq hlisted]

theorem readSubRules_sameBut (h : SameBut listed o o') (hlisted : listed ∉ ["match"])
    (hrules : listed ∉ ["rules", "subRules"]) : readSubRules o field = readSubRules o' field := by
  rw [readSubRules_eq, readSubRules_eq, h.lookup?_eq hlisted, h.lookup?_eq hrules]

theorem read_sameBut (h : SameBut listed o o') (hlisted : listed ∈ ["value", "literalValues"]) :
    read (.object o) field = read (.object o') field := by
  have hother : ∀ keys ∈ [["name"], ["attribute"], ["match"], ["rules", "subRules"], ["rewrite"]],
      listed ∉ keys := by
    rcases List.mem_pair.mp hlisted with rfl | rfl <;> decide
  simp only [List.forall_mem_cons] at hother
  obtain ⟨hname, hattr, hmatch, hrules, hrewrite, -⟩ := hother
  rw [read.eq_def, read.eq_def]
  simp only [h.requireString_eq hname, h.optionalString_eq hattr, checkLiteral_sameBut h hmatch,
    readSubRules_sameBut h hmatch hrules, readSource_sameBut h hmatch,
    readReplacement_sameBut h hrewrite]
  rfl

end Rule

theorem ExtractionType.read_sameBut (h : SameBut "testPages" o o') :
    read o field = read o' field := by
  rw [read, read, h.requireString_eq (by decide), h.requireString_eq (by decide)]

theorem RuleInfo.read_sameBut (h : SameBut "testPages" o o') :
    read (.object o) field = read (.object o') field := by
  simp only [read, Json.asObject, ok_bind, ExtractionType.read_sameBut h,
    h.requireString_eq (show _ ∉ ["name"] by decide),
    h.requireString_eq (show _ ∉ ["domain"] by decide),
    h.keyedString_eq (show _ ∉ ["path", "pathPattern"] by decide),
    h.keyedString_eq (show _ ∉ ["suggestedRegex", "suggestedPattern"] by decide),
    h.optionalString_eq (show _ ∉ ["description"] by decide), h.get? "author" (by decide),
    h.stringList_eq]

-- --------------------------------------------------------------------
-- Documents
-- --------------------------------------------------------------------

namespace Slot

theorem readAlike_of_shorthand (h : p.Shorthand v v') : p.ReadAlike exactly v v' := by
  cases h with
  | matched hs =>
    exact ⟨Json.isPresent_string hs, fun _ => alikeAt_exactly_iff.mpr fun _ =>
      (MatchSpec.read_long_form hs).symm⟩
  | block hs =>
    exact ⟨Json.isPresent_string hs, fun _ => alikeAt_exactly_iff.mpr fun _ =>
      (MatchBlock.read_long_form hs).symm⟩
  | replacement hs =>
    exact ⟨Json.isPresent_string hs, fun _ => alikeAt_exactly_iff.mpr fun _ =>
      (Replacement.read_long_form hs).symm⟩
  | @list _ before after key s hkey hs =>
    have hsame := sameBut_long_form before after key hs
    refine ⟨rfl, ?_⟩
    cases p with
    | matched =>
      obtain rfl := List.mem_singleton.mp hkey
      exact fun _ => alikeAt_exactly_iff.mpr fun _ => MatchSpec.read_sameBut hsame
    | block =>
      obtain rfl := List.mem_singleton.mp hkey
      exact fun _ => alikeAt_exactly_iff.mpr fun _ => MatchBlock.read_sameBut hsame
    | rule => exact alikeAt_exactly_iff.mpr fun _ => Rule.read_sameBut hsame hkey
    | info =>
      obtain rfl := List.mem_singleton.mp hkey
      exact alikeAt_exactly_iff.mpr fun _ => RuleInfo.read_sameBut hsame
    | _ => cases hkey

end Slot

/-- What no step changes is the same along all steps, forwards and backwards. -/
theorem eq_of_eqvGen {α β : Type} {step : α → α → Prop} {a b : α} (read : α → β)
    (hstep : ∀ a b, step a b → read a = read b) (h : Relation.EqvGen step a b) :
    read a = read b :=
  (eq_equivalence.comap read).eqvGen_iff.mp (h.mono hstep)

/-- Any number of shorthands may be written out, or long forms abbreviated, at any depth: the
same rules are read from a list of rules, or it is refused for the same fault in the same field.
It is the same with documents, whose test pages may be a text too. -/
theorem shorthands_mean_long_forms :
    (∀ raw raw' field, Relation.EqvGen (Slot.rules.Within Slot.Shorthand) raw raw' →
      Rule.readAll raw field = Rule.readAll raw' field) ∧
    ∀ raw raw', Relation.EqvGen (Slot.document.Within Slot.Shorthand) raw raw' →
      RuleDocument.read raw = RuleDocument.read raw' := by
  have halike {p : Slot} {raw raw' : Json} (h : p.Within Slot.Shorthand raw raw') :
      p.ReadAlike exactly raw raw' :=
    Slot.readAlike_of_within (fun _ _ _ => Slot.readAlike_of_shorthand) h
  refine ⟨fun _ _ field h => eq_of_eqvGen (Rule.readAll · field) (fun _ _ hstep => ?_) h,
    fun _ _ h => eq_of_eqvGen RuleDocument.read (fun _ _ hstep => ?_) h⟩
  · exact alikeAt_exactly_iff.mp (halike hstep).reads field
  · exact alike_exactly_iff.mp (halike hstep).reads

namespace Digest

def info (pages : Json) : Json :=
  .object [("name", .string "digest"), ("type", .string "feed"), ("domain", .string "digest.org"),
    ("suggestedRegex", .string "digest"), ("testPages", pages)]

def block (inside : Json) : Json := .object [("include", .string "p"), ("removeInside", inside)]

def lead (branches : List Json) (output : Json) : Json :=
  .object [("name", .string "lead"), ("match", .object [("or", .array branches)]),
    ("rewrite", output)]

def part (main lead : Json) : Json :=
  .object [("name", .string "part"), ("match", main), ("rules", .array [lead])]

def kind (values : Json) : Json := .object [("name", .string "kind"), ("value", values)]

/-- A document with two rules. -/
def document (info first second : Json) : Json :=
  .object [("info", info), ("rules", .array [first, second])]

variable {change : Slot → Json → Json → Prop} {v v' info first second main output : Json}
  {branches branches' : List Json}

theorem within_info (h : change .info v v') :
    Slot.document.Within change (document v first second) (document v' first second) :=
  @Slot.Within.member _ .document [] [_] "info" _ _ (.here h)

theorem within_first (h : Slot.rule.Within change v v') :
    Slot.document.Within change (document info v second) (document info v' second) :=
  @Slot.Within.member _ .document [_] [] "rules" _ _ (@Slot.Within.item _ .rules [] [_] _ _ h)

theorem within_second (h : change .rule v v') :
    Slot.document.Within change (document info first v) (document info first v') :=
  @Slot.Within.member _ .document [_] [] "rules" _ _
    (@Slot.Within.item _ .rules [_] [] _ _ (.here h))

theorem within_main (h : change .matched v v') :
    Slot.rule.Within change (part v first) (part v' first) :=
  @Slot.Within.member _ .rule [_] [_] "match" _ _ (.here h)

theorem within_lead (h : Slot.rule.Within change v v') :
    Slot.rule.Within change (part main v) (part main v') :=
  @Slot.Within.member _ .rule [_, _] [] "rules" _ _ (@Slot.Within.item _ .rules [] [] _ _ h)

theorem within_branches
    (h : Slot.branches.Within change (.array branches) (.array branches')) :
    Slot.rule.Within change (lead branches output) (lead branches' output) :=
  @Slot.Within.member _ .rule [_] [_] "match" _ _
    (@Slot.Within.member _ .matched [] [] "or" _ _ h)

theorem within_output (h : change .replacement v v') :
    Slot.rule.Within change (lead branches v) (lead branches v') :=
  @Slot.Within.member _ .rule [_, _] [] "rewrite" _ _ (.here h)

end Digest

/-- Every kind of shorthand is written out in one document. -/
theorem digest_is_read_in_long_form :
    let short := Digest.document (Digest.info (.string "https://digest.org/1"))
      (Digest.part (.string "main")
        (Digest.lead [.string "h2", Digest.block (.string "i")] (.string "$0")))
      (Digest.kind (.string "news"))
    let long := Digest.document (Digest.info (.array [.string "https://digest.org/1"]))
      (Digest.part (.object [("include", .string "main")])
        (Digest.lead [.object [("include", .string "h2")], Digest.block (.array [.string "i"])]
          (.object [("output", .string "$0")])))
      (Digest.kind (.array [.string "news"]))
    RuleDocument.read short = RuleDocument.read long ∧
      (RuleDocument.read long).isOk = true := by
  intro short long
  have hpages : Slot.info.Shorthand (Digest.info (.string "https://digest.org/1"))
      (Digest.info (.array [.string "https://digest.org/1"])) :=
    @Slot.Shorthand.list .info [_, _, _, _] [] _ _ (by decide) (by decide)
  have hmain : Slot.matched.Shorthand (.string "main") (.object [("include", .string "main")]) :=
    .matched (by decide)
  have hbranch : Slot.block.Shorthand (.string "h2") (.object [("include", .string "h2")]) :=
    .block (by decide)
  have hinside : Slot.block.Shorthand (Digest.block (.string "i"))
      (Digest.block (.array [.string "i"])) :=
    @Slot.Shorthand.list .block [_] [] _ _ (by decide) (by decide)
  have houtput : Slot.replacement.Shorthand (.string "$0") (.object [("output", .string "$0")]) :=
    .replacement (by decide)
  have hkind : Slot.rule.Shorthand (Digest.kind (.string "news"))
      (Digest.kind (.array [.string "news"])) :=
    @Slot.Shorthand.list .rule [_] [] _ _ (by decide) (by decide)
  refine ⟨shorthands_mean_long_forms.2 short long ?_, by decide +kernel⟩
  refine .trans _ _ _ (.rel _ _ (Digest.within_info hpages)) ?_
  refine .trans _ _ _ (.rel _ _ (Digest.within_first (Digest.within_main hmain))) ?_
  refine .trans _ _ _ (.rel _ _ (Digest.within_first (Digest.within_lead (Digest.within_branches
    (@Slot.Within.item _ .branches [] [_] _ _ (.here hbranch)))))) ?_
  refine .trans _ _ _ (.rel _ _ (Digest.within_first (Digest.within_lead (Digest.within_branches
    (@Slot.Within.item _ .branches [_] [] _ _ (.here hinside)))))) ?_
  refine .trans _ _ _ (.rel _ _ (Digest.within_first (Digest.within_lead
    (Digest.within_output houtput)))) ?_
  exact .rel _ _ (Digest.within_second hkind)

end PageRecords
