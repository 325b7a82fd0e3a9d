import Mathlib.Logic.Relation
import PageRecords.Proofs.Document.SlotsAlike

/-!
# Empty fields

A field with a value that says nothing counts as absent: dropping it, anywhere in a document,
changes neither the document that is read nor the fault. Two kinds of fields are read without
asking first whether they are there. A flag takes null, false and the integer zero for false and
refuses what else says nothing, and an author that is not null is read as it is. So
`empty_fields_count_as_absent` leaves out the authors, and says of the flags that one that
cannot be dropped has the document refused.
-/

namespace PageRecords

open Json (Members)

variable {allowed : String → Json → Prop} {p : Slot} {o o' : Members} {key : String} {value : Json}

-- --------------------------------------------------------------------
-- Dropping a key
-- --------------------------------------------------------------------

/-- An object without one of its keys. -/
def Json.Members.without (o : Members) (key : String) : Members := o.filter fun m => m.1 != key

theorem Json.get?_without (o : Members) (dropped key : String) :
    (o.without dropped).get? key = if key = dropped then none else o.get? key := by
  unfold Members.without
  induction o with
  | nil => exact (ite_self none).symm
  | cons m rest ih =>
    obtain ⟨name, value⟩ := m
    rw [get?_cons]
    by_cases hname : name = dropped
    · subst hname
      rw [List.filter_cons_of_neg (by simp), ih]
      split <;> rfl
    · rw [List.filter_cons_of_pos (by simpa using hname), get?_cons, ih]
      split
      · next hkey => rw [hkey, if_neg hname]
      · rfl

/-- What counts as absent is not found, whether it is there or dropped. -/
theorem Json.lookup?_without {dropped : String}
    (h : ∀ value, o.get? dropped = some value → value.isPresent = false) (keys : List String) :
    (o.without dropped).lookup? keys = o.lookup? keys := by
  induction keys with
  | nil => rfl
  | cons key keys ih =>
    rw [Members.lookup?, Members.lookup?, get?_without, ih]
    by_cases hkey : key = dropped
    · subst hkey
      cases hget : o.get? key with
      | none => rw [if_pos rfl]
      | some value => simp [h value hget]
    · rw [if_neg hkey]

namespace Slot

/-- A key that is read is dropped from an object, because its value says nothing. -/
inductive Drop (allowed : String → Json → Prop) (p : Slot) : Members → Members → Prop
  | mk {o : Members} {key : String} {value : Json} (hp : p.ordered = false) (hkey : key ∈ p.keys)
      (hget : o.get? key = some value) (hsilent : value.SaysNothing)
      (hallowed : allowed key value) : Drop allowed p o (o.without key)

end Slot

-- --------------------------------------------------------------------
-- Flags and authors
-- --------------------------------------------------------------------

/-- A flag is refused although its value says nothing. -/
def FlagRefused (allowed : String → Json → Prop) (e : Fault) : Prop :=
  ∃ (field : Field) (key : String) (value : Json), e = .invalid (field.key key) (.notFlag value) ∧
    key ∈ ["outerNode", "keepBasicMarkup"] ∧ allowed key value ∧ value.SaysNothing ∧
    ¬Json.SaysFlag (some value) false

/-- The same fault or none, unless it is that a flag is refused. -/
def upToFlags (allowed : String → Json → Prop) : Comparison := ⟨True, FlagRefused allowed⟩

theorem flag_of_saysNothing (h : value.SaysNothing) (f : Field) :
    Json.flag (some value) f = .ok false ∨
      Json.flag (some value) f = .error (.invalid f (.notFlag value)) := by
  cases h with
  | null | false => exact .inl rfl
  | empty => exact .inr rfl
  | @zero n h =>
    cases n with
    | int n =>
      obtain rfl : n = 0 := by simpa [JsonNumber.isZero] using h
      exact .inl rfl
    | double x => exact .inr rfl

namespace Slot

theorem mem_of_flag : ∀ key ∈ p.flags, key ∈ ["outerNode", "keepBasicMarkup"] := by
  cases p <;> decide

/-- A flag is false without its key, and false or refused with it. -/
theorem flag_alike_of_drop (hallowed : allowed key value) (hsilent : value.SaysNothing)
    (hflag : key ∈ p.flags) (f f' : Field) :
    Alike (upToFlags allowed) Eq (Json.flag (some value) (f.key key)) (Json.flag none f') := by
  rcases flag_of_saysNothing hsilent (f.key key) with hfalse | hrefused
  · rw [hfalse]
    exact .ok rfl
  · have hnot : ¬Json.SaysFlag (some value) false := fun hsays =>
      nomatch (Json.flag_ok_iff.mpr hsays).symm.trans hrefused
    rw [hrefused]
    exact .excused ⟨f, key, value, rfl, mem_of_flag key hflag, hallowed, hsilent, hnot⟩

theorem agree_of_drop (hauthor : ∀ value, allowed "author" value → value = .null)
    (h : p.Drop allowed o o') : p.Agree (upToFlags allowed) o o' := by
  obtain ⟨hp, hkey, hget, hsilent, hallowed⟩ := h
  rename_i dropped value
  have habsent : ∀ found, o.get? dropped = some found → found.isPresent = false := by
    intro found hfound
    obtain rfl := Option.some.inj (hget.symm.trans hfound)
    exact Json.isPresent_eq_false_iff.mpr hsilent
  refine ⟨fun field _ => ?_, fun key hflag => ?_, ?_, by simp [hp], ?_⟩
  · rw [Json.lookup?_without habsent]
    cases o.lookup? field.1 with
    | none => exact .none
    | some m => exact .some ⟨fun _ => rfl, readAlike_refl _ _ _⟩
  · intro f f' hf
    rw [Json.get?_without]
    split
    · next heq =>
      subst heq
      rw [hget]
      exact flag_alike_of_drop hallowed hsilent hflag _ _
    · exact flag_alike _ _ _ (hf.sameKey key)
  · rintro rfl
    rw [Json.get?_without]
    split
    · next heq =>
      subst heq
      obtain rfl := hauthor value hallowed
      rw [hget]
      exact fun _ _ _ => .ok rfl
    · exact author_alike _
  · rintro rfl
    cases hkey

end Slot

-- --------------------------------------------------------------------
-- Documents
-- --------------------------------------------------------------------

theorem eq_or_refused {α : Type} {x y : Except Fault α} (h : Alike (upToFlags allowed) Eq x y) :
    x = y ∨ ∃ e, x = .error e ∧ FlagRefused allowed e := by
  cases h with
  | ok h => exact .inl (congrArg Except.ok h)
  | error h => exact .inl (congrArg Except.error (h trivial))
  | excused h => exact .inr ⟨_, rfl, h⟩

/-- Dropping fields whose values say nothing, anywhere in a document and as many as one likes,
changes neither the document that is read nor the fault, unless a flag is refused that was
allowed to be dropped. Authors may be dropped if they are null. -/
theorem empty_fields_count_as_absent (allowed : String → Json → Prop)
    (hauthor : ∀ value, allowed "author" value → value = .null) {raw raw' : Json}
    (h : Relation.ReflTransGen (Slot.document.Edit (Slot.Drop allowed)) raw raw') :
    RuleDocument.read raw = RuleDocument.read raw' ∨
      ∃ e, RuleDocument.read raw = .error e ∧ FlagRefused allowed e := by
  induction h using Relation.ReflTransGen.head_induction_on with
  | refl => exact .inl rfl
  | head hstep _ ih =>
    have halike := Slot.readAlike_of_edit
      (fun _ _ _ hdrop => Slot.readAlike_object (Slot.agree_of_drop hauthor hdrop)) hstep
    rcases eq_or_refused halike.reads with heq | hrefused
    · rwa [heq]
    · exact .inr hrefused

namespace News

/-- What the description of a document has to say. -/
def described : Members :=
  [("name", .string "news"), ("type", .string "article"), ("domain", .string "news.org"),
    ("suggestedRegex", .string "news")]

/-- A document with further members in its description, and in the match of a rule below its
only one. -/
def document (more matched : Members) : Json :=
  .object
    [("info", .object (described ++ more)),
      ("rules", .array [.object [("name", .string "page"), ("match", .string "main"),
        ("rules", .array [.object [("name", .string "lead"),
          ("match", .object (("include", .string "p") :: matched))]])]])]

variable {change : Slot → Members → Members → Prop} {more more' matched matched' : Members}

theorem edit_described (h : change .info (described ++ more) (described ++ more')) :
    Slot.document.Edit change (document more matched) (document more' matched) :=
  @Slot.Edit.member change .document [] _ "info" _ _ (.here h)

theorem edit_matched
    (h : change .matched (("include", .string "p") :: matched)
      (("include", .string "p") :: matched')) :
    Slot.document.Edit change (document more matched) (document more matched') :=
  have hlead : Slot.rule.Edit change _ _ :=
    @Slot.Edit.member change .rule [("name", .string "lead")] [] "match" _ _ (.here h)
  have hpage : Slot.rule.Edit change _ _ :=
    @Slot.Edit.member change .rule [("name", .string "page"), ("match", .string "main")] [] "rules"
      _ _ (@Slot.Edit.item change .rules [] [] _ _ hlead)
  @Slot.Edit.member change .document [_] [] "rules" _ _
    (@Slot.Edit.item change .rules [] [] _ _ hpage)

end News

/-- An empty description, an author that is null and an empty `exclude` are dropped, one after
the other. None of them is a flag, so the same document is read. -/
theorem news_without_empty_fields :
    RuleDocument.read (News.document [("description", .string ""), ("author", .null)]
        [("exclude", .bool false)]) = RuleDocument.read (News.document [] []) ∧
      (RuleDocument.read (News.document [] [])).isOk = true := by
  let allowed (key : String) (value : Json) : Prop :=
    key ∉ ["outerNode", "keepBasicMarkup"] ∧ (key = "author" → value = .null)
  have hdescription : Slot.document.Edit (Slot.Drop allowed)
      (News.document [("description", .string ""), ("author", .null)] [("exclude", .bool false)])
      (News.document [("author", .null)] [("exclude", .bool false)]) :=
    News.edit_described
      (@Slot.Drop.mk _ .info _ "description" _ rfl (by decide) rfl .empty ⟨by decide, nofun⟩)
  have hauthor : Slot.document.Edit (Slot.Drop allowed)
      (News.document [("author", .null)] [("exclude", .bool false)])
      (News.document [] [("exclude", .bool false)]) :=
    News.edit_described
      (@Slot.Drop.mk _ .info _ "author" _ rfl (by decide) rfl .null ⟨by decide, fun _ => rfl⟩)
  have hexclude : Slot.document.Edit (Slot.Drop allowed)
      (News.document [] [("exclude", .bool false)]) (News.document [] []) :=
    News.edit_matched
      (@Slot.Drop.mk _ .matched _ "exclude" _ rfl (by decide) rfl .false ⟨by decide, nofun⟩)
  refine ⟨?_, by decide +kernel⟩
  rcases empty_fields_count_as_absent allowed (fun _ h => h.2 rfl)
      (.head hdescription (.head hauthor (.single hexclude))) with heq | ⟨e, -, h⟩
  · exact heq
  · obtain ⟨field, key, value, -, hflag, hallowed, -⟩ := h
    exact (hallowed.1 hflag).elim

/-- A flag whose value is an empty text is refused, and an author whose name is empty is kept. -/
theorem empty_flag_and_empty_author_count :
    (Slot.document.Edit (Slot.Drop fun _ _ => True)
        (News.document [] [("outerNode", .string "")]) (News.document [] []) ∧
      RuleDocument.read (News.document [] [("outerNode", .string "")]) ≠
        RuleDocument.read (News.document [] [])) ∧
    (Slot.document.Edit (Slot.Drop fun _ _ => True)
        (News.document [("author", .string "")] []) (News.document [] []) ∧
      RuleDocument.read (News.document [("author", .string "")] []) ≠
        RuleDocument.read (News.document [] [])) := by
  refine ⟨⟨News.edit_matched
      (@Slot.Drop.mk _ .matched _ "outerNode" _ rfl (by decide) rfl .empty trivial), fun h => ?_⟩,
    News.edit_described
      (@Slot.Drop.mk _ .info _ "author" _ rfl (by decide) rfl .empty trivial), fun h => ?_⟩
  · have hoks := congrArg Except.isOk h
    revert hoks
    decide +kernel
  · have hauthors := congrArg (fun d => d.toOption.map (·.info.author.name)) h
    revert hauthors
    decide +kernel

end PageRecords
