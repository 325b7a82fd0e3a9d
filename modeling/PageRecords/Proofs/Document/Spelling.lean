import Mathlib.Logic.Relation
import PageRecords.Proofs.Document.SlotsAlike

/-!
# Spelling, order and extra keys

Some fields have two spellings, the parameters of a redirect one of them a level further down.
A document that has each field in one spelling is read as the same document in every other, in
any order of its keys, and with any keys beside those that are read: `rearranged_is_read_alike`.
What an author holds beside a name is data, and so are the parameters of a redirect; their
entries are not rearranged. A fault may be named after another spelling, so nothing is said of
faults.
-/

namespace PageRecords

open Json (Members)

variable {p : Slot} {o o' : Members} {key key' name : String} {value : Json}

-- --------------------------------------------------------------------
-- Rearranged objects
-- --------------------------------------------------------------------

/-- An object with one key spelled in another way. -/
def Json.Members.respell (o : Members) (key key' : String) : Members :=
  o.map fun m => if m.1 = key then (key', m.2) else m

namespace Slot

/-- An object is written in another way. -/
inductive Rearranged : Slot → Members → Members → Prop
  /-- A field is respelled, where the object has it in no other spelling. -/
  | respelled {p : Slot} {o : Members} {field : List String × Slot} {key key' : String}
      (hfield : field ∈ p.fields) (hkey : key ∈ field.1) (hkey' : key' ∈ field.1)
      (hne : key ≠ key') (honly : ∀ other ∈ field.1, other ≠ key → o.get? other = none) :
      Rearranged p o (o.respell key key')
  /-- The parameters of a redirect move out of its query. A query without them may be left. -/
  | moved {o o' q : Members} {params : Json} (hquery : o.get? "query" = some (.object q))
      (hset : q.get? "setParams" = some params) (honly : o.get? "requiredQueryParams" = none)
      (hparams : o'.get? "requiredQueryParams" = some params)
      (hleft : ∀ left, o'.get? "query" = some left →
        ∃ q' : Members, left = .object q' ∧ q'.get? "setParams" = none) :
      Rearranged .redirect o o'
  | reordered {p : Slot} {o o' : Members} (hp : p.ordered = false) (hkeys : (o.map (·.1)).Nodup)
      (h : o.Perm o') : Rearranged p o o'
  /-- A key is added that is not read. -/
  | added {p : Slot} {before after : Members} {key : String} {value : Json}
      (hp : p.ordered = false) (hkey : key ∉ p.keys) :
      Rearranged p (before ++ after) (before ++ (key, value) :: after)

end Slot

namespace Json

theorem get?_respell (hne : key ≠ key') (hfree : o.get? key' = none) (name : String) :
    (o.respell key key').get? name =
      if name = key' then o.get? key else if name = key then none else o.get? name := by
  unfold Members.respell
  induction o with
  | nil => simp [Members.get?]
  | cons m rest ih =>
    obtain ⟨first, value⟩ := m
    rw [get?_cons] at hfree
    split at hfree
    · cases hfree
    · next hfirst' =>
      rw [List.map_cons]
      by_cases hfirst : first = key
      · subst hfirst
        rw [if_pos rfl, get?_cons, ih hfree, get?_cons, get?_cons, if_pos rfl]
        split <;> simp_all
      · rw [if_neg hfirst, get?_cons, ih hfree, get?_cons, get?_cons, if_neg (Ne.symm hfirst)]
        split
        · next h => simp [h, hfirst, Ne.symm hfirst']
        · rfl

/-- Under distinct keys, an object holds the same in every order. -/
theorem get?_of_perm (h : o.Perm o') (hkeys : (o.map (·.1)).Nodup) (name : String) :
    o.get? name = o'.get? name := by
  induction h with
  | nil => rfl
  | cons m h ih =>
    obtain ⟨key, value⟩ := m
    rw [get?_cons, get?_cons, ih (List.nodup_cons.mp hkeys).2]
  | swap m m' rest =>
    obtain ⟨key, value⟩ := m
    obtain ⟨key', value'⟩ := m'
    have hne : key' ≠ key := by
      rintro rfl
      simp at hkeys
    simp only [get?_cons]
    split
    · next h => rw [if_neg (h ▸ hne)]
    · rfl
  | trans h h' ih ih' =>
    exact (ih hkeys).trans (ih' (((h.map _).nodup_iff).mp hkeys))

/-- What is found under spellings of which only one can be there. -/
theorem lookup?_of_only {keys : List String} (hkey : key ∈ keys)
    (honly : ∀ other ∈ keys, other ≠ key → o.get? other = none) :
    o.lookup? keys = ((o.get? key).filter (·.isPresent)).map fun value => (key, value) := by
  cases hfound : o.lookup? keys with
  | none =>
    have hsilent := lookup?_eq_none_iff.mp hfound key hkey
    cases hget : o.get? key with
    | none => rfl
    | some value => simp [Option.filter, isPresent_eq_false_iff.mpr (hsilent value hget)]
  | some found =>
    obtain ⟨other, value⟩ := found
    obtain ⟨hother, hget, hpresent⟩ := lookup?_some hfound
    have heq : other = key := by
      by_contra hne
      cases (honly other hother hne).symm.trans hget
    subst heq
    simp [hget, Option.filter, hpresent]

theorem lookup?_silent (hget : o.get? key = some value) (h : value.isPresent = false) :
    o.lookup? [key] = none := by
  rw [lookup?_of_only List.mem_cons_self (by simp), hget]
  simp [Option.filter, h]

end Json

-- --------------------------------------------------------------------
-- Reading rearranged objects
-- --------------------------------------------------------------------

/-- The same document or none, whatever the fault. -/
def upToFaults : Comparison := ⟨False, fun _ => False⟩

/-- Where faults do not count, no field is told apart from another. -/
theorem upToFaults_fields (f f' : Field) : upToFaults.Fields f f' := False.elim

namespace Slot

theorem found_alike_of_value {q : Slot} {found found' : Option (String × Json)}
    (h : found.map (·.2) = found'.map (·.2)) :
    Option.Rel (FoundAlike upToFaults (q.ReadAlike upToFaults)) found found' := by
  cases found with
  | none =>
    cases found' with
    | none => exact .none
    | some m' => cases h
  | some m =>
    cases found' with
    | none => cases h
    | some m' =>
      obtain ⟨key, value⟩ := m
      obtain ⟨key', value'⟩ := m'
      obtain rfl : value = value' := Option.some.inj h
      exact .some ⟨False.elim, readAlike_refl _ _ _⟩

/-- Objects that hold the same under the keys that are read. -/
theorem readAlike_of_get? (hp : p.ordered = false) (h : ∀ key ∈ p.keys, o.get? key = o'.get? key) :
    p.ReadAlike upToFaults (.object o) (.object o') := by
  refine readAlike_object (agree_of_get? (fun key hkey => ?_) (by simp [hp]) fun _ => False.elim)
  rw [h key hkey]
  cases o'.get? key with
  | none => exact .none
  | some value => exact .some (readAlike_refl _ _ _)

theorem ordered_eq_false : ∀ field ∈ p.fields, ∀ key ∈ field.1, ∀ key' ∈ field.1, key ≠ key' →
    p.ordered = false := by
  cases p <;> decide

theorem readAlike_of_respelled {field : List String × Slot} (hfield : field ∈ p.fields)
    (hkey : key ∈ field.1) (hkey' : key' ∈ field.1) (hne : key ≠ key')
    (honly : ∀ other ∈ field.1, other ≠ key → o.get? other = none) :
    p.ReadAlike upToFaults (.object o) (.object (o.respell key key')) := by
  have hget := Json.get?_respell hne (honly key' hkey' hne.symm)
  have hother (other) (h : other ∈ p.fields) (hdiff : field ≠ other) :
      ∀ name ∈ other.1, (o.respell key key').get? name = o.get? name := by
    intro name hname
    have hnot : name ∉ field.1 := fun hmem =>
      hdiff (eq_of_mem_keys field hfield other h name hmem hname)
    rw [hget, if_neg (ne_of_mem_of_not_mem hkey' hnot).symm,
      if_neg (ne_of_mem_of_not_mem hkey hnot).symm]
  have hsingle {name : String} {q : Slot} (h : ([name], q) ∈ p.fields) :
      (o.respell key key').get? name = o.get? name := by
    refine hother _ h ?_ name List.mem_cons_self
    rintro rfl
    exact hne ((List.mem_singleton.mp hkey).trans (List.mem_singleton.mp hkey').symm)
  refine readAlike_object ⟨fun other hmem => found_alike_of_value ?_, fun name hflag => ?_, ?_,
    by simp [ordered_eq_false field hfield key hkey key' hkey' hne], fun _ => False.elim⟩
  · by_cases hsame : field = other
    · subst hsame
      have honly' : ∀ other ∈ field.1, other ≠ key' → (o.respell key key').get? other = none := by
        intro other hmem hne'
        rw [hget, if_neg hne']
        split
        · rfl
        · next hne => exact honly other hmem hne
      rw [Json.lookup?_of_only hkey honly, Json.lookup?_of_only hkey' honly', hget, if_pos rfl,
        Option.map_map, Option.map_map]
      rfl
    · rw [Json.lookup?_congr (hother other hmem hsame)]
  · rw [hsingle (mem_fields_of_flag name hflag)]
    exact fun f f' hf => flag_alike _ _ _ (hf.sameKey name)
  · rintro rfl
    rw [hsingle (show (["author"], Slot.author) ∈ info.fields by decide)]
    exact author_alike _

/-- The parameters are read where they stand, and a redirect without them is refused. -/
theorem readAlike_of_moved {q : Members} {params : Json}
    (hquery : o.get? "query" = some (.object q))
    (hset : q.get? "setParams" = some params) (honly : o.get? "requiredQueryParams" = none)
    (hparams : o'.get? "requiredQueryParams" = some params)
    (hleft : ∀ left, o'.get? "query" = some left →
      ∃ q' : Members, left = .object q' ∧ q'.get? "setParams" = none) :
    Slot.redirect.ReadAlike upToFaults (.object o) (.object o') := by
  refine ⟨rfl, fun f f' _ => ?_⟩
  have hone : o.lookup? ["requiredQueryParams"] = none := Json.lookup?_absent honly []
  have hfound : o.lookup? ["query"] = some ("query", .object q) :=
    Json.lookup?_present hquery rfl []
  rw [Redirect.read_object, Redirect.read_object, hone, hfound]
  dsimp only [Redirect.readQuery, Json.asObject]
  rw [ok_bind]
  cases hpresent : params.isPresent with
  | true =>
    rw [Json.lookup?_present hset hpresent, Json.lookup?_present hparams hpresent]
    exact (readAlike_refl _ .params params).reads _ _ (upToFaults_fields _ _)
  | false =>
    rw [Json.lookup?_silent hset hpresent, Json.lookup?_silent hparams hpresent]
    cases hrest : o'.lookup? ["query"] with
    | none => exact .error False.elim
    | some found =>
      obtain ⟨key, left⟩ := found
      obtain ⟨hkey, hget, -⟩ := Json.lookup?_some hrest
      obtain rfl := List.mem_singleton.mp hkey
      obtain ⟨q', rfl, hnone⟩ := hleft left hget
      dsimp only [Redirect.readQuery, Json.asObject]
      rw [ok_bind, Json.lookup?_absent hnone]
      exact .error False.elim

theorem readAlike_of_rearranged (h : p.Rearranged o o') :
    p.ReadAlike upToFaults (.object o) (.object o') := by
  cases h with
  | respelled hfield hkey hkey' hne honly =>
    exact readAlike_of_respelled hfield hkey hkey' hne honly
  | moved hquery hset honly hparams hleft =>
    exact readAlike_of_moved hquery hset honly hparams hleft
  | reordered hp hkeys h => exact readAlike_of_get? hp fun name _ => Json.get?_of_perm h hkeys name
  | added hp hkey =>
    refine readAlike_of_get? hp fun name hname => ?_
    rw [Json.get?_append, Json.get?_append, Json.get?_cons,
      if_neg (ne_of_mem_of_not_mem hname hkey)]

end Slot

-- --------------------------------------------------------------------
-- Documents
-- --------------------------------------------------------------------

/-- Objects of a document may be written in another way, anywhere and as many as one likes:
either none of the documents is read, or all are read as the same one. -/
theorem rearranged_is_read_alike {raw raw' : Json}
    (h : Relation.EqvGen (Slot.document.Edit Slot.Rearranged) raw raw') (d : RuleDocument) :
    RuleDocument.read raw = .ok d ↔ RuleDocument.read raw' = .ok d := by
  induction h with
  | rel raw raw' hedit =>
    have halike : Alike upToFaults Eq (RuleDocument.read raw) (RuleDocument.read raw') :=
      (Slot.readAlike_of_edit (fun _ _ _ => Slot.readAlike_of_rearranged) hedit).reads
    generalize RuleDocument.read raw = x, RuleDocument.read raw' = y at halike
    cases halike with
    | ok h => rw [h]
    | error => simp
    | excused h => exact h.elim
  | refl => rfl
  | symm _ _ _ ih => exact ih.symm
  | trans _ _ _ _ _ ih ih' => exact ih.trans ih'

namespace Gazette

/-- A document put together from its description, its rule and its redirect. -/
def document (info rule redirect : Members) : Json :=
  .object [("info", .object info), ("rules", .array [.object rule]), ("redirect", .object redirect)]

def info : Members :=
  [("name", .string "gazette"), ("type", .string "article"), ("domain", .string "gazette.org"),
    ("suggestedRegex", .string "gazette")]

/-- The pattern first, the type in the other spelling, and a key that is not read. -/
def info' : Members :=
  [("suggestedRegex", .string "gazette"), ("name", .string "gazette"),
    ("extractionType", .string "article"), ("domain", .string "gazette.org"),
    ("editor", .string "Ann")]

def rule (subRules : String) : Members :=
  [("name", .string "page"), ("match", .string "main"),
    (subRules, .array [.object [("name", .string "lead"), ("match", .string "p")]])]

def params : Json := .object [("full", .string "1")]

variable {first second rule redirect : Members}

theorem edit_info (h : Slot.info.Rearranged first second) :
    Relation.EqvGen (Slot.document.Edit Slot.Rearranged) (document first rule redirect)
      (document second rule redirect) :=
  .rel _ _ (@Slot.Edit.member _ .document [] _ "info" _ _ (.here h))

theorem edit_rule (h : Slot.rule.Rearranged first second) :
    Relation.EqvGen (Slot.document.Edit Slot.Rearranged) (document info' first redirect)
      (document info' second redirect) :=
  .rel _ _ (@Slot.Edit.member _ .document [_] _ "rules" _ _
    (@Slot.Edit.item _ .rules [] [] _ _ (.here h)))

theorem edit_redirect (h : Slot.redirect.Rearranged first second) :
    Relation.EqvGen (Slot.document.Edit Slot.Rearranged) (document info' rule first)
      (document info' rule second) :=
  .rel _ _ (@Slot.Edit.member _ .document [_, _] [] "redirect" _ _ (.here h))

theorem edit_info_to_info' :
    Relation.EqvGen (Slot.document.Edit Slot.Rearranged) (document info rule redirect)
      (document info' rule redirect) := by
  have htype : Slot.info.Rearranged info (info.respell "type" "extractionType") :=
    @Slot.Rearranged.respelled .info info (["type", "extractionType"], .plain) _ _ (by decide)
      (by decide) (by decide) (by decide) (by decide)
  have horder : Slot.info.Rearranged (info.respell "type" "extractionType") (info'.take 4) :=
    .reordered rfl (by decide) (@List.perm_append_comm _ ((info'.drop 1).take 3) (info'.take 1))
  have hextra : Slot.info.Rearranged (info'.take 4) info' :=
    @Slot.Rearranged.added .info (info'.take 4) [] "editor" (.string "Ann") rfl (by decide)
  exact .trans _ _ _ (edit_info htype) (.trans _ _ _ (edit_info horder) (edit_info hextra))

end Gazette

/-- The same document is read in both spellings. -/
theorem gazette_is_read_in_both_spellings : ∃ d,
    RuleDocument.read (Gazette.document Gazette.info (Gazette.rule "rules")
      [("query", .object [("setParams", Gazette.params)])]) = .ok d ∧
    RuleDocument.read (Gazette.document Gazette.info' (Gazette.rule "subRules")
      [("requiredQueryParams", Gazette.params)]) = .ok d := by
  have hok : (RuleDocument.read (Gazette.document Gazette.info (Gazette.rule "rules")
      [("query", .object [("setParams", Gazette.params)])])).isOk = true := by
    decide +kernel
  have hrules : Slot.rule.Rearranged (Gazette.rule "rules") (Gazette.rule "subRules") :=
    @Slot.Rearranged.respelled .rule _ (["rules", "subRules"], .rules) "rules" "subRules"
      (by decide) (by decide) (by decide) (by decide) (by decide)
  have hparams : Slot.redirect.Rearranged [("query", .object [("setParams", Gazette.params)])]
      [("requiredQueryParams", Gazette.params)] :=
    .moved rfl rfl rfl rfl nofun
  cases hread : RuleDocument.read (Gazette.document Gazette.info (Gazette.rule "rules")
      [("query", .object [("setParams", Gazette.params)])]) with
  | error e => simp [hread, Except.isOk, Except.toBool] at hok
  | ok d =>
    refine ⟨d, rfl, ?_⟩
    exact (rearranged_is_read_alike (.trans _ _ _ Gazette.edit_info_to_info'
      (.trans _ _ _ (Gazette.edit_rule hrules) (Gazette.edit_redirect hparams))) d).mp hread

end PageRecords
