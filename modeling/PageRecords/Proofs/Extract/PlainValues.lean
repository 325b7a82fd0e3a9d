import Mathlib.Data.List.Forall2
import PageRecords.Extract.Rule
import PageRecords.Proofs.Html.BodyText

/-!
# Plain values

Literal values and the outputs of replacements are read as markup, and their text is kept. What
is plain text already, or text written as markup, is that text (`plain_text_is_kept`).
-/

namespace PageRecords

open Dom (Forest NodeId escapeText escapeTextChar)

namespace Html

variable {c d : Char} {t : String}

/-- Text that a page can hold as it is: with one kind of line break and no null character. -/
def IsText (t : String) : Prop := ∀ c ∈ t.toList, c ≠ '\r' ∧ c ≠ '\x00'

/-- Text in which nothing begins a tag or a reference. -/
def IsPlain (t : String) : Prop := IsText t ∧ ∀ c ∈ t.toList, c ≠ '<' ∧ c ≠ '&'

instance (t : String) : Decidable (IsText t) := List.decidableBAll _ t.toList

instance (t : String) : Decidable (IsPlain t) :=
  have : Decidable (∀ c ∈ t.toList, c ≠ '<' ∧ c ≠ '&') := List.decidableBAll _ t.toList
  inferInstanceAs (Decidable (_ ∧ _))

theorem ne_return_of_mem_escapeTextChar (hc : c ≠ '\r') (hd : d ∈ escapeTextChar c) : d ≠ '\r' := by
  have hnames : ∀ name ∈ ["&amp;", "&lt;", "&gt;", "&nbsp;"], d ∈ name.toList → d ≠ '\r' := by
    intro name hname hd
    have hall : ["&amp;", "&lt;", "&gt;", "&nbsp;"].all (·.toList.all (· != '\r')) = true := by
      decide +kernel
    exact bne_iff_ne.mp (List.all_eq_true.mp (List.all_eq_true.mp hall name hname) d hd)
  rw [escapeTextChar] at hd
  split at hd
  · exact hnames _ (by simp) hd
  split at hd
  · exact hnames _ (by simp) hd
  split at hd
  · exact hnames _ (by simp) hd
  split at hd
  · exact hnames _ (by simp) hd
  · exact List.mem_singleton.mp hd ▸ hc

/-- Text written as markup is read back. -/
theorem plainText_escapeText (h : IsText t) : plainText (escapeText t) = t := by
  have hreturn : ∀ d ∈ t.toList.flatMap escapeTextChar, d ≠ '\r' := by
    intro d hd
    obtain ⟨c, hc, hd⟩ := List.mem_flatMap.mp hd
    exact ne_return_of_mem_escapeTextChar (h c hc).1 hd
  have hspelled := plainText_spelled (fun c _ => spells_escapeTextChar c) (fun c hc => (h c hc).2)
    hreturn
  rwa [String.ofList_toList] at hspelled

/-- Plain text is its own markup. -/
theorem plainText_of_isPlain (h : IsPlain t) : plainText t = t := by
  have hsame : t.toList.flatMap (fun c => [c]) = t.toList := List.flatMap_singleton' _
  have hspelled := plainText_spelled (fun c hc => spells_self (h.2 c hc).1 (h.2 c hc).2)
    (fun c hc => (h.1 c hc).2) (hsame.symm ▸ fun c hc => (h.1 c hc).1)
  rwa [hsame, String.ofList_toList] at hspelled

end Html

open Html (IsText IsPlain plainText)

variable {values : List String}

theorem map_text_inj {as bs : List String} (h : as.map Value.text = bs.map Value.text) : as = bs :=
  List.map_injective_iff.mpr (fun _ _ => Value.text.inj) h

/-- A value without a match stays. The text of an output takes the place of one with a match, and
of a plain output that is all of it. -/
theorem applyTo_some (rep : Replacement) (v : String) :
    match rep.run? v with
    | none => Replacement.applyTo (some rep) v = v
    | some output => Replacement.applyTo (some rep) v = plainText output ∧
        (IsPlain output → Replacement.applyTo (some rep) v = output) := by
  cases hrun : rep.run? v with
  | none => rw [Replacement.applyTo, Option.bind_some, hrun]
  | some output =>
    have happly : Replacement.applyTo (some rep) v = plainText output := by
      rw [Replacement.applyTo, Option.bind_some, hrun]
    exact ⟨happly, fun hplain => happly.trans (Html.plainText_of_isPlain hplain)⟩

theorem replaced_none (values : List String) : Value.replaced none values = values.map .text := rfl

namespace Rule

/-- With a replacement, a rule gives for texts what the replacement makes of them. -/
theorem evaluateAt_replacement (path : List String) (context : NodeId) (f : Forest) (r : Rule)
    (rep : Replacement)
    (hresult : (evaluateAt path context f { r with replacement := none }).result =
      .ok (values.map .text)) :
    (evaluateAt path context f { r with replacement := some rep }).result =
      .ok (Value.replaced (some rep) values) := by
  obtain ⟨name, source, subRules, replacement⟩ := r
  have hreplaced : ∀ vs : List String, (Except.ok (Value.replaced none vs) : Except BadSelector _) =
      .ok (values.map .text) → (Except.ok (Value.replaced (some rep) vs) : Except BadSelector _) =
        .ok (Value.replaced (some rep) values) := by
    intro vs hvs
    rw [replaced_none, Except.ok.injEq] at hvs
    rw [map_text_inj hvs]
  cases source with
  | literals vs => exact hreplaced _ hresult
  | attr a => exact hreplaced _ hresult
  | match_ spec =>
    simp only [evaluateAt] at hresult ⊢
    rcases h : (spec.evaluate context !subRules.isEmpty).run.run f with ⟨_ | m, g⟩
    · rw [h] at hresult
      cases hresult
    · rw [h] at hresult
      cases m with
      | values vs => exact hreplaced _ hresult
      | nodes ids =>
        -- The values of sub-rules are records, so there are none.
        simp only [Except.ok.injEq] at hresult ⊢
        generalize (evaluateEach _ g ids).result = records at hresult ⊢
        cases records with
        | nil =>
          rw [List.map_nil, eq_comm, List.map_eq_nil_iff] at hresult
          rw [hresult]
          rfl
        | cons record records => cases values <;> cases hresult

end Rule

/-- Text written as markup is the text of its markup, and plain text is its own. So of the literal
values of a rule each gives its text, and stays as it is if it is plain. With a replacement, of
the values that a rule gives without each stays if it has no match; otherwise the text of the
replacement's output takes its place, and a plain output does so as it is. -/
theorem plain_text_is_kept :
    (∀ t, IsText t → plainText (escapeText t) = t) ∧
    (∀ t, IsPlain t → plainText t = t) ∧
    (∀ path context f (r : Rule) (values : List String), r.source = .literals values →
      r.replacement = none →
      ∃ kept : List String, (Rule.evaluateAt path context f r).result = .ok (kept.map .text) ∧
        List.Forall₂ (fun v k => k = plainText v ∧ (IsPlain v → k = v)) values kept) ∧
    ∀ path context f (r : Rule) (values : List String) (rep : Replacement),
      (Rule.evaluateAt path context f { r with replacement := none }).result =
        .ok (values.map .text) →
      ∃ kept : List String,
        (Rule.evaluateAt path context f { r with replacement := some rep }).result =
          .ok (kept.map .text) ∧
        List.Forall₂ (fun v k =>
          match rep.run? v with
          | none => k = v
          | some output => k = plainText output ∧ (IsPlain output → k = output)) values kept := by
  refine ⟨fun _ => Html.plainText_escapeText, fun _ => Html.plainText_of_isPlain, ?_, ?_⟩
  · rintro path context f ⟨name, source, subRules, replacement⟩ values rfl rfl
    refine ⟨values.map plainText, by rw [Rule.evaluateAt, replaced_none], ?_⟩
    rw [List.forall₂_map_right_iff, List.forall₂_same]
    exact fun v _ => ⟨rfl, Html.plainText_of_isPlain⟩
  · intro path context f r values rep hresult
    refine ⟨values.map (Replacement.applyTo (some rep)), ?_, ?_⟩
    · rw [Rule.evaluateAt_replacement path context f r rep hresult, Value.replaced, List.map_map]
      rfl
    · rw [List.forall₂_map_right_iff, List.forall₂_same]
      exact fun v _ => applyTo_some rep v

/-- Finds a comma, and puts a semicolon in its place. -/
def semicolon : Replacement where
  find := ⟨",", .set (.singleton ',')⟩
  output := " > ;"

theorem semicolon_is_kept :
    IsText "a<b> & \u00a0c\n" ∧ plainText (escapeText "a<b> & \u00a0c\n") = "a<b> & \u00a0c\n" ∧
      IsPlain " x > y\n" ∧ plainText " x > y\n" = " x > y\n" ∧
      (Rule.evaluateAt [] 0 ⟨[], 0⟩
        ⟨"part", .literals [",", "<i>b </i>"], [], some semicolon⟩).result =
        .ok [.text " > ;", .text "b "] := by
  obtain ⟨hescaped, hplain, hliteral, hreplaced⟩ := plain_text_is_kept
  have htext : IsText "a<b> & \u00a0c\n" := by decide +kernel
  have hmarkup : IsPlain " x > y\n" := by decide +kernel
  have hitalic : plainText "<i>b </i>" = "b " := by decide +kernel
  have hcomma : semicolon.run? "," = some " > ;" := by cbv
  have hother : semicolon.run? "b " = none := by cbv
  obtain ⟨kept, hresult, hkept⟩ :=
    hliteral [] 0 ⟨[], 0⟩ ⟨"part", .literals [",", "<i>b </i>"], [], none⟩ _ rfl rfl
  obtain _ | ⟨⟨-, hfirst⟩, _ | ⟨⟨hsecond, -⟩, _ | _⟩⟩ := hkept
  obtain rfl := hfirst (by decide)
  obtain rfl := hsecond.trans hitalic
  obtain ⟨kept, hresult, hkept⟩ :=
    hreplaced [] 0 ⟨[], 0⟩ ⟨"part", .literals [",", "<i>b </i>"], [], none⟩ _ semicolon hresult
  obtain _ | ⟨hfirst, _ | ⟨hsecond, _ | _⟩⟩ := hkept
  rw [hcomma] at hfirst
  rw [hother] at hsecond
  obtain rfl := hfirst.2 (by decide)
  obtain rfl := hsecond
  exact ⟨htext, hescaped _ htext, hmarkup, hplain _ hmarkup, hresult⟩

end PageRecords
