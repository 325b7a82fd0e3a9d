import Mathlib.Data.List.Infix
import PageRecords.Dom.Markup
import PageRecords.Html.Lexer

/-!
# How characters are spelled

A character of text outside tags stands for itself or is spelled by a named reference. A name is
read as far as one reaches (`longestName?_eq`), so what follows the semicolon makes no difference.
-/

namespace PageRecords.Html

namespace NamedChar

variable {best : String × List Nat} {entries : List (String × List Nat)} {cs : List Char}

/-- The entry kept when one of two is to be chosen. -/
def longer (cs : List Char) (best : Option (String × List Nat)) (entry : String × List Nat) :
    Option (String × List Nat) :=
  if entry.1.toList.isPrefixOf cs && best.all (fun b => b.1.length < entry.1.length) then some entry
  else best

/-- An entry is kept if no other one that fits is as long. -/
theorem foldl_longer (hfits : best.1.toList.isPrefixOf cs = true)
    (honly : ∀ e ∈ entries, e.1.toList.isPrefixOf cs = true → best.1.length ≤ e.1.length → e = best)
    (sofar : Option (String × List Nat)) (hsofar : sofar = some best ∨
      best ∈ entries ∧ ∀ b ∈ sofar, b.1.length < best.1.length) :
    entries.foldl (longer cs) sofar = some best := by
  induction entries generalizing sofar with
  | nil =>
    rcases hsofar with rfl | ⟨hmem, -⟩
    · rfl
    · cases hmem
  | cons e entries ih =>
    have he := honly e List.mem_cons_self
    refine ih (fun e' he' => honly e' (List.mem_cons_of_mem _ he')) _ ?_
    rw [longer]
    rcases hsofar with rfl | ⟨hmem, hshorter⟩
    · left
      split
      · next hlonger =>
        rw [Bool.and_eq_true, Option.all_some, decide_eq_true_eq] at hlonger
        rw [he hlonger.1 (Nat.le_of_lt hlonger.2)]
      · rfl
    · by_cases hbest : e = best
      · left
        subst hbest
        have hall : sofar.all (fun b => b.1.length < e.1.length) = true := by
          rw [Option.all_eq_true]
          exact fun b hb => decide_eq_true (hshorter b hb)
        rw [hfits, hall]
        rfl
      · right
        refine ⟨(List.mem_cons.mp hmem).resolve_left (Ne.symm hbest), ?_⟩
        split
        · next hlonger =>
          rw [Bool.and_eq_true] at hlonger
          rintro b ⟨⟩
          exact Nat.lt_of_not_le fun hle => hbest (he hlonger.1 hle)
        · exact hshorter

end NamedChar

-- --------------------------------------------------------------------
-- Names
-- --------------------------------------------------------------------

/-- A name with no other name that goes on from it. -/
structure IsFinal (name : String) (codes : List Nat) (first : Char) (more : List Char) : Prop where
  toList : name.toList = first :: more
  notNumber : first ≠ '#'
  mem : (name, codes) ∈ NamedChar.startingWith first
  only : ∀ e ∈ NamedChar.startingWith first, name.toList.isPrefixOf e.1.toList = true →
    e = (name, codes)

variable {name : String} {codes : List Nat} {first c : Char} {more w : List Char}

theorem longestName?_eq (h : IsFinal name codes first more) (rest : List Char) :
    longestName? (name.toList ++ rest) = some (name, codes) := by
  have hfits : name.toList.isPrefixOf (name.toList ++ rest) = true := by simp
  have honly : ∀ e ∈ NamedChar.startingWith first,
      e.1.toList.isPrefixOf (name.toList ++ rest) = true → name.length ≤ e.1.length →
        e = (name, codes) := by
    intro e he hprefix hlength
    rw [List.isPrefixOf_iff_prefix] at hfits hprefix
    refine h.only e he ?_
    rw [List.isPrefixOf_iff_prefix]
    exact List.prefix_of_prefix_length_le hfits hprefix hlength
  have hkept := NamedChar.foldl_longer hfits honly none (.inr ⟨h.mem, by simp⟩)
  rw [h.toList] at hkept ⊢
  exact hkept

theorem reference_eq (h : IsFinal name codes first more) (rest : List Char) :
    reference false (name.toList ++ rest) = (codes.map charOfReference, rest) := by
  have hlongest := longestName?_eq h rest
  have hnamed : namedReference? false (name.toList ++ rest) =
      some (codes.map charOfReference, rest) := by
    have hrest : (name.toList ++ rest).drop name.length = rest := List.drop_left
    rw [namedReference?, hlongest]
    simp [hrest]
  have hreference : reference? false (name.toList ++ rest) =
      namedReference? false (name.toList ++ rest) := by
    rw [h.toList, List.cons_append, reference?]
    · intro cs hcs
      exact absurd (List.cons.inj hcs).1 h.notNumber
    · intro cs hcs
      exact absurd (List.cons.inj hcs).1 h.notNumber
    · intro cs hcs
      exact absurd (List.cons.inj hcs).1 h.notNumber
  rw [reference, hreference, hnamed]
  rfl

-- --------------------------------------------------------------------
-- Spellings
-- --------------------------------------------------------------------

/-- The character is read off its spelling, whatever follows. -/
def Spells (c : Char) (w : List Char) : Prop :=
  ∀ lastStarted rest, lex ⟨lastStarted, false⟩ .data (w ++ rest) = ⟨[.char c], rest, .data⟩

theorem Spells.ne_nil (h : Spells c w) : w ≠ [] := by
  rintro rfl
  have hstop := congrArg Lexed.tokens (h "" [])
  simp [lex] at hstop

theorem spells_self (hmarkup : c ≠ '<') (hreference : c ≠ '&') : Spells c [c] := by
  intro lastStarted rest
  simp [lex, readData, hmarkup, hreference]

theorem spells_name {code : Nat} (h : IsFinal name [code] first more)
    (hchar : charOfReference code = c) (hw : w = '&' :: name.toList) : Spells c w := by
  intro lastStarted rest
  rw [hw, List.cons_append, lex, readData, if_pos rfl, reference_eq h, List.map_singleton, hchar]
  rfl

theorem isFinal_amp : IsFinal "amp;" [0x26] 'a' "mp;".toList :=
  ⟨by decide, by decide, by decide +kernel, by decide +kernel⟩

theorem isFinal_lt : IsFinal "lt;" [0x3c] 'l' "t;".toList :=
  ⟨by decide, by decide, by decide +kernel, by decide +kernel⟩

theorem isFinal_gt : IsFinal "gt;" [0x3e] 'g' "t;".toList :=
  ⟨by decide, by decide, by decide +kernel, by decide +kernel⟩

theorem isFinal_nbsp : IsFinal "nbsp;" [0xa0] 'n' "bsp;".toList :=
  ⟨by decide, by decide, by decide +kernel, by decide +kernel⟩

/-- What a character of text is written as spells it. -/
theorem spells_escapeTextChar (c : Char) : Spells c (Dom.escapeTextChar c) := by
  rw [Dom.escapeTextChar]
  split
  · next h =>
    subst h
    exact spells_name isFinal_amp (by decide +kernel) (by decide +kernel)
  split
  · next h =>
    subst h
    exact spells_name isFinal_lt (by decide +kernel) (by decide +kernel)
  split
  · next h =>
    subst h
    exact spells_name isFinal_gt (by decide +kernel) (by decide +kernel)
  split
  · next h =>
    subst h
    exact spells_name isFinal_nbsp (by decide +kernel) (by decide +kernel)
  · next hamp hlt _ _ => exact spells_self hlt hamp

end PageRecords.Html
