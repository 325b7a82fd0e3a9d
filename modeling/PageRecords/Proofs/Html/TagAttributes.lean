import Mathlib.Data.List.Nodup
import PageRecords.Html.Lexer

/-!
# Attributes of tags

Reading a tag gives every attribute a name in lower case and keeps one attribute of each name
(`written_readAttributes`). Nothing else puts attributes into tokens, so they are like that in
every token of every page, however it is to be read (`written_lex`).
-/

namespace PageRecords

/-- An attribute of no vocabulary whose name is in lower case. -/
structure Dom.Attribute.IsOrdinary (a : Dom.Attribute) : Prop where
  space : a.space = .none
  name : a.name.toLower = a.name

instance (a : Dom.Attribute) : Decidable a.IsOrdinary :=
  decidable_of_iff (a.space = .none ∧ a.name.toLower = a.name)
    ⟨fun h => ⟨h.1, h.2⟩, fun h => ⟨h.space, h.name⟩⟩

namespace Html

open Dom (Attribute)

/-- Attributes as they stand in a tag. -/
structure Written (attributes : List Attribute) : Prop where
  ordinary : ∀ a ∈ attributes, a.IsOrdinary
  distinct : (attributes.map (·.name)).Nodup

/-- The attributes of a token are as in a tag. -/
def Token.Written : Token → Prop
  | .startTag tag => Html.Written tag.attributes
  | _ => True

variable {attributes : List Attribute} {cs : List Char} {s : String}

-- --------------------------------------------------------------------
-- Names
-- --------------------------------------------------------------------

theorem char_toLower_toLower (c : Char) : c.toLower.toLower = c.toLower := by
  by_cases h : c.val ≥ 'A'.val ∧ c.val ≤ 'Z'.val
  · have hval : c.toLower.val = c.val + ('a'.val - 'A'.val) := congrArg Char.val (dif_pos h)
    -- What an upper case letter becomes lies beyond them all.
    refine dif_neg ?_
    rw [hval]
    simp only [ge_iff_le, UInt32.le_iff_toNat_le, UInt32.toNat_add] at h ⊢
    simp at h ⊢
    omega
  · have hsame : c.toLower = c := dif_neg h
    rw [hsame, hsame]

theorem toList_toLower (s : String) : s.toLower.toList = s.toList.map Char.toLower :=
  String.toList_map

theorem toLower_toLower (s : String) : s.toLower.toLower = s.toLower := by
  have hchars : Char.toLower ∘ Char.toLower = Char.toLower := funext char_toLower_toLower
  rw [← String.toList_inj, toList_toLower, toList_toLower, List.map_map, hchars]

theorem toLower_nameChar (c : Char) : (nameChar c).toLower = nameChar c := by
  unfold nameChar
  split
  · rfl
  · exact char_toLower_toLower c

/-- Whatever stands in a tag, the name it gives an attribute is in lower case. -/
theorem toLower_attributeName (first : Char) (cs : List Char) :
    (attributeName first cs).1.toLower = (attributeName first cs).1 := by
  have hchars : (Char.toLower ∘ nameChar) = nameChar := funext toLower_nameChar
  rw [← String.toList_inj, toList_toLower, attributeName, String.toList_ofList, List.map_map,
    hchars]

-- --------------------------------------------------------------------
-- Tags
-- --------------------------------------------------------------------

theorem written_nil : Written [] := ⟨by simp, List.nodup_nil⟩

/-- An attribute is added only if no other has its name. -/
theorem Written.addAttribute (h : Written attributes) (hname : s.toLower = s)
    (value : List Char) : Written (addAttribute attributes s value) := by
  unfold Html.addAttribute
  split
  · exact h
  · next hnew =>
    have hfresh : s ∉ attributes.map (·.name) := by
      simpa [List.any_eq_true] using hnew
    refine ⟨?_, ?_⟩
    · intro a ha
      rcases List.mem_append.mp ha with ha | ha
      · exact h.ordinary a ha
      · rw [List.mem_singleton] at ha
        subst ha
        exact ⟨rfl, hname⟩
    · rw [List.map_append]
      exact h.distinct.append (List.nodup_singleton s) (by simpa using hfresh)

theorem Written.attributesFrom (h : Written attributes) (fuel : Nat)
    {found : List Attribute × Bool × List Char}
    (hfound : attributesFrom fuel attributes cs = some found) : Written found.1 := by
  induction fuel generalizing attributes cs with
  | zero => cases hfound
  | succ fuel ih =>
    unfold Html.attributesFrom at hfound
    split at hfound
    · cases hfound
    · cases hfound
      exact h
    · cases hfound
      exact h
    · exact ih h hfound
    · next c rest _ _ _ =>
      split at hfound
      · exact ih h hfound
      · -- With or without a value the attribute is added under the same name.
        have hadd := h.addAttribute (toLower_attributeName c rest)
        simp only at hfound
        split at hfound
        · exact ih (hadd _) hfound
        · exact ih (hadd _) hfound

theorem written_readAttributes {found : List Attribute × Bool × List Char}
    (h : readAttributes cs = some found) : Written found.1 :=
  written_nil.attributesFrom _ h

-- --------------------------------------------------------------------
-- Tokens
-- --------------------------------------------------------------------

/-- All tokens of a step are as in tags. -/
def Lexed.Written (l : Lexed) : Prop := ∀ t ∈ l.tokens, t.Written

variable {rest : List Char} {mode : TextMode}

theorem written_chars (cs : List Char) : Lexed.Written ⟨chars cs, rest, mode⟩ := by
  intro t ht
  obtain ⟨c, -, rfl⟩ := List.mem_map.mp ht
  trivial

theorem written_nothing : Lexed.Written ⟨[], rest, mode⟩ := fun _ ht => by cases ht

theorem written_token {t : Token} (ht : t.Written) : Lexed.Written ⟨[t], rest, mode⟩ :=
  List.forall_mem_singleton.mpr ht

theorem written_readStartTag (cs : List Char) : (readStartTag cs).Written := by
  unfold readStartTag
  simp only
  split
  · next h => exact written_token (written_readAttributes h)
  · exact written_nothing

theorem written_readEndTagFrom (name : String) (cs : List Char) :
    (readEndTagFrom name cs).Written := by
  unfold readEndTagFrom
  split
  · exact written_token trivial
  · exact written_nothing

theorem written_bogusComment (cs : List Char) : (bogusComment cs).1.Written := by
  unfold bogusComment
  trivial

theorem written_readDeclaration (foreign : Bool) (cs : List Char) :
    (readDeclaration foreign cs).Written := by
  unfold readDeclaration
  split
  · exact written_token trivial
  · split
    · exact written_token trivial
    · split
      · exact written_nothing
      · exact written_token (written_bogusComment _)

theorem written_readMarkup (foreign : Bool) (cs : List Char) :
    (readMarkup foreign cs).Written := by
  unfold readMarkup
  split
  · exact written_readDeclaration foreign _
  · exact written_token (written_bogusComment _)
  · split
    · exact written_chars _
    · exact written_nothing
    · split
      · exact written_readEndTagFrom _ _
      · exact written_token (written_bogusComment _)
  · split
    · exact written_readStartTag _
    · exact written_chars _
  · exact written_chars _

theorem written_readData (foreign : Bool) (c : Char) (rest : List Char) :
    (readData foreign c rest).Written := by
  unfold readData
  split
  · exact written_chars _
  · split
    · exact written_readMarkup foreign rest
    · exact written_chars [c]

theorem written_readRaw (mode : TextMode) (lastStarted : String) (c : Char) (rest : List Char) :
    (readRaw mode lastStarted c rest).Written := by
  unfold readRaw
  split
  · split
    · exact written_readEndTagFrom _ _
    · exact written_chars _
  · exact written_chars _

theorem written_readRcdata (lastStarted : String) (c : Char) (rest : List Char) :
    (readRcdata lastStarted c rest).Written := by
  unfold readRcdata
  split
  · exact written_chars _
  · exact written_readRaw _ _ _ _

theorem written_readScript (lastStarted : String) (c : Char) (rest : List Char) :
    (readScript lastStarted c rest).Written := by
  unfold readScript
  split
  · exact written_chars _
  · exact written_readRaw _ _ _ _

theorem written_readScriptEscaped (dashes : Nat) (lastStarted : String) (c : Char)
    (rest : List Char) : (readScriptEscaped dashes lastStarted c rest).Written := by
  unfold readScriptEscaped
  repeat' split
  all_goals first
    | exact written_chars _
    | exact written_readRaw _ _ _ _

theorem written_readScriptDoubleEscaped (dashes : Nat) (c : Char) (rest : List Char) :
    (readScriptDoubleEscaped dashes c rest).Written := by
  unfold readScriptDoubleEscaped
  repeat' split
  all_goals exact written_chars _

/-- However a page is read on, the attributes of the tokens are as in tags. -/
theorem written_lex (s : Surroundings) (mode : TextMode) (cs : List Char) :
    (lex s mode cs).Written := by
  unfold lex
  split
  · exact written_token trivial
  · cases mode with
    | data => exact written_readData _ _ _
    | rcdata => exact written_readRcdata _ _ _
    | rawtext => exact written_readRaw _ _ _ _
    | plaintext => exact written_chars _
    | cdata =>
      simp only
      split
      · exact written_nothing
      · exact written_chars _
    | script => exact written_readScript _ _ _
    | scriptEscaped dashes => exact written_readScriptEscaped _ _ _ _
    | scriptDoubleEscaped dashes => exact written_readScriptDoubleEscaped _ _ _

end Html

end PageRecords
