import PageRecords.Dom.Markup
import PageRecords.Html.Arena
import PageRecords.Html.Vocabulary
import PageRecords.Proofs.Html.TagAttributes

/-!
# Attributes of elements

An element of HTML has the attributes of its tag. Those of a foreign element are spelled anew:
some names get capitals, and some attributes a vocabulary of their own (`Foreign.Respelled`).
Either way no element has two attributes of one name in one vocabulary (`Suits`), and every
operation on an arena keeps that (`Arena.Sound`).
-/

namespace PageRecords.Html

open Dom (Space Tag Attribute)

/-- What tells the attributes of an element apart. -/
def key (a : Attribute) : Space × String := (a.space, a.name)

/-- Attributes of an element of that vocabulary that are not as in the tag. -/
inductive Foreign.Respelled : Space → Attribute → Prop
  | xlink {space : Space} {name : String} (value : String) (hspace : space ≠ .html)
    (hname : name ∈ xlinkNames) : Respelled space ⟨.xlink, name, value⟩
  | xml {space : Space} {name : String} (value : String) (hspace : space ≠ .html)
    (hname : name ∈ xmlNames) : Respelled space ⟨.xml, name, value⟩
  | xmlns {space : Space} {name : String} (value : String) (hspace : space ≠ .html)
    (hname : name ∈ ["xmlns", "xlink"]) : Respelled space ⟨.xmlns, name, value⟩
  | svg {name : String} (value : String) (hname : name ∈ svgAttributes) :
    Respelled .svg ⟨.none, name, value⟩
  | mathml {name : String} (value : String) (hname : name ∈ ["definitionURL"]) :
    Respelled .mathml ⟨.none, name, value⟩

/-- Attributes as an element can have them. -/
structure Suits (tag : Tag) (attributes : List Attribute) : Prop where
  distinct : (attributes.map key).Nodup
  spelled : ∀ a ∈ attributes, a.IsOrdinary ∨ Foreign.Respelled tag.space a

variable {space : Space} {tag : Tag} {name : String} {a : Attribute}
  {attributes old : List Attribute}

theorem Written.suits (h : Written attributes) : Suits tag attributes where
  distinct := .of_map Prod.snd (by rw [List.map_map]; exact h.distinct)
  spelled a ha := .inl (h.ordinary a ha)

-- --------------------------------------------------------------------
-- Foreign spelling
-- --------------------------------------------------------------------

theorem respell_cases (spellings : List String) (name : String) :
    respell spellings name = name ∨
      respell spellings name ∈ spellings ∧ (respell spellings name).toLower = name := by
  unfold respell
  cases h : spellings.find? fun s => s.toLower = name with
  | none => exact .inl rfl
  | some s => exact .inr ⟨List.mem_of_find?_eq_some h, by simpa using List.find?_some h⟩

/-- Where a name is given capitals, they are all that changes. -/
theorem respelled_attribute (ha : a.IsOrdinary) (space : Space) :
    respellAttribute space a = a ∨
      (respellAttribute space a).space = .none ∧
        (respellAttribute space a).name.toLower = a.name ∧
        Foreign.Respelled space (respellAttribute space a) := by
  obtain ⟨aspace, name, value⟩ := a
  obtain ⟨rfl, -⟩ := ha
  cases space with
  | svg =>
    rcases respell_cases svgAttributes name with h | ⟨hmem, hlower⟩
    · exact .inl (by rw [respellAttribute, h])
    · exact .inr ⟨rfl, hlower, .svg value hmem⟩
  | mathml =>
    rcases respell_cases ["definitionURL"] name with h | ⟨hmem, hlower⟩
    · exact .inl (by rw [respellAttribute, h])
    · exact .inr ⟨rfl, hlower, .mathml value hmem⟩
  | none | html | xlink | xml | xmlns => exact .inl rfl

/-- An attribute that is put in a vocabulary is still shown under its name. -/
theorem marked_attribute (ha : a.space = .none) (hspace : space ≠ .html) :
    (Foreign.attribute a).shownName = a.name ∧
      (Foreign.attribute a = a ∨ Foreign.Respelled space (Foreign.attribute a)) := by
  unfold Foreign.attribute
  split
  · next n h =>
    have hname : a.name = "xlink:" ++ n := by simpa using List.find?_some h
    exact ⟨hname.symm, .inr (.xlink a.value hspace (List.mem_of_find?_eq_some h))⟩
  · split
    · next n h =>
      have hname : a.name = "xml:" ++ n := by simpa using List.find?_some h
      exact ⟨hname.symm, .inr (.xml a.value hspace (List.mem_of_find?_eq_some h))⟩
    · split
      · next h => exact ⟨h.symm, .inr (.xmlns a.value hspace (by simp))⟩
      · split
        · next h => exact ⟨h.symm, .inr (.xmlns a.value hspace (by simp))⟩
        · exact ⟨by rw [Attribute.shownName, ha], .inl rfl⟩

/-- An attribute of a foreign element is shown under the name in the tag, but for capitals. -/
theorem foreign_attribute (ha : a.IsOrdinary) (hspace : space ≠ .html) :
    (Foreign.attribute (respellAttribute space a)).shownName.toLower = a.name ∧
      ((Foreign.attribute (respellAttribute space a)).IsOrdinary ∨
        Foreign.Respelled space (Foreign.attribute (respellAttribute space a))) := by
  rcases respelled_attribute ha space with h | ⟨hnone, hlower, hrespelled⟩
  · rw [h]
    obtain ⟨hshown, hsame | hmarked⟩ := marked_attribute ha.space hspace
    · exact ⟨by rw [hshown, ha.name], .inl (by rw [hsame]; exact ha)⟩
    · exact ⟨by rw [hshown, ha.name], .inr hmarked⟩
  · obtain ⟨hshown, hsame | hmarked⟩ := marked_attribute hnone hspace
    · exact ⟨by rw [hshown, hlower], .inr (by rw [hsame]; exact hrespelled)⟩
    · exact ⟨by rw [hshown, hlower], .inr hmarked⟩

theorem Written.suits_foreign (h : Written attributes) (hspace : space ≠ .html) :
    Suits ⟨space, name⟩ (Foreign.attributes space attributes) where
  distinct := by
    -- The tag has each name once, and it shows in what becomes of the attribute.
    refine .of_map (fun k => (⟨k.1, k.2, ""⟩ : Attribute).shownName.toLower) ?_
    have hnames : ((Foreign.attributes space attributes).map key).map
        (fun k => (⟨k.1, k.2, ""⟩ : Attribute).shownName.toLower) = attributes.map (·.name) := by
      rw [Foreign.attributes, List.map_map, List.map_map]
      exact List.map_congr_left fun a ha => (foreign_attribute (h.ordinary a ha) hspace).1
    rw [hnames]
    exact h.distinct
  spelled b hb := by
    obtain ⟨a, ha, rfl⟩ := List.mem_map.mp hb
    exact (foreign_attribute (h.ordinary a ha) hspace).2

/-- Attributes of a tag come to those of an element if it has none of that name yet. -/
theorem Suits.append_missing (h : Suits tag old) (hnew : Written attributes) :
    Suits tag (old ++ attributes.filter fun x =>
      !old.any fun y => y.space = x.space && y.name = x.name) where
  distinct := by
    rw [List.map_append]
    have hsuits : Suits tag attributes := hnew.suits
    refine h.distinct.append (hsuits.distinct.sublist (List.filter_sublist.map key)) ?_
    intro k hold hmissing
    obtain ⟨y, hy, rfl⟩ := List.mem_map.mp hold
    obtain ⟨x, hx, hkey⟩ := List.mem_map.mp hmissing
    obtain ⟨hspace, hname⟩ := Prod.mk.inj hkey
    have hnone := (List.mem_filter.mp hx).2
    rw [Bool.not_eq_true', List.any_eq_false] at hnone
    exact hnone y hy (by simp [hspace, hname])
  spelled a ha := by
    rcases List.mem_append.mp ha with ha | ha
    · exact h.spelled a ha
    · exact .inl (hnew.ordinary a (List.mem_of_mem_filter ha))

-- --------------------------------------------------------------------
-- Arenas
-- --------------------------------------------------------------------

def Content.Sound : Content → Prop
  | .element tag attributes _ => Suits tag attributes
  | _ => True

/-- Every element in the arena has attributes as it can have them. -/
def Arena.Sound (a : Arena) : Prop := ∀ (h : Handle) (c : Cell), a[h]? = some c → c.content.Sound

namespace Arena.Sound

variable {a : Arena} {c : Content}

theorem content (ha : a.Sound) (h : Handle) : (a.content h).Sound := by
  unfold Arena.content
  cases hcell : a[h]? with
  | none => trivial
  | some cell => exact ha h cell hcell

theorem modify {f : Cell → Cell} (ha : a.Sound) (h : Handle)
    (hf : ∀ cell : Cell, cell.content.Sound → (f cell).content.Sound) :
    Arena.Sound (a.modify h f) := by
  intro i cell hcell
  rw [Array.getElem?_modify] at hcell
  split at hcell
  · obtain ⟨before, hbefore, rfl⟩ := Option.map_eq_some_iff.mp hcell
    exact hf before (ha i before hbefore)
  · exact ha i cell hcell

theorem create (ha : a.Sound) (hc : c.Sound) : (a.create c).2.Sound := by
  intro i cell hcell
  rw [Arena.create, Array.getElem?_push] at hcell
  split at hcell
  · cases hcell
    exact hc
  · exact ha i cell hcell

theorem createElement (ha : a.Sound) (h : Suits tag attributes) :
    (a.createElement tag attributes).2.Sound := by
  unfold Arena.createElement
  split
  · exact (ha.create (c := .root .fragment) trivial).create h
  · exact ha.create h

-- --------------------------------------------------------------------
-- Moving
-- --------------------------------------------------------------------

/-- What moves a node leaves the content of every cell as it is. -/
theorem relink {f : Cell → Cell} (ha : a.Sound) (h : Handle)
    (hf : ∀ cell, (f cell).content = cell.content) : Arena.Sound (a.modify h f) :=
  ha.modify h fun cell hcell => by
    rw [hf cell]
    exact hcell

theorem detach (ha : a.Sound) (h : Handle) : (a.detach h).Sound := by
  unfold Arena.detach
  split
  · exact ha
  · exact relink (relink ha _ fun _ => by rfl) _ fun _ => by rfl

theorem append (ha : a.Sound) (parent child : Handle) : (a.append parent child).Sound := by
  unfold Arena.append
  exact relink (relink (ha.detach child) _ fun _ => by rfl) _ fun _ => by rfl

theorem insertBefore (ha : a.Sound) (sibling child : Handle) :
    (a.insertBefore sibling child).Sound := by
  have hd := ha.detach child
  unfold Arena.insertBefore
  generalize a.detach child = d at hd
  simp only
  split
  · exact hd
  · exact relink (relink hd _ fun _ => by rfl) _ fun _ => by rfl

theorem moveChildren (ha : a.Sound) (source target : Handle) :
    (a.moveChildren source target).Sound :=
  Array.foldl_induction (motive := fun _ b => Arena.Sound b) ha fun _ _ hb => hb.append target _

-- --------------------------------------------------------------------
-- Text and attributes
-- --------------------------------------------------------------------

theorem lengthen (ha : a.Sound) (h : Handle) (s : String) : (a.lengthen h s).Sound := by
  refine ha.modify h fun cell hcell => ?_
  split
  · trivial
  · exact hcell

theorem appendText (ha : a.Sound) (parent : Handle) (s : String) :
    (a.appendText parent s).Sound := by
  have hnew := ha.create (c := .leaf (.text s)) trivial
  unfold Arena.appendText
  split
  · split
    · exact ha.lengthen _ s
    · exact hnew.append parent _
  · exact hnew.append parent _

theorem insertTextBefore (ha : a.Sound) (sibling : Handle) (s : String) :
    (a.insertTextBefore sibling s).Sound := by
  have hnew := ha.create (c := .leaf (.text s)) trivial
  unfold Arena.insertTextBefore
  simp only
  split
  · split
    · exact ha.lengthen _ s
    · exact hnew.insertBefore sibling _
  · exact hnew.insertBefore sibling _

theorem addMissing (ha : a.Sound) (h : Handle) (hnew : Written attributes) :
    (a.addMissing h attributes).Sound := by
  refine ha.modify h fun cell hcell => ?_
  split
  · exact Suits.append_missing hcell hnew
  · exact hcell

end Arena.Sound

end PageRecords.Html
