import PageRecords.Proofs.Html.PageAttributes

/-!
# Reading attributes by name

A name is looked up in lower case and in no vocabulary. The markup shows attributes as they are
stored, which in drawings and formulas may be with capitals or in the vocabulary of declarations.
So what the markup shows is read exactly if the attribute is an ordinary one, as all attributes
of HTML are: `ordinary_attributes_are_read`.
-/

namespace PageRecords.Dom

open Html (Suited svgAttributes)
open Node (inside listInside)

namespace Forest

/-- How the attributes of an element are written and read. -/
structure ReadsOrdinary (f : Forest) (id : NodeId) (tag : Tag) : Prop where
  /-- The markup of the element starts with a tag that shows each of them. -/
  shown : ∃ rest, (f.node id).outerMarkup = startTag tag (f.node id).attributes ++ rest
  /-- An element of HTML has no others than ordinary ones. -/
  html : tag.space = .html → ∀ a ∈ (f.node id).attributes, a.IsOrdinary
  /-- Elsewhere too, what bears no mark of a vocabulary is ordinary, unless it has a name with
  capitals or declares the vocabulary of the element. -/
  unmarked : ∀ a ∈ (f.node id).attributes, a.shownName = a.name → a.IsOrdinary ∨
    tag.space = .svg ∧ a.name ∈ svgAttributes ∨
    tag.space = .mathml ∧ a.name = "definitionURL" ∨
    tag.space ≠ .html ∧ a.space = .xmlns ∧ a.name = "xmlns"
  /-- An ordinary attribute is read by the name that is shown, whatever its case. -/
  read : ∀ a ∈ (f.node id).attributes, a.IsOrdinary →
    ∀ name, name.toLower = a.shownName.toLower → f.attribute? id name = some a.value
  /-- No other attribute is ever read. -/
  nothing_else : ∀ name value, f.attribute? id name = some value →
    ∃ a ∈ (f.node id).attributes, a.IsOrdinary ∧ a.shownName = name.toLower ∧ a.value = value

end Forest

-- --------------------------------------------------------------------
-- Names
-- --------------------------------------------------------------------

variable {a : Attribute} {attributes : List Attribute} {tag : Tag} {f : Forest} {id : NodeId}

theorem Attribute.IsOrdinary.shownName (ha : a.IsOrdinary) : a.shownName = a.name := by
  rw [Attribute.shownName, ha.space]

theorem ne_marked (mark name : String) (hmark : mark ≠ "") : mark ++ name ≠ name := by
  intro h
  have hlength := congrArg String.length h
  rw [String.length_append] at hlength
  have hempty : mark.length = 0 := by omega
  exact hmark (String.length_eq_zero_iff.mp hempty)

/-- What is respelled and bears no mark. -/
theorem unmarked_of_respelled {space : Space} (h : Html.Foreign.Respelled space a)
    (hshown : a.shownName = a.name) :
    space = .svg ∧ a.name ∈ svgAttributes ∨ space = .mathml ∧ a.name = "definitionURL" ∨
      space ≠ .html ∧ a.space = .xmlns ∧ a.name = "xmlns" := by
  cases h with
  | xlink value hspace hname => exact (ne_marked "xlink:" _ (by decide) hshown).elim
  | xml value hspace hname => exact (ne_marked "xml:" _ (by decide) hshown).elim
  | @xmlns _ name value hspace hname =>
    rcases List.mem_pair.mp hname with rfl | rfl
    · exact .inr (.inr ⟨hspace, rfl, rfl⟩)
    · exact (ne_marked "xmlns:" "xlink" (by decide) hshown).elim
  | svg value hname => exact .inl ⟨rfl, hname⟩
  | mathml value hname => exact .inr (.inl ⟨rfl, List.mem_singleton.mp hname⟩)

theorem not_respelled_html : ¬ Html.Foreign.Respelled .html a := by
  rintro (⟨_, h, _⟩ | ⟨_, h, _⟩ | ⟨_, h, _⟩)
  all_goals exact h rfl

-- --------------------------------------------------------------------
-- Lookup
-- --------------------------------------------------------------------

/-- No two attributes compete for a name: what is found is all that could be. -/
theorem find?_name_eq_some_iff (hdistinct : (attributes.map Html.key).Nodup) (name : String) :
    attributes.find? (fun b => b.space = .none && b.name = name) = some a ↔
      a ∈ attributes ∧ a.space = .none ∧ a.name = name := by
  have hfits : ∀ {b}, attributes.find? (fun b => b.space = .none && b.name = name) = some b →
      b ∈ attributes ∧ b.space = .none ∧ b.name = name := fun h =>
    ⟨List.mem_of_find?_eq_some h, by simpa using List.find?_some h⟩
  refine ⟨hfits, ?_⟩
  rintro ⟨ha, hspace, hname⟩
  obtain ⟨b, hb⟩ : ∃ b, attributes.find? (fun b => b.space = .none && b.name = name) =
      some b := by
    rw [← Option.isSome_iff_exists, List.find?_isSome]
    exact ⟨a, ha, by simp [hspace, hname]⟩
  obtain ⟨hmem, hbspace, hbname⟩ := hfits hb
  have hkey : Html.key b = Html.key a := by rw [Html.key, Html.key, hbspace, hbname, hspace, hname]
  rw [hb, List.inj_on_of_nodup_map hdistinct hmem ha hkey]

theorem outerMarkup_startTag {n : Node} (htag : n.tag? = some tag) :
    ∃ rest, n.outerMarkup = startTag tag n.attributes ++ rest := by
  cases n with
  | leaf | root => cases htag
  | element i tag attributes contents children =>
    cases htag
    rw [Node.outerMarkup, Node.markupIn]
    split
    · exact ⟨"", String.append_empty.symm⟩
    · exact ⟨_, String.append_assoc⟩

theorem readsOrdinary_of_suited (hsuited : Suited (f.node id))
    (htag : (f.node id).tag? = some tag) : f.ReadsOrdinary id tag := by
  obtain ⟨hdistinct, hspelled⟩ := hsuited tag htag
  refine ⟨outerMarkup_startTag htag, ?_, ?_, ?_, ?_⟩
  · intro hhtml a ha
    rw [hhtml] at hspelled
    exact (hspelled a ha).resolve_right not_respelled_html
  · intro a ha hshown
    exact (hspelled a ha).imp_right fun h => unmarked_of_respelled h hshown
  · intro a ha hordinary name hname
    have hlower : a.name = name.toLower := by rw [hname, hordinary.shownName, hordinary.name]
    have hfind := (find?_name_eq_some_iff hdistinct name.toLower).mpr ⟨ha, hordinary.space, hlower⟩
    rw [Forest.attribute?, Node.attribute?, hfind]
    rfl
  · intro name value h
    rw [Forest.attribute?, Node.attribute?, Option.map_eq_some_iff] at h
    obtain ⟨a, hfind, rfl⟩ := h
    obtain ⟨ha, hspace, hname⟩ := (find?_name_eq_some_iff hdistinct name.toLower).mp hfind
    have hordinary : a.IsOrdinary := ⟨hspace, by rw [hname, Html.toLower_toLower]⟩
    exact ⟨a, ha, hordinary, hordinary.shownName.trans hname, rfl⟩

-- --------------------------------------------------------------------
-- Pages
-- --------------------------------------------------------------------

namespace Place

mutual
theorem node_mem_inside {here p : Place} : (n : Node) → p ∈ listOf here n → p.node ∈ n.inside
  | .leaf _ _, h => by simp [listOf] at h
  | .root _ _ children, h => node_mem_listInside children h
  | .element _ _ _ contents children, h =>
    List.mem_append_right _ (node_mem_listInside children h)
theorem node_mem_listInside {parent p : Place} {left : List Node} :
    (ns : List Node) → p ∈ listBelow parent left ns → p.node ∈ listInside ns
  | [], h => by simp [listBelow] at h
  | n :: rest, h => by
    simp only [listBelow, List.mem_cons, List.mem_append] at h
    simp only [listInside, List.mem_cons, List.mem_append]
    rcases h with rfl | h | h
    · exact .inl rfl
    · exact .inr (.inl (node_mem_inside n h))
    · exact .inr (.inr (node_mem_listInside rest h))
end

end Place

theorem Forest.node_mem_inside (htag : (f.node id).tag? = some tag) :
    f.node id ∈ listInside f.trees := by
  cases hp : f.place? id with
  | none => simp [Forest.node, hp, Node.tag?] at htag
  | some p =>
    obtain ⟨t, ht, hbelow⟩ := mem_places.mp (mem_places_of_place? hp).1
    rw [node_of_place? hp, Html.mem_listInside]
    rcases hbelow with rfl | hbelow
    · exact ⟨t, ht, .inl rfl⟩
    · exact ⟨t, ht, .inr (Place.node_mem_inside t hbelow)⟩

/-- Whatever the text of a page, every element of it is written with all its attributes, and
those that are ordinary are read by name. Elements in template contents are too, from wherever
a change puts them. -/
theorem ordinary_attributes_are_read (html : String) :
    (∀ id tag, ((Forest.ofHtml html).node id).tag? = some tag →
      (Forest.ofHtml html).ReadsOrdinary id tag) ∧
    ∀ (f : Forest) (id : NodeId) (tag : Tag), f.node id ∈ listInside (Forest.ofHtml html).trees →
      (f.node id).tag? = some tag → f.ReadsOrdinary id tag := by
  have hsuited := Html.suited_page html
  exact ⟨fun id tag htag => readsOrdinary_of_suited (hsuited _ (Forest.node_mem_inside htag)) htag,
    fun f id tag hmem htag => readsOrdinary_of_suited (hsuited _ hmem) htag⟩

/-- A class is read in capitals. -/
theorem class_is_read_in_capitals :
    let page := Forest.ofHtml "<p Class=wide>"
    (page.node 4).tag? = some ⟨.html, "p"⟩ ∧ page.node 4 ∈ listInside page.trees ∧
      page.attribute? 4 "CLASS" = some "wide" := by
  have htag : ((Forest.ofHtml "<p Class=wide>").node 4).tag? = some ⟨.html, "p"⟩ := by
    decide +kernel
  have hmem := Forest.node_mem_inside htag
  have hreads := (ordinary_attributes_are_read "<p Class=wide>").2 _ 4 _ hmem htag
  have hclass : ⟨.none, "class", "wide"⟩ ∈
      ((Forest.ofHtml "<p Class=wide>").node 4).attributes := by
    decide +kernel
  have hlower : "CLASS".toLower = "class".toLower := by
    rw [← String.toList_inj, Html.toList_toLower, Html.toList_toLower]
    decide
  exact ⟨htag, hmem, hreads.read _ hclass (by decide +kernel) "CLASS" hlower⟩

/-- The size of a drawing is shown and not read. -/
theorem view_box_is_shown_and_not_read :
    let page := Forest.ofHtml "<svg viewBox=\"0 0 1 1\"></svg>"
    (page.node 4).outerMarkup = "<svg viewBox=\"0 0 1 1\"></svg>" ∧
      (∃ a ∈ (page.node 4).attributes, a.shownName = "viewBox" ∧ a.value = "0 0 1 1") ∧
      page.attribute? 4 "viewBox" = none := by
  have hlower : "viewBox".toLower = "viewbox" := by
    rw [← String.toList_inj, Html.toList_toLower]
    decide
  simp only [Forest.attribute?, hlower]
  decide +kernel

end PageRecords.Dom
