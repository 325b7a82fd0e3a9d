import PageRecords.Html.Formatting
import PageRecords.Proofs.Html.ElementAttributes

/-!
# Attributes of the page so far

What the rules for tokens are made of puts elements into the page whose attributes come from a
tag, either the one just read or that of a formatting element to open again. So a page whose
elements and formatting entries have attributes of that kind (`Builder.Sound`) keeps them,
whatever is opened, closed or moved.
-/

namespace PageRecords.Html

open Dom (Space Tag Attribute)

/-- The tag of a formatting element is as it was read. -/
def Formatting.Written : Formatting → Prop
  | .marker => True
  | .element _ tag => Html.Written tag.attributes

namespace Builder

structure Sound (b : Builder) : Prop where
  elements : b.arena.Sound
  formatting : ∀ f ∈ b.formatting, f.Written

end Builder

namespace Builder.Sound

variable {b b' : Builder} {t : StartTag} {space : Space} {name : String}
  {attributes : List Attribute}

theorem start : Builder.start.Sound where
  elements := by
    intro h c hc
    obtain ⟨hlt, rfl⟩ := Array.getElem?_eq_some_iff.mp hc
    have hzero : h = 0 := Nat.lt_one_iff.mp hlt
    subst hzero
    trivial
  formatting f hf := by cases hf

/-- Nothing but nodes and formatting entries counts. -/
theorem same (hb : b.Sound) (harena : b'.arena = b.arena)
    (hformatting : b'.formatting = b.formatting) : b'.Sound where
  elements := harena ▸ hb.elements
  formatting := hformatting ▸ hb.formatting

theorem withOpen (hb : b.Sound) (open_ : List Handle) : { b with open_ }.Sound :=
  hb.same rfl rfl

theorem withArena (hb : b.Sound) {arena : Arena} (h : arena.Sound) :
    { b with arena }.Sound :=
  ⟨h, hb.formatting⟩

theorem withFormatting (hb : b.Sound) {entries : List Formatting}
    (h : ∀ f ∈ entries, f.Written) : { b with formatting := entries }.Sound :=
  ⟨hb.elements, h⟩

theorem ite {p : Prop} [Decidable p] (hb : b.Sound) (hb' : b'.Sound) :
    (if p then b else b').Sound := by
  split
  · exact hb
  · exact hb'

-- --------------------------------------------------------------------
-- Open elements
-- --------------------------------------------------------------------

theorem push (hb : b.Sound) (h : Handle) : (b.push h).Sound := hb.withOpen _

theorem pop (hb : b.Sound) : b.pop.Sound := hb.withOpen _

theorem close (hb : b.Sound) (h : Handle) : (b.close h).Sound := hb.withOpen _

theorem popThrough (hb : b.Sound) (fits : Tag → Bool) : (b.popThrough fits).Sound :=
  hb.withOpen _

theorem popThroughName (hb : b.Sound) (name : String) : (b.popThroughName name).Sound :=
  hb.popThrough _

theorem popTo (hb : b.Sound) (fits : Tag → Bool) : (b.popTo fits).Sound := hb.withOpen _

theorem closeImplied (hb : b.Sound) (closes : Tag → Bool) : (b.closeImplied closes).Sound :=
  hb.withOpen _

theorem closeImpliedExcept (hb : b.Sound) (name : String) : (b.closeImpliedExcept name).Sound :=
  hb.closeImplied _

theorem closeParagraph (hb : b.Sound) : b.closeParagraph.Sound :=
  (hb.closeImpliedExcept "p").popThroughName "p"

theorem closeParagraphInScope (hb : b.Sound) : b.closeParagraphInScope.Sound :=
  hb.closeParagraph.ite hb

theorem resetMode (hb : b.Sound) : b.resetMode.Sound := hb.same rfl rfl

-- --------------------------------------------------------------------
-- Inserting
-- --------------------------------------------------------------------

theorem place (hb : b.Sound) (target : Target) (h : Handle) : (b.place target h).Sound := by
  unfold Builder.place
  cases target with
  | inside parent => exact hb.withArena (hb.elements.append parent h)
  | before table around =>
    exact .ite (hb.withArena (hb.elements.insertBefore table h))
      (hb.withArena (hb.elements.append around h))

theorem text (hb : b.Sound) (s : String) : (b.text s).Sound := by
  unfold Builder.text
  split
  · exact hb.withArena (hb.elements.appendText _ s)
  · exact .ite (hb.withArena (hb.elements.insertTextBefore _ s))
      (hb.withArena (hb.elements.appendText _ s))

theorem char (hb : b.Sound) (c : Char) : (b.char c).Sound := hb.text _

theorem comment (hb : b.Sound) (s : String) : (b.comment s).Sound :=
  place (hb.withArena (hb.elements.create (c := .leaf (.comment s)) trivial)) _ _

theorem commentIn (hb : b.Sound) (parent : Handle) (s : String) : (b.commentIn parent s).Sound :=
  hb.withArena ((hb.elements.create (c := .leaf (.comment s)) trivial).append parent _)

theorem create (hb : b.Sound) (h : Suits ⟨space, name⟩ attributes) :
    (b.create space name attributes).2.Sound :=
  place (hb.withArena (hb.elements.createElement h)) _ _

theorem insertVoid (hb : b.Sound) (ht : Written t.attributes) : (b.insertVoid t).Sound :=
  hb.create ht.suits

theorem openNew (hb : b.Sound) (h : Suits ⟨space, name⟩ attributes) :
    (b.openNew space name attributes).2.Sound :=
  (hb.create h).push _

theorem insert (hb : b.Sound) (ht : Written t.attributes) : (b.insert t).Sound :=
  hb.openNew ht.suits

theorem insertMissing (hb : b.Sound) (name : String) : (b.insertMissing name).Sound :=
  hb.openNew written_nil.suits

theorem insertText (hb : b.Sound) (ht : Written t.attributes) (reading : TextMode) :
    (b.insertText t reading).Sound :=
  (hb.insert ht).same rfl rfl

theorem insertRoot (hb : b.Sound) (h : Written attributes) :
    (b.insertRoot attributes).Sound := by
  have hroot : (b.arena.createElement (html "html") attributes).2.Sound :=
    hb.elements.createElement h.suits
  unfold Builder.insertRoot
  generalize b.arena.createElement (html "html") attributes = new at hroot
  exact push (withArena hb (hroot.append document new.1)) new.1

-- --------------------------------------------------------------------
-- Opening formatting elements
-- --------------------------------------------------------------------

theorem addFormatting (hb : b.Sound) (h : Handle) (ht : Written t.attributes) :
    { b with formatting := .element h t :: b.formatting }.Sound :=
  hb.withFormatting (List.forall_mem_cons.mpr ⟨ht, hb.formatting⟩)

theorem pushMarker (hb : b.Sound) : b.pushMarker.Sound :=
  hb.withFormatting (List.forall_mem_cons.mpr ⟨trivial, hb.formatting⟩)

theorem clearFormatting (hb : b.Sound) : b.clearFormatting.Sound :=
  hb.withFormatting fun f hf =>
    hb.formatting f ((List.dropWhile_sublist _).subset (List.mem_of_mem_drop hf))

theorem forget (hb : b.Sound) (h : Handle) : (b.forget h).Sound :=
  hb.withFormatting fun f hf => hb.formatting f (List.mem_of_mem_filter hf)

theorem written_of_recent (hb : b.Sound) {h : Handle} (hmem : (h, t) ∈ b.recentFormatting) :
    Written t.attributes := by
  obtain ⟨f, hf, hentry⟩ := List.mem_filterMap.mp hmem
  have hwritten := hb.formatting f ((List.takeWhile_sublist _).subset hf)
  cases f with
  | marker => cases hentry
  | element h' t' =>
    cases hentry
    exact hwritten

/-- What is opened again has the tags that it was opened by before. -/
theorem reopen (hb : b.Sound) {entries : List Formatting} (h : ∀ f ∈ entries, f.Written) :
    (∀ f ∈ (b.reopen entries).1, f.Written) ∧ (b.reopen entries).2.Sound := by
  induction entries with
  | nil => exact ⟨by simp [Builder.reopen], hb⟩
  | cons f rest ih =>
    obtain ⟨hf, hrest⟩ := List.forall_mem_cons.mp h
    obtain ⟨hentries, hbuilder⟩ := ih hrest
    cases f with
    | marker => exact ⟨hentries, hbuilder⟩
    | element h' t => exact ⟨List.forall_mem_cons.mpr ⟨hf, hentries⟩, hbuilder.openNew hf.suits⟩

theorem reconstruct (hb : b.Sound) : b.reconstruct.Sound := by
  have hcutOff : ∀ f ∈ b.formatting.takeWhile fun f => !b.isMarkerOrOpen f, f.Written :=
    fun f hf => hb.formatting f ((List.takeWhile_sublist _).subset hf)
  obtain ⟨hentries, hbuilder⟩ := hb.reopen hcutOff
  exact hbuilder.withFormatting (List.forall_mem_append.mpr
    ⟨hentries, fun f hf => hb.formatting f (List.mem_of_mem_drop hf)⟩)

theorem insertFormatting (hb : b.Sound) (ht : Written t.attributes) :
    (b.insertFormatting t).Sound := by
  unfold Builder.insertFormatting
  refine addFormatting (openNew (.ite ?_ hb) ht.suits) _ ht
  cases List.getLast? _ with
  | none => exact hb
  | some earliest => exact hb.forget earliest.1

-- --------------------------------------------------------------------
-- Closing formatting elements
-- --------------------------------------------------------------------

theorem closeOrdinary (hb : b.Sound) (name : String) : (b.closeOrdinary name).Sound := by
  unfold Builder.closeOrdinary
  simp only
  split
  · exact .ite ((hb.closeImpliedExcept name).same rfl rfl) hb
  · exact hb

/-- An element moved in a chain is copied with the tag of its own entry. -/
theorem step {c : Chain} (hc : c.builder.Sound) (block : Handle) (index : Nat) (node : Handle) :
    (c.step block index node).builder.Sound := by
  unfold Chain.step
  simp only
  split
  · next h t hfind =>
    split
    · exact (hc.forget node).close node
    · have ht : Written t.attributes := hc.formatting _ (List.mem_of_find?_eq_some hfind)
      refine ⟨(hc.elements.createElement ht.suits).append _ _, ?_⟩
      intro f hf
      obtain ⟨f', hf', rfl⟩ := List.mem_map.mp hf
      split
      · exact ht
      · exact hc.formatting f' hf'
  · exact hc.close node

theorem run {c : Chain} (hc : c.builder.Sound) (block : Handle) (index : Nat)
    (nodes : List Handle) : (c.run block index nodes).builder.Sound := by
  induction nodes generalizing c index with
  | nil => exact hc
  | cons node rest ih => exact ih (step hc block index node) (index + 1)

theorem moveEntry (hb : b.Sound) (old : Handle) {entry : Formatting} (hentry : entry.Written)
    (bookmark : Option Handle) : (b.moveEntry old entry bookmark).Sound := by
  unfold Builder.moveEntry
  split
  · refine hb.withFormatting fun f hf => ?_
    obtain ⟨f', hf', rfl⟩ := List.mem_map.mp hf
    split
    · exact hentry
    · exact hb.formatting f' hf'
  · refine hb.withFormatting fun f hf => ?_
    obtain ⟨f', hf', hmem⟩ := List.mem_flatMap.mp (List.mem_of_mem_filter hf)
    have hkept := hb.formatting f' hf'
    split at hmem
    · rcases List.mem_pair.mp hmem with rfl | rfl
      · exact hentry
      · exact hkept
    · rw [List.mem_singleton.mp hmem]
      exact hkept

theorem takeOut (hb : b.Sound) (h : Handle) (ht : Written t.attributes) (block around : Handle)
    (between : List Handle) : (b.takeOut h t block around between).Sound := by
  unfold Builder.takeOut
  have hchain := run (c := ⟨b, block, none⟩) hb block 0 between
  generalize Chain.run block ⟨b, block, none⟩ 0 between = c at hchain
  have hplaced := place (hchain.withArena (hchain.elements.detach c.last))
    (Builder.targetFor { c.builder with arena := c.builder.arena.detach c.last } around) c.last
  simp only
  generalize Builder.place _ _ c.last = placed at hplaced
  have hcopy : (placed.arena.createElement (html t.name) t.attributes).2.Sound :=
    hplaced.elements.createElement ht.suits
  generalize placed.arena.createElement (html t.name) t.attributes = new at hcopy
  have hmoved := hplaced.withArena ((hcopy.moveChildren block new.1).append block new.1)
  have hentry : (Formatting.element new.1 t).Written := ht
  exact (hmoved.moveEntry h hentry c.bookmark).same rfl rfl

theorem closeFormattingOnce (hb : b.Sound) (name : String) :
    (b.closeFormattingOnce name).1.Sound := by
  unfold Builder.closeFormattingOnce
  split
  · exact hb.closeOrdinary name
  · next h t hfind =>
    have ht := hb.written_of_recent (List.mem_of_find?_eq_some hfind)
    split
    · exact hb.forget h
    · split
      · exact hb
      · simp only
        split
        · exact forget (hb.withOpen _) h
        · exact hb.takeOut h ht _ _ _

theorem closeFormattingRounds (hb : b.Sound) (name : String) (n : Nat) :
    (b.closeFormattingRounds name n).Sound := by
  induction n generalizing b with
  | zero => exact hb
  | succ n ih =>
    have honce := hb.closeFormattingOnce name
    rw [Builder.closeFormattingRounds]
    split
    · next heq =>
      rw [heq] at honce
      exact ih honce
    · next heq =>
      rw [heq] at honce
      exact honce

theorem closeFormatting (hb : b.Sound) (name : String) : (b.closeFormatting name).Sound :=
  hb.pop.ite (hb.closeFormattingRounds name 8)

theorem closeOpenLink (hb : b.Sound) : b.closeOpenLink.Sound := by
  unfold Builder.closeOpenLink
  split
  · exact hb
  · exact ((hb.closeFormatting "a").forget _).close _

end Builder.Sound

end PageRecords.Html
