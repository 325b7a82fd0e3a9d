import PageRecords.Html.Rules.Foreign
import PageRecords.Proofs.Html.BuilderAttributes

/-!
# Rules and attributes

Every rule puts only elements into the page whose attributes they can have, given that those of
the token are as in a tag, and leaves no other token than the one it was given. There is one
lemma for each rule, and it goes through the rule line by line.
-/

namespace PageRecords.Html

/-- The page and the token that is left are as before a rule. -/
structure Outcome.Sound (o : Outcome) : Prop where
  builder : o.1.Sound
  token : ∀ t ∈ o.2, t.Written

theorem Outcome.Sound.ite {o o' : Outcome} {p : Prop} [Decidable p] (h : o.Sound)
    (h' : o'.Sound) : Outcome.Sound (if p then o else o') := by
  split
  · exact h
  · exact h'

namespace Builder.Sound

variable {b b' : Builder} {t : Token} {tag : StartTag}

theorem done (hb : b.Sound) : (done b).Sound where
  builder := hb
  token _ ht := by cases ht

theorem again (hb : b.Sound) (ht : t.Written) : Outcome.Sound (b, some t) where
  builder := hb
  token _ hmem := by
    cases hmem
    exact ht

theorem leave (hb : b.Sound) (m : Mode) (ht : t.Written) : (b.leave m t).Sound :=
  again (hb.same rfl rfl) ht

-- --------------------------------------------------------------------
-- Before the body
-- --------------------------------------------------------------------

theorem mergeHtml (hb : b.Sound) (ht : Written tag.attributes) : (b.mergeHtml tag).Sound :=
  .ite hb (hb.withArena (hb.elements.addMissing _ ht))

theorem openTemplate (hb : b.Sound) (ht : Written tag.attributes) : (b.openTemplate tag).Sound :=
  (hb.insert ht).pushMarker.same rfl rfl

theorem leaveTemplate (hb : b.Sound) : b.leaveTemplate.Sound :=
  (hb.popThroughName "template").clearFormatting.same rfl rfl

theorem closeTemplate (hb : b.Sound) : b.closeTemplate.Sound :=
  .ite (hb.closeImplied _).leaveTemplate hb

theorem inHead (hb : b.Sound) (ht : t.Written) : (b.inHead t).Sound := by
  have hout : (b.pop.leave .afterHead t).Sound := hb.pop.leave _ ht
  unfold Builder.inHead
  cases t with
  | char c => exact .ite (hb.char c).done hout
  | comment s => exact (hb.comment s).done
  | startTag tag =>
    exact .ite (hb.mergeHtml ht).done <|
      .ite (hb.insertVoid ht).done <|
      .ite (hb.insertText ht .rcdata).done <|
      .ite (hb.insertText ht .rawtext).done <|
      .ite (hb.insertText ht .script).done <|
      .ite (hb.openTemplate ht).done <|
      .ite hb.done hout
  | endTag name =>
    exact .ite (done (hb.pop.same rfl rfl)) <|
      .ite hb.closeTemplate.done <|
      .ite hout hb.done
  | doctype _ => exact hb.done
  | stop => exact hout

theorem initial (hb : b.Sound) (ht : t.Written) : (b.initial t).Sound := by
  have hold : { b with old := true }.Sound := hb.same rfl rfl
  have hout := hold.leave .beforeHtml ht
  unfold Builder.initial
  cases t with
  | char c => exact .ite hb.done hout
  | comment s => exact (hb.commentIn _ s).done
  | doctype d =>
    have hnew := hb.elements.create (c := .leaf (.doctype (d.name.getD ""))) trivial
    exact done (same (hb.withArena (hnew.append document _)) rfl rfl)
  | startTag _ | endTag _ | stop => exact hout

theorem beforeHtml (hb : b.Sound) (ht : t.Written) : (b.beforeHtml t).Sound := by
  have hout : ((b.insertRoot []).leave .beforeHead t).Sound := (hb.insertRoot written_nil).leave _ ht
  unfold Builder.beforeHtml
  cases t with
  | char c => exact .ite hb.done hout
  | comment s => exact (hb.commentIn _ s).done
  | startTag tag => exact .ite (done ((hb.insertRoot ht).same rfl rfl)) hout
  | endTag name => exact .ite hout hb.done
  | doctype _ => exact hb.done
  | stop => exact hout

theorem openHead (hb : b.Sound) (ht : Written tag.attributes) : (b.openHead tag).Sound :=
  (hb.insert ht).same rfl rfl

theorem beforeHead (hb : b.Sound) (ht : t.Written) : (b.beforeHead t).Sound := by
  have hhead : (b.openHead ⟨"head", [], false⟩).Sound := hb.openHead written_nil
  unfold Builder.beforeHead
  cases t with
  | char c => exact .ite hb.done (hhead.leave _ ht)
  | comment s => exact (hb.comment s).done
  | startTag tag =>
    exact .ite (hb.mergeHtml ht).done <|
      .ite (hb.openHead ht).done (hhead.leave _ ht)
  | endTag name => exact .ite (hhead.leave _ ht) hb.done
  | doctype _ => exact hb.done
  | stop => exact hhead.leave _ ht

theorem intoHead (hb : b.Sound) (ht : t.Written) : (b.intoHead t).Sound := by
  unfold Builder.intoHead
  split
  · exact hb.inHead ht
  · next head _ =>
    have h := (hb.push head).inHead ht
    exact ⟨h.builder.close head, h.token⟩

theorem afterHead (hb : b.Sound) (ht : t.Written) : (b.afterHead t).Sound := by
  have hout : ((b.insertMissing "body").leave .inBody t).Sound := (hb.insertMissing _).leave _ ht
  unfold Builder.afterHead
  cases t with
  | char c => exact .ite (hb.char c).done hout
  | comment s => exact (hb.comment s).done
  | startTag tag =>
    exact .ite (hb.mergeHtml ht).done <|
      .ite (done ((hb.insert ht).same rfl rfl)) <|
      .ite (done ((hb.insert ht).same rfl rfl)) <|
      .ite (hb.intoHead ht) <|
      .ite hb.done hout
  | endTag name => exact .ite hb.closeTemplate.done <| .ite hout hb.done
  | doctype _ => exact hb.done
  | stop => exact hout

-- --------------------------------------------------------------------
-- Start tags in the body
-- --------------------------------------------------------------------

theorem notFrameset (hb : b.Sound) : b.notFrameset.Sound := hb.same rfl rfl

theorem mergeBody (hb : b.Sound) (ht : Written tag.attributes) : (b.mergeBody tag).Sound := by
  unfold Builder.mergeBody
  split
  · exact .ite hb (same (hb.withArena (hb.elements.addMissing _ ht)) rfl rfl)
  · exact hb

theorem openFrameset (hb : b.Sound) (ht : Written tag.attributes) :
    (b.openFrameset tag).Sound := by
  unfold Builder.openFrameset
  split
  · next body _ _ =>
    exact same (insert (withOpen (hb.withArena (hb.elements.detach body)) _) ht) rfl rfl
  · exact hb

theorem openItem (hb : b.Sound) (ht : Written tag.attributes) (closes : List String) :
    (b.openItem tag closes).Sound := by
  have hopen := hb.notFrameset
  unfold Builder.openItem
  generalize b.notFrameset = b at hopen
  refine insert (closeParagraphInScope ?_) ht
  split
  · exact .ite ((hopen.closeImpliedExcept _).popThroughName _) hopen
  · exact hopen

theorem openForm (hb : b.Sound) (ht : Written tag.attributes) : (b.openForm tag).Sound := by
  have hform := hb.closeParagraphInScope.insert ht
  exact .ite hb (.ite hform (hform.same rfl rfl))

theorem openButton (hb : b.Sound) (ht : Written tag.attributes) : (b.openButton tag).Sound :=
  notFrameset (insert (reconstruct (.ite ((hb.closeImplied _).popThroughName _) hb)) ht)

theorem openSelect (hb : b.Sound) (ht : Written tag.attributes) : (b.openSelect tag).Sound :=
  (hb.reconstruct.insert ht).notFrameset.same rfl rfl

theorem insertWithin (hb : b.Sound) (ht : Written tag.attributes) : (b.insertWithin tag).Sound :=
  (hb.reconstruct.insertVoid ht).notFrameset

theorem openForeign (hb : b.Sound) (ht : Written tag.attributes) {space : Dom.Space}
    (hspace : space ≠ .html) (name : String) : (b.openForeign space name tag).Sound :=
  .ite (hb.create (ht.suits_foreign hspace)) (hb.openNew (ht.suits_foreign hspace))

theorem startInBody (hb : b.Sound) (ht : Written tag.attributes) : (b.startInBody tag).Sound := by
  have hp := hb.closeParagraphInScope
  have hr := hb.reconstruct
  have himage : Written { tag with name := "img" }.attributes := ht
  have hskip : { b.notFrameset with skipLineBreak := true }.Sound := hb.notFrameset.same rfl rfl
  exact .ite (hb.mergeHtml ht).done <|
    .ite (hb.inHead ht) <|
    .ite (hb.mergeBody ht).done <|
    .ite (hb.openFrameset ht).done <|
    .ite (hp.insert ht).done <|
    .ite (insert (.ite hp.pop hp) ht).done <|
    .ite (done ((hp.insert ht).notFrameset.same rfl rfl)) <|
    .ite (hb.openForm ht).done <|
    .ite (hb.openItem ht _).done <|
    .ite (hb.openItem ht _).done <|
    .ite (done ((hp.insert ht).same rfl rfl)) <|
    .ite (hb.openButton ht).done <|
    .ite (hb.closeOpenLink.reconstruct.insertFormatting ht).done <|
    .ite (hr.insertFormatting ht).done <|
    .ite (insertFormatting (.ite (hr.closeFormatting _).reconstruct hr) ht).done <|
    .ite (hr.insert ht).pushMarker.notFrameset.done <|
    .ite (done (same (notFrameset (insert (.ite hb hp) ht)) rfl rfl)) <|
    .ite (hb.insertWithin ht).done <|
    .ite (done (.ite (hr.insertVoid ht) (hb.insertWithin ht))) <|
    .ite (hb.insertVoid ht).done <|
    .ite (hp.insertVoid ht).notFrameset.done <|
    .ite (hb.insertWithin himage).done <|
    .ite (hskip.insertText ht .rcdata).done <|
    .ite (hp.reconstruct.notFrameset.insertText ht .rawtext).done <|
    .ite (hb.notFrameset.insertText ht .rawtext).done <|
    .ite (hb.insertText ht .rawtext).done <|
    .ite (hb.openSelect ht).done <|
    .ite (insert (reconstruct (.ite hb.pop hb)) ht).done <|
    .ite (insert (.ite (hb.closeImplied _) hb) ht).done <|
    .ite (insert (.ite (hb.closeImpliedExcept _) hb) ht).done <|
    .ite (hb.openForeign ht (by decide) _).done <|
    .ite (hb.openForeign ht (by decide) _).done <|
    .ite hb.done (hr.insert ht).done

-- --------------------------------------------------------------------
-- End tags in the body
-- --------------------------------------------------------------------

theorem closeBlock (hb : b.Sound) (name : String) : (b.closeBlock name).Sound :=
  .ite ((hb.closeImplied _).popThroughName _) hb

theorem closeForm (hb : b.Sound) : b.closeForm.Sound := by
  refine .ite (hb.closeBlock _) ?_
  split
  · exact hb
  · next form _ =>
    have hnone : { b with form := none }.Sound := hb.same rfl rfl
    exact .ite ((hnone.closeImplied _).close form) hnone

theorem closeItem (hb : b.Sound) (ends : Dom.Tag → Bool) (name : String) :
    (b.closeItem ends name).Sound :=
  .ite ((hb.closeImpliedExcept _).popThroughName _) hb

theorem closeHeading (hb : b.Sound) : b.closeHeading.Sound :=
  .ite ((hb.closeImplied _).popThrough _) hb

theorem endInBody (hb : b.Sound) (name : String) : (b.endInBody name).Sound :=
  .ite hb.closeTemplate.done <|
    .ite (done (.ite (hb.same rfl rfl) hb)) <|
    .ite (.ite (hb.leave _ trivial) hb.done) <|
    .ite (hb.closeBlock _).done <|
    .ite hb.closeForm.done <|
    .ite (closeParagraph (.ite hb (hb.insertMissing _))).done <|
    .ite (hb.closeItem _ _).done <|
    .ite (hb.closeItem _ _).done <|
    .ite hb.closeHeading.done <|
    .ite (hb.closeFormatting _).done <|
    .ite (done (.ite (hb.closeBlock _).clearFormatting hb)) <|
    .ite (hb.insertWithin written_nil).done (hb.closeOrdinary _).done

-- --------------------------------------------------------------------
-- Bodies and templates
-- --------------------------------------------------------------------

theorem stop (hb : b.Sound) : b.stop.Sound :=
  .ite hb.done (hb.leaveTemplate.again trivial)

theorem inBody (hb : b.Sound) (ht : t.Written) : (b.inBody t).Sound := by
  unfold Builder.inBody
  cases t with
  | char c =>
    have hr := hb.reconstruct
    exact .ite hb.done (char (.ite hr hr.notFrameset) c).done
  | comment s => exact (hb.comment s).done
  | startTag tag => exact hb.startInBody ht
  | endTag name => exact hb.endInBody name
  | doctype _ => exact hb.done
  | stop => exact hb.stop

theorem leaveInTemplate (hb : b.Sound) (m : Mode) (ht : t.Written) :
    (b.leaveInTemplate m t).Sound :=
  again (hb.same rfl rfl) ht

theorem inTemplate (hb : b.Sound) (ht : t.Written) : (b.inTemplate t).Sound := by
  unfold Builder.inTemplate
  cases t with
  | char c => exact .ite hb.done (hb.inBody ht)
  | comment s => exact (hb.comment s).done
  | startTag tag =>
    exact .ite (hb.inHead ht) <|
      .ite (hb.leaveInTemplate _ ht) <|
      .ite (hb.leaveInTemplate _ ht) <|
      .ite (hb.leaveInTemplate _ ht) <|
      .ite (hb.leaveInTemplate _ ht) (hb.leaveInTemplate _ ht)
  | endTag name => exact done (.ite hb.closeTemplate hb)
  | doctype _ => exact hb.done
  | stop => exact hb.stop

theorem inText (hb : b.Sound) (ht : t.Written) : (b.inText t).Sound := by
  unfold Builder.inText
  cases t with
  | char c => exact (hb.char c).done
  | endTag _ => exact done (hb.pop.same rfl rfl)
  | stop => exact hb.pop.leave _ ht
  | startTag _ | comment _ | doctype _ => exact hb.done

-- --------------------------------------------------------------------
-- After the body
-- --------------------------------------------------------------------

theorem afterBody (hb : b.Sound) (ht : t.Written) : (b.afterBody t).Sound := by
  unfold Builder.afterBody
  cases t with
  | char c => exact .ite (hb.inBody ht) (hb.leave _ ht)
  | comment s => exact (hb.commentIn _ s).done
  | startTag tag => exact .ite (hb.mergeHtml ht).done (hb.leave _ ht)
  | endTag name => exact .ite (done (hb.same rfl rfl)) (hb.leave _ ht)
  | doctype _ | stop => exact hb.done

theorem afterAfterBody (hb : b.Sound) (ht : t.Written) : (b.afterAfterBody t).Sound := by
  unfold Builder.afterAfterBody
  cases t with
  | char c => exact .ite (hb.inBody ht) (hb.leave _ ht)
  | comment s => exact (hb.commentIn _ s).done
  | startTag tag => exact .ite (hb.mergeHtml ht).done (hb.leave _ ht)
  | endTag name => exact hb.leave _ ht
  | doctype _ | stop => exact hb.done

theorem inFrameset (hb : b.Sound) (ht : t.Written) : (b.inFrameset t).Sound := by
  unfold Builder.inFrameset
  cases t with
  | char c => exact done (.ite (hb.char c) hb)
  | comment s => exact (hb.comment s).done
  | startTag tag =>
    exact .ite (hb.mergeHtml ht).done <|
      .ite (hb.insert ht).done <|
      .ite (hb.insertVoid ht).done <|
      .ite (hb.inHead ht) hb.done
  | endTag name => exact .ite (done (.ite hb.pop (hb.pop.same rfl rfl))) hb.done
  | doctype _ | stop => exact hb.done

theorem afterFrameset (hb : b.Sound) (ht : t.Written) : (b.afterFrameset t).Sound := by
  unfold Builder.afterFrameset
  cases t with
  | char c => exact done (.ite (hb.char c) hb)
  | comment s => exact (hb.comment s).done
  | startTag tag => exact .ite (hb.mergeHtml ht).done <| .ite (hb.inHead ht) hb.done
  | endTag name => exact done (.ite (hb.same rfl rfl) hb)
  | doctype _ | stop => exact hb.done

theorem afterAfterFrameset (hb : b.Sound) (ht : t.Written) : (b.afterAfterFrameset t).Sound := by
  unfold Builder.afterAfterFrameset
  cases t with
  | char c => exact .ite (hb.inBody ht) hb.done
  | comment s => exact (hb.commentIn _ s).done
  | startTag tag => exact .ite (hb.mergeHtml ht).done <| .ite (hb.inHead ht) hb.done
  | endTag _ | doctype _ | stop => exact hb.done

-- --------------------------------------------------------------------
-- Tables
-- --------------------------------------------------------------------

theorem foster (hb : b.Sound) (ht : t.Written) : (b.foster t).Sound := by
  have hfostering : { b with fostering := true }.Sound := hb.same rfl rfl
  have h := hfostering.inBody ht
  exact ⟨h.builder.same rfl rfl, h.token⟩

theorem charInTable (hb : b.Sound) (ht : t.Written) : (b.charInTable t).Sound :=
  .ite (again (hb.same rfl rfl) ht) (hb.foster ht)

theorem settlePending (hb : b.Sound) : b.settlePending.Sound := by
  have hnone : { b with pending := [] }.Sound := hb.same rfl rfl
  refine .ite ?_ ?_
  · exact List.foldlRecOn _ _ hnone fun _ hb c _ => hb.char c
  · exact List.foldlRecOn _ _ hnone fun _ hb c _ => (hb.foster (t := .char c) trivial).builder

theorem inTableText (hb : b.Sound) (ht : t.Written) : (b.inTableText t).Sound := by
  have hout := hb.settlePending.leave b.resume ht
  unfold Builder.inTableText
  cases t with
  | char c => exact done (.ite hb (hb.same rfl rfl))
  | startTag _ | endTag _ | comment _ | doctype _ | stop => exact hout

theorem openCaption (hb : b.Sound) (ht : Written tag.attributes) : (b.openCaption tag).Sound :=
  ((hb.popTo _).pushMarker.insert ht).same rfl rfl

theorem hiddenInput (hb : b.Sound) (ht : Written tag.attributes) : (b.hiddenInput tag).Sound :=
  .ite (hb.insertVoid ht).done (hb.foster ht)

theorem formInTable (hb : b.Sound) (ht : Written tag.attributes) : (b.formInTable tag).Sound :=
  .ite hb (same (hb.create ht.suits) rfl rfl)

theorem startInTable (hb : b.Sound) (ht : Written tag.attributes) :
    (b.startInTable tag).Sound := by
  have hcontext := hb.popTo isTableContext
  exact .ite (hb.openCaption ht).done <|
    .ite (done ((hcontext.insert ht).same rfl rfl)) <|
    .ite ((hcontext.insertMissing _).leave _ ht) <|
    .ite (done ((hcontext.insert ht).same rfl rfl)) <|
    .ite ((hcontext.insertMissing _).leave _ ht) <|
    .ite (.ite ((hb.popThroughName _).resetMode.again ht) hb.done) <|
    .ite (hb.inHead ht) <|
    .ite (hb.hiddenInput ht) <|
    .ite (hb.formInTable ht).done (hb.foster ht)

theorem endInTable (hb : b.Sound) (name : String) : (b.endInTable name).Sound :=
  .ite (done (.ite (hb.popThroughName _).resetMode hb)) <|
    .ite hb.done <|
    .ite hb.closeTemplate.done (hb.foster trivial)

theorem inTable (hb : b.Sound) (ht : t.Written) : (b.inTable t).Sound := by
  unfold Builder.inTable
  cases t with
  | char _ => exact hb.charInTable ht
  | comment s => exact (hb.comment s).done
  | startTag tag => exact hb.startInTable ht
  | endTag name => exact hb.endInTable name
  | doctype _ => exact hb.done
  | stop => exact hb.stop

-- --------------------------------------------------------------------
-- Captions and columns
-- --------------------------------------------------------------------

theorem closeCaption (hb : b.Sound) : b.closeCaption.Sound :=
  ((hb.closeImplied _).popThroughName _).clearFormatting.same rfl rfl

theorem inCaption (hb : b.Sound) (ht : t.Written) : (b.inCaption t).Sound := by
  unfold Builder.inCaption
  cases t with
  | startTag tag => exact .ite (.ite (hb.closeCaption.again ht) hb.done) (hb.inBody ht)
  | endTag name =>
    exact .ite (.ite (hb.closeCaption.again ht) hb.done) <|
      .ite (done (.ite hb.closeCaption hb)) <|
      .ite hb.done (hb.inBody ht)
  | char _ | comment _ | doctype _ | stop => exact hb.inBody ht

theorem inColumnGroup (hb : b.Sound) (ht : t.Written) : (b.inColumnGroup t).Sound := by
  have hout : Outcome.Sound
      (if b.currentIs "colgroup" then b.pop.leave .inTable t else Builder.done b) :=
    .ite (hb.pop.leave _ ht) hb.done
  unfold Builder.inColumnGroup
  cases t with
  | char c => exact .ite (hb.char c).done hout
  | comment s => exact (hb.comment s).done
  | startTag tag =>
    exact .ite (hb.mergeHtml ht).done <|
      .ite (hb.insertVoid ht).done <|
      .ite (hb.inHead ht) hout
  | endTag name =>
    exact .ite (done (.ite (hb.pop.same rfl rfl) hb)) <|
      .ite hb.done <|
      .ite hb.closeTemplate.done hout
  | doctype _ => exact hb.done
  | stop => exact hb.stop

-- --------------------------------------------------------------------
-- Rows and cells
-- --------------------------------------------------------------------

theorem closeTableBody (hb : b.Sound) : b.closeTableBody.Sound :=
  (hb.popTo isTableBodyContext).pop.same rfl rfl

theorem inTableBody (hb : b.Sound) (ht : t.Written) : (b.inTableBody t).Sound := by
  have hcontext := hb.popTo isTableBodyContext
  unfold Builder.inTableBody
  cases t with
  | startTag tag =>
    exact .ite (done ((hcontext.insert ht).same rfl rfl)) <|
      .ite ((hcontext.insertMissing _).leave _ ht) <|
      .ite (.ite (hb.closeTableBody.again ht) hb.done) (hb.inTable ht)
  | endTag name =>
    exact .ite (done (.ite hb.closeTableBody hb)) <|
      .ite (.ite (hb.closeTableBody.again ht) hb.done) <|
      .ite hb.done (hb.inTable ht)
  | char _ | comment _ | doctype _ | stop => exact hb.inTable ht

theorem closeRow (hb : b.Sound) : b.closeRow.Sound :=
  (hb.popTo isTableRowContext).pop.same rfl rfl

theorem openCell (hb : b.Sound) (ht : Written tag.attributes) : (b.openCell tag).Sound :=
  ((hb.popTo _).insert ht).pushMarker.same rfl rfl

theorem inRow (hb : b.Sound) (ht : t.Written) : (b.inRow t).Sound := by
  unfold Builder.inRow
  cases t with
  | startTag tag =>
    exact .ite (hb.openCell ht).done <|
      .ite (.ite (hb.closeRow.again ht) hb.done) (hb.inTable ht)
  | endTag name =>
    exact .ite (done (.ite hb.closeRow hb)) <|
      .ite (.ite (hb.closeRow.again ht) hb.done) <|
      .ite (.ite (.ite (hb.closeRow.again ht) hb.done) hb.done) <|
      .ite hb.done (hb.inTable ht)
  | char _ | comment _ | doctype _ | stop => exact hb.inTable ht

theorem closeCell (hb : b.Sound) : b.closeCell.Sound :=
  ((hb.closeImplied _).popThrough _).clearFormatting.same rfl rfl

theorem inCell (hb : b.Sound) (ht : t.Written) : (b.inCell t).Sound := by
  unfold Builder.inCell
  cases t with
  | startTag tag => exact .ite (.ite (hb.closeCell.again ht) hb.done) (hb.inBody ht)
  | endTag name =>
    have hcell := ((hb.closeImplied closesByItself).popThroughName name).clearFormatting
    exact .ite (.ite (done (hcell.same rfl rfl)) hb.done) <|
      .ite hb.done <|
      .ite (.ite (hb.closeCell.again ht) hb.done) (hb.inBody ht)
  | char _ | comment _ | doctype _ | stop => exact hb.inBody ht

-- --------------------------------------------------------------------
-- Choices
-- --------------------------------------------------------------------

theorem closeSelect (hb : b.Sound) : b.closeSelect.Sound := (hb.popThroughName _).resetMode

theorem popIf (hb : b.Sound) (name : String) : (b.popIf name).Sound := .ite hb.pop hb

theorem closeOptionGroup (hb : b.Sound) : b.closeOptionGroup.Sound := by
  refine popIf ?_ _
  split
  · exact .ite hb.pop hb
  · exact hb

theorem inSelect (hb : b.Sound) (ht : t.Written) : (b.inSelect t).Sound := by
  unfold Builder.inSelect
  cases t with
  | char c => exact done (.ite hb (hb.char c))
  | comment s => exact (hb.comment s).done
  | startTag tag =>
    exact .ite (hb.mergeHtml ht).done <|
      .ite ((hb.popIf _).insert ht).done <|
      .ite (((hb.popIf _).popIf _).insert ht).done <|
      .ite (done (.ite hb.closeSelect hb)) <|
      .ite (.ite (hb.closeSelect.again ht) hb.done) <|
      .ite (hb.inHead ht) hb.done
  | endTag name =>
    exact .ite hb.closeOptionGroup.done <|
      .ite (hb.popIf _).done <|
      .ite (done (.ite hb.closeSelect hb)) <|
      .ite hb.closeTemplate.done hb.done
  | doctype _ => exact hb.done
  | stop => exact hb.stop

theorem inSelectInTable (hb : b.Sound) (ht : t.Written) : (b.inSelectInTable t).Sound := by
  unfold Builder.inSelectInTable
  cases t with
  | startTag tag => exact .ite (hb.closeSelect.again ht) (hb.inSelect ht)
  | endTag name => exact .ite (.ite (hb.closeSelect.again ht) hb.done) (hb.inSelect ht)
  | char _ | comment _ | doctype _ | stop => exact hb.inSelect ht

-- --------------------------------------------------------------------
-- Drawings and formulas
-- --------------------------------------------------------------------

theorem byMode (hb : b.Sound) (ht : t.Written) : (b.byMode t).Sound := by
  unfold Builder.byMode
  cases b.mode with
  | initial => exact hb.initial ht
  | beforeHtml => exact hb.beforeHtml ht
  | beforeHead => exact hb.beforeHead ht
  | inHead => exact hb.inHead ht
  | afterHead => exact hb.afterHead ht
  | inBody => exact hb.inBody ht
  | inText => exact hb.inText ht
  | inTable => exact hb.inTable ht
  | inTableText => exact hb.inTableText ht
  | inCaption => exact hb.inCaption ht
  | inColumnGroup => exact hb.inColumnGroup ht
  | inTableBody => exact hb.inTableBody ht
  | inRow => exact hb.inRow ht
  | inCell => exact hb.inCell ht
  | inSelect => exact hb.inSelect ht
  | inSelectInTable => exact hb.inSelectInTable ht
  | inTemplate => exact hb.inTemplate ht
  | afterBody => exact hb.afterBody ht
  | inFrameset => exact hb.inFrameset ht
  | afterFrameset => exact hb.afterFrameset ht
  | afterAfterBody => exact hb.afterAfterBody ht
  | afterAfterFrameset => exact hb.afterAfterFrameset ht

theorem startForeign (hb : b.Sound) (ht : Written tag.attributes)
    (hspace : b.currentTag.space ≠ .html) : (b.startForeign tag).Sound :=
  .ite (hb.create (ht.suits_foreign hspace)) (hb.openNew (ht.suits_foreign hspace))

/-- The end tag of a foreign element closes elements and does nothing else. -/
theorem closeForeign? (hb : b.Sound) {name : String} (h : b.closeForeign? name = some b') :
    b'.Sound := by
  have hgo : ∀ first open_, closeForeign?.go b name first open_ = some b' → b'.Sound := by
    intro first open_ hgo
    fun_induction closeForeign?.go b name first open_ with
    | case1 | case2 => cases hgo; exact hb
    | case3 => cases hgo
    | case4 => cases hgo; exact hb.withOpen _
    | case5 _ _ _ _ _ _ ih => exact ih hgo
  exact hgo true b.open_ h

theorem inForeign (hb : b.Sound) (ht : t.Written) (hspace : b.currentTag.space ≠ .html) :
    (b.inForeign t).Sound := by
  have hleave : b.leaveForeign.Sound := hb.popTo _
  unfold Builder.inForeign
  cases t with
  | char c =>
    exact .ite (hb.char _).done (char (.ite hb hb.notFrameset) c).done
  | comment s => exact (hb.comment s).done
  | startTag tag => exact .ite (hleave.byMode ht) (hb.startForeign ht hspace).done
  | endTag name =>
    refine .ite (hleave.byMode ht) ?_
    split
    · next h => exact (hb.closeForeign? h).done
    · exact hb.byMode ht
  | doctype _ | stop => exact hb.done

end Builder.Sound

end PageRecords.Html
