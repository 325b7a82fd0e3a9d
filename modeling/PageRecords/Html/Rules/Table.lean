import PageRecords.Html.Rules.Body

/-!
# Rules of tables

What a table does not hold is read as in the body and goes before the table.
-/

namespace PageRecords.Html

namespace Builder

/-- Reads a token as in the body, with what it inserts put before the table. -/
def foster (b : Builder) (t : Token) : Outcome :=
  let (b, t) := { b with fostering := true }.inBody t
  ({ b with fostering := false }, t)

/-- Characters are held back until it is known whether they are all blank. -/
def charInTable (b : Builder) (t : Token) : Outcome :=
  if isTablePart b.currentTag then { b with resume := b.mode }.leave .inTableText t
  else b.foster t

/-- Settles the characters held back. -/
def settlePending (b : Builder) : Builder :=
  let cs := b.pending.reverse
  let b := { b with pending := [] }
  if cs.all isBlank then cs.foldl Builder.char b
  else cs.foldl (fun b c => (b.foster (.char c)).1) b

def inTableText (b : Builder) (t : Token) : Outcome :=
  match t with
  | .char c => done (if c = '\x00' then b else { b with pending := c :: b.pending })
  | t => b.settlePending.leave b.resume t

def openCaption (b : Builder) (t : StartTag) : Builder :=
  { ((b.popTo isTableContext).pushMarker.insert t) with mode := .inCaption }

def hiddenInput (b : Builder) (t : StartTag) : Outcome :=
  if isHidden t then done (b.insertVoid t) else b.foster (.startTag t)

def formInTable (b : Builder) (t : StartTag) : Builder :=
  if b.hasOpen "template" || b.form.isSome then b
  else
    let (h, b) := b.create .html t.name t.attributes
    { b with form := some h }

def bodyNames : List String := ["tbody", "tfoot", "thead"]

def cellNames : List String := ["td", "th"]

def startInTable (b : Builder) (t : StartTag) : Outcome :=
  let name := t.name
  if name = "caption" then done (b.openCaption t)
  else if name = "colgroup" then
    done { (b.popTo isTableContext).insert t with mode := .inColumnGroup }
  else if name = "col" then
    ((b.popTo isTableContext).insertMissing "colgroup").leave .inColumnGroup (.startTag t)
  else if bodyNames.contains name then
    done { (b.popTo isTableContext).insert t with mode := .inTableBody }
  else if name = "tr" || cellNames.contains name then
    ((b.popTo isTableContext).insertMissing "tbody").leave .inTableBody (.startTag t)
  else if name = "table" then
    if b.nameInScope endsTableScope "table" then
      ((b.popThroughName "table").resetMode, some (.startTag t))
    else done b
  else if ["style", "script", "template"].contains name then b.inHead (.startTag t)
  else if name = "input" then b.hiddenInput t
  else if name = "form" then done (b.formInTable t)
  else b.foster (.startTag t)

/-- End tags that a table has no use for. -/
def ignoredInTable : List String :=
  ["body", "caption", "col", "colgroup", "html", "tbody", "td", "tfoot", "th", "thead", "tr"]

def endInTable (b : Builder) (name : String) : Outcome :=
  if name = "table" then
    done (if b.nameInScope endsTableScope "table" then (b.popThroughName "table").resetMode else b)
  else if ignoredInTable.contains name then done b
  else if name = "template" then done b.closeTemplate
  else b.foster (.endTag name)

def inTable (b : Builder) (t : Token) : Outcome :=
  match t with
  | .char _ => b.charInTable t
  | .comment s => done (b.comment s)
  | .startTag tag => b.startInTable tag
  | .endTag name => b.endInTable name
  | .doctype _ => done b
  | .stop => b.stop

-- --------------------------------------------------------------------
-- Captions and columns
-- --------------------------------------------------------------------

def closeCaption (b : Builder) : Builder :=
  { ((b.closeImplied closesByItself).popThroughName "caption").clearFormatting with
    mode := .inTable }

def tableNames : List String :=
  ["caption", "col", "colgroup", "tbody", "td", "tfoot", "th", "thead", "tr"]

def inCaption (b : Builder) (t : Token) : Outcome :=
  let inScope := b.nameInScope endsTableScope "caption"
  match t with
  | .startTag tag =>
    if tableNames.contains tag.name then if inScope then (b.closeCaption, some t) else done b
    else b.inBody t
  | .endTag name =>
    if name = "table" then if inScope then (b.closeCaption, some t) else done b
    else if name = "caption" then done (if inScope then b.closeCaption else b)
    else if ignoredInTable.contains name then done b
    else b.inBody t
  | t => b.inBody t

def inColumnGroup (b : Builder) (t : Token) : Outcome :=
  let out (_ : Unit) := if b.currentIs "colgroup" then b.pop.leave .inTable t else done b
  match t with
  | .char c => if isBlank c then done (b.char c) else out ()
  | .comment s => done (b.comment s)
  | .startTag tag =>
    if tag.name = "html" then done (b.mergeHtml tag)
    else if tag.name = "col" then done (b.insertVoid tag)
    else if tag.name = "template" then b.inHead t
    else out ()
  | .endTag name =>
    if name = "colgroup" then
      done (if b.currentIs "colgroup" then { b.pop with mode := .inTable } else b)
    else if name = "col" then done b
    else if name = "template" then done b.closeTemplate
    else out ()
  | .doctype _ => done b
  | .stop => b.stop

-- --------------------------------------------------------------------
-- Rows and cells
-- --------------------------------------------------------------------

/-- Leaves the section of rows. -/
def closeTableBody (b : Builder) : Builder :=
  { (b.popTo isTableBodyContext).pop with mode := .inTable }

/-- Start tags that end the section of rows they stand in. -/
def outsideRows : List String := ["caption", "col", "colgroup", "tbody", "tfoot", "thead"]

def inTableBody (b : Builder) (t : Token) : Outcome :=
  let out (_ : Unit) :=
    if b.inScope endsTableScope fun h => isHtml ["table", "tbody", "tfoot"] (b.tag h) then
      (b.closeTableBody, some t)
    else done b
  match t with
  | .startTag tag =>
    if tag.name = "tr" then done { (b.popTo isTableBodyContext).insert tag with mode := .inRow }
    else if cellNames.contains tag.name then
      ((b.popTo isTableBodyContext).insertMissing "tr").leave .inRow t
    else if outsideRows.contains tag.name then out ()
    else b.inTable t
  | .endTag name =>
    if bodyNames.contains name then
      done (if b.nameInScope endsTableScope name then b.closeTableBody else b)
    else if name = "table" then out ()
    else if ignoredInTable.contains name then done b
    else b.inTable t
  | t => b.inTable t

def closeRow (b : Builder) : Builder :=
  { (b.popTo isTableRowContext).pop with mode := .inTableBody }

def openCell (b : Builder) (t : StartTag) : Builder :=
  { ((b.popTo isTableRowContext).insert t).pushMarker with mode := .inCell }

def inRow (b : Builder) (t : Token) : Outcome :=
  let inRow := b.nameInScope endsTableScope "tr"
  let out (_ : Unit) := if inRow then (b.closeRow, some t) else done b
  match t with
  | .startTag tag =>
    if cellNames.contains tag.name then done (b.openCell tag)
    else if tag.name = "tr" || outsideRows.contains tag.name then out ()
    else b.inTable t
  | .endTag name =>
    if name = "tr" then done (if inRow then b.closeRow else b)
    else if name = "table" then out ()
    else if bodyNames.contains name then
      if b.nameInScope endsTableScope name then out () else done b
    else if ignoredInTable.contains name then done b
    else b.inTable t
  | t => b.inTable t

/-- Closes the cell, whichever kind it is. -/
def closeCell (b : Builder) : Builder :=
  { ((b.closeImplied closesByItself).popThrough isTableCell).clearFormatting with mode := .inRow }

def inCell (b : Builder) (t : Token) : Outcome :=
  match t with
  | .startTag tag =>
    if tableNames.contains tag.name then
      if b.inScope endsTableScope fun h => isTableCell (b.tag h) then (b.closeCell, some t)
      else done b
    else b.inBody t
  | .endTag name =>
    if cellNames.contains name then
      if b.nameInScope endsTableScope name then
        let b := ((b.closeImplied closesByItself).popThroughName name).clearFormatting
        done { b with mode := .inRow }
      else done b
    else if ["body", "caption", "col", "colgroup", "html"].contains name then done b
    else if name = "table" || name = "tr" || bodyNames.contains name then
      if b.nameInScope endsTableScope name then (b.closeCell, some t) else done b
    else b.inBody t
  | t => b.inBody t

-- --------------------------------------------------------------------
-- Choices
-- --------------------------------------------------------------------

def closeSelect (b : Builder) : Builder := (b.popThroughName "select").resetMode

def popIf (b : Builder) (name : String) : Builder := if b.currentIs name then b.pop else b

/-- The end of a group of options, of which the last may still be open. -/
def closeOptionGroup (b : Builder) : Builder :=
  let b := match b.open_ with
    | option :: group :: _ =>
      if b.tag option = html "option" && b.tag group = html "optgroup" then b.pop else b
    | _ => b
  b.popIf "optgroup"

def inSelect (b : Builder) (t : Token) : Outcome :=
  let inScope := b.nameInScope endsSelectScope "select"
  match t with
  | .char c => done (if c = '\x00' then b else b.char c)
  | .comment s => done (b.comment s)
  | .startTag tag =>
    if tag.name = "html" then done (b.mergeHtml tag)
    else if tag.name = "option" then done ((b.popIf "option").insert tag)
    else if tag.name = "optgroup" then
      done (((b.popIf "option").popIf "optgroup").insert tag)
    else if tag.name = "select" then done (if inScope then b.closeSelect else b)
    else if ["input", "keygen", "textarea"].contains tag.name then
      if inScope then (b.closeSelect, some t) else done b
    else if tag.name = "script" || tag.name = "template" then b.inHead t
    else done b
  | .endTag name =>
    if name = "optgroup" then done b.closeOptionGroup
    else if name = "option" then done (b.popIf "option")
    else if name = "select" then done (if inScope then b.closeSelect else b)
    else if name = "template" then done b.closeTemplate
    else done b
  | .doctype _ => done b
  | .stop => b.stop

def outsideSelect : List String :=
  ["caption", "table", "tbody", "tfoot", "thead", "tr", "td", "th"]

def inSelectInTable (b : Builder) (t : Token) : Outcome :=
  match t with
  | .startTag tag =>
    if outsideSelect.contains tag.name then (b.closeSelect, some t) else b.inSelect t
  | .endTag name =>
    if outsideSelect.contains name then
      if b.nameInScope endsTableScope name then (b.closeSelect, some t) else done b
    else b.inSelect t
  | t => b.inSelect t

end Builder

end PageRecords.Html
