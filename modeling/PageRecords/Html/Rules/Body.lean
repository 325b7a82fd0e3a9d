import PageRecords.Html.Rules.Head

/-!
# Rules of the body

Also those of templates, since the end of the page is read alike in both.
-/

namespace PageRecords.Html

namespace Builder

def notFrameset (b : Builder) : Builder := { b with framesetOk := false }

-- --------------------------------------------------------------------
-- Start tags
-- --------------------------------------------------------------------

/-- Blocks: a paragraph around the place ends. -/
def blockNames : List String :=
  ["address", "article", "aside", "blockquote", "center", "details", "dialog", "dir", "div", "dl",
   "fieldset", "figcaption", "figure", "footer", "header", "hgroup", "main", "menu", "nav", "ol",
   "p", "section", "summary", "ul"]

def formattingNames : List String :=
  ["b", "big", "code", "em", "font", "i", "s", "small", "strike", "strong", "tt", "u"]

/-- Elements whose tags mean something only in tables, framesets or the page's frame. -/
def misplacedNames : List String :=
  ["caption", "col", "colgroup", "frame", "head", "tbody", "td", "tfoot", "th", "thead", "tr"]

def isHidden (t : StartTag) : Bool :=
  match t.attributes.find? (·.name = "type") with
  | some a => a.value.toLower = "hidden"
  | none => false

/-- Another start of the body only adds attributes. -/
def mergeBody (b : Builder) (t : StartTag) : Builder :=
  match b.body? with
  | some body =>
    if b.hasOpen "template" then b
    else { b with framesetOk := false, arena := b.arena.addMissing body t.attributes }
  | none => b

/-- A frameset takes the place of a body in which nothing counts yet. -/
def openFrameset (b : Builder) (t : StartTag) : Builder :=
  match b.framesetOk, b.body? with
  | true, some body =>
    let b := { b with arena := b.arena.detach body, open_ := [b.htmlElement] }
    { b.insert t with mode := .inFrameset }
  | _, _ => b

/-- An item ends the one before it in the same list. -/
def openItem (b : Builder) (t : StartTag) (closes : List String) : Builder :=
  let b := b.notFrameset
  let stops (h : Handle) :=
    isHtml closes (b.tag h) ||
      (isSpecial (b.tag h) && !isHtml ["address", "div", "p"] (b.tag h))
  let b := match b.open_.find? stops with
    | some h =>
      let name := (b.tag h).name
      if isHtml closes (b.tag h) then (b.closeImpliedExcept name).popThroughName name else b
    | none => b
  b.closeParagraphInScope.insert t

def openForm (b : Builder) (t : StartTag) : Builder :=
  let inTemplate := b.hasOpen "template"
  if b.form.isSome && !inTemplate then b
  else
    let b := b.closeParagraphInScope.insert t
    if inTemplate then b else { b with form := some b.current }

def openButton (b : Builder) (t : StartTag) : Builder :=
  let b :=
    if b.nameInScope endsScope "button" then
      (b.closeImplied closesByItself).popThroughName "button"
    else b
  (b.reconstruct.insert t).notFrameset

def openSelect (b : Builder) (t : StartTag) : Builder :=
  let inTable := [Mode.inTable, .inCaption, .inTableBody, .inRow, .inCell].contains b.mode
  { (b.reconstruct.insert t).notFrameset with
    mode := if inTable then .inSelectInTable else .inSelect }

/-- Inserts an element without content. -/
def insertWithin (b : Builder) (t : StartTag) : Builder :=
  (b.reconstruct.insertVoid t).notFrameset

/-- Enters a drawing or a formula. -/
def openForeign (b : Builder) (space : Dom.Space) (name : String) (t : StartTag) : Builder :=
  let attributes := Foreign.attributes space t.attributes
  if t.selfClosing then (b.create space name attributes).2
  else (b.openNew space name attributes).2

def startInBody (b : Builder) (t : StartTag) : Outcome :=
  let name := t.name
  if name = "html" then done (b.mergeHtml t)
  else if headNames.contains name then b.inHead (.startTag t)
  else if name = "body" then done (b.mergeBody t)
  else if name = "frameset" then done (b.openFrameset t)
  else if blockNames.contains name then done (b.closeParagraphInScope.insert t)
  else if headingNames.contains name then
    let b := b.closeParagraphInScope
    done ((if isHeading b.currentTag then b.pop else b).insert t)
  else if name = "pre" || name = "listing" then
    done { (b.closeParagraphInScope.insert t).notFrameset with skipLineBreak := true }
  else if name = "form" then done (b.openForm t)
  else if name = "li" then done (b.openItem t ["li"])
  else if name = "dd" || name = "dt" then done (b.openItem t ["dd", "dt"])
  else if name = "plaintext" then
    done { b.closeParagraphInScope.insert t with reading := some .plaintext }
  else if name = "button" then done (b.openButton t)
  else if name = "a" then done (b.closeOpenLink.reconstruct.insertFormatting t)
  else if formattingNames.contains name then done (b.reconstruct.insertFormatting t)
  else if name = "nobr" then
    let b := b.reconstruct
    let b :=
      if b.nameInScope endsScope "nobr" then (b.closeFormatting "nobr").reconstruct else b
    done (b.insertFormatting t)
  else if ["applet", "marquee", "object"].contains name then
    done (b.reconstruct.insert t).pushMarker.notFrameset
  else if name = "table" then
    let b := if b.old then b else b.closeParagraphInScope
    done { (b.insert t).notFrameset with mode := .inTable }
  else if ["area", "br", "embed", "img", "keygen", "wbr"].contains name then
    done (b.insertWithin t)
  else if name = "input" then
    done (if isHidden t then b.reconstruct.insertVoid t else b.insertWithin t)
  else if ["param", "source", "track"].contains name then done (b.insertVoid t)
  else if name = "hr" then done (b.closeParagraphInScope.insertVoid t).notFrameset
  else if name = "image" then done (b.insertWithin { t with name := "img" })
  else if name = "textarea" then
    done ({ b.notFrameset with skipLineBreak := true }.insertText t .rcdata)
  else if name = "xmp" then
    done (b.closeParagraphInScope.reconstruct.notFrameset.insertText t .rawtext)
  else if name = "iframe" then done (b.notFrameset.insertText t .rawtext)
  else if name = "noembed" || name = "noscript" then done (b.insertText t .rawtext)
  else if name = "select" then done (b.openSelect t)
  else if name = "optgroup" || name = "option" then
    done ((if b.currentIs "option" then b.pop else b).reconstruct.insert t)
  else if name = "rb" || name = "rtc" then
    let b := if b.nameInScope endsScope "ruby" then b.closeImplied closesByItself else b
    done (b.insert t)
  else if name = "rp" || name = "rt" then
    let b := if b.nameInScope endsScope "ruby" then b.closeImpliedExcept "rtc" else b
    done (b.insert t)
  else if name = "math" then done (b.openForeign .mathml name t)
  else if name = "svg" then done (b.openForeign .svg name t)
  else if misplacedNames.contains name then done b
  else done (b.reconstruct.insert t)

-- --------------------------------------------------------------------
-- End tags
-- --------------------------------------------------------------------

/-- Blocks that their end tags close with all that is open in them. -/
def closableNames : List String :=
  ["address", "article", "aside", "blockquote", "button", "center", "details", "dialog", "dir",
   "div", "dl", "fieldset", "figcaption", "figure", "footer", "header", "hgroup", "listing",
   "main", "menu", "nav", "ol", "pre", "section", "summary", "ul"]

def closeBlock (b : Builder) (name : String) : Builder :=
  if b.nameInScope endsScope name then (b.closeImplied closesByItself).popThroughName name else b

def closeForm (b : Builder) : Builder :=
  if b.hasOpen "template" then b.closeBlock "form"
  else
    match b.form with
    | none => b
    | some form =>
      let b := { b with form := none }
      if b.inScope endsScope (· = form) then (b.closeImplied closesByItself).close form else b

def closeItem (b : Builder) (ends : Dom.Tag → Bool) (name : String) : Builder :=
  if b.nameInScope ends name then (b.closeImpliedExcept name).popThroughName name else b

def closeHeading (b : Builder) : Builder :=
  if b.inScope endsScope fun h => isHeading (b.tag h) then
    (b.closeImplied closesByItself).popThrough isHeading
  else b

def endInBody (b : Builder) (name : String) : Outcome :=
  if name = "template" then done b.closeTemplate
  else if name = "body" then
    done (if b.nameInScope endsScope "body" then { b with mode := .afterBody } else b)
  else if name = "html" then
    if b.nameInScope endsScope "body" then b.leave .afterBody (.endTag name) else done b
  else if closableNames.contains name then done (b.closeBlock name)
  else if name = "form" then done b.closeForm
  else if name = "p" then
    done (if b.nameInScope endsButtonScope "p" then b else b.insertMissing "p").closeParagraph
  else if name = "li" then done (b.closeItem endsListScope name)
  else if name = "dd" || name = "dt" then done (b.closeItem endsScope name)
  else if headingNames.contains name then done b.closeHeading
  else if name = "a" || name = "nobr" || formattingNames.contains name then
    done (b.closeFormatting name)
  else if ["applet", "marquee", "object"].contains name then
    done (if b.nameInScope endsScope name then (b.closeBlock name).clearFormatting else b)
  else if name = "br" then done (b.insertWithin ⟨"br", [], false⟩)
  else done (b.closeOrdinary name)

-- --------------------------------------------------------------------
-- Modes
-- --------------------------------------------------------------------

/-- The page ends; open templates end first. -/
def stop (b : Builder) : Outcome :=
  if b.templateModes.isEmpty || !b.hasOpen "template" then done b
  else
    let b := b.leaveTemplate
    (b, some .stop)

def inBody (b : Builder) (t : Token) : Outcome :=
  match t with
  | .char c =>
    if c = '\x00' then done b
    else
      let b := b.reconstruct
      done ((if isBlank c then b else b.notFrameset).char c)
  | .comment s => done (b.comment s)
  | .startTag tag => b.startInBody tag
  | .endTag name => b.endInBody name
  | .doctype _ => done b
  | .stop => b.stop

/-- Leaves a token to other rules, which hold in the template from now on. -/
def leaveInTemplate (b : Builder) (m : Mode) (t : Token) : Outcome :=
  { b with templateModes := m :: b.templateModes.drop 1 }.leave m t

def inTemplate (b : Builder) (t : Token) : Outcome :=
  match t with
  | .char c => if c = '\x00' then done b else b.inBody t
  | .comment s => done (b.comment s)
  | .startTag tag =>
    if headNames.contains tag.name then b.inHead t
    else if ["caption", "colgroup", "tbody", "tfoot", "thead"].contains tag.name then
      b.leaveInTemplate .inTable t
    else if tag.name = "col" then b.leaveInTemplate .inColumnGroup t
    else if tag.name = "tr" then b.leaveInTemplate .inTableBody t
    else if tag.name = "td" || tag.name = "th" then b.leaveInTemplate .inRow t
    else b.leaveInTemplate .inBody t
  | .endTag name => done (if name = "template" then b.closeTemplate else b)
  | .doctype _ => done b
  | .stop => b.stop

/-- Text of an element that holds nothing else. -/
def inText (b : Builder) (t : Token) : Outcome :=
  match t with
  | .char c => done (b.char c)
  | .endTag _ => done { b.pop with mode := b.resume }
  | .stop => b.pop.leave b.resume t
  | _ => done b

-- --------------------------------------------------------------------
-- After the body
-- --------------------------------------------------------------------

def afterBody (b : Builder) (t : Token) : Outcome :=
  let out (_ : Unit) := b.leave .inBody t
  match t with
  | .char c => if isBlank c then b.inBody t else out ()
  | .comment s => done (b.commentIn b.htmlElement s)
  | .startTag tag => if tag.name = "html" then done (b.mergeHtml tag) else out ()
  | .endTag name => if name = "html" then done { b with mode := .afterAfterBody } else out ()
  | .doctype _ | .stop => done b

def afterAfterBody (b : Builder) (t : Token) : Outcome :=
  let out (_ : Unit) := b.leave .inBody t
  match t with
  | .char c => if isBlank c then b.inBody t else out ()
  | .comment s => done (b.commentIn document s)
  | .startTag tag => if tag.name = "html" then done (b.mergeHtml tag) else out ()
  | .endTag _ => out ()
  | .doctype _ | .stop => done b

-- --------------------------------------------------------------------
-- Framesets
-- --------------------------------------------------------------------

def inFrameset (b : Builder) (t : Token) : Outcome :=
  match t with
  | .char c => done (if isBlank c then b.char c else b)
  | .comment s => done (b.comment s)
  | .startTag tag =>
    if tag.name = "html" then done (b.mergeHtml tag)
    else if tag.name = "frameset" then done (b.insert tag)
    else if tag.name = "frame" then done (b.insertVoid tag)
    else if tag.name = "noframes" then b.inHead t
    else done b
  | .endTag name =>
    if name = "frameset" && b.open_.length ≠ 1 then
      let b := b.pop
      done (if b.currentIs "frameset" then b else { b with mode := .afterFrameset })
    else done b
  | .doctype _ | .stop => done b

def afterFrameset (b : Builder) (t : Token) : Outcome :=
  match t with
  | .char c => done (if isBlank c then b.char c else b)
  | .comment s => done (b.comment s)
  | .startTag tag =>
    if tag.name = "html" then done (b.mergeHtml tag)
    else if tag.name = "noframes" then b.inHead t
    else done b
  | .endTag name => done (if name = "html" then { b with mode := .afterAfterFrameset } else b)
  | .doctype _ | .stop => done b

def afterAfterFrameset (b : Builder) (t : Token) : Outcome :=
  match t with
  | .char c => if isBlank c then b.inBody t else done b
  | .comment s => done (b.commentIn document s)
  | .startTag tag =>
    if tag.name = "html" then done (b.mergeHtml tag)
    else if tag.name = "noframes" then b.inHead t
    else done b
  | .endTag _ | .doctype _ | .stop => done b

end Builder

end PageRecords.Html
