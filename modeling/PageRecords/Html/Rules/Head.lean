import PageRecords.Html.Formatting

/-!
# Rules before the body

A rule takes a token and either settles it or leaves it to the rules of another
mode. What a page leaves out is put in where a token does not fit.
-/

namespace PageRecords.Html

/-- The page after a token, and the token if it is to be read again. -/
abbrev Outcome := Builder × Option Token

namespace Builder

def done (b : Builder) : Outcome := (b, none)

/-- Leaves a token to the rules of another mode. -/
def leave (b : Builder) (m : Mode) (t : Token) : Outcome := ({ b with mode := m }, some t)

/-- Another start of the whole page only adds attributes. -/
def mergeHtml (b : Builder) (t : StartTag) : Builder :=
  if b.hasOpen "template" then b
  else { b with arena := b.arena.addMissing b.htmlElement t.attributes }

/-- End tags that are no reason to be dropped where an element is missing. -/
def impliesMissing (name : String) : Bool := ["head", "body", "html", "br"].contains name

-- --------------------------------------------------------------------
-- The head
-- --------------------------------------------------------------------

def headVoidNames : List String := ["base", "basefont", "bgsound", "link", "meta"]

/-- Elements that stand in the head, by their start tags. -/
def headNames : List String :=
  headVoidNames ++ ["noframes", "script", "style", "template", "title"]

def openTemplate (b : Builder) (t : StartTag) : Builder :=
  { (b.insert t).pushMarker with
    framesetOk := false
    mode := .inTemplate
    templateModes := .inTemplate :: b.templateModes }

/-- Ends the innermost template, whatever is open in it. -/
def leaveTemplate (b : Builder) : Builder :=
  let b := (b.popThroughName "template").clearFormatting
  { b with templateModes := b.templateModes.drop 1 }.resetMode

def closeTemplate (b : Builder) : Builder :=
  if b.hasOpen "template" then (b.closeImplied closesWithTemplate).leaveTemplate else b

def inHead (b : Builder) (t : Token) : Outcome :=
  let out (_ : Unit) := b.pop.leave .afterHead t
  match t with
  | .char c => if isBlank c then done (b.char c) else out ()
  | .comment s => done (b.comment s)
  | .startTag tag =>
    if tag.name = "html" then done (b.mergeHtml tag)
    else if headVoidNames.contains tag.name then done (b.insertVoid tag)
    else if tag.name = "title" then done (b.insertText tag .rcdata)
    else if ["noframes", "style", "noscript"].contains tag.name then
      done (b.insertText tag .rawtext)
    else if tag.name = "script" then done (b.insertText tag .script)
    else if tag.name = "template" then done (b.openTemplate tag)
    else if tag.name = "head" then done b
    else out ()
  | .endTag name =>
    if name = "head" then done { b.pop with mode := .afterHead }
    else if name = "template" then done b.closeTemplate
    else if impliesMissing name then out ()
    else done b
  | .doctype _ => done b
  | .stop => out ()

-- --------------------------------------------------------------------
-- Around the head
-- --------------------------------------------------------------------

def initial (b : Builder) (t : Token) : Outcome :=
  let out (_ : Unit) := { b with old := true }.leave .beforeHtml t
  match t with
  | .char c => if isBlank c then done b else out ()
  | .comment s => done (b.commentIn document s)
  | .doctype d =>
    let (h, arena) := b.arena.create (.leaf (.doctype (d.name.getD "")))
    done { b with arena := arena.append document h, old := d.isOld, mode := .beforeHtml }
  | _ => out ()

def beforeHtml (b : Builder) (t : Token) : Outcome :=
  let out (_ : Unit) := (b.insertRoot []).leave .beforeHead t
  match t with
  | .char c => if isBlank c then done b else out ()
  | .comment s => done (b.commentIn document s)
  | .startTag tag =>
    if tag.name = "html" then done { b.insertRoot tag.attributes with mode := .beforeHead }
    else out ()
  | .endTag name => if impliesMissing name then out () else done b
  | .doctype _ => done b
  | .stop => out ()

def openHead (b : Builder) (t : StartTag) : Builder :=
  let b := b.insert t
  { b with head := some b.current, mode := .inHead }

def beforeHead (b : Builder) (t : Token) : Outcome :=
  let out (_ : Unit) := (b.openHead ⟨"head", [], false⟩).leave .inHead t
  match t with
  | .char c => if isBlank c then done b else out ()
  | .comment s => done (b.comment s)
  | .startTag tag =>
    if tag.name = "html" then done (b.mergeHtml tag)
    else if tag.name = "head" then done (b.openHead tag)
    else out ()
  | .endTag name => if impliesMissing name then out () else done b
  | .doctype _ => done b
  | .stop => out ()

/-- An element of the head that comes late goes into the head. -/
def intoHead (b : Builder) (t : Token) : Outcome :=
  match b.head with
  | none => b.inHead t
  | some head =>
    let (b, t) := (b.push head).inHead t
    (b.close head, t)

def afterHead (b : Builder) (t : Token) : Outcome :=
  let out (_ : Unit) := (b.insertMissing "body").leave .inBody t
  match t with
  | .char c => if isBlank c then done (b.char c) else out ()
  | .comment s => done (b.comment s)
  | .startTag tag =>
    if tag.name = "html" then done (b.mergeHtml tag)
    else if tag.name = "body" then done { b.insert tag with framesetOk := false, mode := .inBody }
    else if tag.name = "frameset" then done { b.insert tag with mode := .inFrameset }
    else if headNames.contains tag.name then b.intoHead t
    else if tag.name = "head" then done b
    else out ()
  | .endTag name =>
    if name = "template" then done b.closeTemplate
    else if impliesMissing name then out ()
    else done b
  | .doctype _ => done b
  | .stop => out ()

end Builder

end PageRecords.Html
