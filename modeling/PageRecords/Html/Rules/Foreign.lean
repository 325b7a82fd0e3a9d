import PageRecords.Html.Rules.Table

/-!
# Rules of drawings and formulas

Inside them tags open whatever they name, until one that belongs to the page or an
element that holds parts of the page.
-/

namespace PageRecords.Html

namespace Builder

/-- Whether a token is read by the foreign rules. -/
def readsAsForeign (b : Builder) (t : Token) : Bool :=
  let tag := b.currentTag
  if b.open_.isEmpty || tag.space = .html then false
  else
    match t with
    | .stop => false
    | .char _ => !holdsText tag && !holdsPage tag
    | .startTag s =>
      !holdsPage tag && !(holdsText tag && s.name != "mglyph" && s.name != "malignmark") &&
        !(tag = ⟨.mathml, "annotation-xml"⟩ && s.name = "svg")
    | _ => true

/-- Leaves the foreign elements up to one that holds parts of the page; it stays open. -/
def leaveForeign (b : Builder) : Builder :=
  b.popTo fun t => t.space = .html || holdsText t || holdsPage t

def startForeign (b : Builder) (t : StartTag) : Builder :=
  let space := b.currentTag.space
  let name := Foreign.name space t.name
  let attributes := Foreign.attributes space t.attributes
  if t.selfClosing then (b.create space name attributes).2
  else (b.openNew space name attributes).2

/-- What the end tag of a foreign element leaves open, or nothing if an element of the
page comes first. -/
def closeForeign? (b : Builder) (name : String) : Option Builder :=
  go true b.open_
where
  go (first : Bool) : List Handle → Option Builder
    | [] => some b
    | [_] => some b
    | h :: rest =>
      if !first && (b.tag h).space = .html then none
      else if (b.tag h).name.toLower = name then some { b with open_ := rest }
      else go false rest

/-- Reads a token by the rules of the mode. -/
def byMode (b : Builder) (t : Token) : Outcome :=
  match b.mode with
  | .initial => b.initial t
  | .beforeHtml => b.beforeHtml t
  | .beforeHead => b.beforeHead t
  | .inHead => b.inHead t
  | .afterHead => b.afterHead t
  | .inBody => b.inBody t
  | .inText => b.inText t
  | .inTable => b.inTable t
  | .inTableText => b.inTableText t
  | .inCaption => b.inCaption t
  | .inColumnGroup => b.inColumnGroup t
  | .inTableBody => b.inTableBody t
  | .inRow => b.inRow t
  | .inCell => b.inCell t
  | .inSelect => b.inSelect t
  | .inSelectInTable => b.inSelectInTable t
  | .inTemplate => b.inTemplate t
  | .afterBody => b.afterBody t
  | .inFrameset => b.inFrameset t
  | .afterFrameset => b.afterFrameset t
  | .afterAfterBody => b.afterAfterBody t
  | .afterAfterFrameset => b.afterAfterFrameset t

def inForeign (b : Builder) (t : Token) : Outcome :=
  match t with
  | .char c =>
    if c = '\x00' then done (b.char replacement)
    else done ((if isBlank c then b else b.notFrameset).char c)
  | .comment s => done (b.comment s)
  | .startTag tag =>
    if breaksOut tag then b.leaveForeign.byMode t else done (b.startForeign tag)
  | .endTag name =>
    if name = "br" || name = "p" then b.leaveForeign.byMode t
    else
      match b.closeForeign? name with
      | some b => done b
      | none => b.byMode t
  | .doctype _ | .stop => done b

end Builder

end PageRecords.Html
