import PageRecords.Html.Arena
import PageRecords.Html.Vocabulary

/-!
# The page so far

The state that rules for tokens work on: the nodes, the elements that are open, the
formatting elements to open again, and which rules hold.
-/

namespace PageRecords.Html

open Dom (Tag Space Attribute)

/-- Which rules hold for the next token. -/
inductive Mode where
  | initial
  | beforeHtml
  | beforeHead
  | inHead
  | afterHead
  | inBody
  | inText
  | inTable
  | inTableText
  | inCaption
  | inColumnGroup
  | inTableBody
  | inRow
  | inCell
  | inSelect
  | inSelectInTable
  | inTemplate
  | afterBody
  | inFrameset
  | afterFrameset
  | afterAfterBody
  | afterAfterFrameset
deriving DecidableEq, Repr, Inhabited

/-- A formatting element with the tag that it was opened by, or the border of an
element that formatting does not reach out of. -/
inductive Formatting where
  | marker
  | element (h : Handle) (tag : StartTag)
deriving DecidableEq, Repr, Inhabited

structure Builder where
  arena : Arena
  mode : Mode
  /-- The mode to go back to after text or characters in a table. -/
  resume : Mode
  templateModes : List Mode
  /-- The open elements, the innermost first. -/
  open_ : List Handle
  /-- The latest first. -/
  formatting : List Formatting
  head : Option Handle
  form : Option Handle
  framesetOk : Bool
  /-- A line break just after the start of some elements does not count. -/
  skipLineBreak : Bool
  /-- What a table does not hold goes before it. -/
  fostering : Bool
  old : Bool
  /-- Characters in a table, the latest first. -/
  pending : List Char
  /-- How the text that follows is to be read, if a rule changed that. -/
  reading : Option TextMode
deriving Repr, Inhabited

namespace Builder

def document : Handle := 0

def start : Builder where
  arena := #[⟨.root .document, none, #[]⟩]
  mode := .initial
  resume := .inBody
  templateModes := []
  open_ := []
  formatting := []
  head := none
  form := none
  framesetOk := true
  skipLineBreak := false
  fostering := false
  old := false
  pending := []
  reading := none

-- --------------------------------------------------------------------
-- Open elements
-- --------------------------------------------------------------------

def tag (b : Builder) (h : Handle) : Tag := b.arena.tag h

/-- The innermost open element. -/
def current (b : Builder) : Handle := b.open_.headD document

def currentTag (b : Builder) : Tag := b.tag b.current

def currentIs (b : Builder) (name : String) : Bool := b.currentTag = html name

/-- The element of the whole page. -/
def htmlElement (b : Builder) : Handle := b.open_.getLast?.getD document

/-- The body, if it is the second open element. -/
def body? (b : Builder) : Option Handle :=
  match b.open_.reverse with
  | _ :: h :: _ => if b.tag h = html "body" then some h else none
  | _ => none

def push (b : Builder) (h : Handle) : Builder := { b with open_ := h :: b.open_ }

def pop (b : Builder) : Builder := { b with open_ := b.open_.drop 1 }

def close (b : Builder) (h : Handle) : Builder := { b with open_ := b.open_.erase h }

/-- Pops up to the first element that fits, which is popped too. -/
def popThrough (b : Builder) (fits : Tag → Bool) : Builder :=
  { b with open_ := (b.open_.dropWhile fun h => !fits (b.tag h)).drop 1 }

def popThroughName (b : Builder) (name : String) : Builder := b.popThrough (· = html name)

/-- Pops up to the first element that fits, which stays. -/
def popTo (b : Builder) (fits : Tag → Bool) : Builder :=
  { b with open_ := b.open_.dropWhile fun h => !fits (b.tag h) }

def hasOpen (b : Builder) (name : String) : Bool :=
  b.open_.any fun h => b.tag h = html name

/-- Whether an open element fits, not looking beyond an end of scope. -/
def inScope (b : Builder) (ends : Tag → Bool) (fits : Handle → Bool) : Bool :=
  go b.open_
where
  go : List Handle → Bool
    | [] => false
    | h :: rest => fits h || (!ends (b.tag h) && go rest)

def nameInScope (b : Builder) (ends : Tag → Bool) (name : String) : Bool :=
  b.inScope ends fun h => b.tag h = html name

/-- Pops the elements that close by themselves. -/
def closeImplied (b : Builder) (closes : Tag → Bool) : Builder :=
  { b with open_ := b.open_.dropWhile fun h => closes (b.tag h) }

def closeImpliedExcept (b : Builder) (name : String) : Builder :=
  b.closeImplied fun t => closesByItself t && t != html name

def closeParagraph (b : Builder) : Builder :=
  (b.closeImpliedExcept "p").popThroughName "p"

/-- Closes a paragraph that is open around the place. -/
def closeParagraphInScope (b : Builder) : Builder :=
  if b.nameInScope endsButtonScope "p" then b.closeParagraph else b

-- --------------------------------------------------------------------
-- Inserting
-- --------------------------------------------------------------------

/-- Where a new node goes. -/
inductive Target where
  | inside (parent : Handle)
  /-- Before a table; at the end of the element around it if the table stands
  nowhere. -/
  | before (table around : Handle)

/-- Where a node goes that a table does not hold. -/
def fosterTarget (b : Builder) : Target :=
  go b.open_
where
  go : List Handle → Target
    | [] => .inside b.htmlElement
    | h :: rest =>
      if b.tag h = html "template" then .inside (contentsOf h)
      else if b.tag h = html "table" then .before h (rest.headD b.htmlElement)
      else go rest
  contentsOf (h : Handle) : Handle :=
    match b.arena.content h with
    | .element _ _ (some contents) => contents
    | _ => h

/-- Where a node goes that is meant for an element. -/
def targetFor (b : Builder) (h : Handle) : Target :=
  if b.fostering && isTablePart (b.tag h) then b.fosterTarget
  else
    match b.arena.content h with
    | .element _ _ (some contents) => .inside contents
    | _ => .inside h

def place (b : Builder) (t : Target) (h : Handle) : Builder :=
  match t with
  | .inside parent => { b with arena := b.arena.append parent h }
  | .before table around =>
    if (b.arena.parent table).isSome then { b with arena := b.arena.insertBefore table h }
    else { b with arena := b.arena.append around h }

def text (b : Builder) (s : String) : Builder :=
  match b.targetFor b.current with
  | .inside parent => { b with arena := b.arena.appendText parent s }
  | .before table around =>
    if (b.arena.parent table).isSome then { b with arena := b.arena.insertTextBefore table s }
    else { b with arena := b.arena.appendText around s }

def char (b : Builder) (c : Char) : Builder := b.text c.toString

def comment (b : Builder) (s : String) : Builder :=
  let (h, arena) := b.arena.create (.leaf (.comment s))
  { b with arena }.place (b.targetFor b.current) h

def commentIn (b : Builder) (parent : Handle) (s : String) : Builder :=
  let (h, arena) := b.arena.create (.leaf (.comment s))
  { b with arena := arena.append parent h }

/-- Inserts an element and gives it, not opened. -/
def create (b : Builder) (space : Space) (name : String) (attributes : List Attribute) :
    Handle × Builder :=
  let target := b.targetFor b.current
  let (h, arena) := b.arena.createElement ⟨space, name⟩ attributes
  (h, { b with arena }.place target h)

/-- Inserts an element that has no content. -/
def insertVoid (b : Builder) (t : StartTag) : Builder :=
  (b.create .html t.name t.attributes).2

def openNew (b : Builder) (space : Space) (name : String) (attributes : List Attribute) :
    Handle × Builder :=
  let (h, b) := b.create space name attributes
  (h, b.push h)

/-- Inserts and opens an element. -/
def insert (b : Builder) (t : StartTag) : Builder := (b.openNew .html t.name t.attributes).2

/-- Inserts and opens an element that the page left out. -/
def insertMissing (b : Builder) (name : String) : Builder := (b.openNew .html name []).2

/-- Inserts an element whose content is text to be read in that way. -/
def insertText (b : Builder) (t : StartTag) (reading : TextMode) : Builder :=
  let b := b.insert t
  { b with resume := b.mode, mode := .inText, reading := some reading }

/-- Starts the element of the whole page. -/
def insertRoot (b : Builder) (attributes : List Attribute) : Builder :=
  let (h, arena) := b.arena.createElement (html "html") attributes
  { b with arena := arena.append document h }.push h

-- --------------------------------------------------------------------
-- Modes
-- --------------------------------------------------------------------

/-- The rules that hold inside the open elements. -/
def modeInside (b : Builder) : Mode :=
  go b.open_
where
  go : List Handle → Mode
    | [] => .inBody
    | h :: rest =>
      let last := rest.isEmpty
      if (b.tag h).space != .html then go rest
      else
        match (b.tag h).name with
        | "select" => inSelect rest
        | "td" | "th" => if last then .inBody else .inCell
        | "tr" => .inRow
        | "tbody" | "thead" | "tfoot" => .inTableBody
        | "caption" => .inCaption
        | "colgroup" => .inColumnGroup
        | "table" => .inTable
        | "template" => b.templateModes.headD .inBody
        | "head" => if last then .inBody else .inHead
        | "body" => .inBody
        | "frameset" => .inFrameset
        | "html" => if b.head.isNone then .beforeHead else .afterHead
        | _ => go rest
  inSelect : List Handle → Mode
    | [] => .inSelect
    | h :: rest =>
      if b.tag h = html "template" then .inSelect
      else if b.tag h = html "table" then .inSelectInTable
      else inSelect rest

def resetMode (b : Builder) : Builder := { b with mode := b.modeInside }

end Builder

end PageRecords.Html
