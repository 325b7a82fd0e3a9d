import PageRecords.Html.Builder

/-!
# Formatting elements

Formatting reaches over the ends of other elements: what was cut off is opened
again where text follows, and an end tag in the wrong order moves what stands
between.
-/

namespace PageRecords.Html

open Dom (Attribute)

namespace Formatting

def handle? : Formatting → Option Handle
  | .marker => none
  | .element h _ => some h

def isMarker (f : Formatting) : Bool := f.handle?.isNone

end Formatting

/-- The same attributes in whatever order. -/
def sameAttributes (a b : List Attribute) : Bool :=
  a.length = b.length && a.all b.contains

def StartTag.sameElement (t u : StartTag) : Bool :=
  t.name = u.name && sameAttributes t.attributes u.attributes

namespace Builder

def pushMarker (b : Builder) : Builder := { b with formatting := .marker :: b.formatting }

/-- Forgets the formatting elements up to the last border. -/
def clearFormatting (b : Builder) : Builder :=
  { b with formatting := (b.formatting.dropWhile (!·.isMarker)).drop 1 }

/-- The formatting elements since the last border, the latest first. -/
def recentFormatting (b : Builder) : List (Handle × StartTag) :=
  (b.formatting.takeWhile (!·.isMarker)).filterMap fun
    | .element h t => some (h, t)
    | .marker => none

def forget (b : Builder) (h : Handle) : Builder :=
  { b with formatting := b.formatting.filter (·.handle? ≠ some h) }

def isFormatting (b : Builder) (h : Handle) : Bool :=
  b.formatting.any (·.handle? = some h)

-- --------------------------------------------------------------------
-- Opening
-- --------------------------------------------------------------------

/-- Opens the elements again, given the latest first, and gives their new entries in
the same order. -/
def reopen (b : Builder) : List Formatting → List Formatting × Builder
  | [] => ([], b)
  | .marker :: rest => b.reopen rest
  | .element _ t :: rest =>
    let (entries, b) := b.reopen rest
    let (h, b) := b.openNew .html t.name t.attributes
    (.element h t :: entries, b)

def isMarkerOrOpen (b : Builder) : Formatting → Bool
  | .marker => true
  | .element h _ => b.open_.contains h

/-- Opens again the formatting elements that were cut off. -/
def reconstruct (b : Builder) : Builder :=
  let cutOff := b.formatting.takeWhile fun f => !b.isMarkerOrOpen f
  let kept := b.formatting.drop cutOff.length
  let (entries, b) := b.reopen cutOff
  { b with formatting := entries ++ kept }

/-- Inserts and opens a formatting element. Of more than three alike the earliest is
forgotten. -/
def insertFormatting (b : Builder) (t : StartTag) : Builder :=
  let alike := b.recentFormatting.filter fun (_, u) => t.sameElement u
  let b := if alike.length ≥ 3 then (alike.getLast?.map fun (h, _) => b.forget h).getD b else b
  let (h, b) := b.openNew .html t.name t.attributes
  { b with formatting := .element h t :: b.formatting }

-- --------------------------------------------------------------------
-- Closing
-- --------------------------------------------------------------------

/-- Closes the innermost element of that name, unless a special one stands inside. -/
def closeOrdinary (b : Builder) (name : String) : Builder :=
  let inside := b.open_.takeWhile fun h => b.tag h != html name && !isSpecial (b.tag h)
  match (b.open_.drop inside.length).head? with
  | some h =>
    if b.tag h = html name then
      let b := b.closeImpliedExcept name
      { b with open_ := (b.open_.dropWhile (· ≠ h)).drop 1 }
    else b
  | none => b

/-- The elements between a formatting element and the block that it is closed in are
moved one by one: each takes what was moved before into a copy of itself. -/
structure Chain where
  builder : Builder
  last : Handle
  /-- The copy that the new formatting element follows, if any was made. -/
  bookmark : Option Handle

def Chain.step (block : Handle) (c : Chain) (index : Nat) (node : Handle) : Chain :=
  let b := c.builder
  match b.formatting.find? (·.handle? = some node) with
  | some (.element _ t) =>
    if index ≥ 3 then { c with builder := (b.forget node).close node }
    else
      let (copy, arena) := b.arena.createElement (html t.name) t.attributes
      let b := { b with
        arena := arena.append copy c.last
        open_ := b.open_.map fun h => if h = node then copy else h
        formatting := b.formatting.map fun f =>
          if f.handle? = some node then .element copy t else f }
      ⟨b, copy, if c.last = block then some copy else c.bookmark⟩
  | _ => { c with builder := b.close node }

def Chain.run (block : Handle) (c : Chain) (index : Nat) : List Handle → Chain
  | [] => c
  | node :: rest => (c.step block index node).run block (index + 1) rest

/-- Puts the entry of the moved formatting element where the old one was, or after
the bookmark. -/
def moveEntry (b : Builder) (old : Handle) (entry : Formatting) (bookmark : Option Handle) :
    Builder :=
  match bookmark with
  | none =>
    { b with formatting := b.formatting.map fun f => if f.handle? = some old then entry else f }
  | some mark =>
    let added := b.formatting.flatMap fun f =>
      if f.handle? = some mark then [entry, f] else [f]
    { b with formatting := added.filter (·.handle? ≠ some old) }

/-- Closes a formatting element around a block that stands inside it: the block is
taken out, and its content put into a copy of the formatting element. -/
def takeOut (b : Builder) (h : Handle) (t : StartTag) (block around : Handle)
    (between : List Handle) : Builder :=
  let c := Chain.run block ⟨b, block, none⟩ 0 between
  let b := { c.builder with arena := c.builder.arena.detach c.last }
  let b := b.place (b.targetFor around) c.last
  let (copy, arena) := b.arena.createElement (html t.name) t.attributes
  let b := { b with arena := (arena.moveChildren block copy).append block copy }
  let b := b.moveEntry h (.element copy t) c.bookmark
  { b with open_ := (b.open_.erase h).flatMap fun x => if x = block then [copy, x] else [x] }

/-- Closes the latest formatting element of that name, and whether to look for another
one. -/
def closeFormattingOnce (b : Builder) (name : String) : Builder × Bool :=
  match b.recentFormatting.find? fun (_, t) => t.name = name with
  | none => (b.closeOrdinary name, false)
  | some (h, t) =>
    if !b.open_.contains h then (b.forget h, false)
    else if !b.inScope endsScope (· = h) then (b, false)
    else
      let inside := b.open_.takeWhile (· ≠ h)
      let outside := b.open_.drop (inside.length + 1)
      match (inside.filter fun x => isSpecial (b.tag x)).getLast? with
      | none => ({ b with open_ := outside }.forget h, false)
      | some block =>
        let between := (inside.dropWhile (· ≠ block)).drop 1
        (b.takeOut h t block (outside.headD document) between, true)

def closeFormattingRounds (b : Builder) (name : String) : Nat → Builder
  | 0 => b
  | n + 1 =>
    match b.closeFormattingOnce name with
    | (b, true) => b.closeFormattingRounds name n
    | (b, false) => b

/-- The end of a formatting element. -/
def closeFormatting (b : Builder) (name : String) : Builder :=
  if b.currentIs name && !b.isFormatting b.current then b.pop
  else b.closeFormattingRounds name 8

/-- A link does not stand inside a link: one that is open ends. -/
def closeOpenLink (b : Builder) : Builder :=
  match b.recentFormatting.find? fun (h, _) => b.tag h = html "a" with
  | none => b
  | some (h, _) => ((b.closeFormatting "a").forget h).close h

end Builder

end PageRecords.Html
