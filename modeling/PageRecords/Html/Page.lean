import PageRecords.Html.Lexer
import PageRecords.Html.Rules.Foreign
import PageRecords.Dom.Forest

/-!
# Pages

Reading a page is total: whatever the text, it gives a tree with a head and a body
or frames.
-/

namespace PageRecords.Html

namespace Builder

/-- Passes a token on from rule to rule until one settles it. Each passing on either
goes to a later mode or closes an element. -/
def settle (b : Builder) (t : Token) : Nat → Builder
  | 0 => b
  | fuel + 1 =>
    match if b.readsAsForeign t then b.inForeign t else b.byMode t with
    | (b, none) => b
    | (b, some t) => b.settle t fuel

/-- Takes one token in. -/
def take (b : Builder) (t : Token) : Builder :=
  let skip := b.skipLineBreak
  let b := { b with skipLineBreak := false }
  match t with
  | .char '\n' => if skip then b else b.settle t (8 * b.open_.length + 32)
  | .doctype _ => if b.mode = .initial then b.settle t 1 else b
  | t => b.settle t (8 * b.open_.length + 32)

end Builder

/-- A page on the way: what is read, how to go on, and the name of the element
started last. -/
structure Reading where
  builder : Builder
  mode : TextMode
  lastStarted : String

namespace Reading

def take (r : Reading) (t : Token) : Reading :=
  match r with
  | ⟨b, mode, lastStarted⟩ =>
    let b := b.take t
    let mode := b.reading.getD mode
    let lastStarted := match t with
      | .startTag tag => tag.name
      | _ => lastStarted
    ⟨{ b with reading := none }, mode, lastStarted⟩

/-- Reads on to the end. Every step but the last takes at least one character. -/
def run (r : Reading) (cs : List Char) : Nat → Reading
  | 0 => r
  | fuel + 1 =>
    let current := r.builder.currentTag.space
    let foreign := !r.builder.open_.isEmpty && current != .html
    let step := lex ⟨r.lastStarted, foreign⟩ r.mode cs
    let r := step.tokens.foldl Reading.take { r with mode := step.mode }
    if cs.isEmpty then r else r.run step.rest fuel

end Reading

/-- The tree of a page, its nodes numbered in document order from zero on. -/
def readPage (html : String) : Dom.Node :=
  let cs := pageText html
  let r := Reading.run ⟨.start, .data, ""⟩ cs (cs.length + 1)
  ((r.builder.arena.node Builder.document).renumber 0).1

end PageRecords.Html

namespace PageRecords.Dom.Forest

/-- The forest of a single page, with the document as its node zero. -/
def ofHtml (html : String) : Forest :=
  (Forest.plant ⟨[], 0⟩ (Html.readPage html)).2

end PageRecords.Dom.Forest

namespace PageRecords.Html

/-- The text of a piece of markup, read as the body of a page. -/
def plainText (markup : String) : String := (readPage ("<body>" ++ markup)).text

end PageRecords.Html
