import PageRecords.Unicode.Class

/-!
# Regular expressions

The expressions that patterns are read into, and the places in a text that a
match runs between. An expression is a tree; a place keeps the characters on
both sides, so that an assertion needs nothing else.
-/

namespace PageRecords.Regex

open Unicode (CharSet)

/-- What may be asked of a place without moving on. A line ends at a line feed,
or in the `crlf` forms at a carriage return, a line feed or both in that order. -/
inductive Look where
  | textStart
  | textEnd
  | lineStart
  | lineEnd
  | crlfLineStart
  | crlfLineEnd
  /-- The sides differ in being word characters. -/
  | wordBoundary (word : CharSet)
  | notWordBoundary (word : CharSet)
  | wordStart (word : CharSet)
  | wordEnd (word : CharSet)
  | wordStartHalf (word : CharSet)
  | wordEndHalf (word : CharSet)
deriving Repr, Inhabited

inductive Node where
  | empty
  /-- One character of a set. -/
  | set (s : CharSet)
  | look (l : Look)
  /-- Remembers what the body matched under a number from 1 on. -/
  | group (index : Nat) (body : Node)
  | cat (first second : Node)
  /-- The first alternative that leads to a match is taken. -/
  | alt (first second : Node)
  /-- At least `least` and at most `most` rounds, as many as possible if greedy
  and else as few. -/
  | rep (least : Nat) (most : Option Nat) (greedy : Bool) (body : Node)
deriving Repr, Inhabited

/-- A place in a text. -/
structure Place where
  /-- How many characters lie before. -/
  index : Nat
  /-- The characters before, the nearest first. -/
  before : List Char
  /-- The characters after. -/
  after : List Char
deriving DecidableEq, Repr, Inhabited

def Place.start (text : List Char) : Place := ⟨0, [], text⟩

/-- One character on. -/
def Place.next? (p : Place) : Option (Char × Place) :=
  match p.after with
  | [] => none
  | c :: rest => some (c, ⟨p.index + 1, c :: p.before, rest⟩)

def isWord (word : CharSet) (side : List Char) : Bool :=
  match side with
  | [] => false
  | c :: _ => word.contains c

def Look.holds (p : Place) : Look → Bool
  | .textStart => p.before.isEmpty
  | .textEnd => p.after.isEmpty
  | .lineStart => p.before.isEmpty || p.before.head? = some '\n'
  | .lineEnd => p.after.isEmpty || p.after.head? = some '\n'
  | .crlfLineStart =>
    p.before.isEmpty || p.before.head? = some '\n'
      || (p.before.head? = some '\r' && p.after.head? != some '\n')
  | .crlfLineEnd =>
    p.after.isEmpty || p.after.head? = some '\r'
      || (p.after.head? = some '\n' && p.before.head? != some '\r')
  | .wordBoundary w => isWord w p.before != isWord w p.after
  | .notWordBoundary w => isWord w p.before == isWord w p.after
  | .wordStart w => !isWord w p.before && isWord w p.after
  | .wordEnd w => isWord w p.before && !isWord w p.after
  | .wordStartHalf w => !isWord w p.before
  | .wordEndHalf w => !isWord w p.after

end PageRecords.Regex

namespace PageRecords

/-- A compiled pattern. `source` is the pattern as it was written. -/
structure Regex where
  source : String
  root : Regex.Node
deriving Repr, Inhabited

end PageRecords
