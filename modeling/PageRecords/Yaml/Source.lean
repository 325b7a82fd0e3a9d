/-!
# Characters in their places

The text of a document as characters with line and column. Line ends of every
spelling are one character here.
-/

namespace PageRecords.Yaml

/-- A character where it stands. -/
structure Placed where
  char : Char
  index : Nat
  line : Nat
  column : Nat
deriving DecidableEq, Repr, Inhabited

abbrev Source := List Placed

-- --------------------------------------------------------------------
-- Classes
-- --------------------------------------------------------------------

def isBlank (c : Char) : Bool := c = ' ' || c = '\t'

def isBreak (c : Char) : Bool := c = '\n' || c = '\u2028' || c = '\u2029'

def isSpace (c : Char) : Bool := isBlank c || isBreak c

/-- Characters of names. -/
def isNameChar (c : Char) : Bool := c.isAlphanum || c = '-' || c = '_'

/-- Characters that a document may hold. -/
def isAllowed (c : Char) : Bool :=
  let n := c.toNat
  n = 0x09 || n = 0x0a || n = 0x0d || (0x20 ≤ n && n ≤ 0x7e) || n = 0x85 ||
    (0xa0 ≤ n && n ≤ 0xfffd) || 0x10000 ≤ n

/-- Whether a word has ended here. -/
def endsWord : Source → Bool
  | [] => true
  | p :: _ => isSpace p.char

/-- Whether a character stands here. -/
def stands (c : Char) : Source → Bool
  | [] => false
  | p :: _ => p.char = c

/-- Whether three of a character stand here as a word, at the start of a line. -/
def isRule (c : Char) (s : Source) : Bool :=
  match s with
  | a :: b :: d :: rest =>
    a.column = 0 && a.char = c && b.char = c && d.char = c && endsWord rest
  | _ => false

/-- Whether a document starts or ends here. -/
def isMarker (s : Source) : Bool := isRule '-' s || isRule '.' s

-- --------------------------------------------------------------------
-- Placing
-- --------------------------------------------------------------------

/-- The text with a line feed for every line end that has no name of its own. -/
def unifyBreaks : List Char → List Char
  | [] => []
  | '\r' :: '\n' :: rest => '\n' :: unifyBreaks rest
  | c :: rest => (if c = '\r' || c = '\x85' then '\n' else c) :: unifyBreaks rest

def placeFrom (index line column : Nat) : List Char → Source
  | [] => []
  | c :: rest =>
    ⟨c, index, line, column⟩ ::
      if isBreak c then placeFrom (index + 1) (line + 1) 0 rest
      else placeFrom (index + 1) line (column + 1) rest

/-- The characters of a text in their places, if all of them are allowed. A byte order
mark at the start is none of them. -/
def source? (text : String) : Option Source :=
  let cs := match text.toList with
    | '\ufeff' :: rest => rest
    | cs => cs
  if cs.all isAllowed then some (placeFrom 0 0 0 (unifyBreaks cs)) else none

end PageRecords.Yaml
