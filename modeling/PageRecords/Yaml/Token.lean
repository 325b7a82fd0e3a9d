import PageRecords.Unicode.Utf8
import PageRecords.Yaml.Source

/-!
# Tokens

What the text of a document is made of. The starts and ends of block collections are
tokens too, though only the indentation shows them.
-/

namespace PageRecords.Yaml

open Unicode (hexValue? Utf8.decodeLossy)

inductive Token where
  | version (major minor : Nat)
  /-- What a handle stands for in the tags of the document. -/
  | handle (name stem : String)
  | documentStart
  | documentEnd
  | blockSequence
  | blockMapping
  | blockEnd
  | flowSequence
  | flowSequenceEnd
  | flowMapping
  | flowMappingEnd
  | entry
  | comma
  | key
  | value
  | anchor (name : String)
  | reference (name : String)
  | tag (handle rest : String)
  | scalar (isPlain : Bool) (text : String)
deriving DecidableEq, Repr, Inhabited

def chars (s : Source) : List Char := s.map (·.char)

-- --------------------------------------------------------------------
-- Anchors
-- --------------------------------------------------------------------

/-- The name of an anchor, or of a reference to one. -/
def anchorName? (s : Source) : Option (String × Source) :=
  let name := chars (s.takeWhile (isNameChar ·.char))
  let rest := s.dropWhile (isNameChar ·.char)
  if !name.isEmpty && (endsWord rest || rest.head?.any fun p => "?:,]\x7d%@`".toList.contains p.char)
  then some (String.ofList name, rest)
  else none

-- --------------------------------------------------------------------
-- Tags
-- --------------------------------------------------------------------

def isTagChar (verbatim : Bool) (c : Char) : Bool :=
  isNameChar c || ";/?:@&=+$.%!~*'()".toList.contains c || (verbatim && ",[]".toList.contains c)

/-- How many bytes a character has whose first byte this is. -/
def byteCount (b : Nat) : Nat :=
  if b < 0x80 then 1 else if b < 0xc0 then 0 else if b < 0xe0 then 2 else if b < 0xf0 then 3
  else if b < 0xf8 then 4 else 0

/-- The bytes of tag text, with those that are spelled by digits behind a percent sign.
`due` further bytes of a character are to come, and `skip` characters are read already. -/
def tagBytes? (due skip : Nat) : List Char → Option (List UInt8)
  | [] => if due = 0 then some [] else none
  | c :: rest =>
    match skip with
    | n + 1 => tagBytes? due n rest
    | 0 =>
      if c = '%' then
        match rest.head?.bind hexValue?, (rest.drop 1).head?.bind hexValue? with
        | some x, some y =>
          let b := x * 16 + y
          if due = 0 then
            if byteCount b = 0 then none
            else (tagBytes? (byteCount b - 1) 2 rest).map (UInt8.ofNat b :: ·)
          else if b / 64 = 2 then (tagBytes? (due - 1) 2 rest).map (UInt8.ofNat b :: ·)
          else none
        | _, _ => none
      else if due = 0 then (tagBytes? 0 0 rest).map (UInt8.ofNat c.toNat :: ·)
      else none

/-- Tag text, and what follows it. -/
def tagText? (verbatim : Bool) (s : Source) : Option (List Char × Source) := do
  let bytes ← tagBytes? 0 0 (chars (s.takeWhile (isTagChar verbatim ·.char)))
  return (Utf8.decodeLossy bytes, s.dropWhile (isTagChar verbatim ·.char))

/-- A handle: letters between exclamation marks, of which the last may be missing. -/
def handle (s : Source) : List Char × Source :=
  let name := chars (s.takeWhile (isNameChar ·.char))
  match s.dropWhile (isNameChar ·.char) with
  | p :: rest =>
    if p.char = '!' then ('!' :: name ++ ['!'], rest) else ('!' :: name, p :: rest)
  | [] => ('!' :: name, [])

/-- A tag, from behind its exclamation mark: in angle brackets as it is, with a handle,
or alone. -/
def tagToken? (s : Source) : Option (Token × Source) :=
  if stands '<' s then do
    let (text, rest) ← tagText? true (s.drop 1)
    if !text.isEmpty && stands '>' rest then
      some (.tag "" (String.ofList text), rest.drop 1)
    else none
  else
    let (name, behind) := handle s
    if name.length > 1 && name.getLast? = some '!' then do
      let (text, rest) ← tagText? false behind
      if text.isEmpty then none
      else some (.tag (String.ofList name) (String.ofList text), rest)
    else do
      let (text, rest) ← tagText? false behind
      match name.drop 1 ++ text with
      | [] => some (.tag "" "!", rest)
      | text => some (.tag "!" (String.ofList text), rest)

/-- A tag that ends as it must: with a word, or before a comma in a flow. -/
def tag? (inFlow : Bool) (s : Source) : Option (Token × Source) := do
  let (t, rest) ← tagToken? s
  if endsWord rest || (inFlow && stands ',' rest) then some (t, rest) else none

-- --------------------------------------------------------------------
-- Directives
-- --------------------------------------------------------------------

def skipBlanks (s : Source) : Source := s.dropWhile (isBlank ·.char)

/-- A number of at most nine digits. -/
def number? (s : Source) : Option (Nat × Source) :=
  let digits := chars (s.takeWhile (·.char.isDigit))
  if digits.isEmpty || digits.length > 9 then none
  else
    some (digits.foldl (fun n c => n * 10 + (c.toNat - '0'.toNat)) 0,
      s.dropWhile (·.char.isDigit))

def version? (s : Source) : Option (Token × Source) := do
  let (major, s) ← number? (skipBlanks s)
  if stands '.' s then
    let (minor, s) ← number? (s.drop 1)
    some (.version major minor, s)
  else none

def handleMeaning? (s : Source) : Option (Token × Source) := do
  let s := skipBlanks s
  if stands '!' s then
    let (name, s) := handle (s.drop 1)
    if name.length > 1 && name.getLast? ≠ some '!' then none
    else if s.head?.any (isBlank ·.char) then
      let (stem, s) ← tagText? true (skipBlanks s)
      if !stem.isEmpty && endsWord s then some (.handle (String.ofList name) (String.ofList stem), s)
      else none
    else none
  else none

/-- A directive from behind its percent sign, with its line. -/
def directive? (s : Source) : Option (Token × Source) := do
  let name := String.ofList (chars (s.takeWhile (isNameChar ·.char)))
  let rest := s.dropWhile (isNameChar ·.char)
  let (t, rest) ←
    if !endsWord rest then none
    else if name = "YAML" then version? rest
    else if name = "TAG" then handleMeaning? rest
    else none
  let rest := skipBlanks rest
  let rest := if stands '#' rest then rest.dropWhile (!isBreak ·.char) else rest
  match rest with
  | [] => some (t, [])
  | p :: rest => if isBreak p.char then some (t, rest) else none

end PageRecords.Yaml
