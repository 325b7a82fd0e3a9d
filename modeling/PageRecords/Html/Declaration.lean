import PageRecords.Html.Tags

/-!
# Comments and document types

What follows an exclamation mark. The end of the page ends either of them.
-/

namespace PageRecords.Html

-- --------------------------------------------------------------------
-- Comments
-- --------------------------------------------------------------------

/-- What was read last in a comment. -/
inductive CommentPart where
  | opening
  | openingDash
  | text
  | dash
  | dashes
  | bang
deriving DecidableEq, Repr

/-- The text of a comment and what follows its end. Dashes are held back until they
turn out not to close it. -/
def commentFrom (part : CommentPart) (cs : List Char) : List Char × List Char :=
  match cs with
  | [] => ([], [])
  | c :: rest =>
    let after (held : List Char) (part : CommentPart) :=
      let (text, rest) := commentFrom part rest
      (held ++ text, rest)
    let plain (held : List Char) := after (held ++ [valueChar c]) .text
    match part with
    | .opening =>
      if c = '-' then after [] .openingDash
      else if c = '>' then ([], rest)
      else plain []
    | .openingDash =>
      if c = '-' then after [] .dashes
      else if c = '>' then ([], rest)
      else plain ['-']
    | .text => if c = '-' then after [] .dash else plain []
    | .dash => if c = '-' then after [] .dashes else plain ['-']
    | .dashes =>
      if c = '>' then ([], rest)
      else if c = '!' then after [] .bang
      else if c = '-' then after ['-'] .dashes
      else plain ['-', '-']
    | .bang =>
      if c = '>' then ([], rest)
      else if c = '-' then after ['-', '-', '!'] .dash
      else plain ['-', '-', '!']

/-- A comment of no proper form: it ends with the first bracket. -/
def bogusComment (cs : List Char) : Token × List Char :=
  (.comment (String.ofList ((cs.takeWhile (· ≠ '>')).map valueChar)),
    (cs.dropWhile (· ≠ '>')).drop 1)

-- --------------------------------------------------------------------
-- Document types
-- --------------------------------------------------------------------

namespace Doctype

/-- What follows the end of a declaration of which nothing more counts. -/
def skip (d : Doctype) (cs : List Char) : Doctype × List Char :=
  (d, (cs.dropWhile (· ≠ '>')).drop 1)

def spoiled (d : Doctype) : Doctype := { d with broken := true }

/-- A quoted identifier up to its quote; the declaration may end inside it. -/
def identifier (quote : Char) (cs : List Char) : String × List Char :=
  let ends (c : Char) := c = quote || c = '>'
  (String.ofList ((cs.takeWhile fun c => !ends c).map valueChar), cs.dropWhile fun c => !ends c)

/-- After the system identifier. -/
def finish (d : Doctype) (cs : List Char) : Doctype × List Char :=
  match cs.dropWhile isBlank with
  | [] => (d.spoiled, [])
  | rest => d.skip rest

def readSystem (d : Doctype) (quote : Char) (cs : List Char) : Doctype × List Char :=
  let (id, rest) := identifier quote cs
  let d := { d with systemId := some id }
  match rest with
  | [] => (d.spoiled, [])
  | c :: rest => if c = quote then d.finish rest else (d.spoiled, rest)

/-- After the public identifier. -/
def readSystemIfAny (d : Doctype) (cs : List Char) : Doctype × List Char :=
  match cs.dropWhile isBlank with
  | [] => (d.spoiled, [])
  | '>' :: rest => (d, rest)
  | c :: rest => if c = '"' || c = '\'' then d.readSystem c rest else d.spoiled.skip (c :: rest)

def readPublic (d : Doctype) (quote : Char) (cs : List Char) : Doctype × List Char :=
  let (id, rest) := identifier quote cs
  let d := { d with publicId := some id }
  match rest with
  | [] => (d.spoiled, [])
  | c :: rest => if c = quote then d.readSystemIfAny rest else (d.spoiled, rest)

/-- After a keyword: the identifier that it announces. -/
def readAnnounced (d : Doctype) (read : Doctype → Char → List Char → Doctype × List Char)
    (cs : List Char) : Doctype × List Char :=
  match cs.dropWhile isBlank with
  | [] => (d.spoiled, [])
  | '>' :: rest => (d.spoiled, rest)
  | c :: rest => if c = '"' || c = '\'' then read d c rest else d.spoiled.skip (c :: rest)

/-- Whether the text starts with a word, in whatever letter case. -/
def startsWithWord (word : String) (cs : List Char) : Bool :=
  (cs.take word.length).map Char.toLower = word.toList

def readIdentifiers (d : Doctype) (cs : List Char) : Doctype × List Char :=
  match cs.dropWhile isBlank with
  | [] => (d.spoiled, [])
  | '>' :: rest => (d, rest)
  | rest =>
    if startsWithWord "public" rest then d.readAnnounced readPublic (rest.drop 6)
    else if startsWithWord "system" rest then d.readAnnounced readSystem (rest.drop 6)
    else d.spoiled.skip rest

/-- What follows the word that announces a document type. -/
def read (cs : List Char) : Doctype × List Char :=
  let unnamed : Doctype := ⟨none, none, none, true⟩
  match cs.dropWhile isBlank with
  | [] => (unnamed, [])
  | '>' :: rest => (unnamed, rest)
  | rest =>
    let ends (c : Char) := isBlank c || c = '>'
    let name := (rest.takeWhile fun c => !ends c).map nameChar
    readIdentifiers ⟨some (String.ofList name), none, none, false⟩ (rest.dropWhile fun c => !ends c)

end Doctype

end PageRecords.Html
