import PageRecords.Regex.Flags
import PageRecords.Unicode.Code

/-!
# Escapes

What follows a backslash. Each reader takes the characters after a fixed start
and gives what it read with the characters that remain, or nothing if the
pattern is malformed there.
-/

namespace PageRecords.Regex

open Unicode (CharSet hexValue? charOfCode?)

/-- Blank in the verbose mode. -/
def isPatternBlank (c : Char) : Bool :=
  let n := c.toNat
  (9 ≤ n && n ≤ 13) || n = 32 || n = 0x85 || n = 0x200e || n = 0x200f || n = 0x2028 || n = 0x2029

/-- Drops blanks and comments; `comment` tells whether one is open. -/
def skipBlank (comment : Bool) : List Char → List Char
  | [] => []
  | c :: rest =>
    if comment then (if c = '\n' then skipBlank false rest else skipBlank true rest)
    else if isPatternBlank c then skipBlank false rest
    else if c = '#' then skipBlank true rest
    else c :: rest

/-- Drops blanks and comments in the verbose mode. -/
def skip (f : Flags) (cs : List Char) : List Char :=
  if f.verbose then skipBlank false cs else cs

/-- Written with a backslash they stand for themselves, and unescaped they may
mean something. -/
def isMeta (c : Char) : Bool :=
  c ∈ ['\\', '.', '+', '*', '?', '(', ')', '|', '[', ']', '{', '}', '^', '$', '#', '&', '-', '~']

/-- Written with a backslash they stand for themselves. -/
def isEscapable (c : Char) : Bool :=
  isMeta c || (c.toNat < 0x80 && !c.isAlphanum && c != '<' && c != '>')

inductive Escape where
  /-- `byte` if it was given by exactly two hex digits. -/
  | literal (c : Char) (byte : Bool)
  | set (s : CharSet)
  | look (l : Look)
deriving Repr

/-- So many hex digits, with blanks between them in the verbose mode. -/
def hexDigits? (f : Flags) (value : Nat) : Nat → List Char → Option (Nat × List Char)
  | 0, cs => some (value, cs)
  | n + 1, cs =>
    match cs with
    | [] => none
    | c :: rest =>
      match hexValue? c with
      | some d => hexDigits? f (value * 16 + d) n (if n = 0 then rest else skip f rest)
      | none => none

/-- Hex digits up to a closing brace; at least one. -/
def hexBraced? (f : Flags) (value : Nat) (count : Nat) :
    Nat → List Char → Option (Nat × List Char)
  | 0, _ => none
  | fuel + 1, cs =>
    match cs with
    | [] => none
    | '}' :: rest => if count = 0 then none else some (value, rest)
    | c :: rest =>
      match hexValue? c with
      | some d => hexBraced? f (value * 16 + d) (count + 1) fuel (skip f rest)
      | none => none

/-- After `\x`, `\u` or `\U`, which take two, four and eight digits. -/
def hexEscape? (f : Flags) (digits : Nat) (cs : List Char) : Option (Escape × List Char) :=
  match skip f cs with
  | [] => none
  | '{' :: rest => do
    let (n, rest) ← hexBraced? f 0 0 (rest.length + 1) (skip f rest)
    let c ← charOfCode? n
    pure (.literal c false, skip f rest)
  | c :: rest => do
    let (n, rest) ← hexDigits? f 0 digits (c :: rest)
    let c ← charOfCode? n
    pure (.literal c (digits = 2), skip f rest)

/-- Characters up to a closing brace, without blanks in the verbose mode. -/
def bracedName? (f : Flags) : Nat → List Char → Option (List Char × List Char)
  | 0, _ => none
  | fuel + 1, cs =>
    match cs with
    | [] => none
    | '}' :: rest => some ([], rest)
    | c :: rest => (bracedName? f fuel (skip f rest)).map fun (name, rest) => (c :: name, rest)

/-- The text before and after the first place where another text begins. -/
def splitAtFirst? (sep : List Char) : List Char → Option (List Char × List Char)
  | [] => if sep.isEmpty then some ([], []) else none
  | c :: rest =>
    if sep.isPrefixOf (c :: rest) then some ([], (c :: rest).drop sep.length)
    else (splitAtFirst? sep rest).map fun (before, after) => (c :: before, after)

/-- The class of what stands in the braces of `\p`, and whether it is negated. There is none
for a property that `Unicode.Class` does not have. -/
def propertyClass? (name : List Char) : Option (CharSet × Bool) :=
  let named (split : List Char × List Char) : Option CharSet :=
    Unicode.Class.valued? (String.ofList split.1) (String.ofList split.2)
  match splitAtFirst? ['!', '='] name with
  | some split => (named split).map (·, true)
  | none =>
    match splitAtFirst? [':'] name with
    | some split => (named split).map (·, false)
    | none =>
      match splitAtFirst? ['='] name with
      | some split => (named split).map (·, false)
      | none => (Unicode.Class.named? (String.ofList name)).map (·, false)

/-- After `\p` or `\P`. -/
def classEscape? (f : Flags) (negated : Bool) (cs : List Char) :
    Option (Escape × List Char) :=
  if !f.unicode then none
  else
    match skip f cs with
    | [] => none
    | '{' :: rest => do
      let (name, rest) ← bracedName? f (rest.length + 1) (skip f rest)
      let (s, inner) ← propertyClass? name
      let s ← f.foldNegate? (negated != inner) s
      pure (.set s, rest)
    | '\\' :: _ => none
    | c :: rest => do
      let (s, inner) ← propertyClass? [c]
      let s ← f.foldNegate? (negated != inner) s
      pure (.set s, skip f rest)

/-- After `\b`: the name of a special boundary in braces, if what is in the
braces begins like one. -/
def boundary? (f : Flags) (cs : List Char) : Option (Escape × List Char) :=
  let plain : Escape := .look (.wordBoundary f.word)
  match cs with
  | '{' :: rest =>
    match skip f rest with
    | [] => none
    | c :: more =>
      let isNameChar (c : Char) : Bool := c.isAlpha || c = '-'
      if isNameChar c then
        let body := if f.verbose then (c :: more).filter (!isPatternBlank ·) else c :: more
        let name := String.ofList (body.takeWhile isNameChar)
        match body.dropWhile isNameChar with
        | '}' :: _ =>
          let rest := ((c :: more).dropWhile (· != '}')).drop 1
          match name with
          | "start" => some (.look (.wordStart f.word), rest)
          | "end" => some (.look (.wordEnd f.word), rest)
          | "start-half" => some (.look (.wordStartHalf f.word), rest)
          | "end-half" => some (.look (.wordEndHalf f.word), rest)
          | _ => none
        | _ => none
      else some (plain, cs)
  | _ => some (plain, cs)

/-- After a backslash. -/
def escape? (f : Flags) : List Char → Option (Escape × List Char)
  | [] => none
  | c :: rest =>
    let literal (c : Char) : Option (Escape × List Char) := some (.literal c false, rest)
    match c with
    | 'x' => hexEscape? f 2 rest
    | 'u' => hexEscape? f 4 rest
    | 'U' => hexEscape? f 8 rest
    | 'p' => classEscape? f false rest
    | 'P' => classEscape? f true rest
    | 'd' | 's' | 'w' | 'D' | 'S' | 'W' => (f.shorthand? c).map fun s => (.set s, rest)
    | 'a' => literal '\x07'
    | 'f' => literal '\x0c'
    | 't' => literal '\t'
    | 'n' => literal '\n'
    | 'r' => literal '\r'
    | 'v' => literal '\x0b'
    | 'A' => some (.look .textStart, rest)
    | 'z' => some (.look .textEnd, rest)
    | 'b' => boundary? f rest
    | 'B' => some (.look (.notWordBoundary f.word), rest)
    | '<' => some (.look (.wordStart f.word), rest)
    | '>' => some (.look (.wordEnd f.word), rest)
    | c => if isEscapable c then literal c else none

end PageRecords.Regex
