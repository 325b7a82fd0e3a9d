import PageRecords.Url.Basic

/-!
# Reading addresses

An address is read from left to right: scheme, authority, path, query, fragment.
Each reader gives its part and the characters that remain.
-/

namespace PageRecords.Url

-- --------------------------------------------------------------------
-- Scheme
-- --------------------------------------------------------------------

/-- The text without blanks at its ends, and without tabs and line ends anywhere. -/
def clean (cs : List Char) : List Char :=
  let trimmed := ((cs.dropWhile (· ≤ ' ')).reverse.dropWhile (· ≤ ' ')).reverse
  trimmed.filter fun c => c ≠ '\t' && c ≠ '\n' && c ≠ '\r'

def isSchemeChar (c : Char) : Bool := c.isAlphanum || c = '+' || c = '-' || c = '.'

/-- The scheme in lower case, and what follows its colon. -/
def readScheme? (cs : List Char) : Option (String × List Char) :=
  let name := cs.takeWhile isSchemeChar
  if cs.head?.any Char.isAlpha then
    match cs.dropWhile isSchemeChar with
    | ':' :: rest => some (String.ofList (name.map Char.toLower), rest)
    | _ => none
  else none

-- --------------------------------------------------------------------
-- Authority
-- --------------------------------------------------------------------

/-- Whether a character ends the authority. -/
def endsAuthority (k : SchemeKind) (c : Char) : Bool :=
  c = '/' || c = '?' || c = '#' || (k.isSpecial && c = '\\')

/-- Name and password before the last at sign, and what follows it. No at sign, no
credentials. -/
def readCredentials (k : SchemeKind) (cs : List Char) :
    Except Error ((String × String) × List Char) :=
  let authority := cs.takeWhile (!endsAuthority k ·)
  if authority.contains '@' then
    let host := (authority.reverse.takeWhile (· ≠ '@')).reverse
    let before := authority.take (authority.length - host.length - 1)
    let rest := cs.drop (before.length + 1)
    if before.isEmpty && host.isEmpty && !rest.isEmpty then .error .emptyHost
    else
      let encode (part : List Char) := String.ofList (Percent.encode Percent.inUserInfo part)
      .ok ((encode (before.takeWhile (· ≠ ':')), encode ((before.dropWhile (· ≠ ':')).drop 1)), rest)
  else .ok (("", ""), cs)

/-- The characters of the host. A colon between brackets is part of it. -/
def hostText (k : SchemeKind) (inBrackets : Bool) : List Char → List Char
  | [] => []
  | c :: rest =>
    if endsAuthority k c || (c = ':' && !inBrackets) then []
    else c :: hostText k (c = '[' || (inBrackets && c ≠ ']')) rest

/-- The port, and what follows it. -/
def readPort (cs : List Char) : Except Error (Option Nat × List Char) :=
  match cs with
  | ':' :: rest =>
    let digits := rest.takeWhile Char.isDigit
    let after := rest.dropWhile Char.isDigit
    let n := digits.foldl (fun n c => n * 10 + (c.toNat - '0'.toNat)) 0
    if n ≥ 65536 || !after.head?.all (endsAuthority .web) then .error .port
    else .ok (if digits.isEmpty then none else some n, after)
  | _ => .ok (none, cs)

/-- The authority that follows two slashes. -/
def readAuthority (scheme : String) (k : SchemeKind) (cs : List Char) :
    Except Error (Authority × List Char) := do
  let ((username, password), cs) ← readCredentials k cs
  let text := hostText k false cs
  if k = .web && text.isEmpty then throw .emptyHost
  let host ← if k = .other then Host.parseAsIs text else Host.parse text
  let rest := cs.drop text.length
  if host.isEmpty && rest.head? = some ':' then throw .emptyHost
  let (number, rest) ← readPort rest
  if host.isEmpty && !(username.isEmpty && password.isEmpty) then throw .emptyHost
  let number := if number = defaultPort? scheme then none else number
  return (⟨username, password, host, number⟩, rest)

-- --------------------------------------------------------------------
-- Path
-- --------------------------------------------------------------------

/-- A letter and a colon, or a bar in its place. -/
def isDrive : List Char → Bool
  | [c, d] => c.isAlpha && (d = ':' || d = '|')
  | _ => false

def lowered (cs : List Char) : String := String.ofList (cs.map Char.toLower)

def isDot (segment : List Char) : Bool := [".", "%2e"].contains (lowered segment)

def isDoubleDot (segment : List Char) : Bool :=
  ["..", ".%2e", "%2e.", "%2e%2e"].contains (lowered segment)

/-- The segments without the last one. A drive stays. -/
def parent (segments : List (List Char)) : List (List Char) :=
  if segments.getLast?.any isDrive then segments else segments.dropLast

/-- A segment as it is printed. The first one of a file's path may be a drive, which
has a colon. -/
def encodeSegment (k : SchemeKind) (isFirst : Bool) (segment : List Char) : List Char :=
  match segment with
  | [c, _] =>
    if k = .file && isFirst && isDrive segment then [c, ':']
    else Percent.encode Percent.inPath segment
  | _ => Percent.encode Percent.inPath segment

/-- The segments after those before them: a dot adds nothing, two take one away, and
either leaves an empty segment at the end. -/
def resolve (k : SchemeKind) (before : List (List Char)) : List (List Char) → List (List Char)
  | [] => before
  | s :: rest =>
    let last := if rest.isEmpty then [[]] else []
    if isDoubleDot s then resolve k (parent before ++ last) rest
    else if isDot s then resolve k (before ++ last) rest
    else resolve k (before ++ [encodeSegment k before.isEmpty s]) rest

/-- Whether a character ends the path. -/
def endsPath (c : Char) : Bool := c = '?' || c = '#'

/-- The segments of a path without its first slash. -/
def segments (k : SchemeKind) (cs : List Char) : List (List Char) :=
  resolve k [] (cs.splitOnP fun c => c = '/' || (k.isSpecial && c = '\\'))

def rooted (segments : List (List Char)) : Path := .rooted (segments.map String.ofList)

/-- The path without a slash that it starts with. -/
def unslashed (k : SchemeKind) (cs : List Char) : List Char :=
  match cs with
  | '/' :: rest => rest
  | '\\' :: rest => if k.isSpecial then rest else cs
  | cs => cs

/-- The path after an authority. Only under a special scheme there always is one. -/
def pathAfterAuthority (k : SchemeKind) (cs : List Char) : Path :=
  if cs.isEmpty && !k.isSpecial then .rooted [] else rooted (segments k (unslashed k cs))

-- --------------------------------------------------------------------
-- Files
-- --------------------------------------------------------------------

/-- The path of a file does not start with an empty segment unless it is the only one. -/
def filePath (cs : List Char) : List (List Char) :=
  match (segments .file (unslashed .file cs)).dropWhile List.isEmpty with
  | [] => [[]]
  | ss => ss

/-- Authority and path of a file. The host of a local file is empty, and so is that of
a file on a drive. -/
def readFile (cs : List Char) : Except Error (Authority × Path) :=
  let isSlash (c : Char) : Bool := c = '/' || c = '\\'
  let noHost : Authority := ⟨"", "", .name "", none⟩
  match cs with
  | a :: b :: rest =>
    if isSlash a && isSlash b then
      let text := rest.takeWhile (!isSlash ·)
      if text.isEmpty || isDrive text then .ok (noHost, rooted (filePath rest))
      else do
        let host ← Host.parse text
        let path := filePath (rest.drop text.length)
        if host = .name "localhost" || path.head?.any isDrive then
          return (noHost, rooted path)
        return ({ noHost with host }, rooted path)
    else .ok (noHost, rooted (filePath cs))
  | cs => .ok (noHost, rooted (filePath cs))

-- --------------------------------------------------------------------
-- Addresses
-- --------------------------------------------------------------------

/-- The text up to the end of the path. -/
def upToQuery (cs : List Char) : List Char := cs.takeWhile (!endsPath ·)

/-- Authority and path after the scheme. -/
def authorityAndPath (scheme : String) (cs : List Char) :
    Except Error (Option Authority × Path) :=
  match SchemeKind.of scheme with
  | .web => do
    let (a, rest) ← readAuthority scheme .web (cs.dropWhile fun c => c = '/' || c = '\\')
    return (some a, pathAfterAuthority .web (upToQuery rest))
  | .file => do
    let (a, path) ← readFile (upToQuery cs)
    return (some a, path)
  | .other =>
    match cs with
    | '/' :: '/' :: rest => do
      let (a, rest) ← readAuthority scheme .other rest
      return (some a, pathAfterAuthority .other (upToQuery rest))
    | '/' :: rest => .ok (none, rooted (segments .other (upToQuery rest)))
    | cs => .ok (none, .rootless (String.ofList (Percent.encode Percent.isControl (upToQuery cs))))

/-- The text after a mark that stands first, encoded by a set. -/
def part (mark : Char) (set : UInt8 → Bool) : List Char → Option String
  | [] => none
  | c :: rest => if c = mark then some (String.ofList (Percent.encode set rest)) else none

def parse (s : String) : Except Error Url :=
  match readScheme? (clean s.toList) with
  | none => .error .noScheme
  | some (scheme, cs) => do
    let (authority, path) ← authorityAndPath scheme cs
    let rest := cs.dropWhile (!endsPath ·)
    let querySet := if (SchemeKind.of scheme).isSpecial then Percent.inSpecialQuery else Percent.inQuery
    return { scheme, authority, path,
             query := part '?' querySet (rest.takeWhile (· ≠ '#')),
             fragment := part '#' Percent.inFragment (rest.dropWhile (· ≠ '#')) }

-- --------------------------------------------------------------------
-- Origin
-- --------------------------------------------------------------------

/-- The origin of an address. That of a blob is the one of the address inside it, at
most as many deep as there is fuel for. -/
def originWithin : Nat → Url → String
  | 0, _ => "null"
  | depth + 1, u =>
    match SchemeKind.of u.scheme, u.authority, u.path with
    | .web, some a, _ => u.scheme ++ "://" ++ a.host.text ++ a.portText
    | .other, none, .rootless inner =>
      if u.scheme = "blob" then
        match parse inner with
        | .ok v => originWithin depth v
        | .error _ => "null"
      else "null"
    | _, _, _ => "null"

/-- Scheme, host and port, or `null` for an address that has no origin to show. -/
def origin (u : Url) : String := originWithin (u.path.text.length + 1) u

end PageRecords.Url
