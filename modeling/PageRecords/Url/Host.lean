import PageRecords.Url.Domain
import PageRecords.Url.Percent

/-!
# Hosts

A host is a name, or an address of version 4 or 6. Under the schemes of the web a name
is a domain name; under any other it is taken as it stands.
-/

namespace PageRecords.Url

open Unicode (hexValue? Utf8.encode)

inductive Host where
  | name (text : String)
  /-- An address of thirty-two bits. -/
  | ipv4 (address : Nat)
  /-- Eight pieces of sixteen bits. -/
  | ipv6 (pieces : List Nat)
deriving DecidableEq, Repr, Inhabited

/-- Why an address is malformed. -/
inductive Error where
  | noScheme
  | emptyHost
  | port
  | ipv4
  | ipv6
  | domain
  | hostCharacter
deriving DecidableEq, Repr

def Error.message : Error → String
  | .noScheme => "relative URL without a base"
  | .emptyHost => "empty host"
  | .port => "invalid port number"
  | .ipv4 => "invalid IPv4 address"
  | .ipv6 => "invalid IPv6 address"
  | .domain => "invalid international domain name"
  | .hostCharacter => "invalid domain character"

namespace Host

-- --------------------------------------------------------------------
-- Version 4
-- --------------------------------------------------------------------

/-- A number in one of three bases: `0x` marks sixteen, a leading zero eight. No digits
behind a mark are zero. -/
def number? (cs : List Char) : Option Nat :=
  let (base, digits) := match cs with
    | '0' :: 'x' :: rest | '0' :: 'X' :: rest => (16, rest)
    | '0' :: c :: rest => (8, c :: rest)
    | cs => (10, cs)
  if cs.isEmpty then none
  else
    digits.foldlM (fun n c =>
      match hexValue? c with
      | some d => if d < base then some (n * base + d) else none
      | none => none) 0

/-- The parts of a dotted name, a dot at the end left out. -/
def dotted (cs : List Char) : List (List Char) :=
  match (cs.splitOn '.').reverse with
  | [] :: rest => rest.reverse
  | parts => parts.reverse

/-- Whether a name can only be meant as an address: its last part is a number. -/
def isNumeric (cs : List Char) : Bool :=
  (dotted cs).getLast?.any fun last =>
    (!last.isEmpty && last.all Char.isDigit) || (number? last).isSome

/-- The address of numbers: all but the last are single bytes, and the last fills what
they leave. -/
def address? (numbers : List Nat) : Option Nat :=
  match numbers.reverse with
  | [] => none
  | last :: bytes =>
    let bytes := bytes.reverse
    if bytes.length < 4 && bytes.all (· < 256) && last < Nat.pow 256 (4 - bytes.length) then
      some (bytes.foldl (fun n b => n * 256 + b) 0 * Nat.pow 256 (4 - bytes.length) + last)
    else none

def ipv4? (cs : List Char) : Option Nat := do address? (← (dotted cs).mapM number?)

def ipv4Text (address : Nat) : String :=
  ".".intercalate ([3, 2, 1, 0].map fun i => toString (address / Nat.pow 256 i % 256))

-- --------------------------------------------------------------------
-- Version 6
-- --------------------------------------------------------------------

/-- A byte in decimal digits, without a leading zero. -/
def byte? (cs : List Char) : Option Nat :=
  match cs with
  | ['0'] => some 0
  | '0' :: _ | [] => none
  | cs =>
    if cs.all Char.isDigit then
      let n := cs.foldl (fun n c => n * 10 + (c.toNat - '0'.toNat)) 0
      if n < 256 then some n else none
    else none

/-- Two pieces written as four bytes. -/
def bytePieces? (cs : List Char) : Option (List Nat) := do
  match ← (cs.splitOn '.').mapM byte? with
  | [a, b, c, d] => some [a * 256 + b, c * 256 + d]
  | _ => none

/-- The pieces from here on, at most as many as there is room for. Nothing stands where
zeros are left out, which is once at most and takes the room of a piece. -/
def pieces? (gap : Bool) : Nat → List Char → Option (List (Option Nat))
  | _, [] => some []
  | 0, _ => none
  | room + 1, ':' :: rest => if gap then none else (pieces? true room rest).map (none :: ·)
  | room + 1, cs =>
    let digits := (cs.take 4).takeWhile fun c => (hexValue? c).isSome
    let piece := (digits.filterMap hexValue?).foldl (fun n d => n * 16 + d) 0
    match cs.drop digits.length with
    | [] => some [some piece]
    | ':' :: rest =>
      if rest.isEmpty then none else (pieces? gap room rest).map (some piece :: ·)
    | '.' :: _ =>
      if digits.isEmpty || room = 0 then none else (bytePieces? cs).map (·.map some)
    | _ => none

/-- Eight pieces, with zeros for the gap. -/
def fill? (pieces : List (Option Nat)) : Option (List Nat) :=
  let before := pieces.takeWhile Option.isSome
  let written := pieces.filterMap id
  if before.length < pieces.length then
    some (written.take before.length ++ List.replicate (8 - written.length) 0
      ++ written.drop before.length)
  else if written.length = 8 then some written
  else none

def ipv6? (cs : List Char) : Option (List Nat) := do
  let cs ← match cs with
    | ':' :: ':' :: rest => some (':' :: rest)
    | ':' :: _ => none
    | cs => some cs
  fill? (← pieces? false 8 cs)

/-- The number of zeros that a list starts with. -/
def zeros (pieces : List Nat) : Nat := (pieces.takeWhile (· = 0)).length

/-- Where the longest run of zeros starts, the first of those equally long, if it is
one of two or more. -/
def longestZeros? (pieces : List Nat) : Option Nat :=
  let best := (List.range 8).foldl (fun best i =>
    if zeros (pieces.drop i) > zeros (pieces.drop best) then i else best) 0
  if zeros (pieces.drop best) < 2 then none else some best

def hexText (n : Nat) : String := String.ofList (Nat.toDigits 16 n)

def colons (pieces : List Nat) : String := ":".intercalate (pieces.map hexText)

def ipv6Text (pieces : List Nat) : String :=
  match longestZeros? pieces with
  | some i =>
    let rest := pieces.drop i
    colons (pieces.take i) ++ "::" ++ colons (rest.drop (zeros rest))
  | none => colons pieces

-- --------------------------------------------------------------------
-- Reading and printing
-- --------------------------------------------------------------------

/-- An address of version 6 between brackets, if the text starts as one. -/
def bracketed? (cs : List Char) : Option (Except Error Host) :=
  match cs with
  | '[' :: rest =>
    match rest.reverse with
    | ']' :: inside =>
      match ipv6? inside.reverse with
      | some pieces => some (.ok (.ipv6 pieces))
      | none => some (.error .ipv6)
    | _ => some (.error .ipv6)
  | _ => none

/-- A host under a scheme of the web. -/
def parse (cs : List Char) : Except Error Host :=
  match bracketed? cs with
  | some r => r
  | none =>
    match Domain.toAscii? (Percent.decode (Utf8.encode cs)) with
    | none => .error .domain
    | some [] => .error .emptyHost
    | some domain =>
      if isNumeric domain then
        match ipv4? domain with
        | some address => .ok (.ipv4 address)
        | none => .error .ipv4
      else .ok (.name (String.ofList domain))

/-- Characters that no host may hold. -/
def isForbidden (c : Char) : Bool := "\x00\t\n\r #/:<>?@[\\]^|".toList.contains c

/-- A host under any other scheme. -/
def parseAsIs (cs : List Char) : Except Error Host :=
  match bracketed? cs with
  | some r => r
  | none =>
    if cs.any isForbidden then .error .hostCharacter
    else .ok (.name (String.ofList (Percent.encode Percent.isControl cs)))

def text : Host → String
  | .name text => text
  | .ipv4 address => ipv4Text address
  | .ipv6 pieces => "[" ++ ipv6Text pieces ++ "]"

/-- Whether there is no host but an empty name. -/
def isEmpty : Host → Bool
  | .name text => text.isEmpty
  | _ => false

end Host

end PageRecords.Url
