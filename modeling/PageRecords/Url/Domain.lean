import PageRecords.Unicode.Class
import PageRecords.Unicode.Composition
import PageRecords.Unicode.Utf8
import PageRecords.Url.Domain.Context
import PageRecords.Url.Domain.Mapping
import PageRecords.Url.Punycode

/-!
# Domain names

A domain name in its ASCII form. Its characters are mapped and composed; then each
label must be one that its characters allow, and is encoded if it is not ASCII.
-/

namespace PageRecords.Url.Domain

open Unicode (Utf8.decode? CharSet.containsCode Class.mark)

-- --------------------------------------------------------------------
-- Mapping
-- --------------------------------------------------------------------

/-- What a character becomes, if it is allowed. -/
def map? (n : Nat) : Option (List Nat) :=
  if isIn kept n then some [n]
  else if isIn dropped n then some []
  else
    match shifted.find? fun (first, last, _) => first ≤ n && n ≤ last with
    | some (first, _, step, target) => some [target + (n - first) * step]
    | none => spelled.lookup n

/-- The name mapped and in its normal form. -/
def mapAll? (name : List Nat) : Option (List Nat) := do
  let mapped ← name.mapM map?
  return Unicode.Composition.normalize mapped.flatten

/-- ASCII characters that a domain name may not hold. -/
def isForbidden (n : Nat) : Bool :=
  n ≤ 0x20 || n = 0x7f || "%#/:<>?@[\\]^|".toList.any (·.toNat = n)

-- --------------------------------------------------------------------
-- Labels
-- --------------------------------------------------------------------

def isMark (n : Nat) : Bool := CharSet.containsCode Class.mark.ranges n

/-- Whether the joiners of a label stand where they may: after a virama, or one that
keeps letters apart between letters that join. `before` is the text before, the
latest first. -/
def joinersFit (before : List Nat) : List Nat → Bool
  | [] => true
  | n :: rest =>
    let afterVirama := before.head?.any isVirama
    let fits :=
      if n = 0x200c then
        afterVirama || ((before.dropWhile passes).head?.any joinsAfter &&
          (rest.dropWhile passes).head?.any joinsBefore)
      else n ≠ 0x200d || afterVirama
    fits && joinersFit (n :: before) rest

/-- Whether a label keeps to one direction. -/
def keepsDirection (label : List Nat) : Bool :=
  match label.map direction with
  | [] => true
  | first :: rest =>
    let last := (rest.reverse.dropWhile (· = .mark)).head?.getD first
    match first with
    | .rightward =>
      rest.all (fun d => d = .rightward || d = .number || d = .mark || d = .neutral) &&
        (last = .rightward || last = .number)
    | .leftward =>
      rest.all (fun d => d ≠ .rightward && d ≠ .other) &&
        !(rest.contains .number && rest.contains .arabicNumber) &&
        (last = .leftward || last = .number || last = .arabicNumber)
    | _ => false

/-- Whether a name has text that runs leftward. -/
def runsLeftward (label : List Nat) : Bool :=
  label.any fun n => direction n = .leftward || direction n = .arabicNumber

/-- What an encoded label stands for: it must be one that mapping leaves alone, and
not ASCII. -/
def decodeLabel? (label : List Nat) : Option (List Nat) := do
  let decoded ← Punycode.decode? ((label.drop 4).map Char.ofNat)
  if decoded.any (128 ≤ ·) && mapAll? decoded = some decoded then some decoded else none

/-- The characters of a label, read from its encoded form if it has one. -/
def readLabel? (label : List Nat) : Option (List Nat) := do
  let read ← if "xn--".toList.map Char.toNat <+: label then decodeLabel? label else some label
  if read.any isForbidden || read.head?.any isMark || !joinersFit [] read then none
  else some read

def writeLabel (label : List Nat) : List Char :=
  if label.any (128 ≤ ·) then "xn--".toList ++ Punycode.encode label
  else label.map Char.ofNat

-- --------------------------------------------------------------------
-- Names
-- --------------------------------------------------------------------

/-- The ASCII form of the name that bytes spell. -/
def toAscii? (bytes : List UInt8) : Option (List Char) := do
  let name ← Utf8.decode? bytes
  let mapped ← mapAll? (name.map Char.toNat)
  let labels ← (mapped.splitOn '.'.toNat).mapM readLabel?
  if labels.any runsLeftward && !labels.all keepsDirection then none
  else some (['.'].intercalate (labels.map writeLabel))

end PageRecords.Url.Domain
