import PageRecords.Url.Percent

/-!
# Query pairs

Names and values in a query, written as forms are submitted: a space is a plus sign,
and every pair has its equals sign.
-/

namespace PageRecords.Url.Form

open Unicode (Utf8.encode Utf8.decodeLossy)

abbrev Pairs := List (String × String)

-- --------------------------------------------------------------------
-- Writing
-- --------------------------------------------------------------------

def isPlain (b : UInt8) : Bool :=
  (0x30 ≤ b && b ≤ 0x39) || (0x41 ≤ b && b ≤ 0x5a) || (0x61 ≤ b && b ≤ 0x7a) ||
    Percent.isOneOf "*-._" b

def encodeByte (b : UInt8) : List Char :=
  if isPlain b then [Char.ofNat b.toNat] else if b = 0x20 then ['+'] else Percent.byte b

def encode (s : String) : List Char := (Utf8.encode s.toList).flatMap encodeByte

def encodePair (p : String × String) : List Char := encode p.1 ++ '=' :: encode p.2

/-- The query of pairs. -/
def write (ps : Pairs) : List Char := ['&'].intercalate (ps.map encodePair)

-- --------------------------------------------------------------------
-- Reading
-- --------------------------------------------------------------------

def decode (cs : List Char) : String :=
  let spaced := cs.map fun c => if c = '+' then ' ' else c
  String.ofList (Utf8.decodeLossy (Percent.decode (Utf8.encode spaced)))

/-- A name and a value; without an equals sign the value is empty. -/
def decodePair (cs : List Char) : String × String :=
  (decode (cs.takeWhile (· ≠ '=')), decode ((cs.dropWhile (· ≠ '=')).drop 1))

/-- The pairs of a query. -/
def read (cs : List Char) : Pairs :=
  ((cs.splitOn '&').filter (!·.isEmpty)).map decodePair

end PageRecords.Url.Form
