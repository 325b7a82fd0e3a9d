import PageRecords.Unicode.Utf8

/-!
# Percent coding

Bytes that a part of an address may not hold stand as a percent sign and two hex
digits. Which they are depends on the part.
-/

namespace PageRecords.Url.Percent

open Unicode (hexValue? Utf8.encode)

def hexDigit (n : Nat) : Char :=
  if n < 10 then Char.ofNat ('0'.toNat + n) else Char.ofNat ('A'.toNat + (n - 10))

/-- A byte as a percent sign and two digits. -/
def byte (b : UInt8) : List Char :=
  ['%', hexDigit (b.toNat / 16), hexDigit (b.toNat % 16)]

-- --------------------------------------------------------------------
-- Sets
-- --------------------------------------------------------------------

/-- Control characters and what is not ASCII. -/
def isControl (b : UInt8) : Bool := b < 0x20 || b ≥ 0x7f

def isOneOf (chars : String) (b : UInt8) : Bool :=
  chars.toList.any fun c => c.toNat = b.toNat

def inFragment (b : UInt8) : Bool := isControl b || isOneOf " \"<>`" b

def inPath (b : UInt8) : Bool := inFragment b || isOneOf "#?\x7b\x7d" b

def inUserInfo (b : UInt8) : Bool := inPath b || isOneOf "/:;=@[\\]^|" b

def inQuery (b : UInt8) : Bool := isControl b || isOneOf " \"#<>" b

def inSpecialQuery (b : UInt8) : Bool := inQuery b || b = 0x27

-- --------------------------------------------------------------------
-- Coding
-- --------------------------------------------------------------------

/-- A character with the bytes of a set encoded. -/
def encodeChar (set : UInt8 → Bool) (c : Char) : List Char :=
  (String.utf8EncodeChar c).flatMap fun b => if set b then byte b else [Char.ofNat b.toNat]

def encode (set : UInt8 → Bool) (cs : List Char) : List Char := cs.flatMap (encodeChar set)

/-- The byte that a hex digit stands for. -/
def digit? (b : UInt8) : Option Nat := hexValue? (Char.ofNat b.toNat)

/-- The byte that two digits at the start stand for. -/
def pair? : List UInt8 → Option UInt8
  | x :: y :: _ => do return UInt8.ofNat ((← digit? x) * 16 + (← digit? y))
  | _ => none

def decodeFrom (skip : Nat) : List UInt8 → List UInt8
  | [] => []
  | b :: rest =>
    match skip with
    | n + 1 => decodeFrom n rest
    | 0 =>
      match if b = 0x25 then pair? rest else none with
      | some value => value :: decodeFrom 2 rest
      | none => b :: decodeFrom 0 rest

/-- The bytes with every encoded one in place of its digits. A percent sign without
two digits stands for itself. -/
def decode (bytes : List UInt8) : List UInt8 := decodeFrom 0 bytes

end PageRecords.Url.Percent
