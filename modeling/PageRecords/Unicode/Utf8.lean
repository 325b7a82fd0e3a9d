import PageRecords.Unicode.Code

/-!
# Characters as bytes

The byte sequences of UTF-8. Decoding takes any bytes: what is no character is
marked, one mark for each start of a sequence that breaks off.
-/

namespace PageRecords.Unicode.Utf8

/-- The bytes of a text. -/
def encode (cs : List Char) : List UInt8 := cs.flatMap String.utf8EncodeChar

/-- What is known of a sequence: the bits so far, how many bytes are to come, and the
bounds of the next one. -/
inductive State where
  | ready
  | inside (bits left least most : Nat)
deriving DecidableEq, Repr

/-- The first byte of a sequence: a whole character or none, or what is then known.
The bounds of the second byte leave out shorter sequences, surrogates and what lies
past the last character. -/
def start (b : UInt8) : Option (Option Char) × State :=
  let n := b.toNat
  if n < 0x80 then (some (charOfCode? n), .ready)
  else if n < 0xc2 then (some none, .ready)
  else if n < 0xe0 then (none, .inside (n % 32) 1 0x80 0xbf)
  else if n < 0xf0 then
    (none, .inside (n % 16) 2 (if n = 0xe0 then 0xa0 else 0x80) (if n = 0xed then 0x9f else 0xbf))
  else if n < 0xf5 then
    (none, .inside (n % 8) 3 (if n = 0xf0 then 0x90 else 0x80) (if n = 0xf4 then 0x8f else 0xbf))
  else (some none, .ready)

/-- The characters, with nothing where the bytes are none. -/
def decodeFrom : State → List UInt8 → List (Option Char)
  | .ready, [] => []
  | .inside .., [] => [none]
  | .ready, b :: rest => (start b).1.toList ++ decodeFrom (start b).2 rest
  | .inside bits left least most, b :: rest =>
    if least ≤ b.toNat ∧ b.toNat ≤ most then
      let bits := bits * 64 + b.toNat % 64
      if left ≤ 1 then charOfCode? bits :: decodeFrom .ready rest
      else decodeFrom (.inside bits (left - 1) 0x80 0xbf) rest
    else none :: ((start b).1.toList ++ decodeFrom (start b).2 rest)

def decode (bytes : List UInt8) : List (Option Char) := decodeFrom .ready bytes

/-- The text of bytes that are all characters. -/
def decode? (bytes : List UInt8) : Option (List Char) := (decode bytes).mapM id

/-- The text of any bytes, with the replacement character for what is none. -/
def decodeLossy (bytes : List UInt8) : List Char :=
  (decode bytes).map fun c => c.getD '\ufffd'

end PageRecords.Unicode.Utf8
