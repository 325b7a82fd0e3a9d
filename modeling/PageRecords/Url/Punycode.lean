/-!
# Punycode

A label of a domain name in letters, digits and hyphens. The plain characters come
first; the others follow in the order of their codes, each as the distance from the
one before, written with digits of a threshold that adapts to the distances so far.
-/

namespace PageRecords.Url.Punycode

-- --------------------------------------------------------------------
-- Digits and thresholds
-- --------------------------------------------------------------------

def digitChar (d : Nat) : Char := Char.ofNat (if d < 26 then 'a'.toNat + d else '0'.toNat + (d - 26))

def digit? (c : Char) : Option Nat :=
  if c.isLower then some (c.toNat - 'a'.toNat)
  else if c.isDigit then some (c.toNat - '0'.toNat + 26)
  else none

/-- Below it a digit is the last of its number; `place` grows by 36 with each digit. -/
def threshold (place bias : Nat) : Nat := if place ≤ bias then 1 else min 26 (place - bias)

theorem threshold_pos (place bias : Nat) : 0 < threshold place bias := by
  unfold threshold; split <;> omega

/-- The bias of a distance that is cut down already. -/
def biasOf (distance bias : Nat) : Nat :=
  if 455 < distance then biasOf (distance / 35) (bias + 36)
  else bias + 36 * distance / (distance + 38)
termination_by distance
decreasing_by omega

/-- The bias after a distance, with the number of characters now in the label. -/
def adapt (distance count : Nat) (first : Bool) : Nat :=
  let d := if first then distance / 700 else distance / 2
  biasOf (d + d / count) 0

-- --------------------------------------------------------------------
-- Encoding
-- --------------------------------------------------------------------

/-- The digits of a distance, from a place on. -/
def digits (bias place distance : Nat) : List Char :=
  let t := threshold place bias
  if distance < t then [digitChar distance]
  else
    digitChar (t + (distance - t) % (36 - t)) ::
      digits bias (place + 36) ((distance - t) / (36 - t))
termination_by distance
decreasing_by
  have := threshold_pos place bias
  exact Nat.lt_of_le_of_lt (Nat.div_le_self _ _) (by omega)

structure Encoding where
  /-- The digits so far, the latest last. -/
  out : List Char
  distance : Nat
  bias : Nat
  /-- How many characters are encoded, the plain ones with them. -/
  count : Nat

/-- Goes past a character of the label while those of one code are encoded. -/
def Encoding.pass (plain code : Nat) (e : Encoding) (n : Nat) : Encoding :=
  if n < code then { e with distance := e.distance + 1 }
  else if n = code then
    { out := e.out ++ digits e.bias 36 e.distance, distance := 0,
      bias := adapt e.distance (e.count + 1) (e.count = plain), count := e.count + 1 }
  else e

/-- Encodes the characters of a code, then those of the codes after it. -/
def Encoding.codes (label : List Nat) (plain : Nat) (e : Encoding) (last : Nat) :
    List Nat → Encoding
  | [] => e
  | code :: rest =>
    let e := { e with distance := e.distance + (code - last) * (e.count + 1) }
    let e := label.foldl (Encoding.pass plain code) e
    codes label plain { e with distance := e.distance + 1 } (code + 1) rest

def insertCode (n : Nat) : List Nat → List Nat
  | [] => [n]
  | m :: rest => if n < m then n :: m :: rest else if n = m then m :: rest else m :: insertCode n rest

/-- The codes of a label that are not plain, in order. -/
def distinctCodes (label : List Nat) : List Nat :=
  (label.filter (128 ≤ ·)).foldr insertCode []

def encode (label : List Nat) : List Char :=
  let plain := (label.filter (· < 128)).map Char.ofNat
  let start : Encoding := ⟨[], 0, 72, plain.length⟩
  (if plain.isEmpty then [] else plain ++ ['-']) ++
    (Encoding.codes label plain.length start 128 (distinctCodes label)).out

-- --------------------------------------------------------------------
-- Decoding
-- --------------------------------------------------------------------

structure Decoding where
  label : List Nat
  code : Nat
  position : Nat
  bias : Nat
  /-- Where the position stood before the number being read. -/
  start : Nat
  weight : Nat
  place : Nat

def Decoding.step? (d : Decoding) (c : Char) : Option Decoding := do
  let digit ← digit? c
  let t := threshold d.place d.bias
  let position := d.position + digit * d.weight
  if digit < t then
    let count := d.label.length + 1
    let code := d.code + position / count
    if code.isValidChar then
      let at_ := position % count
      some { label := d.label.take at_ ++ code :: d.label.drop at_, code,
             position := at_ + 1, bias := adapt (position - d.start) count (d.start = 0),
             start := at_ + 1, weight := 1, place := 36 }
    else none
  else some { d with position, weight := d.weight * (36 - t), place := d.place + 36 }

/-- The label that a text stands for, if each of its numbers is whole. -/
def decode? (cs : List Char) : Option (List Nat) := do
  let behind := (cs.reverse.takeWhile (· ≠ '-')).reverse
  let plain := cs.take (cs.length - behind.length - 1)
  let numbers := if plain.isEmpty then cs else behind
  if plain.all (·.toNat < 128) then
    let d ← numbers.foldlM Decoding.step? ⟨plain.map Char.toNat, 128, 0, 72, 0, 1, 36⟩
    if d.place = 36 then some d.label else none
  else none

end PageRecords.Url.Punycode
