import PageRecords.Html.NamedChar
import PageRecords.Html.Token
import PageRecords.Unicode.Code

/-!
# Character references

What an ampersand stands for: the characters of a reference, or itself if what
follows is none.
-/

namespace PageRecords.Html

open Unicode (hexValue? charOfCode?)

/-- The printable characters that the codes of control characters were used for. -/
def printableOf : Nat → Option Nat
  | 0x80 => some 0x20ac
  | 0x82 => some 0x201a
  | 0x83 => some 0x192
  | 0x84 => some 0x201e
  | 0x85 => some 0x2026
  | 0x86 => some 0x2020
  | 0x87 => some 0x2021
  | 0x88 => some 0x2c6
  | 0x89 => some 0x2030
  | 0x8a => some 0x160
  | 0x8b => some 0x2039
  | 0x8c => some 0x152
  | 0x8e => some 0x17d
  | 0x91 => some 0x2018
  | 0x92 => some 0x2019
  | 0x93 => some 0x201c
  | 0x94 => some 0x201d
  | 0x95 => some 0x2022
  | 0x96 => some 0x2013
  | 0x97 => some 0x2014
  | 0x98 => some 0x2dc
  | 0x99 => some 0x2122
  | 0x9a => some 0x161
  | 0x9b => some 0x203a
  | 0x9c => some 0x153
  | 0x9e => some 0x17e
  | 0x9f => some 0x178
  | _ => none

def charOfReference (code : Nat) : Char :=
  if code = 0 then replacement
  else (charOfCode? ((printableOf code).getD code)).getD replacement

/-- A semicolon may close a numeric reference. -/
def dropSemicolon : List Char → List Char
  | ';' :: rest => rest
  | cs => cs

/-- The character of a number of that base; at least one digit. -/
def numericReference? (base : Nat) (isDigit : Char → Bool) (cs : List Char) :
    Option (List Char × List Char) :=
  let digits := cs.takeWhile isDigit
  if digits.isEmpty then none
  else
    let code := digits.foldl (fun n c => n * base + (hexValue? c).getD 0) 0
    some ([charOfReference code], dropSemicolon (cs.dropWhile isDigit))

/-- The longest name that the text starts with, with what it stands for. -/
def longestName? (cs : List Char) : Option (String × List Nat) :=
  match cs with
  | [] => none
  | c :: _ =>
    (NamedChar.startingWith c).foldl (fun best entry =>
      if entry.1.toList.isPrefixOf cs &&
          best.all (fun b : String × List Nat => b.1.length < entry.1.length) then some entry
      else best) none

/-- A letter, a digit or an equals sign follows. -/
def continuesName : List Char → Bool
  | c :: _ => c = '=' || c.isAlphanum
  | [] => false

/-- The characters of a name. In an attribute's value a name without semicolon is no
reference if a letter, a digit or an equals sign follows. -/
def namedReference? (inValue : Bool) (cs : List Char) : Option (List Char × List Char) :=
  match longestName? cs with
  | none => none
  | some (name, codes) =>
    let rest := cs.drop name.length
    if inValue && continuesName rest && !name.endsWith ";" then none
    else some (codes.map charOfReference, rest)

/-- What follows an ampersand, as a reference. -/
def reference? (inValue : Bool) : List Char → Option (List Char × List Char)
  | '#' :: 'x' :: cs | '#' :: 'X' :: cs => numericReference? 16 (fun c => (hexValue? c).isSome) cs
  | '#' :: cs => numericReference? 10 Char.isDigit cs
  | cs => namedReference? inValue cs

theorem length_dropSemicolon (cs : List Char) : (dropSemicolon cs).length ≤ cs.length := by
  unfold dropSemicolon
  split <;> simp

theorem length_numericReference? {base : Nat} {isDigit : Char → Bool} {cs : List Char}
    {r : List Char × List Char} (h : numericReference? base isDigit cs = some r) :
    r.2.length ≤ cs.length := by
  simp only [numericReference?] at h
  split at h
  · cases h
  · cases h
    exact Nat.le_trans (length_dropSemicolon _) ((List.dropWhile_suffix _).length_le)

theorem length_reference? {inValue : Bool} {cs : List Char} {r : List Char × List Char}
    (h : reference? inValue cs = some r) : r.2.length ≤ cs.length := by
  unfold reference? at h
  split at h
  · have := length_numericReference? h; simp; omega
  · have := length_numericReference? h; simp; omega
  · have := length_numericReference? h; simp; omega
  · unfold namedReference? at h
    split at h
    · cases h
    · dsimp only at h
      split at h
      · cases h
      · cases h; simp

/-- The characters that an ampersand and what follows it stand for, and the rest. -/
def reference (inValue : Bool) (cs : List Char) : List Char × List Char :=
  (reference? inValue cs).getD (['&'], cs)

theorem length_reference (inValue : Bool) (cs : List Char) :
    (reference inValue cs).2.length ≤ cs.length := by
  unfold reference
  cases h : reference? inValue cs with
  | none => simp
  | some r => simpa using length_reference? h

end PageRecords.Html
