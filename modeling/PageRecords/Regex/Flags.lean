import PageRecords.Regex.Basic

/-!
# Modes of a pattern

What a piece of a pattern means depends on the modes in force where it stands.
This module gives the meaning of the simple pieces under given modes. A piece
that could match part of a character's encoding has none.
-/

namespace PageRecords.Regex

open Unicode (CharSet)

structure Flags where
  ignoreCase : Bool := false
  multiLine : Bool := false
  dotAll : Bool := false
  swapGreed : Bool := false
  unicode : Bool := true
  crlf : Bool := false
  verbose : Bool := false
deriving DecidableEq, Repr, Inhabited

namespace Flags

/-- Sets or clears the mode of a letter, if there is one. -/
def set? (f : Flags) (letter : Char) (on : Bool) : Option Flags :=
  match letter with
  | 'i' => some { f with ignoreCase := on }
  | 'm' => some { f with multiLine := on }
  | 's' => some { f with dotAll := on }
  | 'U' => some { f with swapGreed := on }
  | 'u' => some { f with unicode := on }
  | 'R' => some { f with crlf := on }
  | 'x' => some { f with verbose := on }
  | _ => none

def fold (f : Flags) (s : CharSet) : CharSet :=
  if f.ignoreCase then (if f.unicode then s.foldCase else s.foldAsciiCase) else s

/-- The complement takes in bytes outside ASCII unless the mode is Unicode. -/
def negate? (f : Flags) (s : CharSet) : Option CharSet :=
  if f.unicode then some s.complement else none

def foldNegate? (f : Flags) (negated : Bool) (s : CharSet) : Option CharSet :=
  if negated then f.negate? (f.fold s) else some (f.fold s)

def asciiWord : CharSet := ⟨[(0x30, 0x39), (0x41, 0x5a), (0x5f, 0x5f), (0x61, 0x7a)]⟩

def word (f : Flags) : CharSet :=
  if f.unicode then Unicode.Class.word else asciiWord

/-- The set of `\d`, `\s`, `\w` or, negated, of their capitals. -/
def shorthand? (f : Flags) (letter : Char) : Option CharSet :=
  let base : CharSet :=
    match letter.toLower with
    | 'd' => if f.unicode then Unicode.Class.digit else .range 0x30 0x39
    | 's' => if f.unicode then Unicode.Class.space else ⟨[(9, 13), (32, 32)]⟩
    | _ => f.word
  if letter.isUpper then f.negate? base else some base

/-- One character as it stands. A byte past ASCII given by two hex digits is
refused outside the Unicode mode. -/
def literal? (f : Flags) (c : Char) (byte : Bool) : Option Node :=
  if !f.unicode && byte && 0x7f < c.toNat then none
  else some (.set (f.fold (.singleton c)))

/-- A character in brackets. -/
def member? (f : Flags) (c : Char) : Option Char :=
  if !f.unicode && 0x7f < c.toNat then none else some c

/-- Any character, or any but the ends of lines. -/
def dot? (f : Flags) : Option Node :=
  if !f.unicode then none
  else if f.dotAll then some (.set .all)
  else if f.crlf then some (.set (CharSet.complement ⟨[(10, 10), (13, 13)]⟩))
  else some (.set (CharSet.complement ⟨[(10, 10)]⟩))

def caret (f : Flags) : Look :=
  if f.multiLine then (if f.crlf then .crlfLineStart else .lineStart) else .textStart

def dollar (f : Flags) : Look :=
  if f.multiLine then (if f.crlf then .crlfLineEnd else .lineEnd) else .textEnd

/-- A name between `[:` and `:]`. -/
def posix? (name : String) : Option CharSet :=
  match name with
  | "alnum" => some ⟨[(0x30, 0x39), (0x41, 0x5a), (0x61, 0x7a)]⟩
  | "alpha" => some ⟨[(0x41, 0x5a), (0x61, 0x7a)]⟩
  | "ascii" => some ⟨[(0, 0x7f)]⟩
  | "blank" => some ⟨[(9, 9), (32, 32)]⟩
  | "cntrl" => some ⟨[(0, 0x1f), (0x7f, 0x7f)]⟩
  | "digit" => some ⟨[(0x30, 0x39)]⟩
  | "graph" => some ⟨[(0x21, 0x7e)]⟩
  | "lower" => some ⟨[(0x61, 0x7a)]⟩
  | "print" => some ⟨[(0x20, 0x7e)]⟩
  | "punct" => some ⟨[(0x21, 0x2f), (0x3a, 0x40), (0x5b, 0x60), (0x7b, 0x7e)]⟩
  | "space" => some ⟨[(9, 13), (32, 32)]⟩
  | "upper" => some ⟨[(0x41, 0x5a)]⟩
  | "word" => some asciiWord
  | "xdigit" => some ⟨[(0x30, 0x39), (0x41, 0x46), (0x61, 0x66)]⟩
  | _ => none

end Flags

end PageRecords.Regex
