import PageRecords.Regex.Escape

/-!
# Bracketed classes

What stands between brackets: characters, ranges, escapes, named classes and
nested brackets, and the set operations between them, which bind alike and from
the left.
-/

namespace PageRecords.Regex

open Unicode (CharSet)

inductive SetOp where
  | inter
  | diff
  | symmDiff
deriving DecidableEq, Repr

/-- A set with the number of nested constructs it was written with. -/
structure Depth where
  set : CharSet
  depth : Nat
deriving Repr, Inhabited

/-- Members read so far between two operators. -/
structure Members where
  ranges : List (Nat × Nat)
  count : Nat
  depth : Nat
deriving Repr, Inhabited

def Members.none : Members := ⟨[], 0, 0⟩

def Members.add (m : Members) (s : CharSet) (depth : Nat) : Members :=
  ⟨s.ranges ++ m.ranges, m.count + 1, max m.depth depth⟩

def Members.toSet (m : Members) : Depth :=
  ⟨.ofRanges m.ranges, if m.count ≤ 1 then m.depth else m.depth + 1⟩

/-- An open bracket around the members read before it, or an operator after its
left operand. -/
inductive BracketFrame where
  | opened (outer : Members) (negated : Bool)
  | operator (op : SetOp) (left : Depth)
deriving Repr

/-- Applies the operator on top, if there is one. -/
def applyOp (f : Flags) (frames : List BracketFrame) (right : Depth) :
    Depth × List BracketFrame :=
  match frames with
  | .operator op left :: rest =>
    let l := f.fold left.set
    let r := f.fold right.set
    let s := match op with
      | .inter => l.inter r
      | .diff => l.diff r
      | .symmDiff => l.symmDiff r
    (⟨s, max left.depth right.depth + 1⟩, rest)
  | frames => (right, frames)

/-- Hyphens after an opening bracket, then a closing bracket if nothing stands
before it, are members. -/
def leadingMembers (f : Flags) : Nat → List Char → Members → Option (Members × List Char)
  | 0, _, _ => none
  | fuel + 1, cs, m =>
    match cs with
    | [] => none
    | '-' :: rest => leadingMembers f fuel (skip f rest) (m.add (.singleton '-') 0)
    | ']' :: rest =>
      if m.count = 0 then
        match skip f rest with
        | [] => none
        | rest => some (m.add (.singleton ']') 0, rest)
      else some (m, cs)
    | _ => some (m, cs)

/-- After an opening bracket: whether a caret follows, and the first members. -/
def openBracket? (f : Flags) (cs : List Char) : Option (Bool × Members × List Char) :=
  match skip f cs with
  | '^' :: rest =>
    (leadingMembers f (rest.length + 1) (skip f rest) .none).map fun (m, cs) => (true, m, cs)
  | rest =>
    (leadingMembers f (rest.length + 1) rest .none).map fun (m, cs) => (false, m, cs)

/-- A class such as `[:alpha:]`, after its opening bracket. -/
def posixClass? (cs : List Char) : Option (CharSet × Bool × List Char) :=
  match cs with
  | ':' :: rest =>
    let (negated, rest) := match rest with
      | '^' :: rest => (true, rest)
      | rest => (false, rest)
    let name := rest.takeWhile (· != ':')
    match rest.dropWhile (· != ':') with
    | ':' :: ']' :: after => (Flags.posix? (String.ofList name)).map fun s => (s, negated, after)
    | _ => none
  | _ => none

/-- One member or end of a range. -/
def bracketItem? (f : Flags) (cs : List Char) : Option (Escape × List Char) :=
  match cs with
  | [] => none
  | '\\' :: rest => escape? f rest
  | c :: rest => some (.literal c false, rest)

/-- The set of one member. -/
def Escape.toMember? (f : Flags) : Escape → Option CharSet
  | .literal c _ => (f.member? c).map .singleton
  | .set s => some s
  | .look _ => none

/-- A member or a range of two. A hyphen before a closing bracket or before
another hyphen is no range. -/
def bracketRange? (f : Flags) (cs : List Char) : Option (CharSet × List Char) := do
  let (first, rest) ← bracketItem? f cs
  match skip f rest with
  | [] => none
  | '-' :: after =>
    match skip f after with
    | ']' :: _ | '-' :: _ => (first.toMember? f).map (·, skip f rest)
    | [] => none
    | more =>
      let (last, rest) ← bracketItem? f more
      match first, last with
      | .literal a _, .literal b _ =>
        let a ← f.member? a
        let b ← f.member? b
        if a.toNat ≤ b.toNat then pure (.range a.toNat b.toNat, rest) else none
      | _, _ => none
  | rest => (first.toMember? f).map (·, rest)

/-- The members from here to the bracket that closes the outermost one. -/
def bracketBody? (f : Flags) :
    Nat → List BracketFrame → Members → List Char → Option (Depth × List Char)
  | 0, _, _, _ => none
  | fuel + 1, frames, m, cs =>
    match skip f cs with
    | [] => none
    | '[' :: rest =>
      match posixClass? rest with
      | some (s, negated, rest) => do
        let s ← f.foldNegate? negated s
        bracketBody? f fuel frames (m.add s 0) rest
      | none => do
        let (negated, inner, rest) ← openBracket? f rest
        bracketBody? f fuel (.opened m negated :: frames) inner rest
    | ']' :: rest =>
      let (s, frames) := applyOp f frames m.toSet
      match frames with
      | .opened outer negated :: frames => do
        let set ← f.foldNegate? negated s.set
        match frames with
        | [] => pure (⟨set, s.depth + 1⟩, rest)
        | frames => bracketBody? f fuel frames (outer.add set (s.depth + 1)) rest
      | _ => none
    | '&' :: '&' :: rest => operator fuel frames m .inter rest
    | '-' :: '-' :: rest => operator fuel frames m .diff rest
    | '~' :: '~' :: rest => operator fuel frames m .symmDiff rest
    | cs => do
      let (s, rest) ← bracketRange? f cs
      bracketBody? f fuel frames (m.add s 0) rest
where
  operator (fuel : Nat) (frames : List BracketFrame) (m : Members) (op : SetOp)
      (rest : List Char) : Option (Depth × List Char) :=
    let (left, frames) := applyOp f frames m.toSet
    bracketBody? f fuel (.operator op left :: frames) .none rest

/-- After an opening bracket: the class, and what follows its closing bracket. -/
def bracket? (f : Flags) (cs : List Char) : Option (Depth × List Char) := do
  let (negated, m, rest) ← openBracket? f cs
  bracketBody? f (cs.length + 1) [.opened .none negated] m rest

end PageRecords.Regex
