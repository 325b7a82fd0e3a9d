import PageRecords.Regex.Basic
import Std.Data.HashSet

/-!
# Matching

An expression takes threads from place to place. It is given threads in order of
preference, and gives those that they lead to in that order, each place once: what
follows depends on the place alone, so of two ways to reach it only the preferred one
can matter. A search starts a thread at every place, the leftmost being preferred.
-/

namespace PageRecords.Regex

/-- The part of the text between two places. -/
structure Span where
  start : Place
  stop : Place
deriving DecidableEq, Repr, Inhabited

def Span.text (s : Span) : String :=
  String.ofList (s.start.after.take (s.stop.index - s.start.index))

/-- A place reached, and what happened on the way to it. -/
structure Thread where
  place : Place
  /-- What the groups matched, the latest first. -/
  groups : List (Nat × Span)
  /-- Where the groups began that are not at their end, the innermost first. -/
  opened : List Place
  /-- The ranks that the thread had before the alternations that it is in, the innermost
  first. -/
  ranks : List Nat
deriving DecidableEq, Repr, Inhabited

namespace Thread

def start (place : Place) : Thread := ⟨place, [], [], []⟩

/-- Goes past a character of a set. -/
def take? (s : Unicode.CharSet) (t : Thread) : Option Thread :=
  match t.place.next? with
  | some (c, place) => if s.contains c then some { t with place } else none
  | none => none

def open_ (t : Thread) : Thread := { t with opened := t.place :: t.opened }

/-- Ends the innermost group. -/
def close (index : Nat) (t : Thread) : Thread :=
  match t.opened with
  | place :: opened => { t with opened, groups := (index, ⟨place, t.place⟩) :: t.groups }
  | [] => t

def rank (t : Thread) : Nat := t.ranks.headD 0

/-- Threads with their ranks, from a first one on. -/
def rankFrom (n : Nat) : List Thread → List Thread
  | [] => []
  | t :: rest => { t with ranks := n :: t.ranks } :: rankFrom (n + 1) rest

def unrank (t : Thread) : Thread := { t with ranks := t.ranks.tail }

/-- Keeps the first thread at each place not seen before. -/
def distinctFrom (seen : Std.HashSet Nat) : List Thread → List Thread
  | [] => []
  | t :: rest =>
    if seen.contains t.place.index then distinctFrom seen rest
    else t :: distinctFrom (seen.insert t.place.index) rest

def distinct (ts : List Thread) : List Thread := distinctFrom ∅ ts

end Thread

-- --------------------------------------------------------------------
-- Repetition
-- --------------------------------------------------------------------

/-- Where rounds were begun, and the exits so far, the latest first. What a round begins
with is its place, and how many rounds are left where that is bounded. -/
structure Loop (κ : Type) [BEq κ] [Hashable κ] where
  begun : Std.HashSet κ
  exits : List Thread

namespace Loop

variable {κ : Type} [BEq κ] [Hashable κ]

def none : Loop κ := ⟨∅, []⟩

def exit (loop : Loop κ) (t : Thread) : Loop κ :=
  { loop with exits := t :: loop.exits }

def begin (loop : Loop κ) (k : κ) : Loop κ := { loop with begun := loop.begun.insert k }

/-- The exits, the preferred first. -/
def threads (loop : Loop κ) : List Thread :=
  Thread.distinct loop.exits.reverse

/-- Adds the exits after one round or more. A round is not begun twice at one
place, so that rounds that match nothing come to an end. -/
def many (body : Thread → List Thread) (greedy : Bool) : Nat → Thread → Loop Nat → Loop Nat
  | 0, _, loop => loop
  | fuel + 1, t, loop =>
    if loop.begun.contains t.place.index then loop
    else
      (body t).foldl
        (fun loop r =>
          if greedy then (many body greedy fuel r loop).exit r
          else many body greedy fuel r (loop.exit r))
        (loop.begin t.place.index)

/-- Adds the exits after at most so many rounds. -/
def upTo (body : Thread → List Thread) (greedy : Bool) :
    Nat → Thread → Loop (Nat × Nat) → Loop (Nat × Nat)
  | 0, t, loop => loop.exit t
  | left + 1, t, loop =>
    if loop.begun.contains (left + 1, t.place.index) then loop
    else
      let loop := loop.begin (left + 1, t.place.index)
      if greedy then ((body t).foldl (fun loop r => upTo body greedy left r loop) loop).exit t
      else (body t).foldl (fun loop r => upTo body greedy left r loop) (loop.exit t)

end Loop

/-- A bound on the rounds from a place: a nested round begins further on or not at all. -/
def Thread.fuel (t : Thread) : Nat := t.place.after.length + 2

/-- One round or more. -/
def plus (body : Thread → List Thread) (greedy : Bool) (ts : List Thread) : List Thread :=
  (ts.foldl (fun loop t => Loop.many body greedy t.fuel t loop) .none).threads

/-- Any number of rounds. -/
def star (body : Thread → List Thread) (greedy : Bool) (ts : List Thread) : List Thread :=
  (ts.foldl
    (fun loop t =>
      if greedy then (Loop.many body greedy t.fuel t loop).exit t
      else Loop.many body greedy t.fuel t (loop.exit t))
    .none).threads

/-- At most so many rounds. -/
def atMost (body : Thread → List Thread) (greedy : Bool) (most : Nat) (ts : List Thread) :
    List Thread :=
  (ts.foldl (fun loop t => Loop.upTo body greedy most t loop) .none).threads

-- --------------------------------------------------------------------
-- Running
-- --------------------------------------------------------------------

/-- Threads of two alternatives, in the order of those that they came from. -/
def mergeRanks (first second : List Thread) : List Thread :=
  Thread.distinct
    ((first.merge second fun t u => decide (t.rank ≤ u.rank)).map Thread.unrank)

/-- The threads that an expression leads some threads to. -/
def Node.run : Node → List Thread → List Thread
  | .empty, ts => ts
  | .set s, ts => ts.filterMap (Thread.take? s)
  | .look l, ts => ts.filter fun t => l.holds t.place
  | .group index body, ts => (body.run (ts.map Thread.open_)).map (Thread.close index)
  | .cat first second, ts => second.run (first.run ts)
  | .alt first second, ts =>
    let ranked := Thread.rankFrom 0 ts
    mergeRanks (first.run ranked) (second.run ranked)
  | .rep least most greedy body, ts =>
    let round (t : Thread) : List Thread := body.run [t]
    match most, least with
    | some most, _ => atMost round greedy (most - least) (Nat.repeat body.run least ts)
    | none, 0 => star round greedy ts
    | none, least + 1 => plus round greedy (Nat.repeat body.run least ts)

-- --------------------------------------------------------------------
-- Searching
-- --------------------------------------------------------------------

/-- The places of a text from one on. -/
def Place.all (index : Nat) (before : List Char) : List Char → List Place
  | [] => [⟨index, before, []⟩]
  | c :: rest => ⟨index, before, c :: rest⟩ :: all (index + 1) (c :: before) rest

/-- What the groups of a match took; the whole match is group 0. -/
structure Captures where
  groups : List (Nat × Span)
deriving Repr

/-- The text of a group, if it took part. -/
def Captures.get? (c : Captures) (index : Nat) : Option String :=
  (c.groups.lookup index).map Span.text

/-- The leftmost match, and of those the preferred one. -/
def captures? (r : Regex) (text : String) : Option Captures :=
  let starts := (Place.all 0 [] text.toList).map Thread.start
  ((Node.group 0 r.root).run starts).head?.map fun t => ⟨t.groups⟩

/-- Whether the pattern matches somewhere in the text. -/
def isMatch (r : Regex) (text : String) : Bool :=
  (r.captures? text).isSome

end PageRecords.Regex
