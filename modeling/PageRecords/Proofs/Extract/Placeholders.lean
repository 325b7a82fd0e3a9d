import Mathlib.Data.List.Permutation
import Mathlib.Data.List.TakeWhile
import Mathlib.Data.Nat.Digits.Defs
import PageRecords.Extract.Replacement
import PageRecords.Proofs.Regex.Groups

/-!
# Placeholders

An output is plain text and dollar signs with the digits after them, and there is one way to
take it apart so. A replacement puts the groups of the match for the placeholders and leaves the
rest as it is (`placeholders_are_filled_once`). What a group took is not looked at again, so
dollar signs in it mean nothing. Which match a search prefers is left to `Regex.captures?`.
-/

namespace PageRecords

open Regex (Captures)

namespace Replacement

variable {x : Char} {cs rest run digits : List Char} {c : Captures} {n : Nat}

-- --------------------------------------------------------------------
-- Runs of characters
-- --------------------------------------------------------------------

section

variable {keep : Char → Bool}

/-- The text ends before a character that is not kept. -/
def Ends (keep : Char → Bool) (rest : List Char) : Prop := ∀ x ∈ rest.head?, keep x = false

theorem ends_dropWhile (keep : Char → Bool) (cs : List Char) : Ends keep (cs.dropWhile keep) := by
  intro x hx
  have hnot := List.head?_dropWhile_not keep cs
  rw [Option.mem_def.mp hx] at hnot
  simpa using hnot

theorem takeWhile_append (hkeep : ∀ x ∈ run, keep x = true) (hend : Ends keep rest) :
    (run ++ rest).takeWhile keep = run := by
  rw [List.takeWhile_append_of_pos hkeep]
  cases rest with
  | nil => simp
  | cons x rest => simp [hend x rfl]

theorem dropWhile_append (hkeep : ∀ x ∈ run, keep x = true) (hend : Ends keep rest) :
    (run ++ rest).dropWhile keep = rest := by
  rw [List.dropWhile_append_of_pos hkeep]
  cases rest with
  | nil => simp
  | cons x rest => simp [hend x rfl]

end

-- --------------------------------------------------------------------
-- The pieces of an output
-- --------------------------------------------------------------------

def isPlain (x : Char) : Bool := x ≠ '$'

/-- A decimal digit of any script. -/
def isDigit (x : Char) : Bool := Unicode.Class.digit.contains x

theorem isPlain_eq_false : isPlain x = false ↔ x = '$' := by simp [isPlain]

/-- A part of an output. -/
inductive Piece where
  /-- Text without a dollar sign. -/
  | plain (text : List Char)
  /-- A dollar sign with the digits after it: a placeholder, if there are any. -/
  | dollar (digits : List Char)
deriving DecidableEq, Repr

namespace Piece

def text : Piece → List Char
  | .plain text => text
  | .dollar digits => '$' :: digits

/-- The piece goes on as long as it can before the rest. -/
inductive Before : Piece → List Char → Prop
  | plain {text rest : List Char} (hsome : text ≠ []) (hplain : ∀ x ∈ text, isPlain x = true)
      (hend : Ends isPlain rest) : Before (.plain text) rest
  | dollar {digits rest : List Char} (hdigits : ∀ x ∈ digits, isDigit x = true)
      (hend : Ends isDigit rest) : Before (.dollar digits) rest

end Piece

/-- The text is those pieces one after the other. -/
inductive Splits : List Char → List Piece → Prop
  | nil : Splits [] []
  | cons {p : Piece} {rest : List Char} {ps : List Piece} (h : p.Before rest)
      (hrest : Splits rest ps) : Splits (p.text ++ rest) (p :: ps)

/-- The pieces of a text. -/
def pieces : List Char → List Piece
  | [] => []
  | x :: rest =>
    if isPlain x then .plain (x :: rest.takeWhile isPlain) :: pieces (rest.dropWhile isPlain)
    else .dollar (rest.takeWhile isDigit) :: pieces (rest.dropWhile isDigit)
termination_by cs => cs.length
decreasing_by
  all_goals exact Nat.lt_succ_of_le (List.dropWhile_sublist _).length_le

theorem splits_pieces (cs : List Char) : Splits cs (pieces cs) := by
  induction cs using pieces.induct with
  | case1 =>
    rw [pieces]
    exact .nil
  | case2 x rest hplain ih =>
    have hall : ∀ y ∈ x :: rest.takeWhile isPlain, isPlain y = true :=
      List.forall_mem_cons.mpr ⟨hplain, fun _ hy => List.mem_takeWhile_imp hy⟩
    have hsplits := Splits.cons
      (.plain (List.cons_ne_nil _ _) hall (ends_dropWhile isPlain rest)) ih
    rw [Piece.text, List.cons_append, List.takeWhile_append_dropWhile] at hsplits
    rwa [pieces, if_pos hplain]
  | case3 x rest hdollar ih =>
    have hall : ∀ y ∈ rest.takeWhile isDigit, isDigit y = true :=
      fun _ hy => List.mem_takeWhile_imp hy
    have hsplits := Splits.cons (.dollar hall (ends_dropWhile isDigit rest)) ih
    rw [Piece.text, List.cons_append, List.takeWhile_append_dropWhile] at hsplits
    rw [Bool.not_eq_true, isPlain_eq_false] at hdollar
    subst hdollar
    rwa [pieces, if_neg (by decide)]

theorem pieces_of_splits {ps : List Piece} (h : Splits cs ps) : pieces cs = ps := by
  induction h with
  | nil => rw [pieces]
  | @cons p rest ps h _ ih =>
    cases h with
    | plain hsome hplain hend =>
      obtain ⟨x, text, rfl⟩ := List.exists_cons_of_ne_nil hsome
      obtain ⟨hx, htext⟩ := List.forall_mem_cons.mp hplain
      rw [Piece.text, List.cons_append, pieces, if_pos hx, takeWhile_append htext hend,
        dropWhile_append htext hend, ih]
    | dollar hdigits hend =>
      rw [Piece.text, List.cons_append, pieces, if_neg (by decide), takeWhile_append hdigits hend,
        dropWhile_append hdigits hend, ih]

-- --------------------------------------------------------------------
-- Filling
-- --------------------------------------------------------------------

/-- What a piece is replaced by. -/
def filled (c : Captures) : Piece → List Char
  | .plain text => text
  | .dollar digits => if digits.isEmpty then ['$'] else groupText c digits

theorem fill_plain (h : ∀ x ∈ run, isPlain x = true) :
    fill c none (run ++ rest) = run ++ fill c none rest := by
  induction run with
  | nil => rfl
  | cons x run ih =>
    obtain ⟨hx, hrun⟩ := List.forall_mem_cons.mp h
    have hplain : x ≠ '$' := by simpa [isPlain] using hx
    rw [List.cons_append, fill, if_neg hplain, ih hrun]
    rfl

theorem fill_digits (h : ∀ x ∈ digits, isDigit x = true) (seen : List Char) :
    fill c (some seen) (digits ++ rest) = fill c (some (digits.reverse ++ seen)) rest := by
  induction digits generalizing seen with
  | nil => rfl
  | cons x digits ih =>
    obtain ⟨hx, hdigits⟩ := List.forall_mem_cons.mp h
    rw [isDigit] at hx
    rw [List.cons_append, fill, if_pos hx, ih hdigits, List.reverse_cons, List.append_assoc]
    rfl

/-- A dollar sign is done with where its digits end. -/
theorem fill_end (hend : Ends isDigit rest) (seen : List Char) :
    fill c (some seen) rest = filled c (.dollar seen.reverse) ++ fill c none rest := by
  cases rest with
  | nil => cases seen <;> simp [fill, filled]
  | cons x rest =>
    have hx : Unicode.Class.digit.contains x = false := hend x rfl
    simp only [fill, hx, filled, List.isEmpty_reverse, Bool.false_eq_true, if_false]
    split <;> rfl

theorem fill_of_splits {ps : List Piece} (h : Splits cs ps) :
    fill c none cs = ps.flatMap (filled c) := by
  induction h with
  | nil => rfl
  | @cons p rest ps h _ ih =>
    rw [List.flatMap_cons, ← ih]
    cases h with
    | plain _ hplain _ => exact fill_plain hplain
    | @dollar digits _ hdigits hend =>
      have hdollar : fill c none ('$' :: (digits ++ rest)) = fill c (some []) (digits ++ rest) := by
        rw [fill, if_pos rfl]
      rw [Piece.text, List.cons_append, hdollar, fill_digits hdigits, List.append_nil,
        fill_end hend, List.reverse_reverse]

-- --------------------------------------------------------------------
-- The groups that placeholders stand for
-- --------------------------------------------------------------------

/-- The digits are those of a number of sixty-four bits, in ASCII. -/
structure Numbers (digits : List Char) (n : Nat) : Prop where
  ascii : ∀ d ∈ digits, d.isDigit = true
  value : Nat.ofDigits 10 (digits.reverse.map fun d => d.toNat - '0'.toNat) = n
  fits : n < 2 ^ 64

theorem groupNumber?_eq_some_iff : groupNumber? digits = some n ↔ Numbers digits n := by
  have hvalue : digits.foldl (fun n d => n * 10 + (d.toNat - '0'.toNat)) 0 =
      Nat.ofDigits 10 (digits.reverse.map fun d => d.toNat - '0'.toNat) := by
    rw [Nat.ofDigits_eq_foldr, List.foldr_map, List.foldr_reverse]
    refine congrArg (fun step => digits.foldl step 0) (funext fun n => funext fun d => ?_)
    rw [Nat.cast_id, Nat.mul_comm, Nat.add_comm]
  rw [groupNumber?, hvalue]
  constructor
  · intro h
    split at h
    · next hascii =>
      dsimp only at h
      split at h
      · next hfits =>
        cases h
        exact ⟨List.all_eq_true.mp hascii, rfl, hfits⟩
      · cases h
    · cases h
  · rintro ⟨hascii, rfl, hfits⟩
    rw [if_pos (List.all_eq_true.mpr hascii)]
    exact if_pos hfits

/-- What stands for a piece after a match: a placeholder is the text of its group, or nothing if
its digits are no number, there is no such group, or the group took no part. -/
inductive Piece.Fills (find : Regex) (c : Captures) : Piece → List Char → Prop
  | plain (text : List Char) : Fills find c (.plain text) text
  | lone : Fills find c (.dollar []) ['$']
  | group {digits : List Char} {n : Nat} {s : String} (hsome : digits ≠ [])
      (hn : Numbers digits n) (hgroup : n ∈ find.groups) (hs : c.get? n = some s) :
      Fills find c (.dollar digits) s.toList
  | noNumber {digits : List Char} (hsome : digits ≠ []) (hnone : ∀ n, ¬Numbers digits n) :
      Fills find c (.dollar digits) []
  | noGroup {digits : List Char} {n : Nat} (hsome : digits ≠ []) (hn : Numbers digits n)
      (hnone : n ∉ find.groups) : Fills find c (.dollar digits) []
  | noPart {digits : List Char} {n : Nat} (hsome : digits ≠ []) (hn : Numbers digits n)
      (hnone : c.get? n = none) : Fills find c (.dollar digits) []

section

variable {find : Regex} {value : String} {p : Piece} {out : List Char}

theorem filled_of_some (hsome : digits ≠ []) :
    filled c (.dollar digits) = groupText c digits := by
  rw [filled, if_neg (by simpa using hsome)]

theorem filled_of_fills (hc : find.captures? value = some c) (h : p.Fills find c out) :
    filled c p = out := by
  cases h with
  | plain | lone => rfl
  | group hsome hn hgroup hs =>
    rw [filled_of_some hsome, groupText, groupNumber?_eq_some_iff.mpr hn, Option.bind_some, hs]
  | @noNumber digits hsome hnone =>
    have hnumber : groupNumber? digits = none :=
      Option.eq_none_iff_forall_ne_some.mpr fun n hn => hnone n (groupNumber?_eq_some_iff.mp hn)
    rw [filled_of_some hsome, groupText, hnumber, Option.bind_none]
  | noGroup hsome hn hnone =>
    rw [filled_of_some hsome, groupText, groupNumber?_eq_some_iff.mpr hn, Option.bind_some,
      Regex.get?_of_not_mem_groups hc hnone]
  | noPart hsome hn hnone =>
    rw [filled_of_some hsome, groupText, groupNumber?_eq_some_iff.mpr hn, Option.bind_some, hnone]

theorem fills_filled (hc : find.captures? value = some c) (p : Piece) :
    p.Fills find c (filled c p) := by
  cases p with
  | plain text => exact .plain text
  | dollar digits =>
    by_cases hsome : digits = []
    · subst hsome
      exact .lone
    rw [filled_of_some hsome, groupText]
    cases hn : groupNumber? digits with
    | none =>
      refine .noNumber hsome fun n hnumber => ?_
      rw [groupNumber?_eq_some_iff.mpr hnumber] at hn
      cases hn
    | some n =>
      have hnumber := groupNumber?_eq_some_iff.mp hn
      rw [Option.bind_some]
      cases hs : c.get? n with
      | none => exact .noPart hsome hnumber hs
      | some s =>
        refine .group hsome hnumber (by_contra fun hnone => ?_) hs
        rw [Regex.get?_of_not_mem_groups hc hnone] at hs
        cases hs

theorem forall₂_fills_iff (hc : find.captures? value = some c) {ps : List Piece}
    {outs : List (List Char)} :
    List.Forall₂ (Piece.Fills find c) ps outs ↔ ps.map (filled c) = outs := by
  have hfills : Piece.Fills find c = fun p out => filled c p = out :=
    funext fun p => funext fun out => propext
      ⟨filled_of_fills hc, fun h => h ▸ fills_filled hc p⟩
  rw [hfills, ← List.forall₂_map_left_iff, List.forall₂_eq_eq_eq]

end

end Replacement

/-- A value is replaced if the pattern leads from one place in it to another. Then the output's
pieces, of which there is one list only, are replaced one by one: plain text and lone dollar
signs by themselves, placeholders by the groups of the match, as they are. -/
theorem placeholders_are_filled_once (r : Replacement) (value : String) :
    (r.run? value = none ↔ ∀ p q, p.In value.toList → ¬r.find.root.Reach p q) ∧
    ∃ ps, (∀ qs, Replacement.Splits r.output.toList qs ↔ qs = ps) ∧
      ∀ c, r.find.captures? value = some c →
        ∃ outs, (∀ texts, List.Forall₂ (Replacement.Piece.Fills r.find c) ps texts ↔
            outs = texts) ∧
          r.run? value = some (String.ofList outs.flatten) := by
  refine ⟨?_, Replacement.pieces r.output.toList, fun qs => ?_, fun c hc => ?_⟩
  · have hmatch : r.run? value = none ↔ ¬r.find.isMatch value = true := by
      rw [Replacement.run?, Option.map_eq_none_iff, Regex.isMatch, Bool.not_eq_true,
        Option.isSome_eq_false_iff, Option.isNone_iff_eq_none]
    rw [hmatch, Regex.isMatch_iff]
    simp only [not_exists, not_and]
  · constructor
    · exact fun h => (Replacement.pieces_of_splits h).symm
    · rintro rfl
      exact Replacement.splits_pieces _
  · refine ⟨(Replacement.pieces r.output.toList).map (Replacement.filled c),
      fun texts => Replacement.forall₂_fills_iff hc, ?_⟩
    rw [Replacement.run?, hc, Option.map_some,
      Replacement.fill_of_splits (Replacement.splits_pieces _), List.flatMap_def]

/-- Finds an `a`, with a `b` if one follows, and lists the groups. -/
def listGroups : Replacement where
  find := ⟨"(a)(b)?", .cat (.group 1 (.set (.singleton 'a')))
    (.rep 0 (some 1) true (.group 2 (.set (.singleton 'b'))))⟩
  output := "$1,$02,$3$"

/-- The second group takes no part, and there is no third. The last dollar sign is a lone one. -/
theorem first_group_is_listed : listGroups.run? "xa" = some "a,,$" := by
  obtain ⟨-, ps, hps, hfilled⟩ := placeholders_are_filled_once listGroups "xa"
  have hpieces : Replacement.pieces listGroups.output.toList = [.dollar ['1'], .plain [','],
      .dollar ['0', '2'], .plain [','], .dollar ['3'], .dollar []] := by cbv
  obtain rfl := (hps _).mp (hpieces ▸ Replacement.splits_pieces _)
  have hmatch : listGroups.find.captures? "xa" =
      some ⟨[(0, ⟨⟨1, ['x'], ['a']⟩, ⟨2, ['a', 'x'], []⟩⟩),
        (1, ⟨⟨1, ['x'], ['a']⟩, ⟨2, ['a', 'x'], []⟩⟩)]⟩ := by cbv
  obtain ⟨outs, houts, hrun⟩ := hfilled _ hmatch
  have hfirst : Replacement.Numbers ['1'] 1 :=
    ⟨List.all_eq_true.mp rfl, by decide, by decide⟩
  have hsecond : Replacement.Numbers ['0', '2'] 2 :=
    ⟨List.all_eq_true.mp rfl, by decide, by decide⟩
  have hthird : Replacement.Numbers ['3'] 3 :=
    ⟨List.all_eq_true.mp rfl, by decide, by decide⟩
  have hgroup : 1 ∈ listGroups.find.groups := by decide
  have hnone : 3 ∉ listGroups.find.groups := by decide
  obtain rfl : outs = ["a".toList, [','], [], [','], [], ['$']] :=
    (houts _).mp (.cons (.group (by decide) hfirst hgroup rfl) (.cons (.plain _)
      (.cons (.noPart (by decide) hsecond rfl) (.cons (.plain _)
        (.cons (.noGroup (by decide) hthird hnone) (.cons .lone .nil))))))
  exact hrun

end PageRecords
