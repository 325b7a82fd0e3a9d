import PageRecords.Document.PagePattern
import PageRecords.Proofs.Regex.Reading

/-!
# The optional parts after a path

A path may set modes that stay on after it, so that the query and the fragment that a derived
pattern ends with are read in modes of the path's choosing. Three of them matter: outside of the
Unicode mode the dot is malformed, in the verbose mode the fragment is a comment and its
parenthesis stays open, and the modes for line ends say what the dot leaves out. So a derived
pattern that is read at all has both parts (`final_of_run?`).
-/

namespace PageRecords.PagePattern

open Regex Regex.State
open Unicode (CharSet)

variable {f : Flags} {st final : State} {rest : List Char} {mark c : Char} {fuel : Nat}

/-- What a derived pattern ends with. -/
def tail : List Char := optionalQuery.toList ++ optionalFragment.toList ++ ['$']

-- --------------------------------------------------------------------
-- What the modes make of the parts
-- --------------------------------------------------------------------

/-- The characters that the dot stands for. -/
def dotSet (f : Flags) : CharSet :=
  if f.dotAll then .all
  else if f.crlf then CharSet.complement ⟨[(10, 10), (13, 13)]⟩
  else CharSet.complement ⟨[(10, 10)]⟩

theorem dot?_eq (h : f.unicode = true) : f.dot? = some (.set (dotSet f)) := by
  rw [Flags.dot?, dotSet, h]
  split
  · next hfalse => cases hfalse
  · split
    · rfl
    · split <;> rfl

theorem dot?_eq_none (h : f.unicode = false) : f.dot? = none := by
  rw [Flags.dot?, h]
  rfl

/-- The marks have no case. -/
theorem literal?_mark (h : mark ∈ ['?', '#']) : f.literal? mark false = some (.char mark) := by
  have hcase : (CharSet.singleton mark).foldCase = .singleton mark ∧
      (CharSet.singleton mark).foldAsciiCase = .singleton mark := by
    simp only [List.mem_cons, List.not_mem_nil, or_false] at h
    obtain rfl | rfl := h
    · decide +kernel
    · decide +kernel
  rw [Flags.literal?, Bool.and_false, Bool.false_and, if_neg Bool.false_ne_true, Flags.fold,
    hcase.1, hcase.2, ite_self, ite_self]
  rfl

theorem skip_cons (hblank : isPatternBlank c = false) (hhash : c ≠ '#') :
    skip f (c :: rest) = c :: rest := by
  rw [skip, skipBlank, if_neg Bool.false_ne_true, hblank, if_neg Bool.false_ne_true, if_neg hhash,
    ite_self]

theorem skip_of_not_verbose (h : f.verbose = false) (cs : List Char) : skip f cs = cs := by
  rw [skip, h]
  rfl

-- --------------------------------------------------------------------
-- The parts
-- --------------------------------------------------------------------

/-- A mark and what the dot takes after it, under the number of its group. -/
def markedNodeIn (f : Flags) (index : Nat) (mark : Char) : Node :=
  .group index (.cat (.char mark) (.rep 0 none (!f.swapGreed) (.set (dotSet f))))

/-- The same, or nothing. -/
def partNodeIn (f : Flags) (index : Nat) (mark : Char) : Node :=
  .rep 0 (some 1) (!f.swapGreed) (markedNodeIn f index mark)

/-- In the parentheses around a part of which these pieces are read. -/
def inside (st : State) (pieces : List Piece) (rest : List Char) : State :=
  { st with rest := rest, pieces := pieces, branches := [],
            groups := ⟨st.pieces, st.branches, some (st.captures + 1), st.flags⟩ :: st.groups,
            captures := st.captures + 1 }

/-- After a part. -/
def past (st : State) (mark : Char) (rest : List Char) : State :=
  { st with rest := rest,
            pieces := ⟨some (partNodeIn st.flags (st.captures + 1) mark), 4⟩ :: st.pieces,
            captures := st.captures + 1 }

theorem step?_dot (h : st.flags.unicode = true) :
    st.step? '.' rest = some (st.push (.set (dotSet st.flags)) 0 rest) := by
  rw [step?, dot?_eq h]
  rfl

theorem step?_dot_eq_none (h : st.flags.unicode = false) : st.step? '.' rest = none := by
  rw [step?, dot?_eq_none h]
  rfl

theorem step?_queryMark : st.step? '\\' ('?' :: rest) = some (st.push (.char '?') 0 rest) := by
  have hescape : escape? st.flags ('?' :: rest) = some (.literal '?' false, rest) := rfl
  have hmark : st.flags.literal? '?' false = some (.char '?') := literal?_mark (by decide)
  rw [step?, hescape, Option.bind_eq_bind, Option.bind_some]
  dsimp only
  rw [hmark]
  rfl

theorem step?_fragmentMark : st.step? '#' rest = some (st.push (.char '#') 0 rest) := by
  have hmark : st.flags.literal? '#' false = some (.char '#') := literal?_mark (by decide)
  rw [step?]
  · rw [hmark]
    rfl
  all_goals decide

theorem steps_open (hskip : skip st.flags st.rest = '(' :: rest)
    (hrest : skip st.flags rest = rest) (hhead : rest.head? ≠ some '?') :
    Steps 1 st (inside st [] rest) := by
  have hopen : st.openParen? rest = some (inside st [] rest) := by
    unfold openParen?
    rw [hrest]
    split
    any_goals exact absurd rfl hhead
    rfl
  exact .one hskip hopen

/-- After its mark. -/
theorem steps_inside (hunicode : st.flags.unicode = true) (hrest : rest.head? ≠ some '?') :
    Steps 4 (inside st [literal mark] (".*)?".toList ++ rest)) (past st mark rest) := by
  have hdot : Steps 1 (inside st [literal mark] (".*)?".toList ++ rest))
      (inside st [⟨some (.set (dotSet st.flags)), 0⟩, literal mark] ("*)?".toList ++ rest)) :=
    .one (skip_cons rfl (by decide)) (step?_dot hunicode)
  have hstar : Steps 1 (inside st [⟨some (.set (dotSet st.flags)), 0⟩, literal mark]
        ("*)?".toList ++ rest))
      (inside st [⟨some (.rep 0 none (!st.flags.swapGreed) (.set (dotSet st.flags))), 1⟩,
        literal mark] (")?".toList ++ rest)) :=
    .one (skip_cons rfl (by decide)) (step?_star rfl nofun)
  have hclose : Steps 1 (inside st
        [⟨some (.rep 0 none (!st.flags.swapGreed) (.set (dotSet st.flags))), 1⟩, literal mark]
        (")?".toList ++ rest))
      { st with rest := '?' :: rest, captures := st.captures + 1,
                pieces := ⟨some (markedNodeIn st.flags (st.captures + 1) mark), 3⟩ :: st.pieces } :=
    .one (skip_cons rfl (by decide)) rfl
  exact hdot.trans (hstar.trans (hclose.trans
    (.one (skip_cons rfl (by decide)) (step?_optional rfl hrest))))

theorem steps_queryMark (hskip : skip st.flags st.rest = optionalQuery.toList ++ rest) :
    Steps 2 st (inside st [literal '?'] (".*)?".toList ++ rest)) := by
  have hopen : Steps 1 st (inside st [] ("\\?.*)?".toList ++ rest)) :=
    steps_open hskip (skip_cons rfl (by decide)) nofun
  exact hopen.trans (.one (skip_cons rfl (by decide)) step?_queryMark)

theorem steps_query_in (hskip : skip st.flags st.rest = optionalQuery.toList ++ rest)
    (hunicode : st.flags.unicode = true) (hrest : rest.head? ≠ some '?') :
    Steps 6 st (past st '?' rest) :=
  (steps_queryMark hskip).trans (steps_inside hunicode hrest)

theorem steps_fragment_in (hskip : skip st.flags st.rest = optionalFragment.toList ++ rest)
    (hunicode : st.flags.unicode = true) (hverbose : st.flags.verbose = false)
    (hrest : rest.head? ≠ some '?') : Steps 6 st (past st '#' rest) := by
  have hopen : Steps 1 st (inside st [] ("#.*)?".toList ++ rest)) :=
    steps_open hskip (skip_of_not_verbose hverbose _) nofun
  have hmark : Steps 1 (inside st [] ("#.*)?".toList ++ rest))
      (inside st [literal '#'] (".*)?".toList ++ rest)) :=
    .one (skip_of_not_verbose hverbose _) step?_fragmentMark
  exact hopen.trans (hmark.trans (steps_inside hunicode hrest))

-- --------------------------------------------------------------------
-- The end of a derived pattern
-- --------------------------------------------------------------------

/-- What the tail is read to after a path in these modes, the latest first. -/
def tailPieces (f : Flags) (captures : Nat) : List Piece :=
  [⟨some (.look f.dollar), 0⟩, ⟨some (partNodeIn f (captures + 2) '#'), 4⟩,
    ⟨some (partNodeIn f (captures + 1) '?'), 4⟩]

/-- Outside of the Unicode mode the tail is malformed. -/
theorem unicode_of_run? (hskip : skip st.flags st.rest = tail)
    (hrun : run? (fuel + 3) st = some final) : st.flags.unicode = true := by
  by_contra hunicode
  rw [Bool.not_eq_true] at hunicode
  have hmark : Steps 2 st (inside st [literal '?'] (".*)?".toList ++
      (optionalFragment.toList ++ ['$']))) := steps_queryMark hskip
  have hdot : skip st.flags (".*)?".toList ++ (optionalFragment.toList ++ ['$'])) =
      '.' :: ("*)?".toList ++ (optionalFragment.toList ++ ['$'])) := skip_cons rfl (by decide)
  have hnone : (inside st [literal '?'] (".*)?".toList ++
      (optionalFragment.toList ++ ['$']))).step? '.'
        ("*)?".toList ++ (optionalFragment.toList ++ ['$'])) = none := step?_dot_eq_none hunicode
  rw [hmark (fuel + 1), run?_cons hdot, hnone] at hrun
  cases hrun

/-- In the verbose mode the fragment's parenthesis stays open. -/
theorem not_verbose_of_run? (hskip : skip st.flags st.rest = optionalFragment.toList ++ ['$'])
    (hrun : run? (fuel + 2) st = some final) (hfinal : final.groups = []) :
    st.flags.verbose = false := by
  by_contra hverbose
  rw [Bool.not_eq_false] at hverbose
  have hcomment : skip st.flags ("#.*)?".toList ++ ['$']) = [] := by
    rw [skip, hverbose]
    decide
  have hopen : st.openParen? ("#.*)?".toList ++ ['$']) = some (inside st [] []) := by
    rw [openParen?, hcomment]
    rfl
  have hstep : Steps 1 st (inside st [] []) := .one hskip hopen
  rw [hstep (fuel + 1), run?_end rfl] at hrun
  cases hrun
  cases hfinal

theorem final_of_run? (hskip : skip st.flags st.rest = tail)
    (hrun : run? (fuel + 14) st = some final) (hfinal : final.groups = []) :
    st.flags.unicode = true ∧ final.branches = st.branches ∧
      final.pieces = tailPieces st.flags st.captures ++ st.pieces := by
  have hunicode := unicode_of_run? hskip hrun
  have hquery : Steps 6 st (past st '?' (optionalFragment.toList ++ ['$'])) :=
    steps_query_in hskip hunicode nofun
  rw [hquery (fuel + 8)] at hrun
  have hskip' : skip (past st '?' (optionalFragment.toList ++ ['$'])).flags
      (past st '?' (optionalFragment.toList ++ ['$'])).rest = optionalFragment.toList ++ ['$'] :=
    skip_cons rfl (by decide)
  have hverbose := not_verbose_of_run? hskip' hrun hfinal
  have hfragment := steps_fragment_in hskip' hunicode hverbose nofun
  have hlast : Steps 1 (past (past st '?' (optionalFragment.toList ++ ['$'])) '#' ['$']) _ :=
    .one (skip_cons rfl (by decide)) rfl
  rw [hfragment (fuel + 2), hlast (fuel + 1), run?_end rfl] at hrun
  cases hrun
  exact ⟨hunicode, rfl, rfl⟩

end PageRecords.PagePattern
