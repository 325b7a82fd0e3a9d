import PageRecords.Proofs.Regex.Words

/-!
# Reading a pattern piece by piece

A pattern is read one construct after the other. `Steps` chains such readings, so that the
tree of a pattern is put together from those of its parts (`parse?_of_steps`). What a
construct may do to the pieces read before it is said once, by `Move`. From it follows
that pieces which something else has been read after stay as they are, and stand first in
the tree unless the pattern is an alternation: `root_of_steps`.
-/

namespace PageRecords.Regex

open Unicode (CharSet)

namespace State

-- --------------------------------------------------------------------
-- Steps at the top of a pattern
-- --------------------------------------------------------------------

/-- Outside of all groups, in the modes that a pattern begins with. -/
def top (branches pieces : List Piece) (captures : Nat) (rest : List Char) : State :=
  { rest, pieces, branches, groups := [], flags := {}, captures, names := [] }

/-- So many constructs lead from one state to another. -/
def Steps (k : Nat) (st st' : State) : Prop := ∀ fuel, run? (fuel + k) st = run? fuel st'

variable {a b st st' : State} {c : Char} {ps qs : List Piece} {n j k : Nat}
  {rest pattern : List Char}

theorem Steps.refl (st : State) : Steps 0 st st := fun _ => rfl

theorem run?_cons (hrest : skip st.flags st.rest = c :: rest) (fuel : Nat) :
    run? (fuel + 1) st = (st.step? c rest).bind (run? fuel) := by
  rw [run?, hrest]

theorem run?_end (hrest : st.rest = []) (fuel : Nat) : run? (fuel + 1) st = some st := by
  have hskip : skip st.flags [] = [] := ite_self _
  rw [run?, hrest, hskip]
  dsimp only
  rw [← hrest]

theorem Steps.one (hrest : skip st.flags st.rest = c :: rest) (h : st.step? c rest = some st') :
    Steps 1 st st' := by
  intro fuel
  rw [run?_cons hrest, h, Option.bind_some]

theorem Steps.trans (h : Steps j a b) (h' : Steps k b st) : Steps (j + k) a st := by
  intro fuel
  rw [← h' fuel, ← h (fuel + k), Nat.add_assoc, Nat.add_comm k j]

/-- A character that stands for itself. -/
def literal (c : Char) : Piece := ⟨some (.char c), 0⟩

theorem repeatLast?_of_head? {p : Node} {depth : Nat} (hpieces : st.pieces = ⟨some p, depth⟩ :: ps)
    (hrest : rest.head? ≠ some '?') (least : Nat) (most : Option Nat) :
    st.repeatLast? least most rest = some { st with
      pieces := ⟨some (.rep least most (!st.flags.swapGreed) p), depth + 1⟩ :: ps,
      rest := rest } := by
  rw [repeatLast?, hpieces]
  · simp only [push, Bool.false_beq]
  · rintro more rfl
    exact hrest rfl

section

variable {p : Node} {depth : Nat} (hpieces : st.pieces = ⟨some p, depth⟩ :: ps)
  (hrest : rest.head? ≠ some '?')

include hpieces hrest

theorem step?_optional : st.step? '?' rest = some { st with
    pieces := ⟨some (.rep 0 (some 1) (!st.flags.swapGreed) p), depth + 1⟩ :: ps, rest := rest } :=
  repeatLast?_of_head? hpieces hrest 0 (some 1)

theorem step?_star : st.step? '*' rest = some { st with
    pieces := ⟨some (.rep 0 none (!st.flags.swapGreed) p), depth + 1⟩ :: ps, rest := rest } :=
  repeatLast?_of_head? hpieces hrest 0 none

end

-- --------------------------------------------------------------------
-- The end of a pattern
-- --------------------------------------------------------------------

/-- One piece alone is no different from several. -/
theorem concat_node (ps : List Piece) :
    (concat ps).node = some (catAll (ps.reverse.filterMap (·.node))) := by
  match ps with
  | [] => rfl
  | [⟨none, _⟩] => rfl
  | [⟨some _, _⟩] => rfl
  | _ :: _ :: _ => rfl

theorem foldl_max_le {m bound : Nat} {ds : List Nat} (hm : m ≤ bound) (hds : ∀ d ∈ ds, d ≤ bound) :
    ds.foldl max m ≤ bound := by
  induction ds generalizing m with
  | nil => exact hm
  | cons d rest ih =>
    rw [List.forall_mem_cons] at hds
    exact ih (Nat.max_le.mpr ⟨hm, hds.1⟩) hds.2

theorem concat_depth_le {n : Nat} (hps : ∀ p ∈ ps, p.depth ≤ n) :
    (concat ps).depth ≤ n + 1 := by
  match ps with
  | [] => exact Nat.zero_le _
  | [p] => exact Nat.le_succ_of_le (hps p List.mem_cons_self)
  | p :: q :: ps =>
    refine Nat.succ_le_succ (foldl_max_le (Nat.zero_le _) fun d hd => ?_)
    obtain ⟨p, hp, rfl⟩ := List.mem_map.mp hd
    exact hps p hp

end State

open State

/-- A pattern does not read to an expression that is too large. -/
def WithinSize (pattern : List Char) : Prop :=
  ∀ st, run? (pattern.length + 1) (start pattern) = some st →
    (st.alternation.node.getD .empty).size ≤ maxSize

variable {branches ps : List Piece} {n k : Nat} {pattern : List Char}

theorem run?_of_steps (hsteps : Steps k (start pattern) (top branches ps n []))
    (hk : k ≤ pattern.length) :
    run? (pattern.length + 1) (start pattern) = some (top branches ps n []) := by
  obtain ⟨more, hmore⟩ := Nat.exists_eq_add_of_le hk
  rw [show pattern.length + 1 = more + 1 + k by omega, hsteps]
  rfl

/-- A tree is that of a run to the end in which all groups are closed. -/
theorem exists_run?_of_parse? {root : Node} (h : parse? pattern = some root) :
    ∃ st, run? (pattern.length + 1) (start pattern) = some st ∧ st.groups = [] ∧
      root = st.alternation.node.getD .empty := by
  rw [parse?] at h
  simp only [Option.bind_eq_bind, Option.bind_eq_some_iff] at h
  obtain ⟨st, hrun, h⟩ := h
  split at h
  · next hgroups =>
    split at h
    · cases h
      exact ⟨st, hrun, hgroups, rfl⟩
    · cases h
  · cases h

/-- A pattern is read to the alternatives that its constructs lead to. -/
theorem parse?_of_steps (hsteps : Steps k (start pattern) (top branches ps n []))
    (hk : k ≤ pattern.length) (hdepth : (top branches ps n []).alternation.depth ≤ maxDepth)
    (hsize : WithinSize pattern) :
    parse? pattern = some ((top branches ps n []).alternation.node.getD .empty) := by
  have hrun := run?_of_steps hsteps hk
  rw [parse?, hrun]
  simp only [Option.bind_eq_bind, Option.bind_some]
  exact if_pos ⟨hdepth, hsize _ hrun⟩

/-- Without alternatives it is read to the concatenation of its pieces. -/
theorem parse?_of_pieces (hsteps : Steps k (start pattern) (top [] ps n []))
    (hk : k ≤ pattern.length) (hdepth : ∀ p ∈ ps, p.depth < maxDepth) (hsize : WithinSize pattern) :
    parse? pattern = some (catAll (ps.reverse.filterMap (·.node))) := by
  have hwhole : (top [] ps n []).alternation = concat ps := rfl
  have hshallow : (concat ps).depth ≤ maxDepth :=
    concat_depth_le (n := maxDepth - 1) fun p hp => Nat.le_sub_one_of_lt (hdepth p hp)
  rw [parse?_of_steps hsteps hk (by rwa [hwhole]) hsize, hwhole, concat_node, Option.getD_some]

-- --------------------------------------------------------------------
-- What a construct does to the pieces before it
-- --------------------------------------------------------------------

namespace State

/-- Repeats the piece before it. -/
def isQuantifier (c : Char) : Bool := c ∈ ['?', '*', '+', '{']

/-- What reading a construct makes of a state, by the construct's first character. -/
inductive Move (c : Char) (st : State) : State → Prop where
  /-- A piece more, which may set the modes. -/
  | piece (p : Piece) (flags : Flags) (rest : List Char) :
    Move c st { st with pieces := p :: st.pieces, flags := flags, rest := rest }
  /-- The latest piece gives way to its repetition. -/
  | again (hc : isQuantifier c = true) (p q : Piece) (ps : List Piece) (rest : List Char)
    (hpieces : st.pieces = q :: ps) : Move c st { st with pieces := p :: ps, rest := rest }
  /-- A group is opened. -/
  | opened (index : Option Nat) (flags : Flags) (captures : Nat) (names : List String)
    (rest : List Char) :
    Move c st { rest, pieces := [], branches := [],
                groups := ⟨st.pieces, st.branches, index, st.flags⟩ :: st.groups, flags, captures,
                names }
  /-- A group is closed, and is a piece more of what is around it. -/
  | closed (p : Piece) (g : Group) (groups : List Group) (rest : List Char)
    (hgroups : st.groups = g :: groups) :
    Move c st { st with pieces := p :: g.pieces, branches := g.branches, flags := g.flags,
                        groups := groups, rest := rest }
  /-- An alternative ends. -/
  | bar (rest : List Char) :
    Move c st { st with branches := concat st.pieces :: st.branches, pieces := [], rest := rest }

theorem Move.push {st : State} {c : Char} (node : Node) (depth : Nat) (rest : List Char) :
    Move c st (st.push node depth rest) := .piece ⟨some node, depth⟩ st.flags rest

theorem repeatLast?_move {st st' : State} {c : Char} {least : Nat} {most : Option Nat}
    {rest : List Char} (hc : isQuantifier c = true)
    (h : st.repeatLast? least most rest = some st') : Move c st st' := by
  unfold repeatLast? at h
  split at h
  · next node depth ps hpieces =>
    cases h
    exact .again hc _ _ ps _ hpieces
  · cases h

theorem openNamed?_move {st st' : State} {c : Char} {cs : List Char}
    (h : st.openNamed? cs = some st') : Move c st st' := by
  unfold openNamed? at h
  simp only [Option.bind_eq_bind, Option.bind_eq_some_iff] at h
  obtain ⟨⟨name, rest⟩, -, h⟩ := h
  dsimp only at h
  split at h
  · cases h
  · cases h
    exact .opened _ _ _ _ _

theorem openParen?_move {st st' : State} {c : Char} {cs : List Char}
    (h : st.openParen? cs = some st') : Move c st st' := by
  unfold openParen? at h
  split at h
  any_goals cases h
  · exact openNamed?_move h
  · exact openNamed?_move h
  · simp only [Option.bind_eq_bind, Option.bind_eq_some_iff] at h
    obtain ⟨⟨flags, seen, close, rest⟩, -, h⟩ := h
    dsimp only at h
    split at h
    · split at h
      · cases h
      · cases h
        exact .piece _ _ _
    · cases h
      exact .opened none flags _ _ _
  · exact .opened _ _ _ _ _

theorem closeParen?_move {st st' : State} {c : Char} {rest : List Char}
    (h : st.closeParen? rest = some st') : Move c st st' := by
  unfold closeParen? at h
  split at h
  · cases h
  · next g groups hgroups =>
    cases h
    exact .closed _ g groups _ hgroups

theorem step?_move {st st' : State} {c : Char} {rest : List Char}
    (h : st.step? c rest = some st') : Move c st st' := by
  unfold step? at h
  split at h
  · exact openParen?_move h
  · exact closeParen?_move h
  · cases h
    exact .bar _
  · obtain ⟨⟨s, rest'⟩, -, rfl⟩ := Option.map_eq_some_iff.mp h
    exact .push _ _ _
  · exact repeatLast?_move (by decide) h
  · exact repeatLast?_move (by decide) h
  · exact repeatLast?_move (by decide) h
  · simp only [Option.bind_eq_bind, Option.bind_eq_some_iff] at h
    obtain ⟨⟨least, most, rest'⟩, -, h⟩ := h
    exact repeatLast?_move (by decide) h
  · simp only [Option.bind_eq_bind, Option.bind_eq_some_iff] at h
    obtain ⟨⟨e, rest'⟩, -, h⟩ := h
    cases e with
    | literal d byte =>
      obtain ⟨node, -, rfl⟩ := Option.map_eq_some_iff.mp h
      exact .push _ _ _
    | set s =>
      cases h
      exact .push _ _ _
    | look l =>
      cases h
      exact .push _ _ _
  · obtain ⟨node, -, rfl⟩ := Option.map_eq_some_iff.mp h
    exact .push _ _ _
  · cases h
    exact .push _ _ _
  · cases h
    exact .push _ _ _
  · obtain ⟨node, -, rfl⟩ := Option.map_eq_some_iff.mp h
    exact .push _ _ _

-- --------------------------------------------------------------------
-- Pieces that stay
-- --------------------------------------------------------------------

/-- The pieces and the finished alternatives outside of all groups. -/
def outermost (st : State) : List Piece × List Piece :=
  match st.groups.getLast? with
  | some g => (g.pieces, g.branches)
  | none => (st.pieces, st.branches)

/-- Outside of all groups an alternative has ended, or the first pieces are the given ones
and something after them has been read or begun, so that no quantifier applies to them. -/
def Keeps (first : List Piece) (st : State) : Prop :=
  st.outermost.2 ≠ [] ∨
    ∃ ps, st.outermost.1 = ps ++ first ∧ (ps ≠ [] ∨ st.groups ≠ [])

variable {c : Char} {st st' : State} {first : List Piece}

theorem keeps_nil (h : st.groups = []) :
    Keeps first st ↔ st.branches ≠ [] ∨ ∃ ps, st.pieces = ps ++ first ∧ ps ≠ [] := by
  simp [Keeps, outermost, h]

theorem keeps_cons {g : Group} {groups : List Group} (h : st.groups = g :: groups) :
    Keeps first st ↔ (groups.getLast?.getD g).branches ≠ [] ∨
      ∃ ps, (groups.getLast?.getD g).pieces = ps ++ first := by
  simp [Keeps, outermost, h, List.getLast?_cons]

theorem Move.keeps (hmove : Move c st st') (h : Keeps first st) : Keeps first st' := by
  cases hgroups : st.groups with
  | nil =>
    rw [keeps_nil hgroups] at h
    cases hmove with
    | piece p flags rest =>
      refine (keeps_nil (by exact hgroups)).mpr (h.imp id ?_)
      rintro ⟨ps, hps, -⟩
      exact ⟨p :: ps, congrArg _ hps, List.cons_ne_nil _ _⟩
    | again hc p q ps rest hpieces =>
      refine (keeps_nil (by exact hgroups)).mpr (h.imp id ?_)
      rintro ⟨qs, hqs, hne⟩
      rw [hpieces] at hqs
      obtain ⟨q', qs, rfl⟩ := List.exists_cons_of_ne_nil hne
      obtain ⟨-, rfl⟩ := List.cons.inj hqs
      exact ⟨p :: qs, rfl, List.cons_ne_nil _ _⟩
    | opened index flags captures names rest =>
      rw [keeps_cons rfl, hgroups]
      refine h.imp id ?_
      rintro ⟨ps, hps, -⟩
      exact ⟨ps, hps⟩
    | closed p g groups rest hclosed =>
      rw [hgroups] at hclosed
      cases hclosed
    | bar rest =>
      exact (keeps_nil (by exact hgroups)).mpr (.inl (List.cons_ne_nil _ _))
  | cons g groups =>
    rw [keeps_cons hgroups] at h
    cases hmove with
    | piece p flags rest => exact (keeps_cons (by exact hgroups)).mpr h
    | again hc p q ps rest hpieces => exact (keeps_cons (by exact hgroups)).mpr h
    | opened index flags captures names rest =>
      rw [keeps_cons rfl, hgroups, List.getLast?_cons]
      exact h
    | closed p g' groups' rest hclosed =>
      rw [hgroups] at hclosed
      obtain ⟨rfl, rfl⟩ := List.cons.inj hclosed
      cases groups with
      | nil =>
        rw [keeps_nil rfl]
        refine h.imp id ?_
        rintro ⟨ps, hps⟩
        exact ⟨p :: ps, congrArg _ hps, List.cons_ne_nil _ _⟩
      | cons g' groups =>
        rw [List.getLast?_cons] at h
        exact (keeps_cons rfl).mpr h
    | bar rest => exact (keeps_cons (by exact hgroups)).mpr h

/-- A construct that is no quantifier is read after the pieces and leaves them. -/
theorem Move.keeps_top {n : Nat} {rest : List Char} (hmove : Move c (top [] first n rest) st')
    (hc : isQuantifier c = false) : Keeps first st' := by
  cases hmove with
  | piece p flags rest =>
    exact (keeps_nil rfl).mpr (.inr ⟨[p], rfl, List.cons_ne_nil _ _⟩)
  | again hquantifier p q ps rest hpieces =>
    rw [hc] at hquantifier
    cases hquantifier
  | opened index flags captures names rest =>
    exact (keeps_cons rfl).mpr (.inr ⟨[], rfl⟩)
  | closed p g groups rest hgroups => cases hgroups
  | bar rest => exact (keeps_nil rfl).mpr (.inl (List.cons_ne_nil _ _))

theorem keeps_of_run? {fuel : Nat} (hrun : run? fuel st = some st') (h : Keeps first st) :
    Keeps first st' := by
  induction fuel generalizing st with
  | zero =>
    cases hrun
    exact h
  | succ fuel ih =>
    rw [run?] at hrun
    split at hrun
    · cases hrun
      exact h
    · obtain ⟨next, hstep, hrest⟩ := Option.bind_eq_some_iff.mp hrun
      exact ih hrest ((step?_move hstep).keeps h)

theorem alternation_of_keeps (hgroups : st.groups = []) (h : Keeps first st) :
    (∃ a b, st.alternation.node.getD .empty = .alt a b) ∨
      ∃ more, st.alternation.node.getD .empty =
        catAll (first.reverse.filterMap (·.node) ++ more) := by
  cases hbranches : st.branches with
  | nil =>
    right
    obtain ⟨ps, hps, -⟩ := ((keeps_nil hgroups).mp h).resolve_left fun hne => hne hbranches
    refine ⟨ps.reverse.filterMap (·.node), ?_⟩
    rw [alternation, hbranches, hps]
    dsimp only
    rw [concat_node, Option.getD_some, List.reverse_append, List.filterMap_append]
  | cons b branches =>
    left
    rw [alternation, hbranches]
    dsimp only
    rw [Option.getD_some]
    obtain ⟨before, last, hlast⟩ :=
      (List.eq_nil_or_concat (b :: branches)).resolve_left (List.cons_ne_nil _ _)
    rw [hlast, List.concat_eq_append, List.foldl_append]
    exact ⟨_, _, rfl⟩

end State

/-- What is read first stands first in the tree, if the pattern is not an alternation and
what follows does not begin with a quantifier. -/
theorem root_of_steps {c : Char} {first : List Piece} {rest : List Char} {root : Node}
    (hparse : parse? pattern = some root)
    (hsteps : Steps k (start pattern) (top [] first n (c :: rest))) (hk : k ≤ pattern.length)
    (hc : isQuantifier c = false) :
    (∃ a b, root = .alt a b) ∨
      ∃ more, root = catAll (first.reverse.filterMap (·.node) ++ more) := by
  obtain ⟨more, hmore⟩ := Nat.exists_eq_add_of_le hk
  obtain ⟨st, hrun, hgroups, rfl⟩ := exists_run?_of_parse? hparse
  rw [show pattern.length + 1 = more + 1 + k by omega, hsteps] at hrun
  obtain ⟨next, hstep, hrest⟩ := Option.bind_eq_some_iff.mp hrun
  exact alternation_of_keeps hgroups (keeps_of_run? hrest ((step?_move hstep).keeps_top hc))

end PageRecords.Regex
