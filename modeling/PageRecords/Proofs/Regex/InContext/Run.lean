import PageRecords.Proofs.Regex.InContext.Construct

/-!
# A pattern inside another

A pattern that stands between other text is read as it is alone, construct by construct: the
state that reads the whole follows the state that reads the pattern (`Around`), with the pieces
that were read before it at the bottom of its stack. `steps_of_run?` is the whole run.
-/

namespace PageRecords.Regex

namespace State

variable {before ps bs ps' bs' : List Piece} {gs gs' : List Group} {p q : Piece}

-- --------------------------------------------------------------------
-- States with more at the bottom
-- --------------------------------------------------------------------

/-- What is outside of all groups, alone and after other pieces. They belong to the first
alternative. -/
inductive Bottom (before : List Piece) :
    List Piece → List Piece → List Piece → List Piece → Prop where
  | first (ps : List Piece) : Bottom before ps [] (ps ++ before) []
  | later (ps bs qs : List Piece) :
    Bottom before ps (bs ++ [concat qs]) ps (bs ++ [concat (qs ++ before)])

/-- Groups in groups, alone and after other pieces. -/
inductive Layers (before : List Piece) :
    List Piece → List Piece → List Group → List Piece → List Piece → List Group → Prop where
  | bottom {ps bs ps' bs' : List Piece} (h : Bottom before ps bs ps' bs') :
    Layers before ps bs [] ps' bs' []
  | group {ps bs ps' bs' : List Piece} {gs gs' : List Group} (index : Option Nat) (flags : Flags)
    (inner branches : List Piece) (h : Layers before ps bs gs ps' bs' gs') :
    Layers before inner branches (⟨ps, bs, index, flags⟩ :: gs) inner branches
      (⟨ps', bs', index, flags⟩ :: gs')

theorem Bottom.push (h : Bottom before ps bs ps' bs') (p : Piece) :
    Bottom before (p :: ps) bs (p :: ps') bs' := by
  cases h with
  | first => exact .first (p :: ps)
  | later bs qs => exact .later (p :: ps) bs qs

theorem Bottom.pop (h : Bottom before (q :: ps) bs ps' bs') :
    ∃ rest, ps' = q :: rest ∧ Bottom before ps bs rest bs' := by
  cases h with
  | first => exact ⟨ps ++ before, rfl, .first ps⟩
  | later bs qs => exact ⟨ps, rfl, .later ps bs qs⟩

theorem Bottom.bar (h : Bottom before ps bs ps' bs') :
    Bottom before [] (concat ps :: bs) [] (concat ps' :: bs') := by
  cases h with
  | first => exact .later [] [] ps
  | later bs qs => exact .later [] (concat ps :: bs) qs

theorem Layers.push (h : Layers before ps bs gs ps' bs' gs') (p : Piece) :
    Layers before (p :: ps) bs gs (p :: ps') bs' gs' := by
  cases h with
  | bottom h => exact .bottom (h.push p)
  | group index flags _ _ h => exact .group index flags (p :: ps) bs h

theorem Layers.pop (h : Layers before (q :: ps) bs gs ps' bs' gs') :
    ∃ rest, ps' = q :: rest ∧ Layers before ps bs gs rest bs' gs' := by
  cases h with
  | bottom h =>
    obtain ⟨rest, rfl, hrest⟩ := h.pop
    exact ⟨rest, rfl, .bottom hrest⟩
  | group index flags _ _ h => exact ⟨ps, rfl, .group index flags ps bs h⟩

theorem Layers.bar (h : Layers before ps bs gs ps' bs' gs') :
    Layers before [] (concat ps :: bs) gs [] (concat ps' :: bs') gs' := by
  cases h with
  | bottom h => exact .bottom h.bar
  | group index flags _ _ h => exact .group index flags [] (concat ps :: bs) h

/-- The second state reads the text of the first before other text, and has read other pieces
before it. -/
structure Around (before : List Piece) (s : List Char) (st whole : State) : Prop where
  rest : whole.rest = st.rest ++ s
  layers : Layers before st.pieces st.branches st.groups whole.pieces whole.branches whole.groups
  flags : whole.flags = st.flags
  captures : whole.captures = st.captures
  names : whole.names = st.names

variable {s rest cs : List Char} {st st' whole : State} {k : Construct} {c : Char} {fuel : Nat}

/-- What a construct makes of a state it makes of the whole. -/
theorem Around.take? (h : Around before s st whole) (htake : st.take? rest k = some st') :
    ∃ whole', whole.take? (rest ++ s) k = some whole' ∧ Around before s st' whole' := by
  obtain ⟨cs, pieces, branches, groups, flags, captures, names⟩ := st
  obtain ⟨cs', pieces', branches', groups', flags', captures', names'⟩ := whole
  obtain ⟨hrest, hlayers, hflags, hcaptures, hnames⟩ := h
  dsimp only at hrest hlayers hflags hcaptures hnames
  subst hrest hflags hcaptures hnames
  cases k with
  | atom node depth =>
    cases htake
    exact ⟨_, rfl, rfl, hlayers.push _, rfl, rfl, rfl⟩
  | modes flags =>
    cases htake
    exact ⟨_, rfl, rfl, hlayers.push _, rfl, rfl, rfl⟩
  | again least most other =>
    rw [State.take?] at htake
    split at htake
    · next node depth pieces hpieces =>
      cases htake
      dsimp only at hpieces
      subst hpieces
      obtain ⟨rest', rfl, hpop⟩ := hlayers.pop
      exact ⟨_, rfl, rfl, hpop.push _, rfl, rfl, rfl⟩
    · cases htake
  | group =>
    cases htake
    exact ⟨_, rfl, rfl, hlayers.group _ _ _ _, rfl, rfl, rfl⟩
  | named name =>
    rw [State.take?] at htake
    split at htake
    · cases htake
    · next hnew =>
      cases htake
      rw [State.take?, if_neg hnew]
      exact ⟨_, rfl, rfl, hlayers.group _ _ _ _, rfl, rfl, rfl⟩
  | bare flags =>
    cases htake
    exact ⟨_, rfl, rfl, hlayers.group _ _ _ _, rfl, rfl, rfl⟩
  | close =>
    cases hlayers with
    | bottom h => cases htake
    | group index flags _ _ h =>
      cases htake
      exact ⟨_, rfl, rfl, h.push _, rfl, rfl, rfl⟩
  | bar =>
    cases htake
    exact ⟨_, rfl, rfl, hlayers.bar, rfl, rfl, rfl⟩

-- --------------------------------------------------------------------
-- The run
-- --------------------------------------------------------------------

theorem rest_of_take? (h : st.take? rest k = some st') : st'.rest = rest := by
  cases k with
  | atom node depth => cases h; rfl
  | modes flags => cases h; rfl
  | again least most other =>
    rw [State.take?] at h
    split at h
    · cases h
      rfl
    · cases h
  | group => cases h; rfl
  | named name =>
    rw [State.take?] at h
    split at h
    · cases h
    · cases h
      rfl
  | bare flags => cases h; rfl
  | close =>
    rw [State.take?, State.closeParen?] at h
    split at h
    · cases h
    · cases h
      rfl
  | bar => cases h; rfl

section

variable (hs : Follows s)

include hs

theorem Around.skip_rest (h : Around before s st whole) (hhash : '#' ∉ st.rest) :
    skip whole.flags whole.rest = skip st.flags st.rest ++ s := by
  rw [h.flags, h.rest, skip_append hs hhash]

theorem Around.step? (h : Around before s st whole) (hhash : '#' ∉ st.rest)
    (hskip : skip st.flags st.rest = c :: cs) (hstep : st.step? c cs = some st') :
    ∃ whole', Steps 1 whole whole' ∧ Around before s st' whole' ∧ st'.rest <:+ cs := by
  rw [step?_eq] at hstep
  obtain ⟨⟨k, rest⟩, hread, htake⟩ := Option.bind_eq_some_iff.mp hstep
  have hsuffix := skip_suffix st.flags st.rest
  rw [hskip] at hsuffix
  have hcs := noHash_of_suffix ((List.suffix_cons c cs).trans hsuffix) hhash
  obtain ⟨hrest, hread'⟩ := construct?_carries hs c cs k rest hcs hread
  obtain ⟨whole', htake', haround⟩ := h.take? htake
  refine ⟨whole', .one ((h.skip_rest hs hhash).trans (congrArg (· ++ s) hskip)) ?_, haround, ?_⟩
  · rw [step?_eq, h.flags]
    exact Option.bind_eq_some_iff.mpr ⟨_, hread', htake'⟩
  · rwa [rest_of_take? htake]

/-- A pattern is read to its end before other text, in no more steps than it has characters. -/
theorem steps_of_run? (h : Around before s st whole) (hhash : '#' ∉ st.rest)
    (hfuel : st.rest.length < fuel) (hrun : run? fuel st = some st') :
    ∃ k whole', k ≤ st.rest.length ∧ Steps k whole whole' ∧
      skip whole'.flags whole'.rest = s ∧
      Layers before st'.pieces st'.branches st'.groups whole'.pieces whole'.branches whole'.groups ∧
      whole'.flags = st'.flags := by
  induction fuel generalizing st whole with
  | zero => cases hfuel
  | succ fuel ih =>
    rw [run?] at hrun
    split at hrun
    · next hskip =>
      cases hrun
      exact ⟨0, whole, Nat.zero_le _, .refl whole, (h.skip_rest hs hhash).trans
        (congrArg (· ++ s) hskip), h.layers, h.flags⟩
    · next c cs hskip =>
      obtain ⟨next, hstep, hrest⟩ := Option.bind_eq_some_iff.mp hrun
      obtain ⟨whole₁, hfirst, haround, hsuffix⟩ := h.step? hs hhash hskip hstep
      have hshorter := skip_suffix st.flags st.rest
      rw [hskip] at hshorter
      have hlength := hshorter.length_le
      have hlength' := hsuffix.length_le
      rw [List.length_cons] at hlength
      have hnext : '#' ∉ next.rest :=
        noHash_of_suffix (hsuffix.trans ((List.suffix_cons c cs).trans hshorter)) hhash
      obtain ⟨k, whole', hk, hsteps, hend⟩ := ih haround hnext (by omega) hrest
      exact ⟨1 + k, whole', by omega, hfirst.trans hsteps, hend⟩

end

end State

end PageRecords.Regex
