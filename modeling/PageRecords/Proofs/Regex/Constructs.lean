import PageRecords.Proofs.Regex.Reading

/-!
# Constructs of a pattern

Reading one construct has two halves: what stands there, which the modes and the characters
decide (`construct?`), and what it makes of the state (`State.take?`). `State.step?_eq` says so.
What holds of every construct, such as which assertions it can bring, then holds of every
pattern by what the second half does with it: `looks_of_parse?`.
-/

namespace PageRecords.Regex

open Unicode (CharSet)

-- --------------------------------------------------------------------
-- What stands there
-- --------------------------------------------------------------------

/-- A construct by what it is read to. -/
inductive Construct where
  | atom (node : Node) (depth : Nat)
  | modes (flags : Flags)
  /-- A quantifier; `other` if a question mark follows that turns its preference. -/
  | again (least : Nat) (most : Option Nat) (other : Bool)
  | group
  | named (name : String)
  /-- A group without a number, in its own modes. -/
  | bare (flags : Flags)
  | close
  | bar

/-- A quantifier, with the question mark right after it. -/
def quantifier (least : Nat) (most : Option Nat) (cs : List Char) : Construct × List Char :=
  match cs with
  | '?' :: rest => (.again least most true, rest)
  | rest => (.again least most false, rest)

/-- After an opening parenthesis and the blanks there. -/
def paren? (f : Flags) : List Char → Option (Construct × List Char)
  | '?' :: '=' :: _ | '?' :: '!' :: _ | '?' :: '<' :: '=' :: _ | '?' :: '<' :: '!' :: _ => none
  | '?' :: 'P' :: '<' :: rest => (groupName? rest).map fun (name, rest) => (.named name, rest)
  | '?' :: '<' :: rest => (groupName? rest).map fun (name, rest) => (.named name, rest)
  | '?' :: rest => do
    let (flags, seen, close, rest) ← modes? f false [] rest
    if close = ')' then
      if seen.isEmpty then none else pure (.modes flags, rest)
    else pure (.bare flags, rest)
  | rest => some (.group, rest)

/-- What an escape stands for outside of brackets. -/
def Escape.node? (f : Flags) : Escape → Option Node
  | .literal c byte => f.literal? c byte
  | .set s => some (.set s)
  | .look l => some (.look l)

/-- The construct that begins with a character, and what comes after it. -/
def construct? (f : Flags) (c : Char) (rest : List Char) : Option (Construct × List Char) :=
  match c with
  | '(' => paren? f (skip f rest)
  | ')' => some (.close, rest)
  | '|' => some (.bar, rest)
  | '[' => (bracket? f rest).map fun (s, rest) => (.atom (.set s.set) s.depth, rest)
  | '?' => some (quantifier 0 (some 1) rest)
  | '*' => some (quantifier 0 none rest)
  | '+' => some (quantifier 1 none rest)
  | '{' => (counted? f rest).map fun (least, most, rest) => quantifier least most (skip f rest)
  | '\\' => do
    let (e, rest) ← escape? f rest
    let n ← e.node? f
    pure (.atom n 0, rest)
  | '.' => f.dot?.map fun n => (.atom n 0, rest)
  | '^' => some (.atom (.look f.caret) 0, rest)
  | '$' => some (.atom (.look f.dollar) 0, rest)
  | c => (f.literal? c false).map fun n => (.atom n 0, rest)

-- --------------------------------------------------------------------
-- What it makes of a state
-- --------------------------------------------------------------------

namespace State

variable {st st' : State} {c : Char} {rest cs : List Char} {k : Construct}

/-- Takes a construct in, before what comes after it. -/
def take? (st : State) (rest : List Char) : Construct → Option State
  | .atom node depth => some (st.push node depth rest)
  | .modes flags => some { st with flags := flags, pieces := ⟨none, 0⟩ :: st.pieces, rest := rest }
  | .again least most other =>
    match st.pieces with
    | ⟨some node, depth⟩ :: pieces =>
      some ({ st with pieces := pieces }.push (.rep least most (other == st.flags.swapGreed) node)
        (depth + 1) rest)
    | _ => none
  | .group =>
    some ({ st with captures := st.captures + 1 }.openGroup (some (st.captures + 1)) st.flags rest)
  | .named name =>
    if st.names.contains name then none
    else some ({ st with captures := st.captures + 1, names := name :: st.names }.openGroup
      (some (st.captures + 1)) st.flags rest)
  | .bare flags => some (st.openGroup none flags rest)
  | .close => st.closeParen? rest
  | .bar => some { st with branches := concat st.pieces :: st.branches, pieces := [], rest := rest }

theorem quantifier_of_head? (least : Nat) (most : Option Nat) (h : cs.head? ≠ some '?') :
    quantifier least most cs = (.again least most false, cs) := by
  unfold quantifier
  split
  · exact absurd rfl h
  · rfl

theorem repeatLast?_eq (st : State) (least : Nat) (most : Option Nat) (cs : List Char) :
    st.repeatLast? least most cs =
      st.take? (quantifier least most cs).2 (quantifier least most cs).1 := by
  by_cases hmark : cs.head? = some '?'
  · obtain ⟨rest, rfl⟩ := List.head?_eq_some_iff.mp hmark
    rfl
  · rw [quantifier_of_head? least most hmark]
    cases hpieces : st.pieces with
    | nil => simp only [repeatLast?, take?, hpieces]
    | cons p pieces =>
      obtain ⟨_ | node, depth⟩ := p
      · simp only [repeatLast?, take?, hpieces]
      · cases cs with
        | nil => simp only [repeatLast?, take?, hpieces]
        | cons c cs =>
          have hc : c ≠ '?' := fun heq => hmark (congrArg some heq)
          simp [repeatLast?, take?, hpieces, hc]

theorem openNamed?_eq (st : State) (cs : List Char) :
    st.openNamed? cs = ((groupName? cs).map fun (name, rest) => (Construct.named name, rest)).bind
      fun (k, rest) => st.take? rest k := by
  rw [openNamed?]
  cases groupName? cs with
  | none => rfl
  | some found => rfl

theorem openParen?_eq (st : State) (cs : List Char) :
    st.openParen? cs = (paren? st.flags (skip st.flags cs)).bind fun (k, rest) =>
      st.take? rest k := by
  unfold openParen?
  generalize skip st.flags cs = ds
  split
  any_goals rfl
  · exact openNamed?_eq st _
  · rw [paren?, openNamed?_eq] <;> assumption
  · rw [paren?]
    · cases modes? st.flags false [] _ with
      | none => rfl
      | some found =>
        obtain ⟨flags, seen, close, rest⟩ := found
        simp only [Option.bind_eq_bind, Option.bind_some]
        split
        · split <;> rfl
        · rfl
    all_goals assumption
  · rw [paren?]
    · rfl
    all_goals assumption

/-- A step reads a construct and takes it in. -/
theorem step?_eq (st : State) (c : Char) (rest : List Char) :
    st.step? c rest = (construct? st.flags c rest).bind fun (k, rest) => st.take? rest k := by
  unfold step?
  split
  any_goals rfl
  · exact openParen?_eq st rest
  · rw [construct?]
    cases bracket? st.flags rest <;> rfl
  · exact repeatLast?_eq st 0 (some 1) rest
  · exact repeatLast?_eq st 0 none rest
  · exact repeatLast?_eq st 1 none rest
  · rw [construct?]
    cases counted? st.flags rest with
    | none => rfl
    | some found => exact repeatLast?_eq st _ _ _
  · rw [construct?]
    cases escape? st.flags rest with
    | none => rfl
    | some found =>
      obtain ⟨e, rest⟩ := found
      cases e with
      | literal c byte =>
        simp only [Option.bind_eq_bind, Option.bind_some, Escape.node?]
        cases st.flags.literal? c byte <;> rfl
      | set s => rfl
      | look l => rfl
  · rw [construct?]
    cases st.flags.dot? <;> rfl
  · rw [construct?]
    · cases st.flags.literal? _ false <;> rfl
    all_goals assumption

end State

-- --------------------------------------------------------------------
-- Assertions
-- --------------------------------------------------------------------

/-- The assertions in an expression. -/
def Node.looks : Node → List Look
  | .empty | .set _ => []
  | .look l => [l]
  | .group _ body => body.looks
  | .cat first second | .alt first second => first.looks ++ second.looks
  | .rep _ _ _ body => body.looks

def Piece.looks (p : Piece) : List Look := (p.node.getD .empty).looks

/-- The assertions that a construct brings. -/
def Construct.looks : Construct → List Look
  | .atom node _ => node.looks
  | _ => []

/-- The assertions in some pieces all have a property. -/
def Assert (P : Look → Prop) (ps : List Piece) : Prop := ∀ p ∈ ps, ∀ l ∈ p.looks, P l

section

variable {P : Look → Prop} {l : Look} {ns : List Node} {p : Piece} {ps qs bs : List Piece}

theorem mem_looks_catAll : l ∈ (State.catAll ns).looks ↔ ∃ n ∈ ns, l ∈ n.looks := by
  cases ns with
  | nil => simp [State.catAll, Node.looks]
  | cons first ns =>
    rw [State.catAll]
    induction ns using List.reverseRecOn with
    | nil => simp
    | append_singleton ns n ih =>
      rw [List.foldl_append, List.foldl_cons, List.foldl_nil, Node.looks, List.mem_append, ih]
      simp only [List.mem_cons, List.mem_append, List.not_mem_nil, or_false, or_and_right,
        exists_or, exists_eq_left, or_assoc]

theorem mem_looks_concat : l ∈ (State.concat ps).looks ↔ ∃ p ∈ ps, l ∈ p.looks := by
  rw [Piece.looks, State.concat_node, Option.getD_some, mem_looks_catAll]
  simp only [List.mem_filterMap, List.mem_reverse]
  constructor
  · rintro ⟨n, ⟨p, hp, hn⟩, hl⟩
    exact ⟨p, hp, by rwa [Piece.looks, hn]⟩
  · rintro ⟨p, hp, hl⟩
    cases hn : p.node with
    | none => simp [Piece.looks, hn, Node.looks] at hl
    | some n => exact ⟨n, ⟨p, hp, hn⟩, by rwa [Piece.looks, hn] at hl⟩

theorem mem_looks_alternation {st : State} : l ∈ st.alternation.looks ↔
    (∃ b ∈ st.branches, l ∈ b.looks) ∨ ∃ p ∈ st.pieces, l ∈ p.looks := by
  have hfold : ∀ (bs : List Piece) (last : Node),
      l ∈ (bs.foldl (fun acc b => Node.alt (b.node.getD .empty) acc) last).looks ↔
        (∃ b ∈ bs, l ∈ b.looks) ∨ l ∈ last.looks := by
    intro bs
    induction bs with
    | nil => simp
    | cons b bs ih =>
      intro last
      rw [List.foldl_cons, ih, Node.looks, List.mem_append, ← Piece.looks]
      simp only [List.mem_cons, or_and_right, exists_or, exists_eq_left]
      rw [or_assoc, or_left_comm]
  cases hbranches : st.branches with
  | nil => simp [State.alternation, hbranches, mem_looks_concat]
  | cons b bs =>
    rw [State.alternation, hbranches]
    dsimp only
    rw [Piece.looks, Option.getD_some, hfold, ← Piece.looks, mem_looks_concat]

theorem Assert.nil : Assert P [] := nofun

theorem assert_cons : Assert P (p :: ps) ↔ (∀ l ∈ p.looks, P l) ∧ Assert P ps :=
  List.forall_mem_cons

theorem assert_append : Assert P (ps ++ qs) ↔ Assert P ps ∧ Assert P qs :=
  List.forall_mem_append

theorem Assert.concat (h : Assert P ps) : ∀ l ∈ (State.concat ps).looks, P l := by
  intro l hl
  obtain ⟨p, hp, hl⟩ := mem_looks_concat.mp hl
  exact h p hp l hl

theorem Assert.alternation {st : State} (hpieces : Assert P st.pieces)
    (hbranches : Assert P st.branches) : ∀ l ∈ st.alternation.looks, P l := by
  intro l hl
  obtain ⟨b, hb, hl⟩ | ⟨p, hp, hl⟩ := mem_looks_alternation.mp hl
  · exact hbranches b hb l hl
  · exact hpieces p hp l hl

end

namespace State

/-- The assertions read so far all have a property. -/
structure Asserts (P : Look → Prop) (st : State) : Prop where
  pieces : Assert P st.pieces
  branches : Assert P st.branches
  groups : ∀ g ∈ st.groups, Assert P g.pieces ∧ Assert P g.branches

variable {P : Look → Prop} {st st' : State} {rest : List Char} {k : Construct}

theorem Asserts.push {node : Node} {depth : Nat} (h : st.Asserts P)
    (hnode : ∀ l ∈ node.looks, P l) : (st.push node depth rest).Asserts P :=
  ⟨assert_cons.mpr ⟨hnode, h.pieces⟩, h.branches, h.groups⟩

theorem Asserts.openGroup {index : Option Nat} {flags : Flags} (h : st.Asserts P) :
    (st.openGroup index flags rest).Asserts P :=
  ⟨.nil, .nil, List.forall_mem_cons.mpr ⟨⟨h.pieces, h.branches⟩, h.groups⟩⟩

theorem Asserts.closeParen? (h : st.Asserts P) (hclose : st.closeParen? rest = some st') :
    st'.Asserts P := by
  unfold State.closeParen? at hclose
  split at hclose
  · cases hclose
  · next g groups hgroups =>
    have hall := h.groups
    rw [hgroups, List.forall_mem_cons] at hall
    obtain ⟨⟨hpieces, hbranches⟩, hrest⟩ := hall
    cases hclose
    refine ⟨assert_cons.mpr ⟨?_, hpieces⟩, hbranches, hrest⟩
    -- A number around the body adds no assertion.
    have hinner : ∀ l ∈ st.alternation.looks, P l := Assert.alternation h.pieces h.branches
    cases g.index with
    | none => exact hinner
    | some index => exact hinner

theorem Asserts.take? (h : st.Asserts P) (hk : ∀ l ∈ k.looks, P l)
    (htake : st.take? rest k = some st') : st'.Asserts P := by
  cases k with
  | atom node depth =>
    cases htake
    exact h.push hk
  | modes flags =>
    cases htake
    exact ⟨assert_cons.mpr ⟨nofun, h.pieces⟩, h.branches, h.groups⟩
  | again least most other =>
    rw [State.take?] at htake
    split at htake
    · next node depth pieces hpieces =>
      cases htake
      have hall := h.pieces
      rw [hpieces, assert_cons] at hall
      exact ⟨assert_cons.mpr hall, h.branches, h.groups⟩
    · cases htake
  | group =>
    cases htake
    exact Asserts.openGroup ⟨h.pieces, h.branches, h.groups⟩
  | named name =>
    rw [State.take?] at htake
    split at htake
    · cases htake
    · cases htake
      exact Asserts.openGroup ⟨h.pieces, h.branches, h.groups⟩
  | bare flags =>
    cases htake
    exact h.openGroup
  | close => exact h.closeParen? htake
  | bar =>
    cases htake
    exact ⟨.nil, assert_cons.mpr ⟨h.pieces.concat, h.branches⟩, h.groups⟩

/-- What the constructs of a pattern assert, the whole pattern does. -/
theorem Asserts.run? {fuel : Nat} (hP : ∀ f c rest k after, construct? f c rest = some (k, after) →
    ∀ l ∈ k.looks, P l) (h : st.Asserts P) (hrun : State.run? fuel st = some st') :
    st'.Asserts P := by
  induction fuel generalizing st with
  | zero =>
    cases hrun
    exact h
  | succ fuel ih =>
    rw [State.run?] at hrun
    split at hrun
    · cases hrun
      exact ⟨h.pieces, h.branches, h.groups⟩
    · obtain ⟨next, hstep, hrest⟩ := Option.bind_eq_some_iff.mp hrun
      rw [step?_eq] at hstep
      obtain ⟨⟨k, after⟩, hread, htake⟩ := Option.bind_eq_some_iff.mp hstep
      exact ih (h.take? (hP _ _ _ _ _ hread) htake) hrest

end State

/-- A property of the assertions that constructs bring holds of those of a pattern. -/
theorem looks_of_parse? {P : Look → Prop} {pattern : List Char} {root : Node}
    (hP : ∀ f c rest k after, construct? f c rest = some (k, after) → ∀ l ∈ k.looks, P l)
    (h : parse? pattern = some root) : ∀ l ∈ root.looks, P l := by
  obtain ⟨st, hrun, -, rfl⟩ := exists_run?_of_parse? h
  have hstart : (State.start pattern).Asserts P := ⟨.nil, .nil, List.forall_mem_nil _⟩
  have hst := hstart.run? hP hrun
  exact Assert.alternation hst.pieces hst.branches

-- --------------------------------------------------------------------
-- Word characters
-- --------------------------------------------------------------------

/-- The characters that an assertion counts as those of words. -/
def Look.word? : Look → Option CharSet
  | .wordBoundary w | .notWordBoundary w | .wordStart w | .wordEnd w | .wordStartHalf w
  | .wordEndHalf w => some w
  | _ => none

section

variable {f : Flags} {cs rest : List Char} {e : Escape} {l : Look} {k : Construct} {c : Char}

theorem hexEscape?_ne_look {digits : Nat} (h : hexEscape? f digits cs = some (e, rest)) :
    e ≠ .look l := by
  rintro rfl
  unfold hexEscape? at h
  split at h
  · cases h
  all_goals
    simp only [Option.bind_eq_bind, Option.bind_eq_some_iff] at h
    obtain ⟨_, -, _, -, ⟨⟩⟩ := h

theorem classEscape?_ne_look {negated : Bool} (h : classEscape? f negated cs = some (e, rest)) :
    e ≠ .look l := by
  rintro rfl
  unfold classEscape? at h
  split at h
  · cases h
  split at h
  · cases h
  · simp only [Option.bind_eq_bind, Option.bind_eq_some_iff] at h
    obtain ⟨_, -, _, -, _, -, ⟨⟩⟩ := h
  · cases h
  · simp only [Option.bind_eq_bind, Option.bind_eq_some_iff] at h
    obtain ⟨_, -, _, -, ⟨⟩⟩ := h

theorem word?_of_boundary? (h : boundary? f cs = some (.look l, rest)) : l.word? = some f.word := by
  unfold boundary? at h
  split at h
  · split at h
    · cases h
    · dsimp only at h
      split at h
      · split at h
        · split at h
          all_goals
            cases h
            try rfl
        · cases h
      · cases h
        rfl
  · cases h
    rfl

theorem word?_of_escape? (h : escape? f cs = some (.look l, rest)) :
    ∀ w, l.word? = some w → w = f.word := by
  have hword : l.word? = some f.word → ∀ w, l.word? = some w → w = f.word :=
    fun hl w hw => (Option.some.inj (hl.symm.trans hw)).symm
  have hset : ∀ (o : Option CharSet) more, o.map (fun s => (Escape.set s, more)) ≠
      some (.look l, rest) := by
    intro o more
    cases o <;> simp
  unfold escape? at h
  split at h
  · cases h
  dsimp only at h
  split at h
  any_goals cases h
  all_goals first
    | exact absurd rfl (hexEscape?_ne_look h)
    | exact absurd rfl (classEscape?_ne_look h)
    | exact hword (word?_of_boundary? h)
    | exact hword rfl
    | exact absurd h (hset _ _)
    | (split at h <;> cases h)
    | (intro w hw; cases hw)

theorem looks_of_paren? (h : paren? f cs = some (k, rest)) : k.looks = [] := by
  unfold paren? at h
  split at h
  any_goals cases h
  · obtain ⟨_, -, ⟨⟩⟩ := Option.map_eq_some_iff.mp h
    rfl
  · obtain ⟨_, -, ⟨⟩⟩ := Option.map_eq_some_iff.mp h
    rfl
  · simp only [Option.bind_eq_bind, Option.bind_eq_some_iff] at h
    obtain ⟨⟨flags, seen, close, more⟩, -, h⟩ := h
    dsimp only at h
    split at h
    · split at h
      · cases h
      · cases h
        rfl
    · cases h
      rfl
  · rfl

theorem looks_quantifier (least : Nat) (most : Option Nat) (cs : List Char) :
    (quantifier least most cs).1.looks = [] := by
  unfold quantifier
  split <;> rfl

theorem looks_of_literal? {byte : Bool} {n : Node} (h : f.literal? c byte = some n) :
    n.looks = [] := by
  rw [Flags.literal?] at h
  split at h <;> cases h
  rfl

/-- An assertion about words is one of the mode that it stands in. -/
theorem word?_of_construct? (h : construct? f c cs = some (k, rest)) :
    ∀ l ∈ k.looks, ∀ w, l.word? = some w → w = f.word := by
  have hnone : k.looks = [] → ∀ l ∈ k.looks, ∀ w, l.word? = some w → w = f.word := by
    intro hk l hl
    rw [hk] at hl
    cases hl
  have hquantifier : ∀ least most ds, quantifier least most ds = (k, rest) → k.looks = [] := by
    intro least most ds heq
    rw [← looks_quantifier least most ds, heq]
  unfold construct? at h
  split at h
  · exact hnone (looks_of_paren? h)
  · cases h
    exact hnone rfl
  · cases h
    exact hnone rfl
  · obtain ⟨_, -, ⟨⟩⟩ := Option.map_eq_some_iff.mp h
    exact hnone rfl
  · exact hnone (hquantifier _ _ _ (Option.some.inj h))
  · exact hnone (hquantifier _ _ _ (Option.some.inj h))
  · exact hnone (hquantifier _ _ _ (Option.some.inj h))
  · obtain ⟨⟨least, most, more⟩, -, h⟩ := Option.map_eq_some_iff.mp h
    exact hnone (hquantifier _ _ _ h)
  · simp only [Option.bind_eq_bind, Option.bind_eq_some_iff] at h
    obtain ⟨⟨e, more⟩, hread, n, hn, ⟨⟩⟩ := h
    cases e with
    | literal d byte => exact hnone (looks_of_literal? hn)
    | set s =>
      cases hn
      exact hnone rfl
    | look l =>
      cases hn
      exact List.forall_mem_singleton.mpr (word?_of_escape? hread)
  · obtain ⟨n, hn, ⟨⟩⟩ := Option.map_eq_some_iff.mp h
    refine hnone ?_
    unfold Flags.dot? at hn
    split at hn
    · cases hn
    · split at hn
      · cases hn
        rfl
      · split at hn <;> cases hn <;> rfl
  · cases h
    refine List.forall_mem_singleton.mpr ?_
    unfold Flags.caret
    split <;> [split; skip] <;> exact nofun
  · cases h
    refine List.forall_mem_singleton.mpr ?_
    unfold Flags.dollar
    split <;> [split; skip] <;> exact nofun
  · obtain ⟨n, hn, ⟨⟩⟩ := Option.map_eq_some_iff.mp h
    exact hnone (looks_of_literal? hn)

/-- The words of a pattern's assertions are of one of two kinds. -/
theorem word?_of_parse? {pattern : List Char} {root : Node} (h : parse? pattern = some root) :
    ∀ l ∈ root.looks, ∀ w, l.word? = some w → w = Flags.asciiWord ∨ w = Unicode.Class.word := by
  refine looks_of_parse? ?_ h
  intro f c cs k rest hread l hl w hw
  rw [word?_of_construct? hread l hl w hw, Flags.word]
  cases f.unicode
  · exact .inl rfl
  · exact .inr rfl

end

end PageRecords.Regex
