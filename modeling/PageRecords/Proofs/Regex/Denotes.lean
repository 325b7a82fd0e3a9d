import PageRecords.Proofs.Regex.Reading

/-!
# Texts that denote languages

A text denotes a language inside a pattern if it is read to its words wherever it stands.
Such texts are put together as their languages are (`Denotes.append`). Anchored on both
sides, the text makes a pattern for just these words (`exists_compile?_of_denotes`). Where
a pattern only begins so, every match begins with one of them, unless the pattern is an
alternation (`exists_isPrefix_of_denotes`): two alternatives have one anchor each
(`exists_compile?_of_alternatives`). A second end inside the pattern leaves nothing to what
comes after it (`exists_compile?_of_end_inside`).
-/

namespace PageRecords.Regex

open State

variable {text more rest pattern : List Char} {bs ps qs : List Piece} {n j k : Nat} {c : Char}
  {K L : Language Char} {r : Regex} {u : String}

/-- How much expressions take together. -/
def total : List Node → Nat
  | [] => 0
  | n :: ns => n.size + total ns

theorem total_append (ms ns : List Node) : total (ms ++ ns) = total ms + total ns := by
  induction ms with
  | nil => rw [List.nil_append, total, Nat.zero_add]
  | cons m ms ih => rw [List.cons_append, total, total, ih, Nat.add_assoc]

theorem size_catAll_le (ns : List Node) : (catAll ns).size ≤ total ns + 32 := by
  cases ns with
  | nil => exact Nat.le_refl 32
  | cons first ns =>
    have hsize : (catAll (first :: ns)).size = total (first :: ns) := by
      rw [catAll]
      induction ns using List.reverseRecOn with
      | nil => rfl
      | append_singleton ns n ih =>
        rw [List.foldl_append, ← List.cons_append, total_append, ← ih]
        rfl
    rw [hsize]
    exact Nat.le_add_right _ 32

/-- How much pieces take. -/
def cost (ps : List Piece) : Nat := total (ps.reverse.filterMap (·.node))

theorem cost_append (ps qs : List Piece) : cost (ps ++ qs) = cost ps + cost qs := by
  rw [cost, List.reverse_append, List.filterMap_append, total_append, Nat.add_comm]
  rfl

theorem size_concat_le (ps : List Piece) :
    ((concat ps).node.getD .empty).size ≤ cost ps + 32 := by
  rw [concat_node, Option.getD_some]
  exact size_catAll_le _

/-- A pattern is within the size if its pieces are. -/
theorem withinSize_of_cost (hsteps : Steps k (start pattern) (top [] ps n []))
    (hk : k ≤ pattern.length) (hcost : cost ps + 32 ≤ maxSize) : WithinSize pattern := by
  intro st hst
  rw [run?_of_steps hsteps hk] at hst
  cases hst
  exact Nat.le_trans (size_concat_le ps) hcost

/-- Pieces for the words of a language, the latest first, that nest and take as much as
a pattern may. -/
structure Express (qs : List Piece) (L : Language Char) (size : Nat) : Prop where
  reads : Reads (Chain (qs.reverse.filterMap (·.node))) L
  shallow : ∀ q ∈ qs, q.depth + 2 ≤ maxDepth
  cost_le : cost qs ≤ size

/-- What follows must not begin with a question mark, which would go with the text. -/
def Denotes (text : List Char) (L : Language Char) (size : Nat) : Prop :=
  ∀ (bs ps : List Piece) (n : Nat) (rest : List Char), rest.head? ≠ some '?' →
    ∃ k m qs, k ≤ text.length ∧
      Steps k (top bs ps n (text ++ rest)) (top bs (qs ++ ps) m rest) ∧ Express qs L size

theorem Express.append {qs' : List Piece} (h : Express qs K j) (h' : Express qs' L k) :
    Express (qs' ++ qs) (K * L) (j + k) := by
  refine ⟨?_, ?_, ?_⟩
  · rw [List.reverse_append, List.filterMap_append]
    exact h.reads.append h'.reads
  · intro q hq
    rcases List.mem_append.mp hq with hq | hq
    · exact h'.shallow q hq
    · exact h.shallow q hq
  · rw [cost_append, Nat.add_comm]
    exact Nat.add_le_add h.cost_le h'.cost_le

theorem Denotes.nil (size : Nat) : Denotes [] 1 size := by
  intro bs ps n rest _
  exact ⟨0, n, [], Nat.le_refl 0, .refl _, reads_eq, nofun, Nat.zero_le size⟩

/-- A text that may be left out. -/
theorem Denotes.ite (p : Prop) [Decidable p] (h : Denotes text L j) :
    Denotes (if p then [] else text) (if p then 1 else L) j := by
  split
  · exact Denotes.nil j
  · exact h

theorem Denotes.append (h : Denotes text K j) (h' : Denotes more L k)
    (hhead : more.head? ≠ some '?') : Denotes (text ++ more) (K * L) (j + k) := by
  intro bs ps n rest hrest
  have hnext : (more ++ rest).head? ≠ some '?' := by
    cases more with
    | nil => exact hrest
    | cons c more => exact hhead
  obtain ⟨i, m, qs, hi, hsteps, hqs⟩ := h bs ps n (more ++ rest) hnext
  obtain ⟨i', m', qs', hi', hsteps', hqs'⟩ := h' bs (qs ++ ps) m rest hrest
  refine ⟨i + i', m', qs' ++ qs, ?_, ?_, hqs.append hqs'⟩
  · rw [List.length_append]
    exact Nat.add_le_add hi hi'
  · rw [List.append_assoc, List.append_assoc]
    exact hsteps.trans hsteps'

-- --------------------------------------------------------------------
-- After the start of a text
-- --------------------------------------------------------------------

/-- The start of a text as a piece. -/
def startPiece : Piece := ⟨some (.look .textStart), 0⟩

def endPiece : Piece := ⟨some (.look .textEnd), 0⟩

theorem Denotes.steps (h : Denotes text L j) (rest : List Char) (hrest : rest.head? ≠ some '?') :
    ∃ k m qs, k ≤ text.length + 1 ∧ Express qs L j ∧
      Steps k (start ('^' :: text ++ rest)) (top [] (qs ++ [startPiece]) m rest) := by
  obtain ⟨k, m, qs, hk, hsteps, hqs⟩ := h [] [startPiece] 0 rest hrest
  have hanchor : Steps 1 (start ('^' :: text ++ rest)) (top [] [startPiece] 0 (text ++ rest)) :=
    .one rfl rfl
  exact ⟨1 + k, m, qs, by omega, hqs, hanchor.trans hsteps⟩

theorem Denotes.steps_end (h : Denotes text L j) :
    ∃ k m qs, k ≤ ('^' :: text ++ ['$']).length ∧ Express qs L j ∧
      Steps k (start ('^' :: text ++ ['$'])) (top [] (endPiece :: qs ++ [startPiece]) m []) := by
  obtain ⟨k, m, qs, hk, hqs, hsteps⟩ := h.steps ['$'] nofun
  have hend : Steps 1 (top [] (qs ++ [startPiece]) m ['$'])
      (top [] (endPiece :: qs ++ [startPiece]) m []) := .one rfl rfl
  refine ⟨k + 1, m, qs, ?_, hqs, hsteps.trans hend⟩
  simp only [List.cons_append, List.length_cons, List.length_append, List.length_nil]
  omega

theorem Express.shallow_anchored (h : Express qs L j) :
    ∀ q ∈ endPiece :: qs ++ [startPiece], q.depth + 2 ≤ maxDepth := by
  intro q hq
  simp only [List.cons_append, List.mem_cons, List.mem_append, List.not_mem_nil, or_false] at hq
  rcases hq with rfl | hq | rfl
  · decide
  · exact h.shallow q hq
  · decide

theorem withinSize_of_denotes (h : Denotes text L j) (hj : j + 96 ≤ maxSize) :
    WithinSize ('^' :: text ++ ['$']) := by
  obtain ⟨k, m, qs, hk, hqs, hsteps⟩ := h.steps_end
  have hcost : cost (endPiece :: qs ++ [startPiece]) = 32 + cost qs + 32 := by
    rw [cost_append, ← List.singleton_append, cost_append]
    rfl
  have hle := hqs.cost_le
  exact withinSize_of_cost hsteps hk (by omega)

/-- An anchored concatenation is no alternation. -/
theorem catAll_ne_alt (n m : Node) (ns : List Node) (a b : Node) :
    catAll (n :: ns ++ [m]) ≠ .alt a b := by
  rw [List.cons_append, catAll, List.foldl_append]
  intro h
  cases h

theorem compile?_of_parse? {root : Node} (h : parse? pattern = some root) :
    compile? (String.ofList pattern) = some ⟨String.ofList pattern, root⟩ := by
  rw [compile?, String.toList_ofList, h, Option.map_some]

theorem exists_compile?_eq (h : Denotes text L j) (hsize : WithinSize ('^' :: text ++ ['$'])) :
    ∃ ms, Reads (Chain ms) L ∧ compile? (String.ofList ('^' :: text ++ ['$'])) =
      some ⟨String.ofList ('^' :: text ++ ['$']),
        catAll (.look .textStart :: ms ++ [.look .textEnd])⟩ := by
  obtain ⟨k, m, qs, hk, hqs, hsteps⟩ := h.steps_end
  have hnodes : (endPiece :: qs ++ [startPiece]).reverse.filterMap (·.node) =
      .look .textStart :: qs.reverse.filterMap (·.node) ++ [.look .textEnd] := by
    rw [List.cons_append, List.reverse_cons, List.reverse_append, List.filterMap_append,
      List.filterMap_append]
    rfl
  have hparse := parse?_of_pieces hsteps hk
    (fun q hq => Nat.lt_of_succ_lt (hqs.shallow_anchored q hq)) hsize
  rw [hnodes] at hparse
  exact ⟨qs.reverse.filterMap (·.node), hqs.reads, compile?_of_parse? hparse⟩

/-- Between the anchors of a text, a text makes a pattern for the words it denotes. -/
theorem exists_compile?_of_denotes (h : Denotes text L j)
    (hsize : WithinSize ('^' :: text ++ ['$'])) :
    ∃ r, compile? (String.ofList ('^' :: text ++ ['$'])) = some r ∧
      ∀ u, r.isMatch u = true ↔ u.toList ∈ L := by
  obtain ⟨ms, hms, hcompile⟩ := exists_compile?_eq h hsize
  exact ⟨_, hcompile, fun u => isMatch_iff_mem_language rfl hms⟩

/-- A match begins with what the text after the start denotes, whatever the rest of the
pattern is, as long as it does not make the whole an alternation. -/
theorem exists_isPrefix_of_denotes (h : Denotes text L j) (hc : isQuantifier c = false)
    (hr : compile? (String.ofList ('^' :: text ++ c :: rest)) = some r)
    (hroot : ∀ a b, r.root ≠ .alt a b) (hu : r.isMatch u = true) :
    ∃ w ∈ L, w <+: u.toList := by
  have hhead : (c :: rest).head? ≠ some '?' := by
    intro hmark
    cases hmark
    cases hc
  obtain ⟨k, m, qs, hk, hqs, hsteps⟩ := h.steps _ hhead
  rw [compile?, String.toList_ofList] at hr
  obtain ⟨root, hparse, rfl⟩ := Option.map_eq_some_iff.mp hr
  have hlength : k ≤ ('^' :: text ++ c :: rest).length := by
    simp only [List.cons_append, List.length_cons, List.length_append]
    omega
  obtain ⟨a, b, halt⟩ | ⟨ns, hcat⟩ := root_of_steps hparse hsteps hlength hc
  · exact absurd halt (hroot a b)
  · rw [List.reverse_append, List.filterMap_append] at hcat
    exact exists_isPrefix_of_isMatch hcat hqs.reads hu

/-- A concatenation within an alternation. -/
theorem exists_concat_eq (ps : List Piece) (hps : ∀ p ∈ ps, p.depth + 2 ≤ maxDepth) :
    ∃ depth, concat ps = ⟨some (catAll (ps.reverse.filterMap (·.node))), depth⟩ ∧
      depth < maxDepth ∧ (catAll (ps.reverse.filterMap (·.node))).size ≤ cost ps + 32 := by
  have hdepth : (concat ps).depth ≤ maxDepth - 2 + 1 :=
    concat_depth_le fun p hp => Nat.le_sub_of_add_le (hps p hp)
  have hsize := size_concat_le ps
  rw [concat_node, Option.getD_some] at hsize
  refine ⟨(concat ps).depth, ?_, Nat.lt_of_le_of_lt hdepth (by decide), hsize⟩
  rw [← concat_node]

theorem alternation_top_two (a b : Node) (d e n : Nat) (hb : concat qs = ⟨some b, e⟩) :
    (top [⟨some a, d⟩] qs n []).alternation = ⟨some (.alt a b), max e d + 1⟩ := by
  have hwhole : (top [⟨some a, d⟩] qs n []).alternation =
      ⟨some (.alt a ((concat qs).node.getD .empty)), max (concat qs).depth d + 1⟩ := rfl
  rw [hwhole, hb, Option.getD_some]

theorem Express.concat_start (h : Express qs L j) :
    ∃ d, concat (qs ++ [startPiece]) =
        ⟨some (catAll (.look .textStart :: qs.reverse.filterMap (·.node))), d⟩ ∧ d < maxDepth ∧
      (catAll (.look .textStart :: qs.reverse.filterMap (·.node))).size ≤ j + 64 := by
  obtain ⟨d, hconcat, hd, hsize⟩ := exists_concat_eq (qs ++ [startPiece])
    fun q hq => h.shallow_anchored q (List.mem_cons_of_mem endPiece hq)
  rw [List.reverse_append, List.filterMap_append] at hconcat hsize
  refine ⟨d, hconcat, hd, Nat.le_trans hsize ?_⟩
  rw [cost_append]
  exact Nat.add_le_add_right (Nat.add_le_add_right h.cost_le 32) 32

theorem Express.concat_end (h : Express qs L j) :
    ∃ d, concat (endPiece :: qs) =
        ⟨some (catAll (qs.reverse.filterMap (·.node) ++ [.look .textEnd])), d⟩ ∧ d < maxDepth ∧
      (catAll (qs.reverse.filterMap (·.node) ++ [.look .textEnd])).size ≤ j + 64 := by
  obtain ⟨d, hconcat, hd, hsize⟩ := exists_concat_eq (endPiece :: qs)
    fun q hq => h.shallow_anchored q (List.mem_append_left _ hq)
  rw [List.reverse_cons, List.filterMap_append] at hconcat hsize
  refine ⟨d, hconcat, hd, Nat.le_trans hsize ?_⟩
  rw [← List.singleton_append, cost_append, Nat.add_comm (cost _)]
  exact Nat.add_le_add_right (Nat.add_le_add_right h.cost_le 32) 32

/-- A bar parts the anchors: what comes before it has the start of a text only, and what
comes after it the end. -/
theorem exists_compile?_of_alternatives (h : Denotes text K j) (h' : Denotes more L k)
    (hsize : j + k + 168 ≤ maxSize) :
    ∃ r, compile? (String.ofList ('^' :: text ++ '|' :: (more ++ ['$']))) = some r ∧
      ∀ u, r.isMatch u = true ↔ (∃ w ∈ K, w <+: u.toList) ∨ ∃ w ∈ L, w <:+ u.toList := by
  obtain ⟨i, m, qs, hi, hqs, hfirst⟩ := h.steps ('|' :: (more ++ ['$'])) nofun
  obtain ⟨d, hstart, hd, hA⟩ := hqs.concat_start
  generalize hAs : catAll (.look .textStart :: qs.reverse.filterMap (·.node)) = A at hstart hA
  -- The bar closes the first alternative with the start, the second begins without pieces.
  have hbar : Steps 1 (top [] (qs ++ [startPiece]) m ('|' :: (more ++ ['$'])))
      (top [⟨some A, d⟩] [] m (more ++ ['$'])) := by
    rw [← hstart]
    exact .one rfl rfl
  obtain ⟨i', m', qs', hi', hsecond, hqs'⟩ := h' [⟨some A, d⟩] [] m ['$'] nofun
  obtain ⟨e, hend, he, hB⟩ := hqs'.concat_end
  generalize hBs : catAll (qs'.reverse.filterMap (·.node) ++ [.look .textEnd]) = B at hend hB
  have hlast : Steps 1 (top [⟨some A, d⟩] (qs' ++ []) m' ['$'])
      (top [⟨some A, d⟩] (endPiece :: qs') m' []) := by
    rw [List.append_nil]
    exact .one rfl rfl
  have hsteps := hfirst.trans (hbar.trans (hsecond.trans hlast))
  have hk : i + (1 + (i' + 1)) ≤ ('^' :: text ++ '|' :: (more ++ ['$'])).length := by
    simp only [List.cons_append, List.length_cons, List.length_append, List.length_nil]
    omega
  have hwhole := alternation_top_two A B d e m' hend
  have hwithin : WithinSize ('^' :: text ++ '|' :: (more ++ ['$'])) := by
    intro st hst
    rw [run?_of_steps hsteps hk] at hst
    cases hst
    rw [hwhole, Option.getD_some, Node.size]
    omega
  have hparse := parse?_of_steps hsteps hk (by rw [hwhole]; exact Nat.max_lt.mpr ⟨he, hd⟩) hwithin
  rw [hwhole, Option.getD_some] at hparse
  subst hAs hBs
  exact ⟨_, compile?_of_parse? hparse,
    fun u => isMatch_iff_of_alternatives rfl hqs.reads hqs'.reads⟩

/-- What comes after an end of a text inside a pattern may only match nothing. -/
theorem exists_compile?_of_end_inside (h : Denotes text K j) (h' : Denotes more L k)
    (hnothing : [] ∈ L) (hsize : j + k + 128 ≤ maxSize) :
    ∃ r, compile? (String.ofList ('^' :: text ++ '$' :: (more ++ ['$']))) = some r ∧
      ∀ u, r.isMatch u = true ↔ u.toList ∈ K := by
  obtain ⟨i, m, qs, hi, hqs, hfirst⟩ := h.steps ('$' :: (more ++ ['$'])) nofun
  obtain ⟨i', m', qs', hi', hsecond, hqs'⟩ := h' [] (endPiece :: qs ++ [startPiece]) m ['$'] nofun
  have hend : Steps 1 (top [] (qs ++ [startPiece]) m ('$' :: (more ++ ['$'])))
      (top [] (endPiece :: qs ++ [startPiece]) m (more ++ ['$'])) := .one rfl rfl
  have hlast : Steps 1 (top [] (qs' ++ (endPiece :: qs ++ [startPiece])) m' ['$'])
      (top [] (endPiece :: qs' ++ (endPiece :: qs ++ [startPiece])) m' []) := .one rfl rfl
  have hsteps := hfirst.trans (hend.trans (hsecond.trans hlast))
  have hk : i + (1 + (i' + 1)) ≤ ('^' :: text ++ '$' :: (more ++ ['$'])).length := by
    simp only [List.cons_append, List.length_cons, List.length_append, List.length_nil]
    omega
  have hdepth : ∀ q ∈ endPiece :: qs' ++ (endPiece :: qs ++ [startPiece]), q.depth < maxDepth := by
    intro q hq
    rcases List.mem_append.mp hq with hq | hq
    · exact Nat.lt_of_succ_lt (hqs'.shallow_anchored q (List.mem_append_left _ hq))
    · exact Nat.lt_of_succ_lt (hqs.shallow_anchored q hq)
  have hcost : cost (endPiece :: qs' ++ (endPiece :: qs ++ [startPiece])) =
      32 + cost qs' + (32 + cost qs + 32) := by
    rw [← List.singleton_append, ← List.singleton_append (l := qs), cost_append, cost_append,
      cost_append, cost_append]
    rfl
  have hle := hqs.cost_le
  have hle' := hqs'.cost_le
  have hwithin := withinSize_of_cost hsteps hk (by omega)
  have hnodes : (endPiece :: qs' ++ (endPiece :: qs ++ [startPiece])).reverse.filterMap (·.node) =
      .look .textStart :: qs.reverse.filterMap (·.node) ++
        .look .textEnd :: (qs'.reverse.filterMap (·.node) ++ [.look .textEnd]) := by
    simp [endPiece, startPiece]
  have hparse := parse?_of_pieces hsteps hk hdepth hwithin
  rw [hnodes] at hparse
  refine ⟨_, compile?_of_parse? hparse,
    fun u => isMatch_iff_of_anchored rfl hqs.reads fun q hq => ?_⟩
  refine chain_append.mpr ⟨q, (hqs'.reads q q).mpr ⟨[], hnothing, Place.ahead_nil.mpr rfl⟩, q, ?_⟩
  exact ⟨⟨rfl, by simp [Look.holds, hq]⟩, rfl⟩

end PageRecords.Regex
