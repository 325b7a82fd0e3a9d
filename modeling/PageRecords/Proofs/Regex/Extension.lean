import PageRecords.Proofs.Regex.Constructs
import PageRecords.Proofs.Unicode.CharSets

/-!
# Matches in texts that go on

Where an expression leads in a text it leads in any text that goes on from there, if its
assertions do not see what follows: none asserts the end of a text or line, and what follows
begins with a mark that no word has (`Node.reach_extend`). The assertions about words need
nothing else, as the end of a text and such a mark both end a word.
-/

namespace PageRecords.Regex

-- --------------------------------------------------------------------
-- Places
-- --------------------------------------------------------------------

namespace Place

variable {text e : List Char} {p q : Place} {c : Char}

/-- The place in the text that goes on. -/
def extend (e : List Char) (p : Place) : Place := { p with after := p.after ++ e }

theorem In.extend (h : p.In text) : (p.extend e).In (text ++ e) := by
  refine ⟨h.index, ?_⟩
  rw [← h.text, List.append_assoc]
  rfl

theorem next?_extend (h : p.next? = some (c, q)) :
    (p.extend e).next? = some (c, q.extend e) := by
  obtain ⟨hafter, hbefore, hindex⟩ := next?_eq_some h
  obtain ⟨_, _, _⟩ := q
  cases hbefore
  cases hindex
  rw [Place.next?, extend, hafter]
  rfl

end Place

-- --------------------------------------------------------------------
-- Assertions
-- --------------------------------------------------------------------

/-- Asserts the end of a text or of a line. -/
def Look.isEnd : Look → Bool
  | .textEnd | .lineEnd | .crlfLineEnd => true
  | _ => false

/-- What an assertion says of the end of a text it says also of a text that goes on with a
mark. -/
structure Look.Ignores (mark : Char) (l : Look) : Prop where
  noEnd : l.isEnd = false
  noWord : ∀ w, l.word? = some w → w.contains mark = false

variable {mark : Char} {e : List Char} {p q : Place} {l : Look}

theorem isWord_append {w : Unicode.CharSet} (hmark : w.contains mark = false) (side : List Char) :
    isWord w (side ++ mark :: e) = isWord w side := by
  cases side with
  | nil => exact hmark
  | cons c side => rfl

theorem head?_append_bne (hmark : mark ≠ '\n') (side : List Char) :
    ((side ++ mark :: e).head? != some '\n') = (side.head? != some '\n') := by
  cases side with
  | nil =>
    have hsome : some mark ≠ some '\n' := fun heq => hmark (Option.some.inj heq)
    exact bne_iff_ne.mpr hsome
  | cons c side => rfl

theorem Look.holds_extend (hmark : mark ≠ '\n') (h : l.Ignores mark) :
    l.holds (p.extend (mark :: e)) = l.holds p := by
  have hword : ∀ w, l.word? = some w →
      isWord w (p.extend (mark :: e)).after = isWord w p.after :=
    fun w hw => isWord_append (h.noWord w hw) p.after
  have hend := h.noEnd
  cases l with
  | textStart => rfl
  | lineStart => rfl
  | crlfLineStart =>
    have hhead : ((p.extend (mark :: e)).after.head? != some '\n') = (p.after.head? != some '\n') :=
      head?_append_bne hmark p.after
    rw [holds, hhead]
    rfl
  | textEnd => cases hend
  | lineEnd => cases hend
  | crlfLineEnd => cases hend
  | wordBoundary w => rw [holds, hword w rfl]; rfl
  | notWordBoundary w => rw [holds, hword w rfl]; rfl
  | wordStart w => rw [holds, hword w rfl]; rfl
  | wordEnd w => rw [holds, hword w rfl]; rfl
  | wordStartHalf w => rfl
  | wordEndHalf w => rw [holds, hword w rfl]; rfl

/-- Before the end of a text, what ends at a place ends there also if the text goes on. -/
theorem Look.holds_extend_of_after {c : Char} {rest : List Char} (hafter : p.after = c :: rest)
    (hl : l.isEnd = true) : l.holds (p.extend e) = l.holds p := by
  have hafter' : (p.extend e).after = c :: (rest ++ e) := congrArg (· ++ e) hafter
  cases l with
  | textEnd => rw [holds, holds, hafter, hafter']; rfl
  | lineEnd => rw [holds, holds, hafter, hafter']; rfl
  | crlfLineEnd => rw [holds, holds, hafter, hafter']; rfl
  | _ => cases hl

theorem Look.holds_of_after_nil (hafter : p.after = []) (hl : l.isEnd = true) :
    l.holds p = true := by
  cases l with
  | textEnd => rw [holds, hafter]; rfl
  | lineEnd => rw [holds, hafter]; rfl
  | crlfLineEnd => rw [holds, hafter]; rfl
  | _ => cases hl

-- --------------------------------------------------------------------
-- Expressions
-- --------------------------------------------------------------------

theorem Rounds.extend {R : Place → Place → Prop}
    (h : ∀ p q, R p q → R (p.extend e) (q.extend e)) {n : Nat} :
    ∀ {p q}, Rounds R n p q → Rounds R n (p.extend e) (q.extend e) := by
  induction n with
  | zero =>
    rintro p _ rfl
    exact rfl
  | succ n ih =>
    rintro p q ⟨m, hm, hq⟩
    exact ⟨m.extend e, h p m hm, ih hq⟩

variable {n : Node} {ns : List Node}

theorem Node.reach_extend (hmark : mark ≠ '\n') (h : ∀ l ∈ n.looks, l.Ignores mark) :
    n.Reach p q → n.Reach (p.extend (mark :: e)) (q.extend (mark :: e)) := by
  induction n generalizing p q with
  | empty =>
    rintro rfl
    exact rfl
  | set s =>
    rintro ⟨c, hnext, hc⟩
    exact ⟨c, Place.next?_extend hnext, hc⟩
  | look l =>
    rintro ⟨rfl, hl⟩
    exact ⟨rfl, (Look.holds_extend hmark (h l List.mem_cons_self)).trans hl⟩
  | group _ body ih => exact ih h
  | cat first second ih₁ ih₂ =>
    rw [looks, List.forall_mem_append] at h
    rintro ⟨m, hm, hq⟩
    exact ⟨m.extend (mark :: e), ih₁ h.1 hm, ih₂ h.2 hq⟩
  | alt first second ih₁ ih₂ =>
    rw [looks, List.forall_mem_append] at h
    exact Or.imp (ih₁ h.1) (ih₂ h.2)
  | rep least most _ body ih =>
    rintro ⟨k, hleast, hmost, hrounds⟩
    exact ⟨k, hleast, hmost, Rounds.extend (fun _ _ hbody => ih h hbody) hrounds⟩

theorem Chain.extend (hmark : mark ≠ '\n') (h : ∀ n ∈ ns, ∀ l ∈ n.looks, l.Ignores mark)
    (hchain : Chain ns p q) : Chain ns (p.extend (mark :: e)) (q.extend (mark :: e)) := by
  induction ns generalizing p with
  | nil =>
    cases hchain
    exact rfl
  | cons n ns ih =>
    rw [List.forall_mem_cons] at h
    obtain ⟨m, hm, hq⟩ := hchain
    exact ⟨m.extend (mark :: e), n.reach_extend hmark h.1 hm, ih h.2 hq⟩

/-- The alternatives that were read and the one being read lead to the same places as their
tree. -/
theorem reach_alternation {st : State} : (st.alternation.node.getD .empty).Reach p q ↔
    (∃ b ∈ st.branches, (b.node.getD .empty).Reach p q) ∨
      Chain (st.pieces.reverse.filterMap (·.node)) p q := by
  have hfold : ∀ (bs : List Piece) (last : Node),
      (bs.foldl (fun acc b => Node.alt (b.node.getD .empty) acc) last).Reach p q ↔
        (∃ b ∈ bs, (b.node.getD .empty).Reach p q) ∨ last.Reach p q := by
    intro bs
    induction bs with
    | nil => simp
    | cons b bs ih =>
      intro last
      rw [List.foldl_cons, ih, Node.Reach]
      simp only [List.mem_cons, or_and_right, exists_or, exists_eq_left]
      rw [or_assoc, or_left_comm]
  have hlast : ((State.concat st.pieces).node.getD .empty).Reach p q ↔
      Chain (st.pieces.reverse.filterMap (·.node)) p q := by
    rw [State.concat_node, Option.getD_some, reach_catAll]
  rw [← hlast]
  cases hbranches : st.branches with
  | nil => simp [State.alternation, hbranches]
  | cons b bs =>
    rw [State.alternation, hbranches]
    dsimp only
    rw [Option.getD_some, hfold]

/-- Signs of addresses are not in the words of a pattern. -/
theorem not_contains_word_of_parse? {pattern : List Char} {root : Node}
    (hparse : parse? pattern = some root) (hmark : mark ∈ ['?', '#']) :
    ∀ l ∈ root.looks, ∀ w, l.word? = some w → w.contains mark = false := by
  intro l hl w hw
  obtain rfl | rfl := word?_of_parse? hparse l hl w hw
  · simp only [List.mem_cons, List.not_mem_nil, or_false] at hmark
    obtain rfl | rfl := hmark
    · rfl
    · rfl
  · exact Unicode.Class.not_contains_word hmark

end PageRecords.Regex
