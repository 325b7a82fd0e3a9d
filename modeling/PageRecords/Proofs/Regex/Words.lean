import Mathlib.Computability.Language
import PageRecords.Proofs.Regex.Run
import PageRecords.Regex.Parser

/-!
# Expressions as languages

An expression without assertions matches the same words wherever it stands: `Reads` gives
the language of them, form by form. A concatenation that starts and ends with the anchors
of the text matches just the texts of its language (`isMatch_iff_mem_language`), and one
that only starts so matches texts that begin with a word of it.
-/

namespace PageRecords.Unicode.CharSet

variable {c d : Char}

theorem contains_singleton : (singleton c).contains d = true ↔ d = c := by
  rw [← Char.toNat_inj]
  simp only [contains, singleton, range, containsCode]
  split
  · next hlt => simp only [Bool.false_eq_true, false_iff]; omega
  · next hge => simp only [Bool.or_false, decide_eq_true_eq]; omega

/-- No set of ranges is needed past the last code point. -/
theorem toNat_lt_bound (c : Char) : c.toNat < bound := by
  have hvalid : c.toNat < 0xd800 ∨ (0xdfff < c.toNat ∧ c.toNat < 0x110000) := c.valid
  rw [bound]
  omega

theorem contains_complement_singleton : (singleton c).complement.contains d = true ↔ d ≠ c := by
  have hc := toNat_lt_bound c
  have hd := toNat_lt_bound d
  rw [Ne, ← Char.toNat_inj]
  simp only [contains, complement, singleton, range, gaps]
  split <;> split <;> simp only [containsCode] <;> grind

end PageRecords.Unicode.CharSet

namespace PageRecords.Regex

-- --------------------------------------------------------------------
-- Words between places
-- --------------------------------------------------------------------

namespace Place

/-- The second place is where the first one gets by reading a word. -/
structure Ahead (w : List Char) (p q : Place) : Prop where
  after : p.after = w ++ q.after
  before : q.before = w.reverse ++ p.before
  index : q.index = p.index + w.length

variable {text v w : List Char} {p q : Place} {c : Char}

theorem ahead_nil : Ahead [] p q ↔ p = q := by
  constructor
  · rintro ⟨hafter, hbefore, hindex⟩
    obtain ⟨_, _, _⟩ := p
    obtain ⟨_, _, _⟩ := q
    cases hafter
    cases hbefore
    cases hindex
    rfl
  · rintro rfl
    exact ⟨rfl, rfl, rfl⟩

theorem ahead_append : Ahead (v ++ w) p q ↔ ∃ m, Ahead v p m ∧ Ahead w m q := by
  constructor
  · rintro ⟨hafter, hbefore, hindex⟩
    refine ⟨⟨p.index + v.length, v.reverse ++ p.before, w ++ q.after⟩, ⟨?_, rfl, rfl⟩,
      ⟨rfl, ?_, ?_⟩⟩
    · rw [hafter, List.append_assoc]
    · rw [hbefore, List.reverse_append, List.append_assoc]
    · rw [hindex, List.length_append, Nat.add_assoc]
  · rintro ⟨m, ⟨hafter, hbefore, hindex⟩, ⟨hafter', hbefore', hindex'⟩⟩
    refine ⟨?_, ?_, ?_⟩
    · rw [hafter, hafter', List.append_assoc]
    · rw [hbefore', hbefore, List.reverse_append, List.append_assoc]
    · rw [hindex', hindex, List.length_append, Nat.add_assoc]

theorem next?_iff : p.next? = some (c, q) ↔ Ahead [c] p q := by
  constructor
  · intro h
    obtain ⟨hafter, hbefore, hindex⟩ := next?_eq_some h
    exact ⟨hafter, hbefore, hindex⟩
  · rintro ⟨hafter, hbefore, hindex⟩
    obtain ⟨_, _, _⟩ := q
    cases hbefore
    cases hindex
    rw [next?, hafter]
    rfl

/-- The place between two texts. -/
def between (before after : List Char) : Place := ⟨before.length, before.reverse, after⟩

theorem in_between (before after : List Char) : (between before after).In (before ++ after) :=
  ⟨List.length_reverse.symm, congrArg (· ++ after) (List.reverse_reverse before)⟩

theorem ahead_between (before w after : List Char) :
    Ahead w (between before (w ++ after)) (between (before ++ w) after) :=
  ⟨rfl, List.reverse_append, List.length_append⟩

end Place

open Place (Ahead)

/-- A relation between places leads on by the words of a language. -/
def Reads (R : Place → Place → Prop) (L : Language Char) : Prop :=
  ∀ p q, R p q ↔ ∃ w ∈ L, Ahead w p q

variable {R S : Place → Place → Prop} {K L : Language Char}

theorem mem_word {v w : List Char} : v ∈ ({w} : Language Char) ↔ v = w := Iff.rfl

theorem reads_eq : Reads (fun p q => p = q) 1 := by
  intro p q
  simp only [Language.mem_one, exists_eq_left, Place.ahead_nil]

theorem Reads.comp (hR : Reads R K) (hS : Reads S L) :
    Reads (fun p q => ∃ m, R p m ∧ S m q) (K * L) := by
  intro p q
  constructor
  · rintro ⟨m, hm, hq⟩
    obtain ⟨v, hv, hpm⟩ := (hR p m).mp hm
    obtain ⟨w, hw, hmq⟩ := (hS m q).mp hq
    exact ⟨v ++ w, Language.append_mem_mul hv hw, Place.ahead_append.mpr ⟨m, hpm, hmq⟩⟩
  · rintro ⟨_, hvw, hpq⟩
    obtain ⟨v, hv, w, hw, rfl⟩ := Language.mem_mul.mp hvw
    obtain ⟨m, hpm, hmq⟩ := Place.ahead_append.mp hpq
    exact ⟨m, (hR p m).mpr ⟨v, hv, hpm⟩, (hS m q).mpr ⟨w, hw, hmq⟩⟩

theorem Reads.rounds (hR : Reads R L) (n : Nat) : Reads (Rounds R n) (L ^ n) := by
  induction n with
  | zero =>
    rw [pow_zero]
    exact reads_eq
  | succ n ih =>
    rw [pow_succ']
    exact hR.comp ih

-- --------------------------------------------------------------------
-- Expressions
-- --------------------------------------------------------------------

/-- The character itself. -/
def Node.char (c : Char) : Node := .set (.singleton c)

/-- The words of one character of a set. -/
def letter (s : Unicode.CharSet) : Language Char := {w | ∃ c, s.contains c = true ∧ w = [c]}

/-- The words whose characters are all in a set. -/
def letters (s : Unicode.CharSet) : Language Char := {w | ∀ c ∈ w, s.contains c = true}

theorem mem_letters_complement {c : Char} {w : List Char} :
    w ∈ letters (Unicode.CharSet.singleton c).complement ↔ c ∉ w := by
  constructor
  · intro h hmem
    exact Unicode.CharSet.contains_complement_singleton.mp (h c hmem) rfl
  · intro h d hd
    refine Unicode.CharSet.contains_complement_singleton.mpr ?_
    rintro rfl
    exact h hd

theorem kstar_letter (s : Unicode.CharSet) : KStar.kstar (letter s) = letters s := by
  ext w
  rw [Language.mem_kstar]
  constructor
  · rintro ⟨ws, rfl, hws⟩ c hc
    obtain ⟨v, hv, hcv⟩ := List.mem_flatten.mp hc
    obtain ⟨d, hd, rfl⟩ := hws v hv
    rw [List.mem_singleton.mp hcv]
    exact hd
  · intro hw
    have hflatten : (w.map fun c => [c]).flatten = w := by
      rw [← List.flatMap_def, List.flatMap_singleton']
    refine ⟨w.map fun c => [c], hflatten.symm, fun v hv => ?_⟩
    obtain ⟨c, hc, rfl⟩ := List.mem_map.mp hv
    exact ⟨c, hw c hc, rfl⟩

theorem reads_set (s : Unicode.CharSet) : Reads (Node.set s).Reach (letter s) := by
  intro p q
  simp only [Node.Reach, Place.next?_iff]
  constructor
  · rintro ⟨c, hpq, hc⟩
    exact ⟨[c], ⟨c, hc, rfl⟩, hpq⟩
  · rintro ⟨_, ⟨c, hc, rfl⟩, hpq⟩
    exact ⟨c, hpq, hc⟩

theorem reads_char (c : Char) : Reads (Node.char c).Reach {[c]} := by
  have hletter : letter (.singleton c) = {[c]} := by
    ext w
    constructor
    · rintro ⟨d, hd, rfl⟩
      rw [Unicode.CharSet.contains_singleton.mp hd]
      exact mem_word.mpr rfl
    · intro h
      exact ⟨c, Unicode.CharSet.contains_singleton.mpr rfl, mem_word.mp h⟩
  rw [← hletter]
  exact reads_set _

theorem Reads.optional {n : Node} (h : Reads n.Reach L) (greedy : Bool) :
    Reads (Node.rep 0 (some 1) greedy n).Reach (1 + L) := by
  intro p q
  have hzero := h.rounds 0 p q
  have hone := h.rounds 1 p q
  rw [pow_zero] at hzero
  rw [pow_one] at hone
  simp only [Language.mem_add, or_and_right, exists_or, ← hzero, ← hone]
  constructor
  · rintro ⟨n, -, hle, hn⟩
    have hle := hle 1 rfl
    obtain rfl | rfl : n = 0 ∨ n = 1 := by omega
    · exact .inl hn
    · exact .inr hn
  · rintro (h0 | h1)
    · exact ⟨0, by omega, by omega, h0⟩
    · exact ⟨1, by omega, by simp, h1⟩

theorem Reads.star {n : Node} (h : Reads n.Reach L) (greedy : Bool) :
    Reads (Node.rep 0 none greedy n).Reach (KStar.kstar L) := by
  intro p q
  simp only [Language.kstar_eq_iSup_pow, Language.mem_iSup]
  constructor
  · rintro ⟨n, -, -, hn⟩
    obtain ⟨w, hw, hpq⟩ := (h.rounds n p q).mp hn
    exact ⟨w, ⟨n, hw⟩, hpq⟩
  · rintro ⟨w, ⟨n, hw⟩, hpq⟩
    exact ⟨n, Nat.zero_le n, nofun, (h.rounds n p q).mpr ⟨w, hw, hpq⟩⟩

theorem reads_set_star (s : Unicode.CharSet) (greedy : Bool) :
    Reads (Node.rep 0 none greedy (.set s)).Reach (letters s) := by
  rw [← kstar_letter]
  exact (reads_set s).star greedy

-- --------------------------------------------------------------------
-- Concatenations
-- --------------------------------------------------------------------

/-- One expression after the other. -/
def Chain : List Node → Place → Place → Prop
  | [] => fun p q => p = q
  | n :: rest => fun p q => ∃ m, n.Reach p m ∧ Chain rest m q

variable {n : Node} {ms ns : List Node} {p q : Place}

theorem chain_append : Chain (ms ++ ns) p q ↔ ∃ m, Chain ms p m ∧ Chain ns m q := by
  induction ms generalizing p with
  | nil => simp [Chain]
  | cons n rest ih =>
    simp only [List.cons_append, Chain, ih]
    constructor
    · rintro ⟨x, hx, m, hm, hq⟩
      exact ⟨m, ⟨x, hx, hm⟩, hq⟩
    · rintro ⟨m, ⟨x, hx, hm⟩, hq⟩
      exact ⟨x, hx, m, hm, hq⟩

theorem chain_singleton : Chain [n] p q ↔ n.Reach p q := by
  simp [Chain]

theorem reach_catAll : (State.catAll ns).Reach p q ↔ Chain ns p q := by
  cases ns with
  | nil => exact Iff.rfl
  | cons first rest =>
    rw [State.catAll]
    induction rest using List.reverseRecOn generalizing q with
    | nil => exact chain_singleton.symm
    | append_singleton rest n ih =>
      rw [List.foldl_append, ← List.cons_append, chain_append]
      simp only [List.foldl_cons, List.foldl_nil, Node.Reach, ih, chain_singleton]

theorem Reads.append (hms : Reads (Chain ms) K) (hns : Reads (Chain ns) L) :
    Reads (Chain (ms ++ ns)) (K * L) := by
  intro p q
  rw [chain_append]
  exact hms.comp hns p q

theorem Reads.singleton (h : Reads n.Reach L) : Reads (Chain [n]) L := by
  intro p q
  rw [chain_singleton]
  exact h p q

theorem reads_chars (cs : List Char) : Reads (Chain (cs.map Node.char)) {cs} := by
  induction cs with
  | nil => exact reads_eq
  | cons c rest ih =>
    have hcons : ({c :: rest} : Language Char) = {[c]} * {rest} := by
      ext w
      simp only [Language.mem_mul, mem_word, exists_eq_left, List.singleton_append]
      exact eq_comm
    rw [hcons]
    exact (reads_char c).comp ih

-- --------------------------------------------------------------------
-- Anchored texts
-- --------------------------------------------------------------------

variable {r : Regex} {s : String}

/-- What is read from the start of a text on begins the text. -/
theorem exists_isPrefix_of_chain {text : List Char} (hms : Reads (Chain ms) L) (hp : p.In text)
    (h : Chain (.look .textStart :: ms ++ ns) p q) : ∃ w ∈ L, w <+: text := by
  obtain ⟨m, ⟨_, ⟨rfl, hstart⟩, hms'⟩, -⟩ := chain_append.mp h
  obtain ⟨w, hw, hahead⟩ := (hms p m).mp hms'
  have hbefore : p.before = [] := by simpa [Look.holds] using hstart
  refine ⟨w, hw, m.after, ?_⟩
  rw [← hahead.after, ← hp.text, hbefore]
  rfl

theorem exists_isPrefix_of_isMatch (hroot : r.root = State.catAll (.look .textStart :: ms ++ ns))
    (hms : Reads (Chain ms) L) (h : r.isMatch s = true) : ∃ w ∈ L, w <+: s.toList := by
  obtain ⟨p, q, hp, hreach⟩ := isMatch_iff.mp h
  rw [hroot, reach_catAll] at hreach
  exact exists_isPrefix_of_chain hms hp hreach

/-- A pattern that is anchored on both sides matches the texts of its language, also if more
follows that takes nothing at the end of a text. -/
theorem isMatch_iff_of_anchored
    (hroot : r.root = State.catAll (.look .textStart :: ms ++ .look .textEnd :: ns))
    (hms : Reads (Chain ms) L) (hns : ∀ q : Place, q.after = [] → Chain ns q q) :
    r.isMatch s = true ↔ s.toList ∈ L := by
  constructor
  · intro h
    obtain ⟨p, q, hp, hreach⟩ := isMatch_iff.mp h
    rw [hroot, reach_catAll, chain_append] at hreach
    obtain ⟨m, ⟨_, ⟨rfl, hstart⟩, hms'⟩, _, ⟨rfl, hend⟩, -⟩ := hreach
    obtain ⟨w, hw, hahead⟩ := (hms p m).mp hms'
    have hbefore : p.before = [] := by simpa [Look.holds] using hstart
    have hafter : m.after = [] := by simpa [Look.holds] using hend
    have htext : s.toList = w := by
      rw [← hp.text, hahead.after, hbefore, hafter, List.reverse_nil, List.nil_append,
        List.append_nil]
    rwa [htext]
  · intro h
    have hahead := Place.ahead_between [] s.toList []
    rw [List.append_nil] at hahead
    have hreach : r.root.Reach (.between [] s.toList) (.between s.toList []) := by
      rw [hroot, reach_catAll, chain_append]
      exact ⟨_, ⟨_, ⟨rfl, rfl⟩, (hms _ _).mpr ⟨_, h, hahead⟩⟩, _, ⟨rfl, rfl⟩, hns _ rfl⟩
    exact isMatch_iff.mpr ⟨_, _, Place.in_between [] s.toList, hreach⟩

theorem isMatch_iff_mem_language
    (hroot : r.root = State.catAll (.look .textStart :: ms ++ [.look .textEnd]))
    (hms : Reads (Chain ms) L) : r.isMatch s = true ↔ s.toList ∈ L :=
  isMatch_iff_of_anchored hroot hms fun _ _ => rfl

/-- Two alternatives share the anchors of a pattern between them: the first is anchored at
the start of a text only, and the second at its end. -/
theorem isMatch_iff_of_alternatives
    (hroot : r.root = .alt (State.catAll (.look .textStart :: ms))
      (State.catAll (ns ++ [.look .textEnd])))
    (hms : Reads (Chain ms) K) (hns : Reads (Chain ns) L) :
    r.isMatch s = true ↔ (∃ w ∈ K, w <+: s.toList) ∨ ∃ w ∈ L, w <:+ s.toList := by
  constructor
  · intro h
    obtain ⟨p, q, hp, hreach⟩ := isMatch_iff.mp h
    rw [hroot] at hreach
    rcases hreach with hreach | hreach
    · rw [← List.append_nil ms, ← List.cons_append, reach_catAll] at hreach
      exact .inl (exists_isPrefix_of_chain hms hp hreach)
    · obtain ⟨m, hns', _, ⟨rfl, hend⟩, -⟩ := chain_append.mp (reach_catAll.mp hreach)
      obtain ⟨w, hw, hahead⟩ := (hns p m).mp hns'
      have hafter : m.after = [] := by simpa [Look.holds] using hend
      refine .inr ⟨w, hw, p.before.reverse, ?_⟩
      rw [← hp.text, hahead.after, hafter, List.append_nil]
  · rintro (⟨w, hw, after, htext⟩ | ⟨w, hw, before, htext⟩)
    · have hahead := Place.ahead_between [] w after
      rw [htext] at hahead
      have hreach : r.root.Reach (.between [] s.toList) (.between w after) := by
        rw [hroot]
        exact .inl (reach_catAll.mpr ⟨_, ⟨rfl, rfl⟩, (hms _ _).mpr ⟨w, hw, hahead⟩⟩)
      exact isMatch_iff.mpr ⟨_, _, Place.in_between [] s.toList, hreach⟩
    · have hahead := Place.ahead_between before w []
      rw [List.append_nil] at hahead
      have hreach : r.root.Reach (.between before w) (.between (before ++ w) []) := by
        rw [hroot]
        exact .inr (reach_catAll.mpr (chain_append.mpr
          ⟨_, (hns _ _).mpr ⟨w, hw, hahead⟩, _, ⟨rfl, rfl⟩, rfl⟩))
      exact isMatch_iff.mpr ⟨_, _, htext ▸ Place.in_between before w, hreach⟩

end PageRecords.Regex
