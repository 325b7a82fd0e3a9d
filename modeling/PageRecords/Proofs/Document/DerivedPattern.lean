import PageRecords.Proofs.Document.OptionalParts
import PageRecords.Proofs.Regex.Denotes

/-!
# What the parts of a derived pattern denote

A derived pattern has parts that do not depend on how the path is written: the origin, the
domain and the optional query and fragment. The origin denotes a scheme and a host
(`denotes_origin`), an escaped text itself (`denotes_escape`), and an optional part nothing
or what its mark begins in the same line (`denotes_query`, `denotes_fragment`).
-/

namespace PageRecords.PagePattern

open Regex Regex.State
open Unicode (CharSet)

variable {bs ps : List Piece} {n : Nat} {c : Char} {rest : List Char}

-- --------------------------------------------------------------------
-- Escaped texts
-- --------------------------------------------------------------------

theorem isOperator_iff : isOperator c = true ↔
    c ∈ ['\\', '^', '$', '.', '*', '+', '?', '(', ')', '[', ']', '{', '}', '|'] := by
  simp [isOperator]

theorem escape?_operator (hc : isOperator c = true) :
    escape? {} (c :: rest) = some (.literal c false, rest) := by
  rw [isOperator_iff] at hc
  simp only [List.mem_cons, List.not_mem_nil, or_false] at hc
  rcases hc with rfl | rfl | rfl | rfl | rfl | rfl | rfl | rfl | rfl | rfl | rfl | rfl | rfl | rfl
  all_goals rfl

theorem step?_operator (hc : isOperator c = true) (st : State) (hflags : st.flags = {}) :
    st.step? '\\' (c :: rest) = some (st.push (.char c) 0 rest) := by
  rw [step?, hflags, escape?_operator hc]
  rfl

/-- A character that is no operator has no meaning but itself. -/
theorem step?_plain (hc : ¬isOperator c = true) (st : State) (hflags : st.flags = {}) :
    st.step? c rest = some (st.push (.char c) 0 rest) := by
  rw [isOperator_iff] at hc
  simp only [List.mem_cons, List.not_mem_nil, or_false, not_or] at hc
  rw [step?]
  · rw [hflags]
    rfl
  all_goals simp [hc]

theorem escapeChars_cons (c : Char) (cs : List Char) : escapeChars (c :: cs) =
    (if isOperator c then ['\\', c] else [c]) ++ escapeChars cs :=
  List.flatMap_cons

theorem steps_escape (cs : List Char) :
    Steps cs.length (top bs ps n (escapeChars cs ++ rest))
      (top bs ((cs.map literal).reverse ++ ps) n rest) := by
  induction cs generalizing ps with
  | nil => exact .refl _
  | cons c cs ih =>
    have hfirst : Steps 1 (top bs ps n (escapeChars (c :: cs) ++ rest))
        (top bs (literal c :: ps) n (escapeChars cs ++ rest)) := by
      rw [escapeChars_cons]
      split
      · next hc => exact .one rfl (step?_operator hc _ rfl)
      · next hc => exact .one rfl (step?_plain hc _ rfl)
    have hrest := hfirst.trans ih
    rw [List.length_cons, Nat.add_comm, List.map_cons, List.reverse_cons, List.append_assoc]
    exact hrest

theorem head?_escapeChars_ne_mark (cs : List Char) : (escapeChars cs).head? ≠ some '?' := by
  cases cs with
  | nil => nofun
  | cons c cs =>
    rw [escapeChars_cons]
    split
    · nofun
    · next hc =>
      rintro hhead
      cases hhead
      exact hc rfl

theorem size_char_le (c : Char) : (Node.char c).size ≤ 128 := by
  have hbytes : c.utf8Size ≤ 4 := c.utf8Size_le_four
  have hsize : (Node.char c).size = 32 * (Char.ofNat c.toNat).utf8Size := by
    simp [Node.char, Node.size, setSize, CharSet.singleton, CharSet.range]
  rw [hsize, Char.ofNat_toNat]
  omega

theorem total_chars_le (cs : List Char) : total (cs.map Node.char) ≤ 128 * cs.length := by
  induction cs with
  | nil => exact Nat.le_refl 0
  | cons c cs ih =>
    have hfirst := size_char_le c
    rw [List.map_cons, total, List.length_cons]
    omega

theorem length_le_length_escapeChars (cs : List Char) : cs.length ≤ (escapeChars cs).length := by
  induction cs with
  | nil => exact Nat.le_refl 0
  | cons c cs ih =>
    have hfirst : 1 ≤ (if isOperator c then ['\\', c] else [c]).length := by
      split
      · exact Nat.le_succ 1
      · exact Nat.le_refl 1
    rw [escapeChars_cons, List.length_append, List.length_cons, Nat.add_comm]
    exact Nat.add_le_add hfirst ih

theorem denotes_escape (cs : List Char) : Denotes (escapeChars cs) {cs} (128 * cs.length) := by
  intro bs ps n rest _
  have hnodes : (cs.map literal).reverse.reverse.filterMap (·.node) = cs.map Node.char := by
    rw [List.reverse_reverse, List.filterMap_map]
    exact congrFun List.filterMap_eq_map cs
  refine ⟨cs.length, n, (cs.map literal).reverse, length_le_length_escapeChars cs,
    steps_escape cs, ?_, ?_, ?_⟩
  · rw [hnodes]
    exact reads_chars cs
  · intro q hq
    have hdepth : 0 + 2 ≤ maxDepth := by decide
    obtain ⟨c, -, rfl⟩ := List.mem_map.mp (List.mem_reverse.mp hq)
    exact hdepth
  · rw [cost, hnodes]
    exact total_chars_le cs

-- --------------------------------------------------------------------
-- Scheme and host
-- --------------------------------------------------------------------

def notSlash : CharSet := (CharSet.singleton '/').complement

theorem ofRanges_singleton (first last : Nat) :
    CharSet.ofRanges [(first, last)] = .range first last := by
  simp [CharSet.ofRanges, CharSet.joinRanges, CharSet.range]

theorem bracket?_notSlash :
    bracket? {} ('^' :: '/' :: ']' :: rest) = some (⟨notSlash, 1⟩, rest) := by
  have hmember : (Members.none.add (.singleton '/') 0).toSet = ⟨.singleton '/', 0⟩ := by
    rw [Members.toSet, Members.add]
    exact congrArg (Depth.mk · 0) (ofRanges_singleton _ _)
  have hclose : ∀ fuel, bracketBody? {} (fuel + 1) [.opened .none true]
      (Members.none.add (.singleton '/') 0) (']' :: rest) = some (⟨notSlash, 1⟩, rest) := by
    intro fuel
    rw [bracketBody?, hmember]
    rfl
  have hbody : ∀ fuel, bracketBody? {} (fuel + 2) [.opened .none true] .none
      ('/' :: ']' :: rest) = some (⟨notSlash, 1⟩, rest) := by
    intro fuel
    rw [bracketBody?]
    exact hclose fuel
  exact hbody (rest.length + 2)

/-- The pattern's origin without the anchor before it. -/
def origin : String := "https?://[^/]*"

theorem originAnchor_eq : originAnchor.toList = '^' :: origin.toList := rfl

/-- What the origin is read to, the latest first. -/
def originPieces : List Piece :=
  [⟨some (.rep 0 none true (.set notSlash)), 2⟩] ++ ("://".toList.map literal).reverse ++
    [⟨some (.rep 0 (some 1) true (.char 's')), 1⟩] ++ ("http".toList.map literal).reverse

theorem steps_origin (hrest : rest.head? ≠ some '?') :
    Steps 11 (top bs ps n (origin.toList ++ rest)) (top bs (originPieces ++ ps) n rest) := by
  have hhttp : ∀ ps, Steps 4 (top bs ps n (origin.toList ++ rest))
      (top bs (("http".toList.map literal).reverse ++ ps) n ("s?://[^/]*".toList ++ rest)) :=
    fun ps => steps_escape "http".toList
  have hs : ∀ ps, Steps 2 (top bs ps n ("s?://[^/]*".toList ++ rest))
      (top bs (⟨some (.rep 0 (some 1) true (.char 's')), 1⟩ :: ps) n
        ("://[^/]*".toList ++ rest)) := by
    intro ps
    have hletter : Steps 1 (top bs ps n ("s?://[^/]*".toList ++ rest))
        (top bs (literal 's' :: ps) n ("?://[^/]*".toList ++ rest)) := .one rfl rfl
    exact hletter.trans (.one rfl (step?_optional rfl nofun))
  have hslashes : ∀ ps, Steps 3 (top bs ps n ("://[^/]*".toList ++ rest))
      (top bs (("://".toList.map literal).reverse ++ ps) n ("[^/]*".toList ++ rest)) :=
    fun ps => steps_escape "://".toList
  have hset : ∀ ps, Steps 1 (top bs ps n ("[^/]*".toList ++ rest))
      (top bs (⟨some (.set notSlash), 1⟩ :: ps) n ('*' :: rest)) := by
    refine fun ps => .one rfl ?_
    have hstep : ∀ st : State, st.flags = {} → st.step? '[' ('^' :: '/' :: ']' :: '*' :: rest) =
        some (st.push (.set notSlash) 1 ('*' :: rest)) := by
      intro st hflags
      rw [step?, hflags, bracket?_notSlash]
      rfl
    exact hstep _ rfl
  have hhost : ∀ ps, Steps 1 (top bs (⟨some (.set notSlash), 1⟩ :: ps) n ('*' :: rest))
      (top bs (⟨some (.rep 0 none true (.set notSlash)), 2⟩ :: ps) n rest) :=
    fun ps => .one rfl (step?_star rfl hrest)
  exact (hhttp _).trans ((hs _).trans ((hslashes _).trans ((hset _).trans (hhost _))))

/-- Scheme and host of an address, without a slash in the host. -/
def originWords : Language Char :=
  {"http".toList} * (1 + {['s']}) * {"://".toList} * letters notSlash

theorem reads_origin : Reads (Chain (originPieces.reverse.filterMap (·.node))) originWords := by
  have hnodes : originPieces.reverse.filterMap (·.node) = "http".toList.map .char ++
      [.rep 0 (some 1) true (.char 's')] ++ "://".toList.map .char ++
        [.rep 0 none true (.set notSlash)] := rfl
  rw [hnodes]
  exact (((reads_chars _).append ((reads_char 's').optional true).singleton).append
    (reads_chars _)).append (reads_set_star notSlash true).singleton

theorem denotes_origin : Denotes origin.toList originWords 2000 := by
  intro bs ps n rest hrest
  exact ⟨11, n, originPieces, by decide, steps_origin hrest, reads_origin, by decide, by decide⟩

theorem mem_originWords {w : List Char} :
    w ∈ originWords ↔ ∃ scheme ∈ ["http", "https"], ∃ host : String,
      '/' ∉ host.toList ∧ w = (scheme ++ "://" ++ host).toList := by
  constructor
  · intro h
    obtain ⟨_, hslashes, host, hhost, rfl⟩ := Language.mem_mul.mp h
    obtain ⟨_, hscheme, _, rfl, rfl⟩ := Language.mem_mul.mp hslashes
    obtain ⟨_, rfl, s, hs, rfl⟩ := Language.mem_mul.mp hscheme
    have hhost : '/' ∉ (String.ofList host).toList := by
      rw [String.toList_ofList]
      exact mem_letters_complement.mp hhost
    rcases (Language.mem_add _ _ _).mp hs with rfl | rfl
    · exact ⟨"http", by simp, String.ofList host, hhost, by simp⟩
    · exact ⟨"https", by simp, String.ofList host, hhost, by simp⟩
  · rintro ⟨scheme, hscheme, host, hhost, rfl⟩
    have hs : scheme.toList ∈ ({"http".toList} * (1 + {['s']}) : Language Char) := by
      simp only [List.mem_cons, List.not_mem_nil, or_false] at hscheme
      rcases hscheme with rfl | rfl
      · exact Language.mem_mul.mpr ⟨_, rfl, [], (Language.mem_add _ _ _).mpr (.inl rfl), rfl⟩
      · exact Language.mem_mul.mpr ⟨_, rfl, ['s'], (Language.mem_add _ _ _).mpr (.inr rfl), rfl⟩
    rw [String.toList_append, String.toList_append]
    exact Language.append_mem_mul (Language.append_mem_mul hs rfl)
      (mem_letters_complement.mpr hhost)

-- --------------------------------------------------------------------
-- Query and fragment
-- --------------------------------------------------------------------

def inLine : CharSet := (CharSet.singleton '\n').complement

/-- A mark and the rest of the line. -/
def markedNode (index : Nat) (mark : Char) : Node :=
  .group index (.cat (.char mark) (.rep 0 none true (.set inLine)))

/-- The same, or nothing. -/
def partNode (index : Nat) (mark : Char) : Node := .rep 0 (some 1) true (markedNode index mark)

theorem steps_query (hrest : rest.head? ≠ some '?') :
    Steps 6 (top bs ps n (optionalQuery.toList ++ rest))
      (top bs (⟨some (partNode (n + 1) '?'), 4⟩ :: ps) (n + 1) rest) :=
  steps_query_in rfl rfl hrest

theorem steps_fragment (hrest : rest.head? ≠ some '?') :
    Steps 6 (top bs ps n (optionalFragment.toList ++ rest))
      (top bs (⟨some (partNode (n + 1) '#'), 4⟩ :: ps) (n + 1) rest) :=
  steps_fragment_in rfl rfl rfl hrest

/-- Nothing, or a mark and text within one line. -/
def partWords (mark : Char) : Language Char := 1 + {[mark]} * letters inLine

theorem reads_part (index : Nat) (mark : Char) :
    Reads (Chain [partNode index mark]) (partWords mark) := by
  have hbody : Reads (markedNode index mark).Reach ({[mark]} * letters inLine) :=
    (reads_char mark).comp (reads_set_star inLine true)
  exact (hbody.optional true).singleton

theorem mem_partWords {mark : Char} {w : List Char} :
    w ∈ partWords mark ↔ w = [] ∨ ∃ t, '\n' ∉ t ∧ w = mark :: t := by
  rw [partWords, Language.mem_add, Language.mem_one, Language.mem_mul]
  refine or_congr Iff.rfl ?_
  constructor
  · rintro ⟨_, rfl, t, ht, rfl⟩
    exact ⟨t, mem_letters_complement.mp ht, rfl⟩
  · rintro ⟨t, ht, rfl⟩
    exact ⟨[mark], rfl, t, mem_letters_complement.mpr ht, rfl⟩

theorem express_part (index : Nat) (mark : Char) :
    Express [⟨some (partNode index mark), 4⟩] (partWords mark) 2000 := by
  refine ⟨reads_part index mark, ?_, ?_⟩
  · intro q hq
    have hdepth : 4 + 2 ≤ maxDepth := by decide
    rw [List.mem_singleton.mp hq]
    exact hdepth
  · have hmark := size_char_le mark
    have hline : setSize inLine = 932 := by decide
    have hsize : (partNode index mark).size =
        (Node.char mark).size + (setSize inLine + 40) + 64 + 40 := by
      simp [partNode, markedNode, Node.size]
    have hsum : (partNode index mark).size + 0 ≤ 2000 := by omega
    exact hsum

theorem denotes_query : Denotes optionalQuery.toList (partWords '?') 2000 := by
  intro bs ps n rest hrest
  exact ⟨6, n + 1, _, by decide, steps_query hrest, express_part (n + 1) '?'⟩

theorem denotes_fragment : Denotes optionalFragment.toList (partWords '#') 2000 := by
  intro bs ps n rest hrest
  exact ⟨6, n + 1, _, by decide, steps_fragment hrest, express_part (n + 1) '#'⟩

end PageRecords.PagePattern
