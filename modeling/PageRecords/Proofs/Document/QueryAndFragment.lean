import PageRecords.Proofs.Document.LiteralPaths
import PageRecords.Proofs.Regex.Extension
import PageRecords.Proofs.Regex.InContext.Run

/-!
# Query and fragment of a page

A derived pattern leaves query and fragment open where the path names neither, so an address
that it matches may go on with them (`query_and_fragment_are_optional`). Three things stand
against it. A path that asserts an end keeps the pattern from going on: it takes the pages
without query and fragment alone (`anchored_path_matches_whole_addresses`). A path that leaves
the modes for line ends on decides what the text of a query is. And an address that has a mark
already has it matched by the part for it.
-/

namespace PageRecords

namespace PagePattern

open Regex Regex.State
open Unicode (CharSet)

variable {d p u : String} {mark c : Char} {e text : List Char} {m q : Place}

-- --------------------------------------------------------------------
-- The tree of a derived pattern
-- --------------------------------------------------------------------

theorem deriveChars_eq (d p : List Char) (hquery : occursIn ['\\', '?'] p = false)
    (hfragment : '#' ∉ p) :
    ∃ site : List Char, (escapeChars site ++ (p ++ tail)).head? ≠ some '?' ∧
      deriveChars d p = '^' :: (origin.toList ++ (escapeChars site ++ (p ++ tail))) := by
  generalize hslash : (if (escapeChars d).getLast? != some '/' && p.head? != some '/' then ['/']
    else []) = slash
  have hsite : escapeChars (d ++ slash) = escapeChars d ++ slash := by
    rw [escapeChars_append, ← hslash]
    split <;> rfl
  refine ⟨d ++ slash, ?_, ?_⟩
  · intro hmark
    rw [List.head?_append] at hmark
    cases hfirst : (escapeChars (d ++ slash)).head? with
    | some c =>
      rw [hfirst] at hmark
      cases hmark
      exact head?_escapeChars_ne_mark _ hfirst
    | none =>
      -- Without a domain there is no slash only where the path brings it.
      have hlength := length_le_length_escapeChars (d ++ slash)
      rw [List.head?_eq_none_iff.mp hfirst, List.length_nil, Nat.le_zero, List.length_eq_zero_iff,
        List.append_eq_nil_iff] at hlength
      obtain ⟨rfl, rfl⟩ := hlength
      have hhead : p.head? = some '/' := by
        by_contra hne
        simp [escapeChars, hne] at hslash
      rw [hfirst, Option.none_or, List.head?_append, hhead] at hmark
      cases hmark
  · rw [deriveChars, hslash, hquery, List.contains_eq_mem, decide_eq_false hfragment]
    simp only [Bool.false_eq_true, if_false]
    rw [if_neg (getLast?_append_fragment _)]
    simp only [hsite, originAnchor_eq, tail, List.append_assoc, List.cons_append]

/-- Origin, domain and slash as pieces, the latest first. -/
def sitePieces (site : List Char) : List Piece :=
  (site.map literal).reverse ++ (originPieces ++ [startPiece])

theorem assert_sitePieces (site : List Char) : Assert (· = .textStart) (sitePieces site) := by
  refine assert_append.mpr ⟨?_, assert_append.mpr ⟨?_, ?_⟩⟩
  · intro p hp l hl
    obtain ⟨c, -, rfl⟩ := List.mem_map.mp (List.mem_reverse.mp hp)
    cases hl
  · simp [Assert, originPieces, literal, Piece.looks, Node.looks, Node.char]
  · simp [Assert, startPiece, Piece.looks, Node.looks]

theorem steps_site (site rest : List Char)
    (hrest : (escapeChars site ++ rest).head? ≠ some '?') :
    Steps (12 + site.length) (start ('^' :: (origin.toList ++ (escapeChars site ++ rest))))
      (top [] (sitePieces site) 0 rest) := by
  have hanchor : Steps 1 (start ('^' :: (origin.toList ++ (escapeChars site ++ rest))))
      (top [] [startPiece] 0 (origin.toList ++ (escapeChars site ++ rest))) := .one rfl rfl
  exact (hanchor.trans (steps_origin hrest)).trans (steps_escape site)

theorem follows_tail : Follows tail := ⟨rfl, by decide⟩

/-- The path is read in a derived pattern as it is alone, after the site and before the tail,
which is read in the modes that the path leaves on. -/
theorem exists_root_eq {own r : Regex} (hp : compile? p = some own)
    (hr : compile? (derive d p) = some r) (hquery : occursIn ['\\', '?'] p.toList = false)
    (hfragment : '#' ∉ p.toList) :
    ∃ (site : List Char) (st final : State) (n : Nat) (ps : List Piece),
      run? (p.toList.length + 1) (start p.toList) = some st ∧
      own.root = st.alternation.node.getD .empty ∧
      Bottom (sitePieces site) st.pieces st.branches ps final.branches ∧
      final.pieces = tailPieces st.flags n ++ ps ∧
      r.root = final.alternation.node.getD .empty := by
  obtain ⟨site, hhead, hderive⟩ := deriveChars_eq d.toList p.toList hquery hfragment
  obtain ⟨own, hown, rfl⟩ := Option.map_eq_some_iff.mp hp
  obtain ⟨root, hroot, rfl⟩ := Option.map_eq_some_iff.mp hr
  rw [derive, String.toList_ofList, hderive] at hroot
  obtain ⟨st, hrun, hgroups, hown⟩ := exists_run?_of_parse? hown
  obtain ⟨final, hfinal, hclosed, hroot⟩ := exists_run?_of_parse? hroot
  have haround : Around (sitePieces site) tail (start p.toList)
      (top [] (sitePieces site) 0 (p.toList ++ tail)) :=
    ⟨rfl, .bottom (.first []), rfl, rfl, rfl⟩
  obtain ⟨k, whole, hk, hsteps, hskip, hlayers, hflags⟩ :=
    steps_of_run? follows_tail haround hfragment (Nat.lt_succ_self _) hrun
  rw [hgroups] at hlayers
  generalize whole.groups = groups at hlayers
  cases hlayers with | bottom hbottom
  have hall := (steps_site site _ hhead).trans hsteps
  have hlength : 14 + (12 + site.length + k) ≤
      ('^' :: (origin.toList ++ (escapeChars site ++ (p.toList ++ tail)))).length + 1 := by
    have horigin : origin.toList.length = 14 := by decide
    have htail : tail.length = 14 := by decide
    have hsite := length_le_length_escapeChars site
    have hpath : k ≤ p.toList.length := hk
    simp only [List.length_cons, List.length_append]
    omega
  obtain ⟨fuel, hfuel⟩ := Nat.exists_eq_add_of_le' hlength
  rw [hfuel, ← Nat.add_assoc, hall] at hfinal
  obtain ⟨-, hbranches, hpieces⟩ := final_of_run? hskip hfinal hclosed
  rw [hflags] at hpieces
  exact ⟨site, st, final, _, _, hrun, hown, hbranches ▸ hbottom, hpieces, hroot⟩

-- --------------------------------------------------------------------
-- The parts in an address
-- --------------------------------------------------------------------

/-- Nothing, or a mark and what the dot takes in these modes. -/
def partWordsIn (f : Flags) (mark : Char) : Language Char := 1 + {[mark]} * letters (dotSet f)

theorem reads_partIn (f : Flags) (index : Nat) (mark : Char) :
    Reads (partNodeIn f index mark).Reach (partWordsIn f mark) := by
  have hbody : Reads (markedNodeIn f index mark).Reach ({[mark]} * letters (dotSet f)) :=
    (reads_char mark).comp (reads_set_star (dotSet f) _)
  exact hbody.optional _

/-- A part matches nothing where its mark is not. -/
theorem eq_of_reach_part {f : Flags} {index : Nat} (h : (partNodeIn f index mark).Reach m q)
    (hmark : mark ∉ m.after) : m = q := by
  obtain ⟨w, hw, hahead⟩ := (reads_partIn f index mark m q).mp h
  obtain rfl | hw := (Language.mem_add _ _ _).mp hw
  · exact Place.ahead_nil.mp hahead
  · obtain ⟨_, rfl, t, -, rfl⟩ := Language.mem_mul.mp hw
    rw [hahead.after] at hmark
    exact absurd List.mem_cons_self hmark

theorem reach_part_self (f : Flags) (index : Nat) (mark : Char) (m : Place) :
    (partNodeIn f index mark).Reach m m :=
  (reads_partIn f index mark m m).mpr
    ⟨[], (Language.mem_add _ _ _).mpr (.inl rfl), Place.ahead_nil.mpr rfl⟩

theorem reach_part_end {f : Flags} (index : Nat) (hafter : m.after = mark :: e)
    (he : e ∈ letters (dotSet f)) :
    ∃ q : Place, (partNodeIn f index mark).Reach m q ∧ q.after = [] := by
  refine ⟨⟨m.index + (mark :: e).length, (mark :: e).reverse ++ m.before, []⟩, ?_, rfl⟩
  refine (reads_partIn f index mark m _).mpr ⟨mark :: e, ?_, ?_, rfl, rfl⟩
  · exact (Language.mem_add _ _ _).mpr (.inr (Language.append_mem_mul (a := [mark]) rfl he))
  · rw [hafter, List.append_nil]

/-- The dot takes all of a line. -/
theorem contains_dotSet {f : Flags} (hline : c ≠ '\n')
    (hreturn : f.crlf = true → f.dotAll = false → c ≠ '\r') : (dotSet f).contains c = true := by
  have hbound := CharSet.toNat_lt_bound c
  rw [CharSet.bound] at hbound
  have hten : c.toNat ≠ 10 := fun heq => hline (Char.toNat_inj.mp heq)
  rw [dotSet]
  split
  · simp only [CharSet.contains, CharSet.all, CharSet.containsCode, CharSet.bound, Nat.not_lt_zero,
      if_false, Bool.or_false, decide_eq_true_eq]
    omega
  · next hall =>
    rw [Bool.not_eq_true] at hall
    split
    · next hcrlf =>
      have hthirteen : c.toNat ≠ 13 := fun heq => hreturn hcrlf hall (Char.toNat_inj.mp heq)
      have hranges : CharSet.complement ⟨[(10, 10), (13, 13)]⟩ =
          ⟨[(0, 9), (11, 12), (14, 0x10ffff)]⟩ := by decide
      rw [hranges, CharSet.contains]
      simp only [CharSet.containsCode]
      grind
    · have hranges : CharSet.complement ⟨[(10, 10)]⟩ = ⟨[(0, 9), (11, 0x10ffff)]⟩ := by decide
      rw [hranges, CharSet.contains]
      simp only [CharSet.containsCode]
      grind

/-- The modes that a path leaves on for what comes after it. -/
def modesAfter? (p : String) : Option Flags :=
  (run? (p.toList.length + 1) (start p.toList)).map (·.flags)

/-- Text that the dot takes after a path: no line feed is in it, and no carriage return if the
path leaves the mode on in which it ends a line, and the dot does not take line ends anyway. -/
structure InLine (p t : String) : Prop where
  noFeed : '\n' ∉ t.toList
  noReturn : ∀ f, modesAfter? p = some f → f.crlf = true → f.dotAll = false → '\r' ∉ t.toList

-- --------------------------------------------------------------------
-- Addresses that go on
-- --------------------------------------------------------------------

theorem Bottom.assert {P : Look → Prop} {before ps bs ps' bs' : List Piece}
    (h : Bottom before ps bs ps' bs') (hbefore : Assert P before) (hps : Assert P ps)
    (hbs : Assert P bs) : Assert P ps' ∧ Assert P bs' := by
  cases h with
  | first => exact ⟨assert_append.mpr ⟨hps, hbefore⟩, .nil⟩
  | later bs qs =>
    obtain ⟨hbs, hqs⟩ := assert_append.mp hbs
    refine ⟨hps, assert_append.mpr ⟨hbs, assert_cons.mpr ⟨Assert.concat ?_, .nil⟩⟩⟩
    refine assert_append.mpr ⟨fun p hp l hl => ?_, hbefore⟩
    exact hqs _ List.mem_cons_self l (mem_looks_concat.mpr ⟨p, hp, hl⟩)

/-- The last alternative of a derived pattern leads to a place of a text without marks. From
there the tail goes on into what a mark begins. -/
theorem chain_tail_extend {f : Flags} {n : Nat} (hmark : mark ∈ ['?', '#'])
    (he : e ∈ letters (dotSet f)) (hquery : '?' ∉ m.after) (hfragment : '#' ∉ m.after)
    (h : Chain ((tailPieces f n).reverse.filterMap (·.node)) m q) :
    ∃ q', Chain ((tailPieces f n).reverse.filterMap (·.node)) (m.extend (mark :: e)) q' := by
  obtain ⟨_, h₁, _, h₂, _, ⟨rfl, hend⟩, rfl⟩ := h
  obtain rfl := eq_of_reach_part h₁ hquery
  obtain rfl := eq_of_reach_part h₂ hfragment
  have hdollar : f.dollar.isEnd = true := by
    rw [Flags.dollar]
    split
    · split <;> rfl
    · rfl
  cases hafter : m.after with
  | nil =>
    have hafter' : (m.extend (mark :: e)).after = mark :: e := congrArg (· ++ mark :: e) hafter
    simp only [List.mem_cons, List.not_mem_nil, or_false] at hmark
    obtain rfl | rfl := hmark
    · obtain ⟨q', hpart, hq'⟩ := reach_part_end (n + 1) hafter' he
      exact ⟨q', q', hpart, q', reach_part_self _ _ _ _, q',
        ⟨rfl, Look.holds_of_after_nil hq' hdollar⟩, rfl⟩
    · obtain ⟨q', hpart, hq'⟩ := reach_part_end (n + 2) hafter' he
      exact ⟨q', _, reach_part_self _ _ _ _, q', hpart, q',
        ⟨rfl, Look.holds_of_after_nil hq' hdollar⟩, rfl⟩
  | cons c rest =>
    refine ⟨_, _, reach_part_self _ _ _ _, _, reach_part_self _ _ _ _, _, ⟨rfl, ?_⟩, rfl⟩
    exact (Look.holds_extend_of_after hafter hdollar).trans hend

/-- A match goes on into what a mark begins. -/
theorem isMatch_extend {st final : State} {before ps : List Piece} {r : Regex} {n : Nat}
    (hmark : mark ∈ ['?', '#']) (he : e ∈ letters (dotSet st.flags))
    (hlooks : ∀ l ∈ (st.alternation.node.getD .empty).looks, l.Ignores mark)
    (hbefore : Assert (· = .textStart) before)
    (hbottom : Bottom before st.pieces st.branches ps final.branches)
    (hpieces : final.pieces = tailPieces st.flags n ++ ps)
    (hroot : r.root = final.alternation.node.getD .empty)
    (hquery : '?' ∉ u.toList) (hfragment : '#' ∉ u.toList) (hu : r.isMatch u = true) :
    r.isMatch (u ++ String.ofList (mark :: e)) = true := by
  have hne : mark ≠ '\n' := by
    rintro rfl
    exact absurd hmark (by decide)
  have hstart : Assert (·.Ignores mark) before := by
    intro p hp l hl
    rw [hbefore p hp l hl]
    exact ⟨rfl, nofun⟩
  have hown : Assert (·.Ignores mark) st.pieces ∧ Assert (·.Ignores mark) st.branches :=
    ⟨fun p hp l hl => hlooks l (mem_looks_alternation.mpr (.inr ⟨p, hp, hl⟩)),
      fun b hb l hl => hlooks l (mem_looks_alternation.mpr (.inl ⟨b, hb, hl⟩))⟩
  obtain ⟨hps, hbs⟩ := Bottom.assert hbottom hstart hown.1 hown.2
  obtain ⟨p, q, hp, hreach⟩ := isMatch_iff.mp hu
  have hin : (p.extend (mark :: e)).In (u ++ String.ofList (mark :: e)).toList := by
    rw [String.toList_append, String.toList_ofList]
    exact hp.extend
  rw [hroot, reach_alternation] at hreach
  obtain ⟨b, hb, hreach⟩ | hchain := hreach
  · refine isMatch_iff.mpr ⟨_, q.extend (mark :: e), hin, ?_⟩
    rw [hroot]
    exact reach_alternation.mpr (.inl ⟨b, hb, Node.reach_extend hne (hbs b hb) hreach⟩)
  · rw [hpieces, List.reverse_append, List.filterMap_append, chain_append] at hchain
    obtain ⟨m, hm, htail⟩ := hchain
    have hmin : m.In u.toList := (Node.reach_forward _ _ p m hp (reach_catAll.mpr hm)).1
    have hsub : m.after ⊆ u.toList := by
      rw [← hmin.text]
      exact List.subset_append_right _ _
    have hnodes : ∀ n ∈ ps.reverse.filterMap (·.node), ∀ l ∈ n.looks, l.Ignores mark := by
      intro n hn l hl
      obtain ⟨piece, hpiece, hnode⟩ := List.mem_filterMap.mp hn
      refine hps piece (List.mem_reverse.mp hpiece) l ?_
      rwa [Piece.looks, hnode]
    obtain ⟨q', hq'⟩ := chain_tail_extend hmark he (fun h => hquery (hsub h))
      (fun h => hfragment (hsub h)) htail
    refine isMatch_iff.mpr ⟨_, q', hin, ?_⟩
    rw [hroot, reach_alternation, hpieces, List.reverse_append, List.filterMap_append, chain_append]
    exact .inr ⟨_, hm.extend hne hnodes, hq'⟩

end PagePattern

open PagePattern

/-- Query and fragment are optional on a derived pattern: if it matches an address without
either, it matches that address with a query, with a fragment and with both. The path may name
neither part and may not assert the end of a text or line. -/
theorem query_and_fragment_are_optional (d p u : String) (own r : Regex)
    (hp : Regex.compile? p = some own) (hr : Regex.compile? (derive d p) = some r)
    (hquery : occursIn ['\\', '?'] p.toList = false) (hfragment : '#' ∉ p.toList)
    (hends : ∀ l ∈ own.root.looks, l.isEnd = false)
    (hu : r.isMatch u = true) (huquery : '?' ∉ u.toList) (hufragment : '#' ∉ u.toList)
    (q f : String) (hq : InLine p q) (hf : InLine p f) :
    r.isMatch (u ++ "?" ++ q) = true ∧ r.isMatch (u ++ "#" ++ f) = true ∧
      r.isMatch (u ++ "?" ++ q ++ "#" ++ f) = true := by
  obtain ⟨site, st, final, n, ps, hrun, hroot, hbottom, hpieces, hwhole⟩ :=
    exists_root_eq hp hr hquery hfragment
  obtain ⟨root, hparse, rfl⟩ := Option.map_eq_some_iff.mp hp
  have hmodes : modesAfter? p = some st.flags := by rw [modesAfter?, hrun, Option.map_some]
  have hgoes : ∀ mark ∈ ['?', '#'], ∀ t : String, InLine p t →
      r.isMatch (u ++ String.singleton mark ++ t) = true := by
    intro mark hmark t ht
    have hlooks : ∀ l ∈ (st.alternation.node.getD .empty).looks, l.Ignores mark := by
      rw [← hroot]
      exact fun l hl => ⟨hends l hl, Regex.not_contains_word_of_parse? hparse hmark l hl⟩
    have htext : u ++ String.singleton mark ++ t = u ++ String.ofList (mark :: t.toList) := by
      rw [← String.toList_inj]
      simp
    rw [htext]
    refine isMatch_extend hmark (fun c hc => contains_dotSet ?_ ?_) hlooks (assert_sitePieces site)
      hbottom hpieces hwhole huquery hufragment hu
    · rintro rfl
      exact ht.noFeed hc
    · rintro hcrlf hall rfl
      exact ht.noReturn st.flags hmodes hcrlf hall hc
  refine ⟨hgoes '?' List.mem_cons_self q hq, hgoes '#' (by decide) f hf, ?_⟩
  -- A fragment after a query is, to the part for the query, text of the query.
  have hlong : InLine p (q ++ "#" ++ f) := by
    refine ⟨?_, fun modes hmodes hcrlf hall => ?_⟩
    · simp [hq.noFeed, hf.noFeed]
    · simp [hq.noReturn modes hmodes hcrlf hall, hf.noReturn modes hmodes hcrlf hall]
  have hboth := hgoes '?' List.mem_cons_self _ hlong
  rwa [← String.append_assoc, ← String.append_assoc] at hboth

/-- Both the path and the pattern derived from it compile. -/
theorem plain_address_goes_on :
    ∃ own r, Regex.compile? "/a" = some own ∧
      Regex.compile? (derive "example.com" "/a") = some r ∧
      occursIn ['\\', '?'] "/a".toList = false ∧ '#' ∉ "/a".toList ∧
      (∀ l ∈ own.root.looks, l.isEnd = false) ∧
      r.isMatch "https://example.com/a" = true ∧
      '?' ∉ "https://example.com/a".toList ∧ '#' ∉ "https://example.com/a".toList ∧
      InLine "/a" "b" ∧ InLine "/a" "top" ∧
      r.isMatch "https://example.com/a?b#top" = true := by
  have hderive : derive "example.com" "/a" = derive "example.com" (escape "/a") := by decide
  have hsize : Regex.WithinSize (derive "example.com" (escape "/a")).toList :=
    withinSize_of_length_le (by decide) (by decide)
  obtain ⟨r, hr, hmatch⟩ := literal_path_matches_its_pages "example.com" "/a" (by decide) hsize
  rw [← hderive] at hr
  have hu : r.isMatch "https://example.com/a" = true :=
    (hmatch _).mpr ⟨"https", by decide, "", "", by decide, .none, by decide⟩
  have hends : (Regex.compile? "/a").map (·.root.looks.all (!·.isEnd)) = some true := by
    decide +kernel
  obtain ⟨own, hown, hall⟩ := Option.map_eq_some_iff.mp hends
  have hends : ∀ l ∈ own.root.looks, l.isEnd = false := by simpa using hall
  have hquery : InLine "/a" "b" := ⟨by decide, fun _ _ _ _ => by decide⟩
  have hfragment : InLine "/a" "top" := ⟨by decide, fun _ _ _ _ => by decide⟩
  have hlonger := query_and_fragment_are_optional "example.com" "/a" "https://example.com/a" own r
    hown hr (by decide) (by decide) hends hu (by decide) (by decide) "b" "top" hquery hfragment
  exact ⟨own, r, hown, hr, by decide, by decide, hends, hu, by decide, by decide, hquery,
    hfragment, hlonger.2.2⟩

/-- A path that asserts the end after an escaped text takes no query and no fragment. -/
theorem anchored_path_matches_whole_addresses (d s : String) (hs : '#' ∉ s.toList)
    (hlength : d.length + s.length ≤ 70000) :
    ∃ r, Regex.compile? (derive d (escape s ++ "$")) = some r ∧
      ∀ u, r.isMatch u = true ↔ ∃ scheme ∈ ["http", "https"], ∃ host : String,
        '/' ∉ host.toList ∧ u = scheme ++ "://" ++ host ++ d ++ separator d s ++ s := by
  have hhash : '#' ∉ "$".toList := by decide
  obtain ⟨named, hderive⟩ := exists_derive_append_eq d hs hhash (by decide)
  have hfirst := denotes_origin.append (denotes_escape (site d s)) (head?_escapeChars_ne_mark _)
  have hsite := length_site_le d s
  have hmax : Regex.maxSize = 10485760 := rfl
  obtain ⟨r, hr, hmatch⟩ := Regex.exists_compile?_of_end_inside hfirst
    (denotes_optionalParts named) (nil_mem_optionalParts named) (by omega)
  have hcompile : Regex.compile? (derive d (escape s ++ "$")) = some r := by
    rw [hderive, ← hr]
    simp only [List.append_assoc, List.cons_append]
    rfl
  refine ⟨r, hcompile, fun u => ?_⟩
  rw [hmatch, mem_siteWords]
  simp only [String.toList_inj]

/-- The end of a text in the path keeps a query away, though the path names none. -/
theorem anchored_path_takes_no_query :
    (Regex.compile? "/a$").isSome ∧
      occursIn ['\\', '?'] "/a$".toList = false ∧ '#' ∉ "/a$".toList ∧
      ∃ r, Regex.compile? (derive "example.com" "/a$") = some r ∧
        r.isMatch "https://example.com/a" = true ∧
        '?' ∉ "https://example.com/a".toList ∧ '#' ∉ "https://example.com/a".toList ∧
        '\n' ∉ "https://example.com/a".toList ∧ '\n' ∉ "q".toList ∧
        r.isMatch ("https://example.com/a" ++ "?" ++ "q") = false := by
  have hpath : escape "/a" ++ "$" = "/a$" := by decide
  obtain ⟨r, hr, hmatch⟩ :=
    anchored_path_matches_whole_addresses "example.com" "/a" (by decide) (by decide)
  rw [hpath] at hr
  have hnot : r.isMatch ("https://example.com/a" ++ "?" ++ "q") = false := by
    rw [← Bool.not_eq_true, hmatch]
    rintro ⟨scheme, -, host, -, hu⟩
    have hlast : ("https://example.com/a" ++ "?" ++ "q").toList.getLast? = some 'q' := by decide
    have hown : "/a".toList.getLast? = some 'a' := by decide
    rw [hu, String.toList_append, List.getLast?_append, hown, Option.some_or] at hlast
    exact absurd hlast (by decide)
  exact ⟨by decide +kernel, by decide, by decide, r, hr,
    (hmatch _).mpr ⟨"https", by decide, "", by decide, by decide⟩, by decide, by decide,
    by decide, by decide, hnot⟩

end PageRecords
