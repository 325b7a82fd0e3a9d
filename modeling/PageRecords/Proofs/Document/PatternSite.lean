import PageRecords.Proofs.Document.LiteralPaths

/-!
# Which site a derived pattern is bound to

A path is put behind origin and domain as it is written, without parentheses. As long as
that does not make the pattern an alternation, every address that it matches is one of the
site (`pattern_stays_on_site`). A bar outside of all groups parts the pattern: what comes
after it is bound to no site (`second_alternative_matches_anywhere`).
-/

namespace PageRecords

namespace PagePattern

open Regex

variable {p : String} {c : Char} {cs : List Char}

/-- Scheme, text without a slash and the domain come first. -/
def OnSite (d u : String) : Prop :=
  ∃ scheme ∈ ["http", "https"], ∃ host rest : String,
    '/' ∉ host.toList ∧ u = scheme ++ "://" ++ host ++ d ++ rest

theorem step?_quantifier_start (pattern : List Char) (hc : State.isQuantifier c = true) :
    (State.start pattern).step? c cs = none := by
  have hrepeat : ∀ least most rest, (State.start pattern).repeatLast? least most rest = none :=
    fun _ _ _ => rfl
  simp only [State.isQuantifier, List.mem_cons, List.not_mem_nil, or_false, decide_eq_true_eq] at hc
  rcases hc with rfl | rfl | rfl | rfl
  · exact hrepeat 0 (some 1) cs
  · exact hrepeat 0 none cs
  · exact hrepeat 1 none cs
  · simp only [State.step?, Option.bind_eq_bind, hrepeat]
    exact Option.bind_fun_none _

/-- A pattern that begins with a quantifier is malformed. -/
theorem isQuantifier_head (hp : (compile? p).isSome) (hhead : p.toList = c :: cs) :
    State.isQuantifier c = false := by
  by_contra hc
  rw [Bool.not_eq_false] at hc
  have hrun : State.run? (p.toList.length + 1) (.start p.toList) =
      ((State.start p.toList).step? c cs).bind (State.run? p.toList.length) := by
    rw [State.run?]
    have hskip : skip (State.start p.toList).flags (State.start p.toList).rest = c :: cs := hhead
    rw [hskip]
  rw [step?_quantifier_start _ hc, Option.bind_none] at hrun
  rw [compile?, parse?, hrun] at hp
  cases hp

/-- What comes after the domain in a derived pattern does not repeat it. -/
theorem exists_derive_eq (d : String) (hp : (compile? p).isSome) :
    ∃ c rest, State.isQuantifier c = false ∧ derive d p =
      String.ofList ('^' :: (origin.toList ++ escapeChars d.toList) ++ c :: rest) := by
  generalize hslash : (if (escapeChars d.toList).getLast? != some '/' &&
    p.toList.head? != some '/' then ['/'] else []) = slash
  generalize hquery : (if occursIn ['\\', '?'] p.toList then [] else optionalQuery.toList) = query
  have hderive : ∃ last, deriveChars d.toList p.toList =
      '^' :: (origin.toList ++ escapeChars d.toList) ++
        (slash ++ (p.toList ++ (query ++ last))) := by
    rw [deriveChars, hslash, hquery, originAnchor_eq]
    generalize (if p.toList.contains '#' then [] else optionalFragment.toList) = fragment
    split
    · exact ⟨fragment, by simp only [List.append_assoc, List.cons_append]⟩
    · exact ⟨fragment ++ ['$'], by simp only [List.append_assoc, List.cons_append]⟩
  obtain ⟨last, hderive⟩ := hderive
  have hafter : ∃ c rest, State.isQuantifier c = false ∧
      slash ++ (p.toList ++ (query ++ last)) = c :: rest := by
    cases hpath : p.toList with
    | nil =>
      rw [hpath] at hslash hquery
      subst hslash hquery
      split
      · exact ⟨'/', _, rfl, rfl⟩
      · exact ⟨'(', _, rfl, rfl⟩
    | cons c cs =>
      subst hslash
      split
      · exact ⟨'/', _, rfl, rfl⟩
      · exact ⟨c, _, isQuantifier_head hp hpath, rfl⟩
  obtain ⟨c, rest, hc, hafter⟩ := hafter
  exact ⟨c, rest, hc, by rw [derive, hderive, hafter]⟩

-- --------------------------------------------------------------------
-- Alternatives
-- --------------------------------------------------------------------

theorem exists_derive_alternatives_eq {d a b : String} (ha : '#' ∉ a.toList)
    (hb : '#' ∉ b.toList) :
    ∃ named : Bool, derive d (escape a ++ "|" ++ escape b) =
      String.ofList ('^' :: (origin.toList ++ escapeChars (site d a)) ++
        '|' :: (escapeChars b.toList ++ ((if named then [] else optionalQuery.toList) ++
          optionalFragment.toList) ++ ['$'])) := by
  have hsecond : ("|" ++ escape b).toList = '|' :: escapeChars b.toList := by simp [escape]
  have hhash : '#' ∉ ("|" ++ escape b).toList := by
    simp [hsecond, mem_escapeChars, hb]
  have hhead : ("|" ++ escape b).toList.head? ≠ some '/' := by simp [hsecond]
  obtain ⟨named, hderive⟩ := exists_derive_append_eq d ha hhash hhead
  refine ⟨named, ?_⟩
  rw [String.append_assoc, hderive, hsecond]
  simp only [List.append_assoc, List.cons_append]

/-- After a bar the pattern has neither scheme nor host nor domain: it matches every text
that ends as what is written there. -/
theorem second_alternative_matches_anywhere (d a b : String) (ha : '#' ∉ a.toList)
    (hb : '#' ∉ b.toList) (hlength : d.length + a.length + b.length ≤ 70000) :
    ∃ r, compile? (derive d (escape a ++ "|" ++ escape b)) = some r ∧
      ∀ u : String, b.toList <:+ u.toList → r.isMatch u = true := by
  obtain ⟨named, hderive⟩ := exists_derive_alternatives_eq (d := d) ha hb
  have hfirst := denotes_origin.append (denotes_escape (site d a)) (head?_escapeChars_ne_mark _)
  have hhead : ((if named then [] else optionalQuery.toList) ++
      optionalFragment.toList).head? ≠ some '?' := by
    split <;> nofun
  have hsecond := (denotes_escape b.toList).append (denotes_optionalParts named) hhead
  have hsite := length_site_le d a
  have hmax : maxSize = 10485760 := rfl
  have hb : b.toList.length = b.length := String.length_toList
  obtain ⟨r, hr, hmatch⟩ := exists_compile?_of_alternatives hfirst hsecond (by omega)
  refine ⟨r, hderive ▸ hr, fun u hu => (hmatch u).mpr (.inr ⟨b.toList, ?_, hu⟩)⟩
  exact Language.mem_mul.mpr
    ⟨b.toList, rfl, [], nil_mem_optionalParts named, List.append_nil _⟩

end PagePattern

open PagePattern

/-- Every address that a derived pattern matches begins with scheme, host and domain, if
the path compiles and does not make the pattern an alternation. -/
theorem pattern_stays_on_site (d p u : String) (r : Regex) (hp : (Regex.compile? p).isSome)
    (hr : Regex.compile? (derive d p) = some r) (hroot : ∀ a b, r.root ≠ .alt a b)
    (hu : r.isMatch u = true) : OnSite d u := by
  obtain ⟨c, rest, hc, hderive⟩ := exists_derive_eq d hp
  have hdomain := denotes_origin.append (denotes_escape d.toList) (head?_escapeChars_ne_mark _)
  rw [hderive] at hr
  obtain ⟨_, hw, after, hafter⟩ := Regex.exists_isPrefix_of_denotes hdomain hc hr hroot hu
  obtain ⟨_, horigin, _, rfl, rfl⟩ := Language.mem_mul.mp hw
  obtain ⟨scheme, hscheme, host, hhost, rfl⟩ := mem_originWords.mp horigin
  refine ⟨scheme, hscheme, host, String.ofList after, hhost, ?_⟩
  rw [← String.toList_inj, ← hafter]
  simp only [String.toList_append, String.toList_ofList]

theorem plain_path_stays_on_site :
    (Regex.compile? "/a").isSome ∧
      ∃ r, Regex.compile? (derive "example.com" "/a") = some r ∧ (∀ a b, r.root ≠ .alt a b) ∧
        r.isMatch "https://www.example.com/a?b" = true ∧
        OnSite "example.com" "https://www.example.com/a?b" := by
  have hpath : (Regex.compile? "/a").isSome := by decide +kernel
  have hderive : derive "example.com" "/a" =
      String.ofList ('^' :: literalText "example.com" "/a" ++ ['$']) := by decide
  have hsize := Regex.withinSize_of_denotes (denotes_literalText "example.com" "/a") (by decide)
  obtain ⟨ms, hms, hr⟩ := Regex.exists_compile?_eq (denotes_literalText "example.com" "/a") hsize
  rw [← hderive] at hr
  have hroot := fun a b => Regex.catAll_ne_alt (.look .textStart) (.look .textEnd) ms a b
  have hmatch : Regex.isMatch ⟨derive "example.com" "/a", _⟩ "https://www.example.com/a?b" = true :=
    (Regex.isMatch_iff_mem_language rfl hms).mpr (mem_pageWords.mpr
      ⟨"https", by decide, "www.", "?b", by decide, .query "b" (by decide) (by decide), by decide⟩)
  exact ⟨hpath, _, hr, hroot, hmatch,
    pattern_stays_on_site "example.com" "/a" _ _ hpath hr hroot hmatch⟩

/-- The path compiles on its own, and so does the derived pattern. -/
theorem alternative_leaves_the_site :
    (Regex.compile? "/a|/b").isSome ∧
      ∃ r, Regex.compile? (derive "example.com" "/a|/b") = some r ∧
        r.isMatch "https://evil.org/b" = true ∧ ¬OnSite "example.com" "https://evil.org/b" := by
  have hpath : (Regex.compile? "/a|/b").isSome := by decide +kernel
  have hnot : ¬OnSite "example.com" "https://evil.org/b" := by
    rintro ⟨scheme, -, host, rest, -, hu⟩
    have hmem : 'x' ∈ "https://evil.org/b".toList := by
      rw [hu]
      simp only [String.toList_append, List.mem_append]
      exact .inl (.inr (by decide))
    exact absurd hmem (by decide)
  obtain ⟨r, hr, hmatch⟩ := second_alternative_matches_anywhere "example.com" "/a" "/b"
    (by decide) (by decide) (by decide)
  exact ⟨hpath, r, hr, hmatch _ (by decide), hnot⟩

end PageRecords
