import PageRecords.Proofs.Document.DerivedPattern

/-!
# Literal paths

A path that is an escaped text gives a pattern for just the pages whose address goes on
with the text after the domain (`literal_path_matches_its_pages`). Query and fragment stay
open where the text has none. A text that has both and ends in a dollar sign is left out:
after it the derived pattern is not anchored.
-/

namespace PageRecords

namespace PagePattern

open Regex

variable {d s t : String} {cs ds w : List Char} {c : Char}

-- --------------------------------------------------------------------
-- What escaping keeps
-- --------------------------------------------------------------------

theorem escapeChars_append (cs ds : List Char) :
    escapeChars (cs ++ ds) = escapeChars cs ++ escapeChars ds :=
  List.flatMap_append

theorem getLast?_escapeChars (cs : List Char) : (escapeChars cs).getLast? = cs.getLast? := by
  induction cs using List.reverseRecOn with
  | nil => rfl
  | append_singleton cs c _ =>
    rw [escapeChars_append, List.getLast?_append, List.getLast?_concat, escapeChars_cons]
    split <;> rfl

theorem head?_escapeChars (hc : isOperator c = false) :
    (escapeChars cs).head? = some c ↔ cs.head? = some c := by
  cases cs with
  | nil => exact Iff.rfl
  | cons d cs =>
    rw [escapeChars_cons]
    split
    · next hd =>
      have hslash : '\\' ≠ c := by
        rintro rfl
        cases hc
      have hdc : d ≠ c := by
        rintro rfl
        rw [hc] at hd
        cases hd
      simp [hslash, hdc]
    · exact Iff.rfl

theorem mem_escapeChars (hc : c ≠ '\\') : c ∈ escapeChars cs ↔ c ∈ cs := by
  induction cs with
  | nil => exact Iff.rfl
  | cons d cs ih =>
    rw [escapeChars_cons, List.mem_append, List.mem_cons, ih]
    split <;> simp [hc]

/-- An escaped text has an escaped question mark just where it had a question mark. -/
theorem occursIn_escapeChars : occursIn ['\\', '?'] (escapeChars cs) = true ↔ '?' ∈ cs := by
  induction cs with
  | nil => decide
  | cons c cs ih =>
    have hhead := head?_escapeChars_ne_mark cs
    rw [escapeChars_cons]
    split
    · next hc =>
      -- No mark is escaped by the operator itself, since an escaped text does not begin with one.
      have hsecond : ['\\', '?'].isPrefixOf (c :: escapeChars cs) = false := by
        cases hrest : escapeChars cs with
        | nil => simp [List.isPrefixOf]
        | cons e rest =>
          rw [hrest, List.head?_cons, Ne, Option.some.injEq] at hhead
          simp [List.isPrefixOf, Ne.symm hhead]
      have hfirst : ['\\', '?'].isPrefixOf ('\\' :: c :: escapeChars cs) = decide ('?' = c) := by
        simp [List.isPrefixOf, Bool.beq_eq_decide_eq]
      rw [List.cons_append, List.cons_append, List.nil_append, occursIn, occursIn, hfirst, hsecond,
        Bool.false_or, Bool.or_eq_true, decide_eq_true_iff, ih, List.mem_cons]
    · next hc =>
      have hslash : '\\' ≠ c := by
        rintro rfl
        exact hc rfl
      have hmark : '?' ≠ c := by
        rintro rfl
        exact hc rfl
      have hfirst : ['\\', '?'].isPrefixOf (c :: escapeChars cs) = false := by
        simp [List.isPrefixOf, hslash]
      rw [List.singleton_append, occursIn, hfirst, Bool.false_or, ih, List.mem_cons,
        or_iff_right hmark]

-- --------------------------------------------------------------------
-- The pattern of a literal path
-- --------------------------------------------------------------------

/-- The slash between domain and path where neither brings one. -/
def separator (d s : String) : String :=
  if d.toList.getLast? ≠ some '/' ∧ s.toList.head? ≠ some '/' then "/" else ""

/-- What follows the host in the addresses of a literal path. -/
def site (d s : String) : List Char := (d ++ separator d s ++ s).toList

/-- A derived pattern between its anchors. -/
def literalText (d s : String) : List Char :=
  origin.toList ++ escapeChars (site d s) ++
    (if '?' ∈ s.toList then [] else optionalQuery.toList) ++
    (if '#' ∈ s.toList then [] else optionalFragment.toList)

theorem escapeChars_site (d s : String) : escapeChars (site d s) =
    escapeChars d.toList ++
      (if (escapeChars d.toList).getLast? != some '/' && (escapeChars s.toList).head? != some '/'
        then ['/'] else []) ++ escapeChars s.toList := by
  have hseparator : escapeChars (separator d s).toList =
      if (escapeChars d.toList).getLast? != some '/' && (escapeChars s.toList).head? != some '/'
        then ['/'] else [] := by
    have hhead : (escapeChars s.toList).head? = some '/' ↔ s.toList.head? = some '/' :=
      head?_escapeChars (by decide)
    rw [getLast?_escapeChars, separator]
    simp only [bne_iff_ne, Bool.and_eq_true, Ne, hhead]
    split <;> rfl
  rw [site, String.toList_append, String.toList_append, escapeChars_append, escapeChars_append,
    hseparator]

theorem getLast?_append_fragment (front : List Char) :
    (front ++ optionalFragment.toList).getLast? ≠ some '$' := by
  rw [List.getLast?_append]
  nofun

theorem getLast?_literalText
    (hs : ¬(s.toList.getLast? = some '$' ∧ '?' ∈ s.toList ∧ '#' ∈ s.toList)) :
    ('^' :: literalText d s).getLast? ≠ some '$' := by
  rw [literalText, ← List.cons_append, ← List.cons_append, ← List.cons_append]
  split
  · next hquery =>
    split
    · next hfragment =>
      obtain ⟨last, hlast⟩ :=
        Option.isSome_iff_exists.mp (List.getLast?_isSome.mpr (List.ne_nil_of_mem hquery))
      rw [List.append_nil, List.append_nil, List.getLast?_append, getLast?_escapeChars, site,
        String.toList_append, List.getLast?_append, hlast, Option.some_or, Option.some_or,
        ← hlast]
      exact fun hdollar => hs ⟨hdollar, hquery, hfragment⟩
    · exact getLast?_append_fragment _
  · split
    · rw [List.append_nil, List.getLast?_append]
      nofun
    · exact getLast?_append_fragment _

theorem derive_escape (hs : ¬(s.toList.getLast? = some '$' ∧ '?' ∈ s.toList ∧ '#' ∈ s.toList)) :
    derive d (escape s) = String.ofList ('^' :: literalText d s ++ ['$']) := by
  have hhash : (escapeChars s.toList).contains '#' = true ↔ '#' ∈ s.toList := by
    rw [List.contains_iff_mem, mem_escapeChars (by decide)]
  have hwhole : originAnchor.toList ++ escapeChars d.toList ++
      (if (escapeChars d.toList).getLast? != some '/' && (escapeChars s.toList).head? != some '/'
        then ['/'] else []) ++ escapeChars s.toList ++
      (if '?' ∈ s.toList then [] else optionalQuery.toList) ++
      (if '#' ∈ s.toList then [] else optionalFragment.toList) = '^' :: literalText d s := by
    rw [literalText, escapeChars_site, originAnchor_eq]
    simp only [List.append_assoc, List.cons_append]
  rw [derive, deriveChars, escape, String.toList_ofList]
  simp only [occursIn_escapeChars, hhash]
  rw [hwhole, if_neg (getLast?_literalText hs)]

/-- More may come after an escaped text, as long as it names no fragment. -/
theorem exists_derive_append_eq {a rest : String} (d : String) (ha : '#' ∉ a.toList)
    (hrest : '#' ∉ rest.toList) (hhead : rest.toList.head? ≠ some '/') :
    ∃ named : Bool, derive d (escape a ++ rest) =
      String.ofList ('^' :: (origin.toList ++ escapeChars (site d a)) ++ rest.toList ++
        ((if named then [] else optionalQuery.toList) ++ optionalFragment.toList) ++ ['$']) := by
  have hhash : ¬(escapeChars a.toList ++ rest.toList).contains '#' = true := by
    simp [mem_escapeChars, ha, hrest]
  have hslash : (escapeChars a.toList ++ rest.toList).head? = some '/' ↔
      (escapeChars a.toList).head? = some '/' := by
    cases escapeChars a.toList with
    | nil => simp [hhead]
    | cons c cs => exact Iff.rfl
  refine ⟨occursIn ['\\', '?'] (escapeChars a.toList ++ rest.toList), ?_⟩
  rw [derive, deriveChars, String.toList_append, escape, String.toList_ofList, escapeChars_site,
    originAnchor_eq]
  generalize occursIn ['\\', '?'] (escapeChars a.toList ++ rest.toList) = named
  simp only [if_neg hhash, if_neg (getLast?_append_fragment _), bne_iff_ne, Bool.and_eq_true, Ne, hslash]
  simp only [List.append_assoc, List.cons_append]

-- --------------------------------------------------------------------
-- The addresses of a literal path
-- --------------------------------------------------------------------

/-- What may come after a literal path, by the parts that it does not name. -/
def tailWords (path : List Char) : Language Char :=
  (if '?' ∈ path then 1 else partWords '?') * (if '#' ∈ path then 1 else partWords '#')

theorem denotes_literalText (d s : String) : Denotes (literalText d s)
    (originWords * {site d s} * tailWords s.toList) (128 * (site d s).length + 6000) := by
  have hquery := denotes_query.ite ('?' ∈ s.toList)
  have hfragment := denotes_fragment.ite ('#' ∈ s.toList)
  have hqueryHead : (if '?' ∈ s.toList then [] else optionalQuery.toList).head? ≠ some '?' := by
    split <;> nofun
  have hfragmentHead :
      (if '#' ∈ s.toList then [] else optionalFragment.toList).head? ≠ some '?' := by
    split <;> nofun
  have hsite := denotes_origin.append (denotes_escape (site d s)) (head?_escapeChars_ne_mark _)
  have hwhole := (hsite.append hquery hqueryHead).append hfragment hfragmentHead
  have hsize : 128 * (site d s).length + 6000 =
      2000 + 128 * (site d s).length + 2000 + 2000 := by omega
  rw [tailWords, ← mul_assoc, hsize]
  exact hwhole

/-- What may come after a literal path: nothing, or within one line what a query or
a fragment begins that the path does not have itself. -/
inductive Tail (path : String) : String → Prop where
  | none : Tail path ""
  | query (text : String) (hpath : '?' ∉ path.toList) (hline : '\n' ∉ text.toList) :
    Tail path ("?" ++ text)
  | fragment (text : String) (hpath : '#' ∉ path.toList) (hline : '\n' ∉ text.toList) :
    Tail path ("#" ++ text)

theorem mem_optionalPart {p : Prop} [Decidable p] :
    w ∈ (if p then 1 else partWords c) ↔ w = [] ∨ ¬p ∧ ∃ t, '\n' ∉ t ∧ w = c :: t := by
  split
  · next hp => simp [hp, Language.mem_one]
  · next hp => simp [hp, mem_partWords]

theorem denotes_optionalParts (named : Bool) :
    Denotes ((if named then [] else optionalQuery.toList) ++ optionalFragment.toList)
      ((if named then 1 else partWords '?') * partWords '#') 4000 :=
  (denotes_query.ite (named = true)).append denotes_fragment nofun

theorem nil_mem_optionalParts (named : Bool) :
    [] ∈ (if named then 1 else partWords '?') * partWords '#' :=
  Language.mem_mul.mpr
    ⟨[], mem_optionalPart.mpr (.inl rfl), [], mem_partWords.mpr (.inl rfl), rfl⟩

theorem mem_tailWords : t.toList ∈ tailWords s.toList ↔ Tail s t := by
  rw [tailWords, Language.mem_mul]
  constructor
  · rintro ⟨query, hquery, fragment, hfragment, htail⟩
    rcases mem_optionalPart.mp hquery with rfl | ⟨hpath, x, hx, rfl⟩
    · rcases mem_optionalPart.mp hfragment with rfl | ⟨hpath, y, hy, rfl⟩
      · have ht : t = "" := by
          rw [← String.toList_inj, ← htail]
          rfl
        rw [ht]
        exact .none
      · have ht : t = "#" ++ String.ofList y := by
          rw [← String.toList_inj, ← htail]
          simp
        rw [ht]
        exact .fragment _ hpath (by rwa [String.toList_ofList])
    · have ht : t = "?" ++ String.ofList (x ++ fragment) := by
        rw [← String.toList_inj, ← htail]
        simp
      have hline : '\n' ∉ fragment := by
        rcases mem_optionalPart.mp hfragment with rfl | ⟨-, y, hy, rfl⟩
        · exact List.not_mem_nil
        · exact List.not_mem_cons_of_ne_of_not_mem (by decide) hy
      rw [ht]
      refine .query _ hpath ?_
      rw [String.toList_ofList, List.mem_append, not_or]
      exact ⟨hx, hline⟩
  · rintro (_ | ⟨x, hpath, hx⟩ | ⟨y, hpath, hy⟩)
    · exact ⟨[], mem_optionalPart.mpr (.inl rfl), [], mem_optionalPart.mpr (.inl rfl), rfl⟩
    · rw [String.toList_append]
      exact ⟨'?' :: x.toList, mem_optionalPart.mpr (.inr ⟨hpath, _, hx, rfl⟩), [],
        mem_optionalPart.mpr (.inl rfl), List.append_nil _⟩
    · rw [String.toList_append]
      exact ⟨[], mem_optionalPart.mpr (.inl rfl), '#' :: y.toList,
        mem_optionalPart.mpr (.inr ⟨hpath, _, hy, rfl⟩), rfl⟩

theorem mem_siteWords : w ∈ originWords * {site d s} ↔
    ∃ scheme ∈ ["http", "https"], ∃ host : String, '/' ∉ host.toList ∧
      w = (scheme ++ "://" ++ host ++ d ++ separator d s ++ s).toList := by
  have hlist : ∀ a : String,
      (a ++ d ++ separator d s ++ s).toList = a.toList ++ site d s := by
    intro a
    rw [site]
    simp only [String.toList_append, List.append_assoc]
  simp only [hlist]
  constructor
  · intro h
    obtain ⟨_, horigin, _, rfl, rfl⟩ := Language.mem_mul.mp h
    obtain ⟨scheme, hscheme, host, hhost, rfl⟩ := mem_originWords.mp horigin
    exact ⟨scheme, hscheme, host, hhost, rfl⟩
  · rintro ⟨scheme, hscheme, host, hhost, rfl⟩
    exact Language.append_mem_mul (mem_originWords.mpr ⟨scheme, hscheme, host, hhost, rfl⟩) rfl

theorem mem_pageWords {u : String} :
    u.toList ∈ originWords * {site d s} * tailWords s.toList ↔
      ∃ scheme ∈ ["http", "https"], ∃ host tail : String, '/' ∉ host.toList ∧ Tail s tail ∧
        u = scheme ++ "://" ++ host ++ d ++ separator d s ++ s ++ tail := by
  constructor
  · intro h
    obtain ⟨_, hsite, tail, htail, hu⟩ := Language.mem_mul.mp h
    obtain ⟨scheme, hscheme, host, hhost, rfl⟩ := mem_siteWords.mp hsite
    refine ⟨scheme, hscheme, host, String.ofList tail, hhost, ?_, ?_⟩
    · rw [← mem_tailWords, String.toList_ofList]
      exact htail
    · rw [← String.toList_inj, ← hu]
      simp only [String.toList_append, String.toList_ofList]
  · rintro ⟨scheme, hscheme, host, tail, hhost, htail, rfl⟩
    rw [String.toList_append]
    exact Language.append_mem_mul (mem_siteWords.mpr ⟨scheme, hscheme, host, hhost, rfl⟩)
      (mem_tailWords.mpr htail)

theorem length_site_le (d s : String) : (site d s).length ≤ d.length + s.length + 1 := by
  have hseparator : (separator d s).length ≤ 1 := by
    rw [separator]
    split <;> decide
  rw [site, String.length_toList, String.length_append, String.length_append]
  omega

/-- Texts of any usual length stay within the size of a pattern. -/
theorem withinSize_of_length_le
    (hs : ¬(s.toList.getLast? = some '$' ∧ '?' ∈ s.toList ∧ '#' ∈ s.toList))
    (hlength : d.length + s.length ≤ 80000) : WithinSize (derive d (escape s)).toList := by
  have hsite := length_site_le d s
  have hmax : maxSize = 10485760 := rfl
  rw [derive_escape hs, String.toList_ofList]
  exact withinSize_of_denotes (denotes_literalText d s) (by omega)

end PagePattern

open PagePattern

/-- The pattern of an escaped path compiles, and matches a text if and only if it is
a scheme, text without a slash, the domain, the path itself and a tail that the path
leaves open. Only the size of the pattern is assumed. -/
theorem literal_path_matches_its_pages (d s : String)
    (hs : ¬(s.toList.getLast? = some '$' ∧ '?' ∈ s.toList ∧ '#' ∈ s.toList))
    (hsize : Regex.WithinSize (derive d (escape s)).toList) :
    ∃ r, Regex.compile? (derive d (escape s)) = some r ∧
      ∀ u, r.isMatch u = true ↔
        ∃ scheme ∈ ["http", "https"], ∃ host tail : String, '/' ∉ host.toList ∧ Tail s tail ∧
          u = scheme ++ "://" ++ host ++ d ++ separator d s ++ s ++ tail := by
  rw [derive_escape hs, String.toList_ofList] at hsize
  obtain ⟨r, hr, hmatch⟩ := Regex.exists_compile?_of_denotes (denotes_literalText d s) hsize
  rw [derive_escape hs]
  exact ⟨r, hr, fun u => (hmatch u).trans mem_pageWords⟩

/-- A path full of operators, with a query of its own and no fragment. -/
theorem operators_in_a_path_match_themselves :
    ¬("c++/[a|b]?n=$1".toList.getLast? = some '$' ∧ '?' ∈ "c++/[a|b]?n=$1".toList ∧
      '#' ∈ "c++/[a|b]?n=$1".toList) ∧
    Regex.WithinSize (derive "example.com" (escape "c++/[a|b]?n=$1")).toList ∧
    ∃ r, Regex.compile? (derive "example.com" (escape "c++/[a|b]?n=$1")) = some r ∧
      r.isMatch "https://www.example.com/c++/[a|b]?n=$1#top" = true := by
  have hs : ¬("c++/[a|b]?n=$1".toList.getLast? = some '$' ∧ '?' ∈ "c++/[a|b]?n=$1".toList ∧
      '#' ∈ "c++/[a|b]?n=$1".toList) := by decide
  have hsize : Regex.WithinSize (derive "example.com" (escape "c++/[a|b]?n=$1")).toList :=
    withinSize_of_length_le hs (by decide)
  obtain ⟨r, hr, hmatch⟩ := literal_path_matches_its_pages "example.com" "c++/[a|b]?n=$1" hs hsize
  refine ⟨hs, hsize, r, hr, (hmatch _).mpr ⟨"https", by decide, "www.", "#top", by decide, ?_, ?_⟩⟩
  · exact .fragment "top" (by decide) (by decide)
  · decide

end PageRecords
