import PageRecords.Proofs.Regex.InContext.Bracket
import PageRecords.Proofs.Unicode.CharSets

/-!
# Constructs before more text

Every construct of a pattern that is complete is read the same before text that follows the
pattern: `construct?_carries`. What follows an opening parenthesis is told apart by its first
three characters, none of which the text has at its start.
-/

namespace PageRecords.Regex

variable {f f' : Flags} {s cs rest more : List Char} {c d : Char}

-- --------------------------------------------------------------------
-- Counts
-- --------------------------------------------------------------------

theorem not_contains_space_paren : Unicode.Class.space.contains '(' = false := by
  rw [Bool.eq_false_iff, Ne, Unicode.Class.space, Unicode.CharSet.contains_ofRanges]
  decide

section

variable (hs : Follows s)

include hs

theorem Follows.dropWhile_append {p : Char → Bool} (hp : p '(' = false) :
    (cs ++ s).dropWhile p = cs.dropWhile p ++ s := by
  obtain ⟨t, rfl⟩ := hs.exists_eq
  rw [List.dropWhile_append]
  split
  · next hempty =>
    rw [List.isEmpty_iff] at hempty
    rw [hempty, List.dropWhile_cons_of_neg (by simp [hp])]
    rfl
  · rfl

theorem digits_append {fuel fuel' : Nat} (hfuel : cs.length < fuel) (hfuel' : cs.length < fuel')
    (hhash : '#' ∉ cs) :
    (decimal?.digits f fuel cs).2 <:+ cs ∧
      decimal?.digits f fuel' (cs ++ s) =
        ((decimal?.digits f fuel cs).1, (decimal?.digits f fuel cs).2 ++ s) := by
  induction fuel generalizing cs fuel' with
  | zero => cases hfuel
  | succ fuel ih =>
    obtain ⟨fuel', rfl⟩ := Nat.exists_eq_add_of_lt (Nat.zero_lt_of_lt hfuel')
    rw [Nat.zero_add] at hfuel' ⊢
    cases cs with
    | nil =>
      obtain ⟨t, rfl⟩ := hs.exists_eq
      exact ⟨List.suffix_refl _, rfl⟩
    | cons c cs =>
      have hcs := noHash_of_suffix (List.suffix_cons c cs) hhash
      rw [List.cons_append, decimal?.digits, decimal?.digits]
      split
      · have hskip := skip_suffix f cs
        have hlength := hskip.length_le
        rw [List.length_cons] at hfuel hfuel'
        have hless : (skip f cs).length < fuel := by omega
        have hless' : (skip f cs).length < fuel' := by omega
        obtain ⟨hsuffix, hdigits⟩ := ih hless hless' (noHash_of_suffix hskip hcs)
        rw [skip_append hs hcs, hdigits]
        exact ⟨suffix_cons_of c (hsuffix.trans hskip), rfl⟩
      · exact ⟨List.suffix_refl _, rfl⟩

theorem decimal?_carries : Carries s (decimal? f) (decimal? f) := by
  intro cs x rest hhash h
  have hblank : (cs ++ s).dropWhile (Unicode.Class.space.contains ·) =
      cs.dropWhile (Unicode.Class.space.contains ·) ++ s :=
    hs.dropWhile_append not_contains_space_paren
  have hsuffix := List.dropWhile_suffix (l := cs) (Unicode.Class.space.contains ·)
  unfold decimal? at h ⊢
  dsimp only at h ⊢
  rw [hblank]
  generalize cs.dropWhile (Unicode.Class.space.contains ·) = ds at h hsuffix
  have hds := noHash_of_suffix hsuffix hhash
  have hless : ds.length < (ds ++ s).length + 1 := by
    rw [List.length_append]
    omega
  obtain ⟨hdigits, hdigits'⟩ := digits_append hs (f := f) (Nat.lt_succ_self ds.length) hless hds
  rw [hdigits']
  generalize decimal?.digits f (ds.length + 1) ds = found at h hdigits
  obtain ⟨number, after⟩ := found
  dsimp only at h hdigits ⊢
  split at h
  · cases h
  · next hsmall =>
    cases h
    have hafter := List.dropWhile_suffix (l := after) (Unicode.Class.space.contains ·)
    rw [if_neg hsmall, hs.dropWhile_append not_contains_space_paren,
      skip_append hs (noHash_of_suffix (hafter.trans hdigits) hds)]
    exact ⟨(((skip_suffix f _).trans hafter).trans hdigits).trans hsuffix, rfl⟩

theorem counted?_append {least : Nat} {most : Option Nat} (hhash : '#' ∉ cs)
    (h : counted? f cs = some (least, most, rest)) :
    rest <:+ cs ∧ counted? f (cs ++ s) = some (least, most, rest ++ s) := by
  have hsuffix := skip_suffix f cs
  have hskip := noHash_of_suffix hsuffix hhash
  unfold counted? at h ⊢
  rw [skip_append hs hhash]
  split at h
  · cases h
  · next hne =>
    obtain ⟨⟨least', after⟩, hleast, h⟩ := Option.bind_eq_some_iff.mp h
    obtain ⟨hafter, hleast'⟩ := decimal?_carries hs _ _ _ hskip hleast
    have hhafter := noHash_of_suffix hafter hskip
    split
    · next heq => exact (hne (List.append_eq_nil_iff.mp heq).1).elim
    · rw [hleast', Option.bind_eq_bind, Option.bind_some]
      dsimp only at h ⊢
      split at h
      · next more =>
        have hmore := noHash_of_suffix (List.suffix_cons _ more) hhafter
        have hskip' := (skip_suffix f more).trans ((List.suffix_cons _ more).trans hafter)
        simp only [List.cons_append, skip_append hs hmore]
        split at h
        · next tail htail =>
          cases h
          rw [htail] at hskip' ⊢
          exact ⟨((List.suffix_cons _ _).trans hskip').trans hsuffix, rfl⟩
        · next hclose =>
          obtain ⟨⟨most', last⟩, hmost, h⟩ := Option.bind_eq_some_iff.mp h
          obtain ⟨hlast, hmost'⟩ := (decimal?_carries hs).later hskip' hskip hmost
          dsimp only at h
          split at h
          · next tail =>
            split at h
            · next hle =>
              cases h
              split
              · next heq => exact (hs.not_cons hclose (by decide) _ heq).elim
              · rw [hmost', Option.bind_some]
                exact ⟨((List.suffix_cons _ _).trans hlast).trans hsuffix, if_pos hle⟩
            · cases h
          · cases h
      · next more =>
        cases h
        exact ⟨((List.suffix_cons _ _).trans hafter).trans hsuffix, rfl⟩
      · cases h

-- --------------------------------------------------------------------
-- Groups
-- --------------------------------------------------------------------

omit hs in
theorem groupName?_carries : Carries s groupName? groupName? := by
  intro cs x rest _ h
  unfold groupName? at h ⊢
  dsimp only at h ⊢
  split at h
  · next more c name hdrop hname =>
    obtain ⟨htake', hdrop'⟩ :=
      takeWhile_append_of_ends (hdrop.trans_ne (List.cons_ne_nil _ _)) s
    have hsuffix := List.dropWhile_suffix (l := cs) (· != '>')
    rw [hdrop] at hsuffix hdrop'
    rw [htake', hdrop', hname, List.cons_append]
    rw [hname] at h
    split at h
    · next hall =>
      cases h
      exact ⟨(List.suffix_cons _ _).trans hsuffix, if_pos hall⟩
    · cases h
  · cases h

omit hs in
theorem modes?_append {off : Bool} {seen seen' : List Char} {close : Char}
    (h : modes? f off seen cs = some (f', seen', close, rest)) :
    rest <:+ cs ∧ modes? f off seen (cs ++ s) = some (f', seen', close, rest ++ s) := by
  induction cs generalizing f off seen with
  | nil => cases h
  | cons c cs ih =>
    have hlater : ∀ {g : Flags} {off' : Bool} {seen'' : List Char},
        modes? g off' seen'' cs = some (f', seen', close, rest) →
        rest <:+ c :: cs ∧ modes? g off' seen'' (cs ++ s) = some (f', seen', close, rest ++ s) :=
      fun hread => (ih hread).imp_left (suffix_cons_of c)
    rw [List.cons_append]
    unfold modes? at h ⊢
    split at h
    · next hclose =>
      rw [if_pos hclose]
      split at h
      · cases h
      · next hdash =>
        rw [if_neg hdash]
        cases h
        exact ⟨List.suffix_cons _ _, rfl⟩
    · next hclose =>
      rw [if_neg hclose]
      split at h
      · cases h
      · next hseen =>
        rw [if_neg hseen]
        split at h
        · next hoff =>
          rw [if_pos hoff]
          exact hlater h
        · next hoff =>
          rw [if_neg hoff]
          split at h
          · exact hlater h
          · cases h

omit hs in
theorem namedGroup_append (hhash : '#' ∉ cs) {k : Construct}
    (h : (groupName? cs).map (fun (name, rest) => (Construct.named name, rest)) = some (k, rest)) :
    rest <:+ cs ∧ (groupName? (cs ++ s)).map (fun (name, rest) => (Construct.named name, rest)) =
      some (k, rest ++ s) := by
  obtain ⟨⟨name, after⟩, hname, ⟨⟩⟩ := Option.map_eq_some_iff.mp h
  obtain ⟨hafter, hname'⟩ := groupName?_carries cs name _ hhash hname
  exact ⟨hafter, Option.map_eq_some_iff.mpr ⟨_, hname', rfl⟩⟩

theorem paren?_carries : Carries s (paren? f) (paren? f) := by
  intro cs x rest hhash h
  unfold paren? at h
  split at h
  any_goals cases h
  · next more =>
    have htail : more <:+ '?' :: 'P' :: '<' :: more :=
      suffix_cons_of _ (suffix_cons_of _ (List.suffix_cons _ _))
    exact (namedGroup_append (noHash_of_suffix htail hhash) h).imp_left (·.trans htail)
  · next more hequal hbang =>
    have htail : more <:+ '?' :: '<' :: more := suffix_cons_of _ (List.suffix_cons _ _)
    rw [List.cons_append, List.cons_append, paren?]
    · exact (namedGroup_append (noHash_of_suffix htail hhash) h).imp_left (·.trans htail)
    · exact hs.not_cons hequal (by decide)
    · exact hs.not_cons hbang (by decide)
  · next more hequal hbang hafter hbefore hnamed hless =>
    obtain ⟨⟨f', seen, close, after⟩, hmodes, h⟩ := Option.bind_eq_some_iff.mp h
    obtain ⟨hrest, hmodes'⟩ := modes?_append hmodes
    have hk : ∀ k, some (k, after) = some (x, rest) →
        rest <:+ '?' :: more ∧ some (k, after ++ s) = some (x, rest ++ s) := by
      rintro k ⟨⟩
      exact ⟨suffix_cons_of _ hrest, rfl⟩
    rw [List.cons_append, paren?]
    · rw [hmodes', Option.bind_eq_bind, Option.bind_some]
      dsimp only at h ⊢
      split at h
      · next hclose =>
        rw [if_pos hclose]
        split at h
        · cases h
        · next hseen =>
          rw [if_neg hseen]
          exact hk _ h
      · next hclose =>
        rw [if_neg hclose]
        exact hk _ h
    · exact hs.not_cons hequal (by decide)
    · exact hs.not_cons hbang (by decide)
    · exact hs.not_cons_cons hafter (by decide) (by decide)
    · exact hs.not_cons_cons hbefore (by decide) (by decide)
    · exact hs.not_cons_cons hnamed (by decide) (by decide)
    · exact hs.not_cons hless (by decide)
  · next _ _ _ _ _ _ hmark =>
    have hmark' : ∀ tail, cs ++ s = '?' :: tail → False := hs.not_cons hmark (by decide)
    rw [paren?]
    · exact ⟨List.suffix_refl _, rfl⟩
    all_goals exact fun tail heq => hmark' _ heq

theorem quantifier_carries (least : Nat) (most : Option Nat) :
    Carries s (fun cs => some (quantifier least most cs))
      fun cs => some (quantifier least most cs) := by
  intro cs x rest _ h
  by_cases hmark : cs.head? = some '?'
  · obtain ⟨more, rfl⟩ := List.head?_eq_some_iff.mp hmark
    cases h
    exact ⟨List.suffix_cons _ _, rfl⟩
  · have hmark' : (cs ++ s).head? ≠ some '?' := hs.head?_append_ne hmark (by decide)
    dsimp only at h ⊢
    rw [State.quantifier_of_head? least most hmark']
    rw [State.quantifier_of_head? least most hmark] at h
    cases h
    exact ⟨List.suffix_refl _, rfl⟩

/-- A construct that is complete is read before more text as it is alone. -/
theorem construct?_carries (c : Char) : Carries s (construct? f c) (construct? f c) := by
  intro cs x rest hhash h
  have hkept : ∀ {k}, some (k, cs) = some (x, rest) →
      rest <:+ cs ∧ some (k, cs ++ s) = some (x, rest ++ s) := by
    rintro k ⟨⟩
    exact ⟨List.suffix_refl _, rfl⟩
  unfold construct? at h ⊢
  split at h
  · exact (paren?_carries hs).afterSkip hs hhash h
  · exact hkept h
  · exact hkept h
  · obtain ⟨⟨set, after⟩, hread, ⟨⟩⟩ := Option.map_eq_some_iff.mp h
    obtain ⟨hrest, hread'⟩ := bracket?_carries hs cs _ _ hhash hread
    exact ⟨hrest, Option.map_eq_some_iff.mpr ⟨_, hread', rfl⟩⟩
  · exact quantifier_carries hs 0 (some 1) cs x rest hhash h
  · exact quantifier_carries hs 0 none cs x rest hhash h
  · exact quantifier_carries hs 1 none cs x rest hhash h
  · obtain ⟨⟨least, most, after⟩, hread, h⟩ := Option.map_eq_some_iff.mp h
    obtain ⟨hafter, hread'⟩ := counted?_append hs hhash hread
    obtain ⟨hrest, hquantifier⟩ := (quantifier_carries hs least most).afterSkip hs
      (noHash_of_suffix hafter hhash) (congrArg some h)
    exact ⟨hrest.trans hafter,
      Option.map_eq_some_iff.mpr ⟨_, hread', Option.some.inj hquantifier⟩⟩
  · simp only [Option.bind_eq_bind, Option.bind_eq_some_iff] at h ⊢
    obtain ⟨⟨e, after⟩, hread, n, hn, ⟨⟩⟩ := h
    obtain ⟨hrest, hread'⟩ := escape?_carries hs cs _ _ hhash hread
    exact ⟨hrest, _, hread', n, hn, rfl⟩
  · obtain ⟨n, hn, ⟨⟩⟩ := Option.map_eq_some_iff.mp h
    exact ⟨List.suffix_refl _, Option.map_eq_some_iff.mpr ⟨n, hn, rfl⟩⟩
  · exact hkept h
  · exact hkept h
  · obtain ⟨n, hn, ⟨⟩⟩ := Option.map_eq_some_iff.mp h
    exact ⟨List.suffix_refl _, Option.map_eq_some_iff.mpr ⟨n, hn, rfl⟩⟩

end

end PageRecords.Regex
