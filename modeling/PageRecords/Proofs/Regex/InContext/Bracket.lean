import PageRecords.Proofs.Regex.InContext.Escape

/-!
# Bracketed classes before more text

A bracketed class that is closed is read the same before more text. Two looks ahead could see
that text: the one for a second colon after an opening bracket, and the ones for the second
character of an operator. The text has no colon and begins with neither.
-/

namespace PageRecords.Regex

open Unicode (CharSet)

variable {f : Flags} {s cs rest more : List Char} {c d : Char}

/-- A class by its name, after its colon and the caret there may be. -/
def namedClass? (negated : Bool) (cs : List Char) : Option (CharSet × Bool × List Char) :=
  match cs.dropWhile (· != ':') with
  | ':' :: ']' :: after =>
    (Flags.posix? (String.ofList (cs.takeWhile (· != ':')))).map fun s => (s, negated, after)
  | _ => none

variable (hs : Follows s)
include hs

/-- A character other than a parenthesis that comes next before more text is one of the text. -/
theorem Follows.exists_cons (h : more ++ s = d :: rest) (hd : d ≠ '(') : ∃ ds, more = d :: ds := by
  obtain ⟨t, rfl⟩ := hs.exists_eq
  cases more with
  | nil =>
    obtain ⟨rfl, -⟩ := List.cons.inj h
    exact absurd rfl hd
  | cons c ds =>
    obtain ⟨rfl, -⟩ := List.cons.inj h
    exact ⟨ds, rfl⟩

theorem Follows.not_cons (h : ∀ tail, more = d :: tail → False) (hd : d ≠ '(') (tail : List Char) :
    more ++ s = d :: tail → False := by
  intro heq
  obtain ⟨ds, hds⟩ := hs.exists_cons heq hd
  exact h ds hds

theorem Follows.not_cons_cons (h : ∀ tail, more = c :: d :: tail → False) (hc : c ≠ '(')
    (hd : d ≠ '(') (tail : List Char) : more ++ s = c :: d :: tail → False := by
  intro heq
  obtain ⟨ds, rfl⟩ := hs.exists_cons heq hc
  refine hs.not_cons (fun es hes => h es (congrArg _ hes)) hd tail ?_
  exact (List.cons.inj heq).2

theorem leadingMembers_carries {fuel fuel' : Nat} (hfuel : fuel ≤ fuel') (m : Members) :
    Carries s (leadingMembers f fuel · m) (leadingMembers f fuel' · m) := by
  induction fuel generalizing fuel' m with
  | zero => exact fun cs x rest _ h => nomatch h
  | succ fuel ih =>
    rintro (_ | ⟨c, more⟩) x rest hhash h
    · cases h
    obtain ⟨fuel', rfl⟩ := Nat.exists_eq_add_of_lt hfuel
    have hmore := noHash_of_suffix (List.suffix_cons c more) hhash
    dsimp only at h ⊢
    rw [List.cons_append]
    rw [leadingMembers.eq_def] at h ⊢
    dsimp only at h ⊢
    split at h
    · cases h
    · next after heq =>
      obtain ⟨rfl, rfl⟩ := List.cons.inj heq
      obtain ⟨hsuffix, hread⟩ := (ih (Nat.le_add_right fuel _) _).afterSkip hs hmore h
      exact ⟨suffix_cons_of _ hsuffix, hread⟩
    · next after heq =>
      obtain ⟨rfl, rfl⟩ := List.cons.inj heq
      split at h
      · next hcount =>
        have hsuffix := skip_suffix f more
        simp only [if_pos hcount, skip_append hs hmore]
        cases hskip : skip f more with
        | nil =>
          rw [hskip] at h
          cases h
        | cons d ds =>
          rw [hskip] at h hsuffix
          cases h
          exact ⟨suffix_cons_of _ hsuffix, rfl⟩
      · next hcount =>
        simp only [if_neg hcount]
        cases h
        exact ⟨List.suffix_refl _, rfl⟩
    · next hdash hclose =>
      cases h
      refine ⟨List.suffix_refl _, ?_⟩
      split
      · next heq => cases heq
      · next heq =>
        obtain ⟨rfl, -⟩ := List.cons.inj heq
        exact (hdash _ rfl).elim
      · next heq =>
        obtain ⟨rfl, -⟩ := List.cons.inj heq
        exact (hclose _ rfl).elim
      · rfl

theorem openBracket?_append {negated : Bool} {m : Members} (hhash : '#' ∉ cs)
    (h : openBracket? f cs = some (negated, m, rest)) :
    rest <:+ cs ∧ openBracket? f (cs ++ s) = some (negated, m, rest ++ s) := by
  have hsuffix := skip_suffix f cs
  have hskip := noHash_of_suffix hsuffix hhash
  unfold openBracket? at h ⊢
  rw [skip_append hs hhash]
  split at h
  · next more hmore =>
    rw [hmore] at hsuffix hskip ⊢
    simp only [List.cons_append]
    obtain ⟨⟨m, after⟩, hread, ⟨⟩⟩ := Option.map_eq_some_iff.mp h
    have hmore := noHash_of_suffix (List.suffix_cons _ more) hskip
    have hlength : more.length + 1 ≤ (more ++ s).length + 1 := by simp
    obtain ⟨hafter, hread'⟩ := (leadingMembers_carries hs hlength .none).afterSkip hs hmore hread
    exact ⟨(suffix_cons_of _ hafter).trans hsuffix, Option.map_eq_some_iff.mpr ⟨_, hread', rfl⟩⟩
  · next hcaret =>
    obtain ⟨⟨m, after⟩, hread, ⟨⟩⟩ := Option.map_eq_some_iff.mp h
    have hlength : (skip f cs).length + 1 ≤ (skip f cs ++ s).length + 1 := by simp
    obtain ⟨hafter, hread'⟩ := leadingMembers_carries hs hlength .none _ _ _ hskip hread
    refine ⟨hafter.trans hsuffix, ?_⟩
    split
    · next heq => exact (hs.not_cons hcaret (by decide) _ heq).elim
    · exact Option.map_eq_some_iff.mpr ⟨_, hread', rfl⟩

omit hs in
theorem dropWhile_append_of_not_mem {p : Char → Bool} (hdrop : cs.dropWhile p = [])
    (hs : ∀ c ∈ s, p c = true) : (cs ++ s).dropWhile p = [] := by
  rw [List.dropWhile_eq_nil_iff] at hdrop ⊢
  exact fun c hc => (List.mem_append.mp hc).elim (hdrop c) (hs c)

omit hs in
theorem posixClass?_of_head? (h : cs.head? ≠ some '^') :
    posixClass? (':' :: cs) = namedClass? false cs := by
  cases cs with
  | nil => rfl
  | cons c cs =>
    have hc : c ≠ '^' := fun heq => h (congrArg some heq)
    simp [posixClass?, hc]
    rfl

omit hs in
theorem posixClass?_of_head?_ne (h : cs.head? ≠ some ':') : posixClass? cs = none := by
  unfold posixClass?
  split
  · exact absurd rfl h
  · rfl

omit hs in
theorem namedClass?_suffix {set : CharSet} {negated negated' : Bool}
    (h : namedClass? negated cs = some (set, negated', rest)) : rest <:+ cs := by
  rw [namedClass?] at h
  split at h
  · next after hdrop =>
    obtain ⟨_, -, ⟨⟩⟩ := Option.map_eq_some_iff.mp h
    have hsuffix := List.dropWhile_suffix (l := cs) (· != ':')
    rw [hdrop] at hsuffix
    exact ((List.suffix_cons _ _).trans (List.suffix_cons _ _)).trans hsuffix
  · cases h

theorem namedClass?_append (negated : Bool) : namedClass? negated (cs ++ s) =
    (namedClass? negated cs).map fun (set, negated, rest) => (set, negated, rest ++ s) := by
  cases hdrop : cs.dropWhile (· != ':') with
  | nil =>
    have hdrop' : (cs ++ s).dropWhile (· != ':') = [] :=
      dropWhile_append_of_not_mem hdrop fun c hc =>
        bne_iff_ne.mpr fun heq => hs.noColon (heq ▸ hc)
    simp only [namedClass?, hdrop, hdrop', Option.map_none]
  | cons c after =>
    obtain ⟨htake', hdrop'⟩ :=
      takeWhile_append_of_ends (hdrop.trans_ne (List.cons_ne_nil _ _)) s
    rw [namedClass?, namedClass?, htake', hdrop', hdrop, List.cons_append]
    split
    · next after' heq =>
      obtain ⟨rfl, htail⟩ := List.cons.inj heq
      obtain ⟨ds, rfl⟩ := hs.exists_cons htail (by decide)
      obtain ⟨-, rfl⟩ := List.cons.inj htail
      simp only [Option.map_map]
      rfl
    · next hnot =>
      split
      · next after' heq =>
        cases heq
        exact (hnot _ rfl).elim
      · rfl

omit hs in
theorem posixClass?_suffix {set : CharSet} {negated : Bool}
    (h : posixClass? cs = some (set, negated, rest)) : rest <:+ cs := by
  by_cases hcolon : cs.head? = some ':'
  · obtain ⟨more, rfl⟩ := List.head?_eq_some_iff.mp hcolon
    by_cases hcaret : more.head? = some '^'
    · obtain ⟨body, rfl⟩ := List.head?_eq_some_iff.mp hcaret
      exact suffix_cons_of _ (suffix_cons_of _ (namedClass?_suffix h))
    · rw [posixClass?_of_head? hcaret] at h
      exact suffix_cons_of _ (namedClass?_suffix h)
  · rw [posixClass?_of_head?_ne hcolon] at h
    cases h

theorem Follows.head?_append_ne (h : more.head? ≠ some c) (hc : c ≠ '(') :
    (more ++ s).head? ≠ some c := by
  intro hhead
  obtain ⟨rest, hrest⟩ := List.head?_eq_some_iff.mp hhead
  obtain ⟨ds, rfl⟩ := hs.exists_cons hrest hc
  exact h rfl

theorem posixClass?_append : posixClass? (cs ++ s) =
    (posixClass? cs).map fun (set, negated, rest) => (set, negated, rest ++ s) := by
  by_cases hcolon : cs.head? = some ':'
  · obtain ⟨more, rfl⟩ := List.head?_eq_some_iff.mp hcolon
    by_cases hcaret : more.head? = some '^'
    · obtain ⟨body, rfl⟩ := List.head?_eq_some_iff.mp hcaret
      exact namedClass?_append hs true
    · have hcaret' := hs.head?_append_ne hcaret (by decide)
      rw [List.cons_append, posixClass?_of_head? hcaret, posixClass?_of_head? hcaret',
        namedClass?_append hs]
  · have hcolon' := hs.head?_append_ne hcolon (by decide)
    rw [posixClass?_of_head?_ne hcolon, posixClass?_of_head?_ne hcolon', Option.map_none]

theorem bracketItem?_carries : Carries s (bracketItem? f) (bracketItem? f) := by
  rintro (_ | ⟨c, more⟩) x rest hhash h
  · cases h
  have hmore := noHash_of_suffix (List.suffix_cons c more) hhash
  rw [List.cons_append]
  rw [bracketItem?.eq_def] at h ⊢
  split at h
  · cases h
  · next after heq =>
    obtain ⟨rfl, rfl⟩ := List.cons.inj heq
    obtain ⟨hsuffix, hread⟩ := escape?_carries hs more x rest hmore h
    exact ⟨suffix_cons_of _ hsuffix, hread⟩
  · next d after hslash heq =>
    obtain ⟨rfl, rfl⟩ := List.cons.inj heq
    cases h
    refine ⟨List.suffix_cons _ _, ?_⟩
    split
    · next heq => cases heq
    · next heq =>
      obtain ⟨rfl, -⟩ := List.cons.inj heq
      exact (hslash rfl).elim
    · next heq =>
      obtain ⟨rfl, rfl⟩ := List.cons.inj heq
      rfl

theorem bracketRange?_carries : Carries s (bracketRange? f) (bracketRange? f) := by
  intro cs x rest hhash h
  unfold bracketRange? at h ⊢
  simp only [Option.bind_eq_bind, Option.bind_eq_some_iff] at h
  obtain ⟨⟨first, more⟩, hfirst, h⟩ := h
  obtain ⟨hmore, hfirst'⟩ := bracketItem?_carries hs cs _ _ hhash hfirst
  rw [hfirst', Option.bind_eq_bind, Option.bind_some]
  dsimp only at h ⊢
  have hhmore := noHash_of_suffix hmore hhash
  have hsuffix := (skip_suffix f more).trans hmore
  rw [skip_append hs hhmore]
  split at h
  · cases h
  · next after hskip =>
    rw [hskip] at h hsuffix ⊢
    have hhafter := noHash_of_suffix ((List.suffix_cons _ after).trans hsuffix) hhash
    have hafter := (skip_suffix f after).trans ((List.suffix_cons _ after).trans hsuffix)
    simp only [List.cons_append, skip_append hs hhafter]
    split at h
    · next tail hclose =>
      obtain ⟨_, hset, ⟨⟩⟩ := Option.map_eq_some_iff.mp h
      simp only [hclose, List.cons_append]
      exact ⟨hsuffix, Option.map_eq_some_iff.mpr ⟨_, hset, rfl⟩⟩
    · next tail hdash =>
      obtain ⟨_, hset, ⟨⟩⟩ := Option.map_eq_some_iff.mp h
      simp only [hdash, List.cons_append]
      exact ⟨hsuffix, Option.map_eq_some_iff.mpr ⟨_, hset, rfl⟩⟩
    · cases h
    · next hclose hdash hne =>
      obtain ⟨⟨last, after'⟩, hlast, h⟩ := Option.bind_eq_some_iff.mp h
      obtain ⟨hafter', hlast'⟩ := (bracketItem?_carries hs).later hafter hhash hlast
      split
      · next heq => exact (hs.not_cons hclose (by decide) _ heq).elim
      · next heq => exact (hs.not_cons hdash (by decide) _ heq).elim
      · next heq => exact (hne (List.append_eq_nil_iff.mp heq).1).elim
      · rw [hlast', Option.bind_some]
        dsimp only at h ⊢
        split at h
        · simp only [Option.bind_eq_bind, Option.bind_eq_some_iff] at h ⊢
          obtain ⟨a, ha, b, hb, h⟩ := h
          split at h
          · next hle =>
            cases h
            exact ⟨hafter', a, ha, b, hb, if_pos hle⟩
          · cases h
        · cases h
  · next hne hdash =>
    obtain ⟨_, hset, ⟨⟩⟩ := Option.map_eq_some_iff.mp h
    split
    · next heq => exact (hne (List.append_eq_nil_iff.mp heq).1).elim
    · next heq => exact (hs.not_cons hdash (by decide) _ heq).elim
    · exact ⟨hsuffix, Option.map_eq_some_iff.mpr ⟨_, hset, rfl⟩⟩

theorem bracketBody?_carries {fuel fuel' : Nat} (hfuel : fuel ≤ fuel') (frames : List BracketFrame)
    (m : Members) : Carries s (bracketBody? f fuel frames m) (bracketBody? f fuel' frames m) := by
  induction fuel generalizing fuel' frames m with
  | zero =>
    intro cs x rest _ h
    rw [bracketBody?] at h
    cases h
  | succ fuel ih =>
    intro cs x rest hhash h
    obtain ⟨fuel', rfl⟩ := Nat.exists_eq_add_of_lt hfuel
    have hsuffix := skip_suffix f cs
    have hskip := noHash_of_suffix hsuffix hhash
    have hmono : fuel ≤ fuel + fuel' := Nat.le_add_right fuel _
    have hoperator : ∀ d op more, skip f cs = d :: d :: more →
        bracketBody?.operator f fuel frames m op more = some (x, rest) →
        rest <:+ cs ∧ bracketBody?.operator f (fuel + fuel') frames m op (more ++ s) =
          some (x, rest ++ s) := by
      intro d op more hmore h
      rw [hmore] at hsuffix
      rw [bracketBody?.operator] at h ⊢
      have htwo : more <:+ d :: d :: more := suffix_cons_of _ (List.suffix_cons _ more)
      exact (ih hmono _ _).later (htwo.trans hsuffix) hhash h
    rw [bracketBody?.eq_def] at h ⊢
    dsimp only at h ⊢
    rw [skip_append hs hhash]
    split at h
    · cases h
    · next more hmore =>
      rw [hmore] at hsuffix hskip ⊢
      have hhmore := noHash_of_suffix (List.suffix_cons _ more) hskip
      simp only [List.cons_append, posixClass?_append hs]
      cases hposix : posixClass? more with
      | some found =>
        obtain ⟨set, negated, after⟩ := found
        have hafter := posixClass?_suffix hposix
        simp only [hposix, Option.map_some, Option.bind_eq_bind, Option.bind_eq_some_iff] at h ⊢
        obtain ⟨set', hset, h⟩ := h
        have hlater := (suffix_cons_of _ hafter).trans hsuffix
        obtain ⟨hrest, hread⟩ := (ih hmono _ _).later hlater hhash h
        exact ⟨hrest, set', hset, hread⟩
      | none =>
        simp only [hposix, Option.map_none, Option.bind_eq_bind, Option.bind_eq_some_iff] at h ⊢
        obtain ⟨⟨negated, inner, after⟩, hopen, h⟩ := h
        obtain ⟨hafter, hopen'⟩ := openBracket?_append hs hhmore hopen
        have hlater := (suffix_cons_of _ hafter).trans hsuffix
        obtain ⟨hrest, hread⟩ := (ih hmono _ _).later hlater hhash h
        exact ⟨hrest, _, hopen', hread⟩
    · next more hmore =>
      rw [hmore] at hsuffix ⊢
      have hlater := (List.suffix_cons _ more).trans hsuffix
      simp only [List.cons_append]
      split at h
      · next outer negated frames' hframes =>
        simp only [Option.bind_eq_bind, Option.bind_eq_some_iff] at h ⊢
        obtain ⟨set, hset, h⟩ := h
        split at h
        · cases h
          exact ⟨hlater, set, hset, rfl⟩
        · obtain ⟨hrest, hread⟩ := (ih hmono _ _).later hlater hhash h
          exact ⟨hrest, set, hset, hread⟩
      · cases h
    · next more hmore =>
      rw [hmore]
      exact hoperator _ _ more hmore h
    · next more hmore =>
      rw [hmore]
      exact hoperator _ _ more hmore h
    · next more hmore =>
      rw [hmore]
      exact hoperator _ _ more hmore h
    · next hempty hopen hclose hinter hdiff hsymm =>
      obtain ⟨⟨set, after⟩, hrange, h⟩ := Option.bind_eq_some_iff.mp h
      obtain ⟨hafter, hrange'⟩ := bracketRange?_carries hs _ _ _ hskip hrange
      obtain ⟨hrest, hread⟩ := (ih hmono _ _).later (hafter.trans hsuffix) hhash h
      refine ⟨hrest, ?_⟩
      split
      · next heq => exact (hempty (List.append_eq_nil_iff.mp heq).1).elim
      · next heq => exact (hs.not_cons hopen (by decide) _ heq).elim
      · next heq => exact (hs.not_cons hclose (by decide) _ heq).elim
      · next heq => exact (hs.not_cons_cons hinter (by decide) (by decide) _ heq).elim
      · next heq => exact (hs.not_cons_cons hdiff (by decide) (by decide) _ heq).elim
      · next heq => exact (hs.not_cons_cons hsymm (by decide) (by decide) _ heq).elim
      · exact Option.bind_eq_some_iff.mpr ⟨_, hrange', hread⟩

theorem bracket?_carries : Carries s (bracket? f) (bracket? f) := by
  intro cs x rest hhash h
  obtain ⟨⟨negated, m, after⟩, hopen, h⟩ := Option.bind_eq_some_iff.mp h
  obtain ⟨hafter, hopen'⟩ := openBracket?_append hs hhash hopen
  have hlength : cs.length + 1 ≤ (cs ++ s).length + 1 := by simp
  obtain ⟨hrest, hread⟩ := (bracketBody?_carries hs hlength _ _).later hafter hhash h
  exact ⟨hrest, Option.bind_eq_some_iff.mpr ⟨_, hopen', hread⟩⟩

end PageRecords.Regex
