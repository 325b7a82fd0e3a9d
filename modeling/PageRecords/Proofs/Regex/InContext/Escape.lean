import Mathlib.Data.List.TakeWhile
import PageRecords.Proofs.Regex.Constructs

/-!
# Constructs before more text

A construct that is complete is read the same if more text follows it: `construct?_carries`. The
text must begin with an opening parenthesis, which continues no construct, and have no colon,
which a bracketed class looks ahead for. A pattern without a hash has no comments, which would
go on into what follows.
-/

namespace PageRecords.Regex

open Unicode (CharSet)

/-- Text that may follow a pattern and continues none of its constructs. -/
structure Follows (s : List Char) : Prop where
  opens : s.head? = some '('
  noColon : ':' ∉ s

/-- What is read of a text is read of it also before more text, of which nothing is taken. The
second reader may have more fuel. -/
def Carries {α : Type} (s : List Char) (read read' : List Char → Option (α × List Char)) : Prop :=
  ∀ cs x rest, '#' ∉ cs → read cs = some (x, rest) →
    rest <:+ cs ∧ read' (cs ++ s) = some (x, rest ++ s)

variable {α : Type} {f : Flags} {s cs after rest : List Char} {x : α}
  {read read' : List Char → Option (α × List Char)}

theorem noHash_of_suffix (h : rest <:+ cs) (hhash : '#' ∉ cs) : '#' ∉ rest :=
  fun hmem => hhash (h.subset hmem)

theorem suffix_cons_of (c : Char) (h : rest <:+ cs) : rest <:+ c :: cs :=
  h.trans (List.suffix_cons c cs)

/-- The reader comes to a later part of the text. -/
theorem Carries.later (h : Carries s read read') (hafter : after <:+ cs) (hhash : '#' ∉ cs)
    (hread : read after = some (x, rest)) :
    rest <:+ cs ∧ read' (after ++ s) = some (x, rest ++ s) :=
  (h after x rest (noHash_of_suffix hafter hhash) hread).imp_left (·.trans hafter)

/-- A run that ends in a text ends there before more text too. -/
theorem takeWhile_append_of_ends {p : Char → Bool} {cs : List Char} (h : cs.dropWhile p ≠ [])
    (more : List Char) :
    (cs ++ more).takeWhile p = cs.takeWhile p ∧
      (cs ++ more).dropWhile p = cs.dropWhile p ++ more := by
  induction cs with
  | nil => exact absurd rfl h
  | cons c cs ih =>
    by_cases hc : p c = true
    · rw [List.dropWhile_cons_of_pos hc] at h
      obtain ⟨htake, hdrop⟩ := ih h
      rw [List.cons_append, List.takeWhile_cons_of_pos hc, List.dropWhile_cons_of_pos hc,
        List.takeWhile_cons_of_pos hc, List.dropWhile_cons_of_pos hc, htake, hdrop]
      exact ⟨rfl, rfl⟩
    · rw [List.cons_append, List.takeWhile_cons_of_neg hc, List.dropWhile_cons_of_neg hc,
        List.takeWhile_cons_of_neg hc, List.dropWhile_cons_of_neg hc]
      exact ⟨rfl, rfl⟩

-- --------------------------------------------------------------------
-- Blanks
-- --------------------------------------------------------------------

theorem skipBlank_suffix (comment : Bool) (cs : List Char) : skipBlank comment cs <:+ cs := by
  induction cs generalizing comment with
  | nil => exact List.suffix_refl _
  | cons c cs ih =>
    rw [skipBlank]
    split
    · split <;> exact suffix_cons_of c (ih _)
    · split
      · exact suffix_cons_of c (ih _)
      · split
        · exact suffix_cons_of c (ih _)
        · exact List.suffix_refl _

theorem skip_suffix (f : Flags) (cs : List Char) : skip f cs <:+ cs := by
  rw [skip]
  split
  · exact skipBlank_suffix false cs
  · exact List.suffix_refl _

section

variable (hs : Follows s)

include hs

theorem Follows.exists_eq : ∃ t, s = '(' :: t := List.head?_eq_some_iff.mp hs.opens

theorem skip_append (hhash : '#' ∉ cs) : skip f (cs ++ s) = skip f cs ++ s := by
  have hblank : skipBlank false s = s := by
    obtain ⟨t, rfl⟩ := hs.exists_eq
    rfl
  rw [skip, skip]
  split
  · induction cs with
    | nil => exact hblank
    | cons c cs ih =>
      obtain ⟨hc, hcs⟩ := not_or.mp (List.mem_cons.not.mp hhash)
      simp only [List.cons_append, skipBlank, Bool.false_eq_true, if_false, Ne.symm hc]
      split
      · exact ih hcs
      · rfl
  · rfl

/-- Blanks before what is read. -/
theorem Carries.afterSkip (h : Carries s read read') (hhash : '#' ∉ cs)
    (hread : read (skip f cs) = some (x, rest)) :
    rest <:+ cs ∧ read' (skip f (cs ++ s)) = some (x, rest ++ s) := by
  rw [skip_append hs hhash]
  exact h.later (skip_suffix f cs) hhash hread

-- --------------------------------------------------------------------
-- Escapes
-- --------------------------------------------------------------------

theorem hexDigits?_carries (value n : Nat) :
    Carries s (hexDigits? f value n) (hexDigits? f value n) := by
  induction n generalizing value with
  | zero =>
    rintro cs x rest _ ⟨⟩
    exact ⟨List.suffix_refl _, rfl⟩
  | succ n ih =>
    intro cs x rest hhash h
    rw [hexDigits?.eq_def] at h ⊢
    cases cs with
    | nil => cases h
    | cons c cs =>
      have hcs := noHash_of_suffix (List.suffix_cons c cs) hhash
      simp only [List.cons_append] at h ⊢
      cases hd : Unicode.hexValue? c with
      | none => simp [hd] at h
      | some d =>
        simp only [hd] at h ⊢
        split at h
        · next hn =>
          simp only [hn, if_true] at h ⊢
          obtain ⟨hsuffix, hread⟩ := hn ▸ ih (value * 16 + d) cs x rest hcs (hn ▸ h)
          exact ⟨suffix_cons_of c hsuffix, hread⟩
        · next hn =>
          simp only [hn, if_false]
          obtain ⟨hsuffix, hread⟩ := (ih (value * 16 + d)).afterSkip hs hcs h
          exact ⟨suffix_cons_of c hsuffix, hread⟩

theorem hexBraced?_carries {fuel fuel' : Nat} (hfuel : fuel ≤ fuel') (value count : Nat) :
    Carries s (hexBraced? f value count fuel) (hexBraced? f value count fuel') := by
  induction fuel generalizing value count fuel' with
  | zero => exact fun cs x rest _ h => nomatch h
  | succ fuel ih =>
    intro cs x rest hhash h
    obtain ⟨fuel', rfl⟩ := Nat.exists_eq_add_of_lt hfuel
    rw [hexBraced?.eq_def] at h ⊢
    dsimp only at h ⊢
    split at h
    · cases h
    · next more =>
      simp only [List.cons_append]
      split at h
      · cases h
      · next hcount =>
        cases h
        exact ⟨List.suffix_cons _ _, if_neg hcount⟩
    · next c more hne =>
      have hmore := noHash_of_suffix (List.suffix_cons c more) hhash
      simp only [List.cons_append]
      split at h
      · obtain ⟨hsuffix, hread⟩ := (ih (Nat.le_add_right fuel _) _ _).afterSkip hs hmore h
        exact ⟨suffix_cons_of c hsuffix, hread⟩
      · cases h

theorem hexEscape?_carries (digits : Nat) :
    Carries s (hexEscape? f digits) (hexEscape? f digits) := by
  intro cs x rest hhash h
  have hsuffix := skip_suffix f cs
  have hskip := noHash_of_suffix hsuffix hhash
  unfold hexEscape? at h ⊢
  rw [skip_append hs hhash]
  split at h
  · cases h
  · next more hmore =>
    rw [hmore] at hsuffix hskip ⊢
    simp only [List.cons_append, Option.bind_eq_bind, Option.bind_eq_some_iff] at h ⊢
    obtain ⟨⟨n, after⟩, hread, c, hc, ⟨⟩⟩ := h
    have hmore := noHash_of_suffix (List.suffix_cons _ more) hskip
    have hlength : more.length + 1 ≤ (more ++ s).length + 1 := by simp
    obtain ⟨hafter, hread'⟩ := (hexBraced?_carries hs hlength 0 0).afterSkip hs hmore hread
    refine ⟨(skip_suffix f after).trans ((suffix_cons_of _ hafter).trans hsuffix),
      _, hread', c, hc, ?_⟩
    rw [skip_append hs (noHash_of_suffix hafter hmore)]
    rfl
  · next c more hne hmore =>
    rw [hmore] at hsuffix hskip ⊢
    simp only [List.cons_append, Option.bind_eq_bind, Option.bind_eq_some_iff] at h ⊢
    obtain ⟨⟨n, after⟩, hread, d, hd, ⟨⟩⟩ := h
    obtain ⟨hafter, hread'⟩ := hexDigits?_carries hs 0 digits (c :: more) _ _ hskip hread
    refine ⟨(skip_suffix f after).trans (hafter.trans hsuffix), _, hread', d, hd, ?_⟩
    rw [skip_append hs (noHash_of_suffix hafter hskip)]
    rfl

theorem bracedName?_carries {fuel fuel' : Nat} (hfuel : fuel ≤ fuel') :
    Carries s (bracedName? f fuel) (bracedName? f fuel') := by
  induction fuel generalizing fuel' with
  | zero => exact fun cs x rest _ h => nomatch h
  | succ fuel ih =>
    intro cs x rest hhash h
    obtain ⟨fuel', rfl⟩ := Nat.exists_eq_add_of_lt hfuel
    rw [bracedName?.eq_def] at h ⊢
    dsimp only at h ⊢
    split at h
    · cases h
    · next more =>
      cases h
      exact ⟨List.suffix_cons _ _, rfl⟩
    · next c more hne =>
      have hmore := noHash_of_suffix (List.suffix_cons c more) hhash
      simp only [List.cons_append, Option.map_eq_some_iff] at h ⊢
      obtain ⟨⟨name, after⟩, hread, ⟨⟩⟩ := h
      obtain ⟨hsuffix, hread'⟩ := (ih (Nat.le_add_right fuel _)).afterSkip hs hmore hread
      exact ⟨suffix_cons_of c hsuffix, _, hread', rfl⟩

theorem classEscape?_carries (negated : Bool) :
    Carries s (classEscape? f negated) (classEscape? f negated) := by
  intro cs x rest hhash h
  have hsuffix := skip_suffix f cs
  have hskip := noHash_of_suffix hsuffix hhash
  unfold classEscape? at h ⊢
  rw [skip_append hs hhash]
  split at h
  · cases h
  next hunicode =>
  rw [if_neg hunicode]
  split at h
  · cases h
  · next more hmore =>
    rw [hmore] at hsuffix hskip ⊢
    simp only [List.cons_append, Option.bind_eq_bind, Option.bind_eq_some_iff] at h ⊢
    obtain ⟨⟨name, after⟩, hread, ⟨set, inner⟩, hclass, folded, hfold, ⟨⟩⟩ := h
    have hmore := noHash_of_suffix (List.suffix_cons _ more) hskip
    have hlength : more.length + 1 ≤ (more ++ s).length + 1 := by simp
    obtain ⟨hafter, hread'⟩ := (bracedName?_carries hs hlength).afterSkip hs hmore hread
    exact ⟨(suffix_cons_of _ hafter).trans hsuffix, _, hread', _, hclass, _, hfold, rfl⟩
  · cases h
  · next c more hbrace hslash hmore =>
    rw [hmore] at hsuffix hskip ⊢
    simp only [List.cons_append, Option.bind_eq_bind, Option.bind_eq_some_iff] at h ⊢
    obtain ⟨⟨set, inner⟩, hclass, folded, hfold, ⟨⟩⟩ := h
    have hmore := noHash_of_suffix (List.suffix_cons _ more) hskip
    refine ⟨(suffix_cons_of _ (skip_suffix f more)).trans hsuffix, _, hclass, _, hfold, ?_⟩
    rw [skip_append hs hmore]
    rfl

omit hs in
theorem boundary?_of_head? (h : cs.head? ≠ some '{') :
    boundary? f cs = some (.look (.wordBoundary f.word), cs) := by
  unfold boundary?
  dsimp only
  split
  · exact absurd rfl h
  · rfl

omit hs in
theorem dropBrace_append {c : Char} {more : List Char} (h : '}' ∈ c :: more) :
    ((c :: (more ++ s)).dropWhile (· != '}')).drop 1 =
      ((c :: more).dropWhile (· != '}')).drop 1 ++ s := by
  have hends : (c :: more).dropWhile (· != '}') ≠ [] := by
    rw [Ne, List.dropWhile_eq_nil_iff]
    exact fun hall => by simpa using hall '}' h
  rw [← List.cons_append, (takeWhile_append_of_ends hends _).2]
  cases hdrop : (c :: more).dropWhile (· != '}') with
  | nil => exact absurd hdrop hends
  | cons d ds => rfl

omit hs in
theorem exists_filter_append (p : Prop) [Decidable p] (keep : Char → Bool) (cs s : List Char) :
    ∃ more, (if p then (cs ++ s).filter keep else cs ++ s) =
      (if p then cs.filter keep else cs) ++ more := by
  rw [List.filter_append]
  split
  · exact ⟨_, rfl⟩
  · exact ⟨_, rfl⟩

omit hs in
theorem filter_subset (p : Prop) [Decidable p] (keep : Char → Bool) (cs : List Char) :
    (if p then cs.filter keep else cs) ⊆ cs := by
  split
  · exact List.filter_sublist.subset
  · exact List.Subset.refl _

theorem boundary?_carries : Carries s (boundary? f) (boundary? f) := by
  intro cs x rest hhash h
  by_cases hbrace : cs.head? = some '{'
  · obtain ⟨more, rfl⟩ := List.head?_eq_some_iff.mp hbrace
    have hmore := noHash_of_suffix (List.suffix_cons _ more) hhash
    have hsuffix := skip_suffix f more
    simp only [boundary?, List.cons_append, skip_append hs hmore] at h ⊢
    split at h
    · cases h
    · next c after hafter =>
      rw [hafter] at hsuffix ⊢
      simp only [List.cons_append]
      split at h
      · next hname =>
        rw [if_pos hname]
        -- The name is looked for in all that follows, without its blanks in the verbose mode.
        obtain ⟨more', hbody⟩ :=
          exists_filter_append (f.verbose = true) (!isPatternBlank ·) (c :: after) s
        have hsub := filter_subset (f.verbose = true) (!isPatternBlank ·) (c :: after)
        rw [List.cons_append] at hbody
        rw [hbody]
        generalize (if f.verbose = true then (c :: after).filter (!isPatternBlank ·)
          else c :: after) = body at h hsub
        split at h
        · next tail hdrop =>
          have hclose : '}' ∈ c :: after :=
            hsub ((List.dropWhile_suffix _).subset (hdrop ▸ List.mem_cons_self))
          obtain ⟨htake', hdrop'⟩ :=
            takeWhile_append_of_ends (hdrop.trans_ne (List.cons_ne_nil _ _)) more'
          have hbrace : ((c :: after).dropWhile (· != '}')).drop 1 <:+ '{' :: more :=
            (List.drop_suffix _ _).trans
              ((List.dropWhile_suffix _).trans (suffix_cons_of _ hsuffix))
          rw [htake', hdrop', hdrop, List.cons_append]
          rw [dropBrace_append hclose]
          split at h
          all_goals first
            | cases h
              exact ⟨hbrace, rfl⟩
            | cases h
        · cases h
      · next hname =>
        rw [if_neg hname]
        cases h
        exact ⟨List.suffix_refl _, rfl⟩
  · rw [boundary?_of_head? hbrace] at h
    cases h
    refine ⟨List.suffix_refl _, boundary?_of_head? ?_⟩
    cases cs with
    | nil =>
      rw [List.nil_append, hs.opens]
      decide
    | cons c cs => exact hbrace

theorem escape?_carries : Carries s (escape? f) (escape? f) := by
  rintro (_ | ⟨c, more⟩) x rest hhash h
  · cases h
  have hkept : ∀ {e : Escape}, some (e, more) = some (x, rest) →
      rest <:+ c :: more ∧ some (e, more ++ s) = some (x, rest ++ s) := by
    rintro e ⟨⟩
    exact ⟨List.suffix_cons c more, rfl⟩
  have hpassed : ∀ {read : List Char → Option (Escape × List Char)}, Carries s read read →
      read more = some (x, rest) → rest <:+ c :: more ∧ read (more ++ s) = some (x, rest ++ s) :=
    fun hread => hread.later (List.suffix_cons c more) hhash
  rw [List.cons_append]
  unfold escape? at h ⊢
  dsimp only at h ⊢
  split at h
  · exact hpassed (hexEscape?_carries hs 2) h
  · exact hpassed (hexEscape?_carries hs 4) h
  · exact hpassed (hexEscape?_carries hs 8) h
  · exact hpassed (classEscape?_carries hs false) h
  · exact hpassed (classEscape?_carries hs true) h
  any_goals exact hkept h
  any_goals
    obtain ⟨set, hset, h⟩ := Option.map_eq_some_iff.mp h
    rw [hset]
    exact hkept (congrArg some h)
  · exact hpassed (boundary?_carries hs) h
  · split at h
    · next hc =>
      rw [if_pos hc]
      exact hkept h
    · cases h

end

end PageRecords.Regex
