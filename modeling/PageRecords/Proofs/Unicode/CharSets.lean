import PageRecords.Unicode.Class

/-!
# What is in a set of characters

A set made of ranges, in whatever order and however they overlap, has the code points in any of
them: `CharSet.contains_ofRanges`. So membership of a table's class is read off the table,
without sorting it.
-/

namespace PageRecords.Unicode

namespace CharSet

variable {rs : List (Nat × Nat)} {first last n : Nat} {c : Char}

/-- A code point is in one of some ranges. -/
def Covers (rs : List (Nat × Nat)) (n : Nat) : Prop := ∃ r ∈ rs, r.1 ≤ n ∧ n ≤ r.2

instance (rs : List (Nat × Nat)) (n : Nat) : Decidable (Covers rs n) :=
  inferInstanceAs (Decidable (∃ r ∈ rs, _))

/-- The order that sets keep their ranges in. -/
def Ascending (rs : List (Nat × Nat)) : Prop := rs.Pairwise fun r s => r.1 ≤ s.1

theorem covers_cons {r : Nat × Nat} : Covers (r :: rs) n ↔ (r.1 ≤ n ∧ n ≤ r.2) ∨ Covers rs n := by
  simp [Covers]

theorem Covers.le (h : Covers rs n) (hfirst : ∀ r ∈ rs, first ≤ r.1) : first ≤ n := by
  obtain ⟨r, hr, hle, -⟩ := h
  exact Nat.le_trans (hfirst r hr) hle

theorem containsCode_iff (h : Ascending rs) : containsCode rs n = true ↔ Covers rs n := by
  induction rs with
  | nil => simp [containsCode, Covers]
  | cons r rs ih =>
    obtain ⟨hr, hrs⟩ := List.pairwise_cons.mp h
    rw [containsCode, covers_cons]
    split
    · next hlt =>
      have hnot : ¬ Covers rs n := fun hcovers => by
        have := hcovers.le hr
        omega
      simp only [Bool.false_eq_true, hnot, or_false, false_iff]
      omega
    · next hle =>
      rw [Bool.or_eq_true, decide_eq_true_iff, ih hrs]
      have hfirst : r.1 ≤ n := Nat.le_of_not_lt hle
      simp only [hfirst, true_and]

/-- Joining ranges that touch moves no code point in or out, and none before the first. -/
theorem joinRanges_spec (h : Ascending ((first, last) :: rs)) :
    Ascending (joinRanges first last rs) ∧ (∀ r ∈ joinRanges first last rs, first ≤ r.1) ∧
      ∀ n, Covers (joinRanges first last rs) n ↔ Covers ((first, last) :: rs) n := by
  induction rs generalizing first last with
  | nil => exact ⟨List.pairwise_singleton _ _, by simp [joinRanges], fun n => Iff.rfl⟩
  | cons r rs ih =>
    obtain ⟨f, l⟩ := r
    obtain ⟨hfirst, hrest⟩ := List.pairwise_cons.mp h
    obtain ⟨hf, hrs⟩ := List.pairwise_cons.mp hrest
    have hle : first ≤ f := hfirst _ List.mem_cons_self
    rw [joinRanges]
    split
    · next htouch =>
      have hjoined : Ascending ((first, max last l) :: rs) :=
        List.pairwise_cons.mpr ⟨fun r hr => Nat.le_trans hle (hf r hr), hrs⟩
      obtain ⟨hasc, hall, hcovers⟩ := ih hjoined
      refine ⟨hasc, hall, fun n => ?_⟩
      rw [hcovers, covers_cons, covers_cons, covers_cons, ← or_assoc]
      refine or_congr_left ?_
      dsimp only
      omega
    · obtain ⟨hasc, hall, hcovers⟩ := ih hrest
      have hall' : ∀ r ∈ joinRanges f l rs, first ≤ r.1 := fun r hr => Nat.le_trans hle (hall r hr)
      refine ⟨List.pairwise_cons.mpr ⟨hall', hasc⟩,
        List.forall_mem_cons.mpr ⟨Nat.le_refl _, hall'⟩, fun n => ?_⟩
      rw [covers_cons, hcovers, covers_cons, covers_cons, covers_cons]

/-- A set of ranges has the code points in any of them. -/
theorem contains_ofRanges : (ofRanges rs).contains c = true ↔ Covers rs c.toNat := by
  have hperm := List.mergeSort_perm rs fun a b => decide (a.1 ≤ b.1)
  have hsorted : Ascending (rs.mergeSort fun a b => decide (a.1 ≤ b.1)) := by
    refine (List.pairwise_mergeSort ?_ ?_ rs).imp of_decide_eq_true
    · intro a b d hab hbd
      exact decide_eq_true (Nat.le_trans (of_decide_eq_true hab) (of_decide_eq_true hbd))
    · intro a b
      simp only [Bool.or_eq_true, decide_eq_true_iff]
      exact Nat.le_total _ _
  have hcovers : Covers rs c.toNat ↔
      Covers (rs.mergeSort fun a b => decide (a.1 ≤ b.1)) c.toNat := by
    simp only [Covers, hperm.mem_iff]
  rw [hcovers, contains, ofRanges]
  generalize (rs.mergeSort fun a b => decide (a.1 ≤ b.1)) = sorted at hsorted
  cases sorted with
  | nil => simp [empty, containsCode, Covers]
  | cons r sorted =>
    obtain ⟨hasc, -, hjoined⟩ := joinRanges_spec hsorted
    exact (containsCode_iff hasc).trans (hjoined _)

end CharSet

/-- Signs of addresses are not in words. -/
theorem Class.not_contains_word (h : c ∈ ['?', '#']) : Class.word.contains c = false := by
  rw [Bool.eq_false_iff, Ne, Class.word, CharSet.contains_ofRanges]
  simp only [List.mem_cons, List.not_mem_nil, or_false] at h
  obtain rfl | rfl := h
  · decide +kernel
  · decide +kernel

end PageRecords.Unicode
