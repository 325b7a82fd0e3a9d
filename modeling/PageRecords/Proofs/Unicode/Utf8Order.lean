import PageRecords.Proofs.Unicode.Utf8RoundTrip

/-!
# Texts and their bytes are in the same order

UTF-8 keeps the order of code points: one text comes before another if and only if its bytes
do (`encode_lt_iff`). A smaller character has a shorter encoding, whose first byte is
smaller, or one of the same length that is smaller where the two part.
-/

namespace PageRecords.Unicode.Utf8

variable {m n : Nat} {c d : Char} {x y : List UInt8}

/-- The first bytes of two lists decide. -/
theorem byte_cons_lt (h : m < n) (hn : n < 256) : UInt8.ofNat m :: x < UInt8.ofNat n :: y := by
  rw [List.cons_lt_cons_iff, UInt8.lt_iff_toNat_lt, toNat_byte (by omega), toNat_byte hn]
  exact .inl h

/-- The first bytes of two lists decide unless they are the same. -/
theorem byte_cons_lt_of_le (h : m ≤ n) (hn : n < 256) (hrest : m = n → x < y) :
    UInt8.ofNat m :: x < UInt8.ofNat n :: y := by
  rcases Nat.lt_or_eq_of_le h with h | rfl
  · exact byte_cons_lt h hn
  · exact List.cons_lt_cons_iff.mpr (.inr ⟨rfl, hrest rfl⟩)

/-- Of two characters the smaller one decides, whatever follows. -/
theorem encodeChar_append_lt (h : c < d) :
    String.utf8EncodeChar c ++ x < String.utf8EncodeChar d ++ y := by
  have hd := toNat_bounds d
  replace h : c.val.toNat < d.val.toNat := h
  change d.val.toNat < 0xd800 ∨ (0xdfff < d.val.toNat ∧ d.val.toNat < 0x110000) at hd
  rw [String.utf8EncodeChar, String.utf8EncodeChar]
  generalize c.val.toNat = m at h
  generalize d.val.toNat = n at h hd
  -- The larger character first, so that the smaller one is known to be no longer.
  by_cases h1 : n ≤ 0x7f
  · rw [if_pos h1, if_pos (show m ≤ 0x7f by omega)]
    exact byte_cons_lt h (by omega)
  by_cases h2 : n ≤ 0x7ff
  · rw [if_neg h1, if_pos h2]
    split
    · exact byte_cons_lt (by omega) (by omega)
    · rw [if_pos (show m ≤ 0x7ff by omega)]
      exact byte_cons_lt_of_le (by omega) (by omega) fun _ => byte_cons_lt (by omega) (by omega)
  by_cases h3 : n ≤ 0xffff
  · rw [if_neg h1, if_neg h2, if_pos h3]
    split
    · exact byte_cons_lt (by omega) (by omega)
    split
    · exact byte_cons_lt (by omega) (by omega)
    · rw [if_pos (show m ≤ 0xffff by omega)]
      exact byte_cons_lt_of_le (by omega) (by omega) fun _ =>
        byte_cons_lt_of_le (by omega) (by omega) fun _ => byte_cons_lt (by omega) (by omega)
  · rw [if_neg h1, if_neg h2, if_neg h3]
    split
    · exact byte_cons_lt (by omega) (by omega)
    split
    · exact byte_cons_lt (by omega) (by omega)
    split
    · exact byte_cons_lt (by omega) (by omega)
    · exact byte_cons_lt_of_le (by omega) (by omega) fun _ =>
        byte_cons_lt_of_le (by omega) (by omega) fun _ =>
        byte_cons_lt_of_le (by omega) (by omega) fun _ => byte_cons_lt (by omega) (by omega)

theorem encodeChar_ne_nil (c : Char) : String.utf8EncodeChar c ≠ [] := by
  rw [← List.length_pos_iff, String.length_utf8EncodeChar]
  exact c.utf8Size_pos

theorem encode_cons (c : Char) (cs : List Char) :
    encode (c :: cs) = String.utf8EncodeChar c ++ encode cs :=
  List.flatMap_cons

theorem encode_lt {cs ds : List Char} (h : cs < ds) : encode cs < encode ds := by
  induction cs generalizing ds with
  | nil =>
    cases ds with
    | nil => cases h
    | cons d ds =>
      rw [encode_cons]
      cases hd : String.utf8EncodeChar d with
      | nil => exact (encodeChar_ne_nil d hd).elim
      | cons b bs => exact List.nil_lt_cons b _
  | cons c cs ih =>
    cases ds with
    | nil => cases h
    | cons d ds =>
      rw [encode_cons, encode_cons]
      rcases List.cons_lt_cons_iff.mp h with hfirst | ⟨rfl, hrest⟩
      · exact encodeChar_append_lt hfirst
      · exact List.append_left_lt (ih hrest)

/-- Texts are ordered as their bytes are. -/
theorem encode_lt_iff {cs ds : List Char} : encode cs < encode ds ↔ cs < ds := by
  refine ⟨fun h => Decidable.not_not.mp fun hnot => ?_, encode_lt⟩
  rcases List.le_iff_lt_or_eq.mp (List.not_lt.mp hnot) with hgt | rfl
  · exact List.lt_asymm h (encode_lt hgt)
  · exact List.lt_irrefl _ h

end PageRecords.Unicode.Utf8
