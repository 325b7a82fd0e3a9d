import PageRecords.Unicode.Utf8

/-!
# Encoded text reads back

The bytes of a text decode to that text, so nothing of it is marked as broken:
`decodeLossy_encode`. A character is followed through the states of the decoder, one
lemma for each byte that its encoding may start or go on with.
-/

namespace PageRecords.Unicode

theorem charOfCode?_toNat (c : Char) : charOfCode? c.toNat = some c := by
  have hvalid : c.toNat.isValidChar := c.valid
  rw [charOfCode?, if_pos hvalid, Char.ofNat_toNat]

namespace Utf8

variable {m bits least most : Nat} {rest : List UInt8}

theorem toNat_byte (h : m < 256) : (UInt8.ofNat m).toNat = m := UInt8.toNat_ofNat_of_lt' h

-- --------------------------------------------------------------------
-- First bytes
-- --------------------------------------------------------------------

theorem start_one (h : m < 0x80) : start (.ofNat m) = (some (charOfCode? m), .ready) := by
  have hb : (UInt8.ofNat m).toNat = m := toNat_byte (by omega)
  simp only [start, hb, h, if_true]

theorem start_two (hlow : 2 ≤ m) (hhigh : m < 32) :
    start (.ofNat (m + 192)) = (none, .inside m 1 0x80 0xbf) := by
  have hb : (UInt8.ofNat (m + 192)).toNat = m + 192 := toNat_byte (by omega)
  have hbits : (m + 192) % 32 = m := by omega
  rw [start, hb]
  simp only [show ¬m + 192 < 0x80 by omega, show ¬m + 192 < 0xc2 by omega,
    show m + 192 < 0xe0 by omega, hbits, if_true, if_false]

theorem start_three (h : m < 16) :
    start (.ofNat (m + 224)) =
      (none, .inside m 2 (if m = 0 then 0xa0 else 0x80) (if m = 13 then 0x9f else 0xbf)) := by
  have hb : (UInt8.ofNat (m + 224)).toNat = m + 224 := toNat_byte (by omega)
  have hbits : (m + 224) % 16 = m := by omega
  rw [start, hb]
  simp only [show ¬m + 224 < 0x80 by omega, show ¬m + 224 < 0xc2 by omega,
    show ¬m + 224 < 0xe0 by omega, show m + 224 < 0xf0 by omega, hbits, if_true, if_false,
    show (m + 224 = 0xe0) = (m = 0) by simp, show (m + 224 = 0xed) = (m = 13) by simp]

theorem start_four (h : m < 5) :
    start (.ofNat (m + 240)) =
      (none, .inside m 3 (if m = 0 then 0x90 else 0x80) (if m = 4 then 0x8f else 0xbf)) := by
  have hb : (UInt8.ofNat (m + 240)).toNat = m + 240 := toNat_byte (by omega)
  have hbits : (m + 240) % 8 = m := by omega
  rw [start, hb]
  simp only [show ¬m + 240 < 0x80 by omega, show ¬m + 240 < 0xc2 by omega,
    show ¬m + 240 < 0xe0 by omega, show ¬m + 240 < 0xf0 by omega, show m + 240 < 0xf5 by omega,
    hbits, if_true, if_false,
    show (m + 240 = 0xf0) = (m = 0) by simp, show (m + 240 = 0xf4) = (m = 4) by simp]

-- --------------------------------------------------------------------
-- Further bytes
-- --------------------------------------------------------------------

theorem decodeFrom_start {b : UInt8} {st : State} (h : start b = (none, st)) :
    decodeFrom .ready (b :: rest) = decodeFrom st rest := by
  simp [decodeFrom, h]

theorem decodeFrom_more {left : Nat} (hm : m < 64) (hleast : least ≤ m + 128)
    (hmost : m + 128 ≤ most) :
    decodeFrom (.inside bits (left + 2) least most) (.ofNat (m + 128) :: rest) =
      decodeFrom (.inside (bits * 64 + m) (left + 1) 0x80 0xbf) rest := by
  have hb : (UInt8.ofNat (m + 128)).toNat = m + 128 := toNat_byte (by omega)
  have hbits : (m + 128) % 64 = m := by omega
  rw [decodeFrom, hb]
  simp [hleast, hmost, hbits]

theorem decodeFrom_last (hm : m < 64) (hleast : least ≤ m + 128) (hmost : m + 128 ≤ most) :
    decodeFrom (.inside bits 1 least most) (.ofNat (m + 128) :: rest) =
      charOfCode? (bits * 64 + m) :: decodeFrom .ready rest := by
  have hb : (UInt8.ofNat (m + 128)).toNat = m + 128 := toNat_byte (by omega)
  have hbits : (m + 128) % 64 = m := by omega
  rw [decodeFrom, hb]
  simp [hleast, hmost, hbits]

-- --------------------------------------------------------------------
-- Characters and texts
-- --------------------------------------------------------------------

/-- No character lies among the surrogates or past the last code point. -/
theorem toNat_bounds (c : Char) :
    c.toNat < 0xd800 ∨ (0xdfff < c.toNat ∧ c.toNat < 0x110000) := c.valid

theorem decodeFrom_encodeChar (c : Char) (rest : List UInt8) :
    decodeFrom .ready (String.utf8EncodeChar c ++ rest) = some c :: decodeFrom .ready rest := by
  have hvalid := toNat_bounds c
  rw [← charOfCode?_toNat c]
  change decodeFrom .ready (String.utf8EncodeChar c ++ rest) =
    charOfCode? c.val.toNat :: decodeFrom .ready rest
  change c.val.toNat < 0xd800 ∨ (0xdfff < c.val.toNat ∧ c.val.toNat < 0x110000) at hvalid
  rw [String.utf8EncodeChar]
  generalize c.val.toNat = n at hvalid
  -- The encoding is as long as the code point is large.
  split
  · simp only [List.cons_append, List.nil_append, decodeFrom, start_one (show n < 0x80 by omega),
      Option.toList_some]
  split
  · rw [List.cons_append, decodeFrom_start (start_two (by omega) (by omega)), List.cons_append,
      decodeFrom_last (by omega) (by omega) (by omega), List.nil_append]
    congr 2
    omega
  split
  · rw [List.cons_append, decodeFrom_start (start_three (by omega)), List.cons_append,
      decodeFrom_more (by omega) (by split <;> omega) (by split <;> omega), List.cons_append,
      decodeFrom_last (by omega) (by omega) (by omega), List.nil_append]
    congr 2
    omega
  · rw [List.cons_append, decodeFrom_start (start_four (by omega)), List.cons_append,
      decodeFrom_more (by omega) (by split <;> omega) (by split <;> omega), List.cons_append,
      decodeFrom_more (by omega) (by omega) (by omega), List.cons_append,
      decodeFrom_last (by omega) (by omega) (by omega), List.nil_append]
    congr 2
    omega

theorem decode_encode (cs : List Char) : decode (encode cs) = cs.map some := by
  rw [decode]
  induction cs with
  | nil => rfl
  | cons c rest ih =>
    rw [encode, List.flatMap_cons, decodeFrom_encodeChar, List.map_cons]
    exact congrArg _ ih

theorem decodeLossy_encode (cs : List Char) : decodeLossy (encode cs) = cs := by
  rw [decodeLossy, decode_encode, List.map_map]
  exact List.map_id cs

end Utf8

end PageRecords.Unicode
