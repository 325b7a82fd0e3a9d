import PageRecords.Proofs.Unicode.Utf8RoundTrip
import PageRecords.Url.Form

/-!
# Written pairs read back

Writing a list of pairs as a query and reading the query gives the list again, whatever
its names and values hold: `Form.read_write`. A byte is written as itself, as a plus sign
or as a percent sign and two digits, and each of the three is read back as the byte.
-/

namespace PageRecords.Url

open Unicode (Utf8.encode Utf8.decodeLossy)

-- --------------------------------------------------------------------
-- Percent coding
-- --------------------------------------------------------------------

namespace Percent

theorem decodeFrom_plain {b : UInt8} (hb : b ≠ 0x25) (rest : List UInt8) :
    decodeFrom 0 (b :: rest) = b :: decodeFrom 0 rest := by
  simp [decodeFrom, hb]

theorem decodeFrom_digits {x y : UInt8} {high low : Nat} (hx : digit? x = some high)
    (hy : digit? y = some low) (rest : List UInt8) :
    decodeFrom 0 (0x25 :: x :: y :: rest) =
      UInt8.ofNat (high * 16 + low) :: decodeFrom 0 rest := by
  have hpair : pair? (x :: y :: rest) = some (UInt8.ofNat (high * 16 + low)) := by
    simp only [pair?, hx, hy]
    rfl
  simp only [decodeFrom, hpair, if_true]

/-- The byte of a digit's character. -/
def digitByte (n : Nat) : UInt8 := .ofNat (hexDigit n).toNat

theorem hexDigit_spec : ∀ n < 16, String.utf8EncodeChar (hexDigit n) = [digitByte n] ∧
    digit? (digitByte n) = some n ∧ hexDigit n ∉ ['+', '&', '='] := by
  decide

end Percent

namespace Form

-- --------------------------------------------------------------------
-- Bytes
-- --------------------------------------------------------------------

/-- The bytes that the reader sees of what a byte is written as. -/
def written (b : UInt8) : List UInt8 :=
  Utf8.encode ((encodeByte b).map fun c => if c = '+' then ' ' else c)

/-- A byte that is written as itself is no percent sign, and its character is neither a
separator nor a plus sign. -/
theorem isPlain_spec : ∀ n < 256, isPlain (.ofNat n) → UInt8.ofNat n ≠ 0x25 ∧
    String.utf8EncodeChar (Char.ofNat n) = [.ofNat n] ∧ Char.ofNat n ∉ ['+', '&', '='] := by
  decide +kernel

theorem decodeFrom_written (b : UInt8) (rest : List UInt8) :
    Percent.decodeFrom 0 (written b ++ rest) = b :: Percent.decodeFrom 0 rest := by
  have hlt : b.toNat < 256 := b.toNat_lt
  rw [written, encodeByte]
  split
  · next hplain =>
    obtain ⟨hne, hbyte, hsep⟩ := isPlain_spec b.toNat hlt (by simpa using hplain)
    rw [UInt8.ofNat_toNat] at hne hbyte
    have hplus : Char.ofNat b.toNat ≠ '+' := by
      rintro h
      simp [h] at hsep
    simp only [List.map_cons, List.map_nil, hplus, if_false, Utf8.encode, List.flatMap_cons,
      List.flatMap_nil, List.append_nil, hbyte]
    exact Percent.decodeFrom_plain hne rest
  · split
    · next hspace =>
      subst hspace
      exact Percent.decodeFrom_plain (by decide) rest
    · obtain ⟨hx, hhigh, hxs⟩ := Percent.hexDigit_spec (b.toNat / 16) (by omega)
      obtain ⟨hy, hlow, hys⟩ := Percent.hexDigit_spec (b.toNat % 16) (by omega)
      have hvalue : UInt8.ofNat (b.toNat / 16 * 16 + b.toNat % 16) = b := by
        rw [Nat.div_add_mod', UInt8.ofNat_toNat]
      simp only [List.mem_cons, not_or] at hxs hys
      have hpercent : String.utf8EncodeChar '%' = [0x25] := rfl
      have hplus : '%' ≠ '+' := by decide
      simp only [Percent.byte, List.map_cons, List.map_nil, hxs.1, hys.1, if_false, Utf8.encode,
        List.flatMap_cons, List.flatMap_nil, hx, hy, hpercent, hplus]
      exact (Percent.decodeFrom_digits hhigh hlow rest).trans (by rw [hvalue])

theorem decodeFrom_flatMap_written (bytes : List UInt8) :
    Percent.decodeFrom 0 (bytes.flatMap written) = bytes := by
  induction bytes with
  | nil => rfl
  | cons b rest ih => rw [List.flatMap_cons, decodeFrom_written, ih]

/-- A separator is written with its digits only. -/
theorem not_mem_encodeByte {c : Char} (hc : c = '&' ∨ c = '=') (b : UInt8) :
    c ∉ encodeByte b := by
  have hlt : b.toNat < 256 := b.toNat_lt
  have hmem : c ∈ ['+', '&', '='] := by
    rcases hc with rfl | rfl <;> decide
  rw [encodeByte]
  split
  · next hplain =>
    obtain ⟨-, -, hsep⟩ := isPlain_spec b.toNat hlt (by simpa using hplain)
    intro h
    exact hsep (List.mem_singleton.mp h ▸ hmem)
  · split
    · rcases hc with rfl | rfl <;> decide
    · obtain ⟨-, -, hx⟩ := Percent.hexDigit_spec (b.toNat / 16) (by omega)
      obtain ⟨-, -, hy⟩ := Percent.hexDigit_spec (b.toNat % 16) (by omega)
      have hpercent : c ≠ '%' := by
        rcases hc with rfl | rfl <;> decide
      simp only [Percent.byte, List.mem_cons, List.not_mem_nil, or_false, not_or]
      exact ⟨hpercent, fun h => hx (h ▸ hmem), fun h => hy (h ▸ hmem)⟩

-- --------------------------------------------------------------------
-- Names and values
-- --------------------------------------------------------------------

theorem decode_encode (s : String) : decode (encode s) = s := by
  have hbytes : Utf8.encode ((encode s).map fun c => if c = '+' then ' ' else c) =
      (Utf8.encode s.toList).flatMap written := by
    simp only [Utf8.encode, encode, List.map_flatMap, List.flatMap_assoc]
    rfl
  rw [decode, hbytes, Percent.decode, decodeFrom_flatMap_written, Unicode.Utf8.decodeLossy_encode,
    String.ofList_toList]

theorem not_mem_encode {c : Char} (hc : c = '&' ∨ c = '=') (s : String) : c ∉ encode s := by
  simp [encode, List.mem_flatMap, not_mem_encodeByte hc]

theorem decodePair_encodePair (p : String × String) : decodePair (encodePair p) = p := by
  have hname : ∀ c ∈ encode p.1, c ≠ '=' := by
    rintro c hc rfl
    exact not_mem_encode (.inr rfl) p.1 hc
  rw [decodePair, encodePair, List.takeWhile_append_of_pos (by simpa using hname),
    List.dropWhile_append_of_pos (by simpa using hname)]
  simp [decode_encode]

theorem encodePair_ne_nil (p : String × String) : encodePair p ≠ [] := by
  simp [encodePair]

theorem not_mem_encodePair (p : String × String) : '&' ∉ encodePair p := by
  simp [encodePair, not_mem_encode]

-- --------------------------------------------------------------------
-- Pairs
-- --------------------------------------------------------------------

theorem read_write (ps : Pairs) : read (write ps) = ps := by
  by_cases hps : ps = []
  · subst hps
    rfl
  have hsplit : (write ps).splitOn '&' = ps.map encodePair := by
    refine List.splitOn_intercalate '&' ?_ (by simpa using hps)
    intro part hpart
    obtain ⟨p, -, rfl⟩ := List.mem_map.mp hpart
    exact not_mem_encodePair p
  have hkeep : (ps.map encodePair).filter (!·.isEmpty) = ps.map encodePair := by
    refine List.filter_eq_self.mpr fun part hpart => ?_
    obtain ⟨p, -, rfl⟩ := List.mem_map.mp hpart
    simp [encodePair_ne_nil]
  have hpairs : decodePair ∘ encodePair = id := funext decodePair_encodePair
  rw [read, hsplit, hkeep, List.map_map, hpairs, List.map_id]

end Form

end PageRecords.Url
