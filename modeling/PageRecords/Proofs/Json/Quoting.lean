import Mathlib.Tactic.IntervalCases
import PageRecords.Json.Printer

/-!
# Quoted text

Each character inside quotes can be read back, whatever follows it (`readEscaped?_escapeChar`).
So no two texts are quoted alike: keys that differ are printed apart.
-/

namespace PageRecords.Json

/-- The characters that have a short form, with the letter after the backslash. -/
def shortForms : List (Char × Char) :=
  [('"', '"'), ('\\', '\\'), ('\n', 'n'), ('\r', 'r'), ('\t', 't'), ('\x08', 'b'), ('\x0c', 'f')]

def hexValue (c : Char) : Nat :=
  if c.isDigit then c.toNat - '0'.toNat else c.toNat - 'a'.toNat + 10

/-- The first character of what stands inside quotes, and the rest. -/
def readEscaped? : List Char → Option (Char × List Char)
  | '\\' :: 'u' :: '0' :: '0' :: high :: low :: rest =>
    some (Char.ofNat (16 * hexValue high + hexValue low), rest)
  | '\\' :: letter :: rest => (shortForms.find? (·.2 = letter)).map fun form => (form.1, rest)
  | c :: rest => some (c, rest)
  | [] => none

/-- A control without a short form. -/
theorem readEscaped?_control {c : Char} (h : c.toNat < 0x20) (rest : List Char) :
    readEscaped? ('\\' :: 'u' :: '0' :: '0' :: hexDigit (c.toNat / 16) :: hexDigit (c.toNat % 16) ::
      rest) = some (c, rest) := by
  obtain ⟨n, hn⟩ : ∃ n, n = c.toNat := ⟨_, rfl⟩
  have hc : c = Char.ofNat n := by rw [hn, Char.ofNat_toNat]
  rw [readEscaped?, ← hn, hc]
  rw [← hn] at h
  interval_cases n <;> rfl

theorem readEscaped?_plain {c : Char} (h : c ≠ '\\') (rest : List Char) :
    readEscaped? (c :: rest) = some (c, rest) := by
  unfold readEscaped?
  split
  · next heq => exact (h (List.cons.inj heq).1).elim
  · next heq => exact (h (List.cons.inj heq).1).elim
  · next heq =>
    cases heq
    rfl
  · next heq => cases heq

theorem readEscaped?_escapeChar (c : Char) (rest : List Char) :
    readEscaped? (escapeChar c ++ rest) = some (c, rest) := by
  by_cases hshort : c ∈ shortForms.map (·.1)
  · simp only [shortForms, List.map_cons, List.map_nil, List.mem_cons, List.not_mem_nil,
      or_false] at hshort
    rcases hshort with rfl | rfl | rfl | rfl | rfl | rfl | rfl <;> rfl
  · simp only [shortForms, List.map_cons, List.map_nil, List.mem_cons, List.not_mem_nil, or_false,
      not_or] at hshort
    simp only [escapeChar, hshort, if_false]
    split
    · next hcontrol => exact readEscaped?_control hcontrol rest
    · exact readEscaped?_plain hshort.2.1 rest

theorem eq_of_flatMap_escapeChar {cs ds : List Char}
    (h : cs.flatMap escapeChar = ds.flatMap escapeChar) : cs = ds := by
  induction cs generalizing ds with
  | nil =>
    cases ds with
    | nil => rfl
    | cons d ds =>
      have hd := readEscaped?_escapeChar d (ds.flatMap escapeChar)
      rw [← List.flatMap_cons, ← h] at hd
      cases hd
  | cons c cs ih =>
    have hc := readEscaped?_escapeChar c (cs.flatMap escapeChar)
    rw [← List.flatMap_cons, h] at hc
    cases ds with
    | nil => cases hc
    | cons d ds =>
      rw [List.flatMap_cons, readEscaped?_escapeChar] at hc
      obtain ⟨rfl, hrest⟩ := Prod.mk.inj (Option.some.inj hc)
      rw [ih hrest.symm]

/-- No two texts are quoted alike. -/
theorem quote_injective : Function.Injective quote := by
  intro s t h
  rw [quote, quote, String.ofList_inj, List.cons_append, List.cons_append, List.cons.injEq] at h
  exact String.toList_inj.mp (eq_of_flatMap_escapeChar (List.append_cancel_right h.2))

end PageRecords.Json
