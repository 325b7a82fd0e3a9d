import Mathlib.Data.List.Basic
import Mathlib.Data.List.Induction

/-!
# Names in the order in which they came

`List.eraseDups` keeps the first of each name. The laws of records and of registries need what
it does with one more name at the end, and what then comes before a name. `List.lookup` takes
the first entry of a name.
-/

namespace PageRecords

variable {α : Type} [BEq α] [LawfulBEq α]

/-- A name at the end counts only if it is new. -/
theorem eraseDups_concat (xs : List α) (x : α) :
    (xs ++ [x]).eraseDups = if x ∈ xs then xs.eraseDups else xs.eraseDups ++ [x] := by
  rw [List.eraseDups_append]
  by_cases hx : x ∈ xs
  · simp [List.removeAll, hx]
  · simp [List.removeAll, hx, List.eraseDups_cons]

theorem nodup_eraseDups (xs : List α) : xs.eraseDups.Nodup := by
  induction xs using List.reverseRecOn with
  | nil => exact .nil
  | append_singleton xs x ih =>
    rw [eraseDups_concat]
    split
    · exact ih
    · next hx =>
      refine List.nodup_append.mpr ⟨ih, by simp, ?_⟩
      rintro y hy z hz rfl
      exact hx (List.mem_singleton.mp hz ▸ List.mem_eraseDups.mp hy)

theorem eraseDups_of_nodup {xs : List α} (h : xs.Nodup) : xs.eraseDups = xs := by
  induction xs using List.reverseRecOn with
  | nil => rfl
  | append_singleton xs x ih =>
    obtain ⟨hxs, -, hx⟩ := List.nodup_append.mp h
    rw [eraseDups_concat, if_neg fun hmem => hx x hmem x (by simp) rfl, ih hxs]

/-- What comes before a name once repetitions are gone is what comes before it at first. -/
theorem mem_before_eraseDups {xs before after : List α} {x y : α}
    (h : xs.eraseDups = before ++ x :: after) :
    y ∈ before ↔ ∃ front back, xs = front ++ back ∧ y ∈ front ∧ x ∉ front := by
  have hnodup := nodup_eraseDups xs
  rw [h, List.nodup_append, List.nodup_cons] at hnodup
  obtain ⟨-, ⟨hafter, -⟩, hapart⟩ := hnodup
  have hbefore : x ∉ before := fun hmem => hapart x hmem x List.mem_cons_self rfl
  have hfronts : ∀ front back, xs = front ++ x :: back → x ∉ front → front.eraseDups = before := by
    rintro front back rfl hfront
    have hfirst : x ∉ front.eraseDups := fun hmem => hfront (List.mem_eraseDups.mp hmem)
    have hkept : (x :: back).removeAll front = x :: back.removeAll front := by
      simp [List.removeAll, hfront]
    rw [List.eraseDups_append, hkept, List.eraseDups_cons] at h
    exact ((List.append_cons_inj_of_notMem hbefore hafter).mp h.symm).1.symm
  have hmem : x ∈ xs := List.mem_eraseDups.mp (h ▸ by simp)
  constructor
  · intro hy
    obtain ⟨front, back, hxs, hfront⟩ := List.eq_append_cons_of_mem hmem
    rw [← hfronts front back hxs hfront, List.mem_eraseDups] at hy
    exact ⟨front, x :: back, hxs, hy, hfront⟩
  · rintro ⟨front, back, hxs, hy, hfront⟩
    have hback : x ∈ back := by
      rw [hxs, List.mem_append] at hmem
      exact hmem.resolve_left hfront
    obtain ⟨middle, back, rfl, hmiddle⟩ := List.eq_append_cons_of_mem hback
    have hboth : x ∉ front ++ middle := by simp [hfront, hmiddle]
    rw [← hfronts (front ++ middle) back (by rw [hxs, List.append_assoc]) hboth, List.mem_eraseDups]
    exact List.mem_append_left middle hy

theorem lookup_cons_if {κ β : Type} [DecidableEq κ] (entry : κ × β) (entries : List (κ × β))
    (name : κ) :
    (entry :: entries).lookup name =
      if name = entry.1 then some entry.2 else entries.lookup name := by
  obtain ⟨key, value⟩ := entry
  rw [List.lookup_cons]
  by_cases h : name = key
  · simp [h]
  · simp only [beq_false_of_ne h, h, if_false]

end PageRecords
