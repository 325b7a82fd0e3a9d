import PageRecords.Extract.Block
import PageRecords.Proofs.Dom.Growth
import PageRecords.Proofs.Extract.Outcome

/-!
# Runs

Work on a forest runs to a result and the forest afterwards. The primitives are
given by equations; `Runs` relates a program to the result it should have, and says
that the forest afterwards is well formed and has only grown.
-/

namespace PageRecords

open Dom (Forest Node NodeId Place)

namespace Extract

variable {α β α' β' : Type} {f g base : Forest} {i : NodeId}

/-- A program run on a forest. -/
def exec (x : Extract α) (f : Forest) : Except BadSelector α × Forest := x.run.run f

-- --------------------------------------------------------------------
-- Primitives
-- --------------------------------------------------------------------

@[simp] theorem exec_pure (a : α) (f : Forest) : exec (pure a) f = (.ok a, f) := rfl

theorem exec_bind (x : Extract α) (k : α → Extract β) (f : Forest) :
    exec (x >>= k) f =
      match exec x f with
      | (.ok a, g) => exec (k a) g
      | (.error e, g) => (.error e, g) := by
  simp only [exec, ExceptT.run_bind, StateT.run_bind]
  rcases x.run.run f with ⟨r, g⟩
  cases r <;> rfl

theorem exec_bind_ok {x : Extract α} {k : α → Extract β} {a : α} (h : exec x f = (.ok a, g)) :
    exec (x >>= k) f = exec (k a) g := by
  rw [exec_bind, h]

theorem exec_bind_error {x : Extract α} {k : α → Extract β} {e : BadSelector}
    (h : exec x f = (.error e, g)) : exec (x >>= k) f = (.error e, g) := by
  rw [exec_bind, h]

@[simp] theorem exec_compile (selector : String) (f : Forest) :
    exec (compile selector) f = (compiled selector, f) := by
  simp only [compile, compiled]
  cases Selector.parse? selector <;> rfl

/-- Reading a selector and applying it to the forest. -/
theorem exec_applied (selector : String) (use : Forest → Selector → α) (f : Forest) :
    exec (do let s ← compile selector; return use (← get) s) f =
      ((compiled selector).map (use f), f) := by
  rw [exec_bind, exec_compile]
  cases compiled selector <;> rfl

theorem exec_select (i : NodeId) (selector : String) (f : Forest) :
    exec (select i selector) f = ((compiled selector).map fun s => f.select i s, f) :=
  exec_applied selector (·.select i) f

theorem exec_accepts (i : NodeId) (selector : String) (f : Forest) :
    exec (accepts i selector) f = ((compiled selector).map fun s => f.accepts i s, f) :=
  exec_applied selector (·.accepts i) f

theorem exec_siblingsUntil (i : NodeId) (stop : String) (f : Forest) :
    exec (siblingsUntil i stop) f = ((compiled stop).map fun s => f.siblingsUntil i s, f) :=
  exec_applied stop (·.siblingsUntil i) f

theorem exec_removeMatching {selector : String} {s : Selector} (h : compiled selector = .ok s)
    (i : NodeId) (f : Forest) :
    exec (removeMatching i selector) f = (.ok (), f.removeMatching i s) := by
  rw [removeMatching, exec_bind_ok (by rw [exec_compile, h])]
  rfl

theorem exec_removeMatching_error {selector : String} {e : BadSelector}
    (h : compiled selector = .error e) (i : NodeId) (f : Forest) :
    exec (removeMatching i selector) f = (.error e, f) := by
  rw [removeMatching, exec_bind_error (by rw [exec_compile, h])]

@[simp] theorem exec_modify (change : Forest → Forest) (f : Forest) :
    exec (modify change) f = (.ok (), change f) := rfl

@[simp] theorem exec_get (f : Forest) : exec get f = (.ok f, f) := rfl

-- --------------------------------------------------------------------
-- Programs and their results
-- --------------------------------------------------------------------

/-- Both succeed with related results, or both fail alike. -/
inductive Agree (R : α → β → Prop) : Except BadSelector α → Except BadSelector β → Prop
  | ok {a b} : R a b → Agree R (.ok a) (.ok b)
  | error (e) : Agree R (.error e) (.error e)

/-- `x` run on `f` gives what `y` says, up to `R`. The forest afterwards is well formed
and grown from `base`. -/
structure Runs (base f : Forest) (x : Extract α) (y : Except BadSelector β)
    (R : Forest → α → β → Prop) : Prop where
  wellFormed : (exec x f).2.WellFormed
  grows : base.Grows (exec x f).2
  agree : Agree (R (exec x f).2) (exec x f).1 y

variable {x : Extract α} {y : Except BadSelector β} {R : Forest → α → β → Prop}
  {R' : Forest → α' → β' → Prop}

namespace Runs

theorem of_ok {a : α} {b : β} (h : exec x f = (.ok a, g)) (wf : g.WellFormed)
    (grows : base.Grows g) (hR : R g a b) : Runs base f x (.ok b) R := by
  refine ⟨?_, ?_, ?_⟩ <;> rw [h]
  · exact wf
  · exact grows
  · exact .ok hR

theorem of_error {e : BadSelector} (h : exec x f = (.error e, g)) (wf : g.WellFormed)
    (grows : base.Grows g) : Runs (β := β) base f x (.error e) R := by
  refine ⟨?_, ?_, ?_⟩ <;> rw [h]
  · exact wf
  · exact grows
  · exact .error e

/-- A run is that of its first part, then that of the rest. -/
theorem bind {k : α → Extract α'} {k' : β → Except BadSelector β'} (hx : Runs base f x y R)
    (hk : ∀ g a b, g.WellFormed → base.Grows g → R g a b → Runs base g (k a) (k' b) R') :
    Runs base f (x >>= k) (y >>= k') R' := by
  obtain ⟨wf, grows, agree⟩ := hx
  rcases h : exec x f with ⟨r, g⟩
  rw [h] at wf grows agree
  cases agree with
  | ok hR =>
    obtain ⟨wf', grows', agree'⟩ := hk g _ _ wf grows hR
    have hrun := exec_bind_ok (k := k) h
    exact ⟨hrun ▸ wf', hrun ▸ grows', hrun ▸ agree'⟩
  | error e => exact of_error (exec_bind_error h) wf grows

/-- A first part that certainly succeeds can be run ahead. -/
theorem after {z : Extract α'} {a : α'} {k : α' → Extract α} (h : exec z f = (.ok a, g))
    (hk : Runs base g (k a) y R) : Runs base f (z >>= k) y R := by
  have hrun := exec_bind_ok (k := k) h
  exact ⟨hrun ▸ hk.wellFormed, hrun ▸ hk.grows, hrun ▸ hk.agree⟩

theorem of_base {f' : Forest} (hbase : base.Grows f') (h : Runs f' f x y R) :
    Runs base f x y R :=
  ⟨h.wellFormed, hbase.trans h.grows, h.agree⟩

end Runs

end Extract

end PageRecords
