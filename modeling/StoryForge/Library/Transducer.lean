import Mathlib.Logic.Basic

/-!
# Objects that answer

A `Transducer` is an object with state that answers every operation. Two of them are
indistinguishable when they answer every sequence of operations alike; a relation between
their states that every operation keeps, with equal answers, shows that they are.

## Main results

* `run_eq_of_simulation` — related objects answer all sequences of operations alike.
-/

universe u v w x

/-- An object with state: an operation yields an answer and the next state. -/
structure Transducer (σ : Type u) (α : Type v) (β : Type w) where
  start : σ
  step : σ → α → β × σ

namespace Transducer

variable {σ : Type u} {α : Type v} {β : Type w} {τ : Type x}

/-- The answers to a sequence of operations. -/
def runFrom (M : Transducer σ α β) : σ → List α → List β
  | _, [] => []
  | s, a :: as => (M.step s a).1 :: M.runFrom (M.step s a).2 as

/-- The answers from the start. -/
def run (M : Transducer σ α β) (as : List α) : List β := M.runFrom M.start as

/-- **Simulation.** A relation that every operation keeps, with equal answers. -/
theorem run_eq_of_simulation {M : Transducer σ α β} {N : Transducer τ α β} (R : σ → τ → Prop)
    (hstart : R M.start N.start)
    (hstep : ∀ s t a, R s t →
      (M.step s a).1 = (N.step t a).1 ∧ R (M.step s a).2 (N.step t a).2)
    (as : List α) : M.run as = N.run as := by
  have hrun : ∀ s t, R s t → M.runFrom s as = N.runFrom t as := by
    induction as with
    | nil => intro s t _; rfl
    | cons a as ih =>
        intro s t h
        obtain ⟨hanswer, hnext⟩ := hstep s t a h
        rw [runFrom, runFrom, hanswer, ih _ _ hnext]
  exact hrun _ _ hstart

end Transducer
