import Mathlib.Logic.Basic

/-!
# Machines, guarded runs and invariants

A `Machine` is a set of start states and a partial step function: `next s a` is the
state after action `a`, or `none` when `a` cannot happen in `s`. An interleaving of
several parties is one machine whose actions name the party and what it does.

Reachability comes with a **guard**: `ReachableUnder ok` contains the states of the runs
whose every step satisfies `ok`, so a condition on runs is a condition on their steps.
`Reachable` is the unguarded case.

## Main results

* `ReachableUnder.invariant` — what holds at the start and is kept by every guarded step
  holds in every state reached under the guard;
* `ReachableUnder.mono` — a stronger guard reaches fewer states;
* `ReachableUnder.of_guardedRun` — a list of actions that executes under the guard ends
  in a reachable state (the executable side: guards and steps compute);
* `ReachableUnder.simulation` — a machine whose steps are matched by steps of another, or
  by none, reaches only states related to reachable ones;
* `withHistory_fst` — a history variable adds no behaviour.
-/

universe u v w

/-- A transition system with explicit actions and a deterministic effect per action. -/
structure Machine (σ : Type u) (α : Type v) where
  /-- The states a run may start from. -/
  init : σ → Prop
  /-- The effect of an action, `none` when the action is not enabled. -/
  next : σ → α → Option σ

namespace Machine

variable {σ : Type u} {α : Type v} {γ : Type w}

/-- The states of the runs all of whose steps satisfy `ok`. -/
inductive ReachableUnder (M : Machine σ α) (ok : σ → α → Prop) : σ → Prop
  | start {s : σ} (hs : M.init s) : ReachableUnder M ok s
  | step {s s' : σ} {a : α} (hs : ReachableUnder M ok s) (hok : ok s a)
      (hnext : M.next s a = some s') : ReachableUnder M ok s'

/-- The states of all runs. -/
abbrev Reachable (M : Machine σ α) : σ → Prop :=
  M.ReachableUnder fun _ _ => True

/-- **Invariant rule.** The step case may use that its pre-state is itself reachable, so
invariants established earlier are at hand. -/
theorem ReachableUnder.invariant {M : Machine σ α} {ok : σ → α → Prop} {I : σ → Prop}
    (hinit : ∀ s, M.init s → I s)
    (hstep : ∀ s a s', M.ReachableUnder ok s → I s → ok s a → M.next s a = some s' → I s')
    {s : σ} (hs : M.ReachableUnder ok s) : I s := by
  induction hs with
  | start hs => exact hinit _ hs
  | step hs hok hnext ih => exact hstep _ _ _ hs ih hok hnext

/-- A stronger guard reaches fewer states. -/
theorem ReachableUnder.mono {M : Machine σ α} {ok ok' : σ → α → Prop}
    (himp : ∀ s a, ok s a → ok' s a) {s : σ} (hs : M.ReachableUnder ok s) :
    M.ReachableUnder ok' s := by
  induction hs with
  | start hs => exact .start hs
  | step _ hok hnext ih => exact .step ih (himp _ _ hok) hnext

/-- Forgetting the guard. -/
theorem ReachableUnder.reachable {M : Machine σ α} {ok : σ → α → Prop} {s : σ}
    (hs : M.ReachableUnder ok s) : M.Reachable s :=
  hs.mono fun _ _ _ => trivial

/-- The rest of a run: the machine that goes on from a state. -/
def startingAt (M : Machine σ α) (s : σ) : Machine σ α where
  init := (· = s)
  next := M.next

/-- What is reached from a reachable state is reachable. -/
theorem ReachableUnder.goesOn {M : Machine σ α} {ok : σ → α → Prop} {s s' : σ}
    (hs : M.ReachableUnder ok s) (hlater : (M.startingAt s).ReachableUnder ok s') :
    M.ReachableUnder ok s' := by
  induction hlater with
  | start heq => exact heq ▸ hs
  | step _ hok hnext ih => exact .step ih hok hnext

/-- Execute a list of actions, checking the guard before each. -/
def guardedRun (M : Machine σ α) (ok : σ → α → Prop) [∀ s a, Decidable (ok s a)] :
    σ → List α → Option σ
  | s, [] => some s
  | s, a :: as => if ok s a then (M.next s a).bind fun s' => M.guardedRun ok s' as else none

/-- An executed list of guarded actions is a guarded run. -/
theorem ReachableUnder.of_guardedRun {M : Machine σ α} {ok : σ → α → Prop}
    [∀ s a, Decidable (ok s a)] {s s' : σ} {as : List α} (hs : M.ReachableUnder ok s)
    (hrun : M.guardedRun ok s as = some s') : M.ReachableUnder ok s' := by
  induction as generalizing s with
  | nil =>
      obtain rfl : s = s' := Option.some.inj hrun
      exact hs
  | cons a as ih =>
      unfold guardedRun at hrun
      split at hrun
      · rename_i hok
        obtain ⟨mid, hmid, hrest⟩ := Option.bind_eq_some_iff.mp hrun
        exact ih (.step hs hok hmid) hrest
      · exact absurd hrun (by simp)

/-- A computed check on the end of a guarded run yields a reachable state satisfying it. -/
theorem exists_reachableUnder (M : Machine σ α) (ok : σ → α → Prop)
    [∀ s a, Decidable (ok s a)] (as : List α) (p : σ → Prop) [DecidablePred p] {s : σ}
    (hs : M.init s) (hrun : (M.guardedRun ok s as).any (fun s' => decide (p s')) = true) :
    ∃ s', M.ReachableUnder ok s' ∧ p s' := by
  obtain ⟨s', hs', hp⟩ := Option.any_eq_true _ _ |>.mp hrun
  exact ⟨s', .of_guardedRun (.start hs) hs', of_decide_eq_true hp⟩

/-- The same without a guard. -/
theorem exists_reachable (M : Machine σ α) (as : List α) (p : σ → Prop) [DecidablePred p]
    {s : σ} (hs : M.init s)
    (hrun : (M.guardedRun (fun _ _ => True) s as).any (fun s' => decide (p s')) = true) :
    ∃ s', M.Reachable s' ∧ p s' :=
  M.exists_reachableUnder _ as p hs hrun

/-! ### Simulation -/

/-- **Forward simulation.** `R` relates a machine to an abstract one. If starts are related
to starts and every guarded step is matched by a guarded step or by none, then every
reachable state is related to a reachable one. The step case may use that both states are
reachable. -/
theorem ReachableUnder.simulation {τ : Type u} {β : Type v} {M : Machine σ α} {N : Machine τ β}
    {ok : σ → α → Prop} {ok' : τ → β → Prop} {R : σ → τ → Prop}
    (hinit : ∀ s, M.init s → ∃ t, N.init t ∧ R s t)
    (hstep : ∀ s t a s', M.ReachableUnder ok s → N.ReachableUnder ok' t → R s t → ok s a →
      M.next s a = some s' → R s' t ∨ ∃ b t', ok' t b ∧ N.next t b = some t' ∧ R s' t')
    {s : σ} (hs : M.ReachableUnder ok s) : ∃ t, N.ReachableUnder ok' t ∧ R s t := by
  induction hs with
  | start hs =>
      obtain ⟨t, ht, hR⟩ := hinit _ hs
      exact ⟨t, .start ht, hR⟩
  | step hs hok hnext ih =>
      obtain ⟨t, ht, hR⟩ := ih
      rcases hstep _ t _ _ hs ht hR hok hnext with hR' | ⟨b, t', hok', hnext', hR'⟩
      · exact ⟨t, ht, hR'⟩
      · exact ⟨t', .step ht hok' hnext', hR'⟩

/-! ### History variables -/

/-- The machine `M` carrying a history: `record` sees the step but cannot influence it. -/
def withHistory (M : Machine σ α) (start : σ → γ) (record : γ → σ → α → σ → γ) :
    Machine (σ × γ) α where
  init p := M.init p.1 ∧ p.2 = start p.1
  next p a := (M.next p.1 a).map fun s' => (s', record p.2 p.1 a s')

theorem withHistory_next {M : Machine σ α} {start : σ → γ} {record : γ → σ → α → σ → γ}
    {p p' : σ × γ} {a : α} :
    (M.withHistory start record).next p a = some p' ↔
      M.next p.1 a = some p'.1 ∧ p'.2 = record p.2 p.1 a p'.1 := by
  simp only [withHistory, Option.map_eq_some_iff]
  constructor
  · rintro ⟨s', hs', rfl⟩
    exact ⟨hs', rfl⟩
  · rintro ⟨hs', hrec⟩
    exact ⟨p'.1, hs', Prod.ext rfl hrec.symm⟩

/-- Erasing the history gives a run of the machine. -/
theorem withHistory_fst {M : Machine σ α} {start : σ → γ} {record : γ → σ → α → σ → γ}
    {ok : σ → α → Prop} {p : σ × γ}
    (hp : (M.withHistory start record).ReachableUnder (fun q a => ok q.1 a) p) :
    M.ReachableUnder ok p.1 := by
  induction hp with
  | start hp => exact .start hp.1
  | step _ hok hnext ih => exact .step ih hok (withHistory_next.mp hnext).1

end Machine
