import Mathlib.Data.Nat.Notation
import Mathlib.Logic.Relation

/-!
# Loops that end by themselves

A `Rounds σ ρ` is a loop over a state: a round ends the loop with a result or hands a state to
the next round. A number that every round that goes on makes smaller bounds the rounds, so that
the loop ends.

## Main results

* `Rounds.exists_last` — the result of the loop is that of a round it comes to;
* `Rounds.exists_last_of_invariant` — and what the start satisfies and every round keeps holds
  before that round.
-/

universe u v

/-- A loop whose rounds end it or go on, with less to spare than before. -/
structure Rounds (σ : Type u) (ρ : Type v) where
  /-- One round: the result of the loop, or the state of the next round. -/
  round : σ → ρ ⊕ σ
  /-- How many more rounds there can be. -/
  spare : σ → ℕ
  /-- A round that goes on uses some of it. -/
  spare_lt : ∀ {s s' : σ}, round s = .inr s' → spare s' < spare s

namespace Rounds

variable {σ : Type u} {ρ : Type v}

/-- Run the loop. -/
def run (loop : Rounds σ ρ) (s : σ) : ρ :=
  match _hround : loop.round s with
  | .inl result => result
  | .inr s' => loop.run s'
termination_by loop.spare s
decreasing_by exact loop.spare_lt _hround

variable {loop : Rounds σ ρ} {s s' : σ} {result : ρ}

theorem run_of_inl (h : loop.round s = .inl result) : loop.run s = result := by
  rw [run]
  split
  case h_1 other hother => exact Sum.inl.inj (hother.symm.trans h)
  case h_2 other hother => exact absurd (hother.symm.trans h) (by simp)

theorem run_of_inr (h : loop.round s = .inr s') : loop.run s = loop.run s' := by
  rw [run]
  split
  case h_1 other hother => exact absurd (hother.symm.trans h) (by simp)
  case h_2 other hother => rw [Sum.inr.inj (hother.symm.trans h)]

/-- The states the loop comes to. -/
def Reaches (loop : Rounds σ ρ) : σ → σ → Prop :=
  Relation.ReflTransGen fun s s' => loop.round s = .inr s'

/-- **The last round.** Its result is that of the loop. -/
theorem exists_last (loop : Rounds σ ρ) (s : σ) :
    ∃ last, loop.Reaches s last ∧ loop.round last = .inl (loop.run s) := by
  induction hspare : loop.spare s using Nat.strongRecOn generalizing s with
  | _ n ih =>
      cases hround : loop.round s with
      | inl result => exact ⟨s, .refl, by rw [run_of_inl hround, hround]⟩
      | inr s' =>
          obtain ⟨last, hreaches, hlast⟩ := ih _ (hspare ▸ loop.spare_lt hround) s' rfl
          exact ⟨last, .head hround hreaches, by rw [run_of_inr hround, hlast]⟩

/-- What every round keeps holds of all states the loop comes to. -/
theorem Reaches.invariant {I : σ → Prop} (h : loop.Reaches s s') (hs : I s)
    (hround : ∀ s s', I s → loop.round s = .inr s' → I s') : I s' := by
  induction h with
  | refl => exact hs
  | tail _ hstep ih => exact hround _ _ ih hstep

/-- **Invariant rule.** The last round begins in a state that satisfies what the start
satisfies and every round keeps. -/
theorem exists_last_of_invariant (loop : Rounds σ ρ) {I : σ → Prop} (hs : I s)
    (hround : ∀ s s', I s → loop.round s = .inr s' → I s') :
    ∃ last, I last ∧ loop.round last = .inl (loop.run s) := by
  obtain ⟨last, hreaches, hlast⟩ := loop.exists_last s
  exact ⟨last, hreaches.invariant hs hround, hlast⟩

end Rounds
