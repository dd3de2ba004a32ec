import Mathlib.Algebra.Order.BigOperators.Group.List
import Mathlib.Algebra.Order.Group.Unbundled.Basic
import Mathlib.Tactic.Abel
import Mathlib.Tactic.GCongr
import StoryForge.Library.Machine

/-!
# Reservations against a limit

An account has a limit, an amount spent, and holds: amounts reserved for work in progress.
A hold is taken only while spent, held and the new amount fit the limit together; it is
given back once, and what the work cost is added to what was spent. The limit can be moved
anywhere above what is spent and held.

Amounts live in any linearly ordered additive commutative group.

## Main results

* `Account.solvent_of_reachable` — if no work costs more than its hold, an account never
  exceeds its limit, whatever the order of the operations.
-/

universe u

/-- An account. A closed hold is `none`, so holds keep their positions. -/
structure Account (G : Type u) where
  limit : G
  spent : G
  holds : List (Option G)

namespace Account

variable {G : Type u} [AddCommGroup G]

/-- The sum of a list of holds. -/
def total (holds : List (Option G)) : G := (holds.map (·.getD 0)).sum

@[simp] theorem total_nil : total ([] : List (Option G)) = 0 := rfl

@[simp] theorem total_append (holds : List (Option G)) (hold : Option G) :
    total (holds ++ [hold]) = total holds + hold.getD 0 := by
  simp [total]

/-- Closing a hold takes its amount off the total. -/
theorem total_set_none {holds : List (Option G)} {i : ℕ} {r : G}
    (hi : holds[i]? = some (some r)) : total (holds.set i none) = total holds - r := by
  induction holds generalizing i with
  | nil => simp at hi
  | cons hold holds ih =>
      cases i with
      | zero =>
          obtain rfl : hold = some r := Option.some.inj hi
          simp [total]
      | succ i =>
          have h := ih (i := i) (by simpa using hi)
          simp only [total, List.set_cons_succ, List.map_cons, List.sum_cons] at h ⊢
          rw [h, add_sub_assoc]

variable [LinearOrder G]

/-- A total of non-negative holds is at least each of them. -/
theorem le_total [IsOrderedAddMonoid G] {holds : List (Option G)} (h : ∀ r, some r ∈ holds → 0 ≤ r) {i : ℕ} {r : G}
    (hi : holds[i]? = some (some r)) : r ≤ total holds := by
  have hmem : r ∈ holds.map (·.getD 0) :=
    List.mem_map.mpr ⟨some r, List.mem_of_getElem? hi, rfl⟩
  refine List.single_le_sum (fun x hx => ?_) r hmem
  obtain ⟨hold, hhold, rfl⟩ := List.mem_map.mp hx
  cases hold with
  | none => exact le_rfl
  | some r => exact h r hhold

/-- What is reserved. -/
def held (a : Account G) : G := total a.holds

/-- The operations on an account. -/
inductive Operation (G : Type u)
  | take (r : G)
  | close (i : ℕ) (cost : G)
  | relimit (limit : G)

/-- The effect of an operation; `none` when it is refused. -/
def apply (a : Account G) : Operation G → Option (Account G)
  | .take r =>
      if a.spent + a.held + r ≤ a.limit then some { a with holds := a.holds ++ [some r] } else none
  | .close i cost =>
      match a.holds[i]? with
      | some (some _) => some { a with spent := a.spent + cost, holds := a.holds.set i none }
      | _ => none
  | .relimit limit => if a.spent + a.held ≤ limit then some { a with limit } else none

/-- Holds are not negative, and no work costs more than its hold. -/
def Fair (a : Account G) : Operation G → Prop
  | .take r => 0 ≤ r
  | .close i cost => 0 ≤ cost ∧ ∀ r, a.holds[i]? = some (some r) → cost ≤ r
  | .relimit _ => True

/-- Accounts, starting empty. -/
def machine (G : Type u) [AddCommGroup G] [LinearOrder G] :
    Machine (Account G) (Operation G) where
  init a := a = ⟨0, 0, []⟩
  next := apply

/-- An account within its limit. -/
structure Solvent (a : Account G) : Prop where
  spent_nonneg : 0 ≤ a.spent
  holds_nonneg : ∀ r, some r ∈ a.holds → 0 ≤ r
  within : a.spent + a.held ≤ a.limit

variable [IsOrderedAddMonoid G]

theorem Solvent.held_nonneg {a : Account G} (h : a.Solvent) : 0 ≤ a.held := by
  refine List.sum_nonneg fun x hx => ?_
  obtain ⟨hold, hhold, rfl⟩ := List.mem_map.mp hx
  cases hold with
  | none => exact le_rfl
  | some r => exact h.holds_nonneg r hhold

/-- Every fair operation keeps an account solvent. -/
theorem Solvent.apply {a a' : Account G} {op : Operation G} (h : a.Solvent) (hfair : a.Fair op)
    (hop : a.apply op = some a') : a'.Solvent := by
  cases op with
  | take r =>
      simp only [Account.apply, Option.ite_none_right_eq_some, Option.some.injEq] at hop
      obtain ⟨hroom, rfl⟩ := hop
      refine ⟨h.spent_nonneg, fun q hq => ?_, ?_⟩
      · rcases List.mem_append.mp hq with hold | hnew
        · exact h.holds_nonneg q hold
        · obtain rfl := Option.some.inj (List.mem_singleton.mp hnew)
          exact hfair
      · simpa [held, add_assoc] using hroom
  | close i cost =>
      simp only [Account.apply] at hop
      split at hop
      · rename_i r hi
        obtain rfl := Option.some.inj hop
        obtain ⟨hcost, hle⟩ := hfair
        refine ⟨add_nonneg h.spent_nonneg hcost, fun q hq => ?_, ?_⟩
        · rcases List.mem_or_eq_of_mem_set hq with hold | hnew
          · exact h.holds_nonneg q hold
          · exact absurd hnew (by simp)
        · calc a.spent + cost + total (a.holds.set i none)
              = a.spent + a.held + (cost - r) := by
                rw [total_set_none hi, held]
                abel
            _ ≤ a.spent + a.held + 0 := by
                gcongr
                exact sub_nonpos.mpr (hle r hi)
            _ ≤ a.limit := by simpa using h.within
      · exact absurd hop (by simp)
  | relimit limit =>
      simp only [Account.apply, Option.ite_none_right_eq_some, Option.some.injEq] at hop
      obtain ⟨hroom, rfl⟩ := hop
      exact ⟨h.spent_nonneg, h.holds_nonneg, hroom⟩

/-- **Solvency.** Whatever the order of fair operations, an account stays within its
limit. -/
theorem solvent_of_reachable {a : Account G} (ha : (machine G).ReachableUnder Fair a) :
    a.Solvent := by
  refine ha.invariant (I := Solvent) (fun a hinit => ?_)
    fun a op a' _ h hfair hop => h.apply hfair hop
  obtain rfl := hinit
  exact ⟨le_rfl, by simp, by simp [held]⟩

end Account
