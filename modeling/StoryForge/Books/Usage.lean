import Mathlib.Algebra.BigOperators.Group.List.Basic
import Mathlib.Data.List.Induction
import StoryForge.Models

/-!
# Usage of provider calls

A book run adds up what the provider calls of its chapters used. A call that succeeded is a row
with the workflow run it is attributed to; `forRun` tells whether an execution of the book run
made the call. Usages are added like numbers.

## Main results

* `usageWhere_concat` — the usage after one more call;
* `usageWhere_or` — calls of two disjoint kinds add up;
* `usageWhere_le` — some calls use no more than others they are among.
-/

namespace StoryForge

/-! ### Usage -/

/-- A provider call that succeeded. -/
structure SucceededCall where
  workflowRunId : Option ℕ
  totalTokens : ℕ
  estimatedCost : Option Amount
  forRun : Bool
  estimatedCost_nonneg : ∀ cost ∈ estimatedCost, 0 ≤ cost
  deriving DecidableEq, Repr

/-- Calls, tokens and cost. -/
@[ext] structure BookUsage where
  calls : ℕ
  tokens : ℕ
  cost : Amount
  deriving DecidableEq, Repr

namespace BookUsage

instance : Zero BookUsage := ⟨⟨0, 0, 0⟩⟩

instance : Add BookUsage := ⟨fun a b => ⟨a.calls + b.calls, a.tokens + b.tokens, a.cost + b.cost⟩⟩

@[simp] theorem zero_calls : (0 : BookUsage).calls = 0 := rfl
@[simp] theorem zero_tokens : (0 : BookUsage).tokens = 0 := rfl
@[simp] theorem zero_cost : (0 : BookUsage).cost = 0 := rfl
@[simp] theorem add_calls (a b : BookUsage) : (a + b).calls = a.calls + b.calls := rfl
@[simp] theorem add_tokens (a b : BookUsage) : (a + b).tokens = a.tokens + b.tokens := rfl
@[simp] theorem add_cost (a b : BookUsage) : (a + b).cost = a.cost + b.cost := rfl

instance : AddCommMonoid BookUsage where
  add_assoc a b c := BookUsage.ext (Nat.add_assoc _ _ _) (Nat.add_assoc _ _ _) (Int.add_assoc _ _ _)
  zero_add a := BookUsage.ext (Nat.zero_add _) (Nat.zero_add _) (Int.zero_add _)
  add_zero a := BookUsage.ext (Nat.add_zero _) (Nat.add_zero _) (Int.add_zero _)
  add_comm a b := BookUsage.ext (Nat.add_comm _ _) (Nat.add_comm _ _) (Int.add_comm _ _)
  nsmul := nsmulRec

end BookUsage

/-- What a call uses; a call without a price counts as free. -/
def SucceededCall.usage (call : SucceededCall) : BookUsage :=
  ⟨1, call.totalTokens, call.estimatedCost.getD 0⟩

/-- The usage of the calls that satisfy a condition. -/
def usageWhere (p : SucceededCall → Bool) (calls : List SucceededCall) : BookUsage :=
  ((calls.filter p).map (·.usage)).sum

section Usage

variable {p q : SucceededCall → Bool} {calls : List SucceededCall}

@[simp] theorem usageWhere_nil (p : SucceededCall → Bool) : usageWhere p [] = 0 := rfl

/-- The usage after one more call. -/
theorem usageWhere_concat (p : SucceededCall → Bool) (calls : List SucceededCall)
    (call : SucceededCall) :
    usageWhere p (calls ++ [call]) = usageWhere p calls + if p call then call.usage else 0 := by
  unfold usageWhere
  by_cases h : p call = true <;> simp [List.filter_append, h]

theorem usageWhere_congr (h : ∀ call ∈ calls, p call = q call) :
    usageWhere p calls = usageWhere q calls := by
  rw [usageWhere, usageWhere, List.filter_congr h]

/-- Calls of two disjoint kinds add up. -/
theorem usageWhere_or (hdisjoint : ∀ call ∈ calls, p call = true → q call = false) :
    usageWhere (fun call => p call || q call) calls = usageWhere p calls + usageWhere q calls := by
  induction calls using List.reverseRecOn with
  | nil => rfl
  | append_singleton calls call ih =>
      rw [usageWhere_concat, usageWhere_concat, usageWhere_concat,
        ih fun other hother => hdisjoint other (List.mem_append_left _ hother)]
      have hcall := hdisjoint call (by simp)
      cases hp : p call with
      | true => simp [hcall hp, add_right_comm]
      | false => simp [add_assoc]

/-- No call, no usage. -/
theorem usageWhere_eq_zero (h : ∀ call ∈ calls, p call = false) : usageWhere p calls = 0 := by
  have hfilter : calls.filter p = [] :=
    List.filter_eq_nil_iff.mpr fun call hcall => by simp [h call hcall]
  rw [usageWhere, hfilter]
  rfl

theorem usageWhere_cost_nonneg (p : SucceededCall → Bool) (calls : List SucceededCall) :
    0 ≤ (usageWhere p calls).cost := by
  induction calls using List.reverseRecOn with
  | nil => exact Int.le_refl 0
  | append_singleton calls call ih =>
      have hcost : 0 ≤ call.estimatedCost.getD 0 := by
        cases h : call.estimatedCost with
        | none => exact Int.le_refl 0
        | some amount => exact call.estimatedCost_nonneg amount h
      rw [usageWhere_concat]
      by_cases hp : p call = true
      · simp only [hp, if_true, BookUsage.add_cost, SucceededCall.usage]
        exact Int.add_nonneg ih hcost
      · simpa [hp] using ih

/-- Some calls use no more than others they are among. -/
theorem usageWhere_le (h : ∀ call ∈ calls, p call = true → q call = true) :
    (usageWhere p calls).calls ≤ (usageWhere q calls).calls ∧
      (usageWhere p calls).tokens ≤ (usageWhere q calls).tokens ∧
      (usageWhere p calls).cost ≤ (usageWhere q calls).cost := by
  have hsplit : usageWhere q calls =
      usageWhere p calls + usageWhere (fun call => q call && !p call) calls := by
    rw [← usageWhere_or (fun call _ hp => by simp [hp])]
    refine usageWhere_congr fun call hcall => ?_
    cases hp : p call with
    | true => simp [h call hcall hp]
    | false => simp
  have hcost := usageWhere_cost_nonneg (fun call => q call && !p call) calls
  rw [hsplit]
  refine ⟨by simp, by simp, ?_⟩
  rw [BookUsage.add_cost]
  exact Int.le_add_of_nonneg_right hcost

end Usage

end StoryForge
