import Mathlib.Logic.Function.Basic
import StoryForge.Usage.Models

/-!
# `BudgetService`

Project budgets: money is reserved before a provider call and settled or released after
it, each in a transaction that locks the row of the project. `reserve` first makes sure
the row exists, in a transaction of its own (`getOrCreate`), and then takes the reservation
(`reserveLocked`); a disabled budget reserves nothing and admits every call.

The service never raises from `settle` and `release`.

## Main results

* `BudgetService.reserveLocked_eq_ok` — what a granted reservation changes.
-/

namespace StoryForge

/-- Write the budget row of a project. -/
def UsageDatabase.setBudget (db : UsageDatabase) (projectId : ℕ) (budget : ProjectBudget) :
    UsageDatabase :=
  { db with projectBudgets := Function.update db.projectBudgets projectId (some budget) }

section SetBudget

variable (db : UsageDatabase) (projectId : ℕ) (budget : ProjectBudget)

@[simp] theorem UsageDatabase.setBudget_self :
    (db.setBudget projectId budget).projectBudgets projectId = some budget :=
  Function.update_self ..

@[simp] theorem UsageDatabase.setBudget_projects :
    (db.setBudget projectId budget).projects = db.projects := rfl

@[simp] theorem UsageDatabase.setBudget_providerCalls :
    (db.setBudget projectId budget).providerCalls = db.providerCalls := rfl

@[simp] theorem UsageDatabase.setBudget_workflowRuns :
    (db.setBudget projectId budget).workflowRuns = db.workflowRuns := rfl

@[simp] theorem UsageDatabase.setBudget_idempotencyRecords :
    (db.setBudget projectId budget).idempotencyRecords = db.idempotencyRecords := rfl

end SetBudget

/-- The fields of a budget that `set` writes. -/
structure BudgetPolicy where
  softLimit : Amount
  hardLimit : Amount
  currency : String
  period : BudgetPeriod
  enabled : Bool
  deriving DecidableEq, Repr

namespace BudgetService

/-- A new budget row. -/
def newBudget (policy : BudgetPolicy) : ProjectBudget where
  currency := policy.currency
  softLimit := policy.softLimit
  hardLimit := policy.hardLimit
  period := policy.period
  spentEstimated := 0
  spentBilled := 0
  reservedEstimated := 0
  enabled := policy.enabled

/-- The policy a project starts with. -/
def defaultPolicy (settings : Settings) : BudgetPolicy where
  softLimit := settings.projectSoftBudget
  hardLimit := settings.projectHardBudget
  currency := settings.defaultCurrency
  period := .lifetime
  enabled := true

/-- The error of a missing project. -/
def projectNotFound (projectId : ℕ) : Error :=
  .entityNotFoundError ("Project " ++ toString projectId ++ " was not found")

/-- `get_or_create`. -/
def getOrCreate (settings : Settings) (projectId : ℕ) (db : UsageDatabase) :
    Except Error (ProjectBudget × UsageDatabase) :=
  if db.projects[projectId]?.isNone then .error (projectNotFound projectId)
  else
    match db.projectBudgets projectId with
    | some budget => .ok (budget, db)
    | none =>
        let budget := newBudget (defaultPolicy settings)
        .ok (budget, db.setBudget projectId budget)

/-- `set`: edit the policy; the hard limit cannot go below current usage. -/
def set (projectId : ℕ) (policy : BudgetPolicy) (db : UsageDatabase) :
    Except Error (ProjectBudget × UsageDatabase) :=
  if policy.softLimit < 0 ∨ policy.hardLimit ≤ 0 ∨ policy.softLimit > policy.hardLimit then
    .error (.valueError "Budget limits are invalid")
  else
    match db.projectBudgets projectId with
    | none =>
        if db.projects[projectId]?.isNone then .error (projectNotFound projectId)
        else .ok (newBudget policy, db.setBudget projectId (newBudget policy))
    | some budget =>
        if policy.hardLimit < budget.spentEstimated + budget.reservedEstimated then
          .error (.budgetBlockedError "Hard budget cannot be lower than current usage")
        else
          let budget :=
            { budget with
              softLimit := policy.softLimit
              hardLimit := policy.hardLimit
              currency := policy.currency
              period := policy.period
              enabled := policy.enabled }
          .ok (budget, db.setBudget projectId budget)

/-- The amount to reserve for an estimate: unknown prices are refused or count as zero. -/
def knownCost (settings : Settings) (estimatedCost : Option Amount) : Except Error Amount :=
  match estimatedCost with
  | some cost => .ok cost
  | none =>
      if settings.allowUnknownPricing then .ok 0
      else .error (.budgetBlockedError "Unknown model pricing is blocked by policy")

/-- The reserving transaction of `reserve`. -/
def reserveLocked (projectId : ℕ) (estimatedCost : Amount) (db : UsageDatabase) :
    Except Error (BudgetDecision × UsageDatabase) :=
  match db.projectBudgets projectId with
  | none => .error (.runtimeError "Project budget disappeared during reservation")
  | some budget =>
      if budget.enabled = false then .ok (⟨true, false, "budget_disabled", 0⟩, db)
      else
        let projected := budget.spentEstimated + budget.reservedEstimated + estimatedCost
        if projected > budget.hardLimit then
          .error (.budgetBlockedError "Project hard budget would be exceeded")
        else
          let budget' :=
            { budget with reservedEstimated := budget.reservedEstimated + estimatedCost }
          let warning := decide (projected ≥ budget.softLimit)
          .ok (⟨true, warning, if warning then "soft_limit_warning" else "within_budget",
            estimatedCost⟩, db.setBudget projectId budget')

/-- A granted reservation: nothing of a disabled budget, or an amount there is room for. -/
theorem reserveLocked_eq_ok {projectId : ℕ} {cost : Amount} {db db' : UsageDatabase}
    {decision : BudgetDecision} (h : reserveLocked projectId cost db = .ok (decision, db')) :
    ∃ budget, db.projectBudgets projectId = some budget ∧
      (decision.reservedAmount = 0 ∧ db' = db ∨
        decision.reservedAmount = cost ∧
          budget.spentEstimated + budget.reservedEstimated + cost ≤ budget.hardLimit ∧
          db' = db.setBudget projectId
            { budget with reservedEstimated := budget.reservedEstimated + cost }) := by
  unfold reserveLocked at h
  split at h
  · exact absurd h (by simp)
  rename_i budget hbudget
  refine ⟨budget, hbudget, ?_⟩
  split at h
  · obtain ⟨rfl, rfl⟩ := Prod.mk.inj (Except.ok.inj h)
    exact .inl ⟨rfl, rfl⟩
  · dsimp only at h
    split at h
    · exact absurd h (by simp)
    · rename_i hroom
      obtain ⟨rfl, rfl⟩ := Prod.mk.inj (Except.ok.inj h)
      exact .inr ⟨rfl, not_lt.mp hroom, rfl⟩

/-- `settle`: give a reservation back, never below zero, and add what the call cost. -/
def settle (projectId : ℕ) (reserved : Amount) (estimatedCost billedCost : Option Amount)
    (db : UsageDatabase) : UsageDatabase :=
  match db.projectBudgets projectId with
  | none => db
  | some budget =>
      db.setBudget projectId
        { budget with
          reservedEstimated := max 0 (budget.reservedEstimated - reserved)
          spentEstimated := budget.spentEstimated + estimatedCost.getD 0
          spentBilled := budget.spentBilled + billedCost.getD 0 }

/-- `release`. -/
def release (projectId : ℕ) (reserved : Amount) (db : UsageDatabase) : UsageDatabase :=
  settle projectId reserved none none db

/-- `check_workflow`: the call, token and cost ceilings of a workflow run. -/
def checkWorkflow (settings : Settings) (workflowRunId : Option ℕ)
    (estimatedCost : Option Amount) (estimatedTokens : ℕ) (db : UsageDatabase) :
    Except Error Unit :=
  match workflowRunId with
  | none => .ok ()
  | some runId =>
      match db.workflowRuns[runId]? with
      | none =>
          .error (.entityNotFoundError ("Workflow run " ++ toString runId ++ " was not found"))
      | some workflow =>
          if workflow.providerCallCount + 1 > settings.workflowMaxProviderCalls then
            .error (.budgetBlockedError "Workflow provider call limit would be exceeded")
          else if workflow.providerInputTokens + workflow.providerOutputTokens +
              estimatedTokens > settings.workflowMaxTokens then
            .error (.budgetBlockedError "Workflow token limit would be exceeded")
          else
            match estimatedCost with
            | none =>
                if settings.allowUnknownPricing then .ok ()
                else .error (.budgetBlockedError "Unknown workflow pricing is blocked by policy")
            | some cost =>
                if workflow.providerEstimatedCost + cost > settings.workflowMaxCost then
                  .error (.budgetBlockedError
                    "Workflow estimated cost limit would be exceeded")
                else .ok ()

end BudgetService

end StoryForge
