import Mathlib.Algebra.BigOperators.Group.List.Basic
import Mathlib.Algebra.Group.Prod
import Mathlib.Algebra.Group.Int.Defs
import StoryForge.Providers.Gateway

/-!
# What the steps of a call change

The rules of a transaction and the effects of the transactions an attempt is made of: rows
are inserted at the end of the table and closed there, closing a row adds its usage to its
workflow run, and reservations and settlements move what a project has spent by exactly
the settled cost.

## Main results

* `Call.triple_transaction`, `Call.triple_note` — the rules of the two primitive steps;
* `insertCall_eq_ok`, `closeCall_last` — audit rows;
* `UsageDatabase.spent_settle`, `UsageDatabase.totals_modify` — what is spent and counted.
-/

namespace StoryForge

/-! ### The primitive steps -/

namespace Call

open Program

variable {α : Type} {P : CallState → Prop} {Q : α → CallState → Prop}
  {E : Error → CallState → Prop}

/-- A transaction commits, or raises and changes nothing. -/
theorem triple_transaction {fault : Option Error}
    {run : UsageDatabase → Except Error (α × UsageDatabase)}
    (hok : ∀ g, P g → fault = none → ∀ a db, run g.db = .ok (a, db) → Q a { g with db })
    (herr : ∀ g, P g → ∀ e, fault = some e ∨ run g.db = .error e → E e g) :
    Triple P (Call.transaction fault run) Q E := by
  refine Triple.act fun g hg => ?_
  cases hfault : fault with
  | some e => exact herr g hg e (.inl hfault)
  | none =>
      dsimp only
      cases hrun : run g.db with
      | error e => exact herr g hg e (.inr hrun)
      | ok result => exact hok g hg hfault _ _ hrun

/-- A reliable transaction that cannot be refused commits. -/
theorem triple_commit {fault : Option Error}
    {run : UsageDatabase → Except Error (α × UsageDatabase)} (hfault : fault = none)
    (hok : ∀ g, P g → ∃ a db, run g.db = .ok (a, db) ∧ Q a { g with db }) :
    Triple P (Call.transaction fault run) Q E := by
  refine triple_transaction (fun g hg _ a db hrun => ?_) fun g hg e he => ?_
  · obtain ⟨a', db', hrun', hQ⟩ := hok g hg
    obtain ⟨rfl, rfl⟩ := Prod.mk.inj (Except.ok.inj (hrun.symm.trans hrun'))
    exact hQ
  · obtain ⟨a', db', hrun', -⟩ := hok g hg
    rcases he with he | he
    · exact absurd (hfault.symm.trans he) (by simp)
    · exact absurd (hrun'.symm.trans he) (by simp)

/-- Writing history. -/
theorem triple_note {f : AttemptTrace → AttemptTrace} {Q : Unit → CallState → Prop}
    (h : ∀ g, P g → Q () { g with log := g.log.modifyHead f }) : Triple P (Call.note f) Q E :=
  Triple.update h

end Call

/-! ### Audit rows -/

/-- An inserted row is appended; its project and workflow run exist and its identity was
not in the table. -/
theorem insertCall_eq_ok {row : ProviderCall} {db db' : UsageDatabase} {id : ℕ}
    (h : insertCall row db = .ok (id, db')) :
    id = db.providerCalls.length ∧ db' = { db with providerCalls := db.providerCalls ++ [row] } ∧
      ∀ runId, row.workflowRunId = some runId → db.workflowRuns[runId]?.isSome := by
  unfold insertCall at h
  split at h
  · exact absurd h (by simp)
  split at h
  · exact absurd h (by simp)
  rename_i hrun
  split at h
  · exact absurd h (by simp)
  obtain ⟨rfl, rfl⟩ := Prod.mk.inj (Except.ok.inj h)
  refine ⟨rfl, rfl, fun runId hid => ?_⟩
  simpa [hid, Option.isSome_iff_ne_none] using hrun

/-- The row at the end of the table can be closed. -/
theorem closeCall_last {db : UsageDatabase} {rows : List ProviderCall} {row : ProviderCall}
    (hcalls : db.providerCalls = rows ++ [row]) (result : CallEnd) :
    ∃ db', closeCall rows.length result db = .ok ((), db') ∧
      db'.providerCalls = rows ++ [row.close result] ∧
      db'.projects = db.projects ∧ db'.projectBudgets = db.projectBudgets ∧
      db'.idempotencyRecords = db.idempotencyRecords ∧
      db'.workflowRuns = match row.workflowRunId with
        | none => db.workflowRuns
        | some runId => db.workflowRuns.modify runId (·.add row result) := by
  have hrow : db.providerCalls[rows.length]? = some row := by simp [hcalls]
  unfold closeCall
  rw [hrow]
  refine ⟨_, rfl, ?_, rfl, rfl, rfl, rfl⟩
  simp [hcalls]

/-! ### What is spent and counted -/

/-- Calls, input tokens, output tokens and cost. -/
abbrev Totals := ℤ × ℤ × ℤ × ℤ

/-- The counters of a workflow run. -/
def WorkflowUsage.totals (workflow : WorkflowUsage) : Totals :=
  (workflow.providerCallCount, workflow.providerInputTokens, workflow.providerOutputTokens,
    workflow.providerEstimatedCost)

/-- What one row counts for: a call, its tokens and its cost. -/
def ProviderCall.usage (row : ProviderCall) : Totals :=
  (1, row.inputTokens, row.outputTokens, row.estimatedCost.getD 0)

/-- What closing a row adds to its workflow run. -/
def CallEnd.totals (result : CallEnd) : Totals :=
  (1, ((result.usage.map (·.inputTokens)).getD 0 : ℕ),
    ((result.usage.map (·.outputTokens)).getD 0 : ℕ), result.estimatedCost.getD 0)

namespace UsageDatabase

/-- What a project has spent. -/
def spent (db : UsageDatabase) (projectId : ℕ) : Amount :=
  ((db.projectBudgets projectId).map (·.spentEstimated)).getD 0

/-- The counters of a workflow run. -/
def totals (db : UsageDatabase) (runId : ℕ) : Totals :=
  (db.workflowRuns[runId]?.map (·.totals)).getD 0

variable {db db' : UsageDatabase} {projectId : ℕ}

/-- `db'` differs from `db` in budgets only. -/
def SameButBudgets (db db' : UsageDatabase) : Prop :=
  ∃ projectBudgets, db' = { db with projectBudgets }

theorem SameButBudgets.refl (db : UsageDatabase) : SameButBudgets db db := ⟨_, rfl⟩

theorem sameButBudgets_setBudget (budget : ProjectBudget) :
    SameButBudgets db (db.setBudget projectId budget) := ⟨_, rfl⟩

/-- Opening a budget spends nothing, and makes the row exist. -/
theorem spent_getOrCreate {settings : Settings} {budget : ProjectBudget}
    (h : BudgetService.getOrCreate settings projectId db = .ok (budget, db')) :
    SameButBudgets db db' ∧ db'.spent projectId = db.spent projectId := by
  unfold BudgetService.getOrCreate at h
  split at h
  · exact absurd h (by simp)
  split at h
  · obtain ⟨-, rfl⟩ := Prod.mk.inj (Except.ok.inj h)
    exact ⟨.refl _, rfl⟩
  · rename_i hnone
    obtain ⟨-, rfl⟩ := Prod.mk.inj (Except.ok.inj h)
    exact ⟨sameButBudgets_setBudget _, by simp [spent, hnone, BudgetService.newBudget]⟩

/-- Reserving spends nothing; the budget it reserves from exists. -/
theorem spent_reserveLocked {cost : Amount} {decision : BudgetDecision}
    (h : BudgetService.reserveLocked projectId cost db = .ok (decision, db')) :
    SameButBudgets db db' ∧ db'.spent projectId = db.spent projectId ∧
      (db'.projectBudgets projectId).isSome := by
  obtain ⟨budget, hbudget, hcases⟩ := BudgetService.reserveLocked_eq_ok h
  rcases hcases with ⟨-, rfl⟩ | ⟨-, -, rfl⟩
  · exact ⟨.refl _, rfl, by simp [hbudget]⟩
  · exact ⟨sameButBudgets_setBudget _, by simp [spent, hbudget], by simp⟩

/-- Settling spends the settled cost. -/
theorem spent_settle {reserved : Amount} {cost : Option Amount}
    (h : (db.projectBudgets projectId).isSome) :
    (BudgetService.settle projectId reserved cost none db).spent projectId =
      db.spent projectId + cost.getD 0 := by
  obtain ⟨budget, hbudget⟩ := Option.isSome_iff_exists.mp h
  simp [BudgetService.settle, spent, hbudget]

theorem sameButBudgets_settle (reserved : Amount) (cost : Option Amount) :
    SameButBudgets db (BudgetService.settle projectId reserved cost none db) := by
  unfold BudgetService.settle
  split
  · exact .refl _
  · exact sameButBudgets_setBudget _

/-- Releasing spends nothing. -/
theorem spent_release (reserved : Amount) :
    (BudgetService.release projectId reserved db).spent projectId = db.spent projectId := by
  unfold BudgetService.release BudgetService.settle
  split
  · rfl
  · rename_i budget hbudget
    simp [spent, hbudget]

/-- Counting a closed row for an existing workflow run. -/
theorem totals_modify {row : ProviderCall} {result : CallEnd} {runId : ℕ}
    (hruns : db'.workflowRuns = db.workflowRuns.modify runId (·.add row result))
    (h : db.workflowRuns[runId]?.isSome) :
    db'.totals runId = db.totals runId + result.totals := by
  obtain ⟨workflow, hworkflow⟩ := Option.isSome_iff_exists.mp h
  simp [totals, hruns, hworkflow, WorkflowUsage.totals, WorkflowUsage.add, CallEnd.totals]

end UsageDatabase

end StoryForge
