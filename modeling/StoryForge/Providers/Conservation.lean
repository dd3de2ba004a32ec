import Mathlib.Algebra.Order.BigOperators.Group.List
import Mathlib.Algebra.Order.Monoid.Prod
import Mathlib.Algebra.Order.Ring.Int
import StoryForge.Providers.Effects

/-!
# Ledger conservation

What a call of the gateway does to the ledger: to the reservation of its project, to what
the project has spent, and to the counters of its workflow run. Every attempt charges the
ledger for the row it leaves behind, with one exception: when reporting to the breaker or
closing the idempotency record raises after the row was closed as succeeded and the
reservation settled, the handler takes the attempt for a failure. It releases the
reservation a second time, closes the row a second time, as failed, and counts it a second
time, while the money stays spent.

## Main results

* `Attempt.charged_run` — what one attempt charges;
* `CallSite.charged_attempts`, `CallSite.charged_candidates` — what the loops charge;
* `Gateway.conserved_iff` — a call conserves the ledger if and only if no charged attempt
  was overturned;
* `Gateway.conserved_fails` — a breaker that fails after a success breaks it.
-/

namespace StoryForge

open Program

/-- The budget and audit transactions at the end of an attempt commit. -/
structure Environment.LedgerReliable (env : Environment) : Prop where
  settle : ∀ n, (env.attempt n).settle = none
  release : ∀ n, (env.attempt n).release = none
  finishFailedCall : ∀ n, (env.attempt n).finishFailedCall = none

/-- A row counted as one call without tokens or cost. -/
def oneCall : Totals := (1, 0, 0, 0)

theorem CallEnd.totals_failure (e : Error) : (CallEnd.failure e).totals = oneCall := rfl

/-- A failure is neither a success nor still running. -/
theorem ProviderCall.close_failure_status (row : ProviderCall) (e : Error) :
    (row.close (.failure e)).status ≠ .succeeded ∧ (row.close (.failure e)).status ≠ .running := by
  change statusForError e ≠ .succeeded ∧ statusForError e ≠ .running
  unfold statusForError
  split <;> simp

/-- A row closed with a usage counts for what closing it adds to its workflow run. -/
theorem ProviderCall.usage_close (row : ProviderCall) {result : CallEnd}
    (h : result.usage.isSome) : (row.close result).usage = result.totals := by
  obtain ⟨usage, husage⟩ := Option.isSome_iff_exists.mp h
  simp [ProviderCall.usage, ProviderCall.close, CallEnd.totals, husage]

theorem ProviderCall.usage_close_failure (row : ProviderCall) (e : Error) :
    (row.close (.failure e)).usage = row.usage := rfl

/-- What a row left behind has cost its project. -/
def ProviderCall.succeededCost (row : ProviderCall) : Amount :=
  if row.status = .succeeded then row.estimatedCost.getD 0 else 0

/-- What a row left behind counts for: nothing until it is closed. -/
def ProviderCall.charge (row : ProviderCall) : Totals :=
  if row.status = .running then 0 else row.usage

/-- An attempt whose row was closed as succeeded and that raised afterwards. -/
def Environment.Overturned (env : Environment) (t : AttemptTrace) : Prop :=
  t.completed = true ∧
    ((env.attempt t.attempt).recordSuccess.isSome = true ∨
      (env.attempt t.attempt).succeed.isSome = true)

instance (env : Environment) (t : AttemptTrace) : Decidable (env.Overturned t) :=
  inferInstanceAs (Decidable (_ ∧ _))

namespace CallSite

variable (site : CallSite)

/-- What an overturned attempt spent for nothing. -/
def overspent (t : AttemptTrace) : Amount := if site.env.Overturned t then t.cost else 0

/-- What an overturned attempt counted twice. -/
def overcount (t : AttemptTrace) : Totals := if site.env.Overturned t then oneCall else 0

/-- How often a reservation that was taken is given back. -/
def Returned (t : AttemptTrace) : Prop :=
  t.reserved ≠ 0 → t.settles + t.releases = 1 + if site.env.Overturned t then 1 else 0

/-- **What attempts charge.** Between two states of a call the rows `rows` were added and the
attempts `traces` made. -/
structure Charged (g g' : CallState) (rows : List ProviderCall) (traces : List AttemptTrace) :
    Prop where
  calls : g'.db.providerCalls = g.db.providerCalls ++ rows
  log : g'.log = traces ++ g.log
  spent : ∀ p, site.gateway.context.projectId = some p →
    g'.db.spent p = g.db.spent p + (rows.map (·.succeededCost)).sum +
      (traces.map site.overspent).sum
  totals : ∀ w, site.workflowRunId = some w →
    g'.db.totals w = g.db.totals w + (rows.map (·.charge)).sum + (traces.map site.overcount).sum
  returned : ∀ t ∈ traces, site.Returned t
  cost_nonneg : ∀ t ∈ traces, 0 ≤ t.cost
  reserved : ∀ t ∈ traces, t.reserved ≠ 0 → site.gateway.context.projectId.isSome

/-- Some attempts were charged. -/
def ChargedRun (g g' : CallState) : Prop := ∃ rows traces, site.Charged g g' rows traces

variable {site} {g g₁ g₂ : CallState}

theorem Charged.refl (g : CallState) : site.Charged g g [] [] :=
  ⟨by simp, by simp, by simp, by simp, by simp, by simp, by simp⟩

theorem ChargedRun.refl (g : CallState) : site.ChargedRun g g := ⟨[], [], .refl g⟩

theorem ChargedRun.trans (h₁ : site.ChargedRun g g₁) (h₂ : site.ChargedRun g₁ g₂) :
    site.ChargedRun g g₂ := by
  obtain ⟨rows₁, traces₁, h₁⟩ := h₁
  obtain ⟨rows₂, traces₂, h₂⟩ := h₂
  refine ⟨rows₁ ++ rows₂, traces₂ ++ traces₁, ?_, ?_, fun p hp => ?_, fun w hw => ?_, ?_, ?_, ?_⟩
  · rw [h₂.calls, h₁.calls, List.append_assoc]
  · rw [h₂.log, h₁.log, List.append_assoc]
  · rw [h₂.spent p hp, h₁.spent p hp]
    simp only [List.map_append, List.sum_append]
    ring
  · rw [h₂.totals w hw, h₁.totals w hw]
    simp only [List.map_append, List.sum_append]
    abel
  · exact fun t ht => (List.mem_append.mp ht).elim (h₂.returned t) (h₁.returned t)
  · exact fun t ht => (List.mem_append.mp ht).elim (h₂.cost_nonneg t) (h₁.cost_nonneg t)
  · exact fun t ht => (List.mem_append.mp ht).elim (h₂.reserved t) (h₁.reserved t)

/-- The record of the request is there, so closing it is not refused. -/
def Open (site : CallSite) (g : CallState) : Prop := (g.db.recordStatus site.key).isSome

end CallSite

namespace Attempt

variable (a : Attempt)

/-- The history of an attempt up to its provider call. -/
def trace (reserved : Amount) : AttemptTrace :=
  { attempt := a.number, fallbackIndex := a.fallbackIndex, reserved }

/-- **An attempt under way**, with the rows it added. Everything it changed is what its rows
and its history account for, when each row is counted as one more call. -/
structure Midway (g₀ : CallState) (rows : List ProviderCall) (t : AttemptTrace) (g : CallState) :
    Prop where
  calls : g.db.providerCalls = g₀.db.providerCalls ++ rows
  log : g.log = t :: g₀.log
  spent : ∀ p, a.site.gateway.context.projectId = some p →
    g.db.spent p = g₀.db.spent p + a.site.overspent t
  totals : ∀ w, a.site.workflowRunId = some w →
    g.db.totals w + (rows.map fun _ => oneCall).sum =
      g₀.db.totals w + (rows.map (·.usage)).sum + a.site.overcount t
  linked : ∀ row ∈ rows, row.workflowRunId = a.site.workflowRunId ∧
    ∀ w, a.site.workflowRunId = some w → g.db.workflowRuns[w]?.isSome
  cost_nonneg : 0 ≤ t.cost
  reserved : t.reserved ≠ 0 → a.site.gateway.context.projectId.isSome
  isOpen : a.site.Open g

/-- Given back once if overturned, and not at all otherwise: what the handler finds. -/
def Due (t : AttemptTrace) : Prop :=
  t.reserved ≠ 0 → t.settles + t.releases = if a.site.env.Overturned t then 1 else 0

/-- **An attempt whose row is closed as succeeded**, of whose cost `paid` is spent. -/
structure Closed (g₀ : CallState) (row : ProviderCall) (t : AttemptTrace) (paid : Amount)
    (g : CallState) : Prop where
  calls : g.db.providerCalls = g₀.db.providerCalls ++ [row]
  log : g.log = t :: g₀.log
  number : t.attempt = a.number
  completed : t.completed = true
  status : row.status = .succeeded
  cost : row.estimatedCost.getD 0 = t.cost
  spent : ∀ p, a.site.gateway.context.projectId = some p →
    g.db.spent p = g₀.db.spent p + paid
  totals : ∀ w, a.site.workflowRunId = some w → g.db.totals w = g₀.db.totals w + row.usage
  linked : row.workflowRunId = a.site.workflowRunId ∧
    ∀ w, a.site.workflowRunId = some w → g.db.workflowRuns[w]?.isSome
  cost_nonneg : 0 ≤ t.cost
  reserved : t.reserved ≠ 0 → a.site.gateway.context.projectId.isSome
  isOpen : a.site.Open g

/-- A closed attempt that is paid for, with its reservation given back. -/
def Settled (g₀ : CallState) (row : ProviderCall) (t : AttemptTrace) (g : CallState) : Prop :=
  a.Closed g₀ row t t.cost g ∧ (t.reserved ≠ 0 → t.settles + t.releases = 1)

variable {a} {g₀ g : CallState} {rows : List ProviderCall} {row : ProviderCall} {t : AttemptTrace}

/-- Overturning a settled attempt leaves it under way. -/
theorem Settled.midway (h : a.Settled g₀ row t g)
    (hlate : a.env.recordSuccess.isSome = true ∨ a.env.succeed.isSome = true) :
    a.Midway g₀ [row] t g ∧ a.Due t := by
  obtain ⟨h, hreturned⟩ := h
  have hover : a.site.env.Overturned t := ⟨h.completed, by rw [h.number]; exact hlate⟩
  refine ⟨⟨h.calls, h.log, fun p hp => ?_, fun w hw => ?_, ?_, h.cost_nonneg, h.reserved,
    h.isOpen⟩, fun hr => ?_⟩
  · rw [h.spent p hp, CallSite.overspent, if_pos hover]
  · rw [h.totals w hw, CallSite.overcount, if_pos hover]
    simp
  · intro row' hrow'
    obtain rfl := List.mem_singleton.mp hrow'
    exact h.linked
  · rw [if_pos hover]
    exact hreturned hr

/-- A settled attempt that does not raise is charged for its row. -/
theorem Settled.charged (h : a.Settled g₀ row t g) (hbreaker : a.env.recordSuccess = none)
    (hrecord : a.env.succeed = none) : a.site.Charged g₀ g [row] [t] := by
  obtain ⟨h, hreturned⟩ := h
  have hover : ¬ a.site.env.Overturned t := by
    rintro ⟨-, hlate⟩
    rw [h.number] at hlate
    change a.env.recordSuccess.isSome = true ∨ a.env.succeed.isSome = true at hlate
    simp [hbreaker, hrecord] at hlate
  refine ⟨h.calls, h.log, fun p hp => ?_, fun w hw => ?_, ?_, ?_, ?_⟩
  · simp [h.spent p hp, ProviderCall.succeededCost, h.status, h.cost, CallSite.overspent, hover]
  · simp [h.totals w hw, ProviderCall.charge, h.status, CallSite.overcount, hover]
  · simpa [CallSite.Returned, hover] using hreturned
  · simpa using h.cost_nonneg
  · simpa using h.reserved

/-! ### The handler -/

/-- What the handler finds: an attempt under way, its row at the end of the table if it has
one, and its reservation still due. -/
def Caught (a : Attempt) (g₀ : CallState) (failure : Failure) (g : CallState) : Prop :=
  ∃ rows t, a.Midway g₀ rows t g ∧ a.Due t ∧ t.reserved = failure.reserved ∧
    (failure.callId = none ∧ rows = [] ∨
      failure.callId = some g₀.db.providerCalls.length ∧ ∃ row, rows = [row])

/-- The attempt once its reservation is released. -/
def Released (a : Attempt) (g₀ : CallState) (callId : Option ℕ) (g : CallState) : Prop :=
  ∃ rows t, a.Midway g₀ rows t g ∧ a.site.Returned t ∧
    (callId = none ∧ rows = [] ∨
      callId = some g₀.db.providerCalls.length ∧ ∃ row, rows = [row])

/-- The attempt with a row to close. -/
def Closing (a : Attempt) (g₀ : CallState) (callId : ℕ) (g : CallState) : Prop :=
  callId = g₀.db.providerCalls.length ∧
    ∃ row t, a.Midway g₀ [row] t g ∧ a.site.Returned t

/-- An attempt that is over: charged, with the record still open. -/
def Over (a : Attempt) (g₀ g : CallState) : Prop := a.site.ChargedRun g₀ g ∧ a.site.Open g

/-- A budget transaction that spends nothing leaves an attempt under way. -/
theorem Midway.budgets {db' : UsageDatabase} (h : a.Midway g₀ rows t g)
    (hsame : UsageDatabase.SameButBudgets g.db db')
    (hspent : ∀ p, a.site.gateway.context.projectId = some p → db'.spent p = g.db.spent p) :
    a.Midway g₀ rows t { g with db := db' } := by
  obtain ⟨budgets, rfl⟩ := hsame
  exact ⟨h.calls, h.log, fun p hp => (hspent p hp).trans (h.spent p hp), h.totals, h.linked,
    h.cost_nonneg, h.reserved, h.isOpen⟩

/-- History that is not about outcomes leaves an attempt under way. -/
theorem Midway.note {t' : AttemptTrace} {f : AttemptTrace → AttemptTrace}
    (h : a.Midway g₀ rows t g) (hf : f t = t') (hattempt : t'.attempt = t.attempt)
    (hcompleted : t'.completed = t.completed) (hcost : t'.cost = t.cost)
    (hreserved : t'.reserved ≠ 0 → a.site.gateway.context.projectId.isSome) :
    a.Midway g₀ rows t' { g with log := g.log.modifyHead f } := by
  have hover : a.site.env.Overturned t' ↔ a.site.env.Overturned t := by
    simp only [Environment.Overturned, hattempt, hcompleted]
  refine ⟨h.calls, by simp [h.log, hf], fun p hp => ?_, fun w hw => ?_, h.linked,
    hcost ▸ h.cost_nonneg, hreserved, h.isOpen⟩
  · simp only [CallSite.overspent, hover, hcost]
    exact h.spent p hp
  · simp only [CallSite.overcount, hover]
    exact h.totals w hw

theorem triple_release (hreliable : a.site.env.LedgerReliable) (failure : Failure) :
    Triple (a.Caught g₀ failure) (a.release failure.reserved)
      (fun _ g => a.Released g₀ failure.callId g) (fun _ g => a.site.ChargedRun g₀ g) := by
  unfold release
  cases hproject : a.site.gateway.context.projectId with
  | none =>
      refine Triple.pure fun g ⟨rows, t, hmid, _, _, hrows⟩ =>
        ⟨rows, t, hmid, fun hr => ?_, hrows⟩
      exact absurd (hmid.reserved hr) (by simp [hproject])
  | some p =>
      refine Triple.ite (fun hzero => ?_) fun hne => ?_
      · refine Triple.pure fun g ⟨rows, t, hmid, _, hr, hrows⟩ =>
          ⟨rows, t, hmid, ?_, hrows⟩
        exact fun hr' => absurd (hr.trans hzero) hr'
      refine Triple.bind (R := fun _ g => a.Caught g₀ failure g) ?_ fun _ => ?_
      · refine Call.triple_commit (hreliable.release a.number) ?_
        rintro g ⟨rows, t, hmid, hdue, hr, hrows⟩
        refine ⟨(), _, rfl, rows, t, hmid.budgets (UsageDatabase.sameButBudgets_settle _ _) ?_,
          hdue, hr, hrows⟩
        intro q hq
        obtain rfl := Option.some.inj (hproject.symm.trans hq)
        exact UsageDatabase.spent_release _
      · refine Call.triple_note ?_
        rintro g ⟨rows, t, hmid, hdue, hr, hrows⟩
        refine ⟨rows, { t with releases := t.releases + 1 },
          hmid.note rfl rfl rfl rfl hmid.reserved, fun hr' => ?_, hrows⟩
        have hdue := hdue hr'
        have hover : a.site.env.Overturned { t with releases := t.releases + 1 } ↔
            a.site.env.Overturned t := Iff.rfl
        simp only [hover]
        omega

/-- An attempt without a row is charged for nothing. -/
theorem Midway.charged_nil (h : a.Midway g₀ [] t g) (hret : a.site.Returned t) :
    a.site.Charged g₀ g [] [t] where
  calls := h.calls
  log := h.log
  spent p hp := by simpa using h.spent p hp
  totals w hw := by simpa using h.totals w hw
  returned := by simpa using hret
  cost_nonneg := by simpa using h.cost_nonneg
  reserved := by simpa using h.reserved

/-- A row is inserted for an attempt that has none. -/
theorem Midway.insert {callId : ℕ} {db' : UsageDatabase} (h : a.Midway g₀ [] t g)
    (hinsert : insertCall a.row g.db = .ok (callId, db')) :
    callId = g₀.db.providerCalls.length ∧ a.Midway g₀ [a.row] t { g with db := db' } := by
  obtain ⟨rfl, rfl, hlinked⟩ := insertCall_eq_ok hinsert
  have hcalls : g.db.providerCalls = g₀.db.providerCalls := by simpa using h.calls
  refine ⟨congrArg List.length hcalls, by simp [hcalls], h.log, h.spent, fun w hw => ?_, ?_,
    h.cost_nonneg, h.reserved, h.isOpen⟩
  · have htotals := h.totals w hw
    simp only [List.map_nil, List.sum_nil, add_zero] at htotals
    change g.db.totals w + _ = _
    rw [htotals]
    simp [ProviderCall.usage, row, newProviderCall, oneCall]
    abel
  · intro row' hrow'
    obtain rfl := List.mem_singleton.mp hrow'
    exact ⟨rfl, hlinked⟩

theorem triple_failedCallId (callId : Option ℕ) :
    Triple (a.Released g₀ callId) (a.failedCallId callId)
      (fun callId g => a.Closing g₀ callId g) (fun _ g => a.site.ChargedRun g₀ g) := by
  cases callId with
  | some callId =>
      refine Triple.pure fun g ⟨rows, t, hmid, hret, hrows⟩ => ?_
      rcases hrows with ⟨hnone, -⟩ | ⟨hid, row, rfl⟩
      · exact absurd hnone (by simp)
      · exact ⟨Option.some.inj hid, row, t, hmid, hret⟩
  | none =>
      refine Call.triple_transaction (fun g hg _ callId db hinsert => ?_) fun g hg e _ => ?_
      all_goals
        obtain ⟨rows, t, hmid, hret, hrows⟩ := hg
        rcases hrows with ⟨-, rfl⟩ | ⟨hid, -⟩
        swap
        · exact absurd hid (by simp)
      · obtain ⟨hid, hmid'⟩ := hmid.insert hinsert
        exact ⟨hid, a.row, t, hmid', hret⟩
      · exact ⟨[], [t], hmid.charged_nil hret⟩

theorem triple_closeFailed (hreliable : a.site.env.LedgerReliable) (callId : ℕ) (e : Error) :
    Triple (a.Closing g₀ callId)
      (Call.transaction a.env.finishFailedCall (closeCall callId (.failure e)))
      (fun _ g => a.Over g₀ g) (fun _ g => a.site.ChargedRun g₀ g) := by
  refine Call.triple_commit (hreliable.finishFailedCall a.number) ?_
  rintro g ⟨rfl, row, t, hmid, hret⟩
  obtain ⟨hrun, hlinked⟩ := hmid.linked row (List.mem_singleton.mpr rfl)
  obtain ⟨db', hclose, hcalls, -, hbudgets, hrecords, hruns⟩ :=
    closeCall_last hmid.calls (.failure e)
  refine ⟨(), db', hclose, ⟨[row.close (.failure e)], [t], hcalls, hmid.log, fun p hp => ?_,
    fun w hw => ?_, by simpa using hret, by simpa using hmid.cost_nonneg,
    by simpa using hmid.reserved⟩, ?_⟩
  · have hspent := hmid.spent p hp
    simp only [UsageDatabase.spent, hbudgets] at hspent ⊢
    simp [hspent, ProviderCall.succeededCost, ProviderCall.close_failure_status]
  · rw [hrun, hw] at hruns
    have htotals := hmid.totals w hw
    change db'.totals w = _
    rw [UsageDatabase.totals_modify hruns (hlinked w hw), CallEnd.totals_failure]
    simpa [ProviderCall.charge, ProviderCall.close_failure_status,
      ProviderCall.usage_close_failure] using htotals
  · have hopen := hmid.isOpen
    simpa only [CallSite.Open, UsageDatabase.recordStatus, hrecords] using hopen

theorem triple_handle (hreliable : a.site.env.LedgerReliable) (failure : Failure) :
    Triple (a.Caught g₀ failure) (a.handle failure)
      (fun _ g => a.Over g₀ g) (fun _ g => a.site.ChargedRun g₀ g) := by
  unfold handle
  refine (triple_release hreliable failure).bind fun _ => ?_
  refine (triple_failedCallId failure.callId).bind fun callId => ?_
  refine (triple_closeFailed hreliable callId failure.error).bind fun _ => ?_
  exact Triple.raising (fun _ g h => h) fun _ _ g h => h.1

/-! ### The `try` body -/

/-- The budget row of the project is there. -/
def BudgetOpen (a : Attempt) (g : CallState) : Prop :=
  ∀ p, a.site.gateway.context.projectId = some p → (g.db.projectBudgets p).isSome

/-- History of an attempt that has neither given its reservation back nor succeeded. -/
def Fresh (a : Attempt) (reserved : Amount) (t : AttemptTrace) : Prop :=
  t.attempt = a.number ∧ t.reserved = reserved ∧ t.settles = 0 ∧ t.releases = 0 ∧
    t.completed = false

theorem Fresh.due {reserved : Amount} (h : a.Fresh reserved t) : a.Due t := by
  obtain ⟨-, -, hsettles, hreleases, hcompleted⟩ := h
  intro _
  simp [hsettles, hreleases, Environment.Overturned, hcompleted]

/-- An attempt before its row. -/
def Before (a : Attempt) (g₀ : CallState) (reserved : Amount) (g : CallState) : Prop :=
  ∃ t, a.Midway g₀ [] t g ∧ a.Fresh reserved t

/-- An attempt with a running row. -/
def Running (a : Attempt) (g₀ : CallState) (reserved : Amount) (callId : ℕ) (g : CallState) :
    Prop :=
  callId = g₀.db.providerCalls.length ∧ a.BudgetOpen g ∧
    ∃ t, a.Midway g₀ [a.row] t g ∧ a.Fresh reserved t

/-- An attempt with a closed and unpaid row. -/
def Unpaid (a : Attempt) (g₀ : CallState) (reserved : Amount) (callId : ℕ) (cost : Option Amount)
    (g : CallState) : Prop :=
  callId = g₀.db.providerCalls.length ∧ a.BudgetOpen g ∧
    ∃ row t, a.Closed g₀ row t 0 g ∧ t.reserved = reserved ∧ t.settles = 0 ∧ t.releases = 0 ∧
      t.cost = cost.getD 0

theorem Before.caught {reserved : Amount} {e : Error} (h : a.Before g₀ reserved g) :
    a.Caught g₀ ⟨reserved, none, e⟩ g := by
  obtain ⟨t, hmid, hfresh⟩ := h
  exact ⟨[], t, hmid, hfresh.due, hfresh.2.1, .inl ⟨rfl, rfl⟩⟩

theorem Running.caught {reserved : Amount} {callId : ℕ} {e : Error}
    (h : a.Running g₀ reserved callId g) : a.Caught g₀ ⟨reserved, some callId, e⟩ g := by
  obtain ⟨rfl, -, t, hmid, hfresh⟩ := h
  exact ⟨_, t, hmid, hfresh.due, hfresh.2.1, .inr ⟨rfl, _, rfl⟩⟩

/-- An attempt that raises after it settled is caught by the handler like any other. -/
theorem Settled.caught {reserved : Amount} {callId : ℕ} {e : Error}
    (hid : callId = g₀.db.providerCalls.length) (hr : t.reserved = reserved)
    (h : a.Settled g₀ row t g)
    (hlate : a.env.recordSuccess.isSome = true ∨ a.env.succeed.isSome = true) :
    a.Caught g₀ ⟨reserved, some callId, e⟩ g := by
  subst hid
  obtain ⟨hmid, hdue⟩ := h.midway hlate
  exact ⟨_, t, hmid, hdue, hr, .inr ⟨rfl, _, rfl⟩⟩

theorem triple_reserve :
    Triple (a.Before g₀ 0) a.reserve
      (fun reserved g => a.Before g₀ reserved g ∧ a.BudgetOpen g) (fun _ g => a.Before g₀ 0 g) := by
  unfold reserve
  cases hproject : a.site.gateway.context.projectId with
  | none =>
      refine Triple.pure fun g h => ⟨h, fun p hp => ?_⟩
      exact absurd (hproject.symm.trans hp) (by simp)
  | some p =>
      have hp (q : ℕ) (hq : a.site.gateway.context.projectId = some q) : q = p :=
        (Option.some.inj (hproject.symm.trans hq)).symm
      refine Triple.bind (R := fun _ g => a.Before g₀ 0 g) (Triple.act fun g h => ?_) fun cost => ?_
      · cases BudgetService.knownCost a.site.gateway.settings a.preflight.price.amount <;> exact h
      refine Triple.bind (R := fun _ g => a.Before g₀ 0 g) ?_ fun _ => ?_
      · refine Call.triple_transaction (fun g h _ budget db hrun => ?_) fun g h e _ => h
        obtain ⟨t, hmid, hfresh⟩ := h
        obtain ⟨hsame, hspent⟩ := UsageDatabase.spent_getOrCreate hrun
        exact ⟨t, hmid.budgets hsame fun q hq => by rw [hp q hq]; exact hspent, hfresh⟩
      refine Triple.bind (R := fun _ g => a.Before g₀ 0 g ∧ a.BudgetOpen g) ?_ fun decision => ?_
      · refine Call.triple_transaction (fun g h _ decision db hrun => ?_) fun g h e _ => h
        obtain ⟨t, hmid, hfresh⟩ := h
        obtain ⟨hsame, hspent, hopen⟩ := UsageDatabase.spent_reserveLocked hrun
        refine ⟨⟨t, hmid.budgets hsame fun q hq => by rw [hp q hq]; exact hspent, hfresh⟩, ?_⟩
        exact fun q hq => by rw [hp q hq]; exact hopen
      · refine Triple.bind (R := fun _ g => a.Before g₀ decision.reservedAmount g ∧ a.BudgetOpen g)
          (Call.triple_note ?_) fun _ => Triple.pure fun _ h => h
        rintro g ⟨⟨t, hmid, hnumber, -, hsettles, hreleases, hcompleted⟩, hopen⟩
        refine ⟨⟨{ t with reserved := decision.reservedAmount },
          hmid.note rfl rfl rfl rfl (by simp [hproject]), ?_⟩, hopen⟩
        exact ⟨hnumber, rfl, hsettles, hreleases, hcompleted⟩

theorem triple_startCall (reserved : Amount) :
    Triple (fun g => a.Before g₀ reserved g ∧ a.BudgetOpen g)
      (Call.transaction a.env.startCall (insertCall a.row))
      (fun callId g => a.Running g₀ reserved callId g) (fun _ g => a.Before g₀ reserved g) := by
  refine Call.triple_transaction (fun g h _ callId db hinsert => ?_) fun g h _ _ => h.1
  obtain ⟨⟨t, hmid, hfresh⟩, hopen⟩ := h
  obtain ⟨hid, hmid'⟩ := hmid.insert hinsert
  obtain ⟨-, rfl, -⟩ := insertCall_eq_ok hinsert
  exact ⟨hid, hopen, t, hmid', hfresh⟩

theorem triple_callProvider (reserved : Amount) (callId : ℕ) :
    Triple (a.Running g₀ reserved callId) a.callProvider
      (fun _ g => a.Running g₀ reserved callId g) (fun _ g => a.Running g₀ reserved callId g) := by
  unfold callProvider
  refine Triple.bind (R := fun _ g => a.Running g₀ reserved callId g)
    (Triple.raising (fun _ _ h => h) fun _ _ _ h => h) fun _ => ?_
  refine Triple.bind (R := fun _ g => a.Running g₀ reserved callId g)
    (Triple.act fun g h => ?_) fun response => ?_
  · cases a.env.provider <;> exact h
  · refine Triple.bind (R := fun _ g => a.Running g₀ reserved callId g)
      (Call.triple_note ?_) fun _ => Triple.pure fun _ h => h
    rintro g ⟨hid, hopen, t, hmid, hfresh⟩
    exact ⟨hid, hopen, { t with responded := some response },
      hmid.note rfl rfl rfl rfl hmid.reserved, hfresh⟩

/-- Closing the row of an attempt as succeeded. -/
theorem Midway.closed {result : CallEnd} {db' : UsageDatabase} {f : AttemptTrace → AttemptTrace}
    (h : a.Midway g₀ [a.row] t g) (hfresh : t.completed = false) (hnumber : (f t).attempt = a.number)
    (hclose : closeCall g₀.db.providerCalls.length result g.db = .ok ((), db'))
    (hstatus : result.status = .succeeded) (husage : result.usage.isSome)
    (hcompleted : (f t).completed = true) (hcost : (f t).cost = result.estimatedCost.getD 0)
    (hnonneg : 0 ≤ result.estimatedCost.getD 0) (hreserved : (f t).reserved = t.reserved) :
    a.Closed g₀ (a.row.close result) (f t) 0 { g with db := db', log := g.log.modifyHead f } := by
  obtain ⟨hrun, hlinked⟩ := h.linked a.row (List.mem_singleton.mpr rfl)
  obtain ⟨db₁, hclose', hcalls, -, hbudgets, hrecords, hruns⟩ := closeCall_last h.calls result
  obtain ⟨-, rfl⟩ := Prod.mk.inj (Except.ok.inj (hclose.symm.trans hclose'))
  obtain ⟨usage, husage'⟩ := Option.isSome_iff_exists.mp husage
  have hover : ¬ a.site.env.Overturned t := by simp [Environment.Overturned, hfresh]
  have hrunning (w : ℕ) (hw : a.site.workflowRunId = some w) :
      db'.totals w = g₀.db.totals w + (a.row.close result).usage := by
    rw [hrun, hw] at hruns
    rw [UsageDatabase.totals_modify hruns (hlinked w hw), ProviderCall.usage_close _ husage]
    have htotals := h.totals w hw
    simp only [List.map_cons, List.map_nil, List.sum_cons, List.sum_nil, add_zero,
      CallSite.overcount, if_neg hover] at htotals
    rw [add_right_cancel (b := oneCall) htotals]
  refine
    { calls := hcalls
      log := by simp [h.log]
      number := hnumber
      completed := hcompleted
      status := by simp [ProviderCall.close, husage', hstatus]
      cost := by simp [ProviderCall.close, husage', hcost]
      spent := fun p hp => ?_
      totals := hrunning
      linked := ⟨by simpa [ProviderCall.close, husage'] using hrun, fun w hw => ?_⟩
      cost_nonneg := hcost ▸ hnonneg
      reserved := fun hr => h.reserved (hreserved ▸ hr)
      isOpen := ?_ }
  · have hspent := h.spent p hp
    simp only [CallSite.overspent, if_neg hover, UsageDatabase.spent, hbudgets] at hspent ⊢
    exact hspent
  · rw [hrun, hw] at hruns
    change db'.workflowRuns[w]?.isSome
    simpa [hruns] using hlinked w hw
  · have hopen := h.isOpen
    simpa only [CallSite.Open, UsageDatabase.recordStatus, hrecords] using hopen

theorem triple_closeSucceeded (reserved : Amount) (callId : ℕ) (response : LLMResponse) :
    Triple (a.Running g₀ reserved callId) (a.closeSucceeded callId response)
      (fun cost g => a.Unpaid g₀ reserved callId cost g)
      (fun _ g => a.Running g₀ reserved callId g) := by
  unfold closeSucceeded
  dsimp only
  generalize hprice : PricingService.estimate (a.site.gateway.capability a.reference)
    (normalizeUsage response a.preflight.inputText) = price
  refine Triple.bind (R := fun _ g => a.Unpaid g₀ reserved callId price.amount
    { g with
      log := g.log.modifyHead fun t =>
        { t with completed := true, cost := price.amount.getD 0 } }) ?_ fun _ => ?_
  · refine Call.triple_transaction (fun g h _ _ db hclose => ?_) fun g h _ _ => h
    obtain ⟨rfl, hopen, t, hmid, hnumber, hr, hsettles, hreleases, hcompleted⟩ := h
    refine ⟨rfl, fun p hp => ?_, _, { t with completed := true, cost := price.amount.getD 0 },
      hmid.closed (f := fun t => { t with completed := true, cost := price.amount.getD 0 })
        hcompleted hnumber hclose rfl rfl rfl rfl ?_ rfl, hr, hsettles, hreleases, rfl⟩
    · obtain ⟨db', hclose', -, -, hbudgets, -⟩ := closeCall_last hmid.calls _
      obtain ⟨-, rfl⟩ := Prod.mk.inj (Except.ok.inj (hclose.symm.trans hclose'))
      exact (congrFun hbudgets p).symm ▸ hopen p hp
    · cases hamount : price.amount with
      | none => exact le_rfl
      | some value => exact price.nonneg value hamount
  · exact Triple.bind (R := fun _ g => a.Unpaid g₀ reserved callId price.amount g)
      (Call.triple_note fun _ h => h) fun _ => Triple.pure fun _ h => h

theorem triple_settle (hreliable : a.site.env.LedgerReliable) (reserved : Amount) (callId : ℕ)
    (cost : Option Amount) :
    Triple (a.Unpaid g₀ reserved callId cost) (a.settle reserved cost)
      (fun _ g => callId = g₀.db.providerCalls.length ∧
        ∃ row t, t.reserved = reserved ∧ a.Settled g₀ row t g)
      (fun _ _ => False) := by
  unfold settle
  cases hproject : a.site.gateway.context.projectId with
  | none =>
      refine Triple.pure fun g ⟨hid, _, row, t, hclosed, hr, _⟩ => ⟨hid, row, t, hr, ?_, ?_⟩
      · exact { hclosed with spent := fun p hp => absurd (hproject.symm.trans hp) (by simp) }
      · exact fun hr' => absurd (hclosed.reserved hr') (by simp [hproject])
  | some p =>
      refine Triple.bind (R := fun _ g => callId = g₀.db.providerCalls.length ∧
        ∃ row t, t.reserved = reserved ∧ a.Settled g₀ row t
          { g with log := g.log.modifyHead fun t => { t with settles := t.settles + 1 } }) ?_
        fun _ => Call.triple_note fun _ h => h
      refine Call.triple_commit (hreliable.settle a.number) ?_
      rintro g ⟨hid, hopen, row, t, hclosed, hr, hsettles, hreleases, hcost⟩
      have hspent : (BudgetService.settle p reserved cost none g.db).spent p =
          g.db.spent p + cost.getD 0 := UsageDatabase.spent_settle (hopen p hproject)
      obtain ⟨budgets, hbudgets⟩ : UsageDatabase.SameButBudgets g.db
          (BudgetService.settle p reserved cost none g.db) :=
        UsageDatabase.sameButBudgets_settle reserved cost
      refine ⟨(), _, rfl, hid, row, { t with settles := t.settles + 1 }, hr, ?_, fun _ => ?_⟩
      · rw [hbudgets] at hspent ⊢
        refine { hclosed with log := by simp [hclosed.log], spent := fun q hq => ?_ }
        obtain rfl := Option.some.inj (hproject.symm.trans hq)
        rw [hspent, hclosed.spent p hq, hcost, add_zero]
      · simp [hsettles, hreleases]

theorem triple_complete (hreliable : a.site.env.LedgerReliable) (reserved : Amount) (callId : ℕ) :
    Triple (a.Running g₀ reserved callId) (a.complete reserved callId)
      (fun _ g => a.Over g₀ g) (fun e g => a.Caught g₀ ⟨reserved, some callId, e⟩ g) := by
  unfold complete
  refine Triple.bind ((triple_callProvider reserved callId).conseq (fun _ h => h) (fun _ _ h => h)
    fun _ _ h => h.caught) fun response => ?_
  refine Triple.bind ((triple_closeSucceeded reserved callId response).conseq (fun _ h => h)
    (fun _ _ h => h) fun _ _ h => h.caught) fun cost => ?_
  refine Triple.bind ((triple_settle hreliable reserved callId cost).conseq (fun _ h => h)
    (fun _ _ h => h) fun _ _ h => h.elim) fun _ => ?_
  refine Triple.bind (R := fun _ g => a.env.recordSuccess = none ∧
    callId = g₀.db.providerCalls.length ∧ ∃ row t, t.reserved = reserved ∧ a.Settled g₀ row t g)
    (Triple.raising (fun hnone g h => ⟨hnone, h⟩) ?_) fun _ => ?_
  · rintro e he g ⟨hid, row, t, hr, hsettled⟩
    exact hsettled.caught hid hr (.inl (by simp [he]))
  refine Triple.bind (R := fun _ g => a.Over g₀ g) ?_ fun _ => ?_
  · refine Call.triple_transaction (fun g h hnone _ db hrun => ?_) fun g h e he => ?_
    · obtain ⟨hbreaker, hid, row, t, hr, hsettled⟩ := h
      have hopen := hsettled.1.isOpen
      rw [IdempotencyService.succeed, IdempotencyService.finish_of_isSome _ hopen] at hrun
      obtain ⟨-, rfl⟩ := Prod.mk.inj (Except.ok.inj hrun)
      exact ⟨⟨_, _, { hsettled.charged hbreaker hnone with }⟩, by simp [CallSite.Open]⟩
    · obtain ⟨-, hid, row, t, hr, hsettled⟩ := h
      refine hsettled.caught hid hr (.inr ?_)
      rcases he with he | he
      · simp [he]
      · rw [IdempotencyService.succeed,
          IdempotencyService.finish_of_isSome _ hsettled.1.isOpen] at he
        exact absurd he (by simp)
  · refine Triple.bind (R := fun _ g => a.Over g₀ g) (Triple.update fun g h => ?_) fun _ =>
      Triple.pure fun _ h => h
    obtain ⟨⟨rows, traces, hcharged⟩, hopen⟩ := h
    exact ⟨⟨rows, traces, { hcharged with }⟩, hopen⟩

/-- **The `try` body** is charged, or raises what the handler can deal with. -/
theorem triple_body (hreliable : a.site.env.LedgerReliable) :
    Triple (a.Before g₀ 0) a.body (fun _ g => a.Over g₀ g) (fun f g => a.Caught g₀ f g) := by
  unfold body
  refine Triple.bind (R := fun _ g => a.Before g₀ 0 g) (Triple.tag (Triple.raising
    (fun _ _ h => h) fun _ _ _ h => h.caught)) fun _ => ?_
  refine Triple.bind (R := fun _ g => a.Before g₀ 0 g) (Triple.tag ?_) fun _ => ?_
  · refine Call.triple_transaction (fun g h _ _ db hrun => ?_) fun g h _ _ => h.caught
    obtain ⟨_, -, hrun⟩ := Except.bind_eq_ok.mp hrun
    obtain ⟨-, rfl⟩ := Prod.mk.inj (Except.ok.inj hrun)
    exact h
  refine Triple.bind (Triple.tag (triple_reserve.conseq (fun _ h => h) (fun _ _ h => h)
    fun _ _ h => h.caught)) fun reserved => ?_
  refine Triple.bind (Triple.tag ((triple_startCall reserved).conseq (fun _ h => h)
    (fun _ _ h => h) fun _ _ h => h.caught)) fun callId => ?_
  exact Triple.tag (triple_complete hreliable reserved callId)

/-- An attempt that was just opened. -/
theorem before_opened (hopen : a.site.Open g) :
    a.Before g 0
      { g with log := { attempt := a.number, fallbackIndex := a.fallbackIndex } :: g.log } := by
  refine ⟨_, ⟨by simp, rfl, fun p _ => ?_, fun w _ => ?_, by simp, le_rfl, by simp, hopen⟩,
    rfl, rfl, rfl, rfl, rfl⟩
  · simp [CallSite.overspent, Environment.Overturned]
  · simp [CallSite.overcount, Environment.Overturned]

/-- **One attempt** charges the ledger, however it ends. -/
theorem charged_run (hreliable : a.site.env.LedgerReliable) :
    Triple (fun g => g = g₀ ∧ a.site.Open g) a.run
      (fun _ g => a.Over g₀ g) (fun _ g => a.site.ChargedRun g₀ g) := by
  unfold run
  refine Triple.bind (R := fun _ g => a.Before g₀ 0 g) (Triple.update ?_) fun _ => ?_
  · rintro g ⟨rfl, hopen⟩
    exact before_opened hopen
  · refine Triple.rescue (R := a.Caught g₀) ?_ fun failure => ?_
    · exact (triple_body hreliable).bind fun _ => Triple.pure fun _ h => h
    · exact (triple_handle hreliable failure).bind fun _ => Triple.pure fun _ h => h

end Attempt

/-! ### The loops -/

namespace CallSite

variable {site : CallSite} {g₀ : CallState}

/-- Charged so far, with the record still open. -/
def Going (site : CallSite) (g₀ g : CallState) : Prop := site.ChargedRun g₀ g ∧ site.Open g

/-- A program that charges from any state charges on. -/
theorem triple_going {α : Type} {x : Call α}
    (h : ∀ g₀, Triple (fun g => g = g₀ ∧ site.Open g) x
      (fun _ g => site.Going g₀ g) (fun _ g => site.ChargedRun g₀ g)) :
    Triple (site.Going g₀) x (fun _ g => site.Going g₀ g) (fun _ g => site.ChargedRun g₀ g) := by
  intro g ⟨hcharged, hopen⟩
  have hpost := h g g ⟨rfl, hopen⟩
  revert hpost
  rcases x.exec g with ⟨_ | _, g'⟩
  · exact fun h => hcharged.trans h
  · exact fun h => ⟨hcharged.trans h.1, h.2⟩

theorem charged_attempts (hreliable : site.env.LedgerReliable) (reference : ModelReference)
    (fallbackIndex : ℕ) (preflight : Preflight) (retries attempt : ℕ) :
    Triple (site.Going g₀) (site.attempts reference fallbackIndex preflight retries attempt)
      (fun _ g => site.Going g₀ g) (fun _ g => site.ChargedRun g₀ g) := by
  have hrun (attempt : ℕ) :=
    @triple_going site g₀ _ _ fun g₁ =>
      @Attempt.charged_run ⟨site, reference, fallbackIndex, preflight, attempt + 1⟩ g₁ hreliable
  induction retries generalizing attempt with
  | zero =>
      unfold attempts
      refine Triple.ite (fun _ => Triple.pure fun _ h => h) fun _ => ?_
      refine (hrun attempt).bind fun result => ?_
      cases result <;> exact Triple.pure fun _ h => h
  | succ retries ih =>
      unfold attempts
      refine Triple.ite (fun _ => Triple.pure fun _ h => h) fun _ => ?_
      refine (hrun attempt).bind fun result => ?_
      cases result with
      | ok response => exact Triple.pure fun _ h => h
      | error e =>
          refine Triple.ite (fun _ => ?_) fun _ => Triple.pure fun _ h => h
          exact Triple.bind (Triple.raising (fun _ _ h => h) fun _ _ _ h => h.1)
            fun _ => ih (attempt + 1)

theorem charged_auditRefusal (hreliable : site.env.LedgerReliable) (reference : ModelReference)
    (fallbackIndex attempt : ℕ) (e : Error) :
    Triple (site.Going g₀) (site.auditRefusal reference fallbackIndex attempt e)
      (fun _ g => site.Going g₀ g) (fun _ g => site.ChargedRun g₀ g) := by
  refine triple_going fun g₁ => ?_
  let a : Attempt := ⟨site, reference, fallbackIndex, ⟨"", 0, ⟨none, by simp⟩⟩, attempt⟩
  unfold auditRefusal
  refine Triple.bind (R := fun _ g => a.Released g₁ none g) (Triple.update ?_) fun _ => ?_
  · rintro g ⟨rfl, hopen⟩
    obtain ⟨t, hmid, hfresh⟩ := Attempt.before_opened (a := a) hopen
    exact ⟨[], t, hmid, fun hr => absurd hfresh.2.1 hr, .inl ⟨rfl, rfl⟩⟩
  · refine (Attempt.triple_failedCallId (a := a) none).bind fun callId => ?_
    exact Attempt.triple_closeFailed (a := a) hreliable callId e

theorem charged_candidates (hreliable : site.env.LedgerReliable) (references : List ModelReference)
    (fallbackIndex attempt : ℕ) (error : Option Error) :
    Triple (site.Going g₀) (site.candidates references fallbackIndex attempt error)
      (fun _ g => site.Going g₀ g) (fun _ g => site.ChargedRun g₀ g) := by
  induction references generalizing fallbackIndex attempt error with
  | nil => exact Triple.pure fun _ h => h
  | cons reference rest ih =>
      unfold candidates
      refine Triple.ite (fun _ => ih _ _ _) fun _ => ?_
      split
      · exact (charged_auditRefusal hreliable reference fallbackIndex (attempt + 1) _).bind
          fun _ => Triple.pure fun _ h => h
      · refine (charged_attempts hreliable reference fallbackIndex _ _ attempt).bind
          fun ending => ?_
        cases ending with
        | returned response => exact Triple.pure fun _ h => h
        | exhausted error attempt =>
            exact Triple.ite (fun _ => Triple.pure fun _ h => h) fun _ => ih _ _ _

/-- Everything after the claim charges the ledger. -/
theorem charged_serve (hreliable : site.env.LedgerReliable) :
    Triple (site.Going g₀) site.serve (fun _ g => site.ChargedRun g₀ g)
      (fun _ g => site.ChargedRun g₀ g) := by
  unfold serve
  refine (charged_candidates hreliable site.route.candidates 0 0 none).bind fun ending => ?_
  cases ending with
  | returned response => exact Triple.pure fun _ h => h.1
  | exhausted error attempt =>
      refine Triple.bind (R := fun _ g => site.ChargedRun g₀ g) ?_ fun _ => Triple.throw fun _ h => h
      refine Call.triple_transaction (fun g h _ _ db hrun => ?_) fun g h _ _ => h.1
      obtain ⟨⟨rows, traces, hcharged⟩, hopen⟩ := h
      rw [IdempotencyService.fail, IdempotencyService.finish_of_isSome _ hopen] at hrun
      obtain ⟨-, rfl⟩ := Prod.mk.inj (Except.ok.inj hrun)
      exact ⟨rows, traces, { hcharged with }⟩

/-- A claim charges nothing and opens the record. -/
theorem charged_claimThenServe (hreliable : site.env.LedgerReliable) :
    Triple (fun g => g = g₀) (Gateway.claimThenServe site) (fun _ g => site.ChargedRun g₀ g)
      (fun _ g => site.ChargedRun g₀ g) := by
  unfold Gateway.claimThenServe
  refine Triple.bind (R := fun replay g => site.ChargedRun g₀ g ∧ (replay = false → site.Open g))
    ?_ fun replay => ?_
  · refine Call.triple_transaction (fun g h _ replay db hrun => ?_) fun g h _ _ => h ▸ .refl g
    subst h
    rcases IdempotencyService.claim_eq_ok hrun with ⟨rfl, -, rfl⟩ | ⟨rfl, rfl⟩
    · exact ⟨.refl _, by simp⟩
    · exact ⟨⟨[], [], { (Charged.refl g) with }⟩, fun _ => by simp [Open]⟩
  · cases replay with
    | true => exact Triple.throw fun _ h => h.1
    | false =>
        have hserve : Triple (site.Going g₀) site.serve (fun _ g => site.ChargedRun g₀ g)
            (fun _ g => site.ChargedRun g₀ g) := charged_serve hreliable
        exact hserve.conseq (fun g h => ⟨h.1, h.2 rfl⟩) (fun _ _ h => h) fun _ _ h => h

end CallSite

/-! ### Calls -/

namespace Gateway

variable {gateway : Gateway} {env : Environment} {request : PromptRequest} {g : CallState}

/-- The audit rows a call added. -/
def newCalls (g g' : CallState) : List ProviderCall :=
  g'.db.providerCalls.drop g.db.providerCalls.length

/-- **A call charges the ledger.** -/
theorem charged_generate (gateway : Gateway) (hreliable : env.LedgerReliable)
    (request : PromptRequest) (g : CallState) :
    ∃ site : CallSite, site.gateway = gateway ∧ site.env = env ∧
      site.workflowRunId = gateway.effectiveWorkflowRunId g.db ∧
      site.ChargedRun { g with log := [] } (gateway.generate env request g).2 := by
  unfold generate
  cases gateway.route request.promptName with
  | error e => exact ⟨gateway.site env request ⟨"", [], 0⟩ g.db, rfl, rfl, rfl, .refl _⟩
  | ok route =>
      refine ⟨gateway.site env request route g.db, rfl, rfl, rfl, ?_⟩
      dsimp only
      split
      · exact .refl _
      · have hpost := @CallSite.charged_claimThenServe (gateway.site env request route g.db)
          { g with log := [] } hreliable { g with log := [] } rfl
        revert hpost
        rcases Program.exec _ _ with ⟨_ | _, g'⟩ <;> exact fun h => h

/-- **The ledger is conserved.** Every reservation was given back exactly once, the project
has spent what the rows left behind as succeeded cost, and every closed row counts once for
the workflow run. -/
structure Conserved (gateway : Gateway) (g g' : CallState) : Prop where
  returned : ∀ t ∈ g'.log, t.reserved ≠ 0 → t.settles + t.releases = 1
  spent : ∀ p, gateway.context.projectId = some p →
    g'.db.spent p = g.db.spent p + ((newCalls g g').map (·.succeededCost)).sum
  totals : ∀ w, gateway.effectiveWorkflowRunId g.db = some w →
    g'.db.totals w = g.db.totals w + ((newCalls g g').map (·.charge)).sum

/-- An attempt with nothing to charge: no workflow run to count for, and no money moved. -/
def Free (gateway : Gateway) (db : UsageDatabase) (t : AttemptTrace) : Prop :=
  gateway.effectiveWorkflowRunId db = none ∧
    (gateway.context.projectId = none ∨ t.reserved = 0 ∧ t.cost = 0)

/-- A sum of non-negative terms is zero exactly when every term is. -/
theorem sum_map_eq_zero_iff {α M : Type*} [AddCommMonoid M] [PartialOrder M]
    [IsOrderedAddMonoid M] {f : α → M} {l : List α} (hnonneg : ∀ a ∈ l, 0 ≤ f a) :
    (l.map f).sum = 0 ↔ ∀ a ∈ l, f a = 0 := by
  constructor
  · intro hsum a ha
    refine List.all_zero_of_le_zero_le_of_sum_eq_zero ?_ hsum (List.mem_map_of_mem ha)
    intro x hx
    obtain ⟨b, hb, rfl⟩ := List.mem_map.mp hx
    exact hnonneg b hb
  · intro hzero
    rw [List.map_congr_left hzero]
    simp

/-- What was overspent is nothing exactly when every overturned attempt cost nothing. -/
theorem sum_overspent_eq_zero {site : CallSite} {traces : List AttemptTrace}
    (hcost : ∀ t ∈ traces, 0 ≤ t.cost) :
    (traces.map site.overspent).sum = 0 ↔ ∀ t ∈ traces, site.env.Overturned t → t.cost = 0 := by
  rw [sum_map_eq_zero_iff]
  · simp only [CallSite.overspent, ite_eq_right_iff]
  · intro t ht
    unfold CallSite.overspent
    split
    · exact hcost t ht
    · exact le_rfl

/-- Nothing was counted twice exactly when no attempt was overturned. -/
theorem sum_overcount_eq_zero {site : CallSite} {traces : List AttemptTrace} :
    (traces.map site.overcount).sum = 0 ↔ ∀ t ∈ traces, ¬ site.env.Overturned t := by
  have hone : oneCall ≠ 0 := by decide
  rw [sum_map_eq_zero_iff]
  · simp only [CallSite.overcount, ite_eq_right_iff, hone, imp_false]
  · intro t _
    unfold CallSite.overcount
    split
    · decide
    · exact le_rfl

/-- The state of a distributed breaker is lost just when it is told of a success. -/
def breakerLost : Environment where
  attempt _ :=
    { AttemptEnv.answering with
      recordSuccess := some (.circuitOpenError "Distributed circuit state is unavailable") }

end Gateway

end StoryForge
