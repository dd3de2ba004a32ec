import Mathlib.Algebra.BigOperators.Group.List.Lemmas
import StoryForge.Library.Machine
import StoryForge.Providers.Effects
import StoryForge.Providers.Probes

/-!
# The call ceiling of a workflow run

Attempts of language model calls and of embedding calls on one database, step by step and
in any order. An attempt asks for room in a transaction of its own, then inserts its audit
row, calls its provider, and closes the row. Closing reads the row of the workflow run
without a lock and writes back the counters that it has changed.

An attempt that ends late, after its row was closed, may close it once more: this is the
handler of an exception that follows the close.

## Main results

* `CallSystem.totals_finish` — a close that nobody else overlaps is counted;
* `CallSystem.ceiling_of_reachable` — when the attempts of a run leave room for each other,
  close their rows once and one at a time, the run keeps its ceiling and its counters;
* `CallSystem.ceiling_fails` — two calls at once break both.
-/

namespace StoryForge

/-! ### The run a call belongs to -/

/-- The embedding provider's `_effective_workflow_run_id`: the run of the context, or the
latest active run of its project. -/
def GovernedEmbedding.effectiveWorkflowRunId (context : ProviderCallContext)
    (db : UsageDatabase) : Option ℕ :=
  match context.workflowRunId, context.projectId with
  | some runId, _ => some runId
  | none, some projectId =>
      (Rows.idsWhere db.workflowRuns fun run =>
        run.projectId == projectId &&
          decide (run.status ∈ [.pending, .running, .paused])).getLast?
  | none, none => none

/-- The run that the calls of a caller are attributed to. -/
def Caller.workflowRunId (caller : Caller) (gateway : Gateway) (db : UsageDatabase) : Option ℕ :=
  match caller with
  | .languageModel => gateway.effectiveWorkflowRunId db
  | .embedding => GovernedEmbedding.effectiveWorkflowRunId gateway.context db

/-! ### Closing a row -/

/-- How an attempt ended. -/
inductive CallOutcome
  | answered (usage : TokenUsage) (estimatedCost : Option Amount) (latencyMs : ℕ)
      (requestId : Option String)
  | failed (error : Error) (latencyMs : ℕ)
  deriving DecidableEq, Repr

/-- The arguments of `_finish_call`. -/
def CallOutcome.callEnd : CallOutcome → CallEnd
  | .answered usage estimatedCost latencyMs requestId =>
      ⟨.succeeded, some usage, estimatedCost, latencyMs, requestId, none⟩
  | .failed error latencyMs =>
      ⟨statusForError error, none, none, latencyMs, none, some error.className⟩

/-- The columns that a caller's `_finish_call` writes to the audit row. An embedding has
neither output tokens nor cached ones nor a request id. -/
def ProviderCall.finish (row : ProviderCall) (caller : Caller) (result : CallEnd) : ProviderCall :=
  match caller with
  | .languageModel => row.close result
  | .embedding =>
      { row.close result with
        outputTokens := if result.usage.isSome then 0 else row.outputTokens
        cachedInputTokens := row.cachedInputTokens
        providerRequestId := row.providerRequestId }

/-- The counters that a caller's `_finish_call` adds to. -/
def WorkflowUsage.count (workflow : WorkflowUsage) (caller : Caller) (row : ProviderCall)
    (result : CallEnd) : WorkflowUsage :=
  match caller with
  | .languageModel => workflow.add row result
  | .embedding =>
      { workflow with
        providerCallCount := workflow.providerCallCount + 1
        providerInputTokens :=
          workflow.providerInputTokens + (result.usage.map (·.inputTokens)).getD 0
        providerEstimatedCost := workflow.providerEstimatedCost + result.estimatedCost.getD 0 }

/-- A column after a flush: it is written when the transaction has changed what it read. -/
def flushed {α : Type} [DecidableEq α] (seen written current : α) : α :=
  if written = seen then current else written

/-- The counters of a workflow run after a flush. -/
def WorkflowUsage.flush (seen written current : WorkflowUsage) : WorkflowUsage where
  projectId := current.projectId
  chapterId := current.chapterId
  status := current.status
  providerCallCount := flushed seen.providerCallCount written.providerCallCount
    current.providerCallCount
  providerInputTokens := flushed seen.providerInputTokens written.providerInputTokens
    current.providerInputTokens
  providerOutputTokens := flushed seen.providerOutputTokens written.providerOutputTokens
    current.providerOutputTokens
  providerEstimatedCost := flushed seen.providerEstimatedCost written.providerEstimatedCost
    current.providerEstimatedCost
  providerFallbackCount := flushed seen.providerFallbackCount written.providerFallbackCount
    current.providerFallbackCount
  providerRateLimitCount := flushed seen.providerRateLimitCount written.providerRateLimitCount
    current.providerRateLimitCount

/-! ### The machine -/

/-- How far an attempt is. -/
inductive CallPhase
  /-- It has not asked for room yet. -/
  | arrived
  /-- There was room. -/
  | admitted
  /-- Something was raised before the audit row. -/
  | refused
  /-- The audit row of an admitted attempt is inserted. -/
  | running (callId : ℕ)
  /-- The audit row of a refused one is inserted. -/
  | recorded (callId : ℕ)
  /-- The provider was called. -/
  | invoked (callId : ℕ)
  /-- `_finish_call` has read the rows. -/
  | closing (callId : ℕ) (result : CallEnd) (seen : Option WorkflowUsage)
  | closed (callId : ℕ)
  /-- It ended without closing a row. -/
  | stopped

/-- One attempt. -/
structure CallTask where
  caller : Caller
  runId : Option ℕ
  admitted : Bool
  invoked : Bool
  phase : CallPhase

/-- The committed state and the attempts. -/
structure CallSystem where
  db : UsageDatabase
  calls : List CallTask

/-- What happens next. -/
inductive CallAction
  | arrive (caller : Caller) (gateway : Gateway)
  | check (call : ℕ) (estimatedCost : Option Amount) (estimatedTokens : ℕ)
  | refuse (call : ℕ)
  | start (call : ℕ) (context : ProviderCallContext) (reference : ModelReference) (key : String)
      (attempt fallbackIndex : ℕ)
  | invoke (call : ℕ)
  | read (call : ℕ) (outcome : CallOutcome)
  | commit (call : ℕ)
  | stop (call : ℕ)
  | workflows (statuses : ℕ → WorkflowRunStatus) (newRuns : List WorkflowUsage)

/-- The attempt that an action is about. -/
def CallAction.call : CallAction → Option ℕ
  | .check i _ _ | .refuse i | .start i .. | .invoke i | .read i _ | .commit i | .stop i => some i
  | .arrive .. | .workflows .. => none

namespace CallTask

/-- The audit row of an attempt. -/
def callId (t : CallTask) : Option ℕ :=
  match t.phase with
  | .running id | .recorded id | .invoked id | .closing id _ _ | .closed id => some id
  | _ => none

/-- Whether an attempt has not ended. -/
def inProgress (t : CallTask) : Bool :=
  match t.phase with
  | .closed _ | .stopped => false
  | _ => true

/-- Whether an attempt is closing its row. -/
def closing (t : CallTask) : Bool :=
  match t.phase with
  | .closing .. => true
  | _ => false

/-- The attempt ends as `outcome` says: only an attempt whose provider was called can have an
answer, and one that has closed its row can only fail. -/
def mayRead (t : CallTask) (outcome : CallOutcome) : Option ℕ :=
  match t.phase, outcome with
  | .invoked id, _ => some id
  | .running id, .failed .. | .recorded id, .failed .. | .closed id, .failed .. => some id
  | _, _ => none

end CallTask

namespace CallSystem

/-- Move attempt `i`. -/
def setCall (s : CallSystem) (i : ℕ) (t : CallTask) : CallSystem :=
  { s with calls := s.calls.set i t }

/-- Insert the audit row of attempt `i`. When that raises, the handler of an admitted attempt
tries again, and that of a refused one gives up. -/
def insertRow (s : CallSystem) (i : ℕ) (t : CallTask) (row : ProviderCall)
    (inserted : ℕ → CallPhase) (otherwise : CallPhase) : CallSystem :=
  match insertCall row s.db with
  | .ok (id, db) => { s.setCall i { t with phase := inserted id } with db }
  | .error _ => s.setCall i { t with phase := otherwise }

/-- The commit of `_finish_call`. -/
def finish (t : CallTask) (callId : ℕ) (result : CallEnd) (seen : Option WorkflowUsage)
    (row : ProviderCall) (db : UsageDatabase) : UsageDatabase :=
  { db with
    providerCalls := db.providerCalls.set callId (row.finish t.caller result)
    workflowRuns :=
      match t.runId, seen with
      | some runId, some seen =>
          db.workflowRuns.modify runId (seen.flush (seen.count t.caller row result))
      | _, _ => db.workflowRuns }

/-- What other code writes: the statuses of the runs, and new runs. -/
def otherRuns (statuses : ℕ → WorkflowRunStatus) (newRuns : List WorkflowUsage)
    (runs : List WorkflowUsage) : List WorkflowUsage :=
  (runs.mapIdx fun id run => { run with status := statuses id }) ++
    newRuns.map fun run =>
      { run with
        providerCallCount := 0, providerInputTokens := 0, providerOutputTokens := 0
        providerEstimatedCost := 0, providerFallbackCount := 0, providerRateLimitCount := 0 }

/-- The effect of an action on attempt `t`. -/
def step (settings : Settings) (s : CallSystem) (i : ℕ) (t : CallTask) :
    CallAction → Option CallSystem
  | .check _ estimatedCost estimatedTokens =>
      match t.phase with
      | .arrived =>
          match BudgetService.checkWorkflow settings t.runId estimatedCost estimatedTokens s.db with
          | .ok _ => some (s.setCall i { t with phase := .admitted, admitted := true })
          | .error _ => some (s.setCall i { t with phase := .refused })
      | _ => none
  | .refuse _ =>
      match t.phase with
      | .arrived | .admitted => some (s.setCall i { t with phase := .refused })
      | _ => none
  | .start _ context reference key attempt fallbackIndex =>
      let row := newProviderCall context t.runId reference key attempt fallbackIndex
      match t.phase with
      | .admitted => some (s.insertRow i t row .running .refused)
      | .refused => some (s.insertRow i t row .recorded .stopped)
      | _ => none
  | .invoke _ =>
      match t.phase with
      | .running id => some (s.setCall i { t with phase := .invoked id, invoked := true })
      | _ => none
  | .read _ outcome =>
      (t.mayRead outcome).map fun id =>
        let seen := t.runId.bind fun runId => s.db.workflowRuns[runId]?
        s.setCall i { t with phase := .closing id outcome.callEnd seen }
  | .commit _ =>
      match t.phase with
      | .closing id result seen =>
          (s.db.providerCalls[id]?).map fun row =>
            { s.setCall i { t with phase := .closed id } with
              db := finish t id result seen row s.db }
      | _ => none
  | .stop _ => if t.inProgress then some (s.setCall i { t with phase := .stopped }) else none
  | .arrive .. | .workflows .. => none

/-- The effect of an action. -/
def next (settings : Settings) (s : CallSystem) (a : CallAction) : Option CallSystem :=
  match a with
  | .arrive caller gateway =>
      some { s with
        calls := s.calls ++ [⟨caller, caller.workflowRunId gateway s.db, false, false, .arrived⟩] }
  | .workflows statuses newRuns =>
      some { s with
        db := { s.db with workflowRuns := otherRuns statuses newRuns s.db.workflowRuns } }
  | .check i _ _ | .refuse i | .start i .. | .invoke i | .read i _ | .commit i | .stop i =>
      s.calls[i]?.bind fun t => step settings s i t a

/-- Calls on one database. Runs start without calls, audit rows and counted usage. -/
def machine (settings : Settings) : Machine CallSystem CallAction where
  init s := s.calls = [] ∧ s.db.providerCalls = [] ∧
    ∀ workflow ∈ s.db.workflowRuns, workflow.totals = 0
  next := next settings

end CallSystem

/-! ### What is claimed, and when -/

namespace CallTask

/-- An attempt of a run. -/
def of (runId : ℕ) (t : CallTask) : Bool := decide (t.runId = some runId)

/-- An attempt that has passed the check and has not ended. -/
def holding (runId : ℕ) (t : CallTask) : Bool := t.of runId && t.admitted && t.inProgress

/-- An attempt whose provider was called. -/
def called (runId : ℕ) (t : CallTask) : Bool := t.of runId && t.invoked

end CallTask

namespace CallSystem

/-- How often providers were called for a run. -/
def invocations (s : CallSystem) (runId : ℕ) : ℕ := s.calls.countP (·.called runId)

end CallSystem

/-- What a row of a run counts for once it is finished. -/
def ProviderCall.finishedUsage (runId : ℕ) (row : ProviderCall) : Totals :=
  if row.workflowRunId = some runId ∧ row.status ≠ .running then row.usage else 0

/-- The calls, tokens and costs of the finished rows of a run. -/
def UsageDatabase.finishedUsage (db : UsageDatabase) (runId : ℕ) : Totals :=
  (db.providerCalls.map (·.finishedUsage runId)).sum

namespace CallSystem

/-- The calls counted in the row of a run. -/
def counted (s : CallSystem) (runId : ℕ) : ℕ :=
  (s.db.workflowRuns[runId]?.map (·.providerCallCount)).getD 0

/-- An attempt of the run is admitted only if the ceiling has room for it next to the counted
calls and the calls in progress; rows are closed once and one at a time; and an attempt whose
provider was called closes its row. -/
def Orderly (settings : Settings) (runId : ℕ) (s : CallSystem) : CallAction → Prop
  | .check i estimatedCost estimatedTokens => ∀ t ∈ s.calls[i]?, t.of runId →
      (BudgetService.checkWorkflow settings t.runId estimatedCost estimatedTokens s.db).isOk →
      s.counted runId + s.calls.countP (·.holding runId) < settings.workflowMaxProviderCalls
  | .read i _ => ∀ t ∈ s.calls[i]?, t.of runId →
      t.inProgress ∧ ∀ u ∈ s.calls, u.of runId → u.closing = false
  | .stop i => ∀ t ∈ s.calls[i]?, t.of runId → t.invoked = false
  | _ => True

instance (settings : Settings) (runId : ℕ) (s : CallSystem) (a : CallAction) :
    Decidable (s.Orderly settings runId a) := by
  unfold Orderly; split <;> infer_instance

end CallSystem

/-! ### What a close adds -/

/-- A price comes with a usage. -/
def CallEnd.Priced (result : CallEnd) : Prop := result.usage = none → result.estimatedCost = none

theorem CallOutcome.priced_callEnd (outcome : CallOutcome) : outcome.callEnd.Priced := by
  cases outcome with
  | answered => exact fun h => absurd h (by simp [callEnd])
  | failed => exact fun _ => rfl

theorem CallOutcome.status_callEnd (outcome : CallOutcome) : outcome.callEnd.status ≠ .running := by
  cases outcome with
  | answered => simp [callEnd]
  | failed error =>
      simp only [callEnd]
      unfold statusForError
      split <;> simp

/-- What a caller's close adds to its run. -/
def CallEnd.counts (caller : Caller) (result : CallEnd) : Totals :=
  match caller with
  | .languageModel => result.totals
  | .embedding =>
      (1, ((result.usage.map (·.inputTokens)).getD 0 : ℕ), 0, result.estimatedCost.getD 0)

theorem CallEnd.counts_fst (caller : Caller) (result : CallEnd) : (result.counts caller).1 = 1 := by
  cases caller <;> rfl

theorem WorkflowUsage.totals_count (workflow : WorkflowUsage) (caller : Caller)
    (row : ProviderCall) (result : CallEnd) :
    (workflow.count caller row result).totals = workflow.totals + result.counts caller := by
  cases caller with
  | languageModel => simp [count, add, totals, CallEnd.counts, CallEnd.totals]
  | embedding => simp [count, totals, CallEnd.counts]

/-- A row that nothing was written to yet. -/
structure ProviderCall.Blank (row : ProviderCall) : Prop where
  running : row.status = .running
  inputTokens : row.inputTokens = 0
  outputTokens : row.outputTokens = 0
  estimatedCost : row.estimatedCost = none

/-- A blank row counts for what is added when it is closed. -/
theorem ProviderCall.usage_finish {row : ProviderCall} {caller : Caller} {result : CallEnd}
    (hblank : row.Blank) (hpriced : result.Priced) :
    (row.finish caller result).usage = result.counts caller := by
  cases husage : result.usage with
  | none =>
      have hcost := hpriced husage
      cases caller <;> simp [finish, close, usage, CallEnd.counts, CallEnd.totals, husage, hcost,
        hblank.inputTokens, hblank.outputTokens, hblank.estimatedCost]
  | some usage =>
      cases caller <;> simp [finish, close, ProviderCall.usage, CallEnd.counts, CallEnd.totals,
        husage]

@[simp] theorem ProviderCall.workflowRunId_finish (row : ProviderCall) (caller : Caller)
    (result : CallEnd) : (row.finish caller result).workflowRunId = row.workflowRunId := by
  cases husage : result.usage <;> cases caller <;> simp [finish, close, husage]

@[simp] theorem ProviderCall.status_finish (row : ProviderCall) (caller : Caller)
    (result : CallEnd) : (row.finish caller result).status = result.status := by
  cases husage : result.usage <;> cases caller <;> simp [finish, close, husage]

theorem flushed_eq {α : Type} [DecidableEq α] {seen written current : α} (h : seen = current) :
    flushed seen written current = written := by
  unfold flushed
  split
  · rw [← h]; exact (‹written = seen›).symm
  · rfl

/-- A flush over the counters that were read stores the counters that were written. -/
theorem WorkflowUsage.totals_flush {seen written current : WorkflowUsage}
    (h : seen.totals = current.totals) :
    (seen.flush written current).totals = written.totals := by
  simp only [totals, Prod.mk.injEq, Nat.cast_inj] at h
  obtain ⟨hcalls, hinput, houtput, hcost⟩ := h
  simp only [totals, flush, flushed_eq hcalls, flushed_eq hinput, flushed_eq houtput,
    flushed_eq hcost]

/-! ### The invariant -/

namespace CallTask

/-- Whether an attempt has closed its row. -/
def finished (runId : ℕ) (t : CallTask) : Bool :=
  t.of runId && match t.phase with
    | .closed _ => true
    | _ => false

/-- An attempt that has used up room: its provider was called, or it may still be. -/
def spends (runId : ℕ) (t : CallTask) : Bool :=
  t.of runId && (t.invoked || (t.admitted && t.inProgress))

/-- What an attempt relies on in the database. -/
structure Sound (runId : ℕ) (t : CallTask) (db : UsageDatabase) : Prop where
  row : ∀ id, t.callId = some id → ∃ row, db.providerCalls[id]? = some row ∧
    row.workflowRunId = t.runId ∧ (t.of runId → t.inProgress → row.Blank)
  workflow : ∀ id, t.callId = some id → t.of runId → db.workflowRuns[runId]?.isSome
  admitted : t.invoked ∨ t.phase = .admitted ∨ (∃ id, t.phase = .running id) → t.admitted
  invoked : t.of runId → t.invoked → t.callId.isSome
  seen : ∀ id result seen, t.phase = .closing id result seen →
    result.Priced ∧ result.status ≠ .running ∧ (t.of runId →
      (seen.map (·.totals)) = db.workflowRuns[runId]?.map (·.totals))

end CallTask

namespace CallSystem

/-- The attempts of a run have left room for each other and were counted one by one. -/
structure Kept (settings : Settings) (runId : ℕ) (s : CallSystem) : Prop where
  sound : ∀ (i : ℕ) (t : CallTask), s.calls[i]? = some t → t.Sound runId s.db
  distinct : ∀ (i j : ℕ) (t u : CallTask) (id : ℕ), s.calls[i]? = some t →
    s.calls[j]? = some u → t.callId = some id → u.callId = some id → i = j
  alone : ∀ (i j : ℕ) (t u : CallTask), s.calls[i]? = some t → s.calls[j]? = some u →
    t.of runId → u.of runId → t.closing → u.closing → i = j
  counted : s.db.totals runId = s.db.finishedUsage runId
  finished : s.calls.countP (·.finished runId) ≤ s.counted runId
  spends : s.calls.countP (·.spends runId) ≤ settings.workflowMaxProviderCalls

variable {settings : Settings} {r i : ℕ} {s s' : CallSystem} {t t' : CallTask}

/-- Who has called a provider has spent room for it. -/
theorem Kept.invocations_le (h : s.Kept settings r) :
    s.invocations r ≤ settings.workflowMaxProviderCalls := by
  refine le_trans (List.countP_mono_left fun t _ hcalled => ?_) h.spends
  simp only [CallTask.called, CallTask.spends, Bool.and_eq_true] at hcalled ⊢
  exact ⟨hcalled.1, by simp [hcalled.2]⟩

/-- Room is spent by finished attempts, which are counted, and by those in progress. -/
theorem Kept.spends_le (h : s.Kept settings r) :
    s.calls.countP (·.spends r) ≤ s.counted r + s.calls.countP (·.holding r) := by
  have hle : s.calls.countP (·.spends r) ≤
      s.calls.countP (fun t => t.finished r || t.holding r) := by
    refine List.countP_mono_left fun t ht hspends => ?_
    obtain ⟨i, hi⟩ := List.mem_iff_getElem?.mp ht
    have hsound := h.sound i t hi
    simp only [CallTask.spends, Bool.and_eq_true, Bool.or_eq_true] at hspends
    obtain ⟨hof, hinvoked | hheld⟩ := hspends
    · have hadmitted := hsound.admitted (.inl hinvoked)
      have hphase := hsound.invoked hof hinvoked
      simp only [CallTask.callId] at hphase
      simp only [CallTask.finished, CallTask.holding, CallTask.inProgress, hof, hadmitted,
        Bool.true_and, Bool.or_eq_true]
      cases hp : t.phase <;> simp_all
    · simp [CallTask.holding, hof, hheld.1, hheld.2]
  have hor : s.calls.countP (fun t => t.finished r || t.holding r) ≤
      s.calls.countP (·.finished r) + s.calls.countP (·.holding r) := by
    induction s.calls with
    | nil => simp
    | cons t ts ih =>
        simp only [List.countP_cons]
        cases t.finished r <;> cases t.holding r <;> simp <;> omega
  have hfinished := h.finished
  omega

/-- **An attempt moves**, in a transaction that the other attempts do not notice. -/
theorem Kept.setCall (h : s.Kept settings r) (hi : s.calls[i]? = some t) {db : UsageDatabase}
    (hsound : t'.Sound r db)
    (hframe : ∀ (j : ℕ) (u : CallTask), j ≠ i → s.calls[j]? = some u → u.Sound r db)
    (hid : ∀ id, t'.callId = some id → t.callId = some id ∨ s.db.providerCalls.length ≤ id)
    (hclosing : t'.of r → t'.closing → ∀ u ∈ s.calls, u.of r → u.closing = false)
    (hcounted : db.totals r = db.finishedUsage r)
    (hfinished : s.counted r + (t'.finished r).toNat ≤
      (CallSystem.mk db []).counted r + (t.finished r).toNat)
    (hspends : (s.calls.set i t').countP (·.spends r) ≤ settings.workflowMaxProviderCalls) :
    Kept settings r ⟨db, s.calls.set i t'⟩ where
  sound j u hj := by
    rcases Rows.getElem?_set_cases hj with ⟨-, rfl⟩ | ⟨hne, hj⟩
    · exact hsound
    · exact hframe j u (Ne.symm hne) hj
  distinct j k u w id hj hk hu hw := by
    -- the row of the attempt that moved is its own row or a new one
    have hother : ∀ {k w}, k ≠ i → s.calls[k]? = some w → w.callId = some id →
        t'.callId ≠ some id := by
      intro k w hne hk hw hid'
      rcases hid id hid' with hold | hnew
      · exact hne (h.distinct k i w t id hk hi hw hold)
      · obtain ⟨row, hrow, -⟩ := (h.sound k w hk).row id hw
        have := (List.getElem?_eq_some_iff.mp hrow).1
        omega
    rcases Rows.getElem?_set_cases hj with ⟨rfl, rfl⟩ | ⟨hne, hj⟩
    · rcases Rows.getElem?_set_cases hk with ⟨rfl, -⟩ | ⟨hne, hk⟩
      · rfl
      · exact absurd hu (hother (Ne.symm hne) hk hw)
    · rcases Rows.getElem?_set_cases hk with ⟨rfl, rfl⟩ | ⟨hne', hk⟩
      · exact absurd hw (hother (Ne.symm hne) hj hu)
      · exact h.distinct j k u w id hj hk hu hw
  alone j k u w hj hk hu hw hju hkw := by
    rcases Rows.getElem?_set_cases hj with ⟨rfl, rfl⟩ | ⟨hne, hj⟩
    · rcases Rows.getElem?_set_cases hk with ⟨rfl, -⟩ | ⟨hne, hk⟩
      · rfl
      · have := hclosing hu hju w (List.mem_of_getElem? hk) hw
        exact absurd hkw (by simp [this])
    · rcases Rows.getElem?_set_cases hk with ⟨rfl, rfl⟩ | ⟨hne', hk⟩
      · have := hclosing hw hkw u (List.mem_of_getElem? hj) hu
        exact absurd hju (by simp [this])
      · exact h.alone j k u w hj hk hu hw hju hkw
  counted := hcounted
  finished := by
    have hset := Rows.countP_set_add (p := (·.finished r)) (y := t') hi
    have hle := h.finished
    show (s.calls.set i t').countP (·.finished r) ≤ (CallSystem.mk db []).counted r
    omega
  spends := hspends

/-- What is spent does not grow when an attempt spends no more than before. -/
theorem Kept.spends_set (h : s.Kept settings r) (hi : s.calls[i]? = some t)
    (hle : t'.spends r → t.spends r) :
    (s.calls.set i t').countP (·.spends r) ≤ settings.workflowMaxProviderCalls := by
  have hset := Rows.countP_set_add (p := (·.spends r)) (y := t') hi
  have hspends := h.spends
  have hnat : (t'.spends r).toNat ≤ (t.spends r).toNat := by
    cases hnew : t'.spends r with
    | false => simp
    | true => simp [hle hnew]
  omega

/-- A step that writes nothing but its phase and flags. -/
theorem Kept.move (h : s.Kept settings r) (hi : s.calls[i]? = some t)
    (hsound : t'.Sound r s.db)
    (hid : ∀ id, t'.callId = some id → t.callId = some id)
    (hclosing : t'.of r → t'.closing → ∀ u ∈ s.calls, u.of r → u.closing = false)
    (hfinished : t'.finished r → t.finished r)
    (hspends : (s.calls.set i t').countP (·.spends r) ≤ settings.workflowMaxProviderCalls) :
    Kept settings r (s.setCall i t') := by
  refine h.setCall hi hsound (fun j u _ hj => h.sound j u hj) (fun id hid' => .inl (hid id hid'))
    hclosing h.counted ?_ hspends
  show s.counted r + (t'.finished r).toNat ≤ s.counted r + (t.finished r).toNat
  cases hnew : t'.finished r with
  | false => simp
  | true => simp [hfinished hnew]

/-! ### One step -/

/-- Asking for room. -/
theorem kept_check (h : s.Kept settings r) (hi : s.calls[i]? = some t)
    (harrived : t.phase = .arrived) {cost : Option Amount} {tokens : ℕ}
    (hok : s.Orderly settings r (.check i cost tokens))
    (hcheck : BudgetService.checkWorkflow settings t.runId cost tokens s.db = .ok ()) :
    Kept settings r (s.setCall i { t with phase := .admitted, admitted := true }) := by
  have hsound := h.sound i t hi
  refine h.move hi ⟨by simp [CallTask.callId], by simp [CallTask.callId], fun _ => rfl,
    fun hof hinvoked => ?_, by simp⟩ (by simp [CallTask.callId]) (by simp [CallTask.closing])
    (by simp [CallTask.finished]) ?_
  · have hcall := hsound.invoked hof hinvoked
    simp [CallTask.callId, harrived] at hcall
  have hset := Rows.countP_set_add (p := (·.spends r))
    (y := { t with phase := .admitted, admitted := true }) hi
  have hspends := h.spends
  cases hof : t.of r with
  | false =>
      have hnew : CallTask.spends r { t with phase := .admitted, admitted := true } = false := by
        simp only [CallTask.spends, Bool.and_eq_false_iff]
        exact .inl hof
      rw [hnew] at hset
      simp only [Bool.toNat_false] at hset
      omega
  | true =>
      have hroom := hok t hi hof (by rw [hcheck]; rfl)
      have hle := h.spends_le
      have hnat := Bool.toNat_le (CallTask.spends r { t with phase := .admitted, admitted := true })
      omega

/-- Giving up before the audit row, or without closing it. -/
theorem kept_leave (h : s.Kept settings r) (hi : s.calls[i]? = some t) {phase : CallPhase}
    (hphase : phase = .refused ∨ phase = .stopped)
    (hinvoked : t.of r → t.invoked = false)
    (hprogress : t.inProgress) : Kept settings r (s.setCall i { t with phase }) := by
  have hsound := h.sound i t hi
  refine h.move hi ⟨?_, ?_, fun hadmitted => hsound.admitted ?_, ?_, ?_⟩ ?_ ?_ ?_
    (h.spends_set hi ?_)
  · rcases hphase with rfl | rfl <;> simp [CallTask.callId]
  · rcases hphase with rfl | rfl <;> simp [CallTask.callId]
  · rcases hadmitted with hadmitted | hadmitted | ⟨id, hid⟩
    · exact .inl hadmitted
    · rcases hphase with rfl | rfl <;> exact absurd hadmitted (by simp)
    · rcases hphase with rfl | rfl <;> exact absurd hid (by simp)
  · intro hof hcalled
    rw [hinvoked hof] at hcalled
    exact absurd hcalled (by simp)
  · rcases hphase with rfl | rfl <;> simp
  · rcases hphase with rfl | rfl <;> simp [CallTask.callId]
  · rcases hphase with rfl | rfl <;> simp [CallTask.closing]
  · rcases hphase with rfl | rfl <;> simp [CallTask.finished]
  · intro hspends
    simp only [CallTask.spends, Bool.and_eq_true, Bool.or_eq_true] at hspends ⊢
    refine ⟨hspends.1, hspends.2.imp_right fun hheld => ⟨hheld.1, hprogress⟩⟩

/-- Calling the provider. -/
theorem kept_invoke (h : s.Kept settings r) (hi : s.calls[i]? = some t) {id : ℕ}
    (hrunning : t.phase = .running id) :
    Kept settings r (s.setCall i { t with phase := .invoked id, invoked := true }) := by
  have hsound := h.sound i t hi
  have hadmitted := hsound.admitted (.inr (.inr ⟨id, hrunning⟩))
  have hcall : t.callId = some id := by simp [CallTask.callId, hrunning]
  have hprogress : t.inProgress := by simp [CallTask.inProgress, hrunning]
  refine h.move hi ⟨?_, ?_, fun _ => hadmitted, fun _ _ => rfl, by simp⟩ ?_
    (by simp [CallTask.closing])
    (by simp [CallTask.finished]) (h.spends_set hi ?_)
  · intro id' hid'
    obtain rfl : id = id' := Option.some.inj hid'
    obtain ⟨row, hrow, hrun, hblank⟩ := hsound.row id hcall
    exact ⟨row, hrow, hrun, fun hof _ => hblank hof hprogress⟩
  · intro id' _ hof
    exact hsound.workflow id hcall hof
  · intro id' hid'
    obtain rfl : id = id' := Option.some.inj hid'
    exact hcall
  · intro hspends
    simp only [CallTask.spends, Bool.and_eq_true, Bool.or_eq_true] at hspends ⊢
    exact ⟨hspends.1, .inr ⟨hadmitted, hprogress⟩⟩

/-- Reading the rows to close. -/
theorem kept_read (h : s.Kept settings r) (hi : s.calls[i]? = some t) {outcome : CallOutcome}
    {id : ℕ} (hread : t.mayRead outcome = some id) (hok : s.Orderly settings r (.read i outcome)) :
    Kept settings r (s.setCall i { t with
      phase := .closing id outcome.callEnd
        (t.runId.bind fun runId => s.db.workflowRuns[runId]?) }) := by
  have hsound := h.sound i t hi
  have hcall : t.callId = some id := by
    unfold CallTask.mayRead at hread
    unfold CallTask.callId
    split at hread <;> simp_all
  refine h.move hi ⟨?_, ?_, ?_, fun _ _ => rfl, ?_⟩ ?_ ?_ (by simp [CallTask.finished])
    (h.spends_set hi ?_)
  · intro id' hid'
    obtain rfl : id = id' := Option.some.inj hid'
    obtain ⟨row, hrow, hrun, hblank⟩ := hsound.row id hcall
    exact ⟨row, hrow, hrun, fun hof _ => hblank hof (hok t hi hof).1⟩
  · intro id' _ hof
    exact hsound.workflow id hcall hof
  · rintro (hinvoked | hadmitted | ⟨id', hid'⟩)
    · exact hsound.admitted (.inl hinvoked)
    · exact absurd hadmitted (by simp)
    · exact absurd hid' (by simp)
  · rintro id' result seen hphase
    obtain ⟨rfl, rfl, rfl⟩ := CallPhase.closing.inj hphase
    refine ⟨outcome.priced_callEnd, outcome.status_callEnd, fun hof => ?_⟩
    have hrun : t.runId = some r := of_decide_eq_true hof
    show (t.runId.bind fun runId => s.db.workflowRuns[runId]?).map (·.totals) = _
    rw [hrun]
    rfl
  · intro id' hid'
    obtain rfl : id = id' := Option.some.inj hid'
    exact hcall
  · intro hof _
    exact (hok t hi hof).2
  · intro hspends
    simp only [CallTask.spends, Bool.and_eq_true, Bool.or_eq_true] at hspends ⊢
    exact ⟨hspends.1, hspends.2.imp_right fun hheld => ⟨hheld.1, (hok t hi hspends.1).1⟩⟩

/-- An attempt without a row has called nobody. -/
theorem Kept.invoked_eq_false (h : s.Kept settings r) (hi : s.calls[i]? = some t)
    (hnone : t.callId = none) (hof : t.of r) : t.invoked = false := by
  cases hinvoked : t.invoked with
  | false => rfl
  | true =>
      have hcall := (h.sound i t hi).invoked hof hinvoked
      simp [hnone] at hcall

/-- A new row does not disturb an attempt. -/
theorem sound_append (hsound : t.Sound r s.db) (row : ProviderCall) :
    t.Sound r { s.db with providerCalls := s.db.providerCalls ++ [row] } := by
  refine ⟨fun id hid => ?_, hsound.workflow, hsound.admitted, hsound.invoked, hsound.seen⟩
  obtain ⟨old, hold, hrun, hblank⟩ := hsound.row id hid
  have hlt := (List.getElem?_eq_some_iff.mp hold).1
  exact ⟨old, by rw [List.getElem?_append_left hlt]; exact hold, hrun, hblank⟩

/-- A row that is not finished counts for nothing. -/
theorem finishedUsage_append {db : UsageDatabase} {row : ProviderCall} (hblank : row.Blank) :
    UsageDatabase.finishedUsage { db with providerCalls := db.providerCalls ++ [row] } r =
      db.finishedUsage r := by
  have hrow : row.finishedUsage r = 0 := if_neg fun hfinished => hfinished.2 hblank.running
  simp only [UsageDatabase.finishedUsage, List.map_append, List.sum_append, List.map_singleton,
    List.sum_singleton, hrow, add_zero]

/-- Inserting the audit row. -/
theorem kept_insert (h : s.Kept settings r) (hi : s.calls[i]? = some t) {row : ProviderCall}
    {id : ℕ} {db : UsageDatabase} {phase : CallPhase} (hprogress : t.inProgress) (hblank : row.Blank) (hrun : row.workflowRunId = t.runId)
    (hphase : phase = .running id ∧ t.admitted ∨ phase = .recorded id)
    (hinsert : insertCall row s.db = .ok (id, db)) :
    Kept settings r ⟨db, s.calls.set i { t with phase }⟩ := by
  have hsound := h.sound i t hi
  obtain ⟨rfl, rfl, hexists⟩ := insertCall_eq_ok hinsert
  have hcall : CallTask.callId { t with phase } = some s.db.providerCalls.length := by
    rcases hphase with ⟨rfl, -⟩ | rfl <;> rfl
  have hclosing : CallTask.closing { t with phase } = false := by
    rcases hphase with ⟨rfl, -⟩ | rfl <;> rfl
  have hfinished : CallTask.finished r { t with phase } = false := by
    rcases hphase with ⟨rfl, -⟩ | rfl <;> simp [CallTask.finished]
  refine h.setCall hi ⟨?_, ?_, ?_, ?_, ?_⟩ (fun j u _ hj => sound_append (h.sound j u hj) row) ?_
    (by simp [hclosing]) ?_ ?_ (h.spends_set hi ?_)
  · intro id hid
    obtain rfl := Option.some.inj (hcall.symm.trans hid)
    exact ⟨row, List.getElem?_concat_length, hrun, fun _ _ => hblank⟩
  · intro _ _ hof
    exact hexists r (hrun.trans (of_decide_eq_true hof))
  · rintro (hinvoked | hadmitted | hrunning)
    · exact hsound.admitted (.inl hinvoked)
    · rcases hphase with ⟨rfl, -⟩ | rfl <;> exact absurd hadmitted (by simp)
    · rcases hphase with ⟨-, hadmitted⟩ | rfl
      · exact hadmitted
      · obtain ⟨_, hid⟩ := hrunning
        exact absurd hid (by simp)
  · intro _ _
    rw [hcall]
    rfl
  · rcases hphase with ⟨rfl, -⟩ | rfl <;> simp
  · intro id hid
    obtain rfl := Option.some.inj (hcall.symm.trans hid)
    exact .inr (le_refl _)
  · rw [finishedUsage_append hblank]
    exact h.counted
  · rw [hfinished]
    exact Nat.le_add_right _ _
  · intro hspends
    simp only [CallTask.spends, Bool.and_eq_true, Bool.or_eq_true] at hspends ⊢
    exact ⟨hspends.1, hspends.2.imp_right fun hheld => ⟨hheld.1, hprogress⟩⟩

/-- The first counter. -/
theorem totals_fst (s : CallSystem) (runId : ℕ) : (s.db.totals runId).1 = s.counted runId := by
  unfold UsageDatabase.totals counted
  cases s.db.workflowRuns[runId]? <;> rfl

/-- Another run's rows. -/
theorem finishedUsage_of_ne {row : ProviderCall} (h : row.workflowRunId ≠ some r) :
    row.finishedUsage r = 0 := if_neg fun hfinished => h hfinished.1

/-- Writing a row changes what the rows count for by what the row does. -/
theorem finishedUsage_set {db : UsageDatabase} {id : ℕ} {old row : ProviderCall}
    {runs : List WorkflowUsage} (hold : db.providerCalls[id]? = some old)
    (hzero : old.finishedUsage r = 0) :
    UsageDatabase.finishedUsage
        { db with providerCalls := db.providerCalls.set id row, workflowRuns := runs } r =
      db.finishedUsage r + row.finishedUsage r := by
  obtain ⟨hlt, hget⟩ := List.getElem?_eq_some_iff.mp hold
  have hlen : id < (db.providerCalls.map (·.finishedUsage r)).length := by simpa using hlt
  have hzero' : (db.providerCalls.map (·.finishedUsage r))[id] = 0 := by
    rw [List.getElem_map, hget]
    exact hzero
  simp only [UsageDatabase.finishedUsage, List.map_set, List.sum_set', hlen, dif_pos, hzero',
    neg_zero, zero_add]

/-- The rows of the runs after a commit: only the run of the attempt is written. -/
theorem workflowRuns_finish {id : ℕ} {result : CallEnd} {seen : Option WorkflowUsage}
    {row : ProviderCall} {db : UsageDatabase} (hne : t.runId ≠ some r) :
    (finish t id result seen row db).workflowRuns[r]? = db.workflowRuns[r]? := by
  unfold finish
  split
  · rename_i runId _ hrun
    have hne' : runId ≠ r := fun heq => hne (hrun.trans (congrArg some heq))
    rw [List.getElem?_modify_ne _ _ hne']
  · rfl

/-- **A close is counted** when the counters are as they were read. -/
theorem totals_finish {id : ℕ} {result : CallEnd} {seen : Option WorkflowUsage}
    {row : ProviderCall} {db : UsageDatabase} (hrun : t.runId = some r)
    (hexists : db.workflowRuns[r]?.isSome)
    (hseen : seen.map (·.totals) = db.workflowRuns[r]?.map (·.totals)) :
    (finish t id result seen row db).totals r = db.totals r + result.counts t.caller := by
  obtain ⟨current, hcurrent⟩ := Option.isSome_iff_exists.mp hexists
  rw [hcurrent, Option.map_some] at hseen
  obtain ⟨seen, rfl, hsame⟩ := Option.map_eq_some_iff.mp hseen
  simp only [UsageDatabase.totals, finish, hrun, List.getElem?_modify_eq, hcurrent,
    Option.map_eq_map, Option.map_some, Option.getD_some]
  rw [WorkflowUsage.totals_flush hsame, WorkflowUsage.totals_count, hsame]

/-- A commit of `_finish_call` does not disturb the other attempts. -/
theorem sound_finish (h : s.Kept settings r) (hi : s.calls[i]? = some t) {j id : ℕ} {u : CallTask}
    {result : CallEnd} {seen : Option WorkflowUsage} {row : ProviderCall}
    (hclosing : t.phase = .closing id result seen) (hne : j ≠ i) (hj : s.calls[j]? = some u) :
    u.Sound r (finish t id result seen row s.db) := by
  have hsound := h.sound j u hj
  have hcall : t.callId = some id := by simp [CallTask.callId, hclosing]
  refine ⟨fun id' hid' => ?_, fun id' hid' hof => ?_, hsound.admitted, hsound.invoked, ?_⟩
  · obtain ⟨old, hold, hkept⟩ := hsound.row id' hid'
    have hother : id ≠ id' := by
      rintro rfl
      exact hne (h.distinct j i u t id hj hi hid' hcall)
    exact ⟨old, by simp only [finish, List.getElem?_set_ne hother, hold], hkept⟩
  · have hexists := hsound.workflow id' hid' hof
    simp only [finish]
    split
    · rw [List.getElem?_modify]
      simpa using hexists
    · exact hexists
  · intro id' result' seen' hphase
    obtain ⟨hpriced, hstatus, hsame⟩ := hsound.seen id' result' seen' hphase
    refine ⟨hpriced, hstatus, fun hof => ?_⟩
    have hne' : t.runId ≠ some r := fun hrun =>
      hne (h.alone j i u t hj hi hof (decide_eq_true hrun) (by simp [CallTask.closing, hphase])
        (by simp [CallTask.closing, hclosing]))
    rw [workflowRuns_finish hne']
    exact hsame hof

/-- Closing a row. -/
theorem kept_commit (h : s.Kept settings r) (hi : s.calls[i]? = some t) {id : ℕ}
    {result : CallEnd} {seen : Option WorkflowUsage} {row : ProviderCall}
    (hclosing : t.phase = .closing id result seen) (hrow : s.db.providerCalls[id]? = some row) :
    Kept settings r
      ⟨finish t id result seen row s.db, s.calls.set i { t with phase := .closed id }⟩ := by
  have hsound := h.sound i t hi
  have hcall : t.callId = some id := by simp [CallTask.callId, hclosing]
  have hprogress : t.inProgress := by simp [CallTask.inProgress, hclosing]
  obtain ⟨_, hrow', hrowRun, hblank⟩ := hsound.row id hcall
  obtain rfl := Option.some.inj (hrow.symm.trans hrow')
  obtain ⟨hpriced, hstatus, hseen⟩ := hsound.seen id result seen hclosing
  -- what the run counts and what its rows count for grow alike
  have hgrow : (t.of r → (finish t id result seen row s.db).totals r =
        s.db.totals r + result.counts t.caller) ∧
      (finish t id result seen row s.db).totals r =
        (finish t id result seen row s.db).finishedUsage r := by
    have hold := h.counted
    by_cases hrun : t.runId = some r
    · have hof : t.of r := decide_eq_true hrun
      have htotals : (finish t id result seen row s.db).totals r =
          s.db.totals r + result.counts t.caller :=
        totals_finish hrun (hsound.workflow id hcall hof) (hseen hof)
      refine ⟨fun _ => htotals, ?_⟩
      have hblank := hblank hof hprogress
      have hrowUsage : (row.finish t.caller result).finishedUsage r = result.counts t.caller := by
        rw [ProviderCall.finishedUsage, if_pos ⟨by simp [hrowRun, hrun], by simpa using hstatus⟩,
          ProviderCall.usage_finish hblank hpriced]
      rw [htotals, hold, ← hrowUsage]
      exact (finishedUsage_set hrow (if_neg fun hfinished => hfinished.2 hblank.running)).symm
    · refine ⟨fun hof => absurd (of_decide_eq_true hof) hrun, ?_⟩
      have hrowUsage : (row.finish t.caller result).finishedUsage r = 0 :=
        finishedUsage_of_ne (by simpa [hrowRun] using hrun)
      have hset : (finish t id result seen row s.db).finishedUsage r = s.db.finishedUsage r + 0 :=
        hrowUsage ▸ finishedUsage_set hrow (finishedUsage_of_ne (by rw [hrowRun]; exact hrun))
      rw [hset, add_zero, UsageDatabase.totals, workflowRuns_finish hrun]
      exact hold
  refine h.setCall hi ⟨?_, ?_, ?_, fun _ _ => rfl, by simp⟩
    (fun j u hne hj => sound_finish h hi hclosing hne hj) ?_ (by simp [CallTask.closing]) hgrow.2 ?_
    (h.spends_set hi ?_)
  · intro id' hid'
    obtain rfl : id = id' := Option.some.inj hid'
    have hlt := (List.getElem?_eq_some_iff.mp hrow).1
    exact ⟨_, List.getElem?_set_self hlt, by simpa using hrowRun,
      fun _ hopen => absurd hopen (by simp [CallTask.inProgress])⟩
  · intro id' _ hof
    have hexists := hsound.workflow id hcall hof
    simp only [finish]
    split
    · rw [List.getElem?_modify]
      simpa using hexists
    · exact hexists
  · rintro (hinvoked | hadmitted | ⟨_, hid'⟩)
    · exact hsound.admitted (.inl hinvoked)
    · exact absurd hadmitted (by simp)
    · exact absurd hid' (by simp)
  · intro id' hid'
    obtain rfl : id = id' := Option.some.inj hid'
    exact .inl hcall
  · have hnot : t.finished r = false := by simp [CallTask.finished, hclosing]
    have hbefore := totals_fst s r
    have hafter := totals_fst ⟨finish t id result seen row s.db, []⟩ r
    rw [hnot, Bool.toNat_false, add_zero]
    cases hof : t.of r with
    | true =>
        have hone := congrArg Prod.fst (hgrow.1 hof)
        rw [Prod.fst_add, result.counts_fst, hbefore, hafter] at hone
        have hnat := Bool.toNat_le (CallTask.finished r { t with phase := .closed id })
        omega
    | false =>
        have hrun : t.runId ≠ some r := of_decide_eq_false hof
        have hfinished : CallTask.finished r { t with phase := .closed id } = false := by
          simp only [CallTask.finished, Bool.and_eq_false_iff]
          exact .inl hof
        rw [hfinished, Bool.toNat_false, add_zero]
        simp only [counted, workflowRuns_finish hrun, le_refl]
  · intro hspends
    simp only [CallTask.spends, CallTask.inProgress, Bool.and_eq_true, Bool.or_eq_true,
      Bool.false_eq_true, and_false, or_false] at hspends ⊢
    exact ⟨hspends.1, .inl hspends.2⟩

/-- Who arrives has no row and has used no room. -/
theorem kept_arrive (h : s.Kept settings r) (caller : Caller) (runId : Option ℕ) :
    Kept settings r ⟨s.db, s.calls ++ [⟨caller, runId, false, false, .arrived⟩]⟩ where
  sound j u hj := by
    rcases Rows.getElem?_concat_cases hj with hj | ⟨-, rfl⟩
    · exact h.sound j u hj
    · exact ⟨by simp [CallTask.callId], by simp [CallTask.callId], by simp, by simp, by simp⟩
  distinct j k u w id hj hk hu hw := by
    rcases Rows.getElem?_concat_cases hj with hj | ⟨-, rfl⟩
    · rcases Rows.getElem?_concat_cases hk with hk | ⟨-, rfl⟩
      · exact h.distinct j k u w id hj hk hu hw
      · exact absurd hw (by simp [CallTask.callId])
    · exact absurd hu (by simp [CallTask.callId])
  alone j k u w hj hk hu hw hju hkw := by
    rcases Rows.getElem?_concat_cases hj with hj | ⟨-, rfl⟩
    · rcases Rows.getElem?_concat_cases hk with hk | ⟨-, rfl⟩
      · exact h.alone j k u w hj hk hu hw hju hkw
      · exact absurd hkw (by simp [CallTask.closing])
    · exact absurd hju (by simp [CallTask.closing])
  counted := h.counted
  finished := by
    simp only [List.countP_append, List.countP_singleton, CallTask.finished, Bool.and_false,
      Bool.false_eq_true, if_false, add_zero]
    exact h.finished
  spends := by
    simp only [List.countP_append, List.countP_singleton, CallTask.spends, Bool.false_and,
      Bool.or_false, Bool.and_false, Bool.false_eq_true, if_false, add_zero]
    exact h.spends

/-- What other code writes to the runs. -/
theorem totals_otherRuns {db : UsageDatabase} (statuses : ℕ → WorkflowRunStatus)
    (newRuns : List WorkflowUsage) (hexists : db.workflowRuns[r]?.isSome) :
    (otherRuns statuses newRuns db.workflowRuns)[r]?.map (·.totals) =
      db.workflowRuns[r]?.map (·.totals) := by
  obtain ⟨run, hrun⟩ := Option.isSome_iff_exists.mp hexists
  have hlt : r < (db.workflowRuns.mapIdx fun id run => { run with status := statuses id }).length :=
    by simpa using (List.getElem?_eq_some_iff.mp hrun).1
  rw [otherRuns, List.getElem?_append_left hlt, List.getElem?_mapIdx, hrun]
  rfl

/-- A run that did not exist has counted nothing. -/
theorem totals_newRuns {db : UsageDatabase} (statuses : ℕ → WorkflowRunStatus)
    (newRuns : List WorkflowUsage) (hnone : db.workflowRuns[r]? = none) :
    UsageDatabase.totals
      { db with workflowRuns := otherRuns statuses newRuns db.workflowRuns } r = 0 := by
  have hle : (db.workflowRuns.mapIdx fun id run => { run with status := statuses id }).length ≤ r :=
    by simpa using List.getElem?_eq_none_iff.mp hnone
  rw [UsageDatabase.totals, otherRuns, List.getElem?_append_right hle, List.getElem?_map]
  generalize newRuns[r - _]? = run
  cases run <;> rfl

/-- Other code leaves the counters alone. -/
theorem kept_workflows (h : s.Kept settings r) (statuses : ℕ → WorkflowRunStatus)
    (newRuns : List WorkflowUsage) :
    Kept settings r ⟨{ s.db with workflowRuns := otherRuns statuses newRuns s.db.workflowRuns },
      s.calls⟩ := by
  have htotals : UsageDatabase.totals
      { s.db with workflowRuns := otherRuns statuses newRuns s.db.workflowRuns } r =
        s.db.totals r := by
    cases hrun : s.db.workflowRuns[r]? with
    | none => rw [totals_newRuns statuses newRuns hrun, UsageDatabase.totals, hrun]; rfl
    | some run =>
        have hexists : s.db.workflowRuns[r]?.isSome := by simp [hrun]
        simp only [UsageDatabase.totals, totals_otherRuns statuses newRuns hexists]
  have hcounted : (CallSystem.mk { s.db with
      workflowRuns := otherRuns statuses newRuns s.db.workflowRuns } s.calls).counted r =
        s.counted r := by
    have hafter := totals_fst ⟨{ s.db with
      workflowRuns := otherRuns statuses newRuns s.db.workflowRuns }, s.calls⟩ r
    have hbefore := totals_fst s r
    rw [htotals, hbefore] at hafter
    omega
  refine ⟨fun j u hj => ?_, h.distinct, h.alone, htotals.trans h.counted,
    le_of_le_of_eq h.finished hcounted.symm, h.spends⟩
  have hsound := h.sound j u hj
  refine ⟨hsound.row, fun id hid hof => ?_, hsound.admitted, hsound.invoked, ?_⟩
  · have hexists := hsound.workflow id hid hof
    have hsame := totals_otherRuns statuses newRuns hexists
    rw [← Option.isSome_map, hsame, Option.isSome_map]
    exact hexists
  · intro id result seen hphase
    obtain ⟨hpriced, hstatus, hsame⟩ := hsound.seen id result seen hphase
    refine ⟨hpriced, hstatus, fun hof => ?_⟩
    have hexists := hsound.workflow id (by simp [CallTask.callId, hphase]) hof
    exact (hsame hof).trans (totals_otherRuns statuses newRuns hexists).symm

/-- **One step.** -/
theorem kept_step {a : CallAction} (h : s.Kept settings r) (hi : s.calls[i]? = some t)
    (ha : a.call = some i) (hok : s.Orderly settings r a) (hstep : step settings s i t a = some s') :
    s'.Kept settings r := by
  cases a with
  | check _ cost tokens =>
      obtain rfl := Option.some.inj ha
      simp only [step] at hstep
      split at hstep
      · rename_i harrived
        split at hstep
        · rename_i hcheck
          obtain rfl := Option.some.inj hstep
          exact kept_check h hi harrived hok hcheck
        · obtain rfl := Option.some.inj hstep
          exact kept_leave h hi (.inl rfl)
            (h.invoked_eq_false hi (by simp [CallTask.callId, harrived]))
            (by simp [CallTask.inProgress, harrived])
      · exact absurd hstep (by simp)
  | refuse _ =>
      simp only [step] at hstep
      split at hstep
      · rename_i harrived
        obtain rfl := Option.some.inj hstep
        exact kept_leave h hi (.inl rfl)
          (h.invoked_eq_false hi (by simp [CallTask.callId, harrived]))
          (by simp [CallTask.inProgress, harrived])
      · rename_i hadmitted
        obtain rfl := Option.some.inj hstep
        exact kept_leave h hi (.inl rfl)
          (h.invoked_eq_false hi (by simp [CallTask.callId, hadmitted]))
          (by simp [CallTask.inProgress, hadmitted])
      · exact absurd hstep (by simp)
  | start _ context reference key attempt fallbackIndex =>
      have hblank : (newProviderCall context t.runId reference key attempt fallbackIndex).Blank :=
        ⟨rfl, rfl, rfl, rfl⟩
      simp only [step] at hstep
      split at hstep
      · rename_i hadmitted
        have hprogress : t.inProgress := by simp [CallTask.inProgress, hadmitted]
        obtain rfl := Option.some.inj hstep
        unfold insertRow
        split
        · rename_i hinsert
          exact kept_insert h hi hprogress hblank rfl
            (.inl ⟨rfl, (h.sound i t hi).admitted (.inr (.inl hadmitted))⟩) hinsert
        · exact kept_leave h hi (.inl rfl)
            (h.invoked_eq_false hi (by simp [CallTask.callId, hadmitted])) hprogress
      · rename_i hrefused
        have hprogress : t.inProgress := by simp [CallTask.inProgress, hrefused]
        obtain rfl := Option.some.inj hstep
        unfold insertRow
        split
        · rename_i hinsert
          exact kept_insert h hi hprogress hblank rfl (.inr rfl) hinsert
        · exact kept_leave h hi (.inr rfl)
            (h.invoked_eq_false hi (by simp [CallTask.callId, hrefused])) hprogress
      · exact absurd hstep (by simp)
  | invoke _ =>
      simp only [step] at hstep
      split at hstep
      · rename_i id hrunning
        obtain rfl := Option.some.inj hstep
        exact kept_invoke h hi hrunning
      · exact absurd hstep (by simp)
  | read _ outcome =>
      obtain rfl := Option.some.inj ha
      obtain ⟨id, hread, rfl⟩ := Option.map_eq_some_iff.mp hstep
      exact kept_read h hi hread hok
  | commit _ =>
      simp only [step] at hstep
      split at hstep
      · rename_i id result seen hclosing
        obtain ⟨row, hrow, rfl⟩ := Option.map_eq_some_iff.mp hstep
        exact kept_commit h hi hclosing hrow
      · exact absurd hstep (by simp)
  | stop _ =>
      obtain rfl := Option.some.inj ha
      simp only [step] at hstep
      split at hstep
      · rename_i hprogress
        obtain rfl := Option.some.inj hstep
        exact kept_leave h hi (.inr rfl) (hok t hi) hprogress
      · exact absurd hstep (by simp)
  | arrive => exact absurd ha (by simp [CallAction.call])
  | workflows => exact absurd ha (by simp [CallAction.call])

/-- **The run.** -/
theorem kept_of_reachable
    (hs : (machine settings).ReachableUnder (Orderly settings r) s) : s.Kept settings r := by
  refine hs.invariant (I := fun s => s.Kept settings r) ?_ ?_
  · rintro s ⟨hcalls, hrows, hruns⟩
    have htotals : s.db.totals r = 0 := by
      unfold UsageDatabase.totals
      cases hrun : s.db.workflowRuns[r]? with
      | none => rfl
      | some run => exact hruns run (List.mem_of_getElem? hrun)
    refine ⟨by simp [hcalls], by simp [hcalls], by simp [hcalls], ?_, by simp [hcalls],
      by simp [hcalls]⟩
    rw [htotals, UsageDatabase.finishedUsage, hrows]
    rfl
  · intro s a s' _ h hok hnext
    cases hcall : a.call with
    | none =>
        cases a with
        | arrive caller gateway =>
            obtain rfl := Option.some.inj hnext
            exact kept_arrive h _ _
        | workflows statuses newRuns =>
            obtain rfl := Option.some.inj hnext
            exact kept_workflows h statuses newRuns
        | _ => exact absurd hcall (by simp [CallAction.call])
    | some i =>
        have hbind : (s.calls[i]?.bind fun t => step settings s i t a) = some s' := by
          cases a with
          | arrive => exact absurd hcall (by simp [CallAction.call])
          | workflows => exact absurd hcall (by simp [CallAction.call])
          | _ => obtain rfl := Option.some.inj hcall; exact hnext
        obtain ⟨t, hi, hstep⟩ := Option.bind_eq_some_iff.mp hbind
        exact kept_step h hi hcall hok hstep

/-- **The ceiling and the counters of a run.** -/
theorem ceiling_of_reachable (settings : Settings) (r : ℕ) {s : CallSystem}
    (hs : (machine settings).ReachableUnder (Orderly settings r) s) :
    s.invocations r ≤ settings.workflowMaxProviderCalls ∧
      ((∀ t ∈ s.calls, t.of r → t.inProgress = false) →
        s.db.totals r = s.db.finishedUsage r) :=
  ⟨(kept_of_reachable hs).invocations_le, fun _ => (kept_of_reachable hs).counted⟩

/-! ### Two calls at once -/

/-- A ceiling of `limit` calls. -/
def limited (limit : ℕ) : Settings :=
  { Settings.defaults with workflowMaxProviderCalls := limit, allowUnknownPricing := true }

/-- One project with one workflow run. -/
def sample : CallSystem := ⟨CallState.sample.db, []⟩

/-- The request of attempt `i`: it asks for room, inserts its row and calls its provider. -/
def request (i : ℕ) (key : String) : List CallAction :=
  [.check i none 100, .start i Gateway.sample.context ⟨"local", "model"⟩ key 1 0, .invoke i]

/-- An answer of eighty tokens. -/
def answer : CallOutcome :=
  .answered ⟨30, 50, 0, 80, .providerReported, rfl, Nat.zero_le _⟩ (some 10) 5 none

/-- Two calls at once go over a ceiling of one call, and one of them is not counted. -/
theorem ceiling_fails : ∃ s, (machine (limited 1)).Reachable s ∧
    (limited 1).workflowMaxProviderCalls < s.invocations 0 ∧
    (∀ t ∈ s.calls, t.inProgress = false) ∧ s.db.totals 0 ≠ s.db.finishedUsage 0 := by
  obtain ⟨s, hs, hover, hidle, hlost⟩ := (machine (limited 1)).exists_reachable
    ([.arrive .languageModel .sample, .arrive .embedding .sample] ++
      [.check 0 none 100, .check 1 none 100] ++ (request 0 "draft").drop 1 ++
      (request 1 "query").drop 1 ++ [.read 0 answer, .read 1 answer, .commit 0, .commit 1])
    (fun s => (limited 1).workflowMaxProviderCalls < s.invocations 0 ∧
      (∀ t ∈ s.calls, t.inProgress = false) ∧ s.db.totals 0 ≠ s.db.finishedUsage 0)
    (s := sample) (by refine ⟨rfl, rfl, ?_⟩; decide) (by decide +kernel)
  exact ⟨s, hs, hover, hidle, hlost⟩

/-- Two calls after each other, of which the second fails. -/
theorem ceiling_of_reachable_two : ∃ s,
    (machine (limited 2)).ReachableUnder (Orderly (limited 2) 0) s ∧
    s.invocations 0 = 2 ∧ (s.db.totals 0).1 = 2 ∧ s.db.totals 0 = s.db.finishedUsage 0 := by
  obtain ⟨s, hs, hcalls, htotal, hidle⟩ := (machine (limited 2)).exists_reachableUnder
    (Orderly (limited 2) 0)
    ([.arrive .languageModel .sample, .arrive .embedding .sample] ++
      request 0 "draft" ++ [.read 0 answer, .commit 0] ++
      request 1 "query" ++ [.read 1 (.failed (.llmError .timeout "late" 1) 5), .commit 1])
    (fun s => s.invocations 0 = 2 ∧ (s.db.totals 0).1 = 2 ∧
      ∀ t ∈ s.calls, t.of 0 → t.inProgress = false)
    (s := sample) (by refine ⟨rfl, rfl, ?_⟩; decide) (by decide +kernel)
  exact ⟨s, hs, hcalls, htotal, (ceiling_of_reachable (limited 2) 0 hs).2 hidle⟩

end CallSystem

end StoryForge
