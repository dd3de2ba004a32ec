import StoryForge.Models

/-!
# The job and workflow state machines

`transitionJob` and `transitionWorkflow` are the only functions that check a status change
against its table. A refused change raises `InvalidStateError`; an accepted one is
`Job.enter`, which also clears the lease of a job that becomes terminal.

## Main results

* `transitionJob_eq_ok` — a transition succeeds exactly when it stays or follows the table;
* the `Job.enter` simp set — what entering a status does to each column.
-/

namespace StoryForge

/-- The statuses in which a job is finished. -/
def terminalJobStatuses : List JobStatus := [.succeeded, .failed, .cancelled, .deadLettered]

@[simp] theorem mem_terminalJobStatuses {status : JobStatus} :
    status ∈ terminalJobStatuses ↔
      status = .succeeded ∨ status = .failed ∨ status = .cancelled ∨ status = .deadLettered := by
  simp [terminalJobStatuses]

/-- The statuses a job may move to. -/
def JobStatus.allowed : JobStatus → List JobStatus
  | .pending => [.outboxPending, .cancelRequested]
  | .outboxPending => [.queued, .pauseRequested, .cancelRequested, .failed]
  | .queued => [.leased, .pauseRequested, .cancelRequested, .retryScheduled]
  | .leased => [.running, .queued, .retryScheduled, .cancelRequested]
  | .running => [.succeeded, .failed, .retryScheduled, .pauseRequested, .cancelRequested]
  | .pauseRequested => [.paused, .cancelRequested, .failed]
  | .paused => [.outboxPending, .cancelRequested]
  | .cancelRequested => [.cancelled, .failed]
  | .cancelled => []
  | .retryScheduled => [.outboxPending, .queued, .cancelRequested, .deadLettered]
  | .succeeded => []
  | .failed => [.retryScheduled, .deadLettered]
  | .deadLettered => [.outboxPending]

/-- Only a running job may succeed. -/
theorem JobStatus.succeeded_mem_allowed {status : JobStatus} :
    .succeeded ∈ status.allowed ↔ status = .running := by
  cases status <;> simp [JobStatus.allowed]

/-- Enter a status: terminal statuses stamp the end and drop the lease. -/
def Job.enter (job : Job) (target : JobStatus) (now : Time) : Job :=
  let job := { job with status := target }
  let job :=
    if target ∈ terminalJobStatuses then
      { job with
        finishedAt := some now
        leaseExpiresAt := none
        heartbeatAt := none
        workerId := none }
    else job
  if target = .cancelled then { job with cancelledAt := some now } else job

/-- Apply one legal state transition. -/
def transitionJob (job : Job) (target : JobStatus) (now : Time) : Except Error Job :=
  if target = job.status then .ok job
  else if target ∉ job.status.allowed then
    .error (.invalidStateError
      s!"Job cannot transition from {job.status.value} to {target.value}")
  else .ok (job.enter target now)

/-- A transition succeeds exactly when it stays or follows the table. -/
theorem transitionJob_eq_ok {job job' : Job} {target : JobStatus} {now : Time} :
    transitionJob job target now = .ok job' ↔
      job.status = target ∧ job' = job ∨
        target ∈ job.status.allowed ∧ job' = job.enter target now ∧ job.status ≠ target := by
  unfold transitionJob
  split
  · rename_i heq
    simp [heq, eq_comm]
  · rename_i hne
    have hne' : job.status ≠ target := fun h => hne h.symm
    split
    · rename_i hnot
      simp [hne', hnot]
    · rename_i hin
      simp only [not_not] at hin
      simp [hne', hin, eq_comm]

/-! ### What entering a status changes -/

section Enter

variable (job : Job) (target : JobStatus) (now : Time)

@[simp] theorem Job.enter_status : (job.enter target now).status = target := by
  unfold Job.enter; split <;> split <;> rfl

@[simp] theorem Job.enter_attempt : (job.enter target now).attempt = job.attempt := by
  unfold Job.enter; split <;> split <;> rfl

@[simp] theorem Job.enter_maxAttempts : (job.enter target now).maxAttempts = job.maxAttempts := by
  unfold Job.enter; split <;> split <;> rfl

@[simp] theorem Job.enter_startedAt : (job.enter target now).startedAt = job.startedAt := by
  unfold Job.enter; split <;> split <;> rfl

@[simp] theorem Job.enter_workflowRunId :
    (job.enter target now).workflowRunId = job.workflowRunId := by
  unfold Job.enter; split <;> split <;> rfl

@[simp] theorem Job.enter_projectId : (job.enter target now).projectId = job.projectId := by
  unfold Job.enter; split <;> split <;> rfl

@[simp] theorem Job.enter_jobType : (job.enter target now).jobType = job.jobType := by
  unfold Job.enter; split <;> split <;> rfl

@[simp] theorem Job.enter_queueName : (job.enter target now).queueName = job.queueName := by
  unfold Job.enter; split <;> split <;> rfl

@[simp] theorem Job.enter_eventSequence :
    (job.enter target now).eventSequence = job.eventSequence := by
  unfold Job.enter; split <;> split <;> rfl

@[simp] theorem Job.enter_workerId :
    (job.enter target now).workerId =
      if target ∈ terminalJobStatuses then none else job.workerId := by
  unfold Job.enter; split <;> split <;> rfl

@[simp] theorem Job.enter_leaseExpiresAt :
    (job.enter target now).leaseExpiresAt =
      if target ∈ terminalJobStatuses then none else job.leaseExpiresAt := by
  unfold Job.enter; split <;> split <;> rfl

end Enter

/-! ### Workflow runs -/

/-- The statuses a workflow run may move to. -/
def WorkflowRunStatus.allowed : WorkflowRunStatus → List WorkflowRunStatus
  | .pending => [.running, .cancelled, .failed]
  | .running => [.paused, .completed, .completedNeedsReview, .failed, .cancelled]
  | .paused => [.running, .cancelled, .failed]
  | .completed => []
  | .completedNeedsReview => []
  | .cancelled => []
  | .failed => []
  | .succeeded => []
  | .needsHumanReview => []

/-- Apply one legal transition or reject it explicitly. -/
def transitionWorkflow (run : WorkflowRun) (target : WorkflowRunStatus) :
    Except Error WorkflowRun :=
  if run.status = target then .ok run
  else if target ∉ run.status.allowed then
    .error (.invalidStateError
      s!"Workflow cannot transition from {run.status.value} to {target.value}")
  else .ok { run with status := target }

theorem transitionWorkflow_of_allowed {run : WorkflowRun} {target : WorkflowRunStatus}
    (h : target ∈ run.status.allowed) (hne : run.status ≠ target) :
    transitionWorkflow run target = .ok { run with status := target } := by
  simp [transitionWorkflow, h, hne]

/-- A workflow transition that succeeds reaches its target. -/
theorem status_of_transitionWorkflow {run run' : WorkflowRun} {target : WorkflowRunStatus}
    (h : transitionWorkflow run target = .ok run') : run'.status = target := by
  unfold transitionWorkflow at h
  split at h
  · rename_i heq
    rw [← Except.ok.inj h, heq]
  · split at h
    · exact absurd h (by simp)
    · rw [← Except.ok.inj h]

end StoryForge
