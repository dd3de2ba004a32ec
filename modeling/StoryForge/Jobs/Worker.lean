import StoryForge.Jobs.Dispatcher

/-!
# `JobExecutor`: leases, outcomes and recovery

A worker claims a job, runs its handler and records one outcome. The claim sets the
worker id, a lease and the next attempt number in one transaction; each outcome
transaction checks the worker id again (`ownedJob`) and nothing else. `recoverExpired` is
the sweep that takes jobs away from workers whose lease has run out.
-/

namespace StoryForge

/-! ### Column updates -/

/-- The `SET` list of the claiming update. -/
def Job.leasedBy (job : Job) (workerId : String) (now leaseExpiresAt : Time) : Job :=
  { job with
    status := .leased
    workerId := some workerId
    heartbeatAt := some now
    leaseExpiresAt := some leaseExpiresAt
    attempt := job.attempt + 1 }

/-- The start of the first execution is kept for good. -/
def Job.started (job : Job) (now : Time) : Job :=
  { job with startedAt := job.startedAt.or (some now) }

/-- A heartbeat: the lease runs from now. -/
def Job.renewed (job : Job) (now leaseExpiresAt : Time) : Job :=
  { job with heartbeatAt := some now, leaseExpiresAt := some leaseExpiresAt }

/-- The columns of a finished handler. -/
def Job.completed (job : Job) (result : String) : Job :=
  { job with result := some result, progress := 100, currentStep := some "completed" }

/-- A paused job gives its lease up. -/
def Job.releaseLease (job : Job) : Job := { job with leaseExpiresAt := none, workerId := none }

/-- The error of an execution. -/
def Job.storeError (job : Job) (error : String × String) : Job :=
  { job with errorCode := some error.1, errorMessage := some error.2 }

/-- A job scheduled for a retry gives its lease up and waits out the backoff. -/
def Job.releaseForRetry (job : Job) (now : Time) : Job :=
  { job with
    workerId := none
    leaseExpiresAt := none
    heartbeatAt := none
    availableAt := JobService.retryAvailableAt job.attempt now }

section Lifecycle

variable (job : Job)

@[simp] theorem Job.lifecycle_started (now : Time) :
    (job.started now).lifecycle =
      { job.lifecycle with startedAt := job.lifecycle.startedAt.or (some now) } := rfl

@[simp] theorem Job.lifecycle_completed (result : String) :
    (job.completed result).lifecycle = job.lifecycle := rfl

@[simp] theorem Job.lifecycle_releaseLease :
    job.releaseLease.lifecycle = job.lifecycle.release := rfl

@[simp] theorem Job.lifecycle_storeError (error : String × String) :
    (job.storeError error).lifecycle = job.lifecycle := rfl

@[simp] theorem Job.lifecycle_releaseForRetry (now : Time) :
    (job.releaseForRetry now).lifecycle = job.lifecycle.release := rfl

end Lifecycle

namespace JobRepository

/-- The statuses `claim` accepts. -/
def claimableStatuses : List JobStatus := [.outboxPending, .queued, .retryScheduled]

/-- `claim`: the conditional update that leases a job to a worker. -/
def claim (jobId : ℕ) (workerId : String) (now leaseExpiresAt : Time) (db : Database) :
    Option JobSession :=
  match db.jobs[jobId]? with
  | none => none
  | some job =>
      if job.status ∈ claimableStatuses ∧ job.availableAt ≤ now then
        some ⟨db, jobId, job.leasedBy workerId now leaseExpiresAt⟩
      else none

/-- Whether the sweep of expired leases selects a job. -/
def leaseExpired (now : Time) (job : Job) : Bool :=
  decide (job.status ∈ [JobStatus.leased, JobStatus.running]) &&
    job.leaseExpiresAt.any fun at_ => at_ ≤ now

/-- `expired_leases`: the jobs with an expired lease, longest expired first. -/
def expiredLeases (now : Time) (limit : ℕ) (db : Database) : List ℕ :=
  Rows.selectBy db.jobs (leaseExpired now) (fun job => job.leaseExpiresAt.getD 0) limit

end JobRepository

namespace JobExecutor

/-- `_owned_job`: lock the row and require that this worker id holds it. -/
def ownedJob (db : Database) (jobId : ℕ) (workerId : String) : Except Error JobSession :=
  match db.jobs[jobId]? with
  | none => .error (.runtimeError "Worker no longer owns the job lease")
  | some job =>
      if job.workerId ≠ some workerId then
        .error (.runtimeError "Worker no longer owns the job lease")
      else .ok ⟨db, jobId, job⟩

/-- `_retry_outbox`: request the delivery of the next attempt. The key is new or the
insert is refused. -/
def retryOutbox (s : JobSession) : Except Error JobSession :=
  let deduplicationKey : DeduplicationKey := ⟨s.jobId, .attempt (s.job.attempt + 1)⟩
  if s.db.outbox.any (·.deduplicationKey == deduplicationKey) then
    .error (.integrityError "outbox_deduplication_key")
  else .ok (s.addOutbox
    { aggregateId := s.jobId
      queueName := s.job.queueName
      status := .pending
      attempt := 0
      availableAt := s.job.availableAt
      publishedAt := none
      claimedAt := none
      claimedBy := none
      lastError := none
      deduplicationKey })

/-- `_claim`: lease the job and start it, in one transaction. -/
def claim (settings : Settings) (jobId : ℕ) (workerId : String) (now : Time)
    (db : Database) : Except Error (Option Database) :=
  match JobRepository.claim jobId workerId now (now + settings.jobLease) db with
  | none => .ok none
  | some s => do
      let s := s.event .jobLeased "job.leased" "Job leased by worker"
      let s ← s.transition .running now
      let s := s.update (Job.started · now)
      return some (s.event .jobStarted "job.started" "Job execution started").commit

/-- `heartbeat`: extend the lease of a job this worker is running. -/
def heartbeat (settings : Settings) (jobId : ℕ) (workerId : String) (now : Time)
    (db : Database) : Database :=
  match db.jobs[jobId]? with
  | none => db
  | some job =>
      if job.workerId ≠ some workerId ∨ job.status ∉ [.leased, .running] then db
      else
        (JobSession.mk db jobId (job.renewed now (now + settings.jobLease))).commit

/-! ### Outcomes -/

/-- `_succeed`: finish the job, or the control request recorded on it. A paused job keeps
its worker id. -/
def succeed (jobId : ℕ) (workerId : String) (result : String) (now : Time) (db : Database) :
    Except Error Database := do
  let s ← ownedJob db jobId workerId
  if s.job.status = .cancelRequested then
    let s ← s.transition .cancelled now
    return (s.event .jobCancelled "job.cancelled" "Job cancelled at a safe boundary").commit
  else if s.job.status = .pauseRequested then
    let s ← s.transition .paused now
    return (s.event .jobPaused "job.paused" "Job paused at a safe boundary").commit
  else
    let s ← s.transition .succeeded now
    let s := s.update (Job.completed · result)
    return (s.event .jobSucceeded "job.succeeded" "Job succeeded").commit

/-- `_cancel`. -/
def cancel (jobId : ℕ) (workerId : String) (now : Time) (db : Database) :
    Except Error Database := do
  let s ← ownedJob db jobId workerId
  let s ← s.transition .cancelRequested now
  let s ← s.transition .cancelled now
  return (s.event .jobCancelled "job.cancelled" "Job cancelled at a safe boundary").commit

/-- `_pause`. -/
def pause (jobId : ℕ) (workerId : String) (now : Time) (db : Database) :
    Except Error Database := do
  let s ← ownedJob db jobId workerId
  let s ← s.transition .pauseRequested now
  let s ← s.transition .paused now
  let s := s.update Job.releaseLease
  return (s.event .jobPaused "job.paused" "Job paused at a safe boundary").commit

/-- `_retry_or_dead_letter`: another attempt while the budget lasts. -/
def retryOrDeadLetter (settings : Settings) (jobId : ℕ) (workerId : String)
    (error : JobService.Raised) (now : Time) (db : Database) : Except Error Database := do
  let s ← ownedJob db jobId workerId
  let s := s.update (Job.storeError · (JobService.safeError settings error))
  if s.job.attempt ≥ s.job.maxAttempts then
    let s ← s.transition .failed now
    let s ← s.transition .deadLettered now
    return (s.event .jobDeadLettered "job.dead_lettered"
      "Job exhausted infrastructure retries").commit
  else
    let s ← s.transition .retryScheduled now
    let s := s.update (Job.releaseForRetry · now)
    let s ← retryOutbox s
    return (s.event .retryScheduled "job.retry_scheduled"
      "Infrastructure retry scheduled").commit

/-- `_fail`. -/
def fail (settings : Settings) (jobId : ℕ) (workerId : String) (error : JobService.Raised)
    (now : Time) (db : Database) : Except Error Database := do
  let s ← ownedJob db jobId workerId
  let s ← s.transition .failed now
  let s := s.update (Job.storeError · (JobService.safeError settings error))
  return (s.event .jobFailed "job.failed" "Job failed without automatic retry").commit

/-! ### Lease recovery -/

/-- Pause the running workflow of a job whose worker is gone. -/
def pauseWorkflow (db : Database) (workflowRunId : Option ℕ) : Except Error Database :=
  match workflowRunId with
  | none => .ok db
  | some runId =>
      match db.workflowRuns[runId]? with
      | none => .ok db
      | some run =>
          if run.status ≠ .running then .ok db
          else do
            let run ← transitionWorkflow run .paused
            return { db with workflowRuns := db.workflowRuns.set runId run }

/-- One job of the `recover_expired` sweep. -/
def recoverExpiredJob (now : Time) (db : Database) (jobId : ℕ) : Except Error Database := do
  let s ← JobSession.requireLocked db jobId
  let db ← pauseWorkflow s.db s.job.workflowRunId
  let s := { s with db }
  if s.job.attempt ≥ s.job.maxAttempts then
    let s ← s.transition .failed now
    let s ← s.transition .deadLettered now
    return (s.event .jobDeadLettered "job.lease_exhausted"
      "Expired lease exhausted attempts").commit
  else
    let s ← s.transition .retryScheduled now
    let s := s.update (Job.releaseForRetry · now)
    let s ← retryOutbox s
    return (s.event .retryScheduled "job.lease_recovered"
      "Expired worker lease scheduled for recovery").commit

/-- The number of leases one sweep handles. -/
def recoveryLimit : ℕ := 100

/-- `recover_expired`: one transaction over the jobs with expired leases. -/
def recoverExpired (now : Time) (db : Database) : Except Error Database :=
  (JobRepository.expiredLeases now recoveryLimit db).foldlM (recoverExpiredJob now) db

end JobExecutor

end StoryForge
