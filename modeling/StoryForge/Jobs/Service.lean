import Mathlib.Algebra.Group.Nat.Defs
import StoryForge.Jobs.Session

/-!
# `JobService`: admission, controls and event recording

The transactions of the job service. Each takes the database it starts from and returns
the committed one, or the exception it raises. A delivery is requested by an outbox row,
and a row whose deduplication key exists already is not written again: `createOutbox`
returns quietly, whatever has become of the existing row.
-/

namespace StoryForge

/-! ### `JobRepository` queries -/

/-- The statuses in which a job occupies the queue and its chapter. -/
def activeJobStatuses : List JobStatus :=
  [.pending, .outboxPending, .queued, .leased, .running, .pauseRequested, .paused,
    .cancelRequested, .retryScheduled]

namespace JobRepository

/-- The job holding an idempotency key. -/
def getByIdempotencyKey (db : Database) (key : String) : Option ℕ :=
  (Rows.idsWhere db.jobs fun job => job.idempotencyKey == key).head?

/-- The number of active jobs, of one project if given. -/
def activeCount (db : Database) (projectId : Option ℕ) : ℕ :=
  (Rows.idsWhere db.jobs fun job =>
    job.status ∈ activeJobStatuses && (projectId.isNone || job.projectId == projectId)).length

/-- The latest active job of a chapter. -/
def activeForChapter (db : Database) (chapterId : ℕ) : Option ℕ :=
  (Rows.idsWhere db.jobs fun job =>
    job.chapterId == some chapterId && decide (job.status ∈ activeJobStatuses)).getLast?

end JobRepository

/-! ### Column updates -/

/-- `job.cancel_requested_at = utc_now()`. -/
def Job.stampCancelRequest (job : Job) (now : Time) : Job :=
  { job with cancelRequestedAt := some now }

/-- `job.finished_at = None`. -/
def Job.clearFinished (job : Job) : Job := { job with finishedAt := none }

/-- A dead-lettered job gets the registry's number of attempts on top of those used. -/
def Job.freshAttempts (job : Job) (now : Time) : Job :=
  { job with
    maxAttempts := job.attempt + (JobRegistry.get job.jobType).maxAttempts
    availableAt := now
    finishedAt := none
    errorCode := none
    errorMessage := none }

/-- `job.result = {**job.result, "discarded": True}`. -/
def Job.markDiscarded (job : Job) : Job := { job with discarded := true }

/-- The progress and step of an event, where it has them. -/
def Job.recordProgress (job : Job) (step : Option String) (progress : Option ℕ) : Job :=
  { job with
    progress := progress.getD job.progress
    currentStep := step.or job.currentStep }

section Lifecycle

variable (job : Job) (now : Time)

@[simp] theorem Job.lifecycle_stampCancelRequest :
    (job.stampCancelRequest now).lifecycle = job.lifecycle := rfl

@[simp] theorem Job.lifecycle_clearFinished : job.clearFinished.lifecycle = job.lifecycle := rfl

@[simp] theorem Job.lifecycle_freshAttempts :
    (job.freshAttempts now).lifecycle =
      { job.lifecycle with
        maxAttempts := job.attempt + (JobRegistry.get job.jobType).maxAttempts } := rfl

@[simp] theorem Job.lifecycle_markDiscarded : job.markDiscarded.lifecycle = job.lifecycle := rfl

@[simp] theorem Job.lifecycle_recordProgress (step : Option String) (progress : Option ℕ) :
    (job.recordProgress step progress).lifecycle = job.lifecycle := rfl

end Lifecycle

namespace JobService

/-! ### Admission -/

/-- The arguments of `JobService.create`. -/
structure JobRequest where
  jobType : JobType
  projectId : Option ℕ
  chapterId : Option ℕ
  workflowRunId : Option ℕ
  payload : String
  operation : String
  externalIdempotencyKey : Option String
  priority : ℕ
  deriving DecidableEq, Repr

/-- The answer of `JobService.create`. -/
structure JobCreationResult where
  jobId : ℕ
  reused : Bool
  deriving DecidableEq, Repr

/-- `_idempotency_key`. -/
def idempotencyKey (settings : Settings) (request : JobRequest) : String :=
  settings.digest
    { jobType := request.jobType
      projectId := request.projectId
      chapterId := request.chapterId
      workflowRunId := request.workflowRunId
      operation := request.operation
      payload := request.payload
      externalKey := request.externalIdempotencyKey.getD "" }

/-- `_queue_name`: the last component of the registry's queue name under the prefix. -/
def queueName (settings : Settings) (name : String) : String :=
  settings.queuePrefix ++ "." ++ (name.splitOn ".").getLastD name

/-- `_check_backpressure`. The soft limit only logs. -/
def checkBackpressure (settings : Settings) (db : Database) (projectId : Option ℕ) :
    Except Error Unit :=
  if JobRepository.activeCount db none ≥ settings.queuePendingHardLimit then
    .error (.queueBackpressureError "Global queue hard limit reached" 5)
  else if projectId.isSome &&
      JobRepository.activeCount db projectId ≥ settings.projectPendingLimit then
    .error (.queueBackpressureError "Project queue limit reached" 5)
  else .ok ()

/-- `_create_outbox`: request a delivery under a key of its own. An existing row with the
key is taken as it is, in whatever status. -/
def createOutbox (s : JobSession) (reason : EnqueueReason) (now : Time) : JobSession :=
  let deduplicationKey : DeduplicationKey := ⟨s.jobId, reason⟩
  if s.db.outbox.any (·.deduplicationKey == deduplicationKey) then s
  else s.addOutbox
    { aggregateId := s.jobId
      queueName := s.job.queueName
      status := .pending
      attempt := 0
      availableAt := now
      publishedAt := none
      claimedAt := none
      claimedBy := none
      lastError := none
      deduplicationKey }

/-- The row `create` inserts. -/
def newJob (settings : Settings) (request : JobRequest) (now : Time) : Job :=
  let definition := JobRegistry.get request.jobType
  { projectId := request.projectId
    chapterId := request.chapterId
    workflowRunId := request.workflowRunId
    jobType := request.jobType
    queueName := queueName settings definition.queueName
    status := .outboxPending
    priority := request.priority
    idempotencyKey := idempotencyKey settings request
    discarded := false
    result := none
    progress := 0
    currentStep := none
    attempt := 0
    maxAttempts := min definition.maxAttempts settings.jobMaxAttempts
    eventSequence := 0
    availableAt := now
    queuedAt := none
    startedAt := none
    heartbeatAt := none
    leaseExpiresAt := none
    finishedAt := none
    cancelRequestedAt := none
    cancelledAt := none
    errorCode := none
    errorMessage := none
    workerId := none }

/-- The database constraint an insert of `job` would break, if any. -/
def brokenConstraint (db : Database) (job : Job) : Option String :=
  if job.chapterId.any fun id => db.chapters[id]?.isNone then
    some "fk_jobs_chapter_id_chapters"
  else if job.workflowRunId.any fun id => db.workflowRuns[id]?.isNone then
    some "fk_jobs_workflow_run_id_workflow_runs"
  else if db.jobs.any fun row => row.idempotencyKey == job.idempotencyKey then
    some "job_idempotency_key"
  else if job.workflowRunId.isSome &&
      db.jobs.any fun row => row.workflowRunId == job.workflowRunId then
    some "job_workflow_run"
  else if job.priority > 9 then
    some "job_priority_range"
  else none

/-- The project of a job must exist. -/
def requireProject (db : Database) : Option ℕ → Except Error Unit
  | none => .ok ()
  | some projectId =>
      if db.projects[projectId]?.isNone then
        .error (.entityNotFoundError s!"Project {projectId} was not found")
      else .ok ()

/-- The chapter of a job must have no other active job. -/
def requireFreeChapter (db : Database) (chapterId : Option ℕ) : Except Error Unit :=
  match chapterId.bind (JobRepository.activeForChapter db) with
  | some active => .error (.invalidStateError s!"Chapter already has active job {active}")
  | none => .ok ()

/-- The flush of an inserted job. -/
def checkConstraints (db : Database) (job : Job) : Except Error Unit :=
  match brokenConstraint db job with
  | some constraint => .error (.integrityError constraint)
  | none => .ok ()

/-- The admission transaction of `create`: one job, one event, one pending outbox row. -/
def insert (settings : Settings) (request : JobRequest) (now : Time) (db : Database) :
    Except Error (ℕ × Database) := do
  requireProject db request.projectId
  checkBackpressure settings db request.projectId
  requireFreeChapter db request.chapterId
  let job := newJob settings request now
  checkConstraints db job
  let jobId := db.jobs.length
  let s : JobSession := ⟨{ db with jobs := db.jobs ++ [job] }, jobId, job⟩
  let s := s.event .jobCreated "job.created" "Job created"
  return (jobId, (createOutbox s .create now).commit)

/-- `create`: look the key up, insert, and on a lost race look it up again. -/
def create (settings : Settings) (request : JobRequest) (now : Time) (db : Database) :
    Except Error (JobCreationResult × Database) :=
  let key := idempotencyKey settings request
  match JobRepository.getByIdempotencyKey db key with
  | some existing => .ok (⟨existing, true⟩, db)
  | none =>
      match insert settings request now db with
      | .ok (jobId, db') => .ok (⟨jobId, false⟩, db')
      | .error (.integrityError _) =>
          match JobRepository.getByIdempotencyKey db key with
          | some existing => .ok (⟨existing, true⟩, db)
          | none => .error (.invalidStateError "A concurrent active job already exists")
      | .error e => .error e

/-! ### Controls -/

/-- `_cancel_linked_workflow`: a live linked workflow run ends with the job. -/
def cancelLinkedWorkflow (s : JobSession) (now : Time) : Except Error JobSession :=
  match s.job.workflowRunId with
  | none => .ok s
  | some runId =>
      match s.db.workflowRuns[runId]? with
      | none => .ok s
      | some run =>
          if run.status ∉ [.pending, .running, .paused] then .ok s
          else do
            let run ← transitionWorkflow run .cancelled
            let run := { run with currentNode := "cancelled", finishedAt := some now }
            let chapters := s.db.chapters.modify run.chapterId fun chapter =>
              { chapter with
                status :=
                  if chapter.acceptedVersionId.isSome then .accepted else .workflowFailed }
            return { s with
              db := { s.db with workflowRuns := s.db.workflowRuns.set runId run, chapters } }

/-- `request_cancel`: record the request, and finish it here when the job has never
started or is paused. -/
def requestCancel (jobId : ℕ) (now : Time) (db : Database) : Except Error Database := do
  let s ← JobSession.requireLocked db jobId
  let previousStatus := s.job.status
  if s.job.status = .cancelRequested then
    return db
  else if s.job.status ∈ [.succeeded, .cancelled, .deadLettered] then
    throw (.invalidStateError s!"Job in status {s.job.status.value} cannot be cancelled")
  else
    let s ← s.transition .cancelRequested now
    let s := s.update (Job.stampCancelRequest · now)
    let s := s.event .cancelRequested "job.cancel_requested" "Cancellation requested"
    if s.job.startedAt = none ∨ previousStatus = .paused then
      let s ← s.transition .cancelled now
      let s ← cancelLinkedWorkflow s now
      return (s.event .jobCancelled "job.cancelled" "Job cancelled before execution").commit
    else
      return s.commit

/-- `request_pause`: record the request, and finish it here when the job has never
started. -/
def requestPause (jobId : ℕ) (now : Time) (db : Database) : Except Error Database := do
  let s ← JobSession.requireLocked db jobId
  if s.job.status = .paused then
    return db
  else if s.job.status ∉ [.outboxPending, .queued, .leased, .running] then
    throw (.invalidStateError s!"Job in status {s.job.status.value} cannot be paused")
  else
    let s ← s.transition .pauseRequested now
    let s := s.event .pauseRequested "job.pause_requested" "Pause requested"
    if s.job.startedAt = none then
      let s ← s.transition .paused now
      return (s.event .jobPaused "job.paused" "Job paused before execution").commit
    else
      return s.commit

/-- `resume`: a paused job asks for a new delivery. -/
def resume (jobId : ℕ) (now : Time) (db : Database) : Except Error Database := do
  let s ← JobSession.requireLocked db jobId
  if s.job.status ≠ .paused then
    throw (.invalidStateError "Only paused jobs can be resumed")
  else
    let s ← s.transition .outboxPending now
    let s := s.update Job.clearFinished
    let s := s.event .resumeRequested "job.resume_requested" "Job resume requested"
    return (createOutbox s (.resume (s.job.attempt + 1)) now).commit

/-- `retry_dead_letter`: a dead-lettered job asks for a new delivery with fresh attempts.
The job becomes active again, so the index of active chapters may refuse it. -/
def retryDeadLetter (jobId : ℕ) (now : Time) (db : Database) : Except Error Database := do
  let s ← JobSession.requireLocked db jobId
  if s.job.status ≠ .deadLettered then
    throw (.invalidStateError "Only dead-lettered jobs can be retried explicitly")
  else if (s.job.chapterId.bind (JobRepository.activeForChapter db)).isSome then
    throw (.integrityError "uq_jobs_active_chapter")
  else
    let s ← s.transition .outboxPending now
    let s := s.update (Job.freshAttempts · now)
    let s := s.event .resumeRequested "job.dlq_retry_requested" "Dead-letter retry requested"
    return (createOutbox s (.dlqRetry (s.job.attempt + 1)) now).commit

/-- `discard_dead_letter`. -/
def discardDeadLetter (jobId : ℕ) (db : Database) : Except Error Database := do
  let s ← JobSession.requireLocked db jobId
  if s.job.status ≠ .deadLettered then
    throw (.invalidStateError "Only dead-lettered jobs can be discarded")
  else
    let s := s.update Job.markDiscarded
    return (s.event .jobDiscarded "job.discarded" "Dead-letter job discarded").commit

/-! ### Events -/

/-- The arguments of `record_event`. -/
structure EventRequest where
  eventType : JobEventType
  code : String
  message : String
  step : Option String
  progress : Option ℕ
  workflowEventId : Option ℕ
  deriving DecidableEq, Repr

/-- `record_event`: progress, step and an event, on the job row as it stands. -/
def recordEvent (jobId : ℕ) (event : EventRequest) (db : Database) : Except Error Database := do
  let s ← JobSession.requireLocked db jobId
  let s := s.update (Job.recordProgress · event.step event.progress)
  if s.job.progress > 100 then
    throw (.integrityError "job_progress_range")
  else
    return (s.addOrdered event.eventType event.code (truncate 500 event.message)
      s.job.workerId event.workflowEventId).commit

/-- An exception caught by a worker or dispatcher: its class name and text. -/
structure Raised where
  typeName : String
  text : String
  deriving DecidableEq, Repr

/-- `safe_error`: the bounded, redacted form of an exception. -/
def safeError (settings : Settings) (error : Raised) : String × String :=
  (truncate 100 error.typeName, truncate 1000 (settings.redact error.text))

/-- `retry_available_at`: bounded exponential backoff. -/
def retryAvailableAt (attempt : ℕ) (now : Time) : Time :=
  now + seconds (min 300 (2 ^ (attempt - 1)))

end JobService

end StoryForge
