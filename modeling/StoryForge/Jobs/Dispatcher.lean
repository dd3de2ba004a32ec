import StoryForge.Jobs.Service

/-!
# `OutboxDispatcher`: publishing enqueue intents

`dispatch_once` claims a batch of outbox rows in one transaction and then, row by row,
calls the broker and records in a further transaction whether the row was published.
Nothing ties that record to the claim: `recordPublished` and `recordFailure` look the row
up by id. `recoverStranded` reopens the latest row of a job the broker has lost.
-/

namespace StoryForge

/-- `stale_claim_cutoff`. -/
def staleClaimCutoff (now lease : Time) : Time := now - lease

namespace OutboxRepository

/-- Whether `claim_batch` may take a row: pending, or claimed too long ago. -/
def claimable (staleBefore now : Time) (db : Database) (row : OutboxMessage) : Bool :=
  (row.status == .pending ||
      row.status == .claimed && row.claimedAt.any fun at_ => at_ ≤ staleBefore) &&
    decide (row.availableAt ≤ now) && db.jobs[row.aggregateId]?.isSome

/-- The rows `claim_batch` takes, jobs of high priority first. -/
def claimCandidates (staleBefore now : Time) (limit : ℕ) (db : Database) : List ℕ :=
  Rows.selectBy db.outbox (claimable staleBefore now db)
    (fun row => -((db.jobs[row.aggregateId]?.map (·.priority)).getD 0 : ℕ)) limit

/-- Mark a row as claimed by a dispatcher. -/
def claimRow (dispatcherId : String) (now : Time) (row : OutboxMessage) : OutboxMessage :=
  { row with
    status := .claimed
    claimedBy := some dispatcherId
    claimedAt := some now
    attempt := row.attempt + 1 }

/-- `claim_batch`: the ids taken and the database with those rows claimed. -/
def claimBatch (dispatcherId : String) (staleBefore now : Time) (limit : ℕ) (db : Database) :
    List ℕ × Database :=
  let rowIds := claimCandidates staleBefore now limit db
  (rowIds, { db with
    outbox := rowIds.foldl (fun outbox id => outbox.modify id (claimRow dispatcherId now))
      db.outbox })

/-- The latest outbox row of a job. -/
def latestForJob (db : Database) (jobId : ℕ) : Option ℕ :=
  (Rows.idsWhere db.outbox fun row => row.aggregateId == jobId).getLast?

end OutboxRepository

namespace JobRepository

/-- `stale_queued`: jobs queued since before the cutoff, oldest first. -/
def staleQueued (cutoff : Time) (limit : ℕ) (db : Database) : List ℕ :=
  Rows.selectBy db.jobs
    (fun job => job.status == .queued && job.queuedAt.any fun at_ => at_ ≤ cutoff)
    (fun job => job.queuedAt.getD 0) limit

end JobRepository

/-! ### Column updates -/

/-- A published job: the status is set without the transition table. -/
def Job.queuedNow (job : Job) (now : Time) : Job :=
  { job with status := .queued, queuedAt := some now }

/-- The error of a job whose last outbox row could not be published. -/
def Job.publishFailed (job : Job) : Job :=
  { job with
    errorCode := some "outbox_publish_failed"
    errorMessage := some "Job could not be published to the queue" }

/-- `job.available_at = now`. -/
def Job.availableFrom (job : Job) (now : Time) : Job := { job with availableAt := now }

@[simp] theorem Job.lifecycle_queuedNow (job : Job) (now : Time) :
    (job.queuedNow now).lifecycle = job.lifecycle.enter .queued := rfl

@[simp] theorem Job.lifecycle_publishFailed (job : Job) :
    job.publishFailed.lifecycle = job.lifecycle := rfl

@[simp] theorem Job.lifecycle_availableFrom (job : Job) (now : Time) :
    (job.availableFrom now).lifecycle = job.lifecycle := rfl

namespace OutboxDispatcher

/-- The claiming transaction of `dispatch_once`. -/
def claim (settings : Settings) (dispatcherId : String) (now : Time) (db : Database) :
    List ℕ × Database :=
  OutboxRepository.claimBatch dispatcherId (staleClaimCutoff now settings.jobLease) now
    settings.outboxBatchSize db

/-- A row after a successful publication. -/
def publishedRow (now : Time) (row : OutboxMessage) : OutboxMessage :=
  { row with status := .published, publishedAt := some now, lastError := none }

/-- `_record_published`: the row is published, and a job waiting for it is queued. -/
def recordPublished (rowId : ℕ) (now : Time) (db : Database) : Database :=
  match db.outbox[rowId]? with
  | none => db
  | some row =>
      if row.status = .published then db
      else
        let db := { db with outbox := db.outbox.set rowId (publishedRow now row) }
        match db.jobs[row.aggregateId]? with
        | none => db
        | some job =>
            if job.status ∈ [.outboxPending, .retryScheduled] then
              let s : JobSession := ⟨db, row.aggregateId, job⟩
              let s := s.update (Job.queuedNow · now)
              (s.addOrdered .jobQueued "job.queued" "Job queued" none none).commit
            else db

/-- A row after a failed publication that is not its last. -/
def reopenedRow (row : OutboxMessage) (lastError : String) (now : Time) : OutboxMessage :=
  { row with
    status := .pending
    availableAt := JobService.retryAvailableAt row.attempt now
    claimedAt := none
    claimedBy := none
    lastError := some lastError }

/-- A row after its last failed publication. -/
def failedRow (row : OutboxMessage) (lastError : String) : OutboxMessage :=
  { row with
    status := .failed
    claimedAt := none
    claimedBy := none
    lastError := some lastError }

/-- The first step to the dead letters of a job whose row failed: a job that was never
published fails, one waiting for a retry need not. -/
def failUnpublished (s : JobSession) (now : Time) : Except Error JobSession :=
  if s.job.status = .outboxPending then s.transition .failed now else .ok s

/-- `_record_failure`: the row is reopened, or on its last attempt failed together with a
job that still waits for it. -/
def recordFailure (settings : Settings) (rowId : ℕ) (error : JobService.Raised) (now : Time)
    (db : Database) : Except Error Database :=
  let (code, message) := JobService.safeError settings error
  let lastError := truncate 1000 s!"{code}: {message}"
  match db.outbox[rowId]? with
  | none => .ok db
  | some row =>
      if row.attempt ≥ settings.jobMaxAttempts then
        let db := { db with outbox := db.outbox.set rowId (failedRow row lastError) }
        match db.jobs[row.aggregateId]? with
        | none => .ok db
        | some job =>
            if job.status ∈ [.outboxPending, .retryScheduled] then do
              let s : JobSession := ⟨db, row.aggregateId, job⟩
              let s ← failUnpublished s now
              let s ← s.transition .deadLettered now
              let s := s.update Job.publishFailed
              return (s.addOrdered .jobDeadLettered "job.outbox_dead_lettered"
                "Queue publishing exhausted attempts" none none).commit
            else .ok db
      else
        .ok { db with outbox := db.outbox.set rowId (reopenedRow row lastError now) }

/-- A published row opened again. -/
def restoredRow (now : Time) (row : OutboxMessage) : OutboxMessage :=
  { row with
    status := .pending
    availableAt := now
    claimedAt := none
    claimedBy := none
    publishedAt := none }

/-- One job of the `recover_stranded` sweep. -/
def recoverStrandedJob (now : Time) (db : Database) (jobId : ℕ) : Except Error Database := do
  match OutboxRepository.latestForJob db jobId with
  | none => return db
  | some rowId =>
      match db.outbox[rowId]? with
      | none => return db
      | some row =>
          if row.status ≠ .published then return db
          else
            let s ← JobSession.requireLocked db jobId
            let s ← s.transition .retryScheduled now
            let s := s.update (Job.availableFrom · now)
            let s := { s with
              db := { s.db with outbox := s.db.outbox.set rowId (restoredRow now row) } }
            return (s.addOrdered .retryScheduled "job.redis_recovery_scheduled"
              "Queue delivery recovery scheduled" none none).commit

/-- `recover_stranded`: one transaction over a bounded batch of long-queued jobs. -/
def recoverStranded (settings : Settings) (now : Time) (db : Database) :
    Except Error Database :=
  (JobRepository.staleQueued (staleClaimCutoff now settings.jobLease)
    settings.outboxBatchSize db).foldlM (recoverStrandedJob now) db

end OutboxDispatcher

end StoryForge
