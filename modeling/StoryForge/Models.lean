import Mathlib.Data.List.Basic
import Mathlib.Data.Int.Notation
import StoryForge.Enums

/-!
# Rows, settings and the job registry

The tables the job system reads and writes, with the columns its functions use. A table
is a list of rows and the id of a row is its position, so a foreign key is a number that
may or may not be in range. `updated_at`, which the ORM stamps and nothing reads, is left
out, as are payload columns that only handlers interpret.

An outbox row's deduplication key is kept in parsed form; `DeduplicationKey.render` is the
text that is stored.
-/

namespace StoryForge

/-- A point in time or a duration, in microseconds. -/
abbrev Time := ℤ

/-- The number of microseconds in `n` seconds. -/
def seconds (n : ℕ) : Time := n * 1000000

/-- A sum of money in units of 10⁻⁸, the scale of the `Numeric(18, 8)` columns. -/
abbrev Amount := ℤ

/-- `value[:limit]` on strings. -/
def truncate (limit : ℕ) (value : String) : String :=
  String.ofList (value.toList.take limit)

/-! ### Settings and the registry -/

/-- What a job's idempotency key is computed from; `payload` is the normalized payload as
JSON text. -/
structure IdempotencyBody where
  jobType : JobType
  projectId : Option ℕ
  chapterId : Option ℕ
  workflowRunId : Option ℕ
  operation : String
  payload : String
  externalKey : String
  deriving DecidableEq, Repr

/-- The settings of the queue and of the usage limits, with the ranges their validation
enforces. `redact` is the redaction applied to error texts before they are stored, `digest`
the SHA-256 of the canonical JSON of an idempotency body. -/
structure Settings where
  jobLease : Time
  jobMaxAttempts : ℕ
  outboxBatchSize : ℕ
  queuePendingHardLimit : ℕ
  projectPendingLimit : ℕ
  queuePrefix : String
  defaultCurrency : String
  projectSoftBudget : Amount
  projectHardBudget : Amount
  workflowMaxCost : Amount
  workflowMaxTokens : ℕ
  workflowMaxProviderCalls : ℕ
  allowUnknownPricing : Bool
  redact : String → String
  digest : IdempotencyBody → String
  jobLease_range : seconds 1 < jobLease ∧ jobLease ≤ seconds 3600
  jobMaxAttempts_range : 1 ≤ jobMaxAttempts ∧ jobMaxAttempts ≤ 20
  outboxBatchSize_range : 1 ≤ outboxBatchSize ∧ outboxBatchSize ≤ 1000
  queuePendingHardLimit_range : 1 ≤ queuePendingHardLimit ∧ queuePendingHardLimit ≤ 1000000
  projectPendingLimit_range : 1 ≤ projectPendingLimit ∧ projectPendingLimit ≤ 100000
  projectSoftBudget_nonneg : 0 ≤ projectSoftBudget
  projectHardBudget_pos : 0 < projectHardBudget
  projectBudget_order : projectSoftBudget ≤ projectHardBudget

/-- The default settings, with nothing redacted and the digest standing for itself. -/
def Settings.defaults : Settings where
  jobLease := seconds 30
  jobMaxAttempts := 3
  outboxBatchSize := 50
  queuePendingHardLimit := 500
  projectPendingLimit := 25
  queuePrefix := "storyforge"
  defaultCurrency := "USD"
  projectSoftBudget := 500000000
  projectHardBudget := 1000000000
  workflowMaxCost := 200000000
  workflowMaxTokens := 500000
  workflowMaxProviderCalls := 100
  allowUnknownPricing := false
  redact := id
  digest body := body.operation ++ ":" ++ body.payload ++ ":" ++ body.externalKey
  jobLease_range := by decide
  jobMaxAttempts_range := by decide
  outboxBatchSize_range := by decide
  queuePendingHardLimit_range := by decide
  projectPendingLimit_range := by decide
  projectSoftBudget_nonneg := by decide
  projectHardBudget_pos := by decide
  projectBudget_order := by decide

/-- The registry entry of a job type: where it is queued and how often it may run. -/
structure JobDefinition where
  queueName : String
  maxAttempts : ℕ
  timeoutSeconds : ℕ
  deriving DecidableEq, Repr

/-- The compile-time registry. -/
def JobRegistry.get : JobType → JobDefinition
  | .generatePlan => ⟨"storyforge.default", 3, 900⟩
  | .generateChapter => ⟨"storyforge.default", 3, 1800⟩
  | .evaluateChapter => ⟨"storyforge.default", 3, 1800⟩
  | .runChapterWorkflow => ⟨"storyforge.workflow", 3, 7200⟩
  | .resumeWorkflow => ⟨"storyforge.workflow", 3, 7200⟩
  | .reindexMemory => ⟨"storyforge.indexing", 4, 3600⟩
  | .runRetrievalWarmup => ⟨"storyforge.indexing", 2, 600⟩
  | .runBook => ⟨"storyforge.book", 3, 86400⟩
  | .resumeBook => ⟨"storyforge.book", 3, 86400⟩

/-! ### Rows -/

/-- A project; the job system only asks whether it exists. -/
structure Project where
  title : String
  deriving DecidableEq, Repr

/-- A chapter of a project. -/
structure Chapter where
  projectId : ℕ
  chapterNumber : ℕ
  status : ChapterStatus
  acceptedVersionId : Option ℕ
  deriving DecidableEq, Repr

/-- A durable execution of the chapter workflow. -/
structure WorkflowRun where
  chapterId : ℕ
  status : WorkflowRunStatus
  currentNode : String
  finishedAt : Option Time
  deriving DecidableEq, Repr

/-- An asynchronous operation. -/
structure Job where
  projectId : Option ℕ
  chapterId : Option ℕ
  workflowRunId : Option ℕ
  jobType : JobType
  queueName : String
  status : JobStatus
  priority : ℕ
  idempotencyKey : String
  discarded : Bool
  result : Option String
  progress : ℕ
  currentStep : Option String
  attempt : ℕ
  maxAttempts : ℕ
  eventSequence : ℕ
  availableAt : Time
  queuedAt : Option Time
  startedAt : Option Time
  heartbeatAt : Option Time
  leaseExpiresAt : Option Time
  finishedAt : Option Time
  cancelRequestedAt : Option Time
  cancelledAt : Option Time
  errorCode : Option String
  errorMessage : Option String
  workerId : Option String
  deriving DecidableEq, Repr

/-- A durable progress event, replayed in `sequence` order. -/
structure JobEvent where
  jobId : ℕ
  sequence : ℕ
  eventType : JobEventType
  status : JobStatus
  step : Option String
  progress : ℕ
  messageCode : String
  message : String
  attempt : ℕ
  workerId : Option String
  workflowEventId : Option ℕ
  deriving DecidableEq, Repr

/-- Why a delivery is requested; the second part of a deduplication key. -/
inductive EnqueueReason
  | create
  | resume (attempt : ℕ)
  | dlqRetry (attempt : ℕ)
  | attempt (n : ℕ)
  deriving DecidableEq, Repr

/-- The text of a reason. -/
def EnqueueReason.render : EnqueueReason → String
  | .create => "create"
  | .resume n => "resume-" ++ toString n
  | .dlqRetry n => "dlq-retry-" ++ toString n
  | .attempt n => "attempt:" ++ toString n

/-- The unique key of an outbox row. -/
structure DeduplicationKey where
  jobId : ℕ
  reason : EnqueueReason
  deriving DecidableEq, Repr

/-- The stored text of a deduplication key. -/
def DeduplicationKey.render (key : DeduplicationKey) : String :=
  "job:" ++ toString key.jobId ++ ":" ++ key.reason.render

/-- A transactional request for at-least-once publication of job `aggregateId`. -/
structure OutboxMessage where
  aggregateId : ℕ
  queueName : String
  status : OutboxStatus
  attempt : ℕ
  availableAt : Time
  publishedAt : Option Time
  claimedAt : Option Time
  claimedBy : Option String
  lastError : Option String
  deduplicationKey : DeduplicationKey
  deriving DecidableEq, Repr

/-- The committed state of the database. -/
structure Database where
  projects : List Project
  chapters : List Chapter
  workflowRuns : List WorkflowRun
  jobs : List Job
  jobEvents : List JobEvent
  outbox : List OutboxMessage
  deriving DecidableEq, Repr

/-- A database with no rows. -/
def Database.empty : Database := ⟨[], [], [], [], [], []⟩

end StoryForge
