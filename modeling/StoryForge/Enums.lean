/-!
# Enumerations and errors

The status and kind enumerations of the database schema, and the exceptions the services
raise, with the texts their callers see.

`value` is the string an enumeration member is stored and printed as; it is given for the
enumerations that occur in messages.
-/

namespace StoryForge

/-- Controlled asynchronous operations accepted by the job registry. -/
inductive JobType
  | generatePlan
  | generateChapter
  | evaluateChapter
  | runChapterWorkflow
  | resumeWorkflow
  | reindexMemory
  | runRetrievalWarmup
  | runBook
  | resumeBook
  deriving DecidableEq, Repr

/-- Durable lifecycle for one asynchronous job. -/
inductive JobStatus
  | pending
  | outboxPending
  | queued
  | leased
  | running
  | pauseRequested
  | paused
  | cancelRequested
  | cancelled
  | retryScheduled
  | succeeded
  | failed
  | deadLettered
  deriving DecidableEq, Repr

/-- The stored and printed form of a job status. -/
def JobStatus.value : JobStatus → String
  | .pending => "pending"
  | .outboxPending => "outbox_pending"
  | .queued => "queued"
  | .leased => "leased"
  | .running => "running"
  | .pauseRequested => "pause_requested"
  | .paused => "paused"
  | .cancelRequested => "cancel_requested"
  | .cancelled => "cancelled"
  | .retryScheduled => "retry_scheduled"
  | .succeeded => "succeeded"
  | .failed => "failed"
  | .deadLettered => "dead_lettered"

/-- Stable, content-free events emitted by job execution. -/
inductive JobEventType
  | jobCreated
  | jobQueued
  | jobLeased
  | jobStarted
  | progressUpdated
  | workflowNodeStarted
  | workflowNodeCompleted
  | retryScheduled
  | pauseRequested
  | jobPaused
  | resumeRequested
  | cancelRequested
  | jobCancelled
  | jobSucceeded
  | jobFailed
  | jobDeadLettered
  | jobDiscarded
  deriving DecidableEq, Repr

/-- Delivery status for a transactional outbox row. -/
inductive OutboxStatus
  | pending
  | claimed
  | published
  | failed
  deriving DecidableEq, Repr

/-- Execution status for a persisted workflow run. -/
inductive WorkflowRunStatus
  | pending
  | running
  | succeeded
  | failed
  | needsHumanReview
  | paused
  | completed
  | completedNeedsReview
  | cancelled
  deriving DecidableEq, Repr

/-- The stored and printed form of a workflow run status. -/
def WorkflowRunStatus.value : WorkflowRunStatus → String
  | .pending => "pending"
  | .running => "running"
  | .succeeded => "succeeded"
  | .failed => "failed"
  | .needsHumanReview => "needs_human_review"
  | .paused => "paused"
  | .completed => "completed"
  | .completedNeedsReview => "completed_needs_review"
  | .cancelled => "cancelled"

/-- Lifecycle status for a chapter. -/
inductive ChapterStatus
  | planned
  | generating
  | draft
  | extractingFacts
  | generated
  | factExtractionFailed
  | failed
  | evaluating
  | evaluatedPassed
  | evaluatedNeedsRevision
  | evaluationFailed
  | needsRevision
  | accepted
  | needsHumanReview
  | workflowRunning
  | drafting
  | revising
  | workflowFailed
  deriving DecidableEq, Repr

/-- The stored and printed form of a chapter status. -/
def ChapterStatus.value : ChapterStatus → String
  | .planned => "planned"
  | .generating => "generating"
  | .draft => "draft"
  | .extractingFacts => "extracting_facts"
  | .generated => "generated"
  | .factExtractionFailed => "fact_extraction_failed"
  | .failed => "failed"
  | .evaluating => "evaluating"
  | .evaluatedPassed => "evaluated_passed"
  | .evaluatedNeedsRevision => "evaluated_needs_revision"
  | .evaluationFailed => "evaluation_failed"
  | .needsRevision => "needs_revision"
  | .accepted => "accepted"
  | .needsHumanReview => "needs_human_review"
  | .workflowRunning => "workflow_running"
  | .drafting => "drafting"
  | .revising => "revising"
  | .workflowFailed => "workflow_failed"

/-- Lifecycle status for a story project. -/
inductive ProjectStatus
  | created
  | draft
  | planning
  | planned
  | generating
  | active
  | completed
  | failed
  | archived
  deriving DecidableEq, Repr

/-- The stored and printed form of a project status. -/
def ProjectStatus.value : ProjectStatus → String
  | .created => "created"
  | .draft => "draft"
  | .planning => "planning"
  | .planned => "planned"
  | .generating => "generating"
  | .active => "active"
  | .completed => "completed"
  | .failed => "failed"
  | .archived => "archived"

/-- Lifecycle of an immutable chapter text version. -/
inductive ChapterVersionStatus
  | draft
  | evaluated
  | revision
  | accepted
  | rejected
  | superseded
  | needsReview
  deriving DecidableEq, Repr

/-- Promotion state for version-scoped extracted facts. -/
inductive FactStatus
  | candidate
  | accepted
  | rejected
  | superseded
  deriving DecidableEq, Repr

/-- Lifecycle status for a foreshadowing setup. -/
inductive ForeshadowingStatus
  | planned
  | «open»
  | resolved
  | abandoned
  deriving DecidableEq, Repr

/-- Visibility lifecycle of memory chunks. -/
inductive MemoryStatus
  | candidate
  | accepted
  | rejected
  | superseded
  | deleted
  deriving DecidableEq, Repr

/-- Synchronous indexing state retained for retry and audit. -/
inductive MemoryIndexStatus
  | pending
  | indexing
  | completed
  | failed
  | superseded
  deriving DecidableEq, Repr

/-- Durability status of one evaluation attempt. -/
inductive EvaluationStatus
  | completed
  | partialFailed
  deriving DecidableEq, Repr

/-- Durable provider-attempt state. -/
inductive ProviderCallStatus
  | pending
  | running
  | succeeded
  | failed
  | rateLimited
  | timedOut
  | budgetBlocked
  | circuitOpen
  | cancelled
  deriving DecidableEq, Repr

/-- Provenance of token accounting. -/
inductive TokenUsageSource
  | providerReported
  | localEstimate
  | mock
  | unknown
  deriving DecidableEq, Repr

/-- Mechanically explainable consistency-conflict categories. -/
inductive ConflictType
  | characterState
  | characterKnowledge
  | characterExistence
  | location
  | timeline
  | objectState
  | storyRule
  | factContradiction
  | foreshadowing
  | outlineViolation
  deriving DecidableEq, Repr

/-- Severity shared by consistency and evaluation issues. -/
inductive ConflictSeverity
  | low
  | medium
  | high
  | critical
  deriving DecidableEq, Repr

/-- Supported project-budget reset periods. -/
inductive BudgetPeriod
  | lifetime
  | daily
  | monthly
  deriving DecidableEq, Repr

/-- Durable ownership state for one normalized provider request. -/
inductive IdempotencyStatus
  | active
  | succeeded
  | failed
  deriving DecidableEq, Repr

/-! ### Exceptions -/

/-- The exceptions of the LLM boundary that the provider layer tells apart. -/
inductive LLMErrorKind
  | timeout
  | authentication
  | rateLimit
  | service
  | refusal
  | invalidResponse
  | contextLength
  | provider
  deriving DecidableEq, Repr

/-- What a service call can raise. `integrityError` is the database refusing a write, and
names the constraint; `other` is any exception class not listed. -/
inductive Error
  | entityNotFoundError (message : String)
  | invalidStateError (message : String)
  | queueBackpressureError (message : String) (retryAfter : Nat)
  | integrityError (constraint : String)
  | runtimeError (message : String)
  | valueError (message : String)
  | budgetBlockedError (message : String)
  | providerRateLimitError (message : String)
  | circuitOpenError (message : String)
  | privacyPolicyError (message : String)
  | idempotencyConflictError (message : String)
  | llmError (kind : LLMErrorKind) (message : String) (attempts : Nat)
  | other (className message : String)
  deriving DecidableEq, Repr

/-- The class of an LLM exception. -/
def LLMErrorKind.className : LLMErrorKind → String
  | .timeout => "LLMTimeoutError"
  | .authentication => "LLMAuthenticationError"
  | .rateLimit => "LLMRateLimitError"
  | .service => "LLMServiceError"
  | .refusal => "LLMRefusalError"
  | .invalidResponse => "LLMInvalidResponseError"
  | .contextLength => "LLMContextLengthError"
  | .provider => "LLMProviderError"

/-- `type(exc).__name__`. -/
def Error.className : Error → String
  | .entityNotFoundError _ => "EntityNotFoundError"
  | .invalidStateError _ => "InvalidStateError"
  | .queueBackpressureError _ _ => "QueueBackpressureError"
  | .integrityError _ => "IntegrityError"
  | .runtimeError _ => "RuntimeError"
  | .valueError _ => "ValueError"
  | .budgetBlockedError _ => "BudgetBlockedError"
  | .providerRateLimitError _ => "ProviderRateLimitError"
  | .circuitOpenError _ => "CircuitOpenError"
  | .privacyPolicyError _ => "PrivacyPolicyError"
  | .idempotencyConflictError _ => "IdempotencyConflictError"
  | .llmError kind _ _ => kind.className
  | .other className _ => className

/-- `str(exc)`. -/
def Error.message : Error → String
  | .entityNotFoundError message => message
  | .invalidStateError message => message
  | .queueBackpressureError message _ => message
  | .integrityError constraint => constraint
  | .runtimeError message => message
  | .valueError message => message
  | .budgetBlockedError message => message
  | .providerRateLimitError message => message
  | .circuitOpenError message => message
  | .privacyPolicyError message => message
  | .idempotencyConflictError message => message
  | .llmError _ message _ => message
  | .other _ message => message

end StoryForge
