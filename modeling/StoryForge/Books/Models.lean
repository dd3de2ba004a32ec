import Mathlib.Data.List.Sort
import StoryForge.Jobs.Service
import StoryForge.Providers.Gateway

/-!
# Book runs

A book run drives the chapters of one project through their workflows. It has one top job;
`JobLink` has the columns of a job that tell which book run it belongs to and which job it is
a child of.

## Main results

* `transitionBookRun_eq_ok` — a book run changes status exactly along its table;
* `BookRunStatus.active_or_terminal` — a status is active or terminal, and not both.
-/

namespace StoryForge

/-! ### Statuses -/

/-- Supported full-book scheduling strategies. -/
inductive BookRunMode
  | sequential
  | dependencyAware
  deriving DecidableEq, Repr

/-- Durable full-book workflow lifecycle. -/
inductive BookRunStatus
  | pending
  | planningValidation
  | generating
  | paused
  | globalReview
  | globalRevision
  | completed
  | completedNeedsReview
  | cancelRequested
  | cancelled
  | failed
  | budgetBlocked
  deriving DecidableEq, Repr

/-- The stored and printed form of a book run status. -/
def BookRunStatus.value : BookRunStatus → String
  | .pending => "pending"
  | .planningValidation => "planning_validation"
  | .generating => "generating"
  | .paused => "paused"
  | .globalReview => "global_review"
  | .globalRevision => "global_revision"
  | .completed => "completed"
  | .completedNeedsReview => "completed_needs_review"
  | .cancelRequested => "cancel_requested"
  | .cancelled => "cancelled"
  | .failed => "failed"
  | .budgetBlocked => "budget_blocked"

/-- `ACTIVE_BOOK_RUN_STATUSES`, and the condition of the index `uq_book_runs_active_project`. -/
def activeBookRunStatuses : List BookRunStatus :=
  [.pending, .planningValidation, .generating, .paused, .globalReview, .globalRevision,
    .cancelRequested, .budgetBlocked]

/-- `TERMINAL_BOOK_RUN_STATUSES`. -/
def terminalBookRunStatuses : List BookRunStatus :=
  [.completed, .completedNeedsReview, .cancelled, .failed]

/-- The statuses a book run may move to. -/
def BookRunStatus.allowed : BookRunStatus → List BookRunStatus
  | .pending => [.planningValidation, .paused, .cancelled, .failed]
  | .planningValidation => [.generating, .paused, .cancelRequested, .failed]
  | .generating =>
      [.globalReview, .paused, .cancelRequested, .completedNeedsReview, .budgetBlocked, .failed]
  | .paused => [.planningValidation, .generating, .globalReview, .cancelled]
  | .globalReview =>
      [.globalRevision, .completed, .completedNeedsReview, .paused, .cancelRequested,
        .budgetBlocked, .failed]
  | .globalRevision =>
      [.globalReview, .completedNeedsReview, .paused, .cancelRequested, .budgetBlocked, .failed]
  | .budgetBlocked => [.generating, .globalReview, .cancelled]
  | .cancelRequested => [.cancelled]
  | .completed | .completedNeedsReview | .cancelled | .failed => []

/-- A status is active or terminal, and not both. -/
theorem BookRunStatus.active_or_terminal (status : BookRunStatus) :
    status ∈ activeBookRunStatuses ↔ status ∉ terminalBookRunStatuses := by
  cases status <;> decide

/-- A terminal book run does not move. -/
theorem BookRunStatus.active_of_mem_allowed {status target : BookRunStatus}
    (h : target ∈ status.allowed) : status ∈ activeBookRunStatuses := by
  cases status <;> first | decide | exact absurd h (by simp [allowed])

/-! ### Rows -/

/-- What the map of a book run says of a chapter. -/
inductive ChapterMark
  | planned
  | running
  | accepted
  | failed
  | needsReview
  deriving DecidableEq, Repr

/-- A project, as its book runs see it. -/
structure BookProject where
  targetChapters : ℕ
  modelProfile : ModelProfile
  privacyPolicy : PrivacyPolicy
  deriving DecidableEq, Repr

/-- The body of a request for a book run. -/
structure BookRunCreateRequest where
  mode : BookRunMode
  maxChapterRetries : Option ℕ
  maxGlobalRevisionRounds : Option ℕ
  modelProfile : Option ModelProfile
  privacyPolicy : Option PrivacyPolicy
  maxEstimatedCost : Option Amount
  maxTotalTokens : Option ℕ
  maxProviderCalls : Option ℕ
  deriving DecidableEq, Repr

/-- A durable full-book run. -/
structure BookRun where
  projectId : ℕ
  status : BookRunStatus
  mode : BookRunMode
  idempotencyKey : String
  totalChapters : ℕ
  completedChapters : ℕ
  acceptedChapters : ℕ
  failedChapters : ℕ
  needsReviewChapters : ℕ
  currentChapterNumber : Option ℕ
  maxChapterRetries : ℕ
  maxGlobalRevisionRounds : ℕ
  currentGlobalRevisionRound : ℕ
  modelProfile : ModelProfile
  privacyPolicy : PrivacyPolicy
  jobId : Option ℕ
  workflowRunId : Option ℕ
  currentNode : String
  blockingReasons : List String
  chapterJobMap : List (ℕ × ℕ)
  chapterStatusMap : List (ℕ × ChapterMark)
  progress : ℕ
  maxEstimatedCost : Amount
  maxTotalTokens : ℕ
  maxProviderCalls : ℕ
  spentCost : Amount
  usedTokens : ℕ
  providerCalls : ℕ
  errorCode : Option String
  errorMessage : Option String
  deriving DecidableEq, Repr

/-- The book run and the parent of a job. -/
structure JobLink where
  bookRunId : Option ℕ
  parentJobId : Option ℕ
  deriving DecidableEq, Repr

/-- The job tables with the book runs. `jobLinks` are the links of the jobs, by job id, and
`bookProjects` the projects, by project id. -/
structure BookDatabase extends Database where
  bookProjects : List BookProject
  bookRuns : List BookRun
  jobLinks : List JobLink
  deriving DecidableEq, Repr

/-- What the idempotency key of a book run is computed from. -/
structure BookIdempotencyBody where
  projectId : ℕ
  request : BookRunCreateRequest
  externalKey : String
  deriving DecidableEq, Repr

/-- The settings of the job service with those of book runs. The keys are digests: of the
request for a book run, and of the key of a book run for its job. -/
structure BookSettings extends Settings where
  bookMaxChapterRetries : ℕ
  bookMaxGlobalRevisionRounds : ℕ
  bookMaxCost : Amount
  bookMaxTokens : ℕ
  bookMaxProviderCalls : ℕ
  bookDigest : BookIdempotencyBody → String
  bookJobDigest : String → String
  bookMaxChapterRetries_range : bookMaxChapterRetries ≤ 10
  bookMaxGlobalRevisionRounds_range : bookMaxGlobalRevisionRounds ≤ 5
  bookMaxCost_pos : 0 < bookMaxCost
  bookMaxTokens_pos : 0 < bookMaxTokens
  bookMaxProviderCalls_pos : 0 < bookMaxProviderCalls

/-! ### Transitions -/

/-- `transition_book_run`. -/
def transitionBookRun (run : BookRun) (target : BookRunStatus) : Except Error BookRun :=
  if target = run.status then .ok run
  else if target ∉ run.status.allowed then
    .error (.invalidStateError ("BookRun cannot transition from " ++ run.status.value ++ " to " ++
      target.value))
  else .ok { run with status := target }

/-- A book run changes status exactly along its table. -/
theorem transitionBookRun_eq_ok {run run' : BookRun} {target : BookRunStatus} :
    transitionBookRun run target = .ok run' ↔
      run' = { run with status := target } ∧
        (target = run.status ∨ target ∈ run.status.allowed) := by
  unfold transitionBookRun
  by_cases heq : target = run.status
  · subst heq
    simp only [if_true, Except.ok.injEq, true_or, and_true]
    exact eq_comm
  · by_cases hin : target ∈ run.status.allowed
    · simp [heq, hin, eq_comm]
    · simp [heq, hin]

/-! ### Queries -/

namespace BookDatabase

variable (db : BookDatabase)

/-- `ChapterRepository.list_for_project`: the numbers of the chapters, in order. -/
def chapterNumbers (projectId : ℕ) : List ℕ :=
  ((db.chapters.filter (·.projectId == projectId)).map (·.chapterNumber)).insertionSort (· ≤ ·)

/-- Whether a book run of a project is active. -/
def isActiveFor (projectId : ℕ) (run : BookRun) : Bool :=
  run.projectId == projectId && activeBookRunStatuses.contains run.status

/-- `BookRunRepository.active_for_project`. -/
def activeForProject (projectId : ℕ) : Option ℕ :=
  (Rows.idsWhere db.bookRuns (isActiveFor projectId)).getLast?

/-- `BookRunRepository.by_idempotency_key`. -/
def runByKey (key : String) : Option ℕ :=
  (Rows.idsWhere db.bookRuns fun run => run.idempotencyKey == key).head?

/-- The top jobs of a book run: its jobs without a parent. -/
def topJobs (runId : ℕ) : List ℕ :=
  Rows.idsWhere db.jobLinks fun link => link.bookRunId == some runId && link.parentJobId.isNone

end BookDatabase

end StoryForge
