import StoryForge.Books.Models

/-!
# `BookRunService`: admission

`create` looks its key up, checks the project and inserts the book run with its top job, the
first event and an outbox row, and after an `IntegrityError` looks the key up again. Calls
interleave between these statements, as those of `JobService.create` do: the checks read what
is committed at that moment, and the insert is atomic with its commit.

## Main results

* `BookRunService.insert_eq_ok` — what an insert that commits finds and adds;
* `BookRunPhase.advance_cases` — everything that one statement of a call can do.
-/

namespace StoryForge

/-- The answer of `BookRunService.create`. -/
structure BookRunAcceptedResponse where
  bookRunId : ℕ
  jobId : ℕ
  reused : Bool
  status : BookRunStatus
  statusUrl : String
  eventsUrl : String
  deriving DecidableEq, Repr

/-- The arguments of `BookRunService.create`. -/
structure BookRunArguments where
  projectId : ℕ
  request : BookRunCreateRequest
  externalIdempotencyKey : Option String
  deriving DecidableEq, Repr

/-- The body that is digested; no external key counts as an empty one. -/
def BookRunArguments.body (arguments : BookRunArguments) : BookIdempotencyBody where
  projectId := arguments.projectId
  request := arguments.request
  externalKey := arguments.externalIdempotencyKey.getD ""

/-- Whether a call has an external key, `if external_idempotency_key`. -/
def BookRunArguments.hasKey (arguments : BookRunArguments) : Bool :=
  arguments.externalIdempotencyKey.getD "" != ""

namespace BookRunService

/-! ### Answers -/

/-- `_accepted`. -/
def accepted (runId : ℕ) (run : BookRun) (reused : Bool) : Except Error BookRunAcceptedResponse :=
  match run.jobId with
  | none => .error (.invalidStateError "BookRun admission did not create a top-level Job")
  | some jobId =>
      .ok
        { bookRunId := runId
          jobId
          reused
          status := run.status
          statusUrl := "/api/v1/book-runs/" ++ toString runId
          eventsUrl := "/api/v1/book-runs/" ++ toString runId ++ "/events/stream" }

/-- `_idempotency_key`. -/
def idempotencyKey (settings : BookSettings) (arguments : BookRunArguments) : String :=
  settings.bookDigest arguments.body

/-- The book run with a key, with its id. -/
def byKey (db : BookDatabase) (key : String) : Option (ℕ × BookRun) :=
  (db.runByKey key).bind fun id => db.bookRuns[id]?.map (id, ·)

/-- The active book run of a project, with its id. -/
def activeRun (db : BookDatabase) (projectId : ℕ) : Option (ℕ × BookRun) :=
  (db.activeForProject projectId).bind fun id => db.bookRuns[id]?.map (id, ·)

/-! ### Rows -/

/-- The row of a new book run. -/
def newBookRun (settings : BookSettings) (arguments : BookRunArguments) (project : BookProject)
    (chapterNumbers : List ℕ) (jobId : ℕ) : BookRun where
  projectId := arguments.projectId
  status := .pending
  mode := arguments.request.mode
  idempotencyKey := idempotencyKey settings arguments
  totalChapters := project.targetChapters
  completedChapters := 0
  acceptedChapters := 0
  failedChapters := 0
  needsReviewChapters := 0
  currentChapterNumber := none
  maxChapterRetries := arguments.request.maxChapterRetries.getD settings.bookMaxChapterRetries
  maxGlobalRevisionRounds :=
    arguments.request.maxGlobalRevisionRounds.getD settings.bookMaxGlobalRevisionRounds
  currentGlobalRevisionRound := 0
  modelProfile := arguments.request.modelProfile.getD project.modelProfile
  privacyPolicy := arguments.request.privacyPolicy.getD project.privacyPolicy
  jobId := some jobId
  workflowRunId := none
  currentNode := "pending"
  blockingReasons := []
  chapterJobMap := []
  chapterStatusMap := chapterNumbers.map (·, .planned)
  progress := 0
  maxEstimatedCost := arguments.request.maxEstimatedCost.getD settings.bookMaxCost
  maxTotalTokens := arguments.request.maxTotalTokens.getD settings.bookMaxTokens
  maxProviderCalls := arguments.request.maxProviderCalls.getD settings.bookMaxProviderCalls
  spentCost := 0
  usedTokens := 0
  providerCalls := 0
  errorCode := none
  errorMessage := none

/-- The row of the top job. -/
def newBookJob (settings : BookSettings) (arguments : BookRunArguments) (now : Time) : Job :=
  let definition := JobRegistry.get .runBook
  { projectId := some arguments.projectId
    chapterId := none
    workflowRunId := none
    jobType := .runBook
    queueName := JobService.queueName settings.toSettings definition.queueName
    status := .outboxPending
    priority := 5
    idempotencyKey := settings.bookJobDigest ("book-job:" ++ idempotencyKey settings arguments)
    discarded := false
    result := none
    progress := 0
    currentStep := none
    attempt := 0
    maxAttempts := min definition.maxAttempts settings.jobMaxAttempts
    eventSequence := 0
    availableAt := now
    queuedAt := none
    startedAt := none
    heartbeatAt := none
    leaseExpiresAt := none
    finishedAt := none
    cancelRequestedAt := none
    cancelledAt := none
    errorCode := none
    errorMessage := none
    workerId := none }

/-- The row that requests the first delivery of a job. -/
def creationOutbox (jobId : ℕ) (queueName : String) (now : Time) : OutboxMessage where
  aggregateId := jobId
  queueName := queueName
  status := .pending
  attempt := 0
  availableAt := now
  publishedAt := none
  claimedAt := none
  claimedBy := none
  lastError := none
  deduplicationKey := ⟨jobId, .create⟩

/-! ### Statements -/

/-- The checks of the admission transaction up to the active book run. -/
def checkProject (db : BookDatabase) (projectId : ℕ) : Except Error (BookProject × List ℕ) :=
  match db.bookProjects[projectId]? with
  | none => .error (.entityNotFoundError ("Project " ++ toString projectId ++ " was not found"))
  | some project =>
      let chapterNumbers := db.chapterNumbers projectId
      if chapterNumbers.length ≠ project.targetChapters then
        .error (.invalidStateError
          "BookRun requires a complete, continuous project chapter plan")
      else if chapterNumbers ≠ List.range' 1 project.targetChapters then
        .error (.invalidStateError "Project chapter numbers must be continuous")
      else .ok (project, chapterNumbers)

/-- The constraint that the rows of a new book run would break, if any. -/
def brokenConstraint (db : BookDatabase) (run : BookRun) (job : Job) : Option String :=
  if run.totalChapters = 0 then some "book_run_total_chapters_positive"
  else if db.bookProjects[run.projectId]?.isNone then some "fk_book_runs_project_id_projects"
  else if db.bookRuns.any fun row => row.idempotencyKey == run.idempotencyKey then
    some "book_runs_idempotency_key"
  else if db.bookRuns.any (BookDatabase.isActiveFor run.projectId) then
    some "uq_book_runs_active_project"
  else if db.jobs.any fun row => row.idempotencyKey == job.idempotencyKey then
    some "job_idempotency_key"
  else if db.outbox.any fun row => row.deduplicationKey == ⟨db.jobs.length, .create⟩ then
    some "outbox_deduplication_key"
  else none

/-- The insert of the book run, its top job, the first event and the outbox row. -/
def insert (settings : BookSettings) (arguments : BookRunArguments) (project : BookProject)
    (chapterNumbers : List ℕ) (now : Time) (db : BookDatabase) :
    Except Error (ℕ × BookRun × BookDatabase) :=
  let jobId := db.jobs.length
  let run := newBookRun settings arguments project chapterNumbers jobId
  let job := newBookJob settings arguments now
  match brokenConstraint db run job with
  | some constraint => .error (.integrityError constraint)
  | none =>
      let s : JobSession := ⟨{ db.toDatabase with jobs := db.jobs ++ [job] }, jobId, job⟩
      let s := s.addOrdered .jobCreated "book_run.created" "Book run job created" none none
      let s := s.addOutbox (creationOutbox jobId job.queueName now)
      .ok (db.bookRuns.length, run,
        { db with
          toDatabase := s.commit
          bookRuns := db.bookRuns ++ [run]
          jobLinks := db.jobLinks ++ [⟨some db.bookRuns.length, none⟩] })

/-- What an insert that breaks no constraint finds. -/
theorem brokenConstraint_eq_none {db : BookDatabase} {run : BookRun} {job : Job}
    (h : brokenConstraint db run job = none) :
    (∀ row ∈ db.bookRuns, row.idempotencyKey ≠ run.idempotencyKey) ∧
      (∀ row ∈ db.bookRuns, row.projectId = run.projectId → row.status ∉ activeBookRunStatuses) ∧
      ∀ row ∈ db.outbox, row.deduplicationKey ≠ ⟨db.jobs.length, .create⟩ := by
  unfold brokenConstraint at h
  split at h
  · exact absurd h (by simp)
  split at h
  · exact absurd h (by simp)
  split at h
  · exact absurd h (by simp)
  rename_i hkey
  split at h
  · exact absurd h (by simp)
  rename_i hactive
  split at h
  · exact absurd h (by simp)
  split at h
  · exact absurd h (by simp)
  rename_i houtbox
  refine ⟨fun row hrow heq => hkey ?_, fun row hrow hproject hstatus => hactive ?_,
    fun row hrow heq => houtbox ?_⟩
  · exact List.any_eq_true.mpr ⟨row, hrow, by simpa using heq⟩
  · exact List.any_eq_true.mpr
      ⟨row, hrow, by simp [BookDatabase.isActiveFor, hproject, hstatus]⟩
  · exact List.any_eq_true.mpr ⟨row, hrow, by simpa using heq⟩

/-- A book run was inserted: there was none with its key and no active one in its project, and
it was added with its top job, one event and one outbox row. -/
structure Inserted (settings : BookSettings) (arguments : BookRunArguments) (db : BookDatabase)
    (run : BookRun) (db' : BookDatabase) : Prop where
  newKey : ∀ row ∈ db.bookRuns, row.idempotencyKey ≠ idempotencyKey settings arguments
  noneActive : ∀ row ∈ db.bookRuns, row.projectId = arguments.projectId →
    row.status ∉ activeBookRunStatuses
  newOutbox : ∀ row ∈ db.outbox, row.deduplicationKey ≠ ⟨db.jobs.length, .create⟩
  key : run.idempotencyKey = idempotencyKey settings arguments
  project : run.projectId = arguments.projectId
  topJob : run.jobId = some db.jobs.length
  bookRuns : db'.bookRuns = db.bookRuns ++ [run]
  jobLinks : db'.jobLinks = db.jobLinks ++ [⟨some db.bookRuns.length, none⟩]
  jobs : db'.jobs.length = db.jobs.length + 1
  jobEvents : ∃ event : JobEvent, event.jobId = db.jobs.length ∧ event.eventType = .jobCreated ∧
    db'.jobEvents = db.jobEvents ++ [event]
  outbox : ∃ row : OutboxMessage, row.deduplicationKey = ⟨db.jobs.length, .create⟩ ∧
    db'.outbox = db.outbox ++ [row]

/-- **What a committed insert finds and adds.** -/
theorem insert_eq_ok {settings : BookSettings} {arguments : BookRunArguments}
    {project : BookProject} {chapterNumbers : List ℕ} {now : Time} {db db' : BookDatabase}
    {runId : ℕ} {run : BookRun}
    (h : insert settings arguments project chapterNumbers now db = .ok (runId, run, db')) :
    runId = db.bookRuns.length ∧ Inserted settings arguments db run db' := by
  unfold insert at h
  dsimp only at h
  cases hbroken : brokenConstraint db
      (newBookRun settings arguments project chapterNumbers db.jobs.length)
      (newBookJob settings arguments now) with
  | some constraint => simp [hbroken] at h
  | none =>
      simp only [hbroken, Except.ok.injEq, Prod.mk.injEq] at h
      obtain ⟨rfl, rfl, rfl⟩ := h
      obtain ⟨hkey, hactive, houtbox⟩ := brokenConstraint_eq_none hbroken
      refine ⟨rfl, ?_⟩
      exact
        { newKey := hkey
          noneActive := hactive
          newOutbox := houtbox
          key := rfl
          project := rfl
          topJob := rfl
          bookRuns := rfl
          jobLinks := rfl
          jobs := by simp [JobSession.commit, JobSession.addOutbox, JobSession.addOrdered]
          jobEvents := ⟨_, rfl, rfl, rfl⟩
          outbox := ⟨_, rfl, rfl⟩ }

end BookRunService

/-! ### Calls in progress -/

/-- How far a call of `create` is: the statement it executes next, with what its transaction
has read, or how it ended. -/
inductive BookRunPhase
  | lookup
  | check
  | insert (project : BookProject) (chapterNumbers : List ℕ)
  | recover
  | returned (response : BookRunAcceptedResponse)
  | raised (error : Error)
  deriving DecidableEq, Repr

namespace BookRunPhase

open BookRunService

/-- A call ends with an answer or with what it raises. -/
def answer : Except Error BookRunAcceptedResponse → BookRunPhase
  | .ok response => .returned response
  | .error error => .raised error

/-- One statement of a call, on the database it finds. -/
def advance (settings : BookSettings) (arguments : BookRunArguments) (now : Time)
    (db : BookDatabase) : BookRunPhase → Option (BookRunPhase × BookDatabase)
  | .lookup =>
      match byKey db (idempotencyKey settings arguments) with
      | none => some (.check, db)
      | some (id, run) =>
          if run.jobId.isNone then
            some (.raised (.invalidStateError "Existing BookRun is missing its top-level Job"), db)
          else some (answer (accepted id run true), db)
  | .check =>
      match checkProject db arguments.projectId with
      | .error error => some (.raised error, db)
      | .ok (project, chapterNumbers) =>
          match activeRun db arguments.projectId with
          | none => some (.insert project chapterNumbers, db)
          | some (id, run) =>
              if arguments.hasKey then some (answer (accepted id run true), db)
              else some (.raised (.invalidStateError ("Project already has active BookRun " ++
                toString id)), db)
  | .insert project chapterNumbers =>
      match BookRunService.insert settings arguments project chapterNumbers now db with
      | .ok (id, run, db') => some (answer (accepted id run false), db')
      | .error (.integrityError _) => some (.recover, db)
      | .error error => some (.raised error, db)
  | .recover =>
      match byKey db (idempotencyKey settings arguments) with
      | some (id, run) => some (answer (accepted id run true), db)
      | none =>
          some (.raised (.invalidStateError "A concurrent active BookRun already exists"), db)
  | .returned _ | .raised _ => none

/-- A call goes on without an answer, or raises, or is answered with the book run that has its
key or is active, or inserts one. -/
theorem advance_cases {settings : BookSettings} {arguments : BookRunArguments} {now : Time}
    {db db' : BookDatabase} {phase phase' : BookRunPhase}
    (h : phase.advance settings arguments now db = some (phase', db')) :
    (db' = db ∧ ∀ response, phase' ≠ .returned response) ∨
      (db' = db ∧ ∃ id run, phase' = answer (accepted id run true) ∧
        (byKey db (idempotencyKey settings arguments) = some (id, run) ∨
          arguments.hasKey = true ∧ activeRun db arguments.projectId = some (id, run))) ∨
      ∃ run, Inserted settings arguments db run db' ∧
        phase' = answer (accepted db.bookRuns.length run false) := by
  cases phase with
  | lookup =>
      simp only [advance] at h
      split at h
      · obtain ⟨rfl, rfl⟩ := Prod.mk.inj (Option.some.inj h)
        exact .inl ⟨rfl, by simp⟩
      · rename_i id run hrun
        split at h
        · obtain ⟨rfl, rfl⟩ := Prod.mk.inj (Option.some.inj h)
          exact .inl ⟨rfl, by simp⟩
        · obtain ⟨rfl, rfl⟩ := Prod.mk.inj (Option.some.inj h)
          exact .inr (.inl ⟨rfl, id, run, rfl, .inl hrun⟩)
  | check =>
      simp only [advance] at h
      split at h
      · obtain ⟨rfl, rfl⟩ := Prod.mk.inj (Option.some.inj h)
        exact .inl ⟨rfl, by simp⟩
      · split at h
        · obtain ⟨rfl, rfl⟩ := Prod.mk.inj (Option.some.inj h)
          exact .inl ⟨rfl, by simp⟩
        · rename_i id run hrun
          split at h
          · rename_i hkey
            obtain ⟨rfl, rfl⟩ := Prod.mk.inj (Option.some.inj h)
            exact .inr (.inl ⟨rfl, id, run, rfl, .inr ⟨hkey, hrun⟩⟩)
          · obtain ⟨rfl, rfl⟩ := Prod.mk.inj (Option.some.inj h)
            exact .inl ⟨rfl, by simp⟩
  | insert project chapterNumbers =>
      simp only [advance] at h
      split at h
      · rename_i id run db'' hinsert
        obtain ⟨rfl, rfl⟩ := Prod.mk.inj (Option.some.inj h)
        obtain ⟨rfl, hinserted⟩ := insert_eq_ok hinsert
        exact .inr (.inr ⟨run, hinserted, rfl⟩)
      · obtain ⟨rfl, rfl⟩ := Prod.mk.inj (Option.some.inj h)
        exact .inl ⟨rfl, by simp⟩
      · obtain ⟨rfl, rfl⟩ := Prod.mk.inj (Option.some.inj h)
        exact .inl ⟨rfl, by simp⟩
  | recover =>
      simp only [advance] at h
      split at h
      · rename_i id run hrun
        obtain ⟨rfl, rfl⟩ := Prod.mk.inj (Option.some.inj h)
        exact .inr (.inl ⟨rfl, id, run, rfl, .inl hrun⟩)
      · obtain ⟨rfl, rfl⟩ := Prod.mk.inj (Option.some.inj h)
        exact .inl ⟨rfl, by simp⟩
  | returned response => exact absurd h (by simp [advance])
  | raised error => exact absurd h (by simp [advance])

end BookRunPhase

end StoryForge
