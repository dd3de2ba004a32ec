import StoryForge.Books.Scheduler
import StoryForge.Books.Usage
import StoryForge.Library.Dict
import StoryForge.Workflows.Jobs

/-!
# `BookWorkflowApplicationService`: the transactions

`execute` advances a book run from its committed state: it schedules the chapters one after
the other, runs the workflow of each and records it as a child job, and then has the book
analysed. This module has what the transactions of `execute`, of the handler around it and of
`BookRunService` write.

## Main results

* `BookWorkflowApplicationService.updateUsage_recorded` — what `_update_usage` records;
* `BookRunService.resumeRun_eq_ok` — a request to resume changes nothing but the limits and
  where the book run stands; the other control functions change the latter only.
-/

namespace StoryForge

/-! ### Rows and settings -/

/-- The settings and services of the book workflow. `roundedProgress` is the rounded share of
the completed chapters, computed in floating point, and `criticKey` the idempotency key of the
request that the critic makes for a snapshot. -/
structure BookWorkflowSettings extends Settings where
  services : StoryServices
  bookChapterConcurrency : ℕ
  bookGlobalCheckInterval : ℕ
  roundedProgress : ℕ → ℕ → ℕ
  criticKey : StoryDatabase → List (ℕ × ℕ) → String
  bookChapterConcurrency_range : 1 ≤ bookChapterConcurrency ∧ bookChapterConcurrency ≤ 4
  bookGlobalCheckInterval_range : 1 ≤ bookGlobalCheckInterval ∧ bookGlobalCheckInterval ≤ 20

/-- A child job: the workflow run of a chapter, with the status it returned. -/
structure BookChildJob where
  chapterId : ℕ
  chapterNumber : ℕ
  workflowRunId : ℕ
  status : WorkflowRunStatus
  deriving DecidableEq, Repr

/-- Lifecycle of an immutable chapter-version mapping. -/
inductive BookSnapshotStatus
  | candidate
  | reviewed
  | accepted
  | superseded
  | needsReview
  deriving DecidableEq, Repr

/-- A snapshot of the book run. -/
structure StoredSnapshot where
  chapterVersionMap : List (ℕ × ℕ)
  status : BookSnapshotStatus
  deriving DecidableEq, Repr

/-- What the evaluation of a snapshot says. -/
structure BookVerdict where
  passed : Bool
  recommendedAction : String
  blockingReasons : List String
  deriving DecidableEq, Repr

/-- The limits in the body of a request to resume a book run. -/
structure BookRunResumeRequest where
  maxEstimatedCost : Option Amount
  maxTotalTokens : Option ℕ
  maxProviderCalls : Option ℕ
  deriving DecidableEq, Repr

/-- The usage that a book run records. -/
def BookRun.recorded (run : BookRun) : BookUsage :=
  ⟨run.providerCalls, run.usedTokens, run.spentCost⟩

/-! ### Reads -/

namespace StoryDatabase

variable (story : StoryDatabase)

/-- The chapters of a project with their ids, by number. -/
def chaptersOf (projectId : ℕ) : List (ℕ × StoryChapter) :=
  ((story.chapters.zipIdx.map Prod.swap).filter fun row => row.2.projectId == projectId)
    |>.insertionSort fun a b => a.2.chapterNumber ≤ b.2.chapterNumber

/-- The numbers of the chapters of a project. -/
def chapterNumbers (projectId : ℕ) : List ℕ :=
  (story.chaptersOf projectId).map (·.2.chapterNumber)

/-- The numbers of the chapters of a project that have an accepted version. -/
def acceptedNumbers (projectId : ℕ) : List ℕ :=
  ((story.chaptersOf projectId).filter (·.2.acceptedVersionId.isSome)).map (·.2.chapterNumber)

/-- The latest active workflow run that satisfies a condition. -/
def latestActive (p : StoryRun → Bool) : Option ℕ :=
  (Rows.idsWhere story.runs fun run =>
    p run && ChapterWorkflowService.activeStatuses.contains run.status).getLast?

/-- `_effective_workflow_run_id` of a language model call for a chapter. -/
def languageWorkflow (projectId chapterNumber : ℕ) : Option ℕ :=
  (story.chapterByNumber projectId chapterNumber).bind fun chapterId =>
    story.latestActive fun run => run.projectId == projectId && run.chapterId == chapterId

/-- `_effective_workflow_run_id` of an embedding call. -/
def embeddingWorkflow (projectId : ℕ) : Option ℕ :=
  story.latestActive fun run => run.projectId == projectId

/-- `chapter_version_map` of a new snapshot, from the accepted versions. -/
def snapshotMap (projectId : ℕ) : Except Error (List (ℕ × ℕ)) :=
  (story.chaptersOf projectId).mapM fun row =>
    match row.2.acceptedVersionId with
    | some versionId => .ok (row.2.chapterNumber, versionId)
    | none => .error (.invalidStateError ("Chapter " ++ toString row.2.chapterNumber ++
        " has no accepted or best version"))

end StoryDatabase

namespace BookWorkflowApplicationService

open BookChapterScheduler (validatePlan)

/-! ### The chapter loop -/

/-- `_node`. -/
def node (name : String) (run : BookRun) : BookRun := { run with currentNode := name }

/-- `_initialize`. -/
def initializeRun (chapterNumbers : List ℕ) (run : BookRun) : Except Error BookRun :=
  match run.status with
  | .pending => do
      let run ← transitionBookRun run .planningValidation
      let run := node "initialize_book_run" run
      let _ ← validatePlan chapterNumbers none
      let run ← transitionBookRun run .generating
      return node "validate_plan" run
  | .planningValidation => do
      let _ ← validatePlan chapterNumbers none
      let run ← transitionBookRun run .generating
      return node "validate_plan" run
  | .paused | .budgetBlocked =>
      transitionBookRun run
        (if run.completedChapters = run.totalChapters then .globalReview else .generating)
  | .generating | .globalReview => .ok run
  | status => .error (.invalidStateError ("Book run in status " ++ status.value ++
      " cannot execute"))

/-- How many chapters have one of some marks. -/
def countMarks (statuses : List (ℕ × ChapterMark)) (marks : List ChapterMark) : ℕ :=
  (statuses.filter fun entry => marks.contains entry.2).length

/-- `_sync_already_accepted`. -/
def syncAlreadyAccepted (settings : BookWorkflowSettings) (story : StoryDatabase)
    (run : BookRun) : BookRun :=
  let statuses := (story.acceptedNumbers run.projectId).foldl
    (fun statuses number => Dict.set number .accepted statuses) run.chapterStatusMap
  let accepted := countMarks statuses [.accepted]
  let completed := accepted + countMarks statuses [.failed, .needsReview]
  { run with
    chapterStatusMap := statuses
    acceptedChapters := accepted
    completedChapters := completed
    progress := settings.roundedProgress completed run.totalChapters }

/-- `resuming_chapter`. -/
def resumingChapter (run : BookRun) : Option ℕ :=
  if run.workflowRunId.isSome then
    run.currentChapterNumber.filter fun number =>
      run.chapterStatusMap.lookup number == some .running
  else none

/-- What `execute` asks the scheduler. -/
def scheduleRequest (story : StoryDatabase) (run : BookRun) : ScheduleRequest where
  mode := run.mode
  chapterNumbers := story.chapterNumbers run.projectId
  chapterStatus := run.chapterStatusMap.map fun entry => (entry.1, entry.2.value)
  dependencies := none
  cancelRequested := run.status = .cancelRequested
  pauseRequested := false
  continueAfterNeedsReview := false

/-- The calls that the budget gate takes a chapter to make. -/
def estimatedCalls : ℕ := 5

/-- The tokens that the budget gate takes a chapter to use. -/
def estimatedTokens : ℕ := 30000

/-- Whether the budget gate blocks. -/
def overBudget (run : BookRun) : Bool :=
  decide (run.providerCalls + estimatedCalls > run.maxProviderCalls ∨
    run.usedTokens + estimatedTokens > run.maxTotalTokens ∨
    run.spentCost > run.maxEstimatedCost)

/-- What `_budget_gate` writes when it blocks. -/
def blockBudget (run : BookRun) : Except Error BookRun := do
  let run ← transitionBookRun run .budgetBlocked
  return node "budget_blocked"
    { run with blockingReasons := ["Book budget must be increased before continuing"] }

/-- `_mark_chapter_running`. -/
def markChapterRunning (chapterNumber : ℕ) (run : BookRun) : BookRun :=
  node ("schedule_chapter_" ++ toString chapterNumber)
    { run with
      chapterStatusMap := Dict.set chapterNumber .running run.chapterStatusMap
      currentChapterNumber := some chapterNumber }

/-- `_current_workflow`. -/
def currentWorkflow (chapterNumber : ℕ) (run : BookRun) : Option ℕ :=
  if run.currentChapterNumber = some chapterNumber then run.workflowRunId else none

/-- The child job of a completion, and the jobs with it: the one that is there, or a new one. -/
def childJob (chapterNumber workflowRunId : ℕ) (status : WorkflowRunStatus) (projectId : ℕ)
    (story : StoryDatabase) (children : List BookChildJob) :
    Except Error (ℕ × List BookChildJob) :=
  match children.findIdx? fun child =>
      child.chapterNumber == chapterNumber && child.workflowRunId == workflowRunId with
  | some id => .ok (id, children)
  | none =>
      match story.chapterByNumber projectId chapterNumber with
      | none => .error (.invalidStateError "Scheduled chapter disappeared")
      | some chapterId =>
          .ok (children.length, children ++ [⟨chapterId, chapterNumber, workflowRunId, status⟩])

/-- What `_record_chapter_completion` writes to the book run. -/
def recordCompletion (settings : BookWorkflowSettings) (chapterNumber childId : ℕ)
    (status : WorkflowRunStatus) (run : BookRun) : BookRun :=
  let statuses := Dict.set chapterNumber
    (if status = .completed then .accepted else .needsReview) run.chapterStatusMap
  let completed := countMarks statuses [.accepted, .failed, .needsReview]
  { run with
    chapterStatusMap := statuses
    chapterJobMap := Dict.set chapterNumber childId run.chapterJobMap
    workflowRunId := none
    completedChapters := completed
    acceptedChapters := countMarks statuses [.accepted]
    needsReviewChapters := countMarks statuses [.needsReview]
    progress := settings.roundedProgress completed run.totalChapters }

/-- The workflow runs whose usage `_update_usage` adds up. -/
def workflowIds (workflowRunId : ℕ) (children : List BookChildJob) : List ℕ :=
  let ids := children.map (·.workflowRunId)
  if ids.contains workflowRunId then ids else ids ++ [workflowRunId]

/-- Whether a call is attributed to one of some workflow runs. -/
def SucceededCall.isOf (ids : List ℕ) (call : SucceededCall) : Bool :=
  call.workflowRunId.any fun id => ids.contains id

/-- `_update_usage`. -/
def updateUsage (workflowRunId : ℕ) (children : List BookChildJob) (calls : List SucceededCall)
    (run : BookRun) : BookRun :=
  let own := usageWhere (SucceededCall.isOf [workflowRunId]) calls
  let aggregate := usageWhere (SucceededCall.isOf (workflowIds workflowRunId children)) calls
  { run with
    providerCalls := if aggregate.calls = 0 then own.calls else aggregate.calls
    usedTokens := if aggregate.tokens = 0 then own.tokens else aggregate.tokens
    spentCost := if aggregate.cost = 0 then own.cost else aggregate.cost }

/-- `_update_usage` records the usage of the workflow runs it adds up. -/
theorem updateUsage_recorded (workflowRunId : ℕ) (children : List BookChildJob)
    (calls : List SucceededCall) (run : BookRun) :
    (updateUsage workflowRunId children calls run).recorded =
      usageWhere (SucceededCall.isOf (workflowIds workflowRunId children)) calls := by
  have hsub : ∀ call ∈ calls, SucceededCall.isOf [workflowRunId] call = true →
      SucceededCall.isOf (workflowIds workflowRunId children) call = true := by
    intro call _ hcall
    obtain ⟨id, hid, hmem⟩ := Option.any_eq_true _ _ |>.mp hcall
    refine Option.any_eq_true _ _ |>.mpr ⟨id, hid, ?_⟩
    obtain rfl : id = workflowRunId := by simpa using hmem
    unfold workflowIds
    dsimp only
    split
    · assumption
    · simp
  obtain ⟨hcalls, htokens, hcost⟩ := usageWhere_le hsub
  have hnonneg := usageWhere_cost_nonneg (SucceededCall.isOf [workflowRunId]) calls
  unfold updateUsage BookRun.recorded
  ext
  · dsimp only
    split <;> omega
  · dsimp only
    split <;> omega
  · dsimp only
    split
    · rename_i hzero
      rw [hzero] at hcost ⊢
      exact Int.le_antisymm hcost hnonneg
    · rfl

/-! ### The review of the book -/

/-- `_set_global_review`. -/
def setGlobalReview (run : BookRun) : Except Error BookRun := do
  let run ← if run.status = .generating then transitionBookRun run .globalReview else .ok run
  return node "build_book_snapshot" { run with progress := 80 }

/-- `build_snapshot`: the snapshot of the accepted versions, and the snapshots with it. -/
def buildSnapshot (totalChapters projectId : ℕ) (story : StoryDatabase)
    (snapshots : List StoredSnapshot) : Except Error (ℕ × List StoredSnapshot) :=
  if (story.chaptersOf projectId).length ≠ totalChapters then
    .error (.invalidStateError "Book snapshot requires every planned chapter")
  else do
    let mapping ← story.snapshotMap projectId
    match snapshots.findIdx? fun snapshot => snapshot.chapterVersionMap == mapping with
    | some id => return (id, snapshots)
    | none => return (snapshots.length, snapshots ++ [⟨mapping, .candidate⟩])

/-- `accept_snapshot`. -/
def acceptSnapshot (snapshotId : ℕ) (needsReview : Bool) (snapshots : List StoredSnapshot) :
    Except Error (List StoredSnapshot) :=
  if snapshotId < snapshots.length then
    if needsReview then .ok (snapshots.modify snapshotId ({ · with status := .needsReview }))
    else
      .ok ((snapshots.map fun row =>
        if row.status = .accepted then { row with status := .superseded } else row).modify
          snapshotId ({ · with status := .accepted }))
  else .error (.entityNotFoundError ("Book snapshot " ++ toString snapshotId ++ " was not found"))

/-- The first transaction of `_handle_revision_or_review`; whether the book is revised. -/
def routeReview (verdict : BookVerdict) (run : BookRun) : Except Error (Bool × BookRun) :=
  if verdict.recommendedAction ≠ "targeted_revision" ∨
      run.currentGlobalRevisionRound ≥ run.maxGlobalRevisionRounds then do
    let run ← transitionBookRun run .completedNeedsReview
    return (false, { run with blockingReasons := verdict.blockingReasons, progress := 100 })
  else do
    let run ← transitionBookRun run .globalRevision
    return (true, node "build_revision_plan"
      { run with currentGlobalRevisionRound := run.currentGlobalRevisionRound + 1 })

/-- `_finish_completed`. -/
def finishCompleted (run : BookRun) : Except Error BookRun := do
  let run ← transitionBookRun run .completed
  return node "accept_book_snapshot" { run with progress := 100, blockingReasons := [] }

/-- `_finish_needs_review`. -/
def finishNeedsReview (blockers : List String) (run : BookRun) : Except Error BookRun := do
  let run ←
    if run.status ∈ [.completedNeedsReview, .completed] then .ok run
    else transitionBookRun run .completedNeedsReview
  return node "mark_book_needs_review" { run with progress := 100, blockingReasons := blockers }

/-- `_record_periodic_check`. -/
def recordPeriodicCheck (critical : Bool) (run : BookRun) : Except Error BookRun :=
  let run := node "periodic_global_check" run
  if critical then do
    let run ← transitionBookRun run .paused
    return { run with
      blockingReasons := ["A critical periodic timeline conflict requires review"] }
  else .ok run

end BookWorkflowApplicationService

/-! ### `BookRunService`: control -/

namespace BookRunService

/-- `mark_paused`. -/
def markPaused (run : BookRun) : Except Error BookRun :=
  if run.status ∈ terminalBookRunStatuses ∨ run.status = .budgetBlocked then .ok run
  else transitionBookRun run .paused

/-- `mark_cancelled`. -/
def markCancelled (run : BookRun) : Except Error BookRun :=
  if run.status ∈ terminalBookRunStatuses then .ok run
  else do
    let run ← if run.status = .cancelRequested then .ok run
      else transitionBookRun run .cancelRequested
    transitionBookRun run .cancelled

/-- `mark_failed`, with the code and the message of the exception. -/
def markFailed (code message : String) (run : BookRun) : Except Error BookRun :=
  if run.status ∈ terminalBookRunStatuses then .ok run
  else do
    let run ← transitionBookRun run .failed
    return { run with
      currentNode := "fail_book_run"
      errorCode := some code
      errorMessage := some message }

/-- The new limits of a request to resume. -/
def resumeLimits (request : BookRunResumeRequest) (run : BookRun) : Except Error BookRun :=
  if request.maxEstimatedCost.any fun limit => decide (limit < run.spentCost) then
    .error (.invalidStateError "New book cost limit is below already spent cost")
  else if request.maxTotalTokens.any fun limit => decide (limit < run.usedTokens) then
    .error (.invalidStateError "New token limit is below already used tokens")
  else if request.maxProviderCalls.any fun limit => decide (limit < run.providerCalls) then
    .error (.invalidStateError "New call limit is below already used calls")
  else
    .ok { run with
      maxEstimatedCost := request.maxEstimatedCost.getD run.maxEstimatedCost
      maxTotalTokens := request.maxTotalTokens.getD run.maxTotalTokens
      maxProviderCalls := request.maxProviderCalls.getD run.maxProviderCalls }

/-- The transaction of `resume`. -/
def resumeRun (request : Option BookRunResumeRequest) (run : BookRun) : Except Error BookRun :=
  if run.status ∉ [.paused, .budgetBlocked] then
    .error (.invalidStateError "Only paused or budget-blocked BookRuns can resume")
  else if run.jobId.isNone then .error (.invalidStateError "BookRun has no top-level Job")
  else do
    let run ← match request with
      | some request => resumeLimits request run
      | none => .ok run
    transitionBookRun run
      (if run.currentNode = "pending" then .planningValidation
      else if run.completedChapters = run.totalChapters then .globalReview
      else .generating)

/-- The first transaction of `request_cancel`. -/
def requestCancelRun (run : BookRun) : Except Error BookRun :=
  if run.status ∈ terminalBookRunStatuses then
    .error (.invalidStateError ("BookRun in status " ++ run.status.value ++
      " cannot be cancelled"))
  else if run.status ∈ [.paused, .budgetBlocked] then transitionBookRun run .cancelled
  else transitionBookRun run .cancelRequested

/-- The second transaction of `request_cancel`, once the job is cancelled. -/
def confirmCancelRun (run : BookRun) : Except Error BookRun :=
  if run.status = .cancelRequested then transitionBookRun run .cancelled else .ok run

end BookRunService

/-! ### What the control of a book run keeps -/

/-- A book run without the columns that say where it stands. The others are written by the
chapter loop and by a request to resume. -/
def BookRun.lasting (run : BookRun) : BookRun :=
  { run with
    status := .pending
    currentNode := ""
    blockingReasons := []
    progress := 0
    currentGlobalRevisionRound := 0
    errorCode := none
    errorMessage := none }

namespace BookRun

variable {run run' : BookRun}

theorem lasting_transition {target : BookRunStatus}
    (h : transitionBookRun run target = .ok run') : run'.lasting = run.lasting := by
  obtain ⟨rfl, -⟩ := transitionBookRun_eq_ok.mp h
  rfl

/-- A transition followed by a write to the other columns. -/
theorem lasting_transition_bind {target : BookRunStatus} {write : BookRun → Except Error BookRun}
    (h : (transitionBookRun run target >>= write) = .ok run')
    (hwrite : ∀ moved, write moved = .ok run' → run'.lasting = moved.lasting) :
    run'.lasting = run.lasting := by
  obtain ⟨moved, hmoved, hrun⟩ := Except.bind_eq_ok.mp h
  exact (hwrite moved hrun).trans (lasting_transition hmoved)

end BookRun

namespace BookWorkflowApplicationService

variable {run run' : BookRun}

theorem initializeRun_lasting {chapterNumbers : List ℕ}
    (h : initializeRun chapterNumbers run = .ok run') : run'.lasting = run.lasting := by
  unfold initializeRun at h
  split at h
  · obtain ⟨first, hfirst, h⟩ := Except.bind_eq_ok.mp h
    obtain ⟨_, -, h⟩ := Except.bind_eq_ok.mp h
    have hmoved : first.lasting = run.lasting := BookRun.lasting_transition hfirst
    exact (BookRun.lasting_transition_bind h fun _ h => by cases h; rfl).trans hmoved
  · obtain ⟨_, -, h⟩ := Except.bind_eq_ok.mp h
    exact BookRun.lasting_transition_bind h fun _ h => by cases h; rfl
  · exact BookRun.lasting_transition h
  · exact BookRun.lasting_transition h
  · cases h; rfl
  · cases h; rfl
  · exact absurd h (by simp)

theorem blockBudget_lasting (h : blockBudget run = .ok run') : run'.lasting = run.lasting :=
  BookRun.lasting_transition_bind h fun _ h => by cases h; rfl

theorem setGlobalReview_lasting (h : setGlobalReview run = .ok run') :
    run'.lasting = run.lasting := by
  unfold setGlobalReview at h
  split at h
  · exact BookRun.lasting_transition_bind h fun _ h => by cases h; rfl
  · cases h; rfl

theorem recordPeriodicCheck_lasting {critical : Bool}
    (h : recordPeriodicCheck critical run = .ok run') : run'.lasting = run.lasting := by
  unfold recordPeriodicCheck at h
  dsimp only at h
  split at h
  · have hnode : (node "periodic_global_check" run).lasting = run.lasting := rfl
    exact (BookRun.lasting_transition_bind h fun _ h => by cases h; rfl).trans hnode
  · cases h; rfl

theorem routeReview_lasting {verdict : BookVerdict} {revised : Bool}
    (h : routeReview verdict run = .ok (revised, run')) : run'.lasting = run.lasting := by
  unfold routeReview at h
  split at h
  all_goals
    obtain ⟨moved, hmoved, h⟩ := Except.bind_eq_ok.mp h
    have hlasting : moved.lasting = run.lasting := BookRun.lasting_transition hmoved
    cases h
    exact hlasting

theorem finishCompleted_lasting (h : finishCompleted run = .ok run') :
    run'.lasting = run.lasting :=
  BookRun.lasting_transition_bind h fun _ h => by cases h; rfl

theorem finishNeedsReview_lasting {blockers : List String}
    (h : finishNeedsReview blockers run = .ok run') : run'.lasting = run.lasting := by
  unfold finishNeedsReview at h
  split at h
  · cases h; rfl
  · exact BookRun.lasting_transition_bind h fun _ h => by cases h; rfl

end BookWorkflowApplicationService

namespace BookRunService

variable {run run' : BookRun}

theorem markPaused_lasting (h : markPaused run = .ok run') : run'.lasting = run.lasting := by
  unfold markPaused at h
  split at h
  · cases h; rfl
  · exact BookRun.lasting_transition h

theorem markCancelled_lasting (h : markCancelled run = .ok run') : run'.lasting = run.lasting := by
  unfold markCancelled at h
  split at h
  · cases h; rfl
  split at h
  · exact BookRun.lasting_transition h
  · obtain ⟨first, hfirst, h⟩ := Except.bind_eq_ok.mp h
    exact (BookRun.lasting_transition h).trans (BookRun.lasting_transition hfirst)

theorem markFailed_lasting {code message : String} (h : markFailed code message run = .ok run') :
    run'.lasting = run.lasting := by
  unfold markFailed at h
  split at h
  · cases h; rfl
  · exact BookRun.lasting_transition_bind h fun _ h => by cases h; rfl

theorem requestCancelRun_lasting (h : requestCancelRun run = .ok run') :
    run'.lasting = run.lasting := by
  unfold requestCancelRun at h
  split at h
  · exact absurd h (by simp)
  split at h
  · exact BookRun.lasting_transition h
  · exact BookRun.lasting_transition h

theorem confirmCancelRun_lasting (h : confirmCancelRun run = .ok run') :
    run'.lasting = run.lasting := by
  unfold confirmCancelRun at h
  split at h
  · exact BookRun.lasting_transition h
  · cases h; rfl

/-- The new limits of a request to resume are not below what the book run records. -/
theorem resumeLimits_eq_ok {request : BookRunResumeRequest}
    (h : resumeLimits request run = .ok run') :
    run' = { run with
      maxEstimatedCost := request.maxEstimatedCost.getD run.maxEstimatedCost
      maxTotalTokens := request.maxTotalTokens.getD run.maxTotalTokens
      maxProviderCalls := request.maxProviderCalls.getD run.maxProviderCalls } ∧
    (∀ limit ∈ request.maxEstimatedCost, run.spentCost ≤ limit) ∧
    (∀ limit ∈ request.maxTotalTokens, run.usedTokens ≤ limit) ∧
    ∀ limit ∈ request.maxProviderCalls, run.providerCalls ≤ limit := by
  unfold resumeLimits at h
  split at h
  · exact absurd h (by simp)
  rename_i hcost
  split at h
  · exact absurd h (by simp)
  rename_i htokens
  split at h
  · exact absurd h (by simp)
  rename_i hcalls
  refine ⟨(Except.ok.inj h).symm, fun limit hlimit => ?_, fun limit hlimit => ?_,
    fun limit hlimit => ?_⟩
  · rw [Option.mem_def.mp hlimit] at hcost
    simpa using hcost
  · rw [Option.mem_def.mp hlimit] at htokens
    simpa using htokens
  · rw [Option.mem_def.mp hlimit] at hcalls
    simpa using hcalls

/-- What a request to resume keeps: everything but the limits, none of which is then below what
the book run records. -/
theorem resumeRun_eq_ok {request : Option BookRunResumeRequest}
    (h : resumeRun request run = .ok run') :
    ∃ limited : BookRun, run'.lasting = limited.lasting ∧
      (limited = run ∨ ∃ limits, request = some limits ∧ resumeLimits limits run = .ok limited) := by
  unfold resumeRun at h
  split at h
  · exact absurd h (by simp)
  split at h
  · exact absurd h (by simp)
  cases request with
  | none => exact ⟨run, BookRun.lasting_transition h, .inl rfl⟩
  | some limits =>
      obtain ⟨limited, hlimited, h⟩ := Except.bind_eq_ok.mp h
      exact ⟨limited, BookRun.lasting_transition h, .inr ⟨limits, rfl, hlimited⟩⟩

end BookRunService

end StoryForge
