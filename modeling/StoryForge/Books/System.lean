import StoryForge.Books.Execution
import StoryForge.Workflows.Agreement

/-!
# Book runs as a machine

The executions of one book run, one after the other, on the committed state: each step is one
transaction of `execute` or of the handler around it, an execution may stop at any point, which
is a crash, and the next one starts from what is committed. The chapters are executed by the
graph of the chapter workflow. Users resume and cancel the book run in between, and everything
else that writes the story is `otherCode`.

A provider call that succeeds is a step of its own. It is attributed to the workflow run that
the gateway finds at that moment.

## Main results

* `BookExecution.step_cases` — everything that a transaction of an execution can do.
-/

namespace StoryForge

/-! ### States -/

/-- A chapter that is executed, in the chapter loop or for a global revision. `revision` are
the chapters that are to be revised after it. -/
structure ChapterTask where
  chapterNumber : ℕ
  revision : Option (List ℕ)
  deriving DecidableEq, Repr

/-- How an execution ends early. -/
inductive BookStop
  | paused
  | cancelled
  | failed (error : Error)
  deriving DecidableEq, Repr

/-- What follows the acceptance of a snapshot. -/
inductive AfterSnapshot
  | complete
  | close (blockers : List String)
  | finish
  deriving DecidableEq, Repr

/-- How far an execution of a book run is, by the transaction it makes next. -/
inductive BookPhase
  /-- No execution is in progress; the last one ended with an outcome or crashed. -/
  | idle (outcome : Option Outcome)
  /-- `check_control("initialize_book_run")`. -/
  | entering
  | initializing
  | syncing
  | deciding
  | gating (chapterNumber : ℕ)
  /-- The control callback before a chapter. -/
  | scheduled (chapterNumber : ℕ)
  | marking (chapterNumber : ℕ)
  /-- `_current_workflow`, and what becomes of it. -/
  | finding (chapterNumber : ℕ)
  | executing (task : ChapterTask) (graph : GraphExecution)
  | recording (task : ChapterTask) (workflowRunId : ℕ) (status : WorkflowRunStatus)
  | accounting (task : ChapterTask) (workflowRunId : ℕ) (status : WorkflowRunStatus)
  /-- The periodic check, with the control callback before it. -/
  | checking
  /-- `_set_global_review`, with the control callback before it. -/
  | reviewing
  | snapshotting (revised : Bool)
  /-- The analysis up to the claim of the critic's request. -/
  | requesting (revised : Bool) (snapshotId : ℕ)
  /-- The provider call of the critic. -/
  | criticizing (revised : Bool) (snapshotId : ℕ) (key : String)
  | persisting (revised : Bool) (snapshotId : ℕ) (verdict : BookVerdict)
  | accepting (snapshotId : ℕ) (next : AfterSnapshot)
  | completing
  | closing (blockers : List String)
  | routing (snapshotId : ℕ) (verdict : BookVerdict)
  /-- `build_revision_plan`. -/
  | planning
  /-- The transaction after the last targeted revision. -/
  | revisionsEnded
  /-- The exception handlers of `_run_book`. -/
  | stopping (stop : BookStop)

namespace BookPhase

/-- The phases outside of the chapters. -/
def Plain : BookPhase → Prop
  | .scheduled _ | .marking _ | .finding _ => False
  | .executing _ _ | .recording _ _ _ | .accounting _ _ _ => False
  | _ => True

/-- The phases after an analysis of the book. -/
def Late : BookPhase → Prop
  | .persisting _ _ _ | .accepting _ _ | .completing | .routing _ _ | .planning => True
  | .revisionsEnded => True
  | .snapshotting revised | .requesting revised _ | .criticizing revised _ _ => revised = true
  | .executing task _ | .recording task _ _ | .accounting task _ _ => task.revision.isSome = true
  | _ => False

end BookPhase

/-- The committed state, and how far the execution in progress is. `topWorkflow` is the workflow
run that the top job is linked to, `critiques` are the requests of the critic that are claimed
or answered, and `cached` those that the execution in progress has an answer to. -/
structure BookExecution where
  story : StoryDatabase
  checkpoints : ℕ → Option Checkpoint
  run : BookRun
  topWorkflow : Option ℕ
  children : List BookChildJob
  calls : List SucceededCall
  snapshots : List StoredSnapshot
  critiques : List String
  cached : List String
  phase : BookPhase

/-- What the outside decides at a step. -/
inductive BookInput
  | proceed
  | pauseRequested
  | cancelRequested
  | node (input : NodeInput)
  /-- Whether the periodic check finds a critical conflict. -/
  | checked (critical : Bool)
  /-- The provider call of the critic succeeds; what follows from the answer. -/
  | criticized (totalTokens : ℕ) (estimatedCost : Option ℕ) (verdict : BookVerdict)
  /-- What follows from an answer that is cached. -/
  | judged (verdict : BookVerdict)
  /-- The chapters of a revision plan. -/
  | planned (chapterNumbers : List ℕ)
  | failed (error : Error)

/-- Who makes a provider call for a chapter. -/
inductive CallPurpose
  | language
  | embedding
  deriving DecidableEq, Repr

/-- What happens next. -/
inductive BookAction
  | start
  | step (input : BookInput)
  | crash
  /-- A provider call of the chapter in progress succeeds. -/
  | call (purpose : CallPurpose) (totalTokens : ℕ) (estimatedCost : Option ℕ)
  /-- A provider call of somebody else succeeds. -/
  | otherCall (workflowRunId : Option ℕ) (totalTokens : ℕ) (estimatedCost : Option ℕ)
  | resume (request : Option BookRunResumeRequest)
  | requestCancel
  | confirmCancel
  | markPaused
  | otherCode (story : StoryDatabase)

/-- The exception that ends an execution, as the handlers of `_run_book` see it. -/
def BookStop.ofError (error : Error) : BookStop :=
  if error.className = "JobPauseRequested" then .paused
  else if error.className = "JobCancellationRequested" then .cancelled
  else .failed error

/-- The row of a call that succeeded. -/
def SucceededCall.new (workflowRunId : Option ℕ) (totalTokens : ℕ) (estimatedCost : Option ℕ)
    (forRun : Bool) : SucceededCall where
  workflowRunId := workflowRunId
  totalTokens := totalTokens
  estimatedCost := estimatedCost.map Int.ofNat
  forRun := forRun
  estimatedCost_nonneg cost hcost := by
    obtain ⟨amount, -, rfl⟩ := Option.mem_map.mp hcost
    exact Int.natCast_nonneg amount

namespace BookExecution

open BookWorkflowApplicationService

/-! ### Transactions of an execution -/

/-- Go on with a phase. -/
def goto (s : BookExecution) (phase : BookPhase) : BookExecution := { s with phase }

/-- An exception. -/
def raise (s : BookExecution) (error : Error) : BookExecution :=
  s.goto (.stopping (.ofError error))

/-- A transaction on the book run, or the exception that rolled it back. -/
def commit (s : BookExecution) (result : Except Error BookRun) (phase : BookPhase) :
    BookExecution :=
  match result with
  | .ok run => { s with run, phase }
  | .error error => s.raise error

/-- Whether an execution is in progress. -/
def Active (s : BookExecution) : Prop :=
  match s.phase with
  | .idle _ => False
  | _ => True

instance (s : BookExecution) : Decidable s.Active := by
  unfold Active; split <;> infer_instance

/-- The decision of the chapter loop, after it has read the committed state. -/
def decideNext (settings : BookWorkflowSettings) (s : BookExecution) : BookPhase :=
  match resumingChapter s.run with
  | some chapterNumber => .scheduled chapterNumber
  | none =>
      match BookChapterScheduler.decide settings.bookChapterConcurrency
          (scheduleRequest s.story s.run) with
      | .error error => .stopping (.ofError error)
      | .ok decision =>
          match decision.action, decision.chapterNumber with
          | .cancel, _ => .stopping .cancelled
          | .humanReview, _ => .closing [decision.reason]
          | .wait, _ => .stopping (.failed (.invalidStateError decision.reason))
          | .complete, _ => .reviewing
          | _, some chapterNumber => .gating chapterNumber
          | _, none => .stopping (.failed (.invalidStateError
              "Scheduler returned no chapter to execute"))

/-- `_budget_gate`. -/
def gate (s : BookExecution) (chapterNumber : ℕ) : BookExecution :=
  if overBudget s.run then s.commit (blockBudget s.run) (.stopping .paused)
  else s.goto (.scheduled chapterNumber)

/-- The call of `run` for a chapter. -/
def startChapter (s : BookExecution) (task : ChapterTask) : BookExecution :=
  if h : s.run.maxChapterRetries ≤ 10 then
    s.goto (.executing task (.start
      { projectId := s.run.projectId
        chapterNumber := task.chapterNumber
        operation := if task.revision.isSome then .targetedRevision else .generate
        maxRevisionAttempts := s.run.maxChapterRetries
        pauseAfter := none
        maxRevisionAttempts_le := h }))
  else s.raise (.other "ValidationError" "max_revision_attempts")

/-- The rest of `_execute_chapter` before the workflow runs: a new workflow run, the paused one,
or the result of one that is completed. -/
def findWorkflow (s : BookExecution) (chapterNumber : ℕ) : Option BookExecution :=
  let task : ChapterTask := ⟨chapterNumber, none⟩
  match currentWorkflow chapterNumber s.run with
  | none => some (s.startChapter task)
  | some id =>
      match ChapterWorkflowService.status
          (.entityNotFoundError ("Workflow run " ++ toString id ++ " was not found")) (some id)
          s.story with
      | .error error => some (s.raise error)
      | .ok status =>
          if status = .paused then
            match ChapterWorkflowService.resume id s.story, s.checkpoints id with
            | .ok story, some checkpoint =>
                some { s with story, phase := .executing task (.restart id checkpoint) }
            | .ok _, none => none
            | .error error, _ => some (s.raise error)
          else if status ∈ ChapterWorkflowService.completedStatuses then some (s.goto (.recording task id status))
          else some (s.raise (.invalidStateError ("Chapter workflow " ++ toString id ++
            " is not safely resumable")))

/-- What `execute` makes of the status of a chapter. -/
def afterChapter (settings : BookWorkflowSettings) (chapterNumber : ℕ) :
    WorkflowRunStatus → BookPhase
  | .completedNeedsReview =>
      .closing ["Chapter " ++ toString chapterNumber ++ " requires human review"]
  | .paused => .stopping .paused
  | .completed =>
      if chapterNumber % settings.bookGlobalCheckInterval = 0 then .checking else .syncing
  | status => .stopping (.failed (.invalidStateError ("Chapter " ++ toString chapterNumber ++
      " workflow ended in status " ++ status.value)))

/-- The next targeted revision, or the end of the revisions. -/
def nextRevision (s : BookExecution) : List ℕ → BookExecution
  | [] => s.goto .revisionsEnded
  | chapterNumber :: rest => s.startChapter ⟨chapterNumber, some rest⟩

/-- What follows the status that the workflow of a chapter returned. -/
def afterWorkflow (settings : BookWorkflowSettings) (task : ChapterTask) (workflowRunId : ℕ)
    (status : WorkflowRunStatus) : BookPhase :=
  match task.revision with
  | none =>
      if status = .paused then afterChapter settings task.chapterNumber status
      else .recording task workflowRunId status
  | some _ =>
      if status = .completed then .recording task workflowRunId status
      else .stopping (.failed (.invalidStateError
        "Targeted chapter revision did not produce an accepted version"))

/-- Whether the graph of a chapter gets an input: a targeted revision has no control callback,
and all others stop at it. -/
def controlled (task : ChapterTask) : NodeInput → Bool
  | .pauseRequested | .cancelRequested => task.revision.isNone
  | _ => true

/-- `_link_workflow`, in the transaction that begins the run. -/
def link (s : BookExecution) (workflowRunId : ℕ) : BookExecution :=
  { s with
    run := { s.run with workflowRunId := some workflowRunId }
    topWorkflow := if s.run.jobId.isSome then some workflowRunId else s.topWorkflow }

/-- A committed step of the graph of a chapter. -/
def advanced (s : BookExecution) (task : ChapterTask) (result : WorkflowSystem.StepResult) :
    BookExecution :=
  { s with
    story := result.db
    phase := .executing task result.graph
    checkpoints :=
      match result.graph.runId, result.checkpoint with
      | some runId, some checkpoint => Function.update s.checkpoints runId (some checkpoint)
      | _, _ => s.checkpoints }

/-- A step of the chapter in progress. -/
def executeChapter (settings : BookWorkflowSettings) (s : BookExecution) (task : ChapterTask)
    (graph : GraphExecution) (input : NodeInput) : Option BookExecution :=
  match graph.phase, graph.runId with
  | .ended (.ok status), some id => some (s.goto (afterWorkflow settings task id status))
  | .ended (.error error), _ => some (s.raise error)
  | _, _ =>
      if controlled task input then
        (WorkflowSystem.advance settings.services graph input s.story).map fun result =>
          match WorkflowJobSystem.begun graph input result with
          | none => s.advanced task result
          | some id => (s.advanced task result).link id
      else none

/-- `_record_chapter_completion`. -/
def record (settings : BookWorkflowSettings) (s : BookExecution) (task : ChapterTask)
    (workflowRunId : ℕ) (status : WorkflowRunStatus) : BookExecution :=
  match childJob task.chapterNumber workflowRunId status s.run.projectId s.story s.children with
  | .error error => s.raise error
  | .ok (childId, children) =>
      { s with
        run := recordCompletion settings task.chapterNumber childId status s.run
        topWorkflow := if s.run.jobId.isSome then none else s.topWorkflow
        children
        phase := .accounting task workflowRunId status }

/-- `_update_usage`, and how the execution goes on. -/
def account (settings : BookWorkflowSettings) (s : BookExecution) (task : ChapterTask)
    (workflowRunId : ℕ) (status : WorkflowRunStatus) : BookExecution :=
  let s := { s with run := updateUsage workflowRunId s.children s.calls s.run }
  match task.revision with
  | some rest => s.nextRevision rest
  | none => s.goto (afterChapter settings task.chapterNumber status)

/-- `build_snapshot`. -/
def snapshot (s : BookExecution) (revised : Bool) : BookExecution :=
  match buildSnapshot s.run.totalChapters s.run.projectId s.story s.snapshots with
  | .error error => s.raise error
  | .ok (id, snapshots) => { s with snapshots, phase := .requesting revised id }

/-- The idempotency key of the critic's request for a snapshot. -/
def criticKey (settings : BookWorkflowSettings) (s : BookExecution) (snapshotId : ℕ) : String :=
  settings.criticKey s.story ((s.snapshots[snapshotId]?.map (·.chapterVersionMap)).getD [])

/-- The claim of the critic's request, unless there is a cached answer. A request that is
claimed or answered elsewhere conflicts. -/
def claimCritique (settings : BookWorkflowSettings) (s : BookExecution) (revised : Bool)
    (snapshotId : ℕ) : Option BookExecution :=
  let key := s.criticKey settings snapshotId
  if key ∈ s.cached then none
  else if key ∈ s.critiques then
    some (s.raise (.idempotencyConflictError
      "Completed provider result must be reused through its persisted domain artifact"))
  else
    some { s with critiques := key :: s.critiques, phase := .criticizing revised snapshotId key }

/-- The provider call of the critic succeeds. -/
def criticize (s : BookExecution) (revised : Bool) (snapshotId : ℕ) (key : String)
    (totalTokens : ℕ) (estimatedCost : Option ℕ) (verdict : BookVerdict) : BookExecution :=
  { s with
    calls := s.calls ++ [.new none totalTokens estimatedCost true]
    cached := key :: s.cached
    phase := .persisting revised snapshotId verdict }

/-- What follows the evaluation of a snapshot. -/
def afterAnalysis (revised : Bool) (snapshotId : ℕ) (verdict : BookVerdict) : BookPhase :=
  if verdict.passed then .accepting snapshotId .complete
  else if revised then .accepting snapshotId (.close verdict.blockingReasons)
  else .routing snapshotId verdict

/-- `accept_snapshot`. -/
def accept (s : BookExecution) (snapshotId : ℕ) (next : AfterSnapshot) : BookExecution :=
  match acceptSnapshot snapshotId (decide (next ≠ .complete)) s.snapshots with
  | .error error => s.raise error
  | .ok snapshots =>
      { s with
        snapshots
        phase :=
          match next with
          | .complete => .completing
          | .close blockers => .closing blockers
          | .finish => .idle (some (.returned s.run.status.value)) }

/-- The first transaction of `_handle_revision_or_review`. -/
def route (s : BookExecution) (snapshotId : ℕ) (verdict : BookVerdict) : BookExecution :=
  match routeReview verdict s.run with
  | .error error => s.raise error
  | .ok (true, run) => { s with run, phase := .planning }
  | .ok (false, run) => { s with run, phase := .accepting snapshotId .finish }

/-- A transaction after which `execute` returns. -/
def finish (s : BookExecution) (result : Except Error BookRun) : BookExecution :=
  match result with
  | .error error => s.raise error
  | .ok run => { s with run, phase := .idle (some (.returned run.status.value)) }

/-- The exception handlers of `_run_book`, and the exception that they pass on. -/
def conclude (settings : BookWorkflowSettings) (s : BookExecution) (stop : BookStop) :
    BookExecution :=
  let (result, outcome) : Except Error BookRun × Outcome :=
    match stop with
    | .paused => (BookRunService.markPaused s.run, .paused)
    | .cancelled => (BookRunService.markCancelled s.run, .cancelled)
    | .failed error =>
        let (code, message) := JobService.safeError settings.toSettings error.raised
        (BookRunService.markFailed code message s.run, error.outcome)
  match result with
  | .ok run => { s with run, phase := .idle (some outcome) }
  | .error error => s.goto (.idle (some error.outcome))

/-- The control callback raises. -/
def interrupt (s : BookExecution) : BookInput → Option BookExecution
  | .pauseRequested => some (s.goto (.stopping .paused))
  | .cancelRequested => some (s.goto (.stopping .cancelled))
  | _ => none

/-- The next transaction of the execution in progress. -/
def step (settings : BookWorkflowSettings) (s : BookExecution) (input : BookInput) :
    Option BookExecution :=
  match s.phase, input with
  | .idle _, _ => none
  | .entering, .proceed => some (s.goto .initializing)
  | .entering, .pauseRequested => some (s.goto (.idle (some .paused)))
  | .entering, .cancelRequested => some (s.goto (.idle (some .cancelled)))
  | .entering, .failed error => some (s.goto (.idle (some error.outcome)))
  | .executing task graph, .node input => executeChapter settings s task graph input
  | .executing _ _, _ => none
  | .stopping stop, .proceed => some (conclude settings s stop)
  | .stopping _, .failed error => some (s.goto (.idle (some error.outcome)))
  | .criticizing _ _ key, .failed error =>
      some ({ s with critiques := s.critiques.erase key }.raise error)
  | _, .failed error => some (s.raise error)
  | .initializing, .proceed =>
      some (s.commit (initializeRun (s.story.chapterNumbers s.run.projectId) s.run) .syncing)
  | .syncing, .proceed =>
      some { s with run := syncAlreadyAccepted settings s.story s.run, phase := .deciding }
  | .deciding, .proceed => some (s.goto (decideNext settings s))
  | .gating chapterNumber, .proceed => some (s.gate chapterNumber)
  | .scheduled chapterNumber, .proceed => some (s.goto (.marking chapterNumber))
  | .scheduled _, input => s.interrupt input
  | .marking chapterNumber, .proceed =>
      some { s with
        run := markChapterRunning chapterNumber s.run
        phase := .finding chapterNumber }
  | .finding chapterNumber, .proceed => s.findWorkflow chapterNumber
  | .recording task workflowRunId status, .proceed =>
      some (s.record settings task workflowRunId status)
  | .accounting task workflowRunId status, .proceed =>
      some (s.account settings task workflowRunId status)
  | .checking, .checked critical =>
      some (s.commit (recordPeriodicCheck critical s.run)
        (if critical then .stopping .paused else .syncing))
  | .checking, input => s.interrupt input
  | .reviewing, .proceed => some (s.commit (setGlobalReview s.run) (.snapshotting false))
  | .reviewing, input => s.interrupt input
  | .snapshotting revised, .proceed => some (s.snapshot revised)
  | .requesting revised snapshotId, .proceed => s.claimCritique settings revised snapshotId
  | .requesting revised snapshotId, .judged verdict =>
      if s.criticKey settings snapshotId ∈ s.cached then
        some (s.goto (.persisting revised snapshotId verdict))
      else none
  | .requesting false _, input => s.interrupt input
  | .criticizing revised snapshotId key, .criticized totalTokens estimatedCost verdict =>
      some (s.criticize revised snapshotId key totalTokens estimatedCost verdict)
  | .persisting revised snapshotId verdict, .proceed =>
      some (s.goto (afterAnalysis revised snapshotId verdict))
  | .accepting snapshotId next, .proceed => some (s.accept snapshotId next)
  | .completing, .proceed => some (s.finish (finishCompleted s.run))
  | .closing blockers, .proceed => some (s.finish (finishNeedsReview blockers s.run))
  | .routing snapshotId verdict, .proceed => some (s.route snapshotId verdict)
  | .planning, .planned chapterNumbers => some (s.nextRevision chapterNumbers)
  | .revisionsEnded, .proceed =>
      some (s.commit (transitionBookRun s.run .globalReview) (.snapshotting true))
  | _, _ => none

/-! ### What a transaction can do -/

/-- Everything that a transaction of an execution can do. -/
inductive Moves (settings : BookWorkflowSettings) (s : BookExecution) :
    BookInput → BookExecution → Prop
  /-- A transaction outside of the chapters, or an exception. -/
  | plain {input : BookInput} (run : BookRun) (phase : BookPhase)
      (snapshots : List StoredSnapshot) (critiques : List String)
      (hrun : run.lasting = s.run.lasting) (hphase : phase.Plain)
      (hlate : phase.Late → s.phase.Late) :
      Moves settings s input { s with run, phase, snapshots, critiques }
  | judged {revised : Bool} {snapshotId : ℕ} (verdict : BookVerdict)
      (hphase : s.phase = .requesting revised snapshotId)
      (hcached : s.criticKey settings snapshotId ∈ s.cached) :
      Moves settings s (.judged verdict) (s.goto (.persisting revised snapshotId verdict))
  | criticized {revised : Bool} {snapshotId : ℕ} {key : String} (totalTokens : ℕ)
      (estimatedCost : Option ℕ) (verdict : BookVerdict)
      (hphase : s.phase = .criticizing revised snapshotId key) :
      Moves settings s (.criticized totalTokens estimatedCost verdict)
        (s.criticize revised snapshotId key totalTokens estimatedCost verdict)
  | synced (hphase : s.phase = .syncing) :
      Moves settings s .proceed
        { s with run := syncAlreadyAccepted settings s.story s.run, phase := .deciding }
  | resuming {chapterNumber : ℕ} (hphase : s.phase = .deciding)
      (hresuming : resumingChapter s.run = some chapterNumber) :
      Moves settings s .proceed (s.goto (.scheduled chapterNumber))
  | gated {chapterNumber : ℕ} (hphase : s.phase = .gating chapterNumber)
      (hbudget : overBudget s.run = false) :
      Moves settings s .proceed (s.goto (.scheduled chapterNumber))
  | approached {chapterNumber : ℕ} (hphase : s.phase = .scheduled chapterNumber) :
      Moves settings s .proceed (s.goto (.marking chapterNumber))
  | marked {chapterNumber : ℕ} (hphase : s.phase = .marking chapterNumber) :
      Moves settings s .proceed
        { s with
          run := markChapterRunning chapterNumber s.run
          phase := .finding chapterNumber }
  | began {chapterNumber : ℕ} {request : ChapterWorkflowRequest}
      (hphase : s.phase = .finding chapterNumber)
      (hcurrent : currentWorkflow chapterNumber s.run = none)
      (hproject : request.projectId = s.run.projectId)
      (hchapter : request.chapterNumber = chapterNumber) :
      Moves settings s .proceed (s.goto (.executing ⟨chapterNumber, none⟩ (.start request)))
  | resumed {chapterNumber id : ℕ} {checkpoint : Checkpoint} {story : StoryDatabase}
      (hphase : s.phase = .finding chapterNumber)
      (hcurrent : currentWorkflow chapterNumber s.run = some id)
      (hresume : ChapterWorkflowService.resume id s.story = .ok story)
      (hcheckpoint : s.checkpoints id = some checkpoint) :
      Moves settings s .proceed
        { s with story, phase := .executing ⟨chapterNumber, none⟩ (.restart id checkpoint) }
  | found {chapterNumber id : ℕ} {status : WorkflowRunStatus} {missing : Error}
      (hphase : s.phase = .finding chapterNumber)
      (hcurrent : currentWorkflow chapterNumber s.run = some id)
      (hstatus : ChapterWorkflowService.status missing (some id) s.story = .ok status) :
      Moves settings s .proceed (s.goto (.recording ⟨chapterNumber, none⟩ id status))
  | revising {task : ChapterTask} {request : ChapterWorkflowRequest}
      (hphase : s.phase = .planning) (hrevision : task.revision.isSome = true)
      (hproject : request.projectId = s.run.projectId)
      (hchapter : request.chapterNumber = task.chapterNumber) {input : BookInput} :
      Moves settings s input (s.goto (.executing task (.start request)))
  | advanced {task : ChapterTask} {graph : GraphExecution} {input : NodeInput}
      {result : WorkflowSystem.StepResult} (hphase : s.phase = .executing task graph)
      (hadvance : WorkflowSystem.advance settings.services graph input s.story = some result)
      (hbegun : WorkflowJobSystem.begun graph input result = none) :
      Moves settings s (.node input) (s.advanced task result)
  | linked {task : ChapterTask} {graph : GraphExecution} {input : NodeInput} {id : ℕ}
      {result : WorkflowSystem.StepResult} (hphase : s.phase = .executing task graph)
      (hadvance : WorkflowSystem.advance settings.services graph input s.story = some result)
      (hbegun : WorkflowJobSystem.begun graph input result = some id) :
      Moves settings s (.node input) ((s.advanced task result).link id)
  | returned {task : ChapterTask} {graph : GraphExecution} {input : BookInput} {id : ℕ}
      {status : WorkflowRunStatus} (hphase : s.phase = .executing task graph)
      (hgraph : graph.phase = .ended (.ok status)) (hid : graph.runId = some id) :
      Moves settings s input (s.goto (.recording task id status))
  | recorded {task : ChapterTask} {id childId : ℕ} {status : WorkflowRunStatus}
      {children : List BookChildJob} (hphase : s.phase = .recording task id status)
      (hchild : childJob task.chapterNumber id status s.run.projectId s.story s.children =
        .ok (childId, children)) :
      Moves settings s .proceed
        { s with
          run := recordCompletion settings task.chapterNumber childId status s.run
          topWorkflow := if s.run.jobId.isSome then none else s.topWorkflow
          children
          phase := .accounting task id status }
  | accounted {task : ChapterTask} {id : ℕ} {status : WorkflowRunStatus} (phase : BookPhase)
      (hphase : s.phase = .accounting task id status)
      (hnext : phase.Plain ∨ ∃ (next : ChapterTask) (request : ChapterWorkflowRequest),
        next.revision.isSome = true ∧ phase = .executing next (.start request) ∧
          request.projectId = s.run.projectId ∧ request.chapterNumber = next.chapterNumber)
      (hlate : phase.Late → s.phase.Late) :
      Moves settings s .proceed
        { s with run := updateUsage id s.children s.calls s.run, phase }

/-! ### The runs of the chapters -/

section Chapters

open WorkflowSystem

variable {services : StoryServices} {story : StoryDatabase} {graph : GraphExecution}
  {input : NodeInput} {result : StepResult}

/-- A graph without a run begins one, which is a new row, or goes on without. -/
theorem begun_of_none (h : advance services graph input story = some result)
    (hnone : graph.runId = none) :
    (WorkflowJobSystem.begun graph input result = none ∧ result.graph.runId = none ∧
      result.db.statuses = story.statuses) ∨
    (WorkflowJobSystem.begun graph input result = some story.runs.length ∧
      result.graph.runId = some story.runs.length ∧
        result.db.statuses = story.statuses ++ [.running]) := by
  rcases advance_spec_of_none h hnone with
    ⟨hresult, hstatuses⟩ | ⟨⟨hphase, rfl⟩, hresult, hstatuses, -⟩
  · refine .inl ⟨?_, hresult, hstatuses⟩
    unfold WorkflowJobSystem.begun
    split
    · exact hresult
    · rfl
  · rw [StoryDatabase.length_statuses] at hresult
    exact .inr ⟨by simp [WorkflowJobSystem.begun, hphase, hresult], hresult, hstatuses⟩

/-- A graph with a run keeps it. -/
theorem begun_of_some {r id : ℕ} (h : advance services graph input story = some result)
    (hrun : graph.runId = some r) (hr : r < story.runs.length)
    (hbegun : WorkflowJobSystem.begun graph input result = some id) : id = r := by
  have hresult := (advance_statuses h hrun hr).runId
  unfold WorkflowJobSystem.begun at hbegun
  split at hbegun
  · rw [hresult] at hbegun
    exact (Option.some.inj hbegun).symm
  · exact absurd hbegun (by simp)

/-- A step of a graph removes no run. -/
theorem length_runs_le_advance (h : advance services graph input story = some result)
    (hrun : ∀ r ∈ graph.runId, r < story.runs.length) :
    story.runs.length ≤ result.db.runs.length := by
  rw [← StoryDatabase.length_statuses story, ← StoryDatabase.length_statuses result.db]
  cases hid : graph.runId with
  | none =>
      rcases begun_of_none h hid with ⟨-, -, heq⟩ | ⟨-, -, heq⟩ <;> simp [heq]
  | some r =>
      rcases (advance_statuses h hid (hrun r hid)).statuses with heq | ⟨target, heq, -⟩ <;>
        simp [heq]

end Chapters

section Cases

variable {settings : BookWorkflowSettings} {s s' : BookExecution} {input : BookInput}

/-- A change of the phase alone. -/
theorem Moves.goto {phase : BookPhase} (hphase : phase.Plain)
    (hlate : phase.Late → s.phase.Late) : Moves settings s input (s.goto phase) :=
  .plain s.run phase s.snapshots s.critiques rfl hphase hlate

/-- An exception. -/
theorem Moves.raise (error : Error) : Moves settings s input (s.raise error) :=
  .goto trivial fun h => h.elim

/-- A transaction on the book run. -/
theorem Moves.commit {result : Except Error BookRun} {phase : BookPhase}
    (hrun : ∀ run, result = .ok run → run.lasting = s.run.lasting) (hphase : phase.Plain)
    (hlate : phase.Late → s.phase.Late) : Moves settings s input (s.commit result phase) := by
  cases result with
  | ok run => exact .plain run phase s.snapshots s.critiques (hrun run rfl) hphase hlate
  | error error => exact .raise error

/-- A transaction after which `execute` returns. -/
theorem Moves.finish {result : Except Error BookRun}
    (hrun : ∀ run, result = .ok run → run.lasting = s.run.lasting) :
    Moves settings s input (s.finish result) := by
  cases result with
  | ok run => exact .plain run _ s.snapshots s.critiques (hrun run rfl) trivial fun h => h.elim
  | error error => exact .raise error

/-- The control callback. -/
theorem Moves.interrupt (h : s.interrupt input = some s') : Moves settings s input s' := by
  unfold BookExecution.interrupt at h
  split at h
  · cases h; exact .goto trivial fun h => h.elim
  · cases h; exact .goto trivial fun h => h.elim
  · exact absurd h (by simp)

end Cases

section Cases

variable {settings : BookWorkflowSettings} {s s' : BookExecution} {input : BookInput}

/-- The decision of the chapter loop. -/
theorem Moves.decided (hphase : s.phase = .deciding) :
    Moves settings s .proceed (s.goto (decideNext settings s)) := by
  unfold decideNext
  split
  · rename_i chapterNumber hresuming
    exact .resuming hphase hresuming
  split
  · exact .goto trivial fun h => h.elim
  split <;> exact .goto trivial fun h => h.elim

/-- The budget gate. -/
theorem Moves.gate {chapterNumber : ℕ} (hphase : s.phase = .gating chapterNumber) :
    Moves settings s .proceed (s.gate chapterNumber) := by
  unfold BookExecution.gate
  split
  · exact .commit (fun run h => blockBudget_lasting h) trivial fun h => h.elim
  · rename_i hbudget
    exact .gated hphase (Bool.eq_false_iff.mpr hbudget)

/-- The call of `run` for a chapter starts a graph, or raises. -/
theorem startChapter_cases (s : BookExecution) (task : ChapterTask) :
    (∃ request : ChapterWorkflowRequest, request.projectId = s.run.projectId ∧
      request.chapterNumber = task.chapterNumber ∧
        s.startChapter task = s.goto (.executing task (.start request))) ∨
      ∃ error, s.startChapter task = s.raise error := by
  unfold startChapter
  split
  · exact .inl ⟨_, rfl, rfl, rfl⟩
  · exact .inr ⟨_, rfl⟩

/-- The transactions between the mark of a chapter and its workflow. -/
theorem Moves.findWorkflow {chapterNumber : ℕ} (hphase : s.phase = .finding chapterNumber)
    (h : s.findWorkflow chapterNumber = some s') : Moves settings s .proceed s' := by
  unfold BookExecution.findWorkflow at h
  dsimp only at h
  split at h
  · rename_i hcurrent
    cases h
    rcases startChapter_cases s ⟨chapterNumber, none⟩ with
      ⟨request, hproject, hchapter, heq⟩ | ⟨error, heq⟩
    · exact heq ▸ .began hphase hcurrent hproject hchapter
    · exact heq ▸ .raise error
  · rename_i id hcurrent
    split at h
    · cases h
      exact .raise _
    · rename_i status hstatus
      split at h
      · split at h
        · rename_i story checkpoint hresume hcheckpoint
          cases h
          exact .resumed hphase hcurrent hresume hcheckpoint
        · exact absurd h (by simp)
        · cases h
          exact .raise _
      · split at h
        · cases h
          exact .found hphase hcurrent hstatus
        · cases h
          exact .raise _

/-- A step of the chapter in progress. -/
theorem Moves.executeChapter {task : ChapterTask} {graph : GraphExecution} {input : NodeInput}
    (hphase : s.phase = .executing task graph)
    (h : s.executeChapter settings task graph input = some s') :
    Moves settings s (.node input) s' := by
  unfold BookExecution.executeChapter at h
  split at h
  · rename_i status id hgraph hid
    cases h
    unfold afterWorkflow
    split
    · split
      · rename_i hpaused
        rw [hpaused]
        exact .goto trivial fun h => h.elim
      · exact .returned hphase hgraph hid
    · split
      · exact .returned hphase hgraph hid
      · exact .goto trivial fun h => h.elim
  · cases h
    exact .raise _
  · split at h
    · obtain ⟨result, hadvance, rfl⟩ := Option.map_eq_some_iff.mp h
      split
      · rename_i hbegun
        exact .advanced hphase hadvance hbegun
      · rename_i id hbegun
        exact .linked hphase hadvance hbegun
    · exact absurd h (by simp)

/-- The bookkeeping after a chapter. -/
theorem Moves.account {task : ChapterTask} {id : ℕ} {status : WorkflowRunStatus}
    (hphase : s.phase = .accounting task id status) :
    Moves settings s .proceed (s.account settings task id status) := by
  unfold BookExecution.account
  dsimp only
  split
  · rename_i rest hrevision
    have hlate : s.phase.Late := by rw [hphase]; simp [BookPhase.Late, hrevision]
    cases rest with
    | nil => exact .accounted _ hphase (.inl trivial) fun _ => hlate
    | cons chapterNumber rest =>
        rcases startChapter_cases { s with run := updateUsage id s.children s.calls s.run }
            ⟨chapterNumber, some rest⟩ with ⟨request, hproject, hchapter, heq⟩ | ⟨error, heq⟩
        · rw [nextRevision, heq]
          exact .accounted _ hphase (.inr ⟨_, request, rfl, rfl, hproject, hchapter⟩) fun _ => hlate
        · rw [nextRevision, heq]
          exact .accounted _ hphase (.inl trivial) fun h => h.elim
  · refine .accounted _ hphase (.inl ?_) ?_
    · unfold afterChapter
      split
      · trivial
      · trivial
      · split <;> trivial
      · trivial
    · unfold afterChapter
      split
      · exact fun h => h.elim
      · exact fun h => h.elim
      · split <;> exact fun h => h.elim
      · exact fun h => h.elim

/-- The first targeted revision of a plan, or the end of the revisions. -/
theorem Moves.nextRevision (chapterNumbers : List ℕ) (hphase : s.phase = .planning) :
    Moves settings s input (s.nextRevision chapterNumbers) := by
  have hlate : s.phase.Late := by rw [hphase]; trivial
  cases chapterNumbers with
  | nil => exact .goto trivial fun _ => hlate
  | cons chapterNumber rest =>
      rw [BookExecution.nextRevision]
      rcases startChapter_cases s ⟨chapterNumber, some rest⟩ with
        ⟨request, hproject, hchapter, heq⟩ | ⟨error, heq⟩
      · exact heq ▸ .revising hphase rfl hproject hchapter
      · exact heq ▸ .raise error

/-- The exception handlers. -/
theorem Moves.conclude (stop : BookStop) : Moves settings s input (s.conclude settings stop) := by
  unfold BookExecution.conclude
  cases stop with
  | paused =>
      dsimp only
      split
      · rename_i run hrun
        exact .plain run _ s.snapshots s.critiques (BookRunService.markPaused_lasting hrun) trivial
          fun h => h.elim
      · exact .goto trivial fun h => h.elim
  | cancelled =>
      dsimp only
      split
      · rename_i run hrun
        exact .plain run _ s.snapshots s.critiques (BookRunService.markCancelled_lasting hrun)
          trivial fun h => h.elim
      · exact .goto trivial fun h => h.elim
  | failed error =>
      dsimp only
      split
      · rename_i run hrun
        exact .plain run _ s.snapshots s.critiques (BookRunService.markFailed_lasting hrun) trivial
          fun h => h.elim
      · exact .goto trivial fun h => h.elim

/-- **The step rule**: what a transaction of an execution does. -/
theorem step_cases (h : step settings s input = some s') : Moves settings s input s' := by
  unfold step at h
  split at h
  · exact absurd h (by simp)
  · cases h; exact .goto trivial fun h => h.elim
  · cases h; exact .goto trivial fun h => h.elim
  · cases h; exact .goto trivial fun h => h.elim
  · cases h; exact .goto trivial fun h => h.elim
  · rename_i task graph input hphase
    exact .executeChapter hphase h
  · exact absurd h (by simp)
  · rename_i stop hphase
    cases h; exact .conclude stop
  · cases h; exact .goto trivial fun h => h.elim
  · cases h; exact .plain s.run _ s.snapshots _ rfl trivial fun h => h.elim
  · cases h; exact .raise _
  · cases h; exact .commit (fun run h => initializeRun_lasting h) trivial fun h => h.elim
  · rename_i hphase
    cases h; exact .synced hphase
  · rename_i hphase
    cases h; exact .decided hphase
  · rename_i chapterNumber hphase
    cases h; exact .gate hphase
  · rename_i chapterNumber hphase
    cases h; exact .approached hphase
  · exact .interrupt h
  · rename_i chapterNumber hphase
    cases h; exact .marked hphase
  · rename_i chapterNumber hphase
    exact .findWorkflow hphase h
  · rename_i task id status hphase
    cases h
    unfold record
    split
    · exact .raise _
    · rename_i childId children hchild
      exact .recorded hphase hchild
  · rename_i task id status hphase
    cases h; exact .account hphase
  · rename_i critical hphase
    cases h
    refine .commit (fun run h => recordPeriodicCheck_lasting h) ?_ ?_
    · split <;> trivial
    · split <;> exact fun h => h.elim
  · exact .interrupt h
  · cases h; exact .commit (fun run h => setGlobalReview_lasting h) trivial (by simp [BookPhase.Late])
  · exact .interrupt h
  · rename_i revised hphase
    cases h
    unfold snapshot
    split
    · exact .raise _
    · refine .plain s.run _ _ s.critiques rfl trivial fun hlate => ?_
      rw [hphase]; exact hlate
  · rename_i revised snapshotId hphase
    unfold claimCritique at h
    dsimp only at h
    split at h
    · exact absurd h (by simp)
    split at h
    · cases h; exact .raise _
    · cases h
      refine .plain s.run _ s.snapshots _ rfl trivial fun hlate => ?_
      rw [hphase]; exact hlate
  · rename_i revised snapshotId verdict hphase
    split at h
    · rename_i hcached
      cases h; exact .judged verdict hphase hcached
    · exact absurd h (by simp)
  · exact .interrupt h
  · rename_i revised snapshotId key totalTokens estimatedCost verdict hphase
    cases h; exact .criticized totalTokens estimatedCost verdict hphase
  · rename_i revised snapshotId verdict hphase
    cases h
    have hlate : s.phase.Late := by rw [hphase]; trivial
    refine .goto ?_ fun _ => hlate
    unfold afterAnalysis
    split
    · trivial
    · split <;> trivial
  · rename_i snapshotId next hphase
    cases h
    have hlate : s.phase.Late := by rw [hphase]; trivial
    unfold accept
    split
    · exact .raise _
    · refine .plain s.run _ _ s.critiques rfl ?_ fun _ => hlate
      split <;> trivial
  · cases h; exact .finish fun run h => finishCompleted_lasting h
  · cases h; exact .finish fun run h => finishNeedsReview_lasting h
  · rename_i snapshotId verdict hphase
    cases h
    have hlate : s.phase.Late := by rw [hphase]; trivial
    unfold route
    split
    · exact .raise _
    · rename_i run hrun
      exact .plain run _ s.snapshots s.critiques (routeReview_lasting hrun) trivial fun _ => hlate
    · rename_i run hrun
      exact .plain run _ s.snapshots s.critiques (routeReview_lasting hrun) trivial fun _ => hlate
  · rename_i chapterNumbers hphase
    cases h; exact .nextRevision chapterNumbers hphase
  · rename_i hphase
    have hlate : s.phase.Late := by rw [hphase]; trivial
    cases h
    exact .commit (fun run h => BookRun.lasting_transition h) trivial fun _ => hlate
  · exact absurd h (by simp)

end Cases

/-! ### The machine -/

/-- `_effective_workflow_run_id` of a provider call that is made for a chapter. -/
def effectiveWorkflow (s : BookExecution) (task : ChapterTask) : CallPurpose → Option ℕ
  | .language => s.story.languageWorkflow s.run.projectId task.chapterNumber
  | .embedding => s.story.embeddingWorkflow s.run.projectId

/-- A provider call of the chapter in progress. -/
def call (s : BookExecution) (purpose : CallPurpose) (totalTokens : ℕ)
    (estimatedCost : Option ℕ) : Option BookExecution :=
  match s.phase with
  | .executing task _ =>
      some { s with
        calls := s.calls ++
          [.new (s.effectiveWorkflow task purpose) totalTokens estimatedCost true] }
  | _ => none

/-- A transaction of a user on the book run; one that raises changes nothing. -/
def change (s : BookExecution) (result : Except Error BookRun) : BookExecution :=
  match result with
  | .ok run => { s with run }
  | .error _ => s

/-- What other code keeps of the story: workflow runs and chapters stay what they are, a chapter
that has an accepted version keeps one, and a workflow run that becomes completed has accepted
a version of its chapter. -/
def continues (story story' : StoryDatabase) : Bool :=
  (story.runs.map fun run => (run.projectId, run.chapterId)).isPrefixOf
      (story'.runs.map fun run => (run.projectId, run.chapterId)) &&
    (story.chapters.map fun chapter => (chapter.projectId, chapter.chapterNumber)).isPrefixOf
      (story'.chapters.map fun chapter => (chapter.projectId, chapter.chapterNumber)) &&
    (story.chapters.zip story'.chapters).all (fun pair =>
      !pair.1.acceptedVersionId.isSome || pair.2.acceptedVersionId.isSome) &&
    story'.runs.zipIdx.all fun (run, id) =>
      run.status != .completed ||
        (story.runs[id]?.any fun old => old.status == .completed) ||
        (story'.chapters[run.chapterId]?.any fun chapter => chapter.acceptedVersionId.isSome)

/-- The effect of an action. -/
def next (settings : BookWorkflowSettings) (s : BookExecution) : BookAction → Option BookExecution
  | .start => if s.Active then none else some { s with phase := .entering, cached := [] }
  | .step input => step settings s input
  | .crash => if s.Active then some (s.goto (.idle none)) else none
  | .call purpose totalTokens estimatedCost => s.call purpose totalTokens estimatedCost
  | .otherCall workflowRunId totalTokens estimatedCost =>
      if workflowRunId.all (decide <| · < s.story.runs.length) then
        some { s with calls := s.calls ++ [.new workflowRunId totalTokens estimatedCost false] }
      else none
  | .resume request => some (s.change (BookRunService.resumeRun request s.run))
  | .requestCancel => some (s.change (BookRunService.requestCancelRun s.run))
  | .confirmCancel => some (s.change (BookRunService.confirmCancelRun s.run))
  | .markPaused => some (s.change (BookRunService.markPaused s.run))
  | .otherCode story => if continues s.story story then some { s with story } else none

/-- A story whose completed workflow runs have accepted a version of their chapter. -/
def Sound (story : StoryDatabase) : Prop :=
  ∀ run ∈ story.runs, run.status = .completed →
    ∃ chapter ∈ story.chapters[run.chapterId]?, chapter.acceptedVersionId.isSome = true

/-- A book run that was just created, on a story that is sound: nothing was executed or spent
for it. Calls that others made are attributed to workflow runs that exist. -/
structure Fresh (s : BookExecution) : Prop where
  status : s.run.status = .pending
  current : s.run.currentChapterNumber = none
  workflow : s.run.workflowRunId = none
  recorded : s.run.recorded = 0
  jobs : s.run.chapterJobMap = []
  planned : ∀ entry ∈ s.run.chapterStatusMap, entry.2 = .planned
  limits : 0 ≤ s.run.maxEstimatedCost
  children : s.children = []
  calls : ∀ call ∈ s.calls, call.forRun = false ∧
    ∀ id ∈ call.workflowRunId, id < s.story.runs.length
  critiques : s.critiques = []
  cached : s.cached = []
  phase : s.phase = .idle none
  sound : Sound s.story

/-- The executions of a book run, from its creation on. -/
def machine (settings : BookWorkflowSettings) : Machine BookExecution BookAction where
  init := Fresh
  next := next settings

/-! ### A small book -/

/-- Settings for a small book. -/
def sampleSettings : BookWorkflowSettings where
  toSettings := Settings.defaults
  services := WorkflowSystem.sampleServices
  bookChapterConcurrency := 1
  bookGlobalCheckInterval := 5
  roundedProgress completed total := completed * 75 / total
  criticKey _ _ := "critic"
  bookChapterConcurrency_range := by decide
  bookGlobalCheckInterval_range := by decide

/-- A book run that was just created, with a budget for one chapter of the estimated size. -/
def sampleRun (totalChapters : ℕ) : BookRun where
  projectId := 0
  status := .pending
  mode := .sequential
  idempotencyKey := "key"
  totalChapters := totalChapters
  completedChapters := 0
  acceptedChapters := 0
  failedChapters := 0
  needsReviewChapters := 0
  currentChapterNumber := none
  maxChapterRetries := 2
  maxGlobalRevisionRounds := 1
  currentGlobalRevisionRound := 0
  modelProfile := .balanced
  privacyPolicy := .standard
  jobId := some 0
  workflowRunId := none
  currentNode := "pending"
  blockingReasons := []
  chapterJobMap := []
  chapterStatusMap := (List.range totalChapters).map fun i => (i + 1, .planned)
  progress := 0
  maxEstimatedCost := 100
  maxTotalTokens := 30000
  maxProviderCalls := 5
  spentCost := 0
  usedTokens := 0
  providerCalls := 0
  errorCode := none
  errorMessage := none

/-- The story that the book run is created for: all chapters are planned. -/
def sampleStory (totalChapters : ℕ) : StoryDatabase :=
  { WorkflowSystem.sampleDatabase with
    chapters := (List.range totalChapters).map fun i =>
      ⟨0, i + 1, .planned, 1, "", "", "", none, none, none⟩ }

/-- The book run before its first execution. -/
def sample (totalChapters : ℕ) : BookExecution where
  story := sampleStory totalChapters
  checkpoints _ := none
  run := sampleRun totalChapters
  topWorkflow := none
  children := []
  calls := []
  snapshots := []
  critiques := []
  cached := []
  phase := .idle none

theorem fresh_sample (totalChapters : ℕ) :
    (machine sampleSettings).init (sample totalChapters) where
  status := rfl
  current := rfl
  workflow := rfl
  recorded := rfl
  jobs := rfl
  planned entry hentry := by
    obtain ⟨i, -, rfl⟩ := List.mem_map.mp hentry
    rfl
  limits := (by decide : (0 : Amount) ≤ 100)
  children := rfl
  calls call hcall := absurd hcall (by simp [sample])
  critiques := rfl
  cached := rfl
  phase := rfl
  sound run hrun := absurd hrun (by simp [sample, sampleStory, WorkflowSystem.sampleDatabase])

/-- The next `n` transactions. -/
def proceeds (n : ℕ) : List BookAction := List.replicate n (.step .proceed)

/-- The transactions from the start of an execution to the graph of the first chapter. -/
def untilChapter : List BookAction := [.start] ++ proceeds 8

/-- Transactions of the graph of a chapter. -/
def nodes (inputs : List NodeInput) : List BookAction := inputs.map fun input => .step (.node input)

/-- The graph of a chapter to the end of its draft. -/
def drafting : List BookAction :=
  nodes (List.replicate 7 .proceed ++ [.drafted ⟨"Title", "Text", ""⟩])

/-- The graph of a chapter from there to its acceptance and its end. -/
def accepting : List BookAction :=
  nodes (List.replicate 3 .proceed ++ [.extracted ⟨[], [], []⟩] ++ List.replicate 4 .proceed ++
    [.evaluated WorkflowSystem.passingScores] ++ List.replicate 10 .proceed)

end BookExecution

end StoryForge
