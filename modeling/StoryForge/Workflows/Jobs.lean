import StoryForge.Jobs.Exclusion
import StoryForge.Workflows.System

/-!
# Jobs that run the chapter workflow

One job of type `RUN_CHAPTER_WORKFLOW` in the job system, together with the calls that the
handlers of its executions make. The job system, the handlers and the graph write to one
database: a step of the job system sees the chapters and the workflow runs of the story, and
what it writes to them is written to the story.

Executions of the job may be claimed, crash and be recovered like all others; the other
jobs, the dispatchers and the users act freely. Everything else that writes the story is
`otherCode`, which may do anything but complete the workflow run of the job or undo that.
-/

namespace StoryForge

/-- How far a call of `_run_workflow` is. -/
inductive HandlerPhase
  /-- `check_control("initialize_workflow")`. -/
  | checking
  /-- The call of `run` or `resume`. -/
  | calling
  | executing (graph : GraphExecution)
  /-- `_link_workflow`, and what the returned status means for the job. -/
  | linking (runId : ℕ) (status : WorkflowRunStatus)
  | ended (outcome : Outcome)

/-- A call of `_run_workflow` with the link of the job it was given. -/
structure WorkflowHandler where
  workflowRunId : Option ℕ
  phase : HandlerPhase

/-- The job system, the story with the checkpoints of its graphs, and the handlers, by the
number of the execution they belong to. -/
structure WorkflowJobSystem where
  jobs : JobSystem
  story : StoryDatabase
  checkpoints : ℕ → Option Checkpoint
  handlers : ℕ → WorkflowHandler

/-- What happens next: an action of the job system, the next transaction of the handler of
an execution, the outcome of an execution whose handler ended, or other code. -/
inductive WorkflowJobAction
  | job (action : Action)
  | handler (execution : ℕ) (input : NodeInput)
  | finish (execution : ℕ) (now : Time)
  | otherCode (story : StoryDatabase)

/-- What `execute` makes of an exception. -/
def Error.outcome (error : Error) : Outcome :=
  if error.className = "JobCancellationRequested" then .cancelled
  else if error.className = "JobPauseRequested" then .paused
  else if error.className ∈ ["JobRetryableError", "OperationalError", "QueueUnavailableError"] then
    .retryable error.raised
  else .failed error.raised

/-- `check_control`: what it raises. -/
def checkControl : Option Job → Option Outcome
  | none => some .cancelled
  | some job =>
      match job.status with
      | .cancelRequested => some .cancelled
      | .pauseRequested => some .paused
      | _ => none

/-- How `_run_workflow` ends for a status that was returned. -/
def WorkflowRunStatus.handled (status : WorkflowRunStatus) : Outcome :=
  match status with
  | .paused => .paused
  | .cancelled => .cancelled
  | status => .returned status.value

/-- Whether the chapter of every run exists; a foreign key. -/
def StoryDatabase.grounded (story : StoryDatabase) : Bool :=
  story.runs.all fun run => decide (run.chapterId < story.chapters.length)

/-- Whether run `r` is completed. -/
def StoryDatabase.completed (story : StoryDatabase) (r : ℕ) : Bool :=
  story.statuses[r]?.any fun status =>
    decide (status ∈ ChapterWorkflowService.completedStatuses)

namespace WorkflowJobSystem

open WorkflowSystem

/-- The row of the job. -/
def row (s : WorkflowJobSystem) (jobId : ℕ) : Option Job := s.jobs.db.jobs[jobId]?

/-- The workflow run that the job is linked to. -/
def link (s : WorkflowJobSystem) (jobId : ℕ) : Option ℕ := (s.row jobId).bind (·.workflowRunId)

/-- Whether the workflow run that the job is linked to is completed. -/
def Completed (s : WorkflowJobSystem) (jobId : ℕ) : Prop :=
  (s.link jobId).any s.story.completed = true

instance (s : WorkflowJobSystem) (jobId : ℕ) : Decidable (s.Completed jobId) :=
  inferInstanceAs (Decidable (_ = true))

/-- The job system as it reads the story. -/
def reading (s : WorkflowJobSystem) : JobSystem :=
  { s.jobs with db := s.story.jobTables s.jobs.db }

/-- Move the handler of execution `i`. -/
def setPhase (s : WorkflowJobSystem) (i : ℕ) (phase : HandlerPhase) : WorkflowJobSystem :=
  { s with handlers := Function.update s.handlers i { s.handlers i with phase } }

/-! ### The job system -/

/-- The actions of the job system that are left to the handlers of the job, or to other
code. A job of this type is created without a workflow run. -/
def reserved (jobId : ℕ) (s : JobSystem) : Action → Bool
  | .environment _ _ _ => true
  | .finish i _ _ | .linkWorkflow i _ => s.executions[i]?.any fun e => e.jobId == jobId
  | .create request _ => s.db.jobs.length == jobId && request.workflowRunId.isSome
  | _ => false

/-- The handlers after an action: an execution that was claimed begins with one. -/
def newHandlers (s : WorkflowJobSystem) (jobs : JobSystem) : ℕ → WorkflowHandler :=
  match jobs.executions[s.jobs.executions.length]? with
  | some e =>
      Function.update s.handlers s.jobs.executions.length
        ⟨jobs.db.jobs[e.jobId]?.bind (·.workflowRunId), .checking⟩
  | none => s.handlers

/-- An action of the job system, which reads and writes the story. -/
def performJob (settings : Settings) (jobId : ℕ) (s : WorkflowJobSystem) (a : Action) :
    Option WorkflowJobSystem :=
  if reserved jobId s.jobs a then none
  else
    (JobSystem.next settings s.reading a).map fun jobs =>
      { s with jobs, story := s.story.absorb jobs.db, handlers := s.newHandlers jobs }

/-! ### Handlers -/

/-- Whether a step of a call agrees with the control callback it is given. -/
def controlled (g : GraphExecution) (input : NodeInput) (job : Option Job) : Bool :=
  match g.phase, input with
  | .entering .initializeWorkflow, _ | .entering .failWorkflow, _ => true
  | .entering _, .proceed => checkControl job == none
  | .entering _, .pauseRequested => checkControl job == some .paused
  | .entering _, .cancelRequested => checkControl job == some .cancelled
  | _, _ => true

/-- Whether a step of a call calls `initialized_callback`: the graph began its run. -/
def begun (g : GraphExecution) (input : NodeInput) (result : StepResult) : Option ℕ :=
  match g.phase, input with
  | .entering .initializeWorkflow, .proceed => result.graph.runId
  | _, _ => none

/-- A committed step of a call. -/
def advanced (s : WorkflowJobSystem) (i : ℕ) (result : StepResult) : WorkflowJobSystem :=
  { s.setPhase i (.executing result.graph) with
    story := result.db
    checkpoints :=
      match result.graph.runId, result.checkpoint with
      | some runId, some checkpoint => Function.update s.checkpoints runId (some checkpoint)
      | _, _ => s.checkpoints }

/-- A step of a call. The transaction that begins the run also links the job to it. -/
def execute (services : StoryServices) (jobId i : ℕ) (g : GraphExecution) (input : NodeInput)
    (s : WorkflowJobSystem) : Option WorkflowJobSystem :=
  if controlled g input (s.row jobId) then
    (advance services g input s.story).map fun result =>
      match begun g input result with
      | none => s.advanced i result
      | some runId =>
          match linkWorkflow jobId runId s.jobs.db with
          | .ok db => { s.advanced i result with jobs := { s.jobs with db } }
          | .error error => s.setPhase i (.executing (g.raise error))
  else none

/-- The call of `run` or of `resume`. A run that can be resumed has a checkpoint. -/
def call (request : ChapterWorkflowRequest) (i : ℕ) (s : WorkflowJobSystem) :
    Option WorkflowJobSystem :=
  match (s.handlers i).workflowRunId with
  | none => some (s.setPhase i (.executing (GraphExecution.start request)))
  | some runId =>
      match ChapterWorkflowService.resume runId s.story, s.checkpoints runId with
      | .ok story, some checkpoint =>
          some { s.setPhase i (.executing (.restart runId checkpoint)) with story }
      | .ok _, none => none
      | .error error, _ => some (s.setPhase i (.ended error.outcome))

/-- The next transaction of the handler of execution `i`. -/
def step (services : StoryServices) (request : ChapterWorkflowRequest) (jobId i : ℕ)
    (input : NodeInput) (s : WorkflowJobSystem) : Option WorkflowJobSystem :=
  match (s.handlers i).phase, input with
  | .checking, .proceed =>
      some (s.setPhase i
        (match checkControl (s.row jobId) with
        | some outcome => .ended outcome
        | none => .calling))
  | .calling, .proceed => call request i s
  | .checking, .failed error | .calling, .failed error | .linking _ _, .failed error =>
      some (s.setPhase i (.ended error.outcome))
  | .executing g, input =>
      match g.phase, g.runId with
      | .ended (.ok status), some runId => some (s.setPhase i (.linking runId status))
      | .ended (.error error), _ => some (s.setPhase i (.ended error.outcome))
      | _, _ => execute services jobId i g input s
  | .linking runId status, .proceed =>
      match linkWorkflow jobId runId s.jobs.db with
      | .ok db => some { s.setPhase i (.ended status.handled) with jobs := { s.jobs with db } }
      | .error error => some (s.setPhase i (.ended error.outcome))
  | _, _ => none

/-- The outcome of execution `i`, once its handler has ended. -/
def conclude (settings : Settings) (i : ℕ) (now : Time) (s : WorkflowJobSystem) :
    Option WorkflowJobSystem :=
  match (s.handlers i).phase with
  | .ended outcome =>
      (JobSystem.next settings s.jobs (.finish i outcome now)).map fun jobs => { s with jobs }
  | _ => none

/-! ### The machine -/

/-- The execution of the job whose handler makes a step. -/
def running (s : WorkflowJobSystem) (jobId i : ℕ) : Option Execution :=
  s.jobs.executions[i]?.filter fun e => e.jobId = jobId ∧ e.phase = .running

/-- The transaction of an action. -/
def perform (settings : Settings) (services : StoryServices) (request : ChapterWorkflowRequest)
    (jobId : ℕ) (s : WorkflowJobSystem) : WorkflowJobAction → Option WorkflowJobSystem
  | .job a => performJob settings jobId s a
  | .handler i input => (s.running jobId i).bind fun _ => step services request jobId i input s
  | .finish i now => (s.running jobId i).bind fun _ => conclude settings i now s
  | .otherCode story =>
      if s.story.runs.length ≤ story.runs.length ∧
          ∀ r ∈ s.link jobId, story.completed r = s.story.completed r then
        some { s with story }
      else none

/-- The job `jobId` with its workflow. Runs start after the creation of the job: nothing
executes it yet, and it is not linked to a workflow run. What breaks the foreign key is not
committed. -/
def machine (settings : Settings) (services : StoryServices) (request : ChapterWorkflowRequest)
    (jobId : ℕ) : Machine WorkflowJobSystem WorkflowJobAction where
  init s := (JobSystem.machine settings).Reachable s.jobs ∧
    (∀ e ∈ s.jobs.executions, e.jobId ≠ jobId) ∧
    (∃ job, s.row jobId = some job ∧ job.workflowRunId = none) ∧ s.story.grounded = true
  next s a := (perform settings services request jobId s a).filter (·.story.grounded)

end WorkflowJobSystem

end StoryForge
