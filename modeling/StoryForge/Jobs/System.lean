import StoryForge.Library.Machine
import StoryForge.Jobs.Worker

/-!
# The job system as a machine

One database, any number of executions and dispatch rounds in progress, and the service
calls of the outside world. An action is one committed (or rolled-back) transaction: a
service call, the claim of a dispatch round, the record of one publication, the claim of a
job by a worker, a heartbeat, a progress event, an outcome, a recovery sweep. Deliveries
by the broker are not restricted: a worker may try to claim any job at any time, so
duplicate, late and lost messages are all included.

A call that raises rolls back and leaves the state as it was (`commitOr`). An execution
whose outcome transaction raises ends without having written anything; when `_succeed`
raises, `_fail` is tried first.
-/

namespace StoryForge

/-- How far an execution is. `failing` is the time between a `_succeed` that raised and the
`_fail` that follows it; `crashed` is a worker that stopped. -/
inductive Phase
  | running
  | failing (error : JobService.Raised)
  | finished
  | crashed
  deriving DecidableEq, Repr

/-- One call of `JobExecutor.execute` after its claim: the job, the worker id it runs
under and the attempt number its claim was given. -/
structure Execution where
  jobId : ℕ
  workerId : String
  attempt : ℕ
  phase : Phase
  deriving DecidableEq, Repr

/-- Whether an execution has claimed its job and not yet written its outcome. -/
def Execution.InProgress (e : Execution) : Prop :=
  match e.phase with
  | .running | .failing _ => True
  | .finished | .crashed => False

instance (e : Execution) : Decidable e.InProgress := by
  unfold Execution.InProgress; split <;> infer_instance

/-- One call of `dispatch_once` after its claim: the rows still to be published. -/
structure Dispatch where
  dispatcherId : String
  rowIds : List ℕ
  deriving DecidableEq, Repr

/-- The state of the job system. -/
structure JobSystem where
  db : Database
  executions : List Execution
  dispatches : List Dispatch
  deriving DecidableEq, Repr

/-- How a handler ends. -/
inductive Outcome
  | returned (result : String)
  | cancelled
  | paused
  | retryable (error : JobService.Raised)
  | failed (error : JobService.Raised)
  deriving DecidableEq, Repr

/-- The transactions of the job system. `execution` and `dispatch` are positions in the
lists of the state. `environment` stands for the other services: they may change project,
chapter and workflow rows in any way. -/
inductive Action
  | create (request : JobService.JobRequest) (now : Time)
  | requestCancel (jobId : ℕ) (now : Time)
  | requestPause (jobId : ℕ) (now : Time)
  | resume (jobId : ℕ) (now : Time)
  | retryDeadLetter (jobId : ℕ) (now : Time)
  | discardDeadLetter (jobId : ℕ)
  | claimBatch (dispatcherId : String) (now : Time)
  | published (dispatch : ℕ) (now : Time)
  | publishFailed (dispatch : ℕ) (error : JobService.Raised) (now : Time)
  | recoverStranded (now : Time)
  | claim (jobId : ℕ) (workerId : String) (now : Time)
  | heartbeat (execution : ℕ) (now : Time)
  | recordEvent (execution : ℕ) (event : JobService.EventRequest)
  | linkWorkflow (execution workflowRunId : ℕ)
  | finish (execution : ℕ) (outcome : Outcome) (now : Time)
  | failAfter (execution : ℕ) (now : Time)
  | crash (execution : ℕ)
  | recoverExpired (now : Time)
  | environment (projects : List Project) (chapters : List Chapter)
      (workflowRuns : List WorkflowRun)
  deriving DecidableEq, Repr

/-- The class name and text of an exception. -/
def Error.raised (error : Error) : JobService.Raised := ⟨error.className, error.message⟩

/-- The job column update of `_link_workflow`. -/
def Job.linkWorkflow (job : Job) (workflowRunId : ℕ) : Job :=
  { job with workflowRunId := some workflowRunId }

@[simp] theorem Job.lifecycle_linkWorkflow (job : Job) (workflowRunId : ℕ) :
    (job.linkWorkflow workflowRunId).lifecycle = job.lifecycle := rfl

/-- `JobHandlers._link_workflow`: the first workflow run of a job is linked to it. -/
def linkWorkflow (jobId workflowRunId : ℕ) (db : Database) : Except Error Database :=
  match db.jobs[jobId]? with
  | none => .ok db
  | some job =>
      if job.workflowRunId.isSome then .ok db
      else if db.jobs.any fun row => row.workflowRunId == some workflowRunId then
        .error (.integrityError "job_workflow_run")
      else
        .ok (JobSession.mk db jobId (job.linkWorkflow workflowRunId)).commit

namespace JobSystem

/-- The outcome transaction of an execution whose handler ended. -/
def writeOutcome (settings : Settings) (e : Execution) (outcome : Outcome) (now : Time)
    (db : Database) : Except Error Database :=
  match outcome with
  | .returned result => JobExecutor.succeed e.jobId e.workerId result now db
  | .cancelled => JobExecutor.cancel e.jobId e.workerId now db
  | .paused => JobExecutor.pause e.jobId e.workerId now db
  | .retryable error => JobExecutor.retryOrDeadLetter settings e.jobId e.workerId error now db
  | .failed error => JobExecutor.fail settings e.jobId e.workerId error now db

/-- The phase after an outcome transaction that raised: `execute` falls back to `_fail`
only from the `try` body, that is, after `_succeed`. -/
def phaseAfterError (outcome : Outcome) (error : Error) : Phase :=
  match outcome with
  | .returned _ => .failing error.raised
  | _ => .finished

/-- Commit a transaction, or keep the state when it raised. -/
def commitOr (s : JobSystem) (transaction : Except Error Database) : JobSystem :=
  match transaction with
  | .ok db => { s with db }
  | .error _ => s

/-- Move execution `i` to a phase. -/
def setPhase (s : JobSystem) (i : ℕ) (phase : Phase) : JobSystem :=
  { s with executions := s.executions.modify i fun e => { e with phase } }

/-- The record of the next row of dispatch round `i`. -/
def dropRow (s : JobSystem) (i : ℕ) : JobSystem :=
  { s with dispatches := s.dispatches.modify i fun d => { d with rowIds := d.rowIds.tail } }

/-- The row dispatch round `i` publishes next. -/
def nextRow (s : JobSystem) (i : ℕ) : Option ℕ :=
  s.dispatches[i]?.bind (·.rowIds.head?)

/-- Execution `i`, if it is in progress. -/
def inProgress (s : JobSystem) (i : ℕ) : Option Execution :=
  s.executions[i]?.filter fun e => e.InProgress

/-- The execution a claim starts. -/
def startExecution (s : JobSystem) (db : Database) (jobId : ℕ) (workerId : String) : JobSystem :=
  { s with
    db
    executions := s.executions ++
      [⟨jobId, workerId, (db.jobs[jobId]?.map (·.attempt)).getD 0, .running⟩] }

/-- The effect of an action. -/
def next (settings : Settings) (s : JobSystem) : Action → Option JobSystem
  | .create request now =>
      some (s.commitOr ((JobService.insert settings request now s.db).map (·.2)))
  | .requestCancel jobId now => some (s.commitOr (JobService.requestCancel jobId now s.db))
  | .requestPause jobId now => some (s.commitOr (JobService.requestPause jobId now s.db))
  | .resume jobId now => some (s.commitOr (JobService.resume jobId now s.db))
  | .retryDeadLetter jobId now => some (s.commitOr (JobService.retryDeadLetter jobId now s.db))
  | .discardDeadLetter jobId => some (s.commitOr (JobService.discardDeadLetter jobId s.db))
  | .claimBatch dispatcherId now =>
      let (rowIds, db) := OutboxDispatcher.claim settings dispatcherId now s.db
      some { s with db, dispatches := s.dispatches ++ [⟨dispatcherId, rowIds⟩] }
  | .published dispatch now =>
      (s.nextRow dispatch).map fun rowId =>
        { s.dropRow dispatch with db := OutboxDispatcher.recordPublished rowId now s.db }
  | .publishFailed dispatch error now =>
      (s.nextRow dispatch).map fun rowId =>
        (s.dropRow dispatch).commitOr
          (OutboxDispatcher.recordFailure settings rowId error now s.db)
  | .recoverStranded now => some (s.commitOr (OutboxDispatcher.recoverStranded settings now s.db))
  | .claim jobId workerId now =>
      match JobExecutor.claim settings jobId workerId now s.db with
      | .ok (some db) => some (s.startExecution db jobId workerId)
      | _ => some s
  | .heartbeat i now =>
      (s.executions[i]?.filter fun e => e.phase ≠ .crashed).map fun e =>
        { s with db := JobExecutor.heartbeat settings e.jobId e.workerId now s.db }
  | .recordEvent i event =>
      (s.inProgress i).map fun e => s.commitOr (JobService.recordEvent e.jobId event s.db)
  | .linkWorkflow i workflowRunId =>
      (s.inProgress i).map fun e => s.commitOr (linkWorkflow e.jobId workflowRunId s.db)
  | .finish i outcome now =>
      (s.executions[i]?.filter fun e => e.phase = .running).map fun e =>
        match writeOutcome settings e outcome now s.db with
        | .ok db => { s.setPhase i .finished with db }
        | .error error => s.setPhase i (phaseAfterError outcome error)
  | .failAfter i now =>
      (s.inProgress i).bind fun e =>
        match e.phase with
        | .failing error =>
            some ((s.setPhase i .finished).commitOr
              (JobExecutor.fail settings e.jobId e.workerId error now s.db))
        | _ => none
  | .crash i => (s.inProgress i).map fun _ => s.setPhase i .crashed
  | .recoverExpired now => some (s.commitOr (JobExecutor.recoverExpired now s.db))
  | .environment projects chapters workflowRuns =>
      some { s with db := { s.db with projects, chapters, workflowRuns } }

/-- The job system. Runs start with no jobs, events, outbox rows, executions or dispatch
rounds; the other tables may hold anything. -/
def machine (settings : Settings) : Machine JobSystem Action where
  init s := s.db.jobs = [] ∧ s.db.jobEvents = [] ∧ s.db.outbox = [] ∧ s.executions = [] ∧
    s.dispatches = []
  next := next settings

/-- The empty system. -/
def empty : JobSystem := ⟨.empty, [], []⟩

theorem machine_init_empty (settings : Settings) : (machine settings).init empty :=
  ⟨rfl, rfl, rfl, rfl, rfl⟩

end JobSystem

end StoryForge
