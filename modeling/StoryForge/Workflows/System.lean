import StoryForge.Library.Machine
import StoryForge.Workflows.Nodes

/-!
# Chapter workflows as a machine

Any number of calls of `run` and `resume` on one database, with cancellations, lease
recoveries and everything else that writes the story in between. A call executes the graph
from its checkpoint; each step is one transaction, and a call may stop at any point, which
is a crash.

The row of a workflow run is read without a lock. An action may therefore come with the
status its transaction has read: one that the run had before it was changed by somebody
else. The transaction then computes with the old status, and writes the status only when it
changes what it has read.
-/

namespace StoryForge

/-- How far a call of `run` or `resume` is, by the transaction it makes next. -/
inductive GraphPhase
  /-- The start of a node. -/
  | entering (node : WorkflowNode)
  /-- In a node. -/
  | acting (node : WorkflowNode) (stage : Stage)
  /-- The end of a node, and the checkpoint. -/
  | leaving (node : WorkflowNode) (state : ChapterWorkflowState)
  /-- `_mark_paused` after an interrupt. -/
  | interrupted (node : WorkflowNode)
  /-- `_mark_control_pause`. -/
  | pausing
  /-- `_mark_control_cancel`. -/
  | cancelling
  /-- The reading half of `_mark_budget_blocked_by_thread`. -/
  | blocked
  /-- `mark_needs_review`, called for a blocked budget. -/
  | reviewing
  /-- The rest of `_mark_budget_blocked_by_thread`. -/
  | noting
  /-- `_mark_failed_by_thread`, and then `WorkflowExecutionError`. -/
  | failing (message : String)
  /-- The status that is returned. -/
  | returning
  | ended (result : Except Error WorkflowRunStatus)
  | crashed

/-- A call of `run` or `resume`. `runId` is the run of its thread. -/
structure GraphExecution where
  state : ChapterWorkflowState
  runId : Option ℕ
  pauseAfter : Option WorkflowNode
  resumed : Bool
  phase : GraphPhase

/-- Where a graph goes on, and with which state. -/
structure Checkpoint where
  next : Option WorkflowNode
  state : ChapterWorkflowState
  deriving DecidableEq, Repr

/-- A committed change of a run's status. -/
structure StatusChange where
  runId : ℕ
  before : WorkflowRunStatus
  after : WorkflowRunStatus
  deriving DecidableEq, Repr

/-- A committed acceptance, with the status the run had when it was committed. -/
structure Acceptance where
  runId : ℕ
  versionId : ℕ
  status : WorkflowRunStatus
  deriving DecidableEq, Repr

/-- The committed state, the calls, and what was committed so far. -/
structure WorkflowSystem where
  db : StoryDatabase
  checkpoints : ℕ → Option Checkpoint
  graphs : List GraphExecution
  changes : List StatusChange
  acceptances : List Acceptance

/-- What happens next. A `step` is the next transaction of a call; `otherCode` stands for
the other services, which write anything but the statuses of the runs. -/
inductive WorkflowAction
  | run (request : ChapterWorkflowRequest)
  | resume (runId : ℕ)
  | step (graph : ℕ) (input : NodeInput)
  | crash (graph : ℕ)
  | cancel (runId : ℕ)
  | cancelLinked (job : Job) (now : Time)
  | recoverLease (job : Job)
  | otherCode (db : StoryDatabase)

namespace GraphExecution

/-- The call of `run`. -/
def start (request : ChapterWorkflowRequest) : GraphExecution where
  state := request.initialState
  runId := none
  pauseAfter := request.pauseAfter
  resumed := false
  phase := .entering .initializeWorkflow

/-- A call of `resume`, from the checkpoint of the run. -/
def restart (runId : ℕ) (checkpoint : Checkpoint) : GraphExecution where
  state := checkpoint.state
  runId := some runId
  pauseAfter := none
  resumed := true
  phase :=
    match checkpoint.next with
    | some node => .entering node
    | none => .returning

/-- Whether a call has transactions to make on its run. -/
def Busy (g : GraphExecution) : Prop :=
  match g.phase with
  | .returning | .ended _ | .crashed => False
  | _ => True

instance (g : GraphExecution) : Decidable g.Busy := by
  unfold Busy; split <;> infer_instance

/-- The exceptions that `run` passes on. -/
def isRequestError : Error → Bool
  | .entityNotFoundError _ | .invalidStateError _ | .valueError _ => true
  | .other "WorkflowAlreadyRunningError" _ => true
  | _ => false

/-- The exception handlers of `run` and `resume`. -/
def raise (g : GraphExecution) (error : Error) : GraphExecution :=
  { g with
    phase :=
      match error with
      | .budgetBlockedError _ => .blocked
      | _ =>
          if g.resumed then .failing "Chapter workflow resume failed safely"
          else if isRequestError error then .ended (.error error)
          else .failing "Chapter workflow failed safely" }

/-- An exception outside of the handlers. -/
def stop (g : GraphExecution) (error : Error) : GraphExecution :=
  { g with phase := .ended (.error error) }

/-- Go on with a phase. -/
def goto (g : GraphExecution) (phase : GraphPhase) : GraphExecution := { g with phase }

/-- The end of a node: the graph goes on, is interrupted or is finished. -/
def leave (g : GraphExecution) (node : WorkflowNode) (state : ChapterWorkflowState) :
    GraphExecution × Option Checkpoint :=
  match afterNode state node with
  | .error error => (g.raise error, none)
  | .ok next =>
      ({ g with
        state
        phase :=
          match next with
          | none => .returning
          | some following =>
              if g.pauseAfter = some node then .interrupted node else .entering following },
        some ⟨next, state⟩)

/-- What a step of a node means for the call. -/
def follow (g : GraphExecution) (node : WorkflowNode) : ActionResult → GraphExecution
  | .next stage => g.goto (.acting node stage)
  | .done state => g.goto (.leaving node state)
  | .raised error => g.raise error

end GraphExecution

namespace WorkflowSystem

open ChapterWorkflowService GraphExecution

/-- What a step of a call makes of the call and of the database, and the checkpoint it
saves. -/
structure StepResult where
  graph : GraphExecution
  db : StoryDatabase
  checkpoint : Option Checkpoint

/-- A transaction and how the call goes on, or what it does about the exception. -/
def attempt (db : StoryDatabase) (result : Except Error StoryDatabase) (after : GraphExecution)
    (recover : Error → GraphExecution) : StepResult :=
  match result with
  | .ok db' => ⟨after, db', none⟩
  | .error error => ⟨recover error, db, none⟩

/-- The transaction of `initialize_workflow`. The input of the graph is its checkpoint. -/
def beginRun (g : GraphExecution) (db : StoryDatabase) : StepResult :=
  match initializeWorkflow g.state g.runId db with
  | .ok (runId, state, db') =>
      ⟨{ g with runId := some runId, phase := .leaving .initializeWorkflow state }, db',
        some ⟨some .initializeWorkflow, g.state⟩⟩
  | .error error => ⟨g.raise error, db, none⟩

/-- The start of a node, by what the caller's control callback does. -/
def enter (g : GraphExecution) (node : WorkflowNode) (input : NodeInput) (db : StoryDatabase) :
    Option StepResult :=
  match node, input with
  | .initializeWorkflow, .proceed => some (beginRun g db)
  | .initializeWorkflow, .failed error => some ⟨g.raise error, db, none⟩
  | .initializeWorkflow, _ => none
  | .failWorkflow, .proceed =>
      some (attempt db (markFailed g.runId db) (g.goto (.leaving .failWorkflow g.state)) g.raise)
  | .failWorkflow, .failed error => some ⟨g.raise error, db, none⟩
  | .failWorkflow, _ => none
  | node, .proceed =>
      g.runId.map fun runId =>
        attempt db (nodeStarted runId node db) (g.goto (.acting node .start)) g.raise
  | _, .pauseRequested => some ⟨g.goto .pausing, db, none⟩
  | _, .cancelRequested => some ⟨g.goto .cancelling, db, none⟩
  | _, .failed error => some ⟨g.raise error, db, none⟩
  | _, _ => none

/-- A step inside a node. -/
def act (services : StoryServices) (g : GraphExecution) (node : WorkflowNode) (stage : Stage)
    (input : NodeInput) (db : StoryDatabase) : Option StepResult :=
  match input with
  | .failed error => some ⟨g.raise error, db, none⟩
  | input =>
      g.runId.bind fun runId =>
        (actionStep services g.state runId node stage input db).map fun written =>
          ⟨g.follow node written.1, written.2, none⟩

/-- A step outside of the graph: pauses, cancellations and failures. -/
def conclude (g : GraphExecution) (db : StoryDatabase) : Option StepResult :=
  match g.phase, g.runId with
  | .interrupted node, some runId =>
      some (attempt db (markPaused runId node.value db) (g.goto .returning) g.raise)
  | .pausing, some runId =>
      let node := (db.runs[runId]?.map (·.currentNode)).getD ""
      some (attempt db (markPaused runId node db) (g.goto .returning) g.stop)
  | .pausing, none =>
      some ⟨g.stop (.other "WorkflowExecutionError" "Workflow pause checkpoint was not found"),
        db, none⟩
  | .cancelling, some runId => some (attempt db (cancel runId db) (g.goto .returning) g.stop)
  | .cancelling, none =>
      some ⟨g.stop (.other "WorkflowExecutionError" "Workflow cancellation target was not found"),
        db, none⟩
  | .blocked, runId =>
      match budgetBlocked runId db with
      | some _ => some ⟨g.goto .reviewing, db, none⟩
      | none =>
          some ⟨g.goto (.failing "Chapter workflow exceeded its budget safely"), db, none⟩
  | .reviewing, some runId =>
      some (attempt db (ChapterVersionService.markNeedsReview runId db) (g.goto .noting) g.stop)
  | .noting, _ => some ⟨g.goto .returning, db, none⟩
  | .failing message, runId =>
      some (attempt db (markFailed runId db)
        (g.stop (.other "WorkflowExecutionError" message)) g.stop)
  | .returning, runId =>
      let missing := Error.entityNotFoundError "Workflow run was not created"
      some ⟨g.goto (.ended (status missing runId db)), db, none⟩
  | _, _ => none

/-- The next transaction of a call. -/
def advance (services : StoryServices) (g : GraphExecution) (input : NodeInput)
    (db : StoryDatabase) : Option StepResult :=
  match g.phase, input with
  | .entering node, input => enter g node input db
  | .acting node stage, input => act services g node stage input db
  | .leaving node state, .proceed =>
      let (graph, checkpoint) := g.leave node state
      some ⟨graph, db, checkpoint⟩
  | .leaving _ _, .failed error => some ⟨g.raise error, db, none⟩
  | .leaving _ _, _ => none
  | .interrupted _, .failed error => some ⟨g.raise error, db, none⟩
  | .ended _, _ | .crashed, _ => none
  | _, .failed error => some ⟨g.stop error, db, none⟩
  | _, .proceed => conclude g db
  | _, _ => none

/-! ### Reading without a lock -/

/-- The database as seen by a transaction that has read an older status of a run. -/
def seeing (runId : ℕ) (status : WorkflowRunStatus) (db : StoryDatabase) : StoryDatabase :=
  { db with runs := db.runs.modify runId ({ · with status }) }

/-- What such a transaction commits: it writes the status if it has changed what it read. -/
def keeping (runId : ℕ) (seen : WorkflowRunStatus) (current : Option WorkflowRunStatus)
    (db : StoryDatabase) : StoryDatabase :=
  { db with
    runs := db.runs.modify runId fun run =>
      if run.status = seen then { run with status := current.getD seen } else run }

/-! ### Actions -/

/-- Move call `i`. -/
def setGraph (s : WorkflowSystem) (i : ℕ) (g : GraphExecution) : WorkflowSystem :=
  { s with graphs := s.graphs.set i g }

/-- Commit a transaction, or keep the state when it raised. -/
def commitOr (s : WorkflowSystem) (transaction : Except Error StoryDatabase) : WorkflowSystem :=
  match transaction with
  | .ok db => { s with db }
  | .error _ => s

/-- Save a checkpoint of a run. -/
def save (s : WorkflowSystem) (runId : Option ℕ) (checkpoint : Option Checkpoint) :
    WorkflowSystem :=
  match runId, checkpoint with
  | some runId, some checkpoint =>
      { s with checkpoints := Function.update s.checkpoints runId (some checkpoint) }
  | _, _ => s

/-- The transaction of an action. -/
def perform (services : StoryServices) (s : WorkflowSystem) : WorkflowAction →
    Option WorkflowSystem
  | .run request => some { s with graphs := s.graphs ++ [GraphExecution.start request] }
  | .resume runId =>
      match ChapterWorkflowService.resume runId s.db, s.checkpoints runId with
      | .ok db, some checkpoint =>
          some { s with db, graphs := s.graphs ++ [restart runId checkpoint] }
      | _, _ => some s
  | .step i input =>
      s.graphs[i]?.bind fun g => (advance services g input s.db).map fun result =>
        { (s.setGraph i result.graph).save result.graph.runId result.checkpoint with
          db := result.db }
  | .crash i => (s.graphs[i]?.filter fun g => g.Busy).map fun g => s.setGraph i (g.goto .crashed)
  | .cancel runId => some (s.commitOr (ChapterWorkflowService.cancel runId s.db))
  | .cancelLinked job now => some (s.commitOr (cancelLinked job now s.db))
  | .recoverLease job => some (s.commitOr (recoverLease job s.db))
  | .otherCode db => if db.statuses = s.db.statuses then some { s with db } else none

/-- The run whose status the transaction of an action reads. -/
def target (s : WorkflowSystem) : WorkflowAction → Option ℕ
  | .resume runId | .cancel runId => some runId
  | .cancelLinked job _ | .recoverLease job => job.workflowRunId
  | .step i _ => s.graphs[i]?.bind (·.runId)
  | _ => none

/-- The changes between two lists of statuses. New runs are no changes. -/
def statusChanges (before after : List WorkflowRunStatus) : List StatusChange :=
  (before.zip after).zipIdx.filterMap fun (pair, runId) =>
    if pair.1 = pair.2 then none else some ⟨runId, pair.1, pair.2⟩

/-- The acceptance that call `g` commits when it becomes `g'`. A version that is accepted
already is not accepted again. -/
def acceptance (db : StoryDatabase) (g g' : GraphExecution) : Option Acceptance :=
  match g.phase, g'.phase, g.runId, g.state.currentVersionId with
  | .acting .acceptVersion _, .leaving _ _, some runId, some versionId =>
      match db.runs[runId]? with
      | some run =>
          if run.status = .completed ∧ run.acceptedVersionId = some versionId then none
          else some ⟨runId, versionId, run.status⟩
      | none => none
  | _, _, _, _ => none

/-- The acceptances of a step. -/
def newAcceptances (s s' : WorkflowSystem) : List Acceptance :=
  (s.graphs.zip s'.graphs).filterMap fun pair => acceptance s.db pair.1 pair.2

/-- Record what a step from `s` committed. -/
def logged (s s' : WorkflowSystem) : WorkflowSystem :=
  { s' with
    changes := s.changes ++ statusChanges s.db.statuses s'.db.statuses
    acceptances := s.acceptances ++ newAcceptances s s' }

/-- The effect of an action, which may come with a status that its transaction has read. -/
def next (services : StoryServices) (s : WorkflowSystem)
    (a : WorkflowAction × Option WorkflowRunStatus) : Option WorkflowSystem :=
  match a.2 with
  | none => (s.perform services a.1).map s.logged
  | some seen =>
      (s.target a.1).bind fun runId =>
        if s.changes.any fun change => change.runId == runId && change.before == seen then
          (perform services { s with db := seeing runId seen s.db } a.1).map fun s' =>
            s.logged { s' with db := keeping runId seen s.db.statuses[runId]? s'.db }
        else none

/-- The workflow system. Runs of the machine start without workflow runs and calls; the other
tables may hold anything. -/
def machine (services : StoryServices) :
    Machine WorkflowSystem (WorkflowAction × Option WorkflowRunStatus) where
  init s := s.db.runs = [] ∧ s.graphs = [] ∧ s.changes = [] ∧ s.acceptances = []
  next := next services

end WorkflowSystem

end StoryForge
