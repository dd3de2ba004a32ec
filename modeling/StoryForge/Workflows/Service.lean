import StoryForge.Jobs.Worker
import StoryForge.Chapters.Versioning
import StoryForge.Workflows.Graph

/-!
# `ChapterWorkflowService`: the transactions

The transactions around the nodes of the chapter graph: a run begins, enters a node, is
paused, resumed, cancelled, marked as failed. The job tables see the same chapters and
workflow runs through fewer columns (`StoryDatabase.jobTables`); what a job transaction
writes to them is taken back with `StoryDatabase.absorb`.

## Main results

* `transitionRun_eq_ok` — a run changes status exactly along the table;
* `initializeWorkflow_eq_ok` — what beginning a run does to the runs;
* `resume_eq_ok` — only a paused run is resumed, and it is running then.
-/

namespace StoryForge

/-! ### What the job tables see -/

/-- The columns of a workflow run that the job functions use. -/
def StoryRun.row (run : StoryRun) : WorkflowRun where
  chapterId := run.chapterId
  status := run.status
  currentNode := run.currentNode
  finishedAt := none

/-- The columns of a chapter that the job functions use. -/
def StoryChapter.row (chapter : StoryChapter) : Chapter where
  projectId := chapter.projectId
  chapterNumber := chapter.chapterNumber
  status := chapter.status
  acceptedVersionId := chapter.acceptedVersionId

namespace StoryDatabase

/-- A job database with the chapters and workflow runs of the story. -/
def jobTables (story : StoryDatabase) (db : Database) : Database :=
  { db with
    chapters := story.chapters.map StoryChapter.row
    workflowRuns := story.runs.map StoryRun.row }

/-- A run with what a job function wrote to its row. -/
def absorbRun (db : Database) (id : ℕ) (run : StoryRun) : StoryRun :=
  match db.workflowRuns[id]? with
  | some row => { run with status := row.status, currentNode := row.currentNode }
  | none => run

/-- A chapter with what a job function wrote to its row. -/
def absorbChapter (db : Database) (id : ℕ) (chapter : StoryChapter) : StoryChapter :=
  match db.chapters[id]? with
  | some row => { chapter with status := row.status }
  | none => chapter

/-- The story with what a job function wrote to chapters and workflow runs. -/
def absorb (story : StoryDatabase) (db : Database) : StoryDatabase :=
  { story with
    chapters := story.chapters.mapIdx (absorbChapter db)
    runs := story.runs.mapIdx (absorbRun db) }

end StoryDatabase

/-! ### Transitions -/

/-- `transition_workflow`. -/
def transitionRun (run : StoryRun) (target : WorkflowRunStatus) : Except Error StoryRun :=
  (transitionWorkflow run.row target).map fun row => { run with status := row.status }

/-- A run changes status exactly along the table. -/
theorem transitionRun_eq_ok {run run' : StoryRun} {target : WorkflowRunStatus} :
    transitionRun run target = .ok run' ↔
      run' = { run with status := target } ∧
        (run.status = target ∨ target ∈ run.status.allowed) := by
  by_cases heq : run.status = target
  · subst heq
    simp [transitionRun, transitionWorkflow, StoryRun.row, Except.map, eq_comm]
  · by_cases hin : target ∈ run.status.allowed
    · simp [transitionRun, transitionWorkflow, StoryRun.row, Except.map, heq, hin, eq_comm]
    · simp [transitionRun, transitionWorkflow, StoryRun.row, Except.map, heq, hin]

namespace ChapterWorkflowService

/-- `_TERMINAL`. -/
def terminalStatuses : List WorkflowRunStatus :=
  [.completed, .completedNeedsReview, .cancelled, .failed, .succeeded, .needsHumanReview]

/-- The statuses of a run that occupies its chapter. -/
def activeStatuses : List WorkflowRunStatus := [.pending, .running, .paused]

/-- The chapter status after a run that ended without a version. -/
def closeChapter (chapter : StoryChapter) : StoryChapter :=
  { chapter with
    status := if chapter.acceptedVersionId.isSome then .accepted else .workflowFailed }

/-! ### Beginning -/

/-- `_run_state`: the state a run begins with. Its attempt limit and its blocking reasons
are those the state already has. -/
def runState (run : StoryRun) (chapterNumber : ℕ) (state : ChapterWorkflowState) :
    ChapterWorkflowState :=
  { state with
    chapterNumber
    originalVersionId := run.originalVersionId
    currentVersionId := run.currentVersionId
    bestVersionId := run.bestVersionId
    acceptedVersionId := run.acceptedVersionId
    revisionAttempt := run.revisionAttempt }

/-- The row of a new run; it is running when it is committed. -/
def newRun (projectId chapterId : ℕ) (chapter : StoryChapter) : StoryRun where
  projectId := projectId
  chapterId := chapterId
  status := .running
  currentNode := "initialize_workflow"
  originalVersionId := chapter.currentVersionId
  currentVersionId := chapter.currentVersionId
  bestVersionId := chapter.currentVersionId
  acceptedVersionId := chapter.acceptedVersionId
  revisionAttempt := 0
  retryCount := 0

/-- `_initialize_workflow`. `runId` is the run that the thread already has. -/
def initializeWorkflow (state : ChapterWorkflowState) (runId : Option ℕ) (db : StoryDatabase) :
    Except Error (ℕ × ChapterWorkflowState × StoryDatabase) :=
  match runId.bind fun id => db.runs[id]?.map (id, ·) with
  | some (id, run) =>
      match db.chapters[run.chapterId]? with
      | none => .error (.entityNotFoundError "Workflow chapter was not found")
      | some chapter => .ok (id, runState run chapter.chapterNumber state, db)
  | none =>
      match db.projects[state.projectId]?,
          db.findChapter state.projectId state.chapterNumber with
      | some _, some (chapterId, chapter) =>
          if db.runs.any fun run => run.chapterId == chapterId &&
              activeStatuses.contains run.status then
            .error (.other "WorkflowAlreadyRunningError"
              "Another workflow is already active for this chapter")
          else
            let id := db.runs.length
            let run := newRun state.projectId chapterId chapter
            .ok (id, runState run chapter.chapterNumber state,
              { db with
                runs := db.runs ++ [run]
                chapters := db.chapters.modify chapterId ({ · with status := .workflowRunning }) })
      | _, _ => .error (.entityNotFoundError "Project chapter was not found")

/-! ### Nodes -/

/-- The transaction of `_node_started`. -/
def nodeStarted (runId : ℕ) (node : WorkflowNode) (db : StoryDatabase) :
    Except Error StoryDatabase :=
  match db.runs[runId]? with
  | none => .error (.entityNotFoundError "Workflow run was not found")
  | some run =>
      if run.status = .cancelled then
        .error (.invalidStateError "Cancelled workflow cannot enter another node")
      else
        .ok { db with runs := db.runs.modify runId ({ · with currentNode := node.value }) }

/-- What `_evaluate_node` writes to the run. -/
def recordEvaluation (runId versionId : ℕ) (db : StoryDatabase) : StoryDatabase :=
  { db with
    runs := db.runs.modify runId fun run =>
      { run with
        currentVersionId := some versionId
        bestVersionId := run.bestVersionId.or (some versionId) } }

/-- `_latest_evaluation_id`. -/
def latestEvaluation (versionId : ℕ) (db : StoryDatabase) : Except Error Evaluation :=
  match db.latestForVersion versionId with
  | none => .error (.invalidStateError "Version has not been evaluated")
  | some evaluation => .ok evaluation

/-! ### Ends and controls -/

/-- `_mark_paused`. -/
def markPaused (runId : ℕ) (node : String) (db : StoryDatabase) : Except Error StoryDatabase :=
  match db.runs[runId]? with
  | none => .error (.entityNotFoundError "Workflow run was not found")
  | some run =>
      if run.status ∈ terminalStatuses then .ok db
      else do
        let run ← transitionRun run .paused
        return { db with runs := db.runs.set runId { run with currentNode := node } }

/-- `_mark_failed_by_thread`. -/
def markFailed (runId : Option ℕ) (db : StoryDatabase) : Except Error StoryDatabase :=
  match runId.bind fun id => db.runs[id]?.map (id, ·) with
  | none => .ok db
  | some (id, run) =>
      if run.status ∈ terminalStatuses then .ok db
      else do
        let run ← transitionRun run .failed
        return { db with
          runs := db.runs.set id run
          chapters := db.chapters.modify run.chapterId closeChapter }

/-- The reading half of `_mark_budget_blocked_by_thread`: the run to leave to a human. -/
def budgetBlocked (runId : Option ℕ) (db : StoryDatabase) : Option ℕ :=
  runId.filter fun id => db.runs[id]?.any fun run =>
    decide (run.status ∉ terminalStatuses) && run.bestVersionId.isSome

/-- The transaction of `resume`. -/
def resume (runId : ℕ) (db : StoryDatabase) : Except Error StoryDatabase :=
  match db.runs[runId]? with
  | none =>
      .error (.entityNotFoundError ("Workflow run " ++ toString runId ++ " was not found"))
  | some run =>
      if run.status ≠ .paused then
        .error (.other "WorkflowNotResumableError" "Only paused workflows can be resumed")
      else do
        let run ← transitionRun run .running
        return { db with runs := db.runs.set runId run }

/-- The transaction of `cancel`. -/
def cancel (runId : ℕ) (db : StoryDatabase) : Except Error StoryDatabase :=
  match db.runs[runId]? with
  | none =>
      .error (.entityNotFoundError ("Workflow run " ++ toString runId ++ " was not found"))
  | some run => do
      let run ← transitionRun run .cancelled
      return { db with
        runs := db.runs.set runId { run with currentNode := "cancelled" }
        chapters := db.chapters.modify run.chapterId closeChapter }

/-- The status that `get_status` and `_status_by_thread` return; they differ in what they
say of a run that does not exist. -/
def status (missing : Error) (runId : Option ℕ) (db : StoryDatabase) :
    Except Error WorkflowRunStatus :=
  match runId.bind fun id => db.runs[id]? with
  | none => .error missing
  | some run =>
      match db.chapters[run.chapterId]? with
      | none => .error (.entityNotFoundError "Workflow chapter was not found")
      | some _ => .ok run.status

/-- `_cancel_linked_workflow`, called for a job. -/
def cancelLinked (job : Job) (now : Time) (db : StoryDatabase) : Except Error StoryDatabase :=
  (JobService.cancelLinkedWorkflow ⟨db.jobTables .empty, 0, job⟩ now).map fun s =>
    db.absorb s.db

/-- What the recovery of an expired lease does to the run of its job. -/
def recoverLease (job : Job) (db : StoryDatabase) : Except Error StoryDatabase :=
  (JobExecutor.pauseWorkflow (db.jobTables .empty) job.workflowRunId).map db.absorb

end ChapterWorkflowService

/-! ### Statuses -/

namespace StoryDatabase

variable {db db' : StoryDatabase}

/-- The statuses of the workflow runs. -/
def statuses (db : StoryDatabase) : List WorkflowRunStatus := db.runs.map (·.status)

@[simp] theorem length_statuses (db : StoryDatabase) :
    db.statuses.length = db.runs.length := by simp [statuses]

theorem getElem?_statuses (db : StoryDatabase) (r : ℕ) :
    db.statuses[r]? = db.runs[r]?.map (·.status) := by simp [statuses]

/-- An update of one run that keeps its status. -/
theorem statuses_of_modify {r : ℕ} {f : StoryRun → StoryRun}
    (hruns : db'.runs = db.runs.modify r f) (hf : ∀ run, (f run).status = run.status) :
    db'.statuses = db.statuses := by
  apply List.ext_getElem?
  intro i
  rw [getElem?_statuses, getElem?_statuses, hruns, List.getElem?_modify]
  by_cases hi : r = i
  · subst hi
    cases hrun : db.runs[r]? with
    | none => simp
    | some run => simp [hf]
  · simp [hi]

/-- An update of one run that sets its status. -/
theorem statuses_of_modify_set {r : ℕ} {f : StoryRun → StoryRun} {status : WorkflowRunStatus}
    (hruns : db'.runs = db.runs.modify r f) (hf : ∀ run, (f run).status = status) :
    db'.statuses = db.statuses.set r status := by
  apply List.ext_getElem?
  intro i
  rw [getElem?_statuses, hruns, List.getElem?_modify, List.getElem?_set, length_statuses,
    getElem?_statuses]
  by_cases hi : r = i
  · subst hi
    by_cases hr : r < db.runs.length
    · simp [hr, hf]
    · simp [hr]
  · simp [hi]

/-- A run written back. -/
theorem statuses_of_set {r : ℕ} {run : StoryRun} {status : WorkflowRunStatus}
    (hruns : db'.runs = db.runs.set r run) (hstatus : run.status = status) :
    db'.statuses = db.statuses.set r status := by
  simp only [statuses, hruns, List.map_set, hstatus]

theorem statuses_of_runs (hruns : db'.runs = db.runs) : db'.statuses = db.statuses := by
  simp only [statuses, hruns]

/-- The statuses after a job function are those it left in its rows. -/
theorem statuses_absorb (story : StoryDatabase) {rows : Database}
    (hlength : rows.workflowRuns.length = story.runs.length) :
    (story.absorb rows).statuses = rows.workflowRuns.map (·.status) := by
  apply List.ext_getElem?
  intro i
  rw [getElem?_statuses, absorb, List.getElem?_mapIdx, List.getElem?_map, Option.map_map]
  by_cases hi : i < story.runs.length
  · have hrow : i < rows.workflowRuns.length := by omega
    rw [List.getElem?_eq_getElem hi, List.getElem?_eq_getElem hrow]
    simp [absorbRun, List.getElem?_eq_getElem hrow]
  · have hrow : rows.workflowRuns.length ≤ i := by omega
    rw [List.getElem?_eq_none (Nat.not_lt.mp hi), List.getElem?_eq_none hrow]
    rfl

theorem statuses_jobTables (story : StoryDatabase) (rows : Database) :
    (story.jobTables rows).workflowRuns.map (·.status) = story.statuses := by
  simp [jobTables, statuses, StoryRun.row, Function.comp_def]

/-- A job function that writes no workflow run changes no status. -/
theorem statuses_absorb_jobTables (story : StoryDatabase) (rows : Database) :
    (story.absorb (story.jobTables rows)).statuses = story.statuses := by
  rw [statuses_absorb _ (by simp [jobTables]), statuses_jobTables]

/-- A job function that writes one workflow run changes its status. -/
theorem statuses_absorb_set (story : StoryDatabase) {rows : Database} (base : Database) {r : ℕ}
    {row : WorkflowRun} {status : WorkflowRunStatus}
    (hrows : rows.workflowRuns = (story.jobTables base).workflowRuns.set r row)
    (hstatus : row.status = status) :
    (story.absorb rows).statuses = story.statuses.set r status := by
  rw [statuses_absorb _ (by simp [hrows, jobTables]), hrows, List.map_set, statuses_jobTables,
    hstatus]

/-- The status of a run is that of its row. -/
theorem getElem?_statuses_of_row (story : StoryDatabase) {rows : Database} {r : ℕ}
    {row : WorkflowRun} (hrow : (story.jobTables rows).workflowRuns[r]? = some row) :
    story.statuses[r]? = some row.status := by
  rw [← statuses_jobTables story rows, List.getElem?_map, hrow]
  rfl

end StoryDatabase

namespace ChapterWorkflowService

variable {db db' : StoryDatabase} {r : ℕ}

/-- Beginning a run keeps the runs there are, and adds a running one when the thread has
none. -/
theorem initializeWorkflow_eq_ok {state state' : ChapterWorkflowState} {runId : Option ℕ}
    (h : initializeWorkflow state runId db = .ok (r, state', db')) :
    runId = some r ∧ r < db.runs.length ∧ db' = db ∨
      (∀ id, runId = some id → db.runs.length ≤ id) ∧ r = db.runs.length ∧
        db'.statuses = db.statuses ++ [.running] := by
  unfold initializeWorkflow at h
  split at h
  · rename_i id run hrun
    obtain ⟨id', hid', hget⟩ := Option.bind_eq_some_iff.mp hrun
    obtain ⟨run', hrun', hpair⟩ := Option.map_eq_some_iff.mp hget
    obtain ⟨rfl, rfl⟩ := Prod.mk.inj hpair
    split at h
    · exact absurd h (by simp)
    · obtain ⟨rfl, -, rfl⟩ := Prod.mk.inj (Except.ok.inj h) |>.imp_right Prod.mk.inj
      exact .inl ⟨hid', (List.getElem?_eq_some_iff.mp hrun').1, rfl⟩
  · rename_i hnone
    split at h
    · split at h
      · exact absurd h (by simp)
      · obtain ⟨rfl, -, rfl⟩ := Prod.mk.inj (Except.ok.inj h) |>.imp_right Prod.mk.inj
        refine .inr ⟨?_, rfl, by simp [StoryDatabase.statuses, newRun]⟩
        rintro id rfl
        simpa using hnone
    · exact absurd h (by simp)

/-- A node is only entered by a run that is not cancelled. -/
theorem nodeStarted_eq_ok {node : WorkflowNode} (h : nodeStarted r node db = .ok db') :
    db'.statuses = db.statuses ∧ db.statuses[r]? ≠ some .cancelled := by
  unfold nodeStarted at h
  split at h
  · exact absurd h (by simp)
  · rename_i run hrun
    split at h
    · exact absurd h (by simp)
    · rename_i hstatus
      obtain rfl := Except.ok.inj h
      refine ⟨StoryDatabase.statuses_of_modify (r := r) rfl fun _ => rfl, ?_⟩
      rw [StoryDatabase.getElem?_statuses, hrun]
      simpa using hstatus

/-- A run is marked as paused along the table, or it has ended. -/
theorem markPaused_eq_ok {node : String} (h : markPaused r node db = .ok db') :
    ∃ status, db.statuses[r]? = some status ∧
      (status ∈ terminalStatuses ∧ db' = db ∨
        (status = .paused ∨ .paused ∈ status.allowed) ∧
          db'.statuses = db.statuses.set r .paused) := by
  unfold markPaused at h
  split at h
  · exact absurd h (by simp)
  · rename_i run hrun
    refine ⟨run.status, by rw [StoryDatabase.getElem?_statuses, hrun]; rfl, ?_⟩
    split at h
    · rename_i hterminal
      obtain rfl := Except.ok.inj h
      exact .inl ⟨hterminal, rfl⟩
    · obtain ⟨run', hrun', hok⟩ := Except.bind_eq_ok.mp h
      obtain ⟨rfl, hedge⟩ := transitionRun_eq_ok.mp hrun'
      obtain rfl := Except.ok.inj hok
      exact .inr ⟨hedge, StoryDatabase.statuses_of_set rfl rfl⟩

/-- A run is marked as failed along the table, or it has ended or never began. -/
theorem markFailed_eq_ok {runId : Option ℕ} (h : markFailed runId db = .ok db') :
    db' = db ∨ ∃ r status, runId = some r ∧ db.statuses[r]? = some status ∧
      (status = .failed ∨ .failed ∈ status.allowed) ∧
        db'.statuses = db.statuses.set r .failed := by
  unfold markFailed at h
  split at h
  · obtain rfl := Except.ok.inj h
    exact .inl rfl
  · rename_i id run hrun
    obtain ⟨id', hid', hget⟩ := Option.bind_eq_some_iff.mp hrun
    obtain ⟨run', hrun', hpair⟩ := Option.map_eq_some_iff.mp hget
    obtain ⟨rfl, rfl⟩ := Prod.mk.inj hpair
    split at h
    · obtain rfl := Except.ok.inj h
      exact .inl rfl
    · obtain ⟨run, hrun, hok⟩ := Except.bind_eq_ok.mp h
      obtain ⟨rfl, hedge⟩ := transitionRun_eq_ok.mp hrun
      obtain rfl := Except.ok.inj hok
      refine .inr ⟨id', run'.status, hid', ?_, hedge, StoryDatabase.statuses_of_set rfl rfl⟩
      rw [StoryDatabase.getElem?_statuses, hrun']
      rfl

/-- Only a paused run is resumed, and it is running then. -/
theorem resume_eq_ok (h : resume r db = .ok db') :
    db.statuses[r]? = some .paused ∧ db'.statuses = db.statuses.set r .running := by
  unfold resume at h
  split at h
  · exact absurd h (by simp)
  · rename_i run hrun
    split at h
    · exact absurd h (by simp)
    · rename_i hstatus
      obtain ⟨run', hrun', hok⟩ := Except.bind_eq_ok.mp h
      obtain ⟨rfl, -⟩ := transitionRun_eq_ok.mp hrun'
      obtain rfl := Except.ok.inj hok
      refine ⟨?_, StoryDatabase.statuses_of_set rfl rfl⟩
      rw [StoryDatabase.getElem?_statuses, hrun, Option.map_some, not_not.mp hstatus]

/-- A run is cancelled along the table. -/
theorem cancel_eq_ok (h : cancel r db = .ok db') :
    ∃ status, db.statuses[r]? = some status ∧
      (status = .cancelled ∨ .cancelled ∈ status.allowed) ∧
        db'.statuses = db.statuses.set r .cancelled := by
  unfold cancel at h
  split at h
  · exact absurd h (by simp)
  · rename_i run hrun
    obtain ⟨run', hrun', hok⟩ := Except.bind_eq_ok.mp h
    obtain ⟨rfl, hedge⟩ := transitionRun_eq_ok.mp hrun'
    obtain rfl := Except.ok.inj hok
    refine ⟨run.status, ?_, hedge, StoryDatabase.statuses_of_set rfl rfl⟩
    rw [StoryDatabase.getElem?_statuses, hrun]
    rfl

/-- The run that is left to a human is a live one. -/
theorem budgetBlocked_eq_some {runId : Option ℕ} (h : budgetBlocked runId db = some r) :
    runId = some r ∧ ∃ status, db.statuses[r]? = some status ∧ status ∉ terminalStatuses := by
  obtain ⟨hid, hlive⟩ := Option.filter_eq_some_iff.mp h
  refine ⟨hid, ?_⟩
  obtain ⟨run, hrun, hstatus⟩ := Option.any_eq_true _ _ |>.mp hlive
  simp only [Bool.and_eq_true, decide_eq_true_eq] at hstatus
  exact ⟨run.status, by rw [StoryDatabase.getElem?_statuses, hrun]; rfl, hstatus.1⟩

/-- The run of a job is cancelled along the table, if it is live. -/
theorem cancelLinked_eq_ok {job : Job} {now : Time} (h : cancelLinked job now db = .ok db') :
    db'.statuses = db.statuses ∨
      ∃ r status, job.workflowRunId = some r ∧ db.statuses[r]? = some status ∧
        .cancelled ∈ status.allowed ∧ db'.statuses = db.statuses.set r .cancelled := by
  obtain ⟨s, hs, rfl⟩ := Except.map_eq_ok.mp h
  unfold JobService.cancelLinkedWorkflow at hs
  split at hs
  · obtain rfl := Except.ok.inj hs
    exact .inl (StoryDatabase.statuses_absorb_jobTables _ _)
  · rename_i r hr
    split at hs
    · obtain rfl := Except.ok.inj hs
      exact .inl (StoryDatabase.statuses_absorb_jobTables _ _)
    · rename_i row hrow
      split at hs
      · obtain rfl := Except.ok.inj hs
        exact .inl (StoryDatabase.statuses_absorb_jobTables _ _)
      · rename_i hlive
        have hedge : .cancelled ∈ row.status.allowed ∧ row.status ≠ .cancelled := by
          revert hlive
          cases row.status <;> simp [WorkflowRunStatus.allowed]
        rw [transitionWorkflow_of_allowed hedge.1 hedge.2] at hs
        obtain rfl := Except.ok.inj hs
        exact .inr ⟨r, row.status, hr, db.getElem?_statuses_of_row hrow, hedge.1,
          db.statuses_absorb_set .empty rfl rfl⟩

/-- The recovery of a lease pauses the run of its job, if it is running. -/
theorem recoverLease_eq_ok {job : Job} (h : recoverLease job db = .ok db') :
    db'.statuses = db.statuses ∨
      ∃ r, job.workflowRunId = some r ∧ db.statuses[r]? = some .running ∧
        db'.statuses = db.statuses.set r .paused := by
  obtain ⟨rows, hrows, rfl⟩ := Except.map_eq_ok.mp h
  unfold JobExecutor.pauseWorkflow at hrows
  split at hrows
  · obtain rfl := Except.ok.inj hrows
    exact .inl (StoryDatabase.statuses_absorb_jobTables _ _)
  · rename_i r hr
    split at hrows
    · obtain rfl := Except.ok.inj hrows
      exact .inl (StoryDatabase.statuses_absorb_jobTables _ _)
    · rename_i row hrow
      split at hrows
      · obtain rfl := Except.ok.inj hrows
        exact .inl (StoryDatabase.statuses_absorb_jobTables _ _)
      · rename_i hlive
        have hrunning : row.status = .running := not_not.mp hlive
        have hstatus := db.getElem?_statuses_of_row hrow
        rw [hrunning] at hstatus
        rw [transitionWorkflow_of_allowed (by rw [hrunning]; decide)
          (by rw [hrunning]; decide)] at hrows
        obtain rfl := Except.ok.inj hrows
        exact .inr ⟨r, hr, hstatus, db.statuses_absorb_set .empty rfl rfl⟩

end ChapterWorkflowService

end StoryForge
