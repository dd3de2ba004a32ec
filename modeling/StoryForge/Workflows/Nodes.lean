import StoryForge.Chapters.System
import StoryForge.Workflows.Service

/-!
# The nodes of the chapter graph

What a node does between its start and its end. A node that asks an agent reads in one
transaction and writes in a later one; a `Stage` is what it remembers in between. Each step
of a node is one transaction, and the outside says with what the agents answer. Audit
events, which nothing here reads, are left out.

## Main results

* `acceptVersion_eq_ok`, `markNeedsReview_eq_ok` — the two transactions that complete a run
  do so whatever its status was;
* `actionStep_of_quiet` — every node but those two leaves the statuses of the runs alone;
* `actionStep_of_finishing` — those two complete the run or write nothing.
-/

namespace StoryForge

/-- What the outside decides at a step: an answer of an agent, a control signal raised by
the callback of the caller, or any other exception. -/
inductive NodeInput
  | proceed
  | drafted (draft : Draft)
  | extracted (extraction : Extraction)
  | evaluated (scores : CombinedScores)
  | criticFailed (scores : LocalScores)
  | evaluatorsFailed
  | pauseRequested
  | cancelRequested
  | failed (error : Error)
  deriving DecidableEq, Repr

/-- What a node remembers between two of its transactions. -/
inductive Stage
  | start
  | drafting
  | extracting (versionId : ℕ)
  | markEvaluating (request : EvaluationRequest) (loaded : LoadedEvaluation)
  | evaluating (request : EvaluationRequest) (loaded : LoadedEvaluation)
  | markFailed (loaded : LoadedEvaluation) (error : Error)
  | recording (evaluation : Evaluation)
  | revising (sourceVersionId revisionAttempt : ℕ)
  deriving DecidableEq, Repr

/-- How a step of a node ends. -/
inductive ActionResult
  | next (stage : Stage)
  | done (state : ChapterWorkflowState)
  | raised (error : Error)
  deriving DecidableEq, Repr

namespace ChapterWorkflowService

/-- A transaction that raises is rolled back, and the node raises. -/
def commit (db : StoryDatabase) (result : Except Error (ActionResult × StoryDatabase)) :
    ActionResult × StoryDatabase :=
  match result with
  | .ok written => written
  | .error error => (.raised error, db)

/-- A step that only reads. -/
def reading (db : StoryDatabase) (result : Except Error ActionResult) :
    ActionResult × StoryDatabase :=
  commit db (result.map (·, db))

/-- A document of the state that a node reads; `state[key]`. -/
def requiredKey {α : Type} (value : Option α) (key : String) : Except Error α :=
  match value with
  | some value => .ok value
  | none => .error (.other "KeyError" key)

/-- The rows `load_context` needs. -/
def loadContext (state : ChapterWorkflowState) (db : StoryDatabase) : Except Error Unit :=
  if db.projects[state.projectId]?.isNone then
    .error (.entityNotFoundError ("Project " ++ toString state.projectId ++ " was not found"))
  else if (db.findChapter state.projectId state.chapterNumber).isNone then
    .error (.entityNotFoundError ("Chapter " ++ toString state.chapterNumber ++
      " was not found for project " ++ toString state.projectId))
  else .ok ()

/-! ### Drafts and revisions -/

/-- The state after `generate_draft`. -/
def drafted (state : ChapterWorkflowState) (versionId : ℕ) : ChapterWorkflowState :=
  { state with
    originalVersionId := state.originalVersionId.or (some versionId)
    currentVersionId := some versionId
    bestVersionId := state.bestVersionId.or (some versionId) }

/-- The version written, or found, under a key. -/
def versionOf (db : StoryDatabase) (key : String) : Except Error ℕ :=
  match db.versionByKey key with
  | some id => .ok id
  | none => .error (.runtimeError "Chapter version disappeared")

/-- `_generate_draft`. -/
def generateDraft (state : ChapterWorkflowState) (runId : ℕ) (stage : Stage) (input : NodeInput)
    (db : StoryDatabase) : Option (ActionResult × StoryDatabase) :=
  match stage, input with
  | .start, .proceed =>
      some (reading db (do
        loadContext state db
        match ← ChapterVersionService.reusableVersion state.projectId state.chapterNumber runId
            db with
        | some id => return .done (drafted state id)
        | none => return .next .drafting))
  | .drafting, .drafted draft =>
      some (commit db (do
        let db' ← ChapterVersionService.ensureInitialVersion state.projectId
          state.chapterNumber runId draft db
        let id ← versionOf db' (ChapterVersionService.draftKey runId)
        return (.done (drafted state id), db')))
  | _, _ => none

/-- The state after `revise_draft`. -/
def revised (state : ChapterWorkflowState) (sourceVersionId versionId revisionAttempt : ℕ) :
    ChapterWorkflowState :=
  { state with
    comparisonBaseVersionId := some sourceVersionId
    currentVersionId := some versionId
    revisionAttempt }

/-- `_revise_draft`. -/
def reviseDraft (state : ChapterWorkflowState) (runId : ℕ) (stage : Stage) (input : NodeInput)
    (db : StoryDatabase) : Option (ActionResult × StoryDatabase) :=
  match stage, input with
  | .start, .proceed =>
      some (reading db (do
        let attempt ← requiredKey state.briefAttempt "revision_brief"
        let source ← requiredId state.currentVersionId "current_version_id"
        loadContext state db
        if ← ChapterVersionService.revisionDue runId source attempt db then
          return .next (.revising source attempt)
        else
          let id ← versionOf db (ChapterVersionService.revisionKey runId attempt)
          return .done (revised state source id attempt)))
  | .revising source attempt, .drafted draft =>
      some (commit db (do
        let db' ← ChapterVersionService.revise runId source attempt draft db
        let id ← versionOf db' (ChapterVersionService.revisionKey runId attempt)
        return (.done (revised state source id attempt), db')))
  | _, _ => none

/-- `_extract_facts` and `_extract_revision_facts`. -/
def extractFacts (services : StoryServices) (state : ChapterWorkflowState) (runId : ℕ)
    (stage : Stage) (input : NodeInput) (db : StoryDatabase) :
    Option (ActionResult × StoryDatabase) :=
  match stage, input with
  | .start, .proceed =>
      some (reading db (do
        let versionId ← requiredId state.currentVersionId "current_version_id"
        if ← ChapterVersionService.extractionDue versionId db then
          return .next (.extracting versionId)
        else
          return .done state))
  | .extracting versionId, .extracted extraction =>
      some (commit db (do
        let db' ← ChapterVersionService.extractCandidateFacts services.normalizer versionId
          runId extraction db
        return (.done state, db')))
  | _, _ => none

/-! ### Evaluation -/

/-- The key of an evaluation in a run. -/
def evaluationKey (runId : ℕ) (node : WorkflowNode) (attempt : ℕ) : String :=
  "workflow:" ++ toString runId ++ ":" ++ node.value ++ ":" ++ toString attempt

/-- What `_evaluate_node` asks for. -/
def evaluationRequest (state : ChapterWorkflowState) (runId versionId : ℕ)
    (node : WorkflowNode) : EvaluationRequest where
  projectId := state.projectId
  chapterNumber := state.chapterNumber
  chapterVersionId := some versionId
  workflowRunId := some runId
  idempotencyKey := some (evaluationKey runId node state.revisionAttempt)

/-- The attempt saved under the key of a request. -/
def savedEvaluation (request : EvaluationRequest) (db : StoryDatabase) : Except Error Evaluation :=
  match EvaluationService.existingResult request db with
  | some evaluation => .ok evaluation
  | none => .error (.entityNotFoundError "Workflow evaluation was not found")

/-- The state after an evaluation. -/
def evaluated (state : ChapterWorkflowState) (evaluation : Evaluation) : ChapterWorkflowState :=
  { state with
    currentEvaluation := some evaluation.payload
    blockingReasons := evaluation.blockingReasons }

/-- What follows a transaction that saved an attempt: a refused commit is marked as a
failure of the evaluation. -/
def saved (loaded : LoadedEvaluation) (db : StoryDatabase) (result : Except Error StoryDatabase)
    (after : StoryDatabase → Except Error ActionResult) : ActionResult × StoryDatabase :=
  match result with
  | .ok db' =>
      match after db' with
      | .ok result => (result, db')
      | .error error => (.raised error, db')
  | .error error =>
      if StorySystem.isDatabaseError error then
        (.next (.markFailed loaded (.other "EvaluationError" "Evaluation persistence failed")), db)
      else (.raised error, db)

/-- `_evaluate_node`, with `EvaluationService.evaluate`. -/
def evaluateNode (state : ChapterWorkflowState) (runId : ℕ) (node : WorkflowNode) (stage : Stage)
    (input : NodeInput) (db : StoryDatabase) : Option (ActionResult × StoryDatabase) :=
  match stage, input with
  | .start, .proceed =>
      some (reading db (do
        let versionId ← requiredId state.currentVersionId "current_version_id"
        let request := evaluationRequest state runId versionId node
        match EvaluationService.existingResult request db with
        | some evaluation => return .next (.recording evaluation)
        | none =>
            let loaded ← EvaluationService.loadContext request db
            return .next (.markEvaluating request loaded)))
  | .markEvaluating request loaded, .proceed =>
      some (commit db (do
        let db' ← EvaluationService.markEvaluating loaded db
        return (.next (.evaluating request loaded), db')))
  | .evaluating request loaded, .evaluated scores =>
      some (saved loaded db (EvaluationService.persistComplete loaded scores db) fun db' => do
        let evaluation ← savedEvaluation request db'
        return .next (.recording evaluation))
  | .evaluating _ loaded, .criticFailed scores =>
      some (saved loaded db (EvaluationService.persistPartial loaded scores db) fun _ =>
        .ok (.raised (.other "EvaluationError"
          "CriticAgent failed; local evaluation results were preserved")))
  | .evaluating _ loaded, .evaluatorsFailed =>
      some (.next (.markFailed loaded
        (.other "EvaluationError" "Local chapter evaluation failed")), db)
  | .markFailed loaded error, .proceed =>
      some (.raised error, EvaluationService.markFailed loaded db)
  | .recording evaluation, .proceed =>
      some (commit db (do
        let versionId ← requiredId state.currentVersionId "current_version_id"
        return (.done (evaluated state evaluation), recordEvaluation runId versionId db)))
  | _, _ => none

/-! ### The other nodes -/

/-- `_build_revision_brief`: the rows the brief is built from must exist. -/
def buildRevisionBrief (state : ChapterWorkflowState) (runId : ℕ) (db : StoryDatabase) :
    Except Error ActionResult := do
  match state.bestVersionId.or state.currentVersionId with
  | none => throw (.invalidStateError "No source version is available for revision")
  | some source =>
      let _ ← latestEvaluation source db
      match db.versions[source]?, db.runs[runId]? with
      | some version, some run =>
          if db.chapters[version.chapterId]?.isNone ∨ db.projects[run.projectId]?.isNone then
            throw (.entityNotFoundError "Revision brief chapter or project was not found")
          else
            return .done { state with
              currentVersionId := some source
              briefAttempt := some (state.revisionAttempt + 1) }
      | _, _ => throw (.entityNotFoundError "Revision brief inputs were not found")

/-- The decision stored for a new version of a run. -/
def storedDecision (runId newVersionId : ℕ) (db : StoryDatabase) : Option String :=
  (db.comparisons.find? fun comparison =>
    comparison.workflowRunId == runId && comparison.newVersionId == newVersionId).map (·.decision)

/-- `_compare_versions`. -/
def compareVersions (services : StoryServices) (state : ChapterWorkflowState) (runId : ℕ)
    (db : StoryDatabase) : Except Error (ActionResult × StoryDatabase) := do
  let base ← requiredId state.comparisonBaseVersionId "comparison_base_version_id"
  let current ← requiredId state.currentVersionId "current_version_id"
  let db' ← ChapterVersionService.compareVersions services.acceptance runId base current db
  return (.done { state with
    decision := storedDecision runId current db'
    bestVersionId :=
      match db'.runs[runId]? with
      | some run => run.bestVersionId
      | none => state.bestVersionId }, db')

/-- The best version is never rejected. -/
def rejectUnlessBest (runId current best : ℕ) (db : StoryDatabase) : Except Error StoryDatabase :=
  if current = best then .ok db else ChapterVersionService.rejectRevision runId current db

/-- The version that is current after a rejection; the rejection has written it to the run. -/
def currentAfter (runId current best : ℕ) (db : StoryDatabase) : ℕ :=
  if current = best then best else (db.runs[runId]?.bind (·.currentVersionId)).getD best

/-- What `_reject_revision` returns. The version that is current again must have been
evaluated. -/
def rejectionResult (state : ChapterWorkflowState) (versionId : ℕ) (db : StoryDatabase) :
    ActionResult :=
  match latestEvaluation versionId db with
  | .ok _ => .done { state with currentVersionId := some versionId }
  | .error error => .raised error

/-- `_reject_revision`. -/
def rejectRevision (state : ChapterWorkflowState) (runId : ℕ) (db : StoryDatabase) :
    Except Error (ActionResult × StoryDatabase) := do
  let current ← requiredId state.currentVersionId "current_version_id"
  let best ← requiredId state.bestVersionId "best_version_id"
  let db' ← rejectUnlessBest runId current best db
  return (rejectionResult state (currentAfter runId current best db') db', db')

/-- `_accept_version`. -/
def acceptVersion (state : ChapterWorkflowState) (runId : ℕ) (db : StoryDatabase) :
    Except Error (ActionResult × StoryDatabase) := do
  let versionId ← requiredId state.currentVersionId "current_version_id"
  let db' ← ChapterVersionService.acceptVersion runId versionId db
  return (.done { state with
    acceptedVersionId := some versionId
    bestVersionId := some versionId }, db')

/-- `_mark_needs_human_review`. -/
def markNeedsHumanReview (state : ChapterWorkflowState) (runId : ℕ) (db : StoryDatabase) :
    Except Error (ActionResult × StoryDatabase) := do
  let db' ← ChapterVersionService.markNeedsReview runId db
  let best := db.runs[runId]?.bind (·.bestVersionId)
  return (.done { state with currentVersionId := best, bestVersionId := best }, db')

/-- A node that makes one transaction. -/
def once (db : StoryDatabase) (stage : Stage) (input : NodeInput)
    (result : Except Error (ActionResult × StoryDatabase)) : Option (ActionResult × StoryDatabase) :=
  match stage, input with
  | .start, .proceed => some (commit db result)
  | _, _ => none

/-- The next transaction of a node. `initialize_workflow` and `fail_workflow` are not
wrapped as nodes. -/
def actionStep (services : StoryServices) (state : ChapterWorkflowState) (runId : ℕ)
    (node : WorkflowNode) (stage : Stage) (input : NodeInput) (db : StoryDatabase) :
    Option (ActionResult × StoryDatabase) :=
  match node with
  | .initializeWorkflow | .failWorkflow => none
  | .loadContext =>
      once db stage input ((loadContext state db).map fun _ => (.done state, db))
  | .generateDraft => generateDraft state runId stage input db
  | .extractFacts | .extractRevisionFacts => extractFacts services state runId stage input db
  | .evaluateDraft | .evaluateRevision => evaluateNode state runId node stage input db
  | .decideAfterEvaluation =>
      once db stage input ((requiredKey state.currentEvaluation "current_evaluation").map
        fun evaluation =>
          (.done { state with route := some (decideAfterEvaluation state evaluation) }, db))
  | .buildRevisionBrief =>
      once db stage input ((buildRevisionBrief state runId db).map (·, db))
  | .reviseDraft => reviseDraft state runId stage input db
  | .compareVersions => once db stage input (compareVersions services state runId db)
  | .decideAfterComparison =>
      once db stage input ((requiredKey state.decision "comparison").map
        fun decision =>
          (.done { state with route := some (decideAfterComparison state decision) }, db))
  | .rejectRevision => once db stage input (rejectRevision state runId db)
  | .acceptVersion => once db stage input (acceptVersion state runId db)
  | .markNeedsHumanReview => once db stage input (markNeedsHumanReview state runId db)

end ChapterWorkflowService

/-! ### What the chapter services leave alone -/

section Statuses

variable {db db' : StoryDatabase} {r v : ℕ}

open StoryDatabase

theorem ChapterVersionService.ensureInitialVersion_statuses {projectId chapterNumber : ℕ}
    {draft : Draft} (h : ensureInitialVersion projectId chapterNumber r draft db = .ok db') :
    db'.statuses = db.statuses := by
  rw [ensureInitialVersion] at h
  split at h
  · exact absurd h (by simp)
  · split at h
    · exact statuses_of_runs (by rw [← Except.ok.inj h])
    · split at h
      · exact absurd h (by simp)
      · obtain rfl := Except.ok.inj h
        exact statuses_of_modify (r := r) rfl fun _ => rfl

theorem ChapterVersionService.revise_statuses {attempt : ℕ} {draft : Draft}
    (h : revise r v attempt draft db = .ok db') : db'.statuses = db.statuses := by
  rw [revise] at h
  split at h
  · exact statuses_of_runs (by rw [← Except.ok.inj h])
  · split at h
    · exact absurd h (by simp)
    · split at h
      · exact absurd h (by simp)
      · obtain rfl := Except.ok.inj h
        exact statuses_of_modify (r := r) rfl fun _ => rfl

theorem ChapterVersionService.extractCandidateFacts_statuses {normalizer : FactNormalizer}
    {extraction : Extraction} (h : extractCandidateFacts normalizer v r extraction db = .ok db') :
    db'.statuses = db.statuses := by
  rw [extractCandidateFacts] at h
  split at h
  · exact absurd h (by simp)
  · split at h
    · exact statuses_of_runs (by rw [← Except.ok.inj h])
    · split at h
      · exact absurd h (by simp)
      · exact statuses_of_runs (by rw [← Except.ok.inj h])

theorem ChapterVersionService.compareVersions_statuses
    {acceptance : AcceptanceEvaluator} {base : ℕ}
    (h : compareVersions acceptance r base v db = .ok db') : db'.statuses = db.statuses := by
  rw [compareVersions] at h
  split at h
  · exact statuses_of_runs (by rw [← Except.ok.inj h])
  · dsimp only at h
    split at h
    · obtain rfl := Except.ok.inj h
      exact statuses_of_modify (r := r) rfl fun _ => rfl
    · exact absurd h (by simp)

theorem ChapterVersionService.rejectRevision_statuses (h : rejectRevision r v db = .ok db') :
    db'.statuses = db.statuses := by
  rw [rejectRevision] at h
  split at h
  · obtain rfl := Except.ok.inj h
    exact statuses_of_modify (r := r) rfl fun _ => rfl
  · exact absurd h (by simp)

theorem EvaluationService.markEvaluating_statuses {loaded : LoadedEvaluation}
    (h : markEvaluating loaded db = .ok db') : db'.statuses = db.statuses := by
  rw [markEvaluating] at h
  split at h
  · exact absurd h (by simp)
  · split at h
    · exact absurd h (by simp)
    · exact statuses_of_runs (by rw [← Except.ok.inj h])

theorem EvaluationService.persist_statuses {loaded : LoadedEvaluation} {evaluation : Evaluation}
    {close : StoryChapter → StoryChapter} (h : persist loaded evaluation close db = .ok db') :
    db'.statuses = db.statuses := by
  rw [persist] at h
  split at h
  · exact absurd h (by simp)
  · split at h
    · exact absurd h (by simp)
    · split at h
      · exact absurd h (by simp)
      · split at h
        · exact absurd h (by simp)
        · exact statuses_of_runs (by rw [← Except.ok.inj h])

/-- What accepting a version does to the run: nothing when it is already the accepted
version of a completed run, and else the run is completed, whatever its status was. -/
theorem ChapterVersionService.acceptVersion_eq_ok (h : acceptVersion r v db = .ok db') :
    db' = db ∧ db.statuses[r]? = some .completed ∨
      ∃ status, db.statuses[r]? = some status ∧
        db'.statuses = db.statuses.set r .completed := by
  rw [acceptVersion] at h
  split at h
  · rename_i run version hrun hversion
    have hstatus : db.statuses[r]? = some run.status := by
      rw [getElem?_statuses, hrun]
      rfl
    split at h
    · rename_i hdone
      exact .inl ⟨(Except.ok.inj h).symm, by rw [hstatus, hdone.1]⟩
    · split at h
      · obtain rfl := Except.ok.inj h
        exact .inr ⟨run.status, hstatus, statuses_of_modify_set rfl fun _ => rfl⟩
      · exact absurd h (by simp)
  · exact absurd h (by simp)

/-- What leaving a run to a human does to it: it is completed, whatever its status was. -/
theorem ChapterVersionService.markNeedsReview_eq_ok (h : markNeedsReview r db = .ok db') :
    ∃ status, db.statuses[r]? = some status ∧
      db'.statuses = db.statuses.set r .completedNeedsReview := by
  rw [markNeedsReview] at h
  split at h
  · exact absurd h (by simp)
  · rename_i bestId hbest
    obtain ⟨run, hrun, -⟩ := Option.bind_eq_some_iff.mp hbest
    split at h
    · exact absurd h (by simp)
    · split at h
      · exact absurd h (by simp)
      · obtain rfl := Except.ok.inj h
        refine ⟨run.status, ?_, statuses_of_modify_set rfl fun _ => rfl⟩
        rw [getElem?_statuses, hrun]
        rfl

/-! ### What the nodes write -/

namespace ChapterWorkflowService

variable {services : StoryServices} {state : ChapterWorkflowState} {node : WorkflowNode}
  {stage : Stage} {input : NodeInput} {written : ActionResult × StoryDatabase}
  {outcome : Except Error (ActionResult × StoryDatabase)}

theorem commit_statuses
    (h : ∀ result db', outcome = .ok (result, db') → db'.statuses = db.statuses) :
    (commit db outcome).2.statuses = db.statuses := by
  cases outcome with
  | error error => rfl
  | ok written => exact h written.1 written.2 rfl

theorem reading_statuses (read : Except Error ActionResult) :
    (reading db read).2.statuses = db.statuses := by
  cases read with
  | error error => rfl
  | ok result => rfl

theorem saved_statuses {loaded : LoadedEvaluation} {saves : Except Error StoryDatabase}
    {after : StoryDatabase → Except Error ActionResult}
    (h : ∀ db', saves = .ok db' → db'.statuses = db.statuses) :
    (saved loaded db saves after).2.statuses = db.statuses := by
  cases saves with
  | ok db' =>
      have hstatuses := h db' rfl
      simp only [saved]
      cases after db' with
      | ok result => exact hstatuses
      | error error => exact hstatuses
  | error error =>
      simp only [saved]
      split
      · rfl
      · rfl

/-- A node that makes one transaction makes it at its start. -/
theorem once_eq_some (h : once db stage input outcome = some written) :
    written = commit db outcome := by
  unfold once at h
  split at h
  · exact (Option.some.inj h).symm
  · exact absurd h (by simp)

theorem once_statuses (h : once db stage input outcome = some written)
    (houtcome : ∀ result db', outcome = .ok (result, db') → db'.statuses = db.statuses) :
    written.2.statuses = db.statuses := by
  rw [once_eq_some h]
  exact commit_statuses houtcome

/-- A node that only reads, in one step. -/
theorem once_reading {read : Except Error ActionResult}
    (h : once db stage input (read.map (·, db)) = some written) :
    written.2.statuses = db.statuses := by
  rw [once_eq_some h]
  exact reading_statuses read

theorem generateDraft_statuses (h : generateDraft state r stage input db = some written) :
    written.2.statuses = db.statuses := by
  unfold generateDraft at h
  split at h
  · obtain rfl := Option.some.inj h
    exact reading_statuses _
  · obtain rfl := Option.some.inj h
    apply commit_statuses
    intro result db' hok
    obtain ⟨db'', hdb'', hrest⟩ := Except.bind_eq_ok.mp hok
    obtain ⟨id, -, hdone⟩ := Except.bind_eq_ok.mp hrest
    obtain ⟨-, rfl⟩ := Prod.mk.inj (Except.ok.inj hdone)
    exact ChapterVersionService.ensureInitialVersion_statuses hdb''
  · exact absurd h (by simp)

theorem reviseDraft_statuses (h : reviseDraft state r stage input db = some written) :
    written.2.statuses = db.statuses := by
  unfold reviseDraft at h
  split at h
  · obtain rfl := Option.some.inj h
    exact reading_statuses _
  · obtain rfl := Option.some.inj h
    apply commit_statuses
    intro result db' hok
    obtain ⟨db'', hdb'', hrest⟩ := Except.bind_eq_ok.mp hok
    obtain ⟨id, -, hdone⟩ := Except.bind_eq_ok.mp hrest
    obtain ⟨-, rfl⟩ := Prod.mk.inj (Except.ok.inj hdone)
    exact ChapterVersionService.revise_statuses hdb''
  · exact absurd h (by simp)

theorem extractFacts_statuses (h : extractFacts services state r stage input db = some written) :
    written.2.statuses = db.statuses := by
  unfold extractFacts at h
  split at h
  · obtain rfl := Option.some.inj h
    exact reading_statuses _
  · obtain rfl := Option.some.inj h
    apply commit_statuses
    intro result db' hok
    obtain ⟨db'', hdb'', hdone⟩ := Except.bind_eq_ok.mp hok
    obtain ⟨-, rfl⟩ := Prod.mk.inj (Except.ok.inj hdone)
    exact ChapterVersionService.extractCandidateFacts_statuses hdb''
  · exact absurd h (by simp)

theorem evaluateNode_statuses (h : evaluateNode state r node stage input db = some written) :
    written.2.statuses = db.statuses := by
  unfold evaluateNode at h
  split at h
  · obtain rfl := Option.some.inj h
    exact reading_statuses _
  · obtain rfl := Option.some.inj h
    apply commit_statuses
    intro result db' hok
    obtain ⟨db'', hdb'', hnext⟩ := Except.bind_eq_ok.mp hok
    obtain ⟨-, rfl⟩ := Prod.mk.inj (Except.ok.inj hnext)
    exact EvaluationService.markEvaluating_statuses hdb''
  · obtain rfl := Option.some.inj h
    exact saved_statuses fun _ => EvaluationService.persist_statuses
  · obtain rfl := Option.some.inj h
    exact saved_statuses fun _ => EvaluationService.persist_statuses
  · obtain rfl := Option.some.inj h
    rfl
  · obtain rfl := Option.some.inj h
    rfl
  · obtain rfl := Option.some.inj h
    apply commit_statuses
    intro result db' hok
    obtain ⟨versionId, -, hdone⟩ := Except.bind_eq_ok.mp hok
    obtain ⟨-, rfl⟩ := Prod.mk.inj (Except.ok.inj hdone)
    exact statuses_of_modify (r := r) rfl fun _ => rfl
  · exact absurd h (by simp)

theorem compareVersions_statuses {result : ActionResult}
    (h : compareVersions services state r db = .ok (result, db')) :
    db'.statuses = db.statuses := by
  obtain ⟨base, -, h⟩ := Except.bind_eq_ok.mp h
  obtain ⟨current, -, h⟩ := Except.bind_eq_ok.mp h
  obtain ⟨db'', hdb'', hdone⟩ := Except.bind_eq_ok.mp h
  obtain ⟨-, rfl⟩ := Prod.mk.inj (Except.ok.inj hdone)
  exact ChapterVersionService.compareVersions_statuses hdb''

theorem rejectRevision_statuses {result : ActionResult}
    (h : rejectRevision state r db = .ok (result, db')) : db'.statuses = db.statuses := by
  obtain ⟨current, -, h⟩ := Except.bind_eq_ok.mp h
  obtain ⟨best, -, h⟩ := Except.bind_eq_ok.mp h
  obtain ⟨db'', hdb'', hdone⟩ := Except.bind_eq_ok.mp h
  have hstatuses : db''.statuses = db.statuses := by
    unfold rejectUnlessBest at hdb''
    split at hdb''
    · rw [← Except.ok.inj hdb'']
    · exact ChapterVersionService.rejectRevision_statuses hdb''
  obtain ⟨-, rfl⟩ := Prod.mk.inj (Except.ok.inj hdone)
  exact hstatuses

/-- The two nodes that complete a run. -/
def finishingNodes : List WorkflowNode := [.acceptVersion, .markNeedsHumanReview]

/-- Every other node leaves the statuses of the runs alone. -/
theorem actionStep_of_quiet (hnode : node ∉ finishingNodes)
    (h : actionStep services state r node stage input db = some written) :
    written.2.statuses = db.statuses := by
  cases node with
  | initializeWorkflow => exact absurd h (by simp [actionStep])
  | failWorkflow => exact absurd h (by simp [actionStep])
  | acceptVersion => exact absurd hnode (by simp [finishingNodes])
  | markNeedsHumanReview => exact absurd hnode (by simp [finishingNodes])
  | loadContext =>
      refine once_statuses h fun result db' hok => ?_
      obtain ⟨_, -, hdone⟩ := Except.map_eq_ok.mp hok
      rw [(Prod.mk.inj hdone).2]
  | generateDraft => exact generateDraft_statuses h
  | extractFacts => exact extractFacts_statuses h
  | extractRevisionFacts => exact extractFacts_statuses h
  | evaluateDraft => exact evaluateNode_statuses h
  | evaluateRevision => exact evaluateNode_statuses h
  | decideAfterEvaluation =>
      refine once_statuses h fun result db' hok => ?_
      obtain ⟨_, -, hdone⟩ := Except.map_eq_ok.mp hok
      rw [(Prod.mk.inj hdone).2]
  | decideAfterComparison =>
      refine once_statuses h fun result db' hok => ?_
      obtain ⟨_, -, hdone⟩ := Except.map_eq_ok.mp hok
      rw [(Prod.mk.inj hdone).2]
  | buildRevisionBrief => exact once_reading h
  | reviseDraft => exact reviseDraft_statuses h
  | compareVersions => exact once_statuses h fun _ _ => compareVersions_statuses
  | rejectRevision => exact once_statuses h fun _ _ => rejectRevision_statuses

/-- The statuses of a completed run. -/
def completedStatuses : List WorkflowRunStatus := [.completed, .completedNeedsReview]

/-- Those two raise and write nothing, or return and complete the run. -/
theorem actionStep_of_finishing (hnode : node ∈ finishingNodes)
    (h : actionStep services state r node stage input db = some written) :
    (∃ error, written = (.raised error, db)) ∨
      ∃ state' status, written.1 = .done state' ∧ db.statuses[r]? = some status ∧
        (status = .completed ∧ written.2 = db ∨
          ∃ target ∈ completedStatuses, written.2.statuses = db.statuses.set r target) := by
  simp only [finishingNodes, List.mem_cons, List.not_mem_nil, or_false] at hnode
  rcases hnode with rfl | rfl
  · rw [once_eq_some h]
    cases hok : acceptVersion state r db with
    | error error => exact .inl ⟨error, rfl⟩
    | ok written =>
        right
        obtain ⟨versionId, -, hrest⟩ := Except.bind_eq_ok.mp hok
        obtain ⟨db'', hdb'', hdone⟩ := Except.bind_eq_ok.mp hrest
        obtain rfl := Except.ok.inj hdone
        rcases ChapterVersionService.acceptVersion_eq_ok hdb'' with
          ⟨rfl, hstatus⟩ | ⟨status, hstatus, hset⟩
        · exact ⟨_, .completed, rfl, hstatus, .inl ⟨rfl, rfl⟩⟩
        · exact ⟨_, status, rfl, hstatus, .inr ⟨.completed, by simp [completedStatuses], hset⟩⟩
  · rw [once_eq_some h]
    cases hok : markNeedsHumanReview state r db with
    | error error => exact .inl ⟨error, rfl⟩
    | ok written =>
        right
        obtain ⟨db'', hdb'', hdone⟩ := Except.bind_eq_ok.mp hok
        obtain rfl := Except.ok.inj hdone
        obtain ⟨status, hstatus, hset⟩ := ChapterVersionService.markNeedsReview_eq_ok hdb''
        exact ⟨_, status, rfl, hstatus,
          .inr ⟨.completedNeedsReview, by simp [completedStatuses], hset⟩⟩

end ChapterWorkflowService

end Statuses

end StoryForge
