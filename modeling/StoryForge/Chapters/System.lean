import StoryForge.Chapters.Evaluation
import StoryForge.Chapters.Versioning
import StoryForge.Library.Machine

/-!
# The chapter services at work

The three chapter services working on one database. A call that asks an agent is a task: it
remembers what it has read and goes on, one transaction at a time, when the outside
supplies the next outcome. Between any two transactions of a task other calls may run, and
a task that never goes on is a crash.

Other code writes projects, the statuses of chapters and workflow runs; `otherCode` lets it
do so at any time, and add chapters that have no version yet.

## Main results

* `StorySystem.commits_next` — what a step commits: nothing, or the result of one transaction.
-/

namespace StoryForge

/-- What the agents and the database do to a task. -/
inductive StoryOutcome
  | proceed
  | agentFailed
  | databaseFailed
  | drafted (draft : Draft)
  | extracted (extraction : Extraction)
  | criticFailed (scores : LocalScores)
  | evaluated (scores : CombinedScores)
  deriving DecidableEq, Repr

/-- A call in progress, by the transaction it is about to make. -/
inductive Task
  | setRunning (request : GenerationRequest)
  | persistDraft (request : GenerationRequest)
  | persistExtraction (request : GenerationRequest) (version : ℕ)
  | markFailure (request : GenerationRequest) (status : ChapterStatus)
  | markEvaluating (loaded : LoadedEvaluation)
  | persistEvaluation (loaded : LoadedEvaluation)
  | markEvaluationFailed (loaded : LoadedEvaluation)
  | ensureInitialVersion (projectId chapterNumber workflowRunId : ℕ)
  | extractCandidateFacts (versionId workflowRunId : ℕ)
  | revise (workflowRunId sourceVersionId revisionAttempt : ℕ)
  | done
  deriving DecidableEq, Repr

/-- The service calls, and the next transaction of a task. -/
inductive StoryAction
  | generate (request : GenerationRequest)
  | evaluate (request : EvaluationRequest)
  | ensureInitialVersion (projectId chapterNumber workflowRunId : ℕ)
  | extractCandidateFacts (versionId workflowRunId : ℕ)
  | revise (workflowRunId sourceVersionId revisionAttempt : ℕ)
  | compareVersions (workflowRunId oldVersionId newVersionId : ℕ)
  | acceptVersion (workflowRunId versionId : ℕ)
  | rejectRevision (workflowRunId versionId : ℕ)
  | markNeedsReview (workflowRunId : ℕ)
  | resume (task : ℕ) (outcome : StoryOutcome)
  | otherCode (projects : List StoryProject) (statuses : ℕ → ChapterStatus)
      (newChapters : List StoryChapter) (runs : List StoryRun)

/-- The committed state and the calls in progress. -/
structure StorySystem where
  db : StoryDatabase
  tasks : List Task
  deriving DecidableEq, Repr

/-- What the services are configured with. -/
structure StoryServices where
  normalizer : FactNormalizer
  acceptance : ChapterVersionService.AcceptanceEvaluator

namespace StorySystem

/-- A transaction that ends a call: an error rolls it back. -/
def commit (db : StoryDatabase) (result : Except Error StoryDatabase) : Task × StoryDatabase :=
  match result with
  | .ok db' => (.done, db')
  | .error _ => (.done, db)

/-- Whether an error is a refused commit, `SQLAlchemyError`. -/
def isDatabaseError : Error → Bool
  | .integrityError _ => true
  | _ => false

/-- The next transaction of a task. -/
def advance (services : StoryServices) (db : StoryDatabase) :
    Task → StoryOutcome → Option (Task × StoryDatabase)
  | .setRunning request, .proceed =>
      match ChapterGenerationService.setRunning request db with
      | .ok db' => some (.persistDraft request, db')
      | .error _ => some (.done, db)
  | .setRunning _, .databaseFailed => some (.done, db)
  | .persistDraft request, .agentFailed => some (.markFailure request .failed, db)
  | .persistDraft request, .databaseFailed => some (.markFailure request .failed, db)
  | .persistDraft request, .drafted draft =>
      match ChapterGenerationService.persistDraft request draft db with
      | .ok (version, db') => some (.persistExtraction request version, db')
      | .error e => some (if isDatabaseError e then .markFailure request .failed else .done, db)
  | .persistExtraction request _, .agentFailed =>
      some (.markFailure request .factExtractionFailed, db)
  | .persistExtraction request _, .databaseFailed =>
      some (.markFailure request .factExtractionFailed, db)
  | .persistExtraction request version, .extracted extraction =>
      match ChapterGenerationService.persistExtraction services.normalizer request extraction
          version db with
      | .ok db' => some (.done, db')
      | .error e =>
          some (if isDatabaseError e then .markFailure request .factExtractionFailed else .done, db)
  | .markFailure request status, .proceed =>
      some (.done, ChapterGenerationService.markFailure request status db)
  | .markFailure _ _, .databaseFailed => some (.done, db)
  | .markEvaluating loaded, .proceed =>
      match EvaluationService.markEvaluating loaded db with
      | .ok db' => some (.persistEvaluation loaded, db')
      | .error _ => some (.done, db)
  | .markEvaluating _, .databaseFailed => some (.done, db)
  | .persistEvaluation loaded, .agentFailed => some (.markEvaluationFailed loaded, db)
  | .persistEvaluation loaded, .databaseFailed => some (.markEvaluationFailed loaded, db)
  | .persistEvaluation loaded, .criticFailed scores =>
      match EvaluationService.persistPartial loaded scores db with
      | .ok db' => some (.done, db')
      | .error e => some (if isDatabaseError e then .markEvaluationFailed loaded else .done, db)
  | .persistEvaluation loaded, .evaluated scores =>
      match EvaluationService.persistComplete loaded scores db with
      | .ok db' => some (.done, db')
      | .error e => some (if isDatabaseError e then .markEvaluationFailed loaded else .done, db)
  | .markEvaluationFailed loaded, .proceed => some (.done, EvaluationService.markFailed loaded db)
  | .markEvaluationFailed _, .databaseFailed => some (.done, db)
  | .ensureInitialVersion projectId chapterNumber workflowRunId, .drafted draft =>
      some (commit db (ChapterVersionService.ensureInitialVersion projectId chapterNumber
        workflowRunId draft db))
  | .extractCandidateFacts versionId workflowRunId, .extracted extraction =>
      some (commit db (ChapterVersionService.extractCandidateFacts services.normalizer versionId
        workflowRunId extraction db))
  | .revise workflowRunId sourceVersionId revisionAttempt, .drafted draft =>
      some (commit db (ChapterVersionService.revise workflowRunId sourceVersionId revisionAttempt
        draft db))
  | .ensureInitialVersion _ _ _, .agentFailed | .extractCandidateFacts _ _, .agentFailed
  | .revise _ _ _, .agentFailed => some (.done, db)
  | .ensureInitialVersion _ _ _, .databaseFailed | .extractCandidateFacts _ _, .databaseFailed
  | .revise _ _ _, .databaseFailed => some (.done, db)
  | _, _ => none

/-- A call begins its task. -/
def begin (s : StorySystem) (task : Task) : StorySystem := { s with tasks := s.tasks ++ [task] }

/-- A call that is one transaction. -/
def run (s : StorySystem) (result : Except Error StoryDatabase) : StorySystem :=
  { s with db := (commit s.db result).2 }

/-- What other code may write. -/
def otherCode (db : StoryDatabase) (projects : List StoryProject) (statuses : ℕ → ChapterStatus)
    (newChapters : List StoryChapter) (runs : List StoryRun) : StoryDatabase :=
  { db with
    projects := projects
    chapters := (db.chapters.mapIdx fun id chapter => { chapter with status := statuses id }) ++
      newChapters.map fun chapter => { chapter with acceptedVersionId := none }
    runs := runs }

/-- The effect of an action. -/
def next (services : StoryServices) (s : StorySystem) : StoryAction → Option StorySystem
  | .generate request =>
      match ChapterGenerationService.validateStart request s.db with
      | .ok () => some (s.begin (.setRunning request))
      | .error _ => some s
  | .evaluate request =>
      if (EvaluationService.existingResult request s.db).isSome then some s
      else
        match EvaluationService.loadContext request s.db with
        | .ok loaded => some (s.begin (.markEvaluating loaded))
        | .error _ => some s
  | .ensureInitialVersion projectId chapterNumber workflowRunId =>
      match ChapterVersionService.reusableVersion projectId chapterNumber workflowRunId s.db with
      | .ok none => some (s.begin (.ensureInitialVersion projectId chapterNumber workflowRunId))
      | _ => some s
  | .extractCandidateFacts versionId workflowRunId =>
      match ChapterVersionService.extractionDue versionId s.db with
      | .ok true => some (s.begin (.extractCandidateFacts versionId workflowRunId))
      | _ => some s
  | .revise workflowRunId sourceVersionId revisionAttempt =>
      match ChapterVersionService.revisionDue workflowRunId sourceVersionId revisionAttempt s.db with
      | .ok true => some (s.begin (.revise workflowRunId sourceVersionId revisionAttempt))
      | _ => some s
  | .compareVersions workflowRunId oldVersionId newVersionId =>
      some (s.run (ChapterVersionService.compareVersions services.acceptance workflowRunId
        oldVersionId newVersionId s.db))
  | .acceptVersion workflowRunId versionId =>
      some (s.run (ChapterVersionService.acceptVersion workflowRunId versionId s.db))
  | .rejectRevision workflowRunId versionId =>
      some (s.run (ChapterVersionService.rejectRevision workflowRunId versionId s.db))
  | .markNeedsReview workflowRunId =>
      some (s.run (ChapterVersionService.markNeedsReview workflowRunId s.db))
  | .resume task outcome =>
      match s.tasks[task]? with
      | none => none
      | some current =>
          (advance services s.db current outcome).map fun (task', db) =>
            ⟨db, s.tasks.set task task'⟩
  | .otherCode projects statuses newChapters runs =>
      some { s with db := otherCode s.db projects statuses newChapters runs }

/-- The services at work. Runs start without versions and facts. -/
def machine (services : StoryServices) : Machine StorySystem StoryAction where
  init s := s.db.versions = [] ∧ s.db.facts = [] ∧ s.tasks = [] ∧
    ∀ chapter ∈ s.db.chapters, chapter.acceptedVersionId = none
  next := next services

/-! ### What a step commits -/

/-- What a step leaves committed: the database as it was, or what one transaction makes of
it. -/
inductive Commits (services : StoryServices) (s : StorySystem) :
    StoryAction → StoryDatabase → Prop
  | nothing (a : StoryAction) : Commits services s a s.db
  | setRunning {task : ℕ} {request : GenerationRequest} {db' : StoryDatabase}
      (htask : s.tasks[task]? = some (.setRunning request))
      (hrun : ChapterGenerationService.setRunning request s.db = .ok db') :
      Commits services s (.resume task .proceed) db'
  | persistDraft {task : ℕ} {request : GenerationRequest} {draft : Draft} {version : ℕ}
      {db' : StoryDatabase} (htask : s.tasks[task]? = some (.persistDraft request))
      (hrun : ChapterGenerationService.persistDraft request draft s.db = .ok (version, db')) :
      Commits services s (.resume task (.drafted draft)) db'
  | persistExtraction {task : ℕ} {request : GenerationRequest} {version : ℕ}
      {extraction : Extraction} {db' : StoryDatabase}
      (htask : s.tasks[task]? = some (.persistExtraction request version))
      (hrun : ChapterGenerationService.persistExtraction services.normalizer request extraction
        version s.db = .ok db') :
      Commits services s (.resume task (.extracted extraction)) db'
  | markFailure {task : ℕ} {request : GenerationRequest} {status : ChapterStatus}
      (htask : s.tasks[task]? = some (.markFailure request status)) :
      Commits services s (.resume task .proceed)
        (ChapterGenerationService.markFailure request status s.db)
  | markEvaluating {task : ℕ} {loaded : LoadedEvaluation} {db' : StoryDatabase}
      (htask : s.tasks[task]? = some (.markEvaluating loaded))
      (hrun : EvaluationService.markEvaluating loaded s.db = .ok db') :
      Commits services s (.resume task .proceed) db'
  | persistPartial {task : ℕ} {loaded : LoadedEvaluation} {scores : LocalScores}
      {db' : StoryDatabase} (htask : s.tasks[task]? = some (.persistEvaluation loaded))
      (hrun : EvaluationService.persistPartial loaded scores s.db = .ok db') :
      Commits services s (.resume task (.criticFailed scores)) db'
  | persistComplete {task : ℕ} {loaded : LoadedEvaluation} {scores : CombinedScores}
      {db' : StoryDatabase} (htask : s.tasks[task]? = some (.persistEvaluation loaded))
      (hrun : EvaluationService.persistComplete loaded scores s.db = .ok db') :
      Commits services s (.resume task (.evaluated scores)) db'
  | markEvaluationFailed {task : ℕ} {loaded : LoadedEvaluation}
      (htask : s.tasks[task]? = some (.markEvaluationFailed loaded)) :
      Commits services s (.resume task .proceed) (EvaluationService.markFailed loaded s.db)
  | ensureInitialVersion {task projectId chapterNumber workflowRunId : ℕ} {draft : Draft}
      {db' : StoryDatabase}
      (htask : s.tasks[task]? = some (.ensureInitialVersion projectId chapterNumber workflowRunId))
      (hrun : ChapterVersionService.ensureInitialVersion projectId chapterNumber workflowRunId
        draft s.db = .ok db') :
      Commits services s (.resume task (.drafted draft)) db'
  | extractCandidateFacts {task versionId workflowRunId : ℕ} {extraction : Extraction}
      {db' : StoryDatabase}
      (htask : s.tasks[task]? = some (.extractCandidateFacts versionId workflowRunId))
      (hrun : ChapterVersionService.extractCandidateFacts services.normalizer versionId
        workflowRunId extraction s.db = .ok db') :
      Commits services s (.resume task (.extracted extraction)) db'
  | revise {task workflowRunId sourceVersionId revisionAttempt : ℕ} {draft : Draft}
      {db' : StoryDatabase}
      (htask : s.tasks[task]? = some (.revise workflowRunId sourceVersionId revisionAttempt))
      (hrun : ChapterVersionService.revise workflowRunId sourceVersionId revisionAttempt draft
        s.db = .ok db') :
      Commits services s (.resume task (.drafted draft)) db'
  | compareVersions {workflowRunId oldVersionId newVersionId : ℕ} {db' : StoryDatabase}
      (hrun : ChapterVersionService.compareVersions services.acceptance workflowRunId
        oldVersionId newVersionId s.db = .ok db') :
      Commits services s (.compareVersions workflowRunId oldVersionId newVersionId) db'
  | acceptVersion {workflowRunId versionId : ℕ} {db' : StoryDatabase}
      (hrun : ChapterVersionService.acceptVersion workflowRunId versionId s.db = .ok db') :
      Commits services s (.acceptVersion workflowRunId versionId) db'
  | rejectRevision {workflowRunId versionId : ℕ} {db' : StoryDatabase}
      (hrun : ChapterVersionService.rejectRevision workflowRunId versionId s.db = .ok db') :
      Commits services s (.rejectRevision workflowRunId versionId) db'
  | markNeedsReview {workflowRunId : ℕ} {db' : StoryDatabase}
      (hrun : ChapterVersionService.markNeedsReview workflowRunId s.db = .ok db') :
      Commits services s (.markNeedsReview workflowRunId) db'
  | otherCode {projects : List StoryProject} {statuses : ℕ → ChapterStatus}
      {newChapters : List StoryChapter} {runs : List StoryRun} :
      Commits services s (.otherCode projects statuses newChapters runs)
        (StorySystem.otherCode s.db projects statuses newChapters runs)

section Commits

variable {services : StoryServices} {s s' : StorySystem} {a : StoryAction}

/-- A call that is one transaction commits its result, or nothing. -/
theorem commits_run {result : Except Error StoryDatabase}
    (h : ∀ db', result = .ok db' → Commits services s a db') :
    Commits services s a (commit s.db result).2 := by
  cases result with
  | ok db' => exact h db' rfl
  | error e => exact .nothing a

/-- The transaction of a task commits its result, or nothing. -/
theorem commits_advance {task : ℕ} {current task' : Task} {outcome : StoryOutcome}
    {db' : StoryDatabase} (htask : s.tasks[task]? = some current)
    (h : advance services s.db current outcome = some (task', db')) :
    Commits services s (.resume task outcome) db' := by
  have hsame {task'' : Task} (hnothing : some (task'', s.db) = some (task', db')) :
      Commits services s (.resume task outcome) db' := by
    obtain rfl := congrArg Prod.snd (Option.some.inj hnothing)
    exact .nothing _
  have hcommit {result : Except Error StoryDatabase}
      (hresult : ∀ db', result = .ok db' → Commits services s (.resume task outcome) db')
      (hsome : some (commit s.db result) = some (task', db')) :
      Commits services s (.resume task outcome) db' := by
    obtain rfl := congrArg Prod.snd (Option.some.inj hsome)
    exact commits_run hresult
  cases current with
  | setRunning request =>
      cases outcome with
      | proceed =>
          simp only [advance] at h
          split at h
          · rename_i hrun
            obtain rfl := congrArg Prod.snd (Option.some.inj h)
            exact .setRunning htask hrun
          · exact hsame h
      | databaseFailed => exact hsame h
      | _ => exact absurd h (by simp [advance])
  | persistDraft request =>
      cases outcome with
      | drafted draft =>
          simp only [advance] at h
          split at h
          · rename_i hrun
            obtain rfl := congrArg Prod.snd (Option.some.inj h)
            exact .persistDraft htask hrun
          · exact hsame h
      | agentFailed | databaseFailed => exact hsame h
      | _ => exact absurd h (by simp [advance])
  | persistExtraction request version =>
      cases outcome with
      | extracted extraction =>
          simp only [advance] at h
          split at h
          · rename_i hrun
            obtain rfl := congrArg Prod.snd (Option.some.inj h)
            exact .persistExtraction htask hrun
          · exact hsame h
      | agentFailed | databaseFailed => exact hsame h
      | _ => exact absurd h (by simp [advance])
  | markFailure request status =>
      cases outcome with
      | proceed =>
          obtain rfl := congrArg Prod.snd (Option.some.inj h)
          exact .markFailure htask
      | databaseFailed => exact hsame h
      | _ => exact absurd h (by simp [advance])
  | markEvaluating loaded =>
      cases outcome with
      | proceed =>
          simp only [advance] at h
          split at h
          · rename_i hrun
            obtain rfl := congrArg Prod.snd (Option.some.inj h)
            exact .markEvaluating htask hrun
          · exact hsame h
      | databaseFailed => exact hsame h
      | _ => exact absurd h (by simp [advance])
  | persistEvaluation loaded =>
      cases outcome with
      | criticFailed scores =>
          simp only [advance] at h
          split at h
          · rename_i hrun
            obtain rfl := congrArg Prod.snd (Option.some.inj h)
            exact .persistPartial htask hrun
          · exact hsame h
      | evaluated scores =>
          simp only [advance] at h
          split at h
          · rename_i hrun
            obtain rfl := congrArg Prod.snd (Option.some.inj h)
            exact .persistComplete htask hrun
          · exact hsame h
      | agentFailed | databaseFailed => exact hsame h
      | _ => exact absurd h (by simp [advance])
  | markEvaluationFailed loaded =>
      cases outcome with
      | proceed =>
          obtain rfl := congrArg Prod.snd (Option.some.inj h)
          exact .markEvaluationFailed htask
      | databaseFailed => exact hsame h
      | _ => exact absurd h (by simp [advance])
  | ensureInitialVersion projectId chapterNumber workflowRunId =>
      cases outcome with
      | drafted draft => exact hcommit (fun _ hrun => .ensureInitialVersion htask hrun) h
      | agentFailed | databaseFailed => exact hsame h
      | _ => exact absurd h (by simp [advance])
  | extractCandidateFacts versionId workflowRunId =>
      cases outcome with
      | extracted extraction => exact hcommit (fun _ hrun => .extractCandidateFacts htask hrun) h
      | agentFailed | databaseFailed => exact hsame h
      | _ => exact absurd h (by simp [advance])
  | revise workflowRunId sourceVersionId revisionAttempt =>
      cases outcome with
      | drafted draft => exact hcommit (fun _ hrun => .revise htask hrun) h
      | agentFailed | databaseFailed => exact hsame h
      | _ => exact absurd h (by simp [advance])
  | done => exact absurd h (by simp [advance])

/-- **What a step commits.** -/
theorem commits_next (h : next services s a = some s') : Commits services s a s'.db := by
  cases a with
  | generate request =>
      simp only [next] at h
      split at h <;> (obtain rfl := Option.some.inj h; exact .nothing _)
  | evaluate request =>
      simp only [next] at h
      split at h
      · obtain rfl := Option.some.inj h
        exact .nothing _
      · split at h <;> (obtain rfl := Option.some.inj h; exact .nothing _)
  | ensureInitialVersion projectId chapterNumber workflowRunId =>
      simp only [next] at h
      split at h <;> (obtain rfl := Option.some.inj h; exact .nothing _)
  | extractCandidateFacts versionId workflowRunId =>
      simp only [next] at h
      split at h <;> (obtain rfl := Option.some.inj h; exact .nothing _)
  | revise workflowRunId sourceVersionId revisionAttempt =>
      simp only [next] at h
      split at h <;> (obtain rfl := Option.some.inj h; exact .nothing _)
  | compareVersions workflowRunId oldVersionId newVersionId =>
      obtain rfl := Option.some.inj h
      exact commits_run fun _ hrun => .compareVersions hrun
  | acceptVersion workflowRunId versionId =>
      obtain rfl := Option.some.inj h
      exact commits_run fun _ hrun => .acceptVersion hrun
  | rejectRevision workflowRunId versionId =>
      obtain rfl := Option.some.inj h
      exact commits_run fun _ hrun => .rejectRevision hrun
  | markNeedsReview workflowRunId =>
      obtain rfl := Option.some.inj h
      exact commits_run fun _ hrun => .markNeedsReview hrun
  | resume task outcome =>
      simp only [next] at h
      split at h
      · exact absurd h (by simp)
      · rename_i current htask
        obtain ⟨⟨task', db⟩, hrun, rfl⟩ := Option.map_eq_some_iff.mp h
        exact commits_advance htask hrun
  | otherCode projects statuses newChapters runs =>
      obtain rfl := Option.some.inj h
      exact .otherCode

end Commits

end StorySystem

end StoryForge
