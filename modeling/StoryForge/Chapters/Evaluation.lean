import StoryForge.Chapters.Models

/-!
# `EvaluationService`

An evaluation reads the chapter and the version to evaluate, marks the chapter as
evaluating, runs the evaluators, and saves one immutable attempt: complete, or partial when
the critic failed. Saving an attempt also marks the version as evaluated.
-/

namespace StoryForge

/-- Input for one immutable evaluation attempt. -/
structure EvaluationRequest where
  projectId : ℕ
  chapterNumber : ℕ
  chapterVersionId : Option ℕ
  workflowRunId : Option ℕ
  idempotencyKey : Option String
  deriving DecidableEq, Repr

/-- What an evaluation has read when it begins. -/
structure LoadedEvaluation where
  chapterId : ℕ
  chapterVersionId : ℕ
  workflowRunId : Option ℕ
  idempotencyKey : Option String
  previousStatus : ChapterStatus
  deriving DecidableEq, Repr

/-- What the local evaluators found. -/
structure LocalScores where
  consistencyScore : ℚ
  criticalConflicts : ℕ
  highConflicts : ℕ
  deriving DecidableEq, Repr

/-- What all evaluators combined found. -/
structure CombinedScores extends LocalScores where
  finalScore : ℚ
  outlineAdherenceScore : ℚ
  blockingReasons : List String
  recommendedAction : String
  passed : Bool
  deriving DecidableEq, Repr

namespace EvaluationService

/-- `_EVALUATABLE_STATUSES`. -/
def evaluatableStatuses : List ChapterStatus :=
  [.generated, .evaluatedPassed, .evaluatedNeedsRevision, .evaluationFailed, .accepted,
    .needsRevision, .workflowRunning, .drafting, .revising]

/-- `_existing_result`: an attempt already saved under the key of the request. -/
def existingResult (request : EvaluationRequest) (db : StoryDatabase) : Option Evaluation :=
  request.idempotencyKey.bind fun key =>
    db.evaluations.find? fun evaluation => evaluation.idempotencyKey == some key

/-- `_resolve_version`. -/
def resolveVersion (chapterId : ℕ) (chapter : StoryChapter) (requested : Option ℕ)
    (db : StoryDatabase) : Except Error (ℕ × ChapterVersion) :=
  let loaded :=
    match requested, chapter.currentVersionId with
    | some id, _ => db.versions[id]?.map (id, ·)
    | none, some id => db.versions[id]?.map (id, ·)
    | none, none => none
  let found := loaded.or <|
    (db.versionByNumber chapterId chapter.version).bind fun id => db.versions[id]?.map (id, ·)
  match found with
  | none => .error (.invalidStateError "A concrete chapter version is required for evaluation")
  | some (id, version) =>
      if version.chapterId ≠ chapterId then
        .error (.invalidStateError "A concrete chapter version is required for evaluation")
      else .ok (id, version)

/-- `_load_context`. -/
def loadContext (request : EvaluationRequest) (db : StoryDatabase) :
    Except Error LoadedEvaluation :=
  match db.projects[request.projectId]?,
      db.findChapter request.projectId request.chapterNumber with
  | some _, some (chapterId, chapter) =>
      if isBlank chapter.content ∧ request.chapterVersionId = none then
        .error (.invalidStateError "Only chapters with generated content can be evaluated")
      else if chapter.status ∉ evaluatableStatuses then
        if chapter.status = .factExtractionFailed then
          .error (.invalidStateError "Fact extraction must succeed before evaluation")
        else
          .error (.invalidStateError
            ("Chapter cannot be evaluated from status " ++ chapter.status.value))
      else
        match resolveVersion chapterId chapter request.chapterVersionId db with
        | .error e => .error e
        | .ok (versionId, version) =>
            if isBlank version.text.content then
              .error (.invalidStateError "Only non-empty chapter versions can be evaluated")
            else
              .ok ⟨chapterId, versionId, request.workflowRunId, request.idempotencyKey,
                chapter.status⟩
  | _, _ => .error (.entityNotFoundError "Project chapter was not found")

/-- `_mark_evaluating`. -/
def markEvaluating (loaded : LoadedEvaluation) (db : StoryDatabase) : Except Error StoryDatabase :=
  match db.chapters[loaded.chapterId]? with
  | none => .error (.entityNotFoundError "Chapter disappeared before evaluation")
  | some chapter =>
      if chapter.status ≠ loaded.previousStatus then
        .error (.invalidStateError "Chapter status changed before evaluation")
      else
        .ok { db with
          chapters := db.chapters.modify loaded.chapterId ({ · with status := .evaluating }) }

/-- `_mark_failed`. -/
def markFailed (loaded : LoadedEvaluation) (db : StoryDatabase) : StoryDatabase :=
  { db with
    chapters := db.chapters.modify loaded.chapterId fun chapter =>
      if chapter.status = .evaluating then { chapter with status := .evaluationFailed }
      else chapter }

/-- The row of a complete attempt. -/
def completeEvaluation (loaded : LoadedEvaluation) (scores : CombinedScores)
    (db : StoryDatabase) : Evaluation where
  chapterId := loaded.chapterId
  chapterVersionId := loaded.chapterVersionId
  workflowRunId := loaded.workflowRunId
  idempotencyKey := loaded.idempotencyKey
  evaluationVersion := db.nextEvaluationVersion loaded.chapterId
  status := .completed
  overallScore := scores.finalScore
  consistencyScore := scores.consistencyScore
  outlineAdherenceScore := scores.outlineAdherenceScore
  criticalConflicts := scores.criticalConflicts
  highConflicts := scores.highConflicts
  blockingReasons := scores.blockingReasons
  recommendedAction := scores.recommendedAction
  passed := scores.passed

/-- The row of an attempt whose critic failed. -/
def partialEvaluation (loaded : LoadedEvaluation) (scores : LocalScores) (db : StoryDatabase) :
    Evaluation where
  chapterId := loaded.chapterId
  chapterVersionId := loaded.chapterVersionId
  workflowRunId := loaded.workflowRunId
  idempotencyKey := loaded.idempotencyKey
  evaluationVersion := db.nextEvaluationVersion loaded.chapterId
  status := .partialFailed
  overallScore := 0
  consistencyScore := scores.consistencyScore
  outlineAdherenceScore := 0
  criticalConflicts := scores.criticalConflicts
  highConflicts := scores.highConflicts
  blockingReasons := ["critic_agent_failed"]
  recommendedAction := "human_review"
  passed := false

/-- Save an attempt: the common part of `_persist_complete` and `_persist_partial`. The
version is marked as evaluated, whatever its status was. -/
def persist (loaded : LoadedEvaluation) (evaluation : Evaluation)
    (close : StoryChapter → StoryChapter) (db : StoryDatabase) : Except Error StoryDatabase :=
  match db.chapters[loaded.chapterId]? with
  | none => .error (.invalidStateError "Chapter is not in the evaluating state")
  | some chapter =>
      if chapter.status ≠ .evaluating then
        .error (.invalidStateError "Chapter is not in the evaluating state")
      else if evaluation.workflowRunId.any fun id => db.runs[id]?.isNone then
        .error (.integrityError "fk_evaluations_workflow_run_id_workflow_runs")
      else if evaluation.idempotencyKey.isSome ∧
          db.evaluations.any fun other => other.idempotencyKey == evaluation.idempotencyKey then
        .error (.integrityError "evaluation_idempotency_key")
      else
        .ok { db with
          evaluations := db.evaluations ++ [evaluation]
          versions := db.versions.modify loaded.chapterVersionId ({ · with status := .evaluated })
          chapters := db.chapters.modify loaded.chapterId close }

/-- `_persist_complete`. -/
def persistComplete (loaded : LoadedEvaluation) (scores : CombinedScores) (db : StoryDatabase) :
    Except Error StoryDatabase :=
  persist loaded (completeEvaluation loaded scores db)
    ({ · with
      score := some scores.finalScore
      status := if scores.passed then .evaluatedPassed else .evaluatedNeedsRevision }) db

/-- `_persist_partial`. -/
def persistPartial (loaded : LoadedEvaluation) (scores : LocalScores) (db : StoryDatabase) :
    Except Error StoryDatabase :=
  persist loaded (partialEvaluation loaded scores db) ({ · with status := .evaluationFailed }) db

end EvaluationService

end StoryForge
