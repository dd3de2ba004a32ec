import Mathlib.Algebra.Order.Ring.Rat
import StoryForge.Chapters.Generation

/-!
# `ChapterVersionService`

The side effects of the chapter workflow around immutable versions: the initial draft,
candidate facts, targeted revisions, comparisons, and the three ways a workflow ends with a
version (it is accepted, a revision is rejected, or the best version is left to a human).

Calls that ask an agent read in one transaction and write in another; the reading half says
whether there is anything left to do.
-/

namespace StoryForge

namespace ChapterVersionService

/-! ### Drafts and revisions -/

/-- The key of the initial draft of a run. -/
def draftKey (workflowRunId : ℕ) : String :=
  "workflow:" ++ toString workflowRunId ++ ":generate_draft:0"

/-- The key of a revision of a run. -/
def revisionKey (workflowRunId revisionAttempt : ℕ) : String :=
  "workflow:" ++ toString workflowRunId ++ ":revise_draft:" ++ toString revisionAttempt

/-- The reading half of `ensure_initial_version`: a version to reuse, if there is one. -/
def reusableVersion (projectId chapterNumber workflowRunId : ℕ) (db : StoryDatabase) :
    Except Error (Option ℕ) :=
  match db.findChapter projectId chapterNumber with
  | none => .error (.entityNotFoundError "Workflow chapter was not found")
  | some (_, chapter) =>
      .ok ((db.versionByKey (draftKey workflowRunId)).or
        (chapter.currentVersionId.filter fun id => db.versions[id]?.isSome))

/-- A new version of a chapter, written by a run. -/
def newVersion (chapterId version workflowRunId : ℕ) (draft : Draft)
    (status : ChapterVersionStatus) (source : String) (parent : Option ℕ) (key : String) :
    ChapterVersion where
  chapterId := chapterId
  version := version
  text := draft
  status := status
  source := source
  parentVersionId := parent
  workflowRunId := some workflowRunId
  candidateCharacterUpdates := []
  candidateForeshadowingUpdates := []
  factExtraction := false
  idempotencyKey := some key

/-- The writing half of `ensure_initial_version`. -/
def ensureInitialVersion (projectId chapterNumber workflowRunId : ℕ) (draft : Draft)
    (db : StoryDatabase) : Except Error StoryDatabase :=
  match db.findChapter projectId chapterNumber with
  | none => .error (.entityNotFoundError "Workflow chapter disappeared while drafting")
  | some (chapterId, _) =>
      if (db.versionByKey (draftKey workflowRunId)).isSome then .ok db
      else if db.runs[workflowRunId]?.isNone then
        .error (.integrityError "fk_chapter_versions_workflow_run_id_workflow_runs")
      else
        let versionId := db.versions.length
        let number := db.nextVersion chapterId
        .ok { db with
          versions := db.versions ++ [newVersion chapterId number workflowRunId draft .draft
            "generated" none (draftKey workflowRunId)]
          chapters := db.chapters.modify chapterId
            ({ · with
              currentVersionId := some versionId
              version := number
              status := .drafting })
          runs := db.runs.modify workflowRunId fun run =>
            { run with
              currentVersionId := some versionId
              originalVersionId := run.originalVersionId.or (some versionId)
              bestVersionId := run.bestVersionId.or (some versionId) } }

/-- The rows a revision starts from. -/
def revisionSource (workflowRunId sourceVersionId : ℕ) (db : StoryDatabase) :
    Option (ChapterVersion × StoryRun) :=
  match db.versions[sourceVersionId]?, db.runs[workflowRunId]? with
  | some source, some run => some (source, run)
  | _, _ => none

/-- The reading half of `revise`: whether there is anything left to write. -/
def revisionDue (workflowRunId sourceVersionId revisionAttempt : ℕ) (db : StoryDatabase) :
    Except Error Bool :=
  if (db.versionByKey (revisionKey workflowRunId revisionAttempt)).isSome then .ok false
  else
    match revisionSource workflowRunId sourceVersionId db with
    | none => .error (.entityNotFoundError "Revision source or workflow was not found")
    | some (source, run) =>
        if db.chapters[source.chapterId]?.isNone ∨ db.projects[run.projectId]?.isNone then
          .error (.entityNotFoundError "Revision chapter or project was not found")
        else .ok true

/-- The writing half of `revise`. -/
def revise (workflowRunId sourceVersionId revisionAttempt : ℕ) (draft : Draft)
    (db : StoryDatabase) : Except Error StoryDatabase :=
  if (db.versionByKey (revisionKey workflowRunId revisionAttempt)).isSome then .ok db
  else
    match revisionSource workflowRunId sourceVersionId db with
    | none => .error (.entityNotFoundError "Revision source or workflow disappeared")
    | some (source, _) =>
        if db.chapters[source.chapterId]?.isNone then
          .error (.entityNotFoundError "Revision chapter disappeared")
        else
          let versionId := db.versions.length
          let number := db.nextVersion source.chapterId
          .ok { db with
            versions := db.versions ++ [newVersion source.chapterId number workflowRunId draft
              .revision "revision" (some sourceVersionId)
              (revisionKey workflowRunId revisionAttempt)]
            revisions := db.revisions ++
              [{ chapterId := source.chapterId
                 sourceVersionId := sourceVersionId
                 newVersionId := versionId
                 workflowRunId := workflowRunId
                 scoreBefore := ((db.latestForVersion sourceVersionId).map (·.overallScore)).getD 0
                 scoreAfter := 0
                 accepted := false
                 status := "created" }]
            chapters := db.chapters.modify source.chapterId
              ({ · with
                currentVersionId := some versionId
                version := number
                status := .revising })
            runs := db.runs.modify workflowRunId
              ({ · with
                currentVersionId := some versionId
                revisionAttempt := revisionAttempt
                retryCount := revisionAttempt }) }

/-! ### Candidate facts -/

/-- Whether the facts of a version were extracted already. -/
def isExtracted (versionId : ℕ) (version : ChapterVersion) (db : StoryDatabase) : Bool :=
  !(db.factsForVersion versionId).isEmpty || !version.candidateCharacterUpdates.isEmpty ||
    !version.candidateForeshadowingUpdates.isEmpty || version.factExtraction

/-- The reading half of `extract_candidate_facts`: whether there is anything to extract. -/
def extractionDue (versionId : ℕ) (db : StoryDatabase) : Except Error Bool :=
  match db.versions[versionId]? with
  | none => .error (.entityNotFoundError "Chapter version was not found for extraction")
  | some version => .ok (!isExtracted versionId version db)

/-- The candidate fact an extracted one is stored as. -/
def candidateFact (normalizer : FactNormalizer) (chapterId versionId workflowRunId : ℕ)
    (item : ExtractedFact) : Fact where
  chapterId := chapterId
  chapterVersionId := versionId
  workflowRunId := some workflowRunId
  status := .candidate
  content := item
  normalizedHash := normalizer item

/-- The items whose hash did not occur before. -/
def distinctFacts (normalizer : FactNormalizer) : List ExtractedFact → List ExtractedFact
  | [] => []
  | item :: items =>
      item :: (distinctFacts normalizer items).filter fun other =>
        normalizer other != normalizer item

/-- The writing half of `extract_candidate_facts`. -/
def extractCandidateFacts (normalizer : FactNormalizer) (versionId workflowRunId : ℕ)
    (extraction : Extraction) (db : StoryDatabase) : Except Error StoryDatabase :=
  match db.versions[versionId]? with
  | none => .error (.entityNotFoundError "Chapter version disappeared during extraction")
  | some version =>
      if isExtracted versionId version db then .ok db
      else if extraction.facts ≠ [] ∧ db.runs[workflowRunId]?.isNone then
        .error (.integrityError "fk_facts_workflow_run_id_workflow_runs")
      else
        .ok { db with
          facts := db.facts ++ (distinctFacts normalizer extraction.facts).map
            (candidateFact normalizer version.chapterId versionId workflowRunId)
          versions := db.versions.modify versionId
            ({ · with
              candidateCharacterUpdates := extraction.characterUpdates
              candidateForeshadowingUpdates := extraction.foreshadowingUpdates
              factExtraction := true }) }

/-! ### Comparison -/

/-- `_evaluation_rank`. -/
def evaluationRank (evaluation : Evaluation) : List ℚ :=
  [-(evaluation.criticalConflicts : ℚ), -(evaluation.blockingReasons.length : ℚ),
    evaluation.overallScore, evaluation.consistencyScore, evaluation.outlineAdherenceScore,
    -(evaluation.highConflicts : ℚ)]

/-- `_better_version_id`. -/
def betterVersionId (db : StoryDatabase) (best : Option ℕ) (candidateId : ℕ) : ℕ :=
  match db.latestForVersion candidateId, best.bind db.latestForVersion with
  | none, _ => best.getD candidateId
  | some _, none => candidateId
  | some candidate, some current =>
      if evaluationRank current < evaluationRank candidate then candidateId
      else best.getD candidateId

/-- What an acceptance evaluator decides between two evaluated versions. -/
abbrev AcceptanceEvaluator := Evaluation → Evaluation → Revision → String

/-- `compare_versions`. -/
def compareVersions (acceptance : AcceptanceEvaluator) (workflowRunId oldVersionId newVersionId : ℕ)
    (db : StoryDatabase) : Except Error StoryDatabase :=
  if db.comparisons.any fun comparison =>
      comparison.workflowRunId == workflowRunId && comparison.newVersionId == newVersionId then
    .ok db
  else
    let revisionId := db.revisions.findIdx? fun revision =>
      revision.workflowRunId == workflowRunId && revision.newVersionId == newVersionId
    match db.latestForVersion oldVersionId, db.latestForVersion newVersionId,
        revisionId.bind fun id => db.revisions[id]?.map (id, ·) with
    | some oldEval, some newEval, some (revisionId, revision) =>
        .ok { db with
          comparisons := db.comparisons ++
            [⟨workflowRunId, oldVersionId, newVersionId, acceptance oldEval newEval revision⟩]
          revisions := db.revisions.modify revisionId
            ({ · with scoreAfter := newEval.overallScore, status := "compared" })
          runs := db.runs.modify workflowRunId fun run =>
            { run with bestVersionId := some (betterVersionId db run.bestVersionId newVersionId) } }
    | _, _, _ =>
        .error (.invalidStateError "Both versions and the revision brief must be evaluated")

/-! ### Ends -/

/-- The statuses that the end of a run leaves alone. -/
def closedStatuses : List ChapterVersionStatus := [.accepted, .superseded, .rejected]

/-- The other versions of a run are rejected at its end. -/
def rejectOthers (workflowRunId versionId id : ℕ) (version : ChapterVersion) : Bool :=
  version.workflowRunId == some workflowRunId && id != versionId &&
    decide (version.status ∉ closedStatuses)

/-- What `accept_version` makes of the versions. `previous` is the version the chapter had
accepted before. -/
def acceptedVersions (workflowRunId versionId : ℕ) (previous : Option ℕ)
    (versions : List ChapterVersion) : List ChapterVersion :=
  versions.mapIdx fun id version =>
    if id = versionId then { version with status := .accepted }
    else if rejectOthers workflowRunId versionId id version then
      { version with status := .rejected }
    else if previous = some id then { version with status := .superseded }
    else version

/-- What `accept_version` makes of the facts. -/
def acceptedFacts (workflowRunId versionId : ℕ) (previous : Option ℕ) (facts : List Fact) :
    List Fact :=
  facts.map fun fact =>
    if fact.chapterVersionId = versionId then { fact with status := .accepted }
    else if fact.workflowRunId = some workflowRunId ∧ fact.status = .candidate then
      { fact with status := .rejected }
    else if previous = some fact.chapterVersionId ∧ fact.status = .accepted then
      { fact with status := .superseded }
    else fact

/-- `accept_version`. -/
def acceptVersion (workflowRunId versionId : ℕ) (db : StoryDatabase) : Except Error StoryDatabase :=
  match db.runs[workflowRunId]?, db.versions[versionId]? with
  | some run, some version =>
      if run.status = .completed ∧ run.acceptedVersionId = some versionId then .ok db
      else
        match db.chapters[version.chapterId]?, db.projects[run.projectId]?,
            (db.latestForVersion versionId).filter (·.passed) with
        | some chapter, some _, some evaluation =>
            .ok { db with
              facts := acceptedFacts workflowRunId versionId chapter.acceptedVersionId db.facts
              versions :=
                acceptedVersions workflowRunId versionId chapter.acceptedVersionId db.versions
              chapters := db.chapters.modify version.chapterId fun chapter =>
                { chapter with
                  acceptedVersionId := some versionId
                  currentVersionId := some versionId
                  version := version.version
                  title := version.text.title
                  content := version.text.content
                  summary := version.text.summary
                  score := some evaluation.overallScore
                  status := .accepted }
              runs := db.runs.modify workflowRunId
                ({ · with
                  currentVersionId := some versionId
                  bestVersionId := some versionId
                  acceptedVersionId := some versionId
                  status := .completed
                  currentNode := "accept_version" })
              revisions :=
                match db.revisions.findIdx? fun revision => revision.newVersionId == versionId with
                | none => db.revisions
                | some id =>
                    db.revisions.modify id ({ · with accepted := true, status := "accepted" }) }
        | _, _, _ =>
            .error (.invalidStateError "Only a passing evaluated version can be accepted")
  | _, _ => .error (.entityNotFoundError "Workflow or accepted version was not found")

/-- `reject_revision`. -/
def rejectRevision (workflowRunId versionId : ℕ) (db : StoryDatabase) :
    Except Error StoryDatabase :=
  match db.runs[workflowRunId]?, db.versions[versionId]? with
  | some run, some version =>
      let bestId := (run.bestVersionId.or version.parentVersionId).getD versionId
      .ok { db with
        versions := db.versions.modify versionId ({ · with status := .rejected })
        facts := db.facts.map fun fact =>
          if fact.chapterVersionId = versionId ∧ fact.status = .candidate then
            { fact with status := .rejected }
          else fact
        revisions :=
          match db.revisions.findIdx? fun revision => revision.newVersionId == versionId with
          | none => db.revisions
          | some id => db.revisions.modify id ({ · with status := "rejected" })
        runs := db.runs.modify workflowRunId ({ · with currentVersionId := some bestId })
        chapters := db.chapters.modify version.chapterId
          ({ · with currentVersionId := some bestId, status := .workflowRunning }) }
  | _, _ => .error (.entityNotFoundError "Workflow or revision was not found")

/-- `mark_needs_review`. -/
def markNeedsReview (workflowRunId : ℕ) (db : StoryDatabase) : Except Error StoryDatabase :=
  match db.runs[workflowRunId]?.bind (·.bestVersionId) with
  | none => .error (.invalidStateError "Workflow has no best version for human review")
  | some bestId =>
      match db.versions[bestId]? with
      | none => .error (.entityNotFoundError "Best version was not found")
      | some version =>
          if db.chapters[version.chapterId]?.isNone then
            .error (.entityNotFoundError "Workflow chapter was not found")
          else
            .ok { db with
              versions := db.versions.mapIdx fun id version =>
                if id = bestId then { version with status := .needsReview }
                else if rejectOthers workflowRunId bestId id version then
                  { version with status := .rejected }
                else version
              chapters := db.chapters.modify version.chapterId
                ({ · with
                  currentVersionId := some bestId
                  version := version.version
                  title := version.text.title
                  content := version.text.content
                  summary := version.text.summary
                  status := .needsHumanReview })
              runs := db.runs.modify workflowRunId
                ({ · with
                  currentVersionId := some bestId
                  status := .completedNeedsReview
                  currentNode := "mark_needs_human_review" })
              facts := db.facts.map fun fact =>
                if fact.workflowRunId = some workflowRunId ∧ fact.status = .candidate then
                  { fact with status := .rejected }
                else fact }

end ChapterVersionService

end StoryForge
