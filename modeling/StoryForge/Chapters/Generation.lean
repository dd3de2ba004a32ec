import StoryForge.Chapters.Models

/-!
# `ChapterGenerationService`

One chapter is generated in four transactions, with the writer and the extractor called in
between: the chapter is marked as generating, the draft is saved as a new version, and the
facts of that version are stored as accepted together with the version itself. A failure is
marked in a transaction of its own.

A transaction is a function into `Except`; an `integrityError` is the database refusing the
commit.
-/

namespace StoryForge

/-- Input for the chapter generation service. -/
structure GenerationRequest where
  projectId : ℕ
  chapterNumber : ℕ
  regenerate : Bool
  deriving DecidableEq, Repr

/-- The output of an extractor. -/
structure Extraction where
  facts : List ExtractedFact
  characterUpdates : List CharacterStateUpdate
  foreshadowingUpdates : List ForeshadowingUpdate
  deriving DecidableEq, Repr

/-- The identity of a fact after normalization. -/
abbrev FactNormalizer := ExtractedFact → String

namespace ChapterGenerationService

/-- The project statuses a chapter may be generated in. -/
def allowedProjectStatuses (regenerate : Bool) : List ProjectStatus :=
  [.planned, .generating, .failed] ++ if regenerate then [.completed] else []

/-- `_validate_start`. -/
def validateStart (request : GenerationRequest) (db : StoryDatabase) : Except Error Unit :=
  match db.projects[request.projectId]? with
  | none =>
      .error (.entityNotFoundError ("Project " ++ toString request.projectId ++ " was not found"))
  | some project =>
      if project.status ∉ allowedProjectStatuses request.regenerate then
        .error (.invalidStateError ("Project cannot generate from status " ++ project.status.value))
      else
        match db.findChapter request.projectId request.chapterNumber with
        | none =>
            .error (.entityNotFoundError ("Chapter " ++ toString request.chapterNumber ++
              " was not found for project " ++ toString request.projectId))
        | some (_, chapter) =>
            if isBlank chapter.content = false ∧ request.regenerate = false then
              .error (.invalidStateError "Chapter already has content; pass regenerate=True")
            else if chapter.status ∈ [.generating, .extractingFacts] then
              .error (.invalidStateError "Chapter generation is already in progress")
            else .ok ()

/-- `_set_running`. -/
def setRunning (request : GenerationRequest) (db : StoryDatabase) : Except Error StoryDatabase :=
  match db.projects[request.projectId]?,
      db.findChapter request.projectId request.chapterNumber with
  | some _, some (chapterId, _) =>
      .ok { db with
        projects := db.projects.modify request.projectId ({ · with status := .generating })
        chapters := db.chapters.modify chapterId ({ · with status := .generating }) }
  | _, _ => .error (.entityNotFoundError "Project or chapter disappeared before generation")

/-- The version a draft is saved as. -/
def draftVersion (chapterId version : ℕ) (draft : Draft) : ChapterVersion where
  chapterId := chapterId
  version := version
  text := draft
  status := .draft
  source := "generated"
  parentVersionId := none
  workflowRunId := none
  candidateCharacterUpdates := []
  candidateForeshadowingUpdates := []
  factExtraction := false
  idempotencyKey := none

/-- `_persist_draft`: the number of the new version. -/
def persistDraft (request : GenerationRequest) (draft : Draft) (db : StoryDatabase) :
    Except Error (ℕ × StoryDatabase) :=
  match db.findChapter request.projectId request.chapterNumber with
  | none => .error (.entityNotFoundError "Chapter disappeared while saving its draft")
  | some (chapterId, chapter) =>
      let version := if isBlank chapter.content then chapter.version else chapter.version + 1
      if (db.versionByNumber chapterId version).isSome then
        .error (.integrityError "chapter_version_number")
      else
        .ok (version, { db with
          versions := db.versions ++ [draftVersion chapterId version draft]
          chapters := db.chapters.modify chapterId fun chapter =>
            { chapter with
              version := version
              title := draft.title
              content := draft.content
              summary := draft.summary
              status := .extractingFacts
              currentVersionId := some db.versions.length } })

/-- The accepted fact an extracted one is stored as. -/
def acceptedFact (normalizer : FactNormalizer) (chapterId versionId : ℕ) (item : ExtractedFact) :
    Fact where
  chapterId := chapterId
  chapterVersionId := versionId
  workflowRunId := none
  status := .accepted
  content := item
  normalizedHash := normalizer item

/-- `_persist_extraction`. The facts that other versions of the chapter had accepted are
superseded; the versions themselves are not looked at. -/
def persistExtraction (normalizer : FactNormalizer) (request : GenerationRequest)
    (extraction : Extraction) (version : ℕ) (db : StoryDatabase) : Except Error StoryDatabase :=
  match db.projects[request.projectId]?,
      db.findChapter request.projectId request.chapterNumber with
  | some _, some (chapterId, _) =>
      match db.versionByNumber chapterId version with
      | none =>
          .error (.other "ChapterGenerationError" "Chapter version disappeared during extraction")
      | some snapshotId =>
          let hashes := (db.factsForVersion snapshotId).map (·.normalizedHash) ++
            extraction.facts.map normalizer
          if ¬ hashes.Nodup then .error (.integrityError "fact_version_normalized_hash")
          else
            let chapters := db.chapters.modify chapterId
              ({ · with status := .generated, acceptedVersionId := some snapshotId })
            let complete := chapters.all fun chapter =>
              chapter.projectId != request.projectId || chapter.status == .generated
            .ok { db with
              facts :=
                (db.facts.map fun fact =>
                  if fact.chapterId = chapterId ∧ fact.status = .accepted ∧
                      fact.chapterVersionId ≠ snapshotId then
                    { fact with status := .superseded }
                  else fact) ++
                extraction.facts.map (acceptedFact normalizer chapterId snapshotId)
              versions := db.versions.modify snapshotId
                ({ · with status := .accepted, factExtraction := false })
              chapters := chapters
              projects := db.projects.modify request.projectId
                ({ · with status := if complete then .completed else .generating }) }
  | _, _ => .error (.entityNotFoundError "Project or chapter disappeared during extraction")

/-- `_mark_failure`. -/
def markFailure (request : GenerationRequest) (status : ChapterStatus) (db : StoryDatabase) :
    StoryDatabase :=
  { db with
    projects := db.projects.modify request.projectId ({ · with status := .failed })
    chapters :=
      match db.findChapter request.projectId request.chapterNumber with
      | none => db.chapters
      | some (chapterId, _) => db.chapters.modify chapterId ({ · with status := status }) }

end ChapterGenerationService

end StoryForge
