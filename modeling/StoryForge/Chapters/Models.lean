import Mathlib.Data.Rat.Defs
import StoryForge.Library.Rows
import StoryForge.Models

/-!
# Chapters, versions and facts

The tables the three chapter services write: chapters with a pointer to their current and
to their accepted version, versions with the text, facts extracted from versions,
evaluations, revisions and comparisons of versions, and the version pointers of workflow
runs. The id of a row is its position. Scores are exact rationals.

Character states, foreshadowing and the memory index are written by the same transactions
but never read by the steps modelled here; `Canon` adds them.
-/

namespace StoryForge

/-- The column of a project that generation reads and writes. -/
structure StoryProject where
  status : ProjectStatus
  deriving DecidableEq, Repr

/-- A chapter with its canonical text. -/
structure StoryChapter where
  projectId : ℕ
  chapterNumber : ℕ
  status : ChapterStatus
  version : ℕ
  title : String
  content : String
  summary : String
  score : Option ℚ
  currentVersionId : Option ℕ
  acceptedVersionId : Option ℕ
  deriving DecidableEq, Repr

/-- A drafted text. -/
structure Draft where
  title : String
  content : String
  summary : String
  deriving DecidableEq, Repr

/-- A high-confidence canonical character state change. -/
structure CharacterStateUpdate where
  characterName : String
  field : String
  value : String
  field_pattern : field = "current_state"
  deriving DecidableEq, Repr

/-- What an update says about a foreshadowing. -/
inductive ForeshadowingAction
  | setup
  | advance
  | resolve
  deriving DecidableEq, Repr

/-- A setup, advancement, or resolution inferred from the current prose. -/
structure ForeshadowingUpdate where
  action : ForeshadowingAction
  description : String
  foreshadowingId : Option ℕ
  deriving DecidableEq, Repr

/-- Immutable full-text snapshot for one generated chapter version. `factExtraction` tells
whether the metadata have a `fact_extraction` key. -/
structure ChapterVersion where
  chapterId : ℕ
  version : ℕ
  text : Draft
  status : ChapterVersionStatus
  source : String
  parentVersionId : Option ℕ
  workflowRunId : Option ℕ
  candidateCharacterUpdates : List CharacterStateUpdate
  candidateForeshadowingUpdates : List ForeshadowingUpdate
  factExtraction : Bool
  idempotencyKey : Option String
  deriving DecidableEq, Repr

/-- What an extractor states. -/
structure ExtractedFact where
  subject : String
  predicate : String
  object : String
  deriving DecidableEq, Repr

/-- A structured fact extracted from a version. -/
structure Fact where
  chapterId : ℕ
  chapterVersionId : ℕ
  workflowRunId : Option ℕ
  status : FactStatus
  content : ExtractedFact
  normalizedHash : String
  deriving DecidableEq, Repr

/-- Chapter quality scores, with the number of critical and of high conflicts found. -/
structure Evaluation where
  chapterId : ℕ
  chapterVersionId : ℕ
  workflowRunId : Option ℕ
  idempotencyKey : Option String
  evaluationVersion : ℕ
  status : EvaluationStatus
  overallScore : ℚ
  consistencyScore : ℚ
  outlineAdherenceScore : ℚ
  criticalConflicts : ℕ
  highConflicts : ℕ
  blockingReasons : List String
  recommendedAction : String
  passed : Bool
  deriving DecidableEq, Repr

/-- The audit row of a targeted revision. -/
structure Revision where
  chapterId : ℕ
  sourceVersionId : ℕ
  newVersionId : ℕ
  workflowRunId : ℕ
  scoreBefore : ℚ
  scoreAfter : ℚ
  accepted : Bool
  status : String
  deriving DecidableEq, Repr

/-- A persisted decision between two versions. -/
structure VersionComparison where
  workflowRunId : ℕ
  oldVersionId : ℕ
  newVersionId : ℕ
  decision : String
  deriving DecidableEq, Repr

/-- The columns of a workflow run that say which versions it works on. -/
structure StoryRun where
  projectId : ℕ
  chapterId : ℕ
  status : WorkflowRunStatus
  currentNode : String
  originalVersionId : Option ℕ
  currentVersionId : Option ℕ
  bestVersionId : Option ℕ
  acceptedVersionId : Option ℕ
  revisionAttempt : ℕ
  retryCount : ℕ
  deriving DecidableEq, Repr

/-- The committed state of the story tables. -/
structure StoryDatabase where
  projects : List StoryProject
  chapters : List StoryChapter
  versions : List ChapterVersion
  facts : List Fact
  evaluations : List Evaluation
  revisions : List Revision
  comparisons : List VersionComparison
  runs : List StoryRun
  deriving DecidableEq, Repr

/-! ### Texts -/

/-- The characters that `str.strip` removes. -/
def isSpace (c : Char) : Bool :=
  let n := c.toNat
  (9 ≤ n && n ≤ 13) || (28 ≤ n && n ≤ 32) || n == 0x85 || n == 0xa0 || n == 0x1680 ||
    (0x2000 ≤ n && n ≤ 0x200a) || n == 0x2028 || n == 0x2029 || n == 0x202f || n == 0x205f ||
    n == 0x3000

/-- `not text.strip()`. -/
def isBlank (text : String) : Bool := text.toList.all isSpace

/-! ### Queries -/

namespace StoryDatabase

variable (db : StoryDatabase)

/-- `ChapterRepository.get_by_number`. -/
def chapterByNumber (projectId chapterNumber : ℕ) : Option ℕ :=
  db.chapters.findIdx? fun chapter =>
    chapter.projectId == projectId && chapter.chapterNumber == chapterNumber

/-- A chapter with its id. -/
def findChapter (projectId chapterNumber : ℕ) : Option (ℕ × StoryChapter) :=
  (db.chapterByNumber projectId chapterNumber).bind fun id => db.chapters[id]?.map (id, ·)

/-- The version of a chapter with a version number. -/
def versionByNumber (chapterId version : ℕ) : Option ℕ :=
  db.versions.findIdx? fun row => row.chapterId == chapterId && row.version == version

/-- `ChapterVersionRepository.get_by_idempotency_key`. -/
def versionByKey (key : String) : Option ℕ :=
  db.versions.findIdx? fun row => row.idempotencyKey == some key

/-- `ChapterVersionRepository.next_version`. -/
def nextVersion (chapterId : ℕ) : ℕ :=
  ((db.versions.filter fun row => row.chapterId == chapterId).map (·.version)).foldr max 0 + 1

/-- `EvaluationRepository.next_version`. -/
def nextEvaluationVersion (chapterId : ℕ) : ℕ :=
  ((db.evaluations.filter fun row => row.chapterId == chapterId).map
    (·.evaluationVersion)).foldr max 0 + 1

/-- `EvaluationRepository.latest_for_version`. -/
def latestForVersion (versionId : ℕ) : Option Evaluation :=
  (db.evaluations.filter fun row => row.chapterVersionId == versionId).foldl
    (fun latest row =>
      match latest with
      | none => some row
      | some other => if other.evaluationVersion < row.evaluationVersion then some row else latest)
    none

/-- `FactRepository.list_for_version`. -/
def factsForVersion (versionId : ℕ) : List Fact :=
  db.facts.filter fun fact => fact.chapterVersionId == versionId

end StoryDatabase

end StoryForge
