import StoryForge.Chapters.Canon
import StoryForge.Library.Upsert

/-!
# Memory and graph

The tables of the memory index: chunks of the sources of a story, and a graph of entities and
relations. A chunk or relation that comes from a chapter names the version it was taken from.
An entity names the version that mentioned it last, unless it is a character or a location of
the project. Every row has a status, and only accepted rows are visible.

The columns of facts, characters and chapters that are written once are given by id.
-/

namespace StoryForge.Memory

/-! ### Rows -/

/-- What a chunk is made of. -/
inductive SourceType
  | chapterContent
  | chapterSummary
  | fact
  | character
  | location
  | storyRule
  | foreshadowing
  deriving DecidableEq, Repr

/-- Controlled entity categories for the relational story graph. -/
inductive GraphEntityType
  | character
  | location
  | object
  | event
  | secret
  deriving DecidableEq, Repr

/-- The text of a category. -/
def GraphEntityType.value : GraphEntityType → String
  | .character => "character"
  | .location => "location"
  | .object => "object"
  | .event => "event"
  | .secret => "secret"

/-- Controlled graph edge predicates, those that the extractor uses. -/
inductive GraphPredicate
  | locatedAt
  | knows
  | owns
  | memberOf
  | caused
  | reveals
  | relatedTo
  deriving DecidableEq, Repr

/-- The text of a predicate. -/
def GraphPredicate.value : GraphPredicate → String
  | .locatedAt => "LOCATED_AT"
  | .knows => "KNOWS"
  | .owns => "OWNS"
  | .memberOf => "MEMBER_OF"
  | .caused => "CAUSED"
  | .reveals => "REVEALS"
  | .relatedTo => "RELATED_TO"

/-- The columns of a fact that chapters do not read. -/
structure FactDetails where
  factType : String
  confidence : ℚ
  sourceQuote : String
  validFromChapter : ℕ
  validToChapter : Option ℕ
  deriving DecidableEq, Repr

/-- A story location. -/
structure Location where
  projectId : ℕ
  name : String
  description : String
  deriving DecidableEq, Repr

/-- A persisted world, style, or continuity rule. -/
structure StoryRule where
  projectId : ℕ
  statement : String
  active : Bool
  deriving DecidableEq, Repr

/-- A piece of a source, before it is stored. -/
structure SourceDraft where
  sourceType : SourceType
  sourceId : ℕ
  chapterId : Option ℕ
  chapterVersionId : Option ℕ
  validFromChapter : ℕ
  entityNames : List String
  chunkIndex : ℕ
  content : String
  contentHash : String
  deriving DecidableEq, Repr

/-- A bounded, version-aware semantic memory fragment. -/
structure MemoryChunk extends SourceDraft where
  projectId : ℕ
  status : MemoryStatus
  deriving DecidableEq, Repr

/-- A canonical project-scoped graph node backed by accepted story evidence. -/
structure GraphEntity where
  projectId : ℕ
  entityType : GraphEntityType
  canonicalName : String
  normalizedName : String
  disambiguationKey : String
  description : Option String
  sourceChapterId : Option ℕ
  sourceVersionId : Option ℕ
  status : MemoryStatus
  confidence : ℚ
  deriving DecidableEq, Repr

/-- A bounded, explainable edge in the story graph. -/
structure GraphRelation where
  projectId : ℕ
  subjectEntityId : ℕ
  predicate : GraphPredicate
  objectEntityId : ℕ
  sourceChapterId : Option ℕ
  sourceVersionId : Option ℕ
  confidence : ℚ
  validFromChapter : ℕ
  validToChapter : Option ℕ
  status : MemoryStatus
  evidence : String
  evidenceHash : String
  deriving DecidableEq, Repr

/-- `graph_relation_valid_range`. -/
def GraphRelation.InRange (row : GraphRelation) : Prop :=
  ∀ validTo ∈ row.validToChapter, row.validFromChapter ≤ validTo

instance (row : GraphRelation) : Decidable row.InRange := by
  unfold GraphRelation.InRange; infer_instance

/-- The committed state: the story tables, what is indexed of a project beside them, and the
tables of the index. `indexRecords` are the records of the versions under the provider and
model in use. -/
structure MemoryDatabase extends StoryDatabase where
  characters : List Character
  descriptions : ℕ → String
  locations : List Location
  rules : List StoryRule
  foreshadowings : List Foreshadowing
  factDetails : ℕ → FactDetails
  outlineNames : ℕ → List String
  chunks : List MemoryChunk
  entities : List GraphEntity
  relations : List GraphRelation
  indexRecords : ℕ → Option MemoryIndexStatus

/-! ### Hiding versions -/

/-- The status of a row when some versions are hidden: an accepted row of them is superseded. -/
def hidden (versions : List ℕ) (sourceVersionId : Option ℕ) (status : MemoryStatus) :
    MemoryStatus :=
  if (sourceVersionId.any fun id => versions.contains id) ∧ status = .accepted then .superseded
  else status

/-- `supersede_version_in_session`, for some versions. -/
def MemoryDatabase.hide (versions : List ℕ) (db : MemoryDatabase) : MemoryDatabase :=
  { db with
    chunks := db.chunks.map fun row =>
      { row with status := hidden versions row.chapterVersionId row.status }
    relations := db.relations.map fun row =>
      { row with status := hidden versions row.sourceVersionId row.status }
    entities := db.entities.map fun row =>
      { row with status := hidden versions row.sourceVersionId row.status } }

/-- What is still accepted was accepted before, and is not of these versions. -/
theorem hidden_eq_accepted {versions : List ℕ} {source : Option ℕ} {status : MemoryStatus} :
    hidden versions source status = .accepted ↔
      status = .accepted ∧ ∀ id ∈ source, id ∉ versions := by
  unfold hidden
  cases source with
  | none => simp
  | some id =>
      by_cases hid : id ∈ versions
      · cases status <;> simp [hid]
      · simp [hid]

end StoryForge.Memory
