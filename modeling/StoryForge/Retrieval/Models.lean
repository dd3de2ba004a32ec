import Mathlib.Algebra.GroupWithZero.Nat
import StoryForge.Library.Dict
import StoryForge.Memory.Indexing

/-!
# Retrieval: the contracts

What the writer of a chapter is shown is read from the plan of the project, from the story so
far and from the memory index. This module has the tables with the columns that only readers
use, and the requests and hits of retrieval. Scores are floating point numbers, and texts are
folded and searched as Python and the database do it: both are parameters.
-/

namespace StoryForge.Retrieval

open Memory

/-! ### Parameters -/

/-- The arithmetic of scores. `ofRat` is a literal, and `format` writes a number of decimals. -/
class Score (S : Type) extends Add S, Sub S, Mul S, Div S, Min S, Max S where
  ofRat : ℚ → S
  le : S → S → Bool
  format : ℕ → S → String

/-- Exact scores. -/
instance : Score ℚ where
  ofRat := id
  le a b := decide (a ≤ b)
  format _ score := toString score

/-- How texts are folded, cut into terms and searched. -/
structure TextFunctions where
  casefold : String → String
  terms : String → List String
  ilike : String → String → Bool
  normalize : String → String
  isalnum : Char → Bool
  normalizeName : String → String

/-! ### Tables -/

/-- The columns of a project that its plan fills. -/
structure ProjectPlan where
  title : String
  genre : String
  premise : String
  themes : List String
  worldSummary : Option String
  centralConflict : Option String
  endingDirection : Option String
  styleGuide : Option String
  language : String
  tone : Option String
  audience : Option String
  deriving DecidableEq, Repr

/-- The columns of a chapter that its plan fills. -/
structure ChapterPlan where
  objective : String
  summary : String
  keyEvents : List String
  participatingCharacters : List String
  locations : List String
  requiredFacts : List String
  forbiddenReveals : List String
  setupForeshadowing : List String
  payoffForeshadowing : List String
  endingHook : String
  deriving DecidableEq, Repr

/-- The columns of a character that no chapter writes. -/
structure CharacterProfile where
  role : String
  goals : List String
  personalityTraits : List String
  speechStyle : String
  deriving DecidableEq, Repr

/-- A row of the index that is taken from a chapter: a chapter of its project, before which it is
not valid. -/
def Dated (chapters : List StoryChapter) (projectId : ℕ) (chapterId : Option ℕ)
    (validFromChapter : ℕ) : Prop :=
  ∀ id ∈ chapterId, ∃ chapter ∈ chapters[id]?,
    chapter.projectId = projectId ∧ chapter.chapterNumber ≤ validFromChapter

instance (chapters : List StoryChapter) (projectId : ℕ) (chapterId : Option ℕ)
    (validFromChapter : ℕ) : Decidable (Dated chapters projectId chapterId validFromChapter) := by
  unfold Dated; infer_instance

/-- The committed state with the columns that readers use, given by id. `chapterPlans` is none
where the outline does not have the fields of the schema. -/
structure ContextDatabase (S : Type) extends MemoryDatabase where
  plans : ℕ → ProjectPlan
  chapterPlans : ℕ → Option ChapterPlan
  profiles : ℕ → CharacterProfile
  locationRules : ℕ → List String
  ruleCategories : ℕ → String
  importances : ℕ → String
  embeddings : ℕ → List S
  chunks_dated : ∀ row ∈ chunks, Dated chapters row.projectId row.chapterId row.validFromChapter
  relations_dated : ∀ row ∈ relations,
    Dated chapters row.projectId row.sourceChapterId row.validFromChapter

/-! ### Requests and hits -/

/-- A retrieval route. -/
inductive RetrievalSource
  | keyword
  | vector
  | fact
  | graph
  deriving DecidableEq, Repr

/-- The text of a route. -/
def RetrievalSource.value : RetrievalSource → String
  | .keyword => "keyword"
  | .vector => "vector"
  | .fact => "fact"
  | .graph => "graph"

/-- `list(RetrievalSource)`. -/
def RetrievalSource.all : List RetrievalSource := [.keyword, .vector, .fact, .graph]

/-- The routes by their text. -/
def RetrievalSource.sorted : List RetrievalSource := [.fact, .graph, .keyword, .vector]

/-- The text of what a chunk is made of. -/
def sourceTypeValue : SourceType → String
  | .chapterContent => "chapter_content"
  | .chapterSummary => "chapter_summary"
  | .fact => "fact"
  | .character => "character"
  | .location => "location"
  | .storyRule => "story_rule"
  | .foreshadowing => "foreshadowing"

/-- The text of a fact status. -/
def factStatusValue : FactStatus → String
  | .candidate => "candidate"
  | .accepted => "accepted"
  | .rejected => "rejected"
  | .superseded => "superseded"

/-- The text of a memory status. -/
def memoryStatusValue : MemoryStatus → String
  | .candidate => "candidate"
  | .accepted => "accepted"
  | .rejected => "rejected"
  | .superseded => "superseded"
  | .deleted => "deleted"

/-- The keys of a hit's metadata that fusion reads, and the hop of a relation. -/
structure HitMetadata where
  status : Option String
  contentHash : Option String
  normalizedHash : Option String
  hop : Option ℕ
  deriving DecidableEq, Repr

/-- A retrieved passage, fact or relation. -/
structure RetrievalHit (S : Type) where
  id : ℕ
  source : RetrievalSource
  matchedSources : List RetrievalSource
  sourceType : String
  content : String
  score : S
  rawScore : S
  projectId : ℕ
  chapterNumber : Option ℕ
  versionId : Option ℕ
  entityNames : List String
  relationPath : List String
  metadata : HitMetadata
  explanation : String
  deriving DecidableEq

/-- What is to be retrieved. -/
structure HybridRetrievalRequest where
  projectId : ℕ
  query : String
  currentChapter : ℕ
  characterNames : List String
  locationNames : List String
  sourceTypes : List String
  topK : ℕ
  maxContextChars : ℕ
  includeSources : Option (List RetrievalSource)
  deriving DecidableEq, Repr

/-- What was retrieved. -/
structure HybridRetrievalResult (S : Type) where
  query : String
  hits : List (RetrievalHit S)
  totalCandidates : ℕ
  keywordCandidates : ℕ
  vectorCandidates : ℕ
  factCandidates : ℕ
  graphCandidates : ℕ
  deduplicatedCount : ℕ
  omittedCount : ℕ
  estimatedChars : ℕ
  retrievalVersion : String
  filtersApplied : List String
  degraded : Bool
  degradedReasons : List String
  deriving DecidableEq

/-- The characters and locations that a request names. -/
def HybridRetrievalRequest.names (request : HybridRetrievalRequest) : List String :=
  request.characterNames ++ request.locationNames

section Scores

variable {S : Type} [Score S]

/-- `max(0.0, min(1.0, score))`. -/
def clamp (score : S) : S := max (Score.ofRat 0) (min (Score.ofRat 1) score)

/-- `score == 0`. -/
def isZero (score : S) : Bool :=
  Score.le score (Score.ofRat 0) && Score.le (Score.ofRat 0) score

/-- The order of `(-score, id)`. -/
def RetrievalHit.precedes (a b : RetrievalHit S) : Bool :=
  if Score.le a.score b.score then Score.le b.score a.score && decide (a.id ≤ b.id) else true

/-- `sorted(hits, key=lambda item: (-item.score, item.id))[:top_k]`. -/
def best (topK : ℕ) (hits : List (RetrievalHit S)) : List (RetrievalHit S) :=
  (hits.insertionSort fun a b => a.precedes b = true).take topK

end Scores

end StoryForge.Retrieval
