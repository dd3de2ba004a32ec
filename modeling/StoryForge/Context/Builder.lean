import StoryForge.Retrieval.Hybrid

/-!
# `ContextBuilder`

The context of a chapter is what its writer is shown: the project and the outline of the
chapter, all active rules, and as many of the characters, known facts, open foreshadowings,
recent chapters, locations and retrieved memories as fit into a number of characters.

Records are checked and their texts stripped by the schemas. `size` is the length of a record
as JSON.
-/

namespace StoryForge.Context

open Memory Retrieval

/-! ### Schemas -/

/-- Request for a bounded, leak-free writer context. -/
structure ContextBuildRequest where
  projectId : ℕ
  chapterNumber : ℕ
  maxContextChars : ℕ
  recentChapterLimit : ℕ
  maxCharacters : ℕ
  deriving DecidableEq, Repr

/-- High-level story direction relevant to every chapter. -/
structure ProjectContext where
  title : String
  genre : String
  premise : String
  themes : List String
  worldSummary : String
  centralConflict : String
  styleGuide : String
  language : String
  tone : Option String
  audience : Option String
  deriving DecidableEq, Repr

/-- Current chapter plan, which the budgeter never removes. -/
structure ChapterOutlineContext extends ChapterPlan where
  chapterNumber : ℕ
  title : String
  deriving DecidableEq, Repr

/-- Writer-visible character data with author-only secrets excluded. -/
structure CharacterContext where
  name : String
  role : String
  description : String
  goals : List String
  personality : List String
  speechStyle : String
  currentState : String
  deriving DecidableEq, Repr

/-- Writer-visible location data. -/
structure LocationContext where
  name : String
  description : String
  rules : List String
  deriving DecidableEq, Repr

/-- One active story rule. -/
structure RuleContext where
  category : String
  statement : String
  deriving DecidableEq, Repr

/-- Summary of an earlier, already-generated chapter. -/
structure RecentChapterContext where
  chapterNumber : ℕ
  title : String
  summary : String
  deriving DecidableEq, Repr

/-- A fact extracted from an earlier chapter and valid now. -/
structure FactContext where
  subject : String
  predicate : String
  object : String
  factType : String
  confidence : ℚ
  sourceChapter : ℕ
  deriving DecidableEq, Repr

/-- An open setup revealed before the current chapter. -/
structure ForeshadowingContext where
  foreshadowingId : ℕ
  description : String
  setupChapter : ℕ
  expectedPayoffChapter : ℕ
  importance : String
  deriving DecidableEq, Repr

/-- One accepted, past-only hybrid retrieval result for the writer. -/
structure MemoryContext (S : Type) where
  hitId : ℕ
  sourceType : String
  content : String
  score : S
  sourceRoutes : List String
  sourceChapter : Option ℕ
  explanation : String
  deriving DecidableEq

/-- A record of a context. -/
inductive ContextItem (S : Type)
  | project (item : ProjectContext)
  | outline (item : ChapterOutlineContext)
  | rule (item : RuleContext)
  | character (item : CharacterContext)
  | fact (item : FactContext)
  | foreshadowing (item : ForeshadowingContext)
  | recent (item : RecentChapterContext)
  | location (item : LocationContext)
  | memory (item : MemoryContext S)

/-- Auditable budget and omission information. -/
structure ContextBudgetMetadata where
  maxChars : ℕ
  estimatedChars : ℕ
  candidateItems : ℕ
  includedItems : ℕ
  omittedItems : ℕ
  omittedCategories : List String
  mandatoryOutlineExceededBudget : Bool
  retrievalVersion : String
  retrievalQuery : String
  retrievalHitIds : List ℕ
  retrievalSourceComposition : List (String × ℕ)
  retrievalDegraded : Bool
  retrievalDegradedReasons : List String
  deriving DecidableEq, Repr

/-- Complete writer context assembled from persisted canonical data. -/
structure ChapterContext (S : Type) where
  projectId : ℕ
  project : ProjectContext
  currentOutline : ChapterOutlineContext
  characters : List CharacterContext
  locations : List LocationContext
  rules : List RuleContext
  recentChapters : List RecentChapterContext
  knownFacts : List FactContext
  activeForeshadowing : List ForeshadowingContext
  memoryHits : List (MemoryContext S)
  budget : ContextBudgetMetadata
  deriving DecidableEq

/-- What a builder is built with. -/
structure ContextBuilder (S : Type) where
  text : TextFunctions
  size : ContextItem S → ℕ
  hybridRetriever : Option (HybridRetriever S)
  retrievalTopK : ℕ
  retrievalMaxContextChars : ℕ

/-! ### Validation -/

/-- A value, unless its check fails. -/
def validated {α : Type} (valid : Bool) (value : α) : Except Error α :=
  if valid then .ok value else .error (.other "ValidationError" "ContextBuilder.build")

/-- `ContextBuildError`. -/
def contextBuildError : Error :=
  .other "ContextBuildError" "Persisted planning data is structurally invalid"

/-- `not text` for an optional text. -/
def isMissing (text : Option String) : Bool := (text.getD "") == ""

/-- The project context of a plan. -/
def ProjectContext.ofPlan (plan : ProjectPlan) : Except Error ProjectContext :=
  if [plan.worldSummary, plan.centralConflict, plan.endingDirection, plan.styleGuide].any
      isMissing then
    .error (.invalidStateError "Project must be planned before context can be built")
  else if Fits 200 (strip plan.title) ∧ strip plan.premise ≠ "" then
    .ok
      { title := strip plan.title
        genre := strip plan.genre
        premise := strip plan.premise
        themes := plan.themes.map strip
        worldSummary := strip (plan.worldSummary.getD "")
        centralConflict := strip (plan.centralConflict.getD "")
        styleGuide := strip (plan.styleGuide.getD "")
        language := strip plan.language
        tone := plan.tone.map strip
        audience := plan.audience.map strip }
  else .error contextBuildError

/-- The outline of a chapter, from its plan, its title and its number. -/
def ChapterOutlineContext.ofPlan (chapterNumber : ℕ) (title : String)
    (plan : Option ChapterPlan) : Except Error ChapterOutlineContext :=
  match plan with
  | none => .error contextBuildError
  | some plan =>
      if Fits 200 (strip title) ∧ strip plan.objective ≠ "" ∧ strip plan.summary ≠ "" ∧
          strip plan.endingHook ≠ "" then
        .ok
          { chapterNumber := chapterNumber
            title := strip title
            objective := strip plan.objective
            summary := strip plan.summary
            keyEvents := plan.keyEvents.map strip
            participatingCharacters := plan.participatingCharacters.map strip
            locations := plan.locations.map strip
            requiredFacts := plan.requiredFacts.map strip
            forbiddenReveals := plan.forbiddenReveals.map strip
            setupForeshadowing := plan.setupForeshadowing.map strip
            payoffForeshadowing := plan.payoffForeshadowing.map strip
            endingHook := strip plan.endingHook }
      else .error contextBuildError

/-! ### What is read -/

section Reads

variable {S : Type} (db : ContextDatabase S)

/-- The characters of a project that are named, with their ids. -/
def namedCharacters (projectId : ℕ) (names : List String) :
    List (Character × ℕ) :=
  Rows.select db.characters fun row => row.projectId == projectId && names.contains row.name

/-- What the writer sees of a character. -/
def characterContext (row : Character × ℕ) : Except Error CharacterContext :=
  let profile := db.profiles row.2
  validated (decide (Fits 200 (strip row.1.name)))
    { name := strip row.1.name
      role := strip profile.role
      description := strip (db.descriptions row.2)
      goals := profile.goals.map strip
      personality := profile.personalityTraits.map strip
      speechStyle := strip profile.speechStyle
      currentState := strip row.1.currentState }

/-- The locations of a project that are named. -/
def locationContexts (projectId : ℕ) (names : List String) :
    Except Error (List LocationContext) :=
  (Rows.select db.locations fun row =>
      row.projectId == projectId && names.contains row.name).mapM fun row =>
    validated (decide (Fits 200 (strip row.1.name)))
      { name := strip row.1.name
        description := strip row.1.description
        rules := (db.locationRules row.2).map strip }

/-- The active rules of a project. -/
def ruleContexts (projectId : ℕ) : List RuleContext :=
  (Rows.select db.rules fun row => row.projectId == projectId && row.active).map fun row =>
    ⟨strip (db.ruleCategories row.2), strip row.1.statement⟩

/-- Whether a foreshadowing is visible to a chapter. -/
def isActiveBefore (projectId chapterNumber : ℕ) (row : Foreshadowing) : Bool :=
  row.projectId == projectId && decide (row.setupChapter < chapterNumber) && row.status == .open

/-- `ForeshadowingRepository.list_active_before`, as the writer sees it. -/
def foreshadowingContexts (projectId chapterNumber : ℕ) :
    List ForeshadowingContext :=
  ((Rows.select db.foreshadowings (isActiveBefore projectId chapterNumber)).map fun row =>
    { foreshadowingId := row.2
      description := strip row.1.description
      setupChapter := row.1.setupChapter
      expectedPayoffChapter := row.1.expectedPayoffChapter
      importance := strip (db.importances row.2) : ForeshadowingContext }).insertionSort
    fun a b => a.expectedPayoffChapter ≤ b.expectedPayoffChapter

/-- Whether a chapter is an earlier one with a summary. -/
def isRecent (projectId chapterNumber : ℕ) (row : StoryChapter) : Bool :=
  row.projectId == projectId && decide (row.chapterNumber < chapterNumber) && row.summary != ""

/-- The chapters before a number that have a summary, the latest first. -/
def recentContexts (projectId chapterNumber limit : ℕ) :
    Except Error (List RecentChapterContext) := do
  let recent ← (((Rows.select db.chapters (isRecent projectId chapterNumber)).map
      (·.1)).insertionSort fun a b => b.chapterNumber ≤ a.chapterNumber).mapM fun row =>
    validated (strip row.summary != "")
      ({ chapterNumber := row.chapterNumber
         title := strip row.title
         summary := strip row.summary } : RecentChapterContext)
  return recent.take limit

end Reads

/-! ### Facts -/

/-- `"".join(text.split())` of a folded text. -/
def compact (text : TextFunctions) (value : String) : String :=
  String.ofList ((text.casefold value).toList.filter fun c => !isSpace c)

/-- `_canonical_text`. -/
def canonicalText (text : TextFunctions) (value : String) : String :=
  String.ofList ((text.casefold value).toList.filter text.isalnum)

/-- `_relevant_facts`. -/
def relevantFacts (text : TextFunctions) (outline : ChapterOutlineContext)
    (facts : List KnownFact) : List KnownFact :=
  let terms := ((outline.participatingCharacters ++ outline.locations ++
    outline.requiredFacts).filter fun term => strip term != "").map (compact text)
  facts.filter fun fact =>
    let searchable := compact text fact.text
    terms.isEmpty || terms.any fun term => contains searchable term || contains term searchable

/-- What the writer sees of a fact. -/
def factContext (fact : KnownFact) : Except Error FactContext :=
  validated (decide (0 ≤ fact.confidence ∧ fact.confidence ≤ 1))
    { subject := strip fact.subject
      predicate := strip fact.predicate
      object := strip fact.object
      factType := strip fact.factType
      confidence := fact.confidence
      sourceChapter := fact.place.2 }

/-! ### Memory -/

/-- `text.strip(" |")`. -/
def stripBars (text : String) : String :=
  let bar : Char → Bool := fun c => c == ' ' || c == '|'
  String.ofList ((text.toList.dropWhile bar).reverse.dropWhile bar).reverse

/-- `RetrievalQueryBuilder.build`: the semantic query. -/
def semanticQuery (text : TextFunctions) (outline : ChapterOutlineContext)
    (previousSummary : String) (activeForeshadowing : List String) : String :=
  let forbidden := outline.forbiddenReveals.map text.casefold
  let candidates := [outline.objective] ++ outline.keyEvents ++ outline.requiredFacts ++
    outline.participatingCharacters ++ outline.locations ++ activeForeshadowing ++
    [previousSummary]
  let safe := (candidates.filter fun item =>
    strip item != "" && !forbidden.any fun secret => contains (text.casefold item) secret).map strip
  let semantic := stripBars (truncate 1500 (String.intercalate " | " safe.eraseDups))
  if semantic = "" then truncate 1500 outline.objective else semantic

/-- What is asked of the retriever. -/
def retrievalRequest {S : Type} (builder : ContextBuilder S) (request : ContextBuildRequest)
    (outline : ChapterOutlineContext) (recent : List RecentChapterContext)
    (foreshadowing : List ForeshadowingContext) : HybridRetrievalRequest where
  projectId := request.projectId
  query := semanticQuery builder.text outline ((recent.head?.map (·.summary)).getD "")
    (foreshadowing.map (·.description))
  currentChapter := request.chapterNumber
  characterNames := outline.participatingCharacters
  locationNames := outline.locations
  sourceTypes := ["chapter_content", "chapter_summary", "fact", "character", "location",
    "story_rule", "foreshadowing", "graph_relation"]
  topK := builder.retrievalTopK
  maxContextChars := max 100 (min request.maxContextChars builder.retrievalMaxContextChars)
  includeSources := none

/-- A result without hits. -/
def noHits {S : Type} (query version : String) (filters : List String)
    (degradedReasons : List String) : HybridRetrievalResult S where
  query := query
  hits := []
  totalCandidates := 0
  keywordCandidates := 0
  vectorCandidates := 0
  factCandidates := 0
  graphCandidates := 0
  deduplicatedCount := 0
  omittedCount := 0
  estimatedChars := 0
  retrievalVersion := version
  filtersApplied := filters
  degraded := !degradedReasons.isEmpty
  degradedReasons := degradedReasons

/-- `_retrieve_memory`. -/
def retrieveMemory {S : Type} [Score S] (builder : ContextBuilder S)
    (request : ContextBuildRequest) (outline : ChapterOutlineContext)
    (recent : List RecentChapterContext) (foreshadowing : List ForeshadowingContext)
    (db : ContextDatabase S) : Except Error (HybridRetrievalResult S) :=
  match builder.hybridRetriever with
  | none => .ok (noHits outline.objective "disabled" [] [])
  | some retriever =>
      let retrieval := retrievalRequest builder request outline recent foreshadowing
      match hybridRetrieve retriever (db.routes retriever retrieval) retrieval with
      | .ok result => .ok result
      | .error error =>
          if error.className = "RetrievalError" then
            .ok (noHits retrieval.query "unavailable"
              ["project_id", "accepted_status", "chapter_cutoff"] ["all_routes_unavailable"])
          else .error error

/-- What the writer sees of a hit. -/
def memoryContext {S : Type} [Score S] (hit : RetrievalHit S) :
    Except Error (MemoryContext S) :=
  validated (strip hit.content != "" && Score.le (Score.ofRat 0) hit.score &&
      Score.le hit.score (Score.ofRat 1))
    { hitId := hit.id
      sourceType := strip hit.sourceType
      content := strip hit.content
      score := hit.score
      sourceRoutes := hit.matchedSources.map (·.value)
      sourceChapter := hit.chapterNumber
      explanation := strip hit.explanation }

/-! ### The budget -/

/-- The items of a category that fit when they are considered, with what is used then. -/
def fitItems {α : Type} (size : α → ℕ) (maxChars : ℕ) : ℕ → List α → List α × ℕ
  | used, [] => ([], used)
  | used, item :: rest =>
      if used + size item ≤ maxChars then
        let (kept, total) := fitItems size maxChars (used + size item) rest
        (item :: kept, total)
      else fitItems size maxChars used rest

/-- How often each route found a memory. -/
def sourceComposition {S : Type} (memory : List (MemoryContext S)) : List (String × ℕ) :=
  (memory.flatMap (·.sourceRoutes)).foldl (fun counts source =>
    Dict.set source ((counts.lookup source).getD 0 + 1) counts) []

/-- The candidates for a context. -/
structure ContextCandidates (S : Type) where
  project : ProjectContext
  outline : ChapterOutlineContext
  rules : List RuleContext
  characters : List CharacterContext
  facts : List FactContext
  foreshadowing : List ForeshadowingContext
  recent : List RecentChapterContext
  locations : List LocationContext
  memory : List (MemoryContext S)
  retrieval : HybridRetrievalResult S

/-- `_apply_budget`. -/
def applyBudget {S : Type} (size : ContextItem S → ℕ) (request : ContextBuildRequest)
    (candidates : ContextCandidates S) : ChapterContext S :=
  let maxChars := request.maxContextChars
  let mandatorySize := size (.project candidates.project) + size (.outline candidates.outline) +
    (candidates.rules.map fun rule => size (.rule rule)).sum
  let (characters, used) := fitItems (size ∘ .character) maxChars mandatorySize
    candidates.characters
  let (facts, used) := fitItems (size ∘ .fact) maxChars used candidates.facts
  let (foreshadowing, used) := fitItems (size ∘ .foreshadowing) maxChars used
    candidates.foreshadowing
  let (recent, used) := fitItems (size ∘ .recent) maxChars used candidates.recent
  let (locations, used) := fitItems (size ∘ .location) maxChars used candidates.locations
  let (memory, used) := fitItems (size ∘ .memory) maxChars used candidates.memory
  let counts := [("characters", candidates.characters.length, characters.length),
    ("facts", candidates.facts.length, facts.length),
    ("foreshadowing", candidates.foreshadowing.length, foreshadowing.length),
    ("recent", candidates.recent.length, recent.length),
    ("locations", candidates.locations.length, locations.length),
    ("memory", candidates.memory.length, memory.length)]
  let candidateItems := candidates.rules.length + (counts.map (·.2.1)).sum
  let includedItems := candidates.rules.length + (counts.map (·.2.2)).sum
  { projectId := request.projectId
    project := candidates.project
    currentOutline := candidates.outline
    characters := characters
    locations := locations
    rules := candidates.rules
    recentChapters := recent
    knownFacts := facts
    activeForeshadowing := foreshadowing
    memoryHits := memory
    budget :=
      { maxChars := maxChars
        estimatedChars := used
        candidateItems := candidateItems
        includedItems := includedItems
        omittedItems := candidateItems - includedItems
        omittedCategories := (counts.filter fun count => count.2.2 < count.2.1).map (·.1)
        mandatoryOutlineExceededBudget := decide (maxChars < mandatorySize)
        retrievalVersion := candidates.retrieval.retrievalVersion
        retrievalQuery := candidates.retrieval.query
        retrievalHitIds := memory.map (·.hitId)
        retrievalSourceComposition := sourceComposition memory
        retrievalDegraded := candidates.retrieval.degraded
        retrievalDegradedReasons := candidates.retrieval.degradedReasons } }

/-! ### The context -/

/-- The project, and the outline of the chapter with its current title. -/
def mandatory {S : Type} (db : ContextDatabase S) (projectId chapterNumber : ℕ) :
    Except Error (ProjectContext × ChapterOutlineContext) :=
  if db.projects.length ≤ projectId then
    .error (.entityNotFoundError ("Project " ++ toString projectId ++ " was not found"))
  else
    match db.findChapter projectId chapterNumber with
    | none =>
        .error (.entityNotFoundError ("Chapter " ++ toString chapterNumber ++
          " was not found for project " ++ toString projectId))
    | some (chapterId, chapter) => do
        let project ← ProjectContext.ofPlan (db.plans projectId)
        let outline ← ChapterOutlineContext.ofPlan chapterNumber chapter.title
          (db.chapterPlans chapterId)
        return (project, outline)

/-- `build`. -/
def build {S : Type} [Score S] (builder : ContextBuilder S) (request : ContextBuildRequest)
    (db : ContextDatabase S) : Except Error (ChapterContext S) := do
  let (project, outline) ← mandatory db request.projectId request.chapterNumber
  let characters ← (namedCharacters db request.projectId outline.participatingCharacters).mapM
    (characterContext db)
  let locations ← locationContexts db request.projectId outline.locations
  let facts ← (relevantFacts builder.text outline
    (db.listKnownBefore request.projectId request.chapterNumber)).mapM factContext
  let foreshadowing := foreshadowingContexts db request.projectId request.chapterNumber
  let recent ← recentContexts db request.projectId request.chapterNumber
    request.recentChapterLimit
  let retrieval ← retrieveMemory builder request outline recent foreshadowing db
  let keys := facts.map fun fact =>
    canonicalText builder.text (fact.subject ++ " " ++ fact.predicate ++ " " ++ fact.object)
  let memory ← (retrieval.hits.filter fun hit =>
    !(hit.sourceType == "fact" &&
      keys.contains (canonicalText builder.text hit.content))).mapM memoryContext
  return applyBudget builder.size request
    { project := project
      outline := outline
      rules := ruleContexts db request.projectId
      characters := characters.take request.maxCharacters
      facts := facts
      foreshadowing := foreshadowing
      recent := recent
      locations := locations
      memory := memory
      retrieval := retrieval }

end StoryForge.Context
