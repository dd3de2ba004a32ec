import StoryForge.Retrieval.Models

/-!
# Retrieval routes

The four routes of retrieval: accepted memory by its words and by its vectors, accepted facts,
and the relations of the story graph around the characters and locations that are asked for.
Each reads what is visible to the chapter in question: what was accepted of earlier chapters.

## Main results

* `graphRetrieve_congr` — of the entities the graph route reads only the names of those that
  visible relations connect.
-/

namespace StoryForge.Retrieval

open Memory

variable {S : Type} [Score S]

/-! ### Visible rows -/

/-- What readers see of a fact; `place` are the project and the number of its chapter. -/
structure KnownFact where
  id : ℕ
  subject : String
  predicate : String
  object : String
  factType : String
  confidence : ℚ
  status : FactStatus
  place : ℕ × ℕ
  versionId : ℕ
  normalizedHash : String
  deriving DecidableEq, Repr

/-- The text of a fact. -/
def KnownFact.text (fact : KnownFact) : String :=
  fact.subject ++ " " ++ fact.predicate ++ " " ++ fact.object

namespace ContextDatabase

variable (db : ContextDatabase S)

/-- The project and the number of a chapter. -/
def place (chapterId : ℕ) : Option (ℕ × ℕ) :=
  db.chapters[chapterId]?.map fun chapter => (chapter.projectId, chapter.chapterNumber)

/-- A chapter is one of a project before a number. -/
def isBefore (projectId chapterNumber chapterId : ℕ) : Bool :=
  (db.place chapterId).any fun place => place.1 == projectId && decide (place.2 < chapterNumber)

/-- The facts that a chapter may know, with their ids. -/
def isKnown (projectId chapterNumber : ℕ) (row : Fact × ℕ) : Bool :=
  row.1.status == .accepted && db.isBefore projectId chapterNumber row.1.chapterId &&
    decide ((db.factDetails row.2).validFromChapter ≤ chapterNumber) &&
    (db.factDetails row.2).validToChapter.all fun last => decide (chapterNumber ≤ last)

/-- What readers see of a fact. -/
def knownFact (row : Fact × ℕ) : KnownFact where
  id := row.2
  subject := row.1.content.subject
  predicate := row.1.content.predicate
  object := row.1.content.object
  factType := (db.factDetails row.2).factType
  confidence := (db.factDetails row.2).confidence
  status := row.1.status
  place := (db.place row.1.chapterId).getD (0, 0)
  versionId := row.1.chapterVersionId
  normalizedHash := row.1.normalizedHash

/-- `FactRepository.list_known_before`. -/
def listKnownBefore (projectId chapterNumber : ℕ) : List KnownFact :=
  ((db.facts.zipIdx.filter (db.isKnown projectId chapterNumber)).map db.knownFact).insertionSort
    fun a b => b.confidence ≤ a.confidence

end ContextDatabase

/-- `visible_statement`, for the chunks of a project. -/
def isVisibleChunk (projectId currentChapter : ℕ) (sourceTypes : List String)
    (row : Memory.MemoryChunk) : Bool :=
  row.projectId == projectId && row.status == .accepted &&
    decide (row.validFromChapter < currentChapter) &&
    (sourceTypes.isEmpty || sourceTypes.contains (sourceTypeValue row.sourceType))

/-- The relations of a project that are visible to a chapter. -/
def isVisibleRelation (projectId currentChapter : ℕ) (row : GraphRelation) : Bool :=
  row.projectId == projectId && row.status == .accepted &&
    decide (row.validFromChapter < currentChapter) &&
    row.validToChapter.all fun last => decide (currentChapter ≤ last)

namespace ContextDatabase

variable (db : ContextDatabase S)

/-- The visible chunks, with the ids and the vectors. -/
def visibleChunks (projectId currentChapter : ℕ) (sourceTypes : List String) :
    List (Memory.MemoryChunk × ℕ × List S) :=
  (Rows.select db.chunks (isVisibleChunk projectId currentChapter sourceTypes)).map fun row =>
    (row.1, row.2, db.embeddings row.2)

/-- The visible relations, with the ids. -/
def visibleRelations (projectId currentChapter : ℕ) : List (GraphRelation × ℕ) :=
  Rows.select db.relations (isVisibleRelation projectId currentChapter)

/-- `GraphEntityRepository.find_visible`: the ids and names. -/
def findVisible (text : TextFunctions) (projectId : ℕ) (names : List String) :
    List (ℕ × String) :=
  let normalized := (names.filter fun name => strip name != "").map text.normalizeName
  (Rows.select db.entities fun row => row.projectId == projectId && row.status == .accepted &&
    normalized.contains row.normalizedName).map fun row => (row.2, row.1.canonicalName)

end ContextDatabase

/-! ### Terms -/

/-- `_matches_entities`. -/
def matchesEntities (text : TextFunctions) (request : HybridRetrievalRequest)
    (entityNames : List String) : Bool :=
  let filters := request.names.map text.casefold
  filters.isEmpty || (entityNames.map text.casefold).any filters.contains

/-- The terms of a query. -/
def queryTerms (text : TextFunctions) (query : String) : List String :=
  (((text.terms query).map text.casefold).eraseDups).take 20

/-- `", ".join(texts)`. -/
def joined (texts : List String) : String := String.intercalate ", " texts

/-! ### Keywords -/

/-- The hit of a chunk. -/
def chunkHit (row : Memory.MemoryChunk) (id : ℕ) (source : RetrievalSource) (score rawScore : S)
    (explanation : String) : RetrievalHit S where
  id := id
  source := source
  matchedSources := [source]
  sourceType := sourceTypeValue row.sourceType
  content := row.content
  score := score
  rawScore := rawScore
  projectId := row.projectId
  chapterNumber := some row.validFromChapter
  versionId := row.chapterVersionId
  entityNames := []
  relationPath := []
  metadata := ⟨some (memoryStatusValue row.status), some row.contentHash, none, none⟩
  explanation := explanation

/-- `keyword_candidates`. -/
def keywordCandidates (text : TextFunctions) (terms : List String) (limit : ℕ)
    (rows : List (Memory.MemoryChunk × ℕ × List S)) : List (Memory.MemoryChunk × ℕ × List S) :=
  let patterns := terms.filter (· != "")
  (rows.filter fun row => patterns.isEmpty || patterns.any (text.ilike row.1.content))
    |>.insertionSort (fun a b => b.1.validFromChapter ≤ a.1.validFromChapter) |>.take limit

/-- `KeywordRetriever.retrieve`, on the visible chunks. -/
def keywordRetrieve (text : TextFunctions) (request : HybridRetrievalRequest)
    (rows : List (Memory.MemoryChunk × ℕ × List S)) : List (RetrievalHit S) :=
  let terms := queryTerms text request.query
  best request.topK (((keywordCandidates text terms (min (request.topK * 4) 100) rows).filter
      fun row => matchesEntities text request row.1.entityNames).map fun row =>
    let folded := text.casefold row.1.content
    let hits := terms.filter (contains folded)
    chunkHit row.1 row.2.1 .keyword
      (min (Score.ofRat 1) (Score.ofRat hits.length / Score.ofRat (max 1 terms.length)))
      (Score.ofRat hits.length) ("keyword match: " ++ joined (hits.take 5)))

/-! ### Vectors -/

/-- What the vector route is built with. `embedQuery` asks the provider, which may fail, and
`cosineDistance` is the database's. -/
structure VectorRetriever (S : Type) where
  embedQuery : String → Option (List S)
  dimensions : ℕ
  postgresql : Bool
  cosineDistance : List S → List S → S

/-- `VectorRetriever.retrieve`, on the visible chunks. -/
def vectorRetrieve (text : TextFunctions) (retriever : VectorRetriever S)
    (request : HybridRetrievalRequest) (rows : List (Memory.MemoryChunk × ℕ × List S)) :
    Except Error (List (RetrievalHit S)) :=
  match retriever.embedQuery request.query with
  | none => .error (.other "RetrieverUnavailableError" "Vector embedding is unavailable")
  | some vector =>
      if vector.length ≠ retriever.dimensions then
        .error (.other "RetrieverUnavailableError" "Vector embedding dimension mismatch")
      else if !retriever.postgresql then
        .error (.other "RetrieverUnavailableError" "pgvector retrieval requires PostgreSQL")
      else
        let distance := fun row : Memory.MemoryChunk × ℕ × List S =>
          retriever.cosineDistance row.2.2 vector
        let nearest := (rows.insertionSort fun a b => Score.le (distance a) (distance b) = true)
          |>.take request.topK
        .ok ((nearest.filter fun row => matchesEntities text request row.1.entityNames).map
          fun row =>
            chunkHit row.1 row.2.1 .vector (clamp (Score.ofRat 1 - distance row)) (distance row)
              ("pgvector cosine distance " ++ Score.format 6 (distance row)))

/-! ### Facts -/

/-- `FactRetriever.retrieve`, on the known facts. -/
def factRetrieve (text : TextFunctions) (request : HybridRetrievalRequest)
    (facts : List KnownFact) : List (RetrievalHit S) :=
  if !request.sourceTypes.isEmpty && !request.sourceTypes.contains "fact" then []
  else
    let terms := queryTerms text request.query
    let filters := request.names.map text.casefold
    let hit := fun fact : KnownFact =>
      let folded := text.casefold fact.text
      let hits := terms.filter (contains folded)
      if !filters.isEmpty && !filters.contains (text.casefold fact.subject) &&
          !filters.contains (text.casefold fact.object) then none
      else if !terms.isEmpty && hits.isEmpty then none
      else
        let lexical : S := Score.ofRat hits.length / Score.ofRat (max 1 terms.length)
        let confidence : S := Score.ofRat fact.confidence
        some
          { id := fact.id
            source := .fact
            matchedSources := [.fact]
            sourceType := "fact"
            content := fact.text
            score := min (Score.ofRat 1)
              (Score.ofRat (6 / 10) * confidence + Score.ofRat (4 / 10) * lexical)
            rawScore := confidence
            projectId := fact.place.1
            chapterNumber := some fact.place.2
            versionId := some fact.versionId
            entityNames := [fact.subject]
            relationPath := []
            metadata :=
              ⟨some (factStatusValue fact.status), none, some fact.normalizedHash, none⟩
            explanation := "accepted fact confidence " ++ Score.format 3 confidence }
    best request.topK (facts.filterMap hit)

/-! ### The graph -/

/-- What the graph route is built with. -/
structure GraphRetriever where
  maxHops : ℕ
  maxNodes : ℕ
  maxEdges : ℕ
  maxHops_range : maxHops = 1 ∨ maxHops = 2

/-- What the graph route reads: the relations that are visible with their ids, the names of
entities, and the entities it starts from. -/
structure GraphView where
  relations : List (GraphRelation × ℕ)
  canonicalName : ℕ → Option String
  seeds : List (ℕ × String)

/-- `GraphRelationRepository.visible_for_entities`. -/
def GraphView.visibleForEntities (view : GraphView) (entityIds : List ℕ) (limit : ℕ) :
    List (GraphRelation × ℕ) :=
  ((view.relations.filter fun row =>
      entityIds.contains row.1.subjectEntityId || entityIds.contains row.1.objectEntityId)
    |>.insertionSort fun a b => b.1.confidence ≤ a.1.confidence) |>.take limit

/-- The expansion so far: the entities with their names, those that were found in the hop, the
edges that were visited, and the hits. -/
structure Expansion (S : Type) where
  known : List (ℕ × String)
  nextFrontier : List ℕ
  visitedEdges : List ℕ
  hits : List (RetrievalHit S)

/-- An end of a relation becomes known. -/
def Expansion.meet (maxNodes : ℕ) (canonicalName : ℕ → Option String)
    (expansion : Expansion S) (entityId : ℕ) : Expansion S :=
  if (expansion.known.lookup entityId).isNone && decide (expansion.known.length < maxNodes) then
    match canonicalName entityId with
    | some name =>
        { expansion with
          known := expansion.known ++ [(entityId, name)]
          nextFrontier := expansion.nextFrontier ++ [entityId] }
    | none => expansion
  else expansion

/-- The hit of a relation. -/
def relationHit (hop : ℕ) (row : GraphRelation × ℕ) (subject object : String) :
    RetrievalHit S where
  id := row.2
  source := .graph
  matchedSources := [.graph]
  sourceType := "graph_relation"
  content := subject ++ " " ++ row.1.predicate.value ++ " " ++ object
  score := clamp (Score.ofRat row.1.confidence *
    (Score.ofRat 1 - Score.ofRat (1 / 10) * Score.ofRat (hop - 1 : ℕ)))
  rawScore := Score.ofRat row.1.confidence
  projectId := row.1.projectId
  chapterNumber := some row.1.validFromChapter
  versionId := row.1.sourceVersionId
  entityNames := [subject, object]
  relationPath := [subject, row.1.predicate.value, object]
  metadata := ⟨some (memoryStatusValue row.1.status), none, none, some hop⟩
  explanation := "graph " ++ toString hop ++ "-hop path: " ++
    String.intercalate " → " [subject, row.1.predicate.value, object]

/-- One turn of the inner loop. -/
def Expansion.visit (maxNodes : ℕ) (canonicalName : ℕ → Option String) (hop : ℕ)
    (expansion : Expansion S) (row : GraphRelation × ℕ) : Expansion S :=
  if expansion.visitedEdges.contains row.2 then expansion
  else
    let met := (Expansion.meet maxNodes canonicalName
      { expansion with visitedEdges := expansion.visitedEdges ++ [row.2] } row.1.subjectEntityId)
      |>.meet maxNodes canonicalName row.1.objectEntityId
    match met.known.lookup row.1.subjectEntityId, met.known.lookup row.1.objectEntityId with
    | some subject, some object =>
        { met with hits := met.hits ++ [relationHit hop row subject object] }
    | _, _ => met

/-- The hops from `hop` on, `remaining` of them at most. -/
def expand (retriever : GraphRetriever) (view : GraphView) :
    ℕ → ℕ → List ℕ → Expansion S → Expansion S
  | 0, _, _, expansion => expansion
  | remaining + 1, hop, frontier, expansion =>
      let relations :=
        if frontier.isEmpty then []
        else view.visibleForEntities frontier (retriever.maxEdges - expansion.visitedEdges.length)
      let visited := relations.foldl
        (Expansion.visit retriever.maxNodes view.canonicalName hop)
        { expansion with nextFrontier := [] }
      if visited.nextFrontier.isEmpty ||
          decide (retriever.maxEdges ≤ visited.visitedEdges.length) then visited
      else expand retriever view remaining (hop + 1) visited.nextFrontier visited

/-- `GraphRetriever.retrieve`. -/
def graphRetrieve (retriever : GraphRetriever) (request : HybridRetrievalRequest)
    (view : GraphView) : List (RetrievalHit S) :=
  if !request.sourceTypes.isEmpty && !request.sourceTypes.contains "graph_relation" then []
  else
    best request.topK (expand retriever view retriever.maxHops 1 (view.seeds.map (·.1))
      ⟨view.seeds, [], [], []⟩).hits

/-! ### What the graph route reads -/

omit [Score S] in
theorem meet_congr {canonicalName canonicalName' : ℕ → Option String} {entityId : ℕ}
    (h : canonicalName entityId = canonicalName' entityId) (maxNodes : ℕ)
    (expansion : Expansion S) :
    expansion.meet maxNodes canonicalName entityId =
      expansion.meet maxNodes canonicalName' entityId := by
  rw [Expansion.meet, Expansion.meet, h]

theorem visit_congr {canonicalName canonicalName' : ℕ → Option String} {row : GraphRelation × ℕ}
    (hsubject : canonicalName row.1.subjectEntityId = canonicalName' row.1.subjectEntityId)
    (hobject : canonicalName row.1.objectEntityId = canonicalName' row.1.objectEntityId)
    (maxNodes hop : ℕ) (expansion : Expansion S) :
    expansion.visit maxNodes canonicalName hop row =
      expansion.visit maxNodes canonicalName' hop row := by
  simp only [Expansion.visit, meet_congr hsubject, meet_congr hobject]

/-- A query returns visible relations. -/
theorem GraphView.mem_of_mem_visibleForEntities {view : GraphView} {entityIds : List ℕ}
    {limit : ℕ} {row : GraphRelation × ℕ} (h : row ∈ view.visibleForEntities entityIds limit) :
    row ∈ view.relations :=
  (List.mem_filter.mp ((List.mem_insertionSort _).mp (List.mem_of_mem_take h))).1

/-- Two views with the same relations, which connect entities of the same names. -/
structure GraphView.Same (view view' : GraphView) : Prop where
  relations : view.relations = view'.relations
  seeds : view.seeds = view'.seeds
  names : ∀ row ∈ view.relations,
    view.canonicalName row.1.subjectEntityId = view'.canonicalName row.1.subjectEntityId ∧
      view.canonicalName row.1.objectEntityId = view'.canonicalName row.1.objectEntityId

theorem expand_congr {retriever : GraphRetriever} {view view' : GraphView}
    (h : view.Same view') (remaining hop : ℕ) (frontier : List ℕ) (expansion : Expansion S) :
    expand retriever view remaining hop frontier expansion =
      expand retriever view' remaining hop frontier expansion := by
  induction remaining generalizing hop frontier expansion with
  | zero => rfl
  | succ remaining ih =>
      have hrows : ∀ ids limit,
          view.visibleForEntities ids limit = view'.visibleForEntities ids limit := fun ids limit =>
        by rw [GraphView.visibleForEntities, GraphView.visibleForEntities, h.relations]
      have hvisit : ∀ rows : List (GraphRelation × ℕ), (∀ row ∈ rows, row ∈ view.relations) →
          ∀ start : Expansion S,
            rows.foldl (Expansion.visit retriever.maxNodes view.canonicalName hop) start =
              rows.foldl (Expansion.visit retriever.maxNodes view'.canonicalName hop) start := by
        intro rows hmem start
        refine List.foldl_ext _ _ start fun expansion row hrow => ?_
        obtain ⟨hsubject, hobject⟩ := h.names row (hmem row hrow)
        exact visit_congr hsubject hobject _ _ _
      unfold expand
      dsimp only
      rw [hvisit]
      · simp only [hrows, ih]
      · intro row hrow
        split at hrow
        · exact absurd hrow (by simp)
        · exact GraphView.mem_of_mem_visibleForEntities hrow

/-- Of the entities the graph route reads only the names of those that visible relations
connect. -/
theorem graphRetrieve_congr {retriever : GraphRetriever} {request : HybridRetrievalRequest}
    {view view' : GraphView} (h : view.Same view') :
    graphRetrieve (S := S) retriever request view = graphRetrieve retriever request view' := by
  rw [graphRetrieve, graphRetrieve, expand_congr h, h.seeds]

end StoryForge.Retrieval
