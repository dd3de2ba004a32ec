import StoryForge.Retrieval.Routes

/-!
# `HybridRetriever`

The hits of the routes are fused by weighted reciprocal ranks, passages of equal content become
one hit, and the hits are ordered again with bonuses for what matters to the chapter, up to a
number of hits and of characters. A route that fails is left out.
-/

namespace StoryForge.Retrieval

open Memory

variable {S : Type} [Score S]

/-! ### Fusion -/

/-- Weights of the routes. -/
structure HybridWeights (S : Type) where
  keyword : S
  vector : S
  fact : S
  graph : S

/-- `getattr(weights, source.value)`. -/
def HybridWeights.of (weights : HybridWeights S) : RetrievalSource → S
  | .keyword => weights.keyword
  | .vector => weights.vector
  | .fact => weights.fact
  | .graph => weights.graph

/-- Configuration of the reranker. -/
structure RerankerConfig (S : Type) where
  characterBonus : S
  locationBonus : S
  acceptedFactBonus : S
  storyRuleBonus : S
  foreshadowingBonus : S
  trustedSourceBonus : S
  multiSourceStep : S
  multiSourceCap : S
  recencyCap : S
  longContentThreshold : ℕ
  longContentPenalty : S

/-- What a retriever is built with. -/
structure HybridRetriever (S : Type) where
  text : TextFunctions
  vector : VectorRetriever S
  graph : GraphRetriever
  weights : HybridWeights S
  reranker : RerankerConfig S
  rrfK : ℕ

/-- `_visible`. -/
def isVisible (request : HybridRetrievalRequest) (hit : RetrievalHit S) : Bool :=
  hit.metadata.status.all (· == "accepted") && hit.projectId == request.projectId &&
    hit.chapterNumber.all fun number => decide (number < request.currentChapter)

/-- `_dedup_key`. -/
def dedupKey (text : TextFunctions) (hit : RetrievalHit S) : String :=
  let normalized := text.normalize (text.casefold hit.content)
  if hit.sourceType = "fact" then "fact:" ++ normalized
  else
    match hit.metadata.normalizedHash.filter (· != ""),
      hit.metadata.contentHash.filter (· != "") with
    | some hash, _ => hash
    | none, some hash => hash
    | none, none => normalized

/-- A hit with its score so far. -/
structure FusedHit (S : Type) where
  hit : RetrievalHit S
  score : S

/-- One more hit of a route, at a rank. -/
def fuse (retriever : HybridRetriever S) (request : HybridRetrievalRequest)
    (source : RetrievalSource) (merged : List (String × FusedHit S))
    (ranked : RetrievalHit S × ℕ) : List (String × FusedHit S) :=
  let (hit, rank) := ranked
  if !isVisible request hit then merged
  else
    let key := dedupKey retriever.text hit
    let share := retriever.weights.of source / Score.ofRat (retriever.rrfK + rank : ℕ)
    match merged.lookup key with
    | none => merged ++ [(key, ⟨hit, Score.ofRat 0 + share⟩)]
    | some current =>
        Dict.set key
          { hit :=
              { current.hit with
                matchedSources := RetrievalSource.sorted.filter fun other =>
                  current.hit.matchedSources.contains other || hit.matchedSources.contains other
                explanation := current.hit.explanation ++ "; also " ++ source.value }
            score := current.score + share } merged

/-- All hits of the routes. -/
def fuseAll (retriever : HybridRetriever S) (request : HybridRetrievalRequest)
    (perSource : List (RetrievalSource × List (RetrievalHit S))) : List (String × FusedHit S) :=
  perSource.foldl (fun merged route =>
    (route.2.zipIdx 1).foldl (fuse retriever request route.1) merged) []

/-- `max(scores, default=1.0)`. -/
def maxScore : List S → S
  | [] => Score.ofRat 1
  | score :: rest => rest.foldl max score

/-- Scores relative to the largest one. -/
def relative (merged : List (String × FusedHit S)) : Except Error (List (RetrievalHit S)) :=
  let largest := maxScore (merged.map (·.2.score))
  if !merged.isEmpty && isZero largest then
    .error (.other "ZeroDivisionError" "float division by zero")
  else .ok (merged.map fun entry => { entry.2.hit with score := entry.2.score / largest })

/-! ### `Reranker` -/

/-- A bonus with the name of its factor, where a condition holds. -/
def bonusIf (condition : Bool) (factor : String) (bonus : S) : List (String × S) :=
  if condition then [(factor, bonus)] else []

/-- The factors of a hit, with what each adds. -/
def factors (text : TextFunctions) (config : RerankerConfig S) (request : HybridRetrievalRequest)
    (hit : RetrievalHit S) : List (String × S) :=
  let characters := request.characterNames.map text.casefold
  let locations := request.locationNames.map text.casefold
  let names := hit.entityNames.map text.casefold
  let sources := hit.matchedSources.eraseDups.length
  bonusIf (names.any characters.contains) "current_character" config.characterBonus ++
    bonusIf (names.any locations.contains) "current_location" config.locationBonus ++
    bonusIf (hit.matchedSources.contains .fact) "accepted_fact" config.acceptedFactBonus ++
    bonusIf (hit.sourceType == "story_rule") "active_rule" config.storyRuleBonus ++
    bonusIf (hit.sourceType == "foreshadowing") "active_foreshadowing"
      config.foreshadowingBonus ++
    bonusIf (["fact", "story_rule", "character", "location"].contains hit.sourceType)
      "trusted_source" config.trustedSourceBonus ++
    bonusIf (decide (1 < sources)) "multi_source"
      (min config.multiSourceCap (config.multiSourceStep * Score.ofRat (sources - 1 : ℕ))) ++
    (match hit.chapterNumber with
      | some number =>
          [("recency", min config.recencyCap
            (config.recencyCap / Score.ofRat (max 1 ((request.currentChapter : ℤ) - number) : ℤ)))]
      | none => []) ++
    bonusIf (decide (config.longContentThreshold < hit.content.length)) "length_penalty"
      (Score.ofRat 0 - config.longContentPenalty)

/-- A hit with its bonuses. -/
def rescore (text : TextFunctions) (config : RerankerConfig S) (request : HybridRetrievalRequest)
    (hit : RetrievalHit S) : RetrievalHit S :=
  let found := factors text config request hit
  let bonus := found.foldl (fun bonus factor => bonus + factor.2) (Score.ofRat 0)
  { hit with
    score := clamp (hit.score + bonus)
    explanation := hit.explanation ++ "; rerank=" ++
      if found.isEmpty then "base" else String.intercalate "," (found.map (·.1)) }

/-- The order of `(-score, source, id)`. -/
def RetrievalHit.ranksBefore (a b : RetrievalHit S) : Bool :=
  if Score.le a.score b.score then
    Score.le b.score a.score &&
      (decide (a.source.value < b.source.value) ||
        a.source == b.source && decide (a.id ≤ b.id))
  else true

/-- `rerank`. -/
def rerank (text : TextFunctions) (config : RerankerConfig S) (request : HybridRetrievalRequest)
    (hits : List (RetrievalHit S)) : List (RetrievalHit S) :=
  (hits.map (rescore text config request)).insertionSort fun a b => a.ranksBefore b = true

/-! ### Selection -/

/-- The hits that fit, in their order, with the number of their characters. -/
def selectHits (topK maxChars : ℕ) (hits : List (RetrievalHit S)) : List (RetrievalHit S) × ℕ :=
  hits.foldl (fun (selected, estimated) hit =>
    if topK ≤ selected.length ∨ maxChars < estimated + hit.content.length then
      (selected, estimated)
    else (selected ++ [hit], estimated + hit.content.length)) ([], 0)

/-- The results of the routes that answer, and the failures of the others. -/
def runRoutes (routes : RetrievalSource → Except Error (List (RetrievalHit S)))
    (included : List RetrievalSource) :
    List (RetrievalSource × List (RetrievalHit S)) × List String :=
  included.foldl (fun (perSource, failures) source =>
    match routes source with
    | .ok hits => (Dict.set source hits perSource, failures)
    | .error _ => (perSource, failures ++ [source.value ++ "_unavailable"])) ([], [])

/-- What the graph route reads for a request. -/
def ContextDatabase.graphView (text : TextFunctions) (request : HybridRetrievalRequest)
    (db : ContextDatabase S) : GraphView where
  relations := db.visibleRelations request.projectId request.currentChapter
  canonicalName id := db.entities[id]?.map (·.canonicalName)
  seeds := db.findVisible text request.projectId request.names.eraseDups

/-- The routes on a database. -/
def ContextDatabase.routes (retriever : HybridRetriever S) (request : HybridRetrievalRequest)
    (db : ContextDatabase S) : RetrievalSource → Except Error (List (RetrievalHit S))
  | .keyword =>
      .ok (keywordRetrieve retriever.text request
        (db.visibleChunks request.projectId request.currentChapter request.sourceTypes))
  | .vector =>
      vectorRetrieve retriever.text retriever.vector request
        (db.visibleChunks request.projectId request.currentChapter request.sourceTypes)
  | .fact =>
      .ok (factRetrieve retriever.text request
        (db.listKnownBefore request.projectId request.currentChapter))
  | .graph =>
      .ok (graphRetrieve retriever.graph request (db.graphView retriever.text request))

/-- `HybridRetriever.retrieve`. -/
def hybridRetrieve (retriever : HybridRetriever S)
    (routes : RetrievalSource → Except Error (List (RetrievalHit S)))
    (request : HybridRetrievalRequest) : Except Error (HybridRetrievalResult S) :=
  let included := (request.includeSources.filter fun sources => !sources.isEmpty).getD
    RetrievalSource.all
  let (perSource, failures) := runRoutes routes included
  if perSource.isEmpty then
    .error (.other "RetrievalError" "All configured retrieval routes failed")
  else do
    let merged := fuseAll retriever request perSource
    let fused ← relative merged
    let reranked := rerank retriever.text retriever.reranker request fused
    let (selected, estimated) := selectHits request.topK request.maxContextChars reranked
    let count := fun source => ((perSource.lookup source).getD []).length
    let total := (RetrievalSource.all.map count).sum
    return {
      query := request.query
      hits := selected
      totalCandidates := total
      keywordCandidates := count .keyword
      vectorCandidates := count .vector
      factCandidates := count .fact
      graphCandidates := count .graph
      deduplicatedCount := merged.length
      omittedCount := total - selected.length
      estimatedChars := estimated
      retrievalVersion := "hybrid-rrf-v1"
      filtersApplied := ["project_id", "accepted_status", "chapter_cutoff", "validity_interval",
        "context_budget"]
      degraded := !failures.isEmpty
      degradedReasons := failures }

end StoryForge.Retrieval
