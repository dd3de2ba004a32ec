import StoryForge.Context.Builder

/-!
# Causality of contexts

A context is to be the same in two states that differ only in what later chapters, or the
chapter itself, have produced. Most of what is read is scoped by the chapter it comes from, but
not all: a chapter overwrites its own title, the states of characters and the status of
foreshadowings, and the index keeps memories of the project that belong to no chapter. This
module shows that contexts are causal exactly when nothing of that kind was touched.

## Main results

* `listKnownBefore_eq`, `visibleChunks_eq`, `visibleRelations_eq`, `recentContexts_eq` — what is
  scoped by chapters is the same;
* `build_causal` — when contexts are the same;
* `build_leaks` — when an accepted chapter changes the state of a character, they are not.
-/

namespace StoryForge.Context

open Memory Retrieval

variable {S : Type}

/-! ### What earlier chapters have produced -/

section Early

variable (projectId chapterNumber : ℕ) (db : ContextDatabase S) (id : ℕ)

/-- An earlier chapter. -/
def earlyChapter : Option StoryChapter :=
  db.chapters[id]?.filter fun row =>
    row.projectId == projectId && decide (row.chapterNumber < chapterNumber)

/-- A fact of an earlier chapter. -/
def earlyFact : Option (Fact × Memory.FactDetails) :=
  (db.facts[id]?.filter fun row => db.isBefore projectId chapterNumber row.chapterId).map
    (·, db.factDetails id)

/-- A memory of an earlier chapter. -/
def earlyChunk : Option (Memory.MemoryChunk × List S) :=
  (db.chunks[id]?.filter fun row =>
    row.chapterId.any (db.isBefore projectId chapterNumber)).map (·, db.embeddings id)

/-- A relation of an earlier chapter. -/
def earlyRelation : Option GraphRelation :=
  db.relations[id]?.filter fun row =>
    row.sourceChapterId.any (db.isBefore projectId chapterNumber)

/-- A foreshadowing that an earlier chapter sets up, apart from what became of it. -/
def earlySetup : Option (Foreshadowing × String) :=
  (db.foreshadowings[id]?.filter fun row =>
    row.projectId == projectId && decide (row.setupChapter < chapterNumber)).map fun row =>
      ({ row with status := .planned, payoffChapter := none }, db.importances id)

end Early

/-- Two states that differ only in what chapters from a number on have produced: the plan and
the rows of earlier chapters are the same. Versions are not read at all. -/
structure SameBefore (projectId chapterNumber : ℕ) (db db' : ContextDatabase S) : Prop where
  projects : db.projects.length = db'.projects.length
  plans : db.plans = db'.plans
  chapterPlans : db.chapterPlans = db'.chapterPlans
  profiles : db.profiles = db'.profiles
  descriptions : db.descriptions = db'.descriptions
  characters : db.characters.map (fun row => (row.projectId, row.name)) =
    db'.characters.map fun row => (row.projectId, row.name)
  locations : db.locations = db'.locations
  locationRules : db.locationRules = db'.locationRules
  rules : db.rules = db'.rules
  ruleCategories : db.ruleCategories = db'.ruleCategories
  places : db.chapters.map (fun row => (row.projectId, row.chapterNumber)) =
    db'.chapters.map fun row => (row.projectId, row.chapterNumber)
  chapters : earlyChapter projectId chapterNumber db = earlyChapter projectId chapterNumber db'
  facts : earlyFact projectId chapterNumber db = earlyFact projectId chapterNumber db'
  chunks : earlyChunk projectId chapterNumber db = earlyChunk projectId chapterNumber db'
  relations : earlyRelation projectId chapterNumber db = earlyRelation projectId chapterNumber db'
  setups : earlySetup projectId chapterNumber db = earlySetup projectId chapterNumber db'

/-! ### What later chapters may not touch -/

/-- The states of the named characters, as they are shown. -/
def shownStates (db : ContextDatabase S) (projectId : ℕ) (names : List String) : List String :=
  (namedCharacters db projectId names).map fun row => strip row.1.currentState

/-- The foreshadowings that are open to a chapter. -/
def openSetups (db : ContextDatabase S) (projectId chapterNumber : ℕ) : List ℕ :=
  Rows.idsWhere db.foreshadowings (isActiveBefore projectId chapterNumber)

/-- No chapter from a number on has renamed the chapter with the number, changed the state of a
character of its outline, or closed or opened a foreshadowing that was set up before it. -/
structure Undisturbed (projectId chapterNumber : ℕ) (db db' : ContextDatabase S) : Prop where
  mandatory : mandatory db projectId chapterNumber = mandatory db' projectId chapterNumber
  states : ∀ project outline, Context.mandatory db projectId chapterNumber = .ok (project, outline) →
    shownStates db projectId outline.participatingCharacters =
      shownStates db' projectId outline.participatingCharacters
  setups : ∀ project outline, Context.mandatory db projectId chapterNumber = .ok (project, outline) →
    openSetups db projectId chapterNumber = openSetups db' projectId chapterNumber

section Unscoped

variable (projectId chapterNumber : ℕ) (db : ContextDatabase S) (id : ℕ)

/-- A visible memory that belongs to no chapter. -/
def unscopedChunk : Option (Memory.MemoryChunk × List S) :=
  (db.chunks[id]?.filter fun row =>
    row.chapterId.isNone && isVisibleChunk projectId chapterNumber [] row).map
      (·, db.embeddings id)

/-- A visible relation that belongs to no chapter. -/
def unscopedRelation : Option GraphRelation :=
  db.relations[id]?.filter fun row =>
    row.sourceChapterId.isNone && isVisibleRelation projectId chapterNumber row

end Unscoped

/-- No chapter from a number on has touched the memories that belong to no chapter, or the
entities from which the graph is searched. -/
structure Recalls (text : TextFunctions) (projectId chapterNumber : ℕ)
    (db db' : ContextDatabase S) : Prop where
  chunks : unscopedChunk projectId chapterNumber db = unscopedChunk projectId chapterNumber db'
  relations : unscopedRelation projectId chapterNumber db =
    unscopedRelation projectId chapterNumber db'
  names : ∀ row ∈ db.visibleRelations projectId chapterNumber,
    ∀ id ∈ [row.1.subjectEntityId, row.1.objectEntityId],
      db.entities[id]?.map (·.canonicalName) = db'.entities[id]?.map (·.canonicalName)
  seeds : ∀ project outline, mandatory db projectId chapterNumber = .ok (project, outline) →
    db.findVisible text projectId
        (outline.participatingCharacters ++ outline.locations).eraseDups =
      db'.findVisible text projectId
        (outline.participatingCharacters ++ outline.locations).eraseDups

/-! ### What is scoped by chapters -/

section Same

variable {projectId chapterNumber : ℕ} {db db' : ContextDatabase S}

theorem SameBefore.place (h : SameBefore projectId chapterNumber db db') : db.place = db'.place := by
  funext id
  have hget := congrArg (·[id]?) h.places
  simpa only [List.getElem?_map, ContextDatabase.place] using hget

theorem SameBefore.isBefore (h : SameBefore projectId chapterNumber db db') :
    db.isBefore = db'.isBefore := by
  funext projectId chapterNumber id
  rw [ContextDatabase.isBefore, ContextDatabase.isBefore, h.place]

/-- A known fact is one of an earlier chapter. -/
theorem known_eq (db : ContextDatabase S) (id : ℕ) :
    ((db.facts[id]?.map (·, id)).filter (db.isKnown projectId chapterNumber)).map db.knownFact =
      ((earlyFact projectId chapterNumber db id).filter fun row =>
        row.1.status == .accepted && decide (row.2.validFromChapter ≤ chapterNumber) &&
          row.2.validToChapter.all fun last => decide (chapterNumber ≤ last)).map fun row =>
      { id := id
        subject := row.1.content.subject
        predicate := row.1.content.predicate
        object := row.1.content.object
        factType := row.2.factType
        confidence := row.2.confidence
        status := row.1.status
        place := (db.place row.1.chapterId).getD (0, 0)
        versionId := row.1.chapterVersionId
        normalizedHash := row.1.normalizedHash : KnownFact } := by
  unfold earlyFact
  cases hrow : db.facts[id]? with
  | none => rfl
  | some row =>
      by_cases hbefore : db.isBefore projectId chapterNumber row.chapterId = true
      · simp only [Option.map_some, Option.filter_some, ContextDatabase.isKnown, hbefore,
          Bool.and_true, if_true]
        split <;> rfl
      · simp [Option.filter_some, ContextDatabase.isKnown, hbefore]

/-- The known facts are the same. -/
theorem listKnownBefore_eq (h : SameBefore projectId chapterNumber db db') :
    db.listKnownBefore projectId chapterNumber = db'.listKnownBefore projectId chapterNumber := by
  unfold ContextDatabase.listKnownBefore
  congr 1
  refine Rows.map_filter_zipIdx_congr fun id => ?_
  rw [known_eq, known_eq, h.facts, h.place]

/-- A visible memory of a chapter is one of an earlier chapter. -/
theorem visibleChunk_eq (db : ContextDatabase S) (sourceTypes : List String) (id : ℕ) :
    ((db.chunks[id]?.map (·, id)).filter fun row =>
        isVisibleChunk projectId chapterNumber sourceTypes row.1).map
          (fun row => (row.1, row.2, db.embeddings row.2)) =
      (((earlyChunk projectId chapterNumber db id).or
        (unscopedChunk projectId chapterNumber db id)).filter fun row =>
          isVisibleChunk projectId chapterNumber sourceTypes row.1).map
            fun row => (row.1, id, row.2) := by
  unfold earlyChunk unscopedChunk
  cases hrow : db.chunks[id]? with
  | none => rfl
  | some row =>
      by_cases hvisible : isVisibleChunk projectId chapterNumber sourceTypes row = true
      · have hparts := hvisible
        simp only [isVisibleChunk, Bool.and_eq_true, beq_iff_eq, decide_eq_true_eq] at hparts
        obtain ⟨⟨⟨hproject, haccepted⟩, hvalid⟩, -⟩ := hparts
        cases hchapter : row.chapterId with
        | none =>
            have hunscoped : isVisibleChunk projectId chapterNumber [] row = true := by
              simp [isVisibleChunk, hproject, haccepted, hvalid]
            simp [Option.filter_some, hchapter, hvisible, hunscoped]
        | some chapterId =>
            obtain ⟨chapter, hmem, hof, hfrom⟩ :=
              db.chunks_dated row (List.mem_of_getElem? hrow) chapterId hchapter
            have hbefore : db.isBefore projectId chapterNumber chapterId = true := by
              simp only [ContextDatabase.isBefore, ContextDatabase.place, Option.mem_def.mp hmem,
                Option.map_some, Option.any_some, Bool.and_eq_true, beq_iff_eq, decide_eq_true_eq]
              exact ⟨hof.trans hproject, by omega⟩
            simp [Option.filter_some, hchapter, hvisible, hbefore]
      · by_cases hearly : row.chapterId.any (db.isBefore projectId chapterNumber) = true <;>
          by_cases hunscoped : (row.chapterId.isNone &&
            isVisibleChunk projectId chapterNumber [] row) = true <;>
          simp [Option.filter_some, hvisible, hearly, hunscoped]

/-- The visible memories are the same. -/
theorem visibleChunks_eq {text : TextFunctions} (h : SameBefore projectId chapterNumber db db')
    (hrecalls : Recalls text projectId chapterNumber db db') (sourceTypes : List String) :
    db.visibleChunks projectId chapterNumber sourceTypes =
      db'.visibleChunks projectId chapterNumber sourceTypes := by
  unfold ContextDatabase.visibleChunks Rows.select
  refine Rows.map_filter_zipIdx_congr fun id => ?_
  rw [visibleChunk_eq, visibleChunk_eq, h.chunks, hrecalls.chunks]

/-- A visible relation of a chapter is one of an earlier chapter. -/
theorem visibleRelation_eq (db : ContextDatabase S) (id : ℕ) :
    ((db.relations[id]?.map (·, id)).filter fun row =>
        isVisibleRelation projectId chapterNumber row.1) =
      (((earlyRelation projectId chapterNumber db id).or
        (unscopedRelation projectId chapterNumber db id)).filter
          (isVisibleRelation projectId chapterNumber)).map (·, id) := by
  unfold earlyRelation unscopedRelation
  cases hrow : db.relations[id]? with
  | none => rfl
  | some row =>
      by_cases hvisible : isVisibleRelation projectId chapterNumber row = true
      · have hparts := hvisible
        simp only [isVisibleRelation, Bool.and_eq_true, beq_iff_eq, decide_eq_true_eq] at hparts
        obtain ⟨⟨⟨hproject, -⟩, hvalid⟩, -⟩ := hparts
        cases hchapter : row.sourceChapterId with
        | none => simp [Option.filter_some, hchapter, hvisible]
        | some chapterId =>
            obtain ⟨chapter, hmem, hof, hfrom⟩ :=
              db.relations_dated row (List.mem_of_getElem? hrow) chapterId hchapter
            have hbefore : db.isBefore projectId chapterNumber chapterId = true := by
              simp only [ContextDatabase.isBefore, ContextDatabase.place, Option.mem_def.mp hmem,
                Option.map_some, Option.any_some, Bool.and_eq_true, beq_iff_eq, decide_eq_true_eq]
              exact ⟨hof.trans hproject, by omega⟩
            simp [Option.filter_some, hchapter, hvisible, hbefore]
      · by_cases hearly : row.sourceChapterId.any (db.isBefore projectId chapterNumber) = true <;>
          simp [Option.filter_some, hvisible, hearly]

/-- The visible relations are the same. -/
theorem visibleRelations_eq {text : TextFunctions} (h : SameBefore projectId chapterNumber db db')
    (hrecalls : Recalls text projectId chapterNumber db db') :
    db.visibleRelations projectId chapterNumber = db'.visibleRelations projectId chapterNumber := by
  have hrows : (db.relations.zipIdx.filter fun row =>
        isVisibleRelation projectId chapterNumber row.1).map id =
      (db'.relations.zipIdx.filter fun row =>
        isVisibleRelation projectId chapterNumber row.1).map id := by
    refine Rows.map_filter_zipIdx_congr fun id => ?_
    rw [Option.map_id, visibleRelation_eq, visibleRelation_eq, h.relations, hrecalls.relations]
  rwa [List.map_id, List.map_id] at hrows

/-- The recent chapters are the same. -/
theorem recentContexts_eq (h : SameBefore projectId chapterNumber db db') (limit : ℕ) :
    recentContexts db projectId chapterNumber limit =
      recentContexts db' projectId chapterNumber limit := by
  have hrecent : ∀ (db : ContextDatabase S) (id : ℕ),
      ((db.chapters[id]?.map (·, id)).filter fun row =>
          isRecent projectId chapterNumber row.1).map (·.1) =
        (earlyChapter projectId chapterNumber db id).filter (·.summary != "") := by
    intro db id
    unfold earlyChapter isRecent
    cases db.chapters[id]? with
    | none => rfl
    | some row =>
        simp only [Option.map_some, Option.filter_some]
        generalize (row.projectId == projectId &&
          decide (row.chapterNumber < chapterNumber)) = early
        cases early with
        | false => simp
        | true =>
            simp only [Bool.true_and, if_true, Option.filter_some]
            split <;> rfl
  have hrows : (Rows.select db.chapters (isRecent projectId chapterNumber)).map (·.1) =
      (Rows.select db'.chapters (isRecent projectId chapterNumber)).map (·.1) := by
    unfold Rows.select
    refine Rows.map_filter_zipIdx_congr fun id => ?_
    rw [hrecent, hrecent, h.chapters]
  unfold recentContexts
  rw [hrows]

/-! ### What is not scoped -/

/-- What a context shows of a named character, from what is shown of its state. -/
def characterOf (db : ContextDatabase S) (key : String × ℕ × String) :
    Except Error CharacterContext :=
  let profile := db.profiles key.2.1
  validated (decide (Fits 200 (strip key.1)))
    { name := strip key.1
      role := strip profile.role
      description := strip (db.descriptions key.2.1)
      goals := profile.goals.map strip
      personality := profile.personalityTraits.map strip
      speechStyle := strip profile.speechStyle
      currentState := key.2.2 }

theorem characterContext_eq (db : ContextDatabase S) (row : Character × ℕ) :
    characterContext db row = characterOf db (row.1.name, row.2, strip row.1.currentState) := by
  obtain ⟨row, id⟩ := row
  unfold characterContext characterOf
  rfl

/-- The names and ids of the named characters are part of the plan. -/
theorem namedCharacters_keys (h : SameBefore projectId chapterNumber db db')
    (names : List String) :
    (namedCharacters db projectId names).map (fun row => (row.1.name, row.2)) =
      (namedCharacters db' projectId names).map fun row => (row.1.name, row.2) := by
  unfold namedCharacters Rows.select
  refine Rows.map_filter_zipIdx_congr fun id => ?_
  have hkey : ∀ (rows : List Character),
      ((rows[id]?.map (·, id)).filter fun row : Character × ℕ =>
          row.1.projectId == projectId && names.contains row.1.name).map
            (fun row => (row.1.name, row.2)) =
        ((rows.map fun row => (row.projectId, row.name))[id]?.filter fun key =>
          key.1 == projectId && names.contains key.2).map fun key => (key.2, id) := by
    intro rows
    rw [List.getElem?_map]
    cases rows[id]? with
    | none => rfl
    | some row =>
        simp only [Option.map_some, Option.filter_some]
        split <;> rfl
  rw [hkey, hkey, h.characters]

/-- What is shown of the named characters, from what is shown of their states. -/
theorem characterContexts_eq (db : ContextDatabase S) (projectId : ℕ) (names : List String) :
    (namedCharacters db projectId names).mapM (characterContext db) =
      (((namedCharacters db projectId names).map fun row => (row.1.name, row.2)).zip
        (shownStates db projectId names)).mapM fun key =>
          characterOf db (key.1.1, key.1.2, key.2) := by
  rw [shownStates, List.zip_map', List.mapM_map, funext (characterContext_eq db)]
  simp only [Function.comp_def]

/-- The characters of a context are the same when their states are. -/
theorem characters_eq (h : SameBefore projectId chapterNumber db db') {names : List String}
    (hstates : shownStates db projectId names = shownStates db' projectId names) :
    (namedCharacters db projectId names).mapM (characterContext db) =
      (namedCharacters db' projectId names).mapM (characterContext db') := by
  have hof : characterOf db = characterOf db' := by
    funext key
    simp only [characterOf, h.profiles, h.descriptions]
  rw [characterContexts_eq, characterContexts_eq, namedCharacters_keys h, hstates, hof]

/-- What a context shows of an open foreshadowing is part of the plan. -/
theorem foreshadowing_eq (db : ContextDatabase S) (id : ℕ) :
    ((db.foreshadowings[id]?.map (·, id)).filter fun row =>
        isActiveBefore projectId chapterNumber row.1).map
          (fun row => { foreshadowingId := row.2
                        description := strip row.1.description
                        setupChapter := row.1.setupChapter
                        expectedPayoffChapter := row.1.expectedPayoffChapter
                        importance := strip (db.importances row.2) : ForeshadowingContext }) =
      if id ∈ openSetups db projectId chapterNumber then
        (earlySetup projectId chapterNumber db id).map fun row =>
          { foreshadowingId := id
            description := strip row.1.description
            setupChapter := row.1.setupChapter
            expectedPayoffChapter := row.1.expectedPayoffChapter
            importance := strip row.2 }
      else none := by
  unfold earlySetup openSetups
  simp only [Rows.mem_idsWhere]
  cases hrow : db.foreshadowings[id]? with
  | none => simp
  | some row =>
      by_cases hactive : isActiveBefore projectId chapterNumber row = true
      · have hparts := hactive
        simp only [isActiveBefore, Bool.and_eq_true, beq_iff_eq, decide_eq_true_eq] at hparts
        simp [Option.filter_some, hactive, hparts.1.1, hparts.1.2]
      · simp [Option.filter_some, hactive]

/-- The foreshadowings of a context are the same when the same ones are open. -/
theorem foreshadowingContexts_eq (h : SameBefore projectId chapterNumber db db')
    (hopen : openSetups db projectId chapterNumber = openSetups db' projectId chapterNumber) :
    foreshadowingContexts db projectId chapterNumber =
      foreshadowingContexts db' projectId chapterNumber := by
  unfold foreshadowingContexts Rows.select
  congr 1
  refine Rows.map_filter_zipIdx_congr fun id => ?_
  rw [foreshadowing_eq, foreshadowing_eq, hopen, h.setups]

end Same

section Retrieve

variable [Score S] {projectId chapterNumber : ℕ} {db db' : ContextDatabase S}

/-- The routes answer the same. -/
theorem routes_eq {retriever : HybridRetriever S} {request : HybridRetrievalRequest}
    (h : SameBefore request.projectId request.currentChapter db db')
    (hrecalls : Recalls retriever.text request.projectId request.currentChapter db db')
    (hseeds : db.findVisible retriever.text request.projectId request.names.eraseDups =
      db'.findVisible retriever.text request.projectId request.names.eraseDups) :
    db.routes retriever request = db'.routes retriever request := by
  funext source
  cases source with
  | keyword =>
      simp only [ContextDatabase.routes]
      rw [visibleChunks_eq h hrecalls]
  | vector =>
      simp only [ContextDatabase.routes]
      rw [visibleChunks_eq h hrecalls]
  | fact =>
      simp only [ContextDatabase.routes]
      rw [listKnownBefore_eq h]
  | graph =>
      simp only [ContextDatabase.routes]
      refine congrArg Except.ok (graphRetrieve_congr ⟨visibleRelations_eq h hrecalls, hseeds, ?_⟩)
      intro row hrow
      exact ⟨hrecalls.names row hrow _ (by simp), hrecalls.names row hrow _ (by simp)⟩

/-- The retrieved memories are the same. -/
theorem retrieveMemory_eq {builder : ContextBuilder S} {request : ContextBuildRequest}
    {project : ProjectContext} {outline : ChapterOutlineContext}
    (h : SameBefore request.projectId request.chapterNumber db db')
    (hrecalls : ∀ retriever ∈ builder.hybridRetriever,
      Recalls retriever.text request.projectId request.chapterNumber db db')
    (hmandatory : mandatory db request.projectId request.chapterNumber = .ok (project, outline))
    (recent : List RecentChapterContext) (foreshadowing : List ForeshadowingContext) :
    retrieveMemory builder request outline recent foreshadowing db =
      retrieveMemory builder request outline recent foreshadowing db' := by
  unfold retrieveMemory
  cases hretriever : builder.hybridRetriever with
  | none => rfl
  | some retriever =>
      have hsees := hrecalls retriever hretriever
      have hseeds := hsees.seeds project outline hmandatory
      simp only
      generalize hretrieval : retrievalRequest builder request outline recent foreshadowing =
        retrieval
      have hproject : retrieval.projectId = request.projectId := by rw [← hretrieval]; rfl
      have hchapter : retrieval.currentChapter = request.chapterNumber := by
        rw [← hretrieval]; rfl
      have hnames : retrieval.names = outline.participatingCharacters ++ outline.locations := by
        rw [← hretrieval]; rfl
      rw [← hproject, ← hchapter] at h hsees
      rw [← hproject, ← hnames] at hseeds
      rw [routes_eq h hsees hseeds]

/-- Contexts are the same when nothing that is shown has been touched. -/
theorem build_eq {builder : ContextBuilder S} {request : ContextBuildRequest}
    (h : SameBefore request.projectId request.chapterNumber db db')
    (hundisturbed : Undisturbed request.projectId request.chapterNumber db db')
    (hrecalls : ∀ retriever ∈ builder.hybridRetriever,
      Recalls retriever.text request.projectId request.chapterNumber db db') :
    build builder request db = build builder request db' := by
  unfold build
  rw [← hundisturbed.mandatory]
  refine Except.bind_congr_ok fun read hmandatory => ?_
  obtain ⟨project, outline⟩ := read
  have hcharacters := characters_eq h (hundisturbed.states project outline hmandatory)
  have hlocations : locationContexts db request.projectId outline.locations =
      locationContexts db' request.projectId outline.locations := by
    simp only [locationContexts, h.locations, h.locationRules]
  have hrules : ruleContexts db request.projectId = ruleContexts db' request.projectId := by
    simp only [ruleContexts, h.rules, h.ruleCategories]
  have hforeshadowing :=
    foreshadowingContexts_eq h (hundisturbed.setups project outline hmandatory)
  have hmemory := retrieveMemory_eq h hrecalls hmandatory
  simp only [hcharacters, hlocations, hrules, listKnownBefore_eq h, hforeshadowing,
    recentContexts_eq h, hmemory]

/-! ### What a context shows -/

/-- A request for the context of a chapter. -/
def ContextBuildRequest.IsFor (request : ContextBuildRequest) (projectId chapterNumber : ℕ) :
    Prop :=
  request.projectId = projectId ∧ request.chapterNumber = chapterNumber ∧
    0 < request.maxContextChars ∧ 0 < request.maxCharacters

omit [Score S] in
/-- Items that fit together are all kept. -/
theorem fitItems_all {α : Type} (size : α → ℕ) (maxChars : ℕ) (items : List α) :
    ∀ used, used + (items.map size).sum ≤ maxChars →
      fitItems size maxChars used items = (items, used + (items.map size).sum) := by
  induction items with
  | nil =>
      intro used _
      rfl
  | cons item rest ih =>
      intro used hroom
      simp only [List.map_cons, List.sum_cons] at hroom
      have hfits : used + size item ≤ maxChars := by omega
      have hrest := ih (used + size item) (by omega)
      simp only [fitItems, if_pos hfits, hrest, List.map_cons, List.sum_cons]
      rw [Nat.add_assoc]

omit [Score S] in
/-- With room for them, a context shows all characters and all open foreshadowings. -/
theorem applyBudget_shows {size : ContextItem S → ℕ} {request : ContextBuildRequest}
    {candidates : ContextCandidates S}
    (hroom : size (.project candidates.project) + size (.outline candidates.outline) +
        (candidates.rules.map fun rule => size (.rule rule)).sum +
        (candidates.characters.map (size ∘ .character)).sum +
        (candidates.facts.map (size ∘ .fact)).sum +
        (candidates.foreshadowing.map (size ∘ .foreshadowing)).sum ≤ request.maxContextChars) :
    (applyBudget size request candidates).characters = candidates.characters ∧
      (applyBudget size request candidates).activeForeshadowing = candidates.foreshadowing := by
  have hcharacters := fitItems_all (size ∘ .character) request.maxContextChars
    candidates.characters (size (.project candidates.project) +
      size (.outline candidates.outline) +
      (candidates.rules.map fun rule => size (.rule rule)).sum) (by omega)
  have hfacts := fitItems_all (size ∘ .fact) request.maxContextChars candidates.facts _
    (by omega : size (.project candidates.project) + size (.outline candidates.outline) +
        (candidates.rules.map fun rule => size (.rule rule)).sum +
        (candidates.characters.map (size ∘ .character)).sum +
        (candidates.facts.map (size ∘ .fact)).sum ≤ request.maxContextChars)
  have hforeshadowing := fitItems_all (size ∘ .foreshadowing) request.maxContextChars
    candidates.foreshadowing _ hroom
  simp only [applyBudget, hcharacters, hfacts, hforeshadowing, and_self]

/-- What a context is built from. -/
theorem build_eq_ok {builder : ContextBuilder S} {request : ContextBuildRequest}
    {context : ChapterContext S} (h : build builder request db = .ok context) :
    ∃ candidates characters,
      mandatory db request.projectId request.chapterNumber =
        .ok (candidates.project, candidates.outline) ∧
      (namedCharacters db request.projectId
          candidates.outline.participatingCharacters).mapM (characterContext db) =
        .ok characters ∧
      (relevantFacts builder.text candidates.outline
          (db.listKnownBefore request.projectId request.chapterNumber)).mapM factContext =
        .ok candidates.facts ∧
      candidates.rules = ruleContexts db request.projectId ∧
      candidates.characters = characters.take request.maxCharacters ∧
      candidates.foreshadowing =
        foreshadowingContexts db request.projectId request.chapterNumber ∧
      context = applyBudget builder.size request candidates := by
  unfold build at h
  obtain ⟨⟨project, outline⟩, hmandatory, h⟩ := Except.bind_eq_ok.mp h
  obtain ⟨characters, hcharacters, h⟩ := Except.bind_eq_ok.mp h
  obtain ⟨locations, hlocations, h⟩ := Except.bind_eq_ok.mp h
  obtain ⟨facts, hfacts, h⟩ := Except.bind_eq_ok.mp h
  obtain ⟨recent, hrecent, h⟩ := Except.bind_eq_ok.mp h
  obtain ⟨retrieval, hretrieval, h⟩ := Except.bind_eq_ok.mp h
  obtain ⟨memory, hmemory, h⟩ := Except.bind_eq_ok.mp h
  rw [Except.pure_eq_ok] at h
  exact ⟨_, characters, hmandatory, hcharacters, hfacts, rfl, rfl, rfl, h.symm⟩

/-- With enough room, the context of a chapter shows the outline, the characters and the open
foreshadowings whole. -/
theorem build_shows {builder : ContextBuilder S} {request : ContextBuildRequest}
    {context : ChapterContext S} (hfor : request.IsFor projectId chapterNumber)
    (h : build builder request db = .ok context) :
    ∃ project outline characters,
      mandatory db projectId chapterNumber = .ok (project, outline) ∧
      (namedCharacters db projectId outline.participatingCharacters).mapM
        (characterContext db) = .ok characters ∧
      ∃ room, ∀ larger largerContext, ContextBuildRequest.IsFor larger projectId chapterNumber →
        room ≤ larger.maxContextChars → room ≤ larger.maxCharacters →
        build builder larger db = .ok largerContext →
        largerContext.project = project ∧ largerContext.currentOutline = outline ∧
          largerContext.characters = characters ∧
          largerContext.activeForeshadowing =
            foreshadowingContexts db projectId chapterNumber := by
  obtain ⟨candidates, characters, hmandatory, hcharacters, hfacts, -, -, -, -⟩ := build_eq_ok h
  rw [hfor.1, hfor.2.1] at hmandatory hfacts
  rw [hfor.1] at hcharacters
  refine ⟨_, _, characters, hmandatory, hcharacters,
    builder.size (.project candidates.project) + builder.size (.outline candidates.outline) +
      ((ruleContexts db projectId).map fun rule => builder.size (.rule rule)).sum +
      (characters.map (builder.size ∘ .character)).sum +
      (candidates.facts.map (builder.size ∘ .fact)).sum +
      ((foreshadowingContexts db projectId chapterNumber).map
        (builder.size ∘ .foreshadowing)).sum + characters.length, ?_⟩
  intro larger largerContext hlargerFor hroom hmany hlarger
  obtain ⟨largerCandidates, largerCharacters, hsame, hsameCharacters, hsameFacts, hrules, htaken,
    hforeshadowing, hbudget⟩ := build_eq_ok hlarger
  rw [hlargerFor.1, hlargerFor.2.1] at hsame hsameFacts hforeshadowing
  rw [hlargerFor.1] at hsameCharacters hrules
  rw [hmandatory] at hsame
  injection hsame with hsame
  injection hsame with hproject houtline
  rw [← houtline, hcharacters] at hsameCharacters
  rw [← houtline, hfacts] at hsameFacts
  injection hsameCharacters with hsameCharacters
  injection hsameFacts with hsameFacts
  rw [← hsameCharacters, List.take_of_length_le (by omega)] at htaken
  have hshows : (applyBudget builder.size larger largerCandidates).characters =
        largerCandidates.characters ∧
      (applyBudget builder.size larger largerCandidates).activeForeshadowing =
        largerCandidates.foreshadowing := by
    refine applyBudget_shows ?_
    rw [← hproject, ← houtline, hrules, htaken, ← hsameFacts, hforeshadowing]
    omega
  rw [htaken, hforeshadowing, ← hbudget] at hshows
  exact ⟨by rw [hbudget]; exact hproject.symm, by rw [hbudget]; exact houtline.symm, hshows⟩

/-- A validated value is the value. -/
theorem validated_eq_ok {α : Type} {valid : Bool} {value result : α}
    (h : validated valid value = .ok result) : result = value := by
  unfold validated at h
  split at h
  · injection h with h
    exact h.symm
  · contradiction

omit [Score S] in
/-- The states that the characters of a context show. -/
theorem shownStates_eq {names : List String} {characters : List CharacterContext}
    (h : (namedCharacters db projectId names).mapM (characterContext db) = .ok characters) :
    shownStates db projectId names = characters.map (·.currentState) := by
  have hrows := Except.mapM_eq_ok.mp h
  unfold shownStates
  generalize namedCharacters db projectId names = rows at h hrows
  clear h
  induction hrows with
  | nil => rfl
  | cons hrow hrest ih =>
      rw [List.map_cons, List.map_cons, ih, validated_eq_ok hrow]

omit [Score S] in
/-- The open foreshadowings are those that a context shows. -/
theorem openSetups_eq
    (h : foreshadowingContexts db projectId chapterNumber =
      foreshadowingContexts db' projectId chapterNumber) :
    openSetups db projectId chapterNumber = openSetups db' projectId chapterNumber := by
  have hids : ∀ db : ContextDatabase S,
      ((foreshadowingContexts db projectId chapterNumber).map (·.foreshadowingId)).Perm
        (openSetups db projectId chapterNumber) := by
    intro db
    refine ((List.perm_insertionSort _ _).map _).trans ?_
    rw [List.map_map]
    exact .refl _
  have hperm := (hids db).symm.trans (h ▸ hids db')
  refine hperm.eq_of_pairwise ?_ (Rows.pairwise_idsWhere _ _) (Rows.pairwise_idsWhere _ _)
  intro a b _ _ hab hba
  omega

/-- Contexts that are the same show that nothing of what they show has been touched. -/
theorem undisturbed_of_build_eq {builder : ContextBuilder S}
    (hbuilt : ∀ request, ContextBuildRequest.IsFor request projectId chapterNumber →
      ∃ context, build builder request db = .ok context)
    (hsame : ∀ request, ContextBuildRequest.IsFor request projectId chapterNumber →
      build builder request db = build builder request db') :
    Undisturbed projectId chapterNumber db db' := by
  obtain ⟨context, hcontext⟩ := hbuilt ⟨projectId, chapterNumber, 1, 0, 1⟩
    ⟨rfl, rfl, Nat.one_pos, Nat.one_pos⟩
  have hcontext' := hsame ⟨projectId, chapterNumber, 1, 0, 1⟩ ⟨rfl, rfl, Nat.one_pos, Nat.one_pos⟩
  rw [hcontext] at hcontext'
  obtain ⟨project, outline, characters, hmandatory, hcharacters, room, hshows⟩ :=
    build_shows ⟨rfl, rfl, Nat.one_pos, Nat.one_pos⟩ hcontext
  obtain ⟨project', outline', characters', hmandatory', hcharacters', room', hshows'⟩ :=
    build_shows ⟨rfl, rfl, Nat.one_pos, Nat.one_pos⟩ hcontext'.symm
  -- a request with room for what either state shows
  obtain ⟨larger, hfor, hroom, hroom'⟩ : ∃ larger : ContextBuildRequest,
      larger.IsFor projectId chapterNumber ∧
        (room ≤ larger.maxContextChars ∧ room ≤ larger.maxCharacters) ∧
        (room' ≤ larger.maxContextChars ∧ room' ≤ larger.maxCharacters) := by
    refine ⟨⟨projectId, chapterNumber, room + room' + 1, 0, room + room' + 1⟩,
      ⟨rfl, rfl, ?_, ?_⟩, ⟨?_, ?_⟩, ?_, ?_⟩ <;> dsimp only <;> omega
  obtain ⟨shown, hshown⟩ := hbuilt larger hfor
  have hshown' := hsame larger hfor
  rw [hshown] at hshown'
  obtain ⟨hproject, houtline, hstates, hopen⟩ := hshows larger shown hfor hroom.1 hroom.2 hshown
  obtain ⟨hproject', houtline', hstates', hopen'⟩ :=
    hshows' larger shown hfor hroom'.1 hroom'.2 hshown'.symm
  refine ⟨?_, ?_, ?_⟩
  · rw [hmandatory, hmandatory', ← hproject, ← houtline, hproject', houtline']
  · intro read readOutline hread
    rw [hmandatory] at hread
    injection hread with hread
    injection hread with _ hread
    have houtlines : readOutline = outline' := by rw [← hread, ← houtline, houtline']
    rw [← houtlines] at hcharacters'
    rw [hread] at hcharacters
    rw [shownStates_eq hcharacters, shownStates_eq hcharacters', ← hstates, hstates']
  · intro _ _ _
    exact openSetups_eq (hopen.symm.trans hopen')

/-- Contexts are causal when no later chapter, nor the chapter itself, has touched what they show
without looking at the chapter it comes from; and contexts that can be built are causal only
then. -/
theorem build_causal {builder : ContextBuilder S}
    (h : SameBefore projectId chapterNumber db db')
    (hrecalls : ∀ retriever ∈ builder.hybridRetriever,
      Recalls retriever.text projectId chapterNumber db db') :
    (Undisturbed projectId chapterNumber db db' →
      ∀ request, ContextBuildRequest.IsFor request projectId chapterNumber →
        build builder request db = build builder request db') ∧
    ((∀ request, ContextBuildRequest.IsFor request projectId chapterNumber →
        ∃ context, build builder request db = .ok context) →
      (∀ request, ContextBuildRequest.IsFor request projectId chapterNumber →
        build builder request db = build builder request db') →
      Undisturbed projectId chapterNumber db db') := by
  constructor
  · rintro hundisturbed request ⟨rfl, rfl, -, -⟩
    exact build_eq h hundisturbed hrecalls
  · exact undisturbed_of_build_eq

end Retrieve

/-! ### Instances -/

/-- A planned project with one chapter, whose version was evaluated and waits for its
acceptance, and a character that is at home. -/
def unaccepted (updates : List CharacterStateUpdate) : CanonDatabase where
  projects := [⟨.generating⟩]
  chapters := [⟨0, 1, .evaluatedPassed, 1, "One", "Text", "", some 90, some 0, none⟩]
  versions := [⟨0, 1, ⟨"One", "Text", ""⟩, .evaluated, "generated", none, some 0, updates, [],
    true, none⟩]
  facts := []
  evaluations := [⟨0, 0, some 0, none, 1, .completed, 90, 90, 90, 0, 0, [], "accept", true⟩]
  revisions := []
  comparisons := []
  runs := [⟨0, 0, .running, "accept_version", some 0, some 0, some 0, none, 0, 0⟩]
  characters := [⟨0, "Ann", "at home"⟩]
  foreshadowings := []
  foreshadowings_inRange := by simp
  memoryChunks := []
  indexRecords := fun _ => none

/-- The state with a plan in which the character takes part. -/
def planned (db : CanonDatabase) : ContextDatabase ℚ where
  toStoryDatabase := db.toStoryDatabase
  characters := db.characters
  descriptions := fun _ => "A sailor"
  locations := []
  rules := []
  foreshadowings := db.foreshadowings
  factDetails := fun _ => ⟨"", 0, "", 1, none⟩
  outlineNames := fun _ => ["Ann"]
  chunks := []
  entities := []
  relations := []
  indexRecords := db.indexRecords
  plans := fun _ => ⟨"Sea", "Drama", "A voyage", [], some "A coast", some "A storm", some "Home",
    some "Plain", "en", none, none⟩
  chapterPlans := fun _ => some ⟨"Leave", "Ann leaves", [], ["Ann"], [], [], [], [], [], "A sail"⟩
  profiles := fun _ => ⟨"lead", [], [], "terse"⟩
  locationRules := fun _ => []
  ruleCategories := fun _ => ""
  importances := fun _ => ""
  embeddings := fun _ => []
  chunks_dated := by simp
  relations_dated := by simp

/-- A builder without a retriever. -/
def plainBuilder : ContextBuilder ℚ where
  text := ⟨id, fun _ => [], fun _ _ => false, id, fun _ => true, id⟩
  size := fun _ => 1
  hybridRetriever := none
  retrievalTopK := 8
  retrievalMaxContextChars := 6000

/-- What a context shows of the states of the characters. -/
def statesShown (db : CanonDatabase) : Option (List String) :=
  (build plainBuilder ⟨0, 1, 24000, 3, 8⟩ (planned db)).toOption.map fun context =>
    context.characters.map (·.currentState)

/-- An acceptance of the chapter changes nothing that earlier chapters have produced. -/
theorem sameBefore_accepted {updates : List CharacterStateUpdate} {accepted : CanonDatabase}
    (hprojects : accepted.projects.length = 1)
    (hchapters : accepted.chapters.map (fun row => (row.projectId, row.chapterNumber)) = [(0, 1)])
    (hfacts : accepted.facts = [])
    (hcharacters : accepted.characters.map (fun row => (row.projectId, row.name)) = [(0, "Ann")])
    (hforeshadowings : accepted.foreshadowings = []) :
    SameBefore 0 1 (planned (unaccepted updates)) (planned accepted) where
  projects := hprojects.symm
  plans := rfl
  chapterPlans := rfl
  profiles := rfl
  descriptions := rfl
  characters := hcharacters.symm
  locations := rfl
  locationRules := rfl
  rules := rfl
  ruleCategories := rfl
  places := hchapters.symm
  chapters := by
    have hnone : ∀ db : CanonDatabase,
        db.chapters.map (fun row => (row.projectId, row.chapterNumber)) = [(0, 1)] →
        earlyChapter 0 1 (planned db) = fun _ => none := by
      intro db hplaces
      funext id
      refine Option.filter_eq_none_iff.mpr fun row hrow hearly => ?_
      have hplace : (row.projectId, row.chapterNumber) ∈ [(0, 1)] := by
        rw [← hplaces]
        exact List.mem_map_of_mem (List.mem_of_getElem? hrow)
      rw [List.mem_singleton, Prod.mk.injEq] at hplace
      simp [hplace.1, hplace.2] at hearly
    rw [hnone _ rfl, hnone _ hchapters]
  facts := by
    funext id
    simp [earlyFact, planned, unaccepted, hfacts]
  chunks := rfl
  relations := rfl
  setups := by
    funext id
    simp [earlySetup, planned, unaccepted, hforeshadowings]

/-- The acceptance of a chapter changes what its next writer is told of a character. -/
theorem build_leaks : ∃ accepted,
    (unaccepted [⟨"Ann", "current_state", "drowned", rfl⟩]).acceptVersion
      ⟨fun text => [text], fun _ => false⟩ 0 0 = .ok accepted ∧
    SameBefore 0 1 (planned (unaccepted [⟨"Ann", "current_state", "drowned", rfl⟩]))
      (planned accepted) ∧
    build plainBuilder ⟨0, 1, 24000, 3, 8⟩
        (planned (unaccepted [⟨"Ann", "current_state", "drowned", rfl⟩])) ≠
      build plainBuilder ⟨0, 1, 24000, 3, 8⟩ (planned accepted) := by
  have hbefore : statesShown (unaccepted [⟨"Ann", "current_state", "drowned", rfl⟩]) =
      some ["at home"] := by decide +kernel
  refine ⟨_, rfl, ?_, ?_⟩
  · exact sameBefore_accepted rfl rfl rfl rfl rfl
  · intro hsame
    have hafter : statesShown _ = some ["at home"] := (by
      rw [statesShown, ← hsame]
      exact hbefore)
    exact absurd hafter (by decide +kernel)

/-- Without an update, it changes nothing. -/
theorem build_causal_accepted : ∃ accepted,
    (unaccepted []).acceptVersion ⟨fun text => [text], fun _ => false⟩ 0 0 = .ok accepted ∧
    (accepted.runs.map (·.status) = [.completed]) ∧
    ∀ request, ContextBuildRequest.IsFor request 0 1 →
      build plainBuilder request (planned (unaccepted [])) =
        build plainBuilder request (planned accepted) := by
  refine ⟨_, rfl, by decide, (build_causal (sameBefore_accepted rfl rfl rfl rfl rfl) ?_).1 ?_⟩
  · intro retriever hretriever
    exact absurd hretriever (by simp [plainBuilder])
  · exact ⟨rfl, fun _ _ _ => rfl, fun _ _ _ => rfl⟩

end StoryForge.Context
