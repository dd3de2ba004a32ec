import Mathlib.Data.List.Induction
import StoryForge.Chapters.Versioning

/-!
# Characters, foreshadowing and memory

The tables that the acceptance of a version writes beside the story tables: the states of
characters, foreshadowings, and the chunks of the memory index. An extraction is applied to
them in two places: when a generated draft is stored, and when the workflow accepts a
version. Both are modelled as the code has them, together with the indexing that follows an
acceptance.

A session of the services does not flush by itself. What was changed in it is seen by a query
only after a row was added.

## Main results

* `CanonDatabase.acceptVersion_eq_ok` — what an acceptance writes to the tables;
* `ChapterVersionService.getElem?_applyForeshadowingUpdates` — what an acceptance makes of a
  foreshadowing that existed before.
-/

namespace StoryForge

/-! ### Tables -/

/-- A named character belonging to one project. -/
structure Character where
  projectId : ℕ
  name : String
  currentState : String
  deriving DecidableEq, Repr

/-- A planned setup and optional payoff tracked by chapter number. -/
structure Foreshadowing where
  projectId : ℕ
  setupChapter : ℕ
  expectedPayoffChapter : ℕ
  description : String
  status : ForeshadowingStatus
  payoffChapter : Option ℕ
  deriving DecidableEq, Repr

/-- `foreshadowing_expected_range` and `foreshadowing_payoff_range`. -/
def Foreshadowing.InRange (row : Foreshadowing) : Prop :=
  row.setupChapter ≤ row.expectedPayoffChapter ∧
    ∀ payoffChapter ∈ row.payoffChapter, row.setupChapter ≤ payoffChapter

instance (row : Foreshadowing) : Decidable row.InRange := by
  unfold Foreshadowing.InRange; infer_instance

/-- What a chunk of a chapter is made of. The version is the one that owns the source. -/
inductive ChunkSource
  | chapterContent (versionId : ℕ)
  | chapterSummary (versionId : ℕ)
  | fact (versionId factId : ℕ)
  deriving DecidableEq, Repr

/-- The version a source belongs to. -/
def ChunkSource.versionId : ChunkSource → ℕ
  | .chapterContent versionId | .chapterSummary versionId | .fact versionId _ => versionId

/-- What the index stores of a source: a piece of it, and where it is. -/
structure ChunkDraft where
  source : ChunkSource
  chunkIndex : ℕ
  content : String
  deriving DecidableEq, Repr

/-- A memory fragment of a chapter: of the chapter that the version of its source belongs to. -/
structure MemoryChunk extends ChunkDraft where
  status : MemoryStatus
  deriving DecidableEq, Repr

/-- The memory index: how it cuts a text, and for which versions it gets vectors. -/
structure MemoryIndexer where
  chunker : String → List String
  embeds : ℕ → Bool

/-- The committed state of the story tables and of what is canonical beside them.
`indexRecords` are the records of the versions under the provider and model in use. -/
structure CanonDatabase extends StoryDatabase where
  characters : List Character
  foreshadowings : List Foreshadowing
  foreshadowings_inRange : ∀ row ∈ foreshadowings, row.InRange
  memoryChunks : List MemoryChunk
  indexRecords : ℕ → Option MemoryIndexStatus

/-- A commit: the checks of the foreshadowing table are those that updates can break. -/
def CanonDatabase.commit (db : CanonDatabase) (story : StoryDatabase)
    (characters : List Character) (foreshadowings : List Foreshadowing) :
    Except Error CanonDatabase :=
  if h : ∀ row ∈ foreshadowings, row.InRange then
    .ok { db with
      toStoryDatabase := story
      characters := characters
      foreshadowings := foreshadowings
      foreshadowings_inRange := h }
  else .error (.integrityError "foreshadowing_payoff_range")

/-! ### Queries -/

/-- The character of a project that a name stands for. -/
def characterNamed (projectId : ℕ) (characters : List Character) (name : String) : Option ℕ :=
  (Rows.idsWhere characters fun row => row.projectId == projectId && row.name == name).getLast?

/-- `ForeshadowingRepository.get`. -/
def ForeshadowingUpdate.record (update : ForeshadowingUpdate) (rows : List Foreshadowing) :
    Option (ℕ × Foreshadowing) :=
  update.foreshadowingId.bind fun id => rows[id]?.map (id, ·)

/-- The row a setup adds. -/
def newForeshadowing (projectId chapterNumber : ℕ) (description : String) : Foreshadowing where
  projectId := projectId
  setupChapter := chapterNumber
  expectedPayoffChapter := chapterNumber
  description := description
  status := .open
  payoffChapter := none

/-! ### Storing a generated draft -/

namespace ChapterGenerationService

/-- `_apply_character_updates`. -/
def applyCharacterUpdates (projectId : ℕ) (updates : List CharacterStateUpdate)
    (characters : List Character) : List Character :=
  updates.foldl (fun rows update =>
    match characterNamed projectId characters update.characterName with
    | some id => rows.modify id ({ · with currentState := update.value })
    | none => rows) characters

/-- The foreshadowings in a session, and as the database has them. -/
structure ForeshadowingSession where
  rows : List Foreshadowing
  flushed : List Foreshadowing

/-- Whether a setup without a record stands for a row. -/
def isSetup (projectId chapterNumber : ℕ) (description : String) (row : Foreshadowing) : Bool :=
  row.projectId == projectId && row.setupChapter == chapterNumber &&
    row.description == description

/-- What an update writes to the row it stands for. -/
def writeForeshadowing (chapterNumber : ℕ) (action : ForeshadowingAction) (row : Foreshadowing) :
    Foreshadowing :=
  match action with
  | .setup => { row with status := .open }
  | .resolve => { row with status := .resolved, payoffChapter := some chapterNumber }
  | .advance => { row with status := .open }

/-- The row an update stands for: the one it names, or for a setup the one that describes the
same setup. -/
def existing (projectId chapterNumber : ℕ) (update : ForeshadowingUpdate)
    (session : ForeshadowingSession) : Option (ℕ × Foreshadowing) :=
  match update.record session.rows, update.action with
  | some record, _ => some record
  | none, .setup =>
      (session.flushed.findIdx? (isSetup projectId chapterNumber update.description)).bind
        fun id => session.rows[id]?.map (id, ·)
  | none, _ => none

/-- One turn of the loop of `_apply_foreshadowing_updates`. Adding a row flushes the session. -/
def applyForeshadowingUpdate (projectId chapterNumber : ℕ) (session : ForeshadowingSession)
    (update : ForeshadowingUpdate) : ForeshadowingSession :=
  match existing projectId chapterNumber update session, update.action with
  | some (id, record), action =>
      if record.projectId ≠ projectId then session
      else { session with rows := session.rows.modify id (writeForeshadowing chapterNumber action) }
  | none, .setup =>
      let rows := session.rows ++ [newForeshadowing projectId chapterNumber update.description]
      ⟨rows, rows⟩
  | none, _ => session

/-- `_apply_foreshadowing_updates`. -/
def applyForeshadowingUpdates (projectId chapterNumber : ℕ) (updates : List ForeshadowingUpdate)
    (session : ForeshadowingSession) : ForeshadowingSession :=
  updates.foldl (applyForeshadowingUpdate projectId chapterNumber) session

/-- The setups of the chapter that the database has as planned are opened. -/
def openPlanned (projectId chapterNumber : ℕ) (session : ForeshadowingSession) :
    List Foreshadowing :=
  session.rows.mapIdx fun id row =>
    if session.flushed[id]?.any fun stored =>
        stored.projectId == projectId && stored.setupChapter == chapterNumber &&
          stored.status == .planned then
      { row with status := .open }
    else row

end ChapterGenerationService

/-- `_persist_extraction`, with all that it writes. -/
def CanonDatabase.persistExtraction (normalizer : FactNormalizer) (request : GenerationRequest)
    (extraction : Extraction) (version : ℕ) (db : CanonDatabase) : Except Error CanonDatabase := do
  let story ← ChapterGenerationService.persistExtraction normalizer request extraction version
    db.toStoryDatabase
  db.commit story
    (ChapterGenerationService.applyCharacterUpdates request.projectId extraction.characterUpdates
      db.characters)
    (ChapterGenerationService.openPlanned request.projectId request.chapterNumber
      (ChapterGenerationService.applyForeshadowingUpdates request.projectId request.chapterNumber
        extraction.foreshadowingUpdates ⟨db.foreshadowings, db.foreshadowings⟩))

/-! ### Accepting a version -/

namespace ChapterVersionService

/-- `_apply_character_updates`. -/
def applyCharacterUpdates (projectId : ℕ) (updates : List CharacterStateUpdate)
    (characters : List Character) : List Character :=
  updates.foldl (fun rows update =>
    match characterNamed projectId characters update.characterName with
    | some id =>
        if update.field = "current_state" then
          rows.modify id ({ · with currentState := update.value })
        else rows
    | none => rows) characters

/-- What an update writes to the row it names: a setup writes nothing. -/
def writeForeshadowing (chapterNumber : ℕ) (action : ForeshadowingAction) (row : Foreshadowing) :
    Foreshadowing :=
  match action with
  | .setup => row
  | .resolve => { row with status := .resolved, payoffChapter := some chapterNumber }
  | .advance => { row with status := .open }

/-- One turn of the loop of `_apply_foreshadowing_updates`. -/
def applyForeshadowingUpdate (projectId chapterNumber : ℕ) (rows : List Foreshadowing)
    (update : ForeshadowingUpdate) : List Foreshadowing :=
  match update.record rows, update.action with
  | some (id, record), action =>
      if record.projectId ≠ projectId then rows
      else rows.modify id (writeForeshadowing chapterNumber action)
  | none, .setup => rows ++ [newForeshadowing projectId chapterNumber update.description]
  | none, _ => rows

/-- `_apply_foreshadowing_updates`. -/
def applyForeshadowingUpdates (projectId chapterNumber : ℕ) (updates : List ForeshadowingUpdate)
    (rows : List Foreshadowing) : List Foreshadowing :=
  updates.foldl (applyForeshadowingUpdate projectId chapterNumber) rows

end ChapterVersionService

namespace CanonDatabase

/-- `extract_candidate_facts`: the updates wait in the version. -/
def extractCandidateFacts (normalizer : FactNormalizer) (versionId workflowRunId : ℕ)
    (extraction : Extraction) (db : CanonDatabase) : Except Error CanonDatabase := do
  let story ← ChapterVersionService.extractCandidateFacts normalizer versionId workflowRunId
    extraction db.toStoryDatabase
  .ok { db with toStoryDatabase := story }

/-- `ensure_pending_in_session`. -/
def ensurePending (versionId : ℕ) (db : CanonDatabase) : CanonDatabase :=
  match db.indexRecords versionId with
  | some _ => db
  | none => { db with indexRecords := Function.update db.indexRecords versionId (some .pending) }

/-- `supersede_version_in_session`: the accepted chunks of versions are hidden. -/
def hide (versions : List ℕ) (chunk : MemoryChunk) : MemoryChunk :=
  if chunk.source.versionId ∈ versions ∧ chunk.status = .accepted then
    { chunk with status := .superseded }
  else chunk

/-- The pieces of a source. -/
def chunk (chunker : String → List String) (source : ChunkSource) (content : String) :
    List ChunkDraft :=
  (chunker content).mapIdx fun index piece => ⟨source, index, piece⟩

/-- `_build_sources`, as far as the sources belong to the chapter: the text of the version, its
summary, and its accepted facts. -/
def buildSources (chunker : String → List String) (versionId : ℕ) (version : ChapterVersion)
    (facts : List Fact) : List ChunkDraft :=
  chunk chunker (.chapterContent versionId) version.text.content ++
    chunk chunker (.chapterSummary versionId) version.text.summary ++
    (Rows.select facts fun fact =>
        fact.chapterVersionId == versionId && fact.status == .accepted).flatMap fun (fact, id) =>
      chunk chunker (.fact versionId id)
        (fact.content.subject ++ " " ++ fact.content.predicate ++ " " ++ fact.content.object)

/-- A draft is stored: its chunk is shown again, or added. -/
def storeChunk (chunks : List MemoryChunk) (draft : ChunkDraft) : List MemoryChunk :=
  match chunks.findIdx? fun chunk => chunk.toChunkDraft == draft with
  | some id => chunks.modify id ({ · with status := .accepted })
  | none => chunks ++ [⟨draft, .accepted⟩]

/-- The other versions of a chapter that were superseded. -/
def supersededVersions (chapterId versionId : ℕ) (versions : List ChapterVersion) : List ℕ :=
  (Rows.idsWhere versions fun version =>
    version.chapterId == chapterId && version.status == .superseded).filter (· != versionId)

/-- `index_accepted_chapter_version`. The index of a version is built once; without vectors it
is left for a retry. -/
def indexAcceptedChapterVersion (indexer : MemoryIndexer) (versionId : ℕ) (db : CanonDatabase) :
    CanonDatabase :=
  match db.versions[versionId]? with
  | none => db
  | some version =>
      let db := ensurePending versionId db
      if db.indexRecords versionId = some .completed then db
      else if indexer.embeds versionId then
        let old := supersededVersions version.chapterId versionId db.versions
        let drafts := buildSources indexer.chunker versionId version db.facts
        { db with
          memoryChunks := drafts.foldl storeChunk (db.memoryChunks.map (hide old))
          indexRecords := Function.update db.indexRecords versionId (some .completed) }
      else
        { db with indexRecords := Function.update db.indexRecords versionId (some .failed) }

/-- What `accept_version` reads, unless the acceptance is replayed. -/
def accepting (workflowRunId versionId : ℕ) (db : StoryDatabase) :
    Option (ℕ × ChapterVersion × StoryChapter) :=
  match db.runs[workflowRunId]?, db.versions[versionId]? with
  | some run, some version =>
      if run.status = .completed ∧ run.acceptedVersionId = some versionId then none
      else db.chapters[version.chapterId]?.map fun chapter => (run.projectId, version, chapter)
  | _, _ => none

/-- `accept_version`, with all that it writes: the transaction, and the indexing after it. -/
def acceptVersion (indexer : MemoryIndexer) (workflowRunId versionId : ℕ) (db : CanonDatabase) :
    Except Error CanonDatabase := do
  let story ← ChapterVersionService.acceptVersion workflowRunId versionId db.toStoryDatabase
  match accepting workflowRunId versionId db.toStoryDatabase with
  | none => .ok db
  | some (projectId, version, chapter) => do
      let accepted ← db.commit story
        (ChapterVersionService.applyCharacterUpdates projectId version.candidateCharacterUpdates
          db.characters)
        (ChapterVersionService.applyForeshadowingUpdates projectId chapter.chapterNumber
          version.candidateForeshadowingUpdates db.foreshadowings)
      let previous := (chapter.acceptedVersionId.filter (· != versionId)).toList
      .ok (indexAcceptedChapterVersion indexer versionId
        (ensurePending versionId
          { accepted with memoryChunks := db.memoryChunks.map (hide previous) }))

end CanonDatabase

/-! ### What the services write -/

namespace CanonDatabase

/-- `db'` has given story tables, characters and foreshadowings. -/
structure Holds (db' : CanonDatabase) (story : StoryDatabase) (characters : List Character)
    (foreshadowings : List Foreshadowing) : Prop where
  story : db'.toStoryDatabase = story
  characters : db'.characters = characters
  foreshadowings : db'.foreshadowings = foreshadowings

variable {db db' : CanonDatabase} {story : StoryDatabase} {characters : List Character}
  {foreshadowings : List Foreshadowing}

theorem commit_eq_ok (h : db.commit story characters foreshadowings = .ok db') :
    (∀ row ∈ foreshadowings, row.InRange) ∧ db'.Holds story characters foreshadowings ∧
      db'.memoryChunks = db.memoryChunks ∧ db'.indexRecords = db.indexRecords := by
  unfold commit at h
  split at h
  · rename_i hrange
    obtain rfl := Except.ok.inj h
    exact ⟨hrange, ⟨rfl, rfl, rfl⟩, rfl, rfl⟩
  · exact absurd h (by simp)

theorem commit_ok (hrange : ∀ row ∈ foreshadowings, row.InRange) :
    ∃ db', db.commit story characters foreshadowings = .ok db' := by
  unfold commit
  rw [dif_pos hrange]
  exact ⟨_, rfl⟩

/-- Indexing writes the index only. -/
theorem holds_indexAcceptedChapterVersion (indexer : MemoryIndexer) (versionId : ℕ)
    (db : CanonDatabase) :
    (indexAcceptedChapterVersion indexer versionId db).Holds db.toStoryDatabase db.characters
      db.foreshadowings := by
  have hpending : (ensurePending versionId db).Holds db.toStoryDatabase db.characters
      db.foreshadowings := by
    unfold ensurePending
    split <;> exact ⟨rfl, rfl, rfl⟩
  unfold indexAcceptedChapterVersion
  split
  · exact ⟨rfl, rfl, rfl⟩
  · dsimp only
    split
    · exact hpending
    · split <;> exact ⟨hpending.story, hpending.characters, hpending.foreshadowings⟩

theorem holds_ensurePending (versionId : ℕ) (db : CanonDatabase) :
    (ensurePending versionId db).Holds db.toStoryDatabase db.characters db.foreshadowings := by
  unfold ensurePending
  split <;> exact ⟨rfl, rfl, rfl⟩

theorem Holds.trans {other : CanonDatabase}
    (h : other.Holds db'.toStoryDatabase db'.characters db'.foreshadowings)
    (h' : db'.Holds story characters foreshadowings) :
    other.Holds story characters foreshadowings :=
  ⟨h.story.trans h'.story, h.characters.trans h'.characters,
    h.foreshadowings.trans h'.foreshadowings⟩

section Accept

variable {indexer : MemoryIndexer} {workflowRunId versionId projectId : ℕ}
  {version : ChapterVersion} {chapter : StoryChapter}

/-- An acceptance is a commit followed by the indexing of the version. -/
theorem acceptVersion_eq
    (haccept : ChapterVersionService.acceptVersion workflowRunId versionId db.toStoryDatabase =
      .ok story)
    (haccepting : accepting workflowRunId versionId db.toStoryDatabase =
      some (projectId, version, chapter)) :
    acceptVersion indexer workflowRunId versionId db =
      (db.commit story
        (ChapterVersionService.applyCharacterUpdates projectId version.candidateCharacterUpdates
          db.characters)
        (ChapterVersionService.applyForeshadowingUpdates projectId chapter.chapterNumber
          version.candidateForeshadowingUpdates db.foreshadowings)).map fun accepted =>
        indexAcceptedChapterVersion indexer versionId (ensurePending versionId
          { accepted with
            memoryChunks := db.memoryChunks.map
              (hide (chapter.acceptedVersionId.filter (· != versionId)).toList) }) := by
  simp only [acceptVersion, haccept, haccepting, bind, Except.bind]
  generalize db.commit story _ _ = outcome
  cases outcome <;> rfl

/-- What a successful acceptance leaves. -/
theorem acceptVersion_eq_ok
    (haccept : ChapterVersionService.acceptVersion workflowRunId versionId db.toStoryDatabase =
      .ok story)
    (haccepting : accepting workflowRunId versionId db.toStoryDatabase =
      some (projectId, version, chapter))
    (h : acceptVersion indexer workflowRunId versionId db = .ok db') :
    (∀ row ∈ ChapterVersionService.applyForeshadowingUpdates projectId chapter.chapterNumber
        version.candidateForeshadowingUpdates db.foreshadowings, row.InRange) ∧
      db'.Holds story
        (ChapterVersionService.applyCharacterUpdates projectId version.candidateCharacterUpdates
          db.characters)
        (ChapterVersionService.applyForeshadowingUpdates projectId chapter.chapterNumber
          version.candidateForeshadowingUpdates db.foreshadowings) ∧
      ∃ accepted : CanonDatabase, accepted.toStoryDatabase = story ∧
        accepted.memoryChunks = db.memoryChunks.map
          (hide (chapter.acceptedVersionId.filter (· != versionId)).toList) ∧
        accepted.indexRecords = db.indexRecords ∧
        db' = indexAcceptedChapterVersion indexer versionId
          (ensurePending versionId accepted) := by
  rw [acceptVersion_eq haccept haccepting] at h
  obtain ⟨accepted, hcommit, rfl⟩ := Except.map_eq_ok.mp h
  obtain ⟨hrange, hholds, -, hrecords⟩ := commit_eq_ok hcommit
  refine ⟨hrange, ?_, _, ?_, ?_, ?_, rfl⟩
  rotate_left
  · exact hholds.story
  · rfl
  · exact hrecords
  refine (holds_indexAcceptedChapterVersion indexer versionId _).trans
    ((holds_ensurePending versionId _).trans ⟨?_, ?_, ?_⟩)
  · exact hholds.story
  · exact hholds.characters
  · exact hholds.foreshadowings

/-- An acceptance succeeds when the checks pass. -/
theorem acceptVersion_ok
    (haccept : ChapterVersionService.acceptVersion workflowRunId versionId db.toStoryDatabase =
      .ok story)
    (haccepting : accepting workflowRunId versionId db.toStoryDatabase =
      some (projectId, version, chapter))
    (hrange : ∀ row ∈ ChapterVersionService.applyForeshadowingUpdates projectId
      chapter.chapterNumber version.candidateForeshadowingUpdates db.foreshadowings,
      row.InRange) :
    ∃ db', acceptVersion indexer workflowRunId versionId db = .ok db' := by
  rw [acceptVersion_eq haccept haccepting]
  obtain ⟨accepted, hcommit⟩ := commit_ok hrange
  rw [hcommit]
  exact ⟨_, rfl⟩

end Accept

end CanonDatabase

/-! ### What an acceptance writes to one foreshadowing -/

namespace ForeshadowingUpdate

/-- What the updates say about a foreshadowing, one after the other. -/
def actions (id : ℕ) (updates : List ForeshadowingUpdate) : List ForeshadowingAction :=
  (updates.filter fun update => update.foreshadowingId == some id).map (·.action)

/-- What they say about it in the end, setups apart. -/
def lastMove (id : ℕ) (updates : List ForeshadowingUpdate) : Option ForeshadowingAction :=
  ((actions id updates).filter (· ≠ .setup)).getLast?

theorem record_eq_some {update : ForeshadowingUpdate} {rows : List Foreshadowing} {id : ℕ}
    {row : Foreshadowing} :
    update.record rows = some (id, row) ↔
      update.foreshadowingId = some id ∧ rows[id]? = some row := by
  unfold record
  cases hid : update.foreshadowingId with
  | none => simp
  | some k =>
      simp only [Option.bind_some, Option.map_eq_some_iff, Prod.mk.injEq, Option.some.injEq]
      constructor
      · rintro ⟨row', hrow, rfl, rfl⟩
        exact ⟨rfl, hrow⟩
      · rintro ⟨rfl, hrow⟩
        exact ⟨row, hrow, rfl, rfl⟩

theorem record_eq_none {update : ForeshadowingUpdate} {rows : List Foreshadowing} :
    update.record rows = none ↔ ∀ id, update.foreshadowingId = some id → rows.length ≤ id := by
  unfold record
  cases hid : update.foreshadowingId with
  | none => simp
  | some k => simp

theorem actions_append (id : ℕ) (updates updates' : List ForeshadowingUpdate) :
    actions id (updates ++ updates') = actions id updates ++ actions id updates' := by
  simp only [actions, List.filter_append, List.map_append]

end ForeshadowingUpdate

namespace Foreshadowing

/-- A row after some actions, written one after the other. -/
def written (write : ForeshadowingAction → Foreshadowing → Foreshadowing)
    (actions : List ForeshadowingAction) (row : Foreshadowing) : Foreshadowing :=
  actions.foldl (fun row action => write action row) row

/-- A row after some updates. Rows of other projects are left alone. -/
def moved (write : ForeshadowingAction → Foreshadowing → Foreshadowing) (projectId id : ℕ)
    (updates : List ForeshadowingUpdate) (row : Foreshadowing) : Foreshadowing :=
  if row.projectId = projectId then
    row.written write (ForeshadowingUpdate.actions id updates)
  else row

variable {write : ForeshadowingAction → Foreshadowing → Foreshadowing} {projectId id : ℕ}

/-- Writing keeps what identifies a row. -/
structure Keeps (write : ForeshadowingAction → Foreshadowing → Foreshadowing) : Prop where
  projectId : ∀ (action : ForeshadowingAction) (row : Foreshadowing),
    (write action row).projectId = row.projectId
  setupChapter : ∀ (action : ForeshadowingAction) (row : Foreshadowing),
    (write action row).setupChapter = row.setupChapter
  expectedPayoffChapter : ∀ (action : ForeshadowingAction) (row : Foreshadowing),
    (write action row).expectedPayoffChapter = row.expectedPayoffChapter
  description : ∀ (action : ForeshadowingAction) (row : Foreshadowing),
    (write action row).description = row.description

/-- Two rows that differ in their status at most. -/
theorem eq_iff_status {row other : Foreshadowing} (hproject : row.projectId = other.projectId)
    (hsetup : row.setupChapter = other.setupChapter)
    (hexpected : row.expectedPayoffChapter = other.expectedPayoffChapter)
    (hdescription : row.description = other.description)
    (hpayoff : row.payoffChapter = other.payoffChapter) :
    row = other ↔ row.status = other.status := by
  cases row
  cases other
  simp_all

theorem written_append (actions : List ForeshadowingAction) (action : ForeshadowingAction)
    (row : Foreshadowing) :
    row.written write (actions ++ [action]) = write action (row.written write actions) := by
  simp only [written, List.foldl_append, List.foldl_cons, List.foldl_nil]

/-- What identifies a row stays. -/
theorem written_keeps (hwrite : Keeps write) (actions : List ForeshadowingAction)
    (row : Foreshadowing) :
    (row.written write actions).projectId = row.projectId ∧
      (row.written write actions).setupChapter = row.setupChapter ∧
      (row.written write actions).expectedPayoffChapter = row.expectedPayoffChapter ∧
      (row.written write actions).description = row.description := by
  induction actions using List.reverseRecOn with
  | nil => exact ⟨rfl, rfl, rfl, rfl⟩
  | append_singleton actions action ih =>
      rw [written_append, hwrite.projectId, hwrite.setupChapter, hwrite.expectedPayoffChapter,
        hwrite.description]
      exact ih

theorem projectId_moved (hwrite : Keeps write) (updates : List ForeshadowingUpdate)
    (row : Foreshadowing) : (row.moved write projectId id updates).projectId = row.projectId := by
  unfold moved
  split
  · exact (written_keeps hwrite _ _).1
  · rfl

/-- One update. -/
theorem moved_singleton (update : ForeshadowingUpdate) (row : Foreshadowing) :
    row.moved write projectId id [update] =
      if row.projectId = projectId ∧ update.foreshadowingId = some id then
        write update.action row
      else row := by
  unfold moved ForeshadowingUpdate.actions written
  by_cases hproject : row.projectId = projectId
  · by_cases hid : update.foreshadowingId = some id
    · simp [hproject, hid]
    · simp [hproject, hid]
  · simp [hproject]

/-- One more update. -/
theorem moved_concat (hwrite : Keeps write) (updates : List ForeshadowingUpdate)
    (update : ForeshadowingUpdate) (row : Foreshadowing) :
    row.moved write projectId id (updates ++ [update]) =
      (row.moved write projectId id updates).moved write projectId id [update] := by
  have hproject := @projectId_moved _ projectId id hwrite updates row
  by_cases hrow : row.projectId = projectId
  · rw [moved, if_pos hrow, moved, if_pos (hproject.trans hrow), moved, if_pos hrow,
      ForeshadowingUpdate.actions_append, written, List.foldl_append]
    rfl
  · rw [moved, if_neg hrow, moved, if_neg (fun h => hrow (hproject.symm.trans h)), moved,
      if_neg hrow]

end Foreshadowing

namespace ChapterVersionService

variable {projectId chapterNumber id : ℕ} {rows : List Foreshadowing}

theorem keeps_writeForeshadowing (chapterNumber : ℕ) :
    Foreshadowing.Keeps (writeForeshadowing chapterNumber) where
  projectId action _ := by cases action <;> rfl
  setupChapter action _ := by cases action <;> rfl
  expectedPayoffChapter action _ := by cases action <;> rfl
  description action _ := by cases action <;> rfl

/-- A row that was there, after one update. -/
theorem getElem?_applyForeshadowingUpdate (hid : id < rows.length)
    (update : ForeshadowingUpdate) :
    (applyForeshadowingUpdate projectId chapterNumber rows update)[id]? =
      rows[id]?.map (·.moved (writeForeshadowing chapterNumber) projectId id [update]) := by
  have hrow : rows[id]? = some rows[id] := List.getElem?_eq_getElem hid
  rw [hrow, Option.map_some, Foreshadowing.moved_singleton]
  unfold applyForeshadowingUpdate
  split
  · rename_i _ k record hrecord
    obtain ⟨hk, hget⟩ := ForeshadowingUpdate.record_eq_some.mp hrecord
    by_cases hkid : k = id
    · subst hkid
      obtain rfl : rows[k] = record := Option.some.inj (hrow.symm.trans hget)
      by_cases hproject : rows[k].projectId = projectId
      · rw [if_neg (not_not.mpr hproject), if_pos ⟨hproject, hk⟩, List.getElem?_modify_eq, hrow]
        rfl
      · rw [if_pos hproject, if_neg (fun h => hproject h.1), hrow]
    · have hother : update.foreshadowingId ≠ some id := fun h =>
        hkid (Option.some.inj (hk.symm.trans h))
      have hsame : (if rows[id].projectId = projectId ∧ update.foreshadowingId = some id then
          writeForeshadowing chapterNumber update.action rows[id] else rows[id]) = rows[id] :=
        if_neg fun h => hother h.2
      rw [hsame]
      split
      · exact hrow
      · rw [List.getElem?_modify_ne _ _ hkid, hrow]
  · rename_i hrecord _
    have hother : update.foreshadowingId ≠ some id := fun h =>
      absurd (ForeshadowingUpdate.record_eq_none.mp hrecord id h) (by omega)
    rw [if_neg (fun h => hother h.2), List.getElem?_append_left hid, hrow]
  · rename_i hrecord _
    have hother : update.foreshadowingId ≠ some id := fun h =>
      absurd (ForeshadowingUpdate.record_eq_none.mp hrecord id h) (by omega)
    rw [if_neg (fun h => hother h.2), hrow]

theorem length_le_applyForeshadowingUpdate (rows : List Foreshadowing)
    (update : ForeshadowingUpdate) :
    rows.length ≤ (applyForeshadowingUpdate projectId chapterNumber rows update).length := by
  unfold applyForeshadowingUpdate
  split
  · split <;> simp
  · simp
  · exact le_refl _

theorem applyForeshadowingUpdates_concat (updates : List ForeshadowingUpdate)
    (update : ForeshadowingUpdate) :
    applyForeshadowingUpdates projectId chapterNumber (updates ++ [update]) rows =
      applyForeshadowingUpdate projectId chapterNumber
        (applyForeshadowingUpdates projectId chapterNumber updates rows) update := by
  simp only [applyForeshadowingUpdates, List.foldl_append, List.foldl_cons, List.foldl_nil]

theorem length_le_applyForeshadowingUpdates (updates : List ForeshadowingUpdate)
    (rows : List Foreshadowing) :
    rows.length ≤ (applyForeshadowingUpdates projectId chapterNumber updates rows).length := by
  induction updates using List.reverseRecOn with
  | nil => exact le_refl _
  | append_singleton updates update ih =>
      rw [applyForeshadowingUpdates_concat]
      exact ih.trans (length_le_applyForeshadowingUpdate _ _)

/-- **A row that was there**, after the updates. -/
theorem getElem?_applyForeshadowingUpdates (hid : id < rows.length)
    (updates : List ForeshadowingUpdate) :
    (applyForeshadowingUpdates projectId chapterNumber updates rows)[id]? =
      rows[id]?.map (·.moved (writeForeshadowing chapterNumber) projectId id updates) := by
  induction updates using List.reverseRecOn with
  | nil =>
      have hnil : ∀ row : Foreshadowing,
          row.moved (writeForeshadowing chapterNumber) projectId id [] = row := fun row => by
        simp [Foreshadowing.moved, Foreshadowing.written, ForeshadowingUpdate.actions]
      simp [applyForeshadowingUpdates, hnil]
  | append_singleton updates update ih =>
      have hlen := @length_le_applyForeshadowingUpdates projectId chapterNumber updates rows
      rw [applyForeshadowingUpdates_concat, getElem?_applyForeshadowingUpdate (by omega), ih,
        Option.map_map]
      congr 1
      funext row
      exact (Foreshadowing.moved_concat (keeps_writeForeshadowing chapterNumber) _ _ _).symm

/-- The status of a row after some actions: setups do not count. -/
theorem status_written (actions : List ForeshadowingAction) (row : Foreshadowing) :
    (row.written (writeForeshadowing chapterNumber) actions).status =
      match (actions.filter (· ≠ .setup)).getLast? with
      | none => row.status
      | some .resolve => .resolved
      | some _ => .open := by
  induction actions using List.reverseRecOn with
  | nil => rfl
  | append_singleton actions action ih =>
      rw [Foreshadowing.written_append]
      cases action with
      | setup => simpa [writeForeshadowing] using ih
      | advance => simp [writeForeshadowing]
      | resolve => simp [writeForeshadowing]

/-- A row is paid off by the chapter that resolves it. -/
theorem payoffChapter_written (actions : List ForeshadowingAction) (row : Foreshadowing) :
    (row.written (writeForeshadowing chapterNumber) actions).payoffChapter =
      if .resolve ∈ actions then some chapterNumber else row.payoffChapter := by
  induction actions using List.reverseRecOn with
  | nil => rfl
  | append_singleton actions action ih =>
      rw [Foreshadowing.written_append]
      cases action with
      | setup => simpa [writeForeshadowing] using ih
      | advance => simpa [writeForeshadowing] using ih
      | resolve => simp [writeForeshadowing]

end ChapterVersionService

end StoryForge
