import Mathlib.Algebra.Order.Ring.Unbundled.Rat
import Mathlib.Data.List.Induction
import Mathlib.Data.List.Infix
import Mathlib.Data.List.Lex
import Mathlib.Data.List.Sort
import Mathlib.Data.String.Basic
import StoryForge.Memory.Models

/-!
# `MemoryIndexService`

An accepted version is indexed in three parts. What is indexed is read in one transaction, the
vectors are asked for outside of any, and the chunks, entities and relations are written in a
last one. The record of the version says how far it got.

## Main results

* `MemoryIndexService.exists_source_of_mem` — a draft is a piece of a source;
* `MemoryIndexService.storeDrafts_forall`, `MemoryIndexService.relateAll_forall` — what storing
  drafts and relations keeps;
* `MemoryIndexService.shown_mentionAll` — entities that are mentioned are accepted;
* `MemoryIndexService.persistIndex_eq_ok` — what the last transaction writes;
* `MemoryDatabase.acceptVersion_eq_ok` — what an acceptance writes.
-/

namespace StoryForge.Memory

/-- How the index cuts, folds and hashes texts. -/
structure MemoryIndexService where
  chunker : String → Except Error (List String)
  sha256 : String → String
  casefold : String → String
  normalize : String → String
  disambiguationKey : GraphEntityType → Option String → String

/-- `str.strip`. -/
def strip (text : String) : String :=
  String.ofList ((text.toList.dropWhile isSpace).reverse.dropWhile isSpace).reverse

/-- `part in text`. -/
def contains (text part : String) : Bool := decide (part.toList <:+: text.toList)

/-! ### What is read -/

/-- A fact with its id. -/
structure IndexedFact extends FactDetails where
  id : ℕ
  content : ExtractedFact
  deriving DecidableEq, Repr

/-- A character with its id. -/
structure IndexedCharacter where
  id : ℕ
  name : String
  description : String
  currentState : String
  deriving DecidableEq, Repr

/-- What `_load_snapshot` returns. -/
structure IndexSnapshot where
  projectId : ℕ
  chapterId : ℕ
  chapterNumber : ℕ
  outlineNames : List String
  versionId : ℕ
  text : Draft
  facts : List IndexedFact
  characters : List IndexedCharacter
  locations : List (Location × ℕ)
  rules : List (StoryRule × ℕ)
  foreshadowing : List (Foreshadowing × ℕ)
  deriving DecidableEq, Repr

namespace MemoryDatabase

variable (db : MemoryDatabase)

/-- The accepted facts of a version. -/
def indexedFacts (versionId : ℕ) : List IndexedFact :=
  (Rows.select db.facts fun fact =>
      fact.chapterVersionId == versionId && fact.status == .accepted).map fun (fact, id) =>
    { db.factDetails id with id := id, content := fact.content }

/-- The characters of a project. -/
def indexedCharacters (projectId : ℕ) : List IndexedCharacter :=
  (Rows.select db.characters (·.projectId == projectId)).map fun (row, id) =>
    ⟨id, row.name, db.descriptions id, row.currentState⟩

/-- `_load_snapshot`. -/
def loadSnapshot (versionId : ℕ) : Except Error IndexSnapshot :=
  match db.versions[versionId]? with
  | none => .error (.entityNotFoundError "Chapter version was not found")
  | some version =>
      if version.status ≠ .accepted then
        .error (.invalidStateError "Only an accepted chapter version can be indexed")
      else
        match db.chapters[version.chapterId]? with
        | none => .error (.entityNotFoundError "Chapter was not found")
        | some chapter =>
            .ok
              { projectId := chapter.projectId
                chapterId := version.chapterId
                chapterNumber := chapter.chapterNumber
                outlineNames := db.outlineNames version.chapterId
                versionId := versionId
                text := version.text
                facts := db.indexedFacts versionId
                characters := db.indexedCharacters chapter.projectId
                locations := Rows.select db.locations (·.projectId == chapter.projectId)
                rules := Rows.select db.rules fun rule =>
                  rule.projectId == chapter.projectId && rule.active
                foreshadowing := Rows.select db.foreshadowings fun item =>
                  item.projectId == chapter.projectId &&
                    decide (item.setupChapter ≤ chapter.chapterNumber) }

/-- `ensure_pending_in_session`. -/
def ensurePending (versionId : ℕ) : MemoryDatabase :=
  match db.indexRecords versionId with
  | some _ => db
  | none => { db with indexRecords := Function.update db.indexRecords versionId (some .pending) }

/-- The record of a version is written. -/
def markRecord (versionId : ℕ) (status : MemoryIndexStatus) : MemoryDatabase :=
  { db with indexRecords := Function.update db.indexRecords versionId (some status) }

end MemoryDatabase

/-! ### Sources -/

/-- A text to be cut into chunks. -/
structure Source where
  sourceType : SourceType
  sourceId : ℕ
  content : String
  chapterId : Option ℕ
  chapterVersionId : Option ℕ
  validFromChapter : ℕ
  entityNames : List String
  deriving DecidableEq, Repr

/-- A source of the chapter. -/
def IndexSnapshot.chapterSource (snapshot : IndexSnapshot) (sourceType : SourceType)
    (sourceId : ℕ) (content : String) (entityNames : List String) : Source :=
  ⟨sourceType, sourceId, content, some snapshot.chapterId, some snapshot.versionId,
    snapshot.chapterNumber, entityNames⟩

/-- A source of the project. -/
def projectSource (sourceType : SourceType) (sourceId : ℕ) (content : String)
    (validFromChapter : ℕ) (entityNames : List String) : Source :=
  ⟨sourceType, sourceId, content, none, none, validFromChapter, entityNames⟩

/-- The text, the summary and the facts of the version. -/
def IndexSnapshot.chapterSources (snapshot : IndexSnapshot) : List Source :=
  [snapshot.chapterSource .chapterContent snapshot.versionId snapshot.text.content
      snapshot.outlineNames,
    snapshot.chapterSource .chapterSummary snapshot.versionId snapshot.text.summary
      snapshot.outlineNames] ++
    snapshot.facts.map fun fact =>
      snapshot.chapterSource .fact fact.id
        (fact.content.subject ++ " " ++ fact.content.predicate ++ " " ++ fact.content.object)
        [fact.content.subject, fact.content.object]

/-- What is indexed of the project with every version. -/
def IndexSnapshot.projectSources (snapshot : IndexSnapshot) : List Source :=
  snapshot.characters.map (fun row =>
      projectSource .character row.id
        (row.name ++ " " ++ row.description ++ " " ++ row.currentState) 1 [row.name]) ++
    snapshot.locations.map (fun (row, id) =>
      projectSource .location id (row.name ++ " " ++ row.description) 1 [row.name]) ++
    snapshot.rules.map (fun (row, id) => projectSource .storyRule id row.statement 1 []) ++
    snapshot.foreshadowing.map fun (row, id) =>
      projectSource .foreshadowing id row.description row.setupChapter []

namespace MemoryIndexService

variable (service : MemoryIndexService)

/-- The drafts of a source. -/
def chunk (source : Source) : Except Error (List SourceDraft) := do
  let pieces ← service.chunker source.content
  .ok (pieces.mapIdx fun index piece =>
    { sourceType := source.sourceType
      sourceId := source.sourceId
      chapterId := source.chapterId
      chapterVersionId := source.chapterVersionId
      validFromChapter := source.validFromChapter
      entityNames := source.entityNames
      chunkIndex := index
      content := piece
      contentHash := service.sha256 piece })

/-- `_build_sources`. -/
def buildSources (snapshot : IndexSnapshot) : Except Error (List SourceDraft) := do
  let drafts ← (snapshot.chapterSources ++ snapshot.projectSources).mapM service.chunk
  .ok drafts.flatten

variable {service} in
/-- **A draft is a piece of a source.** -/
theorem exists_source_of_mem {snapshot : IndexSnapshot} {drafts : List SourceDraft}
    (h : service.buildSources snapshot = .ok drafts) {draft : SourceDraft}
    (hdraft : draft ∈ drafts) :
    ∃ source ∈ snapshot.chapterSources ++ snapshot.projectSources, ∃ pieces index piece,
      service.chunker source.content = .ok pieces ∧ pieces[index]? = some piece ∧
      draft =
        { sourceType := source.sourceType
          sourceId := source.sourceId
          chapterId := source.chapterId
          chapterVersionId := source.chapterVersionId
          validFromChapter := source.validFromChapter
          entityNames := source.entityNames
          chunkIndex := index
          content := piece
          contentHash := service.sha256 piece } := by
  obtain ⟨parts, hparts, h⟩ := Except.bind_eq_ok.mp h
  obtain rfl := Except.ok.inj h
  obtain ⟨part, hpart, hmem⟩ := List.mem_flatten.mp hdraft
  obtain ⟨source, hsource, hchunk⟩ : ∃ source ∈ snapshot.chapterSources ++ snapshot.projectSources,
      service.chunk source = .ok part := by
    have hforall := Except.mapM_eq_ok.mp hparts
    obtain ⟨i, hlt, rfl⟩ := List.mem_iff_getElem.mp hpart
    have hlen := hforall.length_eq
    exact ⟨_, List.getElem_mem (hlen ▸ hlt), hforall.get (hlen ▸ hlt) hlt⟩
  obtain ⟨pieces, hpieces, hpart⟩ := Except.bind_eq_ok.mp hchunk
  obtain rfl := Except.ok.inj hpart
  obtain ⟨index, hindex, rfl⟩ := List.mem_mapIdx.mp hmem
  exact ⟨source, hsource, pieces, index, _, hpieces, List.getElem?_eq_getElem hindex, rfl⟩

end MemoryIndexService

/-! ### `GraphExtractor` -/

/-- An entity to be stored. -/
structure ExtractedGraphEntity where
  entityType : GraphEntityType
  canonicalName : String
  description : Option String
  confidence : ℚ
  evidence : String
  deriving DecidableEq, Repr

/-- A relation to be stored, between entities given by their names. -/
structure ExtractedGraphRelation where
  subject : String
  predicate : GraphPredicate
  object : String
  confidence : ℚ
  evidence : String
  validFromChapter : ℕ
  validToChapter : Option ℕ
  deriving DecidableEq, Repr

/-- `Field(min_length=1, max_length=limit)`. -/
def Fits (limit : ℕ) (text : String) : Prop := 1 ≤ text.length ∧ text.length ≤ limit

instance (limit : ℕ) (text : String) : Decidable (Fits limit text) := by
  unfold Fits; infer_instance

/-- The checks of the entity schema. -/
def ExtractedGraphEntity.Valid (item : ExtractedGraphEntity) : Prop :=
  Fits 200 item.canonicalName ∧ (0 ≤ item.confidence ∧ item.confidence ≤ 1) ∧
    Fits 500 item.evidence

instance (item : ExtractedGraphEntity) : Decidable item.Valid := by
  unfold ExtractedGraphEntity.Valid; infer_instance

/-- The checks of the relation schema. -/
def ExtractedGraphRelation.Valid (item : ExtractedGraphRelation) : Prop :=
  Fits 200 item.subject ∧ Fits 200 item.object ∧ (0 ≤ item.confidence ∧ item.confidence ≤ 1) ∧
    Fits 500 item.evidence ∧ 0 < item.validFromChapter ∧
    ∀ validTo ∈ item.validToChapter, 0 < validTo

instance (item : ExtractedGraphRelation) : Decidable item.Valid := by
  unfold ExtractedGraphRelation.Valid; infer_instance

/-- `_PREDICATES`. -/
def predicates : List (String × GraphPredicate) :=
  [("located_at", .locatedAt), ("is_at", .locatedAt), ("location", .locatedAt), ("owns", .owns),
    ("carries", .owns), ("possesses", .owns), ("knows", .knows), ("learned", .knows),
    ("discovered", .knows), ("member_of", .memberOf), ("caused", .caused), ("reveals", .reveals)]

/-- `minimum_confidence`. -/
def minimumConfidence : ℚ := 1 / 2

namespace GraphExtractor

variable (service : MemoryIndexService)

/-- Whether a fact says something about the graph. -/
def considered (content : String) (fact : IndexedFact) : Bool :=
  let evidence := strip fact.sourceQuote
  decide (minimumConfidence ≤ fact.confidence) && evidence != "" && contains content evidence &&
    service.casefold (strip fact.content.subject) != service.casefold (strip fact.content.object)

/-- `_object_type`. -/
def objectType (value : String) (locationNames : List String) (factType : String) :
    GraphEntityType :=
  let folded := service.casefold factType
  if value ∈ locationNames then .location
  else if contains folded "secret" || contains folded "knowledge" then .secret
  else if contains folded "event" || contains folded "action" then .event
  else .object

/-- The evidence that is stored. -/
def evidence (fact : IndexedFact) : String := truncate 500 (strip fact.sourceQuote)

/-- The entities a fact mentions. -/
def entitiesOf (characterNames locationNames : List String) (fact : IndexedFact) :
    List ExtractedGraphEntity :=
  [⟨if fact.content.subject ∈ characterNames then .character else .object, fact.content.subject,
      none, fact.confidence, evidence fact⟩,
    ⟨objectType service fact.content.object locationNames fact.factType, fact.content.object,
      none, fact.confidence, evidence fact⟩]

/-- The relation a fact states. -/
def relationOf (chapterNumber : ℕ) (fact : IndexedFact) : ExtractedGraphRelation where
  subject := fact.content.subject
  predicate :=
    (predicates.lookup (service.casefold (strip fact.content.predicate))).getD .relatedTo
  object := fact.content.object
  confidence := fact.confidence
  evidence := evidence fact
  validFromChapter := max chapterNumber fact.validFromChapter
  validToChapter := fact.validToChapter

/-- What entities are stored under, and ordered by. -/
def entityKey (item : ExtractedGraphEntity) : List String :=
  [item.entityType.value, item.canonicalName]

/-- What relations are ordered by. -/
def relationKey (item : ExtractedGraphRelation) : List String :=
  [item.subject, item.predicate.value, item.object, item.evidence]

/-- The last entity of each key. -/
def latest (items : List ExtractedGraphEntity) : List ExtractedGraphEntity :=
  items.foldr (fun item kept =>
    if kept.any fun other => entityKey other == entityKey item then kept else item :: kept) []

/-- `extract`. -/
def extract (snapshot : IndexSnapshot) :
    Except Error (List ExtractedGraphEntity × List ExtractedGraphRelation) :=
  let facts := snapshot.facts.filter (considered service snapshot.text.content)
  let entities := facts.flatMap
    (entitiesOf service (snapshot.characters.map (·.name)) (snapshot.locations.map (·.1.name)))
  let relations := facts.map (relationOf service snapshot.chapterNumber)
  if (∀ item ∈ entities, item.Valid) ∧ ∀ item ∈ relations, item.Valid then
    .ok ((latest entities).insertionSort fun a b => entityKey a ≤ entityKey b,
      relations.insertionSort fun a b => relationKey a ≤ relationKey b)
  else .error (.other "ValidationError" "GraphExtractor.extract")

end GraphExtractor

/-! ### What is written -/

/-- An entity is mentioned by a version, or belongs to the project. -/
structure Mention where
  sourceChapterId : Option ℕ
  sourceVersionId : Option ℕ
  item : ExtractedGraphEntity
  deriving DecidableEq, Repr

/-- `GraphEntityRepository.upsert`. -/
def GraphEntityRepository.upsert (service : MemoryIndexService) (projectId : ℕ)
    (mention : Mention) (entities : List GraphEntity) : ℕ × List GraphEntity :=
  let item := mention.item
  let normalized := service.normalize item.canonicalName
  let disambiguation := service.disambiguationKey item.entityType item.description
  Rows.upsert
    (fun row => row.projectId == projectId && row.entityType == item.entityType &&
      row.normalizedName == normalized && row.disambiguationKey == disambiguation)
    (fun row =>
      let row := { row with
        status := .accepted
        confidence := max row.confidence item.confidence }
      if mention.sourceVersionId.isSome && row.sourceVersionId.isSome then
        { row with
          sourceChapterId := mention.sourceChapterId
          sourceVersionId := mention.sourceVersionId }
      else row)
    { projectId := projectId
      entityType := item.entityType
      canonicalName := item.canonicalName
      normalizedName := normalized
      disambiguationKey := disambiguation
      description := item.description
      sourceChapterId := mention.sourceChapterId
      sourceVersionId := mention.sourceVersionId
      status := .accepted
      confidence := item.confidence }
    entities

/-- `GraphRelationRepository.upsert`. -/
def GraphRelationRepository.upsert (service : MemoryIndexService)
    (projectId sourceChapterId sourceVersionId subjectEntityId objectEntityId : ℕ)
    (item : ExtractedGraphRelation) (relations : List GraphRelation) : List GraphRelation :=
  let evidenceHash := service.sha256 item.evidence
  (Rows.upsert
    (fun row => row.projectId == projectId && row.subjectEntityId == subjectEntityId &&
      row.predicate == item.predicate && row.objectEntityId == objectEntityId &&
      row.sourceVersionId == some sourceVersionId && row.evidenceHash == evidenceHash)
    (fun row => { row with
      status := .accepted
      confidence := max row.confidence item.confidence })
    { projectId := projectId
      subjectEntityId := subjectEntityId
      predicate := item.predicate
      objectEntityId := objectEntityId
      sourceChapterId := some sourceChapterId
      sourceVersionId := some sourceVersionId
      confidence := item.confidence
      validFromChapter := item.validFromChapter
      validToChapter := item.validToChapter
      status := .accepted
      evidence := item.evidence
      evidenceHash := evidenceHash }
    relations).2

namespace MemoryIndexService

variable (service : MemoryIndexService)

/-- A draft is stored: its chunk is shown again, or added. -/
def storeDraft (projectId : ℕ) (chunks : List MemoryChunk) (draft : SourceDraft) :
    List MemoryChunk :=
  (Rows.upsert
    (fun row => row.projectId == projectId && row.sourceType == draft.sourceType &&
      row.sourceId == draft.sourceId && row.chunkIndex == draft.chunkIndex &&
      row.contentHash == draft.contentHash)
    ({ · with status := .accepted })
    { draft with projectId := projectId, status := .accepted }
    chunks).2

/-- The drafts are stored one after the other. -/
def storeDrafts (projectId : ℕ) (drafts : List SourceDraft) (chunks : List MemoryChunk) :
    List MemoryChunk :=
  drafts.foldl (storeDraft projectId) chunks

/-- The entities, and the ids of those whose names are known. -/
structure GraphSession where
  entities : List GraphEntity
  known : List (String × ℕ)

/-- An entity is stored under its name. -/
def mention (projectId : ℕ) (session : GraphSession) (mention : Mention) : GraphSession :=
  let (id, entities) := GraphEntityRepository.upsert service projectId mention session.entities
  ⟨entities, (mention.item.canonicalName, id) :: session.known⟩

/-- An entity of the project. -/
def projectEntity (entityType : GraphEntityType) (name description : String) : Mention :=
  ⟨none, none, ⟨entityType, name, some description, 1, truncate 500 description⟩⟩

/-- What is mentioned: the characters and locations of the project, and what the facts name. -/
def mentions (snapshot : IndexSnapshot) (entities : List ExtractedGraphEntity) : List Mention :=
  snapshot.characters.map (fun row => projectEntity .character row.name row.description) ++
    snapshot.locations.map (fun (row, _) => projectEntity .location row.name row.description) ++
    entities.map (⟨some snapshot.chapterId, some snapshot.versionId, ·⟩)

/-- All that is mentioned is stored. -/
def mentionAll (projectId : ℕ) (mentions : List Mention) (entities : List GraphEntity) :
    GraphSession :=
  mentions.foldl (service.mention projectId) ⟨entities, []⟩

/-- A relation is stored if both of its entities are known and distinct. -/
def relate (snapshot : IndexSnapshot) (known : List (String × ℕ)) (relations : List GraphRelation)
    (item : ExtractedGraphRelation) : List GraphRelation :=
  match known.lookup item.subject, known.lookup item.object with
  | some subjectId, some objectId =>
      if subjectId = objectId then relations
      else
        GraphRelationRepository.upsert service snapshot.projectId snapshot.chapterId
          snapshot.versionId subjectId objectId item relations
  | _, _ => relations

/-- The relations are stored one after the other. -/
def relateAll (snapshot : IndexSnapshot) (known : List (String × ℕ))
    (items : List ExtractedGraphRelation) (relations : List GraphRelation) : List GraphRelation :=
  items.foldl (service.relate snapshot known) relations

/-- The versions that the last transaction hides. -/
def oldVersionIds (snapshot : IndexSnapshot) (db : MemoryDatabase) : List ℕ :=
  CanonDatabase.supersededVersions snapshot.chapterId snapshot.versionId db.versions

/-- The last transaction of `index_accepted_chapter_version`. -/
def persistIndex (snapshot : IndexSnapshot) (drafts : List SourceDraft) (db : MemoryDatabase) :
    Except Error MemoryDatabase :=
  if (db.indexRecords snapshot.versionId).isNone then
    .error (.entityNotFoundError "Memory index record was not found")
  else do
    let (entities, relations) ← GraphExtractor.extract service snapshot
    let cleared := db.hide (oldVersionIds snapshot db)
    let mentioned := mentions snapshot entities
    let graph := service.mentionAll snapshot.projectId mentioned cleared.entities
    let related := service.relateAll snapshot graph.known relations cleared.relations
    if ¬∀ mention ∈ mentioned, mention.item.Valid then
      .error (.other "ValidationError" "ExtractedGraphEntity")
    else if ¬∀ row ∈ related, row.InRange then
      .error (.integrityError "graph_relation_valid_range")
    else
      .ok (({ cleared with
        chunks := storeDrafts snapshot.projectId drafts cleared.chunks
        entities := graph.entities
        relations := related } : MemoryDatabase).markRecord snapshot.versionId .completed)

/-! ### What the loops keep -/

variable {service : MemoryIndexService} {projectId : ℕ}

/-- What holds of every chunk, and of the chunk of every draft when it is shown, holds of every
chunk after the drafts were stored. -/
theorem storeDrafts_forall {P : MemoryChunk → Prop} {drafts : List SourceDraft}
    {chunks : List MemoryChunk} (hchunks : ∀ row ∈ chunks, P row)
    (hshow : ∀ draft ∈ drafts, ∀ row, P row → row.sourceType = draft.sourceType →
      row.sourceId = draft.sourceId → P { row with status := .accepted })
    (hnew : ∀ draft ∈ drafts, P { draft with projectId := projectId, status := .accepted }) :
    ∀ row ∈ storeDrafts projectId drafts chunks, P row := by
  induction drafts generalizing chunks with
  | nil => exact hchunks
  | cons draft drafts ih =>
      refine ih (fun row hrow => ?_)
        (fun other hother => hshow other (List.mem_cons_of_mem _ hother))
        (fun other hother => hnew other (List.mem_cons_of_mem _ hother))
      rcases Rows.mem_upsert hrow with hold | ⟨old, hold, hkey, rfl⟩ | rfl
      · exact hchunks row hold
      · simp only [Bool.and_eq_true, beq_iff_eq] at hkey
        exact hshow draft List.mem_cons_self old (hchunks old hold) hkey.1.1.1.2 hkey.1.1.2
      · exact hnew draft List.mem_cons_self

/-- What holds of every relation, and of the accepted relations of the version between known
entities, holds of every relation after the relations were stored. -/
theorem relateAll_forall {P : GraphRelation → Prop} {snapshot : IndexSnapshot}
    {known : List (String × ℕ)} {items : List ExtractedGraphRelation}
    {relations : List GraphRelation} (hrelations : ∀ row ∈ relations, P row)
    (hwrite : ∀ row : GraphRelation, row.status = .accepted →
      row.sourceVersionId = some snapshot.versionId →
      (∃ name, known.lookup name = some row.subjectEntityId) →
      (∃ name, known.lookup name = some row.objectEntityId) → P row) :
    ∀ row ∈ service.relateAll snapshot known items relations, P row := by
  induction items generalizing relations with
  | nil => exact hrelations
  | cons item items ih =>
      refine ih fun row hrow => ?_
      unfold relate at hrow
      split at hrow
      case h_2 => exact hrelations row hrow
      rename_i subjectId objectId hsubject hobject
      split at hrow
      · exact hrelations row hrow
      rcases Rows.mem_upsert hrow with hold | ⟨old, hold, hkey, rfl⟩ | rfl
      · exact hrelations row hold
      · simp only [Bool.and_eq_true, beq_iff_eq] at hkey
        obtain ⟨⟨⟨⟨⟨-, rfl⟩, -⟩, rfl⟩, hsource⟩, -⟩ := hkey
        exact hwrite _ rfl hsource ⟨_, hsubject⟩ ⟨_, hobject⟩
      · exact hwrite _ rfl rfl ⟨_, hsubject⟩ ⟨_, hobject⟩

/-- Whether an entity is there and accepted. -/
def Shown (entities : List GraphEntity) (id : ℕ) : Prop :=
  ∃ row, entities[id]? = some row ∧ row.status = .accepted

/-- An entity stays accepted when another one is mentioned. -/
theorem shown_upsert {mention : Mention} {entities : List GraphEntity} {id : ℕ}
    (h : Shown entities id) :
    Shown (GraphEntityRepository.upsert service projectId mention entities).2 id := by
  obtain ⟨row, hrow, hstatus⟩ := h
  unfold GraphEntityRepository.upsert
  dsimp only
  rcases Rows.getElem?_upsert_of hrow with hsame | hupdated
  · exact ⟨row, hsame, hstatus⟩
  · refine ⟨_, hupdated, ?_⟩
    split <;> rfl

/-- An entity that is mentioned is accepted. -/
theorem shown_upsert_self (mention : Mention) (entities : List GraphEntity) :
    Shown (GraphEntityRepository.upsert service projectId mention entities).2
      (GraphEntityRepository.upsert service projectId mention entities).1 := by
  obtain ⟨row, hrow, hwritten⟩ := Rows.getElem?_upsert_self _ _ _ entities
  refine ⟨row, hrow, ?_⟩
  rcases hwritten with ⟨old, -, -, rfl⟩ | rfl
  · dsimp only
    split <;> rfl
  · rfl

/-- **What is known is accepted**, and what was accepted stays so. -/
theorem shown_mentionAll (mentions : List Mention) (entities : List GraphEntity) :
    (∀ id, Shown entities id →
      Shown (service.mentionAll projectId mentions entities).entities id) ∧
    ∀ name id, (service.mentionAll projectId mentions entities).known.lookup name = some id →
      Shown (service.mentionAll projectId mentions entities).entities id := by
  unfold mentionAll
  induction mentions using List.reverseRecOn with
  | nil => exact ⟨fun _ h => h, fun _ _ h => by simp at h⟩
  | append_singleton mentions last ih =>
      rw [List.foldl_append, List.foldl_cons, List.foldl_nil]
      generalize mentions.foldl (service.mention projectId) ⟨entities, []⟩ = session at ih
      refine ⟨fun id h => shown_upsert (ih.1 id h), fun name id h => ?_⟩
      unfold mention at h
      dsimp only at h
      rw [List.lookup_cons] at h
      split at h
      · obtain rfl := Option.some.inj h
        exact shown_upsert_self _ _
      · exact shown_upsert (ih.2 name id h)

/-- **What the last transaction writes.** -/
theorem persistIndex_eq_ok {snapshot : IndexSnapshot} {drafts : List SourceDraft}
    {db db' : MemoryDatabase} (h : service.persistIndex snapshot drafts db = .ok db') :
    ∃ entities relations, GraphExtractor.extract service snapshot = .ok (entities, relations) ∧
      db' = ({ db.hide (oldVersionIds snapshot db) with
        chunks := storeDrafts snapshot.projectId drafts
          (db.hide (oldVersionIds snapshot db)).chunks
        entities := (service.mentionAll snapshot.projectId (mentions snapshot entities)
          (db.hide (oldVersionIds snapshot db)).entities).entities
        relations := service.relateAll snapshot
          (service.mentionAll snapshot.projectId (mentions snapshot entities)
            (db.hide (oldVersionIds snapshot db)).entities).known relations
          (db.hide (oldVersionIds snapshot db)).relations } : MemoryDatabase).markRecord
        snapshot.versionId .completed := by
  unfold persistIndex at h
  split at h
  · exact absurd h (by simp)
  obtain ⟨⟨entities, relations⟩, hextract, h⟩ := Except.bind_eq_ok.mp h
  refine ⟨entities, relations, hextract, ?_⟩
  dsimp only at h
  split at h
  · exact absurd h (by simp)
  split at h
  · exact absurd h (by simp)
  exact (Except.ok.inj h).symm

end MemoryIndexService

/-! ### Accepting a version -/

/-- `accept_version`: its transaction, with the memory that it hides. Nothing is returned when
the acceptance is replayed. -/
def MemoryDatabase.acceptVersion (workflowRunId versionId : ℕ) (db : MemoryDatabase) :
    Except Error (Option MemoryDatabase) := do
  let story ← ChapterVersionService.acceptVersion workflowRunId versionId db.toStoryDatabase
  match CanonDatabase.accepting workflowRunId versionId db.toStoryDatabase with
  | none => .ok none
  | some (projectId, version, chapter) =>
      let foreshadowings := ChapterVersionService.applyForeshadowingUpdates projectId
        chapter.chapterNumber version.candidateForeshadowingUpdates db.foreshadowings
      if ∀ row ∈ foreshadowings, row.InRange then
        let previous := (chapter.acceptedVersionId.filter (· != versionId)).toList
        .ok (some (({ db.hide previous with
          toStoryDatabase := story
          characters := ChapterVersionService.applyCharacterUpdates projectId
            version.candidateCharacterUpdates db.characters
          foreshadowings := foreshadowings } : MemoryDatabase).ensurePending versionId))
      else .error (.integrityError "foreshadowing_payoff_range")

/-- **What an acceptance writes**: the chapter points to the version, and what the chapter
pointed to is superseded and hidden. -/
theorem MemoryDatabase.acceptVersion_eq_ok {workflowRunId versionId : ℕ}
    {db db' : MemoryDatabase} (h : db.acceptVersion workflowRunId versionId = .ok (some db')) :
    ∃ story projectId version chapter,
      ChapterVersionService.acceptVersion workflowRunId versionId db.toStoryDatabase =
        .ok story ∧
      CanonDatabase.accepting workflowRunId versionId db.toStoryDatabase =
        some (projectId, version, chapter) ∧
      db' = ({ db.hide (chapter.acceptedVersionId.filter (· != versionId)).toList with
        toStoryDatabase := story
        characters := ChapterVersionService.applyCharacterUpdates projectId
          version.candidateCharacterUpdates db.characters
        foreshadowings := ChapterVersionService.applyForeshadowingUpdates projectId
          chapter.chapterNumber version.candidateForeshadowingUpdates db.foreshadowings } :
        MemoryDatabase).ensurePending versionId := by
  unfold acceptVersion at h
  obtain ⟨story, hstory, h⟩ := Except.bind_eq_ok.mp h
  split at h
  · exact absurd h (by simp)
  rename_i projectId version chapter haccepting
  dsimp only at h
  split at h
  · exact ⟨story, projectId, version, chapter, hstory, haccepting,
      (Option.some.inj (Except.ok.inj h)).symm⟩
  · exact absurd h (by simp)

end StoryForge.Memory
