import Mathlib.Data.List.Dedup
import StoryForge.Books.Snapshot
import StoryForge.Chapters.Generation

/-!
# The rows of a book analysis

The analysis of a snapshot turns facts and graph relations into timeline events, character arc
points, character knowledge, relationship history and chapter transitions, and stores them as
rows with unique keys. The issues and scores that the analyzers find beside them are no rows of
these tables and are left out.

An event key is a digest of the texts of a fact joined by a separator, and several predicates
and graph edges stand for one relationship type.

## Main results

* `BookAnalysis.points_nodup`, `knowledge_nodup`, `transitions_nodup` — these rows never
  collide;
* `BookAnalysis.storable_iff` — all rows can be stored exactly when no two facts have the same
  joined text and no two facts, and no two graph edges, state the same relationship;
* `BookAnalysis.synonyms_collide` — two synonyms do.
-/

namespace StoryForge

/-! ### Rows -/

/-- The types of relationships. -/
inductive RelationshipType
  | trust
  | friendship
  | hostility
  | family
  | romance
  | alliance
  | mentorship
  | authority
  deriving DecidableEq, Repr

/-- An event of the timeline. -/
structure TimelineEventData where
  eventKey : String
  chapterId : ℕ
  chapterVersionId : ℕ
  chapterNumber : ℕ
  title : String
  description : String
  storyTime : Option String
  sequenceIndex : ℕ
  location : Option String
  participants : List String
  confidence : ℚ
  evidence : String
  deriving DecidableEq, Repr

/-- The state of a character in a chapter. -/
structure CharacterArcPointData where
  characterId : ℕ
  characterName : String
  chapterNumber : ℕ
  chapterVersionId : ℕ
  goals : List String
  physicalState : String
  location : Option String
  relationships : List (String × RelationshipType)
  knowledge : List String
  decisions : List String
  evidence : List String
  deriving DecidableEq, Repr

/-- A fact that a character learned. -/
structure KnowledgeBoundaryData where
  characterId : ℕ
  characterName : String
  factId : ℕ
  learnedChapter : ℕ
  confidence : ℚ
  deriving DecidableEq, Repr

/-- A relationship of two characters in a chapter. -/
structure RelationshipPointData where
  subjectCharacterId : ℕ
  objectCharacterId : ℕ
  relationshipType : RelationshipType
  value : String
  chapterNumber : ℕ
  chapterVersionId : ℕ
  evidence : String
  deriving DecidableEq, Repr

/-- Two adjacent chapters. -/
structure ChapterTransition where
  fromChapter : ℕ
  toChapter : ℕ
  deriving DecidableEq, Repr

/-- The predicates of graph relations that stand for a relationship by themselves. -/
inductive GraphPredicate
  | conflictsWith
  | relatedTo
  | other (value : String)
  deriving DecidableEq, Repr

/-- An accepted graph relation of a version of the snapshot. `configured` is the relationship
type of its details in lower case, and `value` their value. -/
structure GraphEdge where
  subject : String
  object : String
  predicate : GraphPredicate
  sourceVersionId : ℕ
  configured : String
  value : String
  evidence : String
  deriving DecidableEq, Repr

/-- The rows of an analysis. -/
structure BookAnalysis where
  events : List TimelineEventData
  points : List CharacterArcPointData
  knowledge : List KnowledgeBoundaryData
  relationships : List RelationshipPointData
  transitions : List ChapterTransition
  deriving DecidableEq, Repr

/-! ### Texts -/

/-- How the analysis reads texts: `_normalized`, the folding of the names of graph entities, the
first digits of a digest, and the normalized identity of a fact. -/
structure AnalysisText where
  normalized : String → String
  folded : String → String
  digest : String → String
  identity : FactNormalizer

/-- `" ".join(value.split())`, cut off after `limit` characters. -/
def bounded (value : String) (limit : ℕ) : String :=
  let words := (value.splitToList isSpace).filter (· != "")
  let collapsed := " ".intercalate words
  if collapsed.length ≤ limit then collapsed else truncate (limit - 1) collapsed ++ "…"

/-- `_RELATIONSHIP_PREDICATES`. -/
def relationshipPredicates : List (String × RelationshipType) :=
  [("trusts", .trust), ("friend", .friendship), ("hostile_to", .hostility),
    ("family_of", .family), ("loves", .romance), ("allied_with", .alliance),
    ("mentors", .mentorship), ("commands", .authority), ("信任", .trust), ("朋友", .friendship),
    ("敌对", .hostility), ("家人", .family), ("爱慕", .romance), ("同盟", .alliance),
    ("指导", .mentorship), ("领导", .authority)]

/-- `_LOCATION_PREDICATES`. -/
def locationPredicates : List String := ["located_at", "is_at", "location", "位于", "地点"]

/-- `_KNOWLEDGE_PREDICATES`. -/
def knowledgePredicates : List String :=
  ["knows", "learned", "discovered", "知道", "获知", "发现"]

/-- The relationship types that the details of a graph relation may name. -/
def configuredTypes : List (String × RelationshipType) :=
  [("trust", .trust), ("friendship", .friendship), ("hostility", .hostility),
    ("family", .family), ("romance", .romance), ("alliance", .alliance),
    ("mentorship", .mentorship), ("authority", .authority)]

/-! ### The timeline -/

namespace TimelineAnalyzer

/-- The text that an event key is the digest of. -/
def raw (fact : AcceptedFactData) : String :=
  fact.subject ++ "|" ++ fact.predicate ++ "|" ++ fact.object ++ "|" ++
    toString fact.chapterVersionId

/-- `_event`. -/
def event (text : AnalysisText) (index : ℕ) (fact : AcceptedFactData) : TimelineEventData where
  eventKey := text.digest (raw fact)
  chapterId := fact.chapterId
  chapterVersionId := fact.chapterVersionId
  chapterNumber := fact.chapterNumber
  title := fact.subject ++ " " ++ fact.predicate
  description := fact.subject ++ " " ++ fact.predicate ++ " " ++ fact.object
  storyTime :=
    if text.normalized fact.predicate ∈ ["storytime", "时间"] then some fact.object else none
  sequenceIndex := index
  location :=
    if text.normalized fact.predicate ∈ locationPredicates then some fact.object else none
  participants := [fact.subject]
  confidence := fact.confidence
  evidence := bounded fact.evidence 160

/-- The facts in the order of the story. -/
def ordered (facts : List AcceptedFactData) : List AcceptedFactData :=
  facts.insertionSort fun a b =>
    a.chapterNumber < b.chapterNumber ∨ a.chapterNumber = b.chapterNumber ∧ a.id ≤ b.id

/-- The events of `analyze`. -/
def analyze (text : AnalysisText) (facts : List AcceptedFactData) : List TimelineEventData :=
  (ordered facts).mapIdx (event text)

end TimelineAnalyzer

/-! ### Characters -/

namespace CharacterArcAnalyzer

variable (text : AnalysisText)

/-- `character_by_name`: the last character with a normalized name. -/
def characterNamed (characters : List CharacterProfileData) (name : String) :
    Option CharacterProfileData :=
  (characters.filter fun character => text.normalized character.name == name).getLast?

/-- `facts_by_chapter`. -/
def factsOf (facts : List AcceptedFactData) (chapterNumber : ℕ) : List AcceptedFactData :=
  facts.filter (·.chapterNumber == chapterNumber)

/-- The facts of a chapter about a name. -/
def related (facts : List AcceptedFactData) (chapterNumber : ℕ) (name : String) :
    List AcceptedFactData :=
  (factsOf facts chapterNumber).filter fun fact => text.normalized fact.subject == name

/-- `sorted(present)`: the names in a chapter. -/
def present (facts : List AcceptedFactData) (chapter : SnapshotChapter) : List String :=
  ((chapter.charactersPresent.map text.normalized ++
    (factsOf facts chapter.chapterNumber).map fun fact => text.normalized fact.subject).dedup
    ).insertionSort (· ≤ ·)

/-- The characters in a chapter, with the names they go by. -/
def appearing (facts : List AcceptedFactData) (characters : List CharacterProfileData)
    (chapter : SnapshotChapter) : List (String × CharacterProfileData) :=
  (present text facts chapter).filterMap fun name =>
    (characterNamed text characters name).map (name, ·)

/-- The relationship that a fact about a character states. -/
def relationship (characters : List CharacterProfileData) (fact : AcceptedFactData) :
    Option (RelationshipType × CharacterProfileData) :=
  (relationshipPredicates.lookup (text.normalized fact.predicate)).bind fun type =>
    (characterNamed text characters (text.normalized fact.object)).map (type, ·)

/-- Whether a fact is something learned. -/
def isLearned (fact : AcceptedFactData) : Bool :=
  (knowledgePredicates.map text.normalized).contains (text.normalized fact.predicate)

/-- `values[key] = value`. -/
def setItem (values : List (String × RelationshipType)) (key : String)
    (value : RelationshipType) : List (String × RelationshipType) :=
  if values.any (·.1 == key) then
    values.map fun item => if item.1 = key then (key, value) else item
  else values ++ [(key, value)]

/-- What has been found so far. -/
structure Progress where
  lastState : ℕ → Option String
  points : List CharacterArcPointData
  knowledge : List KnowledgeBoundaryData
  relationships : List RelationshipPointData

/-- The point of a character in a chapter, whose state is the one given. -/
def point (characters : List CharacterProfileData) (chapter : SnapshotChapter)
    (character : CharacterProfileData) (facts : List AcceptedFactData) (state : String) :
    CharacterArcPointData where
  characterId := character.id
  characterName := character.name
  chapterNumber := chapter.chapterNumber
  chapterVersionId := chapter.chapterVersionId
  goals := character.goals
  physicalState := state
  location := ((facts.filter fun fact => (locationPredicates.map text.normalized).contains
    (text.normalized fact.predicate)).getLast?).map (·.object)
  relationships := (facts.filterMap (relationship text characters)).foldl
    (fun values r => setItem values r.2.name r.1) []
  knowledge := (facts.filter (isLearned text)).map (·.object)
  decisions := (facts.filter fun fact =>
    ["decides", "决定"].contains (text.normalized fact.predicate)).map (·.object)
  evidence := (facts.take 4).map fun fact => bounded fact.evidence 160

/-- The relationships that the facts about a character state. -/
def relationshipPoints (characters : List CharacterProfileData) (chapter : SnapshotChapter)
    (character : CharacterProfileData) (facts : List AcceptedFactData) :
    List RelationshipPointData :=
  facts.filterMap fun fact => (relationship text characters fact).map fun r =>
    { subjectCharacterId := character.id
      objectCharacterId := r.2.id
      relationshipType := r.1
      value := "active"
      chapterNumber := chapter.chapterNumber
      chapterVersionId := chapter.chapterVersionId
      evidence := bounded fact.evidence 160 }

/-- What a character learns in a chapter. -/
def knowledgePoints (chapter : SnapshotChapter) (character : CharacterProfileData)
    (facts : List AcceptedFactData) : List KnowledgeBoundaryData :=
  (facts.filter (isLearned text)).map fun fact =>
    { characterId := character.id
      characterName := character.name
      factId := fact.id
      learnedChapter := chapter.chapterNumber
      confidence := fact.confidence }

/-- The state of a character: what a fact says, or what it was. -/
def stateOf (character : CharacterProfileData) (facts : List AcceptedFactData)
    (last : Option String) : String :=
  ((facts.find? fun fact =>
    ["state", "status", "状态"].contains (text.normalized fact.predicate)).map (·.object)).getD
    (last.getD character.currentState)

/-- One turn of the inner loop. -/
def visit (facts : List AcceptedFactData) (characters : List CharacterProfileData)
    (chapter : SnapshotChapter) (progress : Progress) (who : String × CharacterProfileData) :
    Progress :=
  let about := related text facts chapter.chapterNumber who.1
  let state := stateOf text who.2 about (progress.lastState who.2.id)
  { lastState := Function.update progress.lastState who.2.id (some state)
    points := progress.points ++ [point text characters chapter who.2 about state]
    knowledge := progress.knowledge ++ knowledgePoints text chapter who.2 about
    relationships := progress.relationships ++
      relationshipPoints text characters chapter who.2 about }

/-- One turn of the outer loop. -/
def visitChapter (facts : List AcceptedFactData) (characters : List CharacterProfileData)
    (progress : Progress) (chapter : SnapshotChapter) : Progress :=
  (appearing text facts characters chapter).foldl (visit text facts characters chapter) progress

/-- `analyze`. -/
def analyze (chapters : List SnapshotChapter) (facts : List AcceptedFactData)
    (characters : List CharacterProfileData) : Progress :=
  chapters.foldl (visitChapter text facts characters) ⟨fun _ => none, [], [], []⟩

end CharacterArcAnalyzer

/-! ### Chapters and the whole analysis -/

/-- The pairs of adjacent chapters that `ChapterTransitionAnalyzer.analyze` judges. -/
def ChapterTransitionAnalyzer.analyze (chapters : List SnapshotChapter) :
    List ChapterTransition :=
  let ordered := chapters.insertionSort fun a b => a.chapterNumber ≤ b.chapterNumber
  List.zipWith (fun previous current => ⟨previous.chapterNumber, current.chapterNumber⟩) ordered
    ordered.tail

namespace BookAnalysisService

/-- The unique key of a relationship row within a snapshot. -/
def relationshipKey (item : RelationshipPointData) : ℕ × ℕ × RelationshipType × ℕ :=
  (item.subjectCharacterId, item.objectCharacterId, item.relationshipType, item.chapterNumber)

/-- `character_by_name` of `_graph_relationships`. -/
def foldedCharacter (text : AnalysisText) (characters : List CharacterProfileData)
    (name : String) : Option CharacterProfileData :=
  (characters.filter fun character => text.folded character.name == text.folded name).getLast?

/-- The relationship type of a graph relation. -/
def edgeType (edge : GraphEdge) : Option RelationshipType :=
  match configuredTypes.lookup edge.configured, edge.predicate with
  | some type, _ => some type
  | none, .conflictsWith => some .hostility
  | none, .relatedTo => some .alliance
  | none, .other _ => none

/-- The relationship that a graph relation stands for. -/
def edgePoint (text : AnalysisText) (chapters : List SnapshotChapter)
    (characters : List CharacterProfileData) (edge : GraphEdge) : Option RelationshipPointData :=
  match foldedCharacter text characters edge.subject,
      foldedCharacter text characters edge.object, edgeType edge,
      chapters.find? (·.chapterVersionId == edge.sourceVersionId) with
  | some subject, some object, some type, some chapter =>
      some
        { subjectCharacterId := subject.id
          objectCharacterId := object.id
          relationshipType := type
          value := truncate 100 edge.value
          chapterNumber := chapter.chapterNumber
          chapterVersionId := edge.sourceVersionId
          evidence := truncate 160 edge.evidence }
  | _, _, _, _ => none

/-- `_graph_relationships`, from the accepted graph relations of the versions, in order. -/
def graphRelationships (text : AnalysisText) (chapters : List SnapshotChapter)
    (characters : List CharacterProfileData) (edges : List GraphEdge) :
    List RelationshipPointData :=
  edges.filterMap (edgePoint text chapters characters)

/-- The rows of `analyze`. -/
def analyze (text : AnalysisText) (chapters : List SnapshotChapter)
    (facts : List AcceptedFactData) (characters : List CharacterProfileData)
    (edges : List GraphEdge) : BookAnalysis :=
  let arcs := CharacterArcAnalyzer.analyze text chapters facts characters
  let keys := arcs.relationships.map relationshipKey
  { events := TimelineAnalyzer.analyze text facts
    points := arcs.points
    knowledge := arcs.knowledge
    relationships := arcs.relationships ++
      (graphRelationships text chapters characters edges).filter fun item =>
        !keys.contains (relationshipKey item)
    transitions := ChapterTransitionAnalyzer.analyze chapters }

/-- The inserts of `_persist_analysis` for a snapshot that has no analysis yet: each table
refuses two rows with one key. -/
def persistAnalysis (analysis : BookAnalysis) : Except Error BookAnalysis :=
  if ¬ (analysis.events.map (·.eventKey)).Nodup then
    .error (.integrityError "timeline_snapshot_event_key")
  else if ¬ (analysis.points.map fun point => (point.characterId, point.chapterNumber)).Nodup then
    .error (.integrityError "character_arc_snapshot_character_chapter")
  else if ¬ (analysis.knowledge.map fun item => (item.characterId, item.factId)).Nodup then
    .error (.integrityError "knowledge_snapshot_character_fact")
  else if ¬ (analysis.relationships.map relationshipKey).Nodup then
    .error (.integrityError "relationship_snapshot_pair_type_chapter")
  else if ¬ (analysis.transitions.map fun item => (item.fromChapter, item.toChapter)).Nodup then
    .error (.integrityError "transition_snapshot_pair")
  else .ok analysis

end BookAnalysisService

/-! ### Snapshots -/

/-- What the analysis is given: chapters with distinct numbers, facts with distinct ids of these
chapters, distinct by normalized identity within a version, and characters with distinct ids. -/
structure AnalysisInput (text : AnalysisText) where
  chapters : List SnapshotChapter
  facts : List AcceptedFactData
  characters : List CharacterProfileData
  edges : List GraphEdge
  chapters_nodup : (chapters.map (·.chapterNumber)).Nodup
  facts_nodup : (facts.map (·.id)).Nodup
  facts_mapped : ∀ fact ∈ facts, fact.chapterNumber ∈ chapters.map (·.chapterNumber)
  facts_distinct : (facts.map fun fact =>
    (fact.chapterVersionId, text.identity ⟨fact.subject, fact.predicate, fact.object⟩)).Nodup
  characters_nodup : (characters.map (·.id)).Nodup

namespace AnalysisInput

open CharacterArcAnalyzer BookAnalysisService

variable {text : AnalysisText} (input : AnalysisInput text)

/-- The rows of the analysis. -/
def analysis : BookAnalysis :=
  BookAnalysisService.analyze text input.chapters input.facts input.characters input.edges

/-- The character that a fact is about. -/
def about (fact : AcceptedFactData) : Option CharacterProfileData :=
  characterNamed text input.characters (text.normalized fact.subject)

/-- The relationship that a fact states, as a key: two characters, a type and a chapter. -/
def stated (fact : AcceptedFactData) : Option (ℕ × ℕ × RelationshipType × ℕ) :=
  (input.about fact).bind fun character =>
    (relationship text input.characters fact).map fun r =>
      (character.id, r.2.id, r.1, fact.chapterNumber)

/-- What a fact says that a character learned, as a key. -/
def learned (fact : AcceptedFactData) : Option (ℕ × ℕ) :=
  if isLearned text fact then (input.about fact).map fun character => (character.id, fact.id)
  else none

/-- The relationships that graph relations stand for and no fact states, as keys. -/
def projected : List (ℕ × ℕ × RelationshipType × ℕ) :=
  ((graphRelationships text input.chapters input.characters input.edges).map relationshipKey).filter
    fun key => !(input.facts.filterMap input.stated).contains key

/-! ### The loops -/

variable {input}

theorem characterNamed_eq_some {characters : List CharacterProfileData} {name : String}
    {character : CharacterProfileData}
    (h : characterNamed text characters name = some character) :
    character ∈ characters ∧ text.normalized character.name = name := by
  have hmem := List.mem_of_getLast? h
  obtain ⟨hin, hname⟩ := List.mem_filter.mp hmem
  exact ⟨hin, beq_iff_eq.mp hname⟩

theorem nodup_present (facts : List AcceptedFactData) (chapter : SnapshotChapter) :
    (present text facts chapter).Nodup :=
  (List.perm_insertionSort _ _).nodup_iff.mpr (List.nodup_dedup _)

/-- Whoever a fact of a chapter is about is in it. -/
theorem mem_present {facts : List AcceptedFactData} {chapter : SnapshotChapter}
    {fact : AcceptedFactData} (hfact : fact ∈ factsOf facts chapter.chapterNumber) :
    text.normalized fact.subject ∈ present text facts chapter := by
  refine (List.perm_insertionSort _ _).mem_iff.mpr (List.mem_dedup.mpr ?_)
  exact List.mem_append_right _ (List.mem_map_of_mem hfact)

/-- The outputs of the facts about the characters of the chapters are those of the facts. -/
theorem visited_perm {β : Type} (out : AcceptedFactData → Option β)
    (hnone : ∀ fact, input.about fact = none → out fact = none) :
    (input.chapters.flatMap fun chapter =>
      (appearing text input.facts input.characters chapter).flatMap fun who =>
        (related text input.facts chapter.chapterNumber who.1).filterMap out).Perm
      (input.facts.filterMap out) := by
  have hinner (chapter : SnapshotChapter) :
      ((appearing text input.facts input.characters chapter).flatMap fun who =>
        (related text input.facts chapter.chapterNumber who.1).filterMap out).Perm
        ((factsOf input.facts chapter.chapterNumber).filterMap out) := by
    have hnames : ((appearing text input.facts input.characters chapter).flatMap fun who =>
        (related text input.facts chapter.chapterNumber who.1).filterMap out) =
        (present text input.facts chapter).flatMap fun name =>
          (related text input.facts chapter.chapterNumber name).filterMap out := by
      refine Rows.flatMap_filterMap_eq fun name _ => ?_
      cases hcharacter : characterNamed text input.characters name with
      | some character => rfl
      | none =>
          -- nobody goes by the name, so its facts are about nobody
          refine (List.filterMap_eq_nil_iff.mpr fun fact hfact => hnone fact ?_).symm
          have hname := beq_iff_eq.mp (List.mem_filter.mp hfact).2
          rw [about, hname, hcharacter]
    rw [hnames, ← List.filterMap_flatMap]
    exact (Rows.perm_flatMap_filter (nodup_present _ _) fun fact hfact =>
      mem_present hfact).filterMap _
  refine (List.Perm.flatMap_left _ fun chapter _ => hinner chapter).trans ?_
  have hnumbers : (input.chapters.flatMap fun chapter =>
      factsOf input.facts chapter.chapterNumber) =
      (input.chapters.map (·.chapterNumber)).flatMap (factsOf input.facts) :=
    (List.flatMap_map _ _ _).symm
  rw [← List.filterMap_flatMap, hnumbers]
  exact (Rows.perm_flatMap_filter input.chapters_nodup input.facts_mapped).filterMap _

/-- A loop over the characters of all chapters that appends to a list. -/
theorem analyze_append {β : Type} (get : Progress → List β)
    (out : SnapshotChapter → String × CharacterProfileData → List β)
    (hempty : get ⟨fun _ => none, [], [], []⟩ = [])
    (hvisit : ∀ chapter progress who,
      get (visit text input.facts input.characters chapter progress who) =
        get progress ++ out chapter who) :
    get (CharacterArcAnalyzer.analyze text input.chapters input.facts input.characters) =
      input.chapters.flatMap fun chapter =>
        (appearing text input.facts input.characters chapter).flatMap (out chapter) := by
  have hchapter (progress : Progress) (chapter : SnapshotChapter) :
      get (visitChapter text input.facts input.characters progress chapter) = get progress ++
        (appearing text input.facts input.characters chapter).flatMap (out chapter) :=
    Rows.foldl_append (hvisit chapter) _ _
  have hloop := Rows.foldl_append hchapter input.chapters ⟨fun _ => none, [], [], []⟩
  rwa [hempty, List.nil_append] at hloop

/-- A character in a chapter is the one a fact about it is about. -/
theorem about_of_related {chapter : SnapshotChapter} {who : String × CharacterProfileData}
    (hwho : who ∈ appearing text input.facts input.characters chapter) {fact : AcceptedFactData}
    (hfact : fact ∈ related text input.facts chapter.chapterNumber who.1) :
    input.about fact = some who.2 ∧ fact.chapterNumber = chapter.chapterNumber := by
  obtain ⟨name, -, hname⟩ := List.mem_filterMap.mp hwho
  obtain ⟨character, hcharacter, rfl⟩ := Option.map_eq_some_iff.mp hname
  obtain ⟨hchapter, hsubject⟩ := List.mem_filter.mp hfact
  rw [about, beq_iff_eq.mp hsubject]
  exact ⟨hcharacter, beq_iff_eq.mp (List.mem_filter.mp hchapter).2⟩

/-- The keys of the relationships that facts state. -/
theorem relationshipKeys_perm (input : AnalysisInput text) :
    ((CharacterArcAnalyzer.analyze text input.chapters input.facts
      input.characters).relationships.map relationshipKey).Perm
      (input.facts.filterMap input.stated) := by
  rw [analyze_append (fun progress => progress.relationships.map relationshipKey)
    (fun chapter who => (related text input.facts chapter.chapterNumber who.1).filterMap
      fun fact => (relationship text input.characters fact).map fun r =>
        (who.2.id, r.2.id, r.1, chapter.chapterNumber))
    rfl]
  · refine List.Perm.trans (List.Perm.of_eq ?_) (visited_perm input.stated fun fact hnone => by
      rw [stated, hnone]
      rfl)
    refine List.flatMap_congr fun chapter _ => List.flatMap_congr fun who hwho =>
      List.filterMap_congr fun fact hfact => ?_
    obtain ⟨habout, hnumber⟩ := about_of_related hwho hfact
    rw [stated, habout, hnumber]
    rfl
  · intro chapter progress who
    simp only [visit, List.map_append, relationshipPoints, List.map_filterMap, Option.map_map]
    rfl

/-- The keys of what characters learn. -/
theorem knowledgeKeys_perm :
    ((CharacterArcAnalyzer.analyze text input.chapters input.facts
      input.characters).knowledge.map fun item => (item.characterId, item.factId)).Perm
      (input.facts.filterMap input.learned) := by
  rw [analyze_append
    (fun progress => progress.knowledge.map fun item => (item.characterId, item.factId))
    (fun chapter who => (related text input.facts chapter.chapterNumber who.1).filterMap
      fun fact => if isLearned text fact then some (who.2.id, fact.id) else none)
    rfl]
  · refine List.Perm.trans (List.Perm.of_eq ?_) (visited_perm input.learned fun fact hnone => by
      rw [learned, hnone]
      split <;> rfl)
    refine List.flatMap_congr fun chapter _ => List.flatMap_congr fun who hwho =>
      List.filterMap_congr fun fact hfact => ?_
    rw [learned, (about_of_related hwho hfact).1]
    rfl
  · intro chapter progress who
    have hlearned (facts : List AcceptedFactData) : (knowledgePoints text chapter who.2 facts).map
        (fun item => (item.characterId, item.factId)) = facts.filterMap fun fact =>
          if isLearned text fact then some (who.2.id, fact.id) else none := by
      rw [knowledgePoints, List.map_map, ← List.filterMap_eq_map, List.filterMap_filter]
      rfl
    simp only [visit, List.map_append, hlearned]

/-! ### Keys -/

theorem timelineKeys_perm :
    (input.analysis.events.map (·.eventKey)).Perm
      (input.facts.map fun fact => text.digest (TimelineAnalyzer.raw fact)) := by
  have hkeys : input.analysis.events.map (·.eventKey) =
      (TimelineAnalyzer.ordered input.facts).map fun fact =>
        text.digest (TimelineAnalyzer.raw fact) := by
    apply List.ext_getElem
    · simp [analysis, BookAnalysisService.analyze, TimelineAnalyzer.analyze]
    · intro i hi hi'
      simp [analysis, BookAnalysisService.analyze, TimelineAnalyzer.analyze, TimelineAnalyzer.event]
  rw [hkeys]
  exact (List.perm_insertionSort _ _).map _

/-- The event keys are distinct when the joined texts are, if the digests of these texts do not
collide. -/
theorem events_nodup_iff (hdigest : ∀ fact ∈ input.facts, ∀ other ∈ input.facts,
      text.digest (TimelineAnalyzer.raw fact) = text.digest (TimelineAnalyzer.raw other) →
        TimelineAnalyzer.raw fact = TimelineAnalyzer.raw other) :
    (input.analysis.events.map (·.eventKey)).Nodup ↔
      (input.facts.map TimelineAnalyzer.raw).Nodup := by
  rw [timelineKeys_perm.nodup_iff, ← Function.comp_def text.digest, ← List.map_map]
  constructor
  · exact List.Nodup.of_map _
  · refine List.Nodup.map_on fun a ha b hb heq => ?_
    obtain ⟨fact, hfact, rfl⟩ := List.mem_map.mp ha
    obtain ⟨other, hother, rfl⟩ := List.mem_map.mp hb
    exact hdigest fact hfact other hother heq

/-- **A character has one point in a chapter.** -/
theorem points_nodup (input : AnalysisInput text) :
    (input.analysis.points.map fun point => (point.characterId, point.chapterNumber)).Nodup := by
  have hkeys : (input.analysis.points.map fun point => (point.characterId, point.chapterNumber)) =
      input.chapters.flatMap fun chapter =>
        (appearing text input.facts input.characters chapter).flatMap fun who =>
          [(who.2.id, chapter.chapterNumber)] :=
    analyze_append
      (fun progress => progress.points.map fun point => (point.characterId, point.chapterNumber))
      (fun chapter who => [(who.2.id, chapter.chapterNumber)]) rfl
      fun chapter progress who => by simp [visit, point]
  rw [hkeys, List.nodup_flatMap]
  constructor
  · intro chapter _
    rw [← List.map_eq_flatMap, appearing, List.map_filterMap]
    refine List.Nodup.filterMap (fun name name' key hkey hkey' => ?_) (nodup_present _ _)
    -- one character under two names would have two normalized names
    simp only [Option.map_map, Option.mem_def, Option.map_eq_some_iff, Function.comp_apply]
      at hkey hkey'
    obtain ⟨character, hcharacter, rfl⟩ := hkey
    obtain ⟨other, hother, hsame⟩ := hkey'
    obtain ⟨hmem, hname⟩ := characterNamed_eq_some hcharacter
    obtain ⟨hmem', hname'⟩ := characterNamed_eq_some hother
    have hid : other.id = character.id := congrArg Prod.fst hsame
    obtain rfl := List.inj_on_of_nodup_map input.characters_nodup hmem' hmem hid
    exact hname.symm.trans hname'
  · have hnumbers := List.pairwise_map.mp input.chapters_nodup
    refine hnumbers.imp fun {chapter chapter'} hne => ?_
    intro key hkey hkey'
    obtain ⟨who, -, hwho⟩ := List.mem_flatMap.mp hkey
    obtain ⟨who', -, hwho'⟩ := List.mem_flatMap.mp hkey'
    rw [List.mem_singleton.mp hwho] at hwho'
    exact hne (congrArg Prod.snd (List.mem_singleton.mp hwho'))

/-- **A character learns a fact once.** -/
theorem knowledge_nodup (input : AnalysisInput text) :
    (input.analysis.knowledge.map fun item => (item.characterId, item.factId)).Nodup := by
  refine knowledgeKeys_perm.nodup_iff.mpr (List.Nodup.of_map Prod.snd ?_)
  rw [List.map_filterMap]
  refine List.Nodup.sublist (Rows.filterMap_sublist_map (g := (·.id)) ?_ _) input.facts_nodup
  intro fact value hvalue
  obtain ⟨key, hkey, rfl⟩ := Option.map_eq_some_iff.mp hvalue
  unfold learned at hkey
  split at hkey
  · obtain ⟨character, -, rfl⟩ := Option.map_eq_some_iff.mp hkey
    rfl
  · exact absurd hkey (by simp)

/-- **Two chapters are adjacent once.** -/
theorem transitions_nodup (input : AnalysisInput text) :
    (input.analysis.transitions.map fun item => (item.fromChapter, item.toChapter)).Nodup := by
  refine List.Nodup.of_map Prod.fst ?_
  have hordered : ((input.chapters.insertionSort fun a b =>
      a.chapterNumber ≤ b.chapterNumber).map (·.chapterNumber)).Nodup :=
    ((List.perm_insertionSort _ _).map _).nodup_iff.mpr input.chapters_nodup
  refine List.Nodup.sublist ?_ hordered
  simp only [analysis, BookAnalysisService.analyze, ChapterTransitionAnalyzer.analyze,
    List.map_zipWith]
  exact Rows.zipWith_sublist_map (g := SnapshotChapter.chapterNumber) (fun _ _ => rfl) _ _

/-- The relationships are distinct when those that facts state are, and those of graph relations
that no fact states. -/
theorem relationships_nodup_iff :
    (input.analysis.relationships.map relationshipKey).Nodup ↔
      (input.facts.filterMap input.stated).Nodup ∧ input.projected.Nodup := by
  have hstated := input.relationshipKeys_perm
  have hkeys : input.analysis.relationships.map relationshipKey =
      (CharacterArcAnalyzer.analyze text input.chapters input.facts
        input.characters).relationships.map relationshipKey ++ input.projected := by
    simp only [analysis, BookAnalysisService.analyze, List.map_append, projected, List.filter_map]
    congr 2
    refine List.filter_congr fun item _ => ?_
    rw [Function.comp_apply, hstated.contains_eq]
  rw [hkeys, List.nodup_append', hstated.nodup_iff]
  constructor
  · exact fun h => ⟨h.1, h.2.1⟩
  · refine fun h => ⟨h.1, h.2, fun key hkey hprojected => ?_⟩
    have hnot := (List.mem_filter.mp hprojected).2
    rw [hstated.mem_iff] at hkey
    simp [hkey] at hnot

/-- What is stored has no relationship twice. -/
theorem relationships_nodup_of_stored {analysis stored : BookAnalysis}
    (h : persistAnalysis analysis = .ok stored) :
    (analysis.relationships.map relationshipKey).Nodup := by
  by_contra hdouble
  simp only [persistAnalysis, hdouble, not_false_eq_true, if_true] at h
  split at h
  · exact absurd h (by simp)
  split at h
  · exact absurd h (by simp)
  split at h
  · exact absurd h (by simp)
  · exact absurd h (by simp)

/-- **When an analysis can be stored.** If the digests of the joined texts do not collide, the
rows of a first analysis are stored exactly when no two facts have the same joined text, no two
facts state the same relationship, and no two graph relations stand for the same relationship
that no fact states. -/
theorem storable_iff (hdigest : ∀ fact ∈ input.facts, ∀ other ∈ input.facts,
      text.digest (TimelineAnalyzer.raw fact) = text.digest (TimelineAnalyzer.raw other) →
        TimelineAnalyzer.raw fact = TimelineAnalyzer.raw other) :
    persistAnalysis input.analysis = .ok input.analysis ↔
      (input.facts.map TimelineAnalyzer.raw).Nodup ∧ (input.facts.filterMap input.stated).Nodup ∧
        input.projected.Nodup := by
  rw [← events_nodup_iff hdigest, ← relationships_nodup_iff]
  have hpoints := input.points_nodup
  have hknowledge := input.knowledge_nodup
  have htransitions := input.transitions_nodup
  unfold persistAnalysis
  by_cases hevents : (input.analysis.events.map (·.eventKey)).Nodup
  · by_cases hrelationships : (input.analysis.relationships.map relationshipKey).Nodup
    · simp [hevents, hpoints, hknowledge, hrelationships, htransitions]
    · simp [hevents, hpoints, hknowledge, hrelationships]
  · simp [hevents]

/-! ### Synonyms -/

/-- Lower case without anything but letters and digits, as far as the sample needs it. -/
def sampleNormalized (value : String) : String :=
  String.ofList ((value.toList.filter fun c => c.isAlphanum || 127 < c.toNat).map Char.toLower)

/-- Texts whose digest is themselves. -/
def sampleText : AnalysisText where
  normalized := sampleNormalized
  folded := sampleNormalized
  digest := id
  identity fact := sampleNormalized fact.subject ++ "/" ++ sampleNormalized fact.predicate ++ "/" ++
    sampleNormalized fact.object

/-- A fact that says how Ann is related to Bob. -/
def annAndBob (id : ℕ) (predicate : String) : AcceptedFactData where
  id := id
  chapterId := 0
  chapterVersionId := 0
  chapterNumber := 1
  subject := "Ann"
  predicate := predicate
  object := "Bob"
  confidence := 1
  evidence := "q"
  validFromChapter := 1
  validToChapter := none

/-- A character of the sample. -/
def sampleCharacter (id : ℕ) (name : String) : CharacterProfileData :=
  ⟨id, name, "protagonist", [], "p", "s", []⟩

/-- One chapter in which Ann trusts Bob, in two languages. -/
def synonyms : AnalysisInput sampleText where
  chapters := [⟨0, 1, 0, 1, "t", "s", 1, "c", 8, 8, 0, [], [], []⟩]
  facts := [annAndBob 0 "trusts", annAndBob 1 "信任"]
  characters := [sampleCharacter 0 "Ann", sampleCharacter 1 "Bob"]
  edges := []
  chapters_nodup := by decide
  facts_nodup := by decide
  facts_mapped := by decide
  facts_distinct := by decide
  characters_nodup := by decide

/-- The condition at the sample; its digests do not collide. -/
theorem storable_iff_synonyms :
    persistAnalysis synonyms.analysis = .ok synonyms.analysis ↔
      (synonyms.facts.map TimelineAnalyzer.raw).Nodup ∧
        (synonyms.facts.filterMap synonyms.stated).Nodup ∧ synonyms.projected.Nodup :=
  storable_iff fun _ _ _ _ heq => heq

/-- Two facts with synonymous predicates state one relationship twice. -/
theorem synonyms_collide :
    ¬ ∀ (text : AnalysisText) (input : AnalysisInput text),
      persistAnalysis input.analysis = .ok input.analysis := by
  intro hstored
  have hnodup := relationships_nodup_of_stored (hstored sampleText synonyms)
  exact absurd (relationships_nodup_iff.mp hnodup).1 (by decide)

end AnalysisInput

end StoryForge
