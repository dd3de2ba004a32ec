import StoryForge.Library.Dict
import StoryForge.Library.Ranking
import StoryForge.Memory.Superseded

/-!
# What names resolve to

The extractor gives the subject and the object of a fact a type each, and entities are stored by
type and name. But relations are stored between names: each name is known as the entity that was
stored last under it, those of the project first and then those of the facts in alphabetical order
of their types. A name that facts give several types is resolved to one of them everywhere.

## Main results

* `MemoryIndexService.known_mentionAll` — a name is known as the entity of its last mention;
* `GraphExtractor.exists_last_mention` — which type that is;
* `MemoryIndexService.exists_row_of_stores` — what is stored of a fact is a row of the table;
* `MemoryIndexService.keepsTypes_iff` — relations keep the types of their facts exactly if names
  are not mistaken;
* `MemoryIndexService.character_mistaken` — a character that is resolved to a thing.
-/

namespace StoryForge.Memory

/-! ### What the extractor assigns -/

namespace GraphExtractor

variable (service : MemoryIndexService) (snapshot : IndexSnapshot)

/-- The facts that say something about the graph. -/
def consideredFacts : List IndexedFact :=
  snapshot.facts.filter (considered service snapshot.text.content)

/-- The type of the subject of a fact. -/
def subjectType (fact : IndexedFact) : GraphEntityType :=
  if fact.content.subject ∈ snapshot.characters.map (·.name) then .character else .object

/-- The type of the object of a fact. -/
def objectTypeOf (fact : IndexedFact) : GraphEntityType :=
  objectType service fact.content.object (snapshot.locations.map (·.1.name)) fact.factType

/-- A fact gives a name a type. -/
def Gives (name : String) (type : GraphEntityType) : Prop :=
  ∃ fact ∈ consideredFacts service snapshot,
    fact.content.subject = name ∧ subjectType snapshot fact = type ∨
      fact.content.object = name ∧ objectTypeOf service snapshot fact = type

/-- The last of the types that a name is given, in alphabetical order. -/
def Settles (name : String) (type : GraphEntityType) : Prop :=
  Gives service snapshot name type ∧
    ∀ other, Gives service snapshot name other → other.value ≤ type.value

end GraphExtractor

theorem GraphEntityType.value_injective {a b : GraphEntityType} (h : a.value = b.value) :
    a = b := by
  revert h
  cases a <;> cases b <;> decide

namespace GraphExtractor

variable {service : MemoryIndexService} {snapshot : IndexSnapshot}

/-- The last entity of each key stays. -/
theorem mem_latest {items : List ExtractedGraphEntity} {key : List String} :
    (∃ item ∈ latest items, entityKey item = key) ↔ ∃ item ∈ items, entityKey item = key := by
  induction items with
  | nil => rfl
  | cons first rest ih =>
      unfold latest at ih ⊢
      rw [List.foldr_cons]
      split
      · next hany =>
          rw [ih]
          constructor
          · rintro ⟨item, hitem, hkey⟩
            exact ⟨item, List.mem_cons_of_mem _ hitem, hkey⟩
          · rintro ⟨item, hitem, hkey⟩
            rcases List.mem_cons.mp hitem with rfl | hrest
            · obtain ⟨other, hother, hsame⟩ := List.any_eq_true.mp hany
              exact ih.mp ⟨other, hother, (beq_iff_eq.mp hsame).trans hkey⟩
            · exact ⟨item, hrest, hkey⟩
      · simp only [List.mem_cons, exists_eq_or_imp, ih]

theorem extract_eq_ok {entities : List ExtractedGraphEntity}
    {relations : List ExtractedGraphRelation}
    (h : extract service snapshot = .ok (entities, relations)) :
    entities = (latest ((consideredFacts service snapshot).flatMap (entitiesOf service
        (snapshot.characters.map (·.name))
        (snapshot.locations.map (·.1.name))))).insertionSort
          (fun a b => entityKey a ≤ entityKey b) ∧
      relations.Perm ((consideredFacts service snapshot).map
        (relationOf service snapshot.chapterNumber)) := by
  unfold extract at h
  dsimp only at h
  split at h
  · obtain ⟨rfl, rfl⟩ := Prod.mk.inj (Except.ok.inj h)
    exact ⟨rfl, List.perm_insertionSort _ _⟩
  · exact absurd h (by simp)

/-- The names and types of the entities that are extracted. -/
theorem exists_extracted_iff {entities : List ExtractedGraphEntity}
    {relations : List ExtractedGraphRelation}
    (h : extract service snapshot = .ok (entities, relations)) {name : String}
    {type : GraphEntityType} :
    (∃ item ∈ entities, item.canonicalName = name ∧ item.entityType = type) ↔
      Gives service snapshot name type := by
  obtain ⟨rfl, -⟩ := extract_eq_ok h
  have hkey : ∀ item : ExtractedGraphEntity,
      item.canonicalName = name ∧ item.entityType = type ↔
        entityKey item = [type.value, name] := by
    intro item
    simp only [entityKey, List.cons.injEq, and_true]
    constructor
    · rintro ⟨hname, htype⟩
      exact ⟨congrArg _ htype, hname⟩
    · rintro ⟨htype, hname⟩
      exact ⟨hname, GraphEntityType.value_injective htype⟩
  simp only [hkey, List.mem_insertionSort, mem_latest, List.mem_flatMap]
  constructor
  · rintro ⟨item, ⟨fact, hfact, hitem⟩, heq⟩
    refine ⟨fact, hfact, ?_⟩
    obtain ⟨hname, htype⟩ := (hkey item).mpr heq
    simp only [entitiesOf, List.mem_cons, List.not_mem_nil, or_false] at hitem
    rcases hitem with rfl | rfl
    · exact .inl ⟨hname, htype⟩
    · exact .inr ⟨hname, htype⟩
  · rintro ⟨fact, hfact, ⟨hname, htype⟩ | ⟨hname, htype⟩⟩
    · exact ⟨_, ⟨fact, hfact, List.mem_cons_self⟩, (hkey _).mp ⟨hname, htype⟩⟩
    · exact ⟨_, ⟨fact, hfact, List.mem_cons_of_mem _ List.mem_cons_self⟩,
        (hkey _).mp ⟨hname, htype⟩⟩

end GraphExtractor

/-! ### What names resolve to -/

namespace MemoryIndexService

variable (service : MemoryIndexService)

/-- A row is the entity that a mention is stored in. -/
def isEntityOf (projectId : ℕ) (item : ExtractedGraphEntity) (row : GraphEntity) : Bool :=
  row.projectId == projectId && row.entityType == item.entityType &&
    row.normalizedName == service.normalize item.canonicalName &&
    row.disambiguationKey == service.disambiguationKey item.entityType item.description

variable {service} {projectId : ℕ}

/-- A mention is stored in the first row of its entity, and the first rows of other entities stay
the first. -/
theorem findIdx?_upsert_entity (service : MemoryIndexService) (projectId : ℕ)
    (mention : Mention) (entities : List GraphEntity) :
    (GraphEntityRepository.upsert service projectId mention entities).2.findIdx?
        (service.isEntityOf projectId mention.item) =
        some (GraphEntityRepository.upsert service projectId mention entities).1 ∧
      ∀ item id, entities.findIdx? (service.isEntityOf projectId item) = some id →
        (GraphEntityRepository.upsert service projectId mention entities).2.findIdx?
          (service.isEntityOf projectId item) = some id := by
  have hupdate : ∀ (item : ExtractedGraphEntity) (row : GraphEntity),
      service.isEntityOf projectId item
        (if mention.sourceVersionId.isSome && row.sourceVersionId.isSome then
          { row with
            status := .accepted
            confidence := max row.confidence mention.item.confidence
            sourceChapterId := mention.sourceChapterId
            sourceVersionId := mention.sourceVersionId }
        else
          { row with
            status := .accepted
            confidence := max row.confidence mention.item.confidence }) =
        service.isEntityOf projectId item row := by
    intro item row
    split <;> rfl
  constructor
  · exact Rows.findIdx?_upsert_self (hupdate mention.item) (by simp [isEntityOf])
  · intro item id h
    exact Rows.findIdx?_upsert_of (hupdate item) _ _ h

/-- **A name is known as the entity of its last mention.** -/
theorem known_mentionAll (service : MemoryIndexService) (projectId : ℕ)
    (mentions : List Mention) (entities : List GraphEntity) {name : String}
    {mention : Mention}
    (h : mentions.reverse.find? (fun other => other.item.canonicalName == name) =
      some mention) :
    ∃ id, (service.mentionAll projectId mentions entities).known.lookup name = some id ∧
      (service.mentionAll projectId mentions entities).entities.findIdx?
        (service.isEntityOf projectId mention.item) = some id := by
  induction mentions using List.reverseRecOn with
  | nil => exact absurd h (by simp)
  | append_singleton mentions last ih =>
      unfold mentionAll at ih ⊢
      rw [List.foldl_concat]
      generalize mentions.foldl (service.mention projectId) ⟨entities, []⟩ = session at ih ⊢
      obtain ⟨hself, hothers⟩ := findIdx?_upsert_entity service projectId last session.entities
      rw [List.reverse_append, List.reverse_singleton, List.singleton_append,
        List.find?_cons] at h
      change ∃ id, ((last.item.canonicalName, _) :: session.known).lookup name = some id ∧ _
      rw [Dict.lookup_cons]
      split at h
      · next hname =>
          obtain rfl := Option.some.inj h
          rw [if_pos (beq_iff_eq.mp hname).symm]
          exact ⟨_, rfl, hself⟩
      · next hname =>
          rw [if_neg fun heq => Bool.eq_false_iff.mp hname (beq_iff_eq.mpr heq.symm)]
          obtain ⟨id, hlookup, hindex⟩ := ih h
          exact ⟨id, hlookup, hothers _ _ hindex⟩

/-- Two mentions are stored in one entity if they are of one type and their names are the same when
normalized, as far as neither has a description. -/
theorem eq_iff_of_findIdx? {entities : List GraphEntity} {a b : ExtractedGraphEntity} {s o : ℕ}
    (hs : entities.findIdx? (service.isEntityOf projectId a) = some s)
    (ho : entities.findIdx? (service.isEntityOf projectId b) = some o)
    (ha : a.description = none) (hb : b.description = none) :
    s = o ↔ a.entityType = b.entityType ∧
      service.normalize a.canonicalName = service.normalize b.canonicalName := by
  constructor
  · rintro rfl
    obtain ⟨_, hrow, -⟩ := List.findIdx?_eq_some_iff_getElem.mp hs
    obtain ⟨_, hrow', -⟩ := List.findIdx?_eq_some_iff_getElem.mp ho
    simp only [isEntityOf, Bool.and_eq_true, beq_iff_eq] at hrow hrow'
    exact ⟨hrow.1.1.2.symm.trans hrow'.1.1.2, hrow.1.2.symm.trans hrow'.1.2⟩
  · rintro ⟨htype, hname⟩
    have hsame : service.isEntityOf projectId a = service.isEntityOf projectId b := by
      funext row
      rw [isEntityOf, isEntityOf, htype, hname, ha, hb]
    rw [hsame, ho] at hs
    exact (Option.some.inj hs).symm

end MemoryIndexService

namespace GraphExtractor

variable {service : MemoryIndexService} {snapshot : IndexSnapshot}
  {entities : List ExtractedGraphEntity} {relations : List ExtractedGraphRelation}

theorem mem_of_mem_latest {items : List ExtractedGraphEntity} {item : ExtractedGraphEntity}
    (h : item ∈ latest items) : item ∈ items := by
  induction items with
  | nil => exact h
  | cons first rest ih =>
      unfold latest at ih h
      rw [List.foldr_cons] at h
      split at h
      · exact List.mem_cons_of_mem _ (ih h)
      · rcases List.mem_cons.mp h with rfl | hrest
        · exact List.mem_cons_self
        · exact List.mem_cons_of_mem _ (ih hrest)

/-- Facts do not describe what they mention. -/
theorem description_of_mem (h : extract service snapshot = .ok (entities, relations))
    {item : ExtractedGraphEntity} (hitem : item ∈ entities) : item.description = none := by
  obtain ⟨rfl, -⟩ := extract_eq_ok h
  obtain ⟨fact, -, hfact⟩ :=
    List.mem_flatMap.mp (mem_of_mem_latest ((List.mem_insertionSort _).mp hitem))
  simp only [entitiesOf, List.mem_cons, List.not_mem_nil, or_false] at hfact
  rcases hfact with rfl | rfl <;> rfl

/-- Objects are never characters. -/
theorem objectTypeOf_ne_character (fact : IndexedFact) :
    objectTypeOf service snapshot fact ≠ .character := by
  unfold objectTypeOf objectType
  dsimp only
  split
  · decide
  · split
    · decide
    · split <;> decide

/-- A name settles on one type. -/
theorem Settles.unique {name : String} {a b : GraphEntityType}
    (ha : Settles service snapshot name a) (hb : Settles service snapshot name b) : a = b :=
  GraphEntityType.value_injective (le_antisymm (hb.2 a ha.1) (ha.2 b hb.1))

/-- The last mention of a name that facts use is of the type it settles on. -/
theorem exists_last_mention (h : extract service snapshot = .ok (entities, relations))
    {name : String} {type : GraphEntityType} (hgives : Gives service snapshot name type) :
    ∃ mention, (MemoryIndexService.mentions snapshot entities).reverse.find?
        (fun other => other.item.canonicalName == name) = some mention ∧
      mention.item.canonicalName = name ∧ mention.item.description = none ∧
      Settles service snapshot name mention.item.entityType := by
  obtain ⟨item, hitem, hname, -⟩ := (exists_extracted_iff h).mpr hgives
  have hsome : (entities.reverse.find? fun other => other.canonicalName == name).isSome :=
    List.find?_isSome.mpr ⟨item, List.mem_reverse.mpr hitem, beq_iff_eq.mpr hname⟩
  obtain ⟨last, hlast⟩ := Option.isSome_iff_exists.mp hsome
  have hsorted : entities.Pairwise fun a b => entityKey a ≤ entityKey b := by
    rw [(extract_eq_ok h).1]
    exact List.pairwise_insertionSort _ _
  obtain ⟨⟨hmem, hsame⟩, hafter⟩ := Ranking.last_of_find?_reverse hsorted hlast
  rw [beq_iff_eq] at hsame
  refine ⟨⟨some snapshot.chapterId, some snapshot.versionId, last⟩, ?_, hsame,
    description_of_mem h hmem, (exists_extracted_iff h).mp ⟨last, hmem, hsame, rfl⟩, ?_⟩
  · rw [MemoryIndexService.mentions, List.reverse_append, List.find?_append, ← List.map_reverse,
      List.find?_map]
    change ((entities.reverse.find? fun other => other.canonicalName == name).map _).or _ = _
    rw [hlast]
    rfl
  · intro other hother
    obtain ⟨item', hitem', hname', rfl⟩ := (exists_extracted_iff h).mpr hother
    rcases hafter item' hitem' (beq_iff_eq.mpr hname') with rfl | hle
    · exact le_rfl
    · simp only [entityKey, hname', hsame] at hle
      rcases lt_or_ge last.entityType.value item'.entityType.value with hlt | hge
      · exact absurd (List.Lex.rel hlt) (not_lt.mpr hle)
      · exact hge

end GraphExtractor

/-! ### What relations connect -/

namespace MemoryIndexService

variable (service : MemoryIndexService) (snapshot : IndexSnapshot)

/-- The entities that a relation is stored between. -/
def linkOf (known : List (String × ℕ)) (item : ExtractedGraphRelation) : Option (ℕ × ℕ) :=
  match known.lookup item.subject, known.lookup item.object with
  | some subjectId, some objectId =>
      if subjectId = objectId then none else some (subjectId, objectId)
  | _, _ => none

theorem relate_eq (known : List (String × ℕ)) (relations : List GraphRelation)
    (item : ExtractedGraphRelation) :
    service.relate snapshot known relations item =
      match linkOf known item with
      | none => relations
      | some link =>
          GraphRelationRepository.upsert service snapshot.projectId snapshot.chapterId
            snapshot.versionId link.1 link.2 item relations := by
  unfold relate linkOf
  cases known.lookup item.subject with
  | none => rfl
  | some subjectId =>
      cases known.lookup item.object with
      | none => rfl
      | some objectId =>
          dsimp only
          split <;> rfl

/-- The last transaction stores the relation of a fact between two entities. -/
def Stores (db : MemoryDatabase) (fact : IndexedFact) (link : ℕ × ℕ) : Prop :=
  ∃ entities relations, GraphExtractor.extract service snapshot = .ok (entities, relations) ∧
    linkOf (service.mentionAll snapshot.projectId (mentions snapshot entities)
      (db.hide (oldVersionIds snapshot db)).entities).known
        (GraphExtractor.relationOf service snapshot.chapterNumber fact) = some link

/-- A row of the version that connects two entities by the predicate of a relation. -/
structure IsRowOf (item : ExtractedGraphRelation) (link : ℕ × ℕ) (row : GraphRelation) :
    Prop where
  subject : row.subjectEntityId = link.1
  predicate : row.predicate = item.predicate
  object : row.objectEntityId = link.2
  version : row.sourceVersionId = some snapshot.versionId
  evidence : row.evidenceHash = service.sha256 item.evidence
  status : row.status = .accepted

variable {service snapshot}

/-- A relation that is stored has a row, which later relations keep. -/
theorem exists_row_of_mem {known : List (String × ℕ)} {items : List ExtractedGraphRelation}
    {relations : List GraphRelation} {item : ExtractedGraphRelation} {link : ℕ × ℕ}
    (hitem : item ∈ items) (hlink : linkOf known item = some link) :
    ∃ row ∈ service.relateAll snapshot known items relations,
      IsRowOf service snapshot item link row := by
  have hkeep : ∀ (other : ExtractedGraphRelation) (rows : List GraphRelation),
      (∃ row ∈ rows, IsRowOf service snapshot item link row) →
        ∃ row ∈ service.relate snapshot known rows other,
          IsRowOf service snapshot item link row := by
    rintro other rows ⟨row, hrow, hof⟩
    rw [relate_eq]
    split
    · exact ⟨row, hrow, hof⟩
    · obtain ⟨id, hid⟩ := List.mem_iff_getElem?.mp hrow
      rcases Rows.getElem?_upsert_of hid with hsame | hupdated
      · exact ⟨row, List.mem_of_getElem? hsame, hof⟩
      · exact ⟨_, List.mem_of_getElem? hupdated,
          ⟨hof.subject, hof.predicate, hof.object, hof.version, hof.evidence, rfl⟩⟩
  unfold relateAll
  induction items using List.reverseRecOn with
  | nil => exact absurd hitem List.not_mem_nil
  | append_singleton items last ih =>
      rw [List.foldl_concat]
      rcases List.mem_append.mp hitem with hmem | hmem
      · exact hkeep last _ (ih hmem)
      · rw [List.mem_singleton] at hmem
        subst hmem
        rw [relate_eq, hlink]
        obtain ⟨row, hrow, hwritten⟩ := Rows.getElem?_upsert_self _ _ _
          (items.foldl (service.relate snapshot known) relations)
        refine ⟨row, List.mem_of_getElem? hrow, ?_⟩
        rcases hwritten with ⟨old, -, hkey, rfl⟩ | rfl
        · simp only [Bool.and_eq_true, beq_iff_eq] at hkey
          obtain ⟨⟨⟨⟨⟨-, hsubject⟩, hpredicate⟩, hobject⟩, hversion⟩, hevidence⟩ := hkey
          exact ⟨hsubject, hpredicate, hobject, hversion, hevidence, rfl⟩
        · exact ⟨rfl, rfl, rfl, rfl, rfl, rfl⟩

/-- **What is stored of a fact** is a row of the table. -/
theorem exists_row_of_stores {drafts : List SourceDraft} {db db' : MemoryDatabase}
    (h : service.persistIndex snapshot drafts db = .ok db') {fact : IndexedFact}
    (hfact : fact ∈ GraphExtractor.consideredFacts service snapshot) {link : ℕ × ℕ}
    (hstores : Stores service snapshot db fact link) :
    ∃ row ∈ db'.relations, IsRowOf service snapshot
      (GraphExtractor.relationOf service snapshot.chapterNumber fact) link row := by
  obtain ⟨entities, relations, hextract, rfl⟩ := persistIndex_eq_ok h
  obtain ⟨_, _, hextract', hlink⟩ := hstores
  rw [hextract] at hextract'
  obtain ⟨rfl, rfl⟩ := Prod.mk.inj (Except.ok.inj hextract')
  exact exists_row_of_mem ((GraphExtractor.extract_eq_ok hextract).2.mem_iff.mpr
    (List.mem_map_of_mem hfact)) hlink

variable (service snapshot)

/-- A row is an entity of a type and a name. -/
def EndsAs (db : MemoryDatabase) (id : ℕ) (type : GraphEntityType) (name : String) : Prop :=
  ∃ row ∈ db.entities[id]?, row.projectId = snapshot.projectId ∧ row.entityType = type ∧
    row.normalizedName = service.normalize name

/-- A row is the entity of a character of the project. -/
def IsCharacter (db : MemoryDatabase) (id : ℕ) (character : IndexedCharacter) : Prop :=
  ∃ row ∈ db.entities[id]?, service.isEntityOf snapshot.projectId
    (projectEntity .character character.name character.description).item row = true

/-- **Relations keep the types of their facts**: they connect entities of the types that the
extractor gives the subject and the object, and characters of the project are their own
entities. -/
structure KeepsTypes (db db' : MemoryDatabase) : Prop where
  types : ∀ fact ∈ GraphExtractor.consideredFacts service snapshot, ∀ link,
    Stores service snapshot db fact link →
      EndsAs service snapshot db' link.1 (GraphExtractor.subjectType snapshot fact)
          fact.content.subject ∧
        EndsAs service snapshot db' link.2 (GraphExtractor.objectTypeOf service snapshot fact)
          fact.content.object
  characters : ∀ fact ∈ GraphExtractor.consideredFacts service snapshot, ∀ link,
    Stores service snapshot db fact link → ∀ character ∈ snapshot.characters,
      (character.name = fact.content.subject →
          IsCharacter service snapshot db' link.1 character) ∧
        (character.name = fact.content.object →
          IsCharacter service snapshot db' link.2 character)

end MemoryIndexService

namespace GraphExtractor

variable (service : MemoryIndexService) (snapshot : IndexSnapshot)

/-- The subject and the object of a fact do not settle on one entity. -/
def Connects (fact : IndexedFact) : Prop :=
  ∀ a b, Settles service snapshot fact.content.subject a →
    Settles service snapshot fact.content.object b →
      ¬(a = b ∧ service.normalize fact.content.subject = service.normalize fact.content.object)

/-- Facts that connect entities give their names the types that they settle on, their objects are
no characters, and the characters among their subjects are not told apart by a description. -/
structure Unmistaken : Prop where
  subject : ∀ fact ∈ consideredFacts service snapshot, Connects service snapshot fact →
    Settles service snapshot fact.content.subject (subjectType snapshot fact)
  object : ∀ fact ∈ consideredFacts service snapshot, Connects service snapshot fact →
    Settles service snapshot fact.content.object (objectTypeOf service snapshot fact)
  noCharacter : ∀ fact ∈ consideredFacts service snapshot, Connects service snapshot fact →
    ∀ character ∈ snapshot.characters, character.name ≠ fact.content.object
  described : ∀ fact ∈ consideredFacts service snapshot, Connects service snapshot fact →
    ∀ character ∈ snapshot.characters, character.name = fact.content.subject →
      service.disambiguationKey .character (some character.description) =
        service.disambiguationKey .character none

end GraphExtractor

namespace MemoryIndexService

variable {service : MemoryIndexService} {snapshot : IndexSnapshot} {drafts : List SourceDraft}
  {db db' : MemoryDatabase} {fact : IndexedFact}

/-- Where the names of a fact end: in entities of the types they settle on. -/
theorem ends_of_persistIndex (h : service.persistIndex snapshot drafts db = .ok db')
    (hfact : fact ∈ GraphExtractor.consideredFacts service snapshot) :
    ∃ (a b : ExtractedGraphEntity) (s o : ℕ),
      (a.canonicalName = fact.content.subject ∧ a.description = none ∧
        GraphExtractor.Settles service snapshot fact.content.subject a.entityType) ∧
      (b.canonicalName = fact.content.object ∧ b.description = none ∧
        GraphExtractor.Settles service snapshot fact.content.object b.entityType) ∧
      db'.entities.findIdx? (service.isEntityOf snapshot.projectId a) = some s ∧
      db'.entities.findIdx? (service.isEntityOf snapshot.projectId b) = some o ∧
      ∀ link, Stores service snapshot db fact link ↔ s ≠ o ∧ link = (s, o) := by
  obtain ⟨entities, relations, hextract, rfl⟩ := persistIndex_eq_ok h
  obtain ⟨subject, hsubject, hname, hnone, hsettles⟩ :=
    GraphExtractor.exists_last_mention hextract ⟨fact, hfact, .inl ⟨rfl, rfl⟩⟩
  obtain ⟨object, hobject, hname', hnone', hsettles'⟩ :=
    GraphExtractor.exists_last_mention hextract ⟨fact, hfact, .inr ⟨rfl, rfl⟩⟩
  obtain ⟨s, hs, hindex⟩ := known_mentionAll service snapshot.projectId
    (mentions snapshot entities) (db.hide (oldVersionIds snapshot db)).entities hsubject
  obtain ⟨o, ho, hindex'⟩ := known_mentionAll service snapshot.projectId
    (mentions snapshot entities) (db.hide (oldVersionIds snapshot db)).entities hobject
  refine ⟨subject.item, object.item, s, o, ⟨hname, hnone, hsettles⟩, ⟨hname', hnone', hsettles'⟩,
    hindex, hindex', fun link => ?_⟩
  have hlink : linkOf (service.mentionAll snapshot.projectId (mentions snapshot entities)
      (db.hide (oldVersionIds snapshot db)).entities).known
        (GraphExtractor.relationOf service snapshot.chapterNumber fact) =
      if s = o then none else some (s, o) := by
    unfold linkOf GraphExtractor.relationOf
    rw [hs, ho]
  constructor
  · rintro ⟨_, _, hextract', hstored⟩
    rw [hextract] at hextract'
    obtain ⟨rfl, rfl⟩ := Prod.mk.inj (Except.ok.inj hextract')
    rw [hlink] at hstored
    split at hstored
    · exact absurd hstored (by simp)
    · next hne => exact ⟨hne, (Option.some.inj hstored).symm⟩
  · rintro ⟨hne, rfl⟩
    exact ⟨entities, relations, hextract, by rw [hlink, if_neg hne]⟩

/-- The entity that a name ends in is of the type of its mention. -/
theorem endsAs_iff {item : ExtractedGraphEntity} {id : ℕ}
    (h : db'.entities.findIdx? (service.isEntityOf snapshot.projectId item) = some id)
    (type : GraphEntityType) :
    EndsAs service snapshot db' id type item.canonicalName ↔ item.entityType = type := by
  obtain ⟨hlt, hrow, -⟩ := List.findIdx?_eq_some_iff_getElem.mp h
  have hget : db'.entities[id]? = some db'.entities[id] := List.getElem?_eq_getElem hlt
  simp only [isEntityOf, Bool.and_eq_true, beq_iff_eq] at hrow
  obtain ⟨⟨⟨hproject, htype⟩, hname⟩, -⟩ := hrow
  constructor
  · rintro ⟨row, hmem, -, htype', -⟩
    rw [hget] at hmem
    obtain rfl := Option.some.inj hmem
    exact htype.symm.trans htype'
  · rintro rfl
    exact ⟨_, hget, hproject, htype, hname⟩

/-- It is the entity of a character if it is of that type, and a description tells nothing more. -/
theorem isCharacter_iff {item : ExtractedGraphEntity} {id : ℕ}
    (h : db'.entities.findIdx? (service.isEntityOf snapshot.projectId item) = some id)
    (hnone : item.description = none) {character : IndexedCharacter}
    (hname : character.name = item.canonicalName) :
    IsCharacter service snapshot db' id character ↔ item.entityType = .character ∧
      service.disambiguationKey .character (some character.description) =
        service.disambiguationKey item.entityType none := by
  obtain ⟨hlt, hrow, -⟩ := List.findIdx?_eq_some_iff_getElem.mp h
  have hget : db'.entities[id]? = some db'.entities[id] := List.getElem?_eq_getElem hlt
  simp only [isEntityOf, Bool.and_eq_true, beq_iff_eq] at hrow
  obtain ⟨⟨⟨hproject, htype⟩, hnormalized⟩, hkey⟩ := hrow
  have hiff : IsCharacter service snapshot db' id character ↔
      service.isEntityOf snapshot.projectId
        (projectEntity .character character.name character.description).item
          db'.entities[id] = true := by
    rw [IsCharacter, hget]
    simp
  rw [hiff]
  simp only [isEntityOf, projectEntity, Bool.and_eq_true, beq_iff_eq, hproject, htype,
    hnormalized, hkey, hname, hnone, true_and, and_true]
  exact and_congr_right fun _ => eq_comm

/-- A fact that connects entities is stored, and so its names settle as the types say. -/
theorem unmistaken_of_keepsTypes (h : service.persistIndex snapshot drafts db = .ok db')
    (hkeeps : KeepsTypes service snapshot db db')
    (hfact : fact ∈ GraphExtractor.consideredFacts service snapshot)
    (hconnects : GraphExtractor.Connects service snapshot fact) :
    GraphExtractor.Settles service snapshot fact.content.subject
        (GraphExtractor.subjectType snapshot fact) ∧
      GraphExtractor.Settles service snapshot fact.content.object
        (GraphExtractor.objectTypeOf service snapshot fact) ∧
      ∀ character ∈ snapshot.characters, character.name ≠ fact.content.object ∧
        (character.name = fact.content.subject →
          service.disambiguationKey .character (some character.description) =
            service.disambiguationKey .character none) := by
  obtain ⟨a, b, s, o, ⟨ha, hanone, hasettles⟩, ⟨hb, hbnone, hbsettles⟩, hs, ho, hstores⟩ :=
    ends_of_persistIndex h hfact
  have hne : s ≠ o := by
    intro heq
    obtain ⟨htype, hname⟩ := (eq_iff_of_findIdx? hs ho hanone hbnone).mp heq
    rw [ha, hb] at hname
    exact hconnects _ _ hasettles hbsettles ⟨htype, hname⟩
  have hstored := (hstores (s, o)).mpr ⟨hne, rfl⟩
  obtain ⟨hsubject, hobject⟩ := hkeeps.types fact hfact _ hstored
  rw [← ha, endsAs_iff hs] at hsubject
  rw [← hb, endsAs_iff ho] at hobject
  refine ⟨hsubject ▸ hasettles, hobject ▸ hbsettles, fun character hcharacter => ?_⟩
  obtain ⟨hcharacters, hcharacters'⟩ :=
    hkeeps.characters fact hfact _ hstored character hcharacter
  refine ⟨fun hname => ?_, fun hname => ?_⟩
  · have hcharacter' := ((isCharacter_iff ho hbnone (hname.trans hb.symm)).mp
      (hcharacters' hname)).1
    rw [hobject] at hcharacter'
    exact GraphExtractor.objectTypeOf_ne_character fact hcharacter'
  · obtain ⟨htype, hkey⟩ := (isCharacter_iff hs hanone (hname.trans ha.symm)).mp
      (hcharacters hname)
    rwa [htype] at hkey

/-- A relation that is stored ends where the types say, as long as no name is mistaken. -/
theorem endsAs_of_unmistaken (h : service.persistIndex snapshot drafts db = .ok db')
    (hmistaken : GraphExtractor.Unmistaken service snapshot)
    (hfact : fact ∈ GraphExtractor.consideredFacts service snapshot) {link : ℕ × ℕ}
    (hstored : Stores service snapshot db fact link) :
    (EndsAs service snapshot db' link.1 (GraphExtractor.subjectType snapshot fact)
        fact.content.subject ∧
      EndsAs service snapshot db' link.2 (GraphExtractor.objectTypeOf service snapshot fact)
        fact.content.object) ∧
    ∀ character ∈ snapshot.characters,
      (character.name = fact.content.subject →
          IsCharacter service snapshot db' link.1 character) ∧
        (character.name = fact.content.object →
          IsCharacter service snapshot db' link.2 character) := by
  obtain ⟨a, b, s, o, ⟨ha, hanone, hasettles⟩, ⟨hb, hbnone, hbsettles⟩, hs, ho, hstores⟩ :=
    ends_of_persistIndex h hfact
  obtain ⟨hne, rfl⟩ := (hstores link).mp hstored
  have hconnects : GraphExtractor.Connects service snapshot fact := by
    rintro x y hx hy ⟨htype, hname⟩
    refine hne ((eq_iff_of_findIdx? hs ho hanone hbnone).mpr ⟨?_, ?_⟩)
    · rw [hasettles.unique hx, hbsettles.unique hy, htype]
    · rw [ha, hb, hname]
  have hsubject := hasettles.unique (hmistaken.subject fact hfact hconnects)
  have hobject := hbsettles.unique (hmistaken.object fact hfact hconnects)
  refine ⟨⟨?_, ?_⟩, fun character hcharacter => ⟨fun hname => ?_, fun hname => ?_⟩⟩
  · rw [← ha, endsAs_iff hs]
    exact hsubject
  · rw [← hb, endsAs_iff ho]
    exact hobject
  · have htype : a.entityType = .character := by
      rw [hsubject, GraphExtractor.subjectType, if_pos]
      exact List.mem_map.mpr ⟨character, hcharacter, hname⟩
    refine (isCharacter_iff hs hanone (hname.trans ha.symm)).mpr ⟨htype, ?_⟩
    rw [htype]
    exact hmistaken.described fact hfact hconnects character hcharacter hname
  · exact absurd hname (hmistaken.noCharacter fact hfact hconnects character hcharacter)

/-- **Relations keep the types of their facts** exactly if names are not mistaken. -/
theorem keepsTypes_iff (h : service.persistIndex snapshot drafts db = .ok db') :
    KeepsTypes service snapshot db db' ↔ GraphExtractor.Unmistaken service snapshot := by
  constructor
  · intro hkeeps
    constructor
    · intro fact hfact hconnects
      exact (unmistaken_of_keepsTypes h hkeeps hfact hconnects).1
    · intro fact hfact hconnects
      exact (unmistaken_of_keepsTypes h hkeeps hfact hconnects).2.1
    · intro fact hfact hconnects character hcharacter
      exact ((unmistaken_of_keepsTypes h hkeeps hfact hconnects).2.2 character hcharacter).1
    · intro fact hfact hconnects character hcharacter
      exact ((unmistaken_of_keepsTypes h hkeeps hfact hconnects).2.2 character hcharacter).2
  · intro hmistaken
    constructor
    · intro fact hfact link hstored
      exact (endsAs_of_unmistaken h hmistaken hfact hstored).1
    · intro fact hfact link hstored
      exact (endsAs_of_unmistaken h hmistaken hfact hstored).2

end MemoryIndexService

/-! ### Instances -/

/-- Ann and Bob, a harbor, and one fact that chapter 1 tells of Bob. -/
def toldOfBob (predicate object : String) : IndexSnapshot where
  projectId := 0
  chapterId := 0
  chapterNumber := 1
  outlineNames := []
  versionId := 0
  text := ⟨"One", "Bob tells", "Summary"⟩
  facts := [⟨⟨"state", 9 / 10, "Bob tells", 1, none⟩, 0, ⟨"Bob", predicate, object⟩⟩]
  characters := [⟨0, "Ann", "A sailor", "at sea"⟩, ⟨1, "Bob", "A smith", "at home"⟩]
  locations := [(⟨0, "Harbor", "By the sea"⟩, 0)]
  rules := []
  foreshadowing := []

/-- The database while a version is being indexed. -/
def beingIndexed : MemoryDatabase :=
  { MemorySystem.twoVersions.db with indexRecords := fun _ => some .indexing }

/-- A fact about Bob. -/
def factOfBob (predicate object : String) : IndexedFact :=
  ⟨⟨"state", 9 / 10, "Bob tells", 1, none⟩, 0, ⟨"Bob", predicate, object⟩⟩

namespace MemoryIndexService

/-- Ann is a character, but as the object of a fact she is resolved to a thing. -/
theorem character_mistaken :
    ∃ db', MemorySystem.wholeTexts.persistIndex (toldOfBob "knows" "Ann") [] beingIndexed =
        .ok db' ∧
      ¬KeepsTypes MemorySystem.wholeTexts (toldOfBob "knows" "Ann") beingIndexed db' := by
  have hok : (MemorySystem.wholeTexts.persistIndex (toldOfBob "knows" "Ann") []
      beingIndexed).toOption.map (fun _ => ()) = some () := by decide +kernel
  obtain ⟨db', hpersist, -⟩ := Except.exists_of_toOption hok
  refine ⟨db', hpersist, fun hkeeps => ?_⟩
  have hfact : factOfBob "knows" "Ann" ∈
      GraphExtractor.consideredFacts MemorySystem.wholeTexts (toldOfBob "knows" "Ann") := by
    decide +kernel
  obtain ⟨a, b, s, o, ⟨ha, hanone, -⟩, ⟨hb, hbnone, hsettles⟩, hs, ho, hstores⟩ :=
    ends_of_persistIndex hpersist hfact
  have hne : s ≠ o := by
    intro heq
    obtain ⟨-, hname⟩ := (eq_iff_of_findIdx? hs ho hanone hbnone).mp heq
    rw [ha, hb] at hname
    exact absurd hname (by decide)
  have hcharacter := ((isCharacter_iff ho hbnone hb.symm).mp
    ((hkeeps.characters _ hfact _ ((hstores _).mpr ⟨hne, rfl⟩) ⟨0, "Ann", "A sailor", "at sea"⟩
      List.mem_cons_self).2 rfl)).1
  have hobject := hsettles.2 .object ⟨_, hfact, .inr ⟨rfl, by decide +kernel⟩⟩
  rw [hcharacter] at hobject
  exact absurd hobject (by decide)

/-- A character at a location. -/
theorem keepsTypes_harbor :
    ∃ db', MemorySystem.wholeTexts.persistIndex (toldOfBob "located_at" "Harbor") []
        beingIndexed = .ok db' ∧
      KeepsTypes MemorySystem.wholeTexts (toldOfBob "located_at" "Harbor") beingIndexed db' := by
  have hok : (MemorySystem.wholeTexts.persistIndex (toldOfBob "located_at" "Harbor") []
      beingIndexed).toOption.map (fun _ => ()) = some () := by decide +kernel
  obtain ⟨db', hpersist, -⟩ := Except.exists_of_toOption hok
  have hfacts : GraphExtractor.consideredFacts MemorySystem.wholeTexts
      (toldOfBob "located_at" "Harbor") = [factOfBob "located_at" "Harbor"] := by decide +kernel
  have hsubject : GraphExtractor.subjectType (toldOfBob "located_at" "Harbor")
      (factOfBob "located_at" "Harbor") = .character := by decide +kernel
  have hobject : GraphExtractor.objectTypeOf MemorySystem.wholeTexts
      (toldOfBob "located_at" "Harbor") (factOfBob "located_at" "Harbor") = .location := by
    decide +kernel
  have hgives : ∀ name type, GraphExtractor.Gives MemorySystem.wholeTexts
      (toldOfBob "located_at" "Harbor") name type →
        name = "Bob" ∧ type = .character ∨ name = "Harbor" ∧ type = .location := by
    rintro name type ⟨fact, hfact, hcase⟩
    rw [hfacts, List.mem_singleton] at hfact
    subst hfact
    rw [hsubject, hobject] at hcase
    rcases hcase with ⟨rfl, rfl⟩ | ⟨rfl, rfl⟩
    · exact .inl ⟨rfl, rfl⟩
    · exact .inr ⟨rfl, rfl⟩
  have hmem : factOfBob "located_at" "Harbor" ∈ GraphExtractor.consideredFacts
      MemorySystem.wholeTexts (toldOfBob "located_at" "Harbor") := by
    rw [hfacts]
    exact List.mem_singleton_self _
  refine ⟨db', hpersist, (keepsTypes_iff hpersist).mpr ⟨?_, ?_, ?_, ?_⟩⟩
  · intro fact hfact _
    rw [hfacts, List.mem_singleton] at hfact
    subst hfact
    refine ⟨⟨_, hmem, .inl ⟨rfl, rfl⟩⟩, fun other hother => ?_⟩
    rcases hgives _ other hother with ⟨-, rfl⟩ | ⟨hname, -⟩
    · rw [hsubject]
    · exact absurd hname (by decide)
  · intro fact hfact _
    rw [hfacts, List.mem_singleton] at hfact
    subst hfact
    refine ⟨⟨_, hmem, .inr ⟨rfl, rfl⟩⟩, fun other hother => ?_⟩
    rcases hgives _ other hother with ⟨hname, -⟩ | ⟨-, rfl⟩
    · exact absurd hname (by decide)
    · rw [hobject]
  · intro fact hfact _ character hcharacter
    rw [hfacts, List.mem_singleton] at hfact
    subst hfact
    revert character
    decide
  · intro fact hfact _ character hcharacter _
    rfl

end MemoryIndexService

end StoryForge.Memory
