import StoryForge.Memory.Superseded

/-!
# Endpoints of accepted relations

An entity of the graph is shared by the chapters that mention it, but it names one version: the
one that mentioned it last. Hiding that version hides the entity, also when an accepted relation
of another chapter still ends in it. This module shows that accepted relations end in accepted
entities as long as the entities that are hidden with a version are used by its relations only.

## Main results

* `MemoryDatabase.Closed.hide_iff`, `MemoryDatabase.Closed.persistIndex` — what hiding and writing
  keep;
* `MemorySystem.endpoints_shown` — accepted relations end in accepted entities;
* `MemorySystem.endpoint_hidden` — they do not when the chapter that mentioned an entity last is
  revised.
-/

namespace StoryForge.Memory

/-- An accepted relation ends in accepted entities. -/
def MemoryDatabase.Closed (db : MemoryDatabase) : Prop :=
  ∀ row ∈ db.relations, row.status = .accepted →
    MemoryIndexService.Shown db.entities row.subjectEntityId ∧
      MemoryIndexService.Shown db.entities row.objectEntityId

/-- The accepted relations of other versions. -/
def MemoryDatabase.relationsOfOthers (db : MemoryDatabase) (versions : List ℕ) :
    List GraphRelation :=
  db.relations.filter fun row =>
    row.status == .accepted && !row.sourceVersionId.any fun id => versions.contains id

/-- Some versions are the source of no entity in which an accepted relation of another version
ends. -/
def MemoryDatabase.OwnEntities (db : MemoryDatabase) (versions : List ℕ) : Prop :=
  ∀ row ∈ db.relationsOfOthers versions,
    ∀ id ∈ [row.subjectEntityId, row.objectEntityId], ∀ entity ∈ db.entities[id]?,
      ∀ source ∈ entity.sourceVersionId, source ∉ versions

instance (db : MemoryDatabase) (versions : List ℕ) : Decidable (db.OwnEntities versions) := by
  unfold MemoryDatabase.OwnEntities; infer_instance

namespace MemoryDatabase.Closed

variable {db db' : MemoryDatabase}

/-- The relations of other versions are those that stay accepted when versions are hidden. -/
theorem mem_relationsOfOthers {versions : List ℕ} {row : GraphRelation} :
    row ∈ db.relationsOfOthers versions ↔
      row ∈ db.relations ∧ hidden versions row.sourceVersionId row.status = .accepted := by
  simp only [MemoryDatabase.relationsOfOthers, List.mem_filter, Bool.and_eq_true, beq_iff_eq,
    hidden_eq_accepted]
  cases row.sourceVersionId with
  | none => simp
  | some id => simp

/-- An entity stays accepted when the versions that are hidden are not its source. -/
theorem shown_hide {versions : List ℕ} {id : ℕ} (h : MemoryIndexService.Shown db.entities id)
    (hother : ∀ entity ∈ db.entities[id]?, ∀ source ∈ entity.sourceVersionId,
      source ∉ versions) : MemoryIndexService.Shown (db.hide versions).entities id := by
  obtain ⟨entity, hentity, hstatus⟩ := h
  refine ⟨{ entity with status := hidden versions entity.sourceVersionId entity.status }, ?_, ?_⟩
  · simp only [MemoryDatabase.hide, List.getElem?_map, hentity, Option.map_some]
  · exact hidden_eq_accepted.mpr ⟨hstatus, hother entity hentity⟩

/-- An entity that is accepted after versions were hidden does not come from them. -/
theorem source_of_shown {versions : List ℕ} {id : ℕ}
    (h : MemoryIndexService.Shown (db.hide versions).entities id) :
    ∀ entity ∈ db.entities[id]?, ∀ source ∈ entity.sourceVersionId, source ∉ versions := by
  obtain ⟨row, hrow, hstatus⟩ := h
  intro entity hentity
  have hget : db.entities[id]? = some entity := hentity
  simp only [MemoryDatabase.hide, List.getElem?_map, hget, Option.map_some] at hrow
  obtain rfl := Option.some.inj hrow
  exact (hidden_eq_accepted.mp hstatus).2

/-- **Hiding versions** keeps the endpoints exactly when only their own relations end in their
entities. -/
theorem hide_iff {versions : List ℕ} (h : db.Closed) :
    (db.hide versions).Closed ↔ db.OwnEntities versions := by
  constructor
  · intro hclosed row hrow id hid
    obtain ⟨hmem, hstays⟩ := mem_relationsOfOthers.mp hrow
    obtain ⟨hsubject, hobject⟩ := hclosed _ (List.mem_map_of_mem hmem) hstays
    simp only [List.mem_cons, List.not_mem_nil, or_false] at hid
    rcases hid with rfl | rfl
    · exact source_of_shown hsubject
    · exact source_of_shown hobject
  · intro hown row hrow hstatus
    obtain ⟨old, hold, rfl⟩ := List.mem_map.mp hrow
    obtain ⟨hsubject, hobject⟩ := h old hold (hidden_eq_accepted.mp hstatus).1
    have hends := hown old (mem_relationsOfOthers.mpr ⟨hold, hstatus⟩)
    exact ⟨shown_hide hsubject (hends _ (by simp)), shown_hide hobject (hends _ (by simp))⟩

/-- **The last transaction of a run**: the relations it writes end in entities that it has just
accepted, and the others keep their endpoints. -/
theorem persistIndex {service : MemoryIndexService} {snapshot : IndexSnapshot}
    {drafts : List SourceDraft} (h : db.Closed)
    (hown : db.OwnEntities (MemoryIndexService.oldVersionIds snapshot db))
    (hpersist : service.persistIndex snapshot drafts db = .ok db') : db'.Closed := by
  obtain ⟨entities, relations, -, rfl⟩ := MemoryIndexService.persistIndex_eq_ok hpersist
  have hclear := h.hide_iff.mpr hown
  obtain ⟨hkept, hknown⟩ := @MemoryIndexService.shown_mentionAll service snapshot.projectId
    (MemoryIndexService.mentions snapshot entities)
    (db.hide (MemoryIndexService.oldVersionIds snapshot db)).entities
  refine MemoryIndexService.relateAll_forall (fun row hrow hstatus => ?_) ?_
  · obtain ⟨hsubject, hobject⟩ := hclear row hrow hstatus
    exact ⟨hkept _ hsubject, hkept _ hobject⟩
  · rintro row - - ⟨subject, hsubject⟩ ⟨object, hobject⟩ -
    exact ⟨hknown subject _ hsubject, hknown object _ hobject⟩

/-- An acceptance. -/
theorem acceptVersion {workflowRunId versionId : ℕ} (h : db.Closed)
    (hown : ∀ entry ∈ CanonDatabase.accepting workflowRunId versionId db.toStoryDatabase,
      db.OwnEntities (entry.2.2.acceptedVersionId.filter (· != versionId)).toList)
    (haccept : db.acceptVersion workflowRunId versionId = .ok (some db')) : db'.Closed := by
  obtain ⟨story, projectId, version, chapter, -, haccepting, rfl⟩ :=
    MemoryDatabase.acceptVersion_eq_ok haccept
  have hclosed := h.hide_iff.mpr (hown _ haccepting)
  unfold MemoryDatabase.ensurePending
  split <;> exact hclosed

end MemoryDatabase.Closed

/-! ### Runs -/

namespace MemorySystem

variable {service : MemoryIndexService} {s s' : MemorySystem} {a : IndexAction}

/-- Whenever versions are hidden, the entities hidden with them are used by their relations
only. -/
def HidesOwn (s : MemorySystem) : IndexAction → Prop
  | .acceptVersion workflowRunId versionId =>
      ∀ entry ∈ CanonDatabase.accepting workflowRunId versionId s.db.toStoryDatabase,
        s.db.OwnEntities (entry.2.2.acceptedVersionId.filter (· != versionId)).toList
  | .supersedeVersion versionId => s.db.OwnEntities [versionId]
  | .proceed id => ∀ call ∈ s.calls[id]?, ∀ snapshot ∈ call.phase.stored,
      s.db.OwnEntities (MemoryIndexService.oldVersionIds snapshot s.db)
  | _ => True

instance (s : MemorySystem) : (a : IndexAction) → Decidable (s.HidesOwn a)
  | .acceptVersion _ _ | .supersedeVersion _ | .proceed _ => by unfold HidesOwn; infer_instance
  | .index _ _ | .embeddingFailed _ | .interrupted _ | .crashed _ | .otherWork _ =>
      .isTrue trivial

/-- The transaction of a run. -/
theorem closed_moves {call : IndexCall} {phase : Phase} {db : MemoryDatabase}
    (h : s.db.Closed) (hmoves : Phase.Moves service s.db call phase db)
    (hown : ∀ snapshot ∈ call.phase.stored,
      db = s.db ∨ s.db.OwnEntities (MemoryIndexService.oldVersionIds snapshot s.db)) :
    db.Closed := by
  cases hmoves with
  | loaded _ | kept _ _ _ _ | embedded _ _ | ended _ _ _ => exact h
  | @persisted snapshot drafts _ hphase hpersist =>
      rcases hown snapshot (by rw [hphase]; rfl) with rfl | hown
      · exact h
      · exact h.persistIndex hown hpersist

/-- **Every step** keeps the endpoints under the condition. -/
theorem closed_step (h : s.db.Closed) (hok : s.HidesOwn a)
    (hnext : (machine service).next s a = some s') : s'.db.Closed := by
  cases next_cases hnext with
  | unchanged => exact h
  | accepted haccept => exact h.acceptVersion hok haccept
  | superseded versionId => exact h.hide_iff.mpr hok
  | began _ _ => exact h
  | @wentOn _ id call phase db hcall hmoves hpersist =>
      refine closed_moves h hmoves fun snapshot hsnapshot => ?_
      cases hphase : call.phase with
      | persist stored drafts =>
          rcases hpersist stored drafts hphase with rfl | hsame
          · exact .inr (hok call hcall snapshot hsnapshot)
          · exact .inl hsame
      | _ =>
          rw [hphase] at hsnapshot
          exact absurd hsnapshot (by simp [Phase.stored])
  | worked _ => exact h

/-- **Accepted relations end in accepted entities**, whatever is indexed, indexed again and
superseded, as long as the entities hidden with a version are used by its relations only. -/
theorem endpoints_shown (hs : (machine service).ReachableUnder HidesOwn s) :
    ∀ row ∈ s.db.relations, row.status = .accepted →
      MemoryIndexService.Shown s.db.entities row.subjectEntityId ∧
        MemoryIndexService.Shown s.db.entities row.objectEntityId := by
  refine hs.invariant (I := fun s => s.db.Closed) ?_ ?_
  · rintro s ⟨-, -, hrelations, -⟩ row hrow
    rw [hrelations] at hrow
    exact absurd hrow (by simp)
  · exact fun s a s' _ h hok hnext => closed_step h hok hnext

/-! ### Instances -/

/-- A version of a chapter that a run has written. -/
def writtenVersion (chapterId number workflowRunId : ℕ) (content : String) : ChapterVersion :=
  ⟨chapterId, number, ⟨"Title", content, "Summary"⟩, .evaluated, "generated", none,
    some workflowRunId, [], [], true, none⟩

/-- Two chapters that mention a ring, and a revision of the second one that does not. -/
def sharedRing : MemorySystem where
  db :=
    { projects := [⟨.generating⟩]
      chapters :=
        [⟨0, 1, .evaluatedPassed, 1, "One", "", "", some 90, some 0, none⟩,
          ⟨0, 2, .evaluatedPassed, 1, "Two", "", "", some 90, some 1, none⟩]
      versions :=
        [writtenVersion 0 1 0 "ring in box", writtenVersion 1 1 1 "ring on Ann",
          writtenVersion 1 2 2 "rain"]
      facts :=
        [⟨0, 0, some 0, .candidate, ⟨"ring", "located_at", "box"⟩, "ring box"⟩,
          ⟨1, 1, some 1, .candidate, ⟨"ring", "located_at", "Ann"⟩, "ring Ann"⟩]
      evaluations :=
        [⟨0, 0, some 0, none, 1, .completed, 90, 90, 90, 0, 0, [], "accept", true⟩,
          ⟨1, 1, some 1, none, 1, .completed, 90, 90, 90, 0, 0, [], "accept", true⟩,
          ⟨1, 2, some 2, none, 2, .completed, 90, 90, 90, 0, 0, [], "accept", true⟩]
      revisions := []
      comparisons := []
      runs :=
        [⟨0, 0, .running, "accept_version", some 0, some 0, some 0, none, 0, 0⟩,
          ⟨0, 1, .running, "accept_version", some 1, some 1, some 1, none, 0, 0⟩,
          ⟨0, 1, .running, "accept_version", some 2, some 2, some 2, none, 0, 0⟩]
      characters := []
      descriptions := fun _ => ""
      locations := []
      rules := []
      foreshadowings := []
      factDetails := fun id =>
        if id = 0 then ⟨"state", 1, "ring in box", 1, none⟩ else ⟨"state", 1, "ring on Ann", 2, none⟩
      outlineNames := fun _ => []
      chunks := []
      entities := []
      relations := []
      indexRecords := fun _ => none }
  calls := []

/-- No version is accepted. -/
theorem init_sharedRing : (machine wholeTexts).init sharedRing := by
  refine ⟨⟨fun chapterId id h => ?_, fun id => ?_⟩, rfl, rfl, rfl, rfl⟩
  · rcases chapterId with _ | _ | chapterId <;>
      exact absurd h (by simp [StoryDatabase.selection, sharedRing])
  · constructor
    · intro h
      rcases id with _ | _ | _ | id <;>
        exact absurd h (by simp [StoryDatabase.selection, sharedRing, writtenVersion])
    · rintro ⟨chapterId, h⟩
      rcases chapterId with _ | _ | chapterId <;>
        exact absurd h (by simp [StoryDatabase.selection, sharedRing])

/-- The run that an acceptance starts. -/
def indexed (id : ℕ) : List IndexAction := List.replicate 5 (.proceed id)

/-- Both chapters are accepted and indexed. -/
theorem endpoints_shown_ring : ∃ s, (machine wholeTexts).ReachableUnder HidesOwn s ∧
    (s.Idle ∧ (s.db.relations.map (·.status)) = [.accepted, .accepted]) ∧
    ∀ row ∈ s.db.relations, row.status = .accepted →
      MemoryIndexService.Shown s.db.entities row.subjectEntityId ∧
        MemoryIndexService.Shown s.db.entities row.objectEntityId := by
  obtain ⟨s, hs, hindexed⟩ := (machine wholeTexts).exists_reachableUnder HidesOwn
    (.acceptVersion 0 0 :: indexed 0 ++ .acceptVersion 1 1 :: indexed 1)
    (fun s => s.Idle ∧ (s.db.relations.map (·.status)) = [.accepted, .accepted])
    init_sharedRing (by decide +kernel)
  exact ⟨s, hs, hindexed, endpoints_shown hs⟩

/-- A relation of the first chapter ends in the ring, which the second chapter mentioned last.
When that chapter is revised, the ring is hidden. -/
theorem endpoint_hidden : ∃ s, (machine wholeTexts).Reachable s ∧ s.Idle ∧
    ∃ row ∈ s.db.relations, row.status = .accepted ∧
      ∃ entity ∈ s.db.entities[row.subjectEntityId]?, entity.status = .superseded :=
  (machine wholeTexts).exists_reachable
    (.acceptVersion 0 0 :: indexed 0 ++ .acceptVersion 1 1 :: indexed 1 ++
      .acceptVersion 2 2 :: indexed 2)
    (fun s => s.Idle ∧ ∃ row ∈ s.db.relations, row.status = .accepted ∧
      ∃ entity ∈ s.db.entities[row.subjectEntityId]?, entity.status = .superseded)
    init_sharedRing (by decide +kernel)

end MemorySystem

end StoryForge.Memory
