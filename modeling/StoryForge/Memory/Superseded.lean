import StoryForge.Chapters.Supersession
import StoryForge.Memory.System

/-!
# No superseded memory

An acceptance hides the memory of the version that was accepted before. An indexing run checks
that its version is accepted when it reads what it indexes, and not again when it writes. This
module shows that accepted chunks and relations name accepted versions as long as the version
of a run is still accepted when the run writes, and that they need not when another version was
accepted in between.

## Main results

* `MemoryIndexService.owned_of_buildSources` — a draft is stored under the version that its
  source belongs to;
* `MemorySystem.sound_step` — what every step keeps under the condition;
* `MemorySystem.memory_current` — accepted memory names accepted versions;
* `MemorySystem.memory_stale` — it does not when a version was superseded while it was indexed.
-/

namespace StoryForge.Memory

/-! ### Sources and their versions -/

/-- The version that a source belongs to; sources of the project belong to none. -/
def Owns (facts : List Fact) (sourceType : SourceType) (sourceId : ℕ)
    (versionId : Option ℕ) : Prop :=
  match sourceType with
  | .chapterContent | .chapterSummary => versionId = some sourceId
  | .fact => ∃ fact, facts[sourceId]? = some fact ∧ versionId = some fact.chapterVersionId
  | .character | .location | .storyRule | .foreshadowing => versionId = none

/-- A source belongs to one version. -/
theorem Owns.unique {facts : List Fact} {sourceType : SourceType} {sourceId : ℕ}
    {version version' : Option ℕ} (h : Owns facts sourceType sourceId version)
    (h' : Owns facts sourceType sourceId version') : version = version' := by
  cases sourceType with
  | fact =>
      obtain ⟨fact, hfact, rfl⟩ := h
      obtain ⟨fact', hfact', rfl⟩ := h'
      rw [hfact] at hfact'
      rw [Option.some.inj hfact']
  | _ => exact h.trans h'.symm

/-- Facts that are there stay with their version. -/
def FactsStay (facts facts' : List Fact) : Prop :=
  ∀ (id : ℕ) (fact : Fact), facts[id]? = some fact →
    ∃ fact', facts'[id]? = some fact' ∧ fact'.chapterVersionId = fact.chapterVersionId

theorem FactsStay.refl (facts : List Fact) : FactsStay facts facts :=
  fun _ fact h => ⟨fact, h, rfl⟩

/-- Sources stay with their version when facts do. -/
theorem Owns.stay {facts facts' : List Fact} {sourceType : SourceType} {sourceId : ℕ}
    {version : Option ℕ} (hfacts : FactsStay facts facts')
    (h : Owns facts sourceType sourceId version) : Owns facts' sourceType sourceId version := by
  cases sourceType with
  | fact =>
      obtain ⟨fact, hfact, rfl⟩ := h
      obtain ⟨fact', hfact', hsame⟩ := hfacts sourceId fact hfact
      exact ⟨fact', hfact', by rw [hsame]⟩
  | _ => exact h

/-- The facts of a snapshot belong to its version. -/
def IndexSnapshot.Owned (facts : List Fact) (snapshot : IndexSnapshot) : Prop :=
  ∀ fact ∈ snapshot.facts, Owns facts .fact fact.id (some snapshot.versionId)

/-- A draft of a version, or of the project, belongs to it. -/
def SourceDraft.Owned (facts : List Fact) (versionId : ℕ) (draft : SourceDraft) : Prop :=
  Owns facts draft.sourceType draft.sourceId draft.chapterVersionId ∧
    ∀ id ∈ draft.chapterVersionId, id = versionId

/-- What is read is of the version. -/
theorem MemoryDatabase.owned_of_loadSnapshot {db : MemoryDatabase} {versionId : ℕ}
    {snapshot : IndexSnapshot} (h : db.loadSnapshot versionId = .ok snapshot) :
    snapshot.versionId = versionId ∧ snapshot.Owned db.facts := by
  unfold loadSnapshot at h
  split at h
  · exact absurd h (by simp)
  split at h
  · exact absurd h (by simp)
  split at h
  · exact absurd h (by simp)
  obtain rfl := Except.ok.inj h
  refine ⟨rfl, fun fact hfact => ?_⟩
  obtain ⟨⟨row, id⟩, hrow, rfl⟩ := List.mem_map.mp hfact
  obtain ⟨hget, hselected⟩ := Rows.mem_select.mp hrow
  simp only [Bool.and_eq_true, beq_iff_eq] at hselected
  exact ⟨row, hget, by rw [hselected.1]⟩

/-- **A draft is stored under the version that its source belongs to.** -/
theorem MemoryIndexService.owned_of_buildSources {service : MemoryIndexService}
    {snapshot : IndexSnapshot} {drafts : List SourceDraft} {facts : List Fact}
    (hsnapshot : snapshot.Owned facts) (h : service.buildSources snapshot = .ok drafts) :
    ∀ draft ∈ drafts, draft.Owned facts snapshot.versionId := by
  intro draft hdraft
  obtain ⟨source, hsource, pieces, index, piece, -, -, rfl⟩ := exists_source_of_mem h hdraft
  change Owns facts source.sourceType source.sourceId source.chapterVersionId ∧
    ∀ id ∈ source.chapterVersionId, id = snapshot.versionId
  rcases List.mem_append.mp hsource with hchapter | hproject
  · rcases List.mem_append.mp hchapter with htext | hfact
    · simp only [List.mem_cons, List.not_mem_nil, or_false] at htext
      rcases htext with rfl | rfl
      · exact ⟨rfl, fun id hid => (Option.some.inj hid).symm⟩
      · exact ⟨rfl, fun id hid => (Option.some.inj hid).symm⟩
    · obtain ⟨fact, hin, rfl⟩ := List.mem_map.mp hfact
      exact ⟨hsnapshot fact hin, fun id hid => (Option.some.inj hid).symm⟩
  · simp only [IndexSnapshot.projectSources, List.mem_append, List.mem_map] at hproject
    rcases hproject with ((⟨row, -, rfl⟩ | ⟨row, -, rfl⟩) | ⟨row, -, rfl⟩) | ⟨row, -, rfl⟩
    · exact ⟨rfl, fun id hid => absurd hid (by simp [projectSource])⟩
    · exact ⟨rfl, fun id hid => absurd hid (by simp [projectSource])⟩
    · exact ⟨rfl, fun id hid => absurd hid (by simp [projectSource])⟩
    · exact ⟨rfl, fun id hid => absurd hid (by simp [projectSource])⟩

/-! ### Accepted versions -/

/-- A version that is accepted stays so when nothing is chosen or unchosen. -/
theorem isAccepted_of_kept {db db' : StoryDatabase} (h : db.selection.Kept db'.selection)
    {versionId : ℕ} (haccepted : db.IsAccepted versionId) : db'.IsAccepted versionId := by
  obtain ⟨chapterId, hgroup, hchosen⟩ := Option.bind_eq_some_iff.mp haccepted
  exact Option.bind_eq_some_iff.mpr
    ⟨chapterId, h.group _ _ hgroup, (h.chosen chapterId).trans hchosen⟩

/-- A version that is accepted stays so when another chapter accepts a version. -/
theorem isAccepted_of_chose {db db' : StoryDatabase} {chapterId accepted versionId : ℕ}
    (h : db.selection.Chose db'.selection chapterId accepted)
    (haccepted : db.IsAccepted versionId)
    (hother : db.selection.chosen chapterId = some versionId → versionId = accepted) :
    db'.IsAccepted versionId := by
  obtain ⟨group, hgroup, hchosen⟩ := Option.bind_eq_some_iff.mp haccepted
  refine Option.bind_eq_some_iff.mpr ⟨group, h.group _ _ hgroup, ?_⟩
  by_cases hsame : group = chapterId
  · subst hsame
    rw [h.chosen, hother hchosen]
  · rw [h.others group hsame, hchosen]

/-- What an acceptance does to pointers, marks and facts. -/
theorem chose_of_accepting {workflowRunId versionId projectId : ℕ} {version : ChapterVersion}
    {chapter : StoryChapter} {db story : StoryDatabase}
    (haccept : ChapterVersionService.acceptVersion workflowRunId versionId db = .ok story)
    (haccepting : CanonDatabase.accepting workflowRunId versionId db =
      some (projectId, version, chapter)) :
    db.selection.Chose story.selection version.chapterId versionId ∧
      db.selection.chosen version.chapterId = chapter.acceptedVersionId ∧
      FactsStay db.facts story.facts := by
  obtain ⟨hfacts, -⟩ := CanonDatabase.acceptVersion_story haccept haccepting
  obtain ⟨run, hrun, hversion, hchapter, -, hreplay⟩ := CanonDatabase.accepting_eq_some haccepting
  refine ⟨?_, by simp [StoryDatabase.selection, hchapter], ?_⟩
  · unfold ChapterVersionService.acceptVersion at haccept
    simp only [hrun, hversion, hreplay, if_false, hchapter] at haccept
    split at haccept
    · rename_i hchapterEq _ _
      obtain rfl := Option.some.inj hchapterEq
      obtain rfl := Except.ok.inj haccept
      exact ChapterVersionService.chose_acceptVersion hversion hchapter (fun _ => rfl) rfl rfl
    · exact absurd haccept (by simp)
  · intro id fact hfact
    rw [hfacts, List.getElem?_map, hfact]
    obtain ⟨status, hstatus⟩ := ChapterVersionService.acceptFact_eq workflowRunId versionId
      chapter.acceptedVersionId fact
    exact ⟨_, rfl, by rw [hstatus]⟩

/-- Other work chooses nothing, and facts stay with their version. -/
theorem OtherWork.kept (work : OtherWork) (db : MemoryDatabase) :
    db.selection.Kept (work.write db).selection ∧ FactsStay db.facts (work.write db).facts := by
  constructor
  · constructor
    · intro id chapterId hgroup
      obtain ⟨version, hversion, rfl⟩ := Option.map_eq_some_iff.mp hgroup
      have hlt := (List.getElem?_eq_some_iff.mp hversion).1
      simp only [StoryDatabase.selection, write]
      rw [List.getElem?_append_left (by simpa using hlt), List.getElem?_mapIdx, hversion]
      simp only [Option.map_some, Option.some.injEq]
      split <;> rfl
    · intro chapterId
      simp only [StoryDatabase.selection, write]
      by_cases hlt : chapterId < db.chapters.length
      · rw [List.getElem?_append_left hlt]
      · rw [List.getElem?_append_right (Nat.not_lt.mp hlt),
          List.getElem?_eq_none (Nat.not_lt.mp hlt), List.getElem?_map]
        cases work.newChapters[chapterId - db.chapters.length]? <;> rfl
    · intro id
      simp only [StoryDatabase.selection, write]
      by_cases hlt : id < db.versions.length
      · rw [List.getElem?_append_left (by simpa using hlt), List.getElem?_mapIdx,
          List.getElem?_eq_getElem hlt]
        simp only [Option.map_some, Option.some.injEq]
        by_cases hkeep : db.versions[id].status = .accepted ∨ work.statuses id = .accepted
        · simp [hkeep]
        · rw [if_neg hkeep]
          rw [not_or] at hkeep
          simp [hkeep]
      · rw [List.getElem?_append_right (by simpa using Nat.not_lt.mp hlt),
          List.getElem?_eq_none (Nat.not_lt.mp hlt), List.getElem?_map]
        simp only [Option.map_map, Option.map_none, reduceCtorEq, iff_false]
        intro haccepted
        obtain ⟨version, -, hstatus⟩ := Option.map_eq_some_iff.mp haccepted
        exact absurd hstatus (by simp)
  · intro id fact hfact
    refine ⟨fact, ?_, rfl⟩
    simp only [write]
    rw [List.getElem?_append_left (List.getElem?_eq_some_iff.mp hfact).1, hfact]

/-! ### What a run keeps -/

/-- What a run has read and is about to store belongs to its version. -/
structure IndexCall.Owned (facts : List Fact) (call : IndexCall) : Prop where
  snapshot : ∀ snapshot, call.phase.snapshot = some snapshot → snapshot.Owned facts
  drafts : ∀ snapshot drafts, call.phase = .persist snapshot drafts →
    ∀ draft ∈ drafts, draft.Owned facts snapshot.versionId

theorem IndexCall.Owned.stay {facts facts' : List Fact} {call : IndexCall}
    (hfacts : FactsStay facts facts') (h : call.Owned facts) : call.Owned facts' where
  snapshot snapshot hsnapshot fact hfact := (h.snapshot snapshot hsnapshot fact hfact).stay hfacts
  drafts snapshot drafts hphase draft hdraft :=
    ⟨(h.drafts snapshot drafts hphase draft hdraft).1.stay hfacts,
      (h.drafts snapshot drafts hphase draft hdraft).2⟩

/-- A run that has read nothing yet. -/
theorem IndexCall.owned_begin (facts : List Fact) (versionId : ℕ) (force afterAcceptance : Bool) :
    IndexCall.Owned facts ⟨versionId, force, afterAcceptance, .loadSnapshot⟩ where
  snapshot _ h := absurd h (by simp [Phase.snapshot])
  drafts _ _ h := absurd h (by simp)

/-- A run that goes on reads and stores what belongs to its version. -/
theorem IndexCall.Owned.moves {service : MemoryIndexService} {db db' : MemoryDatabase}
    {call : IndexCall} {phase : Phase} (h : call.Owned db.facts)
    (hmoves : Phase.Moves service db call phase db') :
    IndexCall.Owned db.facts { call with phase := phase } where
  snapshot snapshot hsnapshot := by
    rcases hmoves.snapshot_cases hsnapshot with hload | hcall
    · exact (MemoryDatabase.owned_of_loadSnapshot hload).2
    · exact h.snapshot snapshot hcall
  drafts snapshot drafts hphase := by
    dsimp only at hphase
    cases hmoves with
    | loaded _ => exact absurd hphase (by simp)
    | kept _ _ _ hstored =>
        rw [hphase] at hstored
        exact absurd hstored (by simp [Phase.stored])
    | embedded hcall hbuild =>
        obtain ⟨rfl, rfl⟩ := Phase.persist.inj hphase
        exact MemoryIndexService.owned_of_buildSources (h.snapshot _ hcall) hbuild
    | persisted _ _ => exact absurd hphase (by simp)
    | ended _ hsnapshot _ =>
        rw [hphase] at hsnapshot
        exact absurd hsnapshot (by simp [Phase.snapshot])

/-- A row names only versions that its chapter points to, if it is accepted. -/
def Current (db : StoryDatabase) (sourceVersionId : Option ℕ) (status : MemoryStatus) : Prop :=
  status = .accepted → ∀ versionId ∈ sourceVersionId, db.IsAccepted versionId

/-- **Memory is current**: pointers and marks agree, chunks are stored under the version of
their source, and accepted rows name accepted versions. -/
structure MemoryDatabase.Sound (db : MemoryDatabase) : Prop where
  agrees : db.selection.Agrees
  owned : ∀ row ∈ db.chunks, Owns db.facts row.sourceType row.sourceId row.chapterVersionId
  chunks : ∀ row ∈ db.chunks, Current db.toStoryDatabase row.chapterVersionId row.status
  relations : ∀ row ∈ db.relations, Current db.toStoryDatabase row.sourceVersionId row.status

namespace MemoryDatabase.Sound

variable {db db' : MemoryDatabase}

/-- Hiding versions keeps memory current; another story may do so too, if the versions it
takes back are hidden. -/
theorem hide {story : StoryDatabase} {versions : List ℕ} (h : db.Sound)
    (hagrees : story.selection.Agrees) (hfacts : FactsStay db.facts story.facts)
    (haccepted : ∀ id, db.IsAccepted id → id ∉ versions → story.IsAccepted id)
    (hstory : db'.toStoryDatabase = story) (hchunks : db'.chunks = (db.hide versions).chunks)
    (hrelations : db'.relations = (db.hide versions).relations) : db'.Sound where
  agrees := hstory ▸ hagrees
  owned row hrow := by
    rw [hchunks] at hrow
    obtain ⟨old, hold, rfl⟩ := List.mem_map.mp hrow
    rw [hstory]
    exact (h.owned old hold).stay hfacts
  chunks row hrow hstatus id hid := by
    rw [hchunks] at hrow
    obtain ⟨old, hold, rfl⟩ := List.mem_map.mp hrow
    obtain ⟨hbefore, hshown⟩ := hidden_eq_accepted.mp hstatus
    rw [hstory]
    exact haccepted id (h.chunks old hold hbefore id hid) (hshown id hid)
  relations row hrow hstatus id hid := by
    rw [hrelations] at hrow
    obtain ⟨old, hold, rfl⟩ := List.mem_map.mp hrow
    obtain ⟨hbefore, hshown⟩ := hidden_eq_accepted.mp hstatus
    rw [hstory]
    exact haccepted id (h.relations old hold hbefore id hid) (hshown id hid)

/-- Hiding versions alone. -/
theorem hide_self (versions : List ℕ) (h : db.Sound) : (db.hide versions).Sound :=
  h.hide h.agrees (.refl _) (fun _ haccepted _ => haccepted) rfl rfl rfl

/-- An acceptance. -/
theorem acceptVersion {workflowRunId versionId : ℕ} (h : db.Sound)
    (haccept : db.acceptVersion workflowRunId versionId = .ok (some db')) :
    db'.Sound ∧ FactsStay db.facts db'.facts := by
  obtain ⟨story, projectId, version, chapter, hstory, haccepting, rfl⟩ :=
    MemoryDatabase.acceptVersion_eq_ok haccept
  obtain ⟨hchose, hchosen, hfacts⟩ := chose_of_accepting hstory haccepting
  have hpending : ∀ db : MemoryDatabase, (db.ensurePending versionId).toStoryDatabase =
      db.toStoryDatabase ∧ (db.ensurePending versionId).chunks = db.chunks ∧
      (db.ensurePending versionId).relations = db.relations := fun db => by
    unfold MemoryDatabase.ensurePending
    split <;> exact ⟨rfl, rfl, rfl⟩
  obtain ⟨hsame, hchunks, hrelations⟩ := hpending
    { db.hide (chapter.acceptedVersionId.filter (· != versionId)).toList with
      toStoryDatabase := story
      characters := ChapterVersionService.applyCharacterUpdates projectId
        version.candidateCharacterUpdates db.characters
      foreshadowings := ChapterVersionService.applyForeshadowingUpdates projectId
        chapter.chapterNumber version.candidateForeshadowingUpdates db.foreshadowings }
  refine ⟨h.hide (h.agrees.chose hchose) hfacts (fun id haccepted hshown => ?_) hsame hchunks
    hrelations, by rw [hsame]; exact hfacts⟩
  refine isAccepted_of_chose hchose haccepted fun hpointed => ?_
  rw [hchosen] at hpointed
  by_contra hne
  exact hshown (by simp [hpointed, hne])

/-- **The last transaction of a run** keeps memory current if its version is still accepted. -/
theorem persistIndex {service : MemoryIndexService} {snapshot : IndexSnapshot}
    {drafts : List SourceDraft} (h : db.Sound)
    (hdrafts : ∀ draft ∈ drafts, draft.Owned db.facts snapshot.versionId)
    (haccepted : db.IsAccepted snapshot.versionId)
    (hpersist : service.persistIndex snapshot drafts db = .ok db') :
    db'.Sound ∧ db'.facts = db.facts := by
  obtain ⟨entities, relations, -, rfl⟩ := MemoryIndexService.persistIndex_eq_ok hpersist
  have hclear := h.hide_self (MemoryIndexService.oldVersionIds snapshot db)
  have hchunks : ∀ row ∈ MemoryIndexService.storeDrafts snapshot.projectId drafts
      (db.hide (MemoryIndexService.oldVersionIds snapshot db)).chunks,
      Owns db.facts row.sourceType row.sourceId row.chapterVersionId ∧
        Current db.toStoryDatabase row.chapterVersionId row.status := by
    refine MemoryIndexService.storeDrafts_forall
      (fun row hrow => ⟨hclear.owned row hrow, hclear.chunks row hrow⟩)
      (fun draft hdraft row hrow htype hid => ⟨hrow.1, fun _ id hsource => ?_⟩)
      (fun draft hdraft => ⟨(hdrafts draft hdraft).1, fun _ id hsource => ?_⟩)
    · -- the chunk has the source of the draft, so it was stored under the same version
      have hsame := hrow.1
      rw [htype, hid] at hsame
      have hversion := hsame.unique (hdrafts draft hdraft).1
      rw [(hdrafts draft hdraft).2 id (hversion ▸ hsource)]
      exact haccepted
    · rw [(hdrafts draft hdraft).2 id hsource]
      exact haccepted
  refine ⟨⟨hclear.agrees, fun row hrow => (hchunks row hrow).1,
    fun row hrow => (hchunks row hrow).2, ?_⟩, rfl⟩
  refine MemoryIndexService.relateAll_forall hclear.relations fun row _ hsource _ _ => ?_
  intro _ id hid
  rw [hsource] at hid
  obtain rfl := Option.some.inj hid
  exact haccepted

end MemoryDatabase.Sound

/-! ### Runs -/

namespace MemorySystem

variable {service : MemoryIndexService} {s s' : MemorySystem} {a : IndexAction}

/-- A run writes only while the version it has read is still accepted. -/
def StillAccepted (s : MemorySystem) : IndexAction → Prop
  | .proceed id => ∀ call ∈ s.calls[id]?, ∀ snapshot ∈ call.phase.stored,
      s.db.versions[snapshot.versionId]?.map (·.status) = some .accepted
  | _ => True

instance (s : MemorySystem) (a : IndexAction) : Decidable (s.StillAccepted a) := by
  cases a <;> unfold StillAccepted <;> infer_instance

/-- Memory is current, and so is what the runs are about to store. -/
structure Sound (s : MemorySystem) : Prop where
  db : s.db.Sound
  calls : ∀ call ∈ s.calls, call.Owned s.db.facts

/-- The transaction of a run. -/
theorem Sound.moves {id : ℕ} {call : IndexCall} {phase : Phase} {db : MemoryDatabase}
    (h : s.Sound) (hcall : s.calls[id]? = some call)
    (hmoves : Phase.Moves service s.db call phase db)
    (haccepted : ∀ snapshot ∈ call.phase.stored, db = s.db ∨ s.db.IsAccepted snapshot.versionId) :
    db.Sound ∧ FactsStay s.db.facts db.facts := by
  cases hmoves with
  | loaded _ | kept _ _ _ _ | embedded _ _ | ended _ _ _ =>
      exact ⟨⟨h.db.agrees, h.db.owned, h.db.chunks, h.db.relations⟩, .refl _⟩
  | @persisted snapshot drafts _ hphase hpersist =>
      rcases haccepted snapshot (by rw [hphase]; rfl) with rfl | hcurrent
      · exact ⟨h.db, .refl _⟩
      · have howned := h.calls call (List.mem_of_getElem? hcall)
        obtain ⟨hdb, hfacts⟩ := h.db.persistIndex (howned.drafts snapshot drafts hphase)
          hcurrent hpersist
        exact ⟨hdb, hfacts ▸ .refl _⟩

/-- **Every step** keeps memory current under the condition. -/
theorem sound_step (h : s.Sound) (hok : s.StillAccepted a)
    (hnext : (machine service).next s a = some s') : s'.Sound := by
  cases next_cases hnext with
  | unchanged => exact h
  | accepted haccept =>
      obtain ⟨hdb, hfacts⟩ := h.db.acceptVersion haccept
      refine ⟨hdb, fun call hcall => ?_⟩
      rcases List.mem_append.mp hcall with hold | hnew
      · exact (h.calls call hold).stay hfacts
      · obtain rfl := List.mem_singleton.mp hnew
        exact IndexCall.owned_begin _ _ _ _
  | superseded versionId => exact ⟨h.db.hide_self [versionId], h.calls⟩
  | began versionId force =>
      refine ⟨h.db, fun call hcall => ?_⟩
      rcases List.mem_append.mp hcall with hold | hnew
      · exact h.calls call hold
      · obtain rfl := List.mem_singleton.mp hnew
        exact IndexCall.owned_begin _ _ _ _
  | @wentOn _ id call phase db hcall hmoves hpersist =>
      obtain ⟨hdb, hfacts⟩ := h.moves hcall hmoves fun snapshot hsnapshot => by
        unfold Phase.stored at hsnapshot
        split at hsnapshot
        · rename_i _ stored drafts hphase
          rcases hpersist stored drafts hphase with rfl | hsame
          · have hmarked := hok call hcall stored (by rw [hphase]; rfl)
            obtain rfl := Option.some.inj hsnapshot
            obtain ⟨chapterId, hchosen⟩ := (h.db.agrees.marked_iff _).mp hmarked
            exact .inr (Option.bind_eq_some_iff.mpr
              ⟨chapterId, h.db.agrees.valid _ _ hchosen, hchosen⟩)
          · exact .inl hsame
        · exact absurd hsnapshot (by simp)
      refine ⟨hdb, fun other hother => ?_⟩
      have howned := h.calls call (List.mem_of_getElem? hcall)
      rcases List.mem_or_eq_of_mem_set hother with hold | rfl
      · exact (h.calls other hold).stay hfacts
      · exact (howned.moves hmoves).stay hfacts
  | worked work =>
      obtain ⟨hkept, hfacts⟩ := work.kept s.db
      refine ⟨⟨h.db.agrees.kept hkept, ?_, ?_, ?_⟩, fun call hcall =>
        (h.calls call hcall).stay hfacts⟩
      · exact fun row hrow => (h.db.owned row hrow).stay hfacts
      · exact fun row hrow hstatus id hid =>
          isAccepted_of_kept hkept (h.db.chunks row hrow hstatus id hid)
      · exact fun row hrow hstatus id hid =>
          isAccepted_of_kept hkept (h.db.relations row hrow hstatus id hid)

/-- **No superseded memory**, whatever is accepted and indexed, as long as the version of a run
is still accepted when the run writes. -/
theorem memory_current (hs : (machine service).ReachableUnder StillAccepted s) :
    (∀ row ∈ s.db.chunks, row.status = .accepted → ∀ versionId ∈ row.chapterVersionId,
        s.db.IsAccepted versionId) ∧
      ∀ row ∈ s.db.relations, row.status = .accepted → ∀ versionId ∈ row.sourceVersionId,
        s.db.IsAccepted versionId := by
  have hsound : s.Sound := by
    refine hs.invariant (I := Sound) ?_ ?_
    · rintro s ⟨hagrees, hchunks, hrelations, -, hcalls⟩
      refine ⟨⟨hagrees, ?_, ?_, ?_⟩, ?_⟩
      · rw [hchunks]
        exact fun row hrow => absurd hrow (by simp)
      · rw [hchunks]
        exact fun row hrow => absurd hrow (by simp)
      · rw [hrelations]
        exact fun row hrow => absurd hrow (by simp)
      · rw [hcalls]
        exact fun call hcall => absurd hcall (by simp)
    · exact fun s a s' _ h hok hnext => sound_step h hok hnext
  exact ⟨hsound.db.chunks, hsound.db.relations⟩

/-! ### Instances -/

/-- An index that keeps texts whole and as they are. -/
def wholeTexts : MemoryIndexService where
  chunker text := .ok [text]
  sha256 text := text
  casefold text := text
  normalize text := text
  disambiguationKey _ _ := ""

/-- A chapter with two versions that have passed. -/
def twoVersions : MemorySystem where
  db :=
    { projects := [⟨.generating⟩]
      chapters := [⟨0, 1, .evaluatedPassed, 1, "One", "Text", "Summary", some 90, some 0, none⟩]
      versions :=
        [⟨0, 1, ⟨"One", "First", "Summary"⟩, .evaluated, "generated", none, some 0, [], [], true,
            none⟩,
          ⟨0, 2, ⟨"One", "Second", "Summary"⟩, .evaluated, "generated", none, some 1, [], [], true,
            none⟩]
      facts := []
      evaluations :=
        [⟨0, 0, some 0, none, 1, .completed, 90, 90, 90, 0, 0, [], "accept", true⟩,
          ⟨0, 1, some 1, none, 2, .completed, 90, 90, 90, 0, 0, [], "accept", true⟩]
      revisions := []
      comparisons := []
      runs :=
        [⟨0, 0, .running, "accept_version", some 0, some 0, some 0, none, 0, 0⟩,
          ⟨0, 0, .running, "accept_version", some 1, some 1, some 1, none, 0, 0⟩]
      characters := []
      descriptions := fun _ => ""
      locations := []
      rules := []
      foreshadowings := []
      factDetails := fun _ => ⟨"", 0, "", 1, none⟩
      outlineNames := fun _ => []
      chunks := []
      entities := []
      relations := []
      indexRecords := fun _ => none }
  calls := []

/-- Neither version is accepted. -/
theorem init_twoVersions : (machine wholeTexts).init twoVersions := by
  refine ⟨⟨fun chapterId id h => ?_, fun id => ?_⟩, rfl, rfl, rfl, rfl⟩
  · rcases chapterId with _ | chapterId
    · exact absurd h (by simp [StoryDatabase.selection, twoVersions])
    · exact absurd h (by simp [StoryDatabase.selection, twoVersions])
  · constructor
    · intro h
      rcases id with _ | _ | id
      · exact absurd h (by simp [StoryDatabase.selection, twoVersions])
      · exact absurd h (by simp [StoryDatabase.selection, twoVersions])
      · exact absurd h (by simp [StoryDatabase.selection, twoVersions])
    · rintro ⟨chapterId, h⟩
      rcases chapterId with _ | chapterId
      · exact absurd h (by simp [StoryDatabase.selection, twoVersions])
      · exact absurd h (by simp [StoryDatabase.selection, twoVersions])

/-- A version is accepted and indexed, and then another one. -/
theorem memory_current_inTurn : ∃ s, (machine wholeTexts).ReachableUnder StillAccepted s ∧
    (s.Idle ∧ s.db.IsAccepted 1 ∧ ∃ row ∈ s.db.chunks, row.status = .accepted) ∧
    (∀ row ∈ s.db.chunks, row.status = .accepted → ∀ versionId ∈ row.chapterVersionId,
        s.db.IsAccepted versionId) ∧
      ∀ row ∈ s.db.relations, row.status = .accepted → ∀ versionId ∈ row.sourceVersionId,
        s.db.IsAccepted versionId := by
  obtain ⟨s, hs, hindexed⟩ := (machine wholeTexts).exists_reachableUnder StillAccepted
    [.acceptVersion 0 0, .proceed 0, .proceed 0, .proceed 0, .proceed 0, .proceed 0,
      .acceptVersion 1 1, .proceed 1, .proceed 1, .proceed 1, .proceed 1, .proceed 1]
    (fun s => s.Idle ∧ s.db.IsAccepted 1 ∧ ∃ row ∈ s.db.chunks, row.status = .accepted)
    init_twoVersions (by decide)
  exact ⟨s, hs, hindexed, memory_current hs⟩

/-- A version is superseded after its run has read it, and the run writes what it has read. -/
theorem memory_stale : ∃ s, (machine wholeTexts).Reachable s ∧ s.Idle ∧
    ¬∀ row ∈ s.db.chunks, row.status = .accepted → ∀ versionId ∈ row.chapterVersionId,
      s.db.IsAccepted versionId :=
  (machine wholeTexts).exists_reachable
    [.acceptVersion 0 0, .proceed 0, .acceptVersion 1 1, .proceed 1, .proceed 1, .proceed 1,
      .proceed 1, .proceed 1, .proceed 0, .proceed 0, .proceed 0, .proceed 0]
    (fun s => s.Idle ∧ ¬∀ row ∈ s.db.chunks, row.status = .accepted →
      ∀ versionId ∈ row.chapterVersionId, s.db.IsAccepted versionId)
    init_twoVersions (by decide)

end MemorySystem

end StoryForge.Memory
