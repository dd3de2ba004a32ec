import StoryForge.Memory.Superseded

/-!
# Indexing again

A run with `force` stores what its version and its project say now. A chunk is found again by
its source, its place in it and its hash, so a source that was edited gets new chunks next to
the old ones. The run takes back the chunks of the superseded versions of its chapter, and no
other chunks: what it has collected in `current_keys` is not compared with what is stored.

This module shows that the chunks of the sources that a run covers are the ones of their
current texts exactly when no other accepted chunk of these sources, and none of a deactivated
rule, was left from before.

## Main results

* `IndexSnapshot.source_eq` — a source is determined by its type and its id;
* `MemoryIndexService.mem_storeDrafts` — what is accepted after the drafts were stored;
* `MemorySystem.reindex_eq` — a run that nothing comes between writes what it has read;
* `MemorySystem.reindex_iff` — when the index reflects the sources after the run;
* `MemorySystem.state_stays` — it does not when the state of a character has changed.
-/

namespace StoryForge.Memory

/-! ### A run that nothing comes between -/

/-- The run of a version with `force`, from its first transaction to its last. -/
def MemorySystem.reindex (service : MemoryIndexService) (versionId : ℕ) (s : MemorySystem) :
    Option MemorySystem :=
  (MemorySystem.machine service).guardedRun (fun _ _ => True) s
    (.index versionId true :: List.replicate 5 (.proceed s.calls.length))

/-- What a run reads and what it makes of it. -/
def MemoryDatabase.current (service : MemoryIndexService) (versionId : ℕ)
    (db : MemoryDatabase) : Except Error (IndexSnapshot × List SourceDraft) := do
  let snapshot ← db.loadSnapshot versionId
  let drafts ← service.buildSources snapshot
  .ok (snapshot, drafts)

/-! ### Chunks and sources -/

/-- The sources of a snapshot. -/
def IndexSnapshot.sources (snapshot : IndexSnapshot) : List Source :=
  snapshot.chapterSources ++ snapshot.projectSources

/-- Whether a chunk is one of a source that the run covers. -/
def IndexSnapshot.Covers (snapshot : IndexSnapshot) (row : MemoryChunk) : Prop :=
  row.projectId = snapshot.projectId ∧ ∃ source ∈ snapshot.sources,
    source.sourceType = row.sourceType ∧ source.sourceId = row.sourceId

/-- Whether a chunk is the piece of its source that a draft is. -/
def MemoryChunk.Shows (row : MemoryChunk) (draft : SourceDraft) : Prop :=
  row.sourceType = draft.sourceType ∧ row.sourceId = draft.sourceId ∧
    row.chunkIndex = draft.chunkIndex ∧ row.content = draft.content

instance (snapshot : IndexSnapshot) (row : MemoryChunk) : Decidable (snapshot.Covers row) := by
  unfold IndexSnapshot.Covers; infer_instance

instance (row : MemoryChunk) (draft : SourceDraft) : Decidable (row.Shows draft) := by
  unfold MemoryChunk.Shows; infer_instance

/-- Whether a chunk is one of a rule of the project that was deactivated. -/
def MemoryDatabase.Deactivated (db : MemoryDatabase) (projectId : ℕ) (row : MemoryChunk) : Prop :=
  row.projectId = projectId ∧ row.sourceType = .storyRule ∧
    ∃ rule ∈ db.rules[row.sourceId]?, rule.active = false

instance (db : MemoryDatabase) (projectId : ℕ) (row : MemoryChunk) :
    Decidable (db.Deactivated projectId row) := by
  unfold MemoryDatabase.Deactivated; infer_instance

/-- The index reflects the sources: the accepted chunks of the sources that are covered are
the pieces of their texts, and no chunk of a deactivated rule or of a superseded version of the
chapter is accepted. -/
@[mk_iff]
structure MemoryDatabase.Reflects (db : MemoryDatabase) (snapshot : IndexSnapshot)
    (drafts : List SourceDraft) : Prop where
  exact : ∀ row ∈ db.chunks, row.status = .accepted → snapshot.Covers row →
    ∃ draft ∈ drafts, row.Shows draft
  complete : ∀ draft ∈ drafts, ∃ row ∈ db.chunks,
    row.projectId = snapshot.projectId ∧ row.status = .accepted ∧ row.Shows draft
  rules : ∀ row ∈ db.chunks, row.status = .accepted → ¬db.Deactivated snapshot.projectId row
  earlier : ∀ row ∈ db.chunks, row.status = .accepted → ¬snapshot.Covers row →
    ∀ id ∈ row.chapterVersionId, id ∉ MemoryIndexService.oldVersionIds snapshot db

instance (db : MemoryDatabase) (snapshot : IndexSnapshot) (drafts : List SourceDraft) :
    Decidable (db.Reflects snapshot drafts) :=
  decidable_of_iff' _ (MemoryDatabase.reflects_iff db snapshot drafts)

/-- `memory_chunk_source_hash`: the key of a draft. -/
def chunkKey (projectId : ℕ) (draft : SourceDraft) (row : MemoryChunk) : Bool :=
  row.projectId == projectId && row.sourceType == draft.sourceType &&
    row.sourceId == draft.sourceId && row.chunkIndex == draft.chunkIndex &&
    row.contentHash == draft.contentHash

/-- Nothing is left from earlier texts: a chunk that the run does not hide and that is accepted
is a piece of a current text, if it is one of a source that is covered, and not one of a
deactivated rule. A chunk with the key of a current piece is that piece. -/
@[mk_iff]
structure MemoryDatabase.Fresh (db : MemoryDatabase) (snapshot : IndexSnapshot)
    (drafts : List SourceDraft) : Prop where
  exact : ∀ row ∈ (db.hide (MemoryIndexService.oldVersionIds snapshot db)).chunks,
    row.status = .accepted → snapshot.Covers row → ∃ draft ∈ drafts, row.Shows draft
  rules : ∀ row ∈ (db.hide (MemoryIndexService.oldVersionIds snapshot db)).chunks,
    row.status = .accepted → ¬db.Deactivated snapshot.projectId row
  keys : ∀ draft ∈ drafts, ∀ row ∈ db.chunks.find? (chunkKey snapshot.projectId draft),
    row.content = draft.content

instance (db : MemoryDatabase) (snapshot : IndexSnapshot) (drafts : List SourceDraft) :
    Decidable (db.Fresh snapshot drafts) :=
  decidable_of_iff' _ (MemoryDatabase.fresh_iff db snapshot drafts)

/-! ### What is read -/

/-- What a snapshot says is in the tables. -/
structure IndexSnapshot.ReadFrom (db : MemoryDatabase) (snapshot : IndexSnapshot) : Prop where
  fact : ∀ fact ∈ snapshot.facts, ∃ row, db.facts[fact.id]? = some row ∧
    fact = { db.factDetails fact.id with id := fact.id, content := row.content }
  character : ∀ character ∈ snapshot.characters, ∃ row, db.characters[character.id]? = some row ∧
    character = ⟨character.id, row.name, db.descriptions character.id, row.currentState⟩
  location : ∀ entry ∈ snapshot.locations, db.locations[entry.2]? = some entry.1
  rule : ∀ entry ∈ snapshot.rules, db.rules[entry.2]? = some entry.1 ∧ entry.1.active = true
  foreshadowing : ∀ entry ∈ snapshot.foreshadowing, db.foreshadowings[entry.2]? = some entry.1

/-- **What is read** is in the tables. -/
theorem IndexSnapshot.readFrom_of_loadSnapshot {db : MemoryDatabase} {versionId : ℕ}
    {snapshot : IndexSnapshot} (h : db.loadSnapshot versionId = .ok snapshot) :
    snapshot.ReadFrom db := by
  unfold MemoryDatabase.loadSnapshot at h
  split at h
  · exact absurd h (by simp)
  split at h
  · exact absurd h (by simp)
  split at h
  · exact absurd h (by simp)
  obtain rfl := Except.ok.inj h
  constructor
  · intro fact hfact
    obtain ⟨⟨row, id⟩, hrow, rfl⟩ := List.mem_map.mp hfact
    exact ⟨row, (Rows.mem_select.mp hrow).1, rfl⟩
  · intro character hcharacter
    obtain ⟨⟨row, id⟩, hrow, rfl⟩ := List.mem_map.mp hcharacter
    exact ⟨row, (Rows.mem_select.mp hrow).1, rfl⟩
  · rintro ⟨row, id⟩ hentry
    dsimp only at hentry
    exact (Rows.mem_select.mp hentry).1
  · rintro ⟨row, id⟩ hentry
    dsimp only at hentry
    obtain ⟨hrow, hselected⟩ := Rows.mem_select.mp hentry
    rw [Bool.and_eq_true] at hselected
    exact ⟨hrow, hselected.2⟩
  · rintro ⟨row, id⟩ hentry
    dsimp only at hentry
    exact (Rows.mem_select.mp hentry).1

namespace IndexSnapshot

variable {db : MemoryDatabase} {snapshot : IndexSnapshot}

/-- The source of a type and an id, as the tables have it. -/
def source (db : MemoryDatabase) (snapshot : IndexSnapshot) : SourceType → ℕ → Option Source
  | .chapterContent, id => some (snapshot.chapterSource .chapterContent id snapshot.text.content
      snapshot.outlineNames)
  | .chapterSummary, id => some (snapshot.chapterSource .chapterSummary id snapshot.text.summary
      snapshot.outlineNames)
  | .fact, id => db.facts[id]?.map fun row => snapshot.chapterSource .fact id
      (row.content.subject ++ " " ++ row.content.predicate ++ " " ++ row.content.object)
      [row.content.subject, row.content.object]
  | .character, id => db.characters[id]?.map fun row => projectSource .character id
      (row.name ++ " " ++ db.descriptions id ++ " " ++ row.currentState) 1 [row.name]
  | .location, id => db.locations[id]?.map fun row => projectSource .location id
      (row.name ++ " " ++ row.description) 1 [row.name]
  | .storyRule, id => db.rules[id]?.map fun row => projectSource .storyRule id row.statement 1 []
  | .foreshadowing, id => db.foreshadowings[id]?.map fun row =>
      projectSource .foreshadowing id row.description row.setupChapter []

/-- A source that is read is the one of its type and its id. -/
theorem source_of_mem (hread : snapshot.ReadFrom db) {item : Source} (h : item ∈ snapshot.sources) :
    snapshot.source db item.sourceType item.sourceId = some item := by
  simp only [sources, chapterSources, projectSources, List.mem_append, List.mem_cons,
    List.not_mem_nil, or_false, List.mem_map] at h
  rcases h with ((rfl | rfl) | ⟨fact, hfact, rfl⟩) |
    ((⟨character, hcharacter, rfl⟩ | ⟨entry, hentry, rfl⟩) | ⟨entry, hentry, rfl⟩) |
    ⟨entry, hentry, rfl⟩
  · rfl
  · rfl
  · obtain ⟨row, hrow, heq⟩ := hread.fact fact hfact
    simp only [chapterSource, source, hrow, Option.map_some]
    rw [heq]
  · obtain ⟨row, hrow, heq⟩ := hread.character character hcharacter
    simp only [projectSource, source, hrow, Option.map_some]
    rw [heq]
  · simp only [projectSource, source, hread.location entry hentry, Option.map_some]
  · simp only [projectSource, source, (hread.rule entry hentry).1, Option.map_some]
  · simp only [projectSource, source, hread.foreshadowing entry hentry, Option.map_some]

/-- What a draft shows is covered. -/
theorem covers_of_shows {service : MemoryIndexService} {drafts : List SourceDraft}
    (hdrafts : service.buildSources snapshot = .ok drafts) {draft : SourceDraft}
    (hdraft : draft ∈ drafts) {row : MemoryChunk} (hproject : row.projectId = snapshot.projectId)
    (htype : row.sourceType = draft.sourceType) (hid : row.sourceId = draft.sourceId) :
    snapshot.Covers row := by
  obtain ⟨source, hsource, pieces, index, piece, -, -, rfl⟩ :=
    MemoryIndexService.exists_source_of_mem hdrafts hdraft
  exact ⟨hproject, source, hsource, htype.symm, hid.symm⟩

/-- **A draft is determined** by its source and its place in it. -/
theorem draft_eq {service : MemoryIndexService} {drafts : List SourceDraft}
    (hread : snapshot.ReadFrom db) (hdrafts : service.buildSources snapshot = .ok drafts)
    {draft draft' : SourceDraft} (hdraft : draft ∈ drafts) (hdraft' : draft' ∈ drafts)
    (htype : draft.sourceType = draft'.sourceType) (hid : draft.sourceId = draft'.sourceId)
    (hindex : draft.chunkIndex = draft'.chunkIndex) : draft = draft' := by
  obtain ⟨item, hitem, pieces, index, piece, hpieces, hpiece, rfl⟩ :=
    MemoryIndexService.exists_source_of_mem hdrafts hdraft
  obtain ⟨item', hitem', pieces', index', piece', hpieces', hpiece', rfl⟩ :=
    MemoryIndexService.exists_source_of_mem hdrafts hdraft'
  dsimp only at htype hid hindex
  have hsource := source_of_mem hread hitem
  rw [htype, hid, source_of_mem hread hitem'] at hsource
  obtain rfl := Option.some.inj hsource
  obtain rfl := Except.ok.inj (hpieces.symm.trans hpieces')
  subst hindex
  obtain rfl := Option.some.inj (hpiece.symm.trans hpiece')
  rfl

/-- A rule that is read is active. -/
theorem not_deactivated {service : MemoryIndexService} {drafts : List SourceDraft}
    (hread : snapshot.ReadFrom db) (hdrafts : service.buildSources snapshot = .ok drafts)
    {draft : SourceDraft} (hdraft : draft ∈ drafts) {row : MemoryChunk}
    (htype : row.sourceType = draft.sourceType) (hid : row.sourceId = draft.sourceId) :
    ¬db.Deactivated snapshot.projectId row := by
  rintro ⟨-, hrule, rule, hget, hactive⟩
  obtain ⟨item, hitem, pieces, index, piece, -, -, rfl⟩ :=
    MemoryIndexService.exists_source_of_mem hdrafts hdraft
  rw [htype] at hrule
  rw [hid] at hget
  dsimp only at hrule hget
  simp only [chapterSources, projectSources, List.mem_append, List.mem_cons,
    List.not_mem_nil, or_false, List.mem_map] at hitem
  rcases hitem with ((rfl | rfl) | ⟨fact, hfact, rfl⟩) |
    ((⟨character, hcharacter, rfl⟩ | ⟨entry, hentry, rfl⟩) | ⟨entry, hentry, rfl⟩) |
    ⟨entry, hentry, rfl⟩
  case inr.inl.inr =>
    obtain ⟨hrow, hread⟩ := hread.rule entry hentry
    obtain rfl := Option.some.inj (hrow.symm.trans hget)
    exact absurd hactive (by simp [hread])
  all_goals exact absurd hrule (by simp [chapterSource, projectSource])

end IndexSnapshot

/-! ### What is stored -/

namespace MemoryIndexService

variable {projectId : ℕ} {draft : SourceDraft} {drafts : List SourceDraft}
  {chunks : List MemoryChunk} {row : MemoryChunk}

theorem storeDraft_eq (projectId : ℕ) (chunks : List MemoryChunk) (draft : SourceDraft) :
    storeDraft projectId chunks draft =
      (Rows.upsert (chunkKey projectId draft) ({ · with status := .accepted })
        { draft with projectId := projectId, status := .accepted } chunks).2 :=
  rfl

/-- A key says nothing about the status. -/
theorem chunkKey_status (projectId : ℕ) (draft : SourceDraft) (row : MemoryChunk)
    (status : MemoryStatus) :
    chunkKey projectId draft { row with status := status } = chunkKey projectId draft row :=
  rfl

theorem chunkKey_eq_true :
    chunkKey projectId draft row = true ↔ row.projectId = projectId ∧
      row.sourceType = draft.sourceType ∧ row.sourceId = draft.sourceId ∧
      row.chunkIndex = draft.chunkIndex ∧ row.contentHash = draft.contentHash := by
  simp only [chunkKey, Bool.and_eq_true, beq_iff_eq, and_assoc]

theorem storeDrafts_cons (projectId : ℕ) (draft : SourceDraft) (drafts : List SourceDraft)
    (chunks : List MemoryChunk) :
    storeDrafts projectId (draft :: drafts) chunks =
      storeDrafts projectId drafts (storeDraft projectId chunks draft) :=
  rfl

/-- **Accepted chunks stay** when drafts are stored. -/
theorem mem_storeDrafts_of_accepted (hrow : row ∈ chunks) (hstatus : row.status = .accepted) :
    row ∈ storeDrafts projectId drafts chunks := by
  induction drafts generalizing chunks with
  | nil => exact hrow
  | cons head drafts ih =>
      rw [storeDrafts_cons]
      refine ih ?_
      rw [storeDraft_eq]
      obtain ⟨j, hj⟩ := List.mem_iff_getElem?.mp hrow
      rcases Rows.getElem?_upsert_of hj with hsame | hupdated
      · exact List.mem_of_getElem? hsame
      · have heq : { row with status := .accepted } = row := by rw [← hstatus]
        rw [heq] at hupdated
        exact List.mem_of_getElem? hupdated

/-- The first chunk of a key after a draft was stored. -/
theorem find?_storeDraft (projectId : ℕ) (draft head : SourceDraft) (chunks : List MemoryChunk) :
    (storeDraft projectId chunks head).find? (chunkKey projectId draft) =
        chunks.find? (chunkKey projectId draft) ∨
      (storeDraft projectId chunks head).find? (chunkKey projectId draft) =
        (chunks.find? (chunkKey projectId draft)).map ({ · with status := .accepted }) ∨
      chunks.find? (chunkKey projectId draft) = none ∧
        (storeDraft projectId chunks head).find? (chunkKey projectId draft) =
          some { head with projectId := projectId, status := .accepted } := by
  rw [storeDraft_eq]
  exact Rows.find?_upsert (fun row => chunkKey_status projectId draft row .accepted) _ _ _

/-- **The first chunk with the key of a draft is shown again.** -/
theorem mem_storeDrafts_of_find? (hdraft : draft ∈ drafts)
    (hfind : chunks.find? (chunkKey projectId draft) = some row) :
    { row with status := .accepted } ∈ storeDrafts projectId drafts chunks := by
  induction drafts generalizing chunks row with
  | nil => exact absurd hdraft List.not_mem_nil
  | cons head drafts ih =>
      rw [storeDrafts_cons]
      rcases List.mem_cons.mp hdraft with rfl | htail
      · refine mem_storeDrafts_of_accepted ?_ rfl
        rw [storeDraft_eq]
        exact Rows.mem_upsert_of_find? hfind
      · rcases find?_storeDraft projectId draft head chunks with hsame | hupdated | ⟨hnone, -⟩
        · exact ih htail (hsame.trans hfind)
        · rw [hfind, Option.map_some] at hupdated
          have hshown := ih htail hupdated
          exact hshown
        · exact absurd (hnone.symm.trans hfind) (by simp)

/-- **Every draft is shown**: a chunk with its key is accepted. -/
theorem exists_mem_storeDrafts (projectId : ℕ) (chunks : List MemoryChunk)
    (hdraft : draft ∈ drafts) :
    ∃ row ∈ storeDrafts projectId drafts chunks,
      chunkKey projectId draft row = true ∧ row.status = .accepted := by
  induction drafts generalizing chunks with
  | nil => exact absurd hdraft List.not_mem_nil
  | cons head drafts ih =>
      rw [storeDrafts_cons]
      rcases List.mem_cons.mp hdraft with rfl | htail
      · obtain ⟨row, hrow, hwritten⟩ := Rows.getElem?_upsert_self (chunkKey projectId draft)
          ({ · with status := .accepted })
          { draft with projectId := projectId, status := .accepted } chunks
        have hmem := List.mem_of_getElem? hrow
        rcases hwritten with ⟨old, -, hkey, rfl⟩ | rfl
        · exact ⟨_, mem_storeDrafts_of_accepted hmem rfl, hkey, rfl⟩
        · exact ⟨_, mem_storeDrafts_of_accepted hmem rfl,
            chunkKey_eq_true.mpr ⟨rfl, rfl, rfl, rfl, rfl⟩, rfl⟩
      · exact ih _ htail

/-- **What is there after the drafts were stored**: what was there, the first chunk of the key
of a draft, shown again, or a new chunk of a draft. -/
theorem mem_storeDrafts (hrow : row ∈ storeDrafts projectId drafts chunks) :
    row ∈ chunks ∨
      ∃ draft ∈ drafts,
        (∃ old, chunks.find? (chunkKey projectId draft) = some old ∧
          row = { old with status := .accepted }) ∨
        row = { draft with projectId := projectId, status := .accepted } := by
  induction drafts generalizing chunks with
  | nil => exact .inl hrow
  | cons head drafts ih =>
      rw [storeDrafts_cons] at hrow
      rcases ih hrow with hmid | ⟨draft, hdraft, ⟨old, hfind, rfl⟩ | rfl⟩
      · rw [storeDraft_eq] at hmid
        rcases Rows.mem_upsert_first hmid with hold | ⟨old, hfind, rfl⟩ | rfl
        · exact .inl hold
        · exact .inr ⟨head, List.mem_cons_self, .inl ⟨old, hfind, rfl⟩⟩
        · exact .inr ⟨head, List.mem_cons_self, .inr rfl⟩
      · rcases find?_storeDraft projectId draft head chunks with hsame | hupdated | ⟨-, hnew⟩
        · exact .inr ⟨draft, List.mem_cons_of_mem _ hdraft,
            .inl ⟨old, hsame.symm.trans hfind, rfl⟩⟩
        · -- the chunk was shown again before
          rw [hupdated] at hfind
          obtain ⟨first, hfirst, rfl⟩ := Option.map_eq_some_iff.mp hfind
          exact .inr ⟨draft, List.mem_cons_of_mem _ hdraft, .inl ⟨first, hfirst, rfl⟩⟩
        · -- the chunk is the one that was just added
          obtain rfl := Option.some.inj (hnew.symm.trans hfind)
          exact .inr ⟨head, List.mem_cons_self, .inr rfl⟩
      · exact .inr ⟨draft, List.mem_cons_of_mem _ hdraft, .inr rfl⟩

/-- The first chunk of a key when versions are hidden. -/
theorem find?_hide (versions : List ℕ) (db : MemoryDatabase) (projectId : ℕ)
    (draft : SourceDraft) :
    (db.hide versions).chunks.find? (chunkKey projectId draft) =
      (db.chunks.find? (chunkKey projectId draft)).map fun row =>
        { row with status := hidden versions row.chapterVersionId row.status } := by
  simp only [MemoryDatabase.hide, List.find?_map]
  rfl

/-- What is there after the drafts were stored was there before, or is the piece of a draft. -/
theorem shows_of_mem_storeDrafts {snapshot : IndexSnapshot} {db : MemoryDatabase}
    (hkeys : ∀ draft ∈ drafts, ∀ row ∈ db.chunks.find? (chunkKey snapshot.projectId draft),
      row.content = draft.content) {versions : List ℕ}
    (hrow : row ∈ storeDrafts snapshot.projectId drafts (db.hide versions).chunks) :
    row ∈ (db.hide versions).chunks ∨
      ∃ draft ∈ drafts, row.projectId = snapshot.projectId ∧ row.Shows draft := by
  rcases mem_storeDrafts hrow with hold | ⟨draft, hdraft, ⟨old, hfind, rfl⟩ | rfl⟩
  · exact .inl hold
  · rw [find?_hide] at hfind
    obtain ⟨first, hfirst, rfl⟩ := Option.map_eq_some_iff.mp hfind
    obtain ⟨hproject, htype, hid, hindex, -⟩ := chunkKey_eq_true.mp (List.find?_some hfirst)
    exact .inr ⟨draft, hdraft, hproject, htype, hid, hindex, hkeys draft hdraft first hfirst⟩
  · exact .inr ⟨draft, hdraft, rfl, rfl, rfl, rfl, rfl⟩

/-- **The last transaction** leaves an index that reflects the sources exactly when nothing was
left from earlier texts. -/
theorem persistIndex_reflects_iff {service : MemoryIndexService} {snapshot : IndexSnapshot}
    {db db' : MemoryDatabase} (hread : snapshot.ReadFrom db)
    (hdrafts : service.buildSources snapshot = .ok drafts)
    (hpersist : service.persistIndex snapshot drafts db = .ok db') :
    db'.Reflects snapshot drafts ↔ db.Fresh snapshot drafts := by
  obtain ⟨entities, relations, -, rfl⟩ := persistIndex_eq_ok hpersist
  constructor
  · intro h
    refine ⟨fun row hrow hstatus hcovers => ?_, fun row hrow hstatus => ?_,
      fun draft hdraft row hrow => ?_⟩
    · exact h.exact row (mem_storeDrafts_of_accepted hrow hstatus) hstatus hcovers
    · exact h.rules row (mem_storeDrafts_of_accepted hrow hstatus) hstatus
    · -- the chunk is shown again, so it is the piece at its place
      have hkey := chunkKey_eq_true.mp (List.find?_some hrow)
      obtain ⟨hproject, htype, hid, hindex, -⟩ := hkey
      have hfind : (db.hide (oldVersionIds snapshot db)).chunks.find?
          (chunkKey snapshot.projectId draft) = some _ :=
        (find?_hide _ db snapshot.projectId draft).trans (congrArg _ hrow)
      obtain ⟨other, hother, hshows⟩ := h.exact _ (mem_storeDrafts_of_find? hdraft hfind) rfl
        (IndexSnapshot.covers_of_shows hdrafts hdraft hproject htype hid)
      obtain ⟨htype', hid', hindex', hcontent⟩ := hshows
      obtain rfl := IndexSnapshot.draft_eq hread hdrafts hother hdraft (htype'.symm.trans htype)
        (hid'.symm.trans hid) (hindex'.symm.trans hindex)
      exact hcontent
  · intro h
    have hexact : ∀ row ∈ storeDrafts snapshot.projectId drafts
        (db.hide (oldVersionIds snapshot db)).chunks, row.status = .accepted →
        snapshot.Covers row → ∃ draft ∈ drafts, row.Shows draft := by
      intro row hrow hstatus hcovers
      rcases shows_of_mem_storeDrafts h.keys hrow with hold | ⟨draft, hdraft, -, hshows⟩
      · exact h.exact row hold hstatus hcovers
      · exact ⟨draft, hdraft, hshows⟩
    refine ⟨hexact, fun draft hdraft => ?_, fun row hrow hstatus => ?_,
      fun row hrow hstatus hcovers id hid => ?_⟩
    · obtain ⟨row, hrow, hkey, hstatus⟩ := exists_mem_storeDrafts snapshot.projectId
        (db.hide (oldVersionIds snapshot db)).chunks hdraft
      obtain ⟨hproject, htype, hid, hindex, -⟩ := chunkKey_eq_true.mp hkey
      obtain ⟨other, hother, hshows⟩ := hexact row hrow hstatus
        (IndexSnapshot.covers_of_shows hdrafts hdraft hproject htype hid)
      obtain rfl := IndexSnapshot.draft_eq hread hdrafts hother hdraft
        (hshows.1.symm.trans htype) (hshows.2.1.symm.trans hid) (hshows.2.2.1.symm.trans hindex)
      exact ⟨row, hrow, hproject, hstatus, hshows⟩
    · rcases shows_of_mem_storeDrafts h.keys hrow with hold | ⟨draft, hdraft, -, hshows⟩
      · exact h.rules row hold hstatus
      · exact IndexSnapshot.not_deactivated hread hdrafts hdraft hshows.1 hshows.2.1
    · rcases shows_of_mem_storeDrafts h.keys hrow with hold | ⟨draft, hdraft, hproject, hshows⟩
      · obtain ⟨old, -, rfl⟩ := List.mem_map.mp hold
        exact (hidden_eq_accepted.mp hstatus).2 id hid
      · exact absurd (IndexSnapshot.covers_of_shows hdrafts hdraft hproject hshows.1 hshows.2.1)
          hcovers

end MemoryIndexService

/-! ### What a run does when nothing comes between -/

/-- Some transactions of a run, one after the other. -/
def IndexCall.advances (service : MemoryIndexService) :
    ℕ → IndexCall → MemoryDatabase → Option (IndexCall × MemoryDatabase)
  | 0, call, db => some (call, db)
  | n + 1, call, db => (call.advance service db).bind fun (phase, db') =>
      IndexCall.advances service n { call with phase := phase } db'

theorem IndexCall.advances_succ {service : MemoryIndexService} {n : ℕ} {call : IndexCall}
    {db : MemoryDatabase} {phase : Phase} {db' : MemoryDatabase}
    (h : call.advance service db = some (phase, db')) :
    IndexCall.advances service (n + 1) call db =
      IndexCall.advances service n { call with phase := phase } db' := by
  rw [IndexCall.advances, h]
  rfl

/-- A run that is done does not go on. -/
theorem IndexCall.advances_done {service : MemoryIndexService} {n : ℕ} {call : IndexCall}
    {db : MemoryDatabase} (h : call.phase = .done) :
    IndexCall.advances service (n + 1) call db = none := by
  rw [IndexCall.advances, IndexCall.advance, h]
  rfl

/-- The record of a version that is marked. -/
@[simp]
theorem MemoryDatabase.indexRecords_markRecord (db : MemoryDatabase) (versionId : ℕ)
    (status : MemoryIndexStatus) :
    (db.markRecord versionId status).indexRecords versionId = some status :=
  Function.update_self ..

/-- The last mark counts. -/
theorem MemoryDatabase.markRecord_markRecord (db : MemoryDatabase) (versionId : ℕ)
    (status status' : MemoryIndexStatus) :
    (db.markRecord versionId status).markRecord versionId status' =
      db.markRecord versionId status' := by
  simp only [markRecord, Function.update_idem]

/-- The record is marked over what `ensure_pending` has written. -/
theorem MemoryDatabase.markRecord_ensurePending (db : MemoryDatabase) (versionId : ℕ)
    (status : MemoryIndexStatus) :
    (db.ensurePending versionId).markRecord versionId status = db.markRecord versionId status := by
  unfold ensurePending
  split
  · rfl
  · simp only [markRecord, Function.update_idem]

/-- `ensure_pending` completes nothing. -/
theorem MemoryDatabase.completed_ensurePending {db : MemoryDatabase} {versionId : ℕ}
    (h : (db.ensurePending versionId).indexRecords versionId = some .completed) :
    db.indexRecords versionId = some .completed := by
  unfold ensurePending at h
  split at h
  · exact h
  · change (db.markRecord versionId .pending).indexRecords versionId = _ at h
    rw [indexRecords_markRecord] at h
    exact absurd h (by simp)

/-- **A run reads what it indexes and marks its record**, unless the version is indexed
already. -/
theorem IndexCall.advances_marked {service : MemoryIndexService} {versionId : ℕ}
    {force afterAcceptance : Bool} {db : MemoryDatabase} {snapshot : IndexSnapshot}
    (hload : db.loadSnapshot versionId = .ok snapshot)
    (hruns : db.indexRecords versionId = some .completed → force = true) (n : ℕ) :
    IndexCall.advances service (n + 3) ⟨versionId, force, afterAcceptance, .loadSnapshot⟩ db =
      IndexCall.advances service n ⟨versionId, force, afterAcceptance, .embed snapshot⟩
        (db.markRecord versionId .indexing) := by
  have hloads : IndexCall.advance service db
      ⟨versionId, force, afterAcceptance, .loadSnapshot⟩ =
      some (.ensurePending snapshot, db) := by
    simp only [IndexCall.advance, hload]
  have hensures : IndexCall.advance service db
      ⟨versionId, force, afterAcceptance, .ensurePending snapshot⟩ =
      some (.markIndexing snapshot, db.ensurePending versionId) := by
    simp only [IndexCall.advance]
  have hmarks : IndexCall.advance service (db.ensurePending versionId)
      ⟨versionId, force, afterAcceptance, .markIndexing snapshot⟩ =
      some (.embed snapshot, db.markRecord versionId .indexing) := by
    have hgoes : ¬((db.ensurePending versionId).indexRecords versionId = some .completed ∧
        force = false) := by
      rintro ⟨hcompleted, hforce⟩
      rw [hruns (MemoryDatabase.completed_ensurePending hcompleted)] at hforce
      exact absurd hforce (by simp)
    simp only [IndexCall.advance, if_neg hgoes, MemoryDatabase.markRecord_ensurePending]
  rw [IndexCall.advances_succ hloads, IndexCall.advances_succ hensures,
    IndexCall.advances_succ hmarks]

namespace MemorySystem

variable {service : MemoryIndexService} {s s' : MemorySystem} {versionId : ℕ}

theorem goOn_concat (db : MemoryDatabase) (calls : List IndexCall) (call : IndexCall)
    (f : IndexCall → Option (Phase × MemoryDatabase)) :
    (MemorySystem.mk db (calls ++ [call])).goOn calls.length f =
      (f call).map fun (phase, db) => ⟨db, calls ++ [{ call with phase := phase }]⟩ := by
  unfold goOn
  dsimp only
  rw [List.getElem?_concat_length]
  simp only [List.set_append_right _ _ le_rfl, Nat.sub_self, List.set_cons_zero]

/-- The last run goes on, and nothing else happens. -/
theorem guardedRun_proceed (n : ℕ) (db : MemoryDatabase) (calls : List IndexCall)
    (call : IndexCall) :
    (machine service).guardedRun (fun _ _ => True) ⟨db, calls ++ [call]⟩
        (List.replicate n (.proceed calls.length)) =
      (IndexCall.advances service n call db).map fun (call, db) => ⟨db, calls ++ [call]⟩ := by
  induction n generalizing db call with
  | zero => rfl
  | succ n ih =>
      rw [List.replicate_succ, Machine.guardedRun, if_pos trivial]
      change (goOn _ calls.length (·.advance service db)).bind _ = _
      rw [goOn_concat, IndexCall.advances]
      cases hadvance : call.advance service db with
      | none => rfl
      | some next =>
          obtain ⟨phase, db'⟩ := next
          exact ih db' { call with phase := phase }

/-- **A run that nothing comes between** and that completes writes what it has read. -/
theorem reindex_eq (hrun : s.reindex service versionId = some s')
    (hcompleted : s'.db.indexRecords versionId = some .completed) :
    ∃ snapshot drafts, s.db.loadSnapshot versionId = .ok snapshot ∧
      service.buildSources snapshot = .ok drafts ∧
      service.persistIndex snapshot drafts (s.db.markRecord versionId .indexing) = .ok s'.db := by
  rw [reindex, Machine.guardedRun, if_pos trivial] at hrun
  change (machine service).guardedRun _
    ⟨s.db, s.calls ++ [⟨versionId, true, false, .loadSnapshot⟩]⟩ _ = _ at hrun
  rw [guardedRun_proceed] at hrun
  obtain ⟨⟨call, db⟩, hadvances, rfl⟩ := Option.map_eq_some_iff.mp hrun
  dsimp only at hcompleted ⊢
  cases hload : s.db.loadSnapshot versionId with
  | error e =>
      have hfails : IndexCall.advance service s.db ⟨versionId, true, false, .loadSnapshot⟩ =
          some (.done, s.db) := by
        simp only [IndexCall.advance, hload]
        rfl
      rw [IndexCall.advances_succ hfails, IndexCall.advances_done rfl] at hadvances
      exact absurd hadvances (by simp)
  | ok snapshot =>
      rw [IndexCall.advances_marked hload (fun _ => rfl)] at hadvances
      cases hbuild : service.buildSources snapshot with
      | error e =>
          have hfails : IndexCall.advance service (s.db.markRecord versionId .indexing)
              ⟨versionId, true, false, .embed snapshot⟩ =
              some (.done, s.db.markRecord versionId .indexing) := by
            simp only [IndexCall.advance, hbuild]
            rfl
          rw [IndexCall.advances_succ hfails, IndexCall.advances_done rfl] at hadvances
          exact absurd hadvances (by simp)
      | ok drafts =>
          have hembeds : IndexCall.advance service (s.db.markRecord versionId .indexing)
              ⟨versionId, true, false, .embed snapshot⟩ =
              some (.persist snapshot drafts, s.db.markRecord versionId .indexing) := by
            simp only [IndexCall.advance, hbuild]
          rw [IndexCall.advances_succ hembeds, IndexCall.advances] at hadvances
          obtain ⟨⟨phase, written⟩, hwrites, hlast⟩ := Option.bind_eq_some_iff.mp hadvances
          obtain ⟨rfl, rfl⟩ := Prod.mk.inj (Option.some.inj hlast)
          refine ⟨snapshot, drafts, rfl, hbuild, ?_⟩
          simp only [IndexCall.advance] at hwrites
          split at hwrites
          · rename_i hpersist
            obtain ⟨rfl, rfl⟩ := Prod.mk.inj (Option.some.inj hwrites)
            exact hpersist
          · -- the run has failed, and its record is left as it was
            obtain ⟨rfl, rfl⟩ := Prod.mk.inj (Option.some.inj hwrites)
            rw [MemoryDatabase.indexRecords_markRecord] at hcompleted
            exact absurd hcompleted (by simp)

/-! ### The index after a run -/

/-- What a run reads is not changed by what it writes. -/
theorem current_persistIndex {snapshot : IndexSnapshot} {drafts : List SourceDraft}
    {db db' : MemoryDatabase} (hpersist : service.persistIndex snapshot drafts db = .ok db') :
    db'.current service versionId = db.current service versionId := by
  obtain ⟨entities, relations, -, rfl⟩ := MemoryIndexService.persistIndex_eq_ok hpersist
  rfl

/-- Records say nothing about what is left from earlier texts. -/
theorem fresh_markRecord {db : MemoryDatabase} {status : MemoryIndexStatus}
    {snapshot : IndexSnapshot} {drafts : List SourceDraft} :
    (db.markRecord versionId status).Fresh snapshot drafts ↔ db.Fresh snapshot drafts :=
  ⟨fun h => ⟨h.exact, h.rules, h.keys⟩, fun h => ⟨h.exact, h.rules, h.keys⟩⟩

/-- **The index reflects the sources after a run with `force`** that nothing comes between,
exactly when nothing was left from earlier texts before it. -/
theorem reindex_iff (hrun : s.reindex service versionId = some s')
    (hcompleted : s'.db.indexRecords versionId = some .completed) :
    (∃ current ∈ (s'.db.current service versionId).toOption,
        s'.db.Reflects current.1 current.2) ↔
      ∃ current ∈ (s.db.current service versionId).toOption,
        s.db.Fresh current.1 current.2 := by
  obtain ⟨snapshot, drafts, hload, hbuild, hpersist⟩ := reindex_eq hrun hcompleted
  have hcurrent : s.db.current service versionId = .ok (snapshot, drafts) :=
    Except.bind_eq_ok.mpr ⟨snapshot, hload, Except.bind_eq_ok.mpr ⟨drafts, hbuild, rfl⟩⟩
  have hsame : s'.db.current service versionId = .ok (snapshot, drafts) :=
    (current_persistIndex hpersist).trans hcurrent
  have hread : snapshot.ReadFrom (s.db.markRecord versionId .indexing) :=
    IndexSnapshot.readFrom_of_loadSnapshot hload
  have hiff := (MemoryIndexService.persistIndex_reflects_iff hread hbuild hpersist).trans
    fresh_markRecord
  rw [hcurrent, hsame]
  constructor
  · rintro ⟨current, hmem, hreflects⟩
    obtain rfl := Option.some.inj hmem
    exact ⟨(snapshot, drafts), rfl, hiff.mp hreflects⟩
  · rintro ⟨current, hmem, hfresh⟩
    obtain rfl := Option.some.inj hmem
    exact ⟨(snapshot, drafts), rfl, hiff.mpr hfresh⟩

/-! ### Instances -/

/-- A chapter with two versions that have passed; the second one wounds a character. -/
def wounded : MemorySystem where
  db :=
    { twoVersions.db with
      versions :=
        [⟨0, 1, ⟨"One", "First", "Summary"⟩, .evaluated, "generated", none, some 0, [], [], true,
            none⟩,
          ⟨0, 2, ⟨"One", "Second", "Summary"⟩, .evaluated, "generated", none, some 1,
            [⟨"Mara", "current_state", "wounded", rfl⟩], [], true, none⟩]
      characters := [⟨0, "Mara", "well"⟩]
      descriptions := fun _ => "pilot" }
  calls := []

/-- Neither version is accepted. -/
theorem init_wounded : (machine wholeTexts).init wounded := by
  have hselection : wounded.db.selection = twoVersions.db.selection := by
    unfold StoryDatabase.selection
    congr 1
    · funext id
      rcases id with _ | _ | id <;> rfl
    · funext id
      rcases id with _ | _ | id <;> rfl
  refine ⟨?_, rfl, rfl, rfl, rfl⟩
  rw [hselection]
  exact init_twoVersions.1

/-- A version is accepted and indexed. -/
def acceptAndIndex (versionId : ℕ) : List IndexAction :=
  .acceptVersion versionId versionId :: List.replicate 5 (.proceed versionId)

/-- A version is accepted and indexed, and indexed again. -/
theorem reindex_iff_unchanged : ∃ s s', (machine wholeTexts).Reachable s ∧
    s.reindex wholeTexts 0 = some s' ∧ s'.db.indexRecords 0 = some .completed ∧
    (∃ current ∈ (s.db.current wholeTexts 0).toOption, s.db.Fresh current.1 current.2) ∧
    ∃ current ∈ (s'.db.current wholeTexts 0).toOption, s'.db.Reflects current.1 current.2 := by
  obtain ⟨s, hs, hrun, hfresh⟩ := (machine wholeTexts).exists_reachable (acceptAndIndex 0)
    (fun s => (s.reindex wholeTexts 0).any (fun s' =>
        s'.db.indexRecords 0 = some .completed) = true ∧
      ∃ current ∈ (s.db.current wholeTexts 0).toOption, s.db.Fresh current.1 current.2)
    init_wounded (by decide +kernel)
  obtain ⟨s', hs', hcompleted⟩ := (Option.any_eq_true _ _).mp hrun
  have hdone := of_decide_eq_true hcompleted
  exact ⟨s, s', hs, hs', hdone, hfresh, (reindex_iff hs' hdone).mpr hfresh⟩

/-- **The state of a character changes when a version is accepted**, and the chunk of the old
state stays accepted when the version is indexed. -/
theorem state_stays : ∃ s s', (machine wholeTexts).Reachable s ∧ s.Idle ∧
    s.reindex wholeTexts 1 = some s' ∧ s'.db.indexRecords 1 = some .completed ∧
    ¬∃ current ∈ (s'.db.current wholeTexts 1).toOption,
      s'.db.Reflects current.1 current.2 := by
  obtain ⟨s, hs, hidle, hrun⟩ := (machine wholeTexts).exists_reachable
    (acceptAndIndex 0 ++ acceptAndIndex 1)
    (fun s => s.Idle ∧ (s.reindex wholeTexts 1).any (fun s' =>
      s'.db.indexRecords 1 = some .completed ∧
        ¬∃ current ∈ (s'.db.current wholeTexts 1).toOption,
          s'.db.Reflects current.1 current.2) = true)
    init_wounded (by decide +kernel)
  obtain ⟨s', hs', hfails⟩ := (Option.any_eq_true _ _).mp hrun
  obtain ⟨hcompleted, hstale⟩ := of_decide_eq_true hfails
  exact ⟨s, s', hs, hidle, hs', hcompleted, hstale⟩

end MemorySystem

end StoryForge.Memory
