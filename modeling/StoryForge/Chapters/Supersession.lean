import StoryForge.Chapters.Promotion

/-!
# One version accepted after another

A chapter accepts a version and then another one. This module compares the canonical state
with the one that the second acceptance alone leaves: accepted facts, character states,
foreshadowings, and the accepted memory of the chapter. Facts and memory are withdrawn with
the version; what was written to characters and foreshadowings stays.

## Main results

* `CanonDatabase.shown_acceptVersion` — the memory an acceptance leaves;
* `CanonDatabase.supersession_iff` — the first acceptance leaves no residue exactly when it is
  `Traceless`;
* `CanonDatabase.supersession_fails` — a character state stays.
-/

namespace StoryForge

open ForeshadowingUpdate

/-! ### Characters -/

/-- What the updates say about a character in the end. -/
def lastValue (projectId : ℕ) (characters : List Character) (updates : List CharacterStateUpdate)
    (id : ℕ) : Option String :=
  ((updates.filter fun update =>
    characterNamed projectId characters update.characterName == some id).getLast?).map (·.value)

/-- A name stands for the same row when the states of the rows are different. -/
theorem characterNamed_congr {characters other : List Character}
    (h : characters.map (fun row => (row.projectId, row.name)) =
      other.map fun row => (row.projectId, row.name)) (projectId : ℕ) (name : String) :
    characterNamed projectId characters name = characterNamed projectId other name := by
  have hids := fun rows : List Character => Rows.idsWhere_map rows
    (fun row => (row.projectId, row.name)) fun row => row.1 == projectId && row.2 == name
  unfold characterNamed
  rw [← hids characters, h, hids other]

/-- The characters after the updates. -/
theorem getElem?_applyCharacterUpdates (projectId : ℕ) (updates : List CharacterStateUpdate)
    (characters : List Character) (id : ℕ) :
    (ChapterVersionService.applyCharacterUpdates projectId updates characters)[id]? =
      characters[id]?.map fun row =>
        { row with
          currentState := (lastValue projectId characters updates id).getD row.currentState } := by
  unfold ChapterVersionService.applyCharacterUpdates
  induction updates using List.reverseRecOn with
  | nil => simp [lastValue]
  | append_singleton updates update ih =>
      rw [List.foldl_append, List.foldl_cons, List.foldl_nil]
      simp only [lastValue, List.filter_append, update.field_pattern, if_true] at ih ⊢
      cases hnamed : characterNamed projectId characters update.characterName with
      | none => simpa [hnamed] using ih
      | some k =>
          by_cases hk : k = id
          · subst hk
            dsimp only
            rw [List.getElem?_modify_eq, ih]
            cases characters[k]? <;> simp [hnamed]
          · dsimp only
            rw [List.getElem?_modify_ne _ _ hk, ih]
            simp [hnamed, hk]

theorem lastValue_congr {characters other : List Character}
    (h : characters.map (fun row => (row.projectId, row.name)) =
      other.map fun row => (row.projectId, row.name)) (projectId : ℕ)
    (updates : List CharacterStateUpdate) (id : ℕ) :
    lastValue projectId characters updates id = lastValue projectId other updates id := by
  unfold lastValue
  simp only [characterNamed_congr h]

theorem identity_applyCharacterUpdates (projectId : ℕ) (updates : List CharacterStateUpdate)
    (characters : List Character) :
    (ChapterVersionService.applyCharacterUpdates projectId updates characters).map
        (fun row => (row.projectId, row.name)) =
      characters.map fun row => (row.projectId, row.name) := by
  refine List.ext_getElem? fun id => ?_
  rw [List.getElem?_map, List.getElem?_map, getElem?_applyCharacterUpdates, Option.map_map]
  rfl

/-- **Characters** after both lists of updates, and after the second one alone. -/
theorem applyCharacterUpdates_twice (projectId : ℕ) (first second : List CharacterStateUpdate)
    (characters : List Character) :
    ChapterVersionService.applyCharacterUpdates projectId second
        (ChapterVersionService.applyCharacterUpdates projectId first characters) =
        ChapterVersionService.applyCharacterUpdates projectId second characters ↔
      ∀ (id : ℕ) (row : Character), characters[id]? = some row →
        lastValue projectId characters second id = none →
        ∀ value, lastValue projectId characters first id = some value →
          row.currentState = value := by
  have hrow : ∀ id : ℕ, (ChapterVersionService.applyCharacterUpdates projectId second
      (ChapterVersionService.applyCharacterUpdates projectId first characters))[id]? =
      characters[id]?.map fun row => { row with
        currentState := (lastValue projectId characters second id).getD
          ((lastValue projectId characters first id).getD row.currentState) } := fun id => by
    rw [getElem?_applyCharacterUpdates, getElem?_applyCharacterUpdates,
      lastValue_congr (identity_applyCharacterUpdates projectId first characters), Option.map_map]
    rfl
  constructor
  · intro heq id row hget hsecond value hfirst
    have hsame := congrArg (·[id]?) heq
    rw [hrow, getElem?_applyCharacterUpdates, hget, hsecond, hfirst] at hsame
    exact (congrArg Character.currentState (Option.some.inj hsame)).symm
  · intro h
    refine List.ext_getElem? fun id => ?_
    rw [hrow, getElem?_applyCharacterUpdates]
    cases hget : characters[id]? with
    | none => rfl
    | some row =>
        cases hsecond : lastValue projectId characters second id with
        | some value => rfl
        | none =>
            cases hfirst : lastValue projectId characters first id with
            | none => rfl
            | some value =>
                have hstate := h id row hget hsecond value hfirst
                simp [hstate]

/-! ### Foreshadowings -/

section Foreshadowings

variable {projectId chapterNumber id : ℕ} {rows other : List Foreshadowing}
  {first second : List ForeshadowingUpdate}

/-- What the first updates say about a row is said again by the second ones, or was so
before. -/
structure Foreshadowing.Covered (chapterNumber id : ℕ) (first second : List ForeshadowingUpdate)
    (row : Foreshadowing) : Prop where
  status : lastMove id second = none → ∀ action, lastMove id first = some action →
    row.status = if action = .resolve then .resolved else .open
  payoff : .resolve ∉ actions id second → .resolve ∈ actions id first →
    row.payoffChapter = some chapterNumber

/-- Rows that differ in their status and payoff at most. -/
theorem Foreshadowing.eq_iff {row other : Foreshadowing}
    (hproject : row.projectId = other.projectId) (hsetup : row.setupChapter = other.setupChapter)
    (hexpected : row.expectedPayoffChapter = other.expectedPayoffChapter)
    (hdescription : row.description = other.description) :
    row = other ↔ row.status = other.status ∧ row.payoffChapter = other.payoffChapter := by
  cases row
  cases other
  simp_all

namespace ChapterVersionService

/-- The status of a row after some updates. -/
theorem status_eq_lastMove (updates : List ForeshadowingUpdate) (row : Foreshadowing) :
    (row.written (writeForeshadowing chapterNumber) (actions id updates)).status =
      match lastMove id updates with
      | none => row.status
      | some .resolve => .resolved
      | some _ => .open := status_written _ _

/-- **One row** under both lists of updates, and under the second one alone. -/
theorem moved_moved_eq_iff {row : Foreshadowing} (hproject : row.projectId = projectId) :
    (row.moved (writeForeshadowing chapterNumber) projectId id first).moved
        (writeForeshadowing chapterNumber) projectId id second =
      row.moved (writeForeshadowing chapterNumber) projectId id second ↔
    row.Covered chapterNumber id first second := by
  have hwrite := keeps_writeForeshadowing chapterNumber
  have hfirst := @Foreshadowing.projectId_moved _ projectId id hwrite first row
  obtain ⟨hp, hs, he, hd⟩ := Foreshadowing.written_keeps hwrite (actions id first) row
  obtain ⟨hp', hs', he', hd'⟩ := Foreshadowing.written_keeps hwrite (actions id second) row
  obtain ⟨hp'', hs'', he'', hd''⟩ := Foreshadowing.written_keeps hwrite (actions id second)
    (row.written (writeForeshadowing chapterNumber) (actions id first))
  have hstatus := fun (updates : List ForeshadowingUpdate) (row : Foreshadowing) =>
    @status_eq_lastMove chapterNumber id updates row
  have hpayoff := fun row => @payoffChapter_written chapterNumber
    (actions id second) row
  have hpayoffFirst := @payoffChapter_written chapterNumber
    (actions id first) row
  rw [Foreshadowing.moved, if_pos (hfirst.trans hproject), Foreshadowing.moved, if_pos hproject,
    Foreshadowing.moved, if_pos hproject, Foreshadowing.eq_iff (by rw [hp'', hp', hp])
      (by rw [hs'', hs', hs]) (by rw [he'', he', he]) (by rw [hd'', hd', hd]),
    hstatus, hstatus, hstatus, hpayoff, hpayoff, hpayoffFirst]
  refine Iff.trans (and_congr ?_ ?_) ⟨fun h => ⟨h.1, h.2⟩, fun h => ⟨h.status, h.payoff⟩⟩
  · cases lastMove id second with
    | some action => cases action <;> simp
    | none =>
        cases lastMove id first with
        | none => simp
        | some action => cases action <;> simp [eq_comm]
  · by_cases hsecond : .resolve ∈ actions id second
    · simp [hsecond]
    · by_cases hresolved : .resolve ∈ actions id first
      · simp [hsecond, hresolved, eq_comm]
      · simp [hsecond, hresolved]

theorem applyForeshadowingUpdates_nil (rows : List Foreshadowing) :
    applyForeshadowingUpdates projectId chapterNumber [] rows = rows := rfl

/-- Updates add no row exactly when every setup names one that exists. -/
theorem length_applyForeshadowingUpdates_eq_iff (rows : List Foreshadowing)
    (updates : List ForeshadowingUpdate) :
    (applyForeshadowingUpdates projectId chapterNumber updates rows).length = rows.length ↔
      ∀ update ∈ updates, update.action = .setup →
        ∃ id, update.foreshadowingId = some id ∧ id < rows.length := by
  induction updates using List.reverseRecOn with
  | nil => simp [applyForeshadowingUpdates_nil]
  | append_singleton updates update ih =>
      have hle := @length_le_applyForeshadowingUpdates projectId chapterNumber updates rows
      rw [applyForeshadowingUpdates_concat]
      generalize applyForeshadowingUpdates projectId chapterNumber updates rows = before
        at ih hle
      have hstep := @length_le_applyForeshadowingUpdate projectId chapterNumber before update
      constructor
      · intro hlength
        have hbefore : before.length = rows.length := by omega
        intro other hother haction
        rcases List.mem_append.mp hother with hother | hother
        · exact ih.mp hbefore other hother haction
        · obtain rfl := List.mem_singleton.mp hother
          cases hrecord : other.record before with
          | some found =>
              obtain ⟨id, row⟩ := found
              obtain ⟨hid, hrow⟩ := record_eq_some.mp hrecord
              exact ⟨id, hid, hbefore ▸ (List.getElem?_eq_some_iff.mp hrow).1⟩
          | none =>
              simp only [applyForeshadowingUpdate, hrecord, haction, List.length_append,
                List.length_singleton] at hlength
              omega
      · intro hsetups
        have hbefore := ih.mpr fun other hother => hsetups other (List.mem_append_left _ hother)
        have hupdate := hsetups update (by simp)
        rw [← hbefore]
        unfold applyForeshadowingUpdate
        split
        · split <;> simp
        · rename_i hrecord haction
          obtain ⟨id, hid, hlt⟩ := hupdate haction
          have hge := record_eq_none.mp hrecord id hid
          omega
        · rfl

/-- One update on two tables with the rows of the same projects. -/
theorem applyForeshadowingUpdate_congr (update : ForeshadowingUpdate) {x y : List Foreshadowing}
    {length : ℕ} (hsame : x.map (·.projectId) = y.map (·.projectId))
    (htail : ∀ id, length ≤ id → x[id]? = y[id]?) :
    (applyForeshadowingUpdate projectId chapterNumber x update).map (·.projectId) =
        (applyForeshadowingUpdate projectId chapterNumber y update).map (·.projectId) ∧
      ∀ id, length ≤ id → (applyForeshadowingUpdate projectId chapterNumber x update)[id]? =
        (applyForeshadowingUpdate projectId chapterNumber y update)[id]? := by
  have hlength : x.length = y.length := by simpa using congrArg List.length hsame
  have hget : ∀ id : ℕ, x[id]?.map Foreshadowing.projectId =
      y[id]?.map Foreshadowing.projectId := fun id => by
    rw [← List.getElem?_map, ← List.getElem?_map]
    exact congrArg (·[id]?) hsame
  cases hrecord : update.record x with
  | some found =>
      obtain ⟨k, record⟩ := found
      obtain ⟨hk, hrow⟩ := record_eq_some.mp hrecord
      have hproject := hget k
      rw [hrow, Option.map_some] at hproject
      obtain ⟨record', hrow', hproject'⟩ := Option.map_eq_some_iff.mp hproject.symm
      have hrecord' : update.record y = some (k, record') := record_eq_some.mpr ⟨hk, hrow'⟩
      simp only [applyForeshadowingUpdate, hrecord, hrecord', hproject']
      split
      · exact ⟨hsame, htail⟩
      · refine ⟨List.ext_getElem? fun id => ?_, fun id hid => ?_⟩
        · have hkeeps := (keeps_writeForeshadowing chapterNumber).projectId update.action
          have := hget id
          rw [List.getElem?_map, List.getElem?_map, List.getElem?_modify, List.getElem?_modify]
          by_cases hid : k = id
          · cases hx : x[id]? <;> cases hy : y[id]? <;> simp_all
          · simpa [hid] using this
        · rw [List.getElem?_modify, List.getElem?_modify, htail id hid]
  | none =>
      have hrecord' : update.record y = none := by
        rw [record_eq_none] at hrecord ⊢
        intro id hid
        have := hrecord id hid
        omega
      cases haction : update.action with
      | setup =>
          simp only [applyForeshadowingUpdate, hrecord, hrecord', haction]
          refine ⟨by rw [List.map_append, List.map_append, hsame], fun id hid => ?_⟩
          rw [List.getElem?_append, List.getElem?_append, hlength, htail id hid]
      | advance =>
          simp only [applyForeshadowingUpdate, hrecord, hrecord', haction]
          exact ⟨hsame, htail⟩
      | resolve =>
          simp only [applyForeshadowingUpdate, hrecord, hrecord', haction]
          exact ⟨hsame, htail⟩

/-- Two tables with the rows of the same projects grow alike. -/
theorem getElem?_applyForeshadowingUpdates_of_ge (updates : List ForeshadowingUpdate)
    (hprojects : rows.map (·.projectId) = other.map (·.projectId)) :
    (applyForeshadowingUpdates projectId chapterNumber updates rows).map (·.projectId) =
        (applyForeshadowingUpdates projectId chapterNumber updates other).map (·.projectId) ∧
      ∀ id, rows.length ≤ id →
        (applyForeshadowingUpdates projectId chapterNumber updates rows)[id]? =
          (applyForeshadowingUpdates projectId chapterNumber updates other)[id]? := by
  induction updates using List.reverseRecOn with
  | nil =>
      have hlength : rows.length = other.length := by simpa using congrArg List.length hprojects
      refine ⟨hprojects, fun id hid => ?_⟩
      rw [applyForeshadowingUpdates_nil, applyForeshadowingUpdates_nil,
        List.getElem?_eq_none hid, List.getElem?_eq_none (by omega)]
  | append_singleton updates update ih =>
      rw [applyForeshadowingUpdates_concat, applyForeshadowingUpdates_concat]
      obtain ⟨hsame, htail⟩ := ih
      generalize applyForeshadowingUpdates projectId chapterNumber updates rows = x at hsame htail
      generalize applyForeshadowingUpdates projectId chapterNumber updates other = y
        at hsame htail
      exact applyForeshadowingUpdate_congr update hsame htail

/-- Both lists of updates leave what the second one alone leaves, if the first one adds no row
and what it says of each row is covered. -/
theorem applyForeshadowingUpdates_twice
    (hadds : ∀ update ∈ first, update.action = .setup →
      ∃ id, update.foreshadowingId = some id ∧ id < rows.length) :
    applyForeshadowingUpdates projectId chapterNumber second
        (applyForeshadowingUpdates projectId chapterNumber first rows) =
        applyForeshadowingUpdates projectId chapterNumber second rows ↔
      ∀ (id : ℕ) (row : Foreshadowing), rows[id]? = some row → row.projectId = projectId →
        row.Covered chapterNumber id first second := by
  have hwrite := keeps_writeForeshadowing chapterNumber
  have hlength :=
    (@length_applyForeshadowingUpdates_eq_iff projectId chapterNumber rows first).mpr hadds
  have hrow : ∀ id, id < rows.length →
      (applyForeshadowingUpdates projectId chapterNumber second
        (applyForeshadowingUpdates projectId chapterNumber first rows))[id]? =
      rows[id]?.map fun row =>
        (row.moved (writeForeshadowing chapterNumber) projectId id first).moved
          (writeForeshadowing chapterNumber) projectId id second := fun id hid => by
    rw [getElem?_applyForeshadowingUpdates (by omega), getElem?_applyForeshadowingUpdates hid,
      Option.map_map]
    rfl
  have hprojects : (applyForeshadowingUpdates projectId chapterNumber first rows).map
      (·.projectId) = rows.map (·.projectId) := by
    refine List.ext_getElem? fun id => ?_
    rw [List.getElem?_map, List.getElem?_map]
    by_cases hid : id < rows.length
    · rw [getElem?_applyForeshadowingUpdates hid, Option.map_map]
      congr 1
      funext row
      exact Foreshadowing.projectId_moved hwrite first row
    · rw [List.getElem?_eq_none (by omega), List.getElem?_eq_none (by omega)]
  constructor
  · intro heq id row hget hproject
    have hid := (List.getElem?_eq_some_iff.mp hget).1
    have hsame := congrArg (·[id]?) heq
    rw [hrow id hid, getElem?_applyForeshadowingUpdates hid, hget] at hsame
    exact (moved_moved_eq_iff hproject).mp (Option.some.inj hsame)
  · intro hcovered
    refine List.ext_getElem? fun id => ?_
    by_cases hid : id < rows.length
    · rw [hrow id hid, getElem?_applyForeshadowingUpdates hid, List.getElem?_eq_getElem hid]
      by_cases hproject : rows[id].projectId = projectId
      · exact congrArg some ((moved_moved_eq_iff hproject).mpr
          (hcovered id _ (List.getElem?_eq_getElem hid) hproject))
      · simp only [Option.map_some, Foreshadowing.moved, hproject, if_false]
    · exact (getElem?_applyForeshadowingUpdates_of_ge second hprojects).2 id (by omega)

/-- If both lists of updates leave what the second one alone leaves, and the second one names
rows that exist, then the first one adds no row. -/
theorem adds_nothing (hnamed : Named rows second)
    (heq : applyForeshadowingUpdates projectId chapterNumber second
        (applyForeshadowingUpdates projectId chapterNumber first rows) =
      applyForeshadowingUpdates projectId chapterNumber second rows) :
    ∀ update ∈ first, update.action = .setup →
      ∃ id, update.foreshadowingId = some id ∧ id < rows.length := by
  have hle := @length_le_applyForeshadowingUpdates projectId chapterNumber first rows
  have hnamed' : Named (applyForeshadowingUpdates projectId chapterNumber first rows) second :=
    fun update hupdate id hid => by
      have := hnamed update hupdate id hid
      omega
  rw [applyForeshadowingUpdates_eq hnamed, applyForeshadowingUpdates_eq hnamed'] at heq
  have hlength := congrArg List.length heq
  simp only [List.length_append, movedRows, List.length_mapIdx] at hlength
  exact (@length_applyForeshadowingUpdates_eq_iff projectId chapterNumber rows first).mp (by omega)

end ChapterVersionService

end Foreshadowings

/-! ### Facts -/

namespace ChapterVersionService

/-- What an acceptance makes of a fact. -/
def acceptFact (workflowRunId versionId : ℕ) (previous : Option ℕ) (fact : Fact) : Fact :=
  if fact.chapterVersionId = versionId then { fact with status := .accepted }
  else if fact.workflowRunId = some workflowRunId ∧ fact.status = .candidate then
    { fact with status := .rejected }
  else if previous = some fact.chapterVersionId ∧ fact.status = .accepted then
    { fact with status := .superseded }
  else fact

variable {workflowRunId versionId : ℕ} {previous : Option ℕ} {fact : Fact}

/-- A fact is accepted after an acceptance if it belongs to the version, or was accepted and
does not belong to the one accepted before. -/
theorem status_acceptFact :
    (acceptFact workflowRunId versionId previous fact).status = .accepted ↔
      fact.chapterVersionId = versionId ∨
        fact.status = .accepted ∧ previous ≠ some fact.chapterVersionId := by
  unfold acceptFact
  split
  · rename_i hversion
    simp [hversion]
  · rename_i hversion
    split
    · rename_i hcandidate
      simp [hversion, hcandidate.2]
    · split
      · rename_i hprevious
        simp [hversion, hprevious.1]
      · rename_i hprevious
        simp only [hversion, false_or]
        constructor
        · intro hstatus
          exact ⟨hstatus, fun h => hprevious ⟨h, hstatus⟩⟩
        · exact And.left

/-- An acceptance changes nothing but the status of a fact. -/
theorem acceptFact_eq (workflowRunId versionId : ℕ) (previous : Option ℕ) (fact : Fact) :
    ∃ status, acceptFact workflowRunId versionId previous fact = { fact with status } := by
  unfold acceptFact
  split
  · exact ⟨_, rfl⟩
  · split
    · exact ⟨_, rfl⟩
    · split
      · exact ⟨_, rfl⟩
      · exact ⟨fact.status, rfl⟩

/-- The facts of a version are accepted with it. -/
theorem acceptFact_accepts (workflowRunId versionId : ℕ) (previous : Option ℕ) (fact : Fact) :
    ∃ status, acceptFact workflowRunId versionId previous fact = { fact with status } ∧
      (fact.chapterVersionId = versionId → status = .accepted) := by
  obtain ⟨status, heq⟩ := acceptFact_eq workflowRunId versionId previous fact
  refine ⟨status, heq, fun hversion => ?_⟩
  have haccepted := @status_acceptFact workflowRunId versionId previous fact
  rw [heq] at haccepted
  exact haccepted.mpr (.inl hversion)

end ChapterVersionService

/-! ### Memory -/

/-- A draft is in the accepted memory. -/
def Shown (chunks : List MemoryChunk) (draft : ChunkDraft) : Prop :=
  ∃ chunk ∈ chunks, chunk.toChunkDraft = draft ∧ chunk.status = .accepted

namespace CanonDatabase

theorem shown_hide (versions : List ℕ) (chunks : List MemoryChunk) (draft : ChunkDraft) :
    Shown (chunks.map (hide versions)) draft ↔
      Shown chunks draft ∧ draft.source.versionId ∉ versions := by
  constructor
  · rintro ⟨_, hmem, hdraft, hstatus⟩
    obtain ⟨chunk, hchunk, rfl⟩ := List.mem_map.mp hmem
    unfold hide at hdraft hstatus
    split at hstatus
    · exact absurd hstatus (by simp)
    · rename_i hnot
      rw [if_neg hnot] at hdraft
      exact ⟨⟨chunk, hchunk, hdraft, hstatus⟩, fun hversion => hnot ⟨hdraft ▸ hversion, hstatus⟩⟩
  · rintro ⟨⟨chunk, hchunk, rfl, hstatus⟩, hversion⟩
    refine ⟨chunk, List.mem_map.mpr ⟨chunk, hchunk, ?_⟩, rfl, hstatus⟩
    rw [hide, if_neg fun h => hversion h.1]

theorem shown_storeChunk (chunks : List MemoryChunk) (stored draft : ChunkDraft) :
    Shown (storeChunk chunks stored) draft ↔ Shown chunks draft ∨ draft = stored := by
  unfold storeChunk
  split
  · rename_i id hid
    obtain ⟨hlt, hmatch, -⟩ := List.findIdx?_eq_some_iff_getElem.mp hid
    have hdraft : chunks[id].toChunkDraft = stored := by simpa using hmatch
    constructor
    · rintro ⟨chunk, hmem, rfl, hstatus⟩
      obtain ⟨k, hk⟩ := List.mem_iff_getElem?.mp hmem
      rw [List.getElem?_modify] at hk
      obtain ⟨old, hold, rfl⟩ := Option.map_eq_some_iff.mp hk
      by_cases hkid : id = k
      · subst hkid
        obtain rfl := Option.some.inj ((List.getElem?_eq_getElem hlt).symm.trans hold)
        simp only [if_true]
        exact .inr hdraft
      · simp only [hkid, if_false] at hstatus ⊢
        exact .inl ⟨old, List.mem_of_getElem? hold, rfl, hstatus⟩
    · rintro (⟨chunk, hmem, rfl, hstatus⟩ | rfl)
      · obtain ⟨k, hk⟩ := List.mem_iff_getElem?.mp hmem
        refine ⟨if id = k then { chunk with status := .accepted } else chunk,
          List.mem_of_getElem? (i := k) ?_, ?_, ?_⟩
        · rw [List.getElem?_modify, hk]
          by_cases hkid : id = k <;> simp [hkid]
        · by_cases hkid : id = k <;> simp [hkid]
        · by_cases hkid : id = k <;> simp [hkid, hstatus]
      · refine ⟨{ chunks[id] with status := .accepted }, List.mem_of_getElem? (i := id) ?_,
          hdraft, rfl⟩
        rw [List.getElem?_modify_eq, List.getElem?_eq_getElem hlt]
        rfl
  · simp only [Shown, List.mem_append, List.mem_singleton]
    constructor
    · rintro ⟨chunk, hmem | rfl, rfl, hstatus⟩
      · exact .inl ⟨chunk, hmem, rfl, hstatus⟩
      · exact .inr rfl
    · rintro (⟨chunk, hmem, rfl, hstatus⟩ | rfl)
      · exact ⟨chunk, .inl hmem, rfl, hstatus⟩
      · exact ⟨⟨_, .accepted⟩, .inr rfl, rfl, rfl⟩

theorem shown_foldl_storeChunk (drafts : List ChunkDraft) (chunks : List MemoryChunk)
    (draft : ChunkDraft) :
    Shown (drafts.foldl storeChunk chunks) draft ↔ Shown chunks draft ∨ draft ∈ drafts := by
  induction drafts generalizing chunks with
  | nil => simp
  | cons stored drafts ih =>
      rw [List.foldl_cons, ih, shown_storeChunk, List.mem_cons, or_assoc]

/-- Whether the version gets indexed: it was not before, and there are vectors for it. -/
def Indexes (indexer : MemoryIndexer) (versionId : ℕ) (db : CanonDatabase) : Prop :=
  db.indexRecords versionId ≠ some .completed ∧ indexer.embeds versionId = true

theorem memoryChunks_ensurePending (versionId : ℕ) (db : CanonDatabase) :
    (ensurePending versionId db).memoryChunks = db.memoryChunks := by
  unfold ensurePending
  split <;> rfl

theorem completed_ensurePending (versionId : ℕ) (db : CanonDatabase) :
    (ensurePending versionId db).indexRecords versionId = some .completed ↔
      db.indexRecords versionId = some .completed := by
  unfold ensurePending
  split
  · exact Iff.rfl
  · rename_i hnone
    simp [hnone]

/-- **The memory after the indexing** of a version. -/
theorem shown_indexAcceptedChapterVersion {indexer : MemoryIndexer} {versionId : ℕ}
    {db : CanonDatabase} {version : ChapterVersion} (hversion : db.versions[versionId]? = some version)
    (draft : ChunkDraft) :
    Shown (indexAcceptedChapterVersion indexer versionId (ensurePending versionId db)).memoryChunks
        draft ↔
      (Shown db.memoryChunks draft ∧ ¬(db.Indexes indexer versionId ∧
        draft.source.versionId ∈ supersededVersions version.chapterId versionId db.versions)) ∨
      db.Indexes indexer versionId ∧
        draft ∈ buildSources indexer.chunker versionId version db.facts := by
  set pending := ensurePending versionId (ensurePending versionId db) with hpending
  have hfirst := holds_ensurePending versionId db
  have hstory : pending.toStoryDatabase = db.toStoryDatabase :=
    (holds_ensurePending versionId (ensurePending versionId db)).story.trans hfirst.story
  have hchunks : pending.memoryChunks = db.memoryChunks := by
    rw [hpending, memoryChunks_ensurePending, memoryChunks_ensurePending]
  have hcompleted : pending.indexRecords versionId = some .completed ↔
      db.indexRecords versionId = some .completed := by
    rw [hpending, completed_ensurePending, completed_ensurePending]
  have hversion' : (ensurePending versionId db).versions[versionId]? = some version := by
    rw [hfirst.story]
    exact hversion
  unfold indexAcceptedChapterVersion
  rw [hversion']
  dsimp only
  rw [← hpending, hstory]
  by_cases hdone : db.indexRecords versionId = some .completed
  · rw [if_pos (hcompleted.mpr hdone), hchunks]
    simp [Indexes, hdone]
  · rw [if_neg (fun h => hdone (hcompleted.mp h))]
    by_cases hembeds : indexer.embeds versionId = true
    · rw [if_pos hembeds]
      dsimp only
      rw [shown_foldl_storeChunk, shown_hide, hchunks]
      simp only [Indexes, hdone, ne_eq, not_false_eq_true, hembeds, and_self, true_and]
    · rw [if_neg hembeds]
      simp [Indexes, hembeds, hchunks]

theorem indexRecords_indexAcceptedChapterVersion (indexer : MemoryIndexer) {versionId other : ℕ}
    (hne : other ≠ versionId) (db : CanonDatabase) :
    (indexAcceptedChapterVersion indexer versionId (ensurePending versionId db)).indexRecords
        other = db.indexRecords other := by
  have hpending : ∀ db : CanonDatabase,
      (ensurePending versionId db).indexRecords other = db.indexRecords other := fun db => by
    unfold ensurePending
    split
    · rfl
    · simp [hne]
  unfold indexAcceptedChapterVersion
  split
  · exact hpending db
  · dsimp only
    split
    · rw [hpending, hpending]
    · split <;> simp [hne, hpending]

/-- What is built for a version belongs to it. -/
theorem versionId_of_mem_buildSources {chunker : String → List String} {versionId : ℕ}
    {version : ChapterVersion} {facts : List Fact} {draft : ChunkDraft}
    (h : draft ∈ buildSources chunker versionId version facts) :
    draft.source.versionId = versionId := by
  have hchunk : ∀ (source : ChunkSource) (content : String),
      draft ∈ chunk chunker source content → draft.source = source := by
    intro source content hmem
    obtain ⟨index, hlt, rfl⟩ := List.mem_mapIdx.mp hmem
    rfl
  simp only [buildSources, List.mem_append, List.mem_flatMap] at h
  rcases h with (hcontent | hsummary) | ⟨⟨fact, id⟩, -, hfact⟩
  · rw [hchunk _ _ hcontent]
    rfl
  · rw [hchunk _ _ hsummary]
    rfl
  · rw [hchunk _ _ hfact]
    rfl

/-- What is built for a version depends on its own facts, and these are all accepted with it. -/
theorem buildSources_map {chunker : String → List String} {versionId : ℕ}
    {version : ChapterVersion} {facts : List Fact} {write : Fact → Fact}
    (hwrite : ∀ fact : Fact, ∃ status, write fact = { fact with status } ∧
      (fact.chapterVersionId = versionId → status = .accepted)) :
    buildSources chunker versionId version (facts.map write) =
      buildSources chunker versionId version (facts.map ({ · with status := .accepted })) := by
  have hselect : Rows.select (facts.map write)
        (fun fact => fact.chapterVersionId == versionId && fact.status == .accepted) =
      Rows.select (facts.map ({ · with status := .accepted }))
        (fun fact => fact.chapterVersionId == versionId && fact.status == .accepted) := by
    refine Rows.select_map_congr (fun fact _ => ?_) (fun fact _ hselected => ?_)
    · obtain ⟨status, heq, hstatus⟩ := hwrite fact
      rw [heq]
      by_cases hversion : fact.chapterVersionId = versionId
      · simp [hversion, hstatus hversion]
      · simp [hversion]
    · obtain ⟨status, heq, -⟩ := hwrite fact
      rw [heq] at hselected ⊢
      have hstatus : status = .accepted := by
        simp only [Bool.and_eq_true, beq_iff_eq] at hselected
        exact hselected.2
      rw [hstatus]
  rw [buildSources, buildSources, hselect]

/-! ### The story tables -/

variable {workflowRunId versionId projectId : ℕ} {version : ChapterVersion}
  {chapter : StoryChapter} {db story : StoryDatabase}

theorem accepting_eq_some (h : accepting workflowRunId versionId db =
      some (projectId, version, chapter)) :
    ∃ run, db.runs[workflowRunId]? = some run ∧ db.versions[versionId]? = some version ∧
      db.chapters[version.chapterId]? = some chapter ∧ run.projectId = projectId ∧
      ¬(run.status = .completed ∧ run.acceptedVersionId = some versionId) := by
  unfold accepting at h
  split at h
  · rename_i run row hrun hrow
    split at h
    · exact absurd h (by simp)
    · rename_i hreplay
      obtain ⟨row', hchapter, heq⟩ := Option.map_eq_some_iff.mp h
      obtain ⟨rfl, rfl, rfl⟩ : run.projectId = projectId ∧ row = version ∧ row' = chapter := by
        simpa using heq
      exact ⟨run, hrun, hrow, hchapter, rfl, hreplay⟩
  · exact absurd h (by simp)

/-- What an acceptance that is no replay writes to the story tables. -/
theorem acceptVersion_story
    (haccept : ChapterVersionService.acceptVersion workflowRunId versionId db = .ok story)
    (h : accepting workflowRunId versionId db = some (projectId, version, chapter)) :
    story.facts = db.facts.map
        (ChapterVersionService.acceptFact workflowRunId versionId chapter.acceptedVersionId) ∧
      story.versions = ChapterVersionService.acceptedVersions workflowRunId versionId
        chapter.acceptedVersionId db.versions ∧
      (∃ chapter', story.chapters[version.chapterId]? = some chapter' ∧
        chapter'.acceptedVersionId = some versionId ∧
        chapter'.chapterNumber = chapter.chapterNumber) ∧
      ∀ (other : ℕ) (run : StoryRun), db.runs[other]? = some run → ∃ run', story.runs[other]? = some run' ∧
        run'.projectId = run.projectId ∧
        (run' = run ∨ run'.acceptedVersionId = some versionId) := by
  obtain ⟨run, hrun, hversion, hchapter, -, hreplay⟩ := accepting_eq_some h
  unfold ChapterVersionService.acceptVersion at haccept
  simp only [hrun, hversion, hreplay, if_false, hchapter] at haccept
  split at haccept
  · rename_i hchapterEq _ _
    obtain rfl := Option.some.inj hchapterEq
    obtain rfl := Except.ok.inj haccept
    refine ⟨rfl, rfl, ?_, fun other row hrow => ?_⟩
    · dsimp only
      rw [List.getElem?_modify_eq, hchapter]
      exact ⟨_, rfl, rfl, rfl⟩
    · dsimp only
      rw [List.getElem?_modify, hrow]
      by_cases hother : workflowRunId = other
      · exact ⟨_, rfl, by simp [hother], .inr (by simp [hother])⟩
      · exact ⟨row, by simp [hother], rfl, .inl rfl⟩
  · exact absurd haccept (by simp)

/-- The status of a version after an acceptance. -/
def acceptedStatus (workflowRunId versionId : ℕ) (previous : Option ℕ) (id : ℕ)
    (row : ChapterVersion) : ChapterVersionStatus :=
  if id = versionId then .accepted
  else if ChapterVersionService.rejectOthers workflowRunId versionId id row then .rejected
  else if previous = some id then .superseded
  else row.status

/-- An acceptance changes nothing but the status of a version. -/
theorem getElem?_acceptedVersions (workflowRunId versionId id : ℕ) (previous : Option ℕ)
    (versions : List ChapterVersion) :
    (ChapterVersionService.acceptedVersions workflowRunId versionId previous versions)[id]? =
      versions[id]?.map fun row =>
        { row with status := acceptedStatus workflowRunId versionId previous id row } := by
  rw [ChapterVersionService.acceptedVersions, List.getElem?_mapIdx]
  congr 1
  funext row
  unfold acceptedStatus
  split
  · rfl
  · split
    · rfl
    · split <;> rfl

/-- A version that is superseded after an acceptance was so before, or was the one accepted
before; and a version that was superseded stays so. -/
theorem acceptedStatus_eq_superseded {previous : Option ℕ} {id : ℕ} {row : ChapterVersion}
    (hne : id ≠ versionId) (hprevious : previous ≠ some id) :
    acceptedStatus workflowRunId versionId previous id row = .superseded ↔
      row.status = .superseded := by
  unfold acceptedStatus
  rw [if_neg hne, if_neg hprevious]
  split
  · rename_i hreject
    simp only [ChapterVersionService.rejectOthers, Bool.and_eq_true, decide_eq_true_eq] at hreject
    constructor
    · intro h
      exact absurd h (by simp)
    · intro h
      exact absurd hreject.2 (by simp [h, ChapterVersionService.closedStatuses])
  · rfl

theorem mem_supersededVersions {chapterId id : ℕ} {versions : List ChapterVersion} :
    id ∈ supersededVersions chapterId versionId versions ↔
      id ≠ versionId ∧ ∃ row, versions[id]? = some row ∧ row.chapterId = chapterId ∧
        row.status = .superseded := by
  simp only [supersededVersions, List.mem_filter, Rows.mem_idsWhere, Bool.and_eq_true, beq_iff_eq,
    bne_iff_ne, ne_eq]
  exact and_comm

/-- A superseded version of a chapter. -/
def Retired (chapterId : ℕ) (db : StoryDatabase) (id : ℕ) : Prop :=
  ∃ row, db.versions[id]? = some row ∧ row.chapterId = chapterId ∧ row.status = .superseded

/-- Other versions are superseded after an acceptance if they were so before. -/
theorem retired_acceptedVersions {chapterId id : ℕ} {previous : Option ℕ} (hne : id ≠ versionId)
    (hprevious : previous ≠ some id) :
    (∃ row, (ChapterVersionService.acceptedVersions workflowRunId versionId previous
        db.versions)[id]? = some row ∧ row.chapterId = chapterId ∧ row.status = .superseded) ↔
      Retired chapterId db id := by
  rw [getElem?_acceptedVersions]
  constructor
  · rintro ⟨_, hget, hchapter, hstatus⟩
    obtain ⟨row, hrow, rfl⟩ := Option.map_eq_some_iff.mp hget
    exact ⟨row, hrow, hchapter, (acceptedStatus_eq_superseded hne hprevious).mp hstatus⟩
  · rintro ⟨row, hrow, hchapter, hstatus⟩
    rw [hrow]
    exact ⟨_, rfl, hchapter, (acceptedStatus_eq_superseded hne hprevious).mpr hstatus⟩

/-- An acceptance that succeeds accepts in the story tables. -/
theorem exists_story {indexer : MemoryIndexer} {db db' : CanonDatabase}
    (h : acceptVersion indexer workflowRunId versionId db = .ok db') :
    ∃ story, ChapterVersionService.acceptVersion workflowRunId versionId db.toStoryDatabase =
      .ok story := by
  cases hstory : ChapterVersionService.acceptVersion workflowRunId versionId
      db.toStoryDatabase with
  | ok story => exact ⟨story, rfl⟩
  | error e =>
      simp only [acceptVersion, hstory, bind, Except.bind] at h
      exact absurd h (by simp)

/-- **The memory an acceptance leaves**, and the index records of other versions. -/
theorem shown_acceptVersion {indexer : MemoryIndexer} {db db' : CanonDatabase}
    (haccepting : accepting workflowRunId versionId db.toStoryDatabase =
      some (projectId, version, chapter))
    (h : acceptVersion indexer workflowRunId versionId db = .ok db') :
    (∀ draft : ChunkDraft, Shown db'.memoryChunks draft ↔
      (Shown db.memoryChunks draft ∧
        ¬(chapter.acceptedVersionId = some draft.source.versionId ∧
          draft.source.versionId ≠ versionId) ∧
        ¬(db.Indexes indexer versionId ∧ draft.source.versionId ≠ versionId ∧
          Retired version.chapterId db.toStoryDatabase draft.source.versionId)) ∨
      db.Indexes indexer versionId ∧ draft ∈ buildSources indexer.chunker versionId version
        (db.facts.map (ChapterVersionService.acceptFact workflowRunId versionId
          chapter.acceptedVersionId))) ∧
    ∀ other, other ≠ versionId → db'.indexRecords other = db.indexRecords other := by
  obtain ⟨story, hstory⟩ := exists_story h
  obtain ⟨hfacts, hversions, -, -⟩ := acceptVersion_story hstory haccepting
  obtain ⟨_, -, hversion, -⟩ := accepting_eq_some haccepting
  obtain ⟨-, -, accepted, haccepted, hchunks, hrecords, rfl⟩ :=
    acceptVersion_eq_ok hstory haccepting h
  refine ⟨fun draft => ?_, fun other hne => ?_⟩
  · obtain ⟨row, hrow, htext, hchapter⟩ : ∃ row, accepted.versions[versionId]? = some row ∧
        row.text = version.text ∧ row.chapterId = version.chapterId := by
      rw [haccepted, hversions, getElem?_acceptedVersions, hversion]
      exact ⟨_, rfl, rfl, rfl⟩
    have hindexes : accepted.Indexes indexer versionId ↔ db.Indexes indexer versionId := by
      rw [Indexes, Indexes, hrecords]
    have hsources : buildSources indexer.chunker versionId row accepted.facts =
        buildSources indexer.chunker versionId version
          (db.facts.map (ChapterVersionService.acceptFact workflowRunId versionId
            chapter.acceptedVersionId)) := by
      rw [haccepted, hfacts, buildSources, buildSources, htext]
    rw [shown_indexAcceptedChapterVersion hrow, hindexes, hchunks, shown_hide, hsources, hchapter,
      haccepted, hversions, mem_supersededVersions]
    have hprevious : draft.source.versionId ∉
          (chapter.acceptedVersionId.filter (· != versionId)).toList ↔
        ¬(chapter.acceptedVersionId = some draft.source.versionId ∧
          draft.source.versionId ≠ versionId) := by
      simp [Option.mem_toList, Option.filter_eq_some_iff]
    rw [hprevious, and_assoc]
    refine or_congr (and_congr_right fun _ => and_congr_right fun hshown =>
      not_congr (and_congr_right fun _ => and_congr_right fun hne => ?_)) Iff.rfl
    exact retired_acceptedVersions hne fun hprevious => hshown ⟨hprevious, hne⟩
  · rw [indexRecords_indexAcceptedChapterVersion indexer hne, hrecords]

/-! ### Two acceptances -/

/-- A version is accepted, and then another one of the same chapter, by runs of one project;
`alone` is what the second acceptance leaves without the first one. Neither acceptance is a
replay. -/
structure Successive (indexer : MemoryIndexer) (firstRun secondRun firstId secondId projectId : ℕ)
    (first second : ChapterVersion) (chapter : StoryChapter) (db between both alone : CanonDatabase) :
    Prop where
  ne : firstId ≠ secondId
  sameChapter : first.chapterId = second.chapterId
  acceptingFirst : accepting firstRun firstId db.toStoryDatabase = some (projectId, first, chapter)
  acceptingSecond : accepting secondRun secondId db.toStoryDatabase =
    some (projectId, second, chapter)
  acceptFirst : acceptVersion indexer firstRun firstId db = .ok between
  acceptSecond : acceptVersion indexer secondRun secondId between = .ok both
  acceptAlone : acceptVersion indexer secondRun secondId db = .ok alone

/-- The same accepted facts, character states, foreshadowings and accepted memory of a
chapter. -/
structure SameCanonical (chapterId : ℕ) (db other : CanonDatabase) : Prop where
  facts : Rows.select db.facts (·.status == .accepted) =
    Rows.select other.facts (·.status == .accepted)
  characters : db.characters = other.characters
  foreshadowings : db.foreshadowings = other.foreshadowings
  memory : ∀ draft : ChunkDraft, (∃ version,
      db.versions[draft.source.versionId]? = some version ∧ version.chapterId = chapterId) →
    (Shown db.memoryChunks draft ↔ Shown other.memoryChunks draft)

/-- What is accepted first leaves no trace. -/
structure Traceless (indexer : MemoryIndexer) (firstId secondId projectId : ℕ)
    (first second : ChapterVersion) (chapter : StoryChapter) (db : CanonDatabase) : Prop where
  /-- It has accepted facts only if it is accepted already. -/
  facts : ∀ fact ∈ db.facts, fact.chapterVersionId = firstId → fact.status = .accepted →
    chapter.acceptedVersionId = some firstId
  /-- A character that it updates is updated by the second one, or was in that state before. -/
  characters : ∀ (id : ℕ) (row : Character), db.characters[id]? = some row →
    lastValue projectId db.characters second.candidateCharacterUpdates id = none →
    ∀ value, lastValue projectId db.characters first.candidateCharacterUpdates id = some value →
      row.currentState = value
  /-- Its setups name foreshadowings that exist. -/
  setups : ∀ update ∈ first.candidateForeshadowingUpdates, update.action = .setup →
    ∃ id, update.foreshadowingId = some id ∧ id < db.foreshadowings.length
  /-- A foreshadowing that it moves is moved by the second one, or was so before. -/
  foreshadowings : ∀ (id : ℕ) (row : Foreshadowing), db.foreshadowings[id]? = some row →
    row.projectId = projectId →
    row.Covered chapter.chapterNumber id first.candidateForeshadowingUpdates
      second.candidateForeshadowingUpdates
  /-- Accepted memory of the chapter that the second one does not write again belongs to the
  version accepted before, if it belongs to the first one, and does not, if it belongs to the
  second one. (Versions superseded before lose their memory whenever an index is built.) -/
  memory : ∀ draft : ChunkDraft, Shown db.memoryChunks draft →
    (∃ version, db.versions[draft.source.versionId]? = some version ∧
      version.chapterId = second.chapterId) →
    ¬(db.Indexes indexer secondId ∧ draft ∈ buildSources indexer.chunker secondId second
      (db.facts.map ({ · with status := .accepted }))) →
    (draft.source.versionId = firstId → chapter.acceptedVersionId = some firstId ∨
      db.Indexes indexer secondId ∧ Retired second.chapterId db.toStoryDatabase firstId) ∧
    (draft.source.versionId = secondId → chapter.acceptedVersionId ≠ some secondId ∧
      ¬(db.Indexes indexer firstId ∧ Retired second.chapterId db.toStoryDatabase secondId)) ∧
    (draft.source.versionId ≠ firstId → draft.source.versionId ≠ secondId →
      db.Indexes indexer firstId →
      Retired second.chapterId db.toStoryDatabase draft.source.versionId →
      chapter.acceptedVersionId = some draft.source.versionId ∨ db.Indexes indexer secondId)

namespace Successive

variable {indexer : MemoryIndexer} {firstRun secondRun firstId secondId projectId : ℕ}
  {first second : ChapterVersion} {chapter : StoryChapter} {db between both alone : CanonDatabase}

/-- The second acceptance is no replay either after the first one. -/
theorem accepting_between (h : Successive indexer firstRun secondRun firstId secondId projectId
    first second chapter db between both alone) :
    ∃ (status : ChapterVersionStatus) (chapter' : StoryChapter),
      accepting secondRun secondId between.toStoryDatabase =
        some (projectId, { second with status }, chapter') ∧
      chapter'.acceptedVersionId = some firstId ∧
      chapter'.chapterNumber = chapter.chapterNumber := by
  obtain ⟨story, hstory⟩ := exists_story h.acceptFirst
  obtain ⟨-, hversions, ⟨chapter', hchapter', haccepted, hnumber⟩, hruns⟩ :=
    acceptVersion_story hstory h.acceptingFirst
  obtain ⟨-, hholds, -⟩ := acceptVersion_eq_ok hstory h.acceptingFirst h.acceptFirst
  obtain ⟨run, hrun, hversion, -, hproject, hreplay⟩ := accepting_eq_some h.acceptingSecond
  obtain ⟨run', hrun', hproject', hsame⟩ := hruns secondRun run hrun
  refine ⟨acceptedStatus firstRun firstId chapter.acceptedVersionId secondId second, chapter', ?_,
    haccepted, hnumber⟩
  have hreplay' : ¬(run'.status = .completed ∧ run'.acceptedVersionId = some secondId) := by
    rcases hsame with rfl | haccepted
    · exact hreplay
    · exact fun hdone => h.ne (Option.some.inj (haccepted.symm.trans hdone.2))
  have hversion' : story.versions[secondId]? = some { second with
      status := acceptedStatus firstRun firstId chapter.acceptedVersionId secondId second } := by
    rw [hversions, getElem?_acceptedVersions, hversion]
    rfl
  rw [hholds.story]
  simp only [accepting, hrun', hversion', hreplay', if_false]
  rw [← h.sameChapter, hchapter', hproject', hproject]
  rfl

/-- A fact is accepted after both acceptances if it is after the second one alone. -/
theorem status_twice {fact : Fact} {previous : Option ℕ} (hne : firstId ≠ secondId)
    (hfact : fact.chapterVersionId = firstId → fact.status = .accepted →
      previous = some firstId) :
    (ChapterVersionService.acceptFact secondRun secondId (some firstId)
        (ChapterVersionService.acceptFact firstRun firstId previous fact)).status = .accepted ↔
      (ChapterVersionService.acceptFact secondRun secondId previous fact).status = .accepted := by
  obtain ⟨status, heq⟩ := ChapterVersionService.acceptFact_eq firstRun firstId previous fact
  have hkept : (ChapterVersionService.acceptFact firstRun firstId previous fact).chapterVersionId =
      fact.chapterVersionId := by rw [heq]
  rw [ChapterVersionService.status_acceptFact, ChapterVersionService.status_acceptFact,
    ChapterVersionService.status_acceptFact, hkept]
  by_cases hversion : fact.chapterVersionId = firstId
  · have hprevious := hfact hversion
    simp only [hversion, hne, false_or, ne_eq, not_true_eq_false, and_false, false_iff, not_and,
      not_not]
    exact hprevious
  · have hother : firstId ≠ fact.chapterVersionId := fun heq => hversion heq.symm
    simp [hversion, hother]

variable (h : Successive indexer firstRun secondRun firstId secondId projectId first second chapter
  db between both alone)

include h

/-- What both acceptances and the second one alone write. -/
theorem holds :
    (both.facts = db.facts.map fun fact => ChapterVersionService.acceptFact secondRun secondId
      (some firstId) (ChapterVersionService.acceptFact firstRun firstId chapter.acceptedVersionId
        fact)) ∧
    (alone.facts = db.facts.map (ChapterVersionService.acceptFact secondRun secondId
      chapter.acceptedVersionId)) ∧
    (both.characters = ChapterVersionService.applyCharacterUpdates projectId
      second.candidateCharacterUpdates (ChapterVersionService.applyCharacterUpdates projectId
        first.candidateCharacterUpdates db.characters)) ∧
    (alone.characters = ChapterVersionService.applyCharacterUpdates projectId
      second.candidateCharacterUpdates db.characters) ∧
    (both.foreshadowings = ChapterVersionService.applyForeshadowingUpdates projectId
      chapter.chapterNumber second.candidateForeshadowingUpdates
      (ChapterVersionService.applyForeshadowingUpdates projectId chapter.chapterNumber
        first.candidateForeshadowingUpdates db.foreshadowings)) ∧
    alone.foreshadowings = ChapterVersionService.applyForeshadowingUpdates projectId
      chapter.chapterNumber second.candidateForeshadowingUpdates db.foreshadowings := by
  obtain ⟨status, chapter', haccepting, hprevious, hnumber⟩ := h.accepting_between
  obtain ⟨story₁, hstory₁⟩ := exists_story h.acceptFirst
  obtain ⟨story₂, hstory₂⟩ := exists_story h.acceptSecond
  obtain ⟨story, hstory⟩ := exists_story h.acceptAlone
  obtain ⟨hfacts₁, -⟩ := acceptVersion_story hstory₁ h.acceptingFirst
  obtain ⟨hfacts₂, -⟩ := acceptVersion_story hstory₂ haccepting
  obtain ⟨hfacts, -⟩ := acceptVersion_story hstory h.acceptingSecond
  obtain ⟨-, hholds₁, -⟩ := acceptVersion_eq_ok hstory₁ h.acceptingFirst h.acceptFirst
  obtain ⟨-, hholds₂, -⟩ := acceptVersion_eq_ok hstory₂ haccepting h.acceptSecond
  obtain ⟨-, hholds, -⟩ := acceptVersion_eq_ok hstory h.acceptingSecond h.acceptAlone
  refine ⟨?_, by rw [hholds.story, hfacts], ?_, hholds.characters, ?_, hholds.foreshadowings⟩
  · rw [hholds₂.story, hfacts₂, hholds₁.story, hfacts₁, hprevious, List.map_map]
    rfl
  · rw [hholds₂.characters, hholds₁.characters]
  · rw [hholds₂.foreshadowings, hholds₁.foreshadowings, hnumber]

/-- The accepted facts. -/
theorem facts_iff :
    Rows.select both.facts (·.status == .accepted) =
        Rows.select alone.facts (·.status == .accepted) ↔
      ∀ fact ∈ db.facts, fact.chapterVersionId = firstId → fact.status = .accepted →
        chapter.acceptedVersionId = some firstId := by
  obtain ⟨hboth, halone, -⟩ := h.holds
  have hne := h.ne
  rw [hboth, halone]
  constructor
  · intro hsame fact hfact hversion hstatus
    by_contra hprevious
    obtain ⟨id, hid⟩ := List.mem_iff_getElem?.mp hfact
    have haccepted : (ChapterVersionService.acceptFact secondRun secondId
        chapter.acceptedVersionId fact).status = .accepted :=
      ChapterVersionService.status_acceptFact.mpr (.inr ⟨hstatus, hversion ▸ hprevious⟩)
    have hmem : (ChapterVersionService.acceptFact secondRun secondId chapter.acceptedVersionId
        fact, id) ∈ Rows.select (db.facts.map (ChapterVersionService.acceptFact secondRun secondId
          chapter.acceptedVersionId)) (·.status == .accepted) :=
      Rows.mem_select.mpr ⟨by rw [List.getElem?_map, hid]; rfl, by simp [haccepted]⟩
    rw [← hsame] at hmem
    obtain ⟨hget, hselected⟩ := Rows.mem_select.mp hmem
    rw [List.getElem?_map, hid, Option.map_some] at hget
    rw [← Option.some.inj hget, beq_iff_eq, ChapterVersionService.status_acceptFact] at hselected
    obtain ⟨status, heq⟩ := ChapterVersionService.acceptFact_eq firstRun firstId
      chapter.acceptedVersionId fact
    rw [heq] at hselected
    rcases hselected with hsecond | ⟨-, hother⟩
    · exact hne (hversion.symm.trans hsecond)
    · exact hother (congrArg some hversion.symm)
  · intro hfacts
    refine Rows.select_map_congr (fun fact hfact => ?_) (fun fact hfact hselected => ?_)
    · rw [Bool.eq_iff_iff, beq_iff_eq, beq_iff_eq]
      exact status_twice hne (hfacts fact hfact)
    · have hselected' := (status_twice hne (hfacts fact hfact)).mp (by simpa using hselected)
      obtain ⟨status₁, heq₁⟩ := ChapterVersionService.acceptFact_eq firstRun firstId
        chapter.acceptedVersionId fact
      obtain ⟨status₂, heq₂⟩ := ChapterVersionService.acceptFact_eq secondRun secondId
        (some firstId) (ChapterVersionService.acceptFact firstRun firstId
          chapter.acceptedVersionId fact)
      obtain ⟨status, heq⟩ := ChapterVersionService.acceptFact_eq secondRun secondId
        chapter.acceptedVersionId fact
      rw [heq₂, heq₁] at hselected ⊢
      rw [heq] at hselected' ⊢
      have hstatus₂ : status₂ = .accepted := by simpa using hselected
      have hstatus : status = .accepted := hselected'
      rw [hstatus₂, hstatus]

/-- The versions stay versions of their chapters. -/
theorem ofChapter_iff (chapterId id : ℕ) :
    (∃ version, both.versions[id]? = some version ∧ version.chapterId = chapterId) ↔
      ∃ version, db.versions[id]? = some version ∧ version.chapterId = chapterId := by
  obtain ⟨status, chapter', haccepting, hprevious, hnumber⟩ := h.accepting_between
  obtain ⟨story₁, hstory₁⟩ := exists_story h.acceptFirst
  obtain ⟨story₂, hstory₂⟩ := exists_story h.acceptSecond
  obtain ⟨-, hversions₁, -⟩ := acceptVersion_story hstory₁ h.acceptingFirst
  obtain ⟨-, hversions₂, -⟩ := acceptVersion_story hstory₂ haccepting
  obtain ⟨-, hholds₁, -⟩ := acceptVersion_eq_ok hstory₁ h.acceptingFirst h.acceptFirst
  obtain ⟨-, hholds₂, -⟩ := acceptVersion_eq_ok hstory₂ haccepting h.acceptSecond
  rw [hholds₂.story, hversions₂, getElem?_acceptedVersions, hholds₁.story, hversions₁,
    getElem?_acceptedVersions, Option.map_map]
  cases db.versions[id]? <;> simp

/-- The accepted memory after the first acceptance, after both, and after the second one
alone: each version hides what the one before it showed, and shows its own. -/
theorem shown (draft : ChunkDraft) :
    (Shown both.memoryChunks draft ↔
      (Shown db.memoryChunks draft ∧ draft.source.versionId ≠ firstId ∧
        chapter.acceptedVersionId ≠ some draft.source.versionId ∧
        ¬(db.Indexes indexer firstId ∧
          Retired second.chapterId db.toStoryDatabase draft.source.versionId) ∧
        (draft.source.versionId ≠ secondId → ¬(db.Indexes indexer secondId ∧
          Retired second.chapterId db.toStoryDatabase draft.source.versionId))) ∨
      db.Indexes indexer secondId ∧ draft ∈ buildSources indexer.chunker secondId second
        (db.facts.map ({ · with status := .accepted }))) ∧
    (Shown alone.memoryChunks draft ↔
      (Shown db.memoryChunks draft ∧ (draft.source.versionId ≠ secondId →
        chapter.acceptedVersionId ≠ some draft.source.versionId ∧
        ¬(db.Indexes indexer secondId ∧
          Retired second.chapterId db.toStoryDatabase draft.source.versionId))) ∨
      db.Indexes indexer secondId ∧ draft ∈ buildSources indexer.chunker secondId second
        (db.facts.map ({ · with status := .accepted }))) := by
  obtain ⟨status, chapter', haccepting, hprevious, -⟩ := h.accepting_between
  obtain ⟨story, hstory⟩ := exists_story h.acceptFirst
  obtain ⟨hfacts, hversions, -⟩ := acceptVersion_story hstory h.acceptingFirst
  obtain ⟨-, hholds, -⟩ := acceptVersion_eq_ok hstory h.acceptingFirst h.acceptFirst
  obtain ⟨hfirst, hrecords⟩ := shown_acceptVersion h.acceptingFirst h.acceptFirst
  obtain ⟨hboth, -⟩ := shown_acceptVersion haccepting h.acceptSecond
  obtain ⟨halone, -⟩ := shown_acceptVersion h.acceptingSecond h.acceptAlone
  have hne := h.ne
  have haccepts := ChapterVersionService.acceptFact_accepts secondRun secondId
  have hsources : buildSources indexer.chunker secondId { second with status }
      (between.facts.map (ChapterVersionService.acceptFact secondRun secondId
        chapter'.acceptedVersionId)) =
      buildSources indexer.chunker secondId second
        (db.facts.map ({ · with status := .accepted })) := by
    rw [hholds.story, hfacts, List.map_map]
    refine @buildSources_map _ _ second _ _ fun fact => ?_
    obtain ⟨before, heq⟩ := ChapterVersionService.acceptFact_eq firstRun firstId
      chapter.acceptedVersionId fact
    obtain ⟨after, heq', hafter⟩ := haccepts chapter'.acceptedVersionId
      (ChapterVersionService.acceptFact firstRun firstId chapter.acceptedVersionId fact)
    rw [Function.comp_apply, heq']
    rw [heq] at hafter ⊢
    exact ⟨after, rfl, hafter⟩
  have hsources' := @buildSources_map indexer.chunker _ second db.facts _
    (haccepts chapter.acceptedVersionId)
  have hindexes : between.Indexes indexer secondId ↔ db.Indexes indexer secondId := by
    rw [Indexes, Indexes, hrecords secondId hne.symm]
  have hretired : draft.source.versionId ≠ firstId →
      chapter.acceptedVersionId ≠ some draft.source.versionId →
      (Retired second.chapterId between.toStoryDatabase draft.source.versionId ↔
        Retired second.chapterId db.toStoryDatabase draft.source.versionId) := by
    intro hversion hnot
    rw [Retired, hholds.story, hversions]
    exact retired_acceptedVersions hversion hnot
  have hdrafts : draft ∈ buildSources indexer.chunker firstId first
      (db.facts.map (ChapterVersionService.acceptFact firstRun firstId
        chapter.acceptedVersionId)) → draft.source.versionId = firstId :=
    versionId_of_mem_buildSources
  rw [hboth draft, halone draft, hfirst draft, hsources, hsources', hindexes, hprevious,
    h.sameChapter]
  refine ⟨or_congr_left ?_, or_congr_left (and_congr_right fun _ => ?_)⟩
  · by_cases hversion : draft.source.versionId = firstId
    · -- hidden by the second acceptance, and not in its index
      simp [hversion, hne]
    · have hnot : draft ∉ buildSources indexer.chunker firstId first
          (db.facts.map (ChapterVersionService.acceptFact firstRun firstId
            chapter.acceptedVersionId)) := fun hmem => hversion (hdrafts hmem)
      have hother : ¬firstId = draft.source.versionId := fun heq => hversion heq.symm
      by_cases hprior : chapter.acceptedVersionId = some draft.source.versionId
      · simp only [hnot, and_false, or_false]
        simp [hprior, hversion]
      · rw [hretired hversion hprior]
        simp only [hprior, hversion, hnot, hother, Option.some.injEq, false_and, and_false,
          not_false_eq_true, true_and, or_false, ne_eq, and_assoc]
        refine and_congr_right fun _ => and_congr_right fun _ => ?_
        by_cases hsecond : draft.source.versionId = secondId <;> simp [hsecond]
  · by_cases hsecond : draft.source.versionId = secondId <;> simp [hsecond]

/-- The accepted memory of the chapter. -/
theorem memory_iff :
    (∀ draft : ChunkDraft, (∃ version,
        both.versions[draft.source.versionId]? = some version ∧
          version.chapterId = second.chapterId) →
      (Shown both.memoryChunks draft ↔ Shown alone.memoryChunks draft)) ↔
    ∀ draft : ChunkDraft, Shown db.memoryChunks draft →
      (∃ version, db.versions[draft.source.versionId]? = some version ∧
        version.chapterId = second.chapterId) →
      ¬(db.Indexes indexer secondId ∧ draft ∈ buildSources indexer.chunker secondId second
        (db.facts.map ({ · with status := .accepted }))) →
      (draft.source.versionId = firstId → chapter.acceptedVersionId = some firstId ∨
        db.Indexes indexer secondId ∧ Retired second.chapterId db.toStoryDatabase firstId) ∧
      (draft.source.versionId = secondId → chapter.acceptedVersionId ≠ some secondId ∧
        ¬(db.Indexes indexer firstId ∧ Retired second.chapterId db.toStoryDatabase secondId)) ∧
      (draft.source.versionId ≠ firstId → draft.source.versionId ≠ secondId →
        db.Indexes indexer firstId →
        Retired second.chapterId db.toStoryDatabase draft.source.versionId →
        chapter.acceptedVersionId = some draft.source.versionId ∨
          db.Indexes indexer secondId) := by
  have hne := h.ne
  have hpoint : ∀ draft : ChunkDraft,
      (Shown both.memoryChunks draft ↔ Shown alone.memoryChunks draft) ↔
        (Shown db.memoryChunks draft →
          ¬(db.Indexes indexer secondId ∧ draft ∈ buildSources indexer.chunker secondId second
            (db.facts.map ({ · with status := .accepted }))) →
          (draft.source.versionId = firstId → chapter.acceptedVersionId = some firstId ∨
            db.Indexes indexer secondId ∧ Retired second.chapterId db.toStoryDatabase firstId) ∧
          (draft.source.versionId = secondId → chapter.acceptedVersionId ≠ some secondId ∧
            ¬(db.Indexes indexer firstId ∧
              Retired second.chapterId db.toStoryDatabase secondId)) ∧
          (draft.source.versionId ≠ firstId → draft.source.versionId ≠ secondId →
            db.Indexes indexer firstId →
            Retired second.chapterId db.toStoryDatabase draft.source.versionId →
            chapter.acceptedVersionId = some draft.source.versionId ∨
              db.Indexes indexer secondId)) := by
    intro draft
    obtain ⟨hboth, halone⟩ := h.shown draft
    rw [hboth, halone]
    by_cases hwritten : db.Indexes indexer secondId ∧ draft ∈ buildSources indexer.chunker
        secondId second (db.facts.map ({ · with status := .accepted }))
    · simp [hwritten]
    by_cases hshown : Shown db.memoryChunks draft
    · simp only [hwritten, hshown, or_false, true_and, not_false_eq_true, forall_const]
      clear hwritten hshown hboth halone
      by_cases hversion : draft.source.versionId = firstId
      · simp [hversion, hne, or_iff_not_imp_left]
      · by_cases hother : draft.source.versionId = secondId
        · simp [hother, hne.symm]
        · by_cases hretired :
              Retired second.chapterId db.toStoryDatabase draft.source.versionId
          · by_cases hindexes : db.Indexes indexer firstId <;>
              simp [hversion, hother, hretired, hindexes, or_iff_not_imp_left]
          · simp [hversion, hother, hretired]
    · simp [hwritten, hshown]
  constructor
  · intro hsame draft hshown hchapter
    exact (hpoint draft).mp (hsame draft ((h.ofChapter_iff _ _).mpr hchapter)) hshown
  · intro hmemory draft hchapter
    exact (hpoint draft).mpr fun hshown =>
      hmemory draft hshown ((h.ofChapter_iff _ _).mp hchapter)

end Successive

/-- **Supersession.** The second acceptance leaves no residue of the first one if that one is
traceless; and only then, if the updates of the second version name foreshadowings that
exist. -/
theorem supersession_iff {indexer : MemoryIndexer}
    {firstRun secondRun firstId secondId projectId : ℕ} {first second : ChapterVersion}
    {chapter : StoryChapter} {db between both alone : CanonDatabase}
    (h : Successive indexer firstRun secondRun firstId secondId projectId first second chapter
      db between both alone) :
    (Traceless indexer firstId secondId projectId first second chapter db →
      SameCanonical second.chapterId both alone) ∧
    (Named db.foreshadowings second.candidateForeshadowingUpdates →
      SameCanonical second.chapterId both alone →
      Traceless indexer firstId secondId projectId first second chapter db) := by
  obtain ⟨-, -, hcharacters, hcharacters', hforeshadowings, hforeshadowings'⟩ := h.holds
  constructor
  · intro htraceless
    refine ⟨h.facts_iff.mpr htraceless.facts, ?_, ?_, h.memory_iff.mpr htraceless.memory⟩
    · rw [hcharacters, hcharacters']
      exact (applyCharacterUpdates_twice _ _ _ _).mpr htraceless.characters
    · rw [hforeshadowings, hforeshadowings']
      exact (ChapterVersionService.applyForeshadowingUpdates_twice htraceless.setups).mpr
        htraceless.foreshadowings
  · intro hnamed hsame
    have htables := hsame.foreshadowings
    rw [hforeshadowings, hforeshadowings'] at htables
    have hsetups := ChapterVersionService.adds_nothing hnamed htables
    refine ⟨h.facts_iff.mp hsame.facts, ?_, hsetups,
      (ChapterVersionService.applyForeshadowingUpdates_twice hsetups).mp htables,
      h.memory_iff.mp hsame.memory⟩
    have hstates := hsame.characters
    rw [hcharacters, hcharacters'] at hstates
    exact (applyCharacterUpdates_twice _ _ _ _).mp hstates

/-! ### Instances -/

/-- A version that says that Ann is away. -/
def awayVersion : ChapterVersion :=
  ⟨0, 1, ⟨"One", "First", "Summary"⟩, .evaluated, "generated", none, some 0,
    [⟨"Ann", "current_state", "away", rfl⟩], [⟨.advance, "a letter", some 0⟩], true, none⟩

/-- A version that says that she is back. -/
def backVersion : ChapterVersion :=
  ⟨0, 2, ⟨"One", "Second", "Summary"⟩, .evaluated, "generated", none, some 1,
    [⟨"Ann", "current_state", "back", rfl⟩], [⟨.resolve, "a letter", some 0⟩], true, none⟩

/-- A version that does not mention her. -/
def silentVersion : ChapterVersion :=
  ⟨0, 3, ⟨"One", "Third", "Summary"⟩, .evaluated, "generated", none, some 2, [], [], true, none⟩

/-- Their chapter. -/
def openChapter : StoryChapter :=
  ⟨0, 1, .evaluatedPassed, 1, "One", "Text", "Summary", some 90, some 0, none⟩

/-- An index of whole texts. -/
def wholeTexts : MemoryIndexer := ⟨fun text => [text], fun _ => true⟩

/-- All three versions have passed. -/
def threeVersions : CanonDatabase where
  projects := [⟨.generating⟩]
  chapters := [openChapter]
  versions := [awayVersion, backVersion, silentVersion]
  facts := [⟨0, 0, some 0, .candidate, ⟨"Ann", "is", "away"⟩, "Ann"⟩]
  evaluations := [⟨0, 0, some 0, none, 1, .completed, 90, 90, 90, 0, 0, [], "accept", true⟩,
    ⟨0, 1, some 1, none, 2, .completed, 90, 90, 90, 0, 0, [], "accept", true⟩,
    ⟨0, 2, some 2, none, 3, .completed, 90, 90, 90, 0, 0, [], "accept", true⟩]
  revisions := []
  comparisons := []
  runs := [⟨0, 0, .running, "accept_version", some 0, some 0, some 0, none, 0, 0⟩,
    ⟨0, 0, .running, "accept_version", some 1, some 1, some 1, none, 0, 0⟩,
    ⟨0, 0, .running, "accept_version", some 2, some 2, some 2, none, 0, 0⟩]
  characters := [⟨0, "Ann", "at home"⟩]
  foreshadowings := [⟨0, 1, 3, "a letter", .open, none⟩]
  foreshadowings_inRange := by decide
  memoryChunks := []
  indexRecords := fun _ => none

/-- Two acceptances succeed, one after the other, when their checks pass. -/
theorem accepts_twice {indexer : MemoryIndexer} {firstRun secondRun firstId secondId : ℕ}
    {projectId projectId' : ℕ} {first second : ChapterVersion} {chapter chapter' : StoryChapter}
    {db : CanonDatabase} {story story' : StoryDatabase}
    (haccept : ChapterVersionService.acceptVersion firstRun firstId db.toStoryDatabase =
      .ok story)
    (haccepting : accepting firstRun firstId db.toStoryDatabase =
      some (projectId, first, chapter))
    (hrange : ∀ row ∈ ChapterVersionService.applyForeshadowingUpdates projectId
      chapter.chapterNumber first.candidateForeshadowingUpdates db.foreshadowings, row.InRange)
    (haccept' : ChapterVersionService.acceptVersion secondRun secondId story = .ok story')
    (haccepting' : accepting secondRun secondId story = some (projectId', second, chapter'))
    (hrange' : ∀ row ∈ ChapterVersionService.applyForeshadowingUpdates projectId'
      chapter'.chapterNumber second.candidateForeshadowingUpdates
      (ChapterVersionService.applyForeshadowingUpdates projectId chapter.chapterNumber
        first.candidateForeshadowingUpdates db.foreshadowings), row.InRange) :
    ∃ between both, acceptVersion indexer firstRun firstId db = .ok between ∧
      acceptVersion indexer secondRun secondId between = .ok both := by
  obtain ⟨between, hbetween⟩ := @acceptVersion_ok _ _ indexer _ _ _ _ _ haccept haccepting hrange
  obtain ⟨-, hholds, -⟩ := acceptVersion_eq_ok haccept haccepting hbetween
  obtain ⟨both, hboth⟩ : ∃ both, acceptVersion indexer secondRun secondId between = .ok both := by
    refine @acceptVersion_ok _ story' _ _ _ projectId' second chapter' ?_ ?_ ?_
    · rw [hholds.story, haccept']
    · rw [hholds.story, haccepting']
    · rw [hholds.foreshadowings]
      exact hrange'
  exact ⟨between, both, hbetween, hboth⟩

/-- The state of a character stays when the version that wrote it is superseded. -/
theorem supersession_fails : ∃ between both alone,
    Successive wholeTexts 0 2 0 2 0 awayVersion silentVersion openChapter
      threeVersions between both alone ∧
    ¬SameCanonical silentVersion.chapterId both alone := by
  obtain ⟨between, both, hbetween, hboth⟩ := @accepts_twice wholeTexts 0 2 0 2 _ _ _ _ _ _
    threeVersions _ _ rfl rfl (by decide) rfl rfl (by decide)
  obtain ⟨alone, halone⟩ := @acceptVersion_ok threeVersions _ wholeTexts 2 2 _ _ _
    rfl rfl (by decide)
  have h : Successive wholeTexts 0 2 0 2 0 awayVersion silentVersion
      openChapter threeVersions between both alone :=
    ⟨by decide, rfl, rfl, rfl, hbetween, hboth, halone⟩
  refine ⟨between, both, alone, h, fun hsame => ?_⟩
  have hcharacters := hsame.characters
  rw [h.holds.2.2.1, h.holds.2.2.2.1] at hcharacters
  exact absurd hcharacters (by decide)

/-- Nothing stays when the other version writes the same rows. -/
theorem supersession_iff_sample : ∃ between both alone,
    Successive wholeTexts 0 1 0 1 0 awayVersion backVersion openChapter
      threeVersions between both alone ∧
    SameCanonical backVersion.chapterId both alone := by
  obtain ⟨between, both, hbetween, hboth⟩ := @accepts_twice wholeTexts 0 1 0 1 _ _ _ _ _ _
    threeVersions _ _ rfl rfl (by decide) rfl rfl (by decide)
  obtain ⟨alone, halone⟩ := @acceptVersion_ok threeVersions _ wholeTexts 1 1 _ _ _
    rfl rfl (by decide)
  have h : Successive wholeTexts 0 1 0 1 0 awayVersion backVersion
      openChapter threeVersions between both alone :=
    ⟨by decide, rfl, rfl, rfl, hbetween, hboth, halone⟩
  refine ⟨between, both, alone, h, (supersession_iff h).1 ⟨by decide, ?_, ?_, ?_, ?_⟩⟩
  · rintro (_ | id) row hrow hsecond value hfirst
    · exact absurd hsecond (by decide)
    · exact absurd hrow (by simp [threeVersions])
  · intro update hupdate haction
    obtain rfl := List.mem_singleton.mp hupdate
    exact ⟨0, rfl, by decide⟩
  · rintro (_ | id) row hrow hproject
    · exact ⟨fun hnone => absurd hnone (by decide), fun hresolve => absurd hresolve (by decide)⟩
    · exact absurd hrow (by simp [threeVersions])
  · rintro draft ⟨_, hmem, -⟩
    exact absurd hmem (by simp [threeVersions])

end CanonDatabase

end StoryForge
