import StoryForge.Chapters.Canon

/-!
# Two ways to promote an extraction

The output of an extractor becomes canonical in two ways: the generation service stores it
together with a generated draft, and the workflow stores it as candidates that it promotes
when it accepts the version. This module says when both leave the same accepted facts,
character states and foreshadowings.

They differ for facts of one identity, for a setup that describes a foreshadowing which exists
already, for a setup that names one, and for the planned setups of the chapter.

## Main results

* `ChapterGenerationService.applyForeshadowingUpdates_eq`,
  `ChapterVersionService.applyForeshadowingUpdates_eq` — the tables both ways leave;
* `CanonDatabase.promotion_iff` — the two ways agree exactly on the extractions described by
  `Agreeable`;
* `CanonDatabase.promotion_fails` — two facts of one identity are refused by the one and merged
  by the other.
-/

namespace StoryForge

/-! ### Setups without a record -/

namespace ForeshadowingUpdate

/-- A setup that names no foreshadowing. -/
def isNew (update : ForeshadowingUpdate) : Bool :=
  update.action == .setup && update.foreshadowingId.isNone

/-- What the setups without a record describe. -/
def newDescriptions (updates : List ForeshadowingUpdate) : List String :=
  (updates.filter isNew).map (·.description)

/-- The updates up to the last setup without a record. -/
def untilLastNew (updates : List ForeshadowingUpdate) : List ForeshadowingUpdate :=
  (updates.reverse.dropWhile fun update => !update.isNew).reverse

theorem untilLastNew_concat (updates : List ForeshadowingUpdate) (update : ForeshadowingUpdate) :
    untilLastNew (updates ++ [update]) =
      if update.isNew then updates ++ [update] else untilLastNew updates := by
  unfold untilLastNew
  rw [List.reverse_append, List.reverse_singleton, List.singleton_append, List.dropWhile_cons]
  cases hnew : update.isNew <;> simp

theorem newDescriptions_concat (updates : List ForeshadowingUpdate)
    (update : ForeshadowingUpdate) :
    newDescriptions (updates ++ [update]) =
      newDescriptions updates ++ if update.isNew then [update.description] else [] := by
  unfold newDescriptions
  rw [List.filter_append, List.map_append]
  cases hnew : update.isNew <;> simp [hnew]

theorem foreshadowingId_of_isNew {update : ForeshadowingUpdate} (h : update.isNew) :
    update.action = .setup ∧ update.foreshadowingId = none := by
  simpa [isNew] using h

/-- The setups without a record describe different things, and nothing that is there. -/
structure Distinct (projectId chapterNumber : ℕ) (rows : List Foreshadowing)
    (updates : List ForeshadowingUpdate) : Prop where
  nodup : (newDescriptions updates).Nodup
  fresh : ∀ description ∈ newDescriptions updates, ∀ row ∈ rows,
    ChapterGenerationService.isSetup projectId chapterNumber description row = false

end ForeshadowingUpdate

open ForeshadowingUpdate

/-- The rows that the setups without a record add. -/
def newForeshadowings (projectId chapterNumber : ℕ) (updates : List ForeshadowingUpdate) :
    List Foreshadowing :=
  (newDescriptions updates).map (newForeshadowing projectId chapterNumber)

/-- Every update that names a foreshadowing names one that exists. -/
def Named (rows : List Foreshadowing) (updates : List ForeshadowingUpdate) : Prop :=
  ∀ update ∈ updates, ∀ id, update.foreshadowingId = some id → id < rows.length

theorem Named.of_concat {rows : List Foreshadowing} {updates : List ForeshadowingUpdate}
    {update : ForeshadowingUpdate} (h : Named rows (updates ++ [update])) : Named rows updates :=
  fun other hother => h other (List.mem_append_left _ hother)

section Tables

variable {write : ForeshadowingAction → Foreshadowing → Foreshadowing}
  {projectId chapterNumber : ℕ} {rows : List Foreshadowing} {updates : List ForeshadowingUpdate}
  {update : ForeshadowingUpdate}

/-- The rows that were there, after some updates. -/
def movedRows (write : ForeshadowingAction → Foreshadowing → Foreshadowing) (projectId : ℕ)
    (rows : List Foreshadowing) (updates : List ForeshadowingUpdate) : List Foreshadowing :=
  rows.mapIdx fun id row => row.moved write projectId id updates

theorem movedRows_nil : movedRows write projectId rows [] = rows := by
  refine List.ext_getElem? fun id => ?_
  rw [movedRows, List.getElem?_mapIdx]
  cases rows[id]? with
  | none => rfl
  | some row => simp [Foreshadowing.moved, Foreshadowing.written, actions]

/-- One more update writes the row it names, when that is a row of the project. -/
theorem movedRows_concat_of_record (hwrite : Foreshadowing.Keeps write) {id : ℕ}
    {row : Foreshadowing} (hrecord : update.record rows = some (id, row)) :
    movedRows write projectId rows (updates ++ [update]) =
      if row.projectId ≠ projectId then movedRows write projectId rows updates
      else (movedRows write projectId rows updates).modify id (write update.action) := by
  obtain ⟨hid, hrow⟩ := record_eq_some.mp hrecord
  refine List.ext_getElem? fun k => ?_
  by_cases hk : k = id
  · subst hk
    have hproject := @Foreshadowing.projectId_moved _ projectId k hwrite
      updates row
    by_cases hrowProject : row.projectId = projectId
    · rw [if_neg (not_not.mpr hrowProject), List.getElem?_modify_eq, movedRows, movedRows,
        List.getElem?_mapIdx, List.getElem?_mapIdx, hrow]
      simp only [Option.map_some, Foreshadowing.moved_concat hwrite, Foreshadowing.moved_singleton,
        hproject, hrowProject, hid, and_self, if_true, Option.map_eq_map]
    · rw [if_pos hrowProject, movedRows, movedRows, List.getElem?_mapIdx, List.getElem?_mapIdx,
        hrow]
      simp only [Option.map_some, Foreshadowing.moved_concat hwrite, Foreshadowing.moved_singleton,
        hproject, hrowProject, false_and, if_false]
  · have hother : update.foreshadowingId ≠ some k := fun h =>
      hk (Option.some.inj (h.symm.trans hid))
    have hsame : (movedRows write projectId rows (updates ++ [update]))[k]? =
        (movedRows write projectId rows updates)[k]? := by
      rw [movedRows, movedRows, List.getElem?_mapIdx, List.getElem?_mapIdx]
      simp only [Foreshadowing.moved_concat hwrite, Foreshadowing.moved_singleton, hother,
        and_false, if_false]
    rw [hsame]
    split
    · rfl
    · rw [List.getElem?_modify_ne _ _ (Ne.symm hk)]

/-- An update without a record writes none of them. -/
theorem movedRows_concat_of_none (hwrite : Foreshadowing.Keeps write)
    (hnone : update.foreshadowingId = none) :
    movedRows write projectId rows (updates ++ [update]) =
      movedRows write projectId rows updates := by
  refine List.ext_getElem? fun k => ?_
  rw [movedRows, movedRows, List.getElem?_mapIdx, List.getElem?_mapIdx]
  simp only [Foreshadowing.moved_concat hwrite, Foreshadowing.moved_singleton, hnone,
    reduceCtorEq, and_false, if_false]

/-- An update finds the row it names, as the updates before it have left it. -/
theorem record_movedRows {id : ℕ} {row : Foreshadowing} (added : List Foreshadowing)
    (hrecord : update.record rows = some (id, row)) :
    update.record (movedRows write projectId rows updates ++ added) =
      some (id, row.moved write projectId id updates) := by
  obtain ⟨hid, hrow⟩ := record_eq_some.mp hrecord
  have hlt : id < (movedRows write projectId rows updates).length := by
    rw [movedRows, List.length_mapIdx]
    exact (List.getElem?_eq_some_iff.mp hrow).1
  refine record_eq_some.mpr ⟨hid, ?_⟩
  rw [List.getElem?_append_left hlt, movedRows, List.getElem?_mapIdx, hrow]
  rfl

theorem modify_movedRows_append {id : ℕ} {row : Foreshadowing} (added : List Foreshadowing)
    (hrecord : update.record rows = some (id, row)) (f : Foreshadowing → Foreshadowing) :
    (movedRows write projectId rows updates ++ added).modify id f =
      (movedRows write projectId rows updates).modify id f ++ added := by
  obtain ⟨-, hrow⟩ := record_eq_some.mp hrecord
  have hlt : id < (movedRows write projectId rows updates).length := by
    rw [movedRows, List.length_mapIdx]
    exact (List.getElem?_eq_some_iff.mp hrow).1
  refine List.ext_getElem? fun k => ?_
  simp only [List.getElem?_modify, List.getElem?_append, List.length_modify]
  by_cases hk : k < (movedRows write projectId rows updates).length
  · simp [hk]
  · have hne : id ≠ k := by omega
    simp [hk, hne]

/-- A name that exists has a record. -/
theorem Named.record {id : ℕ} (h : Named rows (updates ++ [update]))
    (hid : update.foreshadowingId = some id) : ∃ row, update.record rows = some (id, row) := by
  have hlt := h update (by simp) id hid
  exact ⟨rows[id], record_eq_some.mpr ⟨hid, List.getElem?_eq_getElem hlt⟩⟩

theorem record_of_none (hnone : update.foreshadowingId = none) (rows : List Foreshadowing) :
    update.record rows = none :=
  record_eq_none.mpr fun id hid => absurd (hnone.symm.trans hid) (by simp)

theorem newForeshadowings_concat :
    newForeshadowings projectId chapterNumber (updates ++ [update]) =
      newForeshadowings projectId chapterNumber updates ++
        if update.isNew then [newForeshadowing projectId chapterNumber update.description] else [] := by
  unfold newForeshadowings
  rw [newDescriptions_concat, List.map_append]
  cases update.isNew <;> rfl

/-- The foreshadowings an acceptance leaves. -/
theorem ChapterVersionService.applyForeshadowingUpdates_eq (hnamed : Named rows updates) :
    applyForeshadowingUpdates projectId chapterNumber updates rows =
      movedRows (writeForeshadowing chapterNumber) projectId rows updates ++
        newForeshadowings projectId chapterNumber updates := by
  induction updates using List.reverseRecOn with
  | nil => rw [movedRows_nil]; exact (List.append_nil rows).symm
  | append_singleton updates update ih =>
      have hwrite := keeps_writeForeshadowing chapterNumber
      rw [applyForeshadowingUpdates_concat, ih hnamed.of_concat, newForeshadowings_concat]
      unfold applyForeshadowingUpdate
      cases hid : update.foreshadowingId with
      | some id =>
          obtain ⟨row, hrecord⟩ := hnamed.record hid
          have hnew : update.isNew = false := by simp [isNew, hid]
          rw [record_movedRows _ hrecord, movedRows_concat_of_record hwrite hrecord, hnew]
          simp only [Foreshadowing.projectId_moved hwrite, Bool.false_eq_true, if_false,
            List.append_nil]
          split
          · rfl
          · exact modify_movedRows_append _ hrecord _
      | none =>
          rw [record_of_none hid, movedRows_concat_of_none hwrite hid]
          cases haction : update.action with
          | setup => simp [isNew, hid, haction]
          | advance => simp [isNew, haction]
          | resolve => simp [isNew, haction]

namespace ChapterGenerationService

theorem keeps_writeForeshadowing (chapterNumber : ℕ) :
    Foreshadowing.Keeps (writeForeshadowing chapterNumber) where
  projectId action _ := by cases action <;> rfl
  setupChapter action _ := by cases action <;> rfl
  expectedPayoffChapter action _ := by cases action <;> rfl
  description action _ := by cases action <;> rfl

theorem applyForeshadowingUpdates_concat (session : ForeshadowingSession) :
    applyForeshadowingUpdates projectId chapterNumber (updates ++ [update]) session =
      applyForeshadowingUpdate projectId chapterNumber
        (applyForeshadowingUpdates projectId chapterNumber updates session) update := by
  simp only [applyForeshadowingUpdates, List.foldl_append, List.foldl_cons, List.foldl_nil]

/-- What a setup without a record is compared with. -/
def identity (row : Foreshadowing) : ℕ × ℕ × String :=
  (row.projectId, row.setupChapter, row.description)

theorem isSetup_iff {description : String} {row : Foreshadowing} :
    isSetup projectId chapterNumber description row = true ↔
      identity row = (projectId, chapterNumber, description) := by
  simp only [isSetup, identity, Bool.and_eq_true, beq_iff_eq, Prod.mk.injEq, and_assoc]

theorem identity_written (actions : List ForeshadowingAction) (row : Foreshadowing) :
    identity (row.written (writeForeshadowing chapterNumber) actions) = identity row := by
  obtain ⟨hproject, hsetup, -, hdescription⟩ :=
    Foreshadowing.written_keeps (keeps_writeForeshadowing chapterNumber) actions row
  simp only [identity, hproject, hsetup, hdescription]

/-- What a session knows of the setups of the chapter: those that were there and those that
the updates described. It has no more rows than that, and as many only if the setups without a
record are distinct. -/
structure Described (projectId chapterNumber : ℕ) (rows : List Foreshadowing)
    (updates : List ForeshadowingUpdate) (session : ForeshadowingSession) : Prop where
  flushed : session.flushed.map identity = session.rows.map identity
  mem : ∀ description, (projectId, chapterNumber, description) ∈ session.rows.map identity ↔
    (projectId, chapterNumber, description) ∈ rows.map identity ∨
      description ∈ newDescriptions updates
  length_ge : rows.length ≤ session.rows.length
  length_le : session.rows.length ≤ rows.length + (newDescriptions updates).length
  distinct : session.rows.length = rows.length + (newDescriptions updates).length →
    Distinct projectId chapterNumber rows updates

theorem map_identity_modify (rows : List Foreshadowing) (id : ℕ) (action : ForeshadowingAction) :
    (rows.modify id (writeForeshadowing chapterNumber action)).map identity =
      rows.map identity := by
  refine List.ext_getElem? fun k => ?_
  rw [List.getElem?_map, List.getElem?_map, List.getElem?_modify]
  cases rows[k]? with
  | none => rfl
  | some row =>
      by_cases hk : id = k
      · simpa [hk, Foreshadowing.written] using identity_written [action] row
      · simp [hk]

/-- An update that stands for a row keeps what setups are compared with. -/
theorem applyForeshadowingUpdate_of_existing {session : ForeshadowingSession} {id : ℕ}
    {record : Foreshadowing}
    (hexisting : existing projectId chapterNumber update session = some (id, record)) :
    ((applyForeshadowingUpdate projectId chapterNumber session update).rows.map identity =
        session.rows.map identity) ∧
      (applyForeshadowingUpdate projectId chapterNumber session update).flushed =
        session.flushed := by
  unfold applyForeshadowingUpdate
  rw [hexisting]
  dsimp only
  split
  · exact ⟨rfl, rfl⟩
  · exact ⟨map_identity_modify _ _ _, rfl⟩

/-- A setup without a record stands for a row that describes it. -/
theorem existing_of_isNew {session : ForeshadowingSession} (hnew : update.isNew) :
    existing projectId chapterNumber update session =
      (session.flushed.findIdx? (isSetup projectId chapterNumber update.description)).bind
        fun id => session.rows[id]?.map (id, ·) := by
  obtain ⟨haction, hnone⟩ := foreshadowingId_of_isNew hnew
  simp only [existing, record_of_none hnone, haction]

/-- The new description of a setup without a record. -/
theorem newDescriptions_of_isNew (hnew : update.isNew) :
    newDescriptions (updates ++ [update]) = newDescriptions updates ++ [update.description] := by
  rw [newDescriptions_concat, hnew]
  rfl

theorem newDescriptions_of_not (hnew : update.isNew = false) :
    newDescriptions (updates ++ [update]) = newDescriptions updates := by
  rw [newDescriptions_concat, hnew]
  exact List.append_nil _

section Step

variable {session : ForeshadowingSession}

/-- An update that is no new setup keeps what is described. -/
theorem Described.of_not_new (h : Described projectId chapterNumber rows updates session)
    (hnamed : Named rows (updates ++ [update])) (hnew : update.isNew = false) :
    Described projectId chapterNumber rows (updates ++ [update])
      (applyForeshadowingUpdate projectId chapterNumber session update) := by
  have hkept : ((applyForeshadowingUpdate projectId chapterNumber session update).rows.map
        identity = session.rows.map identity) ∧
      (applyForeshadowingUpdate projectId chapterNumber session update).flushed =
        session.flushed := by
    cases hid : update.foreshadowingId with
    | some id =>
        obtain ⟨row, hrecord⟩ := hnamed.record hid
        have hlt := (List.getElem?_eq_some_iff.mp (record_eq_some.mp hrecord).2).1
        have hge := h.length_ge
        have hget : session.rows[id]? = some session.rows[id] :=
          List.getElem?_eq_getElem (by omega)
        refine @applyForeshadowingUpdate_of_existing _ _ _ _ id (session.rows[id]) ?_
        simp only [existing, record_eq_some.mpr ⟨hid, hget⟩]
    | none =>
        have haction : update.action ≠ .setup := fun h => by simp [isNew, hid, h] at hnew
        unfold applyForeshadowingUpdate existing
        rw [record_of_none hid]
        cases hcase : update.action with
        | setup => exact absurd hcase haction
        | advance => exact ⟨rfl, rfl⟩
        | resolve => exact ⟨rfl, rfl⟩
  have hdescriptions : newDescriptions (updates ++ [update]) = newDescriptions updates :=
    newDescriptions_of_not hnew
  have hlength := congrArg List.length hkept.1
  simp only [List.length_map] at hlength
  refine ⟨by rw [hkept.1, hkept.2, h.flushed], fun description => ?_, ?_, ?_, ?_⟩
  · rw [hkept.1, hdescriptions]
    exact h.mem description
  · rw [hlength]
    exact h.length_ge
  · rw [hlength, hdescriptions]
    exact h.length_le
  · rw [hlength, hdescriptions]
    intro heq
    obtain ⟨hnodup, hfresh⟩ := h.distinct heq
    exact ⟨hdescriptions ▸ hnodup, hdescriptions ▸ hfresh⟩

/-- A new setup that is there already adds no row. -/
theorem Described.of_found (h : Described projectId chapterNumber rows updates session)
    (hnew : update.isNew) {id : ℕ} {record : Foreshadowing}
    (hexisting : existing projectId chapterNumber update session = some (id, record)) :
    Described projectId chapterNumber rows (updates ++ [update])
      (applyForeshadowingUpdate projectId chapterNumber session update) := by
  have hkept := applyForeshadowingUpdate_of_existing hexisting
  have hthere : (projectId, chapterNumber, update.description) ∈ session.rows.map identity := by
    rw [existing_of_isNew hnew] at hexisting
    obtain ⟨k, hk, -⟩ := Option.bind_eq_some_iff.mp hexisting
    obtain ⟨hlt, hsetup, -⟩ := List.findIdx?_eq_some_iff_getElem.mp hk
    rw [← h.flushed]
    exact List.mem_map.mpr ⟨_, List.getElem_mem hlt, isSetup_iff.mp hsetup⟩
  have hlength := congrArg List.length hkept.1
  have hlengths := h.length_le
  simp only [List.length_map] at hlength
  refine ⟨by rw [hkept.1, hkept.2, h.flushed], fun description => ?_, ?_, ?_, ?_⟩
  · rw [hkept.1, newDescriptions_of_isNew hnew, List.mem_append, List.mem_singleton, ← or_assoc,
      ← h.mem description]
    constructor
    · exact .inl
    · rintro (hmem | rfl)
      · exact hmem
      · exact hthere
  · rw [hlength]
    exact h.length_ge
  · rw [hlength, newDescriptions_of_isNew hnew, List.length_append]
    omega
  · rw [hlength, newDescriptions_of_isNew hnew, List.length_append, List.length_singleton]
    intro heq
    omega

/-- A setup that stands for no row is described nowhere. -/
theorem Described.not_mem (h : Described projectId chapterNumber rows updates session)
    (hnew : update.isNew) (hexisting : existing projectId chapterNumber update session = none) :
    (projectId, chapterNumber, update.description) ∉ session.rows.map identity := by
  have hlength : session.flushed.length = session.rows.length := by
    simpa using congrArg List.length h.flushed
  rw [existing_of_isNew hnew] at hexisting
  rw [← h.flushed]
  intro hmem
  obtain ⟨row, hrow, hidentity⟩ := List.mem_map.mp hmem
  have hsetup := isSetup_iff.mpr hidentity
  cases hfind : session.flushed.findIdx?
      (isSetup projectId chapterNumber update.description) with
  | none =>
      have hnone := List.findIdx?_eq_none_iff.mp hfind row hrow
      simp [hsetup] at hnone
  | some k =>
      obtain ⟨hlt, -⟩ := List.findIdx?_eq_some_iff_getElem.mp hfind
      rw [hfind, Option.bind_some, List.getElem?_eq_getElem (by omega)] at hexisting
      exact absurd hexisting (by simp)

theorem applyForeshadowingUpdate_of_none (hnew : update.isNew)
    (hexisting : existing projectId chapterNumber update session = none) :
    applyForeshadowingUpdate projectId chapterNumber session update =
      ⟨session.rows ++ [newForeshadowing projectId chapterNumber update.description],
        session.rows ++ [newForeshadowing projectId chapterNumber update.description]⟩ := by
  unfold applyForeshadowingUpdate
  rw [hexisting, (foreshadowingId_of_isNew hnew).1]

/-- A new setup that is not there adds a row. -/
theorem Described.of_none (h : Described projectId chapterNumber rows updates session)
    (hnew : update.isNew) (hexisting : existing projectId chapterNumber update session = none) :
    Described projectId chapterNumber rows (updates ++ [update])
      (applyForeshadowingUpdate projectId chapterNumber session update) := by
  have hlengths := h.length_le
  have hge := h.length_ge
  have hnot := mt (h.mem update.description).mpr (h.not_mem hnew hexisting)
  have hdescriptions : newDescriptions (updates ++ [update]) =
      newDescriptions updates ++ [update.description] := newDescriptions_of_isNew hnew
  have hnewIdentity : identity (newForeshadowing projectId chapterNumber update.description) =
      (projectId, chapterNumber, update.description) := rfl
  rw [applyForeshadowingUpdate_of_none hnew hexisting]
  refine ⟨rfl, fun description => ?_, ?_, ?_, ?_⟩
  · rw [List.map_append, List.mem_append, h.mem description, hdescriptions, List.mem_append,
      List.map_singleton, List.mem_singleton, hnewIdentity, List.mem_singleton, or_assoc,
      Prod.mk.injEq, Prod.mk.injEq]
    simp
  · simp only [List.length_append]
    omega
  · rw [hdescriptions]
    simp only [List.length_append, List.length_singleton]
    omega
  · rw [hdescriptions]
    simp only [List.length_append, List.length_singleton]
    intro heq
    obtain ⟨hnodup, hfresh⟩ := h.distinct (by omega)
    refine ⟨?_, fun d hd row hrow => ?_⟩
    · rw [hdescriptions, List.nodup_append]
      refine ⟨hnodup, List.nodup_singleton _, fun d hd d' hd' heq => ?_⟩
      obtain rfl := List.mem_singleton.mp hd'
      exact hnot (.inr (heq ▸ hd))
    · rw [hdescriptions] at hd
      rcases List.mem_append.mp hd with hd | hd
      · exact hfresh d hd row hrow
      · obtain rfl := List.mem_singleton.mp hd
        cases hsetup : isSetup projectId chapterNumber update.description row with
        | false => rfl
        | true =>
            exact absurd (.inl (List.mem_map.mpr ⟨row, hrow, isSetup_iff.mp hsetup⟩)) hnot

end Step

/-- **What a session has described**, after the updates. -/
theorem described_applyForeshadowingUpdates (hnamed : Named rows updates) :
    Described projectId chapterNumber rows updates
      (applyForeshadowingUpdates projectId chapterNumber updates ⟨rows, rows⟩) := by
  induction updates using List.reverseRecOn with
  | nil =>
      exact ⟨rfl, by simp [applyForeshadowingUpdates, newDescriptions], le_refl _, le_refl _,
        fun _ => ⟨List.nodup_nil, by simp [newDescriptions]⟩⟩
  | append_singleton updates update ih =>
      have h := ih hnamed.of_concat
      rw [applyForeshadowingUpdates_concat]
      generalize applyForeshadowingUpdates projectId chapterNumber updates ⟨rows, rows⟩ = session
        at h
      cases hnew : update.isNew with
      | false => exact h.of_not_new hnamed hnew
      | true =>
          cases hexisting : existing projectId chapterNumber update session with
          | some found => exact h.of_found hnew hexisting
          | none => exact h.of_none hnew hexisting

theorem Distinct.of_concat
    (h : Distinct projectId chapterNumber rows (updates ++ [update])) :
    Distinct projectId chapterNumber rows updates := by
  obtain ⟨hnodup, hfresh⟩ := h
  rw [newDescriptions_concat] at hnodup hfresh
  exact ⟨(List.nodup_append.mp hnodup).1, fun d hd => hfresh d (List.mem_append_left _ hd)⟩

/-- A row that was moved or added is the setup of a description only if it was before, or
was added for it. -/
theorem not_isSetup_of_fresh {description : String} (written : List ForeshadowingUpdate)
    (hfresh : ∀ row ∈ rows, isSetup projectId chapterNumber description row = false)
    (hnew : description ∉ newDescriptions updates) :
    ∀ row ∈ movedRows (writeForeshadowing chapterNumber) projectId rows written ++
        newForeshadowings projectId chapterNumber updates,
      isSetup projectId chapterNumber description row = false := by
  intro row hrow
  rcases List.mem_append.mp hrow with hrow | hrow
  · obtain ⟨id, hlt, rfl⟩ := List.mem_mapIdx.mp hrow
    cases hsetup : isSetup projectId chapterNumber description
        (rows[id].moved (writeForeshadowing chapterNumber) projectId id written) with
    | false => rfl
    | true =>
        have hidentity := isSetup_iff.mp hsetup
        have hold : identity rows[id] = (projectId, chapterNumber, description) := by
          rw [← hidentity, Foreshadowing.moved]
          split
          · exact (identity_written _ _).symm
          · rfl
        have := hfresh rows[id] (List.getElem_mem hlt)
        rw [isSetup_iff.mpr hold] at this
        exact absurd this (by simp)
  · obtain ⟨other, hother, rfl⟩ := List.mem_map.mp hrow
    cases hsetup : isSetup projectId chapterNumber description
        (newForeshadowing projectId chapterNumber other) with
    | false => rfl
    | true =>
        have hidentity := isSetup_iff.mp hsetup
        simp only [identity, newForeshadowing, Prod.mk.injEq, true_and] at hidentity
        exact absurd (hidentity ▸ hother) hnew

/-- The foreshadowings a generated draft leaves, when its new setups are distinct. -/
theorem applyForeshadowingUpdates_eq (hnamed : Named rows updates)
    (hdistinct : Distinct projectId chapterNumber rows updates) :
    applyForeshadowingUpdates projectId chapterNumber updates ⟨rows, rows⟩ =
      ⟨movedRows (writeForeshadowing chapterNumber) projectId rows updates ++
          newForeshadowings projectId chapterNumber updates,
        movedRows (writeForeshadowing chapterNumber) projectId rows (untilLastNew updates) ++
          newForeshadowings projectId chapterNumber updates⟩ := by
  induction updates using List.reverseRecOn with
  | nil =>
      simp only [untilLastNew, List.reverse_nil, List.dropWhile_nil, movedRows_nil]
      simp [applyForeshadowingUpdates, newForeshadowings, newDescriptions]
  | append_singleton updates update ih =>
      have hwrite := keeps_writeForeshadowing chapterNumber
      rw [applyForeshadowingUpdates_concat, ih hnamed.of_concat (Distinct.of_concat hdistinct),
        newForeshadowings_concat, untilLastNew_concat]
      cases hid : update.foreshadowingId with
      | some id =>
          obtain ⟨row, hrecord⟩ := hnamed.record hid
          have hnew : update.isNew = false := by simp [isNew, hid]
          unfold applyForeshadowingUpdate existing
          rw [record_movedRows _ hrecord, movedRows_concat_of_record hwrite hrecord, hnew]
          simp only [Foreshadowing.projectId_moved hwrite, Bool.false_eq_true, if_false,
            List.append_nil]
          split
          · rfl
          · rw [modify_movedRows_append _ hrecord]
      | none =>
          cases hnew : update.isNew with
          | true =>
              have hnodup := hdistinct.nodup
              have hfresh := hdistinct.fresh update.description
              rw [newDescriptions_of_isNew hnew] at hnodup hfresh
              have hnot : update.description ∉ newDescriptions updates := fun hmem =>
                (List.nodup_append.mp hnodup).2.2 _ hmem _ (List.mem_singleton.mpr rfl) rfl
              have hexisting : existing projectId chapterNumber update
                  ⟨movedRows (writeForeshadowing chapterNumber) projectId rows updates ++
                      newForeshadowings projectId chapterNumber updates,
                    movedRows (writeForeshadowing chapterNumber) projectId rows
                        (untilLastNew updates) ++
                      newForeshadowings projectId chapterNumber updates⟩ = none := by
                have hnone := List.findIdx?_eq_none_iff.mpr
                  (not_isSetup_of_fresh (untilLastNew updates) (hfresh (by simp)) hnot)
                rw [existing_of_isNew hnew, hnone]
                rfl
              simp only [applyForeshadowingUpdate_of_none hnew hexisting, if_true,
                movedRows_concat_of_none hwrite hid, List.append_assoc]
          | false =>
              have haction : update.action ≠ .setup := fun h => by simp [isNew, hid, h] at hnew
              rw [movedRows_concat_of_none hwrite hid]
              unfold applyForeshadowingUpdate existing
              rw [record_of_none hid]
              cases hcase : update.action with
              | setup => exact absurd hcase haction
              | advance => simp
              | resolve => simp

/-- The status of a row after some actions: setups count. -/
theorem status_written (actions : List ForeshadowingAction) (row : Foreshadowing) :
    (row.written (writeForeshadowing chapterNumber) actions).status =
      match actions.getLast? with
      | none => row.status
      | some .resolve => .resolved
      | some _ => .open := by
  induction actions using List.reverseRecOn with
  | nil => rfl
  | append_singleton actions action ih =>
      rw [Foreshadowing.written_append, List.getLast?_concat]
      cases action <;> rfl

theorem payoffChapter_written (actions : List ForeshadowingAction) (row : Foreshadowing) :
    (row.written (writeForeshadowing chapterNumber) actions).payoffChapter =
      if .resolve ∈ actions then some chapterNumber else row.payoffChapter := by
  induction actions using List.reverseRecOn with
  | nil => rfl
  | append_singleton actions action ih =>
      rw [Foreshadowing.written_append]
      cases action with
      | setup => simpa [writeForeshadowing] using ih
      | advance => simpa [writeForeshadowing] using ih
      | resolve => simp [writeForeshadowing]

/-- Only a row that nothing is said about is still planned. -/
theorem status_written_eq_planned {actions : List ForeshadowingAction} {row : Foreshadowing} :
    (row.written (writeForeshadowing chapterNumber) actions).status = .planned ↔
      actions = [] ∧ row.status = .planned := by
  rw [status_written]
  rcases List.eq_nil_or_concat' actions with rfl | ⟨actions, action, rfl⟩
  · simp
  · rw [List.getLast?_concat]
    cases action <;> simp

/-- A row of the project that was there, at the end of `_persist_extraction`. -/
def persisted (projectId chapterNumber id : ℕ) (updates : List ForeshadowingUpdate)
    (row : Foreshadowing) : Foreshadowing :=
  if row.projectId = projectId ∧ row.setupChapter = chapterNumber ∧
      actions id (untilLastNew updates) = [] ∧ row.status = .planned then
    { row.moved (writeForeshadowing chapterNumber) projectId id updates with status := .open }
  else row.moved (writeForeshadowing chapterNumber) projectId id updates

theorem openPlanned_eq :
    openPlanned projectId chapterNumber
        ⟨movedRows (writeForeshadowing chapterNumber) projectId rows updates ++
            newForeshadowings projectId chapterNumber updates,
          movedRows (writeForeshadowing chapterNumber) projectId rows (untilLastNew updates) ++
            newForeshadowings projectId chapterNumber updates⟩ =
      (rows.mapIdx fun id row => persisted projectId chapterNumber id updates row) ++
        newForeshadowings projectId chapterNumber updates := by
  refine List.ext_getElem? fun id => ?_
  have hmoved : ∀ other, (movedRows (writeForeshadowing chapterNumber) projectId rows other).length =
      rows.length := fun other => List.length_mapIdx
  rw [openPlanned, List.getElem?_mapIdx]
  by_cases hid : id < rows.length
  · rw [List.getElem?_append_left (by rw [hmoved]; exact hid),
      List.getElem?_append_left (by rw [hmoved]; exact hid),
      List.getElem?_append_left (by rw [List.length_mapIdx]; exact hid), movedRows, movedRows,
      List.getElem?_mapIdx, List.getElem?_mapIdx, List.getElem?_mapIdx,
      List.getElem?_eq_getElem hid]
    simp only [Option.map_some, Option.any_some, Option.some.injEq]
    generalize rows[id] = row
    unfold persisted
    by_cases hproject : row.projectId = projectId
    · have hkeeps := Foreshadowing.written_keeps (keeps_writeForeshadowing chapterNumber)
        (actions id (untilLastNew updates)) row
      simp only [Foreshadowing.moved, hproject, if_true, true_and, Bool.and_eq_true, beq_iff_eq,
        hkeeps.1, hkeeps.2.1, status_written_eq_planned]
    · simp only [Foreshadowing.moved, hproject, if_false, false_and, Bool.and_eq_true, beq_iff_eq]
  · have hge : rows.length ≤ id := Nat.not_lt.mp hid
    rw [List.getElem?_append_right (by rw [hmoved]; exact hge),
      List.getElem?_append_right (by rw [hmoved]; exact hge),
      List.getElem?_append_right (by rw [List.length_mapIdx]; exact hge), hmoved, hmoved,
      List.length_mapIdx, newForeshadowings, List.getElem?_map]
    cases (newDescriptions updates)[id - rows.length]? with
    | none => rfl
    | some description => simp [newForeshadowing]

/-- The last thing said about a row is its last move, unless it is a setup. -/
theorem lastMove_eq {id : ℕ} (hlast : (actions id updates).getLast? ≠ some .setup) :
    lastMove id updates = (actions id updates).getLast? := by
  unfold lastMove
  rcases List.eq_nil_or_concat' (actions id updates) with hnil | ⟨others, action, heq⟩
  · rw [hnil]
    rfl
  · rw [heq, List.getLast?_concat] at hlast
    rw [heq, List.filter_append, List.getLast?_concat]
    cases action with
    | setup => exact absurd rfl hlast
    | advance => simp
    | resolve => simp

theorem lastMove_ne_setup {id : ℕ} : lastMove id updates ≠ some .setup := by
  intro h
  have hmem := List.mem_of_getLast? h
  simp at hmem

/-- **One row.** Both ways leave it alike unless a setup has the last word on it, or it was
planned for this chapter and is not known to have moved. -/
theorem persisted_eq_iff {id : ℕ} {row : Foreshadowing} (hproject : row.projectId = projectId) :
    persisted projectId chapterNumber id updates row =
        row.moved (ChapterVersionService.writeForeshadowing chapterNumber) projectId id updates ↔
      ((actions id updates).getLast? = some .setup → lastMove id updates = some .advance ∨
        lastMove id updates = none ∧ row.status = .open) ∧
      (row.setupChapter = chapterNumber → row.status = .planned →
        actions id (untilLastNew updates) = [] → lastMove id updates = some .advance) := by
  have hstatus : persisted projectId chapterNumber id updates row =
        row.moved (ChapterVersionService.writeForeshadowing chapterNumber) projectId id updates ↔
      (persisted projectId chapterNumber id updates row).status =
        (row.written (ChapterVersionService.writeForeshadowing chapterNumber)
          (actions id updates)).status := by
    obtain ⟨hp, hs, he, hd⟩ := Foreshadowing.written_keeps
      (keeps_writeForeshadowing chapterNumber) (actions id updates) row
    obtain ⟨hp', hs', he', hd'⟩ := Foreshadowing.written_keeps
      (ChapterVersionService.keeps_writeForeshadowing chapterNumber) (actions id updates) row
    have hpayoff := (@payoffChapter_written chapterNumber (actions id updates)
      row).trans (ChapterVersionService.payoffChapter_written _ _).symm
    rw [Foreshadowing.moved, if_pos hproject]
    refine Foreshadowing.eq_iff_status ?_ ?_ ?_ ?_ ?_ <;>
      · unfold persisted Foreshadowing.moved
        split <;> simp_all
  have hmove : (row.written (ChapterVersionService.writeForeshadowing chapterNumber)
      (actions id updates)).status =
        match lastMove id updates with
        | none => row.status
        | some .resolve => .resolved
        | some _ => .open := ChapterVersionService.status_written _ _
  have hwritten := @status_written chapterNumber (actions id updates) row
  have hne := @lastMove_ne_setup updates id
  rw [hstatus, hmove]
  by_cases hplanned : row.setupChapter = chapterNumber ∧
      actions id (untilLastNew updates) = [] ∧ row.status = .planned
  · -- the row is opened, whatever was said
    rw [persisted, if_pos ⟨hproject, hplanned⟩]
    obtain ⟨hsetup, hsilent, hstatus⟩ := hplanned
    rcases hlast : lastMove id updates with _ | action
    · simp [hsetup, hsilent, hstatus]
    · cases action with
      | setup => exact absurd hlast hne
      | advance => simp
      | resolve => simp [hsetup, hsilent, hstatus]
  · have hvacuous : row.setupChapter = chapterNumber → row.status = .planned →
        actions id (untilLastNew updates) = [] → lastMove id updates = some .advance :=
      fun hsetup hstatus hsilent => absurd ⟨hsetup, hsilent, hstatus⟩ hplanned
    rw [persisted, if_neg (fun h => hplanned h.2), Foreshadowing.moved, if_pos hproject, hwritten,
      and_iff_left hvacuous]
    by_cases hlast : (actions id updates).getLast? = some .setup
    · -- a setup has the last word
      rw [hlast]
      rcases hlastMove : lastMove id updates with _ | action
      · simp [eq_comm]
      · cases action with
        | setup => exact absurd hlastMove hne
        | advance => simp
        | resolve => simp
    · rw [lastMove_eq hlast]
      simp [hlast]

/-- The table an acceptance leaves passes its checks if nothing is resolved before its setup. -/
theorem inRange_iff (hrows : ∀ row ∈ rows, row.InRange) :
    (∀ row ∈ movedRows (ChapterVersionService.writeForeshadowing chapterNumber) projectId rows
        updates ++ newForeshadowings projectId chapterNumber updates, row.InRange) ↔
      ∀ (id : ℕ) (row : Foreshadowing), rows[id]? = some row → row.projectId = projectId →
        .resolve ∈ actions id updates → row.setupChapter ≤ chapterNumber := by
  have hkeeps := fun (id : ℕ) (row : Foreshadowing) => Foreshadowing.written_keeps
    (ChapterVersionService.keeps_writeForeshadowing chapterNumber) (actions id updates) row
  have hpayoff := fun (id : ℕ) (row : Foreshadowing) =>
    @ChapterVersionService.payoffChapter_written chapterNumber
      (actions id updates) row
  constructor
  · intro h id row hrow hproject hresolve
    have hmem : row.moved (ChapterVersionService.writeForeshadowing chapterNumber) projectId id
        updates ∈ movedRows (ChapterVersionService.writeForeshadowing chapterNumber) projectId rows
          updates := by
      refine List.mem_of_getElem? (i := id) ?_
      rw [movedRows, List.getElem?_mapIdx, hrow]
      rfl
    have hrange := (h _ (List.mem_append_left _ hmem)).2 chapterNumber
    rw [Foreshadowing.moved, if_pos hproject, hpayoff, if_pos hresolve, (hkeeps id row).2.1]
      at hrange
    exact hrange rfl
  · intro h row hmem
    rcases List.mem_append.mp hmem with hmem | hmem
    · obtain ⟨id, hlt, rfl⟩ := List.mem_mapIdx.mp hmem
      have hrow := hrows rows[id] (List.getElem_mem hlt)
      unfold Foreshadowing.moved
      split
      · rename_i hproject
        obtain ⟨-, hsetup, hexpected, -⟩ := hkeeps id rows[id]
        refine ⟨by rw [hsetup, hexpected]; exact hrow.1, fun n hn => ?_⟩
        rw [hpayoff] at hn
        rw [hsetup]
        split at hn
        · rename_i hresolve
          obtain rfl := Option.some.inj hn
          exact h id rows[id] (List.getElem?_eq_getElem hlt) hproject hresolve
        · exact hrow.2 n hn
      · exact hrow
    · obtain ⟨description, -, rfl⟩ := List.mem_map.mp hmem
      exact ⟨le_refl _, by simp [newForeshadowing]⟩

/-- **The tables** that the two ways leave are the same exactly when the new setups are
distinct and every row of the project is left alike. -/
theorem tables_eq_iff (hnamed : Named rows updates) :
    openPlanned projectId chapterNumber
        (applyForeshadowingUpdates projectId chapterNumber updates ⟨rows, rows⟩) =
        ChapterVersionService.applyForeshadowingUpdates projectId chapterNumber updates rows ↔
      Distinct projectId chapterNumber rows updates ∧
        ∀ (id : ℕ) (row : Foreshadowing), rows[id]? = some row → row.projectId = projectId →
          ((actions id updates).getLast? = some .setup → lastMove id updates = some .advance ∨
            lastMove id updates = none ∧ row.status = .open) ∧
          (row.setupChapter = chapterNumber → row.status = .planned →
            actions id (untilLastNew updates) = [] → lastMove id updates = some .advance) := by
  rw [ChapterVersionService.applyForeshadowingUpdates_eq hnamed]
  constructor
  · intro heq
    have hlength := congrArg List.length heq
    rw [openPlanned, List.length_mapIdx, List.length_append, movedRows, List.length_mapIdx,
      newForeshadowings, List.length_map] at hlength
    have hdistinct := (described_applyForeshadowingUpdates hnamed).distinct hlength
    refine ⟨hdistinct, fun id row hrow hproject => ?_⟩
    rw [applyForeshadowingUpdates_eq hnamed hdistinct, openPlanned_eq] at heq
    have hheads := (List.append_inj heq (by simp [movedRows])).1
    refine (persisted_eq_iff hproject).mp ?_
    have hget := congrArg (·[id]?) hheads
    simpa [movedRows, hrow] using hget
  · rintro ⟨hdistinct, hrows⟩
    rw [applyForeshadowingUpdates_eq hnamed hdistinct, openPlanned_eq]
    congr 1
    refine List.ext_getElem? fun id => ?_
    rw [movedRows, List.getElem?_mapIdx, List.getElem?_mapIdx]
    cases hrow : rows[id]? with
    | none => rfl
    | some row =>
        by_cases hproject : row.projectId = projectId
        · exact congrArg some ((persisted_eq_iff hproject).mpr (hrows id row hrow hproject))
        · have hsame : persisted projectId chapterNumber id updates row =
              row.moved (ChapterVersionService.writeForeshadowing chapterNumber) projectId id
                updates := by
            rw [persisted, if_neg (fun h => hproject h.1), Foreshadowing.moved,
              Foreshadowing.moved, if_neg hproject, if_neg hproject]
          exact congrArg some hsame

end ChapterGenerationService

end Tables

/-! ### Facts and characters -/

/-- Both services write the same character states. -/
theorem applyCharacterUpdates_eq (projectId : ℕ) (updates : List CharacterStateUpdate)
    (characters : List Character) :
    ChapterGenerationService.applyCharacterUpdates projectId updates characters =
      ChapterVersionService.applyCharacterUpdates projectId updates characters := by
  unfold ChapterGenerationService.applyCharacterUpdates
    ChapterVersionService.applyCharacterUpdates
  congr 1
  funext rows update
  simp only [update.field_pattern, if_true]

/-- What an accepted fact states, without ids of its own. -/
def Fact.statement (fact : Fact) : ℕ × ℕ × ExtractedFact × String :=
  (fact.chapterId, fact.chapterVersionId, fact.content, fact.normalizedHash)

/-- The accepted facts of a database. -/
def StoryDatabase.acceptedStatements (db : StoryDatabase) :
    List (ℕ × ℕ × ExtractedFact × String) :=
  (db.facts.filter (·.status == .accepted)).map (·.statement)

theorem ChapterVersionService.distinctFacts_eq {normalizer : FactNormalizer}
    {facts : List ExtractedFact} (h : (facts.map normalizer).Nodup) :
    distinctFacts normalizer facts = facts := by
  induction facts with
  | nil => rfl
  | cons item facts ih =>
      obtain ⟨hitem, hfacts⟩ := List.nodup_cons.mp h
      rw [distinctFacts, ih hfacts]
      congr 1
      refine List.filter_eq_self.mpr fun other hother => ?_
      simp only [bne_iff_ne, ne_eq]
      exact fun heq => hitem (heq ▸ List.mem_map_of_mem hother)

/-- A chapter without an accepted version, with a version whose extraction is about to be
promoted: nothing was extracted from it yet, it has passed an evaluation, and the run that
accepts it has not accepted it before. -/
structure Promotable (request : GenerationRequest) (version runId chapterId versionId : ℕ)
    (db : StoryDatabase) : Prop where
  project : db.projects[request.projectId]?.isSome
  chapter : ∃ chapter, db.findChapter request.projectId request.chapterNumber =
    some (chapterId, chapter) ∧ chapter.acceptedVersionId = none
  version : db.versionByNumber chapterId version = some versionId
  fresh : ∀ row, db.versions[versionId]? = some row →
    ChapterVersionService.isExtracted versionId row db = false
  run : ∃ run, db.runs[runId]? = some run ∧ run.projectId = request.projectId ∧
    ¬(run.status = .completed ∧ run.acceptedVersionId = some versionId)
  evaluation : ∃ evaluation, db.latestForVersion versionId = some evaluation ∧
    evaluation.passed = true

namespace Promotable

variable {request : GenerationRequest} {version runId chapterId versionId : ℕ}
  {db : StoryDatabase} {normalizer : FactNormalizer} {extraction : Extraction}

theorem row (h : Promotable request version runId chapterId versionId db) :
    ∃ row, db.versions[versionId]? = some row ∧ row.chapterId = chapterId := by
  obtain ⟨hlt, hrow, -⟩ := List.findIdx?_eq_some_iff_getElem.mp h.version
  simp only [Bool.and_eq_true, beq_iff_eq] at hrow
  exact ⟨_, List.getElem?_eq_getElem hlt, hrow.1⟩

theorem chapterRow (h : Promotable request version runId chapterId versionId db) :
    ∃ chapter, db.chapters[chapterId]? = some chapter ∧
      chapter.chapterNumber = request.chapterNumber ∧ chapter.acceptedVersionId = none := by
  obtain ⟨chapter, hfind, hnone⟩ := h.chapter
  obtain ⟨id, hid, hget⟩ := Option.bind_eq_some_iff.mp hfind
  obtain ⟨row, hrow, heq⟩ := Option.map_eq_some_iff.mp hget
  obtain ⟨rfl, rfl⟩ := Prod.mk.inj heq
  obtain ⟨hlt, hmatch, -⟩ := List.findIdx?_eq_some_iff_getElem.mp hid
  obtain rfl := Option.some.inj ((List.getElem?_eq_getElem hlt).symm.trans hrow)
  simp only [Bool.and_eq_true, beq_iff_eq] at hmatch
  exact ⟨_, hrow, hmatch.2, hnone⟩

/-- The version has no facts yet. -/
theorem no_facts (h : Promotable request version runId chapterId versionId db) :
    ∀ fact ∈ db.facts, fact.chapterVersionId ≠ versionId := by
  obtain ⟨row, hrow, -⟩ := h.row
  have hfresh := h.fresh row hrow
  simp only [ChapterVersionService.isExtracted, Bool.or_eq_false_iff, Bool.not_eq_false',
    List.isEmpty_iff] at hfresh
  intro fact hfact heq
  have hmem : fact ∈ db.factsForVersion versionId :=
    List.mem_filter.mpr ⟨hfact, by simpa using heq⟩
  rw [hfresh.1.1.1] at hmem
  exact absurd hmem List.not_mem_nil

theorem factsForVersion_eq (h : Promotable request version runId chapterId versionId db) :
    db.factsForVersion versionId = [] :=
  List.filter_eq_nil_iff.mpr fun fact hfact => by simpa using h.no_facts fact hfact

/-- The accepted facts of other versions of the chapter are superseded. -/
theorem statements_superseded {facts : List Fact}
    (hno : ∀ fact ∈ facts, fact.chapterVersionId ≠ versionId) :
    ((facts.map fun fact =>
        if fact.chapterId = chapterId ∧ fact.status = .accepted ∧
            fact.chapterVersionId ≠ versionId then
          { fact with status := .superseded }
        else fact).filter (·.status == .accepted)).map (·.statement) =
      (facts.filter fun fact =>
        fact.status == .accepted && fact.chapterId != chapterId).map (·.statement) := by
  induction facts with
  | nil => rfl
  | cons fact facts ih =>
      have hfact := hno fact List.mem_cons_self
      have hrest := ih fun other hother => hno other (List.mem_cons_of_mem _ hother)
      by_cases hchapter : fact.chapterId = chapterId
      · by_cases hstatus : fact.status = .accepted
        · simpa [hchapter, hstatus, hfact] using hrest
        · simpa [hchapter, hstatus] using hrest
      · by_cases hstatus : fact.status = .accepted
        · simpa [hchapter, hstatus] using hrest
        · simpa [hchapter, hstatus] using hrest

/-- Facts of one identity are refused with a generated draft. -/
theorem persistExtraction_error (h : Promotable request version runId chapterId versionId db)
    (hfacts : ¬(extraction.facts.map normalizer).Nodup) :
    ChapterGenerationService.persistExtraction normalizer request extraction version db =
      .error (.integrityError "fact_version_normalized_hash") := by
  obtain ⟨chapter, hfind, -⟩ := h.chapter
  obtain ⟨project, hproject⟩ := Option.isSome_iff_exists.mp h.project
  simp only [ChapterGenerationService.persistExtraction, hproject, hfind, h.version,
    h.factsForVersion_eq, List.map_nil, List.nil_append, hfacts, not_false_eq_true, if_true]

/-- What a generated draft makes of the accepted facts. -/
theorem persistExtraction_ok (h : Promotable request version runId chapterId versionId db)
    (hfacts : (extraction.facts.map normalizer).Nodup) :
    ∃ story, ChapterGenerationService.persistExtraction normalizer request extraction version db =
        .ok story ∧
      story.acceptedStatements =
        (db.facts.filter fun fact =>
          fact.status == .accepted && fact.chapterId != chapterId).map (·.statement) ++
        extraction.facts.map fun item => (chapterId, versionId, item, normalizer item) := by
  obtain ⟨chapter, hfind, -⟩ := h.chapter
  obtain ⟨project, hproject⟩ := Option.isSome_iff_exists.mp h.project
  obtain ⟨story, hstory, hfactsEq⟩ : ∃ story,
      ChapterGenerationService.persistExtraction normalizer request extraction version db =
        .ok story ∧
      story.facts = (db.facts.map fun fact =>
          if fact.chapterId = chapterId ∧ fact.status = .accepted ∧
              fact.chapterVersionId ≠ versionId then
            { fact with status := .superseded }
          else fact) ++
        extraction.facts.map
          (ChapterGenerationService.acceptedFact normalizer chapterId versionId) := by
    simp only [ChapterGenerationService.persistExtraction, hproject, hfind, h.version,
      h.factsForVersion_eq, List.map_nil, List.nil_append, hfacts, not_true_eq_false, if_false]
    exact ⟨_, rfl, rfl⟩
  refine ⟨story, hstory, ?_⟩
  rw [StoryDatabase.acceptedStatements, hfactsEq, List.filter_append, List.map_append]
  congr 1
  · exact statements_superseded h.no_facts
  · rw [List.filter_eq_self.mpr (by simp [ChapterGenerationService.acceptedFact]), List.map_map]
    rfl

/-- Without a version accepted before, an acceptance leaves the accepted facts of other
versions alone. -/
theorem statements_rejected {facts : List Fact}
    (hno : ∀ fact ∈ facts, fact.chapterVersionId ≠ versionId) :
    ((facts.map fun fact =>
        if fact.chapterVersionId = versionId then { fact with status := .accepted }
        else if fact.workflowRunId = some runId ∧ fact.status = .candidate then
          { fact with status := .rejected }
        else if (none : Option ℕ) = some fact.chapterVersionId ∧ fact.status = .accepted then
          { fact with status := .superseded }
        else fact).filter (·.status == .accepted)).map (·.statement) =
      (facts.filter (·.status == .accepted)).map (·.statement) := by
  induction facts with
  | nil => rfl
  | cons fact facts ih =>
      have hfact := hno fact List.mem_cons_self
      have hrest := ih fun other hother => hno other (List.mem_cons_of_mem _ hother)
      by_cases hrun : fact.workflowRunId = some runId ∧ fact.status = .candidate
      · simpa [hfact, hrun] using hrest
      · by_cases hstatus : fact.status = .accepted
        · simpa [hfact, hrun, hstatus] using hrest
        · simpa [hfact, hrun, hstatus] using hrest

/-- What an acceptance makes of the accepted facts. -/
theorem acceptVersion_ok (normalizer : FactNormalizer) (extraction : Extraction)
    (h : Promotable request version runId chapterId versionId db) :
    ∃ candidates story, ChapterVersionService.extractCandidateFacts normalizer versionId runId
        extraction db = .ok candidates ∧
      ChapterVersionService.acceptVersion runId versionId candidates = .ok story ∧
      (∃ row chapter, CanonDatabase.accepting runId versionId candidates =
          some (request.projectId, row, chapter) ∧
        row.candidateCharacterUpdates = extraction.characterUpdates ∧
        row.candidateForeshadowingUpdates = extraction.foreshadowingUpdates ∧
        chapter.chapterNumber = request.chapterNumber) ∧
      story.acceptedStatements =
        (db.facts.filter (·.status == .accepted)).map (·.statement) ++
        (ChapterVersionService.distinctFacts normalizer extraction.facts).map
          fun item => (chapterId, versionId, item, normalizer item) := by
  obtain ⟨row, hrow, hchapterId⟩ := h.row
  obtain ⟨chapter, hchapter, hnumber, hnone⟩ := h.chapterRow
  obtain ⟨run, hrun, hrunProject, hreplay⟩ := h.run
  obtain ⟨evaluation, hevaluation, hpassed⟩ := h.evaluation
  obtain ⟨project, hproject⟩ := Option.isSome_iff_exists.mp h.project
  obtain ⟨candidates, hextract, hcandidates⟩ : ∃ candidates,
      ChapterVersionService.extractCandidateFacts normalizer versionId runId extraction db =
        .ok candidates ∧
      candidates = { db with
        facts := db.facts ++ (ChapterVersionService.distinctFacts normalizer
          extraction.facts).map
            (ChapterVersionService.candidateFact normalizer chapterId versionId runId)
        versions := db.versions.modify versionId
          ({ · with
            candidateCharacterUpdates := extraction.characterUpdates
            candidateForeshadowingUpdates := extraction.foreshadowingUpdates
            factExtraction := true }) } := by
    simp only [ChapterVersionService.extractCandidateFacts, hrow, h.fresh row hrow, hrun,
      Option.isNone_some, Bool.false_eq_true, and_false, if_false, hchapterId]
    exact ⟨_, rfl, rfl⟩
  obtain ⟨version, hversion, hversionChapter, hcharacters, hforeshadowings⟩ : ∃ version,
      candidates.versions[versionId]? = some version ∧ version.chapterId = chapterId ∧
      version.candidateCharacterUpdates = extraction.characterUpdates ∧
      version.candidateForeshadowingUpdates = extraction.foreshadowingUpdates := by
    rw [hcandidates]
    dsimp only
    rw [List.getElem?_modify_eq, hrow]
    exact ⟨_, rfl, hchapterId, rfl, rfl⟩
  have hrun' : candidates.runs[runId]? = some run := by rw [hcandidates]; exact hrun
  have hchapter' : candidates.chapters[version.chapterId]? = some chapter := by
    rw [hcandidates, hversionChapter]; exact hchapter
  have hproject' : candidates.projects[run.projectId]? = some project := by
    rw [hcandidates, hrunProject]; exact hproject
  have hevaluation' : candidates.latestForVersion versionId = some evaluation := by
    rw [hcandidates]; exact hevaluation
  obtain ⟨story, haccept, hstory⟩ : ∃ story,
      ChapterVersionService.acceptVersion runId versionId candidates = .ok story ∧
      story.facts = ChapterVersionService.acceptedFacts runId versionId none candidates.facts := by
    simp only [ChapterVersionService.acceptVersion, hrun', hversion, hreplay, if_false, hchapter',
      hproject', hevaluation', Option.filter_some, hpassed, if_true, hnone]
    exact ⟨_, rfl, rfl⟩
  refine ⟨candidates, story, hextract, haccept, ⟨version, chapter, ?_, hcharacters,
    hforeshadowings, hnumber⟩, ?_⟩
  · simp only [CanonDatabase.accepting, hrun', hversion, hreplay, if_false, hchapter',
      Option.map_some, hrunProject]
  · rw [StoryDatabase.acceptedStatements, hstory, hcandidates]
    dsimp only
    rw [ChapterVersionService.acceptedFacts, List.map_append, List.filter_append, List.map_append]
    congr 1
    · exact statements_rejected h.no_facts
    · rw [List.map_map, List.filter_eq_self.mpr]
      · rw [List.map_map]
        refine List.map_congr_left fun item _ => ?_
        simp [ChapterVersionService.candidateFact, Fact.statement]
      · simp [ChapterVersionService.candidateFact]

end Promotable

/-! ### The two ways -/

namespace CanonDatabase

/-- Two databases have the same accepted facts, character states and foreshadowings. -/
structure SameCanon (db other : CanonDatabase) : Prop where
  facts : db.acceptedStatements.Perm other.acceptedStatements
  characters : db.characters = other.characters
  foreshadowings : db.foreshadowings = other.foreshadowings

/-- An extraction that both ways promote alike. -/
structure Agreeable (normalizer : FactNormalizer) (request : GenerationRequest)
    (extraction : Extraction) (chapterId : ℕ) (db : CanonDatabase) : Prop where
  /-- The facts have different identities. -/
  facts : (extraction.facts.map normalizer).Nodup
  /-- The chapter has no accepted facts of other versions. -/
  superseded : ∀ fact ∈ db.facts, fact.chapterId = chapterId → fact.status ≠ .accepted
  /-- The setups without an id describe different things, and nothing that is set up in the
  chapter already. -/
  setups : Distinct request.projectId request.chapterNumber db.foreshadowings
    extraction.foreshadowingUpdates
  /-- Nothing is resolved before its setup. -/
  payoffs : ∀ (id : ℕ) (row : Foreshadowing), db.foreshadowings[id]? = some row →
    row.projectId = request.projectId →
    .resolve ∈ actions id extraction.foreshadowingUpdates →
    row.setupChapter ≤ request.chapterNumber
  /-- A setup has the last word only on a foreshadowing that is left open, and a planned setup
  of the chapter is advanced in the end, unless its row was written to the database before. -/
  rows : ∀ (id : ℕ) (row : Foreshadowing), db.foreshadowings[id]? = some row →
    row.projectId = request.projectId →
    ((actions id extraction.foreshadowingUpdates).getLast? = some .setup →
      lastMove id extraction.foreshadowingUpdates = some .advance ∨
        lastMove id extraction.foreshadowingUpdates = none ∧ row.status = .open) ∧
    (row.setupChapter = request.chapterNumber → row.status = .planned →
      actions id (untilLastNew extraction.foreshadowingUpdates) = [] →
      lastMove id extraction.foreshadowingUpdates = some .advance)

/-- The way through the workflow. -/
def promote (normalizer : FactNormalizer) (indexer : MemoryIndexer) (runId versionId : ℕ)
    (extraction : Extraction) (db : CanonDatabase) : Except Error CanonDatabase := do
  let candidates ← db.extractCandidateFacts normalizer versionId runId extraction
  candidates.acceptVersion indexer runId versionId

variable {normalizer : FactNormalizer} {indexer : MemoryIndexer} {request : GenerationRequest}
  {version runId chapterId versionId : ℕ} {extraction : Extraction} {db : CanonDatabase}

/-- An outcome that is a commit of given tables: it succeeds if the checks pass, and leaves these
tables. -/
structure Commits (outcome : Except Error CanonDatabase) (story : StoryDatabase)
    (characters : List Character) (foreshadowings : List Foreshadowing) : Prop where
  holds : ∀ db', outcome = .ok db' →
    (∀ row ∈ foreshadowings, row.InRange) ∧ db'.Holds story characters foreshadowings
  succeeds : (∀ row ∈ foreshadowings, row.InRange) → ∃ db', outcome = .ok db'

/-- Storing an extraction with a generated draft ends in a commit. -/
theorem commits_persistExtraction
    (h : Promotable request version runId chapterId versionId db.toStoryDatabase)
    (hfacts : (extraction.facts.map normalizer).Nodup) :
    ∃ story : StoryDatabase,
      Commits (db.persistExtraction normalizer request extraction version) story
        (ChapterGenerationService.applyCharacterUpdates request.projectId
          extraction.characterUpdates db.characters)
        (ChapterGenerationService.openPlanned request.projectId request.chapterNumber
          (ChapterGenerationService.applyForeshadowingUpdates request.projectId
            request.chapterNumber extraction.foreshadowingUpdates
            ⟨db.foreshadowings, db.foreshadowings⟩)) ∧
      story.acceptedStatements =
        (db.facts.filter fun fact =>
          fact.status == .accepted && fact.chapterId != chapterId).map (·.statement) ++
        extraction.facts.map fun item => (chapterId, versionId, item, normalizer item) := by
  obtain ⟨story, hstory, hstatements⟩ := h.persistExtraction_ok hfacts
  refine ⟨story, ⟨fun db' hdb' => ?_, fun hrange => ?_⟩, hstatements⟩
  · rw [persistExtraction, hstory] at hdb'
    obtain ⟨hrange, hholds, -⟩ := commit_eq_ok hdb'
    exact ⟨hrange, hholds⟩
  · rw [persistExtraction, hstory]
    exact commit_ok hrange

/-- The way through the workflow ends in a commit. -/
theorem commits_promote (normalizer : FactNormalizer) (indexer : MemoryIndexer)
    (extraction : Extraction)
    (h : Promotable request version runId chapterId versionId db.toStoryDatabase) :
    ∃ story : StoryDatabase,
      Commits (db.promote normalizer indexer runId versionId extraction) story
        (ChapterVersionService.applyCharacterUpdates request.projectId
          extraction.characterUpdates db.characters)
        (ChapterVersionService.applyForeshadowingUpdates request.projectId
          request.chapterNumber extraction.foreshadowingUpdates db.foreshadowings) ∧
      story.acceptedStatements =
        (db.facts.filter (·.status == .accepted)).map (·.statement) ++
        (ChapterVersionService.distinctFacts normalizer extraction.facts).map
          fun item => (chapterId, versionId, item, normalizer item) := by
  obtain ⟨candidates, story, hextract, haccept, ⟨row, chapter, haccepting, hcharacters,
    hforeshadowings, hnumber⟩, hstatements⟩ := h.acceptVersion_ok
      normalizer extraction
  have hpromote : db.promote normalizer indexer runId versionId extraction =
      acceptVersion indexer runId versionId { db with toStoryDatabase := candidates } := by
    rw [promote, CanonDatabase.extractCandidateFacts, hextract]
    rfl
  refine ⟨story, ⟨fun db' hdb' => ?_, fun hrange => ?_⟩, hstatements⟩
  · rw [hpromote] at hdb'
    obtain ⟨hrange, hholds, -⟩ := acceptVersion_eq_ok haccept haccepting hdb'
    rw [hcharacters, hforeshadowings, hnumber] at hholds
    rw [hforeshadowings, hnumber] at hrange
    exact ⟨hrange, hholds⟩
  · rw [hpromote]
    refine acceptVersion_ok haccept haccepting ?_
    rw [hforeshadowings, hnumber]
    exact hrange

/-- Leaving out the accepted facts of a chapter leaves out none if there are none. -/
theorem eq_of_length_filter (facts : List Fact)
    (h : (facts.filter fun fact =>
        fact.status == .accepted && fact.chapterId != chapterId).length =
      (facts.filter (·.status == .accepted)).length) :
    ∀ fact ∈ facts, fact.chapterId = chapterId → fact.status ≠ .accepted := by
  have hfilter : (facts.filter fun fact =>
      fact.status == .accepted && fact.chapterId != chapterId) =
        (facts.filter (·.status == .accepted)).filter (·.chapterId != chapterId) := by
    rw [List.filter_filter]
    simp only [Bool.and_comm]
  rw [hfilter, List.length_filter_eq_length_iff] at h
  intro fact hfact hchapter hstatus
  have hmem := h fact (List.mem_filter.mpr ⟨hfact, by simp [hstatus]⟩)
  simp [hchapter] at hmem

/-- **The two ways agree** on an extraction exactly when it is agreeable. -/
theorem promotion_iff (normalizer : FactNormalizer) (indexer : MemoryIndexer)
    (request : GenerationRequest) (extraction : Extraction) (db : CanonDatabase)
    (h : Promotable request version runId chapterId versionId db.toStoryDatabase)
    (hnamed : Named db.foreshadowings extraction.foreshadowingUpdates) :
    (∃ generated accepted,
      db.persistExtraction normalizer request extraction version = .ok generated ∧
      db.promote normalizer indexer runId versionId extraction = .ok accepted ∧
      generated.SameCanon accepted) ↔
    db.Agreeable normalizer request extraction chapterId := by
  obtain ⟨promoted, hpromoted, hpromotedFacts⟩ := commits_promote normalizer indexer extraction h
  have hrange := @ChapterGenerationService.inRange_iff request.projectId request.chapterNumber _
    extraction.foreshadowingUpdates
    db.foreshadowings_inRange
  rw [← ChapterVersionService.applyForeshadowingUpdates_eq hnamed] at hrange
  have htables := @ChapterGenerationService.tables_eq_iff request.projectId
    request.chapterNumber _ _ hnamed
  constructor
  · rintro ⟨generated, accepted, hgenerated, haccepted, hsame⟩
    have hfacts : (extraction.facts.map normalizer).Nodup := by
      by_contra hnot
      rw [persistExtraction, h.persistExtraction_error hnot] at hgenerated
      exact absurd hgenerated (by simp [bind, Except.bind])
    obtain ⟨stored, hstored, hstoredFacts⟩ := commits_persistExtraction h hfacts
    obtain ⟨-, hholds⟩ := hstored.holds _ hgenerated
    obtain ⟨hok, hholds'⟩ := hpromoted.holds _ haccepted
    obtain ⟨hsetups, hrows⟩ := htables.mp
      (hholds.foreshadowings.symm.trans (hsame.foreshadowings.trans hholds'.foreshadowings))
    refine ⟨hfacts, ?_, hsetups, hrange.mp hok, hrows⟩
    -- as many facts are accepted, so none of another version was
    have hperm := hsame.facts
    rw [hholds.story, hholds'.story, hstoredFacts, hpromotedFacts,
      ChapterVersionService.distinctFacts_eq hfacts] at hperm
    have hlength := hperm.length_eq
    simp only [List.length_append, List.length_map] at hlength
    exact eq_of_length_filter db.facts (by omega)
  · rintro ⟨hfacts, hsuperseded, hsetups, hpayoffs, hrows⟩
    have htable := htables.mpr ⟨hsetups, hrows⟩
    obtain ⟨stored, hstored, hstoredFacts⟩ := commits_persistExtraction h hfacts
    have hok := hrange.mpr hpayoffs
    obtain ⟨generated, hgenerated⟩ := hstored.succeeds (by rw [htable]; exact hok)
    obtain ⟨accepted, haccepted⟩ := hpromoted.succeeds hok
    obtain ⟨-, hholds⟩ := hstored.holds _ hgenerated
    obtain ⟨-, hholds'⟩ := hpromoted.holds _ haccepted
    refine ⟨generated, accepted, hgenerated, haccepted, ?_, ?_, ?_⟩
    · rw [hholds.story, hholds'.story, hstoredFacts, hpromotedFacts,
        ChapterVersionService.distinctFacts_eq hfacts]
      have hfilter : (db.facts.filter fun fact =>
          fact.status == .accepted && fact.chapterId != chapterId) =
            db.facts.filter (·.status == .accepted) :=
        List.filter_congr fun fact hfact => by
          by_cases hchapter : fact.chapterId = chapterId
          · simp [hsuperseded fact hfact hchapter]
          · simp [hchapter]
      rw [hfilter]
    · rw [hholds.characters, hholds'.characters, applyCharacterUpdates_eq]
    · rw [hholds.foreshadowings, hholds'.foreshadowings, htable]

/-! ### Instances -/

/-- The first chapter of a project with a version that has passed, a character, and a
foreshadowing that is planned for the second chapter. -/
def sample : CanonDatabase where
  projects := [⟨.generating⟩]
  chapters := [⟨0, 1, .evaluatedPassed, 1, "One", "Text", "Summary", some 90, some 0, none⟩]
  versions := [⟨0, 1, ⟨"One", "Text", "Summary"⟩, .evaluated, "generated", none, some 0, [], [],
    false, none⟩]
  facts := []
  evaluations := [⟨0, 0, some 0, none, 1, .completed, 90, 90, 90, 0, 0, [], "accept", true⟩]
  revisions := []
  comparisons := []
  runs := [⟨0, 0, .running, "evaluate", some 0, some 0, some 0, none, 0, 0⟩]
  characters := [⟨0, "Ann", "at home"⟩]
  foreshadowings := [⟨0, 1, 3, "a letter", .open, none⟩, ⟨0, 2, 3, "a key", .planned, none⟩]
  foreshadowings_inRange := by decide
  memoryChunks := []
  indexRecords := fun _ => none

theorem promotable_sample : Promotable ⟨0, 1, true⟩ 1 0 0 0 sample.toStoryDatabase where
  project := rfl
  chapter := ⟨_, rfl, rfl⟩
  version := rfl
  fresh row hrow := by
    obtain rfl := Option.some.inj hrow
    rfl
  run := ⟨_, rfl, rfl, by decide⟩
  evaluation := ⟨_, rfl, rfl⟩

/-- A fact. -/
def sampleFact : ExtractedFact := ⟨"Ann", "is", "away"⟩

/-- Two facts of one identity are refused with a generated draft; an acceptance merges them. -/
theorem promotion_fails : Promotable ⟨0, 1, true⟩ 1 0 0 0 sample.toStoryDatabase ∧
    (∃ accepted, sample.promote (·.subject) ⟨fun text => [text], fun _ => true⟩ 0 0
      ⟨[sampleFact, sampleFact], [], []⟩ = .ok accepted) ∧
    ¬ ∃ generated accepted,
      sample.persistExtraction (·.subject) ⟨0, 1, true⟩ ⟨[sampleFact, sampleFact], [], []⟩ 1 =
        .ok generated ∧
      sample.promote (·.subject) ⟨fun text => [text], fun _ => true⟩ 0 0
        ⟨[sampleFact, sampleFact], [], []⟩ = .ok accepted ∧
      generated.SameCanon accepted := by
  refine ⟨promotable_sample, ?_, ?_⟩
  · obtain ⟨story, hpromoted, -⟩ := commits_promote (·.subject)
      ⟨fun text => [text], fun _ => true⟩ ⟨[sampleFact, sampleFact], [], []⟩ promotable_sample
    exact hpromoted.succeeds sample.foreshadowings_inRange
  · rintro ⟨generated, accepted, hgenerated, -⟩
    rw [persistExtraction, promotable_sample.persistExtraction_error (by decide)] at hgenerated
    exact absurd hgenerated (by simp [bind, Except.bind])

/-- An extraction that advances a foreshadowing, sets up another one, and leaves a planned one of
a later chapter alone. -/
def sampleExtraction : Extraction where
  facts := [sampleFact]
  characterUpdates := [⟨"Ann", "current_state", "away", rfl⟩]
  foreshadowingUpdates := [⟨.advance, "a letter", some 0⟩, ⟨.setup, "a door", none⟩]

/-- It is promoted alike. -/
theorem promotion_iff_sample : ∃ generated accepted,
    sample.persistExtraction (·.subject) ⟨0, 1, true⟩ sampleExtraction 1 = .ok generated ∧
    sample.promote (·.subject) ⟨fun text => [text], fun _ => true⟩ 0 0 sampleExtraction =
      .ok accepted ∧
    generated.SameCanon accepted := by
  refine (promotion_iff (·.subject) ⟨fun text => [text], fun _ => true⟩ ⟨0, 1, true⟩
    sampleExtraction sample promotable_sample ?_).mpr ⟨by decide, by decide, ⟨by decide,
      by decide⟩, ?_, ?_⟩
  · intro update hmem id hid
    rcases List.mem_cons.mp hmem with rfl | hmem
    · obtain rfl := Option.some.inj hid
      decide
    · obtain rfl := List.mem_singleton.mp hmem
      exact absurd hid (by simp)
  · rintro (_ | _ | id) row hrow hproject
    · obtain rfl := Option.some.inj hrow
      decide
    · obtain rfl := Option.some.inj hrow
      decide
    · exact absurd hrow (by simp [sample])
  · rintro (_ | _ | id) row hrow hproject
    · obtain rfl := Option.some.inj hrow
      decide
    · obtain rfl := Option.some.inj hrow
      decide
    · exact absurd hrow (by simp [sample])

end CanonDatabase

end StoryForge
