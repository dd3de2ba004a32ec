import StoryForge.Chapters.System
import StoryForge.Library.Selection

/-!
# The accepted version of a chapter

A chapter points to its accepted version, the version is marked as accepted, and so are the
facts extracted from it. The three are written by different transactions. Most of them keep
the three in agreement whatever happens; five do so only under a condition, because they
mark a version without looking at what its chapter points to.

## Main results

* `Canonical.quiet`, `Canonical.promoted` — what keeps the agreement;
* `StorySystem.canonical_next` — every step does, under its condition;
* `StorySystem.accepted_exactly` — in every run under the conditions, a chapter's accepted
  version is its only accepted version, and its accepted facts are the facts of that version;
* `StorySystem.accepted_exactly_fails` — evaluating an accepted chapter breaks it.
-/

namespace StoryForge

namespace StoryDatabase

/-- The choice of accepted versions: pointers of chapters and marks of versions. -/
def selection (db : StoryDatabase) : Selection ℕ ℕ where
  group id := db.versions[id]?.map (·.chapterId)
  chosen id := db.chapters[id]?.bind (·.acceptedVersionId)
  marked id := db.versions[id]?.map (·.status) = some .accepted

/-- The chapter of a version points to it. -/
def IsAccepted (db : StoryDatabase) (versionId : ℕ) : Prop :=
  (db.selection.group versionId).bind db.selection.chosen = some versionId

instance (db : StoryDatabase) (versionId : ℕ) : Decidable (db.IsAccepted versionId) :=
  inferInstanceAs (Decidable (_ = _))

/-- **Pointers, versions and facts agree** on what is accepted. -/
structure Canonical (db : StoryDatabase) : Prop where
  agrees : db.selection.Agrees
  factGroup : ∀ fact ∈ db.facts, db.selection.group fact.chapterVersionId = some fact.chapterId
  facts : ∀ fact ∈ db.facts,
    fact.status = .accepted ↔ db.selection.chosen fact.chapterId = some fact.chapterVersionId

end StoryDatabase

/-! ### Quiet changes -/

/-- Versions keep their chapter and stay accepted or not; new ones are not accepted. -/
structure VersionsKept (versions versions' : List ChapterVersion) : Prop where
  old : ∀ (id : ℕ) (version : ChapterVersion), versions[id]? = some version →
    ∃ version' : ChapterVersion, versions'[id]? = some version' ∧
      version'.chapterId = version.chapterId ∧
        (version'.status = .accepted ↔ version.status = .accepted)
  new : ∀ (id : ℕ) (version : ChapterVersion), versions[id]? = none →
    versions'[id]? = some version → version.status ≠ .accepted

theorem VersionsKept.refl (versions : List ChapterVersion) : VersionsKept versions versions :=
  ⟨fun _ version h => ⟨version, h, rfl, Iff.rfl⟩, fun _ _ hnone h => by simp [hnone] at h⟩

theorem VersionsKept.append {versions : List ChapterVersion} {version : ChapterVersion}
    (h : version.status ≠ .accepted) : VersionsKept versions (versions ++ [version]) := by
  refine ⟨fun id old hold => ⟨old, ?_, rfl, Iff.rfl⟩, fun id new hnone hnew => ?_⟩
  · rw [List.getElem?_append_left (List.getElem?_eq_some_iff.mp hold).1]
    exact hold
  · have hmem := List.mem_of_getElem? hnew
    rw [List.getElem?_append_right (List.getElem?_eq_none_iff.mp hnone)] at hnew
    rcases List.getElem?_eq_some_iff.mp hnew with ⟨hlt, rfl⟩
    simpa using h

theorem VersionsKept.mapIdx {versions : List ChapterVersion}
    {f : ℕ → ChapterVersion → ChapterVersion}
    (h : ∀ (id : ℕ) (version : ChapterVersion), versions[id]? = some version →
      (f id version).chapterId = version.chapterId ∧
        ((f id version).status = .accepted ↔ version.status = .accepted)) :
    VersionsKept versions (versions.mapIdx f) := by
  refine ⟨fun id version hversion => ⟨f id version, by simp [hversion], h id version hversion⟩,
    fun id version hnone hversion => ?_⟩
  simp [hnone] at hversion

theorem VersionsKept.modify {versions : List ChapterVersion} {id : ℕ}
    {f : ChapterVersion → ChapterVersion}
    (h : ∀ version : ChapterVersion, versions[id]? = some version →
      (f version).chapterId = version.chapterId ∧
        ((f version).status = .accepted ↔ version.status = .accepted)) :
    VersionsKept versions (versions.modify id f) := by
  refine ⟨fun k version hversion => ?_, fun k version hnone hversion => ?_⟩
  · by_cases hk : id = k
    · subst hk
      exact ⟨f version, by simp [hversion], h version hversion⟩
    · exact ⟨version, by simp [hk, hversion], rfl, Iff.rfl⟩
  · rw [List.getElem?_modify, hnone] at hversion
    simp at hversion

/-- Chapters keep their accepted version; new ones have none. -/
def ChaptersKept (chapters chapters' : List StoryChapter) : Prop :=
  ∀ id : ℕ, chapters'[id]?.bind (·.acceptedVersionId) = chapters[id]?.bind (·.acceptedVersionId)

theorem ChaptersKept.modify {chapters : List StoryChapter} {id : ℕ}
    {f : StoryChapter → StoryChapter}
    (h : ∀ chapter, (f chapter).acceptedVersionId = chapter.acceptedVersionId) :
    ChaptersKept chapters (chapters.modify id f) := by
  intro k
  rw [List.getElem?_modify]
  cases hchapter : chapters[k]? with
  | none => simp
  | some chapter =>
      by_cases hk : id = k
      · simp [hk, h]
      · simp [hk]

/-- Facts stay accepted or not; new ones are candidates of versions that are not accepted. -/
def FactsKept (db : StoryDatabase) (facts : List Fact) : Prop :=
  ∀ fact ∈ facts,
    (∃ old ∈ db.facts, fact.chapterVersionId = old.chapterVersionId ∧
      fact.chapterId = old.chapterId ∧ (fact.status = .accepted ↔ old.status = .accepted)) ∨
    fact.status ≠ .accepted ∧ db.selection.group fact.chapterVersionId = some fact.chapterId ∧
      ¬ db.IsAccepted fact.chapterVersionId

theorem FactsKept.refl (db : StoryDatabase) : FactsKept db db.facts :=
  fun fact hfact => .inl ⟨fact, hfact, rfl, rfl, Iff.rfl⟩

/-- Facts whose status is changed among the statuses that are not accepted. -/
theorem FactsKept.map {db : StoryDatabase} {f : Fact → Fact}
    (h : ∀ fact, (f fact).chapterVersionId = fact.chapterVersionId ∧
      (f fact).chapterId = fact.chapterId ∧
        ((f fact).status = .accepted ↔ fact.status = .accepted)) :
    FactsKept db (db.facts.map f) := by
  intro fact hfact
  obtain ⟨old, hold, rfl⟩ := List.mem_map.mp hfact
  exact .inl ⟨old, hold, h old⟩

/-- Rejecting candidates. -/
theorem FactsKept.reject {db : StoryDatabase} (p : Fact → Prop) [DecidablePred p] :
    FactsKept db (db.facts.map fun fact =>
      if p fact ∧ fact.status = .candidate then { fact with status := .rejected } else fact) := by
  refine .map fun fact => ?_
  split
  · rename_i hcandidate
    exact ⟨rfl, rfl, by simp [hcandidate.2]⟩
  · exact ⟨rfl, rfl, Iff.rfl⟩

/-- A transaction that accepts nothing and un-accepts nothing. -/
structure Quiet (db db' : StoryDatabase) : Prop where
  versions : VersionsKept db.versions db'.versions
  chapters : ChaptersKept db.chapters db'.chapters
  facts : FactsKept db db'.facts

theorem Quiet.refl (db : StoryDatabase) : Quiet db db :=
  ⟨.refl _, fun _ => rfl, .refl _⟩

theorem Quiet.kept {db db' : StoryDatabase} (h : Quiet db db') :
    db.selection.Kept db'.selection where
  group id c hid := by
    obtain ⟨version, hversion, rfl⟩ := Option.map_eq_some_iff.mp hid
    obtain ⟨version', hversion', hchapter, -⟩ := h.versions.old id version hversion
    exact Option.map_eq_some_iff.mpr ⟨version', hversion', hchapter⟩
  chosen c := h.chapters c
  marked id := by
    change db'.versions[id]?.map (·.status) = _ ↔ db.versions[id]?.map (·.status) = _
    cases hversion : db.versions[id]? with
    | none =>
        cases hversion' : db'.versions[id]? with
        | none => simp
        | some version => simpa using h.versions.new id version hversion hversion'
    | some version =>
        obtain ⟨version', hversion', -, hstatus⟩ := h.versions.old id version hversion
        simpa [hversion'] using hstatus

namespace StoryDatabase.Canonical

variable {db db' : StoryDatabase} {versionId : ℕ}

/-- A version is accepted exactly when its chapter points to it. -/
theorem isAccepted_iff (h : db.Canonical) :
    db.IsAccepted versionId ↔ db.selection.marked versionId := by
  constructor
  · intro haccepted
    obtain ⟨c, -, hc⟩ := Option.bind_eq_some_iff.mp haccepted
    exact h.agrees.marked_of_chosen hc
  · intro hmarked
    obtain ⟨c, hc⟩ := (h.agrees.marked_iff versionId).mp hmarked
    exact Option.bind_eq_some_iff.mpr ⟨c, h.agrees.valid c versionId hc, hc⟩

/-- Quiet transactions keep the agreement. -/
theorem quiet (h : db.Canonical) (hquiet : Quiet db db') : db'.Canonical := by
  have hkept := hquiet.kept
  have hfacts (fact : Fact) (hfact : fact ∈ db'.facts) :
      db.selection.group fact.chapterVersionId = some fact.chapterId ∧
        (fact.status = .accepted ↔
          db.selection.chosen fact.chapterId = some fact.chapterVersionId) := by
    rcases hquiet.facts fact hfact with ⟨old, hold, hversion, hchapter, hstatus⟩ | hnew
    · rw [hversion, hchapter, hstatus]
      exact ⟨h.factGroup old hold, h.facts old hold⟩
    · obtain ⟨hstatus, hgroup, haccepted⟩ := hnew
      refine ⟨hgroup, fun h => absurd h hstatus, fun hchosen => absurd ?_ haccepted⟩
      exact Option.bind_eq_some_iff.mpr ⟨_, hgroup, hchosen⟩
  exact ⟨h.agrees.kept hkept, fun fact hfact => hkept.group _ _ (hfacts fact hfact).1,
    fun fact hfact => by rw [hkept.chosen]; exact (hfacts fact hfact).2⟩

/-- Accepting a version keeps the agreement when its chapter, its mark and the facts of its
chapter follow. -/
theorem promoted {c : ℕ} (h : db.Canonical)
    (hchose : db.selection.Chose db'.selection c versionId)
    (hfacts : ∀ fact ∈ db'.facts,
      db.selection.group fact.chapterVersionId = some fact.chapterId ∧
      (fact.chapterId = c → (fact.status = .accepted ↔ fact.chapterVersionId = versionId)) ∧
      (fact.chapterId ≠ c → (fact.status = .accepted ↔
        db.selection.chosen fact.chapterId = some fact.chapterVersionId))) : db'.Canonical := by
  refine ⟨h.agrees.chose hchose, fun fact hfact => ?_, fun fact hfact => ?_⟩
  · exact hchose.group _ _ (hfacts fact hfact).1
  · obtain ⟨-, hown, hother⟩ := hfacts fact hfact
    by_cases hc : fact.chapterId = c
    · rw [hown hc, hc, hchose.chosen, Option.some_inj, eq_comm]
    · rw [hother hc, hchose.others _ hc]

end StoryDatabase.Canonical

/-! ### The transactions -/

section Transactions

variable {db db' : StoryDatabase}

open StoryDatabase

namespace ChapterGenerationService

variable {request : GenerationRequest} {version : ℕ}

theorem setRunning_quiet (h : setRunning request db = .ok db') : Quiet db db' := by
  unfold setRunning at h
  split at h
  · obtain rfl := Except.ok.inj h
    exact ⟨.refl _, .modify fun _ => rfl, .refl db⟩
  · exact absurd h (by simp)

theorem persistDraft_quiet {draft : Draft} (h : persistDraft request draft db = .ok (version, db')) :
    Quiet db db' := by
  unfold persistDraft at h
  split at h
  · exact absurd h (by simp)
  rename_i chapterId chapter _
  dsimp only at h
  generalize (if isBlank chapter.content = true then chapter.version
    else chapter.version + 1) = number at h
  split at h
  · exact absurd h (by simp)
  · obtain ⟨-, rfl⟩ := Prod.mk.inj (Except.ok.inj h)
    exact ⟨.append (by simp [draftVersion]), .modify fun _ => rfl, .refl db⟩

theorem markFailure_quiet (status : ChapterStatus) : Quiet db (markFailure request status db) := by
  unfold markFailure
  refine ⟨.refl _, ?_, .refl db⟩
  dsimp only
  split
  · exact fun _ => rfl
  · exact .modify fun _ => rfl

end ChapterGenerationService

namespace EvaluationService

variable {loaded : LoadedEvaluation}

theorem markEvaluating_quiet (h : markEvaluating loaded db = .ok db') : Quiet db db' := by
  unfold markEvaluating at h
  split at h
  · exact absurd h (by simp)
  split at h
  · exact absurd h (by simp)
  · obtain rfl := Except.ok.inj h
    exact ⟨.refl _, .modify fun _ => rfl, .refl db⟩

theorem markFailed_quiet : Quiet db (markFailed loaded db) := by
  refine ⟨.refl _, .modify fun chapter => ?_, .refl db⟩
  split <;> rfl

/-- An evaluation of a version that is not accepted accepts nothing. -/
theorem persist_quiet {evaluation : Evaluation} {close : StoryChapter → StoryChapter}
    (hdb : db.Canonical) (hversion : ¬ db.IsAccepted loaded.chapterVersionId)
    (hclose : ∀ chapter, (close chapter).acceptedVersionId = chapter.acceptedVersionId)
    (h : persist loaded evaluation close db = .ok db') : Quiet db db' := by
  unfold persist at h
  split at h
  · exact absurd h (by simp)
  split at h
  · exact absurd h (by simp)
  split at h
  · exact absurd h (by simp)
  split at h
  · exact absurd h (by simp)
  · obtain rfl := Except.ok.inj h
    refine ⟨.modify fun version hv => ⟨rfl, ?_⟩, .modify hclose, .refl db⟩
    rw [hdb.isAccepted_iff] at hversion
    simpa [selection, hv] using hversion

theorem persistComplete_quiet {scores : CombinedScores} (hdb : db.Canonical)
    (hversion : ¬ db.IsAccepted loaded.chapterVersionId)
    (h : persistComplete loaded scores db = .ok db') : Quiet db db' := by
  refine persist_quiet hdb hversion ?_ h
  exact fun _ => rfl

theorem persistPartial_quiet {scores : LocalScores} (hdb : db.Canonical)
    (hversion : ¬ db.IsAccepted loaded.chapterVersionId)
    (h : persistPartial loaded scores db = .ok db') : Quiet db db' := by
  refine persist_quiet hdb hversion ?_ h
  exact fun _ => rfl

end EvaluationService

namespace ChapterVersionService

theorem ensureInitialVersion_quiet {projectId chapterNumber workflowRunId : ℕ} {draft : Draft}
    (h : ensureInitialVersion projectId chapterNumber workflowRunId draft db = .ok db') :
    Quiet db db' := by
  unfold ensureInitialVersion at h
  split at h
  · exact absurd h (by simp)
  split at h
  · obtain rfl := Except.ok.inj h
    exact .refl db
  split at h
  · exact absurd h (by simp)
  · obtain rfl := Except.ok.inj h
    exact ⟨.append (by simp [newVersion]), .modify fun _ => rfl, .refl db⟩

theorem revise_quiet {workflowRunId sourceVersionId revisionAttempt : ℕ} {draft : Draft}
    (h : revise workflowRunId sourceVersionId revisionAttempt draft db = .ok db') :
    Quiet db db' := by
  unfold revise at h
  split at h
  · obtain rfl := Except.ok.inj h
    exact .refl db
  split at h
  · exact absurd h (by simp)
  split at h
  · exact absurd h (by simp)
  · obtain rfl := Except.ok.inj h
    exact ⟨.append (by simp [newVersion]), .modify fun _ => rfl, .refl db⟩

theorem compareVersions_quiet {acceptance : AcceptanceEvaluator}
    {workflowRunId oldVersionId newVersionId : ℕ}
    (h : compareVersions acceptance workflowRunId oldVersionId newVersionId db = .ok db') :
    Quiet db db' := by
  unfold compareVersions at h
  split at h
  · obtain rfl := Except.ok.inj h
    exact .refl db
  dsimp only at h
  split at h
  · obtain rfl := Except.ok.inj h
    exact ⟨.refl _, fun _ => rfl, .refl db⟩
  · exact absurd h (by simp)

/-- Candidate facts of a version that is not accepted accept nothing. -/
theorem extractCandidateFacts_quiet {normalizer : FactNormalizer} {versionId workflowRunId : ℕ}
    {extraction : Extraction} (hversion : extraction.facts = [] ∨ ¬ db.IsAccepted versionId)
    (h : extractCandidateFacts normalizer versionId workflowRunId extraction db = .ok db') :
    Quiet db db' := by
  unfold extractCandidateFacts at h
  split at h
  · exact absurd h (by simp)
  rename_i version hv
  split at h
  · obtain rfl := Except.ok.inj h
    exact .refl db
  split at h
  · exact absurd h (by simp)
  obtain rfl := Except.ok.inj h
  refine ⟨.modify fun _ _ => ⟨rfl, Iff.rfl⟩, fun _ => rfl, fun fact hfact => ?_⟩
  rcases List.mem_append.mp hfact with hfact | hfact
  · exact FactsKept.refl db fact hfact
  · obtain ⟨item, hitem, rfl⟩ := List.mem_map.mp hfact
    refine .inr ⟨by simp [candidateFact], by simp [selection, candidateFact, hv], ?_⟩
    rcases hversion with hnil | hversion
    · rw [hnil] at hitem
      exact absurd hitem (by simp [distinctFacts])
    · exact hversion

/-- Rejecting a version that is not accepted accepts nothing. -/
theorem rejectRevision_quiet {workflowRunId versionId : ℕ} (hdb : db.Canonical)
    (hversion : ¬ db.IsAccepted versionId)
    (h : rejectRevision workflowRunId versionId db = .ok db') : Quiet db db' := by
  unfold rejectRevision at h
  split at h
  · obtain rfl := Except.ok.inj h
    refine ⟨.modify fun version hv => ⟨rfl, ?_⟩, .modify fun _ => rfl,
      .reject fun fact => fact.chapterVersionId = versionId⟩
    rw [hdb.isAccepted_iff] at hversion
    simpa [selection, hv] using hversion
  · exact absurd h (by simp)

/-- Rejecting the open versions of a run leaves accepted ones alone. -/
theorem status_of_rejectOthers {workflowRunId versionId id : ℕ} {version : ChapterVersion}
    (h : rejectOthers workflowRunId versionId id version = true) : version.status ≠ .accepted := by
  intro haccepted
  simp [rejectOthers, closedStatuses, haccepted] at h

/-- Leaving a version that is not accepted to a human accepts nothing. -/
theorem markNeedsReview_quiet {workflowRunId : ℕ} (hdb : db.Canonical)
    (hversion : ∀ bestId, db.runs[workflowRunId]?.bind (·.bestVersionId) = some bestId →
      ¬ db.IsAccepted bestId)
    (h : markNeedsReview workflowRunId db = .ok db') : Quiet db db' := by
  unfold markNeedsReview at h
  split at h
  · exact absurd h (by simp)
  rename_i bestId hbest
  split at h
  · exact absurd h (by simp)
  split at h
  · exact absurd h (by simp)
  obtain rfl := Except.ok.inj h
  refine ⟨.mapIdx fun id version hv => ?_, .modify fun _ => rfl,
    .reject fun fact => fact.workflowRunId = some workflowRunId⟩
  have hnot := hversion bestId hbest
  rw [hdb.isAccepted_iff] at hnot
  split
  · rename_i hid
    subst hid
    exact ⟨rfl, by simpa [selection, hv] using hnot⟩
  split
  · rename_i hothers
    exact ⟨rfl, by simpa using status_of_rejectOthers hothers⟩
  · exact ⟨rfl, Iff.rfl⟩

end ChapterVersionService

/-! ### Accepting -/

theorem StoryDatabase.findChapter_eq_some {projectId chapterNumber id : ℕ}
    {chapter : StoryChapter} (h : db.findChapter projectId chapterNumber = some (id, chapter)) :
    db.chapters[id]? = some chapter := by
  obtain ⟨id', -, hchapter⟩ := Option.bind_eq_some_iff.mp h
  obtain ⟨chapter', hchapter', heq⟩ := Option.map_eq_some_iff.mp hchapter
  obtain ⟨rfl, rfl⟩ := Prod.mk.inj heq
  exact hchapter'

theorem StoryDatabase.versionByNumber_eq_some {chapterId number id : ℕ}
    (h : db.versionByNumber chapterId number = some id) :
    db.selection.group id = some chapterId := by
  obtain ⟨hlt, hrow, -⟩ := List.findIdx?_eq_some_iff_getElem.mp h
  have hchapter : db.versions[id].chapterId = chapterId := by
    simp only [Bool.and_eq_true, beq_iff_eq] at hrow
    exact hrow.1
  simp [selection, hlt, hchapter]

/-- Accepting a version moves the mark of its chapter. -/
theorem ChapterVersionService.chose_acceptVersion {workflowRunId versionId : ℕ}
    {version : ChapterVersion} {chapter : StoryChapter} {f : StoryChapter → StoryChapter}
    (hversion : db.versions[versionId]? = some version)
    (hchapter : db.chapters[version.chapterId]? = some chapter)
    (hf : ∀ chapter, (f chapter).acceptedVersionId = some versionId)
    (hversions : db'.versions =
      acceptedVersions workflowRunId versionId chapter.acceptedVersionId db.versions)
    (hchapters : db'.chapters = db.chapters.modify version.chapterId f) :
    db.selection.Chose db'.selection version.chapterId versionId where
  group j d hj := by
    obtain ⟨old, hold, rfl⟩ := Option.map_eq_some_iff.mp hj
    simp only [selection, hversions, acceptedVersions, List.getElem?_mapIdx, hold, Option.map_some,
      Option.some_inj]
    split_ifs <;> rfl
  member := by simp [selection, hversion]
  chosen := by simp [selection, hchapters, hchapter, hf]
  others d hd := by simp [selection, hchapters, List.getElem?_modify, Ne.symm hd]
  marked j := by
    have hchosen : db.selection.chosen version.chapterId = chapter.acceptedVersionId := by
      simp [selection, hchapter]
    rw [hchosen]
    simp only [selection, hversions, acceptedVersions, List.getElem?_mapIdx]
    cases hold : db.versions[j]? with
    | none =>
        have hne : j ≠ versionId := by
          rintro rfl
          rw [hversion] at hold
          exact absurd hold (by simp)
        simp [hne]
    | some old =>
        simp only [Option.map_some, Option.some_inj]
        by_cases hj : j = versionId
        · simp [hj]
        simp only [hj, if_false, false_or]
        by_cases hothers : rejectOthers workflowRunId versionId j old = true
        · simp [hothers, status_of_rejectOthers hothers]
        · by_cases hprevious : chapter.acceptedVersionId = some j
          · simp [hothers, hprevious]
          · simp [hothers, hprevious]

/-- **Accepting a version** keeps the agreement, whatever was accepted before. -/
theorem ChapterVersionService.acceptVersion_canonical {workflowRunId versionId : ℕ}
    (hdb : db.Canonical) (h : acceptVersion workflowRunId versionId db = .ok db') :
    db'.Canonical := by
  unfold acceptVersion at h
  split at h
  swap
  · exact absurd h (by simp)
  rename_i run version hrun hversion
  split at h
  · obtain rfl := Except.ok.inj h
    exact hdb
  split at h
  swap
  · exact absurd h (by simp)
  rename_i chapter project evaluation hchapter _ _
  obtain rfl := Except.ok.inj h
  refine hdb.promoted (chose_acceptVersion hversion hchapter (fun _ => rfl) rfl rfl) ?_
  have hmember : db.selection.group versionId = some version.chapterId := by
    simp [selection, hversion]
  have hchosen : db.selection.chosen version.chapterId = chapter.acceptedVersionId := by
    simp [selection, hchapter]
  intro fact' hfact'
  obtain ⟨fact, hfact, rfl⟩ := List.mem_map.mp hfact'
  have hgroup := hdb.factGroup fact hfact
  have hstatus := hdb.facts fact hfact
  by_cases hv : fact.chapterVersionId = versionId
  · have hc : fact.chapterId = version.chapterId := by
      rw [hv, hmember] at hgroup
      exact (Option.some.inj hgroup).symm
    simp only [hv, if_true]
    exact ⟨hc ▸ hmember, fun _ => by simp, fun hne => absurd hc hne⟩
  by_cases hcandidate : fact.workflowRunId = some workflowRunId ∧ fact.status = .candidate
  · rw [hcandidate.2] at hstatus
    simp only [if_neg hv, if_pos hcandidate]
    exact ⟨hgroup, fun _ => by simp [hv], fun _ => by simpa using hstatus⟩
  by_cases hprevious : chapter.acceptedVersionId = some fact.chapterVersionId ∧
      fact.status = .accepted
  · have hc : fact.chapterId = version.chapterId := by
      have hvalid := hdb.agrees.valid _ _ (hchosen.trans hprevious.1)
      exact Option.some.inj (hgroup.symm.trans hvalid)
    simp only [if_neg hv, if_neg hcandidate, if_pos hprevious]
    exact ⟨hgroup, fun _ => by simp [hv], fun hne => absurd hc hne⟩
  · simp only [if_neg hv, if_neg hcandidate, if_neg hprevious]
    refine ⟨hgroup, fun hc => ⟨fun haccepted => ?_, fun heq => absurd heq hv⟩, fun _ => hstatus⟩
    have hfollows := hstatus.mp haccepted
    rw [hc, hchosen] at hfollows
    exact absurd ⟨hfollows, haccepted⟩ hprevious

/-- An extraction that accepts its version may do so: the chapter has accepted nothing and
the version has no facts yet, or the version is the accepted one. -/
def ChapterGenerationService.ExtractsFirst (db : StoryDatabase) (request : GenerationRequest)
    (version : ℕ) : Prop :=
  match db.findChapter request.projectId request.chapterNumber with
  | none => True
  | some (chapterId, _) =>
      match db.versionByNumber chapterId version with
      | none => True
      | some snapshotId => db.selection.chosen chapterId = some snapshotId ∨
          db.selection.chosen chapterId = none ∧ db.factsForVersion snapshotId = []

/-- Marking a version and pointing its chapter to it, when no other version was chosen. -/
theorem ChapterGenerationService.chose_persistExtraction {chapterId snapshotId : ℕ}
    {chapter : StoryChapter} {f : StoryChapter → StoryChapter} {g : ChapterVersion → ChapterVersion}
    (hmember : db.selection.group snapshotId = some chapterId)
    (hchapter : db.chapters[chapterId]? = some chapter)
    (hother : ∀ id, db.selection.chosen chapterId = some id → id = snapshotId)
    (hf : ∀ chapter, (f chapter).acceptedVersionId = some snapshotId)
    (hg : ∀ version, (g version).chapterId = version.chapterId ∧ (g version).status = .accepted)
    (hversions : db'.versions = db.versions.modify snapshotId g)
    (hchapters : db'.chapters = db.chapters.modify chapterId f) :
    db.selection.Chose db'.selection chapterId snapshotId where
  group j d hj := by
    obtain ⟨old, hold, rfl⟩ := Option.map_eq_some_iff.mp hj
    simp only [selection, hversions, List.getElem?_modify, hold]
    split_ifs
    · simp [hg]
    · simp
  member := hmember
  chosen := by simp [selection, hchapters, hchapter, hf]
  others d hd := by simp [selection, hchapters, List.getElem?_modify, Ne.symm hd]
  marked j := by
    by_cases hj : j = snapshotId
    · subst hj
      obtain ⟨old, hold, -⟩ := Option.map_eq_some_iff.mp hmember
      simp [selection, hversions, hold, hg]
    · have hne : db.selection.chosen chapterId ≠ some j := fun hchosen => hj (hother j hchosen)
      rw [and_iff_left hne, or_iff_right hj]
      simp [selection, hversions, List.getElem?_modify, Ne.symm hj]

/-- **Storing an extraction** keeps the agreement on a chapter that has accepted nothing
else. -/
theorem ChapterGenerationService.persistExtraction_canonical {normalizer : FactNormalizer}
    {request : GenerationRequest} {extraction : Extraction} {version : ℕ} (hdb : db.Canonical)
    (hfirst : ExtractsFirst db request version)
    (h : persistExtraction normalizer request extraction version db = .ok db') :
    db'.Canonical := by
  unfold persistExtraction at h
  split at h
  swap
  · exact absurd h (by simp)
  rename_i project chapterId chapter _ hfind
  split at h
  · exact absurd h (by simp)
  rename_i snapshotId hsnapshot
  dsimp only at h
  split at h
  · exact absurd h (by simp)
  obtain rfl := Except.ok.inj h
  have hmember := StoryDatabase.versionByNumber_eq_some hsnapshot
  have hchapter := StoryDatabase.findChapter_eq_some hfind
  have hfirst : db.selection.chosen chapterId = some snapshotId ∨
      db.selection.chosen chapterId = none ∧ db.factsForVersion snapshotId = [] := by
    simpa [ExtractsFirst, hfind, hsnapshot] using hfirst
  have hother (id : ℕ) (hid : db.selection.chosen chapterId = some id) : id = snapshotId := by
    rcases hfirst with hchosen | ⟨hchosen, -⟩
    · exact Option.some.inj (hid.symm.trans hchosen)
    · exact absurd (hid.symm.trans hchosen) (by simp)
  refine hdb.promoted (chose_persistExtraction hmember hchapter hother ?_ ?_ rfl rfl)
    fun fact' hfact' => ?_
  · exact fun _ => rfl
  · exact fun _ => ⟨rfl, rfl⟩
  rcases List.mem_append.mp hfact' with hfact' | hfact'
  · obtain ⟨fact, hfact, rfl⟩ := List.mem_map.mp hfact'
    have hgroup := hdb.factGroup fact hfact
    have hstatus := hdb.facts fact hfact
    by_cases hold : fact.chapterId = chapterId ∧ fact.status = .accepted ∧
        fact.chapterVersionId ≠ snapshotId
    · simp only [if_pos hold]
      exact ⟨hgroup, fun _ => by simp [hold.2.2], fun hne => absurd hold.1 hne⟩
    · simp only [if_neg hold]
      refine ⟨hgroup, fun hc => ⟨fun haccepted => ?_, fun heq => ?_⟩, fun _ => hstatus⟩
      · by_contra hne
        exact hold ⟨hc, haccepted, hne⟩
      · rcases hfirst with hchosen | ⟨-, hnone⟩
        · exact hstatus.mpr (by rw [hc, heq]; exact hchosen)
        · have hmem : fact ∈ db.factsForVersion snapshotId :=
            List.mem_filter.mpr ⟨hfact, by simp [heq]⟩
          rw [hnone] at hmem
          exact absurd hmem (by simp)
  · obtain ⟨item, -, rfl⟩ := List.mem_map.mp hfact'
    exact ⟨hmember, fun _ => by simp [acceptedFact], fun hne => absurd rfl hne⟩

end Transactions

/-! ### Runs -/

namespace StorySystem

variable {services : StoryServices} {s s' : StorySystem}

/-- The condition on the next transaction of a task. -/
def TaskGuarded (db : StoryDatabase) : Task → StoryOutcome → Prop
  | .persistExtraction request version, .extracted _ =>
      ChapterGenerationService.ExtractsFirst db request version
  | .persistEvaluation loaded, .criticFailed _ => ¬ db.IsAccepted loaded.chapterVersionId
  | .persistEvaluation loaded, .evaluated _ => ¬ db.IsAccepted loaded.chapterVersionId
  | .extractCandidateFacts versionId _, .extracted extraction =>
      extraction.facts = [] ∨ ¬ db.IsAccepted versionId
  | _, _ => True

/-- **The conditions of the steps**: accepted versions are not evaluated, rejected, left to
a human or given candidate facts, and an extraction accepts its version only on a chapter
that has accepted nothing else. -/
def Guarded (s : StorySystem) : StoryAction → Prop
  | .rejectRevision _ versionId => ¬ s.db.IsAccepted versionId
  | .markNeedsReview workflowRunId =>
      ∀ bestId ∈ s.db.runs[workflowRunId]?.bind (·.bestVersionId), ¬ s.db.IsAccepted bestId
  | .resume task outcome => ∀ current ∈ s.tasks[task]?, TaskGuarded s.db current outcome
  | _ => True

/-- What other code writes accepts nothing. -/
theorem otherCode_quiet {db : StoryDatabase} {projects : List StoryProject}
    {statuses : ℕ → ChapterStatus} {newChapters : List StoryChapter} {runs : List StoryRun} :
    Quiet db (otherCode db projects statuses newChapters runs) := by
  refine ⟨.refl _, fun id => ?_, .refl db⟩
  simp only [otherCode]
  by_cases hid : id < db.chapters.length
  · rw [List.getElem?_append_left (by simpa using hid)]
    simp [hid]
  · rw [List.getElem?_append_right (by simpa using hid)]
    simp [hid, Option.bind_map]

/-- **Every step keeps the agreement**, under its condition. -/
theorem canonical_next {a : StoryAction} (hdb : s.db.Canonical) (hok : Guarded s a)
    (h : next services s a = some s') : s'.db.Canonical := by
  have hcommits := commits_next h
  generalize s'.db = db' at hcommits ⊢
  cases hcommits with
  | nothing => exact hdb
  | setRunning _ hrun => exact hdb.quiet (ChapterGenerationService.setRunning_quiet hrun)
  | persistDraft _ hrun => exact hdb.quiet (ChapterGenerationService.persistDraft_quiet hrun)
  | persistExtraction htask hrun =>
      exact ChapterGenerationService.persistExtraction_canonical hdb (hok _ htask) hrun
  | markFailure => exact hdb.quiet (ChapterGenerationService.markFailure_quiet _)
  | markEvaluating _ hrun => exact hdb.quiet (EvaluationService.markEvaluating_quiet hrun)
  | persistPartial htask hrun =>
      exact hdb.quiet (EvaluationService.persistPartial_quiet hdb (hok _ htask) hrun)
  | persistComplete htask hrun =>
      exact hdb.quiet (EvaluationService.persistComplete_quiet hdb (hok _ htask) hrun)
  | markEvaluationFailed => exact hdb.quiet EvaluationService.markFailed_quiet
  | ensureInitialVersion _ hrun =>
      exact hdb.quiet (ChapterVersionService.ensureInitialVersion_quiet hrun)
  | extractCandidateFacts htask hrun =>
      exact hdb.quiet (ChapterVersionService.extractCandidateFacts_quiet (hok _ htask) hrun)
  | revise _ hrun => exact hdb.quiet (ChapterVersionService.revise_quiet hrun)
  | compareVersions hrun => exact hdb.quiet (ChapterVersionService.compareVersions_quiet hrun)
  | acceptVersion hrun => exact ChapterVersionService.acceptVersion_canonical hdb hrun
  | rejectRevision hrun =>
      exact hdb.quiet (ChapterVersionService.rejectRevision_quiet hdb hok hrun)
  | markNeedsReview hrun =>
      exact hdb.quiet (ChapterVersionService.markNeedsReview_quiet hdb hok hrun)
  | otherCode => exact hdb.quiet otherCode_quiet

/-- A database without versions accepts nothing. -/
theorem canonical_init (hs : (machine services).init s) : s.db.Canonical := by
  obtain ⟨hversions, hfacts, -, hchapters⟩ := hs
  have hchosen (c : ℕ) : s.db.selection.chosen c = none := by
    cases hchapter : s.db.chapters[c]? with
    | none => simp [StoryDatabase.selection, hchapter]
    | some chapter =>
        simp [StoryDatabase.selection, hchapter, hchapters chapter (List.mem_of_getElem? hchapter)]
  refine ⟨⟨fun c i hi => ?_, fun i => ?_⟩, by simp [hfacts], by simp [hfacts]⟩
  · rw [hchosen] at hi
    exact absurd hi (by simp)
  · simp only [hchosen]
    simp [StoryDatabase.selection, hversions]

/-- **The accepted version of a chapter.** In every run whose steps meet their conditions, a
version that a chapter points to as accepted belongs to the chapter and is marked as
accepted, no other version of the chapter is, and the accepted facts of the chapter are the
facts extracted from it. -/
theorem accepted_exactly (hs : (machine services).ReachableUnder Guarded s) {chapterId : ℕ}
    {chapter : StoryChapter} (hchapter : s.db.chapters[chapterId]? = some chapter) {versionId : ℕ}
    (haccepted : chapter.acceptedVersionId = some versionId) :
    (∃ version, s.db.versions[versionId]? = some version ∧ version.chapterId = chapterId ∧
      version.status = .accepted) ∧
    (∀ (id : ℕ) (version : ChapterVersion), s.db.versions[id]? = some version →
      version.chapterId = chapterId → version.status = .accepted → id = versionId) ∧
    ∀ fact ∈ s.db.facts, fact.chapterId = chapterId →
      (fact.status = .accepted ↔ fact.chapterVersionId = versionId) := by
  have hdb : s.db.Canonical := Machine.ReachableUnder.invariant (fun _ => canonical_init)
    (fun _ _ _ _ hdb hok hnext => canonical_next hdb hok hnext) hs
  have hchosen : s.db.selection.chosen chapterId = some versionId := by
    simp [StoryDatabase.selection, hchapter, haccepted]
  refine ⟨?_, fun id version hversion hgroup hstatus => ?_, fun fact hfact hfor => ?_⟩
  · obtain ⟨version, hversion, hgroup⟩ :=
      Option.map_eq_some_iff.mp (hdb.agrees.valid _ _ hchosen)
    have hmarked := hdb.agrees.marked_of_chosen hchosen
    simp only [StoryDatabase.selection, hversion, Option.map_some, Option.some_inj] at hmarked
    exact ⟨version, hversion, hgroup, hmarked⟩
  · refine hdb.agrees.eq_of_marked hchosen ?_ ?_
    · simp [StoryDatabase.selection, hversion, hstatus]
    · simp [StoryDatabase.selection, hversion, hgroup]
  · rw [hdb.facts fact hfact, hfor, hchosen, Option.some_inj, eq_comm]

/-! ### A revision is accepted, and an accepted chapter is evaluated -/

instance (db : StoryDatabase) (request : GenerationRequest) (version : ℕ) :
    Decidable (ChapterGenerationService.ExtractsFirst db request version) := by
  unfold ChapterGenerationService.ExtractsFirst
  split
  · infer_instance
  split <;> infer_instance

instance (db : StoryDatabase) (task : Task) (outcome : StoryOutcome) :
    Decidable (TaskGuarded db task outcome) := by
  unfold TaskGuarded
  split <;> infer_instance

instance (s : StorySystem) (a : StoryAction) : Decidable (Guarded s a) := by
  unfold Guarded
  split <;> infer_instance

/-- Facts are normalized to their subject, and every revision is kept. -/
def sampleServices : StoryServices := ⟨(·.subject), fun _ _ _ => "accept_new"⟩

/-- A planned project with one chapter and one workflow run. -/
def sampleStory : StorySystem where
  db :=
    { projects := [⟨.planned⟩]
      chapters := [⟨0, 1, .planned, 1, "", "", "", none, none, none⟩]
      versions := []
      facts := []
      evaluations := []
      revisions := []
      comparisons := []
      runs := [⟨0, 0, .running, "initialize_workflow", none, none, none, none, 0, 0⟩] }
  tasks := []

/-- A chapter is generated: its first version is accepted with one fact. -/
def generated : List StoryAction :=
  [.generate ⟨0, 1, false⟩, .resume 0 .proceed, .resume 0 (.drafted ⟨"One", "Text", "Sum"⟩),
    .resume 0 (.extracted ⟨[⟨"hero", "is", "here"⟩], [], []⟩)]

/-- A passing evaluation of a version by task `task`. -/
def evaluated (task versionId : ℕ) : List StoryAction :=
  [.evaluate ⟨0, 1, some versionId, some 0, none⟩, .resume task .proceed,
    .resume task (.evaluated ⟨⟨90, 0, 0⟩, 90, 90, [], "accept", true⟩)]

/-- The workflow revises the chapter, evaluates the revision and accepts it. -/
def revised : List StoryAction :=
  ([.revise 0 0 1, .resume 1 (.drafted ⟨"One", "Better text", "Sum"⟩), .extractCandidateFacts 1 0,
    .resume 2 (.extracted ⟨[⟨"hero", "is", "gone"⟩], [], []⟩)] : List StoryAction) ++
  evaluated 3 1 ++ [StoryAction.acceptVersion 0 1]

/-- After a revision was accepted, its fact is the accepted one. -/
theorem accepted_exactly_revised :
    ∃ s, (machine sampleServices).ReachableUnder Guarded s ∧
      (s.db.versions.map (·.status) = [.superseded, .accepted] ∧
        s.db.facts.map (·.status) = [.superseded, .accepted]) ∧
      ∀ fact ∈ s.db.facts, fact.chapterId = 0 →
        (fact.status = .accepted ↔ fact.chapterVersionId = 1) := by
  obtain ⟨s, hs, hrows, chapter, hchapter, haccepted⟩ :=
    (machine sampleServices).exists_reachableUnder Guarded (generated ++ revised)
      (fun s => (s.db.versions.map (·.status) = [.superseded, .accepted] ∧
        s.db.facts.map (·.status) = [.superseded, .accepted]) ∧
        ∃ chapter ∈ s.db.chapters[0]?, chapter.acceptedVersionId = some 1)
      (s := sampleStory) ⟨rfl, rfl, rfl, by simp [sampleStory]⟩ (by decide +kernel)
  exact ⟨s, hs, hrows, (accepted_exactly hs hchapter haccepted).2.2⟩

/-- Evaluating the accepted version of a chapter takes its mark away. -/
theorem accepted_exactly_fails :
    ¬ ∀ s, (machine sampleServices).Reachable s → ∀ (chapterId : ℕ) (chapter : StoryChapter),
      s.db.chapters[chapterId]? = some chapter → ∀ versionId : ℕ,
      chapter.acceptedVersionId = some versionId →
      ∃ version, s.db.versions[versionId]? = some version ∧ version.chapterId = chapterId ∧
        version.status = .accepted := by
  intro h
  obtain ⟨s, hs, ⟨chapter, hchapter, haccepted⟩, hmarks⟩ :=
    (machine sampleServices).exists_reachable (generated ++ evaluated 1 0)
      (fun s => (∃ chapter ∈ s.db.chapters[0]?, chapter.acceptedVersionId = some 0) ∧
        s.db.versions.map (·.status) = [.evaluated])
      (s := sampleStory) ⟨rfl, rfl, rfl, by simp [sampleStory]⟩ (by decide +kernel)
  obtain ⟨version, hversion, -, hstatus⟩ := h s hs 0 chapter hchapter 0 haccepted
  have hmark : (s.db.versions.map (·.status))[0]? = some .evaluated := by
    rw [hmarks]
    rfl
  rw [List.getElem?_map, hversion, Option.map_some, hstatus] at hmark
  exact absurd hmark (by simp)

end StorySystem

end StoryForge
