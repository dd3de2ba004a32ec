import StoryForge.Chapters.Accepted
import StoryForge.Chapters.Scoring

/-!
# The quality gate

A workflow accepts a version only when its latest evaluation has passed. Evaluations are never
changed, versions keep the run that wrote them, and a chapter gets an accepted version in two
transactions alone. What a generation writes is accepted without an evaluation.

## Main results

* `StorySystem.accepted_passed` — in every run, a version of a workflow that is accepted has an
  evaluation that has passed every gate of the scorer.
-/

namespace StoryForge

/-! ### What the gate rests on -/

/-- What is never changed of a version: its chapter, its number and the run that wrote it. -/
def ChapterVersion.origin (row : ChapterVersion) : ℕ × ℕ × Option ℕ :=
  (row.chapterId, row.version, row.workflowRunId)

/-- Which chapter it is, and the version that it has accepted. -/
def StoryChapter.standing (chapter : StoryChapter) : (ℕ × ℕ) × Option ℕ :=
  ((chapter.projectId, chapter.chapterNumber), chapter.acceptedVersionId)

namespace StoryDatabase

variable {db db' : StoryDatabase} {c v : ℕ} {added : List Evaluation}

/-- A transaction that adds versions, chapters without an accepted one, and evaluations. -/
structure Extends (db db' : StoryDatabase) (added : List Evaluation) : Prop where
  versions : db.versions.map (·.origin) <+: db'.versions.map (·.origin)
  chapters : ∃ places : List (ℕ × ℕ), db'.chapters.map (·.standing) =
    db.chapters.map (·.standing) ++ places.map (·, none)
  evaluations : db'.evaluations = db.evaluations ++ added

theorem Extends.refl (db : StoryDatabase) : Extends db db [] :=
  ⟨List.prefix_rfl, ⟨[], (List.append_nil _).symm⟩, (List.append_nil _).symm⟩

/-- A transaction that only writes other columns. -/
theorem Extends.of_same (hversions : db'.versions.map (·.origin) = db.versions.map (·.origin))
    (hchapters : db'.chapters.map (·.standing) = db.chapters.map (·.standing))
    (hevaluations : db'.evaluations = db.evaluations) : Extends db db' [] :=
  ⟨hversions ▸ List.prefix_rfl, ⟨[], by rw [hchapters, List.map_nil, List.append_nil]⟩,
    by rw [hevaluations, List.append_nil]⟩

/-- The same for a transaction that writes to one chapter. -/
theorem Extends.of_chapter {f : StoryChapter → StoryChapter}
    (hversions : db'.versions.map (·.origin) = db.versions.map (·.origin))
    (hchapters : db'.chapters = db.chapters.modify c f)
    (hf : ∀ chapter, (f chapter).standing = chapter.standing)
    (hevaluations : db'.evaluations = db.evaluations) : Extends db db' [] :=
  .of_same hversions (by rw [hchapters, Rows.map_modify hf]) hevaluations

/-- A transaction that adds a version. -/
theorem Extends.of_concat {f : StoryChapter → StoryChapter} {row : ChapterVersion}
    (hversions : db'.versions = db.versions ++ [row])
    (hchapters : db'.chapters = db.chapters.modify c f)
    (hf : ∀ chapter, (f chapter).standing = chapter.standing)
    (hevaluations : db'.evaluations = db.evaluations) : Extends db db' [] :=
  ⟨⟨[row.origin], by rw [hversions, List.map_append, List.map_singleton]⟩,
    ⟨[], by rw [hchapters, Rows.map_modify hf, List.map_nil, List.append_nil]⟩,
    by rw [hevaluations, List.append_nil]⟩

/-- The version is one that no workflow wrote, or it has passed. -/
def Earned (db : StoryDatabase) (v : ℕ) : Prop :=
  (∃ row, db.versions[v]? = some row ∧ row.workflowRunId = none) ∨
    ∃ e ∈ db.evaluations, e.chapterVersionId = v ∧ e.passed = true

theorem getElem?_of_origin {i : ℕ} {row : ChapterVersion}
    (h : db.versions.map (·.origin) <+: db'.versions.map (·.origin))
    (hrow : db.versions[i]? = some row) :
    ∃ row', db'.versions[i]? = some row' ∧ row'.origin = row.origin := by
  obtain ⟨rest, hrest⟩ := h
  have hmap : (db.versions.map (·.origin))[i]? = some row.origin := by
    rw [List.getElem?_map, hrow]
    rfl
  have hmap' : (db'.versions.map (·.origin))[i]? = some row.origin := by
    rw [← hrest, List.getElem?_append_left (List.getElem?_eq_some_iff.mp hmap).1, hmap]
  rw [List.getElem?_map, Option.map_eq_some_iff] at hmap'
  exact hmap'

theorem Earned.mono (h : db.Earned v)
    (hversions : db.versions.map (·.origin) <+: db'.versions.map (·.origin))
    (hevaluations : db.evaluations ⊆ db'.evaluations) : db'.Earned v := by
  rcases h with ⟨row, hrow, hrun⟩ | ⟨e, he, hversion, hpassed⟩
  · obtain ⟨row', hrow', horigin⟩ := getElem?_of_origin hversions hrow
    refine .inl ⟨row', hrow', ?_⟩
    rw [← hrun]
    exact congrArg (·.2.2) horigin
  · exact .inr ⟨e, hevaluations he, hversion, hpassed⟩

/-- Evaluations that have passed meet a condition, and accepted versions of a workflow have one
that has passed. -/
structure Gated (meets : Evaluation → Prop) (db : StoryDatabase) : Prop where
  evaluations : ∀ e ∈ db.evaluations, e.passed = true → meets e
  accepted : ∀ standing ∈ db.chapters.map (·.standing), ∀ v ∈ standing.2, db.Earned v

variable {meets : Evaluation → Prop}

theorem Gated.adds (h : db.Gated meets) (hextends : Extends db db' added)
    (hadded : ∀ e ∈ added, e.passed = true → meets e) : db'.Gated meets := by
  obtain ⟨places, hplaces⟩ := hextends.chapters
  constructor
  · intro e he
    rw [hextends.evaluations] at he
    rcases List.mem_append.mp he with hold | hnew
    · exact h.evaluations e hold
    · exact hadded e hnew
  · intro standing hstanding v hv
    rw [hplaces] at hstanding
    rcases List.mem_append.mp hstanding with hold | hnew
    · refine (h.accepted standing hold v hv).mono hextends.versions ?_
      rw [hextends.evaluations]
      exact List.subset_append_left _ _
    · obtain ⟨place, -, rfl⟩ := List.mem_map.mp hnew
      exact absurd hv (by simp)

/-- A transaction that accepts an earned version for a chapter. -/
structure Accepts (db db' : StoryDatabase) (v : ℕ) : Prop where
  versions : db'.versions.map (·.origin) = db.versions.map (·.origin)
  chapters : ∃ (c : ℕ) (f : StoryChapter → StoryChapter), db'.chapters = db.chapters.modify c f ∧
    ∀ chapter, (f chapter).standing = (chapter.standing.1, some v)
  evaluations : db'.evaluations = db.evaluations
  earned : db.Earned v

theorem Gated.accepts (h : db.Gated meets) (haccepts : Accepts db db' v) : db'.Gated meets := by
  obtain ⟨c, f, hchapters, hf⟩ := haccepts.chapters
  have hkept {w : ℕ} (hw : db.Earned w) : db'.Earned w :=
    hw.mono (haccepts.versions ▸ List.prefix_rfl) (haccepts.evaluations ▸ List.Subset.refl _)
  constructor
  · rw [haccepts.evaluations]
    exact h.evaluations
  · intro standing hstanding w hw
    obtain ⟨chapter, hchapter, rfl⟩ := List.mem_map.mp hstanding
    rw [hchapters] at hchapter
    obtain ⟨i, hi⟩ := List.getElem?_of_mem hchapter
    rw [List.getElem?_modify] at hi
    obtain ⟨old, hold, rfl⟩ := Option.map_eq_some_iff.mp hi
    split at hw
    · rw [hf] at hw
      obtain rfl := Option.some.inj hw
      exact hkept haccepts.earned
    · exact hkept (h.accepted _ (List.mem_map_of_mem (List.mem_of_getElem? hold)) w hw)

/-- What a transaction of the services does: it adds evaluations that meet the condition if they
have passed, or it accepts an earned version. -/
inductive Change (meets : Evaluation → Prop) (db db' : StoryDatabase) : Prop
  | adds (added : List Evaluation) (h : Extends db db' added)
      (hadded : ∀ e ∈ added, e.passed = true → meets e)
  | accepts (v : ℕ) (h : Accepts db db' v)

theorem Extends.change (h : Extends db db' []) : Change meets db db' :=
  .adds [] h fun _ he => absurd he List.not_mem_nil

theorem Change.gated (h : Change meets db db') (hdb : db.Gated meets) : db'.Gated meets := by
  cases h with
  | adds added h hadded => exact hdb.adds h hadded
  | accepts v h => exact hdb.accepts h

/-- Versions are never removed, and keep what is never changed of them. -/
theorem Change.versions (h : Change meets db db') :
    db.versions.map (·.origin) <+: db'.versions.map (·.origin) := by
  cases h with
  | adds added h hadded => exact h.versions
  | accepts v h => exact h.versions ▸ List.prefix_rfl

/-- Neither are chapters. -/
theorem Change.places (h : Change meets db db') :
    (db.chapters.map (·.standing)).map (·.1) <+: (db'.chapters.map (·.standing)).map (·.1) := by
  cases h with
  | adds added h hadded =>
      obtain ⟨places, hplaces⟩ := h.chapters
      rw [hplaces, List.map_append]
      exact List.prefix_append _ _
  | accepts v h =>
      obtain ⟨c, f, hchapters, hf⟩ := h.chapters
      rw [List.map_map, List.map_map, hchapters]
      refine (Rows.map_modify (fun chapter => ?_) db.chapters c).symm ▸ List.prefix_rfl
      exact congrArg (·.1) (hf chapter)

end StoryDatabase

/-! ### The transactions -/

section Transactions

open StoryDatabase

variable {db db' : StoryDatabase}

namespace ChapterGenerationService

variable {request : GenerationRequest} {version : ℕ}

theorem setRunning_extends (h : setRunning request db = .ok db') : Extends db db' [] := by
  rw [setRunning] at h
  split at h
  · obtain rfl := Except.ok.inj h
    exact .of_chapter rfl rfl (fun _ => rfl) rfl
  · exact absurd h (by simp)

/-- What saving a draft writes. -/
theorem persistDraft_eq_ok {draft : Draft}
    (h : persistDraft request draft db = .ok (version, db')) :
    ∃ chapterId chapter f,
      db.findChapter request.projectId request.chapterNumber = some (chapterId, chapter) ∧
      db.versionByNumber chapterId version = none ∧
      db'.versions = db.versions ++ [draftVersion chapterId version draft] ∧
      db'.chapters = db.chapters.modify chapterId f ∧
      (∀ chapter, (f chapter).standing = chapter.standing) ∧
      db'.evaluations = db.evaluations := by
  rw [persistDraft] at h
  split at h
  · exact absurd h (by simp)
  · rename_i chapterId chapter hfound
    dsimp only at h
    generalize (if isBlank chapter.content = true then chapter.version
      else chapter.version + 1) = number at h
    split at h
    · exact absurd h (by simp)
    · rename_i hunused
      obtain ⟨rfl, rfl⟩ := Prod.mk.inj (Except.ok.inj h)
      rw [Bool.not_eq_true, Option.isSome_eq_false_iff, Option.isNone_iff_eq_none] at hunused
      exact ⟨chapterId, chapter, _, hfound, hunused, rfl, rfl, fun _ => rfl, rfl⟩

theorem persistDraft_extends {draft : Draft}
    (h : persistDraft request draft db = .ok (version, db')) : Extends db db' [] := by
  obtain ⟨chapterId, chapter, f, -, -, hversions, hchapters, hf, hevaluations⟩ :=
    persistDraft_eq_ok h
  exact .of_concat hversions hchapters hf hevaluations

theorem markFailure_extends (status : ChapterStatus) :
    Extends db (markFailure request status db) [] := by
  cases hfound : db.findChapter request.projectId request.chapterNumber with
  | none =>
      rw [markFailure, hfound]
      exact .of_same rfl rfl rfl
  | some found =>
      rw [markFailure, hfound]
      exact .of_chapter rfl rfl (fun _ => rfl) rfl

end ChapterGenerationService

namespace EvaluationService

variable {loaded : LoadedEvaluation}

theorem markEvaluating_extends (h : markEvaluating loaded db = .ok db') : Extends db db' [] := by
  rw [markEvaluating] at h
  split at h
  · exact absurd h (by simp)
  · split at h
    · exact absurd h (by simp)
    · obtain rfl := Except.ok.inj h
      exact .of_chapter rfl rfl (fun _ => rfl) rfl

theorem markFailed_extends : Extends db (markFailed loaded db) [] := by
  refine .of_chapter rfl rfl (fun chapter => ?_) rfl
  split <;> rfl

/-- **An attempt** is added to the evaluations. -/
theorem persist_extends {evaluation : Evaluation} {close : StoryChapter → StoryChapter}
    (hclose : ∀ chapter, (close chapter).standing = chapter.standing)
    (h : persist loaded evaluation close db = .ok db') : Extends db db' [evaluation] := by
  rw [persist] at h
  split at h
  · exact absurd h (by simp)
  · split at h
    · exact absurd h (by simp)
    · split at h
      · exact absurd h (by simp)
      · split at h
        · exact absurd h (by simp)
        · obtain rfl := Except.ok.inj h
          refine ⟨?_, ⟨[], ?_⟩, rfl⟩
          · refine (Rows.map_modify ?_ db.versions _).symm ▸ List.prefix_rfl
            exact fun _ => rfl
          · rw [Rows.map_modify hclose, List.map_nil, List.append_nil]

end EvaluationService

namespace ChapterVersionService

variable {workflowRunId versionId : ℕ}

theorem ensureInitialVersion_extends {projectId chapterNumber : ℕ} {draft : Draft}
    (h : ensureInitialVersion projectId chapterNumber workflowRunId draft db = .ok db') :
    Extends db db' [] := by
  rw [ensureInitialVersion] at h
  split at h
  · exact absurd h (by simp)
  · split at h
    · obtain rfl := Except.ok.inj h
      exact .refl _
    · split at h
      · exact absurd h (by simp)
      · obtain rfl := Except.ok.inj h
        exact .of_concat rfl rfl (fun _ => rfl) rfl

theorem revise_extends {sourceVersionId revisionAttempt : ℕ} {draft : Draft}
    (h : revise workflowRunId sourceVersionId revisionAttempt draft db = .ok db') :
    Extends db db' [] := by
  rw [revise] at h
  split at h
  · obtain rfl := Except.ok.inj h
    exact .refl _
  · split at h
    · exact absurd h (by simp)
    · split at h
      · exact absurd h (by simp)
      · obtain rfl := Except.ok.inj h
        exact .of_concat rfl rfl (fun _ => rfl) rfl

theorem extractCandidateFacts_extends {normalizer : FactNormalizer} {extraction : Extraction}
    (h : extractCandidateFacts normalizer versionId workflowRunId extraction db = .ok db') :
    Extends db db' [] := by
  rw [extractCandidateFacts] at h
  split at h
  · exact absurd h (by simp)
  · split at h
    · obtain rfl := Except.ok.inj h
      exact .refl _
    · split at h
      · exact absurd h (by simp)
      · obtain rfl := Except.ok.inj h
        refine .of_same (Rows.map_modify ?_ _ _) rfl rfl
        exact fun _ => rfl

theorem compareVersions_extends {acceptance : AcceptanceEvaluator} {oldVersionId newVersionId : ℕ}
    (h : compareVersions acceptance workflowRunId oldVersionId newVersionId db = .ok db') :
    Extends db db' [] := by
  rw [compareVersions] at h
  split at h
  · obtain rfl := Except.ok.inj h
    exact .refl _
  · dsimp only at h
    split at h
    · obtain rfl := Except.ok.inj h
      exact .of_same rfl rfl rfl
    · exact absurd h (by simp)

theorem rejectRevision_extends (h : rejectRevision workflowRunId versionId db = .ok db') :
    Extends db db' [] := by
  rw [rejectRevision] at h
  split at h
  · obtain rfl := Except.ok.inj h
    refine .of_chapter (Rows.map_modify ?_ _ _) rfl (fun _ => rfl) rfl
    exact fun _ => rfl
  · exact absurd h (by simp)

theorem markNeedsReview_extends (h : markNeedsReview workflowRunId db = .ok db') :
    Extends db db' [] := by
  rw [markNeedsReview] at h
  split at h
  · exact absurd h (by simp)
  · split at h
    · exact absurd h (by simp)
    · split at h
      · exact absurd h (by simp)
      · obtain rfl := Except.ok.inj h
        refine .of_chapter (Rows.map_mapIdx (fun id version => ?_) _) rfl (fun _ => rfl) rfl
        split
        · rfl
        · split <;> rfl

/-- What is picked from some rows is one of them. -/
theorem mem_of_foldl_eq_some {pick : Option Evaluation → Evaluation → Option Evaluation}
    (hpick : ∀ latest row, pick latest row = latest ∨ pick latest row = some row)
    {rows : List Evaluation} {latest : Option Evaluation} {e : Evaluation}
    (h : rows.foldl pick latest = some e) : latest = some e ∨ e ∈ rows := by
  induction rows generalizing latest with
  | nil => exact .inl h
  | cons row rows ih =>
      rcases ih h with hrow | hrest
      · rcases hpick latest row with heq | heq
        · exact .inl (heq.symm.trans hrow)
        · exact .inr (Option.some.inj (heq.symm.trans hrow) ▸ List.mem_cons_self)
      · exact .inr (List.mem_cons_of_mem _ hrest)

/-- The latest evaluation of a version is one of its evaluations. -/
theorem latestForVersion_mem {e : Evaluation} (h : db.latestForVersion versionId = some e) :
    e ∈ db.evaluations ∧ e.chapterVersionId = versionId := by
  have hmem : none = some e ∨
      e ∈ db.evaluations.filter fun row => row.chapterVersionId == versionId := by
    refine mem_of_foldl_eq_some (fun latest row => ?_) h
    split
    · exact .inr rfl
    · split
      · exact .inr rfl
      · exact .inl rfl
  rcases hmem with hnone | hmem
  · exact absurd hnone (by simp)
  · obtain ⟨hmem, hversion⟩ := List.mem_filter.mp hmem
    exact ⟨hmem, by simpa using hversion⟩

/-- **An acceptance** is of a version that has passed. -/
theorem acceptVersion_change {meets : Evaluation → Prop}
    (h : acceptVersion workflowRunId versionId db = .ok db') : Change meets db db' := by
  rw [acceptVersion] at h
  split at h
  · split at h
    · obtain rfl := Except.ok.inj h
      exact (Extends.refl _).change
    · split at h
      · rename_i evaluation _ _ hpassed
        obtain ⟨hlatest, hpassed⟩ := Option.filter_eq_some_iff.mp hpassed
        obtain ⟨hmem, hversion⟩ := latestForVersion_mem hlatest
        obtain rfl := Except.ok.inj h
        refine .accepts versionId
          ⟨?_, ⟨_, _, rfl, fun _ => rfl⟩, rfl, .inr ⟨evaluation, hmem, hversion, hpassed⟩⟩
        refine Rows.map_mapIdx (fun id version => ?_) _
        split
        · rfl
        · split
          · rfl
          · split <;> rfl
      · exact absurd h (by simp)
  · exact absurd h (by simp)

end ChapterVersionService

/-! ### Generations -/

namespace ChapterGenerationService

variable {request : GenerationRequest} {version : ℕ}

/-- The version with the number is one of a generation. -/
def Owns (db : StoryDatabase) (request : GenerationRequest) (version : ℕ) : Prop :=
  ∃ chapterId chapter id row,
    db.findChapter request.projectId request.chapterNumber = some (chapterId, chapter) ∧
      db.versionByNumber chapterId version = some id ∧ db.versions[id]? = some row ∧
      row.workflowRunId = none

theorem chapterByNumber_eq (db : StoryDatabase) (projectId chapterNumber : ℕ) :
    db.chapterByNumber projectId chapterNumber =
      ((db.chapters.map (·.standing)).map (·.1)).findIdx? (· == (projectId, chapterNumber)) := by
  rw [StoryDatabase.chapterByNumber, List.map_map, List.findIdx?_map]
  rfl

theorem versionByNumber_eq (db : StoryDatabase) (chapterId version : ℕ) :
    db.versionByNumber chapterId version = (db.versions.map (·.origin)).findIdx? fun origin =>
      origin.1 == chapterId && origin.2.1 == version := by
  rw [StoryDatabase.versionByNumber, List.findIdx?_map]
  rfl

theorem findIdx?_of_prefix {α : Type} {p : α → Bool} {rows rows' : List α} {i : ℕ}
    (h : rows <+: rows') (hfound : rows.findIdx? p = some i) : rows'.findIdx? p = some i := by
  obtain ⟨rest, rfl⟩ := h
  rw [List.findIdx?_append, hfound, Option.some_or]

/-- What a generation owns it keeps. -/
theorem Owns.change {meets : Evaluation → Prop} (h : Owns db request version)
    (hchange : Change meets db db') : Owns db' request version := by
  have hversions := hchange.versions
  have hchapters := hchange.places
  obtain ⟨chapterId, chapter, id, row, hchapter, hversion, hrow, hrun⟩ := h
  obtain ⟨row', hrow', horigin⟩ := getElem?_of_origin hversions hrow
  obtain ⟨found, hfound, hget⟩ := Option.bind_eq_some_iff.mp hchapter
  obtain ⟨_, -, hpair⟩ := Option.map_eq_some_iff.mp hget
  obtain rfl := (Prod.mk.inj hpair).1
  rw [chapterByNumber_eq] at hfound
  have hfound' := findIdx?_of_prefix hchapters hfound
  rw [← chapterByNumber_eq] at hfound'
  have hlt : found < db'.chapters.length := by
    obtain ⟨hlt, -⟩ := List.findIdx?_eq_some_iff_getElem.mp hfound'
    exact hlt
  refine ⟨found, db'.chapters[found], id, row', ?_, ?_, hrow', ?_⟩
  · rw [StoryDatabase.findChapter, hfound', Option.bind_some, List.getElem?_eq_getElem hlt,
      Option.map_some]
  · rw [versionByNumber_eq] at hversion ⊢
    exact findIdx?_of_prefix hversions hversion
  · rw [← hrun]
    exact congrArg (·.2.2) horigin

/-- A draft that is saved is owned. -/
theorem owns_persistDraft {draft : Draft}
    (h : persistDraft request draft db = .ok (version, db')) : Owns db' request version := by
  obtain ⟨chapterId, chapter, f, hfound, hunused, hversions, hchapters, hf, -⟩ :=
    persistDraft_eq_ok h
  obtain ⟨found, hindex, hget⟩ := Option.bind_eq_some_iff.mp hfound
  obtain ⟨old, hold, hpair⟩ := Option.map_eq_some_iff.mp hget
  obtain rfl := (Prod.mk.inj hpair).1
  refine ⟨found, f old, db.versions.length, draftVersion found version draft, ?_, ?_, ?_, rfl⟩
  · rw [StoryDatabase.findChapter, chapterByNumber_eq, hchapters, Rows.map_modify hf,
      ← chapterByNumber_eq, hindex, Option.bind_some, List.getElem?_modify_eq, hold]
    rfl
  · rw [StoryDatabase.versionByNumber] at hunused ⊢
    rw [hversions, List.findIdx?_append, hunused, Option.none_or]
    simp [draftVersion]
  · rw [hversions, List.getElem?_concat_length]

/-- **An extraction** accepts a version of its generation. -/
theorem persistExtraction_change {normalizer : FactNormalizer} {extraction : Extraction}
    {meets : Evaluation → Prop} (howns : Owns db request version)
    (h : persistExtraction normalizer request extraction version db = .ok db') :
    Change meets db db' := by
  obtain ⟨chapterId, chapter, id, row, hchapter, hversion, hrow, hrun⟩ := howns
  rw [persistExtraction, hchapter] at h
  split at h
  · rename_i hfound
    obtain ⟨rfl, rfl⟩ := Prod.mk.inj (Option.some.inj hfound)
    rw [hversion] at h
    dsimp only at h
    split at h
    · exact absurd h (by simp)
    · obtain rfl := Except.ok.inj h
      refine .accepts id
        ⟨Rows.map_modify ?_ _ _, ⟨_, _, rfl, fun _ => rfl⟩, rfl, .inl ⟨row, hrow, hrun⟩⟩
      exact fun _ => rfl
  · exact absurd h (by simp)

end ChapterGenerationService

end Transactions

/-! ### The services at work -/

/-- What the row of an evaluation keeps of the scores. -/
def EvaluationScorer.Input.scores {casefold : String → String} (config : EvaluationScoringConfig)
    (input : EvaluationScorer.Input casefold) : CombinedScores :=
  let combined := EvaluationScorer.combine config input
  { consistencyScore := input.consistencyScore
    criticalConflicts := input.criticalConflicts
    highConflicts := input.highConflicts
    finalScore := combined.finalScore
    outlineAdherenceScore := input.critique.outlineAdherence
    blockingReasons := combined.blockingReasons
    recommendedAction := combined.recommendedAction.value
    passed := combined.passed }

/-- An evaluation that every gate of the scorer has let through. -/
structure Evaluation.Cleared (config : EvaluationScoringConfig) (e : Evaluation) : Prop where
  completed : e.status = .completed
  blockingReasons : e.blockingReasons = []
  recommendedAction : e.recommendedAction = "accept"
  critical : e.criticalConflicts = 0
  high : e.highConflicts ≤ config.maxHighConflicts
  consistency : config.minConsistencyScore ≤ e.consistencyScore
  outline : config.minOutlineAdherenceScore ≤ e.outlineAdherenceScore
  threshold : config.passThreshold ≤ e.overallScore

namespace StorySystem

open StoryDatabase

variable {services : StoryServices} {config : EvaluationScoringConfig}
  {casefold : String → String} {s s' : StorySystem} {a : StoryAction} {db' : StoryDatabase}

/-- The scores of a complete attempt come from the scorer. -/
def Scored (casefold : String → String) (config : EvaluationScoringConfig) (_ : StorySystem) :
    StoryAction → Prop
  | .resume _ (.evaluated scores) =>
      ∃ input : EvaluationScorer.Input casefold, scores = input.scores config
  | _ => True

/-- A complete attempt that has passed is cleared. -/
theorem cleared_complete {loaded : LoadedEvaluation} {db : StoryDatabase}
    (input : EvaluationScorer.Input casefold)
    (hpassed : (EvaluationScorer.passed config input) = true) :
    (EvaluationService.completeEvaluation loaded (input.scores config) db).Cleared config := by
  have h := EvaluationScorer.passed_iff.mp hpassed
  exact ⟨rfl, of_decide_eq_true hpassed,
    by simp [EvaluationService.completeEvaluation, EvaluationScorer.Input.scores,
      EvaluationScorer.combine, EvaluationScorer.recommendedAction, hpassed,
      EvaluationScorer.RecommendedAction.value],
    h.critical, h.high, h.consistency, h.outline, h.threshold⟩

/-- What other code writes. -/
theorem otherCode_extends (db : StoryDatabase) (projects : List StoryProject)
    (statuses : ℕ → ChapterStatus) (newChapters : List StoryChapter) (runs : List StoryRun) :
    Extends db (otherCode db projects statuses newChapters runs) [] := by
  refine ⟨List.prefix_rfl, ⟨newChapters.map fun chapter => (chapter.projectId,
    chapter.chapterNumber), ?_⟩, (List.append_nil _).symm⟩
  rw [otherCode, List.map_append, List.map_map, List.map_map]
  refine congrArg (· ++ _) (Rows.map_mapIdx ?_ _)
  exact fun _ _ => rfl

/-- **What a step commits**, for the gate. -/
theorem Commits.change (h : Commits services s a db') (hok : Scored casefold config s a)
    (htasks : ∀ request version, .persistExtraction request version ∈ s.tasks →
      ChapterGenerationService.Owns s.db request version) :
    Change (Evaluation.Cleared config) s.db db' := by
  cases h with
  | nothing => exact (Extends.refl _).change
  | setRunning _ hrun => exact (ChapterGenerationService.setRunning_extends hrun).change
  | persistDraft _ hrun => exact (ChapterGenerationService.persistDraft_extends hrun).change
  | persistExtraction htask hrun =>
      exact ChapterGenerationService.persistExtraction_change
        (htasks _ _ (List.mem_of_getElem? htask)) hrun
  | markFailure _ => exact (ChapterGenerationService.markFailure_extends _).change
  | markEvaluating _ hrun => exact (EvaluationService.markEvaluating_extends hrun).change
  | persistPartial _ hrun =>
      rw [EvaluationService.persistPartial] at hrun
      refine .adds _ (EvaluationService.persist_extends ?_ hrun) fun e he => ?_
      · exact fun _ => rfl
      rw [List.mem_singleton.mp he]
      exact fun hpassed => absurd hpassed (by simp [EvaluationService.partialEvaluation])
  | persistComplete _ hrun =>
      rw [EvaluationService.persistComplete] at hrun
      refine .adds _ (EvaluationService.persist_extends ?_ hrun) fun e he => ?_
      · exact fun _ => rfl
      obtain ⟨input, rfl⟩ := hok
      rw [List.mem_singleton.mp he]
      exact cleared_complete input
  | markEvaluationFailed _ => exact EvaluationService.markFailed_extends.change
  | ensureInitialVersion _ hrun =>
      exact (ChapterVersionService.ensureInitialVersion_extends hrun).change
  | extractCandidateFacts _ hrun =>
      exact (ChapterVersionService.extractCandidateFacts_extends hrun).change
  | revise _ hrun => exact (ChapterVersionService.revise_extends hrun).change
  | compareVersions hrun => exact (ChapterVersionService.compareVersions_extends hrun).change
  | acceptVersion hrun => exact ChapterVersionService.acceptVersion_change hrun
  | rejectRevision hrun => exact (ChapterVersionService.rejectRevision_extends hrun).change
  | markNeedsReview hrun => exact (ChapterVersionService.markNeedsReview_extends hrun).change
  | otherCode => exact (otherCode_extends _ _ _ _ _).change

theorem commit_fst (db : StoryDatabase) (result : Except Error StoryDatabase) :
    (commit db result).1 = .done := by
  cases result <;> rfl

/-- A task extracts what it has drafted. -/
theorem advance_persistExtraction {current : Task} {outcome : StoryOutcome}
    {request : GenerationRequest} {version : ℕ}
    (h : advance services s.db current outcome = some (.persistExtraction request version, db')) :
    ∃ draft, ChapterGenerationService.persistDraft request draft s.db = .ok (version, db') := by
  cases current with
  | persistDraft drafted =>
      cases outcome with
      | drafted draft =>
          simp only [advance] at h
          split at h
          · rename_i hrun
            obtain ⟨htask, rfl⟩ := Prod.mk.inj (Option.some.inj h)
            obtain ⟨rfl, rfl⟩ := Task.persistExtraction.inj htask
            exact ⟨draft, hrun⟩
          · split at h <;> exact absurd h (by simp)
      | _ => exact absurd h (by simp [advance])
  | setRunning | markEvaluating =>
      cases outcome with
      | proceed =>
          simp only [advance] at h
          split at h <;> exact absurd h (by simp)
      | _ => exact absurd h (by simp [advance])
  | persistExtraction =>
      cases outcome with
      | extracted extraction =>
          simp only [advance] at h
          split at h
          · exact absurd h (by simp)
          · split at h <;> exact absurd h (by simp)
      | _ => exact absurd h (by simp [advance])
  | persistEvaluation =>
      cases outcome with
      | criticFailed | evaluated =>
          simp only [advance] at h
          split at h
          · exact absurd h (by simp)
          · split at h <;> exact absurd h (by simp)
      | _ => exact absurd h (by simp [advance])
  | markFailure | markEvaluationFailed => cases outcome <;> exact absurd h (by simp [advance])
  | ensureInitialVersion | revise =>
      cases outcome with
      | drafted draft =>
          have htask := congrArg Prod.fst (Option.some.inj h)
          rw [commit_fst] at htask
          exact absurd htask (by simp)
      | _ => exact absurd h (by simp [advance])
  | extractCandidateFacts =>
      cases outcome with
      | extracted extraction =>
          have htask := congrArg Prod.fst (Option.some.inj h)
          rw [commit_fst] at htask
          exact absurd htask (by simp)
      | _ => exact absurd h (by simp [advance])
  | done => exact absurd h (by simp [advance])

/-- A task that is to extract has been there before, or has just saved its draft. -/
theorem persistExtraction_of_next {request : GenerationRequest} {version : ℕ}
    (h : next services s a = some s') (htask : .persistExtraction request version ∈ s'.tasks) :
    .persistExtraction request version ∈ s.tasks ∨
      ∃ draft, ChapterGenerationService.persistDraft request draft s.db = .ok (version, s'.db) := by
  have hbegin {task : Task} (hne : task ≠ .persistExtraction request version)
      (hmem : .persistExtraction request version ∈ (s.begin task).tasks) :
      .persistExtraction request version ∈ s.tasks := by
    rcases List.mem_append.mp hmem with hold | hnew
    · exact hold
    · exact absurd (List.mem_singleton.mp hnew).symm hne
  cases a with
  | generate | ensureInitialVersion | extractCandidateFacts | revise =>
      simp only [next] at h
      split at h
      · obtain rfl := Option.some.inj h
        exact .inl (hbegin (by simp) htask)
      · obtain rfl := Option.some.inj h
        exact .inl htask
  | evaluate request' =>
      simp only [next] at h
      split at h
      · obtain rfl := Option.some.inj h
        exact .inl htask
      · split at h
        · obtain rfl := Option.some.inj h
          exact .inl (hbegin (by simp) htask)
        · obtain rfl := Option.some.inj h
          exact .inl htask
  | compareVersions | acceptVersion | rejectRevision | markNeedsReview | otherCode =>
      obtain rfl := Option.some.inj h
      exact .inl htask
  | resume task outcome =>
      simp only [next] at h
      split at h
      · exact absurd h (by simp)
      · obtain ⟨⟨task', db⟩, hrun, rfl⟩ := Option.map_eq_some_iff.mp h
        rcases List.mem_or_eq_of_mem_set htask with hold | rfl
        · exact .inl hold
        · exact .inr (advance_persistExtraction hrun)

/-- The state of the services, as far as the gate goes. -/
structure GateHolds (config : EvaluationScoringConfig) (s : StorySystem) : Prop where
  gated : s.db.Gated (Evaluation.Cleared config)
  owns : ∀ request version, .persistExtraction request version ∈ s.tasks →
    ChapterGenerationService.Owns s.db request version

/-- **A step** keeps the gate. -/
theorem gateHolds_next (hs : GateHolds config s) (hok : Scored casefold config s a)
    (h : next services s a = some s') : GateHolds config s' := by
  have hchange := (commits_next h).change hok hs.owns
  refine ⟨hchange.gated hs.gated, fun request version htask => ?_⟩
  rcases persistExtraction_of_next h htask with hold | ⟨draft, hdraft⟩
  · exact (hs.owns request version hold).change hchange
  · exact ChapterGenerationService.owns_persistDraft hdraft

/-- **The quality gate.** In every run of the services, whatever calls interleave with it and at
whatever point a call stops, a version that a workflow wrote is only ever the accepted one of a
chapter when an evaluation of it, scored by the scorer, has passed every gate. -/
theorem accepted_passed {start : StorySystem} (hstart : (machine services).init start)
    (hevaluations : start.db.evaluations = [])
    (hs : ((machine services).startingAt start).ReachableUnder (Scored casefold config) s)
    {chapterId v runId : ℕ} {chapter : StoryChapter} {row : ChapterVersion}
    (hchapter : s.db.chapters[chapterId]? = some chapter)
    (haccepted : chapter.acceptedVersionId = some v) (hrow : s.db.versions[v]? = some row)
    (hrun : row.workflowRunId = some runId) :
    ∃ e ∈ s.db.evaluations, e.chapterVersionId = v ∧ e.passed = true ∧ e.Cleared config := by
  have hgate : GateHolds config s := by
    refine hs.invariant (fun s hinit => ?_) fun s a s' _ hgate hok hnext =>
      gateHolds_next hgate hok hnext
    obtain rfl : s = start := hinit
    obtain ⟨-, -, htasks, hnone⟩ := hstart
    refine ⟨⟨fun e he => ?_, fun standing hstanding v hv => ?_⟩, fun request version htask => ?_⟩
    · rw [hevaluations] at he
      exact absurd he List.not_mem_nil
    · obtain ⟨chapter, hchapter, rfl⟩ := List.mem_map.mp hstanding
      rw [StoryChapter.standing, hnone chapter hchapter] at hv
      exact absurd hv (by simp)
    · rw [htasks] at htask
      exact absurd htask List.not_mem_nil
  have hearned := hgate.gated.accepted chapter.standing
    (List.mem_map_of_mem (List.mem_of_getElem? hchapter)) v haccepted
  rcases hearned with ⟨row', hrow', hnone⟩ | ⟨e, he, hversion, hpassed⟩
  · obtain rfl := Option.some.inj (hrow.symm.trans hrow')
    rw [hrun] at hnone
    exact absurd hnone (by simp)
  · exact ⟨e, he, hversion, hpassed, hgate.gated.evaluations e he hpassed⟩

/-- A workflow drafts the only chapter, and the draft is evaluated and accepted. -/
def drafted (scores : CombinedScores) : List StoryAction :=
  [.ensureInitialVersion 0 1 0, .resume 0 (.drafted ⟨"One", "Text", "Sum"⟩),
    .evaluate ⟨0, 1, some 0, some 0, none⟩, .resume 1 .proceed, .resume 1 (.evaluated scores),
    .acceptVersion 0 0]

/-- Every complete attempt has these scores. -/
def ScoredAs (scores : CombinedScores) (_ : StorySystem) : StoryAction → Prop
  | .resume _ (.evaluated other) => other = scores
  | _ => True

instance (scores : CombinedScores) (s : StorySystem) (a : StoryAction) :
    Decidable (ScoredAs scores s a) := by
  unfold ScoredAs
  split <;> infer_instance

/-- The draft of a workflow is accepted. -/
theorem accepted_passed_drafted :
    ∃ s, ((machine sampleServices).startingAt sampleStory).ReachableUnder
        (Scored id EvaluationScoringConfig.default) s ∧
      ∃ e ∈ s.db.evaluations, e.chapterVersionId = 0 ∧ e.passed = true ∧
        e.Cleared EvaluationScoringConfig.default := by
  obtain ⟨s, hs, ⟨chapter, hchapter, haccepted⟩, row, hrow, hrun⟩ :=
    ((machine sampleServices).startingAt sampleStory).exists_reachableUnder
      (ScoredAs ((EvaluationScorer.goodInput 0).scores .default))
      (drafted ((EvaluationScorer.goodInput 0).scores .default))
      (fun s => (∃ chapter ∈ s.db.chapters[0]?, chapter.acceptedVersionId = some 0) ∧
        ∃ row ∈ s.db.versions[0]?, row.workflowRunId = some 0) rfl (by decide +kernel)
  have hscored : ((machine sampleServices).startingAt sampleStory).ReachableUnder
      (Scored id EvaluationScoringConfig.default) s := by
    refine hs.mono fun s a hok => ?_
    unfold ScoredAs at hok
    unfold Scored
    split
    · exact ⟨_, hok⟩
    · trivial
  exact ⟨s, hscored, accepted_passed ⟨rfl, rfl, rfl, by simp [sampleStory]⟩ rfl hscored hchapter
    haccepted hrow hrun⟩

end StorySystem

end StoryForge
