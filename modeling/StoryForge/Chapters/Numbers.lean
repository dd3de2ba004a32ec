import Mathlib.Data.List.MinMax
import Mathlib.Order.Nat
import StoryForge.Chapters.Accepted

/-!
# The numbers of versions

Two transactions number versions. `_persist_draft` takes the number the chapter shows, or
the next one when the chapter has text; the workflow takes one more than the highest number
in use. The second is never in use. The first is not in use as long as a chapter with
versions has text and shows its highest number, and there are three ways to end that: a
version is added to a chapter without text, an empty text is shown, and a version other than
the latest is.

## Main results

* `Numbering.Settled.fresh` — a settled chapter has unused numbers to give;
* `Numbering.Settled.drafted`, `Numbering.Settled.numbered`, `Numbering.Settled.shown` — and
  when it stays so;
* `StorySystem.fresh_numbers` — runs that keep chapters settled, step by step;
* `StorySystem.fresh_numbers_fails` — a draft of the workflow, and then a generation.
-/

namespace StoryForge

/-! ### One chapter -/

/-- The version numbers of one chapter: those in use, whether the chapter is without text,
and the number it shows. -/
structure Numbering where
  used : List ℕ
  blank : Bool
  current : ℕ
  deriving DecidableEq, Repr

namespace Numbering

variable {n : Numbering} {blank : Bool} {number : ℕ}

/-- The number of the next draft of `_persist_draft`. -/
def draftNumber (n : Numbering) : ℕ := if n.blank then n.current else n.current + 1

/-- The number of the next version of the workflow. -/
def nextVersion (n : Numbering) : ℕ := n.used.foldr max 0 + 1

/-- Neither number is in use. -/
def Fresh (n : Numbering) : Prop := n.draftNumber ∉ n.used ∧ n.nextVersion ∉ n.used

/-- A chapter with versions has text and shows the highest number; the numbers have no
gap. -/
structure Settled (n : Numbering) : Prop where
  text : n.used ≠ [] → n.blank = false
  current_mem : n.used ≠ [] → n.current ∈ n.used
  le_current : ∀ m ∈ n.used, m ≤ n.current
  succ_mem : ∀ m ∈ n.used, m < n.current → m + 1 ∈ n.used

/-- The workflow numbers above everything in use. -/
theorem lt_nextVersion {m : ℕ} (hm : m ∈ n.used) : m < n.nextVersion :=
  Nat.lt_succ_of_le (List.le_max_of_le hm le_rfl)

theorem nextVersion_not_mem : n.nextVersion ∉ n.used := by
  intro hmem
  exact absurd (lt_nextVersion hmem) (lt_irrefl _)

/-- Only the number of a draft is in question. -/
theorem fresh_iff : n.Fresh ↔ n.draftNumber ∉ n.used :=
  and_iff_left nextVersion_not_mem

/-- A chapter that shows a number in use needs text. -/
theorem Fresh.text (h : n.Fresh) (hcurrent : n.current ∈ n.used) : n.blank = false := by
  by_contra hblank
  refine h.1 ?_
  rw [draftNumber, if_pos (by simpa using hblank)]
  exact hcurrent

/-- With text, the number after the one shown is the next. -/
theorem fresh_iff_succ (hblank : n.blank = false) : n.Fresh ↔ n.current + 1 ∉ n.used := by
  rw [fresh_iff, draftNumber, hblank, if_neg Bool.false_ne_true]

/-- **A settled chapter** has unused numbers to give. -/
theorem Settled.fresh (h : n.Settled) : n.Fresh := by
  by_cases hused : n.used = []
  · rw [fresh_iff, hused]
    exact List.not_mem_nil
  · rw [fresh_iff_succ (h.text hused)]
    intro hmem
    have := h.le_current _ hmem
    omega

/-- A settled chapter has used all numbers up to the one it shows. -/
theorem Settled.nextVersion_eq (h : n.Settled) (hused : n.used ≠ []) :
    n.nextVersion = n.current + 1 := by
  have hlt := lt_nextVersion (h.current_mem hused)
  have hle : n.used.foldr max 0 ≤ n.current := List.max_le_of_forall_le _ _ h.le_current
  unfold nextVersion at hlt ⊢
  omega

/-- What a transaction writes: numbers added, and what the chapter shows then. -/
def write (n : Numbering) (added : List ℕ) (blank : Bool) (number : ℕ) : Numbering where
  used := n.used ++ added
  blank := blank
  current := number

theorem mem_write {added : List ℕ} {m : ℕ} :
    m ∈ (n.write added blank number).used ↔ m ∈ n.used ∨ m ∈ added :=
  List.mem_append

/-- A number on top of a settled chapter is written with text. -/
theorem Settled.write_succ (h : n.Settled) (hnumber : n.used ≠ [] → number = n.current + 1) :
    (n.write [number] false number).Settled := by
  refine ⟨fun _ => rfl, fun _ => by simp [write], fun m hm => ?_, fun m hm hlt => ?_⟩
  · rcases mem_write.mp hm with hold | hnew
    · have hle := h.le_current m hold
      have heq := hnumber (List.ne_nil_of_mem hold)
      change m ≤ number
      omega
    · exact (List.mem_singleton.mp hnew).le
  · rcases mem_write.mp hm with hold | hnew
    · have hused := List.ne_nil_of_mem hold
      have hle := h.le_current m hold
      rcases hle.lt_or_eq with hbelow | rfl
      · exact mem_write.mpr (.inl (h.succ_mem m hold hbelow))
      · rw [← hnumber hused]
        exact mem_write.mpr (.inr (List.mem_singleton_self _))
    · rw [List.mem_singleton.mp hnew] at hlt
      exact absurd hlt (lt_irrefl number)

/-- **A draft** keeps a chapter settled when it has text. -/
theorem Settled.drafted (h : n.Settled) :
    (n.write [n.draftNumber] false n.draftNumber).Settled := by
  refine h.write_succ fun hused => ?_
  rw [draftNumber, h.text hused, if_neg Bool.false_ne_true]

/-- A draft without text takes its own number for the next one. -/
theorem fresh_drafted (h : (n.write [n.draftNumber] blank n.draftNumber).Fresh) :
    blank = false :=
  h.text (mem_write.mpr (.inr (List.mem_singleton_self _)))

/-- **A version of the workflow** keeps a chapter settled when the chapter has text. -/
theorem Settled.numbered (h : n.Settled) :
    (n.write [n.nextVersion] false n.nextVersion).Settled :=
  h.write_succ h.nextVersion_eq

/-- A version of the workflow in a chapter without text is followed by a draft with its
number. -/
theorem fresh_numbered (h : (n.write [n.nextVersion] blank n.nextVersion).Fresh) :
    blank = false :=
  h.text (mem_write.mpr (.inr (List.mem_singleton_self _)))

/-- **Showing the latest version** keeps a chapter settled when it has text. -/
theorem Settled.shown (h : n.Settled) (hnumber : number ∈ n.used)
    (hlatest : ∀ m ∈ n.used, m ≤ number) : (n.write [] false number).Settled := by
  have hcurrent : number = n.current :=
    le_antisymm (h.le_current number hnumber)
      (hlatest _ (h.current_mem (List.ne_nil_of_mem hnumber)))
  refine ⟨fun _ => rfl, fun _ => mem_write.mpr (.inl hnumber), fun m hm => ?_, fun m hm hlt => ?_⟩
  · exact hlatest m ((mem_write.mp hm).resolve_right List.not_mem_nil)
  · refine mem_write.mpr (.inl (h.succ_mem m ?_ ?_))
    · exact (mem_write.mp hm).resolve_right List.not_mem_nil
    · exact hcurrent ▸ hlt

/-- Showing an older version brings back a number in use. -/
theorem Settled.fresh_shown (h : n.Settled) (hnumber : number ∈ n.used)
    (hfresh : (n.write [] blank number).Fresh) :
    blank = false ∧ ∀ m ∈ n.used, m ≤ number := by
  have hblank : blank = false := hfresh.text (mem_write.mpr (.inl hnumber))
  refine ⟨hblank, fun m hm => ?_⟩
  by_contra hlt
  have hcurrent := h.le_current m hm
  refine (fresh_iff_succ hblank).mp hfresh (mem_write.mpr (.inl ?_))
  exact h.succ_mem number hnumber (by omega)

end Numbering

/-! ### The chapters of a database -/

namespace StoryDatabase

variable {db db' : StoryDatabase} {c : ℕ}

/-- The numbers of a chapter. A chapter that does not exist has no text. -/
def numbering (db : StoryDatabase) (c : ℕ) : Numbering where
  used := (db.versions.filter fun row => row.chapterId == c).map (·.version)
  blank := db.chapters[c]?.all fun chapter => isBlank chapter.content
  current := (db.chapters[c]?.map (·.version)).getD 0

/-- **Version numbers are fresh.** Neither the number of the next draft nor the number of
the next version of the workflow is in use by a version of the chapter. -/
def FreshNumbers (db : StoryDatabase) : Prop :=
  ∀ (c : ℕ) (chapter : StoryChapter), db.chapters[c]? = some chapter →
    ∀ row ∈ db.versions, row.chapterId = c →
      row.version ≠ (if isBlank chapter.content then chapter.version else chapter.version + 1) ∧
        row.version ≠ db.nextVersion c

/-- Every chapter is settled. -/
def SettledNumbers (db : StoryDatabase) : Prop := ∀ c, (db.numbering c).Settled

theorem mem_used {m : ℕ} :
    m ∈ (db.numbering c).used ↔ ∃ row ∈ db.versions, row.chapterId = c ∧ row.version = m := by
  simp [numbering, and_assoc]

/-- The numbers of a chapter that exists. -/
theorem numbering_shown {chapter : StoryChapter} (hchapter : db.chapters[c]? = some chapter) :
    (db.numbering c).blank = isBlank chapter.content ∧
      (db.numbering c).current = chapter.version := by
  simp [numbering, hchapter]

theorem nextVersion_eq : db.nextVersion c = (db.numbering c).nextVersion := rfl

theorem draftNumber_eq {chapter : StoryChapter} (hchapter : db.chapters[c]? = some chapter) :
    (db.numbering c).draftNumber =
      if isBlank chapter.content then chapter.version else chapter.version + 1 := by
  rw [Numbering.draftNumber, (numbering_shown hchapter).1, (numbering_shown hchapter).2]

/-- Numbers are fresh when those of every chapter are. -/
theorem freshNumbers_iff :
    db.FreshNumbers ↔ ∀ c : ℕ, c < db.chapters.length → (db.numbering c).Fresh := by
  constructor
  · intro h c hc
    have hchapter := List.getElem?_eq_getElem hc
    rw [Numbering.fresh_iff, draftNumber_eq hchapter, mem_used]
    rintro ⟨row, hrow, hof, hnumber⟩
    exact (h c _ hchapter row hrow hof).1 hnumber
  · intro h c chapter hchapter row hrow hof
    have hfresh := h c (List.getElem?_eq_some_iff.mp hchapter).1
    refine ⟨fun hnumber => hfresh.1 ?_, fun hnumber => hfresh.2 ?_⟩
    · rw [draftNumber_eq hchapter]
      exact mem_used.mpr ⟨row, hrow, hof, hnumber⟩
    · exact mem_used.mpr ⟨row, hrow, hof, hnumber⟩

theorem SettledNumbers.fresh (h : db.SettledNumbers) : db.FreshNumbers :=
  freshNumbers_iff.mpr fun c _ => (h c).fresh

/-- The chapter of every version of a settled database exists. -/
theorem SettledNumbers.exists_chapter (h : db.SettledNumbers) {row : ChapterVersion}
    (hrow : row ∈ db.versions) : ∃ chapter, db.chapters[row.chapterId]? = some chapter := by
  have hused := mem_used.mpr ⟨row, hrow, rfl, rfl⟩
  have htext := (h row.chapterId).text (List.ne_nil_of_mem hused)
  cases hchapter : db.chapters[row.chapterId]? with
  | none => simp [numbering, hchapter] at htext
  | some chapter => exact ⟨chapter, rfl⟩

/-! ### What a transaction writes -/

/-- The columns of a version that its number depends on. -/
def numberColumns (row : ChapterVersion) : ℕ × ℕ := (row.chapterId, row.version)

/-- The columns of a chapter that the number of a draft depends on. -/
def textColumns (chapter : StoryChapter) : Bool × ℕ := (isBlank chapter.content, chapter.version)

/-- The numbers of a chapter depend on these columns alone. -/
theorem numbering_eq_columns : db.numbering c =
    ⟨((db.versions.map numberColumns).filter fun row => row.1 == c).map (·.2),
      (db.chapters[c]?.map textColumns).all (·.1),
      ((db.chapters[c]?.map textColumns).map (·.2)).getD 0⟩ := by
  rw [numbering, List.filter_map, List.map_map, Option.all_map, Option.map_map]
  rfl

/-- A transaction that writes none of the columns. -/
theorem numbering_congr (hversions : db'.versions.map numberColumns = db.versions.map numberColumns)
    (hchapter : db'.chapters[c]?.map textColumns = db.chapters[c]?.map textColumns) :
    db'.numbering c = db.numbering c := by
  rw [numbering_eq_columns, hversions, hchapter, ← numbering_eq_columns]

/-- A transaction that writes to one chapter: it adds versions with these numbers, and then
the chapter shows a text and a number. -/
structure Writes (db db' : StoryDatabase) (c : ℕ) (added : List ℕ) (shown : Bool × ℕ) : Prop where
  length : db'.chapters.length = db.chapters.length
  lt : c < db.chapters.length
  versions : db'.versions.map numberColumns =
    db.versions.map numberColumns ++ added.map fun number => (c, number)
  here : db'.chapters[c]?.map textColumns = some shown
  others : ∀ other : ℕ, other ≠ c →
    db'.chapters[other]?.map textColumns = db.chapters[other]?.map textColumns

namespace Writes

variable {added : List ℕ} {shown : Bool × ℕ}

/-- The numbers of the chapter written to. -/
theorem numbering_here (h : Writes db db' c added shown) :
    db'.numbering c = (db.numbering c).write added shown.1 shown.2 := by
  rw [numbering_eq_columns, h.versions, h.here, numbering_eq_columns]
  rw [List.filter_append, List.map_append]
  simp [Numbering.write, List.filter_map, Function.comp_def]

/-- Other chapters keep their numbers. -/
theorem numbering_other (h : Writes db db' c added shown) {other : ℕ} (hother : other ≠ c) :
    db'.numbering other = db.numbering other := by
  rw [numbering_eq_columns, h.versions, h.others other hother, numbering_eq_columns]
  rw [List.filter_append, List.map_append]
  simp [List.filter_map, Function.comp_def, Ne.symm hother]

/-- The rest is up to the chapter written to. -/
theorem settledNumbers (h : Writes db db' c added shown) (hdb : db.SettledNumbers)
    (hhere : ((db.numbering c).write added shown.1 shown.2).Settled) : db'.SettledNumbers := by
  intro other
  by_cases hother : other = c
  · rw [hother, h.numbering_here]
    exact hhere
  · rw [h.numbering_other hother]
    exact hdb other

theorem fresh_here (h : Writes db db' c added shown) (hfresh : db'.FreshNumbers) :
    ((db.numbering c).write added shown.1 shown.2).Fresh := by
  rw [← h.numbering_here]
  exact freshNumbers_iff.mp hfresh c (h.length ▸ h.lt)

end Writes

/-- A transaction that writes no number. -/
structure KeepsColumns (db db' : StoryDatabase) : Prop where
  versions : db'.versions.map numberColumns = db.versions.map numberColumns
  chapters : ∀ c : ℕ, db'.chapters[c]?.map textColumns = db.chapters[c]?.map textColumns

theorem KeepsColumns.settledNumbers (h : KeepsColumns db db') (hdb : db.SettledNumbers) :
    db'.SettledNumbers := by
  intro c
  rw [numbering_congr h.versions (h.chapters c)]
  exact hdb c

end StoryDatabase

/-! ### The transactions -/

section Transactions

open StoryDatabase

variable {db db' : StoryDatabase} {c : ℕ} {chapter : StoryChapter}

/-- A chapter may be written to, as long as it shows the same. -/
theorem StoryDatabase.KeepsColumns.modify {f : StoryChapter → StoryChapter}
    (hversions : db'.versions.map numberColumns = db.versions.map numberColumns)
    (hchapters : db'.chapters = db.chapters.modify c f)
    (hf : ∀ chapter, textColumns (f chapter) = textColumns chapter) : KeepsColumns db db' := by
  refine ⟨hversions, fun other => ?_⟩
  rw [hchapters, ← List.getElem?_map, Rows.map_modify hf, List.getElem?_map]

/-- A chapter may be written to while versions are added to it. -/
theorem StoryDatabase.Writes.modify {f : StoryChapter → StoryChapter} {added : List ℕ}
    {shown : Bool × ℕ}
    (hchapter : db.chapters[c]? = some chapter) (hf : textColumns (f chapter) = shown)
    (hchapters : db'.chapters = db.chapters.modify c f)
    (hversions : db'.versions.map numberColumns =
      db.versions.map numberColumns ++ added.map fun number => (c, number)) :
    Writes db db' c added shown := by
  refine ⟨?_, (List.getElem?_eq_some_iff.mp hchapter).1, hversions, ?_, fun other hother => ?_⟩
  · rw [hchapters, List.length_modify]
  · rw [hchapters, List.getElem?_modify_eq, hchapter, ← hf]
    rfl
  · rw [hchapters, List.getElem?_modify_ne _ _ (Ne.symm hother)]

namespace ChapterGenerationService

variable {request : GenerationRequest} {version : ℕ}

theorem setRunning_columns (h : setRunning request db = .ok db') : KeepsColumns db db' := by
  unfold setRunning at h
  split at h
  · obtain rfl := Except.ok.inj h
    exact .modify rfl rfl fun _ => rfl
  · exact absurd h (by simp)

/-- **A draft of a chapter** whose numbers are fresh is saved. -/
theorem persistDraft_writes (draft : Draft) (hdb : db.FreshNumbers)
    (hfound : db.findChapter request.projectId request.chapterNumber = some (c, chapter)) :
    ∃ db', persistDraft request draft db = .ok ((db.numbering c).draftNumber, db') ∧
      Writes db db' c [(db.numbering c).draftNumber]
        (isBlank draft.content, (db.numbering c).draftNumber) := by
  have hchapter := findChapter_eq_some hfound
  have hunused : (db.versionByNumber c (db.numbering c).draftNumber).isSome = false := by
    rw [versionByNumber, List.findIdx?_isSome, List.any_eq_false]
    intro row hrow hsame
    rw [Bool.and_eq_true, beq_iff_eq, beq_iff_eq] at hsame
    refine (hdb c chapter hchapter row hrow hsame.1).1 ?_
    rw [hsame.2, draftNumber_eq hchapter]
  rw [persistDraft, hfound]
  dsimp only
  rw [← draftNumber_eq hchapter, hunused, if_neg Bool.false_ne_true]
  exact ⟨_, rfl, .modify hchapter rfl rfl List.map_append⟩

theorem persistExtraction_columns {normalizer : FactNormalizer} {extraction : Extraction}
    (h : persistExtraction normalizer request extraction version db = .ok db') :
    KeepsColumns db db' := by
  unfold persistExtraction at h
  split at h
  · split at h
    · exact absurd h (by simp)
    dsimp only at h
    split at h
    · exact absurd h (by simp)
    · obtain rfl := Except.ok.inj h
      refine .modify (Rows.map_modify ?_ _ _) rfl ?_
      · exact fun _ => rfl
      · exact fun _ => rfl
  · exact absurd h (by simp)

theorem markFailure_columns (status : ChapterStatus) :
    KeepsColumns db (markFailure request status db) := by
  cases hfound : db.findChapter request.projectId request.chapterNumber with
  | none =>
      refine ⟨rfl, fun c => ?_⟩
      rw [markFailure, hfound]
  | some found =>
      rw [markFailure, hfound]
      exact .modify rfl rfl fun _ => rfl

end ChapterGenerationService

namespace EvaluationService

variable {loaded : LoadedEvaluation}

theorem markEvaluating_columns (h : markEvaluating loaded db = .ok db') : KeepsColumns db db' := by
  unfold markEvaluating at h
  split at h
  · exact absurd h (by simp)
  split at h
  · exact absurd h (by simp)
  · obtain rfl := Except.ok.inj h
    exact .modify rfl rfl fun _ => rfl

theorem markFailed_columns : KeepsColumns db (markFailed loaded db) := by
  refine .modify rfl rfl fun chapter => ?_
  split <;> rfl

theorem persist_columns {evaluation : Evaluation} {close : StoryChapter → StoryChapter}
    (hclose : ∀ chapter, textColumns (close chapter) = textColumns chapter)
    (h : persist loaded evaluation close db = .ok db') : KeepsColumns db db' := by
  unfold persist at h
  split at h
  · exact absurd h (by simp)
  split at h
  · exact absurd h (by simp)
  split at h
  · exact absurd h (by simp)
  split at h
  · exact absurd h (by simp)
  · obtain rfl := Except.ok.inj h
    refine .modify (Rows.map_modify ?_ _ _) rfl hclose
    exact fun _ => rfl

end EvaluationService

namespace ChapterVersionService

variable {workflowRunId versionId : ℕ} {run : StoryRun} {version : ChapterVersion}

/-- **A draft of the workflow** takes the next number, and the text stays. -/
theorem ensureInitialVersion_writes {projectId chapterNumber : ℕ} (draft : Draft)
    (hkey : db.versionByKey (draftKey workflowRunId) = none)
    (hrun : db.runs[workflowRunId]? = some run)
    (hfound : db.findChapter projectId chapterNumber = some (c, chapter)) :
    ∃ db', ensureInitialVersion projectId chapterNumber workflowRunId draft db = .ok db' ∧
      Writes db db' c [(db.numbering c).nextVersion]
        (isBlank chapter.content, (db.numbering c).nextVersion) := by
  rw [ensureInitialVersion, hfound]
  dsimp only
  rw [hkey, hrun, if_neg (by simp), if_neg (by simp)]
  exact ⟨_, rfl, .modify (findChapter_eq_some hfound) rfl rfl List.map_append⟩

/-- **A revision** takes the next number, and the text stays. -/
theorem revise_writes {sourceVersionId revisionAttempt : ℕ} (draft : Draft)
    (hkey : db.versionByKey (revisionKey workflowRunId revisionAttempt) = none)
    (hsource : revisionSource workflowRunId sourceVersionId db = some (version, run))
    (hchapter : db.chapters[version.chapterId]? = some chapter) :
    ∃ db', revise workflowRunId sourceVersionId revisionAttempt draft db = .ok db' ∧
      Writes db db' version.chapterId [(db.numbering version.chapterId).nextVersion]
        (isBlank chapter.content, (db.numbering version.chapterId).nextVersion) := by
  rw [revise, hkey, if_neg (by simp), hsource]
  dsimp only
  rw [hchapter, if_neg (by simp)]
  exact ⟨_, rfl, .modify hchapter rfl rfl List.map_append⟩

theorem extractCandidateFacts_columns {normalizer : FactNormalizer} {extraction : Extraction}
    (h : extractCandidateFacts normalizer versionId workflowRunId extraction db = .ok db') :
    KeepsColumns db db' := by
  unfold extractCandidateFacts at h
  split at h
  · exact absurd h (by simp)
  split at h
  · obtain rfl := Except.ok.inj h
    exact ⟨rfl, fun _ => rfl⟩
  split at h
  · exact absurd h (by simp)
  · obtain rfl := Except.ok.inj h
    refine ⟨Rows.map_modify ?_ _ _, fun _ => rfl⟩
    exact fun _ => rfl

theorem compareVersions_columns {acceptance : AcceptanceEvaluator}
    {oldVersionId newVersionId : ℕ}
    (h : compareVersions acceptance workflowRunId oldVersionId newVersionId db = .ok db') :
    KeepsColumns db db' := by
  unfold compareVersions at h
  split at h
  · obtain rfl := Except.ok.inj h
    exact ⟨rfl, fun _ => rfl⟩
  dsimp only at h
  split at h
  · obtain rfl := Except.ok.inj h
    exact ⟨rfl, fun _ => rfl⟩
  · exact absurd h (by simp)

theorem rejectRevision_columns (h : rejectRevision workflowRunId versionId db = .ok db') :
    KeepsColumns db db' := by
  unfold rejectRevision at h
  split at h
  · obtain rfl := Except.ok.inj h
    refine .modify (Rows.map_modify ?_ _ _) rfl ?_
    · exact fun _ => rfl
    · exact fun _ => rfl
  · exact absurd h (by simp)

/-- Versions keep their numbers when one is accepted. -/
theorem acceptedVersions_columns (previous : Option ℕ) (versions : List ChapterVersion) :
    (acceptedVersions workflowRunId versionId previous versions).map numberColumns =
      versions.map numberColumns := by
  refine Rows.map_mapIdx (fun id version => ?_) versions
  split
  · rfl
  split
  · rfl
  split <;> rfl

/-- **An acceptance** shows the version that is accepted. -/
theorem acceptVersion_writes {project : StoryProject} {evaluation : Evaluation}
    (hrun : db.runs[workflowRunId]? = some run) (hversion : db.versions[versionId]? = some version)
    (hreplay : ¬ (run.status = .completed ∧ run.acceptedVersionId = some versionId))
    (hchapter : db.chapters[version.chapterId]? = some chapter)
    (hproject : db.projects[run.projectId]? = some project)
    (hpassed : (db.latestForVersion versionId).filter (·.passed) = some evaluation) :
    ∃ db', acceptVersion workflowRunId versionId db = .ok db' ∧
      Writes db db' version.chapterId [] (isBlank version.text.content, version.version) := by
  rw [acceptVersion, hrun, hversion]
  dsimp only
  rw [if_neg hreplay, hchapter, hproject, hpassed]
  refine ⟨_, rfl, .modify hchapter rfl rfl ?_⟩
  rw [List.map_nil, List.append_nil]
  exact acceptedVersions_columns _ _

/-- **A run left to a human** shows its best version. -/
theorem markNeedsReview_writes (hrun : db.runs[workflowRunId]? = some run)
    (hbest : run.bestVersionId = some versionId) (hversion : db.versions[versionId]? = some version)
    (hchapter : db.chapters[version.chapterId]? = some chapter) :
    ∃ db', markNeedsReview workflowRunId db = .ok db' ∧
      Writes db db' version.chapterId [] (isBlank version.text.content, version.version) := by
  rw [markNeedsReview, hrun, Option.bind_some, hbest]
  dsimp only
  rw [hversion]
  dsimp only
  rw [hchapter, if_neg (by simp)]
  refine ⟨_, rfl, .modify hchapter rfl rfl ?_⟩
  rw [List.map_nil, List.append_nil]
  refine Rows.map_mapIdx (fun id version => ?_) db.versions
  split
  · rfl
  split <;> rfl

end ChapterVersionService

end Transactions

/-! ### The services at work -/

/-- A version with text that no other version of its chapter comes after. -/
def StoryDatabase.IsLatestText (db : StoryDatabase) (version : ChapterVersion) : Prop :=
  isBlank version.text.content = false ∧
    ∀ row ∈ db.versions, row.chapterId = version.chapterId → row.version ≤ version.version

namespace StorySystem

open StoryDatabase

variable {services : StoryServices} {s s' : StorySystem} {a : StoryAction} {db db' : StoryDatabase}

/-- When a transaction keeps the numbers of a settled database fresh: a draft has text, and
the workflow adds versions only to chapters with text. -/
def TaskKeepsNumbers (db : StoryDatabase) : Task → StoryOutcome → Prop
  | .persistDraft request, .drafted draft =>
      db.findChapter request.projectId request.chapterNumber = none ∨
        isBlank draft.content = false
  | .ensureInitialVersion projectId chapterNumber workflowRunId, .drafted _ =>
      db.versionByKey (ChapterVersionService.draftKey workflowRunId) ≠ none ∨
      db.runs[workflowRunId]? = none ∨
      ∀ found ∈ db.findChapter projectId chapterNumber, isBlank found.2.content = false
  | .revise workflowRunId sourceVersionId revisionAttempt, .drafted _ =>
      db.versionByKey (ChapterVersionService.revisionKey workflowRunId revisionAttempt) ≠ none ∨
      ∀ rows ∈ ChapterVersionService.revisionSource workflowRunId sourceVersionId db,
        ∀ chapter ∈ db.chapters[rows.1.chapterId]?, isBlank chapter.content = false
  | _, _ => True

/-- The condition of a step: that of its transaction, and a chapter is made to show the
latest of its versions only. -/
def KeepsNumbers (s : StorySystem) : StoryAction → Prop
  | .resume task outcome => ∀ current ∈ s.tasks[task]?, TaskKeepsNumbers s.db current outcome
  | .acceptVersion workflowRunId versionId =>
      ∀ run ∈ s.db.runs[workflowRunId]?, ∀ version ∈ s.db.versions[versionId]?,
        (run.status = .completed ∧ run.acceptedVersionId = some versionId) ∨
        s.db.projects[run.projectId]? = none ∨
        (s.db.latestForVersion versionId).filter (·.passed) = none ∨
        s.db.IsLatestText version
  | .markNeedsReview workflowRunId =>
      ∀ run ∈ s.db.runs[workflowRunId]?, ∀ bestId ∈ run.bestVersionId,
        ∀ version ∈ s.db.versions[bestId]?, s.db.IsLatestText version
  | _ => True

/-- A version is among the numbers of its chapter. -/
theorem version_mem_used {id : ℕ} {version : ChapterVersion}
    (hversion : db.versions[id]? = some version) :
    version.version ∈ (db.numbering version.chapterId).used :=
  mem_used.mpr ⟨version, List.mem_of_getElem? hversion, rfl, rfl⟩

/-- **Showing the latest text** keeps chapters settled. -/
theorem settled_of_isLatestText {id : ℕ} {version : ChapterVersion} (hdb : db.SettledNumbers)
    (hversion : db.versions[id]? = some version) (hlatest : db.IsLatestText version)
    (hwrites : Writes db db' version.chapterId []
      (isBlank version.text.content, version.version)) : db'.SettledNumbers := by
  refine hwrites.settledNumbers hdb ?_
  rw [hlatest.1]
  refine (hdb version.chapterId).shown (version_mem_used hversion) fun m hm => ?_
  obtain ⟨row, hrow, hof, rfl⟩ := mem_used.mp hm
  exact hlatest.2 row hrow hof

/-- Showing another version uses a number twice. -/
theorem isLatestText_of_fresh {id : ℕ} {version : ChapterVersion} (hdb : db.SettledNumbers)
    (hversion : db.versions[id]? = some version) (hfresh : db'.FreshNumbers)
    (hwrites : Writes db db' version.chapterId []
      (isBlank version.text.content, version.version)) : db.IsLatestText version := by
  obtain ⟨htext, hlatest⟩ := (hdb version.chapterId).fresh_shown (version_mem_used hversion)
    (hwrites.fresh_here hfresh)
  exact ⟨htext, fun row hrow hof => hlatest _ (mem_used.mpr ⟨row, hrow, hof, rfl⟩)⟩

/-- A draft with text keeps chapters settled. -/
theorem settled_persistDraft {request : GenerationRequest} {draft : Draft} {version : ℕ}
    (hdb : db.SettledNumbers)
    (hok : TaskKeepsNumbers db (.persistDraft request) (.drafted draft))
    (hrun : ChapterGenerationService.persistDraft request draft db = .ok (version, db')) :
    db'.SettledNumbers := by
  cases hfound : db.findChapter request.projectId request.chapterNumber with
  | none =>
      rw [ChapterGenerationService.persistDraft, hfound] at hrun
      exact absurd hrun (by simp)
  | some found =>
      obtain ⟨c, chapter⟩ := found
      obtain ⟨db'', hrun', hwrites⟩ :=
        ChapterGenerationService.persistDraft_writes draft hdb.fresh hfound
      obtain ⟨-, rfl⟩ := Prod.mk.inj (Except.ok.inj (hrun'.symm.trans hrun))
      refine hwrites.settledNumbers hdb ?_
      have htext : isBlank draft.content = false := by
        rcases hok with hnone | htext
        · exact absurd (hfound.symm.trans hnone) (by simp)
        · exact htext
      rw [htext]
      exact (hdb c).drafted

/-- A draft of the workflow keeps chapters settled where there is text. -/
theorem settled_ensureInitialVersion {projectId chapterNumber workflowRunId : ℕ} {draft : Draft}
    (hdb : db.SettledNumbers)
    (hok : TaskKeepsNumbers db (.ensureInitialVersion projectId chapterNumber workflowRunId)
      (.drafted draft))
    (hrun : ChapterVersionService.ensureInitialVersion projectId chapterNumber workflowRunId draft
      db = .ok db') : db'.SettledNumbers := by
  cases hfound : db.findChapter projectId chapterNumber with
  | none =>
      rw [ChapterVersionService.ensureInitialVersion, hfound] at hrun
      exact absurd hrun (by simp)
  | some found =>
      obtain ⟨c, chapter⟩ := found
      cases hkey : db.versionByKey (ChapterVersionService.draftKey workflowRunId) with
      | some id =>
          rw [ChapterVersionService.ensureInitialVersion, hfound] at hrun
          dsimp only at hrun
          rw [hkey, if_pos Option.isSome_some] at hrun
          exact Except.ok.inj hrun ▸ hdb
      | none =>
          cases hworkflow : db.runs[workflowRunId]? with
          | none =>
              rw [ChapterVersionService.ensureInitialVersion, hfound] at hrun
              dsimp only at hrun
              rw [hkey, hworkflow, if_neg (by simp), if_pos Option.isNone_none] at hrun
              exact absurd hrun (by simp)
          | some run =>
              obtain ⟨db'', hrun', hwrites⟩ :=
                ChapterVersionService.ensureInitialVersion_writes draft hkey hworkflow hfound
              obtain rfl := Except.ok.inj (hrun'.symm.trans hrun)
              refine hwrites.settledNumbers hdb ?_
              have htext : isBlank chapter.content = false := by
                rcases hok with hused | hnone | htext
                · exact absurd hkey hused
                · exact absurd (hworkflow.symm.trans hnone) (by simp)
                · exact htext _ hfound
              rw [htext]
              exact (hdb c).numbered

/-- A revision keeps chapters settled where there is text. -/
theorem settled_revise {workflowRunId sourceVersionId revisionAttempt : ℕ} {draft : Draft}
    (hdb : db.SettledNumbers)
    (hok : TaskKeepsNumbers db (.revise workflowRunId sourceVersionId revisionAttempt)
      (.drafted draft))
    (hrun : ChapterVersionService.revise workflowRunId sourceVersionId revisionAttempt draft
      db = .ok db') : db'.SettledNumbers := by
  cases hkey : db.versionByKey
      (ChapterVersionService.revisionKey workflowRunId revisionAttempt) with
  | some id =>
      rw [ChapterVersionService.revise, hkey, if_pos Option.isSome_some] at hrun
      exact Except.ok.inj hrun ▸ hdb
  | none =>
      cases hsource : ChapterVersionService.revisionSource workflowRunId sourceVersionId db with
      | none =>
          rw [ChapterVersionService.revise, hkey, if_neg (by simp), hsource] at hrun
          exact absurd hrun (by simp)
      | some rows =>
          obtain ⟨version, run⟩ := rows
          cases hchapter : db.chapters[version.chapterId]? with
          | none =>
              rw [ChapterVersionService.revise, hkey, if_neg (by simp), hsource] at hrun
              dsimp only at hrun
              rw [hchapter, if_pos Option.isNone_none] at hrun
              exact absurd hrun (by simp)
          | some chapter =>
              obtain ⟨db'', hrun', hwrites⟩ :=
                ChapterVersionService.revise_writes draft hkey hsource hchapter
              obtain rfl := Except.ok.inj (hrun'.symm.trans hrun)
              refine hwrites.settledNumbers hdb ?_
              have htext : isBlank chapter.content = false := by
                rcases hok with hused | htext
                · exact absurd hkey hused
                · exact htext _ hsource _ hchapter
              rw [htext]
              exact (hdb version.chapterId).numbered

/-- An acceptance keeps chapters settled when it is of the latest text. -/
theorem settled_acceptVersion {workflowRunId versionId : ℕ} (hdb : s.db.SettledNumbers)
    (hok : KeepsNumbers s (.acceptVersion workflowRunId versionId))
    (hrun : ChapterVersionService.acceptVersion workflowRunId versionId s.db = .ok db') :
    db'.SettledNumbers := by
  have hresult := hrun
  unfold ChapterVersionService.acceptVersion at hrun
  split at hrun
  case h_2 => exact absurd hrun (by simp)
  rename_i run version hworkflow hversion
  split at hrun
  · exact Except.ok.inj hrun ▸ hdb
  rename_i hreplay
  split at hrun
  case h_2 => exact absurd hrun (by simp)
  rename_i chapter project evaluation hchapter hproject hpassed
  obtain ⟨db'', hrun', hwrites⟩ := ChapterVersionService.acceptVersion_writes hworkflow hversion
    hreplay hchapter hproject hpassed
  obtain rfl := Except.ok.inj (hrun'.symm.trans hresult)
  refine settled_of_isLatestText hdb hversion ?_ hwrites
  rcases hok run hworkflow version hversion with hsame | hnone | hnone | hlatest
  · exact absurd hsame hreplay
  · exact absurd (hproject.symm.trans hnone) (by simp)
  · exact absurd (hpassed.symm.trans hnone) (by simp)
  · exact hlatest

/-- A run left to a human keeps chapters settled when its best version is the latest text. -/
theorem settled_markNeedsReview {workflowRunId : ℕ} (hdb : s.db.SettledNumbers)
    (hok : KeepsNumbers s (.markNeedsReview workflowRunId))
    (hrun : ChapterVersionService.markNeedsReview workflowRunId s.db = .ok db') :
    db'.SettledNumbers := by
  have hresult := hrun
  unfold ChapterVersionService.markNeedsReview at hrun
  split at hrun
  · exact absurd hrun (by simp)
  rename_i bestId hbest
  obtain ⟨run, hworkflow, hbest⟩ := Option.bind_eq_some_iff.mp hbest
  split at hrun
  · exact absurd hrun (by simp)
  rename_i version hversion
  obtain ⟨chapter, hchapter⟩ := hdb.exists_chapter (List.mem_of_getElem? hversion)
  obtain ⟨db'', hrun', hwrites⟩ :=
    ChapterVersionService.markNeedsReview_writes hworkflow hbest hversion hchapter
  obtain rfl := Except.ok.inj (hrun'.symm.trans hresult)
  exact settled_of_isLatestText hdb hversion (hok run hworkflow bestId hbest version hversion)
    hwrites

/-- What other code adds has no versions. -/
theorem settled_otherCode {projects : List StoryProject} {statuses : ℕ → ChapterStatus}
    {newChapters : List StoryChapter} {runs : List StoryRun} (hdb : db.SettledNumbers) :
    (otherCode db projects statuses newChapters runs).SettledNumbers := by
  intro c
  by_cases hc : c < db.chapters.length
  · have hchapter : (otherCode db projects statuses newChapters runs).chapters[c]?.map textColumns =
        db.chapters[c]?.map textColumns := by
      simp only [otherCode]
      rw [List.getElem?_append_left (by simpa using hc), List.getElem?_mapIdx, Option.map_map]
      rfl
    have hsame : (otherCode db projects statuses newChapters runs).numbering c = db.numbering c :=
      numbering_congr rfl hchapter
    exact hsame ▸ hdb c
  · have hnone : db.chapters[c]? = none := List.getElem?_eq_none (not_lt.mp hc)
    have hused : (db.numbering c).used = [] := by
      by_contra hused
      have htext := (hdb c).text hused
      simp [numbering, hnone] at htext
    have hsame : ((otherCode db projects statuses newChapters runs).numbering c).used = [] := hused
    refine ⟨?_, ?_, ?_, ?_⟩
    · exact fun h => absurd hsame h
    · exact fun h => absurd hsame h
    · simp [hsame]
    · simp [hsame]

/-- **Every step keeps chapters settled**, under its condition. -/
theorem settled_next (hdb : s.db.SettledNumbers) (hok : KeepsNumbers s a)
    (h : next services s a = some s') : s'.db.SettledNumbers := by
  have hcommits := commits_next h
  generalize s'.db = db' at hcommits
  cases hcommits with
  | nothing => exact hdb
  | setRunning _ hrun =>
      exact (ChapterGenerationService.setRunning_columns hrun).settledNumbers hdb
  | persistDraft htask hrun => exact settled_persistDraft hdb (hok _ htask) hrun
  | persistExtraction _ hrun =>
      exact (ChapterGenerationService.persistExtraction_columns hrun).settledNumbers hdb
  | markFailure =>
      exact (ChapterGenerationService.markFailure_columns _).settledNumbers hdb
  | markEvaluating _ hrun =>
      exact (EvaluationService.markEvaluating_columns hrun).settledNumbers hdb
  | persistPartial _ hrun =>
      refine (EvaluationService.persist_columns ?_ hrun).settledNumbers hdb
      exact fun _ => rfl
  | persistComplete _ hrun =>
      refine (EvaluationService.persist_columns ?_ hrun).settledNumbers hdb
      exact fun _ => rfl
  | markEvaluationFailed => exact EvaluationService.markFailed_columns.settledNumbers hdb
  | ensureInitialVersion htask hrun =>
      exact settled_ensureInitialVersion hdb (hok _ htask) hrun
  | extractCandidateFacts _ hrun =>
      exact (ChapterVersionService.extractCandidateFacts_columns hrun).settledNumbers hdb
  | revise htask hrun => exact settled_revise hdb (hok _ htask) hrun
  | compareVersions hrun =>
      exact (ChapterVersionService.compareVersions_columns hrun).settledNumbers hdb
  | acceptVersion hrun => exact settled_acceptVersion hdb hok hrun
  | rejectRevision hrun =>
      exact (ChapterVersionService.rejectRevision_columns hrun).settledNumbers hdb
  | markNeedsReview hrun => exact settled_markNeedsReview hdb hok hrun
  | otherCode => exact settled_otherCode hdb

/-! ### The condition is necessary -/

/-- A transaction of a task that leaves the numbers fresh meets its condition. -/
theorem taskKeepsNumbers_of_fresh {task task' : Task} {outcome : StoryOutcome}
    (hdb : s.db.SettledNumbers) (h : advance services s.db task outcome = some (task', db'))
    (hfresh : db'.FreshNumbers) : TaskKeepsNumbers s.db task outcome := by
  unfold TaskKeepsNumbers
  split
  · rename_i request draft
    cases hfound : s.db.findChapter request.projectId request.chapterNumber with
    | none => exact .inl rfl
    | some found =>
        obtain ⟨c, chapter⟩ := found
        obtain ⟨db'', hrun, hwrites⟩ :=
          ChapterGenerationService.persistDraft_writes draft hdb.fresh hfound
        rw [advance, hrun] at h
        obtain rfl := congrArg Prod.snd (Option.some.inj h)
        exact .inr (Numbering.fresh_drafted (hwrites.fresh_here hfresh))
  · rename_i projectId chapterNumber workflowRunId draft
    by_cases hkey : s.db.versionByKey (ChapterVersionService.draftKey workflowRunId) = none
    · cases hworkflow : s.db.runs[workflowRunId]? with
      | none => exact .inr (.inl rfl)
      | some run =>
          refine .inr (.inr fun found hfound => ?_)
          obtain ⟨db'', hrun, hwrites⟩ := ChapterVersionService.ensureInitialVersion_writes draft
            hkey hworkflow hfound
          rw [advance, hrun] at h
          obtain rfl := congrArg Prod.snd (Option.some.inj h)
          exact Numbering.fresh_numbered (hwrites.fresh_here hfresh)
    · exact .inl hkey
  · rename_i workflowRunId sourceVersionId revisionAttempt draft
    by_cases hkey : s.db.versionByKey
        (ChapterVersionService.revisionKey workflowRunId revisionAttempt) = none
    · refine .inr fun rows hrows chapter hchapter => ?_
      obtain ⟨db'', hrun, hwrites⟩ := ChapterVersionService.revise_writes draft hkey hrows hchapter
      rw [advance, hrun] at h
      obtain rfl := congrArg Prod.snd (Option.some.inj h)
      exact Numbering.fresh_numbered (hwrites.fresh_here hfresh)
    · exact .inl hkey
  · exact trivial

/-- A step that leaves the numbers fresh meets its condition. -/
theorem keepsNumbers_of_fresh (hdb : s.db.SettledNumbers) (h : next services s a = some s')
    (hfresh : s'.db.FreshNumbers) : KeepsNumbers s a := by
  unfold KeepsNumbers
  split
  · rename_i task outcome
    intro current hcurrent
    simp only [next] at h
    rw [hcurrent] at h
    obtain ⟨⟨task', db'⟩, hrun, rfl⟩ := Option.map_eq_some_iff.mp h
    exact taskKeepsNumbers_of_fresh hdb hrun hfresh
  · rename_i workflowRunId versionId
    intro run hworkflow version hversion
    by_cases hreplay : run.status = .completed ∧ run.acceptedVersionId = some versionId
    · exact .inl hreplay
    cases hproject : s.db.projects[run.projectId]? with
    | none => exact .inr (.inl rfl)
    | some project =>
        cases hpassed : (s.db.latestForVersion versionId).filter (·.passed) with
        | none => exact .inr (.inr (.inl rfl))
        | some evaluation =>
            obtain ⟨chapter, hchapter⟩ := hdb.exists_chapter (List.mem_of_getElem? hversion)
            obtain ⟨db', hrun, hwrites⟩ := ChapterVersionService.acceptVersion_writes hworkflow
              hversion hreplay hchapter hproject hpassed
            simp only [next] at h
            rw [StorySystem.run, hrun] at h
            obtain rfl := Option.some.inj h
            exact .inr (.inr (.inr (isLatestText_of_fresh hdb hversion hfresh hwrites)))
  · rename_i workflowRunId
    intro run hworkflow bestId hbest version hversion
    obtain ⟨chapter, hchapter⟩ := hdb.exists_chapter (List.mem_of_getElem? hversion)
    obtain ⟨db', hrun, hwrites⟩ :=
      ChapterVersionService.markNeedsReview_writes hworkflow hbest hversion hchapter
    simp only [next] at h
    rw [StorySystem.run, hrun] at h
    obtain rfl := Option.some.inj h
    exact isLatestText_of_fresh hdb hversion hfresh hwrites
  · exact trivial

theorem settled_init (hs : (machine services).init s) : s.db.SettledNumbers := by
  intro c
  have hused : (s.db.numbering c).used = [] := by
    simp [numbering, hs.1]
  refine ⟨fun h => absurd hused h, fun h => absurd hused h, ?_, ?_⟩
  · simp [hused]
  · simp [hused]

/-- **Version numbers are fresh.** In every run whose steps meet their conditions, the number
of the next draft and the number of the next version of the workflow are not in use, and no
draft is refused for its number. A step after such a run keeps it that way exactly when it
meets its condition. -/
theorem fresh_numbers (hs : (machine services).ReachableUnder KeepsNumbers s) :
    s.db.FreshNumbers ∧
    (∀ (request : GenerationRequest) (draft : Draft) (constraint : String),
      ChapterGenerationService.persistDraft request draft s.db ≠
        .error (.integrityError constraint)) ∧
    ∀ (a : StoryAction) (s' : StorySystem), next services s a = some s' →
      (s'.db.FreshNumbers ↔ KeepsNumbers s a) := by
  have hdb : s.db.SettledNumbers := Machine.ReachableUnder.invariant (fun _ => settled_init)
    (fun _ _ _ _ hdb hok hnext => settled_next hdb hok hnext) hs
  refine ⟨hdb.fresh, fun request draft constraint hrefused => ?_, fun a s' hnext => ?_⟩
  · cases hfound : s.db.findChapter request.projectId request.chapterNumber with
    | none =>
        rw [ChapterGenerationService.persistDraft, hfound] at hrefused
        exact absurd hrefused (by simp)
    | some found =>
        obtain ⟨db', hrun, -⟩ :=
          ChapterGenerationService.persistDraft_writes draft hdb.fresh hfound
        exact absurd (hrun.symm.trans hrefused) (by simp)
  · constructor
    · exact keepsNumbers_of_fresh hdb hnext
    · intro hok
      exact (settled_next hdb hok hnext).fresh

/-! ### A revision after a generation, and a generation after a draft -/

instance (db : StoryDatabase) (version : ChapterVersion) : Decidable (db.IsLatestText version) :=
  inferInstanceAs (Decidable (_ ∧ _))

instance (db : StoryDatabase) (task : Task) (outcome : StoryOutcome) :
    Decidable (TaskKeepsNumbers db task outcome) := by
  unfold TaskKeepsNumbers
  split <;> infer_instance

instance (s : StorySystem) : (a : StoryAction) → Decidable (KeepsNumbers s a)
  | .resume task outcome => inferInstanceAs (Decidable
      (∀ current ∈ s.tasks[task]?, TaskKeepsNumbers s.db current outcome))
  | .acceptVersion workflowRunId versionId => inferInstanceAs (Decidable
      (∀ run ∈ s.db.runs[workflowRunId]?, ∀ version ∈ s.db.versions[versionId]?,
        (run.status = .completed ∧ run.acceptedVersionId = some versionId) ∨
        s.db.projects[run.projectId]? = none ∨
        (s.db.latestForVersion versionId).filter (·.passed) = none ∨
        s.db.IsLatestText version))
  | .markNeedsReview workflowRunId => inferInstanceAs (Decidable
      (∀ run ∈ s.db.runs[workflowRunId]?, ∀ bestId ∈ run.bestVersionId,
        ∀ version ∈ s.db.versions[bestId]?, s.db.IsLatestText version))
  | .generate _ | .evaluate _ | .ensureInitialVersion _ _ _ | .extractCandidateFacts _ _
  | .revise _ _ _ | .compareVersions _ _ _ | .rejectRevision _ _ | .otherCode _ _ _ _ =>
      .isTrue trivial

/-- A generated chapter is revised and the revision accepted: the numbers stay fresh. -/
theorem fresh_numbers_revised :
    ∃ s, (machine sampleServices).ReachableUnder KeepsNumbers s ∧
      s.db.versions.map (·.version) = [1, 2] ∧ s.db.FreshNumbers := by
  obtain ⟨s, hs, hnumbers⟩ :=
    (machine sampleServices).exists_reachableUnder KeepsNumbers (generated ++ revised)
      (fun s => s.db.versions.map (·.version) = [1, 2]) (s := sampleStory)
      ⟨rfl, rfl, rfl, by simp [sampleStory]⟩ (by decide +kernel)
  exact ⟨s, hs, hnumbers, (fresh_numbers hs).1⟩

/-- The workflow drafts a chapter and goes no further; the draft of a generation then takes
the number of its version. -/
theorem fresh_numbers_fails :
    ∃ s, (machine sampleServices).Reachable s ∧ ¬ s.db.FreshNumbers ∧
      ChapterGenerationService.persistDraft ⟨0, 1, false⟩ ⟨"One", "Text", "Sum"⟩ s.db =
        .error (.integrityError "chapter_version_number") := by
  obtain ⟨s, hs, ⟨chapter, hchapter, hblank, row, hrow, hof, hnumber⟩, hrefused⟩ :=
    (machine sampleServices).exists_reachable
      [.ensureInitialVersion 0 1 0, .resume 0 (.drafted ⟨"One", "Text", "Sum"⟩),
        .generate ⟨0, 1, false⟩, .resume 1 .proceed]
      (fun s => (∃ chapter ∈ s.db.chapters[0]?, isBlank chapter.content = true ∧
          ∃ row ∈ s.db.versions, row.chapterId = 0 ∧ row.version = chapter.version) ∧
        ChapterGenerationService.persistDraft ⟨0, 1, false⟩ ⟨"One", "Text", "Sum"⟩ s.db =
          .error (.integrityError "chapter_version_number"))
      (s := sampleStory) ⟨rfl, rfl, rfl, by simp [sampleStory]⟩ (by decide +kernel)
  refine ⟨s, hs, fun hfresh => ?_, hrefused⟩
  refine (hfresh 0 chapter hchapter row hrow hof).1 ?_
  rw [hblank, if_pos rfl, hnumber]

end StorySystem

end StoryForge
