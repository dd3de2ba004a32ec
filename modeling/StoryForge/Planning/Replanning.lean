import StoryForge.Library.Machine
import StoryForge.Planning.Service

/-!
# Replanning and written work

Planning calls, with chapter workflows and all other code in between. A replanning deletes the
chapters of its project when the plan is stored; that no chapter has a text, an accepted
version or an active run was checked before the planner was called, and is not checked again.
A workflow begins in a project whatever the status of the project is.

## Main results

* `PlanningSystem.written_kept` — if no workflow begins in a project and no text is written
  there while it is being replanned, a stored plan deletes no written chapter;
* `PlanningSystem.replanning_deletes_written` — otherwise it may.
-/

namespace StoryForge

/-! ### The beginning of a workflow -/

namespace PlanningDatabase

/-- A run begins in a chapter. -/
def beginRun (db : PlanningDatabase) (entry : ℕ × PlannedChapter) (hentry : entry ∈ db.chapters) :
    PlanningDatabase :=
  { db with
    chapters := db.chapters.map fun other =>
      (other.1, if other.1 = entry.1 then { other.2 with status := .workflowRunning } else other.2)
    runs := db.runs ++
      [ChapterWorkflowService.newRun entry.2.projectId entry.1 entry.2.toStoryChapter]
    chapterIds := by
      rw [List.map_map]
      exact db.chapterIds
    chapterIds_lt := by
      intro other hother
      obtain ⟨old, hold, rfl⟩ := List.mem_map.mp hother
      exact db.chapterIds_lt old hold
    blank := by
      intro other hother
      obtain ⟨old, hold, rfl⟩ := List.mem_map.mp hother
      have hblank := db.blank old hold
      split
      · exact hblank
      · exact hblank
    runProjects := by
      intro run hrun other hother heq
      obtain ⟨old, hold, rfl⟩ := List.mem_map.mp hother
      have hproject : run.projectId = old.2.projectId := by
        rcases List.mem_append.mp hrun with hrun | hrun
        · exact db.runProjects run hrun old hold heq
        · obtain rfl := List.mem_singleton.mp hrun
          have hsame := List.inj_on_of_nodup_map db.chapterIds hentry hold heq
          exact congrArg (·.2.projectId) hsame
      split
      · exact hproject
      · exact hproject
    runChapters_lt := by
      intro run hrun
      rcases List.mem_append.mp hrun with hrun | hrun
      · exact db.runChapters_lt run hrun
      · obtain rfl := List.mem_singleton.mp hrun
        exact db.chapterIds_lt entry hentry }

/-- `_initialize_workflow` for a thread that has no run yet. -/
def initializeWorkflow (projectId chapterNumber : ℕ) (db : PlanningDatabase) :
    Except Error PlanningDatabase :=
  match db.projects[projectId]?, hfind : db.chapterByNumber projectId chapterNumber with
  | some _, some entry =>
      if db.runs.any fun run => run.chapterId == entry.1 &&
          ChapterWorkflowService.activeStatuses.contains run.status then
        .error (.other "WorkflowAlreadyRunningError"
          "Another workflow is already active for this chapter")
      else .ok (db.beginRun entry (List.mem_of_find?_eq_some hfind))
  | _, _ => .error (.entityNotFoundError "Project chapter was not found")

/-- A workflow begins in a chapter of the project. -/
theorem initializeWorkflow_eq_ok {db db' : PlanningDatabase} {projectId chapterNumber : ℕ}
    (h : db.initializeWorkflow projectId chapterNumber = .ok db') :
    ∃ entry, ∃ hentry : entry ∈ db.chapters, entry.2.projectId = projectId ∧
      db' = db.beginRun entry hentry := by
  unfold initializeWorkflow at h
  split at h
  · rename_i project entry hproject hfind
    split at h
    · exact absurd h (by simp)
    · have hentry := List.find?_some hfind
      simp only [Bool.and_eq_true, beq_iff_eq] at hentry
      exact ⟨entry, _, hentry.1, (Except.ok.inj h).symm⟩
  · exact absurd h (by simp)

/-- A chapter has a text, an accepted version or an active run. -/
def Written (db : PlanningDatabase) (entry : ℕ × PlannedChapter) : Prop :=
  entry.2.content ≠ "" ∨ entry.2.acceptedVersionId ≠ none ∨
    ∃ run ∈ db.runs, run.chapterId = entry.1 ∧
      run.status ∈ ChapterWorkflowService.activeStatuses

end PlanningDatabase

/-! ### Untouched projects -/

namespace PlanningService

variable {db db' : PlanningDatabase} {projectId : ℕ}

instance : Decidable (Untouched db projectId) :=
  decidable_of_iff ((∀ entry ∈ db.chapters, entry.2.projectId = projectId →
      entry.2.content = "" ∧ entry.2.acceptedVersionId = none) ∧
    ∀ run ∈ db.runs, run.projectId = projectId →
      run.status ∉ ChapterWorkflowService.activeStatuses)
    ⟨fun h => ⟨h.1, h.2⟩, fun h => ⟨h.blank, h.idle⟩⟩

/-- An untouched project has no written chapter. -/
theorem Untouched.not_written (h : Untouched db projectId) {entry : ℕ × PlannedChapter}
    (hentry : entry ∈ db.chapters) (hproject : entry.2.projectId = projectId) :
    ¬ db.Written entry := by
  obtain ⟨hcontent, haccepted⟩ := h.blank entry hentry hproject
  rintro (hwritten | hwritten | ⟨run, hrun, hchapter, hactive⟩)
  · exact hwritten hcontent
  · exact hwritten haccepted
  · have hsame := db.runProjects run hrun entry hentry hchapter
    exact h.idle run hrun (hsame.trans hproject) hactive

theorem Untouched.setStatus (h : Untouched db projectId) (other : ℕ) (status : ProjectStatus) :
    Untouched (db.setStatus other status) projectId :=
  ⟨h.blank, h.idle⟩

/-- A stored plan touches no project. -/
theorem Untouched.persistPlan (h : Untouched db projectId) {other : ℕ} {plan : NovelPlan}
    {source : String} {replaceExisting : Bool}
    (hstored : PlanningService.persistPlan other plan source replaceExisting db = .ok db') :
    Untouched db' projectId := by
  obtain ⟨hchapters, hruns⟩ := persistPlan_eq_ok hstored
  refine ⟨fun entry hentry hproject => ?_, fun run hrun => h.idle run (hruns.subset hrun)⟩
  rw [hchapters] at hentry
  rcases List.mem_append.mp hentry with hold | hnew
  · exact h.blank entry (List.mem_of_mem_filter hold) hproject
  · exact (PlanningDatabase.mem_newChapters hnew).2.2.2

/-- A workflow that begins touches no other project. -/
theorem Untouched.initializeWorkflow (h : Untouched db projectId) {other chapterNumber : ℕ}
    (hother : other ≠ projectId)
    (hbegun : db.initializeWorkflow other chapterNumber = .ok db') :
    Untouched db' projectId := by
  obtain ⟨entry, hentry, hproject, rfl⟩ := PlanningDatabase.initializeWorkflow_eq_ok hbegun
  constructor
  · intro new hnew
    obtain ⟨old, hold, rfl⟩ := List.mem_map.mp hnew
    have hblank := h.blank old hold
    dsimp only
    split
    · exact hblank
    · exact hblank
  · intro run hrun hsame
    rcases List.mem_append.mp hrun with hrun | hrun
    · exact h.idle run hrun hsame
    · obtain rfl := List.mem_singleton.mp hrun
      exact absurd (hproject.symm.trans hsame) hother

end PlanningService

/-! ### The machine -/

/-- A planning call between its two transactions. -/
structure PlanningCall where
  request : PlanningRequest
  replaceExisting : Bool
  deriving DecidableEq, Repr

/-- What planning, the beginning of workflows and other code do. The planner answers with a
plan or fails; a crash ends the call. -/
inductive PlanningAction
  | plan (projectId : ℕ) (replaceExisting : Bool)
  | planned (call : ℕ) (plan : NovelPlan) (source : String)
  | plannerFailed (call : ℕ)
  | crash (call : ℕ)
  | startWorkflow (projectId chapterNumber : ℕ)
  | otherCode (db : PlanningDatabase)

/-- The committed state and the planning calls under way. -/
structure PlanningSystem where
  db : PlanningDatabase
  calls : List PlanningCall

namespace PlanningSystem

/-- The effect of an action. -/
def next (s : PlanningSystem) : PlanningAction → Option PlanningSystem
  | .plan projectId replaceExisting =>
      match PlanningService.prepareRequest projectId replaceExisting s.db with
      | .ok (request, db) => some ⟨db, s.calls ++ [⟨request, replaceExisting⟩]⟩
      | .error _ => some s
  | .planned i plan source =>
      s.calls[i]?.map fun call =>
        match PlanningService.persistPlan call.request.projectId plan source
            call.replaceExisting s.db with
        | .ok db => ⟨db, s.calls.eraseIdx i⟩
        | .error (.integrityError _) =>
            ⟨PlanningService.markFailed call.request.projectId s.db, s.calls.eraseIdx i⟩
        | .error _ => ⟨s.db, s.calls.eraseIdx i⟩
  | .plannerFailed i =>
      s.calls[i]?.map fun call =>
        ⟨PlanningService.markFailed call.request.projectId s.db, s.calls.eraseIdx i⟩
  | .crash i => s.calls[i]?.map fun _ => ⟨s.db, s.calls.eraseIdx i⟩
  | .startWorkflow projectId chapterNumber =>
      match s.db.initializeWorkflow projectId chapterNumber with
      | .ok db => some { s with db }
      | .error _ => some s
  | .otherCode db => some { s with db }

/-- Planning at work, from any database. -/
def machine : Machine PlanningSystem PlanningAction where
  init s := s.calls = []
  next := next

/-- While a project is being replanned, no workflow begins in it and other code leaves it
untouched. -/
def Undisturbed (s : PlanningSystem) : PlanningAction → Prop
  | .startWorkflow projectId _ =>
      ∀ call ∈ s.calls, call.replaceExisting = true → call.request.projectId ≠ projectId
  | .otherCode db =>
      ∀ call ∈ s.calls, call.replaceExisting = true →
        PlanningService.Untouched db call.request.projectId
  | _ => True

instance (s : PlanningSystem) (a : PlanningAction) : Decidable (Undisturbed s a) := by
  cases a <;> unfold Undisturbed <;> infer_instance

/-- What is being replanned is untouched. -/
def Sheltered (s : PlanningSystem) : Prop :=
  ∀ call ∈ s.calls, call.replaceExisting = true →
    PlanningService.Untouched s.db call.request.projectId

variable {s s' : PlanningSystem}

/-- What a stored plan leaves of the state. -/
theorem planned_eq_some {i : ℕ} {plan : NovelPlan} {source : String}
    (h : next s (.planned i plan source) = some s') :
    ∃ call, s.calls[i]? = some call ∧ s'.calls = s.calls.eraseIdx i ∧
      (PlanningService.persistPlan call.request.projectId plan source call.replaceExisting
          s.db = .ok s'.db ∨
        s'.db.chapters = s.db.chapters ∧ s'.db.runs = s.db.runs) := by
  obtain ⟨call, hcall, hnext⟩ := Option.map_eq_some_iff.mp h
  refine ⟨call, hcall, ?_⟩
  split at hnext
  · rename_i db hstored
    subst hnext
    exact ⟨rfl, .inl hstored⟩
  · subst hnext
    exact ⟨rfl, .inr ⟨rfl, rfl⟩⟩
  · subst hnext
    exact ⟨rfl, .inr ⟨rfl, rfl⟩⟩

/-- Every undisturbed step leaves what is being replanned untouched. -/
theorem sheltered_next {a : PlanningAction} (h : Sheltered s) (hok : Undisturbed s a)
    (hnext : next s a = some s') : Sheltered s' := by
  cases a with
  | plan projectId replaceExisting =>
      simp only [next] at hnext
      split at hnext
      · rename_i request db hprepared
        obtain rfl := Option.some.inj hnext
        obtain ⟨hproject, rfl, huntouched⟩ := PlanningService.prepareRequest_eq_ok hprepared
        intro call hcall hreplace
        rcases List.mem_append.mp hcall with hold | hnew
        · exact (h call hold hreplace).setStatus _ _
        · obtain rfl := List.mem_singleton.mp hnew
          rw [hproject]
          exact huntouched.setStatus _ _
      · obtain rfl := Option.some.inj hnext
        exact h
  | planned i plan source =>
      obtain ⟨call, -, hcalls, hdb⟩ := planned_eq_some hnext
      intro other hother hreplace
      rw [hcalls] at hother
      have huntouched := h other (List.mem_of_mem_eraseIdx hother) hreplace
      rcases hdb with hstored | ⟨hchapters, hruns⟩
      · exact huntouched.persistPlan hstored
      · exact ⟨hchapters ▸ huntouched.blank, hruns ▸ huntouched.idle⟩
  | plannerFailed i =>
      obtain ⟨call, -, rfl⟩ := Option.map_eq_some_iff.mp hnext
      intro other hother hreplace
      exact (h other (List.mem_of_mem_eraseIdx hother) hreplace).setStatus _ _
  | crash i =>
      obtain ⟨call, -, rfl⟩ := Option.map_eq_some_iff.mp hnext
      intro other hother hreplace
      exact h other (List.mem_of_mem_eraseIdx hother) hreplace
  | startWorkflow projectId chapterNumber =>
      simp only [next] at hnext
      split at hnext
      · rename_i db hbegun
        obtain rfl := Option.some.inj hnext
        intro call hcall hreplace
        have hother := hok call hcall hreplace
        exact (h call hcall hreplace).initializeWorkflow hother.symm hbegun
      · obtain rfl := Option.some.inj hnext
        exact h
  | otherCode db =>
      obtain rfl := Option.some.inj hnext
      exact hok

/-- In an undisturbed run what is being replanned is untouched. -/
theorem sheltered_of_reachable (hs : machine.ReachableUnder Undisturbed s) : Sheltered s :=
  hs.invariant (I := Sheltered)
    (fun s hinit call hcall => by
      have hnone : s.calls = [] := hinit
      simp [hnone] at hcall)
    fun s a s' _ hI hok hnext => sheltered_next hI hok hnext

/-- **Replanning keeps written work**, in every run in which no workflow begins in a project
and other code leaves it untouched while it is being replanned. -/
theorem written_kept (hs : machine.ReachableUnder Undisturbed s) {i : ℕ} {plan : NovelPlan}
    {source : String} (hnext : machine.next s (.planned i plan source) = some s')
    {entry : ℕ × PlannedChapter} (hentry : entry ∈ s.db.chapters)
    (hwritten : s.db.Written entry) : entry ∈ s'.db.chapters := by
  obtain ⟨call, hcall, -, hdb⟩ := planned_eq_some hnext
  rcases hdb with hstored | ⟨hchapters, -⟩
  · have hkept : (!(call.replaceExisting &&
        entry.2.projectId == call.request.projectId)) = true := by
      by_contra hdeleted
      simp only [Bool.not_eq_true', Bool.not_eq_false, Bool.and_eq_true, beq_iff_eq] at hdeleted
      have huntouched := sheltered_of_reachable hs call (List.mem_of_getElem? hcall) hdeleted.1
      exact huntouched.not_written hentry hdeleted.2 hwritten
    rw [(PlanningService.persistPlan_eq_ok hstored).1]
    exact List.mem_append_left _ (List.mem_filter.mpr ⟨hentry, hkept⟩)
  · rw [hchapters]
    exact hentry

/-! ### A workflow begins while the planner works -/

/-- A project that was planned before. -/
def plannedBefore : PlannedProject where
  title := "t"
  genre := "g"
  premise := "p"
  targetChapters := 1
  targetWordsPerChapter := 1000
  status := .planned
  logline := none
  worldSummary := none
  centralConflict := none
  endingDirection := none
  styleGuide := none

/-- A plan of one chapter. -/
def oneChapterPlan : NovelPlan where
  logline := "l"
  worldSummary := "w"
  centralConflict := "c"
  endingDirection := "e"
  styleGuide := "s"
  characters := []
  locations := []
  storyRules := []
  chapterPlans := [⟨1, "new", "o", "s"⟩]
  foreshadowing := []
  characters_unique := by decide
  locations_unique := by decide
  chapters_consecutive := by decide

/-- Two planned projects with one chapter each. -/
def twoProjects : PlanningDatabase where
  projects := [plannedBefore, plannedBefore]
  chapters :=
    [(0, ChapterPlan.row 0 ⟨1, "old", "o", "s"⟩), (1, ChapterPlan.row 1 ⟨1, "old", "o", "s"⟩)]
  characters := []
  locations := []
  storyRules := []
  foreshadowings := []
  runs := []
  nextChapterId := 2
  chapterIds := by decide
  chapterIds_lt := by decide
  blank := by decide
  runProjects := by decide
  runChapters_lt := by decide

/-- The chapter of a project in which a workflow has begun. -/
def runningChapter (projectId : ℕ) : ℕ × PlannedChapter :=
  (projectId, { ChapterPlan.row projectId ⟨1, "old", "o", "s"⟩ with status := .workflowRunning })

/-- A workflow begins in a project that is being replanned, and the stored plan deletes its
chapter. -/
theorem replanning_deletes_written :
    ¬ ∀ (s s' : PlanningSystem) (i : ℕ) (plan : NovelPlan) (source : String)
      (entry : ℕ × PlannedChapter), machine.Reachable s →
        machine.next s (.planned i plan source) = some s' → entry ∈ s.db.chapters →
        s.db.Written entry → entry ∈ s'.db.chapters := by
  intro hkept
  obtain ⟨s, hs, hentry, hrun, hdeleted⟩ := machine.exists_reachable
    [.plan 0 true, .startWorkflow 0 1]
    (fun s => runningChapter 0 ∈ s.db.chapters ∧
      (∃ run ∈ s.db.runs, run.chapterId = 0 ∧ run.status ∈ ChapterWorkflowService.activeStatuses) ∧
      (next s (.planned 0 oneChapterPlan "")).any
        (fun s' => decide (runningChapter 0 ∉ s'.db.chapters)) = true)
    (s := ⟨twoProjects, []⟩) rfl (by decide)
  obtain ⟨s', hnext, hgone⟩ := Option.any_eq_true _ _ |>.mp hdeleted
  exact of_decide_eq_true hgone
    (hkept s s' 0 oneChapterPlan "" (runningChapter 0) hs hnext hentry (.inr (.inr hrun)))

/-- A workflow that begins in another project is not disturbed. -/
theorem written_kept_other :
    ∃ s s' : PlanningSystem, machine.ReachableUnder Undisturbed s ∧
      machine.next s (.planned 0 oneChapterPlan "") = some s' ∧
      s.db.Written (runningChapter 1) ∧ runningChapter 1 ∈ s'.db.chapters := by
  obtain ⟨s, hs, hentry, hrun, hstored⟩ := machine.exists_reachableUnder Undisturbed
    [.plan 0 true, .startWorkflow 1 1]
    (fun s => runningChapter 1 ∈ s.db.chapters ∧
      (∃ run ∈ s.db.runs, run.chapterId = 1 ∧ run.status ∈ ChapterWorkflowService.activeStatuses) ∧
      (next s (.planned 0 oneChapterPlan "")).isSome = true)
    (s := ⟨twoProjects, []⟩) rfl (by decide)
  obtain ⟨s', hnext⟩ := Option.isSome_iff_exists.mp hstored
  exact ⟨s, s', hs, hnext, .inr (.inr hrun),
    written_kept hs hnext hentry (.inr (.inr hrun))⟩

end PlanningSystem

end StoryForge
