import StoryForge.Chapters.Canon
import StoryForge.Workflows.Service

/-!
# `PlanningService`

A project is planned by two transactions with the planner called in between: the project is
checked and marked as planning, and the plan is stored. A replanning deletes the chapters of
the project, and what belongs to them, in the second one.

The rows of chapters have ids of their own here, because they are deleted.

## Main results

* `PlanningService.prepareRequest_eq_ok` — what is checked before the planner is called;
* `PlanningService.persistPlan_eq_ok` — which chapters a stored plan leaves.
-/

namespace StoryForge

/-! ### Plans -/

/-- A character profile produced by the planner. -/
structure CharacterPlan where
  name : String
  initialState : String
  deriving DecidableEq, Repr

/-- Structured plan for one chapter. -/
structure ChapterPlan where
  chapterNumber : ℕ
  title : String
  objective : String
  summary : String
  deriving DecidableEq, Repr

/-- A planned setup/payoff pair validated against chapter bounds. -/
structure ForeshadowingPlan where
  description : String
  setupChapter : ℕ
  expectedPayoffChapter : ℕ
  validate_order : setupChapter ≤ expectedPayoffChapter
  deriving DecidableEq, Repr

/-- Complete, mechanically validated output of the planner agent. Locations and story rules
are their names and statements. -/
structure NovelPlan where
  logline : String
  worldSummary : String
  centralConflict : String
  endingDirection : String
  styleGuide : String
  characters : List CharacterPlan
  locations : List String
  storyRules : List String
  chapterPlans : List ChapterPlan
  foreshadowing : List ForeshadowingPlan
  characters_unique : (characters.map (·.name)).Nodup
  locations_unique : locations.Nodup
  chapters_consecutive : chapterPlans.map (·.chapterNumber) = List.range' 1 chapterPlans.length

/-- Minimal project data allowed to cross into the planner prompt. -/
structure PlanningRequest where
  projectId : ℕ
  title : String
  genre : String
  premise : String
  targetChapters : ℕ
  targetWordsPerChapter : ℕ
  deriving DecidableEq, Repr

/-! ### Tables -/

/-- A project with what planning reads and writes. -/
structure PlannedProject where
  title : String
  genre : String
  premise : String
  targetChapters : ℕ
  targetWordsPerChapter : ℕ
  status : ProjectStatus
  logline : Option String
  worldSummary : Option String
  centralConflict : Option String
  endingDirection : Option String
  styleGuide : Option String
  deriving DecidableEq, Repr

/-- A chapter with its plan. -/
structure PlannedChapter extends StoryChapter where
  outline : String
  objective : String
  deriving DecidableEq, Repr

/-- A persisted world, style, or continuity rule. -/
structure StoryRule where
  projectId : ℕ
  statement : String
  source : String
  deriving DecidableEq, Repr

/-- The tables of planning. A draft is never blank, so a blank chapter has no text at all and
nothing of it was accepted; a run belongs to the project of its chapter. -/
structure PlanningDatabase where
  projects : List PlannedProject
  chapters : List (ℕ × PlannedChapter)
  characters : List Character
  locations : List (ℕ × String)
  storyRules : List StoryRule
  foreshadowings : List Foreshadowing
  runs : List StoryRun
  nextChapterId : ℕ
  chapterIds : (chapters.map (·.1)).Nodup
  chapterIds_lt : ∀ entry ∈ chapters, entry.1 < nextChapterId
  blank : ∀ entry ∈ chapters, isBlank entry.2.content = true →
    entry.2.content = "" ∧ entry.2.acceptedVersionId = none
  runProjects : ∀ run ∈ runs, ∀ entry ∈ chapters, run.chapterId = entry.1 →
    run.projectId = entry.2.projectId
  runChapters_lt : ∀ run ∈ runs, run.chapterId < nextChapterId

namespace PlanningDatabase

variable (db : PlanningDatabase) (projectId : ℕ)

/-- `ChapterRepository.list_for_project`. -/
def chaptersOf : List (ℕ × PlannedChapter) :=
  db.chapters.filter fun entry => entry.2.projectId == projectId

/-- `WorkflowRunRepository.active_for_project`. -/
def activeForProject : Option StoryRun :=
  (db.runs.filter fun run =>
    run.projectId == projectId &&
      ChapterWorkflowService.activeStatuses.contains run.status).getLast?

/-- `ChapterRepository.get_by_number`. -/
def chapterByNumber (chapterNumber : ℕ) : Option (ℕ × PlannedChapter) :=
  db.chapters.find? fun entry =>
    entry.2.projectId == projectId && entry.2.chapterNumber == chapterNumber

/-- The status of a project is written. -/
def setStatus (status : ProjectStatus) : PlanningDatabase :=
  { db with projects := db.projects.modify projectId ({ · with status }) }

/-- The plan of a project is deleted, and with its chapters what belongs to them. -/
def deletePlan : PlanningDatabase where
  projects := db.projects
  chapters := db.chapters.filter fun entry => entry.2.projectId != projectId
  characters := db.characters.filter (·.projectId != projectId)
  locations := db.locations.filter (·.1 != projectId)
  storyRules := db.storyRules.filter (·.projectId != projectId)
  foreshadowings := db.foreshadowings.filter (·.projectId != projectId)
  runs := db.runs.filter fun run =>
    !(db.chapters.any fun entry => entry.2.projectId == projectId && entry.1 == run.chapterId)
  nextChapterId := db.nextChapterId
  chapterIds := db.chapterIds.sublist ((List.filter_sublist).map _)
  chapterIds_lt entry hentry := db.chapterIds_lt entry (List.mem_of_mem_filter hentry)
  blank entry hentry := db.blank entry (List.mem_of_mem_filter hentry)
  runProjects run hrun entry hentry :=
    db.runProjects run (List.mem_of_mem_filter hrun) entry (List.mem_of_mem_filter hentry)
  runChapters_lt run hrun := db.runChapters_lt run (List.mem_of_mem_filter hrun)

end PlanningDatabase

/-- The row of a planned chapter. -/
def ChapterPlan.row (projectId : ℕ) (plan : ChapterPlan) : PlannedChapter where
  projectId := projectId
  chapterNumber := plan.chapterNumber
  status := .planned
  version := 1
  title := plan.title
  content := ""
  summary := ""
  score := none
  currentVersionId := none
  acceptedVersionId := none
  outline := plan.summary
  objective := plan.objective

/-- The row of a planned foreshadowing. -/
def ForeshadowingPlan.row (projectId : ℕ) (plan : ForeshadowingPlan) : Foreshadowing where
  projectId := projectId
  setupChapter := plan.setupChapter
  expectedPayoffChapter := plan.expectedPayoffChapter
  description := plan.description
  status := .planned
  payoffChapter := none

/-- The columns of a project that a plan fills. -/
def PlannedProject.fill (project : PlannedProject) (plan : NovelPlan) : PlannedProject :=
  { project with
    logline := some plan.logline
    worldSummary := some plan.worldSummary
    centralConflict := some plan.centralConflict
    endingDirection := some plan.endingDirection
    styleGuide := some plan.styleGuide
    status := .planned }

namespace PlanningDatabase

/-- The new chapters of a plan, with their ids. -/
def newChapters (projectId nextChapterId : ℕ) (plan : NovelPlan) : List (ℕ × PlannedChapter) :=
  plan.chapterPlans.mapIdx fun index item => (nextChapterId + index, item.row projectId)

theorem mem_newChapters {projectId nextChapterId : ℕ} {plan : NovelPlan}
    {entry : ℕ × PlannedChapter} (h : entry ∈ newChapters projectId nextChapterId plan) :
    nextChapterId ≤ entry.1 ∧ entry.1 < nextChapterId + plan.chapterPlans.length ∧
      entry.2.projectId = projectId ∧ entry.2.content = "" ∧
      entry.2.acceptedVersionId = none := by
  obtain ⟨index, hlt, rfl⟩ := List.mem_mapIdx.mp h
  exact ⟨Nat.le_add_right _ _, Nat.add_lt_add_left hlt _, rfl, rfl, rfl⟩

theorem nodup_newChapters (projectId nextChapterId : ℕ) (plan : NovelPlan) :
    ((newChapters projectId nextChapterId plan).map (·.1)).Nodup := by
  have hids : (newChapters projectId nextChapterId plan).map (·.1) =
      List.range' nextChapterId plan.chapterPlans.length := by
    apply List.ext_getElem
    · simp [newChapters]
    · intro index hlt hlt'
      simp [newChapters]
  rw [hids]
  exact List.nodup_range'

/-- The rows of a plan are added. -/
def addPlan (db : PlanningDatabase) (projectId : ℕ) (plan : NovelPlan) (source : String) :
    PlanningDatabase where
  projects := db.projects.modify projectId (·.fill plan)
  chapters := db.chapters ++ newChapters projectId db.nextChapterId plan
  characters := db.characters ++ plan.characters.map fun item =>
    ⟨projectId, item.name, item.initialState⟩
  locations := db.locations ++ plan.locations.map (projectId, ·)
  storyRules := db.storyRules ++ plan.storyRules.map (⟨projectId, ·, source⟩)
  foreshadowings := db.foreshadowings ++ plan.foreshadowing.map (·.row projectId)
  runs := db.runs
  nextChapterId := db.nextChapterId + plan.chapterPlans.length
  chapterIds := by
    rw [List.map_append]
    refine List.Nodup.append db.chapterIds (nodup_newChapters _ _ _) fun id hold hnew => ?_
    obtain ⟨old, hmem, rfl⟩ := List.mem_map.mp hold
    obtain ⟨new, hmem', heq⟩ := List.mem_map.mp hnew
    have hlt := db.chapterIds_lt old hmem
    have hge := (mem_newChapters hmem').1
    omega
  chapterIds_lt entry hentry := by
    rcases List.mem_append.mp hentry with hold | hnew
    · have hlt := db.chapterIds_lt entry hold
      omega
    · exact (mem_newChapters hnew).2.1
  blank entry hentry hblank := by
    rcases List.mem_append.mp hentry with hold | hnew
    · exact db.blank entry hold hblank
    · exact (mem_newChapters hnew).2.2.2
  runProjects run hrun entry hentry heq := by
    rcases List.mem_append.mp hentry with hold | hnew
    · exact db.runProjects run hrun entry hold heq
    · have hlt := db.runChapters_lt run hrun
      have hge := (mem_newChapters hnew).1
      omega
  runChapters_lt run hrun := by
    have hlt := db.runChapters_lt run hrun
    omega

/-- The rows of a plan collide with rows the project already has. -/
def violated (db : PlanningDatabase) (projectId : ℕ) (plan : NovelPlan) : Option String :=
  if db.characters.any fun row => row.projectId == projectId &&
      (plan.characters.map (·.name)).contains row.name then
    some "character_project_name"
  else if db.locations.any fun row => row.1 == projectId && plan.locations.contains row.2 then
    some "location_project_name"
  else if db.chapters.any fun entry => entry.2.projectId == projectId &&
      (plan.chapterPlans.map (·.chapterNumber)).contains entry.2.chapterNumber then
    some "chapter_project_number"
  else none

end PlanningDatabase

/-! ### The service -/

namespace PlanningService

variable {db db' : PlanningDatabase} {projectId : ℕ} {replaceExisting : Bool}

/-- The request for the planner. -/
def planningRequest (projectId : ℕ) (project : PlannedProject) : PlanningRequest where
  projectId := projectId
  title := project.title
  genre := project.genre
  premise := project.premise
  targetChapters := project.targetChapters
  targetWordsPerChapter := project.targetWordsPerChapter

/-- Whether a project has rows of a plan. -/
def hasPlan (db : PlanningDatabase) (projectId : ℕ) : Bool :=
  !(db.chaptersOf projectId).isEmpty || db.characters.any (·.projectId == projectId) ||
    db.locations.any (·.1 == projectId)

/-- `_prepare_request`. -/
def prepareRequest (projectId : ℕ) (replaceExisting : Bool) (db : PlanningDatabase) :
    Except Error (PlanningRequest × PlanningDatabase) :=
  match db.projects[projectId]? with
  | none => .error (.entityNotFoundError ("Project " ++ toString projectId ++ " was not found"))
  | some project =>
      if (db.activeForProject projectId).isSome then
        .error (.invalidStateError "A project with an active workflow cannot be replanned")
      else if (db.chaptersOf projectId).any fun entry => !isBlank entry.2.content then
        .error (.invalidStateError "A project with generated content cannot be replanned")
      else if hasPlan db projectId && !replaceExisting then
        .error (.invalidStateError "Project already has a plan; pass replace_existing=True")
      else if project.status ∈ [.completed, .archived] then
        .error (.invalidStateError ("Project cannot be planned from status " ++
          project.status.value))
      else .ok (planningRequest projectId project, db.setStatus projectId .planning)

/-- `_persist_plan`. -/
def persistPlan (projectId : ℕ) (plan : NovelPlan) (source : String) (replaceExisting : Bool)
    (db : PlanningDatabase) : Except Error PlanningDatabase :=
  match db.projects[projectId]? with
  | none =>
      .error (.entityNotFoundError ("Project " ++ toString projectId ++
        " disappeared during planning"))
  | some _ =>
      let cleared := if replaceExisting then db.deletePlan projectId else db
      match cleared.violated projectId plan with
      | some constraint => .error (.integrityError constraint)
      | none => .ok (cleared.addPlan projectId plan source)

/-- `_mark_failed`. -/
def markFailed (projectId : ℕ) (db : PlanningDatabase) : PlanningDatabase :=
  db.setStatus projectId .failed

/-- A project has no chapter with a text or an accepted version and no active run. -/
structure Untouched (db : PlanningDatabase) (projectId : ℕ) : Prop where
  blank : ∀ entry ∈ db.chapters, entry.2.projectId = projectId →
    entry.2.content = "" ∧ entry.2.acceptedVersionId = none
  idle : ∀ run ∈ db.runs, run.projectId = projectId →
    run.status ∉ ChapterWorkflowService.activeStatuses

/-- **What is checked before the planner is called**: the project is untouched, and only its
status is written. -/
theorem prepareRequest_eq_ok {request : PlanningRequest}
    (h : prepareRequest projectId replaceExisting db = .ok (request, db')) :
    request.projectId = projectId ∧ db' = db.setStatus projectId .planning ∧
      Untouched db projectId := by
  unfold prepareRequest at h
  cases hproject : db.projects[projectId]? with
  | none => simp [hproject] at h
  | some project =>
      simp only [hproject] at h
      split at h
      · exact absurd h (by simp)
      rename_i hactive
      split at h
      · exact absurd h (by simp)
      rename_i hcontent
      split at h
      · exact absurd h (by simp)
      split at h
      · exact absurd h (by simp)
      obtain ⟨rfl, rfl⟩ := Prod.mk.inj (Except.ok.inj h)
      refine ⟨rfl, rfl, fun entry hentry hproject => ?_, fun run hrun hproject hstatus => ?_⟩
      · refine db.blank entry hentry ?_
        by_contra hblank
        refine hcontent (List.any_eq_true.mpr ⟨entry, ?_, by simpa using hblank⟩)
        exact List.mem_filter.mpr ⟨hentry, by simpa using hproject⟩
      · simp only [PlanningDatabase.activeForProject, List.getLast?_isSome, ne_eq,
          List.filter_eq_nil_iff, Bool.and_eq_true, beq_iff_eq, List.contains_iff_mem, not_not,
          not_and] at hactive
        exact hactive run hrun hproject hstatus

/-- **What storing a plan does to chapters**: those of other projects stay, and so do those of
the project unless it is replanned. What is new has no text and no run. -/
theorem persistPlan_eq_ok {plan : NovelPlan} {source : String}
    (h : persistPlan projectId plan source replaceExisting db = .ok db') :
    db'.chapters = (db.chapters.filter fun entry =>
        !(replaceExisting && entry.2.projectId == projectId)) ++
      PlanningDatabase.newChapters projectId db.nextChapterId plan ∧
      db'.runs.Sublist db.runs := by
  unfold persistPlan at h
  cases hproject : db.projects[projectId]? with
  | none => simp [hproject] at h
  | some project =>
      simp only [hproject] at h
      split at h
      · exact absurd h (by simp)
      · obtain rfl := Except.ok.inj h
        cases replaceExisting with
        | false => simp [PlanningDatabase.addPlan]
        | true =>
            refine ⟨?_, List.filter_sublist⟩
            simp [PlanningDatabase.addPlan, PlanningDatabase.deletePlan, bne]

end PlanningService

end StoryForge
