import StoryForge.Books.System
import StoryForge.Workflows.Lineage

/-!
# What a book run says about its chapters

A book run marks its chapters and records a child job for each that its workflow has finished.
It has one link to a workflow run and one current chapter, which are written in transactions of
their own, so that the link that a crash leaves behind can be that of a chapter that is accepted
already. As long as a workflow run that an execution takes over is a run of the chapter it is
taken over for, what the book run records is true in every state.

## Main results

* `BookExecution.progress_next` — what every step keeps under the condition;
* `BookExecution.truthful_of_reachable` — the marks and the child jobs are true;
* `BookExecution.untruthful_after_crash` — they are not after a crash between the acceptance of a
  chapter and its recording.
-/

namespace StoryForge

open BookWorkflowApplicationService
open StoryDatabase (Succeeds Carries Coherent)

/-! ### Runs of chapters -/

namespace StoryDatabase

variable {story story' : StoryDatabase} {p n r : ℕ}

/-- A workflow run is a run of a chapter of a project. -/
def RunOf (story : StoryDatabase) (projectId chapterNumber r : ℕ) : Prop :=
  ∃ run ∈ story.runs[r]?, story.chapterByNumber projectId chapterNumber = some run.chapterId

instance (story : StoryDatabase) (projectId chapterNumber r : ℕ) :
    Decidable (story.RunOf projectId chapterNumber r) := by
  unfold RunOf; infer_instance

/-- A chapter of a project has an accepted version. -/
def AcceptedChapter (story : StoryDatabase) (projectId chapterNumber : ℕ) : Prop :=
  ∃ chapter ∈ story.chapters, chapter.projectId = projectId ∧
    chapter.chapterNumber = chapterNumber ∧ chapter.acceptedVersionId.isSome = true

instance (story : StoryDatabase) (projectId chapterNumber : ℕ) :
    Decidable (story.AcceptedChapter projectId chapterNumber) := by
  unfold AcceptedChapter; infer_instance

/-- The chapters that are found by their numbers have those numbers. -/
theorem chapterByNumber_injective {n' id : ℕ} (h : story.chapterByNumber p n = some id)
    (h' : story.chapterByNumber p n' = some id) : n' = n := by
  obtain ⟨hlt, -, -⟩ := List.findIdx?_eq_some_iff_getElem.mp h
  have hrow := List.getElem?_eq_getElem hlt
  exact (row_of_chapterByNumber h' hrow).2.symm.trans (row_of_chapterByNumber h hrow).2

/-- A run is a run of one chapter. -/
theorem RunOf.unique {n' : ℕ} (h : story.RunOf p n r) (h' : story.RunOf p n' r) : n' = n := by
  obtain ⟨run, hrun, hchapter⟩ := h
  obtain ⟨other, hother, hchapter'⟩ := h'
  obtain rfl := Option.mem_unique hrun hother
  exact chapterByNumber_injective hchapter hchapter'

/-- A run of a chapter is a run of no other one. -/
theorem RunOf.iff (h : story.RunOf p n r) (m : ℕ) : story.RunOf p m r ↔ m = n :=
  ⟨fun h' => h.unique h', fun heq => heq ▸ h⟩

theorem RunOf.carried (h : story.RunOf p n r) (hcarries : Carries story story') :
    story'.RunOf p n r := by
  obtain ⟨run, hrun, hchapter⟩ := h
  obtain ⟨run', hrun', heq⟩ := hcarries.runs r run hrun
  exact ⟨run', hrun', heq ▸ hcarries.chapterByNumber hchapter⟩

theorem AcceptedChapter.carried (h : story.AcceptedChapter p n) (hcarries : Carries story story') :
    story'.AcceptedChapter p n := by
  obtain ⟨chapter, hmem, hproject, hnumber, haccepted⟩ := h
  obtain ⟨id, hrow⟩ := List.mem_iff_getElem?.mp hmem
  obtain ⟨chapter', hrow', hproject', hnumber', haccepted'⟩ := hcarries.chapters id chapter hrow
  exact ⟨chapter', List.mem_of_getElem? hrow', hproject'.trans hproject, hnumber'.trans hnumber,
    haccepted' haccepted⟩

/-- A chapter that is found by its number and has an accepted version. -/
theorem HasAccepted.chapter {id : ℕ} (h : story.HasAccepted id)
    (hid : story.chapterByNumber p n = some id) : story.AcceptedChapter p n := by
  obtain ⟨chapter, hrow, haccepted⟩ := h
  obtain ⟨hproject, hnumber⟩ := row_of_chapterByNumber hid hrow
  exact ⟨chapter, List.mem_of_getElem? hrow, hproject, hnumber, haccepted⟩

/-- The numbers of the accepted chapters are numbers of accepted chapters. -/
theorem acceptedChapter_of_mem (h : n ∈ story.acceptedNumbers p) : story.AcceptedChapter p n := by
  obtain ⟨⟨id, chapter⟩, hmem, rfl⟩ := List.mem_map.mp h
  obtain ⟨hmem, haccepted⟩ := List.mem_filter.mp hmem
  obtain ⟨hmem, hproject⟩ := List.mem_filter.mp ((List.mem_insertionSort _).mp hmem)
  obtain ⟨⟨row, id'⟩, hrow, heq⟩ := List.mem_map.mp hmem
  obtain ⟨rfl, rfl⟩ := Prod.mk.inj heq
  exact ⟨row, List.fst_mem_of_mem_zipIdx hrow, by simpa using hproject, rfl, haccepted⟩

end StoryDatabase

/-- A checkpoint of a run for a chapter is one of a run of that chapter. -/
theorem Checkpoint.Of.runOf {story : StoryDatabase} {r p n : ℕ} {checkpoint : Checkpoint}
    (h : checkpoint.Of story r p n) : story.RunOf p n r := by
  obtain ⟨run, hrun, hchapter, -⟩ := h
  exact ⟨run, hrun, hchapter⟩

/-- Two rows that say the same of the chapters and link the same workflow run. -/
structure BookRun.SameChapters (run run' : BookRun) : Prop where
  project : run'.projectId = run.projectId
  statuses : run'.chapterStatusMap = run.chapterStatusMap
  jobs : run'.chapterJobMap = run.chapterJobMap
  workflow : run'.workflowRunId = run.workflowRunId

theorem BookRun.SameChapters.of_lasting {run run' : BookRun} (h : run'.lasting = run.lasting) :
    run.SameChapters run' where
  project := (congrArg BookRun.projectId h : run'.lasting.projectId = _)
  statuses := (congrArg BookRun.chapterStatusMap h : run'.lasting.chapterStatusMap = _)
  jobs := (congrArg BookRun.chapterJobMap h : run'.lasting.chapterJobMap = _)
  workflow := (congrArg BookRun.workflowRunId h : run'.lasting.workflowRunId = _)

/-- A request to resume says nothing of the chapters. -/
theorem BookRunService.resumeRun_sameChapters {request : Option BookRunResumeRequest}
    {run run' : BookRun} (h : resumeRun request run = .ok run') : run.SameChapters run' := by
  obtain ⟨limited, hlasting, rfl | ⟨limits, -, hlimits⟩⟩ := resumeRun_eq_ok h
  · exact .of_lasting hlasting
  · obtain ⟨rfl, -⟩ := resumeLimits_eq_ok hlimits
    obtain ⟨hproject, hstatuses, hjobs, hworkflow⟩ := BookRun.SameChapters.of_lasting hlasting
    exact ⟨hproject, hstatuses, hjobs, hworkflow⟩

namespace BookWorkflowApplicationService

/-- The chapters that are marked as accepted after a synchronization were marked before, or are
accepted. -/
theorem lookup_syncAlreadyAccepted {settings : BookWorkflowSettings} {story : StoryDatabase}
    {run : BookRun} {n : ℕ}
    (h : (syncAlreadyAccepted settings story run).chapterStatusMap.lookup n = some .accepted) :
    run.chapterStatusMap.lookup n = some .accepted ∨ n ∈ story.acceptedNumbers run.projectId := by
  have hfold (numbers : List ℕ) : ∀ statuses : List (ℕ × ChapterMark),
      (numbers.foldl (fun statuses number => Dict.set number .accepted statuses) statuses).lookup
        n = some .accepted → statuses.lookup n = some .accepted ∨ n ∈ numbers := by
    induction numbers with
    | nil => exact fun _ h => .inl h
    | cons number rest ih =>
        intro statuses h
        rcases ih _ h with hset | hmem
        · rw [Dict.lookup_set] at hset
          split at hset
          · rename_i heq
            exact .inr (heq ▸ List.mem_cons_self)
          · exact .inl hset
        · exact .inr (List.mem_cons_of_mem _ hmem)
  exact hfold _ _ h

/-- The child job of a completion is there already, or a new one for the chapter. -/
theorem childJob_eq_ok {chapterNumber workflowRunId projectId childId : ℕ}
    {status : WorkflowRunStatus} {story : StoryDatabase} {children children' : List BookChildJob}
    (h : childJob chapterNumber workflowRunId status projectId story children =
      .ok (childId, children')) :
    ∃ child, children'[childId]? = some child ∧ child.chapterNumber = chapterNumber ∧
      (children' = children ∨ children' = children ++ [child] ∧
        child.workflowRunId = workflowRunId ∧
          story.chapterByNumber projectId chapterNumber = some child.chapterId) := by
  unfold childJob at h
  split at h
  · rename_i found hfound
    obtain ⟨rfl, rfl⟩ := Prod.mk.inj (Except.ok.inj h)
    obtain ⟨hlt, hchild, -⟩ := List.findIdx?_eq_some_iff_getElem.mp hfound
    simp only [Bool.and_eq_true, beq_iff_eq] at hchild
    exact ⟨_, List.getElem?_eq_getElem hlt, hchild.1, .inl rfl⟩
  · split at h
    · exact absurd h (by simp)
    · rename_i chapterId hchapter
      obtain ⟨rfl, rfl⟩ := Prod.mk.inj (Except.ok.inj h)
      exact ⟨_, List.getElem?_concat_length, rfl, .inr ⟨rfl, rfl, hchapter⟩⟩

end BookWorkflowApplicationService

namespace BookExecution

/-! ### True progress -/

/-- A chapter of the book run has an accepted version. -/
def Accepted (s : BookExecution) (chapterNumber : ℕ) : Prop :=
  s.story.AcceptedChapter s.run.projectId chapterNumber

/-- A workflow run is a run of a chapter of the book run, and of no other one. -/
def OnlyOf (s : BookExecution) (chapterNumber workflowRunId : ℕ) : Prop :=
  ∀ m, s.story.RunOf s.run.projectId m workflowRunId ↔ m = chapterNumber

/-- A child job is of the chapter whose number it has, and so is its workflow run. -/
structure JobOf (s : BookExecution) (child : BookChildJob) : Prop where
  chapter : s.story.chapterByNumber s.run.projectId child.chapterNumber = some child.chapterId
  workflow : s.OnlyOf child.chapterNumber child.workflowRunId

/-- **What a book run records is true**: a chapter that is marked as accepted has an accepted
version, the child jobs and the workflow runs that are recorded for a chapter are of that chapter
and of no other one, and so is the completion that is about to be recorded. -/
structure Truthful (s : BookExecution) : Prop where
  accepted : ∀ n, s.run.chapterStatusMap.lookup n = some .accepted → s.Accepted n
  children : ∀ child ∈ s.children, s.JobOf child
  jobs : ∀ n childId, s.run.chapterJobMap.lookup n = some childId →
    ∃ child ∈ s.children[childId]?, child.chapterNumber = n
  completion : ∀ task id status, s.phase = .recording task id status →
    s.OnlyOf task.chapterNumber id

/-! ### The condition -/

/-- A workflow run that an execution that finds it linked takes over: it resumes it, or records
it as the completion of the chapter. -/
def TakenOver (s : BookExecution) (workflowRunId : ℕ) : Prop :=
  ∃ run ∈ s.story.runs[workflowRunId]?,
    run.status ∈ .paused :: ChapterWorkflowService.completedStatuses

instance (s : BookExecution) (workflowRunId : ℕ) : Decidable (s.TakenOver workflowRunId) := by
  unfold TakenOver; infer_instance

/-- A workflow run that is taken over for a chapter is a run of that chapter. -/
def LinkedFor (s : BookExecution) (chapterNumber : ℕ) : Prop :=
  ∀ id ∈ currentWorkflow chapterNumber s.run,
    ¬ s.TakenOver id ∨ s.story.RunOf s.run.projectId chapterNumber id

instance (s : BookExecution) (chapterNumber : ℕ) : Decidable (s.LinkedFor chapterNumber) := by
  unfold LinkedFor; infer_instance

/-- The chapter that a step looks for a workflow run of. -/
def sought : BookPhase → BookAction → Option ℕ
  | .finding chapterNumber, .step .proceed => some chapterNumber
  | _, _ => none

/-- What a step must meet: a workflow run that is linked to the book run is taken over for its
own chapter only. -/
def Linked (s : BookExecution) (a : BookAction) : Prop :=
  ∀ chapterNumber ∈ sought s.phase a, s.LinkedFor chapterNumber

instance (s : BookExecution) (a : BookAction) : Decidable (s.Linked a) := by
  unfold Linked; infer_instance

/-- Other code keeps the pointers of the story in order, as the transactions of the chapter
services do. -/
def Relies (s : BookExecution) : BookAction → Prop
  | .otherCode story => Succeeds s.story story
  | _ => True

/-- No other code writes the story. -/
def Alone : BookAction → Bool
  | .otherCode _ => false
  | _ => true

theorem relies_of_alone {s : BookExecution} {a : BookAction} (h : Alone a = true) :
    s.Relies a := by
  cases a with
  | otherCode story => exact absurd h (by simp [Alone])
  | _ => trivial

/-- The executions of a book run on a story whose pointers are in order. -/
def storyMachine (settings : BookWorkflowSettings) : Machine BookExecution BookAction where
  init s := Fresh s ∧ s.story.Coherent
  next := next settings

/-! ### The invariant -/

/-- The checkpoint of a workflow run is one of its chapter. -/
def Saved (s : BookExecution) (workflowRunId : ℕ) : Prop :=
  ∀ checkpoint ∈ s.checkpoints workflowRunId, ∃ chapterNumber,
    checkpoint.Of s.story workflowRunId s.run.projectId chapterNumber

/-- What is in progress is of the chapter that it is in progress for. -/
def InProgress (s : BookExecution) : Prop :=
  match s.phase with
  | .executing task graph =>
      graph.Of s.story s.run.projectId task.chapterNumber ∧ ∀ id ∈ graph.runId, s.Saved id
  | .recording task id status =>
      s.story.RunOf s.run.projectId task.chapterNumber id ∧
        (status = .completed → s.Accepted task.chapterNumber)
  | _ => True

/-- What holds in every state under the condition. -/
structure Progress (s : BookExecution) : Prop where
  coherent : s.story.Coherent
  accepted : ∀ n, s.run.chapterStatusMap.lookup n = some .accepted → s.Accepted n
  children : ∀ child ∈ s.children, s.JobOf child
  jobs : ∀ n childId, s.run.chapterJobMap.lookup n = some childId →
    ∃ child ∈ s.children[childId]?, child.chapterNumber = n
  saved : ∀ id ∈ s.run.workflowRunId, s.Saved id
  inProgress : s.InProgress

theorem Progress.truthful {s : BookExecution} (h : s.Progress) : s.Truthful where
  accepted := h.accepted
  children := h.children
  jobs := h.jobs
  completion task id status hphase := by
    have hinProgress := h.inProgress
    rw [InProgress, hphase] at hinProgress
    exact hinProgress.1.iff

section Invariant

variable {settings : BookWorkflowSettings} {s s' : BookExecution}

theorem Accepted.carried {n : ℕ} (h : s.Accepted n) (hstory : Carries s.story s'.story)
    (hproject : s'.run.projectId = s.run.projectId) : s'.Accepted n := by
  unfold Accepted
  rw [hproject]
  exact StoryDatabase.AcceptedChapter.carried h hstory

theorem JobOf.carried {child : BookChildJob} (h : s.JobOf child)
    (hstory : Carries s.story s'.story) (hproject : s'.run.projectId = s.run.projectId) :
    s'.JobOf child where
  chapter := by
    rw [hproject]
    exact hstory.chapterByNumber h.chapter
  workflow := by
    have hrun := (h.workflow child.chapterNumber).mpr rfl
    intro m
    rw [hproject]
    exact (hrun.carried hstory).iff m

theorem Saved.carried {id : ℕ} (h : s.Saved id) (hstory : Carries s.story s'.story)
    (hproject : s'.run.projectId = s.run.projectId)
    (hcheckpoints : s'.checkpoints id = s.checkpoints id) : s'.Saved id := by
  intro checkpoint hcheckpoint
  rw [hcheckpoints] at hcheckpoint
  obtain ⟨n, hof⟩ := h checkpoint hcheckpoint
  exact ⟨n, hproject ▸ hof.carried hstory⟩

theorem InProgress.carried (h : s.InProgress) (hstory : Carries s.story s'.story)
    (hproject : s'.run.projectId = s.run.projectId) (hcheckpoints : s'.checkpoints = s.checkpoints)
    (hphase : s'.phase = s.phase) : s'.InProgress := by
  unfold InProgress at h ⊢
  rw [hphase, hproject]
  split
  · rename_i task graph heq
    simp only [heq] at h
    exact ⟨h.1.carried hstory, fun id hid =>
      (h.2 id hid).carried hstory hproject (congrFun hcheckpoints id)⟩
  · rename_i task id status heq
    simp only [heq] at h
    exact ⟨h.1.carried hstory, fun hstatus => (h.2 hstatus).carried hstory hproject⟩
  · trivial

/-- Nothing is in progress outside of the chapters. -/
theorem inProgress_of_plain (h : s.phase.Plain) : s.InProgress := by
  unfold InProgress
  split
  · rename_i task graph hphase
    rw [hphase] at h
    exact h.elim
  · rename_i task id status hphase
    rw [hphase] at h
    exact h.elim
  · trivial

/-- A step that records no child job. -/
theorem Progress.keep (hs : s.Progress) (hstory : Succeeds s.story s'.story)
    (hproject : s'.run.projectId = s.run.projectId)
    (haccepted : ∀ n, s'.run.chapterStatusMap.lookup n = some .accepted →
      s.run.chapterStatusMap.lookup n = some .accepted ∨ s'.Accepted n)
    (hjobs : s'.run.chapterJobMap = s.run.chapterJobMap) (hchildren : s'.children = s.children)
    (hsaved : ∀ id ∈ s'.run.workflowRunId, s'.Saved id) (hinProgress : s'.InProgress) :
    s'.Progress where
  coherent := hstory.coherent
  accepted n hn := by
    rcases haccepted n hn with hold | hnew
    · exact (hs.accepted n hold).carried hstory.toCarries hproject
    · exact hnew
  children child hchild := by
    rw [hchildren] at hchild
    exact (hs.children child hchild).carried hstory.toCarries hproject
  jobs := by
    rw [hjobs, hchildren]
    exact hs.jobs
  saved := hsaved
  inProgress := hinProgress

/-- A step that writes neither the story nor what the book run says about its chapters. -/
theorem Progress.move (hs : s.Progress) (hstory : s'.story = s.story)
    (hcheckpoints : s'.checkpoints = s.checkpoints) (hrun : s.run.SameChapters s'.run)
    (hchildren : s'.children = s.children) (hinProgress : s'.InProgress) : s'.Progress := by
  have hsucceeds : Succeeds s.story s'.story := by rw [hstory]; exact .refl hs.coherent
  refine hs.keep hsucceeds hrun.project (fun n hn => .inl (hrun.statuses ▸ hn)) hrun.jobs hchildren
    (fun id hid => ?_) hinProgress
  rw [hrun.workflow] at hid
  exact (hs.saved id hid).carried hsucceeds.toCarries hrun.project (congrFun hcheckpoints id)

/-- A transaction on the book run that says nothing of its chapters, whatever goes on. -/
theorem Progress.change (hs : s.Progress) {result : Except Error BookRun}
    (h : ∀ run, result = .ok run → s.run.SameChapters run) : (s.change result).Progress := by
  cases result with
  | error error => exact hs
  | ok run =>
      have hrun := h run rfl
      exact hs.move rfl rfl hrun rfl
        (hs.inProgress.carried (Succeeds.refl hs.coherent).toCarries hrun.project rfl rfl)

/-! ### The chapter in progress -/

/-- A chapter that is marked as running is not marked as accepted. -/
theorem Progress.marked (hs : s.Progress) (chapterNumber : ℕ) :
    Progress { s with
      run := markChapterRunning chapterNumber s.run
      phase := .finding chapterNumber } := by
  refine hs.keep (.refl hs.coherent) rfl (fun n hn => .inl ?_) rfl rfl hs.saved trivial
  simp only [markChapterRunning, node, Dict.lookup_set] at hn
  split at hn
  · exact absurd hn (by simp)
  · exact hn

/-- A synchronization marks accepted chapters. -/
theorem Progress.synced (hs : s.Progress) :
    Progress { s with
      run := syncAlreadyAccepted settings s.story s.run
      phase := .deciding } := by
  refine hs.keep (.refl hs.coherent) rfl (fun n hn => ?_) rfl rfl hs.saved trivial
  exact (lookup_syncAlreadyAccepted hn).imp_right StoryDatabase.acceptedChapter_of_mem

/-- The graph of a chapter starts without a run. -/
theorem inProgress_start {task : ChapterTask} {request : ChapterWorkflowRequest}
    (hphase : s.phase = .executing task (.start request))
    (hproject : request.projectId = s.run.projectId)
    (hchapter : request.chapterNumber = task.chapterNumber) : s.InProgress := by
  unfold InProgress
  simp only [hphase]
  exact ⟨⟨hproject, hchapter, rfl, rfl, rfl⟩, fun _ hnone => absurd hnone (by
    simp [GraphExecution.start])⟩

/-- The workflow run that a chapter goes on with is one of the chapter. -/
theorem runOf_of_linkedFor {chapterNumber id : ℕ} (hlinked : s.LinkedFor chapterNumber)
    (hcurrent : currentWorkflow chapterNumber s.run = some id) (htaken : s.TakenOver id) :
    s.story.RunOf s.run.projectId chapterNumber id :=
  (hlinked id hcurrent).resolve_left (not_not.mpr htaken)

/-- The workflow run that `_current_workflow` finds is the one that is linked. -/
theorem workflowRunId_of_currentWorkflow {run : BookRun} {chapterNumber id : ℕ}
    (h : currentWorkflow chapterNumber run = some id) : run.workflowRunId = some id := by
  unfold currentWorkflow at h
  split at h
  · exact h
  · exact absurd h (by simp)

/-- A workflow run that is resumed goes on from a checkpoint of the chapter. -/
theorem Progress.resumed (hs : s.Progress) {chapterNumber id : ℕ} {checkpoint : Checkpoint}
    {story : StoryDatabase} (hlinked : s.LinkedFor chapterNumber)
    (hcurrent : currentWorkflow chapterNumber s.run = some id)
    (hresume : ChapterWorkflowService.resume id s.story = .ok story)
    (hcheckpoint : s.checkpoints id = some checkpoint) :
    Progress { s with
      story
      phase := .executing ⟨chapterNumber, none⟩ (.restart id checkpoint) } := by
  have hlink := workflowRunId_of_currentWorkflow hcurrent
  have hstory := ChapterWorkflowService.resume_succeeds hs.coherent hresume
  have htaken : s.TakenOver id := by
    have hstatus := (ChapterWorkflowService.resume_eq_ok hresume).1
    rw [StoryDatabase.getElem?_statuses] at hstatus
    obtain ⟨run, hrun, hpaused⟩ := Option.map_eq_some_iff.mp hstatus
    exact ⟨run, hrun, hpaused ▸ List.mem_cons_self⟩
  have hsaved : ∀ other ∈ s.run.workflowRunId, Saved { s with
      story
      phase := .executing ⟨chapterNumber, none⟩ (.restart id checkpoint) } other :=
    fun other hother => (hs.saved other hother).carried hstory.toCarries rfl rfl
  refine hs.keep hstory rfl (fun n hn => .inl hn) rfl rfl hsaved ⟨?_, fun other hother => ?_⟩
  · obtain ⟨n, hof⟩ := hs.saved id hlink checkpoint hcheckpoint
    obtain rfl := (runOf_of_linkedFor hlinked hcurrent htaken).unique hof.runOf
    obtain ⟨run, hrun, hchapter, hstate⟩ := hof.carried hstory.toCarries
    refine WorkflowSystem.of_row rfl hrun hchapter hstate ?_
    unfold GraphExecution.restart
    dsimp only
    split <;> trivial
  · exact hsaved other (hlink.trans hother)

/-- A workflow run that is found completed is taken over. -/
theorem takenOver_of_findWorkflow {chapterNumber id : ℕ} {task : ChapterTask}
    {status : WorkflowRunStatus} (h : s.findWorkflow chapterNumber = some s')
    (hcurrent : currentWorkflow chapterNumber s.run = some id)
    (hphase : s'.phase = .recording task id status) : s.TakenOver id := by
  simp only [findWorkflow, hcurrent, ChapterWorkflowService.status, Option.bind_some] at h
  split at h
  · obtain rfl := Option.some.inj h
    exact absurd hphase (by simp [raise, goto])
  · rename_i status' hstatus
    split at hstatus
    · exact absurd hstatus (by simp)
    · rename_i run hrun
      split at hstatus
      · exact absurd hstatus (by simp)
      obtain rfl := Except.ok.inj hstatus
      refine ⟨run, hrun, ?_⟩
      split at h
      · rename_i hpaused
        exact hpaused ▸ List.mem_cons_self
      · split at h
        · rename_i hcompleted
          exact List.mem_cons_of_mem _ hcompleted
        · obtain rfl := Option.some.inj h
          exact absurd hphase (by simp [raise, goto])

/-- The status of a workflow run of a chapter says whether the chapter is accepted. -/
theorem accepted_of_status (hs : s.Progress) {n id : ℕ} {missing : Error}
    (hrun : s.story.RunOf s.run.projectId n id)
    (hstatus : ChapterWorkflowService.status missing (some id) s.story = .ok .completed) :
    s.Accepted n := by
  obtain ⟨run, hrow, hchapter⟩ := hrun
  simp only [ChapterWorkflowService.status, Option.bind_some, Option.mem_def.mp hrow] at hstatus
  split at hstatus
  · exact absurd hstatus (by simp)
  · exact ((hs.coherent.runs id run hrow).2.2 (Except.ok.inj hstatus)).chapter hchapter

/-- A step of a graph that saves no checkpoint begins no run. -/
theorem runId_of_unsaved {services : StoryServices} {story : StoryDatabase}
    {graph : GraphExecution} {input : NodeInput} {result : WorkflowSystem.StepResult} {p n r : ℕ}
    (hgraph : graph.Of story p n)
    (h : WorkflowSystem.advance services graph input story = some result)
    (hunsaved : result.checkpoint = none) (hr : result.graph.runId = some r) :
    graph.runId = some r := by
  cases hid : graph.runId with
  | some id =>
      simp only [GraphExecution.Of, hid] at hgraph
      obtain ⟨run, hrun, -⟩ := hgraph
      have hlt := (List.getElem?_eq_some_iff.mp hrun).1
      exact (advance_statuses h hid hlt).runId.symm.trans hr
  | none =>
      rcases WorkflowSystem.advance_spec_of_none h hid with ⟨hnone, -⟩ | ⟨⟨hphase, rfl⟩, -⟩
      · exact absurd (hnone.symm.trans hr) (by simp)
      · simp only [WorkflowSystem.advance, hphase, WorkflowSystem.enter, Option.some.injEq] at h
        subst h
        unfold WorkflowSystem.beginRun at hunsaved hr
        cases hbegun : ChapterWorkflowService.initializeWorkflow graph.state graph.runId story with
        | ok begun =>
            rw [hbegun] at hunsaved
            exact absurd hunsaved (by simp)
        | error error =>
            rw [hbegun] at hr
            exact hid.symm.trans hr

/-- The graph of a chapter in progress. -/
theorem Progress.graph (hs : s.Progress) {task : ChapterTask} {graph : GraphExecution}
    (hphase : s.phase = .executing task graph) :
    graph.Of s.story s.run.projectId task.chapterNumber ∧ ∀ id ∈ graph.runId, s.Saved id := by
  have hinProgress := hs.inProgress
  rw [InProgress, hphase] at hinProgress
  exact hinProgress

/-- A checkpoint stays one of its chapter when the graph of a chapter saves one. -/
theorem saved_advanced {task : ChapterTask} {result : WorkflowSystem.StepResult} {id : ℕ}
    (hresult : WorkflowSystem.Keeps s.story s.run.projectId task.chapterNumber result)
    (hsaved : s.Saved id) : (s.advanced task result).Saved id := by
  have hkept : ∀ checkpoint ∈ s.checkpoints id, ∃ chapterNumber,
      checkpoint.Of result.db id s.run.projectId chapterNumber := by
    intro checkpoint hcheckpoint
    obtain ⟨n, hof⟩ := hsaved checkpoint hcheckpoint
    exact ⟨n, hof.carried hresult.succeeds.toCarries⟩
  intro checkpoint hcheckpoint
  cases hr : result.graph.runId with
  | none =>
      simp only [BookExecution.advanced, hr] at hcheckpoint
      exact hkept checkpoint hcheckpoint
  | some r =>
      cases hnew : result.checkpoint with
      | none =>
          simp only [BookExecution.advanced, hr, hnew] at hcheckpoint
          exact hkept checkpoint hcheckpoint
      | some new =>
          simp only [BookExecution.advanced, hr, hnew, Function.update_apply] at hcheckpoint
          split at hcheckpoint
          · rename_i heq
            obtain rfl := Option.some.inj hcheckpoint
            exact ⟨task.chapterNumber, heq ▸ hresult.checkpoint new hnew r hr⟩
          · exact hkept checkpoint hcheckpoint

/-- A checkpoint that the graph of a chapter saves is one of the chapter. -/
theorem saved_of_checkpoint {task : ChapterTask} {result : WorkflowSystem.StepResult} {id : ℕ}
    {new : Checkpoint}
    (hresult : WorkflowSystem.Keeps s.story s.run.projectId task.chapterNumber result)
    (hr : result.graph.runId = some id) (hnew : result.checkpoint = some new) :
    (s.advanced task result).Saved id := by
  intro checkpoint hcheckpoint
  simp only [BookExecution.advanced, hr, hnew, Function.update_self] at hcheckpoint
  obtain rfl := Option.some.inj hcheckpoint
  exact ⟨task.chapterNumber, hresult.checkpoint new hnew id hr⟩

/-- A step of the graph of a chapter. -/
theorem Progress.advanced (hs : s.Progress) {task : ChapterTask} {graph : GraphExecution}
    {input : NodeInput} {result : WorkflowSystem.StepResult}
    (hphase : s.phase = .executing task graph)
    (h : WorkflowSystem.advance settings.services graph input s.story = some result) :
    (s.advanced task result).Progress ∧
      ∀ id ∈ result.graph.runId, (s.advanced task result).Saved id := by
  obtain ⟨hgraph, hsaved⟩ := hs.graph hphase
  have hresult := WorkflowSystem.advance_keeps hs.coherent hgraph h
  have hsaved' : ∀ id ∈ result.graph.runId, (s.advanced task result).Saved id := by
    intro id hid
    cases hnew : result.checkpoint with
    | some new => exact saved_of_checkpoint hresult hid hnew
    | none => exact saved_advanced hresult (hsaved id (runId_of_unsaved hgraph h hnew hid))
  refine ⟨hs.keep hresult.succeeds rfl (fun n hn => .inl hn) rfl rfl (fun id hid => ?_)
    ⟨hresult.graph, hsaved'⟩, hsaved'⟩
  exact saved_advanced hresult (hs.saved id hid)

/-- The workflow run that the graph of a chapter begins is linked. -/
theorem Progress.linked (hs : s.Progress) {task : ChapterTask} {graph : GraphExecution}
    {input : NodeInput} {result : WorkflowSystem.StepResult} {id : ℕ}
    (hphase : s.phase = .executing task graph)
    (h : WorkflowSystem.advance settings.services graph input s.story = some result)
    (hbegun : WorkflowJobSystem.begun graph input result = some id) :
    ((s.advanced task result).link id).Progress := by
  obtain ⟨hadvanced, hsaved⟩ := hs.advanced hphase h
  have hid : result.graph.runId = some id := by
    unfold WorkflowJobSystem.begun at hbegun
    split at hbegun
    · exact hbegun
    · exact absurd hbegun (by simp)
  refine hadvanced.keep (.refl hadvanced.coherent) rfl (fun n hn => .inl hn) rfl rfl ?_
    hadvanced.inProgress
  intro other hother
  obtain rfl := Option.some.inj hother
  exact hsaved id hid

/-- The graph of a chapter returns the status of a run of the chapter. -/
theorem Progress.returned (hs : s.Progress) {task : ChapterTask} {graph : GraphExecution} {id : ℕ}
    {status : WorkflowRunStatus} (hphase : s.phase = .executing task graph)
    (hended : graph.phase = .ended (.ok status)) (hid : graph.runId = some id) :
    (s.goto (.recording task id status)).Progress := by
  have hgraph := (hs.graph hphase).1
  simp only [GraphExecution.Of, hid, hended] at hgraph
  obtain ⟨run, hrun, hchapter, -, haccepted⟩ := hgraph
  exact hs.move rfl rfl ⟨rfl, rfl, rfl, rfl⟩ rfl
    ⟨⟨run, hrun, hchapter⟩, fun hstatus => (haccepted hstatus).chapter hchapter⟩

/-- A completed workflow run of the chapter is found. -/
theorem Progress.found (hs : s.Progress) {chapterNumber id : ℕ} {status : WorkflowRunStatus}
    {missing : Error} (hrun : s.story.RunOf s.run.projectId chapterNumber id)
    (hstatus : ChapterWorkflowService.status missing (some id) s.story = .ok status) :
    (s.goto (.recording ⟨chapterNumber, none⟩ id status)).Progress := by
  refine hs.move rfl rfl ⟨rfl, rfl, rfl, rfl⟩ rfl ⟨hrun, ?_⟩
  rintro rfl
  exact accepted_of_status hs hrun hstatus

/-- The completion of a chapter is recorded with its workflow run. -/
theorem Progress.recorded (hs : s.Progress) {task : ChapterTask} {id childId : ℕ}
    {status : WorkflowRunStatus} {children : List BookChildJob}
    (hphase : s.phase = .recording task id status)
    (hchild : childJob task.chapterNumber id status s.run.projectId s.story s.children =
      .ok (childId, children)) :
    Progress { s with
      run := recordCompletion settings task.chapterNumber childId status s.run
      topWorkflow := if s.run.jobId.isSome then none else s.topWorkflow
      children
      phase := .accounting task id status } := by
  have hinProgress := hs.inProgress
  rw [InProgress, hphase] at hinProgress
  obtain ⟨hrun, haccepted⟩ := hinProgress
  obtain ⟨child, hrow, hnumber, hchildren⟩ := childJob_eq_ok hchild
  exact {
    coherent := hs.coherent
    accepted := by
      intro n hn
      simp only [recordCompletion, Dict.lookup_set] at hn
      split at hn
      · rename_i heq
        split at hn
        · rename_i hstatus
          exact heq ▸ haccepted hstatus
        · exact absurd hn (by simp)
      · exact hs.accepted n hn
    children := by
      intro other hother
      rcases hchildren with rfl | ⟨rfl, hworkflow, hchapter⟩
      · exact ⟨(hs.children other hother).chapter, (hs.children other hother).workflow⟩
      · rcases List.mem_append.mp hother with hold | hnew
        · exact ⟨(hs.children other hold).chapter, (hs.children other hold).workflow⟩
        · obtain rfl := List.mem_singleton.mp hnew
          refine ⟨hnumber ▸ hchapter, ?_⟩
          rw [hnumber, hworkflow]
          exact hrun.iff
    jobs := by
      intro n jobId hn
      simp only [recordCompletion, Dict.lookup_set] at hn
      split at hn
      · rename_i heq
        obtain rfl := Option.some.inj hn
        exact ⟨child, hrow, hnumber.trans heq.symm⟩
      · obtain ⟨old, hold, hold'⟩ := hs.jobs n jobId hn
        refine ⟨old, ?_, hold'⟩
        rcases hchildren with rfl | ⟨rfl, -⟩
        · exact hold
        · exact (List.getElem?_append_left (List.getElem?_eq_some_iff.mp hold).1).trans hold
    saved := fun other hother => absurd hother (by simp [recordCompletion])
    inProgress := trivial }

/-- **The step rule**: a transaction that meets the condition keeps the progress true. -/
theorem Progress.step (hs : s.Progress) {input : BookInput} (hlinked : s.Linked (.step input))
    (h : step settings s input = some s') : s'.Progress := by
  have hlinkedFor {n : ℕ} (hphase : s.phase = .finding n) (hinput : input = .proceed) :
      s.LinkedFor n := by
    subst hinput
    exact hlinked n (by rw [hphase]; rfl)
  cases step_cases h with
  | plain run phase snapshots critiques hrun hphase _ =>
      exact hs.move rfl rfl (.of_lasting hrun) rfl (inProgress_of_plain hphase)
  | judged verdict hphase _ => exact hs.move rfl rfl ⟨rfl, rfl, rfl, rfl⟩ rfl trivial
  | criticized totalTokens estimatedCost verdict hphase =>
      exact hs.move rfl rfl ⟨rfl, rfl, rfl, rfl⟩ rfl trivial
  | synced hphase => exact hs.synced
  | resuming hphase _ => exact hs.move rfl rfl ⟨rfl, rfl, rfl, rfl⟩ rfl trivial
  | gated hphase _ => exact hs.move rfl rfl ⟨rfl, rfl, rfl, rfl⟩ rfl trivial
  | approached hphase => exact hs.move rfl rfl ⟨rfl, rfl, rfl, rfl⟩ rfl trivial
  | marked hphase => exact hs.marked _
  | began hphase hcurrent hproject hchapter =>
      exact hs.move rfl rfl ⟨rfl, rfl, rfl, rfl⟩ rfl (inProgress_start rfl hproject hchapter)
  | resumed hphase hcurrent hresume hcheckpoint =>
      exact hs.resumed (hlinkedFor hphase rfl) hcurrent hresume hcheckpoint
  | found hphase hcurrent hstatus =>
      refine hs.found (runOf_of_linkedFor (hlinkedFor hphase rfl) hcurrent ?_) hstatus
      unfold BookExecution.step at h
      rw [hphase] at h
      exact takenOver_of_findWorkflow h hcurrent rfl
  | revising hphase hrevision hproject hchapter =>
      exact hs.move rfl rfl ⟨rfl, rfl, rfl, rfl⟩ rfl (inProgress_start rfl hproject hchapter)
  | advanced hphase hadvance hbegun => exact (hs.advanced hphase hadvance).1
  | linked hphase hadvance hbegun => exact hs.linked hphase hadvance hbegun
  | returned hphase hended hid => exact hs.returned hphase hended hid
  | recorded hphase hchild => exact hs.recorded hphase hchild
  | accounted phase hphase hnext _ =>
      refine hs.move rfl rfl ⟨rfl, rfl, rfl, rfl⟩ rfl ?_
      rcases hnext with hplain | ⟨next, request, -, rfl, hproject, hchapter⟩
      · exact inProgress_of_plain hplain
      · exact inProgress_start rfl hproject hchapter

/-- **The step rule of the machine**: what every step keeps under the condition. -/
theorem progress_next {a : BookAction} (hs : s.Progress) (h : next settings s a = some s')
    (hlinked : s.Linked a) (hrelies : s.Relies a) : s'.Progress := by
  cases a with
  | start =>
      rw [next] at h
      split at h
      · exact absurd h (by simp)
      · obtain rfl := Option.some.inj h
        exact hs.move rfl rfl ⟨rfl, rfl, rfl, rfl⟩ rfl trivial
  | step input => exact hs.step hlinked h
  | crash =>
      rw [next] at h
      split at h
      · obtain rfl := Option.some.inj h
        exact hs.move rfl rfl ⟨rfl, rfl, rfl, rfl⟩ rfl trivial
      · exact absurd h (by simp)
  | call purpose totalTokens estimatedCost =>
      rw [next, BookExecution.call] at h
      split at h
      · obtain rfl := Option.some.inj h
        exact hs.move rfl rfl ⟨rfl, rfl, rfl, rfl⟩ rfl hs.inProgress
      · exact absurd h (by simp)
  | otherCall workflowRunId totalTokens estimatedCost =>
      rw [next] at h
      split at h
      · obtain rfl := Option.some.inj h
        exact hs.move rfl rfl ⟨rfl, rfl, rfl, rfl⟩ rfl hs.inProgress
      · exact absurd h (by simp)
  | resume request =>
      obtain rfl := Option.some.inj h
      exact hs.change fun run hrun => BookRunService.resumeRun_sameChapters hrun
  | requestCancel =>
      obtain rfl := Option.some.inj h
      exact hs.change fun run hrun => .of_lasting (BookRunService.requestCancelRun_lasting hrun)
  | confirmCancel =>
      obtain rfl := Option.some.inj h
      exact hs.change fun run hrun => .of_lasting (BookRunService.confirmCancelRun_lasting hrun)
  | markPaused =>
      obtain rfl := Option.some.inj h
      exact hs.change fun run hrun => .of_lasting (BookRunService.markPaused_lasting hrun)
  | otherCode story =>
      rw [next] at h
      split at h
      · obtain rfl := Option.some.inj h
        have hstory : Succeeds s.story story := hrelies
        refine hs.keep hstory rfl (fun n hn => .inl hn) rfl rfl (fun id hid => ?_) ?_
        · exact (hs.saved id hid).carried hstory.toCarries rfl rfl
        · exact hs.inProgress.carried hstory.toCarries rfl rfl rfl
      · exact absurd h (by simp)

/-- A book run that was just created has recorded nothing. -/
theorem progress_fresh (h : (storyMachine settings).init s) : s.Progress := by
  obtain ⟨hfresh, hstory⟩ := h
  refine ⟨hstory, fun n hn => ?_, ?_, fun n childId hn => ?_, ?_, ?_⟩
  · obtain ⟨before, after, hmap, -⟩ := List.lookup_eq_some_iff.mp hn
    have hplanned := hfresh.planned (n, .accepted) (by rw [hmap]; simp)
    exact absurd hplanned (by simp)
  · rw [hfresh.children]
    simp
  · rw [hfresh.jobs] at hn
    exact absurd hn (by simp)
  · rw [hfresh.workflow]
    simp
  · exact inProgress_of_plain (hfresh.phase ▸ trivial)

end Invariant

/-! ### The progress over a run -/

/-- **The progress of a book run**: under the condition, what it records is true. -/
theorem truthful_of_reachable (settings : BookWorkflowSettings) {s : BookExecution}
    (hs : (storyMachine settings).ReachableUnder (fun s a => s.Linked a ∧ s.Relies a) s) :
    s.Truthful := by
  have hprogress : s.Progress := hs.invariant (I := Progress) (fun _ h => progress_fresh h)
    fun _ _ _ _ h hguard hnext => progress_next h hnext hguard.1 hguard.2
  exact hprogress.truthful

/-- The small book has a story whose pointers are in order. -/
theorem init_sample (totalChapters : ℕ) :
    (storyMachine sampleSettings).init (sample totalChapters) := by
  refine ⟨fresh_sample totalChapters, fun id chapter hchapter => ?_, fun id run hrun => ?_,
    fun id version hversion => ?_⟩
  · obtain ⟨i, -, rfl⟩ := List.mem_map.mp (List.mem_of_getElem? hchapter)
    exact StoryDatabase.hasVersion_none id
  · exact absurd hrun (by simp [sample, sampleStory, WorkflowSystem.sampleDatabase])
  · exact absurd hversion (by simp [sample, sampleStory, WorkflowSystem.sampleDatabase])

/-- An execution crashes between the acceptance of the first chapter and its recording; the next
one marks it as accepted, goes on with the second chapter, finds the workflow run of the first one
linked, and records it as the completion of the second. -/
theorem untruthful_after_crash :
    ¬ ∀ (settings : BookWorkflowSettings) (s : BookExecution),
      (storyMachine settings).ReachableUnder Relies s → s.Truthful := by
  intro htruthful
  obtain ⟨s, hs, hmark, hchapter, -⟩ :=
    (storyMachine sampleSettings).exists_reachableUnder (fun _ a => Alone a = true)
      (untilChapter ++ drafting ++ accepting ++ [.crash, .start] ++ proceeds 9)
      (fun s => s.run.chapterStatusMap.lookup 2 = some .accepted ∧
        ¬ s.story.AcceptedChapter s.run.projectId 2 ∧
        s.run.chapterJobMap.lookup 2 = some 0 ∧
        s.children.map (fun child => (child.chapterNumber, child.workflowRunId)) = [(2, 0)] ∧
        s.story.RunOf s.run.projectId 1 0)
      (s := sample 2) (init_sample 2) (by decide +kernel)
  have hreachable : (storyMachine sampleSettings).ReachableUnder Relies s :=
    hs.mono fun _ _ => relies_of_alone
  exact hchapter ((htruthful _ s hreachable).accepted 2 hmark)

/-- A chapter that is accepted and recorded without a crash. -/
theorem truthful_recorded :
    ∃ s : BookExecution, (storyMachine sampleSettings).ReachableUnder
        (fun s a => s.Linked a ∧ s.Relies a) s ∧
      (s.run.chapterStatusMap.lookup 1 = some .accepted ∧
        s.run.chapterJobMap.lookup 1 = some 0) ∧ s.Truthful := by
  obtain ⟨s, hs, hstate⟩ :=
    (storyMachine sampleSettings).exists_reachableUnder
      (fun s a => s.Linked a ∧ Alone a = true)
      (untilChapter ++ drafting ++ accepting ++ proceeds 2)
      (fun s => s.run.chapterStatusMap.lookup 1 = some .accepted ∧
        s.run.chapterJobMap.lookup 1 = some 0)
      (s := sample 2) (init_sample 2) (by decide +kernel)
  have hreachable : (storyMachine sampleSettings).ReachableUnder
      (fun s a => s.Linked a ∧ s.Relies a) s :=
    hs.mono fun _ _ hguard => ⟨hguard.1, relies_of_alone hguard.2⟩
  exact ⟨s, hreachable, hstate, truthful_of_reachable sampleSettings hreachable⟩

end BookExecution

end StoryForge
