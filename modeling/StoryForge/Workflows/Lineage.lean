import StoryForge.Workflows.Pointers

/-!
# The chapter of a graph

A graph of the chapter workflow works on one chapter: its run is a run of that chapter, and the
versions that its state and its checkpoints name are versions of it. Every step of a graph keeps
this and the pointers of the tables, so a run that is completed has accepted a version of the
chapter that it was started for.

## Main results

* `ChapterWorkflowService.actionStep_stays` — the transactions of the nodes;
* `WorkflowSystem.initializeWorkflow_keeps` — a run begins for the chapter that the state names;
* `WorkflowSystem.advance_keeps` — **one step of a graph** keeps it with its chapter.
-/

namespace StoryForge

open ChapterVersionService (WrittenBy draftKey revisionKey)
open StoryDatabase

section Lineage

variable {db db' : StoryDatabase} {r v : ℕ} {run : StoryRun}

/-! ### Nodes -/

/-- A state of the graph for a chapter: the versions that it goes on with are versions of it. -/
structure ChapterWorkflowState.Of (db : StoryDatabase) (projectId chapterNumber chapterId : ℕ)
    (state : ChapterWorkflowState) : Prop where
  project : state.projectId = projectId
  number : state.chapterNumber = chapterNumber
  current : db.HasVersion chapterId state.currentVersionId
  best : db.HasVersion chapterId state.bestVersionId

/-- What a node remembers is of the chapter. -/
def Stage.Of (db : StoryDatabase) (chapterId : ℕ) : Stage → Prop
  | .revising sourceVersionId _ => db.HasVersion chapterId (some sourceVersionId)
  | _ => True

/-- What a step of a node ends with is of the chapter. -/
def ActionResult.Of (db : StoryDatabase) (projectId chapterNumber chapterId : ℕ) :
    ActionResult → Prop
  | .next stage => stage.Of db chapterId
  | .done state => state.Of db projectId chapterNumber chapterId
  | .raised _ => True

theorem ChapterWorkflowState.Of.carried {projectId chapterNumber chapterId : ℕ}
    {state : ChapterWorkflowState} (h : state.Of db projectId chapterNumber chapterId)
    (hcarries : Carries db db') : state.Of db' projectId chapterNumber chapterId :=
  ⟨h.project, h.number, hcarries.hasVersion h.current, hcarries.hasVersion h.best⟩

theorem Stage.Of.carried {chapterId : ℕ} {stage : Stage} (h : stage.Of db chapterId)
    (hcarries : Carries db db') : stage.Of db' chapterId := by
  cases stage with
  | revising sourceVersionId attempt => exact hcarries.hasVersion h
  | _ => trivial

namespace ChapterWorkflowService

variable {services : StoryServices} {state : ChapterWorkflowState} {node : WorkflowNode}
  {stage : Stage} {input : NodeInput} {written : ActionResult × StoryDatabase} {p n c : ℕ}

/-- What a step of a node writes and ends with. -/
def Stays (db : StoryDatabase) (p n c : ℕ) (written : ActionResult × StoryDatabase) : Prop :=
  Succeeds db written.2 ∧ written.1.Of written.2 p n c

theorem stays_commit (hdb : db.Coherent) {outcome : Except Error (ActionResult × StoryDatabase)}
    (h : ∀ written, outcome = .ok written → Stays db p n c written) :
    Stays db p n c (commit db outcome) := by
  cases outcome with
  | error error => exact ⟨.refl hdb, trivial⟩
  | ok written => exact h written rfl

theorem stays_reading (hdb : db.Coherent) {read : Except Error ActionResult}
    (h : ∀ result, read = .ok result → result.Of db p n c) :
    Stays db p n c (reading db read) := by
  refine stays_commit hdb fun written hok => ?_
  obtain ⟨result, hread, rfl⟩ := Except.map_eq_ok.mp hok
  exact ⟨.refl hdb, h result hread⟩

theorem stays_once (hdb : db.Coherent) {outcome : Except Error (ActionResult × StoryDatabase)}
    (h : once db stage input outcome = some written)
    (houtcome : ∀ written, outcome = .ok written → Stays db p n c written) :
    Stays db p n c written := by
  rw [once_eq_some h]
  exact stays_commit hdb houtcome

/-- The version written, or found, under a key of the run. -/
theorem hasVersion_of_versionOf (hsucceeds : Succeeds db db') (hrun : db.runs[r]? = some run)
    {key : String} (hwritten : WrittenBy r key) (h : versionOf db' key = .ok v) :
    db'.HasVersion run.chapterId (some v) := by
  obtain ⟨run', hrun', heq⟩ := hsucceeds.runs r run hrun
  unfold versionOf at h
  split at h
  · rename_i id hid
    obtain rfl := Except.ok.inj h
    exact heq ▸ hsucceeds.coherent.hasVersion_of_key hrun' hwritten hid
  · exact absurd h (by simp)

/-- The state after a draft. -/
theorem drafted_of (hstate : state.Of db p n c) (hcarries : Carries db db')
    (hversion : db'.HasVersion c (some v)) : (drafted state v).Of db' p n c :=
  ⟨hstate.project, hstate.number, hversion,
    (hcarries.hasVersion hstate.best).or hversion⟩

theorem generateDraft_stays (hdb : db.Coherent) (hrun : db.runs[r]? = some run)
    (hchapter : db.chapterByNumber p n = some run.chapterId)
    (hstate : state.Of db p n run.chapterId)
    (h : generateDraft state r stage input db = some written) :
    Stays db p n run.chapterId written := by
  unfold generateDraft at h
  split at h
  · obtain rfl := Option.some.inj h
    refine stays_reading hdb fun result hread => ?_
    obtain ⟨-, -, hread⟩ := Except.bind_eq_ok.mp hread
    obtain ⟨reusable, hreusable, hread⟩ := Except.bind_eq_ok.mp hread
    rw [hstate.project, hstate.number] at hreusable
    unfold ChapterVersionService.reusableVersion at hreusable
    split at hreusable
    · exact absurd hreusable (by simp)
    · rename_i chapterId chapter hfound
      obtain ⟨hid, hrow⟩ := chapter_of_findChapter hfound
      obtain rfl := Option.some.inj (hchapter.symm.trans hid)
      cases reusable with
      | none =>
          obtain rfl := Except.ok.inj hread
          trivial
      | some id =>
          obtain rfl := Except.ok.inj hread
          refine drafted_of hstate (Succeeds.refl hdb).toCarries ?_
          rcases Option.or_eq_some_iff.mp (Except.ok.inj hreusable) with hkey | ⟨-, hcurrent⟩
          · exact hdb.hasVersion_of_key hrun (.inl rfl) hkey
          · rw [← (Option.filter_eq_some_iff.mp hcurrent).1]
            exact hdb.chapters _ chapter hrow
  · obtain rfl := Option.some.inj h
    refine stays_commit hdb fun written hok => ?_
    obtain ⟨db', hdb', hok⟩ := Except.bind_eq_ok.mp hok
    obtain ⟨id, hid, hok⟩ := Except.bind_eq_ok.mp hok
    obtain rfl := Except.ok.inj hok
    rw [hstate.project, hstate.number] at hdb'
    have hsucceeds := ChapterVersionService.ensureInitialVersion_succeeds hdb hrun hchapter hdb'
    exact ⟨hsucceeds, drafted_of hstate hsucceeds.toCarries
      (hasVersion_of_versionOf hsucceeds hrun (.inl rfl) hid)⟩
  · exact absurd h (by simp)

/-- The state after a revision. -/
theorem revised_of (hstate : state.Of db p n c) (hcarries : Carries db db') (source attempt : ℕ)
    (hversion : db'.HasVersion c (some v)) : (revised state source v attempt).Of db' p n c :=
  ⟨hstate.project, hstate.number, hversion, hcarries.hasVersion hstate.best⟩

theorem reviseDraft_stays (hdb : db.Coherent) (hrun : db.runs[r]? = some run)
    (hstate : state.Of db p n run.chapterId) (hstage : stage.Of db run.chapterId)
    (h : reviseDraft state r stage input db = some written) :
    Stays db p n run.chapterId written := by
  unfold reviseDraft at h
  split at h
  · obtain rfl := Option.some.inj h
    refine stays_reading hdb fun result hread => ?_
    obtain ⟨attempt, -, hread⟩ := Except.bind_eq_ok.mp hread
    obtain ⟨source, hsource, hread⟩ := Except.bind_eq_ok.mp hread
    obtain ⟨-, -, hread⟩ := Except.bind_eq_ok.mp hread
    obtain ⟨due, -, hread⟩ := Except.bind_eq_ok.mp hread
    cases due with
    | true =>
        obtain rfl := Except.ok.inj hread
        have hcurrent := hstate.current
        rw [requiredId_eq_ok.mp hsource] at hcurrent
        exact hcurrent
    | false =>
        obtain ⟨id, hid, hread⟩ := Except.bind_eq_ok.mp hread
        obtain rfl := Except.ok.inj hread
        exact revised_of hstate (Succeeds.refl hdb).toCarries source attempt
          (hasVersion_of_versionOf (.refl hdb) hrun (.inr ⟨attempt, rfl⟩) hid)
  · rename_i source attempt draft
    obtain rfl := Option.some.inj h
    refine stays_commit hdb fun written hok => ?_
    obtain ⟨db', hdb', hok⟩ := Except.bind_eq_ok.mp hok
    obtain ⟨id, hid, hok⟩ := Except.bind_eq_ok.mp hok
    obtain rfl := Except.ok.inj hok
    have hsucceeds := ChapterVersionService.revise_succeeds hdb hrun hstage hdb'
    exact ⟨hsucceeds, revised_of hstate hsucceeds.toCarries source attempt
      (hasVersion_of_versionOf hsucceeds hrun (.inr ⟨attempt, rfl⟩) hid)⟩
  · exact absurd h (by simp)

theorem extractFacts_stays (hdb : db.Coherent) (hstate : state.Of db p n c)
    (h : extractFacts services state r stage input db = some written) :
    Stays db p n c written := by
  unfold extractFacts at h
  split at h
  · obtain rfl := Option.some.inj h
    refine stays_reading hdb fun result hread => ?_
    obtain ⟨versionId, -, hread⟩ := Except.bind_eq_ok.mp hread
    obtain ⟨due, -, hread⟩ := Except.bind_eq_ok.mp hread
    cases due with
    | true =>
        obtain rfl := Except.ok.inj hread
        trivial
    | false =>
        obtain rfl := Except.ok.inj hread
        exact hstate
  · obtain rfl := Option.some.inj h
    refine stays_commit hdb fun written hok => ?_
    obtain ⟨db', hdb', hok⟩ := Except.bind_eq_ok.mp hok
    obtain rfl := Except.ok.inj hok
    have hsucceeds := ChapterVersionService.extractCandidateFacts_succeeds hdb hdb'
    exact ⟨hsucceeds, hstate.carried hsucceeds.toCarries⟩
  · exact absurd h (by simp)

/-- A transaction that saves an attempt, and what follows it. -/
theorem saved_stays (hdb : db.Coherent) {loaded : LoadedEvaluation}
    {saves : Except Error StoryDatabase} {after : StoryDatabase → Except Error ActionResult}
    (hsaves : ∀ db', saves = .ok db' → Succeeds db db')
    (hafter : ∀ db' result, after db' = .ok result → result.Of db' p n c) :
    Stays db p n c (saved loaded db saves after) := by
  unfold saved
  split
  · rename_i db'
    have hsucceeds := hsaves db' rfl
    split
    · rename_i result hresult
      exact ⟨hsucceeds, hafter db' result hresult⟩
    · exact ⟨hsucceeds, trivial⟩
  · split <;> exact ⟨.refl hdb, trivial⟩

theorem evaluateNode_stays (hdb : db.Coherent) (hrun : db.runs[r]? = some run)
    (hstate : state.Of db p n run.chapterId)
    (h : evaluateNode state r node stage input db = some written) :
    Stays db p n run.chapterId written := by
  unfold evaluateNode at h
  split at h
  · obtain rfl := Option.some.inj h
    refine stays_reading hdb fun result hread => ?_
    obtain ⟨versionId, -, hread⟩ := Except.bind_eq_ok.mp hread
    dsimp only at hread
    split at hread
    · obtain rfl := Except.ok.inj hread
      trivial
    · obtain ⟨loaded, -, hread⟩ := Except.bind_eq_ok.mp hread
      obtain rfl := Except.ok.inj hread
      trivial
  · obtain rfl := Option.some.inj h
    refine stays_commit hdb fun written hok => ?_
    obtain ⟨db', hdb', hok⟩ := Except.bind_eq_ok.mp hok
    obtain rfl := Except.ok.inj hok
    exact ⟨EvaluationService.markEvaluating_succeeds hdb hdb', trivial⟩
  · obtain rfl := Option.some.inj h
    refine saved_stays hdb (fun _ => EvaluationService.persistComplete_succeeds hdb) ?_
    intro db' result hresult
    obtain ⟨evaluation, -, hresult⟩ := Except.bind_eq_ok.mp hresult
    obtain rfl := Except.ok.inj hresult
    trivial
  · obtain rfl := Option.some.inj h
    refine saved_stays hdb (fun _ => EvaluationService.persistPartial_succeeds hdb) ?_
    intro db' result hresult
    obtain rfl := Except.ok.inj hresult
    trivial
  · obtain rfl := Option.some.inj h
    exact ⟨.refl hdb, trivial⟩
  · obtain rfl := Option.some.inj h
    exact ⟨EvaluationService.markFailed_succeeds hdb, trivial⟩
  · obtain rfl := Option.some.inj h
    refine stays_commit hdb fun written hok => ?_
    obtain ⟨versionId, hversion, hok⟩ := Except.bind_eq_ok.mp hok
    obtain rfl := Except.ok.inj hok
    have hcurrent : db.HasVersion run.chapterId (some versionId) :=
      requiredId_eq_ok.mp hversion ▸ hstate.current
    have hsucceeds := recordEvaluation_succeeds hdb hrun hcurrent
    obtain ⟨hproject, hnumber, hcurrent', hbest⟩ := hstate.carried hsucceeds.toCarries
    exact ⟨hsucceeds, hproject, hnumber, hcurrent', hbest⟩
  · exact absurd h (by simp)

theorem compareVersions_stays (hdb : db.Coherent) (hrun : db.runs[r]? = some run)
    (hstate : state.Of db p n run.chapterId)
    (h : compareVersions services state r db = .ok written) :
    Stays db p n run.chapterId written := by
  obtain ⟨result, db'⟩ := written
  obtain ⟨base, current, -, hcurrent, hdb', rfl⟩ := compareVersions_done h
  have hsucceeds :=
    ChapterVersionService.compareVersions_succeeds hdb hrun (hcurrent ▸ hstate.current) hdb'
  obtain ⟨hproject, hnumber, hcurrent', -⟩ := hstate.carried hsucceeds.toCarries
  refine ⟨hsucceeds, hproject, hnumber, hcurrent', ?_⟩
  obtain ⟨run', hrun', heq⟩ := hsucceeds.runs r run hrun
  simp only [hrun']
  exact heq ▸ (hsucceeds.coherent.runs r run' hrun').2.1

theorem rejectRevision_stays (hdb : db.Coherent) (hrun : db.runs[r]? = some run)
    (hstate : state.Of db p n run.chapterId)
    (h : rejectRevision state r db = .ok written) : Stays db p n run.chapterId written := by
  obtain ⟨current, hcurrent, h⟩ := Except.bind_eq_ok.mp h
  obtain ⟨best, hbest, h⟩ := Except.bind_eq_ok.mp h
  obtain ⟨db', hdb', h⟩ := Except.bind_eq_ok.mp h
  obtain rfl := Except.ok.inj h
  have hcurrent : db.HasVersion run.chapterId (some current) :=
    requiredId_eq_ok.mp hcurrent ▸ hstate.current
  have hbest : db.HasVersion run.chapterId (some best) :=
    requiredId_eq_ok.mp hbest ▸ hstate.best
  have hsucceeds : Succeeds db db' := by
    unfold rejectUnlessBest at hdb'
    split at hdb'
    · obtain rfl := Except.ok.inj hdb'
      exact .refl hdb
    · exact ChapterVersionService.rejectRevision_succeeds hdb hrun hcurrent hdb'
  refine ⟨hsucceeds, ?_⟩
  dsimp only
  unfold rejectionResult
  split
  · obtain ⟨hproject, hnumber, -, hbest'⟩ := hstate.carried hsucceeds.toCarries
    refine ⟨hproject, hnumber, ?_, hbest'⟩
    obtain ⟨run', hrun', heq⟩ := hsucceeds.runs r run hrun
    unfold currentAfter
    split
    · exact hsucceeds.hasVersion hbest
    · rw [hrun', Option.bind_some]
      have hafter := (hsucceeds.coherent.runs r run' hrun').1
      cases hid : run'.currentVersionId with
      | none => exact hsucceeds.hasVersion hbest
      | some id => exact heq ▸ hid ▸ hafter
  · trivial

theorem acceptVersion_stays (hdb : db.Coherent) (hrun : db.runs[r]? = some run)
    (hstate : state.Of db p n run.chapterId)
    (h : acceptVersion state r db = .ok written) : Stays db p n run.chapterId written := by
  obtain ⟨current, hcurrent, h⟩ := Except.bind_eq_ok.mp h
  obtain ⟨db', hdb', h⟩ := Except.bind_eq_ok.mp h
  obtain rfl := Except.ok.inj h
  have hcurrent : db.HasVersion run.chapterId (some current) :=
    requiredId_eq_ok.mp hcurrent ▸ hstate.current
  have hsucceeds := ChapterVersionService.acceptVersion_succeeds hdb hrun hcurrent hdb'
  obtain ⟨hproject, hnumber, hcurrent', -⟩ := hstate.carried hsucceeds.toCarries
  exact ⟨hsucceeds, hproject, hnumber, hcurrent', hsucceeds.hasVersion hcurrent⟩

theorem markNeedsHumanReview_stays (hdb : db.Coherent) (hrun : db.runs[r]? = some run)
    (hstate : state.Of db p n run.chapterId)
    (h : markNeedsHumanReview state r db = .ok written) :
    Stays db p n run.chapterId written := by
  obtain ⟨db', hdb', h⟩ := Except.bind_eq_ok.mp h
  obtain rfl := Except.ok.inj h
  have hsucceeds := ChapterVersionService.markNeedsReview_succeeds hdb hrun hdb'
  have hbest := hsucceeds.hasVersion (hdb.runs r run hrun).2.1
  rw [← show db.runs[r]?.bind (·.bestVersionId) = run.bestVersionId by rw [hrun]; rfl] at hbest
  exact ⟨hsucceeds, hstate.project, hstate.number, hbest, hbest⟩

/-- **A transaction of a node** keeps the pointers in order and the state with its chapter. -/
theorem actionStep_stays (hdb : db.Coherent) (hrun : db.runs[r]? = some run)
    (hchapter : db.chapterByNumber p n = some run.chapterId)
    (hstate : state.Of db p n run.chapterId) (hstage : stage.Of db run.chapterId)
    (h : actionStep services state r node stage input db = some written) :
    Stays db p n run.chapterId written := by
  cases node with
  | initializeWorkflow | failWorkflow => exact absurd h (by simp [actionStep])
  | loadContext =>
      refine stays_once hdb h fun written hok => ?_
      obtain ⟨_, -, rfl⟩ := Except.map_eq_ok.mp hok
      exact ⟨.refl hdb, hstate⟩
  | decideAfterEvaluation | decideAfterComparison =>
      refine stays_once hdb h fun written hok => ?_
      obtain ⟨_, -, rfl⟩ := Except.map_eq_ok.mp hok
      exact ⟨.refl hdb, hstate.project, hstate.number, hstate.current, hstate.best⟩
  | generateDraft => exact generateDraft_stays hdb hrun hchapter hstate h
  | extractFacts | extractRevisionFacts => exact extractFacts_stays hdb hstate h
  | evaluateDraft | evaluateRevision => exact evaluateNode_stays hdb hrun hstate h
  | buildRevisionBrief =>
      refine stays_once hdb h fun written hok => ?_
      obtain ⟨result, hresult, rfl⟩ := Except.map_eq_ok.mp hok
      obtain ⟨source, hsource, rfl⟩ := buildRevisionBrief_eq_ok hresult
      exact ⟨.refl hdb, hstate.project, hstate.number,
        hsource ▸ hstate.best.or hstate.current, hstate.best⟩
  | reviseDraft => exact reviseDraft_stays hdb hrun hstate hstage h
  | compareVersions => exact stays_once hdb h fun _ => compareVersions_stays hdb hrun hstate
  | rejectRevision => exact stays_once hdb h fun _ => rejectRevision_stays hdb hrun hstate
  | acceptVersion => exact stays_once hdb h fun _ => acceptVersion_stays hdb hrun hstate
  | markNeedsHumanReview =>
      exact stays_once hdb h fun _ => markNeedsHumanReview_stays hdb hrun hstate

end ChapterWorkflowService

/-! ### Graphs -/

/-- A phase of a graph for a chapter. -/
def GraphPhase.Of (db : StoryDatabase) (projectId chapterNumber chapterId : ℕ) :
    GraphPhase → Prop
  | .acting _ stage => stage.Of db chapterId
  | .leaving _ state => state.Of db projectId chapterNumber chapterId
  | .ended (.ok status) => status = .completed → db.HasAccepted chapterId
  | _ => True

/-- A phase of a graph that has no run. -/
def GraphPhase.Unbegun : GraphPhase → Prop
  | .entering node => node = .initializeWorkflow
  | .acting _ _ | .leaving _ _ | .ended (.ok _) => False
  | _ => True

/-- A graph works on a chapter of a project: its run is one of the chapter, and what it goes on
with is of the chapter. Before it has a run, it knows no version. -/
def GraphExecution.Of (db : StoryDatabase) (projectId chapterNumber : ℕ) (g : GraphExecution) :
    Prop :=
  match g.runId with
  | none => g.state.projectId = projectId ∧ g.state.chapterNumber = chapterNumber ∧
      g.state.currentVersionId = none ∧ g.state.bestVersionId = none ∧ g.phase.Unbegun
  | some r => ∃ run : StoryRun, db.runs[r]? = some run ∧
      db.chapterByNumber projectId chapterNumber = some run.chapterId ∧
        g.state.Of db projectId chapterNumber run.chapterId ∧
          g.phase.Of db projectId chapterNumber run.chapterId

/-- A checkpoint of a run for a chapter. -/
def Checkpoint.Of (db : StoryDatabase) (r projectId chapterNumber : ℕ) (checkpoint : Checkpoint) :
    Prop :=
  ∃ run : StoryRun, db.runs[r]? = some run ∧
    db.chapterByNumber projectId chapterNumber = some run.chapterId ∧
      checkpoint.state.Of db projectId chapterNumber run.chapterId

theorem GraphPhase.Of.carried {p n c : ℕ} {phase : GraphPhase} (h : phase.Of db p n c)
    (hcarries : Carries db db') : phase.Of db' p n c := by
  cases phase with
  | acting node stage => exact Stage.Of.carried h hcarries
  | leaving node state => exact ChapterWorkflowState.Of.carried h hcarries
  | ended result =>
      cases result with
      | ok status => exact fun hstatus => hcarries.hasAccepted (h hstatus)
      | error error => trivial
  | _ => trivial

theorem GraphExecution.Of.carried {p n : ℕ} {g : GraphExecution} (h : g.Of db p n)
    (hcarries : Carries db db') : g.Of db' p n := by
  unfold GraphExecution.Of at h ⊢
  split
  · rename_i hnone
    simpa only [hnone] using h
  · rename_i r hr
    simp only [hr] at h
    obtain ⟨run, hrun, hchapter, hstate, hphase⟩ := h
    obtain ⟨run', hrun', heq⟩ := hcarries.runs r run hrun
    rw [← heq] at hchapter hstate hphase
    exact ⟨run', hrun', hcarries.chapterByNumber hchapter, hstate.carried hcarries,
      hphase.carried hcarries⟩

theorem Checkpoint.Of.carried {p n : ℕ} {checkpoint : Checkpoint} (h : checkpoint.Of db r p n)
    (hcarries : Carries db db') : checkpoint.Of db' r p n := by
  obtain ⟨run, hrun, hchapter, hstate⟩ := h
  obtain ⟨run', hrun', heq⟩ := hcarries.runs r run hrun
  rw [← heq] at hchapter hstate
  exact ⟨run', hrun', hcarries.chapterByNumber hchapter, hstate.carried hcarries⟩

namespace WorkflowSystem

open GraphExecution ChapterWorkflowService

variable {services : StoryServices} {g : GraphExecution} {input : NodeInput}
  {result : StepResult} {p n : ℕ}

/-- What one step of a graph keeps. -/
structure Keeps (db : StoryDatabase) (p n : ℕ) (result : StepResult) : Prop where
  succeeds : Succeeds db result.db
  graph : result.graph.Of result.db p n
  checkpoint : ∀ checkpoint ∈ result.checkpoint, ∀ r ∈ result.graph.runId,
    checkpoint.Of result.db r p n

/-- A graph with a run of the chapter. -/
theorem of_row {g : GraphExecution} (hr : g.runId = some r) (hrun : db.runs[r]? = some run)
    (hchapter : db.chapterByNumber p n = some run.chapterId)
    (hstate : g.state.Of db p n run.chapterId) (hphase : g.phase.Of db p n run.chapterId) :
    g.Of db p n := by
  unfold GraphExecution.Of
  simp only [hr]
  exact ⟨run, hrun, hchapter, hstate, hphase⟩

/-- The run of a graph that is past its beginning. -/
theorem exists_row (h : g.Of db p n) (hbegun : ¬ g.phase.Unbegun) :
    ∃ (r : ℕ) (run : StoryRun), g.runId = some r ∧ db.runs[r]? = some run ∧
      db.chapterByNumber p n = some run.chapterId ∧ g.state.Of db p n run.chapterId ∧
        g.phase.Of db p n run.chapterId := by
  unfold GraphExecution.Of at h
  split at h
  · exact absurd h.2.2.2.2 hbegun
  · rename_i r hr
    obtain ⟨run, hrun⟩ := h
    exact ⟨r, run, hr, hrun⟩

/-- A graph that goes on with the same run and state. -/
theorem moved_of {g' : GraphExecution} (h : g.Of db p n) (hrun : g'.runId = g.runId)
    (hstate : g'.state = g.state) (hphase : ∀ c, g.state.Of db p n c → g'.phase.Of db p n c)
    (hunbegun : g.runId = none → g'.phase.Unbegun) : g'.Of db p n := by
  unfold GraphExecution.Of at h ⊢
  rw [hrun, hstate]
  split
  · rename_i hnone
    simp only [hnone] at h
    exact ⟨h.1, h.2.1, h.2.2.1, h.2.2.2.1, hunbegun hnone⟩
  · rename_i r hr
    simp only [hr] at h
    obtain ⟨run, hrow, hchapter, hstate', -⟩ := h
    exact ⟨run, hrow, hchapter, hstate', hphase _ hstate'⟩

theorem raise_of (h : g.Of db p n) (error : Error) : (g.raise error).Of db p n := by
  have hphase : (∀ c, (g.raise error).phase.Of db p n c) ∧ (g.raise error).phase.Unbegun := by
    unfold GraphExecution.raise
    dsimp only
    split
    · exact ⟨fun _ => trivial, trivial⟩
    · split
      · exact ⟨fun _ => trivial, trivial⟩
      · split <;> exact ⟨fun _ => trivial, trivial⟩
  exact moved_of h rfl rfl (fun c _ => hphase.1 c) fun _ => hphase.2

theorem stop_of (h : g.Of db p n) (error : Error) : (g.stop error).Of db p n :=
  moved_of h rfl rfl (fun _ _ => trivial) fun _ => trivial

/-- A step that writes nothing. -/
theorem Keeps.quiet (hdb : db.Coherent) {g' : GraphExecution} (h : g'.Of db p n) :
    Keeps db p n ⟨g', db, none⟩ :=
  ⟨.refl hdb, h, fun _ hnone => absurd hnone (by simp)⟩

/-- A transaction, and how the graph goes on. -/
theorem Keeps.attempted (hdb : db.Coherent) {transaction : Except Error StoryDatabase}
    {after : GraphExecution} {recover : Error → GraphExecution}
    (hok : ∀ db', transaction = .ok db' → Succeeds db db') (hafter : after.Of db p n)
    (hrecover : ∀ error, (recover error).Of db p n) :
    Keeps db p n (attempt db transaction after recover) := by
  cases transaction with
  | ok db' =>
      have hsucceeds := hok db' rfl
      exact ⟨hsucceeds, hafter.carried hsucceeds.toCarries,
        fun _ hnone => absurd hnone (by simp [attempt])⟩
  | error error => exact .quiet hdb (hrecover error)

/-- A run that is there already goes on from its row. -/
theorem runState_of (hdb : db.Coherent) {state : ChapterWorkflowState}
    (hrun : db.runs[r]? = some run) (hchapter : db.chapterByNumber p n = some run.chapterId)
    (hproject : state.projectId = p) {chapter : StoryChapter}
    (hrow : db.chapters[run.chapterId]? = some chapter) :
    (runState run chapter.chapterNumber state).Of db p n run.chapterId :=
  ⟨hproject, (row_of_chapterByNumber hchapter hrow).2, (hdb.runs r run hrun).1,
    (hdb.runs r run hrun).2.1⟩

/-- **A run begins** for the chapter that the state names, or goes on. -/
theorem initializeWorkflow_keeps (hdb : db.Coherent) (hg : g.Of db p n)
    {state : ChapterWorkflowState}
    (h : initializeWorkflow g.state g.runId db = .ok (r, state, db')) :
    Succeeds db db' ∧ ∃ run : StoryRun, db'.runs[r]? = some run ∧
      db'.chapterByNumber p n = some run.chapterId ∧ g.state.Of db' p n run.chapterId ∧
        state.Of db' p n run.chapterId := by
  unfold initializeWorkflow at h
  unfold GraphExecution.Of at hg
  split at h
  · rename_i id run hfound
    obtain ⟨id', hid, hget⟩ := Option.bind_eq_some_iff.mp hfound
    obtain ⟨run', hrun', hpair⟩ := Option.map_eq_some_iff.mp hget
    obtain ⟨rfl, rfl⟩ := Prod.mk.inj hpair
    simp only [hid] at hg
    obtain ⟨run, hrun, hchapter, hstate, -⟩ := hg
    obtain rfl := Option.some.inj (hrun.symm.trans hrun')
    split at h
    · exact absurd h (by simp)
    · rename_i chapter hrow
      obtain ⟨rfl, rfl, rfl⟩ := Prod.mk.inj (Except.ok.inj h) |>.imp_right Prod.mk.inj
      exact ⟨.refl hdb, run, hrun, hchapter, hstate,
        runState_of hdb hrun hchapter hstate.project hrow⟩
  · rename_i hnone
    split at hg
    swap
    · rename_i id hid
      obtain ⟨run, hrun, -⟩ := hg
      rw [hid, Option.bind_some, hrun] at hnone
      exact absurd hnone (by simp)
    obtain ⟨hproject, hnumber, hcurrent, hbest, -⟩ := hg
    split at h
    · rename_i project chapterId chapter hrow hfound
      rw [hproject, hnumber] at hfound
      obtain ⟨hchapter, hrow⟩ := chapter_of_findChapter hfound
      split at h
      · exact absurd h (by simp)
      · obtain ⟨rfl, rfl, rfl⟩ := Prod.mk.inj (Except.ok.inj h) |>.imp_right Prod.mk.inj
        have hversion := hdb.chapters chapterId chapter hrow
        have hadded := hdb.addRun (newRun g.state.projectId chapterId chapter) hversion hversion
          (by simp [newRun])
        have hsucceeds : Succeeds db { db with
            runs := db.runs ++ [newRun g.state.projectId chapterId chapter]
            chapters := db.chapters.modify chapterId ({ · with status := .workflowRunning }) } :=
          hadded.trans (hadded.coherent.rewrite
            (hadded.coherent.modifyChapter fun _ => ⟨rfl, rfl, rfl, rfl⟩) (.refl sameVersion)
            (.refl hadded.coherent.sameRun))
        have hversion' := hsucceeds.hasVersion hversion
        refine ⟨hsucceeds, newRun g.state.projectId chapterId chapter, by simp,
          hsucceeds.chapterByNumber hchapter, ⟨hproject, hnumber, ?_, ?_⟩,
          ⟨hproject, (row_of_chapterByNumber hchapter hrow).2, hversion', hversion'⟩⟩
        · exact hcurrent ▸ hasVersion_none _
        · exact hbest ▸ hasVersion_none _
    · exact absurd h (by simp)

theorem beginRun_keeps (hdb : db.Coherent) (hg : g.Of db p n) :
    Keeps db p n (beginRun g db) := by
  unfold beginRun
  cases hinit : initializeWorkflow g.state g.runId db with
  | error error => exact .quiet hdb (raise_of hg error)
  | ok begun =>
      obtain ⟨r, state, db'⟩ := begun
      obtain ⟨hsucceeds, run, hrun, hchapter, hstate, hstate'⟩ :=
        initializeWorkflow_keeps hdb hg hinit
      refine ⟨hsucceeds, ⟨run, hrun, hchapter, hstate, hstate'⟩, ?_⟩
      intro checkpoint hcheckpoint other hother
      obtain rfl := Option.some.inj hcheckpoint
      obtain rfl := Option.some.inj hother
      exact ⟨run, hrun, hchapter, hstate⟩

/-- The start of a node. -/
theorem enter_keeps (hdb : db.Coherent) (hg : g.Of db p n) {node : WorkflowNode}
    (hphase : g.phase = .entering node) (h : enter g node input db = some result) :
    Keeps db p n result := by
  have hbegun : node ≠ .initializeWorkflow → g.runId ≠ none := by
    intro hnode hnone
    unfold GraphExecution.Of at hg
    simp only [hnone, hphase] at hg
    exact hnode hg.2.2.2.2
  unfold enter at h
  split at h
  · obtain rfl := Option.some.inj h
    exact beginRun_keeps hdb hg
  · obtain rfl := Option.some.inj h
    exact .quiet hdb (raise_of hg _)
  · exact absurd h (by simp)
  · obtain rfl := Option.some.inj h
    refine .attempted hdb (fun _ => markFailed_succeeds hdb) ?_ (raise_of hg)
    exact moved_of hg rfl rfl (fun _ hstate => hstate) fun hnone =>
      absurd hnone (hbegun (by simp))
  · obtain rfl := Option.some.inj h
    exact .quiet hdb (raise_of hg _)
  · exact absurd h (by simp)
  · rename_i hnode _
    obtain ⟨r, hr, rfl⟩ := Option.map_eq_some_iff.mp h
    refine .attempted hdb (fun _ => nodeStarted_succeeds hdb) ?_ (raise_of hg)
    exact moved_of hg rfl rfl (fun _ _ => trivial) fun hnone =>
      absurd (hr.symm.trans hnone) (by simp)
  · obtain rfl := Option.some.inj h
    exact .quiet hdb (moved_of hg rfl rfl (fun _ _ => trivial) fun _ => trivial)
  · obtain rfl := Option.some.inj h
    exact .quiet hdb (moved_of hg rfl rfl (fun _ _ => trivial) fun _ => trivial)
  · obtain rfl := Option.some.inj h
    exact .quiet hdb (raise_of hg _)
  · exact absurd h (by simp)

/-- A step inside a node. -/
theorem act_keeps (hdb : db.Coherent) (hg : g.Of db p n) {node : WorkflowNode} {stage : Stage}
    (hphase : g.phase = .acting node stage) (h : act services g node stage input db = some result) :
    Keeps db p n result := by
  unfold act at h
  split at h
  · obtain rfl := Option.some.inj h
    exact .quiet hdb (raise_of hg _)
  · obtain ⟨r, hr, h⟩ := Option.bind_eq_some_iff.mp h
    obtain ⟨written, hwritten, rfl⟩ := Option.map_eq_some_iff.mp h
    obtain ⟨r', run, hr', hrun, hchapter, hstate, hstage⟩ := exists_row hg (by simp [hphase,
      GraphPhase.Unbegun])
    obtain rfl := Option.some.inj (hr.symm.trans hr')
    rw [hphase] at hstage
    obtain ⟨hsucceeds, hresult⟩ := actionStep_stays hdb hrun hchapter hstate hstage hwritten
    refine ⟨hsucceeds, ?_, fun _ hnone => absurd hnone (by simp)⟩
    obtain ⟨run', hrun', heq⟩ := hsucceeds.runs r run hrun
    rw [← heq] at hchapter hstate hresult
    have hchapter' := hsucceeds.chapterByNumber hchapter
    have hstate' := hstate.carried hsucceeds.toCarries
    obtain ⟨action, db'⟩ := written
    cases action with
    | next stage' => exact of_row hr hrun' hchapter' hstate' hresult
    | done state' => exact of_row hr hrun' hchapter' hstate' hresult
    | raised error => exact raise_of (hg.carried hsucceeds.toCarries) error

/-- The end of a node, or of the graph. -/
theorem leave_keeps (hdb : db.Coherent) (hg : g.Of db p n) {node : WorkflowNode}
    {state : ChapterWorkflowState} (hphase : g.phase = .leaving node state) :
    Keeps db p n ⟨(g.leave node state).1, db, (g.leave node state).2⟩ := by
  obtain ⟨r, run, hr, hrun, hchapter, -, hstate⟩ := exists_row hg (by simp [hphase,
    GraphPhase.Unbegun])
  rw [hphase] at hstate
  unfold GraphExecution.leave
  split
  · exact .quiet hdb (raise_of hg _)
  · refine ⟨.refl hdb, of_row hr hrun hchapter hstate ?_, ?_⟩
    · dsimp only
      split
      · trivial
      · split <;> trivial
    · intro checkpoint hcheckpoint other hother
      obtain rfl := Option.some.inj hcheckpoint
      obtain rfl := Option.some.inj (hr.symm.trans hother)
      exact ⟨run, hrun, hchapter, hstate⟩

/-- The status that is returned is that of the run, whose chapter has an accepted version when it
is completed. -/
theorem returned_of (hdb : db.Coherent) (hg : g.Of db p n) (missing : Error) :
    (g.goto (.ended (ChapterWorkflowService.status missing g.runId db))).Of db p n := by
  cases hr : g.runId with
  | none => exact moved_of hg rfl rfl (fun _ _ => trivial) fun _ => trivial
  | some r =>
      have hof := hg
      unfold GraphExecution.Of at hof
      simp only [hr] at hof
      obtain ⟨run, hrun, hchapter, hstate, -⟩ := hof
      refine of_row hr hrun hchapter hstate ?_
      simp only [GraphExecution.goto, ChapterWorkflowService.status, Option.bind_some, hrun]
      split
      · trivial
      · exact (hdb.runs r run hrun).2.2

theorem conclude_keeps (hdb : db.Coherent) (hg : g.Of db p n)
    (h : conclude g db = some result) : Keeps db p n result := by
  have hgoto : ∀ phase : GraphPhase, (∀ c, phase.Of db p n c) → phase.Unbegun →
      (g.goto phase).Of db p n := fun phase hphase hunbegun =>
    moved_of hg rfl rfl (fun c _ => hphase c) fun _ => hunbegun
  unfold conclude at h
  split at h
  · obtain rfl := Option.some.inj h
    exact .attempted hdb (fun _ => markPaused_succeeds hdb) (hgoto _ (fun _ => trivial) trivial)
      (raise_of hg)
  · obtain rfl := Option.some.inj h
    exact .attempted hdb (fun _ => markPaused_succeeds hdb) (hgoto _ (fun _ => trivial) trivial)
      (stop_of hg)
  · obtain rfl := Option.some.inj h
    exact .quiet hdb (stop_of hg _)
  · obtain rfl := Option.some.inj h
    exact .attempted hdb (fun _ => cancel_succeeds hdb) (hgoto _ (fun _ => trivial) trivial)
      (stop_of hg)
  · obtain rfl := Option.some.inj h
    exact .quiet hdb (stop_of hg _)
  · split at h
    · obtain rfl := Option.some.inj h
      exact .quiet hdb (hgoto _ (fun _ => trivial) trivial)
    · obtain rfl := Option.some.inj h
      exact .quiet hdb (hgoto _ (fun _ => trivial) trivial)
  · rename_i r _ hr
    obtain rfl := Option.some.inj h
    have hof := hg
    unfold GraphExecution.Of at hof
    simp only [hr] at hof
    obtain ⟨run, hrun, -⟩ := hof
    exact .attempted hdb (fun _ => ChapterVersionService.markNeedsReview_succeeds hdb hrun)
      (hgoto _ (fun _ => trivial) trivial) (stop_of hg)
  · obtain rfl := Option.some.inj h
    exact .quiet hdb (hgoto _ (fun _ => trivial) trivial)
  · obtain rfl := Option.some.inj h
    exact .attempted hdb (fun _ => markFailed_succeeds hdb) (stop_of hg _) (stop_of hg)
  · obtain rfl := Option.some.inj h
    exact .quiet hdb (returned_of hdb hg _)
  · exact absurd h (by simp)

/-- **One step of a graph** keeps the pointers in order and the graph with its chapter. -/
theorem advance_keeps (hdb : db.Coherent) (hg : g.Of db p n)
    (h : advance services g input db = some result) : Keeps db p n result := by
  unfold advance at h
  split at h
  · rename_i hphase
    exact enter_keeps hdb hg hphase h
  · rename_i hphase
    exact act_keeps hdb hg hphase h
  · rename_i hphase
    obtain rfl := Option.some.inj h
    exact leave_keeps hdb hg hphase
  · obtain rfl := Option.some.inj h
    exact .quiet hdb (raise_of hg _)
  · exact absurd h (by simp)
  · obtain rfl := Option.some.inj h
    exact .quiet hdb (raise_of hg _)
  · exact absurd h (by simp)
  · exact absurd h (by simp)
  · obtain rfl := Option.some.inj h
    exact .quiet hdb (stop_of hg _)
  · exact conclude_keeps hdb hg h
  · exact absurd h (by simp)

end WorkflowSystem

end Lineage

end StoryForge
