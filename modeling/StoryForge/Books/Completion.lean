import StoryForge.Books.System

/-!
# The end of a book run

A book run moves along its table, whoever moves it, and what is terminal stays. It is completed
in one place only: after the snapshot of a book whose evaluation has passed was accepted.

## Main results

* `BookExecution.leads_of_goesOn` — how the status of a book run changes over a run, and that
  nothing about a completed one changes;
* `BookExecution.certified_of_completed` — what has happened when a book run is completed.
-/

namespace StoryForge

/-! ### Statuses -/

/-- A legal way from a status to another. -/
def BookRunStatus.Leads : BookRunStatus → BookRunStatus → Prop :=
  Relation.ReflTransGen fun status target => target ∈ status.allowed

/-- A legal way that does not complete the book run. -/
def BookRunStatus.Drifts : BookRunStatus → BookRunStatus → Prop :=
  Relation.ReflTransGen fun status target => target ∈ status.allowed ∧ target ≠ .completed

theorem BookRunStatus.Drifts.leads {status target : BookRunStatus} (h : status.Drifts target) :
    status.Leads target := by
  induction h with
  | refl => exact .refl
  | tail _ hstep ih => exact ih.tail hstep.1

/-- A status without exits is the last one. -/
theorem BookRunStatus.Leads.eq_of_terminal {status target : BookRunStatus}
    (h : status.Leads target) (hterminal : status ∈ terminalBookRunStatuses) :
    target = status := by
  induction h with
  | refl => rfl
  | tail _ hstep ih =>
      subst ih
      have hactive := BookRunStatus.active_of_mem_allowed hstep
      exact absurd hterminal ((BookRunStatus.active_or_terminal _).mp hactive)

theorem BookRunStatus.Drifts.ne_completed {status target : BookRunStatus}
    (h : status.Drifts target) (hne : status ≠ .completed) : target ≠ .completed := by
  induction h with
  | refl => exact hne
  | tail _ hstep => exact hstep.2

/-- What every write to a book run but the completing one does. -/
structure BookRun.Drifts (run run' : BookRun) : Prop where
  status : run.status.Drifts run'.status
  totalChapters : run'.totalChapters = run.totalChapters
  projectId : run'.projectId = run.projectId

namespace BookRun.Drifts

variable {run run' run'' : BookRun}

theorem refl (run : BookRun) : run.Drifts run := ⟨.refl, rfl, rfl⟩

theorem trans (h : run.Drifts run') (h' : run'.Drifts run'') : run.Drifts run'' :=
  ⟨Relation.ReflTransGen.trans h.status h'.status, h'.totalChapters.trans h.totalChapters,
    h'.projectId.trans h.projectId⟩

/-- A write to other columns. -/
theorem of_status_eq (hstatus : run'.status = run.status)
    (htotal : run'.totalChapters = run.totalChapters) (hproject : run'.projectId = run.projectId) :
    run.Drifts run' :=
  ⟨by rw [hstatus]; exact .refl, htotal, hproject⟩

theorem of_transition {target : BookRunStatus} (hne : target ≠ .completed)
    (h : transitionBookRun run target = .ok run') : run.Drifts run' := by
  obtain ⟨rfl, heq | hallowed⟩ := transitionBookRun_eq_ok.mp h
  · exact of_status_eq heq rfl rfl
  · exact ⟨.single ⟨hallowed, hne⟩, rfl, rfl⟩

/-- A transition, and what is written after it. -/
theorem of_bind {target : BookRunStatus} {write : BookRun → Except Error BookRun}
    (hne : target ≠ .completed) (h : (transitionBookRun run target >>= write) = .ok run')
    (hwrite : ∀ moved, write moved = .ok run' → moved.Drifts run') : run.Drifts run' := by
  obtain ⟨moved, hmoved, hrun⟩ := Except.bind_eq_ok.mp h
  exact (of_transition hne hmoved).trans (hwrite moved hrun)

/-- A transition, and a write to other columns. -/
theorem of_bind_pure {target : BookRunStatus} {write : BookRun → BookRun}
    (hne : target ≠ .completed)
    (h : (transitionBookRun run target >>= fun moved => pure (write moved)) = .ok run')
    (hwrite : ∀ moved : BookRun, moved.Drifts (write moved)) : run.Drifts run' :=
  of_bind hne h fun moved hmoved => Except.ok.inj hmoved ▸ hwrite moved

end BookRun.Drifts

/-! ### Writes to the book run -/

namespace BookWorkflowApplicationService

variable {run run' : BookRun}

theorem initializeRun_drifts {chapterNumbers : List ℕ}
    (h : initializeRun chapterNumbers run = .ok run') : run.Drifts run' := by
  rw [initializeRun] at h
  split at h
  · refine .of_bind (by decide) h fun first h => ?_
    obtain ⟨_, -, h⟩ := Except.bind_eq_ok.mp h
    have hnode : first.Drifts (node "initialize_book_run" first) := .of_status_eq rfl rfl rfl
    exact hnode.trans (.of_bind_pure (by decide) h fun _ => .of_status_eq rfl rfl rfl)
  · obtain ⟨_, -, h⟩ := Except.bind_eq_ok.mp h
    exact .of_bind_pure (by decide) h fun _ => .of_status_eq rfl rfl rfl
  · exact .of_transition (by split <;> decide) h
  · exact .of_transition (by split <;> decide) h
  · exact Except.ok.inj h ▸ .refl run
  · exact Except.ok.inj h ▸ .refl run
  · exact absurd h (by simp)

/-- A terminal book run is not executed. -/
theorem initializeRun_ne_ok {chapterNumbers : List ℕ} (hstatus : run.status = .completed) :
    initializeRun chapterNumbers run ≠ .ok run' := by
  rw [initializeRun, hstatus]
  exact nofun

theorem blockBudget_drifts (h : blockBudget run = .ok run') : run.Drifts run' :=
  .of_bind_pure (by decide) h fun _ => .of_status_eq rfl rfl rfl

theorem setGlobalReview_drifts (h : setGlobalReview run = .ok run') : run.Drifts run' := by
  rw [setGlobalReview] at h
  split at h
  · exact .of_bind_pure (by decide) h fun _ => .of_status_eq rfl rfl rfl
  · exact Except.ok.inj h ▸ .of_status_eq rfl rfl rfl

theorem recordPeriodicCheck_drifts {critical : Bool}
    (h : recordPeriodicCheck critical run = .ok run') : run.Drifts run' := by
  have hnode : run.Drifts (node "periodic_global_check" run) := .of_status_eq rfl rfl rfl
  rw [recordPeriodicCheck] at h
  split at h
  · exact hnode.trans (.of_bind_pure (by decide) h fun _ => .of_status_eq rfl rfl rfl)
  · exact Except.ok.inj h ▸ hnode

theorem routeReview_drifts {verdict : BookVerdict} {revised : Bool}
    (h : routeReview verdict run = .ok (revised, run')) : run.Drifts run' := by
  rw [routeReview] at h
  split at h
  · obtain ⟨moved, hmoved, h⟩ := Except.bind_eq_ok.mp h
    obtain ⟨-, rfl⟩ := Prod.mk.inj (Except.ok.inj h)
    exact .trans (.of_transition (by decide) hmoved) (.of_status_eq rfl rfl rfl)
  · obtain ⟨moved, hmoved, h⟩ := Except.bind_eq_ok.mp h
    obtain ⟨-, rfl⟩ := Prod.mk.inj (Except.ok.inj h)
    exact .trans (.of_transition (by decide) hmoved) (.of_status_eq rfl rfl rfl)

theorem finishNeedsReview_drifts {blockers : List String}
    (h : finishNeedsReview blockers run = .ok run') : run.Drifts run' := by
  rw [finishNeedsReview] at h
  split at h
  · exact Except.ok.inj h ▸ .of_status_eq rfl rfl rfl
  · exact .of_bind_pure (by decide) h fun _ => .of_status_eq rfl rfl rfl

/-- The write that completes a book run. -/
theorem finishCompleted_eq_ok (h : finishCompleted run = .ok run') :
    run' = { run with
      status := .completed
      currentNode := "accept_book_snapshot"
      progress := 100
      blockingReasons := [] } ∧ run.status.Leads .completed := by
  obtain ⟨moved, hmoved, h⟩ := Except.bind_eq_ok.mp h
  obtain ⟨rfl, hstatus⟩ := transitionBookRun_eq_ok.mp hmoved
  refine ⟨(Except.ok.inj h).symm, ?_⟩
  rcases hstatus with heq | hallowed
  · rw [← heq]
    exact .refl
  · exact .single hallowed

end BookWorkflowApplicationService

namespace BookRunService

variable {run run' : BookRun}

theorem markPaused_drifts (h : markPaused run = .ok run') : run.Drifts run' := by
  rw [markPaused] at h
  split at h
  · exact Except.ok.inj h ▸ .refl run
  · exact .of_transition (by decide) h

theorem markCancelled_drifts (h : markCancelled run = .ok run') : run.Drifts run' := by
  rw [markCancelled] at h
  split at h
  · exact Except.ok.inj h ▸ .refl run
  · split at h
    · exact .of_transition (by decide) h
    · exact .of_bind (by decide) h fun _ h => .of_transition (by decide) h

theorem markFailed_drifts {code message : String} (h : markFailed code message run = .ok run') :
    run.Drifts run' := by
  rw [markFailed] at h
  split at h
  · exact Except.ok.inj h ▸ .refl run
  · exact .of_bind_pure (by decide) h fun _ => .of_status_eq rfl rfl rfl

theorem requestCancelRun_drifts (h : requestCancelRun run = .ok run') : run.Drifts run' := by
  rw [requestCancelRun] at h
  split at h
  · exact absurd h (by simp)
  · split at h
    · exact .of_transition (by decide) h
    · exact .of_transition (by decide) h

theorem confirmCancelRun_drifts (h : confirmCancelRun run = .ok run') : run.Drifts run' := by
  rw [confirmCancelRun] at h
  split at h
  · exact .of_transition (by decide) h
  · exact Except.ok.inj h ▸ .refl run

theorem resumeRun_drifts {request : Option BookRunResumeRequest}
    (h : resumeRun request run = .ok run') : run.Drifts run' := by
  have htarget : ∀ limited : BookRun, (if limited.currentNode = "pending" then
      BookRunStatus.planningValidation
    else if limited.completedChapters = limited.totalChapters then .globalReview
    else .generating) ≠ .completed := by
    intro limited
    split
    · decide
    · split <;> decide
  rw [resumeRun] at h
  split at h
  · exact absurd h (by simp)
  · split at h
    · exact absurd h (by simp)
    · cases request with
      | none => exact .of_transition (htarget run) h
      | some limits =>
          obtain ⟨limited, hlimited, h⟩ := Except.bind_eq_ok.mp h
          have hlimits : run.Drifts limited := by
            rw [(resumeLimits_eq_ok hlimited).1]
            exact .of_status_eq rfl rfl rfl
          exact hlimits.trans (.of_transition (htarget limited) h)

/-- A completed book run is left as it is. -/
theorem eq_of_completed (hstatus : run.status = .completed) :
    markPaused run = .ok run ∧ markCancelled run = .ok run ∧
      (∀ code message, markFailed code message run = .ok run) ∧
      confirmCancelRun run = .ok run ∧ (∃ e, requestCancelRun run = .error e) ∧
      ∀ request, ∃ e, resumeRun request run = .error e := by
  have hterminal : run.status ∈ terminalBookRunStatuses := by rw [hstatus]; decide
  refine ⟨if_pos (.inl hterminal), if_pos hterminal, fun _ _ => if_pos hterminal, ?_,
    ⟨_, if_pos hterminal⟩, fun request => ⟨_, if_pos ?_⟩⟩
  · rw [confirmCancelRun, if_neg]
    rw [hstatus]
    decide
  · rw [hstatus]
    decide

end BookRunService

/-! ### Snapshots -/

open BookWorkflowApplicationService

/-- A snapshot is the accepted one. -/
def IsAccepted (snapshots : List StoredSnapshot) (id : ℕ) : Prop :=
  (∃ snapshot, snapshots[id]? = some snapshot ∧ snapshot.status = .accepted) ∧
    ∀ (other : ℕ) (row : StoredSnapshot), snapshots[other]? = some row → row.status = .accepted →
      other = id

theorem isAccepted_of_acceptSnapshot {id : ℕ} {snapshots snapshots' : List StoredSnapshot}
    (h : acceptSnapshot id false snapshots = .ok snapshots') : IsAccepted snapshots' id := by
  rw [acceptSnapshot] at h
  split at h
  case isFalse => exact absurd h (by simp)
  case isTrue hlt =>
      obtain rfl := Except.ok.inj h
      constructor
      · rw [List.getElem?_modify_eq, List.getElem?_map, List.getElem?_eq_getElem hlt]
        exact ⟨_, rfl, rfl⟩
      · intro other row hrow haccepted
        by_contra hne
        rw [List.getElem?_modify_ne _ _ (Ne.symm hne), List.getElem?_map,
          Option.map_eq_some_iff] at hrow
        obtain ⟨old, -, rfl⟩ := hrow
        split at haccepted
        case isTrue => exact absurd haccepted (by simp)
        case isFalse hold => exact hold haccepted

/-- An acceptance keeps what the snapshots are of. -/
theorem map_acceptSnapshot {id : ℕ} {needsReview : Bool}
    {snapshots snapshots' : List StoredSnapshot}
    (h : acceptSnapshot id needsReview snapshots = .ok snapshots') :
    snapshots'.map (·.chapterVersionMap) = snapshots.map (·.chapterVersionMap) := by
  rw [acceptSnapshot] at h
  split at h
  case isFalse => exact absurd h (by simp)
  case isTrue =>
      split at h
      case isTrue =>
          obtain rfl := Except.ok.inj h
          refine Rows.map_modify ?_ _ _
          exact fun _ => rfl
      case isFalse =>
          obtain rfl := Except.ok.inj h
          refine (Rows.map_modify ?_ _ _).trans ?_
          · exact fun _ => rfl
          · rw [List.map_map]
            refine List.map_congr_left fun row _ => ?_
            rw [Function.comp_apply]
            split
            · rfl
            · rfl

/-- A new snapshot is of all chapters and of the versions they have accepted. -/
theorem mem_buildSnapshot {totalChapters projectId id : ℕ} {story : StoryDatabase}
    {snapshots snapshots' : List StoredSnapshot}
    (h : buildSnapshot totalChapters projectId story snapshots = .ok (id, snapshots'))
    {snapshot : StoredSnapshot} (hsnapshot : snapshot ∈ snapshots') :
    snapshot ∈ snapshots ∨ snapshot.chapterVersionMap.length = totalChapters ∧
      story.snapshotMap projectId = .ok snapshot.chapterVersionMap := by
  rw [buildSnapshot] at h
  split at h
  case isTrue => exact absurd h (by simp)
  case isFalse hlength =>
      obtain ⟨mapping, hmapping, h⟩ := Except.bind_eq_ok.mp h
      split at h
      case h_1 =>
          obtain ⟨-, rfl⟩ := Prod.mk.inj (Except.ok.inj h)
          exact .inl hsnapshot
      case h_2 =>
          obtain ⟨-, rfl⟩ := Prod.mk.inj (Except.ok.inj h)
          rcases List.mem_append.mp hsnapshot with hmem | hmem
          · exact .inl hmem
          · obtain rfl := List.mem_singleton.mp hmem
            refine .inr ⟨?_, hmapping⟩
            exact (Except.mapM_eq_ok.mp hmapping).length_eq.symm.trans (not_not.mp hlength)

/-! ### One step -/

namespace BookPhase

/-- The phases between a passed evaluation and the completion. -/
def Certifying : BookPhase → Prop
  | .persisting _ _ _ | .accepting _ .complete | .completing => True
  | _ => False

/-- The phases in which an execution may find a completed book run. -/
def Calm : BookPhase → Prop
  | .idle _ | .entering | .initializing | .stopping _ => True
  | _ => False

end BookPhase

/-- What an input says of the book. -/
def BookInput.verdicts : BookInput → List BookVerdict
  | .criticized _ _ verdict => [verdict]
  | .judged verdict => [verdict]
  | _ => []

/-- What an action says of the book. -/
def BookAction.verdicts : BookAction → List BookVerdict
  | .step input => input.verdicts
  | _ => []

namespace BookExecution

/-- What a step that says something of the book can do to the book run and to the snapshots. -/
inductive Shifts (verdicts : List BookVerdict) (s s' : BookExecution) : Prop
  /-- A transaction of an execution that neither judges the book nor accepts a snapshot. -/
  | drifted (hrun : s.run.Drifts s'.run) (hsnapshots : s'.snapshots = s.snapshots)
      (hphase : ¬s'.phase.Certifying)
      (hcalm : s.run.status = .completed → s.phase.Calm → s'.phase.Calm ∧ s'.run = s.run)
  /-- A transaction of somebody else. -/
  | outside (hrun : s.run.Drifts s'.run) (hsnapshots : s'.snapshots = s.snapshots)
      (hphase : s'.phase = s.phase) (hcompleted : s.run.status = .completed → s'.run = s.run)
  | froze {revised : Bool} {id : ℕ} (hphase : s.phase = .snapshotting revised)
      (hbuild : buildSnapshot s.run.totalChapters s.run.projectId s.story s.snapshots =
        .ok (id, s'.snapshots)) (hrun : s'.run = s.run) (hphase' : ¬s'.phase.Certifying)
  | judged {revised : Bool} {id : ℕ} {verdict : BookVerdict} (hphase : ¬s.phase.Calm)
      (hverdict : verdict ∈ verdicts) (hphase' : s'.phase = .persisting revised id verdict)
      (hrun : s'.run = s.run)
      (hsnapshots : s'.snapshots = s.snapshots)
  | passed {revised : Bool} {id : ℕ} {verdict : BookVerdict}
      (hphase : s.phase = .persisting revised id verdict) (hpassed : verdict.passed = true)
      (hphase' : s'.phase = .accepting id .complete) (hrun : s'.run = s.run)
      (hsnapshots : s'.snapshots = s.snapshots)
  | accepted {id : ℕ} {next : AfterSnapshot} (hphase : s.phase = .accepting id next)
      (haccept : acceptSnapshot id (decide (next ≠ .complete)) s.snapshots = .ok s'.snapshots)
      (hrun : s'.run = s.run)
      (hphase' : s'.phase.Certifying → next = .complete ∧ s'.phase = .completing)
  | completed (hphase : s.phase = .completing) (hfinish : finishCompleted s.run = .ok s'.run)
      (hsnapshots : s'.snapshots = s.snapshots) (hphase' : s'.phase.Calm)

section Cases

variable {settings : BookWorkflowSettings} {verdicts : List BookVerdict} {s s' : BookExecution}

/-- A change of the phase alone. -/
theorem Shifts.goto {phase : BookPhase} (hphase : ¬phase.Certifying)
    (hcalm : s.phase.Calm → phase.Calm) : Shifts verdicts s (s.goto phase) :=
  .drifted (.refl s.run) rfl hphase fun _ h => ⟨hcalm h, rfl⟩

/-- An exception. -/
theorem Shifts.raise (error : Error) : Shifts verdicts s (s.raise error) :=
  .goto id fun _ => trivial

/-- A transaction on the book run. -/
theorem Shifts.commit {result : Except Error BookRun} {phase : BookPhase}
    (hrun : ∀ run, result = .ok run → s.run.Drifts run) (hphase : ¬phase.Certifying)
    (hcalm : ∀ run, result = .ok run → s.run.status = .completed → ¬s.phase.Calm) :
    Shifts verdicts s (s.commit result phase) := by
  cases result with
  | ok run =>
      exact .drifted (hrun run rfl) rfl hphase fun hstatus h => absurd h (hcalm run rfl hstatus)
  | error error => exact .raise error

/-- A transaction after which `execute` returns. -/
theorem Shifts.finish {result : Except Error BookRun}
    (hrun : ∀ run, result = .ok run → s.run.Drifts run) (hcalm : ¬s.phase.Calm) :
    Shifts verdicts s (s.finish result) := by
  cases result with
  | ok run => exact .drifted (hrun run rfl) rfl id fun _ h => absurd h hcalm
  | error error => exact .raise error

/-- The control callback. -/
theorem Shifts.interrupt {input : BookInput} (h : s.interrupt input = some s') :
    Shifts verdicts s s' := by
  unfold BookExecution.interrupt at h
  split at h
  · cases h
    exact .goto id fun _ => trivial
  · cases h
    exact .goto id fun _ => trivial
  · exact absurd h (by simp)

/-- The call of `run` for a chapter. -/
theorem Shifts.startChapter (task : ChapterTask) (hcalm : ¬s.phase.Calm) :
    Shifts verdicts s (s.startChapter task) := by
  rcases startChapter_cases s task with ⟨request, -, -, heq⟩ | ⟨error, heq⟩
  · exact heq ▸ .goto id fun h => absurd h hcalm
  · exact heq ▸ .raise error

/-- The transactions between the mark of a chapter and its workflow. -/
theorem Shifts.findWorkflow {chapterNumber : ℕ} (hcalm : ¬s.phase.Calm)
    (h : s.findWorkflow chapterNumber = some s') : Shifts verdicts s s' := by
  unfold BookExecution.findWorkflow at h
  dsimp only at h
  split at h
  · cases h
    exact .startChapter _ hcalm
  · split at h
    · cases h
      exact .raise _
    · split at h
      · split at h
        · cases h
          exact .drifted (.refl s.run) rfl id fun _ h => absurd h hcalm
        · exact absurd h (by simp)
        · cases h
          exact .raise _
      · split at h
        · cases h
          exact .goto id fun h => absurd h hcalm
        · cases h
          exact .raise _

theorem not_certifying_afterChapter (chapterNumber : ℕ) (status : WorkflowRunStatus) :
    ¬(afterChapter settings chapterNumber status).Certifying := by
  unfold afterChapter
  split
  · exact id
  · exact id
  · split
    · exact id
    · exact id
  · exact id

theorem not_certifying_afterWorkflow (task : ChapterTask) (id : ℕ) (status : WorkflowRunStatus) :
    ¬(afterWorkflow settings task id status).Certifying := by
  unfold afterWorkflow
  split
  · split
    · exact not_certifying_afterChapter _ _
    · exact fun h => h
  · split
    · exact fun h => h
    · exact fun h => h

/-- A step of the chapter in progress. -/
theorem Shifts.executeChapter {task : ChapterTask} {graph : GraphExecution} {input : NodeInput}
    (hcalm : ¬s.phase.Calm) (h : executeChapter settings s task graph input = some s') :
    Shifts verdicts s s' := by
  unfold BookExecution.executeChapter at h
  split at h
  · cases h
    exact .goto (not_certifying_afterWorkflow _ _ _) fun h => absurd h hcalm
  · cases h
    exact .raise _
  · split at h
    · obtain ⟨result, -, hresult⟩ := Option.map_eq_some_iff.mp h
      split at hresult
      · subst hresult
        exact .drifted (.refl s.run) rfl id fun _ h => absurd h hcalm
      · subst hresult
        exact .drifted (.of_status_eq rfl rfl rfl) rfl id fun _ h => absurd h hcalm
    · exact absurd h (by simp)

/-- What an execution writes when it ends. -/
theorem Shifts.ended {run : BookRun} {result : Except Error BookRun} {outcome : Outcome}
    (hresult : result = .ok run) (hrun : s.run.Drifts run)
    (hcompleted : s.run.status = .completed → result = .ok s.run) :
    Shifts verdicts s { s with run, phase := .idle (some outcome) } :=
  .drifted hrun rfl id fun hstatus _ =>
    ⟨trivial, Except.ok.inj (hresult.symm.trans (hcompleted hstatus))⟩

/-- The end of an execution. -/
theorem Shifts.conclude (stop : BookStop) : Shifts verdicts s (s.conclude settings stop) := by
  unfold BookExecution.conclude
  cases stop with
  | paused =>
      dsimp only
      split
      case h_1 run hrun =>
          exact .ended hrun (BookRunService.markPaused_drifts hrun) fun hstatus =>
            (BookRunService.eq_of_completed hstatus).1
      case h_2 => exact .goto id fun _ => trivial
  | cancelled =>
      dsimp only
      split
      case h_1 run hrun =>
          exact .ended hrun (BookRunService.markCancelled_drifts hrun) fun hstatus =>
            (BookRunService.eq_of_completed hstatus).2.1
      case h_2 => exact .goto id fun _ => trivial
  | failed error =>
      dsimp only
      split
      case h_1 run hrun =>
          exact .ended hrun (BookRunService.markFailed_drifts hrun) fun hstatus =>
            (BookRunService.eq_of_completed hstatus).2.2.1 _ _
      case h_2 => exact .goto id fun _ => trivial

theorem not_certifying_decideNext : ¬(decideNext settings s).Certifying := by
  unfold decideNext
  split
  · exact id
  · split
    · exact id
    · split
      all_goals exact id

/-- The usage of a chapter is recorded. -/
theorem Shifts.account {task : ChapterTask} {id : ℕ} {status : WorkflowRunStatus}
    (hcalm : ¬s.phase.Calm) : Shifts verdicts s (s.account settings task id status) := by
  have hmoved (phase : BookPhase) (hphase : ¬phase.Certifying) :
      Shifts verdicts s { s with run := updateUsage id s.children s.calls s.run, phase } :=
    .drifted (.of_status_eq rfl rfl rfl) rfl hphase fun _ h => absurd h hcalm
  unfold BookExecution.account
  dsimp only
  split
  · unfold BookExecution.nextRevision
    split
    · exact hmoved _ fun h => h
    · rcases startChapter_cases { s with run := updateUsage id s.children s.calls s.run } _ with
        ⟨request, -, -, heq⟩ | ⟨error, heq⟩
      · exact heq ▸ hmoved _ fun h => h
      · exact heq ▸ hmoved _ fun h => h
  · exact hmoved _ (not_certifying_afterChapter _ _)

/-- The next targeted revision. -/
theorem Shifts.nextRevision (chapterNumbers : List ℕ) (hcalm : ¬s.phase.Calm) :
    Shifts verdicts s (s.nextRevision chapterNumbers) := by
  unfold BookExecution.nextRevision
  split
  · exact .goto id fun h => absurd h hcalm
  · exact .startChapter _ hcalm

/-- The evaluation of a snapshot. -/
theorem Shifts.persisted {revised : Bool} {id : ℕ} {verdict : BookVerdict}
    (hphase : s.phase = .persisting revised id verdict) :
    Shifts verdicts s (s.goto (afterAnalysis revised id verdict)) := by
  have hcalm : ¬s.phase.Calm := by
    rw [hphase]
    exact fun h => h
  unfold afterAnalysis
  split
  case isTrue hpassed => exact .passed hphase hpassed rfl rfl rfl
  case isFalse =>
      split
      · exact .goto (fun h => h) fun h => absurd h hcalm
      · exact .goto (fun h => h) fun h => absurd h hcalm

/-- The acceptance of a snapshot. -/
theorem Shifts.accept {id : ℕ} {next : AfterSnapshot} (hphase : s.phase = .accepting id next) :
    Shifts verdicts s (s.accept id next) := by
  unfold BookExecution.accept
  split
  case h_1 => exact .raise _
  case h_2 snapshots haccept =>
      refine .accepted hphase haccept rfl fun hcertifying => ?_
      cases next with
      | complete => exact ⟨rfl, rfl⟩
      | close blockers => exact hcertifying.elim
      | finish => exact hcertifying.elim

/-- **The step rule**: what a transaction of an execution does to the book run. -/
theorem step_shifts {input : BookInput} (h : step settings s input = some s') :
    Shifts input.verdicts s s' := by
  have hcalm {phase : BookPhase} (hphase : s.phase = phase) (hnot : ¬phase.Calm) :
      ¬s.phase.Calm := by
    rw [hphase]
    exact hnot
  unfold step at h
  split at h
  case h_1 => exact absurd h (by simp)
  case h_2 | h_3 | h_4 | h_5 =>
      cases h
      exact .goto id fun _ => trivial
  case h_6 task graph input hphase => exact .executeChapter (hcalm hphase id) h
  case h_7 => exact absurd h (by simp)
  case h_8 stop hphase =>
      cases h
      exact .conclude stop
  case h_9 =>
      cases h
      exact .goto id fun _ => trivial
  case h_10 =>
      cases h
      exact .drifted (.refl s.run) rfl id fun _ _ => ⟨trivial, rfl⟩
  case h_11 =>
      cases h
      exact .raise _
  case h_12 =>
      cases h
      exact .commit (fun _ => initializeRun_drifts) id fun run hrun hstatus =>
        absurd hrun (initializeRun_ne_ok hstatus)
  case h_13 hphase =>
      cases h
      exact .drifted (.of_status_eq rfl rfl rfl) rfl id fun _ h => absurd h (hcalm hphase id)
  case h_14 hphase =>
      cases h
      exact .goto not_certifying_decideNext fun h => absurd h (hcalm hphase id)
  case h_15 chapterNumber hphase =>
      cases h
      unfold BookExecution.gate
      split
      · exact .commit (fun _ => blockBudget_drifts) id fun _ _ _ => hcalm hphase id
      · exact .goto id fun h => absurd h (hcalm hphase id)
  case h_16 chapterNumber hphase =>
      cases h
      exact .goto id fun h => absurd h (hcalm hphase id)
  case h_17 => exact .interrupt h
  case h_18 chapterNumber hphase =>
      cases h
      exact .drifted (.of_status_eq rfl rfl rfl) rfl id fun _ h => absurd h (hcalm hphase id)
  case h_19 chapterNumber hphase => exact .findWorkflow (hcalm hphase id) h
  case h_20 task id status hphase =>
      cases h
      unfold record
      split
      · exact .raise _
      · exact .drifted (.of_status_eq rfl rfl rfl) rfl (fun h => h) fun _ h =>
          absurd h (hcalm hphase fun h => h)
  case h_21 task id status hphase =>
      cases h
      exact .account (hcalm hphase fun h => h)
  case h_22 critical hphase =>
      cases h
      refine .commit (fun _ => recordPeriodicCheck_drifts) ?_ fun _ _ _ => hcalm hphase id
      split
      · exact id
      · exact id
  case h_23 => exact .interrupt h
  case h_24 hphase =>
      cases h
      exact .commit (fun _ => setGlobalReview_drifts) id fun _ _ _ => hcalm hphase id
  case h_25 => exact .interrupt h
  case h_26 revised hphase =>
      cases h
      unfold snapshot
      split
      case h_1 => exact .raise _
      case h_2 hbuild => exact .froze hphase hbuild rfl id
  case h_27 revised snapshotId hphase =>
      unfold claimCritique at h
      dsimp only at h
      split at h
      · exact absurd h (by simp)
      · split at h
        · cases h
          exact .raise _
        · cases h
          exact .drifted (.refl s.run) rfl id fun _ h => absurd h (hcalm hphase id)
  case h_28 revised snapshotId verdict hphase =>
      split at h
      · cases h
        exact .judged (hcalm hphase id) (List.mem_singleton.mpr rfl) rfl rfl rfl
      · exact absurd h (by simp)
  case h_29 => exact .interrupt h
  case h_30 revised snapshotId key totalTokens estimatedCost verdict hphase =>
      cases h
      exact .judged (hcalm hphase id) (List.mem_singleton.mpr rfl) rfl rfl rfl
  case h_31 revised snapshotId verdict hphase =>
      cases h
      exact .persisted hphase
  case h_32 snapshotId next hphase =>
      cases h
      exact .accept hphase
  case h_33 hphase =>
      cases h
      unfold BookExecution.finish
      split
      case h_1 => exact .raise _
      case h_2 hfinish => exact .completed hphase hfinish rfl trivial
  case h_34 blockers hphase =>
      cases h
      exact .finish (fun _ => finishNeedsReview_drifts) (hcalm hphase id)
  case h_35 snapshotId verdict hphase =>
      cases h
      unfold route
      split
      case h_1 => exact .raise _
      case h_2 run hrun =>
          exact .drifted (routeReview_drifts hrun) rfl id fun _ h => absurd h (hcalm hphase id)
      case h_3 run hrun =>
          exact .drifted (routeReview_drifts hrun) rfl id fun _ h => absurd h (hcalm hphase id)
  case h_36 chapterNumbers hphase =>
      cases h
      exact .nextRevision chapterNumbers (hcalm hphase id)
  case h_37 hphase =>
      cases h
      exact .commit (fun _ => .of_transition (by decide)) id fun _ _ _ => hcalm hphase id
  case h_38 => exact absurd h (by simp)

/-- A transaction of a user on the book run. -/
theorem Shifts.change {result : Except Error BookRun}
    (hrun : ∀ run, result = .ok run → s.run.Drifts run)
    (hcompleted : s.run.status = .completed → ∀ run, result = .ok run → run = s.run) :
    Shifts verdicts s (s.change result) := by
  cases result with
  | ok run => exact .outside (hrun run rfl) rfl rfl fun hstatus => hcompleted hstatus run rfl
  | error error => exact .outside (.refl s.run) rfl rfl fun _ => rfl

theorem next_shifts {action : BookAction} (h : next settings s action = some s') :
    Shifts action.verdicts s s' := by
  cases action with
  | start =>
      simp only [next] at h
      split at h
      · exact absurd h (by simp)
      · cases h
        exact .drifted (.refl s.run) rfl id fun _ _ => ⟨trivial, rfl⟩
  | step input => exact step_shifts h
  | crash =>
      simp only [next] at h
      split at h
      · cases h
        exact .goto id fun _ => trivial
      · exact absurd h (by simp)
  | call purpose totalTokens estimatedCost =>
      simp only [next, BookExecution.call] at h
      split at h
      · cases h
        exact .outside (.refl s.run) rfl rfl fun _ => rfl
      · exact absurd h (by simp)
  | otherCall workflowRunId totalTokens estimatedCost =>
      simp only [next] at h
      split at h
      · cases h
        exact .outside (.refl s.run) rfl rfl fun _ => rfl
      · exact absurd h (by simp)
  | resume request =>
      cases h
      refine .change (fun _ => BookRunService.resumeRun_drifts) fun hstatus run hrun => ?_
      obtain ⟨e, he⟩ := (BookRunService.eq_of_completed hstatus).2.2.2.2.2 request
      exact absurd (he.symm.trans hrun) (by simp)
  | requestCancel =>
      cases h
      refine .change (fun _ => BookRunService.requestCancelRun_drifts) fun hstatus run hrun => ?_
      obtain ⟨e, he⟩ := (BookRunService.eq_of_completed hstatus).2.2.2.2.1
      exact absurd (he.symm.trans hrun) (by simp)
  | confirmCancel =>
      cases h
      exact .change (fun _ => BookRunService.confirmCancelRun_drifts) fun hstatus run hrun =>
        Except.ok.inj (hrun.symm.trans (BookRunService.eq_of_completed hstatus).2.2.2.1)
  | markPaused =>
      cases h
      exact .change (fun _ => BookRunService.markPaused_drifts) fun hstatus run hrun =>
        Except.ok.inj (hrun.symm.trans (BookRunService.eq_of_completed hstatus).1)
  | otherCode story =>
      simp only [next] at h
      split at h
      · cases h
        exact .outside (.refl s.run) rfl rfl fun _ => rfl
      · exact absurd h (by simp)

end Cases

/-! ### What is final -/

section Runs

variable {settings : BookWorkflowSettings} {verdicts : List BookVerdict} {s s' : BookExecution}

/-- Every step takes the book run along its table. -/
theorem Shifts.leads (h : Shifts verdicts s s') : s.run.status.Leads s'.run.status := by
  cases h with
  | drifted hrun | outside hrun => exact hrun.status.leads
  | froze _ _ hrun | judged _ _ _ hrun | passed _ _ _ hrun | accepted _ _ hrun =>
      rw [hrun]
      exact .refl
  | completed _ hfinish =>
      obtain ⟨hrun, hleads⟩ := finishCompleted_eq_ok hfinish
      rw [hrun]
      exact hleads

/-- A completed book run stays where an execution may find it. -/
theorem Shifts.calm_of_completed (h : Shifts verdicts s s')
    (hcalm : s.run.status = .completed → s.phase.Calm) (hstatus : s'.run.status = .completed) :
    s'.phase.Calm := by
  cases h with
  | drifted hrun _ _ hkeeps =>
      have hbefore : s.run.status = .completed := by
        by_contra hne
        exact hrun.status.ne_completed hne hstatus
      exact (hkeeps hbefore (hcalm hbefore)).1
  | outside hrun _ hphase =>
      have hbefore : s.run.status = .completed := by
        by_contra hne
        exact hrun.status.ne_completed hne hstatus
      rw [hphase]
      exact hcalm hbefore
  | froze hphase _ hrun =>
      rw [hrun] at hstatus
      exact absurd (hcalm hstatus) (by rw [hphase]; exact id)
  | judged hphase _ _ hrun =>
      rw [hrun] at hstatus
      exact absurd (hcalm hstatus) hphase
  | passed hphase _ _ hrun =>
      rw [hrun] at hstatus
      exact absurd (hcalm hstatus) (by rw [hphase]; exact id)
  | accepted hphase _ hrun =>
      rw [hrun] at hstatus
      exact absurd (hcalm hstatus) (by rw [hphase]; exact id)
  | completed _ _ _ hphase' => exact hphase'

theorem calm_of_completed (hs : (machine settings).Reachable s) :
    s.run.status = .completed → s.phase.Calm := by
  refine hs.invariant (I := fun s => s.run.status = .completed → s.phase.Calm) ?_ ?_
  · intro s hs hstatus
    exact absurd (hs.status.symm.trans hstatus) (by simp)
  · intro s _ s' _ hcalm _ hnext
    exact (next_shifts hnext).calm_of_completed hcalm

/-- A completed book run is not changed by a step. -/
theorem Shifts.eq_of_completed (h : Shifts verdicts s s') (hstatus : s.run.status = .completed)
    (hcalm : s.phase.Calm) : s'.run = s.run ∧ s'.snapshots = s.snapshots := by
  have hnot {phase : BookPhase} (hphase : s.phase = phase) (hnot : ¬phase.Calm) : False := by
    rw [hphase] at hcalm
    exact hnot hcalm
  cases h with
  | drifted _ hsnapshots _ hkeeps => exact ⟨(hkeeps hstatus hcalm).2, hsnapshots⟩
  | outside _ hsnapshots _ hkeeps => exact ⟨hkeeps hstatus, hsnapshots⟩
  | froze hphase => exact (hnot hphase id).elim
  | judged hphase => exact absurd hcalm hphase
  | passed hphase => exact (hnot hphase id).elim
  | accepted hphase => exact (hnot hphase id).elim
  | completed hphase => exact (hnot hphase id).elim

/-- An execution of a book of one chapter up to its completion. -/
def completing : List BookAction :=
  untilChapter ++ drafting ++ accepting ++ proceeds 7 ++
    [.step (.criticized 6000 (some 20) ⟨true, "accept", []⟩)] ++ proceeds 3

/-- The executions of a book run that has no snapshots when it is created. -/
def unreviewed (settings : BookWorkflowSettings) : Machine BookExecution BookAction where
  init s := Fresh s ∧ s.snapshots = []
  next := next settings

/-- The same with the states that they have been in. -/
def remembering (settings : BookWorkflowSettings) :
    Machine (BookExecution × List BookExecution) BookAction :=
  (unreviewed settings).withHistory (fun _ => []) fun past s _ _ => past ++ [s]

theorem reachable_of_unreviewed (hs : (unreviewed settings).Reachable s) :
    (machine settings).Reachable s := by
  induction hs with
  | start hs => exact .start hs.1
  | step _ hok hnext ih => exact .step ih hok hnext

/-- An evaluation of a snapshot has passed. -/
def HasPassed (past : List BookExecution) (id : ℕ) : Prop :=
  ∃ s ∈ past, ∃ (revised : Bool) (verdict : BookVerdict),
    s.phase = .persisting revised id verdict ∧ verdict.passed = true

/-- A snapshot is of the versions that all chapters of the book had accepted in a state. -/
def IsFrozen (past : List BookExecution) (run : BookRun) (snapshot : StoredSnapshot) : Prop :=
  snapshot.chapterVersionMap.length = run.totalChapters ∧
    ∃ s ∈ past, s.story.snapshotMap run.projectId = .ok snapshot.chapterVersionMap

/-- What a completion rests on. -/
structure Certified (past : List BookExecution) (s : BookExecution) : Prop where
  stored : ∀ snapshot ∈ s.snapshots, IsFrozen past s.run snapshot
  passed : ∀ id, s.phase = .accepting id .complete → HasPassed past id
  completing : s.phase = .completing → ∃ id, IsAccepted s.snapshots id ∧ HasPassed past id
  completed : s.run.status = .completed → s.run.progress = 100 ∧ s.run.blockingReasons = [] ∧
    ∃ id, IsAccepted s.snapshots id ∧ HasPassed past id

theorem HasPassed.mono {past : List BookExecution} {id : ℕ} (h : HasPassed past id)
    (s : BookExecution) : HasPassed (past ++ [s]) id := by
  obtain ⟨earlier, hearlier, hpassed⟩ := h
  exact ⟨earlier, List.mem_append_left _ hearlier, hpassed⟩

theorem IsFrozen.mono {past : List BookExecution} {run run' : BookRun}
    {snapshot : StoredSnapshot} (h : IsFrozen past run snapshot) (s : BookExecution)
    (htotal : run'.totalChapters = run.totalChapters) (hproject : run'.projectId = run.projectId) :
    IsFrozen (past ++ [s]) run' snapshot := by
  obtain ⟨hlength, earlier, hearlier, hmap⟩ := h
  exact ⟨htotal ▸ hlength, earlier, List.mem_append_left _ hearlier, hproject ▸ hmap⟩

/-- Snapshots that are of the same versions. -/
theorem forall_isFrozen_of_map_eq {past : List BookExecution} {run : BookRun}
    {snapshots snapshots' : List StoredSnapshot}
    (hmap : snapshots'.map (·.chapterVersionMap) = snapshots.map (·.chapterVersionMap))
    (h : ∀ snapshot ∈ snapshots, IsFrozen past run snapshot) :
    ∀ snapshot ∈ snapshots', IsFrozen past run snapshot := by
  intro snapshot hsnapshot
  have hmem : snapshot.chapterVersionMap ∈ snapshots.map (·.chapterVersionMap) :=
    hmap ▸ List.mem_map_of_mem hsnapshot
  obtain ⟨other, hother, heq⟩ := List.mem_map.mp hmem
  have hfrozen := h other hother
  rw [IsFrozen, heq] at hfrozen
  exact hfrozen

/-- A step keeps what is known of the snapshots. -/
theorem Certified.stored_step {past : List BookExecution} (hcertified : Certified past s)
    (h : Shifts verdicts s s') :
    ∀ snapshot ∈ s'.snapshots, IsFrozen (past ++ [s]) s'.run snapshot := by
  have hsame (hsnapshots : s'.snapshots = s.snapshots)
      (htotal : s'.run.totalChapters = s.run.totalChapters)
      (hproject : s'.run.projectId = s.run.projectId) :
      ∀ snapshot ∈ s'.snapshots, IsFrozen (past ++ [s]) s'.run snapshot := by
    rw [hsnapshots]
    exact fun snapshot hsnapshot =>
      (hcertified.stored snapshot hsnapshot).mono s htotal hproject
  cases h with
  | drifted hrun hsnapshots | outside hrun hsnapshots =>
      exact hsame hsnapshots hrun.totalChapters hrun.projectId
  | froze hphase hbuild hrun =>
      rw [hrun]
      intro snapshot hsnapshot
      rcases mem_buildSnapshot hbuild hsnapshot with hold | ⟨hlength, hmap⟩
      · exact (hcertified.stored snapshot hold).mono s rfl rfl
      · exact ⟨hlength, s, List.mem_append_right _ (List.mem_singleton.mpr rfl), hmap⟩
  | judged _ _ _ hrun hsnapshots | passed _ _ _ hrun hsnapshots =>
      exact hsame hsnapshots (by rw [hrun]) (by rw [hrun])
  | accepted _ haccept hrun =>
      rw [hrun]
      exact forall_isFrozen_of_map_eq (map_acceptSnapshot haccept) fun snapshot hsnapshot =>
        (hcertified.stored snapshot hsnapshot).mono s rfl rfl
  | completed _ hfinish hsnapshots =>
      obtain ⟨hrun, -⟩ := finishCompleted_eq_ok hfinish
      exact hsame hsnapshots (by rw [hrun]) (by rw [hrun])

theorem Certified.step {past : List BookExecution} (hcertified : Certified past s)
    (hcalm : s.run.status = .completed → s.phase.Calm) (h : Shifts verdicts s s') :
    Certified (past ++ [s]) s' where
  stored := hcertified.stored_step h
  passed := by
    intro id hphase'
    cases h with
    | drifted _ _ hcertifying | froze _ _ _ hcertifying =>
        rw [hphase'] at hcertifying
        exact absurd trivial hcertifying
    | outside _ _ hphase => exact (hcertified.passed id (hphase.symm.trans hphase')).mono s
    | judged _ _ hjudged => exact absurd (hphase'.symm.trans hjudged) (by simp)
    | passed hphase hpassed haccepting =>
        obtain ⟨rfl, -⟩ := BookPhase.accepting.inj (haccepting.symm.trans hphase')
        exact ⟨s, List.mem_append_right _ (List.mem_singleton.mpr rfl), _, _, hphase, hpassed⟩
    | accepted _ _ _ hcompleting =>
        have hcertifying : s'.phase.Certifying := by
          rw [hphase']
          trivial
        exact absurd (hphase'.symm.trans (hcompleting hcertifying).2) (by simp)
    | completed _ _ _ hcalm' =>
        rw [hphase'] at hcalm'
        exact hcalm'.elim
  completing := by
    intro hphase'
    cases h with
    | drifted _ _ hcertifying | froze _ _ _ hcertifying =>
        rw [hphase'] at hcertifying
        exact absurd trivial hcertifying
    | outside _ hsnapshots hphase =>
        obtain ⟨id, haccepted, hpassed⟩ := hcertified.completing (hphase.symm.trans hphase')
        exact ⟨id, hsnapshots ▸ haccepted, hpassed.mono s⟩
    | judged _ _ hjudged => exact absurd (hphase'.symm.trans hjudged) (by simp)
    | passed _ _ haccepting => exact absurd (hphase'.symm.trans haccepting) (by simp)
    | @accepted id next hphase haccept _ hcompleting =>
        have hcertifying : s'.phase.Certifying := by
          rw [hphase']
          trivial
        obtain ⟨rfl, -⟩ := hcompleting hcertifying
        exact ⟨id, isAccepted_of_acceptSnapshot haccept, (hcertified.passed id hphase).mono s⟩
    | completed _ _ _ hcalm' =>
        rw [hphase'] at hcalm'
        exact hcalm'.elim
  completed := by
    intro hstatus
    by_cases hbefore : s.run.status = .completed
    · obtain ⟨hrun, hsnapshots⟩ := h.eq_of_completed hbefore (hcalm hbefore)
      obtain ⟨hprogress, hblocking, id, haccepted, hpassed⟩ := hcertified.completed hbefore
      rw [hrun, hsnapshots]
      exact ⟨hprogress, hblocking, id, haccepted, hpassed.mono s⟩
    · cases h with
      | drifted hrun | outside hrun => exact absurd hstatus (hrun.status.ne_completed hbefore)
      | froze _ _ hrun | judged _ _ _ hrun | passed _ _ _ hrun | accepted _ _ hrun =>
          rw [hrun] at hstatus
          exact absurd hstatus hbefore
      | completed hphase hfinish hsnapshots =>
          obtain ⟨hrun, -⟩ := finishCompleted_eq_ok hfinish
          obtain ⟨id, haccepted, hpassed⟩ := hcertified.completing hphase
          rw [hrun, hsnapshots]
          exact ⟨rfl, rfl, id, haccepted, hpassed.mono s⟩

theorem certified {past : List BookExecution}
    (hs : (remembering settings).Reachable (s, past)) : Certified past s := by
  refine hs.invariant (I := fun p => Certified p.2 p.1) ?_ ?_
  · rintro p ⟨⟨hfresh, hsnapshots⟩, -⟩
    refine ⟨?_, fun id hphase => ?_, fun hphase => ?_, fun hstatus => ?_⟩
    · rw [hsnapshots]
      exact nofun
    · exact absurd (hfresh.phase.symm.trans hphase) (by simp)
    · exact absurd (hfresh.phase.symm.trans hphase) (by simp)
    · exact absurd (hfresh.status.symm.trans hstatus) (by simp)
  · intro p action p' hp hcertified _ hnext
    obtain ⟨hstep, hpast⟩ := Machine.withHistory_next.mp hnext
    have hreachable := reachable_of_unreviewed (Machine.withHistory_fst hp)
    rw [hpast]
    exact hcertified.step (calm_of_completed hreachable) (next_shifts hstep)

/-- **What a completed book run rests on**: one snapshot is the accepted one. It is of the
versions that all chapters of the book had accepted at some moment, and an evaluation of it has
passed. -/
theorem certified_of_completed {past : List BookExecution}
    (hs : (remembering settings).Reachable (s, past)) (hstatus : s.run.status = .completed) :
    s.run.progress = 100 ∧ s.run.blockingReasons = [] ∧
      ∃ (id : ℕ) (snapshot : StoredSnapshot), s.snapshots[id]? = some snapshot ∧
        snapshot.status = .accepted ∧
        (∀ (other : ℕ) (row : StoredSnapshot), s.snapshots[other]? = some row →
          row.status = .accepted → other = id) ∧
        snapshot.chapterVersionMap.length = s.run.totalChapters ∧
        (∃ earlier ∈ past,
          earlier.story.snapshotMap s.run.projectId = .ok snapshot.chapterVersionMap) ∧
        ∃ judged ∈ past, ∃ (revised : Bool) (verdict : BookVerdict),
          judged.phase = .persisting revised id verdict ∧ verdict.passed = true := by
  have hcertified := certified hs
  obtain ⟨hprogress, hblocking, id, ⟨⟨snapshot, hsnapshot, haccepted⟩, honly⟩, hpassed⟩ :=
    hcertified.completed hstatus
  obtain ⟨hlength, hfrozen⟩ := hcertified.stored snapshot (List.mem_of_getElem? hsnapshot)
  exact ⟨hprogress, hblocking, id, snapshot, hsnapshot, haccepted, honly, hlength, hfrozen,
    hpassed⟩

theorem certified_of_completed_sample :
    ∃ p, (remembering sampleSettings).Reachable p ∧ p.1.run.status = .completed ∧
      ∃ snapshot ∈ p.1.snapshots, snapshot.status = .accepted ∧
        snapshot.chapterVersionMap.length = p.1.run.totalChapters := by
  obtain ⟨p, hp, hstatus⟩ := (remembering sampleSettings).exists_reachable completing
    (fun p => p.1.run.status = .completed) (s := (sample 1, [])) ⟨⟨fresh_sample 1, rfl⟩, rfl⟩
    (by decide +kernel)
  obtain ⟨-, -, id, snapshot, hsnapshot, haccepted, -, hlength, -⟩ :=
    certified_of_completed hp hstatus
  exact ⟨p, hp, hstatus, snapshot, List.mem_of_getElem? hsnapshot, haccepted, hlength⟩

end Runs

end BookExecution

end StoryForge
