import StoryForge.Jobs.Transactions
import StoryForge.Workflows.Finality
import StoryForge.Workflows.Jobs

/-!
# Agreement of a job with its workflow run

A job and its workflow run are completed in two transactions. Lease recovery leaves a
completed run alone and schedules the job again; the next execution calls `resume`, which
takes paused runs only, and the job is failed. So a job agrees with its completed run in the
runs in which nothing comes between those two transactions: the worker does not stop, nothing
is raised, no request to pause or cancel the job is outstanding, and the sweep of expired
leases takes the job only from workers that have stopped.

## Main results

* `advance_statuses` — the steps of a call that complete its run;
* `advance_past` — from there on a call only returns;
* `agrees_next` — one step keeps a job in agreement with its run;
* `agreement_of_reachable` — no job fails whose run is completed, and it has succeeded once
  no execution of it is in progress;
* `agreement_fails` — a worker that stops after `accept_version` leaves the job to fail.
-/

namespace StoryForge

open ChapterWorkflowService GraphExecution WorkflowSystem

/-! ### Calls that have completed their run -/

/-- The phases of a call between the completion of its run and its return. -/
def GraphPhase.Past : GraphPhase → Prop
  | .leaving node _ => node ∈ finishingNodes
  | .noting | .returning => True
  | .ended (.ok status) => status ∈ completedStatuses
  | _ => False

/-- What one step of a call does to the status of its run `r`. -/
structure Advances (db : StoryDatabase) (r : ℕ) (g : GraphExecution) (input : NodeInput)
    (result : StepResult) : Prop where
  runId : result.graph.runId = some r
  statuses : result.db.statuses = db.statuses ∨
    ∃ target, result.db.statuses = db.statuses.set r target ∧
      (target ∈ completedStatuses →
        g.Finishing ∧ (∀ error, input ≠ .failed error) ∧ result.graph.phase.Past)

section Advances

variable {services : StoryServices} {db db' : StoryDatabase} {g : GraphExecution} {r : ℕ}
  {result : StepResult} {input : NodeInput}

theorem Advances.quiet {graph : GraphExecution} {checkpoint : Option Checkpoint}
    (hrun : graph.runId = some r) (hstatuses : db'.statuses = db.statuses) :
    Advances db r g input ⟨graph, db', checkpoint⟩ := ⟨hrun, .inl hstatuses⟩

/-- A transaction of a call, by what it does when it commits. -/
theorem Advances.attempted {transaction : Except Error StoryDatabase} {after : GraphExecution}
    {recover : Error → GraphExecution}
    (hok : ∀ db', transaction = .ok db' → Advances db r g input ⟨after, db', none⟩)
    (herror : ∀ error, (recover error).runId = some r) :
    Advances db r g input (attempt db transaction after recover) := by
  cases transaction with
  | ok db' => exact hok db' rfl
  | error error => exact .quiet (herror error) rfl

/-- A call that marks its run as failed. -/
theorem Advances.failed {after : GraphExecution} (hafter : after.runId = some r)
    (hrun : g.runId = some r) (h : markFailed g.runId db = .ok db') :
    Advances db r g input ⟨after, db', none⟩ := by
  rcases markFailed_eq_ok h with rfl | ⟨r', status, hr', -, -, hset⟩
  · exact .quiet hafter rfl
  · obtain rfl : r' = r := Option.some.inj (hr'.symm.trans hrun)
    exact ⟨hafter, .inr ⟨.failed, hset, by simp [completedStatuses]⟩⟩

/-- A call that marks its run as paused. -/
theorem Advances.paused {after : GraphExecution} {node : String}
    (hafter : after.runId = some r) (h : markPaused r node db = .ok db') :
    Advances db r g input ⟨after, db', none⟩ := by
  obtain ⟨status, -, ⟨-, rfl⟩ | ⟨-, hset⟩⟩ := markPaused_eq_ok h
  · exact .quiet hafter rfl
  · exact ⟨hafter, .inr ⟨.paused, hset, by simp [completedStatuses]⟩⟩

theorem enter_advances {node : WorkflowNode} (h : enter g node input db = some result)
    (hrun : g.runId = some r) (hr : r < db.runs.length) : Advances db r g input result := by
  unfold enter at h
  split at h
  · obtain rfl := Option.some.inj h
    unfold beginRun
    cases hinit : initializeWorkflow g.state g.runId db with
    | error error => exact .quiet hrun rfl
    | ok begun =>
        obtain ⟨runId, state, db'⟩ := begun
        rcases initializeWorkflow_eq_ok hinit with ⟨hid, -, rfl⟩ | ⟨hnone, -, -⟩
        · exact .quiet (hid.symm.trans hrun) rfl
        · have hle := hnone r hrun
          omega
  · obtain rfl := Option.some.inj h
    exact .quiet hrun rfl
  · exact absurd h (by simp)
  · obtain rfl := Option.some.inj h
    exact .attempted (fun _ hok => .failed hrun hrun hok) fun _ => hrun
  · obtain rfl := Option.some.inj h
    exact .quiet hrun rfl
  · exact absurd h (by simp)
  · rw [hrun] at h
    obtain rfl := Option.some.inj h
    exact .attempted (fun _ hok => .quiet hrun (nodeStarted_eq_ok hok).1) fun _ => hrun
  · obtain rfl := Option.some.inj h
    exact .quiet hrun rfl
  · obtain rfl := Option.some.inj h
    exact .quiet hrun rfl
  · obtain rfl := Option.some.inj h
    exact .quiet hrun rfl
  · exact absurd h (by simp)

theorem follow_runId (node : WorkflowNode) (written : ActionResult) :
    (g.follow node written).runId = g.runId := by
  cases written with
  | next stage => rfl
  | done state => rfl
  | raised error => rfl

theorem act_advances {node : WorkflowNode} {stage : Stage}
    (h : act services g node stage input db = some result) (hphase : g.phase = .acting node stage)
    (hrun : g.runId = some r) : Advances db r g input result := by
  unfold act at h
  split at h
  · obtain rfl := Option.some.inj h
    exact .quiet hrun rfl
  · rename_i hinput
    rw [hrun, Option.bind_some] at h
    obtain ⟨written, hwritten, rfl⟩ := Option.map_eq_some_iff.mp h
    by_cases hnode : node ∈ finishingNodes
    · rcases actionStep_of_finishing hnode hwritten with
        ⟨error, rfl⟩ | ⟨state, status, hdone, -, ⟨-, hsame⟩ | ⟨target, -, hset⟩⟩
      · exact .quiet hrun rfl
      · exact .quiet ((follow_runId node written.1).trans hrun) (by rw [hsame])
      · refine ⟨(follow_runId node written.1).trans hrun,
          .inr ⟨target, hset, fun _ => ⟨?_, hinput, ?_⟩⟩⟩
        · simpa [Finishing, hphase, GraphPhase.finishing] using hnode
        · rw [hdone]
          exact hnode
    · exact .quiet ((follow_runId node written.1).trans hrun) (actionStep_of_quiet hnode hwritten)

theorem conclude_advances (h : WorkflowSystem.conclude g db = some result)
    (hrun : g.runId = some r) (hinput : input = .proceed) : Advances db r g input result := by
  unfold WorkflowSystem.conclude at h
  split at h
  · rename_i node runId _ hid
    obtain rfl : runId = r := Option.some.inj (hid.symm.trans hrun)
    obtain rfl := Option.some.inj h
    exact .attempted (fun _ hok => .paused hrun hok) fun _ => hrun
  · rename_i runId _ hid
    obtain rfl : runId = r := Option.some.inj (hid.symm.trans hrun)
    obtain rfl := Option.some.inj h
    exact .attempted (fun _ hok => .paused hrun hok) fun _ => hrun
  · rename_i hnone
    exact absurd (hnone.symm.trans hrun) (by simp)
  · rename_i runId _ hid
    obtain rfl : runId = r := Option.some.inj (hid.symm.trans hrun)
    obtain rfl := Option.some.inj h
    refine .attempted (fun db' hok => ?_) fun _ => hrun
    obtain ⟨status, -, -, hset⟩ := cancel_eq_ok hok
    exact ⟨hrun, .inr ⟨.cancelled, hset, by simp [completedStatuses]⟩⟩
  · rename_i hnone
    exact absurd (hnone.symm.trans hrun) (by simp)
  · split at h
    · obtain rfl := Option.some.inj h
      exact .quiet hrun rfl
    · obtain rfl := Option.some.inj h
      exact .quiet hrun rfl
  · rename_i runId hphase hid
    obtain rfl : runId = r := Option.some.inj (hid.symm.trans hrun)
    obtain rfl := Option.some.inj h
    refine .attempted (fun db' hok => ?_) fun _ => hrun
    obtain ⟨status, -, hset⟩ := ChapterVersionService.markNeedsReview_eq_ok hok
    have hfinishing : g.Finishing := by simp [Finishing, hphase, GraphPhase.finishing]
    exact ⟨hrun, .inr ⟨.completedNeedsReview, hset, fun _ =>
      ⟨hfinishing, by simp [hinput], trivial⟩⟩⟩
  · obtain rfl := Option.some.inj h
    exact .quiet hrun rfl
  · obtain rfl := Option.some.inj h
    exact .attempted (fun _ hok => .failed hrun hrun hok) fun _ => hrun
  · obtain rfl := Option.some.inj h
    exact .quiet hrun rfl
  · exact absurd h (by simp)

/-- **One step of a call** completes its run only in a phase that does so, and is past the
completion then. -/
theorem advance_statuses (h : advance services g input db = some result)
    (hrun : g.runId = some r) (hr : r < db.runs.length) : Advances db r g input result := by
  unfold advance at h
  split at h
  · exact enter_advances h hrun hr
  · rename_i node stage hphase
    exact act_advances h hphase hrun
  · rename_i node state _
    obtain rfl := Option.some.inj h
    exact .quiet ((leave_runId g node state).trans hrun) rfl
  · obtain rfl := Option.some.inj h
    exact .quiet hrun rfl
  · exact absurd h (by simp)
  · obtain rfl := Option.some.inj h
    exact .quiet hrun rfl
  · exact absurd h (by simp)
  · exact absurd h (by simp)
  · obtain rfl := Option.some.inj h
    exact .quiet hrun rfl
  · exact conclude_advances h hrun rfl
  · exact absurd h (by simp)

/-- The status of a run whose chapter exists is returned. -/
theorem status_of_grounded {missing : Error} {status : WorkflowRunStatus}
    (hgrounded : db.grounded = true) (hstatus : db.statuses[r]? = some status) :
    ChapterWorkflowService.status missing (some r) db = .ok status := by
  rw [StoryDatabase.getElem?_statuses] at hstatus
  obtain ⟨run, hrun, rfl⟩ := Option.map_eq_some_iff.mp hstatus
  have hchapter := List.all_eq_true.mp hgrounded run (List.mem_of_getElem? hrun)
  simp only [decide_eq_true_eq] at hchapter
  simp [ChapterWorkflowService.status, hrun, List.getElem?_eq_getElem hchapter]

/-- **Past the completion a call only returns**, unless something is raised. -/
theorem advance_past (h : advance services g input db = some result) (hrun : g.runId = some r)
    (hpast : g.phase.Past) (hinput : ∀ error, input ≠ .failed error)
    {status : WorkflowRunStatus} (hstatus : db.statuses[r]? = some status)
    (hcompleted : status ∈ completedStatuses) (hgrounded : db.grounded = true) :
    result.graph.runId = some r ∧ result.graph.phase.Past ∧ result.db = db := by
  cases hphase : g.phase with
  | leaving node state =>
      have hend : afterNode state node = .ok none := by
        rw [hphase] at hpast
        revert hpast
        cases node <;> simp [GraphPhase.Past, finishingNodes, afterNode]
      cases input with
      | proceed =>
          simp only [advance, hphase] at h
          obtain rfl := Option.some.inj h
          have hreturning : (g.leave node state).1.phase = .returning := by simp only [leave, hend]
          exact ⟨(leave_runId g node state).trans hrun, by rw [hreturning]; trivial, rfl⟩
      | failed error => exact absurd rfl (hinput error)
      | _ => simp [advance, hphase] at h
  | noting =>
      cases input with
      | proceed =>
          simp only [advance, hphase, WorkflowSystem.conclude] at h
          obtain rfl := Option.some.inj h
          exact ⟨hrun, trivial, rfl⟩
      | failed error => exact absurd rfl (hinput error)
      | _ => simp [advance, hphase] at h
  | returning =>
      cases input with
      | proceed =>
          simp only [advance, hphase, WorkflowSystem.conclude, hrun,
            status_of_grounded hgrounded hstatus] at h
          obtain rfl := Option.some.inj h
          exact ⟨hrun, hcompleted, rfl⟩
      | failed error => exact absurd rfl (hinput error)
      | _ => simp [advance, hphase] at h
  | ended ending => simp [advance, hphase] at h
  | _ => simp [hphase, GraphPhase.Past] at hpast

end Advances

/-! ### Agreement -/

/-- The phases of a handler between the completion of the run and the outcome of the job. -/
def HandlerPhase.Past : HandlerPhase → Prop
  | .executing g => g.phase.Past
  | .linking _ status => status ∈ completedStatuses
  | .ended (.returned _) => True
  | _ => False

/-- A handler works with the workflow run its job is linked to. -/
def WorkflowHandler.Fits (handler : WorkflowHandler) (link : Option ℕ) : Prop :=
  match handler.phase with
  | .checking | .calling => handler.workflowRunId = link
  | .executing g => g.runId = link
  | .linking runId _ => link = some runId
  | .ended _ => True

namespace WorkflowJobSystem

variable {settings : Settings} {services : StoryServices} {request : ChapterWorkflowRequest}
  {s s' : WorkflowJobSystem} {j i r : ℕ} {input : NodeInput} {a : Action} {e : Execution}

/-- The condition on a step. While a worker executes the job, the sweep of expired leases
does not take it. Once the run is completed, the worker neither stops nor raises and no
request is made, until the job's outcome is committed; and none is outstanding when a call
completes the run. -/
def Undisturbed (j : ℕ) (s : WorkflowJobSystem) (a : WorkflowJobAction) : Prop :=
  match a with
  | .job (.recoverExpired now) => JobSystem.LeaseKept j s.jobs (.recoverExpired now)
  | .job (.crash i) => s.Completed j → ∀ e ∈ s.jobs.executions[i]?, e.jobId ≠ j
  | .job (.requestPause k _) | .job (.requestCancel k _) => k = j → ¬ s.Completed j
  | .handler _ (.failed _) => ¬ s.Completed j
  | .handler i _ =>
      match (s.handlers i).phase with
      | .executing g => g.Finishing → ∀ job ∈ s.row j, job.status = .running
      | _ => True
  | _ => True

instance (j : ℕ) (s : WorkflowJobSystem) (a : WorkflowJobAction) :
    Decidable (Undisturbed j s a) := by
  unfold Undisturbed
  split
  · infer_instance
  · infer_instance
  · infer_instance
  · infer_instance
  · infer_instance
  · split <;> infer_instance
  · infer_instance

/-- The job agrees with its run: once that is completed, the job has succeeded, or is
running in the hands of an execution that will report so. -/
structure Agrees (s : WorkflowJobSystem) (j : ℕ) : Prop where
  sound : s.jobs.db.Sound
  alone : s.jobs.HeldAlone j
  grounded : s.story.grounded = true
  known : ∀ r, s.link j = some r → r < s.story.runs.length
  fits : ∀ i e, s.jobs.Executing j i e → (s.handlers i).Fits (s.link j)
  agrees : ∃ job, s.row j = some job ∧ (s.Completed j → job.status = .succeeded ∨
    job.status = .running ∧
      ∃ i e, s.jobs.Executing j i e ∧ e.phase = .running ∧ (s.handlers i).phase.Past)

/-! ### The job system -/

/-- A completed run, by its status. -/
theorem completed_iff {story : StoryDatabase} : story.completed r = true ↔
    ∃ status ∈ completedStatuses, story.statuses[r]? = some status := by
  unfold StoryDatabase.completed
  rw [Option.any_eq_true]
  constructor
  · rintro ⟨status, hstatus, hin⟩
    exact ⟨status, of_decide_eq_true hin, hstatus⟩
  · rintro ⟨status, hin, hstatus⟩
    exact ⟨status, hstatus, decide_eq_true hin⟩

/-- The job system writes back no run less or more. -/
theorem length_workflowRuns {linking : ℕ → Prop} {db db' : Database}
    (h : db.Leaves linking db') : db'.workflowRuns.length = db.workflowRuns.length := by
  have hsome : ∀ r : ℕ, (db'.workflowRuns[r]?).isSome = (db.workflowRuns[r]?).isSome := by
    intro r
    rcases h.runs r with heq | ⟨⟨_, -, hold⟩, _, -, hnew⟩
    · simpa using congrArg Option.isSome heq
    · simpa using congrArg Option.isSome hnew |>.trans (congrArg Option.isSome hold).symm
  apply Nat.le_antisymm
  · by_contra hlt
    have h := hsome db.workflowRuns.length
    simp [List.getElem?_eq_getElem (Nat.not_le.mp hlt)] at h
  · by_contra hlt
    have h := hsome db'.workflowRuns.length
    simp [List.getElem?_eq_getElem (Nat.not_le.mp hlt)] at h

/-- The job system completes no run and reopens none. -/
theorem completed_absorb {story : StoryDatabase} {linking : ℕ → Prop} {db db' : Database}
    (h : (story.jobTables db).Leaves linking db') :
    (story.absorb db').completed r = story.completed r := by
  have hlength : db'.workflowRuns.length = story.runs.length := by
    rw [length_workflowRuns h]
    simp [StoryDatabase.jobTables]
  have hold : (story.jobTables db).workflowRuns[r]?.map (·.status) = story.statuses[r]? := by
    rw [← List.getElem?_map, StoryDatabase.statuses_jobTables]
  have hnew : (story.absorb db').statuses[r]? = db'.workflowRuns[r]?.map (·.status) := by
    rw [StoryDatabase.statuses_absorb story hlength, List.getElem?_map]
  unfold StoryDatabase.completed
  rcases h.runs r with heq | ⟨⟨old, hlive, hbefore⟩, new, hpaused, hafter⟩
  · rw [hnew, heq, hold]
  · rw [hnew, hafter, ← hold, hbefore]
    simp only [liveRunStatuses, List.mem_cons, List.not_mem_nil, or_false] at hlive hpaused
    rcases hlive with rfl | rfl | rfl <;> rcases hpaused with rfl | rfl <;> rfl

/-- The handler of an execution that exists stays. -/
theorem newHandlers_of_lt {jobs : JobSystem} (hi : i < s.jobs.executions.length) :
    s.newHandlers jobs i = s.handlers i := by
  cases hget : jobs.executions[s.jobs.executions.length]? with
  | some e =>
      simp only [newHandlers, hget]
      exact Function.update_of_ne (Nat.ne_of_lt hi) _ _
  | none => simp only [newHandlers, hget]

/-- An execution that was claimed begins with the link of its job. -/
theorem newHandlers_self {jobs : JobSystem}
    (h : jobs.executions[s.jobs.executions.length]? = some e) :
    s.newHandlers jobs s.jobs.executions.length =
      ⟨jobs.db.jobs[e.jobId]?.bind (·.workflowRunId), .checking⟩ := by
  simp only [newHandlers, h]
  exact Function.update_self _ _ _

/-- The actions that are not reserved link other jobs only. -/
theorem not_links_of_reserved (h : reserved j s.jobs a = false) : ¬ a.Links s.reading j := by
  cases a with
  | linkWorkflow k workflowRunId =>
      rintro ⟨e, he, hj⟩
      have he' : s.jobs.executions[k]? = some e := he
      simp [reserved, he', hj] at h
  | _ => exact id

/-- What is not reserved ends no execution of the job that runs its handler, short of a
crash. -/
theorem not_ends_of_reserved {jobs : JobSystem} (h : reserved j s.jobs a = false)
    (hnext : JobSystem.next settings s.reading a = some jobs) (he : s.jobs.Executing j i e)
    (hphase : e.phase = .running) (hcrash : a ≠ .crash i) : ¬ a.Ends i := by
  intro hends
  cases a with
  | finish k outcome now =>
      obtain rfl : k = i := hends
      simp [reserved, he.1, he.2.2] at h
  | failAfter k now =>
      obtain rfl : k = i := hends
      obtain ⟨f, hf, hs'⟩ := Option.bind_eq_some_iff.mp hnext
      obtain rfl := Option.some.inj
        ((JobSystem.inProgress_eq_some.mp hf).1.symm.trans (he.1 : s.reading.executions[k]? = _))
      simp [hphase] at hs'
  | crash k =>
      obtain rfl : k = i := hends
      exact hcrash rfl
  | _ => exact hends

/-- **A step of the job system** keeps the job in agreement with its run. -/
theorem agrees_job (h : s.Agrees j) (hsafe : Undisturbed j s (.job a))
    (hperform : performJob settings j s a = some s') (hgrounded : s'.story.grounded = true) :
    s'.Agrees j := by
  unfold performJob at hperform
  split at hperform
  · exact absurd hperform (by simp)
  rename_i hnot
  have hreserved : reserved j s.jobs a = false := by simpa using hnot
  obtain ⟨jobs, hnext, rfl⟩ := Option.map_eq_some_iff.mp hperform
  have hsound : s.reading.db.Sound := ⟨h.sound.lifecycles, h.sound.addressed, h.sound.attempts⟩
  have halone : s.reading.HeldAlone j := ⟨h.alone.unique, h.alone.held⟩
  have hkept : JobSystem.LeaseKept j s.reading a := by
    cases a with
    | recoverExpired now => exact hsafe
    | _ => trivial
  have ht := JobSystem.next_transacts hnext (by rintro projects chapters runs rfl; cases hreserved)
  obtain ⟨job, hjob, hagrees⟩ := h.agrees
  obtain ⟨job', hjob', hworkflow⟩ :=
    ht.leaves.links j job (not_links_of_reserved hreserved) hjob
  have hlink : (jobs.db.jobs[j]?).bind (·.workflowRunId) = s.link j := by
    rw [link, hjob, hjob', Option.bind_some, Option.bind_some, hworkflow]
  have hcompleted : (s.link j).any (s.story.absorb jobs.db).completed =
      (s.link j).any s.story.completed := by
    cases s.link j with
    | none => rfl
    | some r => exact completed_absorb ht.leaves
  refine ⟨(JobSystem.next_change hsound hnext).1,
    JobSystem.heldAlone_next hsound halone hkept hnext, hgrounded, fun r hr => ?_,
    fun i e' he' => ?_, job', hjob', fun hdone => ?_⟩
  · have hlt := h.known r (hlink ▸ hr)
    simpa [StoryDatabase.absorb] using hlt
  · obtain ⟨hget, hprogress, hj⟩ := he'
    show (s.newHandlers jobs i).Fits ((jobs.db.jobs[j]?).bind (·.workflowRunId))
    rcases JobSystem.execution_origin hnext hget hprogress with ⟨e, he, hp, hej, -, -⟩ |
      ⟨k, worker, now, db', -, -, rfl, rfl⟩
    · rw [newHandlers_of_lt (List.getElem?_eq_some_iff.mp he).1, hlink]
      exact h.fits i e ⟨he, hp, hej.symm.trans hj⟩
    · have hnew : (s.reading.startExecution db' k worker).executions[s.reading.executions.length]? =
          some ⟨k, worker, (db'.jobs[k]?.map (·.attempt)).getD 0, .running⟩ :=
        JobSystem.startExecution_getElem?
      obtain rfl := Option.some.inj (hnew.symm.trans hget)
      obtain rfl : k = j := hj
      have hhandler := newHandlers_self (s := s) hnew
      rw [show s.reading.executions.length = s.jobs.executions.length from rfl, hhandler]
      rfl
  · have hbefore : s.Completed j := by
      rw [Completed, ← hcompleted, ← hlink]
      exact hdone
    rcases hagrees hbefore with hst | ⟨hst, i, e, he, hphase, hpast⟩
    · obtain ⟨row, hrow, hst'⟩ := JobSystem.succeeded_next hsound hnext hjob hst
      obtain rfl := Option.some.inj (hrow.symm.trans hjob')
      exact .inl hst'
    · have hends := not_ends_of_reserved hreserved hnext he hphase (by
        rintro rfl
        exact hsafe hbefore e he.1 he.2.2)
      obtain ⟨row, hrow, hst'⟩ := JobSystem.running_next hsound halone hkept hnext he hjob hst
        hends fun now => ⟨by rintro rfl; exact hsafe rfl hbefore, by rintro rfl; exact hsafe rfl hbefore⟩
      obtain rfl := Option.some.inj (hrow.symm.trans hjob')
      refine .inr ⟨hst', i, e,
        ⟨JobSystem.execution_persists hnext he.1 hends, he.2⟩, hphase, ?_⟩
      show (s.newHandlers jobs i).phase.Past
      rw [newHandlers_of_lt (List.getElem?_eq_some_iff.mp he.1).1]
      exact hpast

/-! ### Handlers -/

/-- The handler of the execution that holds the job makes a step. What it leaves complete
was complete, and its handler stays past the completion; or it completes the run of a
running job. -/
theorem Agrees.setPhase {phase : HandlerPhase} (h : s.Agrees j) (he : s.jobs.Executing j i e)
    (hphase : e.phase = .running) (hjobs : s'.jobs = s.jobs)
    (hhandlers : s'.handlers = (s.setPhase i phase).handlers) (hgrounded : s'.story.grounded = true)
    (hlength : s.story.runs.length ≤ s'.story.runs.length)
    (hfits : WorkflowHandler.Fits ⟨(s.handlers i).workflowRunId, phase⟩ (s.link j))
    (hpast : s'.Completed j → s.Completed j ∧ ((s.handlers i).phase.Past → phase.Past) ∨
      (∀ job ∈ s.row j, job.status = .running) ∧ phase.Past) : s'.Agrees j := by
  have hrow : s'.row j = s.row j := by rw [row, row, hjobs]
  have hlink : s'.link j = s.link j := by rw [link, link, hrow]
  have hself : s'.handlers i = ⟨(s.handlers i).workflowRunId, phase⟩ := by
    rw [hhandlers]
    exact Function.update_self _ _ _
  obtain ⟨job, hjob, hagrees⟩ := h.agrees
  refine ⟨hjobs ▸ h.sound, hjobs ▸ h.alone, hgrounded,
    fun r hr => (h.known r (hlink ▸ hr)).trans_le hlength, fun k f hf => ?_,
    job, hrow.trans hjob, fun hdone => ?_⟩
  · rw [hjobs] at hf
    obtain rfl := h.alone.unique k i f e hf he
    rw [hlink, hself]
    exact hfits
  · rcases hpast hdone with ⟨hbefore, hgoes⟩ | ⟨hrunning, hgoes⟩
    · rcases hagrees hbefore with hst | ⟨hst, k, f, hf, -, hgone⟩
      · exact .inl hst
      · obtain rfl := h.alone.unique k i f e hf he
        refine .inr ⟨hst, k, e, hjobs ▸ he, hphase, ?_⟩
        rw [hself]
        exact hgoes hgone
    · refine .inr ⟨hrunning job hjob, i, e, hjobs ▸ he, hphase, ?_⟩
      rw [hself]
      exact hgoes

/-- The handler makes a step that writes nothing. -/
theorem Agrees.quiet {phase : HandlerPhase} (h : s.Agrees j) (he : s.jobs.Executing j i e)
    (hphase : e.phase = .running)
    (hfits : WorkflowHandler.Fits ⟨(s.handlers i).workflowRunId, phase⟩ (s.link j))
    (hpast : s.Completed j → (s.handlers i).phase.Past → phase.Past) :
    (s.setPhase i phase).Agrees j :=
  h.setPhase he hphase rfl rfl h.grounded (Nat.le_refl _) hfits fun hdone => .inl ⟨hdone, hpast hdone⟩

/-- A job keeps the workflow run it is linked to. -/
theorem linkWorkflow_of_some {db : Database} {job : Job} (hjob : db.jobs[j]? = some job)
    (hlink : job.workflowRunId = some r) : linkWorkflow j r db = .ok db := by
  simp [linkWorkflow, hjob, hlink]

/-- A job that has none is linked to it. -/
theorem linkWorkflow_of_none {db db' : Database} {job : Job} (hjob : db.jobs[j]? = some job)
    (hlink : job.workflowRunId = none) (h : linkWorkflow j r db = .ok db') :
    db'.jobs[j]? = some (job.linkWorkflow r) := by
  simp only [linkWorkflow, hjob, hlink, Option.isSome_none, Bool.false_eq_true, if_false] at h
  split at h
  · exact absurd h (by simp)
  · obtain rfl := Except.ok.inj h
    exact List.getElem?_set_self (List.getElem?_eq_some_iff.mp hjob).1

/-- A call finds the status of its run only in its own transactions. -/
theorem running_of_finishing {g : GraphExecution} (h : Undisturbed j s (.handler i input))
    (hphase : (s.handlers i).phase = .executing g) (hinput : ∀ error, input ≠ .failed error)
    (hfinishing : g.Finishing) : ∀ job ∈ s.row j, job.status = .running := by
  cases input with
  | failed error => exact absurd rfl (hinput error)
  | _ =>
      simp only [Undisturbed, hphase] at h
      exact h hfinishing

/-- **A step of a call with a run** keeps the job in agreement. -/
theorem agrees_advanced {g : GraphExecution} {result : StepResult} (h : s.Agrees j)
    (he : s.jobs.Executing j i e) (hrunning : e.phase = .running)
    (hsafe : Undisturbed j s (.handler i input)) (hphase : (s.handlers i).phase = .executing g)
    (hadvance : advance services g input s.story = some result) (hrun : g.runId = some r)
    (hgrounded : result.db.grounded = true) : (s.advanced i result).Agrees j := by
  have hlink : s.link j = some r := by
    have hfits := h.fits i e he
    simp only [WorkflowHandler.Fits, hphase] at hfits
    exact hfits.symm.trans hrun
  have hlt := h.known r hlink
  have hsteps := advance_statuses hadvance hrun hlt
  have hlength : s.story.runs.length = result.db.runs.length := by
    have hstatuses : result.db.statuses.length = s.story.statuses.length := by
      rcases hsteps.statuses with hsame | ⟨target, hset, -⟩
      · rw [hsame]
      · rw [hset, List.length_set]
    simpa [StoryDatabase.statuses] using hstatuses.symm
  have hbefore : s.Completed j ↔ s.story.completed r = true := by simp [Completed, hlink]
  have hafter : (s.advanced i result).Completed j ↔ result.db.completed r = true := by
    rw [Completed, show (s.advanced i result).link j = s.link j from rfl, hlink]
    rfl
  refine h.setPhase he hrunning rfl rfl hgrounded hlength.le ?_ fun hdone => ?_
  · exact hsteps.runId.trans hlink.symm
  · by_cases hwas : s.Completed j
    · refine .inl ⟨hwas, fun hpast => ?_⟩
      obtain ⟨status, hcompleted, hstatus⟩ := completed_iff.mp (hbefore.mp hwas)
      have hinput : ∀ error, input ≠ .failed error := by
        rintro error rfl
        exact hsafe hwas
      rw [hphase] at hpast
      exact (advance_past hadvance hrun hpast hinput hstatus hcompleted h.grounded).2.1
    · right
      obtain ⟨status, hcompleted, hstatus⟩ := completed_iff.mp (hafter.mp hdone)
      rcases hsteps.statuses with hsame | ⟨target, hset, hfinish⟩
      · rw [hsame] at hstatus
        exact absurd (hbefore.mpr (completed_iff.mpr ⟨status, hcompleted, hstatus⟩)) hwas
      · rw [hset, List.getElem?_set_self (by simpa [StoryDatabase.statuses] using hlt)] at hstatus
        obtain rfl := Option.some.inj hstatus
        obtain ⟨hfinishing, hinput, hpast⟩ := hfinish hcompleted
        exact ⟨running_of_finishing hsafe hphase hinput hfinishing, hpast⟩

/-- A call begins a run, and links its job to it. -/
theorem agrees_begun {result : StepResult} {db : Database} (settings : Settings)
    (h : s.Agrees j) (he : s.jobs.Executing j i e) (hlink : s.link j = none)
    (hrun : result.graph.runId = some r)
    (hstatuses : result.db.statuses = s.story.statuses ++ [.running])
    (hr : r = s.story.statuses.length) (hgrounded : result.db.grounded = true)
    (hlinked : linkWorkflow j r s.jobs.db = .ok db) :
    Agrees { s.advanced i result with jobs := { s.jobs with db } } j := by
  obtain ⟨job, hjob, -⟩ := h.agrees
  have hnone : job.workflowRunId = none := by
    rw [link, hjob] at hlink
    exact hlink
  have hjob' := linkWorkflow_of_none hjob hnone hlinked
  have hnext : JobSystem.next settings s.jobs (.linkWorkflow i r) = some { s.jobs with db } := by
    have hprogress : s.jobs.inProgress i = some e := JobSystem.inProgress_eq_some.mpr ⟨he.1, he.2.1⟩
    simp only [JobSystem.next, hprogress, Option.map_some, he.2.2, hlinked, JobSystem.commitOr]
  have hlink' : link { s.advanced i result with jobs := { s.jobs with db } } j = some r := by
    show (db.jobs[j]?).bind (·.workflowRunId) = some r
    rw [hjob', Option.bind_some, Job.linkWorkflow]
  refine ⟨(JobSystem.next_change h.sound hnext).1,
    JobSystem.heldAlone_next h.sound h.alone (a := .linkWorkflow i r) trivial hnext, hgrounded, fun r' hr' => ?_,
    fun k f hf => ?_, job.linkWorkflow r, hjob', fun hdone => ?_⟩
  · obtain rfl := Option.some.inj (hlink'.symm.trans hr')
    have hlength := congrArg List.length hstatuses
    simp only [StoryDatabase.statuses, List.length_map, List.length_append,
      List.length_singleton] at hlength hr
    show r < result.db.runs.length
    omega
  · obtain rfl := h.alone.unique k i f e hf he
    rw [hlink']
    show WorkflowHandler.Fits (Function.update s.handlers k _ k) _
    rw [Function.update_self]
    exact hrun
  · rw [Completed, hlink'] at hdone
    obtain ⟨status, hcompleted, hstatus⟩ := completed_iff.mp (by simpa using hdone)
    have hnew : (s.advanced i result).story.statuses[r]? = some .running := by
      show result.db.statuses[r]? = _
      rw [hstatuses, hr, List.getElem?_concat_length]
    rw [hnew] at hstatus
    obtain rfl := Option.some.inj hstatus
    simp [completedStatuses] at hcompleted

/-- **A step of a call** keeps the job in agreement. -/
theorem agrees_execute {g : GraphExecution} (settings : Settings) (h : s.Agrees j)
    (he : s.jobs.Executing j i e) (hrunning : e.phase = .running)
    (hsafe : Undisturbed j s (.handler i input)) (hphase : (s.handlers i).phase = .executing g)
    (hexecute : execute services j i g input s = some s') (hgrounded : s'.story.grounded = true) :
    s'.Agrees j := by
  unfold execute at hexecute
  split at hexecute
  · obtain ⟨result, hadvance, hs'⟩ := Option.map_eq_some_iff.mp hexecute
    have hfits : g.runId = s.link j := by
      have hfits := h.fits i e he
      simpa only [WorkflowHandler.Fits, hphase] using hfits
    obtain ⟨job, hjob, -⟩ := h.agrees
    cases hrun : g.runId with
    | some r =>
        have hlink : job.workflowRunId = some r := by
          have hlink := hfits.symm.trans hrun
          rwa [link, hjob] at hlink
        split at hs'
        · obtain rfl := hs'
          exact agrees_advanced h he hrunning hsafe hphase hadvance hrun hgrounded
        · rename_i runId hbegun
          have hid : result.graph.runId = some runId := by
            unfold begun at hbegun
            split at hbegun
            · exact hbegun
            · exact absurd hbegun (by simp)
          have hkept := (advance_statuses hadvance hrun (h.known r (hfits.symm.trans hrun))).runId
          obtain rfl := Option.some.inj (hid.symm.trans hkept)
          rw [linkWorkflow_of_some hjob hlink] at hs'
          obtain rfl := hs'
          exact agrees_advanced h he hrunning hsafe hphase hadvance hrun hgrounded
    | none =>
        have hlink := hfits.symm.trans hrun
        have hopen : ¬ s.Completed j := by simp [Completed, hlink]
        rcases advance_spec_of_none hadvance hrun with ⟨hnone, hset⟩ | ⟨⟨hp, hi⟩, hid, hset, -⟩
        · have hbegun : begun g input result = none := by
            unfold begun
            split
            · exact hnone
            · rfl
          rw [hbegun] at hs'
          obtain rfl := hs'
          have hlength := congrArg List.length hset
          simp only [StoryDatabase.statuses, List.length_map] at hlength
          refine h.setPhase he hrunning rfl rfl hgrounded hlength.ge ?_ fun hdone => ?_
          · exact hnone.trans hlink.symm
          · simp [Completed, show (s.advanced i result).link j = s.link j from rfl, hlink] at hdone
        · have hbegun : begun g input result = some s.story.statuses.length := by
            simp only [begun, hp, hi, hid]
          rw [hbegun] at hs'
          dsimp only at hs'
          split at hs'
          · rename_i db hlinked
            obtain rfl := hs'
            exact agrees_begun settings h he hlink hid hset rfl hgrounded hlinked
          · obtain rfl := hs'
            refine h.quiet he hrunning ?_ fun hdone => absurd hdone hopen
            exact hrun.trans hlink.symm
  · exact absurd hexecute (by simp)

/-- The call of `run` or of `resume` keeps the job in agreement: a completed run is not
resumed. -/
theorem agrees_call (h : s.Agrees j) (he : s.jobs.Executing j i e) (hrunning : e.phase = .running)
    (hphase : (s.handlers i).phase = .calling) (hcall : call request i s = some s')
    (hgrounded : s'.story.grounded = true) : s'.Agrees j := by
  have hfits : (s.handlers i).workflowRunId = s.link j := by
    have hfits := h.fits i e he
    simpa only [WorkflowHandler.Fits, hphase] using hfits
  have hopen : ¬ (s.handlers i).phase.Past := by
    rw [hphase]
    exact id
  unfold call at hcall
  split at hcall
  · rename_i hnone
    obtain rfl := Option.some.inj hcall
    exact h.quiet he hrunning (hnone.symm.trans hfits) fun _ hpast => absurd hpast hopen
  · rename_i r hsome
    have hlink : s.link j = some r := hfits.symm.trans hsome
    split at hcall
    · rename_i story checkpoint hresume _
      obtain rfl := Option.some.inj hcall
      obtain ⟨hpaused, hset⟩ := resume_eq_ok hresume
      have hlength := congrArg List.length hset
      simp only [StoryDatabase.statuses, List.length_map, List.length_set] at hlength
      refine h.setPhase he hrunning rfl rfl hgrounded hlength.ge hlink.symm fun hdone => ?_
      -- the run is running again
      have hdone' : (s.link j).any story.completed = true := hdone
      rw [hlink, Option.any_some] at hdone'
      obtain ⟨status, hcompleted, hstatus⟩ := completed_iff.mp hdone'
      rw [hset, List.getElem?_set_self (List.getElem?_eq_some_iff.mp hpaused).1] at hstatus
      obtain rfl := Option.some.inj hstatus
      simp [completedStatuses] at hcompleted
    · exact absurd hcall (by simp)
    · obtain rfl := Option.some.inj hcall
      exact h.quiet he hrunning trivial fun _ hpast => absurd hpast hopen

/-- **A step of a handler** keeps the job in agreement. -/
theorem agrees_handler (settings : Settings) (h : s.Agrees j)
    (hsafe : Undisturbed j s (.handler i input)) (he : s.jobs.Executing j i e)
    (hrunning : e.phase = .running) (hstep : step services request j i input s = some s')
    (hgrounded : s'.story.grounded = true) : s'.Agrees j := by
  have hfits := h.fits i e he
  unfold step at hstep
  split at hstep
  · rename_i hphase
    obtain rfl := Option.some.inj hstep
    refine h.quiet he hrunning ?_ fun _ hpast => ?_
    · cases checkControl (s.row j) with
      | some outcome => trivial
      | none => simpa only [WorkflowHandler.Fits, hphase] using hfits
    · rw [hphase] at hpast
      exact hpast.elim
  · rename_i hphase
    exact agrees_call h he hrunning hphase hstep hgrounded
  · obtain rfl := Option.some.inj hstep
    exact h.quiet he hrunning trivial fun hdone => absurd hdone hsafe
  · obtain rfl := Option.some.inj hstep
    exact h.quiet he hrunning trivial fun hdone => absurd hdone hsafe
  · obtain rfl := Option.some.inj hstep
    exact h.quiet he hrunning trivial fun hdone => absurd hdone hsafe
  · rename_i g input hphase
    split at hstep
    · rename_i status runId hended hrun
      obtain rfl := Option.some.inj hstep
      simp only [WorkflowHandler.Fits, hphase] at hfits
      refine h.quiet he hrunning (hfits.symm.trans hrun) fun _ hpast => ?_
      simpa only [hphase, HandlerPhase.Past, hended, GraphPhase.Past] using hpast
    · rename_i error hended
      obtain rfl := Option.some.inj hstep
      refine h.quiet he hrunning trivial fun _ hpast => ?_
      simp only [hphase, HandlerPhase.Past, hended, GraphPhase.Past] at hpast
    · exact agrees_execute settings h he hrunning hsafe hphase hstep hgrounded
  · rename_i runId status hphase
    simp only [WorkflowHandler.Fits, hphase] at hfits
    obtain ⟨job, hjob, -⟩ := h.agrees
    have hlink : job.workflowRunId = some runId := by
      rwa [link, hjob] at hfits
    rw [linkWorkflow_of_some hjob hlink] at hstep
    obtain rfl := Option.some.inj hstep
    refine h.quiet he hrunning trivial fun _ hpast => ?_
    rw [hphase] at hpast
    -- a completed run is returned
    have hcompleted : status ∈ completedStatuses := hpast
    simp only [completedStatuses, List.mem_cons, List.not_mem_nil, or_false] at hcompleted
    rcases hcompleted with rfl | rfl <;> trivial
  · exact absurd hstep (by simp)

/-- `_succeed` of a running job in the worker's hands. -/
theorem succeed_of_running {db : Database} {job : Job} {worker : String} (result : String)
    (now : Time) (hjob : db.jobs[j]? = some job) (hworker : job.workerId = some worker)
    (hstatus : job.status = .running) :
    ∃ db' job', JobExecutor.succeed j worker result now db = .ok db' ∧
      db'.jobs[j]? = some job' ∧ job'.status = .succeeded := by
  have t₀ : Tracks db j job.lifecycle [] ⟨db, j, job⟩ := .start
  obtain ⟨s₁, hs₁, t₁⟩ := t₀.transition_ok .succeeded now
    (by simp [hstatus, JobStatus.allowed]) (by simp [hstatus])
  have hs := JobExecutor.ownedJob_eq_ok.mpr ⟨job, hjob, hworker, rfl⟩
  obtain ⟨job', hw, hc⟩ :=
    ((t₁.updateSame (Job.lifecycle_completed · result)).event .jobSucceeded "job.succeeded"
      "Job succeeded").commit hjob
  refine ⟨_, job', ?_, hw.self, congrArg Lifecycle.status hc⟩
  unfold JobExecutor.succeed
  refine Except.bind_eq_ok.mpr ⟨_, hs, ?_⟩
  dsimp only
  rw [if_neg (by simp [hstatus]), if_neg (by simp [hstatus])]
  exact Except.bind_eq_ok.mpr ⟨s₁, hs₁, rfl⟩

/-- **The outcome of a handler** keeps the job in agreement: a handler past the completion
of the run has returned, and the job succeeds. -/
theorem agrees_finish {now : Time} (h : s.Agrees j) (he : s.jobs.Executing j i e)
    (hrunning : e.phase = .running) (hconclude : conclude settings i now s = some s') :
    s'.Agrees j := by
  unfold conclude at hconclude
  split at hconclude
  case h_2 => exact absurd hconclude (by simp)
  rename_i outcome hphase
  obtain ⟨jobs, hnext, rfl⟩ := Option.map_eq_some_iff.mp hconclude
  have ht := JobSystem.next_transacts hnext (by simp)
  have halone := JobSystem.heldAlone_next h.sound h.alone (a := .finish i outcome now) trivial hnext
  obtain ⟨job, hjob, hagrees⟩ := h.agrees
  obtain ⟨job', hjob', hworkflow⟩ := ht.leaves.links j job id hjob
  have hlink : (jobs.db.jobs[j]?).bind (·.workflowRunId) = s.link j := by
    rw [link, hjob, hjob', Option.bind_some, Option.bind_some, hworkflow]
  refine ⟨(JobSystem.next_change h.sound hnext).1, halone, h.grounded,
    fun r hr => h.known r (hlink ▸ hr), fun k f hf => ?_, job', hjob', fun hdone => ?_⟩
  · show (s.handlers k).Fits ((jobs.db.jobs[j]?).bind (·.workflowRunId))
    rcases JobSystem.execution_origin hnext hf.1 hf.2.1 with ⟨g, hg, hp, hgj, -, -⟩ |
      ⟨_, _, _, _, ha, -⟩
    · rw [hlink]
      exact h.fits k g ⟨hg, hp, hgj.symm.trans hf.2.2⟩
    · exact absurd ha (by simp)
  · have hbefore : s.Completed j := by
      have hdone' : ((jobs.db.jobs[j]?).bind (·.workflowRunId)).any s.story.completed = true := hdone
      rwa [hlink] at hdone'
    rcases hagrees hbefore with hst | ⟨hst, k, f, hf, -, hpast⟩
    · obtain ⟨row, hrow, hst'⟩ := JobSystem.succeeded_next h.sound hnext hjob hst
      obtain rfl := Option.some.inj (hrow.symm.trans hjob')
      exact .inl hst'
    · left
      obtain rfl := h.alone.unique k i f e hf he
      rw [hphase] at hpast
      obtain ⟨result, rfl⟩ : ∃ result, outcome = .returned result := by
        cases outcome with
        | returned result => exact ⟨result, rfl⟩
        | _ => exact hpast.elim
      obtain ⟨row, hrow, hholds, -⟩ := h.alone.held k e he
      obtain rfl := Option.some.inj (hrow.symm.trans hjob)
      obtain ⟨db', new, hok, hnew, hst'⟩ := succeed_of_running result now hjob hholds.1 hst
      obtain ⟨_, hget, hjobs⟩ := Option.map_eq_some_iff.mp hnext
      obtain rfl := Option.some.inj ((Option.filter_eq_some_iff.mp hget).1.symm.trans he.1)
      simp only [JobSystem.writeOutcome, he.2.2, hok] at hjobs
      obtain rfl := hjobs
      obtain rfl := Option.some.inj (hnew.symm.trans hjob')
      exact hst'

/-- Other code leaves the job and the completion of its run alone. -/
theorem agrees_otherCode {story : StoryDatabase} (h : s.Agrees j)
    (hlength : s.story.runs.length ≤ story.runs.length)
    (hsame : ∀ r ∈ s.link j, story.completed r = s.story.completed r)
    (hgrounded : story.grounded = true) : Agrees { s with story } j := by
  obtain ⟨job, hjob, hagrees⟩ := h.agrees
  refine ⟨h.sound, h.alone, hgrounded, fun r hr => (h.known r hr).trans_le hlength, h.fits, job,
    hjob, fun hdone => hagrees ?_⟩
  have hdone' : (s.link j).any story.completed = true := hdone
  show (s.link j).any s.story.completed = true
  cases hlink : s.link j with
  | none => simp [hlink] at hdone'
  | some r =>
      rw [hlink, Option.any_some] at hdone'
      rw [Option.any_some, ← hsame r hlink, hdone']

/-- **One step** keeps the job in agreement with its run. -/
theorem agrees_next {a : WorkflowJobAction} (h : s.Agrees j) (hsafe : Undisturbed j s a)
    (hnext : (machine settings services request j).next s a = some s') : s'.Agrees j := by
  obtain ⟨hperform, hgrounded⟩ := Option.filter_eq_some_iff.mp hnext
  cases a with
  | job a => exact agrees_job h hsafe hperform hgrounded
  | handler i input =>
      obtain ⟨e, he, hstep⟩ := Option.bind_eq_some_iff.mp hperform
      obtain ⟨hget, hcond⟩ := Option.filter_eq_some_iff.mp he
      obtain ⟨hj, hrunning⟩ := of_decide_eq_true hcond
      have hexecuting : s.jobs.Executing j i e := ⟨hget, by simp [Execution.InProgress, hrunning], hj⟩
      exact agrees_handler settings h hsafe hexecuting hrunning hstep hgrounded
  | finish i now =>
      obtain ⟨e, he, hconclude⟩ := Option.bind_eq_some_iff.mp hperform
      obtain ⟨hget, hcond⟩ := Option.filter_eq_some_iff.mp he
      obtain ⟨hj, hrunning⟩ := of_decide_eq_true hcond
      have hexecuting : s.jobs.Executing j i e := ⟨hget, by simp [Execution.InProgress, hrunning], hj⟩
      exact agrees_finish h hexecuting hrunning hconclude
  | otherCode story =>
      simp only [perform] at hperform
      split at hperform
      · rename_i hsame
        obtain rfl := Option.some.inj hperform
        exact agrees_otherCode h hsame.1 hsame.2 hgrounded
      · exact absurd hperform (by simp)

/-- A job that nothing executes and that has no run agrees with it. -/
theorem agrees_init (h : (machine settings services request j).init s) : s.Agrees j := by
  obtain ⟨hreachable, hidle, ⟨job, hjob, hlink⟩, hgrounded⟩ := h
  have hnone : ∀ i e, ¬ s.jobs.Executing j i e := fun i e he =>
    hidle e (List.mem_of_getElem? he.1) he.2.2
  have hlink' : s.link j = none := by rw [link, hjob, Option.bind_some, hlink]
  refine ⟨JobSystem.sound_of_reachable hreachable, ⟨fun i k e f he => absurd he (hnone i e),
    fun i e he => absurd he (hnone i e)⟩, hgrounded, fun r hr => ?_,
    fun i e he => absurd he (hnone i e), job, hjob, fun hdone => ?_⟩
  · exact absurd (hlink'.symm.trans hr) (by simp)
  · simp [Completed, hlink'] at hdone

/-- **Whole runs.** In every run whose steps are undisturbed, the job does not end failed
once its workflow run is completed, and it has succeeded when no execution of it is left. -/
theorem agreement_of_reachable
    (h : (machine settings services request j).ReachableUnder (Undisturbed j) s)
    (hdone : s.Completed j) : ∃ job, s.row j = some job ∧
      job.status ≠ .failed ∧ job.status ≠ .deadLettered ∧
        ((∀ i e, ¬ s.jobs.Executing j i e) → job.status = .succeeded) := by
  have hagrees : s.Agrees j := by
    refine h.invariant (I := fun s => s.Agrees j) (fun _ hinit => agrees_init hinit) ?_
    intro _ _ _ _ hagrees hsafe hnext
    exact agrees_next hagrees hsafe hnext
  obtain ⟨job, hjob, hcases⟩ := hagrees.agrees
  refine ⟨job, hjob, ?_⟩
  rcases hcases hdone with hst | ⟨hst, i, e, he, -⟩
  · exact ⟨by simp [hst], by simp [hst], fun _ => hst⟩
  · exact ⟨by simp [hst], by simp [hst], fun hidle => absurd he (hidle i e)⟩

/-! ### A worker that stops after the acceptance -/

/-- A job that runs the workflow of the only chapter. -/
def sampleJob : JobService.JobRequest :=
  { JobSystem.sampleRequest with jobType := .runChapterWorkflow, chapterId := some 0 }

/-- The job system with nothing but the chapter. -/
def withoutJobs : JobSystem := ⟨sampleDatabase.jobTables .empty, [], []⟩

/-- The job was created. -/
def sample : WorkflowJobSystem where
  jobs := (JobSystem.next Settings.defaults withoutJobs (.create sampleJob 0)).getD withoutJobs
  story := sampleDatabase
  checkpoints _ := none
  handlers _ := ⟨none, .checking⟩

theorem machine_init_sample :
    (machine Settings.defaults sampleServices sampleRequest 0).init sample := by
  refine ⟨?_, by decide +kernel, ⟨_, rfl, rfl⟩, by decide +kernel⟩
  exact .step (s := withoutJobs) (a := .create sampleJob 0)
    (.start ⟨rfl, rfl, rfl, rfl, rfl⟩) trivial rfl

/-- The steps of a call as those of the handler of execution `i`. -/
def handled (i : ℕ) (actions : List (WorkflowAction × Option WorkflowRunStatus)) :
    List WorkflowJobAction :=
  actions.filterMap fun (action, _) =>
    match action with
    | .step _ input => some (.handler i input)
    | _ => none

/-- The job is executed up to the transaction of `accept_version`. -/
def untilAccepting : List WorkflowJobAction :=
  [.job (.claim 0 "w" 1)] ++ handled 0 (proceeds 2 ++ untilAcceptance)

/-- The worker stops, and another takes the job over. -/
def takenOver : List WorkflowJobAction :=
  [.job (.crash 0), .job (.recoverExpired (seconds 60)), .job (.claim 0 "w" (seconds 200))]

/-- The worker stops after `accept_version`: the next execution cannot resume the completed
run, and the job fails although the chapter is accepted. -/
theorem agreement_fails :
    ¬ ∀ (settings : Settings) (services : StoryServices) (request : ChapterWorkflowRequest)
      (j : ℕ) (s : WorkflowJobSystem), (machine settings services request j).Reachable s →
      s.Completed j → ∃ job, s.row j = some job ∧
        job.status ≠ .failed ∧ job.status ≠ .deadLettered ∧
          ((∀ i e, ¬ s.jobs.Executing j i e) → job.status = .succeeded) := by
  intro h
  obtain ⟨s, hs, hdone, hfailed⟩ :=
    (machine Settings.defaults sampleServices sampleRequest 0).exists_reachable
      (untilAccepting ++ handled 0 (proceeds 1) ++ takenOver ++ handled 1 (proceeds 2) ++
        [.finish 1 (seconds 201)])
      (fun s => s.Completed 0 ∧ ∀ job ∈ s.row 0, job.status = .failed) machine_init_sample
      (by decide +kernel)
  obtain ⟨job, hjob, hnot, -⟩ := h _ _ _ 0 s hs hdone
  exact hnot (hfailed job hjob)

/-- A worker that stops before the acceptance: the run is resumed, and the job succeeds. -/
theorem agreement_of_reachable_takenOver :
    ∃ s, (machine Settings.defaults sampleServices sampleRequest 0).ReachableUnder
        (Undisturbed 0) s ∧
      (s.story.statuses = [.completed] ∧ s.jobs.executions.map (·.phase) = [.crashed, .finished]) ∧
        ∃ job, s.row 0 = some job ∧ job.status ≠ .failed ∧ job.status ≠ .deadLettered ∧
          ((∀ i e, ¬ s.jobs.Executing 0 i e) → job.status = .succeeded) := by
  obtain ⟨s, hs, hdone, hstate⟩ :=
    (machine Settings.defaults sampleServices sampleRequest 0).exists_reachableUnder (Undisturbed 0)
      (untilAccepting ++ takenOver ++ handled 1 (proceeds 8) ++ [.finish 1 (seconds 201)])
      (fun s => s.Completed 0 ∧ s.story.statuses = [.completed] ∧
        s.jobs.executions.map (·.phase) = [.crashed, .finished]) machine_init_sample
      (by decide +kernel)
  exact ⟨s, hs, hstate, agreement_of_reachable hs hdone⟩

end WorkflowJobSystem

end StoryForge
