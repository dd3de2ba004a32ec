import StoryForge.Jobs.Steps

/-!
# What the transactions of the job system write

Every transaction locks a job, changes its row, appends events to its log, and commits. It
touches little else: the link of a job to its workflow run is written by `_link_workflow`
alone, and of the workflow runs only live ones are paused or cancelled.

## Main results

* `Performs` and its rules — what a transaction in progress has written so far;
* `JobSystem.next_transacts` — what each action writes to the event log, the links and the
  tables of the other services.
-/

namespace StoryForge

/-! ### Events appended by a transaction -/

/-- The part of a database the log is about: the counters and the events. -/
structure LogView where
  sequences : List ℕ
  events : List JobEvent

/-- What the log sees of a database. -/
def Database.logView (db : Database) : LogView :=
  ⟨db.jobs.map (·.eventSequence), db.jobEvents⟩

/-- A transaction creates jobs and appends events, each with the next number of its job. -/
inductive Appends (v : LogView) : LogView → Prop
  | refl : Appends v v
  | create {v' : LogView} (h : Appends v v') : Appends v ⟨v'.sequences ++ [0], v'.events⟩
  | event {v' : LogView} {n : ℕ} (event : JobEvent) (h : Appends v v')
      (hcount : v'.sequences[event.jobId]? = some n) (hnext : event.sequence = n + 1) :
      Appends v ⟨v'.sequences.set event.jobId (n + 1), v'.events ++ [event]⟩

namespace Appends

variable {v v' v'' : LogView}

theorem of_eq (h : v' = v) : Appends v v' := h ▸ .refl

theorem trans (h : Appends v v') (h' : Appends v' v'') : Appends v v'' := by
  induction h' with
  | refl => exact h
  | create _ ih => exact ih.create
  | event row _ hcount hnext ih => exact ih.event row hcount hnext

/-- Every event is of a job that exists. -/
theorem known (h : Appends v v') (hknown : ∀ e ∈ v.events, e.jobId < v.sequences.length) :
    ∀ e ∈ v'.events, e.jobId < v'.sequences.length := by
  induction h with
  | refl => exact hknown
  | create _ ih =>
      intro e he
      rw [List.length_append]
      exact Nat.lt_add_right _ (ih e he)
  | event row _ hcount _ ih =>
      intro e he
      rw [List.length_set]
      rcases List.mem_append.mp he with he | he
      · exact ih e he
      · rw [List.mem_singleton.mp he]
        exact (List.getElem?_eq_some_iff.mp hcount).1

/-- No event is lost. -/
theorem events_extend (h : Appends v v') : v.events <+: v'.events := by
  induction h with
  | refl => exact List.prefix_rfl
  | create _ ih => exact ih
  | event _ _ _ _ ih => exact ih.trans (List.prefix_append _ _)

end Appends

/-- The transaction `s` on a job of `db` has done nothing to the log but append to it. -/
structure Logs (db : Database) (s : JobSession) : Prop where
  found : s.jobId < s.db.jobs.length
  appends : Appends db.logView s.commit.logView

namespace Logs

variable {db db' : Database} {s s' : JobSession}

theorem start {j : ℕ} {job : Job} (hjob : db.jobs[j]? = some job) : Logs db ⟨db, j, job⟩ := by
  obtain ⟨hlt, rfl⟩ := List.getElem?_eq_some_iff.mp hjob
  refine ⟨hlt, .of_eq ?_⟩
  simp [JobSession.commit, Database.logView]

/-- The session changes outside the log. -/
theorem congr (l : Logs db s) (hid : s'.jobId = s.jobId) (hjobs : s'.db.jobs = s.db.jobs)
    (hevents : s'.db.jobEvents = s.db.jobEvents)
    (hseq : s'.job.eventSequence = s.job.eventSequence) : Logs db s' := by
  refine ⟨by rw [hid, hjobs]; exact l.found, ?_⟩
  have hview : s'.commit.logView = s.commit.logView := by
    simp only [JobSession.commit, Database.logView, List.map_set, hid, hjobs, hevents, hseq]
  rw [hview]
  exact l.appends

theorem addOrdered (l : Logs db s) (eventType : JobEventType) (code message : String)
    (worker : Option String) (workflowEventId : Option ℕ) :
    Logs db (s.addOrdered eventType code message worker workflowEventId) := by
  refine ⟨l.found, ?_⟩
  have hcount : s.commit.logView.sequences[s.jobId]? = some s.job.eventSequence := by
    simp [JobSession.commit, Database.logView, l.found]
  let row : JobEvent :=
    { jobId := s.jobId
      sequence := s.job.allocateSequence.eventSequence
      eventType
      status := s.job.status
      step := s.job.currentStep
      progress := s.job.progress
      messageCode := code
      message
      attempt := s.job.attempt
      workerId := worker
      workflowEventId }
  have happends : Appends db.logView
      ⟨s.commit.logView.sequences.set s.jobId (s.job.eventSequence + 1),
        s.commit.logView.events ++ [row]⟩ := l.appends.event row hcount rfl
  simpa [JobSession.addOrdered, JobSession.commit, Database.logView, Job.allocateSequence, row]
    using happends

end Logs

/-! ### Tables of the other services -/

/-- The statuses of a workflow run that may still be paused or cancelled. -/
def liveRunStatuses : List WorkflowRunStatus := [.pending, .running, .paused]

/-- The jobs outside of `linking` keep their links, live runs may be paused or cancelled,
and no chapter comes or goes. -/
structure Database.Leaves (linking : ℕ → Prop) (db db' : Database) : Prop where
  links : ∀ (j : ℕ) (job : Job), ¬ linking j → db.jobs[j]? = some job →
    ∃ job', db'.jobs[j]? = some job' ∧ job'.workflowRunId = job.workflowRunId
  runs : ∀ r : ℕ, db'.workflowRuns[r]?.map (·.status) = db.workflowRuns[r]?.map (·.status) ∨
    (∃ status ∈ liveRunStatuses, db.workflowRuns[r]?.map (·.status) = some status) ∧
      ∃ status ∈ [WorkflowRunStatus.paused, .cancelled],
        db'.workflowRuns[r]?.map (·.status) = some status
  chapters : db'.chapters.length = db.chapters.length

namespace Database.Leaves

variable {linking : ℕ → Prop} {db db' db'' : Database}

theorem refl (db : Database) : db.Leaves linking db where
  links _ job _ hjob := ⟨job, hjob, rfl⟩
  runs _ := .inl rfl
  chapters := rfl

theorem trans (h : db.Leaves linking db') (h' : db'.Leaves linking db'') :
    db.Leaves linking db'' where
  links j job hj hjob := by
    obtain ⟨job', hjob', hlink⟩ := h.links j job hj hjob
    obtain ⟨job'', hjob'', hlink'⟩ := h'.links j job' hj hjob'
    exact ⟨job'', hjob'', hlink'.trans hlink⟩
  runs r := by
    rcases h.runs r with heq | ⟨hlive, status, hstatus, hpaused⟩
    · rcases h'.runs r with heq' | ⟨hlive', hset'⟩
      · exact .inl (heq'.trans heq)
      · exact .inr ⟨heq ▸ hlive', hset'⟩
    · rcases h'.runs r with heq' | ⟨-, hset'⟩
      · exact .inr ⟨hlive, status, hstatus, heq'.trans hpaused⟩
      · exact .inr ⟨hlive, hset'⟩
  chapters := h'.chapters.trans h.chapters

/-- Only the jobs change, and they keep their links. -/
theorem of_jobs
    (hlinks : ∀ (j : ℕ) (job : Job), ¬ linking j → db.jobs[j]? = some job →
      ∃ job', db'.jobs[j]? = some job' ∧ job'.workflowRunId = job.workflowRunId)
    (hruns : db'.workflowRuns = db.workflowRuns) (hchapters : db'.chapters = db.chapters) :
    db.Leaves linking db' :=
  ⟨hlinks, fun r => .inl (by rw [hruns]), by rw [hchapters]⟩

/-- One job is written back. -/
theorem of_set {j : ℕ} {job job' : Job} (hjob : db.jobs[j]? = some job)
    (hjobs : db'.jobs = db.jobs.set j job')
    (hlink : linking j ∨ job'.workflowRunId = job.workflowRunId)
    (hruns : db'.workflowRuns = db.workflowRuns) (hchapters : db'.chapters = db.chapters) :
    db.Leaves linking db' := by
  refine .of_jobs (fun i row hi hrow => ?_) hruns hchapters
  by_cases hij : j = i
  · subst hij
    obtain rfl := Option.some.inj (hjob.symm.trans hrow)
    rw [hjobs, List.getElem?_set_self (List.getElem?_eq_some_iff.mp hjob).1]
    exact ⟨job', rfl, hlink.resolve_left hi⟩
  · rw [hjobs, List.getElem?_set_ne hij]
    exact ⟨row, hrow, rfl⟩

/-- A live run is paused or cancelled. -/
theorem of_run {r : ℕ} {run run' : WorkflowRun} (hrun : db.workflowRuns[r]? = some run)
    (hlive : run.status ∈ liveRunStatuses)
    (hset : run'.status ∈ [WorkflowRunStatus.paused, .cancelled]) (hjobs : db'.jobs = db.jobs)
    (hruns : db'.workflowRuns = db.workflowRuns.set r run')
    (hchapters : db'.chapters.length = db.chapters.length) : db.Leaves linking db' := by
  refine ⟨fun j job _ hjob => ⟨job, by rw [hjobs, hjob], rfl⟩, fun i => ?_, hchapters⟩
  by_cases hi : r = i
  · subst hi
    refine .inr ⟨⟨run.status, hlive, by rw [hrun]; rfl⟩, run'.status, hset, ?_⟩
    rw [hruns, List.getElem?_set_self (List.getElem?_eq_some_iff.mp hrun).1]
    rfl
  · rw [hruns, List.getElem?_set_ne hi]
    exact .inl rfl

end Database.Leaves

/-- A transaction appends to the event log and leaves the other tables alone. -/
structure Transacts (linking : ℕ → Prop) (db db' : Database) : Prop where
  appends : Appends db.logView db'.logView
  leaves : db.Leaves linking db'

namespace Transacts

variable {linking : ℕ → Prop} {db db' db'' : Database}

theorem refl (db : Database) : Transacts linking db db := ⟨.refl, .refl db⟩

theorem trans (h : Transacts linking db db') (h' : Transacts linking db' db'') :
    Transacts linking db db'' :=
  ⟨h.appends.trans h'.appends, h.leaves.trans h'.leaves⟩

/-- A job is created. -/
theorem create (db : Database) {job : Job} (hseq : job.eventSequence = 0) :
    Transacts linking db { db with jobs := db.jobs ++ [job] } where
  appends := by
    have h : ({ db with jobs := db.jobs ++ [job] } : Database).logView =
        ⟨db.logView.sequences ++ [0], db.logView.events⟩ := by
      simp [Database.logView, hseq]
    exact h ▸ Appends.refl.create
  leaves := .of_jobs (fun j row _ hrow =>
    ⟨row, by rw [List.getElem?_append_left (List.getElem?_eq_some_iff.mp hrow).1, hrow], rfl⟩)
    rfl rfl

/-- What is written to the outbox does not matter. -/
theorem of_outbox {outbox : List OutboxMessage} (h : Transacts linking { db with outbox } db') :
    Transacts linking db db' :=
  ⟨h.appends, h.leaves.links, h.leaves.runs, h.leaves.chapters⟩

end Transacts

/-- The transaction `s` on a job of `db` has written to the log and to its job. -/
structure Performs (linking : ℕ → Prop) (db : Database) (s : JobSession) : Prop
    extends Logs db s where
  leaves : db.Leaves linking s.commit

namespace Performs

variable {linking : ℕ → Prop} {db db' : Database} {s s' : JobSession}

/-- Committing writes what was performed. -/
theorem commit (p : Performs linking db s) : Transacts linking db s.commit :=
  ⟨p.appends, p.leaves⟩

theorem start (linking : ℕ → Prop) {j : ℕ} {job : Job} (hjob : db.jobs[j]? = some job) :
    Performs linking db ⟨db, j, job⟩ :=
  ⟨.start hjob, .of_set hjob rfl (.inr rfl) rfl rfl⟩

/-- The row the session commits. -/
theorem row (p : Performs linking db s) : s.commit.jobs[s.jobId]? = some s.job := by
  rw [JobSession.commit, List.getElem?_set_self p.found]

/-- The session changes outside the log, the jobs and the other tables. -/
theorem congr (p : Performs linking db s) (hid : s'.jobId = s.jobId)
    (hjobs : s'.db.jobs = s.db.jobs) (hevents : s'.db.jobEvents = s.db.jobEvents)
    (hseq : s'.job.eventSequence = s.job.eventSequence)
    (hlink : linking s.jobId ∨ s'.job.workflowRunId = s.job.workflowRunId)
    (hruns : s'.db.workflowRuns = s.db.workflowRuns)
    (hchapters : s'.db.chapters = s.db.chapters) : Performs linking db s' := by
  refine ⟨p.toLogs.congr hid hjobs hevents hseq, p.leaves.trans ?_⟩
  have hset : s'.commit.jobs = s.commit.jobs.set s.jobId s'.job := by
    simp only [JobSession.commit, hid, hjobs, List.set_set]
  exact .of_set p.row hset hlink hruns hchapters

theorem update (p : Performs linking db s) {f : Job → Job}
    (hf : ∀ job, (f job).eventSequence = job.eventSequence ∧
      (f job).workflowRunId = job.workflowRunId) : Performs linking db (s.update f) :=
  p.congr rfl rfl rfl (hf s.job).1 (.inr (hf s.job).2) rfl rfl

theorem transition (p : Performs linking db s) {target : JobStatus} {now : Time}
    (h : s.transition target now = .ok s') : Performs linking db s' := by
  rcases JobSession.transition_eq_ok.mp h with ⟨-, rfl⟩ | ⟨-, rfl, -⟩
  · exact p
  · exact p.update fun job =>
      ⟨job.enter_eventSequence target now, job.enter_workflowRunId target now⟩

theorem addOrdered (p : Performs linking db s) (eventType : JobEventType)
    (code message : String) (worker : Option String) (workflowEventId : Option ℕ) :
    Performs linking db (s.addOrdered eventType code message worker workflowEventId) := by
  refine ⟨p.toLogs.addOrdered _ _ _ _ _, p.leaves.trans ?_⟩
  have hset : (s.addOrdered eventType code message worker workflowEventId).commit.jobs =
      s.commit.jobs.set s.jobId s.job.allocateSequence := by
    simp only [JobSession.commit, JobSession.addOrdered, List.set_set]
  exact .of_set p.row hset (.inr rfl) rfl rfl

theorem event (p : Performs linking db s) (eventType : JobEventType) (code message : String) :
    Performs linking db (s.event eventType code message) :=
  p.addOrdered _ _ _ _ _

theorem outbox (p : Performs linking db s) (outbox : List OutboxMessage) :
    Performs linking db { s with db := { s.db with outbox } } :=
  p.congr rfl rfl rfl rfl (.inr rfl) rfl rfl

theorem createOutbox (p : Performs linking db s) (reason : EnqueueReason) (now : Time) :
    Performs linking db (JobService.createOutbox s reason now) := by
  unfold JobService.createOutbox
  dsimp only
  split
  · exact p
  · exact p.outbox _

theorem retryOutbox (p : Performs linking db s) (h : JobExecutor.retryOutbox s = .ok s') :
    Performs linking db s' := by
  unfold JobExecutor.retryOutbox at h
  dsimp only at h
  split at h
  · exact absurd h (by simp)
  · obtain rfl := Except.ok.inj h
    exact p.outbox _

theorem cancelLinkedWorkflow (p : Performs linking db s) {now : Time}
    (h : JobService.cancelLinkedWorkflow s now = .ok s') : Performs linking db s' := by
  unfold JobService.cancelLinkedWorkflow at h
  split at h
  · exact Except.ok.inj h ▸ p
  · split at h
    · exact Except.ok.inj h ▸ p
    · rename_i run hrun
      split at h
      · exact Except.ok.inj h ▸ p
      · rename_i hlive
        obtain ⟨run', hrun', h⟩ := Except.bind_eq_ok.mp h
        have hcancelled := status_of_transitionWorkflow hrun'
        obtain rfl := Except.pure_eq_ok.mp h
        refine ⟨p.toLogs.congr rfl rfl rfl rfl, p.leaves.trans ?_⟩
        have hset : ({ run' with currentNode := "cancelled", finishedAt := some now } :
            WorkflowRun).status ∈ [WorkflowRunStatus.paused, .cancelled] := by
          simp [hcancelled]
        exact .of_run hrun (not_not.mp hlive) hset rfl rfl (List.length_modify _ _ _)

theorem pauseWorkflow (p : Performs linking db s) {db₁ : Database} {runId : Option ℕ}
    (h : JobExecutor.pauseWorkflow s.db runId = .ok db₁) :
    Performs linking db { s with db := db₁ } := by
  unfold JobExecutor.pauseWorkflow at h
  split at h
  · exact Except.ok.inj h ▸ p
  · split at h
    · exact Except.ok.inj h ▸ p
    · rename_i run hrun
      split at h
      · exact Except.ok.inj h ▸ p
      · rename_i hrunning
        obtain ⟨run', hrun', h⟩ := Except.map_eq_ok.mp h
        have hpaused := status_of_transitionWorkflow hrun'
        subst h
        refine ⟨p.toLogs.congr rfl rfl rfl rfl, p.leaves.trans ?_⟩
        have hlive : run.status ∈ liveRunStatuses := by
          rw [not_not.mp hrunning]
          simp [liveRunStatuses]
        have hset : run'.status ∈ [WorkflowRunStatus.paused, .cancelled] := by simp [hpaused]
        exact .of_run hrun hlive hset rfl rfl rfl

end Performs

/-! ### Transactions -/

namespace JobService

variable {settings : Settings} {j : ℕ} {now : Time} {db db' : Database} {linking : ℕ → Prop}

theorem requestCancel_transacts (h : requestCancel j now db = .ok db') :
    Transacts linking db db' := by
  unfold requestCancel at h
  obtain ⟨s, hs, h⟩ := Except.bind_eq_ok.mp h
  obtain ⟨job, hjob, rfl⟩ := JobSession.requireLocked_eq_ok.mp hs
  dsimp only at h
  split at h
  · exact Except.pure_eq_ok.mp h ▸ .refl _
  split at h
  · exact absurd h (by simp)
  obtain ⟨s₁, hs₁, h⟩ := Except.bind_eq_ok.mp h
  have l := (((Performs.start linking hjob).transition hs₁).update
    (f := (Job.stampCancelRequest · now)) fun _ => ⟨rfl, rfl⟩).event
      .cancelRequested "job.cancel_requested" "Cancellation requested"
  split at h
  · obtain ⟨s₂, hs₂, h⟩ := Except.bind_eq_ok.mp h
    obtain ⟨s₃, hs₃, h⟩ := Except.map_eq_ok.mp h
    exact h ▸ (((l.transition hs₂).cancelLinkedWorkflow hs₃).event _ _ _).commit
  · exact Except.pure_eq_ok.mp h ▸ l.commit

theorem requestPause_transacts (h : requestPause j now db = .ok db') :
    Transacts linking db db' := by
  unfold requestPause at h
  obtain ⟨s, hs, h⟩ := Except.bind_eq_ok.mp h
  obtain ⟨job, hjob, rfl⟩ := JobSession.requireLocked_eq_ok.mp hs
  dsimp only at h
  split at h
  · exact Except.pure_eq_ok.mp h ▸ .refl _
  split at h
  · exact absurd h (by simp)
  obtain ⟨s₁, hs₁, h⟩ := Except.bind_eq_ok.mp h
  have l := ((Performs.start linking hjob).transition hs₁).event
    .pauseRequested "job.pause_requested" "Pause requested"
  split at h
  · obtain ⟨s₂, hs₂, h⟩ := Except.map_eq_ok.mp h
    exact h ▸ ((l.transition hs₂).event _ _ _).commit
  · exact Except.pure_eq_ok.mp h ▸ l.commit

theorem resume_transacts (h : resume j now db = .ok db') : Transacts linking db db' := by
  unfold resume at h
  obtain ⟨s, hs, h⟩ := Except.bind_eq_ok.mp h
  obtain ⟨job, hjob, rfl⟩ := JobSession.requireLocked_eq_ok.mp hs
  dsimp only at h
  split at h
  · exact absurd h (by simp)
  obtain ⟨s₁, hs₁, h⟩ := Except.map_eq_ok.mp h
  have l := (((Performs.start linking hjob).transition hs₁).update (f := Job.clearFinished) fun _ => ⟨rfl, rfl⟩).event
    .resumeRequested "job.resume_requested" "Job resume requested"
  exact h ▸ (l.createOutbox _ _).commit

theorem retryDeadLetter_transacts (h : retryDeadLetter j now db = .ok db') :
    Transacts linking db db' := by
  unfold retryDeadLetter at h
  obtain ⟨s, hs, h⟩ := Except.bind_eq_ok.mp h
  obtain ⟨job, hjob, rfl⟩ := JobSession.requireLocked_eq_ok.mp hs
  dsimp only at h
  split at h
  · exact absurd h (by simp)
  split at h
  · exact absurd h (by simp)
  obtain ⟨s₁, hs₁, h⟩ := Except.map_eq_ok.mp h
  have l := (((Performs.start linking hjob).transition hs₁).update
    (f := (Job.freshAttempts · now)) fun _ => ⟨rfl, rfl⟩).event
      .resumeRequested "job.dlq_retry_requested" "Dead-letter retry requested"
  exact h ▸ (l.createOutbox _ _).commit

theorem discardDeadLetter_transacts (h : discardDeadLetter j db = .ok db') :
    Transacts linking db db' := by
  unfold discardDeadLetter at h
  obtain ⟨s, hs, h⟩ := Except.bind_eq_ok.mp h
  obtain ⟨job, hjob, rfl⟩ := JobSession.requireLocked_eq_ok.mp hs
  split at h
  · exact absurd h (by simp)
  · have l := (Performs.start linking hjob).update (f := Job.markDiscarded) fun _ => ⟨rfl, rfl⟩
    exact Except.pure_eq_ok.mp h ▸ (l.event _ _ _).commit

theorem recordEvent_transacts {event : EventRequest} (h : recordEvent j event db = .ok db') :
    Transacts linking db db' := by
  unfold recordEvent at h
  obtain ⟨s, hs, h⟩ := Except.bind_eq_ok.mp h
  obtain ⟨job, hjob, rfl⟩ := JobSession.requireLocked_eq_ok.mp hs
  dsimp only at h
  split at h
  · exact absurd h (by simp)
  · have l := (Performs.start linking hjob).update
      (f := (Job.recordProgress · event.step event.progress)) fun _ => ⟨rfl, rfl⟩
    exact Except.pure_eq_ok.mp h ▸ (l.addOrdered _ _ _ _ _).commit

/-- Admission creates a job and appends its first event. -/
theorem insert_transacts {request : JobRequest} {r : ℕ × Database}
    (h : insert settings request now db = .ok r) : Transacts linking db r.2 := by
  unfold insert at h
  obtain ⟨-, -, h⟩ := Except.bind_eq_ok.mp h
  obtain ⟨-, -, h⟩ := Except.bind_eq_ok.mp h
  obtain ⟨-, -, h⟩ := Except.bind_eq_ok.mp h
  obtain ⟨-, -, h⟩ := Except.map_eq_ok.mp h
  subst h
  let db₀ : Database := { db with jobs := db.jobs ++ [newJob settings request now] }
  have hnew : db₀.jobs[db.jobs.length]? = some (newJob settings request now) := by simp [db₀]
  have l := ((Performs.start linking hnew).event .jobCreated "job.created" "Job created").createOutbox
    .create now
  exact (Transacts.create db rfl).trans l.commit

end JobService

theorem linkWorkflow_transacts {j workflowRunId : ℕ} {db db' : Database} {linking : ℕ → Prop}
    (hj : linking j) (h : linkWorkflow j workflowRunId db = .ok db') :
    Transacts linking db db' := by
  unfold linkWorkflow at h
  split at h
  · exact Except.ok.inj h ▸ .refl _
  rename_i job hjob
  split at h
  · exact Except.ok.inj h ▸ .refl _
  split at h
  · exact absurd h (by simp)
  · have p : Performs linking db ⟨db, j, job.linkWorkflow workflowRunId⟩ :=
      (Performs.start linking hjob).congr rfl rfl rfl rfl (.inl hj) rfl rfl
    exact Except.ok.inj h ▸ p.commit

namespace OutboxDispatcher

variable {settings : Settings} {now : Time} {db db' : Database} {linking : ℕ → Prop}

theorem recordPublished_transacts (rowId : ℕ) (now : Time) (db : Database) :
    Transacts linking db (recordPublished rowId now db) := by
  unfold recordPublished
  split
  · exact .refl _
  split
  · exact .refl _
  dsimp only
  split
  · exact .of_outbox (.refl _)
  rename_i row _ _ _ job hjob
  split
  · let db₀ : Database := { db with outbox := db.outbox.set rowId (publishedRow now row) }
    have l : Performs linking db₀ ⟨db₀, row.aggregateId, job⟩ := .start linking hjob
    have l₁ := l.update (f := (Job.queuedNow · now)) fun _ => ⟨rfl, rfl⟩
    exact .of_outbox (l₁.addOrdered _ _ _ _ _).commit
  · exact .of_outbox (.refl _)

theorem recordFailure_transacts {rowId : ℕ} {error : JobService.Raised}
    (h : recordFailure settings rowId error now db = .ok db') :
    Transacts linking db db' := by
  unfold recordFailure at h
  dsimp only at h
  split at h
  · exact Except.ok.inj h ▸ .refl _
  rename_i row _
  split at h
  swap
  · exact Except.ok.inj h ▸ .of_outbox (.refl _)
  split at h
  · exact Except.ok.inj h ▸ .of_outbox (.refl _)
  rename_i job hjob
  split at h
  swap
  · exact Except.ok.inj h ▸ .of_outbox (.refl _)
  obtain ⟨s₁, hs₁, h⟩ := Except.bind_eq_ok.mp h
  obtain ⟨s₂, hs₂, h⟩ := Except.map_eq_ok.mp h
  let db₀ : Database := { db with
    outbox := db.outbox.set rowId (failedRow row (truncate 1000
      s!"{(JobService.safeError settings error).1}: {(JobService.safeError settings error).2}")) }
  have l₀ : Performs linking db₀ ⟨db₀, row.aggregateId, job⟩ := .start linking hjob
  have l₁ : Performs linking db₀ s₁ := by
    unfold failUnpublished at hs₁
    split at hs₁
    · exact l₀.transition hs₁
    · exact Except.ok.inj hs₁ ▸ l₀
  have l₂ := (l₁.transition hs₂).update (f := Job.publishFailed) fun _ => ⟨rfl, rfl⟩
  exact .of_outbox (h ▸ (l₂.addOrdered _ _ _ _ _).commit)

theorem recoverStrandedJob_transacts {i : ℕ} (h : recoverStrandedJob now db i = .ok db') :
    Transacts linking db db' := by
  unfold recoverStrandedJob at h
  split at h
  · exact Except.pure_eq_ok.mp h ▸ .refl _
  split at h
  · exact Except.pure_eq_ok.mp h ▸ .refl _
  split at h
  · exact Except.pure_eq_ok.mp h ▸ .refl _
  obtain ⟨s, hs, h⟩ := Except.bind_eq_ok.mp h
  obtain ⟨job, hjob, rfl⟩ := JobSession.requireLocked_eq_ok.mp hs
  obtain ⟨s₁, hs₁, h⟩ := Except.map_eq_ok.mp h
  have l := ((Performs.start linking hjob).transition hs₁).update
    (f := (Job.availableFrom · now)) fun _ => ⟨rfl, rfl⟩
  exact h ▸ ((l.outbox _).addOrdered _ _ _ _ _).commit

theorem recoverStranded_transacts (h : recoverStranded settings now db = .ok db') :
    Transacts linking db db' :=
  Except.foldlM_invariant (I := fun b => Transacts linking db b)
    (fun _ _ _ _ hb hrun => hb.trans (recoverStrandedJob_transacts hrun)) (.refl _) h

end OutboxDispatcher

namespace JobExecutor

variable {settings : Settings} {j : ℕ} {worker : String} {now : Time} {db db' : Database} {linking : ℕ → Prop}
  {error : JobService.Raised}

theorem claim_transacts (h : claim settings j worker now db = .ok (some db')) :
    Transacts linking db db' := by
  unfold claim JobRepository.claim at h
  split at h
  · exact absurd h (by simp)
  rename_i s hs
  split at hs
  · exact absurd hs (by simp)
  rename_i job hjob
  split at hs
  swap
  · exact absurd hs (by simp)
  obtain rfl := Option.some.inj hs
  dsimp only at h
  obtain ⟨s₁, hs₁, h⟩ := Except.bind_eq_ok.mp h
  have l₀ := ((Performs.start linking hjob).update
    (f := (Job.leasedBy · worker now (now + settings.jobLease))) fun _ => ⟨rfl, rfl⟩).event
      .jobLeased "job.leased" "Job leased by worker"
  have l₁ := (l₀.transition hs₁).update (f := (Job.started · now)) fun _ => ⟨rfl, rfl⟩
  exact Option.some.inj (Except.pure_eq_ok.mp h) ▸ (l₁.event _ _ _).commit

theorem heartbeat_transacts (settings : Settings) (j : ℕ) (worker : String) (now : Time)
    (db : Database) : Transacts linking db (heartbeat settings j worker now db) := by
  unfold heartbeat
  split
  · exact .refl _
  rename_i job hjob
  split
  · exact .refl _
  · exact ((Performs.start linking hjob).update (f := (Job.renewed · now (now + settings.jobLease)))
      fun _ => ⟨rfl, rfl⟩).commit

/-- An outcome writer starts from the locked row. -/
theorem performs_of_ownedJob (linking : ℕ → Prop) {s : JobSession} (h : ownedJob db j worker = .ok s) : Performs linking db s := by
  obtain ⟨job, hjob, -, rfl⟩ := ownedJob_eq_ok.mp h
  exact .start linking hjob

theorem succeed_transacts {result : String} (h : succeed j worker result now db = .ok db') :
    Transacts linking db db' := by
  unfold succeed at h
  obtain ⟨s, hs, h⟩ := Except.bind_eq_ok.mp h
  have l := performs_of_ownedJob linking hs
  split at h
  · obtain ⟨s₁, hs₁, h⟩ := Except.map_eq_ok.mp h
    exact h ▸ ((l.transition hs₁).event _ _ _).commit
  split at h
  · obtain ⟨s₁, hs₁, h⟩ := Except.map_eq_ok.mp h
    exact h ▸ ((l.transition hs₁).event _ _ _).commit
  · obtain ⟨s₁, hs₁, h⟩ := Except.map_eq_ok.mp h
    have l₁ := (l.transition hs₁).update (f := (Job.completed · result)) fun _ => ⟨rfl, rfl⟩
    exact h ▸ (l₁.event _ _ _).commit

theorem cancel_transacts (h : cancel j worker now db = .ok db') :
    Transacts linking db db' := by
  unfold cancel at h
  obtain ⟨s, hs, h⟩ := Except.bind_eq_ok.mp h
  obtain ⟨s₁, hs₁, h⟩ := Except.bind_eq_ok.mp h
  obtain ⟨s₂, hs₂, h⟩ := Except.map_eq_ok.mp h
  exact h ▸ ((((performs_of_ownedJob linking hs).transition hs₁).transition hs₂).event _ _ _).commit

theorem pause_transacts (h : pause j worker now db = .ok db') :
    Transacts linking db db' := by
  unfold pause at h
  obtain ⟨s, hs, h⟩ := Except.bind_eq_ok.mp h
  obtain ⟨s₁, hs₁, h⟩ := Except.bind_eq_ok.mp h
  obtain ⟨s₂, hs₂, h⟩ := Except.map_eq_ok.mp h
  have l := (((performs_of_ownedJob linking hs).transition hs₁).transition hs₂).update
    (f := Job.releaseLease) fun _ => ⟨rfl, rfl⟩
  exact h ▸ (l.event _ _ _).commit

theorem fail_transacts (h : fail settings j worker error now db = .ok db') :
    Transacts linking db db' := by
  unfold fail at h
  obtain ⟨s, hs, h⟩ := Except.bind_eq_ok.mp h
  obtain ⟨s₁, hs₁, h⟩ := Except.map_eq_ok.mp h
  have l := ((performs_of_ownedJob linking hs).transition hs₁).update
    (f := (Job.storeError · (JobService.safeError settings error))) fun _ => ⟨rfl, rfl⟩
  exact h ▸ (l.event _ _ _).commit

theorem retryOrDeadLetter_transacts (h : retryOrDeadLetter settings j worker error now db = .ok db') :
    Transacts linking db db' := by
  unfold retryOrDeadLetter at h
  obtain ⟨s, hs, h⟩ := Except.bind_eq_ok.mp h
  have l := (performs_of_ownedJob linking hs).update
    (f := (Job.storeError · (JobService.safeError settings error))) fun _ => ⟨rfl, rfl⟩
  dsimp only at h
  split at h
  · obtain ⟨s₂, hs₂, h⟩ := Except.bind_eq_ok.mp h
    obtain ⟨s₃, hs₃, h⟩ := Except.map_eq_ok.mp h
    exact h ▸ (((l.transition hs₂).transition hs₃).event _ _ _).commit
  · obtain ⟨s₂, hs₂, h⟩ := Except.bind_eq_ok.mp h
    obtain ⟨s₃, hs₃, h⟩ := Except.map_eq_ok.mp h
    have l₂ := (l.transition hs₂).update (f := (Job.releaseForRetry · now)) fun _ => ⟨rfl, rfl⟩
    exact h ▸ ((l₂.retryOutbox hs₃).event _ _ _).commit

theorem recoverExpiredJob_transacts (h : recoverExpiredJob now db j = .ok db') :
    Transacts linking db db' := by
  unfold recoverExpiredJob at h
  obtain ⟨s, hs, h⟩ := Except.bind_eq_ok.mp h
  obtain ⟨job, hjob, rfl⟩ := JobSession.requireLocked_eq_ok.mp hs
  obtain ⟨db₁, hdb₁, h⟩ := Except.bind_eq_ok.mp h
  have l := (Performs.start linking hjob).pauseWorkflow hdb₁
  dsimp only at h
  split at h
  · obtain ⟨s₂, hs₂, h⟩ := Except.bind_eq_ok.mp h
    obtain ⟨s₃, hs₃, h⟩ := Except.map_eq_ok.mp h
    exact h ▸ (((l.transition hs₂).transition hs₃).event _ _ _).commit
  · obtain ⟨s₂, hs₂, h⟩ := Except.bind_eq_ok.mp h
    obtain ⟨s₃, hs₃, h⟩ := Except.map_eq_ok.mp h
    have l₂ := (l.transition hs₂).update (f := (Job.releaseForRetry · now)) fun _ => ⟨rfl, rfl⟩
    exact h ▸ ((l₂.retryOutbox hs₃).event _ _ _).commit

theorem recoverExpired_transacts (h : recoverExpired now db = .ok db') :
    Transacts linking db db' :=
  Except.foldlM_invariant (I := fun b => Transacts linking db b)
    (fun _ _ _ _ hb hrun => hb.trans (recoverExpiredJob_transacts hrun)) (.refl _) h

end JobExecutor

/-! ### Actions -/

/-- Whether an action links job `j` to a workflow run. -/
def Action.Links (s : JobSystem) (a : Action) (j : ℕ) : Prop :=
  match a with
  | .linkWorkflow i _ => ∃ e, s.executions[i]? = some e ∧ e.jobId = j
  | _ => False

namespace JobSystem

variable {settings : Settings} {s s' : JobSystem} {a : Action} {linking : ℕ → Prop}

theorem writeOutcome_transacts {e : Execution} {outcome : Outcome} {now : Time}
    {db db' : Database} (h : writeOutcome settings e outcome now db = .ok db') :
    Transacts linking db db' := by
  cases outcome with
  | returned result => exact JobExecutor.succeed_transacts h
  | cancelled => exact JobExecutor.cancel_transacts h
  | paused => exact JobExecutor.pause_transacts h
  | retryable error => exact JobExecutor.retryOrDeadLetter_transacts h
  | failed error => exact JobExecutor.fail_transacts h

/-- A transaction appends when it commits, and does nothing when it rolls back. -/
theorem transacts_commitOr {transaction : Except Error Database}
    (h : ∀ db', transaction = .ok db' → Transacts linking s.db db') :
    Transacts linking s.db (s.commitOr transaction).db :=
  commitOr_db (P := fun db => Transacts linking s.db db) (.refl _) h

/-- **One step** appends to the event log, and leaves the links and the other services alone:
only `_link_workflow` links its job. -/
theorem next_transacts (h : next settings s a = some s')
    (hservices : ∀ projects chapters runs, a ≠ .environment projects chapters runs) :
    Transacts (a.Links s) s.db s'.db := by
  cases a with
  | create request now =>
      obtain rfl := Option.some.inj h
      refine transacts_commitOr fun db' hdb' => ?_
      obtain ⟨r, hr, rfl⟩ := Except.map_eq_ok.mp hdb'
      exact JobService.insert_transacts hr
  | requestCancel jobId now =>
      obtain rfl := Option.some.inj h
      exact transacts_commitOr fun _ => JobService.requestCancel_transacts
  | requestPause jobId now =>
      obtain rfl := Option.some.inj h
      exact transacts_commitOr fun _ => JobService.requestPause_transacts
  | resume jobId now =>
      obtain rfl := Option.some.inj h
      exact transacts_commitOr fun _ => JobService.resume_transacts
  | retryDeadLetter jobId now =>
      obtain rfl := Option.some.inj h
      exact transacts_commitOr fun _ => JobService.retryDeadLetter_transacts
  | discardDeadLetter jobId =>
      obtain rfl := Option.some.inj h
      exact transacts_commitOr fun _ => JobService.discardDeadLetter_transacts
  | claimBatch dispatcherId now =>
      obtain rfl := Option.some.inj h
      exact .of_outbox (.refl _)
  | published dispatch now =>
      obtain ⟨rowId, -, rfl⟩ := Option.map_eq_some_iff.mp h
      exact OutboxDispatcher.recordPublished_transacts rowId now s.db
  | publishFailed dispatch error now =>
      obtain ⟨rowId, -, rfl⟩ := Option.map_eq_some_iff.mp h
      exact transacts_commitOr (s := s.dropRow dispatch)
        fun _ => OutboxDispatcher.recordFailure_transacts
  | recoverStranded now =>
      obtain rfl := Option.some.inj h
      exact transacts_commitOr fun _ => OutboxDispatcher.recoverStranded_transacts
  | claim jobId workerId now =>
      simp only [next] at h
      split at h
      · rename_i db' hdb'
        obtain rfl := Option.some.inj h
        exact JobExecutor.claim_transacts hdb'
      · obtain rfl := Option.some.inj h
        exact .refl _
  | heartbeat i now =>
      obtain ⟨e, -, rfl⟩ := Option.map_eq_some_iff.mp h
      exact JobExecutor.heartbeat_transacts settings e.jobId e.workerId now s.db
  | recordEvent i event =>
      obtain ⟨e, -, rfl⟩ := Option.map_eq_some_iff.mp h
      exact transacts_commitOr fun _ => JobService.recordEvent_transacts
  | linkWorkflow i workflowRunId =>
      obtain ⟨e, he, rfl⟩ := Option.map_eq_some_iff.mp h
      exact transacts_commitOr fun _ => linkWorkflow_transacts ⟨e, (inProgress_eq_some.mp he).1, rfl⟩
  | finish i outcome now =>
      obtain ⟨e, -, hs'⟩ := Option.map_eq_some_iff.mp h
      split at hs'
      · rename_i db' hdb'
        subst hs'
        exact writeOutcome_transacts hdb'
      · subst hs'
        exact .refl _
  | failAfter i now =>
      obtain ⟨e, -, hs'⟩ := Option.bind_eq_some_iff.mp h
      split at hs'
      · obtain rfl := Option.some.inj hs'
        exact transacts_commitOr (s := s.setPhase i .finished) fun _ => JobExecutor.fail_transacts
      · exact absurd hs' (by simp)
  | crash i =>
      obtain ⟨e, -, rfl⟩ := Option.map_eq_some_iff.mp h
      exact .refl _
  | recoverExpired now =>
      obtain rfl := Option.some.inj h
      exact transacts_commitOr fun _ => JobExecutor.recoverExpired_transacts
  | environment projects chapters workflowRuns =>
      exact absurd rfl (hservices projects chapters workflowRuns)

end JobSystem

end StoryForge
