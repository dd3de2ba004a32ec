import StoryForge.Jobs.System

/-!
# What each transaction does

One lemma per transaction: when it commits, which row it wrote, by which moves the
lifecycle of that row changed, and which outbox rows it appended. The lemmas say
everything the invariants of the job system use, so no later proof unfolds a transaction.

## Main results

* `JobService.*_writes`, `JobExecutor.*_writes` — the transactions on one job;
* `JobService.insert_eq_ok` — admission;
* `JobExecutor.succeed_ok`, `cancel_ok`, `pause_ok`, `fail_ok`, `retryOrDeadLetter_ok`,
  `recoverExpiredJob_ok` — when an outcome or a recovery is not refused.
-/

namespace StoryForge

open Lifecycle

/-! ### Outbox rows -/

/-- A row asking for a delivery of job `j`: pending, under the key for `reason`. -/
structure OutboxMessage.Requests (row : OutboxMessage) (j : ℕ) (reason : EnqueueReason) :
    Prop where
  aggregateId : row.aggregateId = j
  deduplicationKey : row.deduplicationKey = ⟨j, reason⟩
  status : row.status = .pending

/-- The outcome of `createOutbox` for job `j`: the key was taken and nothing was appended,
or a new row asks for the delivery. -/
def Enqueues (db : Database) (j : ℕ) (reason : EnqueueReason) (rows : List OutboxMessage) :
    Prop :=
  rows = [] ∧ (∃ row ∈ db.outbox, row.deduplicationKey = ⟨j, reason⟩) ∨
    ∃ row, rows = [row] ∧ row.Requests j reason

/-- The outcome of a retry of job `j`: out of attempts and dead-lettered, or scheduled with
a row asking for the next attempt. -/
def Retries (j : ℕ) (job job' : Job) (rows : List OutboxMessage) : Prop :=
  job'.status = .deadLettered ∧ rows = [] ∨
    job'.status = .retryScheduled ∧
      ∃ row, rows = [row] ∧ row.Requests j (.attempt (job.attempt + 1))

namespace Tracks

variable {db : Database} {j : ℕ} {c : Lifecycle} {s s' : JobSession}

theorem createOutbox (t : Tracks db j c [] s) (reason : EnqueueReason) (now : Time) :
    ∃ rows, Enqueues db j reason rows ∧
      Tracks db j c rows (JobService.createOutbox s reason now) := by
  have houtbox : s.db.outbox = db.outbox := by simpa using t.outbox
  unfold JobService.createOutbox
  dsimp only
  split
  · rename_i htaken
    obtain ⟨row, hmem, hkey⟩ := List.any_eq_true.mp htaken
    refine ⟨[], .inl ⟨rfl, row, houtbox ▸ hmem, ?_⟩, t⟩
    rw [← t.jobId]
    exact eq_of_beq hkey
  · exact ⟨_, .inr ⟨_, rfl, ⟨t.jobId, by rw [t.jobId], rfl⟩⟩, t.addOutbox⟩

theorem retryOutbox (t : Tracks db j c [] s) (h : JobExecutor.retryOutbox s = .ok s') :
    ∃ row, row.Requests j (.attempt (c.attempt + 1)) ∧ Tracks db j c [row] s' := by
  unfold JobExecutor.retryOutbox at h
  dsimp only at h
  split at h
  · exact absurd h (by simp)
  · obtain rfl := Except.ok.inj h
    exact ⟨_, ⟨t.jobId, by rw [t.jobId, t.attempt], rfl⟩, t.addOutbox⟩

/-- The retry row is written when no row has the key of the next attempt. -/
theorem retryOutbox_ok (t : Tracks db j c [] s)
    (hnew : ∀ row ∈ db.outbox, row.deduplicationKey ≠ ⟨j, .attempt (c.attempt + 1)⟩) :
    ∃ s', JobExecutor.retryOutbox s = .ok s' := by
  have houtbox : s.db.outbox = db.outbox := by simpa using t.outbox
  have hfree : ¬ s.db.outbox.any
      (·.deduplicationKey == ⟨s.jobId, .attempt (s.job.attempt + 1)⟩) = true := by
    rw [List.any_eq_true]
    rintro ⟨row, hmem, hkey⟩
    rw [t.jobId, t.attempt] at hkey
    exact hnew row (houtbox ▸ hmem) (eq_of_beq hkey)
  exact ⟨_, if_neg hfree⟩

/-- Failing and then dead-lettering ends in the dead letters, also from `FAILED`. -/
theorem deadLetter {rows : List OutboxMessage} {s₁ s₂ : JobSession} {now : Time}
    (t : Tracks db j c rows s) (h₁ : s.transition .failed now = .ok s₁)
    (h₂ : s₁.transition .deadLettered now = .ok s₂) :
    c.MayReach .failed ∧ Tracks db j (c.enter .deadLettered) rows s₂ := by
  rcases JobSession.transition_eq_ok.mp h₁ with ⟨hst, rfl⟩ | ⟨-, -, hne⟩
  · have hc : c.status = .failed := t.status ▸ hst
    obtain ⟨-, t₂⟩ := t.transition_of_ne (by simp [hc]) h₂
    exact ⟨.inl hc, t₂⟩
  · obtain ⟨hin, t₁⟩ := t.transition_of_ne (t.status ▸ hne) h₁
    obtain ⟨-, t₂⟩ := t₁.transition_of_ne (by simp) h₂
    exact ⟨.inr hin, by simpa using t₂⟩

/-- Pausing the workflow of a recovered job touches neither the job nor its deliveries. -/
theorem pauseWorkflow {rows : List OutboxMessage} {db₁ : Database} {runId : Option ℕ}
    (t : Tracks db j c rows s) (h : JobExecutor.pauseWorkflow s.db runId = .ok db₁) :
    Tracks db j c rows { s with db := db₁ } := by
  unfold JobExecutor.pauseWorkflow at h
  split at h
  · exact Except.ok.inj h ▸ t
  · split at h
    · exact Except.ok.inj h ▸ t
    · split at h
      · exact Except.ok.inj h ▸ t
      · obtain ⟨run, -, h⟩ := Except.map_eq_ok.mp h
        subst h
        exact ⟨t.jobId, t.jobs, t.outbox, t.lifecycle⟩

/-- Cancelling the linked workflow touches neither the job nor its deliveries. -/
theorem cancelLinkedWorkflow {rows : List OutboxMessage} {now : Time}
    (t : Tracks db j c rows s) (h : JobService.cancelLinkedWorkflow s now = .ok s') :
    Tracks db j c rows s' := by
  unfold JobService.cancelLinkedWorkflow at h
  split at h
  · exact Except.ok.inj h ▸ t
  · split at h
    · exact Except.ok.inj h ▸ t
    · split at h
      · exact Except.ok.inj h ▸ t
      · obtain ⟨run, -, h⟩ := Except.bind_eq_ok.mp h
        obtain rfl := Except.pure_eq_ok.mp h
        exact ⟨t.jobId, t.jobs, t.outbox, t.lifecycle⟩

end Tracks

/-! ### Service transactions -/

namespace JobService

variable {j : ℕ} {now : Time} {db db' : Database}

/-- A cancellation is finished by the request, or recorded on a job that has started. -/
theorem requestCancel_writes (h : requestCancel j now db = .ok db') :
    ∃ job job', Writes db db' j job job' [] ∧
      Moves (· ∈ [.cancelAtOnce, .requestCancel]) job.lifecycle job'.lifecycle ∧
      job'.status ∈ [JobStatus.cancelled, .cancelRequested] := by
  unfold requestCancel at h
  obtain ⟨s, hs, h⟩ := Except.bind_eq_ok.mp h
  obtain ⟨job, hjob, rfl⟩ := JobSession.requireLocked_eq_ok.mp hs
  have t₀ : Tracks db j job.lifecycle [] ⟨db, j, job⟩ := .start
  dsimp only at h
  split at h
  · rename_i hst
    obtain rfl := Except.pure_eq_ok.mp h
    exact ⟨job, job, .refl hjob, .refl _, by simp [hst]⟩
  rename_i hne
  split at h
  · exact absurd h (by simp)
  obtain ⟨s₁, hs₁, h⟩ := Except.bind_eq_ok.mp h
  obtain ⟨hin, t₁⟩ := t₀.transition_of_ne hne hs₁
  have t₂ := (t₁.updateSame (Job.lifecycle_stampCancelRequest · now)).event
  split at h
  · rename_i hnow
    obtain ⟨s₂, hs₂, h⟩ := Except.bind_eq_ok.mp h
    obtain ⟨-, t₃⟩ := (t₂ _ _ _).transition_of_ne (by simp) hs₂
    obtain ⟨s₃, hs₃, h⟩ := Except.map_eq_ok.mp h
    obtain ⟨job', hw, hc⟩ := ((t₃.cancelLinkedWorkflow hs₃).event _ _ _).commit hjob
    refine ⟨job, job', h ▸ hw, .move .cancelAtOnce (by simp) ⟨hin, ?_⟩ (by simp [hc, Move.apply]),
      by simp [← Job.lifecycle_status, hc]⟩
    rwa [(t₂ _ _ _).startedAt] at hnow
  · rename_i hlater
    obtain rfl := Except.pure_eq_ok.mp h
    rw [(t₂ _ _ _).startedAt, not_or] at hlater
    obtain ⟨job', hw, hc⟩ := (t₂ _ _ _).commit hjob
    exact ⟨job, job', hw, .move .requestCancel (by simp) ⟨hin, hlater⟩ (by simp [hc, Move.apply]),
      by simp [← Job.lifecycle_status, hc]⟩

/-- A pause is finished by the request, or recorded on a job that has started. -/
theorem requestPause_writes (h : requestPause j now db = .ok db') :
    ∃ job job', Writes db db' j job job' [] ∧
      Moves (· ∈ [.pauseAtOnce, .requestPause]) job.lifecycle job'.lifecycle ∧
      job'.status ∈ [JobStatus.paused, .pauseRequested] := by
  unfold requestPause at h
  obtain ⟨s, hs, h⟩ := Except.bind_eq_ok.mp h
  obtain ⟨job, hjob, rfl⟩ := JobSession.requireLocked_eq_ok.mp hs
  have t₀ : Tracks db j job.lifecycle [] ⟨db, j, job⟩ := .start
  dsimp only at h
  split at h
  · rename_i hst
    obtain rfl := Except.pure_eq_ok.mp h
    exact ⟨job, job, .refl hjob, .refl _, by simp [hst]⟩
  split at h
  · exact absurd h (by simp)
  rename_i hlive
  obtain ⟨s₁, hs₁, h⟩ := Except.bind_eq_ok.mp h
  have hne : job.status ≠ .pauseRequested := by
    rintro heq
    simp [heq] at hlive
  obtain ⟨hin, t₁⟩ := t₀.transition_of_ne hne hs₁
  have t₂ := t₁.event
  split at h
  · rename_i hnow
    obtain ⟨s₂, hs₂, h⟩ := Except.map_eq_ok.mp h
    obtain ⟨-, t₃⟩ := (t₂ _ _ _).transition_of_ne (by simp) hs₂
    obtain ⟨job', hw, hc⟩ := (t₃.event _ _ _).commit hjob
    rw [(t₂ _ _ _).startedAt] at hnow
    exact ⟨job, job', h ▸ hw, .move .pauseAtOnce (by simp) ⟨hin, hnow⟩ (by simp [hc, Move.apply]),
      by simp [← Job.lifecycle_status, hc]⟩
  · rename_i hlater
    obtain rfl := Except.pure_eq_ok.mp h
    rw [(t₂ _ _ _).startedAt] at hlater
    obtain ⟨job', hw, hc⟩ := (t₂ _ _ _).commit hjob
    exact ⟨job, job', hw, .move .requestPause (by simp) ⟨hin, hlater⟩ (by simp [hc, Move.apply]),
      by simp [← Job.lifecycle_status, hc]⟩

/-- A paused job waits for a new delivery, requested if its key is free. -/
theorem resume_writes (h : resume j now db = .ok db') :
    ∃ job job' rows, Writes db db' j job job' rows ∧
      Enqueues db j (.resume (job.attempt + 1)) rows ∧
      Move.resume.guard job.lifecycle ∧ job'.lifecycle = Move.resume.apply job.lifecycle := by
  unfold resume at h
  obtain ⟨s, hs, h⟩ := Except.bind_eq_ok.mp h
  obtain ⟨job, hjob, rfl⟩ := JobSession.requireLocked_eq_ok.mp hs
  have t₀ : Tracks db j job.lifecycle [] ⟨db, j, job⟩ := .start
  dsimp only at h
  split at h
  · exact absurd h (by simp)
  rename_i hpaused
  rw [not_not] at hpaused
  obtain ⟨s₁, hs₁, h⟩ := Except.map_eq_ok.mp h
  obtain ⟨-, t₁⟩ := t₀.transition_of_ne (by simp [hpaused]) hs₁
  have t₂ := (t₁.updateSame Job.lifecycle_clearFinished).event
  rw [(t₂ _ _ _).attempt] at h
  obtain ⟨rows, hrows, t₃⟩ := (t₂ _ _ _).createOutbox (.resume (job.attempt + 1)) now
  obtain ⟨job', hw, hc⟩ := t₃.commit hjob
  rw [Lifecycle.enter_attempt, Job.lifecycle_attempt] at h
  exact ⟨job, job', rows, h ▸ hw, hrows, hpaused, hc⟩

/-- A dead-lettered job waits for a new delivery, requested if its key is free. -/
theorem retryDeadLetter_writes (h : retryDeadLetter j now db = .ok db') :
    ∃ job job' rows, Writes db db' j job job' rows ∧
      Enqueues db j (.dlqRetry (job.attempt + 1)) rows ∧
      (Move.retryDeadLetter (JobRegistry.get job.jobType).maxAttempts).guard job.lifecycle ∧
      job'.lifecycle =
        (Move.retryDeadLetter (JobRegistry.get job.jobType).maxAttempts).apply job.lifecycle := by
  unfold retryDeadLetter at h
  obtain ⟨s, hs, h⟩ := Except.bind_eq_ok.mp h
  obtain ⟨job, hjob, rfl⟩ := JobSession.requireLocked_eq_ok.mp hs
  have t₀ : Tracks db j job.lifecycle [] ⟨db, j, job⟩ := .start
  dsimp only at h
  split at h
  · exact absurd h (by simp)
  rename_i hdead
  rw [not_not] at hdead
  split at h
  · exact absurd h (by simp)
  obtain ⟨s₁, hs₁, h⟩ := Except.map_eq_ok.mp h
  obtain ⟨-, t₁⟩ := t₀.transition_of_ne (by simp [hdead]) hs₁
  have htype : s₁.job.jobType = job.jobType := by
    rcases JobSession.transition_eq_ok.mp hs₁ with ⟨-, rfl⟩ | ⟨-, rfl, -⟩
    · rfl
    · simp
  have hfresh : (s₁.job.freshAttempts now).lifecycle =
      (Move.retryDeadLetter (JobRegistry.get job.jobType).maxAttempts).apply job.lifecycle := by
    rw [Job.lifecycle_freshAttempts, t₁.lifecycle, htype, t₁.attempt]
    rfl
  have t₂ := (Tracks.mk (c := (Move.retryDeadLetter _).apply job.lifecycle) t₁.jobId t₁.jobs
    t₁.outbox hfresh : Tracks db j _ [] (s₁.update (Job.freshAttempts · now))).event
  obtain ⟨rows, hrows, t₃⟩ := (t₂ _ _ _).createOutbox (.dlqRetry (job.attempt + 1)) now
  obtain ⟨job', hw, hc⟩ := t₃.commit hjob
  rw [(t₂ _ _ _).attempt] at h
  exact ⟨job, job', rows, h ▸ hw, hrows, hdead, hc⟩

theorem discardDeadLetter_writes (h : discardDeadLetter j db = .ok db') :
    ∃ job job', Writes db db' j job job' [] ∧ job'.lifecycle = job.lifecycle := by
  unfold discardDeadLetter at h
  obtain ⟨s, hs, h⟩ := Except.bind_eq_ok.mp h
  obtain ⟨job, hjob, rfl⟩ := JobSession.requireLocked_eq_ok.mp hs
  have t₀ : Tracks db j job.lifecycle [] ⟨db, j, job⟩ := .start
  split at h
  · exact absurd h (by simp)
  obtain rfl := Except.pure_eq_ok.mp h
  obtain ⟨job', hw, hc⟩ := ((t₀.updateSame Job.lifecycle_markDiscarded).event _ _ _).commit hjob
  exact ⟨job, job', hw, hc⟩

theorem recordEvent_writes {event : EventRequest} (h : recordEvent j event db = .ok db') :
    ∃ job job', Writes db db' j job job' [] ∧ job'.lifecycle = job.lifecycle := by
  unfold recordEvent at h
  obtain ⟨s, hs, h⟩ := Except.bind_eq_ok.mp h
  obtain ⟨job, hjob, rfl⟩ := JobSession.requireLocked_eq_ok.mp hs
  have t₀ : Tracks db j job.lifecycle [] ⟨db, j, job⟩ := .start
  dsimp only at h
  split at h
  · exact absurd h (by simp)
  obtain rfl := Except.pure_eq_ok.mp h
  obtain ⟨job', hw, hc⟩ :=
    ((t₀.updateSame (Job.lifecycle_recordProgress · event.step event.progress)).addOrdered
      _ _ _ _ _).commit hjob
  exact ⟨job, job', hw, hc⟩

/-- Admission appends one waiting job, never claimed before, and requests its delivery. -/
theorem insert_eq_ok {settings : Settings} {request : JobRequest} {r : ℕ × Database}
    (h : insert settings request now db = .ok r) :
    ∃ job rows, r.2.jobs = db.jobs ++ [job] ∧ r.2.outbox = db.outbox ++ rows ∧
      Enqueues db db.jobs.length .create rows ∧ r.1 = db.jobs.length ∧
      job.lifecycle = (newJob settings request now).lifecycle := by
  unfold insert at h
  obtain ⟨-, -, h⟩ := Except.bind_eq_ok.mp h
  obtain ⟨-, -, h⟩ := Except.bind_eq_ok.mp h
  obtain ⟨-, -, h⟩ := Except.bind_eq_ok.mp h
  obtain ⟨-, -, h⟩ := Except.map_eq_ok.mp h
  subst h
  let db₀ : Database := { db with jobs := db.jobs ++ [newJob settings request now] }
  have t₀ : Tracks db₀ db.jobs.length (newJob settings request now).lifecycle []
      ⟨db₀, db.jobs.length, newJob settings request now⟩ := .start
  obtain ⟨rows, hrows, t₁⟩ := (t₀.event .jobCreated "job.created" "Job created").createOutbox
    .create now
  have hnew : db₀.jobs[db.jobs.length]? = some (newJob settings request now) := by simp [db₀]
  obtain ⟨job', hw, hc⟩ := t₁.commit hnew
  exact ⟨job', rows, by simp [hw.jobs, db₀], hw.outbox, hrows, rfl, hc⟩

end JobService

theorem linkWorkflow_cases {j workflowRunId : ℕ} {db db' : Database}
    (h : linkWorkflow j workflowRunId db = .ok db') :
    db' = db ∨ ∃ job job', Writes db db' j job job' [] ∧ job'.lifecycle = job.lifecycle := by
  unfold linkWorkflow at h
  split at h
  · exact .inl (Except.ok.inj h).symm
  rename_i job hjob
  split at h
  · exact .inl (Except.ok.inj h).symm
  split at h
  · exact absurd h (by simp)
  obtain rfl := Except.ok.inj h
  have t₀ : Tracks db j (job.linkWorkflow workflowRunId).lifecycle []
    ⟨db, j, job.linkWorkflow workflowRunId⟩ := .start
  obtain ⟨job', hw, hc⟩ := t₀.commit hjob
  exact .inr ⟨job, job', hw, hc⟩

/-! ### Worker transactions -/

namespace JobExecutor

variable {settings : Settings} {j : ℕ} {worker : String} {now : Time} {db db' : Database}

theorem ownedJob_eq_ok {s : JobSession} :
    ownedJob db j worker = .ok s ↔
      ∃ job, db.jobs[j]? = some job ∧ job.workerId = some worker ∧ s = ⟨db, j, job⟩ := by
  unfold ownedJob
  split
  · rename_i hnone
    constructor
    · intro h
      exact absurd h (by simp)
    · rintro ⟨_, hsome, _⟩
      exact absurd (hnone.symm.trans hsome) (by simp)
  · rename_i job hjob
    split
    · rename_i hne
      constructor
      · intro h
        exact absurd h (by simp)
      · rintro ⟨job', hjob', hworker, _⟩
        obtain rfl := Option.some.inj (hjob.symm.trans hjob')
        exact absurd hworker hne
    · rename_i heq
      constructor
      · intro h
        exact ⟨job, hjob, not_not.mp heq, (Except.ok.inj h).symm⟩
      · rintro ⟨job', hjob', _, rfl⟩
        obtain rfl := Option.some.inj (hjob.symm.trans hjob')
        rfl

/-- A claim takes a waiting job and runs it under the next attempt number. -/
theorem claim_writes (h : claim settings j worker now db = .ok (some db')) :
    ∃ job job', Writes db db' j job job' [] ∧
      (Move.claim worker now (now + settings.jobLease)).guard job.lifecycle ∧
      job'.lifecycle = (Move.claim worker now (now + settings.jobLease)).apply job.lifecycle := by
  unfold claim JobRepository.claim at h
  split at h
  · exact absurd h (by simp)
  rename_i s hs
  split at hs
  · exact absurd hs (by simp)
  rename_i job hjob
  split at hs
  swap
  · exact absurd hs (by simp)
  rename_i hclaimable
  obtain rfl := Option.some.inj hs
  have t₀ : Tracks db j (job.leasedBy worker now (now + settings.jobLease)).lifecycle []
      ⟨db, j, job.leasedBy worker now (now + settings.jobLease)⟩ := .start
  dsimp only at h
  obtain ⟨s₁, hs₁, h⟩ := Except.bind_eq_ok.mp h
  rw [Except.pure_eq_ok] at h
  obtain ⟨-, t₁⟩ := (t₀.event _ _ _).transition (by simp) hs₁
  obtain ⟨job', hw, hc⟩ := ((t₁.update
    (fun c => { c with startedAt := c.startedAt.or (some now) })
    (Job.lifecycle_started · now)).event
      .jobStarted "job.started" "Job execution started").commit hjob
  exact ⟨job, job', Option.some.inj h ▸ hw, hclaimable.1, by rw [hc, Lifecycle.enter, if_neg (by simp)]; rfl⟩

theorem heartbeat_cases (settings : Settings) (j : ℕ) (worker : String) (now : Time)
    (db : Database) :
    heartbeat settings j worker now db = db ∨
      ∃ job job', Writes db (heartbeat settings j worker now db) j job job' [] ∧
        (Move.heartbeat worker (now + settings.jobLease)).guard job.lifecycle ∧
        job'.lifecycle =
          (Move.heartbeat worker (now + settings.jobLease)).apply job.lifecycle := by
  unfold heartbeat
  split
  · exact .inl rfl
  rename_i job hjob
  split
  · exact .inl rfl
  rename_i hheld
  rw [not_or, not_not, not_not] at hheld
  have t₀ : Tracks db j (job.renewed now (now + settings.jobLease)).lifecycle []
      ⟨db, j, job.renewed now (now + settings.jobLease)⟩ := .start
  obtain ⟨job', hw, hc⟩ := t₀.commit hjob
  exact .inr ⟨job, job', hw, hheld, hc⟩

/-! ### Outcomes -/

/-- A returning handler succeeds, or confirms the control request recorded meanwhile. -/
theorem succeed_writes {result : String} (h : succeed j worker result now db = .ok db') :
    ∃ job job', Writes db db' j job job' [] ∧ job.workerId = some worker ∧
      Moves (· ∈ [.succeed worker, .confirmCancel worker, .confirmPause worker])
        job.lifecycle job'.lifecycle ∧
      job'.status ∈ [JobStatus.succeeded, .cancelled, .paused] := by
  unfold succeed at h
  obtain ⟨s, hs, h⟩ := Except.bind_eq_ok.mp h
  obtain ⟨job, hjob, hworker, rfl⟩ := ownedJob_eq_ok.mp hs
  have t₀ : Tracks db j job.lifecycle [] ⟨db, j, job⟩ := .start
  dsimp only at h
  split at h
  · rename_i hst
    obtain ⟨s₁, hs₁, h⟩ := Except.map_eq_ok.mp h
    obtain ⟨-, t₁⟩ := t₀.transition_of_ne (by simp [hst]) hs₁
    obtain ⟨job', hw, hc⟩ := (t₁.event _ _ _).commit hjob
    exact ⟨job, job', h ▸ hw, hworker, .move (.confirmCancel worker) (by simp)
      ⟨hworker, .inl hst⟩ hc, by simp [← Job.lifecycle_status, hc]⟩
  split at h
  · rename_i hst
    obtain ⟨s₁, hs₁, h⟩ := Except.map_eq_ok.mp h
    obtain ⟨-, t₁⟩ := t₀.transition_of_ne (by simp [hst]) hs₁
    obtain ⟨job', hw, hc⟩ := (t₁.event _ _ _).commit hjob
    exact ⟨job, job', h ▸ hw, hworker, .move (.confirmPause worker) (by simp)
      ⟨hworker, hst⟩ hc, by simp [← Job.lifecycle_status, hc]⟩
  · obtain ⟨s₁, hs₁, h⟩ := Except.map_eq_ok.mp h
    rcases JobSession.transition_eq_ok.mp hs₁ with ⟨hst, rfl⟩ | ⟨hin, -, hne⟩
    · -- the transition stays: only the result columns are written
      obtain ⟨job', hw, hc⟩ :=
        ((t₀.updateSame (Job.lifecycle_completed · result)).event _ _ _).commit hjob
      have hstatus : job'.status = .succeeded := by
        rw [← Job.lifecycle_status, hc, Job.lifecycle_status]
        exact hst
      exact ⟨job, job', h ▸ hw, hworker, .inl hc, by rw [hstatus]; exact List.mem_cons_self⟩
    · obtain ⟨-, t₁⟩ := t₀.transition_of_ne hne hs₁
      obtain ⟨job', hw, hc⟩ :=
        ((t₁.updateSame (Job.lifecycle_completed · result)).event _ _ _).commit hjob
      have hrunning : job.status = .running := JobStatus.succeeded_mem_allowed.mp hin
      exact ⟨job, job', h ▸ hw, hworker, .move (.succeed worker) (by simp)
        ⟨hworker, hrunning⟩ hc, by simp [← Job.lifecycle_status, hc]⟩

theorem cancel_writes (h : cancel j worker now db = .ok db') :
    ∃ job job', Writes db db' j job job' [] ∧ job.workerId = some worker ∧
      (Move.confirmCancel worker).guard job.lifecycle ∧
      job'.lifecycle = (Move.confirmCancel worker).apply job.lifecycle := by
  unfold cancel at h
  obtain ⟨s, hs, h⟩ := Except.bind_eq_ok.mp h
  obtain ⟨job, hjob, hworker, rfl⟩ := ownedJob_eq_ok.mp hs
  have t₀ : Tracks db j job.lifecycle [] ⟨db, j, job⟩ := .start
  obtain ⟨s₁, hs₁, h⟩ := Except.bind_eq_ok.mp h
  obtain ⟨hreach, t₁⟩ := t₀.transition (by simp) hs₁
  obtain ⟨s₂, hs₂, h⟩ := Except.map_eq_ok.mp h
  obtain ⟨-, t₂⟩ := t₁.transition_of_ne (by simp) hs₂
  obtain ⟨job', hw, hc⟩ := (t₂.event _ _ _).commit hjob
  exact ⟨job, job', h ▸ hw, hworker, ⟨hworker, hreach⟩, by simp [hc, Move.apply]⟩

theorem pause_writes (h : pause j worker now db = .ok db') :
    ∃ job job', Writes db db' j job job' [] ∧ job.workerId = some worker ∧
      (Move.pause worker).guard job.lifecycle ∧
      job'.lifecycle = (Move.pause worker).apply job.lifecycle := by
  unfold pause at h
  obtain ⟨s, hs, h⟩ := Except.bind_eq_ok.mp h
  obtain ⟨job, hjob, hworker, rfl⟩ := ownedJob_eq_ok.mp hs
  have t₀ : Tracks db j job.lifecycle [] ⟨db, j, job⟩ := .start
  obtain ⟨s₁, hs₁, h⟩ := Except.bind_eq_ok.mp h
  obtain ⟨hreach, t₁⟩ := t₀.transition (by simp) hs₁
  obtain ⟨s₂, hs₂, h⟩ := Except.map_eq_ok.mp h
  obtain ⟨-, t₂⟩ := t₁.transition_of_ne (by simp) hs₂
  obtain ⟨job', hw, hc⟩ :=
    ((t₂.update Lifecycle.release Job.lifecycle_releaseLease).event _ _ _).commit hjob
  exact ⟨job, job', h ▸ hw, hworker, ⟨hworker, hreach⟩, by simp [hc, Move.apply]⟩

theorem fail_writes {error : JobService.Raised}
    (h : fail settings j worker error now db = .ok db') :
    ∃ job job', Writes db db' j job job' [] ∧ job.workerId = some worker ∧
      Moves (· = .fail worker) job.lifecycle job'.lifecycle ∧ job'.status = .failed := by
  unfold fail at h
  obtain ⟨s, hs, h⟩ := Except.bind_eq_ok.mp h
  obtain ⟨job, hjob, hworker, rfl⟩ := ownedJob_eq_ok.mp hs
  have t₀ : Tracks db j job.lifecycle [] ⟨db, j, job⟩ := .start
  obtain ⟨s₁, hs₁, h⟩ := Except.map_eq_ok.mp h
  rcases JobSession.transition_eq_ok.mp hs₁ with ⟨hst, rfl⟩ | ⟨hin, -, hne⟩
  · obtain ⟨job', hw, hc⟩ :=
      ((t₀.updateSame (Job.lifecycle_storeError · _)).event _ _ _).commit hjob
    exact ⟨job, job', h ▸ hw, hworker, .inl hc, by rw [← Job.lifecycle_status, hc]; exact hst⟩
  · obtain ⟨hin, t₁⟩ := t₀.transition_of_ne hne hs₁
    obtain ⟨job', hw, hc⟩ :=
      ((t₁.updateSame (Job.lifecycle_storeError · _)).event _ _ _).commit hjob
    exact ⟨job, job', h ▸ hw, hworker, .move (.fail worker) rfl ⟨hworker, hin⟩ hc,
      by simp [← Job.lifecycle_status, hc]⟩

theorem retryOrDeadLetter_writes {error : JobService.Raised}
    (h : retryOrDeadLetter settings j worker error now db = .ok db') :
    ∃ job job' rows, Writes db db' j job job' rows ∧ job.workerId = some worker ∧
      Makes (· ∈ [.retry worker, .exhaust worker]) job.lifecycle job'.lifecycle ∧
      Retries j job job' rows := by
  unfold retryOrDeadLetter at h
  obtain ⟨s, hs, h⟩ := Except.bind_eq_ok.mp h
  obtain ⟨job, hjob, hworker, rfl⟩ := ownedJob_eq_ok.mp hs
  have t₀ : Tracks db j job.lifecycle [] ⟨db, j, job⟩ := .start
  have t₁ := t₀.updateSame (Job.lifecycle_storeError · (JobService.safeError settings error))
  dsimp only at h
  rw [t₁.attempt, t₁.maxAttempts] at h
  split at h
  · rename_i hspent
    obtain ⟨s₂, hs₂, h⟩ := Except.bind_eq_ok.mp h
    obtain ⟨s₃, hs₃, h⟩ := Except.map_eq_ok.mp h
    obtain ⟨hreach, t₃⟩ := t₁.deadLetter hs₂ hs₃
    obtain ⟨job', hw, hc⟩ := (t₃.event _ _ _).commit hjob
    exact ⟨job, job', [], h ▸ hw, hworker,
      ⟨.exhaust worker, by simp, ⟨hworker, hreach, hspent⟩, hc⟩,
      .inl ⟨by simp [← Job.lifecycle_status, hc], rfl⟩⟩
  · rename_i hleft
    obtain ⟨s₂, hs₂, h⟩ := Except.bind_eq_ok.mp h
    obtain ⟨hreach, t₂⟩ := t₁.transition (by simp) hs₂
    obtain ⟨s₃, hs₃, h⟩ := Except.map_eq_ok.mp h
    obtain ⟨row, hrow, t₃⟩ :=
      (t₂.update Lifecycle.release (Job.lifecycle_releaseForRetry · now)).retryOutbox hs₃
    obtain ⟨job', hw, hc⟩ := (t₃.event _ _ _).commit hjob
    exact ⟨job, job', [row], h ▸ hw, hworker,
      ⟨.retry worker, by simp, ⟨hworker, hreach, Nat.not_le.mp hleft⟩, hc⟩,
      .inr ⟨by simp [← Job.lifecycle_status, hc], row, rfl, by simpa using hrow⟩⟩

/-- Recovery of one job that a worker holds. -/
theorem recoverExpiredJob_writes (h : recoverExpiredJob now db j = .ok db')
    (hheld : ∀ job, db.jobs[j]? = some job → job.status ∈ [JobStatus.leased, .running]) :
    ∃ job job' rows, Writes db db' j job job' rows ∧
      Makes (· ∈ [.recover, .recoverExhausted]) job.lifecycle job'.lifecycle ∧
      Retries j job job' rows := by
  unfold recoverExpiredJob at h
  obtain ⟨s, hs, h⟩ := Except.bind_eq_ok.mp h
  obtain ⟨job, hjob, rfl⟩ := JobSession.requireLocked_eq_ok.mp hs
  have hst := hheld job hjob
  have t₀ : Tracks db j job.lifecycle [] ⟨db, j, job⟩ := .start
  obtain ⟨db₁, hdb₁, h⟩ := Except.bind_eq_ok.mp h
  have t₁ := t₀.pauseWorkflow hdb₁
  dsimp only at h
  split at h
  · rename_i hspent
    obtain ⟨s₂, hs₂, h⟩ := Except.bind_eq_ok.mp h
    obtain ⟨s₃, hs₃, h⟩ := Except.map_eq_ok.mp h
    obtain ⟨hreach, t₃⟩ := t₁.deadLetter hs₂ hs₃
    obtain ⟨job', hw, hc⟩ := (t₃.event _ _ _).commit hjob
    have hrunning : job.status = .running := by
      simp only [List.mem_cons, List.not_mem_nil, or_false] at hst
      rcases hst with hst | hst
      · simp [Lifecycle.MayReach, hst, JobStatus.allowed] at hreach
      · exact hst
    exact ⟨job, job', [], h ▸ hw, ⟨.recoverExhausted, by simp, ⟨hrunning, hspent⟩, hc⟩,
      .inl ⟨by simp [← Job.lifecycle_status, hc], rfl⟩⟩
  · rename_i hleft
    obtain ⟨s₂, hs₂, h⟩ := Except.bind_eq_ok.mp h
    obtain ⟨-, t₂⟩ := t₁.transition (by simp) hs₂
    obtain ⟨s₃, hs₃, h⟩ := Except.map_eq_ok.mp h
    obtain ⟨row, hrow, t₃⟩ :=
      (t₂.update Lifecycle.release (Job.lifecycle_releaseForRetry · now)).retryOutbox hs₃
    obtain ⟨job', hw, hc⟩ := (t₃.event _ _ _).commit hjob
    exact ⟨job, job', [row], h ▸ hw,
      ⟨.recover, by simp, ⟨hst, Nat.not_le.mp hleft⟩, hc⟩,
      .inr ⟨by simp [← Job.lifecycle_status, hc], row, rfl, by simpa using hrow⟩⟩

/-! ### Outcomes that are not refused -/

section Accepted

variable {job : Job}

/-- Whatever control request came in, a returning handler can record its outcome. -/
theorem succeed_ok (hjob : db.jobs[j]? = some job) (hworker : job.workerId = some worker)
    (hst : job.status ∈ [JobStatus.running, .pauseRequested, .cancelRequested])
    (result : String) : ∃ db', succeed j worker result now db = .ok db' := by
  have t₀ : Tracks db j job.lifecycle [] ⟨db, j, job⟩ := .start
  have hs := ownedJob_eq_ok.mpr ⟨job, hjob, hworker, rfl⟩
  simp only [List.mem_cons, List.not_mem_nil, or_false] at hst
  unfold succeed
  rcases hst with hst | hst | hst
  · obtain ⟨s₁, hs₁, -⟩ := t₀.transition_ok .succeeded now
      (by simp [hst, JobStatus.allowed]) (by simp [hst])
    refine Except.exists_ok_bind hs ?_
    dsimp only
    rw [if_neg (by simp [hst]), if_neg (by simp [hst])]
    exact Except.exists_ok_bind hs₁ ⟨_, rfl⟩
  · obtain ⟨s₁, hs₁, -⟩ := t₀.transition_ok .paused now
      (by simp [hst, JobStatus.allowed]) (by simp [hst])
    refine Except.exists_ok_bind hs ?_
    dsimp only
    rw [if_neg (by simp [hst]), if_pos hst]
    exact Except.exists_ok_bind hs₁ ⟨_, rfl⟩
  · obtain ⟨s₁, hs₁, -⟩ := t₀.transition_ok .cancelled now
      (by simp [hst, JobStatus.allowed]) (by simp [hst])
    refine Except.exists_ok_bind hs ?_
    dsimp only
    rw [if_pos hst]
    exact Except.exists_ok_bind hs₁ ⟨_, rfl⟩

theorem cancel_ok (hjob : db.jobs[j]? = some job) (hworker : job.workerId = some worker)
    (hreach : job.lifecycle.MayReach .cancelRequested) :
    ∃ db', cancel j worker now db = .ok db' := by
  have t₀ : Tracks db j job.lifecycle [] ⟨db, j, job⟩ := .start
  have hs := ownedJob_eq_ok.mpr ⟨job, hjob, hworker, rfl⟩
  obtain ⟨s₁, hs₁, t₁⟩ := t₀.transition_live_ok .cancelRequested now (by simp) hreach
  obtain ⟨s₂, hs₂, -⟩ := t₁.transition_ok .cancelled now (by simp [JobStatus.allowed]) (by simp)
  exact Except.exists_ok_bind hs
    (Except.exists_ok_bind hs₁ (Except.exists_ok_bind hs₂ ⟨_, rfl⟩))

/-- A pausing handler is refused only by a recorded cancellation. -/
theorem pause_ok (hjob : db.jobs[j]? = some job) (hworker : job.workerId = some worker)
    (hreach : job.lifecycle.MayReach .pauseRequested) :
    ∃ db', pause j worker now db = .ok db' := by
  have t₀ : Tracks db j job.lifecycle [] ⟨db, j, job⟩ := .start
  have hs := ownedJob_eq_ok.mpr ⟨job, hjob, hworker, rfl⟩
  obtain ⟨s₁, hs₁, t₁⟩ := t₀.transition_live_ok .pauseRequested now (by simp) hreach
  obtain ⟨s₂, hs₂, -⟩ := t₁.transition_ok .paused now (by simp [JobStatus.allowed]) (by simp)
  exact Except.exists_ok_bind hs
    (Except.exists_ok_bind hs₁ (Except.exists_ok_bind hs₂ ⟨_, rfl⟩))

theorem fail_ok (settings : Settings) (now : Time) (hjob : db.jobs[j]? = some job) (hworker : job.workerId = some worker)
    (hin : .failed ∈ job.status.allowed) (error : JobService.Raised) :
    ∃ db', fail settings j worker error now db = .ok db' := by
  have t₀ : Tracks db j job.lifecycle [] ⟨db, j, job⟩ := .start
  have hs := ownedJob_eq_ok.mpr ⟨job, hjob, hworker, rfl⟩
  have hne : job.status ≠ .failed := by
    intro hst
    simp [hst, JobStatus.allowed] at hin
  obtain ⟨s₁, hs₁, -⟩ := t₀.transition_ok .failed now hin hne
  exact Except.exists_ok_bind hs (Except.exists_ok_bind hs₁ ⟨_, rfl⟩)

/-- A retryable error is recorded when the attempts are spent, or the status can be
rescheduled and the key of the next attempt is free. -/
theorem retryOrDeadLetter_ok (hjob : db.jobs[j]? = some job)
    (hworker : job.workerId = some worker) (error : JobService.Raised)
    (hspent : job.maxAttempts ≤ job.attempt → .failed ∈ job.status.allowed)
    (hleft : job.attempt < job.maxAttempts → job.lifecycle.MayReach .retryScheduled ∧
      ∀ row ∈ db.outbox, row.deduplicationKey ≠ ⟨j, .attempt (job.attempt + 1)⟩) :
    ∃ db', retryOrDeadLetter settings j worker error now db = .ok db' := by
  have t₀ : Tracks db j job.lifecycle [] ⟨db, j, job⟩ := .start
  have t₁ := t₀.updateSame (Job.lifecycle_storeError · (JobService.safeError settings error))
  have hs := ownedJob_eq_ok.mpr ⟨job, hjob, hworker, rfl⟩
  by_cases hcase : job.maxAttempts ≤ job.attempt
  · have hin := hspent hcase
    have hne : job.status ≠ .failed := by
      intro hst
      simp [hst, JobStatus.allowed] at hin
    obtain ⟨s₂, hs₂, t₂⟩ := t₁.transition_ok .failed now hin hne
    obtain ⟨s₃, hs₃, -⟩ := t₂.transition_ok .deadLettered now (by simp [JobStatus.allowed])
      (by simp)
    refine Except.exists_ok_bind hs ?_
    dsimp only
    rw [if_pos (by rwa [t₁.attempt, t₁.maxAttempts])]
    exact Except.exists_ok_bind hs₂ (Except.exists_ok_bind hs₃ ⟨_, rfl⟩)
  · obtain ⟨hreach, hfree⟩ := hleft (Nat.not_le.mp hcase)
    obtain ⟨s₂, hs₂, t₂⟩ := t₁.transition_live_ok .retryScheduled now (by simp) hreach
    obtain ⟨s₃, hs₃⟩ :=
      (t₂.update Lifecycle.release (Job.lifecycle_releaseForRetry · now)).retryOutbox_ok
        (by simpa using hfree)
    refine Except.exists_ok_bind hs ?_
    dsimp only
    rw [if_neg (by rwa [t₁.attempt, t₁.maxAttempts])]
    exact Except.exists_ok_bind hs₂ (Except.exists_ok_bind hs₃ ⟨_, rfl⟩)

theorem pauseWorkflow_ok (db : Database) (runId : Option ℕ) :
    ∃ db₁, pauseWorkflow db runId = .ok db₁ := by
  unfold pauseWorkflow
  split
  · exact ⟨db, rfl⟩
  · split
    · exact ⟨db, rfl⟩
    · split
      · exact ⟨db, rfl⟩
      · rename_i hrunning
        rw [not_not] at hrunning
        exact Except.exists_ok_bind (transitionWorkflow_of_allowed
          (by simp [hrunning, WorkflowRunStatus.allowed]) (by simp [hrunning])) ⟨_, rfl⟩

/-- A running job with an expired lease is recovered when the key of the next attempt is
free. -/
theorem recoverExpiredJob_ok (hjob : db.jobs[j]? = some job) (hst : job.status = .running)
    (hfree : ∀ row ∈ db.outbox, row.deduplicationKey ≠ ⟨j, .attempt (job.attempt + 1)⟩) :
    ∃ db', recoverExpiredJob now db j = .ok db' := by
  have t₀ : Tracks db j job.lifecycle [] ⟨db, j, job⟩ := .start
  have hs := JobSession.requireLocked_eq_ok.mpr ⟨job, hjob, rfl⟩
  obtain ⟨db₁, hdb₁⟩ := pauseWorkflow_ok db job.workflowRunId
  have t₁ := t₀.pauseWorkflow hdb₁
  by_cases hcase : job.maxAttempts ≤ job.attempt
  · obtain ⟨s₂, hs₂, t₂⟩ := t₁.transition_ok .failed now
      (by simp [hst, JobStatus.allowed]) (by simp [hst])
    obtain ⟨s₃, hs₃, -⟩ := t₂.transition_ok .deadLettered now (by simp [JobStatus.allowed])
      (by simp)
    refine Except.exists_ok_bind hs (Except.exists_ok_bind hdb₁ ?_)
    dsimp only
    rw [if_pos hcase]
    exact Except.exists_ok_bind hs₂ (Except.exists_ok_bind hs₃ ⟨_, rfl⟩)
  · obtain ⟨s₂, hs₂, t₂⟩ := t₁.transition_live_ok .retryScheduled now (by simp)
      (.inr (by simp [hst, JobStatus.allowed]))
    obtain ⟨s₃, hs₃⟩ :=
      (t₂.update Lifecycle.release (Job.lifecycle_releaseForRetry · now)).retryOutbox_ok
        (by simpa using hfree)
    refine Except.exists_ok_bind hs (Except.exists_ok_bind hdb₁ ?_)
    dsimp only
    rw [if_neg hcase]
    exact Except.exists_ok_bind hs₂ (Except.exists_ok_bind hs₃ ⟨_, rfl⟩)

end Accepted

end JobExecutor

end StoryForge
