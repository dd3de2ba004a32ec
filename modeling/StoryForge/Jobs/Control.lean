import StoryForge.Jobs.Coverage

/-!
# Control requests

A pause or cancel request is finished by the request itself when nobody runs the job, and
left to the worker otherwise. The service tells the two cases apart by `started_at`, which
is set by the first claim and never cleared: a request on a job that has run before and
waits for its next delivery is left to a worker that does not exist. A recorded request
can also be lost at the end of an execution, when the table refuses the outcome the
handler ended with.

## Main results

* `JobSystem.controlled_of_reachable` — without those steps and without crashes, every job
  that is running or has a request recorded is owned by an execution in progress;
* `JobSystem.requests_complete` — a request on a job nobody owns is finished at once;
* `JobSystem.requests_complete_fails` — a job requeued after a retry is left `PAUSE_REQUESTED`.
-/

namespace StoryForge

open Lifecycle

/-- The statuses in which a worker is expected to finish the job. -/
def ownedStatuses : List JobStatus := [.running, .pauseRequested, .cancelRequested]

/-- Whether the claim of an execution is the one recorded on the job row. -/
def Execution.Holds (e : Execution) (job : Job) : Prop :=
  job.workerId = some e.workerId ∧ e.attempt = job.attempt

instance (e : Execution) (job : Job) : Decidable (e.Holds job) :=
  inferInstanceAs (Decidable (_ ∧ _))

namespace JobSystem

/-- Job `j` is owned by an execution that claimed it and has not written its outcome. -/
def Owned (s : JobSystem) (j : ℕ) (job : Job) : Prop :=
  ∃ e ∈ s.executions, e.InProgress ∧ e.jobId = j ∧ e.Holds job

instance (s : JobSystem) (j : ℕ) (job : Job) : Decidable (s.Owned j job) :=
  inferInstanceAs (Decidable (∃ e ∈ s.executions, e.InProgress ∧ e.jobId = j ∧ e.Holds job))

/-- Every running job and every job with a recorded request is owned. -/
def Controlled (s : JobSystem) : Prop :=
  ∀ (j : ℕ) (job : Job), s.db.jobs[j]? = some job → job.status ∈ ownedStatuses → s.Owned j job

instance (s : JobSystem) : Decidable s.Controlled :=
  decidable_of_iff
    (∀ j < s.db.jobs.length, ∀ job ∈ s.db.jobs[j]?, job.status ∈ ownedStatuses → s.Owned j job)
    ⟨fun h j job hjob => h j (List.getElem?_eq_some_iff.mp hjob).1 job hjob,
      fun h j _ job hjob => h j job hjob⟩

/-- A request on job `j` is sound when the job, if it waits for a delivery after a first
execution, is still owned by one. -/
def RequestSafe (s : JobSystem) (j : ℕ) : Prop :=
  ∀ job ∈ s.db.jobs[j]?, job.status ∈ [JobStatus.outboxPending, .queued, .retryScheduled] →
    job.startedAt ≠ none → s.Owned j job

/-- The condition on a step: no worker crashes, no request reaches a job that waits for a
delivery after a first execution, and the execution holding a job does not end with an
outcome the transition table refuses. -/
def ControlSafe (s : JobSystem) (a : Action) : Prop :=
  match a with
  | .requestCancel j _ | .requestPause j _ => s.RequestSafe j
  | .finish i outcome _ =>
      ∀ e ∈ s.executions[i]?, ∀ job ∈ s.db.jobs[e.jobId]?, e.Holds job → ¬ outcome.Refused job
  | .crash _ => False
  | _ => True

instance (s : JobSystem) (j : ℕ) : Decidable (s.RequestSafe j) := by
  unfold RequestSafe; infer_instance

instance (s : JobSystem) (a : Action) : Decidable (s.ControlSafe a) := by
  unfold ControlSafe; split <;> infer_instance

variable {settings : Settings} {s s' : JobSystem} {a : Action} {j : ℕ} {job job' : Job}

/-- Ownership goes on through steps that are not the end of the owner and leave the claim
on the row alone. -/
theorem Owned.persists (h : s.Owned j job) (hnext : next settings s a = some s')
    (hends : ∀ i e, s.executions[i]? = some e → e.jobId = j → e.Holds job → ¬ a.Ends i)
    (hattempt : job'.attempt = job.attempt) (hworker : job'.workerId = job.workerId) :
    s'.Owned j job' := by
  obtain ⟨e, he, hprogress, hj, hholds⟩ := h
  obtain ⟨i, hi⟩ := List.mem_iff_getElem?.mp he
  have hi' := execution_persists hnext hi (hends i e hi hj hholds)
  exact ⟨e, List.mem_iff_getElem?.mpr ⟨i, hi'⟩, hprogress, hj, hworker ▸ hholds.1,
    hholds.2.trans hattempt.symm⟩

/-- A job after a step is an old job that made an allowed move, or newly admitted. -/
theorem JobsStep.cases {jobs' : List Job} (h : JobsStep settings s a jobs')
    (hjob' : jobs'[j]? = some job') :
    (∃ job, s.db.jobs[j]? = some job ∧
        Moves (allowedMoves settings s a j) job.lifecycle job'.lifecycle) ∨
      job'.status = .outboxPending ∧ job'.workerId = none := by
  rcases h with hmoves | ⟨request, now, new, rfl, rfl, hnew⟩
  · exact .inl (hmoves.moves j job' hjob')
  · rw [List.getElem?_append] at hjob'
    split at hjob'
    · exact .inl ⟨job', hjob', .refl _⟩
    · obtain rfl : job' = new := List.mem_singleton.mp (List.mem_of_getElem? hjob')
      exact .inr ⟨congrArg Lifecycle.status hnew, congrArg Lifecycle.workerId hnew⟩

/-- The outcome of the execution that holds a job settles the job. -/
theorem finish_settles (hs : s.db.Sound) {i : ℕ} {outcome : Outcome} {now : Time}
    {e : Execution} (he : s.executions[i]? = some e) (hjob : s.db.jobs[e.jobId]? = some job)
    (hholds : e.Holds job) (hst : job.status ∈ ownedStatuses) (haccepted : ¬ outcome.Refused job)
    (hnext : next settings s (.finish i outcome now) = some s')
    (hjob' : s'.db.jobs[e.jobId]? = some job') : job'.status ∈ settledStatuses := by
  obtain ⟨e₁, he₁, hs'⟩ := Option.map_eq_some_iff.mp hnext
  obtain rfl := Option.some.inj (he.symm.trans (Option.filter_eq_some_iff.mp he₁).1)
  obtain ⟨db', hdb'⟩ := writeOutcome_ok settings now hs hjob hholds.1 hst haccepted
  rw [hdb'] at hs'
  subst hs'
  obtain ⟨_, job₁, rows, hw, -, -, hsettled, -⟩ := writeOutcome_writes hdb'
  obtain rfl := Option.some.inj (hw.self.symm.trans hjob')
  exact hsettled

/-- So does the `_fail` that follows a `_succeed` that raised. -/
theorem failAfter_settles {i : ℕ} {now : Time} {e : Execution}
    (he : s.executions[i]? = some e) (hjob : s.db.jobs[e.jobId]? = some job)
    (hholds : e.Holds job) (hst : job.status ∈ ownedStatuses)
    (hnext : next settings s (.failAfter i now) = some s')
    (hjob' : s'.db.jobs[e.jobId]? = some job') : job'.status ∈ settledStatuses := by
  obtain ⟨e₁, he₁, hs'⟩ := Option.bind_eq_some_iff.mp hnext
  obtain rfl := Option.some.inj (he.symm.trans (inProgress_eq_some.mp he₁).1)
  split at hs'
  · rename_i error _
    have hin : .failed ∈ job.status.allowed := by
      simp only [ownedStatuses, List.mem_cons, List.not_mem_nil, or_false] at hst
      rcases hst with hst | hst | hst <;> simp [hst, JobStatus.allowed]
    obtain ⟨db', hdb'⟩ := JobExecutor.fail_ok settings now hjob hholds.1 hin error
    obtain rfl := Option.some.inj hs'
    rw [hdb'] at hjob'
    obtain ⟨_, job₁, hw, -, -, hfailed⟩ := JobExecutor.fail_writes hdb'
    obtain rfl := Option.some.inj (hw.self.symm.trans hjob')
    simp [hfailed, settledStatuses]
  · exact absurd hs' (by simp)

/-- A settled job is not left to a worker. -/
theorem not_owned_of_settled {status : JobStatus} (h : status ∈ settledStatuses) :
    status ∉ ownedStatuses := by
  cases status <;> simp_all [settledStatuses, ownedStatuses]

/-- The end of the execution that holds a job settles it. -/
theorem settles_of_ends (hs : s.db.Sound) (hsafe : s.ControlSafe a)
    (hnext : next settings s a = some s') {i : ℕ} {e : Execution}
    (he : s.executions[i]? = some e) (hjob : s.db.jobs[e.jobId]? = some job)
    (hholds : e.Holds job) (hst : job.status ∈ ownedStatuses) (hends : a.Ends i)
    (hjob' : s'.db.jobs[e.jobId]? = some job') : job'.status ∈ settledStatuses := by
  cases a with
  | finish k outcome now =>
      obtain rfl : k = i := hends
      exact finish_settles hs he hjob hholds hst (hsafe e he job hjob hholds) hnext hjob'
  | failAfter k now =>
      obtain rfl : k = i := hends
      exact failAfter_settles he hjob hholds hst hnext hjob'
  | crash k => exact absurd hsafe id
  | _ => exact absurd hends id

/-- A job that keeps its claim and its status stays owned. -/
theorem owned_of_same (hs : s.db.Sound) (hc : s.Controlled) (hsafe : s.ControlSafe a)
    (hnext : next settings s a = some s') (hjob : s.db.jobs[j]? = some job)
    (hjob' : s'.db.jobs[j]? = some job') (hst : job.status ∈ ownedStatuses)
    (hst' : job'.status ∈ ownedStatuses) (hattempt : job'.attempt = job.attempt)
    (hworker : job'.workerId = job.workerId) : s'.Owned j job' := by
  refine (hc j job hjob hst).persists hnext (fun i e he hj hholds hends => ?_) hattempt hworker
  subst hj
  exact not_owned_of_settled
    (settles_of_ends hs hsafe hnext he hjob hholds hst hends hjob') hst'

/-- A claim makes the execution it starts the owner. -/
theorem owned_of_claim {jobId : ℕ} {workerId : String} {now : Time} {db' : Database}
    (hclaim : JobExecutor.claim settings jobId workerId now s.db = .ok (some db'))
    (hjob' : db'.jobs[jobId]? = some job') :
    (s.startExecution db' jobId workerId).Owned jobId job' := by
  obtain ⟨job, job₁, hw, -, happly⟩ := JobExecutor.claim_writes hclaim
  obtain rfl := Option.some.inj (hw.self.symm.trans hjob')
  refine ⟨_, List.mem_append_right _ (List.mem_singleton.mpr rfl), trivial, rfl, ?_, ?_⟩
  · rw [← Job.lifecycle_workerId, happly]
    rfl
  · simp [hjob']

/-- The moves that leave a job owned: a claim, a heartbeat, and a request that is recorded. -/
theorem owned_of_move {m : Move} {c : Lifecycle}
    (hst : (m.apply c).status ∈ ownedStatuses) :
    (∃ worker now lease, m = .claim worker now lease) ∨
      (∃ worker lease, m = .heartbeat worker lease) ∨ m = .requestCancel ∨ m = .requestPause := by
  cases m <;> simp_all [Move.apply, ownedStatuses]

/-- A request recorded on a live job was made while an execution owned it. -/
theorem owned_of_request (hs : s.db.Sound) (hc : s.Controlled) (hsafe : s.RequestSafe j)
    (hjob : s.db.jobs[j]? = some job) (hstarted : job.startedAt ≠ none)
    (hin : .cancelRequested ∈ job.status.allowed ∧ job.status ≠ .paused ∨
      .pauseRequested ∈ job.status.allowed) : s.Owned j job := by
  have hsound := hs.lifecycles j job hjob
  have hnot_pending := hsound.not_pending
  have hnot_leased := hsound.not_leased
  rw [Job.lifecycle_status] at hnot_pending hnot_leased
  have hcases : job.status ∈ ownedStatuses ∨
      job.status ∈ [JobStatus.outboxPending, .queued, .retryScheduled] := by
    cases hst : job.status <;> simp_all [JobStatus.allowed, ownedStatuses]
  rcases hcases with howned | hwaiting
  · exact hc j job hjob howned
  · exact hsafe job hjob hwaiting hstarted

/-- Only a claim makes the claim move. -/
theorem action_of_claim {worker : String} {now lease : Time}
    (h : allowedMoves settings s a j (.claim worker now lease)) : a = .claim j worker now := by
  cases a with
  | finish k outcome now' =>
      obtain ⟨e, -, -, -, hm⟩ := h
      cases outcome <;> simp [Outcome.moves] at hm
  | _ => simp_all [allowedMoves]

/-- Only a cancel request records a cancel request. -/
theorem action_of_requestCancel (h : allowedMoves settings s a j .requestCancel) :
    ∃ now, a = .requestCancel j now := by
  cases a with
  | finish k outcome now' =>
      obtain ⟨e, -, -, -, hm⟩ := h
      cases outcome <;> simp [Outcome.moves] at hm
  | _ => simp_all [allowedMoves]

/-- Only a pause request records a pause request. -/
theorem action_of_requestPause (h : allowedMoves settings s a j .requestPause) :
    ∃ now, a = .requestPause j now := by
  cases a with
  | finish k outcome now' =>
      obtain ⟨e, -, -, -, hm⟩ := h
      cases outcome <;> simp [Outcome.moves] at hm
  | _ => simp_all [allowedMoves]

/-- **One step keeps jobs controlled** under `ControlSafe`. -/
theorem controlled_next (hs : s.db.Sound) (hc : s.Controlled) (hsafe : s.ControlSafe a)
    (hnext : next settings s a = some s') : s'.Controlled := by
  intro j job' hjob' hst'
  rcases JobsStep.cases (next_change hs hnext).2 hjob' with ⟨job, hjob, hmoves⟩ | ⟨hnew, -⟩
  swap
  · simp [hnew, ownedStatuses] at hst'
  rcases hmoves with hsame | ⟨m, hallowed, hguard, happly⟩
  · have hst : job.status = job'.status := (congrArg Lifecycle.status hsame).symm
    exact owned_of_same hs hc hsafe hnext hjob hjob' (hst ▸ hst') hst'
      (congrArg Lifecycle.attempt hsame) (congrArg Lifecycle.workerId hsame)
  have hattempt := congrArg Lifecycle.attempt happly
  have hworker := congrArg Lifecycle.workerId happly
  have hst₁ : (m.apply job.lifecycle).status ∈ ownedStatuses := happly ▸ hst'
  rcases owned_of_move hst₁ with ⟨worker, now, lease, rfl⟩ | ⟨worker, lease, rfl⟩ | rfl | rfl
  · -- a claim, which commits because the attempt advanced
    obtain rfl := action_of_claim hallowed
    simp only [next] at hnext
    split at hnext
    · rename_i db' hdb'
      obtain rfl := Option.some.inj hnext
      exact owned_of_claim hdb' hjob'
    · obtain rfl := Option.some.inj hnext
      obtain rfl := Option.some.inj (hjob.symm.trans hjob')
      exact absurd hattempt (by simp [Move.apply])
  · -- a heartbeat moves the lease only
    have hst : job.status ∈ ownedStatuses := by
      have hstatus := congrArg Lifecycle.status happly
      simp only [Job.lifecycle_status, Move.apply] at hstatus
      exact hstatus ▸ hst'
    exact owned_of_same hs hc hsafe hnext hjob hjob' hst hst' hattempt hworker
  · obtain ⟨now, rfl⟩ := action_of_requestCancel hallowed
    exact (owned_of_request hs hc hsafe hjob hguard.2.1 (.inl ⟨hguard.1, hguard.2.2⟩)).persists
      hnext (fun _ _ _ _ _ hends => hends) (by simpa [Move.apply] using hattempt)
      (by simpa [Move.apply] using hworker)
  · obtain ⟨now, rfl⟩ := action_of_requestPause hallowed
    exact (owned_of_request hs hc hsafe hjob hguard.2 (.inr hguard.1)).persists
      hnext (fun _ _ _ _ _ hends => hends) (by simpa [Move.apply] using hattempt)
      (by simpa [Move.apply] using hworker)

/-- Under the condition, every running job and every recorded request has an owner. -/
theorem controlled_of_reachable (hs : (machine settings).ReachableUnder ControlSafe s) :
    s.Controlled := by
  refine hs.invariant (I := Controlled) (fun s hinit => ?_)
    fun s a s' hs hc hsafe hnext => controlled_next (sound_of_reachable hs) hc hsafe hnext
  obtain ⟨hjobs, -⟩ := hinit
  intro j job hjob
  simp [hjobs] at hjob

/-- A pause accepted on a job nobody owns is finished by the request. -/
theorem requestPause_completes (hs : s.db.Sound) (hc : s.Controlled) (hsafe : s.RequestSafe j)
    (hjob : s.db.jobs[j]? = some job) (hfree : ¬ s.Owned j job) {now : Time} {db' : Database}
    (h : JobService.requestPause j now s.db = .ok db') :
    ∃ job', db'.jobs[j]? = some job' ∧ job'.status = .paused := by
  obtain ⟨old, job', hw, hmoves, hst⟩ := JobService.requestPause_writes h
  obtain rfl := Option.some.inj (hw.found.symm.trans hjob)
  simp only [List.mem_cons, List.not_mem_nil, or_false] at hst
  refine ⟨job', hw.self, hst.resolve_right fun hrequested => hfree ?_⟩
  rcases hmoves with hsame | ⟨m, hm, hguard, happly⟩
  · refine hc j old hjob ?_
    have hstatus : job'.status = old.status := congrArg Lifecycle.status hsame
    simp [← hstatus, hrequested, ownedStatuses]
  · have hstatus : job'.status = (m.apply old.lifecycle).status :=
      congrArg Lifecycle.status happly
    simp only [List.mem_cons, List.not_mem_nil, or_false] at hm
    rcases hm with rfl | rfl
    · simp [hrequested, Move.apply] at hstatus
    · exact owned_of_request hs hc hsafe hjob hguard.2 (.inr hguard.1)

/-- A cancellation accepted on a job nobody owns is finished by the request. -/
theorem requestCancel_completes (hs : s.db.Sound) (hc : s.Controlled) (hsafe : s.RequestSafe j)
    (hjob : s.db.jobs[j]? = some job) (hfree : ¬ s.Owned j job) {now : Time} {db' : Database}
    (h : JobService.requestCancel j now s.db = .ok db') :
    ∃ job', db'.jobs[j]? = some job' ∧ job'.status = .cancelled := by
  obtain ⟨old, job', hw, hmoves, hst⟩ := JobService.requestCancel_writes h
  obtain rfl := Option.some.inj (hw.found.symm.trans hjob)
  simp only [List.mem_cons, List.not_mem_nil, or_false] at hst
  refine ⟨job', hw.self, hst.resolve_right fun hrequested => hfree ?_⟩
  rcases hmoves with hsame | ⟨m, hm, hguard, happly⟩
  · refine hc j old hjob ?_
    have hstatus : job'.status = old.status := congrArg Lifecycle.status hsame
    simp [← hstatus, hrequested, ownedStatuses]
  · have hstatus : job'.status = (m.apply old.lifecycle).status :=
      congrArg Lifecycle.status happly
    simp only [List.mem_cons, List.not_mem_nil, or_false] at hm
    rcases hm with rfl | rfl
    · simp [hrequested, Move.apply] at hstatus
    · exact owned_of_request hs hc hsafe hjob hguard.2.1 (.inl ⟨hguard.1, hguard.2.2⟩)

/-- **Control requests complete.** In every run under the condition, a recorded pause or
cancel request belongs to an execution in progress, and a request accepted on a job that
no execution owns is finished by the request itself. -/
theorem requests_complete (hs : (machine settings).ReachableUnder ControlSafe s) :
    (∀ (j : ℕ) (job : Job), s.db.jobs[j]? = some job →
        job.status ∈ [JobStatus.pauseRequested, .cancelRequested] → s.Owned j job) ∧
      ∀ (j : ℕ) (job : Job) (now : Time) (db' : Database), s.db.jobs[j]? = some job →
        ¬ s.Owned j job → s.RequestSafe j →
        (JobService.requestPause j now s.db = .ok db' →
            ∃ job', db'.jobs[j]? = some job' ∧ job'.status = .paused) ∧
          (JobService.requestCancel j now s.db = .ok db' →
            ∃ job', db'.jobs[j]? = some job' ∧ job'.status = .cancelled) := by
  have hsound := sound_of_reachable hs
  have hc := controlled_of_reachable hs
  refine ⟨fun j job hjob hst => hc j job hjob (List.mem_cons_of_mem _ hst), ?_⟩
  intro j job now db' hjob hfree hsafe
  exact ⟨requestPause_completes hsound hc hsafe hjob hfree,
    requestCancel_completes hsound hc hsafe hjob hfree⟩

/-! ### A request on a requeued job -/

/-- A job fails once, is scheduled for a retry, and is cancelled while it waits. -/
def cancelledWhileWaiting : List Action :=
  [.create sampleRequest 0, .claim 0 "w" 1, .finish 0 (.retryable ⟨"JobRetryableError", ""⟩) 2,
    .requestCancel 0 3]

/-- A job is paused while it runs. -/
def pausedWhileRunning : List Action :=
  [.create sampleRequest 0, .claim 0 "w" 1, .requestPause 0 2]

/-- The steps of a run without worker crashes. -/
def NoCrash (_ : JobSystem) (a : Action) : Prop :=
  match a with
  | .crash _ => False
  | _ => True

instance (s : JobSystem) (a : Action) : Decidable (s.NoCrash a) := by
  unfold NoCrash; split <;> infer_instance

/-- Without crashes, a cancellation of a job waiting for its second attempt is recorded
for a worker that does not exist. -/
theorem requests_complete_fails :
    ¬ ∀ s, (machine Settings.defaults).ReachableUnder NoCrash s → ∀ (j : ℕ) (job : Job),
      s.db.jobs[j]? = some job →
      job.status ∈ [JobStatus.pauseRequested, .cancelRequested] → s.Owned j job := by
  intro h
  obtain ⟨s, hs, job, hjob, hst, hfree⟩ := (machine Settings.defaults).exists_reachableUnder
    NoCrash cancelledWhileWaiting
    (fun s => ∃ job ∈ s.db.jobs[0]?, job.status = .cancelRequested ∧ ¬ s.Owned 0 job)
    (machine_init_empty _) (by decide)
  exact hfree (h s hs 0 job hjob (by simp [hst]))

/-- A pause of a running job is owned by its execution. -/
theorem requests_complete_pausedWhileRunning :
    ∃ s, (machine Settings.defaults).ReachableUnder ControlSafe s ∧
      ∃ job, s.db.jobs[0]? = some job ∧ job.status = .pauseRequested ∧ s.Owned 0 job := by
  obtain ⟨s, hs, job, hjob, hst⟩ := (machine Settings.defaults).exists_reachableUnder ControlSafe
    pausedWhileRunning (fun s => ∃ job ∈ s.db.jobs[0]?, job.status = .pauseRequested)
    (machine_init_empty _) (by decide)
  exact ⟨s, hs, job, hjob, hst, (requests_complete hs).1 0 job hjob (by simp [hst])⟩

end JobSystem

end StoryForge
