import StoryForge.Jobs.Deliveries

/-!
# Sound databases

What every transaction of the job system keeps. Soundness relates the three places in
which the job system remembers deliveries. A row is addressed to the job its key names; a
key for attempt `n` is at most one ahead of the job's attempts, and only while no worker
holds the job; a running job has a worker, a lease and a start time.

## Main results

* `Database.Sound.writes`, `Database.Sound.delivers` — transactions keep a database sound;
* `Database.Sound.retry_key_free` — a held job can always be scheduled for a retry;
* `recoverExpired_change`, `recoverStranded_change` — the sweeps;
* `JobSystem.writeOutcome_writes`, `JobSystem.writeOutcome_ok` — what a recorded outcome
  does, and when an outcome is not refused.
-/

namespace StoryForge

open Lifecycle

/-! ### Sound lifecycles -/

/-- What holds of every job between transactions. -/
structure Lifecycle.Sound (c : Lifecycle) : Prop where
  not_pending : c.status ≠ .pending
  not_leased : c.status ≠ .leased
  running : c.status = .running →
    c.workerId.isSome ∧ c.leaseExpiresAt.isSome ∧ c.startedAt.isSome

/-- Every move keeps a lifecycle sound. -/
theorem Move.sound {m : Move} {c : Lifecycle} (hguard : m.guard c) (h : c.Sound) :
    (m.apply c).Sound := by
  obtain ⟨h₁, h₂, h₃⟩ := h
  cases m <;> constructor <;> simp_all [Move.guard, Move.apply]

/-- Whether a row for attempt `n` may exist for a job. -/
def Lifecycle.Admits (c : Lifecycle) (n : ℕ) : Prop :=
  n ≤ c.attempt ∨ n = c.attempt + 1 ∧ c.workerId = none

/-- Moves keep admitting the attempts they admitted: only a claim sets the worker, and it
advances the attempt. -/
theorem Move.admits {m : Move} {c : Lifecycle} {n : ℕ} (h : c.Admits n) :
    (m.apply c).Admits n := by
  unfold Lifecycle.Admits at *
  cases m <;> simp_all [Move.apply] <;> omega

theorem Lifecycle.Moves.sound {allowed : Move → Prop} {c c' : Lifecycle}
    (hmoves : Moves allowed c c') (h : c.Sound) : c'.Sound := by
  rcases hmoves with rfl | ⟨m, -, hguard, rfl⟩
  · exact h
  · exact m.sound hguard h

theorem Lifecycle.Moves.admits {allowed : Move → Prop} {c c' : Lifecycle} {n : ℕ}
    (hmoves : Moves allowed c c') (h : c.Admits n) : c'.Admits n := by
  rcases hmoves with rfl | ⟨m, -, -, rfl⟩
  · exact h
  · exact m.admits h

/-! ### How a table of jobs changes -/

/-- No job appears or disappears, and each job `j` changes by nothing or by one of the moves
`allowed j`. -/
structure JobsMove (allowed : ℕ → Move → Prop) (jobs jobs' : List Job) : Prop where
  length : jobs'.length = jobs.length
  moves : ∀ j job', jobs'[j]? = some job' →
    ∃ job, jobs[j]? = some job ∧ Moves (allowed j) job.lifecycle job'.lifecycle

namespace JobsMove

variable {allowed : ℕ → Move → Prop} {db db' : Database} {j : ℕ} {job job' : Job}

theorem refl (jobs : List Job) : JobsMove allowed jobs jobs :=
  ⟨rfl, fun _ job hjob => ⟨job, hjob, .refl _⟩⟩

theorem of_eq (h : db'.jobs = db.jobs) : JobsMove allowed db.jobs db'.jobs := h ▸ refl _

/-- A table in which one row was replaced. -/
theorem of_set (hjob : db.jobs[j]? = some job) (hjobs : db'.jobs = db.jobs.set j job')
    (hmoves : Moves (allowed j) job.lifecycle job'.lifecycle) :
    JobsMove allowed db.jobs db'.jobs := by
  have hw : Writes db { db with jobs := db.jobs.set j job' } j job job' [] :=
    ⟨hjob, rfl, (List.append_nil _).symm⟩
  rw [hjobs]
  refine ⟨List.length_set, fun i row hrow => ?_⟩
  rcases hw.cases hrow with ⟨rfl, rfl⟩ | ⟨-, hold⟩
  · exact ⟨job, hjob, hmoves⟩
  · exact ⟨row, hold, .refl _⟩

theorem of_writes {rows : List OutboxMessage} (h : Writes db db' j job job' rows)
    (hmoves : Moves (allowed j) job.lifecycle job'.lifecycle) :
    JobsMove allowed db.jobs db'.jobs :=
  of_set h.found h.jobs hmoves

theorem of_movesJob {m : Move} (h : MovesJob db db' j m) (hm : allowed j m) :
    JobsMove allowed db.jobs db'.jobs := by
  obtain ⟨job, job', hjob, hjobs, hguard, happly⟩ := h
  exact of_set hjob hjobs (.move m hm hguard happly)

/-- One more row, as it was before, makes its move. -/
theorem step {jobs : List Job} {rows : List OutboxMessage}
    (h : JobsMove allowed jobs db.jobs) (hsame : db.jobs[j]? = jobs[j]?)
    (hw : Writes db db' j job job' rows)
    (hmoves : Moves (allowed j) job.lifecycle job'.lifecycle) :
    JobsMove allowed jobs db'.jobs := by
  refine ⟨hw.length_jobs.trans h.length, fun i row hrow => ?_⟩
  rcases hw.cases hrow with ⟨rfl, rfl⟩ | ⟨-, hold⟩
  · exact ⟨job, hsame ▸ hw.found, hmoves⟩
  · exact h.moves i row hold

theorem mono {allowed' : ℕ → Move → Prop} {jobs jobs' : List Job}
    (himp : ∀ j m, allowed j m → allowed' j m) (h : JobsMove allowed jobs jobs') :
    JobsMove allowed' jobs jobs' := by
  refine ⟨h.length, fun j job' hjob' => ?_⟩
  obtain ⟨job, hjob, hmoves⟩ := h.moves j job' hjob'
  exact ⟨job, hjob, hmoves.mono (himp j)⟩

end JobsMove

/-! ### Sound databases -/

/-- What holds of the jobs and the outbox between transactions. -/
structure Database.Sound (db : Database) : Prop where
  lifecycles : ∀ (j : ℕ) (job : Job), db.jobs[j]? = some job → job.lifecycle.Sound
  addressed : ∀ row ∈ db.outbox,
    row.deduplicationKey.jobId = row.aggregateId ∧ row.aggregateId < db.jobs.length
  attempts : ∀ row ∈ db.outbox, ∀ n, row.deduplicationKey.reason = .attempt n →
    ∀ job : Job, db.jobs[row.aggregateId]? = some job → job.lifecycle.Admits n

/-- A row of `db'` that `db` does not have: a request for a known job, and for an attempt
the job admits. -/
def NewIntent (db' : Database) (row : OutboxMessage) : Prop :=
  ∃ j reason, row.Requests j reason ∧ j < db'.jobs.length ∧
    ∀ n, reason = .attempt n →
      ∀ job : Job, db'.jobs[j]? = some job → job.lifecycle.Admits n

namespace Database.Sound

variable {allowed : ℕ → Move → Prop} {p : Move → Prop} {db db' : Database} {j : ℕ}
  {job job' : Job} {rows : List OutboxMessage}

/-- A sound database stays sound when its jobs make moves, its rows keep their intents and
new rows are intents of their own. -/
theorem change (hs : db.Sound) (hjobs : JobsMove allowed db.jobs db'.jobs)
    (hrows : ∀ row' ∈ db'.outbox,
      (∃ row ∈ db.outbox, OutboxMessage.SameIntent row row') ∨ NewIntent db' row') :
    db'.Sound where
  lifecycles i row hrow := by
    obtain ⟨old, hold, hmoves⟩ := hjobs.moves i row hrow
    exact hmoves.sound (hs.lifecycles i old hold)
  addressed row' hrow' := by
    rcases hrows row' hrow' with ⟨row, hrow, hsame⟩ | ⟨i, reason, hreq, hlt, -⟩
    · rw [hsame.aggregateId, hsame.deduplicationKey, hjobs.length]
      exact hs.addressed row hrow
    · rw [hreq.aggregateId, hreq.deduplicationKey]
      exact ⟨rfl, hlt⟩
  attempts row' hrow' n hn job' hjob' := by
    rcases hrows row' hrow' with ⟨row, hrow, hsame⟩ | ⟨i, reason, hreq, -, hadmits⟩
    · rw [hsame.aggregateId] at hjob'
      rw [hsame.deduplicationKey] at hn
      obtain ⟨old, hold, hmoves⟩ := hjobs.moves _ job' hjob'
      exact hmoves.admits (hs.attempts row hrow n hn old hold)
    · rw [hreq.aggregateId] at hjob'
      rw [hreq.deduplicationKey] at hn
      exact hadmits n hn job' hjob'

theorem writes (hs : db.Sound) (hw : Writes db db' j job job' rows)
    (hmoves : Moves p job.lifecycle job'.lifecycle)
    (hrows : ∀ row ∈ rows, ∃ reason, row.Requests j reason ∧
      ∀ n, reason = .attempt n → job'.lifecycle.Admits n) : db'.Sound := by
  have hjobs : JobsMove (fun _ => p) db.jobs db'.jobs := .of_writes hw hmoves
  refine hs.change hjobs fun row' hrow' => ?_
  rw [hw.outbox, List.mem_append] at hrow'
  rcases hrow' with hold | hnew
  · exact .inl ⟨row', hold, .refl row'⟩
  · obtain ⟨reason, hreq, hadmits⟩ := hrows row' hnew
    refine .inr ⟨j, reason, hreq, by rw [hw.length_jobs]; exact hw.lt_length, ?_⟩
    intro n hn job₁ hjob₁
    obtain rfl := Option.some.inj (hw.self.symm.trans hjob₁)
    exact hadmits n hn

/-- Transactions that append no outbox row. -/
theorem writes_nil (hs : db.Sound) (hw : Writes db db' j job job' [])
    (hmoves : Moves p job.lifecycle job'.lifecycle) : db'.Sound :=
  hs.writes hw hmoves (by simp)

/-- Transactions that request a delivery for a reason other than an attempt. -/
theorem writes_enqueue {reason : EnqueueReason} (hs : db.Sound)
    (hw : Writes db db' j job job' rows)
    (hmoves : Moves p job.lifecycle job'.lifecycle)
    (hrows : Enqueues db j reason rows) (hreason : ∀ n, reason ≠ .attempt n) : db'.Sound := by
  refine hs.writes hw hmoves fun row hrow => ?_
  rcases hrows with ⟨rfl, -⟩ | ⟨row₀, rfl, hreq⟩
  · exact absurd hrow (by simp)
  · obtain rfl := List.mem_singleton.mp hrow
    exact ⟨reason, hreq, fun n hn => absurd hn (hreason n)⟩

/-- Transactions that retry a job. -/
theorem writes_retry (hs : db.Sound) (hw : Writes db db' j job job' rows)
    (hmoves : Moves p job.lifecycle job'.lifecycle) (hrows : Retries j job job' rows)
    (hreleased : job'.attempt = job.attempt ∧ job'.workerId = none) : db'.Sound := by
  refine hs.writes hw hmoves fun row hrow => ?_
  rcases hrows with ⟨-, rfl⟩ | ⟨-, row₀, rfl, hreq⟩
  · exact absurd hrow (by simp)
  · obtain rfl := List.mem_singleton.mp hrow
    refine ⟨_, hreq, fun n hn => .inr ⟨?_, hreleased.2⟩⟩
    rw [Job.lifecycle_attempt, hreleased.1]
    exact (EnqueueReason.attempt.inj hn).symm

/-- Admission: a new job that never started, and perhaps a request to deliver it. -/
theorem insert {settings : Settings} {request : JobService.JobRequest} {now : Time}
    (hs : db.Sound) (hjobs : db'.jobs = db.jobs ++ [job]) (houtbox : db'.outbox = db.outbox ++ rows)
    (hrows : Enqueues db db.jobs.length .create rows)
    (hnew : job.lifecycle = (JobService.newJob settings request now).lifecycle) : db'.Sound := by
  have hrow : ∀ row' ∈ db'.outbox, row' ∈ db.outbox ∨ row'.Requests db.jobs.length .create := by
    intro row' hrow'
    rw [houtbox, List.mem_append] at hrow'
    refine hrow'.imp id fun hnew => ?_
    rcases hrows with ⟨rfl, -⟩ | ⟨row, rfl, hreq⟩
    · exact absurd hnew (by simp)
    · obtain rfl := List.mem_singleton.mp hnew
      exact hreq
  refine ⟨fun i row hi => ?_, fun row' hrow' => ?_, fun row' hrow' n hn job' hjob' => ?_⟩
  · rw [hjobs, List.getElem?_append] at hi
    split at hi
    · exact hs.lifecycles i row hi
    · obtain rfl : row = job := (List.mem_singleton.mp (List.mem_of_getElem? hi))
      rw [hnew]
      exact ⟨by simp [JobService.newJob], by simp [JobService.newJob],
        by simp [JobService.newJob]⟩
  · rw [hjobs, List.length_append, List.length_singleton]
    rcases hrow row' hrow' with hold | hreq
    · obtain ⟨hkey, hlt⟩ := hs.addressed row' hold
      exact ⟨hkey, Nat.lt_succ_of_lt hlt⟩
    · rw [hreq.deduplicationKey, hreq.aggregateId]
      exact ⟨rfl, Nat.lt_succ_self _⟩
  · rcases hrow row' hrow' with hold | hreq
    · rw [hjobs, List.getElem?_append_left (hs.addressed row' hold).2] at hjob'
      exact hs.attempts row' hold n hn job' hjob'
    · rw [hreq.deduplicationKey] at hn
      exact absurd hn (by simp)

/-- Changes of one outbox row, with whatever moves the jobs make. -/
theorem delivers {r : ℕ} {row row' : OutboxMessage} (hs : db.Sound)
    (hd : Delivers db db' r row row') (hjobs : JobsMove allowed db.jobs db'.jobs) :
    db'.Sound := by
  refine hs.change hjobs fun row₁ hrow₁ => .inl ?_
  obtain ⟨i, hi⟩ := List.mem_iff_getElem?.mp hrow₁
  rcases hd.cases hi with ⟨-, rfl⟩ | ⟨-, hold⟩
  · exact ⟨row, List.mem_iff_getElem?.mpr ⟨r, hd.found⟩, hd.intent⟩
  · exact ⟨row₁, List.mem_iff_getElem?.mpr ⟨i, hold⟩, .refl row₁⟩

/-- **A held job can be retried**: no row has the key of the next attempt. -/
theorem retry_key_free (hs : db.Sound) (hjob : db.jobs[j]? = some job)
    (hheld : job.workerId.isSome) :
    ∀ row ∈ db.outbox, row.deduplicationKey ≠ ⟨j, .attempt (job.attempt + 1)⟩ := by
  intro row hrow hkey
  have haddr := (hs.addressed row hrow).1
  rw [hkey] at haddr
  rcases hs.attempts row hrow _ (by rw [hkey]) job (haddr ▸ hjob) with hle | ⟨-, hnone⟩
  · exact absurd hle (by simp)
  · rw [Job.lifecycle_workerId] at hnone
    simp [hnone] at hheld

end Database.Sound

/-! ### The sweeps -/

/-- A retry by a worker or by recovery ends without a worker, at the same attempt. -/
theorem Lifecycle.Makes.released {allowed : Move → Prop} {c c' : Lifecycle}
    (h : Makes allowed c c')
    (hallowed : ∀ m, allowed m →
      (∃ worker, m = .retry worker ∨ m = .exhaust worker) ∨ m = .recover ∨ m = .recoverExhausted) :
    c'.attempt = c.attempt ∧ c'.workerId = none := by
  obtain ⟨m, hm, -, rfl⟩ := h
  rcases hallowed m hm with ⟨worker, rfl | rfl⟩ | rfl | rfl <;> simp [Move.apply]

/-- **Induction over the sweep of expired leases.** What each recovery of one job keeps, the
sweep keeps; the job recovered looks as it did before the sweep. -/
theorem recoverExpired_induction {I : Database → Prop} {now : Time} {db db' : Database}
    (hI : I db)
    (hstep : ∀ b b' i job job' rows,
      i ∈ JobRepository.expiredLeases now JobExecutor.recoveryLimit db → I b →
      b.jobs[i]? = db.jobs[i]? → Writes b b' i job job' rows →
      Makes (· ∈ [.recover, .recoverExhausted]) job.lifecycle job'.lifecycle →
      Retries i job job' rows → I b')
    (h : JobExecutor.recoverExpired now db = .ok db') : I db' := by
  refine Except.foldlM_invariant_of_nodup (v := fun b i => b.jobs[i]?) Rows.selectBy_nodup ?_ hI h
  intro b i b' hi hb hview hrun
  obtain ⟨old, hold, hexpired⟩ := Rows.mem_selectBy hi
  have hheld : ∀ job, b.jobs[i]? = some job → job.status ∈ [JobStatus.leased, .running] := by
    intro job hjob
    obtain rfl := Option.some.inj (hjob.symm.trans (hview.trans hold))
    simp only [JobRepository.leaseExpired, Bool.and_eq_true, decide_eq_true_eq] at hexpired
    exact hexpired.1
  obtain ⟨job, job', rows, hw, hmakes, hrows⟩ :=
    JobExecutor.recoverExpiredJob_writes hrun hheld
  exact ⟨hstep b b' i job job' rows hi hb hview hw hmakes hrows, fun k hk => hw.other hk⟩

/-- **Induction over the sweep of stranded jobs.** A step finds nothing to do, or reopens
the latest row of a queued job and reschedules the job. -/
theorem recoverStranded_induction {I : Database → Prop} {settings : Settings} {now : Time}
    {db db' : Database} (hI : I db)
    (hstep : ∀ b b' i r row row', I b → b.jobs[i]? = db.jobs[i]? → Delivers b b' r row row' →
      row.aggregateId = i → row.status = .published ∧ row'.status = .pending →
      MovesJob b b' i .strand → I b')
    (h : OutboxDispatcher.recoverStranded settings now db = .ok db') : I db' := by
  refine Except.foldlM_invariant_of_nodup (v := fun b i => b.jobs[i]?) Rows.selectBy_nodup ?_ hI h
  intro b i b' hi hb hview hrun
  obtain ⟨old, hold, hstale⟩ := Rows.mem_selectBy hi
  have hqueued : ∀ job, b.jobs[i]? = some job → job.status = .queued := by
    intro job hjob
    obtain rfl := Option.some.inj (hjob.symm.trans (hview.trans hold))
    simp only [Bool.and_eq_true, beq_iff_eq] at hstale
    exact hstale.1
  rcases OutboxDispatcher.recoverStrandedJob_cases hrun hqueued with
    rfl | ⟨r, row, row', hd, haddr, hst, hmove⟩
  · exact ⟨hb, fun _ _ => rfl⟩
  · refine ⟨hstep b b' i r row row' hb hview hd haddr hst hmove, fun k hk => ?_⟩
    obtain ⟨job, job', -, hset, -, -⟩ := hmove
    rw [hset, List.getElem?_set_ne (Ne.symm hk)]

/-- The sweep of expired leases recovers each job it selects, and nothing else. -/
theorem recoverExpired_change {now : Time} {db db' : Database} (hs : db.Sound)
    (h : JobExecutor.recoverExpired now db = .ok db') :
    db'.Sound ∧
      JobsMove (fun _ m => m ∈ [.recover, .recoverExhausted]) db.jobs db'.jobs := by
  refine recoverExpired_induction
    (I := fun b => b.Sound ∧
      JobsMove (fun _ m => m ∈ [.recover, .recoverExhausted]) db.jobs b.jobs)
    ⟨hs, .refl _⟩ ?_ h
  rintro b b' i job job' rows - ⟨hsound, hjobs⟩ hview hw hmakes hrows
  exact ⟨hsound.writes_retry hw hmakes.moves hrows (hmakes.released (by simp)),
    hjobs.step hview hw hmakes.moves⟩

/-- The sweep of stranded jobs reschedules each job it selects, and nothing else. -/
theorem recoverStranded_change {settings : Settings} {now : Time} {db db' : Database}
    (hs : db.Sound) (h : OutboxDispatcher.recoverStranded settings now db = .ok db') :
    db'.Sound ∧ JobsMove (fun _ m => m = .strand) db.jobs db'.jobs := by
  refine recoverStranded_induction
    (I := fun b => b.Sound ∧ JobsMove (fun _ m => m = .strand) db.jobs b.jobs)
    ⟨hs, .refl _⟩ ?_ h
  rintro b b' i r row row' ⟨hsound, hjobs⟩ hview hd - - ⟨job, job', hjob, hset, hguard, happly⟩
  have hw : Writes b { b with jobs := b.jobs.set i job' } i job job' [] :=
    ⟨hjob, rfl, (List.append_nil _).symm⟩
  have hmoves : Moves (· = .strand) job.lifecycle job'.lifecycle :=
    .move .strand rfl hguard happly
  have hchange : JobsMove (fun _ m => m = .strand) b.jobs b'.jobs := .of_set hjob hset hmoves
  refine ⟨hsound.delivers hd hchange, ?_⟩
  rw [hset]
  exact hjobs.step hview hw hmoves

/-! ### Outcomes -/

/-- The statuses an outcome can leave a job in. -/
def settledStatuses : List JobStatus :=
  [.succeeded, .cancelled, .paused, .retryScheduled, .deadLettered, .failed]

/-- The moves by which an execution under `worker` may record an outcome. -/
def Outcome.moves (worker : String) : Outcome → List Move
  | .returned _ => [.succeed worker, .confirmCancel worker, .confirmPause worker]
  | .cancelled => [.confirmCancel worker]
  | .paused => [.pause worker]
  | .retryable _ => [.retry worker, .exhaust worker]
  | .failed _ => [.fail worker]

/-- The outcomes the transition table refuses on a job with a control request: a retry
that is not the last attempt, and a pause of a job being cancelled. -/
def Outcome.Refused (outcome : Outcome) (job : Job) : Prop :=
  match outcome with
  | .retryable _ =>
      job.attempt < job.maxAttempts ∧ job.status ∈ [JobStatus.pauseRequested, .cancelRequested]
  | .paused => job.status = .cancelRequested
  | _ => False

instance (outcome : Outcome) (job : Job) : Decidable (outcome.Refused job) := by
  cases outcome <;> unfold Outcome.Refused <;> infer_instance

namespace JobSystem

variable {settings : Settings} {s s' : JobSystem} {db db' : Database} {now : Time}
  {e : Execution} {outcome : Outcome}

/-- A recorded outcome is written by the worker id that holds the job, and settles it; it
appends an outbox row only to schedule a retry. -/
theorem writeOutcome_writes (h : writeOutcome settings e outcome now db = .ok db') :
    ∃ job job' rows, Writes db db' e.jobId job job' rows ∧ job.workerId = some e.workerId ∧
      Moves (· ∈ outcome.moves e.workerId) job.lifecycle job'.lifecycle ∧
      job'.status ∈ settledStatuses ∧
      (rows = [] ∧ job'.status ≠ .retryScheduled ∨ Retries e.jobId job job' rows ∧
        job'.attempt = job.attempt ∧ job'.workerId = none) := by
  cases outcome with
  | returned result =>
      obtain ⟨job, job', hw, hworker, hmoves, hst⟩ := JobExecutor.succeed_writes h
      refine ⟨job, job', [], hw, hworker, hmoves, ?_, .inl ⟨rfl, ?_⟩⟩ <;>
        simp only [List.mem_cons, List.not_mem_nil, or_false] at hst <;>
        rcases hst with hst | hst | hst <;> simp [hst, settledStatuses]
  | cancelled =>
      obtain ⟨job, job', hw, hworker, hguard, happly⟩ := JobExecutor.cancel_writes h
      have hst : job'.status = .cancelled := by
        simp [← Job.lifecycle_status, happly, Move.apply]
      exact ⟨job, job', [], hw, hworker, .move _ (by simp [Outcome.moves]) hguard happly,
        by simp [hst, settledStatuses], .inl ⟨rfl, by simp [hst]⟩⟩
  | paused =>
      obtain ⟨job, job', hw, hworker, hguard, happly⟩ := JobExecutor.pause_writes h
      have hst : job'.status = .paused := by
        simp [← Job.lifecycle_status, happly, Move.apply]
      exact ⟨job, job', [], hw, hworker, .move _ (by simp [Outcome.moves]) hguard happly,
        by simp [hst, settledStatuses], .inl ⟨rfl, by simp [hst]⟩⟩
  | retryable error =>
      obtain ⟨job, job', rows, hw, hworker, hmakes, hrows⟩ :=
        JobExecutor.retryOrDeadLetter_writes h
      refine ⟨job, job', rows, hw, hworker, hmakes.moves, ?_,
        .inr ⟨hrows, hmakes.released (by simp)⟩⟩
      rcases hrows with ⟨hst, -⟩ | ⟨hst, -⟩ <;> simp [hst, settledStatuses]
  | failed error =>
      obtain ⟨job, job', hw, hworker, hmoves, hst⟩ := JobExecutor.fail_writes h
      exact ⟨job, job', [], hw, hworker, hmoves.mono (by simp [Outcome.moves]),
        by simp [hst, settledStatuses], .inl ⟨rfl, by simp [hst]⟩⟩

/-- An outcome of the execution that holds the job is recorded unless the table refuses
it. -/
theorem writeOutcome_ok (settings : Settings) (now : Time) (hs : db.Sound) {job : Job}
    (hjob : db.jobs[e.jobId]? = some job)
    (hworker : job.workerId = some e.workerId)
    (hst : job.status ∈ [JobStatus.running, .pauseRequested, .cancelRequested])
    (haccepted : ¬ outcome.Refused job) :
    ∃ db', writeOutcome settings e outcome now db = .ok db' := by
  have hst' := hst
  simp only [List.mem_cons, List.not_mem_nil, or_false] at hst
  cases outcome with
  | returned result => exact JobExecutor.succeed_ok hjob hworker hst' result
  | cancelled =>
      refine JobExecutor.cancel_ok hjob hworker ?_
      rcases hst with hst | hst | hst <;> simp [MayReach, hst, JobStatus.allowed]
  | paused =>
      refine JobExecutor.pause_ok hjob hworker ?_
      simp only [Outcome.Refused] at haccepted
      rcases hst with hst | hst | hst <;> simp_all [MayReach, JobStatus.allowed]
  | retryable error =>
      refine JobExecutor.retryOrDeadLetter_ok hjob hworker error ?_ ?_
      · intro _
        rcases hst with hst | hst | hst <;> simp [hst, JobStatus.allowed]
      · intro hleft
        refine ⟨?_, hs.retry_key_free hjob (by simp [hworker])⟩
        simp only [Outcome.Refused, not_and] at haccepted
        have hnot := haccepted hleft
        rcases hst with hst | hst | hst <;> simp_all [MayReach, JobStatus.allowed]
  | failed error =>
      refine JobExecutor.fail_ok settings now hjob hworker ?_ error
      rcases hst with hst | hst | hst <;> simp [hst, JobStatus.allowed]

end JobSystem

end StoryForge
