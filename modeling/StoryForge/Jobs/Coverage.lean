import StoryForge.Jobs.Steps

/-!
# Outbox coverage

A job that waits to be delivered should have an outbox row a dispatcher can still publish.
The rows come from four places, and two of them (`resume`, `retry_dead_letter`) build a
key from the current attempt number and take an existing row under that key for their own,
even when it was published or given up long ago. A second pause and resume before any
claim is enough to reach such a state; without such a reuse every waiting job is covered.

## Main results

* `JobSystem.coverage_of_reachable` — coverage, in every run in which no resume and no
  dead-letter retry meets a finished row under its key;
* `JobSystem.coverage_fails` — a job resumed twice waits with no row to publish.
-/

namespace StoryForge

open Lifecycle

/-- The statuses in which a job waits for the dispatcher. -/
def waitingStatuses : List JobStatus := [.outboxPending, .retryScheduled]

/-- Every waiting job has a row that a dispatcher can still publish. -/
def Database.Covered (db : Database) : Prop :=
  ∀ (j : ℕ) (job : Job), db.jobs[j]? = some job → job.status ∈ waitingStatuses →
    ∃ row ∈ db.outbox, row.aggregateId = j ∧ row.Dispatchable

/-- Rows under a key, if any, can still be published. -/
def Database.KeyUsable (db : Database) (key : DeduplicationKey) : Prop :=
  ∀ row ∈ db.outbox, row.deduplicationKey = key → row.Dispatchable

instance (db : Database) (key : DeduplicationKey) : Decidable (db.KeyUsable key) :=
  inferInstanceAs (Decidable (∀ row ∈ db.outbox, row.deduplicationKey = key → row.Dispatchable))

/-- The condition on a step: a resume of a paused job, or a retry of a dead-lettered one,
does not find its key taken by a row that is already published or failed. -/
def JobSystem.FreshIntent (s : JobSystem) (a : Action) : Prop :=
  match a with
  | .resume j _ =>
      ∀ job ∈ s.db.jobs[j]?, job.status = .paused →
        s.db.KeyUsable ⟨j, .resume (job.attempt + 1)⟩
  | .retryDeadLetter j _ =>
      ∀ job ∈ s.db.jobs[j]?, job.status = .deadLettered →
        s.db.KeyUsable ⟨j, .dlqRetry (job.attempt + 1)⟩
  | _ => True

instance (s : JobSystem) (a : Action) : Decidable (s.FreshIntent a) := by
  unfold JobSystem.FreshIntent
  split <;> infer_instance

/-! ### What keeps coverage -/

namespace Database.Covered

variable {db db' : Database} {j : ℕ} {job job' : Job} {rows : List OutboxMessage}

/-- A transaction on one job keeps coverage when it does not make the job wait, or appends
a row for it. -/
theorem writes (hc : db.Covered) (hw : Writes db db' j job job' rows)
    (hj : job'.status ∈ waitingStatuses → job.status ∈ waitingStatuses ∨
      ∃ row ∈ rows, row.aggregateId = j ∧ row.Dispatchable) : db'.Covered := by
  intro i row hrow hwaiting
  have hkeep : ∀ old, db.jobs[i]? = some old → old.status ∈ waitingStatuses →
      ∃ row ∈ db'.outbox, row.aggregateId = i ∧ row.Dispatchable := by
    intro old hold hwait
    obtain ⟨r, hr, haddr, hopen⟩ := hc i old hold hwait
    exact ⟨r, by rw [hw.outbox]; exact List.mem_append_left _ hr, haddr, hopen⟩
  rcases hw.cases hrow with ⟨rfl, rfl⟩ | ⟨-, hold⟩
  · rcases hj hwaiting with hwait | ⟨r, hr, haddr, hopen⟩
    · exact hkeep job hw.found hwait
    · exact ⟨r, by rw [hw.outbox]; exact List.mem_append_right _ hr, haddr, hopen⟩
  · exact hkeep row hold hwaiting

/-- A transaction that leaves the job not waiting. -/
theorem writes_settled (hc : db.Covered) (hw : Writes db db' j job job' rows)
    (hst : job'.status ∉ waitingStatuses) : db'.Covered :=
  hc.writes hw fun hwaiting => absurd hwaiting hst

/-- A transaction that touches no lifecycle. -/
theorem writes_same (hc : db.Covered) (hw : Writes db db' j job job' rows)
    (hsame : job'.lifecycle = job.lifecycle) : db'.Covered :=
  hc.writes hw fun hwaiting => .inl (by
    rwa [← Job.lifecycle_status, hsame] at hwaiting)

/-- A transaction that requests a delivery under a usable key. -/
theorem writes_enqueue {reason : EnqueueReason} (hc : db.Covered) (hs : db.Sound)
    (hw : Writes db db' j job job' rows) (hrows : Enqueues db j reason rows)
    (hkey : db.KeyUsable ⟨j, reason⟩) : db'.Covered := by
  rcases hrows with ⟨rfl, row, hrow, hrowkey⟩ | ⟨row, rfl, hreq⟩
  · intro i job₁ hjob₁ hwaiting
    rcases hw.cases hjob₁ with ⟨rfl, rfl⟩ | ⟨-, hold⟩
    · have haddr := (hs.addressed row hrow).1
      rw [hrowkey] at haddr
      exact ⟨row, by rwa [hw.outbox, List.append_nil], haddr.symm, hkey row hrow hrowkey⟩
    · obtain ⟨r, hr, haddr, hopen⟩ := hc i job₁ hold hwaiting
      exact ⟨r, by rwa [hw.outbox, List.append_nil], haddr, hopen⟩
  · exact hc.writes hw fun _ =>
      .inr ⟨row, List.mem_singleton.mpr rfl, hreq.aggregateId, .inl hreq.status⟩

/-- A retry appends the row the job waits for. -/
theorem writes_retry (hc : db.Covered) (hw : Writes db db' j job job' rows)
    (hrows : Retries j job job' rows) : db'.Covered := by
  rcases hrows with ⟨hst, rfl⟩ | ⟨-, row, rfl, hreq⟩
  · exact hc.writes_settled hw (by simp [hst, waitingStatuses])
  · exact hc.writes hw fun _ =>
      .inr ⟨row, List.mem_singleton.mpr rfl, hreq.aggregateId, .inl hreq.status⟩

/-- A change of one row keeps coverage when the row stays open or its job does not wait. -/
theorem delivers {r : ℕ} {row row' : OutboxMessage} (hc : db.Covered)
    (hd : Delivers db db' r row row')
    (hjobs : ∀ i job', db'.jobs[i]? = some job' → job'.status ∈ waitingStatuses →
      (∃ job, db.jobs[i]? = some job ∧ job.status ∈ waitingStatuses) ∨
        row.aggregateId = i ∧ row'.Dispatchable)
    (hrow : ∀ job', db'.jobs[row.aggregateId]? = some job' → job'.status ∈ waitingStatuses →
      row'.Dispatchable) : db'.Covered := by
  intro i job' hjob' hwaiting
  have hself : row'.Dispatchable → row.aggregateId = i →
      ∃ r ∈ db'.outbox, r.aggregateId = i ∧ r.Dispatchable := fun hopen haddr =>
    ⟨row', List.mem_iff_getElem?.mpr ⟨r, hd.self⟩, hd.intent.aggregateId.trans haddr, hopen⟩
  rcases hjobs i job' hjob' hwaiting with ⟨job, hjob, hwait⟩ | ⟨haddr, hopen⟩
  · obtain ⟨row₁, hrow₁, haddr₁, hopen₁⟩ := hc i job hjob hwait
    obtain ⟨k, hk⟩ := List.mem_iff_getElem?.mp hrow₁
    by_cases hkr : k = r
    · subst hkr
      obtain rfl := Option.some.inj (hk.symm.trans hd.found)
      subst haddr₁
      exact hself (hrow job' hjob' hwaiting) rfl
    · exact ⟨row₁, List.mem_iff_getElem?.mpr ⟨k, (hd.other hkr).trans hk⟩, haddr₁, hopen₁⟩
  · exact hself hopen haddr

/-- A row closed while its job does not wait. -/
theorem delivers_idle {r : ℕ} {row row' : OutboxMessage} (hc : db.Covered)
    (hd : Delivers db db' r row row') (hjobs : db'.jobs = db.jobs)
    (hidle : ∀ job, db.jobs[row.aggregateId]? = some job → job.status ∉ waitingStatuses) :
    db'.Covered :=
  hc.delivers hd (fun _ job' hjob' hwait => .inl ⟨job', hjobs ▸ hjob', hwait⟩)
    fun job' hjob' hwait => absurd hwait (hidle job' (hjobs ▸ hjob'))

/-- A row closed or reopened while its job makes a move. -/
theorem delivers_move {r : ℕ} {row row' : OutboxMessage} {m : Move} (hc : db.Covered)
    (hd : Delivers db db' r row row') (hmove : MovesJob db db' row.aggregateId m)
    (hm : (∀ c, (m.apply c).status ∉ waitingStatuses) ∨ row'.Dispatchable) :
    db'.Covered := by
  obtain ⟨job, job', hjob, hset, -, happly⟩ := hmove
  have hw : Writes db { db with jobs := db.jobs.set row.aggregateId job' } row.aggregateId job
      job' [] := ⟨hjob, rfl, (List.append_nil _).symm⟩
  have hstatus : job'.status ∈ waitingStatuses → row'.Dispatchable := by
    intro hwait
    refine hm.resolve_left fun hnot => hnot job.lifecycle ?_
    rwa [← happly]
  refine hc.delivers hd (fun i job₁ hjob₁ hwait => ?_) fun job₁ hjob₁ hwait => ?_
  · rw [hset] at hjob₁
    rcases hw.cases hjob₁ with ⟨rfl, rfl⟩ | ⟨-, hold⟩
    · exact .inr ⟨rfl, hstatus hwait⟩
    · exact .inl ⟨job₁, hold, hwait⟩
  · rw [hset] at hjob₁
    obtain rfl := Option.some.inj (hjob₁.symm.trans hw.self)
    exact hstatus hwait

end Database.Covered

namespace JobSystem

variable {settings : Settings} {s s' : JobSystem} {a : Action}

/-- Admission covers the job it creates: no row can have its key yet. -/
theorem covered_insert {request : JobService.JobRequest} {now : Time} {r : ℕ × Database}
    {db : Database} (hc : db.Covered) (hs : db.Sound)
    (h : JobService.insert settings request now db = .ok r) : r.2.Covered := by
  obtain ⟨job, rows, hjobs, houtbox, hrows, -, -⟩ := JobService.insert_eq_ok h
  intro i row hrow hwaiting
  rw [hjobs, List.getElem?_append] at hrow
  split at hrow
  · obtain ⟨r₁, hr₁, haddr, hopen⟩ := hc i row hrow hwaiting
    exact ⟨r₁, by rw [houtbox]; exact List.mem_append_left _ hr₁, haddr, hopen⟩
  · rename_i hge
    have hi : i = db.jobs.length := by
      have := (List.getElem?_eq_some_iff.mp hrow).1
      simp only [List.length_singleton] at this
      omega
    rcases hrows with ⟨-, old, hold, hkey⟩ | ⟨new, rfl, hreq⟩
    · -- a row under the new key would be addressed to a job that does not exist
      obtain ⟨haddr, hlt⟩ := hs.addressed old hold
      rw [← haddr, hkey] at hlt
      exact absurd hlt (Nat.lt_irrefl _)
    · exact ⟨new, by rw [houtbox]; simp, hreq.aggregateId.trans hi.symm, .inl hreq.status⟩

/-- **One step keeps coverage** when a resume or dead-letter retry finds its key usable. -/
theorem covered_next (hs : s.db.Sound) (hc : s.db.Covered) (hfresh : s.FreshIntent a)
    (h : next settings s a = some s') : s'.db.Covered := by
  cases a with
  | create request now =>
      obtain rfl := Option.some.inj h
      refine commitOr_db hc fun db' hdb' => ?_
      obtain ⟨r, hr, rfl⟩ := Except.map_eq_ok.mp hdb'
      exact covered_insert hc hs hr
  | requestCancel jobId now =>
      obtain rfl := Option.some.inj h
      refine commitOr_db hc fun db' hdb' => ?_
      obtain ⟨job, job', hw, -, hst⟩ := JobService.requestCancel_writes hdb'
      exact hc.writes_settled hw (by
        simp only [List.mem_cons, List.not_mem_nil, or_false] at hst
        rcases hst with hst | hst <;> simp [hst, waitingStatuses])
  | requestPause jobId now =>
      obtain rfl := Option.some.inj h
      refine commitOr_db hc fun db' hdb' => ?_
      obtain ⟨job, job', hw, -, hst⟩ := JobService.requestPause_writes hdb'
      exact hc.writes_settled hw (by
        simp only [List.mem_cons, List.not_mem_nil, or_false] at hst
        rcases hst with hst | hst <;> simp [hst, waitingStatuses])
  | resume jobId now =>
      obtain rfl := Option.some.inj h
      refine commitOr_db hc fun db' hdb' => ?_
      obtain ⟨job, job', rows, hw, hrows, hguard, -⟩ := JobService.resume_writes hdb'
      exact hc.writes_enqueue hs hw hrows (hfresh job hw.found hguard)
  | retryDeadLetter jobId now =>
      obtain rfl := Option.some.inj h
      refine commitOr_db hc fun db' hdb' => ?_
      obtain ⟨job, job', rows, hw, hrows, hguard, -⟩ := JobService.retryDeadLetter_writes hdb'
      exact hc.writes_enqueue hs hw hrows (hfresh job hw.found hguard)
  | discardDeadLetter jobId =>
      obtain rfl := Option.some.inj h
      refine commitOr_db hc fun db' hdb' => ?_
      obtain ⟨job, job', hw, hsame⟩ := JobService.discardDeadLetter_writes hdb'
      exact hc.writes_same hw hsame
  | claimBatch dispatcherId now =>
      obtain rfl := Option.some.inj h
      obtain ⟨hjobs, hkeep⟩ := OutboxDispatcher.claim_intents settings dispatcherId now s.db
      intro j job hjob hwaiting
      obtain ⟨row, hrow, haddr, hopen⟩ := hc j job (hjobs ▸ hjob) hwaiting
      obtain ⟨r, hr⟩ := List.mem_iff_getElem?.mp hrow
      obtain ⟨row', hrow', hsame, hkept⟩ := hkeep.2 r row hr
      exact ⟨row', List.mem_iff_getElem?.mpr ⟨r, hrow'⟩, hsame.aggregateId.trans haddr,
        hkept hopen⟩
  | published dispatch now =>
      obtain ⟨rowId, -, rfl⟩ := Option.map_eq_some_iff.mp h
      rcases OutboxDispatcher.recordPublished_cases rowId now s.db with
        heq | ⟨row, row', hd, -, ⟨hjobs, hidle⟩ | hmove⟩
      · dsimp only
        rw [heq]
        exact hc
      · exact hc.delivers_idle hd hjobs hidle
      · exact hc.delivers_move hd hmove (.inl fun c => by simp [Move.apply, waitingStatuses])
  | publishFailed dispatch error now =>
      obtain ⟨rowId, -, rfl⟩ := Option.map_eq_some_iff.mp h
      refine commitOr_db hc fun db' hdb' => ?_
      rcases OutboxDispatcher.recordFailure_cases hdb' with
        rfl | ⟨row, row', hd, -, ⟨hopen, hjobs⟩ | ⟨hjobs, hidle⟩ | hmove⟩
      · exact hc
      · exact hc.delivers hd (fun _ job' hjob' hwait => .inl ⟨job', hjobs ▸ hjob', hwait⟩)
          fun _ _ _ => .inl hopen
      · exact hc.delivers_idle hd hjobs hidle
      · exact hc.delivers_move hd hmove (.inl fun c => by simp [Move.apply, waitingStatuses])
  | recoverStranded now =>
      obtain rfl := Option.some.inj h
      refine commitOr_db hc fun db' hdb' => recoverStranded_induction hc ?_ hdb'
      rintro b b' i r row row' hb - hd rfl ⟨-, hopen⟩ hmove
      exact hb.delivers_move hd hmove (.inr (.inl hopen))
  | claim jobId workerId now =>
      simp only [next] at h
      split at h
      · rename_i db' hdb'
        obtain rfl := Option.some.inj h
        obtain ⟨job, job', hw, -, happly⟩ := JobExecutor.claim_writes hdb'
        exact hc.writes_settled hw (by
          simp [← Job.lifecycle_status, happly, Move.apply, waitingStatuses])
      · obtain rfl := Option.some.inj h
        exact hc
  | heartbeat i now =>
      obtain ⟨e, -, rfl⟩ := Option.map_eq_some_iff.mp h
      rcases JobExecutor.heartbeat_cases settings e.jobId e.workerId now s.db with
        heq | ⟨job, job', hw, -, happly⟩
      · dsimp only
        rw [heq]
        exact hc
      · refine hc.writes hw fun hwaiting => .inl ?_
        rwa [← Job.lifecycle_status, happly] at hwaiting
  | recordEvent i event =>
      obtain ⟨e, -, rfl⟩ := Option.map_eq_some_iff.mp h
      refine commitOr_db hc fun db' hdb' => ?_
      obtain ⟨job, job', hw, hsame⟩ := JobService.recordEvent_writes hdb'
      exact hc.writes_same hw hsame
  | linkWorkflow i workflowRunId =>
      obtain ⟨e, -, rfl⟩ := Option.map_eq_some_iff.mp h
      refine commitOr_db hc fun db' hdb' => ?_
      rcases linkWorkflow_cases hdb' with rfl | ⟨job, job', hw, hsame⟩
      · exact hc
      · exact hc.writes_same hw hsame
  | finish i outcome now =>
      obtain ⟨e, -, hs'⟩ := Option.map_eq_some_iff.mp h
      split at hs'
      · rename_i db' hdb'
        subst hs'
        obtain ⟨job, job', rows, hw, -, -, hst, hrows⟩ := writeOutcome_writes hdb'
        rcases hrows with ⟨-, hne⟩ | ⟨hretries, -⟩
        · exact hc.writes_settled hw (by
            rintro hwaiting
            simp only [waitingStatuses, List.mem_cons, List.not_mem_nil, or_false] at hwaiting
            rcases hwaiting with heq | heq <;> simp_all [settledStatuses])
        · exact hc.writes_retry hw hretries
      · subst hs'
        exact hc
  | failAfter i now =>
      obtain ⟨e, -, hs'⟩ := Option.bind_eq_some_iff.mp h
      split at hs'
      · obtain rfl := Option.some.inj hs'
        refine commitOr_db (s := s.setPhase i .finished) hc fun db' hdb' => ?_
        obtain ⟨job, job', hw, -, -, hst⟩ := JobExecutor.fail_writes hdb'
        exact hc.writes_settled hw (by simp [hst, waitingStatuses])
      · exact absurd hs' (by simp)
  | crash i =>
      obtain ⟨e, -, rfl⟩ := Option.map_eq_some_iff.mp h
      exact hc
  | recoverExpired now =>
      obtain rfl := Option.some.inj h
      refine commitOr_db hc fun db' hdb' => recoverExpired_induction hc ?_ hdb'
      intro b b' i job job' rows _ hb _ hw _ hrows
      exact hb.writes_retry hw hrows
  | environment projects chapters workflowRuns =>
      obtain rfl := Option.some.inj h
      exact hc

/-- **Outbox coverage.** In every run in which no resume and no dead-letter retry finds its
key taken by a published or failed row, every waiting job has a row to publish. -/
theorem coverage_of_reachable (hs : (machine settings).ReachableUnder FreshIntent s) :
    s.db.Covered := by
  refine hs.invariant (I := fun s => s.db.Covered) (fun s hinit => ?_)
    fun s a s' hs hc hfresh hnext => covered_next (sound_of_reachable hs) hc hfresh hnext
  obtain ⟨hjobs, -⟩ := hinit
  intro j job hjob
  simp [hjobs] at hjob

/-! ### Two resumes without a claim -/

/-- An admission without project, chapter or workflow. -/
def sampleRequest : JobService.JobRequest where
  jobType := .generatePlan
  projectId := none
  chapterId := none
  workflowRunId := none
  payload := "{}"
  operation := "generate_plan"
  externalIdempotencyKey := none
  priority := 5

/-- A job is paused and resumed twice; its rows are published in between. -/
def resumedTwice : List Action :=
  [.create sampleRequest 0, .requestPause 0 1, .resume 0 2, .claimBatch "d" 3,
    .published 0 4, .published 0 5, .requestPause 0 6, .resume 0 7]

instance (db : Database) : Decidable db.Covered :=
  decidable_of_iff
    (∀ j < db.jobs.length, ∀ job ∈ db.jobs[j]?, job.status ∈ waitingStatuses →
      ∃ row ∈ db.outbox, row.aggregateId = j ∧ row.Dispatchable)
    ⟨fun h j job hjob => h j (List.getElem?_eq_some_iff.mp hjob).1 job hjob,
      fun h j _ job hjob => h j job hjob⟩

/-- The second resume takes the published row of the first for its own, and the job waits
with no row to publish. -/
theorem coverage_fails :
    ¬ ∀ s, (machine Settings.defaults).Reachable s → s.db.Covered := by
  intro h
  obtain ⟨s, hs, hfails⟩ := (machine Settings.defaults).exists_reachable resumedTwice
    (fun s => ¬ s.db.Covered) (machine_init_empty _) (by decide)
  exact hfails (h s hs)

/-- A job that was paused and resumed once is covered. -/
theorem coverage_of_reachable_resumedOnce :
    ∃ s, (machine Settings.defaults).ReachableUnder FreshIntent s ∧
      s.db.jobs.map (·.status) = [.outboxPending] ∧ s.db.Covered := by
  obtain ⟨s, hs, hstatus⟩ := (machine Settings.defaults).exists_reachableUnder FreshIntent
    (resumedTwice.take 3) (fun s => s.db.jobs.map (·.status) = [.outboxPending])
    (machine_init_empty _) (by decide)
  exact ⟨s, hs, hstatus, coverage_of_reachable hs⟩

end JobSystem

end StoryForge
