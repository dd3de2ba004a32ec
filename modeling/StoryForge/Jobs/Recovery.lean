import StoryForge.Jobs.Control

/-!
# Lease recovery

A worker that stops keeps its job until the lease runs out; then the sweep of expired
leases takes the job away and schedules it again, or dead-letters it. The sweep selects
jobs that are `LEASED` or `RUNNING`. A pause or cancel request moves a running job out of
both, before or after the crash, so a job with a request on it is never selected: its
worker is gone, heartbeats have stopped, and no transaction but that worker's outcome
would move it on.

## Main results

* `JobSystem.recoverExpired_ok` — the sweep commits in every reachable state;
* `JobSystem.lease_recovery` — given room in the batch, it recovers a job with an expired
  lease if and only if no control request is recorded on the job;
* `JobSystem.lease_recovery_fails` — a job paused before its worker stops is not recovered.
-/

namespace StoryForge

open Lifecycle

/-- The statuses in which a worker holds a job. -/
def JobExecutor.heldStatuses : List JobStatus :=
  [.leased, .running, .pauseRequested, .cancelRequested]

/-- Job `j` is dispatched again, paused or final. -/
def Database.Recovered (db : Database) (j : ℕ) : Prop :=
  ∃ job ∈ db.jobs[j]?,
    job.status = .retryScheduled ∧ (∃ row ∈ db.outbox, row.aggregateId = j ∧ row.Dispatchable) ∨
      job.status = .paused ∨ job.status ∈ terminalJobStatuses

instance (db : Database) (j : ℕ) : Decidable (db.Recovered j) := by
  unfold Database.Recovered; infer_instance

/-- The sweep has room for all expired leases. -/
def Database.RoomToRecover (db : Database) (now : Time) : Prop :=
  (Rows.idsWhere db.jobs (JobRepository.leaseExpired now)).length ≤ JobExecutor.recoveryLimit

instance (db : Database) (now : Time) : Decidable (db.RoomToRecover now) :=
  inferInstanceAs (Decidable (_ ≤ _))

namespace Database

variable {db db' : Database} {j : ℕ} {job job' : Job} {rows : List OutboxMessage} {now : Time}

/-- A retried job is recovered. -/
theorem Recovered.of_retry (hw : Writes db db' j job job' rows)
    (hrows : Retries j job job' rows) : db'.Recovered j := by
  refine ⟨job', hw.self, ?_⟩
  rcases hrows with ⟨hst, -⟩ | ⟨hst, row, rfl, hreq⟩
  · exact .inr (.inr (by simp [hst]))
  · exact .inl ⟨hst, row, by rw [hw.outbox]; simp, hreq.aggregateId, .inl hreq.status⟩

/-- A transaction on another job leaves a recovered job recovered. -/
theorem Recovered.other {i : ℕ} (h : db.Recovered i) (hw : Writes db db' j job job' rows)
    (hij : i ≠ j) : db'.Recovered i := by
  obtain ⟨row, hrow, hst⟩ := h
  refine ⟨row, (hw.other hij).trans hrow, hst.imp (fun ⟨hret, r, hr, haddr, hopen⟩ => ?_) id⟩
  exact ⟨hret, r, by rw [hw.outbox]; exact List.mem_append_left _ hr, haddr, hopen⟩

/-- A job selected by the sweep is held and, in a sound database, running. -/
theorem Sound.running_of_expired (hs : db.Sound) (hjob : db.jobs[j]? = some job)
    (hexpired : JobRepository.leaseExpired now job = true) : job.status = .running := by
  have hnot := (hs.lifecycles j job hjob).not_leased
  simp only [JobRepository.leaseExpired, Bool.and_eq_true, decide_eq_true_eq, List.mem_cons,
    List.not_mem_nil, or_false] at hexpired
  exact hexpired.1.resolve_left hnot

/-- A step of the sweep on a job as the sweep selected it. -/
theorem Sound.recover_step (hs : db.Sound) (hjob : db.jobs[j]? = some job)
    (hexpired : JobRepository.leaseExpired now job = true) :
    ∃ db', JobExecutor.recoverExpiredJob now db j = .ok db' := by
  have hrunning := hs.running_of_expired hjob hexpired
  have hworker := ((hs.lifecycles j job hjob).running hrunning).1
  exact JobExecutor.recoverExpiredJob_ok hjob hrunning (hs.retry_key_free hjob hworker)

end Database

namespace JobSystem

variable {settings : Settings} {s : JobSystem} {j : ℕ} {job : Job} {now : Time}

/-- Recovering a selected job keeps the database sound, leaves the other jobs alone and
recovers it. -/
theorem recover_effect {db b b' : Database} (hb : b.Sound) {i : ℕ}
    (hview : b.jobs[i]? = db.jobs[i]?)
    (hi : i ∈ JobRepository.expiredLeases now JobExecutor.recoveryLimit db)
    (hrun : JobExecutor.recoverExpiredJob now b i = .ok b') :
    ∃ job job' rows, Writes b b' i job job' rows ∧ Retries i job job' rows ∧ b'.Sound := by
  obtain ⟨old, hold, hexpired⟩ := Rows.mem_selectBy hi
  have hrunning := hb.running_of_expired (hview.trans hold) hexpired
  have hheld : ∀ job, b.jobs[i]? = some job → job.status ∈ [JobStatus.leased, .running] := by
    intro job hjob
    obtain rfl := Option.some.inj (hjob.symm.trans (hview.trans hold))
    simp [hrunning]
  obtain ⟨job, job', rows, hw, hmakes, hrows⟩ := JobExecutor.recoverExpiredJob_writes hrun hheld
  exact ⟨job, job', rows, hw, hrows,
    hb.writes_retry hw hmakes.moves hrows (hmakes.released (by simp))⟩

/-- **The sweep commits** whenever the database is sound. -/
theorem recoverExpired_ok {db : Database} (hs : db.Sound) (now : Time) :
    ∃ db', JobExecutor.recoverExpired now db = .ok db' := by
  refine Except.foldlM_ok_of_nodup (I := Database.Sound) (v := fun b i => b.jobs[i]?)
    Rows.selectBy_nodup (fun b i hi hb hview => ?_) hs
  obtain ⟨old, hold, hexpired⟩ := Rows.mem_selectBy hi
  obtain ⟨b', hb'⟩ := hb.recover_step (hview.trans hold) hexpired
  obtain ⟨job, job', rows, hw, -, hsound⟩ := recover_effect hb hview hi hb'
  exact ⟨b', hb', hsound, fun k hk => hw.other hk⟩

/-- The sweep recovers every job it selects. -/
theorem recovered_of_selected {db db' : Database} (hs : db.Sound)
    (hj : j ∈ JobRepository.expiredLeases now JobExecutor.recoveryLimit db)
    (h : JobExecutor.recoverExpired now db = .ok db') : db'.Recovered j := by
  refine Except.foldlM_establishes_of_nodup (I := Database.Sound)
    (P := fun b => b.Sound ∧ b.Recovered j) (v := fun b i => b.jobs[i]?)
    Rows.selectBy_nodup hj (fun b k b' hk hb hview hrun => ?_) (fun b b' hb hview hrun => ?_)
    (fun b k b' hk hkj hview hb hrun => ?_) hs h |>.2
  · obtain ⟨job, job', rows, hw, -, hsound⟩ := recover_effect hb hview hk hrun
    exact ⟨hsound, fun l hl => hw.other hl⟩
  · obtain ⟨job, job', rows, hw, hrows, hsound⟩ := recover_effect hb hview hj hrun
    exact ⟨hsound, .of_retry hw hrows⟩
  · obtain ⟨job, job', rows, hw, -, hsound⟩ := recover_effect hb.1 hview hk hrun
    exact ⟨hsound, hb.2.other hw (Ne.symm hkj)⟩

/-- The sweep leaves a job with a control request where it is. -/
theorem not_recovered_of_requested {db db' : Database} (hs : db.Sound)
    (hjob : db.jobs[j]? = some job)
    (hst : job.status ∈ [JobStatus.pauseRequested, .cancelRequested])
    (h : JobExecutor.recoverExpired now db = .ok db') : ¬ db'.Recovered j := by
  rintro ⟨job', hjob', hrecovered⟩
  obtain ⟨old, hold, hmoves⟩ := (recoverExpired_change hs h).2.moves j job' hjob'
  obtain rfl := Option.some.inj (hold.symm.trans hjob)
  simp only [List.mem_cons, List.not_mem_nil, or_false] at hst
  rcases hmoves with hsame | ⟨m, hm, hguard, -⟩
  · have hstatus : job'.status = old.status := congrArg Lifecycle.status hsame
    rcases hst with hst | hst <;> simp [hstatus, hst] at hrecovered
  · simp only [List.mem_cons, List.not_mem_nil, or_false] at hm
    rcases hm with rfl | rfl <;> rcases hst with hst | hst <;> simp [Move.guard, hst] at hguard

/-- **Lease recovery.** In every reachable state, a job that is leased or running has a
lease; and when the lease of a job in a worker-owned status has expired and the batch has
room, the sweep takes it to a recovered state if and only if the job is still leased or
running, that is, no pause or cancel request is recorded on it. -/
theorem lease_recovery (hs : (machine settings).Reachable s) (hjob : s.db.jobs[j]? = some job)
    (hheld : job.status ∈ JobExecutor.heldStatuses) :
    (job.status ∈ [JobStatus.leased, .running] → job.leaseExpiresAt.isSome) ∧
      ∀ expiry now, job.leaseExpiresAt = some expiry → expiry ≤ now → s.db.RoomToRecover now →
        ((∃ db', JobExecutor.recoverExpired now s.db = .ok db' ∧ db'.Recovered j) ↔
          job.status ∈ [JobStatus.leased, .running]) := by
  have hsound := sound_of_reachable hs
  have hlife := hsound.lifecycles j job hjob
  simp only [List.mem_cons, List.not_mem_nil, or_false]
  refine ⟨fun hst => (hlife.running (hst.resolve_left hlife.not_leased)).2.1, ?_⟩
  intro expiry now hlease hexpired hroom
  constructor
  · rintro ⟨db', h, hrecovered⟩
    by_contra hnot
    refine not_recovered_of_requested hsound hjob ?_ h hrecovered
    simp only [JobExecutor.heldStatuses, List.mem_cons, List.not_mem_nil, or_false] at hheld ⊢
    tauto
  · intro hst
    have hselected : JobRepository.leaseExpired now job = true := by
      simp [JobRepository.leaseExpired, hst, hlease, hexpired]
    obtain ⟨db', h⟩ := recoverExpired_ok hsound now
    exact ⟨db', h, recovered_of_selected hsound
      (Rows.mem_selectBy_of_room hroom hjob hselected) h⟩

/-! ### A worker that stops after a pause request -/

/-- A running job is asked to pause and its worker stops. -/
def pausedThenCrashed : List Action :=
  [.create sampleRequest 0, .claim 0 "w" 1, .requestPause 0 2, .crash 0]

/-- A worker stops. -/
def crashed : List Action :=
  [.create sampleRequest 0, .claim 0 "w" 1, .crash 0]

/-- The job whose worker stopped after a pause request is not recovered when its lease has
run out. -/
theorem lease_recovery_fails :
    ¬ ∀ s, (machine Settings.defaults).Reachable s → ∀ (j : ℕ) (job : Job),
      s.db.jobs[j]? = some job → job.status ∈ JobExecutor.heldStatuses →
      ∀ expiry now, job.leaseExpiresAt = some expiry → expiry ≤ now → s.db.RoomToRecover now →
        ∃ db', JobExecutor.recoverExpired now s.db = .ok db' ∧ db'.Recovered j := by
  intro h
  obtain ⟨s, hs, ⟨job, hjob, hst, hlease⟩, hroom⟩ :=
    (machine Settings.defaults).exists_reachable pausedThenCrashed
      (fun s => (∃ job ∈ s.db.jobs[0]?, job.status = .pauseRequested ∧
        job.leaseExpiresAt = some (1 + seconds 30)) ∧ s.db.RoomToRecover (seconds 60))
      (machine_init_empty _) (by decide)
  obtain ⟨db', hsweep, hrecovered⟩ := h s hs 0 job hjob (by simp [hst, JobExecutor.heldStatuses])
    _ (seconds 60) hlease (by decide) hroom
  exact not_recovered_of_requested (sound_of_reachable hs) hjob (by simp [hst]) hsweep hrecovered

/-- A job whose worker stopped without a request on it is recovered. -/
theorem lease_recovery_crashed :
    ∃ s, (machine Settings.defaults).Reachable s ∧ s.executions.map (·.phase) = [.crashed] ∧
      ∃ db', JobExecutor.recoverExpired (seconds 60) s.db = .ok db' ∧ db'.Recovered 0 := by
  obtain ⟨s, hs, ⟨job, hjob, hst, hlease⟩, hroom, hphase⟩ :=
    (machine Settings.defaults).exists_reachable crashed
      (fun s => (∃ job ∈ s.db.jobs[0]?, job.status = .running ∧
        job.leaseExpiresAt = some (1 + seconds 30)) ∧ s.db.RoomToRecover (seconds 60) ∧
          s.executions.map (·.phase) = [.crashed])
      (machine_init_empty _) (by decide)
  refine ⟨s, hs, hphase, ?_⟩
  exact ((lease_recovery hs hjob (by simp [hst, JobExecutor.heldStatuses])).2 _ (seconds 60)
    hlease (by decide) hroom).mpr (by simp [hst])

end JobSystem

end StoryForge
