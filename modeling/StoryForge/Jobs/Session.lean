import StoryForge.Library.Rows
import StoryForge.Jobs.Lifecycle

/-!
# One transaction on one job

Every service, dispatcher and worker transaction locks one job row, changes it, appends
events and sometimes an outbox row, and commits. `JobSession` is that unit of work: the
locked row is held apart from the tables and `commit` puts it back. A transaction is a
function `Database → Except Error Database`; an error rolls back.

## Main results

* `Tracks` and its rules — what a transaction in progress has done so far: the tables it
  left alone, the outbox rows it appended, the lifecycle of its job;
* `Writes` — the frame of a committed transaction: one job row replaced, some outbox rows
  appended, every other job untouched;
* `Tracks.commit` — committing a tracked transaction writes what was tracked.
-/

namespace StoryForge

/-- The `UPDATE … RETURNING event_sequence + 1` of `add_ordered`. -/
def Job.allocateSequence (job : Job) : Job := { job with eventSequence := job.eventSequence + 1 }

@[simp] theorem Job.lifecycle_allocateSequence (job : Job) :
    job.allocateSequence.lifecycle = job.lifecycle := rfl

/-- A transaction in progress: the tables and the locked row of job `jobId`. -/
structure JobSession where
  db : Database
  jobId : ℕ
  job : Job

namespace JobSession

/-- `JobRepository.get_for_update`, raising when the row is missing. -/
def requireLocked (db : Database) (jobId : ℕ) : Except Error JobSession :=
  match db.jobs[jobId]? with
  | some job => .ok ⟨db, jobId, job⟩
  | none => .error (.entityNotFoundError s!"Job {jobId} was not found")

/-- Change columns of the locked row. -/
def update (s : JobSession) (f : Job → Job) : JobSession := { s with job := f s.job }

/-- `transition_job` on the locked row. -/
def transition (s : JobSession) (target : JobStatus) (now : Time) : Except Error JobSession :=
  (transitionJob s.job target now).map fun job => { s with job }

/-- `JobEventRepository.add_ordered`: allocate the next sequence number of the job and
append the event. `worker` is the worker id the event records. -/
def addOrdered (s : JobSession) (eventType : JobEventType) (messageCode message : String)
    (worker : Option String) (workflowEventId : Option ℕ) : JobSession :=
  { s with
    job := s.job.allocateSequence
    db := { s.db with
      jobEvents := s.db.jobEvents ++
        [{ jobId := s.jobId
           sequence := s.job.allocateSequence.eventSequence
           eventType
           status := s.job.status
           step := s.job.currentStep
           progress := s.job.progress
           messageCode
           message
           attempt := s.job.attempt
           workerId := worker
           workflowEventId }] } }

/-- The `_event` of the service and of the worker: the event records the job's worker. -/
def event (s : JobSession) (eventType : JobEventType) (code message : String) : JobSession :=
  s.addOrdered eventType code (truncate 500 message) s.job.workerId none

/-- Append one outbox row. -/
def addOutbox (s : JobSession) (row : OutboxMessage) : JobSession :=
  { s with db := { s.db with outbox := s.db.outbox ++ [row] } }

/-- Commit: the locked row goes back into its table. -/
def commit (s : JobSession) : Database :=
  { s.db with jobs := s.db.jobs.set s.jobId s.job }

theorem requireLocked_eq_ok {db : Database} {jobId : ℕ} {s : JobSession} :
    requireLocked db jobId = .ok s ↔
      ∃ job, db.jobs[jobId]? = some job ∧ s = ⟨db, jobId, job⟩ := by
  unfold requireLocked
  split
  · rename_i job hjob
    simp [hjob, eq_comm]
  · rename_i hnone
    simp [hnone]

@[simp] theorem update_job (s : JobSession) (f : Job → Job) : (s.update f).job = f s.job := rfl

theorem transition_eq_ok {s s' : JobSession} {target : JobStatus} {now : Time} :
    s.transition target now = .ok s' ↔
      s.job.status = target ∧ s' = s ∨
        target ∈ s.job.status.allowed ∧ s' = s.update (·.enter target now) ∧
          s.job.status ≠ target := by
  unfold transition
  constructor
  · intro h
    cases hjob : transitionJob s.job target now with
    | error e => rw [hjob] at h; exact absurd h (by simp [Except.map])
    | ok job' =>
        rw [hjob] at h
        obtain rfl := Except.ok.inj h
        rcases transitionJob_eq_ok.mp hjob with ⟨hst, rfl⟩ | ⟨hin, rfl, hne⟩
        · exact .inl ⟨hst, rfl⟩
        · exact .inr ⟨hin, rfl, hne⟩
  · rintro (⟨hst, rfl⟩ | ⟨hin, rfl, hne⟩)
    · rw [transitionJob_eq_ok.mpr (.inl ⟨hst, rfl⟩)]
      rfl
    · rw [transitionJob_eq_ok.mpr (.inr ⟨hin, rfl, hne⟩)]
      rfl

end JobSession

/-! ### The frame of a committed transaction -/

/-- `db'` is `db` after a transaction that replaced the row `job` of job `j` by `job'` and
appended `rows` to the outbox; events and workflow rows may have changed too. -/
structure Writes (db db' : Database) (j : ℕ) (job job' : Job) (rows : List OutboxMessage) :
    Prop where
  found : db.jobs[j]? = some job
  jobs : db'.jobs = db.jobs.set j job'
  outbox : db'.outbox = db.outbox ++ rows

namespace Writes

variable {db db' : Database} {j : ℕ} {job job' : Job} {rows : List OutboxMessage}

/-- A transaction that found nothing to do. -/
theorem refl (hfound : db.jobs[j]? = some job) : Writes db db j job job [] := by
  refine ⟨hfound, ?_, (List.append_nil _).symm⟩
  obtain ⟨hlt, rfl⟩ := List.getElem?_eq_some_iff.mp hfound
  exact (List.set_getElem_self hlt).symm

theorem lt_length (h : Writes db db' j job job' rows) : j < db.jobs.length :=
  (List.getElem?_eq_some_iff.mp h.found).1

theorem length_jobs (h : Writes db db' j job job' rows) :
    db'.jobs.length = db.jobs.length := by
  rw [h.jobs, List.length_set]

theorem self (h : Writes db db' j job job' rows) : db'.jobs[j]? = some job' := by
  rw [h.jobs, List.getElem?_set_self h.lt_length]

theorem other (h : Writes db db' j job job' rows) {i : ℕ} (hij : i ≠ j) :
    db'.jobs[i]? = db.jobs[i]? := by
  rw [h.jobs, List.getElem?_set_ne (Ne.symm hij)]

/-- A row after the transaction is the written one or an untouched one. -/
theorem cases (h : Writes db db' j job job' rows) {i : ℕ} {row : Job}
    (hrow : db'.jobs[i]? = some row) : i = j ∧ row = job' ∨ i ≠ j ∧ db.jobs[i]? = some row := by
  rcases eq_or_ne i j with rfl | hij
  · exact .inl ⟨rfl, Option.some.inj (hrow.symm.trans h.self)⟩
  · exact .inr ⟨hij, h.other hij ▸ hrow⟩

end Writes

/-! ### Transactions in progress -/

/-- The transaction `s` on job `j` of `db` has appended `rows` to the outbox and brought
its job to lifecycle `c`; the other job rows are those of `db`. -/
structure Tracks (db : Database) (j : ℕ) (c : Lifecycle) (rows : List OutboxMessage)
    (s : JobSession) : Prop where
  jobId : s.jobId = j
  jobs : s.db.jobs = db.jobs
  outbox : s.db.outbox = db.outbox ++ rows
  lifecycle : s.job.lifecycle = c

namespace Tracks

variable {db : Database} {j : ℕ} {c : Lifecycle} {rows : List OutboxMessage}
  {s s' : JobSession}

theorem start {job : Job} : Tracks db j job.lifecycle [] ⟨db, j, job⟩ :=
  ⟨rfl, rfl, (List.append_nil _).symm, rfl⟩

theorem status (t : Tracks db j c rows s) : s.job.status = c.status :=
  congrArg Lifecycle.status t.lifecycle

theorem startedAt (t : Tracks db j c rows s) : s.job.startedAt = c.startedAt :=
  congrArg Lifecycle.startedAt t.lifecycle

theorem attempt (t : Tracks db j c rows s) : s.job.attempt = c.attempt :=
  congrArg Lifecycle.attempt t.lifecycle

theorem maxAttempts (t : Tracks db j c rows s) : s.job.maxAttempts = c.maxAttempts :=
  congrArg Lifecycle.maxAttempts t.lifecycle

/-- A column update takes the lifecycle where it takes that of every row. -/
theorem update (t : Tracks db j c rows s) {f : Job → Job} (g : Lifecycle → Lifecycle)
    (hf : ∀ job, (f job).lifecycle = g job.lifecycle) : Tracks db j (g c) rows (s.update f) :=
  ⟨t.jobId, t.jobs, t.outbox, by rw [← t.lifecycle]; exact hf s.job⟩

/-- A column update that no lifecycle sees. -/
theorem updateSame (t : Tracks db j c rows s) {f : Job → Job}
    (hf : ∀ job, (f job).lifecycle = job.lifecycle) : Tracks db j c rows (s.update f) :=
  t.update id hf

theorem addOrdered (t : Tracks db j c rows s) (eventType : JobEventType)
    (code message : String) (worker : Option String) (workflowEventId : Option ℕ) :
    Tracks db j c rows (s.addOrdered eventType code message worker workflowEventId) :=
  ⟨t.jobId, t.jobs, t.outbox, t.lifecycle⟩

theorem event (t : Tracks db j c rows s) (eventType : JobEventType) (code message : String) :
    Tracks db j c rows (s.event eventType code message) :=
  t.addOrdered _ _ _ _ _

theorem addOutbox (t : Tracks db j c rows s) {row : OutboxMessage} :
    Tracks db j c (rows ++ [row]) (s.addOutbox row) :=
  ⟨t.jobId, t.jobs, by simp [JobSession.addOutbox, t.outbox], t.lifecycle⟩

/-- A transition to a live status succeeds where the status may be reached, and enters it;
staying in it is entering it. -/
theorem transition (t : Tracks db j c rows s) {target : JobStatus} {now : Time}
    (hlive : target ∉ terminalJobStatuses) (h : s.transition target now = .ok s') :
    c.MayReach target ∧ Tracks db j (c.enter target) rows s' := by
  rcases JobSession.transition_eq_ok.mp h with ⟨hst, rfl⟩ | ⟨hin, rfl, -⟩
  · have hc : c.status = target := t.status ▸ hst
    refine ⟨.inl hc, t.jobId, t.jobs, t.outbox, ?_⟩
    rw [t.lifecycle, Lifecycle.enter, if_neg hlive, ← hc]
  · exact ⟨.inr (t.status ▸ hin), t.update (·.enter target) (Job.lifecycle_enter · target now)⟩

/-- A transition to a terminal status enters it, unless the job is there already. -/
theorem transition_of_ne (t : Tracks db j c rows s) {target : JobStatus} {now : Time}
    (hne : c.status ≠ target) (h : s.transition target now = .ok s') :
    target ∈ c.status.allowed ∧ Tracks db j (c.enter target) rows s' := by
  rcases JobSession.transition_eq_ok.mp h with ⟨hst, -⟩ | ⟨hin, rfl, -⟩
  · exact absurd (t.status ▸ hst) hne
  · exact ⟨t.status ▸ hin, t.update (·.enter target) (Job.lifecycle_enter · target now)⟩

/-- An allowed transition succeeds. -/
theorem transition_ok (t : Tracks db j c rows s) (target : JobStatus) (now : Time)
    (hin : target ∈ c.status.allowed) (hne : c.status ≠ target) :
    ∃ s', s.transition target now = .ok s' ∧ Tracks db j (c.enter target) rows s' :=
  ⟨s.update (·.enter target now),
    JobSession.transition_eq_ok.mpr (.inr ⟨t.status ▸ hin, rfl, t.status ▸ hne⟩),
    t.update (·.enter target) (Job.lifecycle_enter · target now)⟩

/-- So does a transition to a live status that may be reached. -/
theorem transition_live_ok (t : Tracks db j c rows s) (target : JobStatus) (now : Time)
    (hlive : target ∉ terminalJobStatuses) (hreach : c.MayReach target) :
    ∃ s', s.transition target now = .ok s' ∧ Tracks db j (c.enter target) rows s' := by
  by_cases hst : c.status = target
  · have hs : s.transition target now = .ok s :=
      JobSession.transition_eq_ok.mpr (.inl ⟨t.status.trans hst, rfl⟩)
    exact ⟨s, hs, (t.transition hlive hs).2⟩
  · exact t.transition_ok target now (hreach.resolve_left hst) hst

/-- Committing writes what was tracked. -/
theorem commit (t : Tracks db j c rows s) {job : Job} (hfound : db.jobs[j]? = some job) :
    ∃ job', Writes db s.commit j job job' rows ∧ job'.lifecycle = c :=
  ⟨s.job, ⟨hfound, by rw [JobSession.commit, t.jobs, t.jobId], t.outbox⟩, t.lifecycle⟩

end Tracks

end StoryForge
