import StoryForge.Books.Admission
import StoryForge.Jobs.Creation

/-!
# Backpressure

`JobService.create` counts the active jobs before it inserts one more, and raises when the queue
or its project is full. The counts are read without a lock, so that other calls may commit
between a check and the insert that it was made for; `BookRunService.create` and
`retry_dead_letter` add an active job without any check. Calls of all of them interleave,
statement by statement, with `resume` and with what other code does to the jobs.

## Main results

* `QueueSystem.counts_next` — the one active job that an action adds, if it adds one;
* `QueueSystem.queueLimits_of_reachable` — when every job that is added finds room, the limits
  hold;
* `QueueSystem.queueLimits_fails` — a book run is admitted to a full queue.
-/

namespace StoryForge

/-! ### Counts -/

namespace JobRepository

/-- The jobs that a count is about. -/
def counts (projectId : Option ℕ) (job : Job) : Bool :=
  job.status ∈ activeJobStatuses && (projectId.isNone || job.projectId == projectId)

theorem activeCount_eq (db : Database) (projectId : Option ℕ) :
    activeCount db projectId = db.jobs.countP (counts projectId) := by
  rw [activeCount, Rows.length_idsWhere]
  rfl

end JobRepository

open JobRepository

/-- A job after other code has written it: of the same project, and active only if it was. -/
def Job.SettlesTo (job job' : Job) : Prop :=
  job'.projectId = job.projectId ∧
    (job'.status ∈ activeJobStatuses → job.status ∈ activeJobStatuses)

instance (job job' : Job) : Decidable (job.SettlesTo job') :=
  inferInstanceAs (Decidable (_ ∧ (_ → _)))

/-- Other code adds to no count. -/
theorem countP_settles {jobs jobs' : List Job} (h : List.Forall₂ Job.SettlesTo jobs jobs')
    (projectId : Option ℕ) :
    jobs'.countP (counts projectId) ≤ jobs.countP (counts projectId) := by
  induction h with
  | nil => exact Nat.le_refl _
  | @cons job job' jobs jobs' hjob _ ih =>
      have hcounts : counts projectId job' = true → counts projectId job = true := by
        simp only [counts, Bool.and_eq_true, decide_eq_true_eq, hjob.1]
        exact fun ⟨hactive, hproject⟩ => ⟨hjob.2 hactive, hproject⟩
      rw [List.countP_cons, List.countP_cons]
      cases hnew : counts projectId job' with
      | false =>
          simp only [Bool.false_eq_true, if_false]
          omega
      | true =>
          rw [if_pos rfl, if_pos (hcounts hnew)]
          omega

/-! ### What the calls add -/

namespace JobSession

variable {s s' : JobSession} {job : Job} {db : Database} {j : ℕ}

/-- The session holds a job of `db`, of the project that it had. -/
structure Holds (db : Database) (j : ℕ) (job : Job) (s : JobSession) : Prop where
  jobId : s.jobId = j
  jobs : s.db.jobs = db.jobs
  project : s.job.projectId = job.projectId

theorem Holds.transition (h : Holds db j job s) {target : JobStatus} {now : Time}
    (htransition : s.transition target now = .ok s') : Holds db j job s' := by
  rcases JobSession.transition_eq_ok.mp htransition with ⟨-, rfl⟩ | ⟨-, rfl, -⟩
  · exact h
  · exact ⟨h.jobId, h.jobs, (s.job.enter_projectId target now).trans h.project⟩

theorem Holds.update (h : Holds db j job s) {f : Job → Job}
    (hf : ∀ job, (f job).projectId = job.projectId) : Holds db j job (s.update f) :=
  ⟨h.jobId, h.jobs, (hf s.job).trans h.project⟩

theorem Holds.event (h : Holds db j job s) (eventType : JobEventType) (code message : String) :
    Holds db j job (s.event eventType code message) :=
  ⟨h.jobId, h.jobs, h.project⟩

theorem Holds.createOutbox (h : Holds db j job s) (reason : EnqueueReason) (now : Time) :
    Holds db j job (JobService.createOutbox s reason now) := by
  unfold JobService.createOutbox
  dsimp only
  split
  · exact h
  · exact ⟨h.jobId, h.jobs, h.project⟩

/-- What is committed, when the row of the job is known. -/
theorem Holds.commit (h : Holds db j job s) {job' : Job} (hrow : s.commit.jobs[j]? = some job') :
    job'.projectId = job.projectId := by
  rw [JobSession.commit, h.jobId, h.jobs] at hrow
  have hj : j < db.jobs.length := by
    simpa using (List.getElem?_eq_some_iff.mp hrow).1
  rw [List.getElem?_set_self hj] at hrow
  exact Option.some.inj hrow ▸ h.project

end JobSession

variable {db db' : Database} {j : ℕ} {now : Time}

/-- A call that takes a job back to the start and leaves its project and the other jobs. -/
def Restarts (db : Database) (j : ℕ) (job : Job) (db' : Database) : Prop :=
  db.jobs[j]? = some job ∧ ∃ job', db'.jobs = db.jobs.set j job' ∧
    job'.projectId = job.projectId ∧ job'.status = .outboxPending

/-- `resume` restarts a job that is paused. -/
theorem resume_restarts (h : JobService.resume j now db = .ok db') :
    ∃ job, job.status = .paused ∧ Restarts db j job db' := by
  obtain ⟨job, job', rows, hwrites, -, hpaused, happly⟩ := JobService.resume_writes h
  refine ⟨job, hpaused, hwrites.found, job', hwrites.jobs, ?_, congrArg Lifecycle.status happly⟩
  unfold JobService.resume at h
  obtain ⟨s, hs, h⟩ := Except.bind_eq_ok.mp h
  obtain ⟨found, hfound, rfl⟩ := JobSession.requireLocked_eq_ok.mp hs
  obtain rfl := Option.some.inj (hfound.symm.trans hwrites.found)
  dsimp only at h
  split at h
  · cases h
  · obtain ⟨s₁, hs₁, rfl⟩ := Except.map_eq_ok.mp h
    have hholds : JobSession.Holds db j found ⟨db, j, found⟩ := ⟨rfl, rfl, rfl⟩
    have hupdated := (hholds.transition hs₁).update (f := Job.clearFinished) fun _ => rfl
    exact ((hupdated.event _ _ _).createOutbox _ _).commit hwrites.self

/-- `retry_dead_letter` restarts a job that is dead-lettered. -/
theorem retryDeadLetter_restarts (h : JobService.retryDeadLetter j now db = .ok db') :
    ∃ job, job.status = .deadLettered ∧ Restarts db j job db' := by
  obtain ⟨job, job', rows, hwrites, -, hdead, happly⟩ := JobService.retryDeadLetter_writes h
  refine ⟨job, hdead, hwrites.found, job', hwrites.jobs, ?_, congrArg Lifecycle.status happly⟩
  unfold JobService.retryDeadLetter at h
  obtain ⟨s, hs, h⟩ := Except.bind_eq_ok.mp h
  obtain ⟨found, hfound, rfl⟩ := JobSession.requireLocked_eq_ok.mp hs
  obtain rfl := Option.some.inj (hfound.symm.trans hwrites.found)
  dsimp only at h
  split at h
  · cases h
  · split at h
    · cases h
    · obtain ⟨s₁, hs₁, rfl⟩ := Except.map_eq_ok.mp h
      have hholds : JobSession.Holds db j found ⟨db, j, found⟩ := ⟨rfl, rfl, rfl⟩
      have hupdated := (hholds.transition hs₁).update (f := (Job.freshAttempts · now)) fun _ => rfl
      exact ((hupdated.event _ _ _).createOutbox _ _).commit hwrites.self

/-- A call that adds a job, which waits for its first delivery, for a project. -/
def Adds (db : Database) (projectId : Option ℕ) (db' : Database) : Prop :=
  ∃ job : Job, db'.jobs = db.jobs ++ [job] ∧ job.projectId = projectId ∧
    job.status = .outboxPending

/-- An outbox row is not in the table of jobs. -/
theorem jobs_createOutbox (s : JobSession) (reason : EnqueueReason) (now : Time) :
    (JobService.createOutbox s reason now).commit.jobs = s.commit.jobs := by
  unfold JobService.createOutbox
  dsimp only
  split <;> rfl

/-- The insert of `JobService.create`. -/
theorem writeJob_adds {settings : Settings} {request : JobService.JobRequest} {r : ℕ × Database}
    (h : JobService.writeJob settings request now db = .ok r) :
    Adds db request.projectId r.2 := by
  unfold JobService.writeJob at h
  obtain ⟨-, -, h⟩ := Except.bind_eq_ok.mp h
  obtain ⟨-, -, rfl⟩ := Except.map_eq_ok.mp h
  refine ⟨(JobService.newJob settings request now).allocateSequence, ?_, rfl, rfl⟩
  dsimp only
  rw [jobs_createOutbox]
  simp [JobSession.commit, JobSession.event, JobSession.addOrdered]

/-- The insert of `BookRunService.create`, which makes no check of the queue. -/
theorem bookRun_adds {settings : BookSettings} {arguments : BookRunArguments}
    {project : BookProject} {chapterNumbers : List ℕ} {db db' : BookDatabase} {runId : ℕ}
    {run : BookRun}
    (h : BookRunService.insert settings arguments project chapterNumbers now db =
      .ok (runId, run, db')) :
    Adds db.toDatabase (some arguments.projectId) db'.toDatabase := by
  unfold BookRunService.insert at h
  dsimp only at h
  split at h
  · cases h
  · simp only [Except.ok.injEq, Prod.mk.injEq] at h
    obtain ⟨-, -, rfl⟩ := h
    exact ⟨(BookRunService.newBookJob settings arguments now).allocateSequence,
      by simp [JobSession.commit, JobSession.addOutbox, JobSession.addOrdered], rfl, rfl⟩

/-! ### What they count -/

/-- A count after a job of a project was added: one more, if it is about that project. -/
def countsMore (projectId added : Option ℕ) : ℕ :=
  (projectId.isNone || added == projectId).toNat

theorem activeCount_adds {added : Option ℕ} (h : Adds db added db') (projectId : Option ℕ) :
    activeCount db' projectId = activeCount db projectId + countsMore projectId added := by
  obtain ⟨job, hjobs, rfl, hstatus⟩ := h
  rw [activeCount_eq, activeCount_eq, hjobs, Rows.countP_concat, counts, hstatus, countsMore]
  simp [activeJobStatuses]

/-- A restart counts the job again, unless it was counted before. -/
theorem activeCount_restarts {job : Job} (h : Restarts db j job db') (projectId : Option ℕ) :
    activeCount db' projectId + (counts projectId job).toNat =
      activeCount db projectId + countsMore projectId job.projectId := by
  obtain ⟨hjob, job', hjobs, hproject, hstatus⟩ := h
  have hset := Rows.countP_set_add (p := counts projectId) (y := job') hjob
  have hcounts : counts projectId job' = (projectId.isNone || job.projectId == projectId) := by
    rw [counts, hproject, hstatus]
    simp [activeJobStatuses]
  rw [activeCount_eq, activeCount_eq, hjobs, countsMore, ← hcounts]
  exact hset

/-! ### The machine -/

/-- A call of `JobService.create`, with its arguments. -/
structure JobCall where
  request : JobService.JobRequest
  phase : CreatePhase
  deriving DecidableEq, Repr

/-- The committed state and the calls. -/
structure QueueSystem where
  db : BookDatabase
  jobCalls : List JobCall
  bookCalls : List BookRunCall
  deriving DecidableEq, Repr

/-- A call of one of the two `create`s begins or executes its next statement; a paused or a
dead-lettered job is restarted; other code moves jobs on and writes other tables. -/
inductive QueueAction
  | createJob (request : JobService.JobRequest)
  | advanceJob (call : ℕ) (now : Time)
  | createBook (arguments : BookRunArguments)
  | advanceBook (call : ℕ) (now : Time)
  | resume (jobId : ℕ) (now : Time)
  | retryDeadLetter (jobId : ℕ) (now : Time)
  | otherCode (db : BookDatabase)

namespace QueueSystem

open BookRunService

/-- The job service writes its tables; a job that it adds belongs to no book run. -/
def withJobs (db : BookDatabase) (jobs : Database) : BookDatabase :=
  { db with
    toDatabase := jobs
    jobLinks := db.jobLinks ++ List.replicate (jobs.jobs.length - db.jobs.length) ⟨none, none⟩ }

/-- Commit a transaction of the job service, or keep the state when it raised. -/
def commitOr (s : QueueSystem) (transaction : Except Error Database) : QueueSystem :=
  match transaction with
  | .ok jobs => { s with db := withJobs s.db jobs }
  | .error _ => s

/-- The effect of an action. -/
def next (settings : BookSettings) (s : QueueSystem) : QueueAction → Option QueueSystem
  | .createJob request => some { s with jobCalls := s.jobCalls ++ [⟨request, .lookup⟩] }
  | .advanceJob i now =>
      s.jobCalls[i]?.bind fun call =>
        (call.phase.advance settings.toSettings call.request now s.db.toDatabase).map fun r =>
          { s with
            db := withJobs s.db r.2
            jobCalls := s.jobCalls.set i { call with phase := r.1 } }
  | .createBook arguments => some { s with bookCalls := s.bookCalls ++ [⟨arguments, .lookup⟩] }
  | .advanceBook i now =>
      s.bookCalls[i]?.bind fun call =>
        (call.phase.advance settings call.arguments now s.db).map fun r =>
          { s with db := r.2, bookCalls := s.bookCalls.set i { call with phase := r.1 } }
  | .resume jobId now => some (s.commitOr (JobService.resume jobId now s.db.toDatabase))
  | .retryDeadLetter jobId now =>
      some (s.commitOr (JobService.retryDeadLetter jobId now s.db.toDatabase))
  | .otherCode db =>
      if List.Forall₂ Job.SettlesTo s.db.jobs db.jobs then some { s with db := db } else none

/-- The queue and its callers. Runs start without jobs and calls. -/
def machine (settings : BookSettings) : Machine QueueSystem QueueAction where
  init s := s.db.jobs = [] ∧ s.jobCalls = [] ∧ s.bookCalls = []
  next := next settings

/-- The limits of the queue and of every project hold. -/
def WithinLimits (settings : BookSettings) (s : QueueSystem) : Prop :=
  activeCount s.db.toDatabase none ≤ settings.queuePendingHardLimit ∧
    ∀ projectId : ℕ,
      activeCount s.db.toDatabase (some projectId) ≤ settings.projectPendingLimit

/-- There is room for one more job of a project. -/
def RoomFor (settings : BookSettings) (s : QueueSystem) (projectId : Option ℕ) : Prop :=
  activeCount s.db.toDatabase none < settings.queuePendingHardLimit ∧
    (projectId.isSome →
      activeCount s.db.toDatabase projectId < settings.projectPendingLimit)

instance (settings : BookSettings) (s : QueueSystem) (projectId : Option ℕ) :
    Decidable (RoomFor settings s projectId) :=
  inferInstanceAs (Decidable (_ ∧ (_ → _)))

/-- The project of the active job that an action adds, if it adds one: the insert of one of the
two `create`s, when it breaks no constraint, and the restart of a dead-lettered job. -/
def adding (settings : BookSettings) (s : QueueSystem) : QueueAction → Option (Option ℕ)
  | .advanceJob i now =>
      s.jobCalls[i]?.bind fun call =>
        if call.phase = .insert ∧
            (JobService.writeJob settings.toSettings call.request now s.db.toDatabase).isOk then
          some call.request.projectId
        else none
  | .advanceBook i now =>
      s.bookCalls[i]?.bind fun call =>
        match call.phase with
        | .insert project chapterNumbers =>
            if (insert settings call.arguments project chapterNumbers now s.db).isOk then
              some (some call.arguments.projectId)
            else none
        | _ => none
  | .retryDeadLetter jobId now =>
      if (JobService.retryDeadLetter jobId now s.db.toDatabase).isOk then
        s.db.jobs[jobId]?.map (·.projectId)
      else none
  | .createJob _ | .createBook _ | .resume .. | .otherCode _ => none

/-- An active job is added only when there is room for it at that moment. -/
def FindsRoom (settings : BookSettings) (s : QueueSystem) (action : QueueAction) : Prop :=
  ∀ projectId ∈ s.adding settings action, RoomFor settings s projectId

instance (settings : BookSettings) (s : QueueSystem) (action : QueueAction) :
    Decidable (FindsRoom settings s action) :=
  inferInstanceAs (Decidable (∀ projectId ∈ s.adding settings action, _))

/-! ### One step -/

variable {settings : BookSettings} {s s' : QueueSystem} {action : QueueAction}

/-- A statement of `JobService.create` writes nothing unless it is an insert that commits. -/
theorem advanceJob_cases {phase phase' : CreatePhase} {request : JobService.JobRequest}
    {now : Time} {db db' : Database} {settings : Settings}
    (h : phase.advance settings request now db = some (phase', db')) :
    (phase = .insert ∧ ∃ r, JobService.writeJob settings request now db = .ok r ∧ db' = r.2) ∨
      db' = db ∧ ¬ (phase = .insert ∧ (JobService.writeJob settings request now db).isOk) := by
  cases phase with
  | lookup | recover =>
      right
      simp only [CreatePhase.advance] at h
      split at h
      · exact ⟨(Prod.mk.inj (Option.some.inj h)).2.symm, by simp⟩
      · exact ⟨(Prod.mk.inj (Option.some.inj h)).2.symm, by simp⟩
  | project | globalLimit | projectLimit | chapter =>
      exact .inr ⟨(Prod.mk.inj (Option.some.inj h)).2.symm, by simp⟩
  | insert =>
      have hinsert := Option.some.inj h
      cases hwrite : JobService.writeJob settings request now db with
      | ok r =>
          rw [hwrite] at hinsert
          exact .inl ⟨rfl, r, rfl, (Prod.mk.inj hinsert).2.symm⟩
      | error error =>
          rw [hwrite] at hinsert
          refine .inr ⟨?_, by simp [Except.isOk, Except.toBool]⟩
          cases error with
          | integrityError constraint => exact (Prod.mk.inj hinsert).2.symm
          | _ => exact (Prod.mk.inj hinsert).2.symm
  | returned result => cases h
  | raised error => cases h

/-- A statement of `BookRunService.create` writes no job unless it is an insert that commits. -/
theorem advanceBook_cases {phase phase' : BookRunPhase} {arguments : BookRunArguments}
    {now : Time} {db db' : BookDatabase}
    (h : phase.advance settings arguments now db = some (phase', db')) :
    (∃ project chapterNumbers r, phase = .insert project chapterNumbers ∧
        insert settings arguments project chapterNumbers now db = .ok r ∧ db' = r.2.2) ∨
      db' = db ∧ ∀ project chapterNumbers, phase = .insert project chapterNumbers →
        (insert settings arguments project chapterNumbers now db).isOk = false := by
  cases phase with
  | lookup | check | recover =>
      right
      refine ⟨?_, by simp⟩
      simp only [BookRunPhase.advance] at h
      repeat' split at h
      all_goals exact (Prod.mk.inj (Option.some.inj h)).2.symm
  | insert project chapterNumbers =>
      simp only [BookRunPhase.advance] at h
      cases hinsert : insert settings arguments project chapterNumbers now db with
      | ok r =>
          rw [hinsert] at h
          exact .inl ⟨project, chapterNumbers, r, rfl, hinsert,
            (Prod.mk.inj (Option.some.inj h)).2.symm⟩
      | error error =>
          rw [hinsert] at h
          refine .inr ⟨?_, ?_⟩
          · cases error with
            | integrityError constraint => exact (Prod.mk.inj (Option.some.inj h)).2.symm
            | _ => exact (Prod.mk.inj (Option.some.inj h)).2.symm
          · intro project' chapterNumbers' hphase
            obtain ⟨rfl, rfl⟩ := BookRunPhase.insert.inj hphase
            rw [hinsert]
            rfl
  | returned response => cases h
  | raised error => cases h

/-- **What an action adds.** It adds the job that it is said to add to the counts that are about
it, and otherwise adds to none. -/
theorem counts_next (hnext : next settings s action = some s') (projectId : Option ℕ) :
    (∀ added, s.adding settings action = some added →
        activeCount s'.db.toDatabase projectId =
          activeCount s.db.toDatabase projectId + countsMore projectId added) ∧
      (s.adding settings action = none →
        activeCount s'.db.toDatabase projectId ≤ activeCount s.db.toDatabase projectId) := by
  cases action with
  | createJob request =>
      obtain rfl := Option.some.inj hnext
      exact ⟨fun _ h => (by cases h), fun _ => Nat.le_refl _⟩
  | createBook arguments =>
      obtain rfl := Option.some.inj hnext
      exact ⟨fun _ h => (by cases h), fun _ => Nat.le_refl _⟩
  | advanceJob i now =>
      obtain ⟨call, hcall, hadvance⟩ := Option.bind_eq_some_iff.mp hnext
      obtain ⟨r, hr, rfl⟩ := Option.map_eq_some_iff.mp hadvance
      simp only [adding, hcall, Option.bind_some]
      rcases advanceJob_cases hr with ⟨hphase, written, hwrite, hdb⟩ | ⟨hdb, hnone⟩
      · rw [if_pos ⟨hphase, by rw [hwrite]; rfl⟩]
        refine ⟨fun added hadded => ?_, fun h => (by cases h)⟩
        obtain rfl := Option.some.inj hadded
        simp only [withJobs, hdb]
        exact activeCount_adds (writeJob_adds hwrite) projectId
      · rw [if_neg hnone]
        refine ⟨fun _ h => (by cases h), fun _ => ?_⟩
        simp only [withJobs, hdb]
        exact Nat.le_refl _
  | advanceBook i now =>
      obtain ⟨call, hcall, hadvance⟩ := Option.bind_eq_some_iff.mp hnext
      obtain ⟨r, hr, rfl⟩ := Option.map_eq_some_iff.mp hadvance
      simp only [adding, hcall, Option.bind_some]
      rcases advanceBook_cases hr with
        ⟨project, chapterNumbers, ⟨runId, run, db⟩, hphase, hinsert, hdb⟩ | ⟨hdb, hnone⟩
      · simp only [hphase, hinsert]
        refine ⟨fun added hadded => ?_, fun h => (by cases h)⟩
        obtain rfl := Option.some.inj hadded
        simp only [hdb]
        exact activeCount_adds (bookRun_adds hinsert) projectId
      · have hadding : (match call.phase with
            | .insert project chapterNumbers =>
                if (insert settings call.arguments project chapterNumbers now s.db).isOk then
                  some (some call.arguments.projectId)
                else none
            | _ => none) = none := by
          split
          · rename_i project chapterNumbers hphase
            rw [hnone project chapterNumbers hphase]
            rfl
          · rfl
        rw [hadding]
        refine ⟨fun _ h => (by cases h), fun _ => ?_⟩
        simp only [hdb]
        exact Nat.le_refl _
  | resume jobId now =>
      obtain rfl := Option.some.inj hnext
      refine ⟨fun _ h => (by cases h), fun _ => ?_⟩
      cases hresume : JobService.resume jobId now s.db.toDatabase with
      | error error => exact Nat.le_refl _
      | ok db =>
          obtain ⟨job, hpaused, hrestarts⟩ := resume_restarts hresume
          have hcount := activeCount_restarts hrestarts projectId
          have hcounts : (counts projectId job).toNat = countsMore projectId job.projectId := by
            rw [counts, hpaused, countsMore]
            simp [activeJobStatuses]
          show activeCount db projectId ≤ _
          omega
  | retryDeadLetter jobId now =>
      obtain rfl := Option.some.inj hnext
      cases hretry : JobService.retryDeadLetter jobId now s.db.toDatabase with
      | error error =>
          simp only [adding, hretry]
          exact ⟨fun _ h => (by cases h), fun _ => Nat.le_refl _⟩
      | ok db =>
          obtain ⟨job, hdead, hrestarts⟩ := retryDeadLetter_restarts hretry
          have hcount := activeCount_restarts hrestarts projectId
          have hcounts : counts projectId job = false := by
            rw [counts, hdead]
            simp [activeJobStatuses]
          rw [hcounts, Bool.toNat_false, Nat.add_zero] at hcount
          simp only [adding, hretry, hrestarts.1, Option.map_some]
          refine ⟨fun added hadded => ?_, fun h => (by cases h)⟩
          obtain rfl := Option.some.inj hadded
          exact hcount
  | otherCode db =>
      simp only [next] at hnext
      split at hnext
      · rename_i hsettles
        obtain rfl := Option.some.inj hnext
        refine ⟨fun _ h => (by cases h), fun _ => ?_⟩
        rw [activeCount_eq, activeCount_eq]
        exact countP_settles hsettles projectId
      · cases hnext

/-! ### All runs -/

theorem countsMore_none (added : Option ℕ) : countsMore none added = 1 := rfl

theorem countsMore_some (projectId : ℕ) (added : Option ℕ) :
    countsMore (some projectId) added = if added = some projectId then 1 else 0 := by
  unfold countsMore
  by_cases hadded : added = some projectId
  · simp [hadded]
  · simp [hadded]

/-- Within the limits, an action stays within them exactly when what it adds finds room. -/
theorem withinLimits_next (h : WithinLimits settings s)
    (hnext : next settings s action = some s') :
    WithinLimits settings s' ↔ FindsRoom settings s action := by
  have hcounts := counts_next hnext
  cases hadding : s.adding settings action with
  | none =>
      have hfindsRoom : FindsRoom settings s action := by
        intro added hadded
        rw [hadding] at hadded
        cases hadded
      refine ⟨fun _ => hfindsRoom, fun _ => ⟨?_, fun projectId => ?_⟩⟩
      · exact ((hcounts none).2 hadding).trans h.1
      · exact ((hcounts (some projectId)).2 hadding).trans (h.2 projectId)
  | some added =>
      have hall := (hcounts none).1 added hadding
      rw [countsMore_none] at hall
      constructor
      · intro hwithin other hother
        obtain rfl : added = other := Option.some.inj (hadding.symm.trans hother)
        refine ⟨?_, fun hsome => ?_⟩
        · have hlimit := hwithin.1
          omega
        · obtain ⟨projectId, rfl⟩ := Option.isSome_iff_exists.mp hsome
          have hproject := (hcounts (some projectId)).1 _ hadding
          rw [countsMore_some, if_pos rfl] at hproject
          have hlimit := hwithin.2 projectId
          omega
      · intro hfindsRoom
        obtain ⟨hroom, hproject⟩ := hfindsRoom added hadding
        refine ⟨by omega, fun projectId => ?_⟩
        have hcount := (hcounts (some projectId)).1 added hadding
        rw [countsMore_some] at hcount
        have hlimit := h.2 projectId
        split at hcount
        · rename_i hadded
          subst hadded
          have hroom' := hproject rfl
          omega
        · omega

/-- A queue for one job. -/
def smallQueue : BookSettings :=
  { BookAdmission.sampleBookSettings with
    queuePendingHardLimit := 1
    queuePendingHardLimit_range := by decide }

/-- A project with one planned chapter, and no calls. -/
def idle : QueueSystem := ⟨BookAdmission.planned.db, [], []⟩

/-- A call of `JobService.create` from its start to its insert. -/
def createFirst : List QueueAction :=
  [.createJob JobSystem.sampleRequest, .advanceJob 0 0, .advanceJob 0 0, .advanceJob 0 0,
    .advanceJob 0 0, .advanceJob 0 0, .advanceJob 0 0]

end QueueSystem

end StoryForge
