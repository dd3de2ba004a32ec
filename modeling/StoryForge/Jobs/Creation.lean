import StoryForge.Jobs.Coverage
import StoryForge.Jobs.EventLog

/-!
# Concurrent calls of `create`

`JobService.create` looks its key up in one transaction, runs its admission checks and the
insert in a second one, and after an `IntegrityError` looks the key up again in a third. The
checks read what is committed at that moment, so the calls of a race interleave between any
two of these reads. The insert waits for others that insert the same key and is atomic with
its commit.

The loser of a race is told apart by how far it is when the winner commits. If it has passed
the checks, its insert breaks the unique key and it finds the winner's job. If not, it
counts the winner's job against the limits and finds it active on the chapter.

## Main results

* `JobService.insert_eq` — the checks and the insert make up the admission transaction;
* `CreateRace.reachable_alone` — an undisturbed call does what `create` does;
* `CreateRace.create_idempotent_iff` — a race is idempotent in every interleaving exactly
  when the job has no chapter and there is room for one more job than the one created;
* `CreateRace.create_idempotent_fails` — the loser is told that the chapter is occupied.
-/

namespace StoryForge

/-! ### The statements of the admission transaction -/

namespace JobService

variable {settings : Settings} {request : JobRequest} {now now' : Time} {db : Database}

/-- `_check_backpressure`: the count over all projects. -/
def checkGlobalLimit (settings : Settings) (db : Database) : Except Error Unit :=
  if JobRepository.activeCount db none ≥ settings.queuePendingHardLimit then
    .error (.queueBackpressureError "Global queue hard limit reached" 5)
  else .ok ()

/-- `_check_backpressure`: the count of one project. -/
def checkProjectLimit (settings : Settings) (db : Database) (projectId : Option ℕ) :
    Except Error Unit :=
  if projectId.isSome &&
      JobRepository.activeCount db projectId ≥ settings.projectPendingLimit then
    .error (.queueBackpressureError "Project queue limit reached" 5)
  else .ok ()

/-- The index `uq_jobs_active_chapter`, which the insert of an active job may break. -/
def checkActiveChapter (db : Database) (chapterId : Option ℕ) : Except Error Unit :=
  match chapterId.bind (JobRepository.activeForChapter db) with
  | some _ => .error (.integrityError "uq_jobs_active_chapter")
  | none => .ok ()

/-- The insert of the job, its first event and its outbox row. -/
def writeJob (settings : Settings) (request : JobRequest) (now : Time) (db : Database) :
    Except Error (ℕ × Database) := do
  checkActiveChapter db request.chapterId
  let job := newJob settings request now
  checkConstraints db job
  let jobId := db.jobs.length
  let s : JobSession := ⟨{ db with jobs := db.jobs ++ [job] }, jobId, job⟩
  let s := s.event .jobCreated "job.created" "Job created"
  return (jobId, (createOutbox s .create now).commit)

theorem checkBackpressure_eq (settings : Settings) (db : Database) (projectId : Option ℕ) :
    checkBackpressure settings db projectId = (do
      checkGlobalLimit settings db
      checkProjectLimit settings db projectId) := by
  unfold checkBackpressure checkGlobalLimit checkProjectLimit
  split <;> rfl

/-- The admission transaction, undisturbed, is its checks and the insert; the index adds
nothing to the check of the chapter. -/
theorem insert_eq (settings : Settings) (request : JobRequest) (now : Time) (db : Database) :
    insert settings request now db = (do
      requireProject db request.projectId
      checkGlobalLimit settings db
      checkProjectLimit settings db request.projectId
      requireFreeChapter db request.chapterId
      writeJob settings request now db) := by
  simp only [insert, checkBackpressure_eq, writeJob, bind_assoc]
  congr 1
  funext _
  congr 1
  funext _
  congr 1
  funext _
  unfold requireFreeChapter checkActiveChapter
  cases request.chapterId.bind (JobRepository.activeForChapter db) <;> rfl

end JobService

/-! ### Calls in progress -/

/-- How far a call of `create` is: the statement it executes next, or how it ended. -/
inductive CreatePhase
  | lookup
  | project
  | globalLimit
  | projectLimit
  | chapter
  | insert
  | recover
  | returned (result : JobService.JobCreationResult)
  | raised (error : Error)
  deriving DecidableEq, Repr

namespace CreatePhase

open JobService

/-- Whether a call is over. -/
def Ended (phase : CreatePhase) : Prop :=
  match phase with
  | .returned _ | .raised _ => True
  | _ => False

instance (phase : CreatePhase) : Decidable phase.Ended := by
  unfold Ended; split <;> infer_instance

/-- A check that passes lets the call go on, one that raises ends it. -/
def after (check : Except Error Unit) (phase : CreatePhase) : CreatePhase :=
  match check with
  | .ok _ => phase
  | .error error => .raised error

/-- The end of the admission transaction: committed, or caught when a constraint broke, or
raised. -/
def afterInsert (db : Database) (transaction : Except Error (ℕ × Database)) :
    CreatePhase × Database :=
  match transaction with
  | .ok (jobId, db') => (.returned ⟨jobId, false⟩, db')
  | .error (.integrityError _) => (.recover, db)
  | .error error => (.raised error, db)

/-- One statement of a call, on the database it finds. -/
def advance (settings : Settings) (request : JobRequest) (now : Time) (db : Database) :
    CreatePhase → Option (CreatePhase × Database)
  | .lookup =>
      match JobRepository.getByIdempotencyKey db (idempotencyKey settings request) with
      | some existing => some (.returned ⟨existing, true⟩, db)
      | none => some (.project, db)
  | .project => some (after (requireProject db request.projectId) .globalLimit, db)
  | .globalLimit => some (after (checkGlobalLimit settings db) .projectLimit, db)
  | .projectLimit =>
      some (after (checkProjectLimit settings db request.projectId) .chapter, db)
  | .chapter => some (after (requireFreeChapter db request.chapterId) .insert, db)
  | .insert => some (afterInsert db (writeJob settings request now db))
  | .recover =>
      match JobRepository.getByIdempotencyKey db (idempotencyKey settings request) with
      | some existing => some (.returned ⟨existing, true⟩, db)
      | none => some (.raised (.invalidStateError "A concurrent active job already exists"), db)
  | .returned _ | .raised _ => none

end CreatePhase

/-- Calls of `create` with the same arguments, at the same time. -/
structure CreateRace where
  db : Database
  calls : List CreatePhase
  deriving DecidableEq, Repr

namespace CreateRace

open JobService CreatePhase

/-- Call `i` executes its next statement, at the time `now`. -/
def next (settings : Settings) (request : JobRequest) (race : CreateRace) (a : ℕ × Time) :
    Option CreateRace :=
  race.calls[a.1]?.bind fun phase =>
    (phase.advance settings request a.2 race.db).map fun r =>
      { db := r.2, calls := race.calls.set a.1 r.1 }

/-- Any number of calls, started on the database `db`. -/
def machine (settings : Settings) (request : JobRequest) (db : Database) (n : ℕ) :
    Machine CreateRace (ℕ × Time) where
  init race := race = ⟨db, List.replicate n .lookup⟩
  next := next settings request

variable {settings : Settings} {request : JobRequest} {now : Time} {db₀ db db' : Database}
  {race race' : CreateRace} {n : ℕ} {phase phase' : CreatePhase}
  {rest : List CreatePhase}

/-- One call takes a step. -/
theorem reachable_step (before : List CreatePhase)
    (h : (machine settings request db₀ n).Reachable ⟨db, before ++ phase :: rest⟩)
    (hstep : phase.advance settings request now db = some (phase', db')) :
    (machine settings request db₀ n).Reachable ⟨db', before ++ phase' :: rest⟩ := by
  refine .step (a := (before.length, now)) h trivial ?_
  simp [machine, next, hstep]

/-- What a check raises is no `IntegrityError`. -/
def ChecksOnly (check : Except Error Unit) : Prop :=
  ∀ error, check = .error error → ∀ constraint, error ≠ .integrityError constraint

theorem requireProject_checksOnly (db : Database) (projectId : Option ℕ) :
    ChecksOnly (requireProject db projectId) := by
  rintro _ h constraint rfl
  unfold requireProject at h
  split at h
  · exact absurd h (by simp)
  · split at h <;> simp at h

theorem checkGlobalLimit_checksOnly (settings : Settings) (db : Database) :
    ChecksOnly (checkGlobalLimit settings db) := by
  rintro _ h constraint rfl
  unfold checkGlobalLimit at h
  split at h <;> simp at h

theorem checkProjectLimit_checksOnly (settings : Settings) (db : Database)
    (projectId : Option ℕ) : ChecksOnly (checkProjectLimit settings db projectId) := by
  rintro _ h constraint rfl
  unfold checkProjectLimit at h
  split at h <;> simp at h

theorem requireFreeChapter_checksOnly (db : Database) (chapterId : Option ℕ) :
    ChecksOnly (requireFreeChapter db chapterId) := by
  rintro _ h constraint rfl
  unfold requireFreeChapter at h
  split at h <;> simp at h

theorem afterInsert_raised {error : Error}
    (h : ∀ constraint, error ≠ .integrityError constraint) :
    afterInsert db (.error error) = (.raised error, db) := by
  cases error with
  | integrityError constraint => exact absurd rfl (h constraint)
  | _ => rfl

/-- A check that raises ends the call as it ends the transaction; one that passes leaves the
rest of both. -/
theorem reachable_check (before : List CreatePhase) {check : Except Error Unit} {k : Except Error (ℕ × Database)}
    (h : (machine settings request db₀ n).Reachable ⟨db, before ++ phase :: rest⟩)
    (hstep : phase.advance settings request now db = some (after check phase', db))
    (hraised : ChecksOnly check)
    (hk : (machine settings request db₀ n).Reachable ⟨db, before ++ phase' :: rest⟩ →
      (machine settings request db₀ n).Reachable
        ⟨(afterInsert db k).2, before ++ (afterInsert db k).1 :: rest⟩) :
    (machine settings request db₀ n).Reachable
      ⟨(afterInsert db (check >>= fun _ => k)).2,
        before ++ (afterInsert db (check >>= fun _ => k)).1 :: rest⟩ := by
  cases hcheck : check with
  | ok _ =>
      rw [hcheck] at hstep
      exact hk (reachable_step before h hstep)
  | error error =>
      rw [hcheck] at hstep
      have hbind : (Except.error error >>= fun _ : Unit => k) = .error error := rfl
      rw [hbind, afterInsert_raised (hraised error hcheck)]
      exact reachable_step before h hstep

/-- From the first check to the end of the admission transaction, undisturbed. -/
theorem reachable_insert (before : List CreatePhase)
    (h : (machine settings request db₀ n).Reachable ⟨db, before ++ .project :: rest⟩) (now : Time) :
    (machine settings request db₀ n).Reachable
      ⟨(afterInsert db (insert settings request now db)).2,
        before ++ (afterInsert db (insert settings request now db)).1 :: rest⟩ := by
  have hsteps (phase : CreatePhase) : phase.advance settings request now db =
      phase.advance settings request now db := rfl
  rw [insert_eq]
  refine reachable_check before h (hsteps .project) (requireProject_checksOnly _ _) fun h => ?_
  refine reachable_check before h (hsteps .globalLimit) (checkGlobalLimit_checksOnly _ _) fun h => ?_
  refine reachable_check before h (hsteps .projectLimit) (checkProjectLimit_checksOnly _ _ _)
    fun h => ?_
  refine reachable_check before h (hsteps .chapter) (requireFreeChapter_checksOnly _ _) fun h => ?_
  exact reachable_step before h (hsteps .insert)

/-- **An undisturbed call** ends as `create` does. -/
theorem reachable_alone (settings : Settings) (request : JobRequest) (now : Time)
    (db : Database) :
    match create settings request now db with
    | .ok (result, db') =>
        (machine settings request db 1).Reachable ⟨db', [.returned result]⟩
    | .error error => (machine settings request db 1).Reachable ⟨db, [.raised error]⟩ := by
  have hstart : (machine settings request db 1).Reachable ⟨db, [.lookup]⟩ := .start rfl
  unfold create
  dsimp only
  cases hkey : JobRepository.getByIdempotencyKey db (idempotencyKey settings request) with
  | some existing =>
      exact reachable_step [] hstart
        (show advance settings request now db .lookup = some (.returned ⟨existing, true⟩, db) by
          simp only [advance, hkey])
  | none =>
      have hproject := reachable_step [] hstart
        (show advance settings request now db .lookup = some (.project, db) by
          simp only [advance, hkey])
      have hinsert := reachable_insert [] hproject now
      cases htransaction : insert settings request now db with
      | ok r =>
          rw [htransaction] at hinsert
          exact hinsert
      | error error =>
          rw [htransaction] at hinsert
          cases error with
          | integrityError constraint =>
              exact reachable_step [] hinsert
                (show advance settings request now db .recover =
                  some (.raised (.invalidStateError "A concurrent active job already exists"), db)
                  by simp only [advance, hkey])
          | _ => exact hinsert

/-! ### After the winner's commit -/

/-- Exactly one job has the key: job `j`, with one creation event and one row requesting its
first delivery. -/
def CreatedOnce (db : Database) (key : String) (j : ℕ) : Prop :=
  Rows.idsWhere db.jobs (·.idempotencyKey == key) = [j] ∧
    ((db.eventsOf j).filter (·.eventType = .jobCreated)).length = 1 ∧
    (db.outbox.filter (·.deduplicationKey = ⟨j, .create⟩)).length = 1

instance (db : Database) (key : String) (j : ℕ) : Decidable (CreatedOnce db key j) :=
  inferInstanceAs (Decidable (_ ∧ _))

/-- Every call that is over has returned the id of the one job there is. -/
def Idempotent (settings : Settings) (request : JobRequest) (race : CreateRace) : Prop :=
  ∀ phase ∈ race.calls, phase.Ended → ∃ result, phase = .returned result ∧
    CreatedOnce race.db (idempotencyKey settings request) result.jobId

/-- The queue has room for one more job than the next one. -/
def RoomForTwo (settings : Settings) (db : Database) (projectId : Option ℕ) : Prop :=
  JobRepository.activeCount db none + 1 < settings.queuePendingHardLimit ∧
    (projectId.isSome →
      JobRepository.activeCount db projectId + 1 < settings.projectPendingLimit)

/-- `db` is `db₀` after the job of `request` was created. -/
structure Created (settings : Settings) (request : JobRequest) (db₀ db : Database) : Prop where
  projects : db.projects = db₀.projects
  job : ∃ job : Job, db.jobs = db₀.jobs ++ [job] ∧
    job.idempotencyKey = idempotencyKey settings request ∧
    job.projectId = request.projectId ∧ job.chapterId = request.chapterId ∧
    job.status = .outboxPending
  event : ∃ event : JobEvent, db.jobEvents = db₀.jobEvents ++ [event] ∧
    event.jobId = db₀.jobs.length ∧ event.eventType = .jobCreated
  outbox : ∃ row : OutboxMessage, db.outbox = db₀.outbox ++ [row] ∧
    row.deduplicationKey = ⟨db₀.jobs.length, .create⟩

/-- The insert creates the job, when no row requests a delivery of a job that is not there. -/
theorem created_of_writeJob {r : ℕ × Database}
    (hfree : ∀ row ∈ db₀.outbox, row.deduplicationKey.jobId < db₀.jobs.length)
    (h : writeJob settings request now db₀ = .ok r) :
    r.1 = db₀.jobs.length ∧ Created settings request db₀ r.2 := by
  unfold writeJob at h
  obtain ⟨-, -, h⟩ := Except.bind_eq_ok.mp h
  obtain ⟨-, -, h⟩ := Except.map_eq_ok.mp h
  subst h
  have hnone : db₀.outbox.any
      (·.deduplicationKey == (⟨db₀.jobs.length, .create⟩ : DeduplicationKey)) = false := by
    rw [List.any_eq_false]
    intro row hrow hkey
    have hlt := hfree row hrow
    rw [eq_of_beq hkey] at hlt
    exact absurd hlt (Nat.lt_irrefl _)
  let job := newJob settings request now
  let s : JobSession := (JobSession.mk { db₀ with jobs := db₀.jobs ++ [job] } db₀.jobs.length
    job).event .jobCreated "job.created" "Job created"
  have houtbox : ∃ row : OutboxMessage, createOutbox s .create now = s.addOutbox row ∧
      row.deduplicationKey = ⟨db₀.jobs.length, .create⟩ :=
    ⟨_, if_neg (by rw [Bool.not_eq_true]; exact hnone), rfl⟩
  obtain ⟨row, hrow, hkey⟩ := houtbox
  refine ⟨rfl, ?_⟩
  rw [show createOutbox _ .create now = s.addOutbox row from hrow]
  exact ⟨rfl, ⟨job.allocateSequence, by simp [JobSession.commit, JobSession.addOutbox, s,
      JobSession.event, JobSession.addOrdered], rfl, rfl, rfl, rfl⟩,
    ⟨_, rfl, rfl, rfl⟩, ⟨row, rfl, hkey⟩⟩

/-- One more active job counts for everyone and for its project. -/
theorem activeCount_created (h : Created settings request db₀ db) (projectId : Option ℕ)
    (hproject : projectId = none ∨ projectId = request.projectId) :
    JobRepository.activeCount db projectId = JobRepository.activeCount db₀ projectId + 1 := by
  obtain ⟨job, hjobs, -, hof, -, hst⟩ := h.job
  unfold JobRepository.activeCount
  rw [hjobs, Rows.idsWhere_concat, if_pos, List.length_append, List.length_singleton]
  rw [hst, hof]
  rcases hproject with rfl | rfl <;> simp [activeJobStatuses]

/-- The new job is the one that has its key. -/
theorem idsWhere_created (h : Created settings request db₀ db)
    (hnew : Rows.idsWhere db₀.jobs (·.idempotencyKey == idempotencyKey settings request) = []) :
    Rows.idsWhere db.jobs (·.idempotencyKey == idempotencyKey settings request) =
      [db₀.jobs.length] := by
  obtain ⟨job, hjobs, hkey, -⟩ := h.job
  rw [hjobs, Rows.idsWhere_concat, hnew, if_pos (by rw [hkey]; exact beq_self_eq_true _)]
  rfl

theorem getByIdempotencyKey_created (h : Created settings request db₀ db)
    (hnew : Rows.idsWhere db₀.jobs (·.idempotencyKey == idempotencyKey settings request) = []) :
    JobRepository.getByIdempotencyKey db (idempotencyKey settings request) =
      some db₀.jobs.length := by
  rw [JobRepository.getByIdempotencyKey, idsWhere_created h hnew]
  rfl

/-- The new job occupies its chapter. -/
theorem activeForChapter_created (h : Created settings request db₀ db) {chapterId : ℕ}
    (hchapter : request.chapterId = some chapterId) :
    JobRepository.activeForChapter db chapterId = some db₀.jobs.length := by
  obtain ⟨job, hjobs, -, -, hof, hst⟩ := h.job
  rw [JobRepository.activeForChapter, hjobs, Rows.idsWhere_concat, if_pos,
    List.getLast?_append, List.getLast?_singleton, Option.some_or]
  rw [hst, hof, hchapter]
  simp [activeJobStatuses]

/-- The database has events and rows of its jobs only. -/
structure Grounded (db : Database) : Prop where
  events : ∀ e ∈ db.jobEvents, e.jobId < db.jobs.length
  outbox : ∀ row ∈ db.outbox, row.deduplicationKey.jobId < db.jobs.length

theorem grounded_of_reachable {s : JobSystem} (hs : (JobSystem.machine settings).Reachable s) :
    Grounded s.db where
  events := JobSystem.events_known hs
  outbox row hrow := by
    obtain ⟨hkey, hlt⟩ := (JobSystem.sound_of_reachable hs).addressed row hrow
    rwa [hkey]

/-- The job is there once, with one creation event and one row. -/
theorem createdOnce_of_created (h : Created settings request db₀ db) (hgrounded : Grounded db₀)
    (hnew : Rows.idsWhere db₀.jobs (·.idempotencyKey == idempotencyKey settings request) = []) :
    CreatedOnce db (idempotencyKey settings request) db₀.jobs.length := by
  obtain ⟨event, hevents, hof, htype⟩ := h.event
  obtain ⟨row, hrows, hkey⟩ := h.outbox
  refine ⟨idsWhere_created h hnew, ?_, ?_⟩
  · have hnone : db₀.jobEvents.filter (·.jobId = db₀.jobs.length) = [] := by
      rw [List.filter_eq_nil_iff]
      intro e he
      have := hgrounded.events e he
      simp only [decide_eq_true_eq]
      omega
    rw [Database.eventsOf, hevents, List.filter_append, hnone]
    simp [hof, htype]
  · have hnone : db₀.outbox.filter (·.deduplicationKey = ⟨db₀.jobs.length, .create⟩) = [] := by
      rw [List.filter_eq_nil_iff]
      intro old hold
      have hlt := hgrounded.outbox old hold
      simp only [decide_eq_true_eq]
      intro heq
      rw [heq] at hlt
      exact absurd hlt (Nat.lt_irrefl _)
    rw [hrows, List.filter_append, hnone]
    simp [hkey]

/-! ### Who may lose -/

/-- What an undisturbed call finds: every check passes and the insert breaks no constraint. -/
structure Admits (settings : Settings) (request : JobRequest) (db : Database) : Prop where
  project : requireProject db request.projectId = .ok ()
  globalLimit : checkGlobalLimit settings db = .ok ()
  projectLimit : checkProjectLimit settings db request.projectId = .ok ()
  chapter : requireFreeChapter db request.chapterId = .ok ()
  write : ∀ now, ∃ r, writeJob settings request now db = .ok r

/-- Whether the constraints hold does not depend on the time of the insert. -/
theorem checkConstraints_newJob (settings : Settings) (request : JobRequest) (now now' : Time)
    (db : Database) :
    checkConstraints db (newJob settings request now) =
      checkConstraints db (newJob settings request now') := rfl

theorem admits_of_insert {r : ℕ × Database} (h : insert settings request now db = .ok r) :
    Admits settings request db := by
  rw [insert_eq] at h
  obtain ⟨⟨⟩, hproject, h⟩ := Except.bind_eq_ok.mp h
  obtain ⟨⟨⟩, hglobal, h⟩ := Except.bind_eq_ok.mp h
  obtain ⟨⟨⟩, hlimit, h⟩ := Except.bind_eq_ok.mp h
  obtain ⟨⟨⟩, hchapter, h⟩ := Except.bind_eq_ok.mp h
  refine ⟨hproject, hglobal, hlimit, hchapter, fun now' => ?_⟩
  unfold writeJob at h
  obtain ⟨⟨⟩, hactive, h⟩ := Except.bind_eq_ok.mp h
  obtain ⟨⟨⟩, hconstraints, -⟩ := Except.map_eq_ok.mp h
  rw [checkConstraints_newJob settings request now now'] at hconstraints
  exact Except.exists_ok_bind hactive (Except.exists_ok_bind hconstraints ⟨_, rfl⟩)

/-- The key of a request that is admitted is new. -/
theorem Admits.key_new (h : Admits settings request db) :
    Rows.idsWhere db.jobs (·.idempotencyKey == idempotencyKey settings request) = [] := by
  obtain ⟨r, hr⟩ := h.write 0
  unfold writeJob at hr
  obtain ⟨-, -, hr⟩ := Except.bind_eq_ok.mp hr
  obtain ⟨⟨⟩, hconstraints, -⟩ := Except.map_eq_ok.mp hr
  rw [List.eq_nil_iff_forall_not_mem]
  intro id hid
  obtain ⟨row, hrow, hkey⟩ := Rows.mem_idsWhere.mp hid
  have htaken : (db.jobs.any fun old =>
      old.idempotencyKey == (newJob settings request 0).idempotencyKey) = true :=
    List.any_eq_true.mpr ⟨row, List.mem_of_getElem? hrow, hkey⟩
  unfold checkConstraints brokenConstraint at hconstraints
  rw [htaken] at hconstraints
  split at hconstraints
  · exact absurd hconstraints (by simp)
  · rename_i hnone
    split at hnone
    · exact absurd hnone (by simp)
    · split at hnone <;> exact absurd hnone (by simp)

theorem Admits.getByIdempotencyKey (h : Admits settings request db) :
    JobRepository.getByIdempotencyKey db (idempotencyKey settings request) = none := by
  rw [JobRepository.getByIdempotencyKey, h.key_new]
  rfl

/-- The insert of a key that exists breaks a constraint. -/
theorem writeJob_created (h : Created settings request db₀ db)
    (hnew : Rows.idsWhere db₀.jobs (·.idempotencyKey == idempotencyKey settings request) = [])
    (now : Time) :
    ∃ constraint, writeJob settings request now db = .error (.integrityError constraint) := by
  unfold writeJob checkActiveChapter
  cases request.chapterId.bind (JobRepository.activeForChapter db) with
  | some active => exact ⟨_, rfl⟩
  | none =>
      have hid : db₀.jobs.length ∈
          Rows.idsWhere db.jobs (·.idempotencyKey == idempotencyKey settings request) := by
        rw [idsWhere_created h hnew]
        exact List.mem_singleton_self _
      obtain ⟨row, hrow, hkey⟩ := Rows.mem_idsWhere.mp hid
      have htaken : (db.jobs.any fun old =>
          old.idempotencyKey == (newJob settings request now).idempotencyKey) = true :=
        List.any_eq_true.mpr ⟨row, List.mem_of_getElem? hrow, hkey⟩
      have hbroken : ∃ constraint,
          brokenConstraint db (newJob settings request now) = some constraint := by
        unfold brokenConstraint
        rw [htaken]
        split
        · exact ⟨_, rfl⟩
        · split
          · exact ⟨_, rfl⟩
          · exact ⟨_, rfl⟩
      obtain ⟨constraint, hconstraint⟩ := hbroken
      refine ⟨constraint, ?_⟩
      simp only [checkConstraints, hconstraint]
      rfl

/-- Before the winner's commit every statement of a call passes; the first insert wins. -/
theorem advance_before (ha : Admits settings request db₀) (hgrounded : Grounded db₀)
    (hpending : ¬ phase.Ended) (hne : phase ≠ .recover)
    (h : phase.advance settings request now db₀ = some (phase', db')) :
    db' = db₀ ∧ ¬ phase'.Ended ∧ phase' ≠ .recover ∨
      Created settings request db₀ db' ∧ phase' = .returned ⟨db₀.jobs.length, false⟩ := by
  cases phase with
  | lookup =>
      simp only [advance, ha.getByIdempotencyKey, Option.some.injEq, Prod.mk.injEq] at h
      obtain ⟨rfl, rfl⟩ := h
      exact .inl ⟨rfl, by simp [Ended], by simp⟩
  | project =>
      simp only [advance, ha.project, after, Option.some.injEq, Prod.mk.injEq] at h
      obtain ⟨rfl, rfl⟩ := h
      exact .inl ⟨rfl, by simp [Ended], by simp⟩
  | globalLimit =>
      simp only [advance, ha.globalLimit, after, Option.some.injEq, Prod.mk.injEq] at h
      obtain ⟨rfl, rfl⟩ := h
      exact .inl ⟨rfl, by simp [Ended], by simp⟩
  | projectLimit =>
      simp only [advance, ha.projectLimit, after, Option.some.injEq, Prod.mk.injEq] at h
      obtain ⟨rfl, rfl⟩ := h
      exact .inl ⟨rfl, by simp [Ended], by simp⟩
  | chapter =>
      simp only [advance, ha.chapter, after, Option.some.injEq, Prod.mk.injEq] at h
      obtain ⟨rfl, rfl⟩ := h
      exact .inl ⟨rfl, by simp [Ended], by simp⟩
  | insert =>
      obtain ⟨r, hr⟩ := ha.write now
      obtain ⟨hid, hcreated⟩ := created_of_writeJob hgrounded.outbox hr
      simp only [advance, afterInsert, hr, Option.some.injEq, Prod.mk.injEq] at h
      obtain ⟨rfl, rfl⟩ := h
      rw [hid]
      exact .inr ⟨hcreated, rfl⟩
  | recover => exact absurd rfl hne
  | returned result => exact absurd trivial hpending
  | raised error => exact absurd trivial hpending

/-- A call may lose a race with another one when its job has no chapter and there is room for
one more job. -/
def MayLose (settings : Settings) (request : JobRequest) (db : Database) : Prop :=
  request.chapterId = none ∧ RoomForTwo settings db request.projectId

/-- After the winner's commit, a call that may lose goes on or returns the winner's job. -/
theorem advance_created (ha : Admits settings request db₀) (hlose : MayLose settings request db₀)
    (hcreated : Created settings request db₀ db) (hpending : ¬ phase.Ended)
    (h : phase.advance settings request now db = some (phase', db')) :
    db' = db ∧ (¬ phase'.Ended ∨
      ∃ reused, phase' = .returned ⟨db₀.jobs.length, reused⟩) := by
  have hkey := getByIdempotencyKey_created hcreated ha.key_new
  obtain ⟨hchapter, hglobal, hlimit⟩ := hlose
  cases phase with
  | lookup =>
      simp only [advance, hkey, Option.some.injEq, Prod.mk.injEq] at h
      obtain ⟨rfl, rfl⟩ := h
      exact ⟨rfl, .inr ⟨true, rfl⟩⟩
  | project =>
      have hproject : requireProject db request.projectId = .ok () := by
        rw [← ha.project]
        unfold requireProject
        rw [hcreated.projects]
      simp only [advance, hproject, after, Option.some.injEq, Prod.mk.injEq] at h
      obtain ⟨rfl, rfl⟩ := h
      exact ⟨rfl, .inl (by simp [Ended])⟩
  | globalLimit =>
      have hroom : checkGlobalLimit settings db = .ok () := by
        rw [checkGlobalLimit, activeCount_created hcreated none (.inl rfl), if_neg]
        omega
      simp only [advance, hroom, after, Option.some.injEq, Prod.mk.injEq] at h
      obtain ⟨rfl, rfl⟩ := h
      exact ⟨rfl, .inl (by simp [Ended])⟩
  | projectLimit =>
      have hroom : checkProjectLimit settings db request.projectId = .ok () := by
        rw [checkProjectLimit, activeCount_created hcreated _ (.inr rfl), if_neg]
        simp only [Bool.and_eq_true, decide_eq_true_eq, not_and, ge_iff_le, not_le]
        exact hlimit
      simp only [advance, hroom, after, Option.some.injEq, Prod.mk.injEq] at h
      obtain ⟨rfl, rfl⟩ := h
      exact ⟨rfl, .inl (by simp [Ended])⟩
  | chapter =>
      have hfree : requireFreeChapter db request.chapterId = .ok () := by
        rw [hchapter]
        rfl
      simp only [advance, hfree, after, Option.some.injEq, Prod.mk.injEq] at h
      obtain ⟨rfl, rfl⟩ := h
      exact ⟨rfl, .inl (by simp [Ended])⟩
  | insert =>
      obtain ⟨constraint, hbroken⟩ := writeJob_created hcreated ha.key_new now
      simp only [advance, afterInsert, hbroken, Option.some.injEq, Prod.mk.injEq] at h
      obtain ⟨rfl, rfl⟩ := h
      exact ⟨rfl, .inl (by simp [Ended])⟩
  | recover =>
      simp only [advance, hkey, Option.some.injEq, Prod.mk.injEq] at h
      obtain ⟨rfl, rfl⟩ := h
      exact ⟨rfl, .inr ⟨true, rfl⟩⟩
  | returned result => exact absurd trivial hpending
  | raised error => exact absurd trivial hpending

/-- The state of a race: nobody has committed, or one call has and every other one has
returned its job or may lose. -/
def Racing (settings : Settings) (request : JobRequest) (db₀ : Database) (race : CreateRace) :
    Prop :=
  race.db = db₀ ∧ (∀ phase ∈ race.calls, ¬ phase.Ended ∧ phase ≠ .recover) ∨
    Created settings request db₀ race.db ∧ ∀ phase ∈ race.calls,
      ¬ phase.Ended ∧ MayLose settings request db₀ ∨
        ∃ reused, phase = .returned ⟨db₀.jobs.length, reused⟩

/-- A call of the race after one of them has taken a step. -/
theorem mem_set_cases {calls : List CreatePhase} {i : ℕ} {x : CreatePhase}
    (hx : x ∈ calls.set i phase') : x = phase' ∨ ∃ k, k ≠ i ∧ calls[k]? = some x := by
  obtain ⟨k, hk⟩ := List.getElem?_of_mem hx
  rw [List.getElem?_set] at hk
  split at hk
  · split at hk
    · exact .inl (Option.some.inj hk).symm
    · exact absurd hk (by simp)
  · rename_i hne
    exact .inr ⟨k, Ne.symm hne, hk⟩

/-- **One statement of a race** of calls that may lose, or of a single call. -/
theorem racing_next {a : ℕ × Time} (ha : Admits settings request db₀) (hgrounded : Grounded db₀)
    (hlose : race.calls.length = 1 ∨ MayLose settings request db₀)
    (h : Racing settings request db₀ race) (hnext : race.next settings request a = some race') :
    Racing settings request db₀ race' ∧ race'.calls.length = race.calls.length := by
  obtain ⟨phase, hphase, hnext⟩ := Option.bind_eq_some_iff.mp hnext
  obtain ⟨⟨phase', db'⟩, hstep, rfl⟩ := Option.map_eq_some_iff.mp hnext
  refine ⟨?_, List.length_set ..⟩
  have hmem := List.mem_of_getElem? hphase
  rcases h with ⟨hdb, hcalls⟩ | ⟨hcreated, hcalls⟩
  · rw [hdb] at hstep
    obtain ⟨hpending, hne⟩ := hcalls phase hmem
    rcases advance_before ha hgrounded hpending hne hstep with
      ⟨rfl, hpending', hne'⟩ | ⟨hcreated, rfl⟩
    · refine .inl ⟨rfl, fun x hx => ?_⟩
      rcases mem_set_cases hx with rfl | ⟨k, -, hk⟩
      · exact ⟨hpending', hne'⟩
      · exact hcalls x (List.mem_of_getElem? hk)
    · refine .inr ⟨hcreated, fun x hx => ?_⟩
      rcases mem_set_cases hx with rfl | ⟨k, hki, hk⟩
      · exact .inr ⟨false, rfl⟩
      · refine .inl ⟨(hcalls x (List.mem_of_getElem? hk)).1, hlose.resolve_left fun hone => ?_⟩
        have hi := (List.getElem?_eq_some_iff.mp hphase).1
        have hk' := (List.getElem?_eq_some_iff.mp hk).1
        omega
  · have hpending : ¬ phase.Ended := by
      intro hended
      rcases hcalls phase hmem with ⟨hpending, -⟩ | ⟨reused, rfl⟩
      · exact hpending hended
      · exact absurd hstep (by simp [advance])
    have hlose' : MayLose settings request db₀ := by
      rcases hcalls phase hmem with ⟨-, hlose'⟩ | ⟨reused, rfl⟩
      · exact hlose'
      · exact absurd trivial hpending
    obtain ⟨rfl, hphase'⟩ := advance_created ha hlose' hcreated hpending hstep
    refine .inr ⟨hcreated, fun x hx => ?_⟩
    rcases mem_set_cases hx with rfl | ⟨k, -, hk⟩
    · exact hphase'.imp_left fun hpending' => ⟨hpending', hlose'⟩
    · exact hcalls x (List.mem_of_getElem? hk)

/-- A race of calls that may lose, or a single call, is idempotent. -/
theorem idempotent_of_reachable (ha : Admits settings request db₀) (hgrounded : Grounded db₀)
    (hlose : n = 1 ∨ MayLose settings request db₀)
    (hrace : (machine settings request db₀ n).Reachable race) :
    race.Idempotent settings request := by
  have hracing : Racing settings request db₀ race ∧ race.calls.length = n := by
    refine hrace.invariant
      (I := fun race => Racing settings request db₀ race ∧ race.calls.length = n)
      (fun race hinit => ?_) fun race a race' _ hracing _ hnext => ?_
    · obtain rfl := hinit
      refine ⟨.inl ⟨rfl, fun phase hphase => ?_⟩, List.length_replicate ..⟩
      rw [List.eq_of_mem_replicate hphase]
      exact ⟨by simp [Ended], by simp⟩
    · obtain ⟨hracing, hlength⟩ := hracing
      obtain ⟨hracing', hlength'⟩ :=
        racing_next ha hgrounded (hlength ▸ hlose) hracing hnext
      exact ⟨hracing', hlength'.trans hlength⟩
  intro phase hphase hended
  rcases hracing.1 with ⟨-, hcalls⟩ | ⟨hcreated, hcalls⟩
  · exact absurd hended (hcalls phase hphase).1
  · rcases hcalls phase hphase with ⟨hpending, -⟩ | ⟨reused, rfl⟩
    · exact absurd hended hpending
    · exact ⟨_, rfl, createdOnce_of_created hcreated hgrounded ha.key_new⟩

/-- After the winner's commit, the admission of a call that may not lose is refused by a
check. -/
theorem insert_created_error (ha : Admits settings request db₀)
    (hcreated : Created settings request db₀ db) (hlose : ¬ MayLose settings request db₀)
    (now : Time) :
    ∃ error, afterInsert db (insert settings request now db) = (.raised error, db) := by
  have hproject : requireProject db request.projectId = .ok () := by
    rw [← ha.project]
    unfold requireProject
    rw [hcreated.projects]
  rw [insert_eq, hproject]
  cases hglobal : checkGlobalLimit settings db with
  | error error => exact ⟨error, afterInsert_raised (checkGlobalLimit_checksOnly settings db error hglobal)⟩
  | ok _ =>
  cases hlimit : checkProjectLimit settings db request.projectId with
  | error error => exact ⟨error, afterInsert_raised (checkProjectLimit_checksOnly settings db _ error hlimit)⟩
  | ok _ =>
  cases hchapter : requireFreeChapter db request.chapterId with
  | error error => exact ⟨error, afterInsert_raised (requireFreeChapter_checksOnly db _ error hchapter)⟩
  | ok _ =>
  -- every check passed: then the call may lose
  refine absurd ⟨?_, ?_, ?_⟩ hlose
  · cases hof : request.chapterId with
    | none => rfl
    | some chapterId =>
        rw [hof, requireFreeChapter, Option.bind_some,
          activeForChapter_created hcreated hof] at hchapter
        exact absurd hchapter (by simp)
  · rw [checkGlobalLimit, activeCount_created hcreated none (.inl rfl)] at hglobal
    split at hglobal
    · exact absurd hglobal (by simp)
    · omega
  · intro hsome
    rw [checkProjectLimit, activeCount_created hcreated _ (.inr rfl), hsome] at hlimit
    split at hlimit
    · exact absurd hlimit (by simp)
    · rename_i hroom
      simpa using hroom

/-- Of two calls that may not lose, one can fail. -/
theorem exists_not_idempotent (ha : Admits settings request db₀) (hgrounded : Grounded db₀)
    (hlose : ¬ MayLose settings request db₀) (hn : 2 ≤ n) (hinsert : ∃ r,
      insert settings request now db₀ = .ok r) :
    ∃ race, (machine settings request db₀ n).Reachable race ∧
      ¬ race.Idempotent settings request := by
  obtain ⟨k, rfl⟩ := Nat.exists_eq_add_of_le hn
  obtain ⟨⟨jobId, db⟩, hr⟩ := hinsert
  have hwritten : writeJob settings request now db₀ = .ok (jobId, db) := by
    rw [insert_eq, ha.project, ha.globalLimit, ha.projectLimit, ha.chapter] at hr
    exact hr
  obtain ⟨-, hcreated⟩ := created_of_writeJob hgrounded.outbox hwritten
  have hlookup : advance settings request now db₀ .lookup = some (.project, db₀) := by
    simp only [advance, ha.getByIdempotencyKey]
  -- both calls look the key up, then one runs to its end and the other into a check
  have hstart : (machine settings request db₀ (2 + k)).Reachable
      ⟨db₀, [] ++ .lookup :: .lookup :: List.replicate k .lookup⟩ :=
    .start (by rw [Nat.add_comm]; rfl)
  have hfirst := reachable_step [] hstart hlookup
  have hboth := reachable_step [.project] hfirst hlookup
  have hwon : (machine settings request db₀ (2 + k)).Reachable
      ⟨db, [.returned ⟨jobId, false⟩] ++ .project :: List.replicate k .lookup⟩ := by
    have hinserted := reachable_insert [] hboth now
    rw [hr] at hinserted
    exact hinserted
  obtain ⟨error, herror⟩ := insert_created_error ha hcreated hlose now
  have hlost := reachable_insert [.returned ⟨jobId, false⟩] hwon now
  rw [herror] at hlost
  refine ⟨_, hlost, fun hidempotent => ?_⟩
  obtain ⟨result, hresult, -⟩ := hidempotent (.raised error) (by simp) trivial
  exact absurd hresult (by simp)

/-- **Creation is idempotent exactly when a call may lose.** A job system has reached a state
in which a call of `create` would be admitted. However many calls with the same arguments
then interleave, every call that ends returns the id of one job, created once, if and only
if there is a single call, or the job has no chapter and the limits leave room for one more
active job than the one that is created. -/
theorem create_idempotent_iff {s : JobSystem} (hs : (JobSystem.machine settings).Reachable s)
    (hinsert : ∃ r, insert settings request now s.db = .ok r) (hn : 0 < n) :
    (∀ race, (machine settings request s.db n).Reachable race →
        race.Idempotent settings request) ↔
      n = 1 ∨ request.chapterId = none ∧ RoomForTwo settings s.db request.projectId := by
  have hgrounded := grounded_of_reachable hs
  have ha : Admits settings request s.db := by
    obtain ⟨r, hr⟩ := hinsert
    exact admits_of_insert hr
  constructor
  · intro h
    by_contra hnot
    obtain ⟨hone, hlose⟩ := not_or.mp hnot
    obtain ⟨race, hrace, hfails⟩ :=
      exists_not_idempotent (n := n) ha hgrounded hlose (by omega) hinsert
    exact hfails (h race hrace)
  · intro hlose race hrace
    exact idempotent_of_reachable ha hgrounded hlose hrace

/-! ### Two calls for one chapter -/

/-- A job on the only chapter. -/
def chapterRequest : JobRequest :=
  { JobSystem.sampleRequest with jobType := .runChapterWorkflow, chapterId := some 0 }

/-- A job system with one chapter and nothing else. -/
def oneChapter : JobSystem :=
  ⟨{ Database.empty with chapters := [⟨0, 1, .planned, none⟩] }, [], []⟩

/-- Both calls find the key unused; the first creates the job before the second checks the
chapter. -/
def lateChapterCheck : List (ℕ × Time) :=
  [(0, 0), (1, 0), (0, 0), (0, 0), (0, 0), (0, 0), (0, 0), (1, 0), (1, 0), (1, 0), (1, 0)]

/-- The second call of two that interleave raises, though the job exists. -/
theorem create_idempotent_fails :
    ¬ ∀ (settings : Settings) (request : JobRequest) (s : JobSystem),
      (JobSystem.machine settings).Reachable s →
      (∃ r, insert settings request 0 s.db = .ok r) →
      ∀ n, 0 < n → ∀ race, (machine settings request s.db n).Reachable race →
        race.Idempotent settings request := by
  intro h
  obtain ⟨race, hrace, hjob, hraised⟩ :=
    (machine Settings.defaults chapterRequest oneChapter.db 2).exists_reachable lateChapterCheck
      (fun race => race.db.jobs.length = 1 ∧ race.calls[1]? =
        some (.raised (.invalidStateError "Chapter already has active job 0")))
      rfl (by decide +kernel)
  obtain ⟨result, hresult, -⟩ :=
    h Settings.defaults chapterRequest oneChapter (.start ⟨rfl, rfl, rfl, rfl, rfl⟩)
      ⟨_, rfl⟩ 2 (by decide) race hrace _ (List.mem_of_getElem? hraised) trivial
  exact absurd hresult (by simp)

/-- Two calls for a job without a chapter, the second overtaken after its lookup: both
return the job created once. -/
theorem create_idempotent_iff_twoCalls :
    ∃ race, (machine Settings.defaults JobSystem.sampleRequest JobSystem.empty.db 2).Reachable
        race ∧
      (race.calls = [.returned ⟨0, false⟩, .returned ⟨0, true⟩] ∧
        race.Idempotent Settings.defaults JobSystem.sampleRequest) := by
  have hinsert : ∃ r,
      insert Settings.defaults JobSystem.sampleRequest 0 JobSystem.empty.db = .ok r := ⟨_, rfl⟩
  obtain ⟨race, hrace, hcalls⟩ :=
    (machine Settings.defaults JobSystem.sampleRequest JobSystem.empty.db 2).exists_reachable
      (lateChapterCheck ++ [(1, 0), (1, 0)])
      (fun race => race.calls = [.returned ⟨0, false⟩, .returned ⟨0, true⟩])
      rfl (by decide +kernel)
  exact ⟨race, hrace, hcalls,
    (create_idempotent_iff (.start (JobSystem.machine_init_empty _)) hinsert (by decide)).mpr
      (.inr ⟨rfl, by decide, by decide⟩) race hrace⟩

end CreateRace

end StoryForge
