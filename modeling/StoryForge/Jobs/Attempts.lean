import StoryForge.Jobs.Coverage
import StoryForge.Jobs.Fencing

/-!
# Attempt accounting

A claim counts one attempt. Whether there is another one is asked in the two places that
schedule a retry, and nowhere else: a resume does not ask, and a retry of dead letters raises
the maximum. So a job may be claimed once more for every resume, and not more often.

The resumes of each job are kept as a history of the run.

## Main results

* `Move.room` — each move leaves room for the attempts of a waiting job;
* `JobSystem.numbered_next` — the claims of a job are numbered one after the other;
* `JobSystem.attempts_accounted` — both, in every run.
-/

namespace StoryForge

open Lifecycle

/-! ### Room for attempts -/

/-- A job has used its maximum of attempts at most, with `resumes` extra ones, and has one left
while it can be claimed. -/
structure Lifecycle.Room (resumes : ℕ) (c : Lifecycle) : Prop where
  bounded : c.attempt ≤ c.maxAttempts + resumes
  left : c.status ∈ [.outboxPending, .queued, .retryScheduled] →
    c.attempt < c.maxAttempts + resumes

theorem JobRegistry.maxAttempts_pos (jobType : JobType) :
    0 < (JobRegistry.get jobType).maxAttempts := by
  cases jobType <;> decide

/-- Room in a status that cannot be claimed. -/
theorem Lifecycle.Room.of_settled {resumes : ℕ} {c c' : Lifecycle} (h : c.Room resumes)
    (hattempt : c'.attempt = c.attempt) (hmax : c'.maxAttempts = c.maxAttempts)
    (hstatus : c'.status ∉ [.outboxPending, .queued, .retryScheduled]) : c'.Room resumes := by
  refine ⟨?_, fun hwaiting => absurd hwaiting hstatus⟩
  rw [hattempt, hmax]
  exact h.bounded

/-- Room that is there, whatever the status becomes. -/
theorem Lifecycle.Room.of_lt {resumes : ℕ} {c c' : Lifecycle}
    (hattempt : c'.attempt = c.attempt) (hmax : c'.maxAttempts = c.maxAttempts)
    (hlt : c.attempt < c.maxAttempts + resumes) : c'.Room resumes := by
  refine ⟨?_, fun _ => ?_⟩
  · rw [hattempt, hmax]
    exact hlt.le
  · rw [hattempt, hmax]
    exact hlt

/-- **A move leaves room**, if it is neither a resume nor a retry of dead letters. -/
theorem Move.room {m : Move} {c : Lifecycle} {resumes : ℕ} (hguard : m.guard c)
    (hresume : m ≠ .resume) (hretry : ∀ attempts, m ≠ .retryDeadLetter attempts)
    (h : c.Room resumes) : (m.apply c).Room resumes := by
  cases m with
  | resume => exact absurd rfl hresume
  | retryDeadLetter attempts => exact absurd rfl (hretry attempts)
  | claim worker now lease =>
      have hleft := h.left hguard
      refine ⟨?_, fun hwaiting => absurd hwaiting (by simp [apply])⟩
      show c.attempt + 1 ≤ c.maxAttempts + resumes
      omega
  | heartbeat worker lease => exact ⟨h.bounded, h.left⟩
  | retry worker =>
      have hleft : c.attempt < c.maxAttempts := hguard.2.2
      refine .of_lt (c := c) (by simp [apply]) (by simp [apply, release]) ?_
      omega
  | recover =>
      have hleft : c.attempt < c.maxAttempts := hguard.2
      refine .of_lt (c := c) (by simp [apply]) (by simp [apply, release]) ?_
      omega
  | publish =>
      have hwaiting : c.status ∈ [.outboxPending, .retryScheduled] := hguard
      refine .of_lt (by simp [apply]) (by simp [apply]) (h.left ?_)
      simp only [List.mem_cons, List.not_mem_nil, or_false] at hwaiting ⊢
      rcases hwaiting with hst | hst <;> simp [hst]
  | strand =>
      have hqueued : c.status = .queued := hguard
      exact .of_lt (by simp [apply]) (by simp [apply]) (h.left (by simp [hqueued]))
  | _ => exact h.of_settled (by simp [apply]) (by simp [apply, release]) (by simp [apply])

/-- A resume leaves room for one more attempt. -/
theorem Move.room_resume {c : Lifecycle} {resumes : ℕ} (h : c.Room resumes) :
    (Move.resume.apply c).Room (resumes + 1) := by
  have hbounded := h.bounded
  refine .of_lt (c := c) (by simp [apply]) (by simp [apply]) ?_
  omega

/-- A retry of dead letters leaves room for the attempts it grants. -/
theorem Move.room_retryDeadLetter {c : Lifecycle} {resumes attempts : ℕ} (hpos : 0 < attempts) :
    ((Move.retryDeadLetter attempts).apply c).Room resumes := by
  constructor
  · show (c.enter .outboxPending).attempt ≤ c.attempt + attempts + resumes
    rw [enter_attempt]
    omega
  · intro _
    show (c.enter .outboxPending).attempt < c.attempt + attempts + resumes
    rw [enter_attempt]
    omega

/-- A new job has at least one attempt. -/
theorem JobService.room_newJob (settings : Settings) (request : JobService.JobRequest) (now : Time)
    (resumes : ℕ) : (JobService.newJob settings request now).lifecycle.Room resumes := by
  have hregistry := JobRegistry.maxAttempts_pos request.jobType
  have hsettings := settings.jobMaxAttempts_range.1
  have hmax : 0 < min (JobRegistry.get request.jobType).maxAttempts settings.jobMaxAttempts :=
    lt_min hregistry hsettings
  constructor
  · exact Nat.zero_le _
  · intro _
    show 0 < min (JobRegistry.get request.jobType).maxAttempts settings.jobMaxAttempts + resumes
    omega

namespace JobSystem

/-! ### Resumes as history -/

/-- The jobs resumed so far: a resume that raised did nothing. -/
def countResumes (resumed : List ℕ) (s : JobSystem) (a : Action) (_ : JobSystem) : List ℕ :=
  match a with
  | .resume jobId now =>
      match JobService.resume jobId now s.db with
      | .ok _ => jobId :: resumed
      | .error _ => resumed
  | _ => resumed

/-- The job system with its resumes as history. -/
def countedMachine (settings : Settings) : Machine (JobSystem × List ℕ) Action :=
  (machine settings).withHistory (fun _ => []) countResumes

theorem countedMachine_init_empty (settings : Settings) :
    (countedMachine settings).init (empty, []) :=
  ⟨machine_init_empty settings, rfl⟩

variable {settings : Settings} {s s' : JobSystem} {a : Action} {resumed : List ℕ} {j : ℕ}
  {job job' : Job}

/-- There is room for the attempts of every job. -/
def Roomy (s : JobSystem) (resumed : List ℕ) : Prop :=
  ∀ (j : ℕ) (job : Job), s.db.jobs[j]? = some job → job.lifecycle.Room (resumed.count j)

/-- A transaction on one job that leaves room for it. -/
theorem roomy_of_writes {db' : Database} {rows : List OutboxMessage} (s' : JobSystem)
    (resumed' : List ℕ) (hroomy : s.Roomy resumed)
    (hwrites : Writes s.db db' j job job' rows) (hdb : s'.db = db')
    (hcount : ∀ i, i ≠ j → resumed'.count i = resumed.count i)
    (hroom : job.lifecycle.Room (resumed.count j) → job'.lifecycle.Room (resumed'.count j)) :
    s'.Roomy resumed' := by
  intro i row hrow
  rw [hdb] at hrow
  rcases hwrites.cases hrow with ⟨rfl, rfl⟩ | ⟨hne, hold⟩
  · exact hroom (hroomy i job hwrites.found)
  · rw [hcount i hne]
    exact hroomy i row hold

/-- Only a resume makes the resuming move. -/
theorem action_of_resume (h : allowedMoves settings s a j .resume) : ∃ now, a = .resume j now := by
  cases a with
  | finish k outcome now' =>
      obtain ⟨e, -, -, -, hm⟩ := h
      cases outcome <;> simp [Outcome.moves] at hm
  | _ => simp_all [allowedMoves]

/-- Only a retry of dead letters makes its move. -/
theorem action_of_retryDeadLetter {attempts : ℕ}
    (h : allowedMoves settings s a j (.retryDeadLetter attempts)) :
    ∃ now, a = .retryDeadLetter j now := by
  cases a with
  | finish k outcome now' =>
      obtain ⟨e, -, -, -, hm⟩ := h
      cases outcome <;> simp [Outcome.moves] at hm
  | _ => simp_all [allowedMoves]

/-- The other steps. -/
theorem roomy_of_other (hs : s.db.Sound) (hroomy : s.Roomy resumed)
    (hresume : ∀ jobId now, a ≠ .resume jobId now)
    (hretry : ∀ jobId now, a ≠ .retryDeadLetter jobId now)
    (hnext : next settings s a = some s') : s'.Roomy resumed := by
  intro j job' hjob'
  rcases (next_change hs hnext).2 with hmoves | ⟨request, now, new, -, hjobs, hnew⟩
  · obtain ⟨job, hjob, hmoved⟩ := hmoves.moves j job' hjob'
    have hroom := hroomy j job hjob
    rcases hmoved with hsame | ⟨m, hallowed, hguard, happly⟩
    · rw [hsame]
      exact hroom
    · rw [happly]
      refine Move.room hguard ?_ ?_ hroom
      · rintro rfl
        obtain ⟨now, rfl⟩ := action_of_resume hallowed
        exact hresume j now rfl
      · rintro attempts rfl
        obtain ⟨now, rfl⟩ := action_of_retryDeadLetter hallowed
        exact hretry j now rfl
  · rw [hjobs, List.getElem?_append] at hjob'
    split at hjob'
    · exact hroomy j job' hjob'
    · obtain rfl := List.mem_singleton.mp (List.mem_of_getElem? hjob')
      rw [hnew]
      exact JobService.room_newJob settings request now _

/-- **One step leaves room.** -/
theorem roomy_next (hs : s.db.Sound) (hroomy : s.Roomy resumed)
    (hnext : next settings s a = some s') : s'.Roomy (countResumes resumed s a s') := by
  cases a with
  | resume jobId now =>
      obtain rfl := Option.some.inj hnext
      simp only [countResumes]
      cases hresume : JobService.resume jobId now s.db with
      | error error => exact hroomy
      | ok db' =>
          obtain ⟨job, job', rows, hwrites, -, -, happly⟩ := JobService.resume_writes hresume
          refine roomy_of_writes _ (jobId :: resumed) hroomy hwrites rfl
            (fun i hne => List.count_cons_of_ne hne.symm) fun hroom => ?_
          rw [happly, List.count_cons_self]
          exact Move.room_resume hroom
  | retryDeadLetter jobId now =>
      obtain rfl := Option.some.inj hnext
      refine commitOr_db (P := fun db => JobSystem.Roomy ⟨db, [], []⟩ resumed) hroomy
        fun db' hdb' => ?_
      obtain ⟨job, job', rows, hwrites, -, -, happly⟩ := JobService.retryDeadLetter_writes hdb'
      refine roomy_of_writes ⟨db', [], []⟩ resumed hroomy hwrites rfl (fun _ _ => rfl) fun _ => ?_
      rw [happly]
      exact Move.room_retryDeadLetter (JobRegistry.maxAttempts_pos _)
  | _ => exact roomy_of_other hs hroomy (by simp) (by simp) hnext

/-! ### The numbers of the claims -/

/-- The attempts the claims of a job were given, one after the other. -/
def claimAttempts (s : JobSystem) (j : ℕ) : List ℕ :=
  (s.executions.filter (·.jobId == j)).map (·.attempt)

/-- The claims of each job have the numbers from one to its attempt. -/
structure Numbered (s : JobSystem) : Prop where
  claims : ∀ (j : ℕ) (job : Job), s.db.jobs[j]? = some job →
    s.claimAttempts j = List.range' 1 job.attempt
  known : ∀ e ∈ s.executions, e.jobId < s.db.jobs.length

theorem claimAttempts_modify {phase : Phase} {i : ℕ}
    (hexecutions : s'.executions = s.executions.modify i fun e => { e with phase }) :
    s'.claimAttempts j = s.claimAttempts j := by
  have hfilter : ∀ (executions : List Execution) (i : ℕ),
      ((executions.modify i fun e => { e with phase }).filter (·.jobId == j)).map (·.attempt) =
        (executions.filter (·.jobId == j)).map (·.attempt) := by
    intro executions
    induction executions with
    | nil => intro i; cases i <;> rfl
    | cons e executions ih =>
        intro i
        cases i with
        | zero => by_cases hj : e.jobId = j <;> simp [hj]
        | succ i => by_cases hj : e.jobId = j <;> simp [hj, ih]
  rw [claimAttempts, claimAttempts, hexecutions, hfilter]

/-- Only a claim changes an attempt. -/
theorem attempt_kept (hs : s.db.Sound) (hnext : next settings s a = some s')
    (hlength : s'.executions.length = s.executions.length) (hjob' : s'.db.jobs[j]? = some job') :
    (∃ job, s.db.jobs[j]? = some job ∧ job'.attempt = job.attempt) ∨
      s.db.jobs.length ≤ j ∧ job'.attempt = 0 := by
  rcases (next_change hs hnext).2 with hmoves | ⟨request, now, new, -, hjobs, hnew⟩
  · obtain ⟨job, hjob, hmoved⟩ := hmoves.moves j job' hjob'
    refine .inl ⟨job, hjob, ?_⟩
    rcases hmoved with hsame | ⟨m, hallowed, -, happly⟩
    · exact congrArg Lifecycle.attempt hsame
    · have hattempt : job'.attempt = (m.apply job.lifecycle).attempt :=
        congrArg Lifecycle.attempt happly
      cases m with
      | claim worker now lease =>
          obtain rfl := action_of_claim hallowed
          simp only [next] at hnext
          split at hnext
          · obtain rfl := Option.some.inj hnext
            simp [startExecution] at hlength
          · obtain rfl := Option.some.inj hnext
            rw [Option.some.inj (hjob'.symm.trans hjob)]
      | _ => simpa [Move.apply] using hattempt
  · rw [hjobs, List.getElem?_append] at hjob'
    split at hjob'
    · exact .inl ⟨job', hjob', rfl⟩
    · rename_i hge
      obtain rfl := List.mem_singleton.mp (List.mem_of_getElem? hjob')
      exact .inr ⟨by omega, congrArg Lifecycle.attempt hnew⟩

/-- A job without claims. -/
theorem Numbered.claimAttempts_eq_nil (hnumbered : s.Numbered) (hj : s.db.jobs.length ≤ j) :
    s.claimAttempts j = [] := by
  rw [claimAttempts, List.map_eq_nil_iff, List.filter_eq_nil_iff]
  intro e he
  have hknown := hnumbered.known e he
  simp only [beq_iff_eq]
  omega

/-- A step that starts no execution. -/
theorem numbered_of_kept (hs : s.db.Sound) (hnumbered : s.Numbered)
    (hnext : next settings s a = some s')
    (hlength : s'.executions.length = s.executions.length)
    (hclaims : ∀ j, s'.claimAttempts j = s.claimAttempts j)
    (hjobs : ∀ e ∈ s'.executions, ∃ e' ∈ s.executions, e.jobId = e'.jobId) : s'.Numbered := by
  have hgrows : s.db.jobs.length ≤ s'.db.jobs.length := by
    rcases (next_change hs hnext).2 with hmoves | ⟨_, _, new, -, hset, -⟩
    · exact hmoves.length.ge
    · rw [hset, List.length_append]
      omega
  refine ⟨fun j job' hjob' => ?_, fun e he => ?_⟩
  · rw [hclaims]
    rcases attempt_kept hs hnext hlength hjob' with ⟨job, hjob, hsame⟩ | ⟨hge, hzero⟩
    · rw [hsame]
      exact hnumbered.claims j job hjob
    · rw [hzero, hnumbered.claimAttempts_eq_nil hge]
      rfl
  · obtain ⟨e', he', hsame⟩ := hjobs e he
    have hknown := hnumbered.known e' he'
    omega

/-- **One step numbers the claims.** -/
theorem numbered_next (hs : s.db.Sound) (hnumbered : s.Numbered)
    (hnext : next settings s a = some s') : s'.Numbered := by
  rcases next_executions hnext with heq | ⟨i, phase, -, -, heq⟩ |
    ⟨jobId, workerId, now, db', rfl, hclaim, rfl⟩
  · refine numbered_of_kept hs hnumbered hnext (by rw [heq]) (fun j => ?_) fun e he => ?_
    · rw [claimAttempts, claimAttempts, heq]
    · exact ⟨e, heq ▸ he, rfl⟩
  · refine numbered_of_kept hs hnumbered hnext (by rw [heq, List.length_modify])
      (fun j => claimAttempts_modify heq) fun e he => ?_
    obtain ⟨k, hk⟩ := List.mem_iff_getElem?.mp (heq ▸ he)
    rw [List.getElem?_modify] at hk
    obtain ⟨e', he', rfl⟩ := Option.map_eq_some_iff.mp hk
    exact ⟨e', List.mem_of_getElem? he', by by_cases hik : i = k <;> simp [hik]⟩
  · obtain ⟨job, job', hwrites, -, happly⟩ := JobExecutor.claim_writes hclaim
    have hattempt : job'.attempt = job.attempt + 1 := congrArg Lifecycle.attempt happly
    have hclaims : ∀ j, (s.startExecution db' jobId workerId).claimAttempts j =
        s.claimAttempts j ++ if jobId = j then [job'.attempt] else [] := by
      intro j
      rw [claimAttempts, claimAttempts, startExecution, List.filter_append, List.map_append,
        hwrites.self]
      by_cases hj : jobId = j <;> simp [hj]
    refine ⟨fun j row hrow => ?_, fun e he => ?_⟩
    · rw [hclaims]
      rcases hwrites.cases hrow with ⟨rfl, rfl⟩ | ⟨hne, hold⟩
      · rw [if_pos rfl, hnumbered.claims j job hwrites.found, hattempt, List.range'_concat]
        simp [Nat.add_comm]
      · rw [if_neg hne.symm, List.append_nil]
        exact hnumbered.claims j row hold
    · have hlength : db'.jobs.length = s.db.jobs.length := hwrites.length_jobs
      show e.jobId < db'.jobs.length
      rcases List.mem_append.mp he with hold | hnew
      · have hknown := hnumbered.known e hold
        omega
      · obtain rfl := List.mem_singleton.mp hnew
        have hlt := hwrites.lt_length
        show jobId < db'.jobs.length
        omega

/-- **Attempt accounting.** In every run the claims of a job are numbered one after the other;
a job has used at most its maximum of attempts and one for each resume, and less while it can
be claimed. -/
theorem attempts_accounted {p : JobSystem × List ℕ} (hp : (countedMachine settings).Reachable p)
    (hjob : p.1.db.jobs[j]? = some job) :
    p.1.claimAttempts j = List.range' 1 job.attempt ∧
      job.attempt ≤ job.maxAttempts + p.2.count j ∧
      (job.status ∈ [.outboxPending, .queued, .retryScheduled] →
        job.attempt < job.maxAttempts + p.2.count j) := by
  have hinvariant : p.1.Numbered ∧ p.1.Roomy p.2 := by
    refine hp.invariant (I := fun p => p.1.Numbered ∧ p.1.Roomy p.2) (fun p hinit => ?_)
      fun p a p' hp hI _ hnext => ?_
    · obtain ⟨⟨hjobs, -, -, hexecutions, -⟩, -⟩ := hinit
      exact ⟨⟨by simp [hjobs], by simp [hexecutions]⟩, fun j job hjob => by simp [hjobs] at hjob⟩
    · obtain ⟨hstep, hresumed⟩ := Machine.withHistory_next.mp hnext
      have hreachable : (machine settings).Reachable p.1 := Machine.withHistory_fst hp
      have hsound := sound_of_reachable hreachable
      rw [hresumed]
      exact ⟨numbered_next hsound hI.1 hstep, roomy_next hsound hI.2 hstep⟩
  obtain ⟨hnumbered, hroomy⟩ := hinvariant
  have hroom := hroomy j job hjob
  exact ⟨hnumbered.claims j job hjob, hroom.bounded, hroom.left⟩

/-! ### A job that is resumed -/

/-- A job is claimed, paused while it runs, resumed and claimed again. -/
def resumedWhileRunning : List Action :=
  [.create sampleRequest 0, .claim 0 "w" 1, .requestPause 0 2, .finish 0 .paused 3,
    .resume 0 4, .claim 0 "w" 5]

/-- The two claims have the numbers one and two. -/
theorem attempts_accounted_resumed :
    ∃ (p : JobSystem × List ℕ) (job : Job), (countedMachine Settings.defaults).Reachable p ∧
      p.1.db.jobs[0]? = some job ∧ p.2 = [0] ∧ job.attempt = 2 ∧
      p.1.claimAttempts 0 = List.range' 1 2 ∧ job.attempt ≤ job.maxAttempts + 1 := by
  obtain ⟨p, hp, hresumed, hattempt⟩ := (countedMachine Settings.defaults).exists_reachable
    resumedWhileRunning (fun p => p.2 = [0] ∧ p.1.db.jobs.map (·.attempt) = [2])
    (countedMachine_init_empty _) (by decide)
  obtain ⟨job, hjob, htwo⟩ : ∃ job, p.1.db.jobs[0]? = some job ∧ job.attempt = 2 := by
    have hfirst := congrArg (·[0]?) hattempt
    rw [List.getElem?_map] at hfirst
    exact Option.map_eq_some_iff.mp hfirst
  obtain ⟨hclaims, hbounded, -⟩ := attempts_accounted hp hjob
  rw [htwo] at hclaims
  rw [hresumed] at hbounded
  exact ⟨p, job, hp, hjob, hresumed, htwo, hclaims, hbounded⟩

end JobSystem

end StoryForge
