import StoryForge.Jobs.Invariants

/-!
# Steps of the job system

How one action changes the jobs, the executions and the soundness of the database. The
invariants of the job system follow from these by cases on moves.

## Main results

* `JobSystem.next_change` — the moves of a step, and that it keeps the database sound;
* `JobSystem.next_executions` — executions keep their identity, and only their own actions
  change their phase;
* `JobSystem.sound_of_reachable` — every reachable database is sound.
-/

namespace StoryForge

open Lifecycle

/-- Whether an action is the outcome or the crash of execution `i`. -/
def Action.Ends (a : Action) (i : ℕ) : Prop :=
  match a with
  | .finish k _ _ | .failAfter k _ | .crash k => k = i
  | _ => False

namespace JobSystem

variable {settings : Settings} {s s' : JobSystem} {a : Action}

/-! ### The moves of a step -/

/-- The moves an action may make on job `j`. -/
def allowedMoves (settings : Settings) (s : JobSystem) (a : Action) (j : ℕ) (m : Move) : Prop :=
  match a with
  | .requestCancel jobId _ => j = jobId ∧ m ∈ [.cancelAtOnce, .requestCancel]
  | .requestPause jobId _ => j = jobId ∧ m ∈ [.pauseAtOnce, .requestPause]
  | .resume jobId _ => j = jobId ∧ m = .resume
  | .retryDeadLetter jobId _ => j = jobId ∧ ∃ attempts, m = .retryDeadLetter attempts
  | .published _ _ => m = .publish
  | .publishFailed _ _ _ => m = .undeliverable
  | .recoverStranded _ => m = .strand
  | .claim jobId workerId now => j = jobId ∧ m = .claim workerId now (now + settings.jobLease)
  | .heartbeat i now => ∃ e, s.executions[i]? = some e ∧ j = e.jobId ∧
      m = .heartbeat e.workerId (now + settings.jobLease)
  | .finish i outcome _ => ∃ e, s.executions[i]? = some e ∧ e.phase = .running ∧ j = e.jobId ∧
      m ∈ outcome.moves e.workerId
  | .failAfter i _ => ∃ e, s.executions[i]? = some e ∧ e.InProgress ∧ j = e.jobId ∧
      m = .fail e.workerId
  | .recoverExpired _ => m ∈ [.recover, .recoverExhausted]
  | _ => False

/-- The jobs after an action: each made a move the action allows, or an admission appended
a new one. -/
def JobsStep (settings : Settings) (s : JobSystem) (a : Action) (jobs' : List Job) : Prop :=
  JobsMove (allowedMoves settings s a) s.db.jobs jobs' ∨
    ∃ request now job, a = .create request now ∧ jobs' = s.db.jobs ++ [job] ∧
      job.lifecycle = (JobService.newJob settings request now).lifecycle

section Projections

variable (s : JobSystem)

@[simp] theorem setPhase_db (i : ℕ) (phase : Phase) : (s.setPhase i phase).db = s.db := rfl

@[simp] theorem dropRow_db (i : ℕ) : (s.dropRow i).db = s.db := rfl

@[simp] theorem dropRow_executions (i : ℕ) : (s.dropRow i).executions = s.executions := rfl

@[simp] theorem commitOr_executions (t : Except Error Database) :
    (s.commitOr t).executions = s.executions := by
  unfold commitOr; split <;> rfl

end Projections

/-- What holds of the old database and of every committed one holds after `commitOr`. -/
theorem commitOr_db {P : Database → Prop} {t : Except Error Database} (hs : P s.db)
    (ht : ∀ db', t = .ok db' → P db') : P (s.commitOr t).db := by
  unfold commitOr
  split
  · rename_i db'
    exact ht db' rfl
  · exact hs

theorem inProgress_eq_some {i : ℕ} {e : Execution} :
    s.inProgress i = some e ↔ s.executions[i]? = some e ∧ e.InProgress := by
  simp [inProgress, Option.filter_eq_some_iff]

/-- A sound database whose jobs made one step. -/
def SoundStep (settings : Settings) (s : JobSystem) (a : Action) (db : Database) : Prop :=
  db.Sound ∧ JobsStep settings s a db.jobs

namespace SoundStep

variable {p : Move → Prop} {db' : Database} {j : ℕ} {job job' : Job}

theorem refl (hs : s.db.Sound) : SoundStep settings s a s.db := ⟨hs, .inl (.refl _)⟩

/-- A transaction on one job that appends no outbox row. -/
theorem writes (hs : s.db.Sound) (hw : Writes s.db db' j job job' [])
    (hmoves : Moves p job.lifecycle job'.lifecycle)
    (hp : ∀ m, p m → allowedMoves settings s a j m) : SoundStep settings s a db' :=
  ⟨hs.writes_nil hw hmoves, .inl (.of_writes hw (hmoves.mono hp))⟩

/-- A transaction on one job that touches no lifecycle. -/
theorem same (hs : s.db.Sound) (hw : Writes s.db db' j job job' [])
    (hsame : job'.lifecycle = job.lifecycle) : SoundStep settings s a db' :=
  ⟨hs.writes_nil (p := fun _ => False) hw (.inl hsame), .inl (.of_writes hw (.inl hsame))⟩

/-- A transaction on one outbox row. -/
theorem delivers {r : ℕ} {row row' : OutboxMessage} (hs : s.db.Sound)
    (hd : Delivers s.db db' r row row')
    (hjobs : JobsMove (allowedMoves settings s a) s.db.jobs db'.jobs) :
    SoundStep settings s a db' :=
  ⟨hs.delivers hd hjobs, .inl hjobs⟩

end SoundStep

/-- **One step.** Every job makes one of the moves the action allows, or an admission
appends a new job; the database stays sound. -/
theorem next_change (hs : s.db.Sound) (h : next settings s a = some s') :
    SoundStep settings s a s'.db := by
  cases a with
  | create request now =>
      obtain rfl := Option.some.inj h
      refine commitOr_db (.refl hs) fun db' hdb' => ?_
      obtain ⟨r, hr, rfl⟩ := Except.map_eq_ok.mp hdb'
      obtain ⟨job, rows, hjobs, houtbox, hrows, -, hnew⟩ := JobService.insert_eq_ok hr
      exact ⟨hs.insert hjobs houtbox hrows hnew, .inr ⟨request, now, job, rfl, hjobs, hnew⟩⟩
  | requestCancel jobId now =>
      obtain rfl := Option.some.inj h
      refine commitOr_db (.refl hs) fun db' hdb' => ?_
      obtain ⟨job, job', hw, hmoves, -⟩ := JobService.requestCancel_writes hdb'
      exact .writes hs hw hmoves fun m hm => ⟨rfl, hm⟩
  | requestPause jobId now =>
      obtain rfl := Option.some.inj h
      refine commitOr_db (.refl hs) fun db' hdb' => ?_
      obtain ⟨job, job', hw, hmoves, -⟩ := JobService.requestPause_writes hdb'
      exact .writes hs hw hmoves fun m hm => ⟨rfl, hm⟩
  | resume jobId now =>
      obtain rfl := Option.some.inj h
      refine commitOr_db (.refl hs) fun db' hdb' => ?_
      obtain ⟨job, job', rows, hw, hrows, hguard, happly⟩ := JobService.resume_writes hdb'
      have hmoves : Moves (· = .resume) job.lifecycle job'.lifecycle :=
        .move .resume rfl hguard happly
      exact ⟨hs.writes_enqueue hw hmoves hrows (by simp),
        .inl (.of_writes hw (hmoves.mono fun m hm => ⟨rfl, hm⟩))⟩
  | retryDeadLetter jobId now =>
      obtain rfl := Option.some.inj h
      refine commitOr_db (.refl hs) fun db' hdb' => ?_
      obtain ⟨job, job', rows, hw, hrows, hguard, happly⟩ :=
        JobService.retryDeadLetter_writes hdb'
      have hmoves : Moves (∃ attempts, · = .retryDeadLetter attempts) job.lifecycle
          job'.lifecycle := .move _ ⟨_, rfl⟩ hguard happly
      exact ⟨hs.writes_enqueue hw hmoves hrows (by simp),
        .inl (.of_writes hw (hmoves.mono fun m hm => ⟨rfl, hm⟩))⟩
  | discardDeadLetter jobId =>
      obtain rfl := Option.some.inj h
      refine commitOr_db (.refl hs) fun db' hdb' => ?_
      obtain ⟨job, job', hw, hsame⟩ := JobService.discardDeadLetter_writes hdb'
      exact .same hs hw hsame
  | claimBatch dispatcherId now =>
      obtain rfl := Option.some.inj h
      obtain ⟨hjobs, hkeep⟩ := OutboxDispatcher.claim_intents settings dispatcherId now s.db
      have hmove : JobsMove (allowedMoves settings s (.claimBatch dispatcherId now)) s.db.jobs
          (OutboxDispatcher.claim settings dispatcherId now s.db).2.jobs := .of_eq hjobs
      refine ⟨hs.change hmove fun row' hrow' => .inl ?_, .inl hmove⟩
      obtain ⟨r, hr⟩ := List.mem_iff_getElem?.mp hrow'
      obtain ⟨row, hrow, hsame⟩ := hkeep.back hr
      exact ⟨row, List.mem_iff_getElem?.mpr ⟨r, hrow⟩, hsame⟩
  | published dispatch now =>
      obtain ⟨rowId, -, rfl⟩ := Option.map_eq_some_iff.mp h
      rcases OutboxDispatcher.recordPublished_cases rowId now s.db with
        heq | ⟨row, row', hd, -, ⟨hjobs, -⟩ | hmove⟩
      · dsimp only
        rw [heq]
        exact .refl hs
      · exact .delivers hs hd (.of_eq hjobs)
      · exact .delivers hs hd (.of_movesJob hmove rfl)
  | publishFailed dispatch error now =>
      obtain ⟨rowId, -, rfl⟩ := Option.map_eq_some_iff.mp h
      refine commitOr_db (.refl hs) fun db' hdb' => ?_
      rcases OutboxDispatcher.recordFailure_cases hdb' with
        rfl | ⟨row, row', hd, -, ⟨-, hjobs⟩ | ⟨hjobs, -⟩ | hmove⟩
      · exact .refl hs
      · exact .delivers hs hd (.of_eq hjobs)
      · exact .delivers hs hd (.of_eq hjobs)
      · exact .delivers hs hd (.of_movesJob hmove rfl)
  | recoverStranded now =>
      obtain rfl := Option.some.inj h
      exact commitOr_db (.refl hs) fun db' hdb' => (recoverStranded_change hs hdb').imp id .inl
  | claim jobId workerId now =>
      simp only [next] at h
      split at h
      · rename_i db' hdb'
        obtain rfl := Option.some.inj h
        obtain ⟨job, job', hw, hguard, happly⟩ := JobExecutor.claim_writes hdb'
        exact .writes hs hw (.move _ rfl hguard happly) fun m hm => ⟨rfl, hm.symm⟩
      · obtain rfl := Option.some.inj h
        exact .refl hs
  | heartbeat i now =>
      obtain ⟨e, he, rfl⟩ := Option.map_eq_some_iff.mp h
      have he' := (Option.filter_eq_some_iff.mp he).1
      rcases JobExecutor.heartbeat_cases settings e.jobId e.workerId now s.db with
        heq | ⟨job, job', hw, hguard, happly⟩
      · dsimp only
        rw [heq]
        exact .refl hs
      · exact .writes hs hw (.move _ rfl hguard happly) fun m hm => ⟨e, he', rfl, hm.symm⟩
  | recordEvent i event =>
      obtain ⟨e, -, rfl⟩ := Option.map_eq_some_iff.mp h
      refine commitOr_db (.refl hs) fun db' hdb' => ?_
      obtain ⟨job, job', hw, hsame⟩ := JobService.recordEvent_writes hdb'
      exact .same hs hw hsame
  | linkWorkflow i workflowRunId =>
      obtain ⟨e, -, rfl⟩ := Option.map_eq_some_iff.mp h
      refine commitOr_db (.refl hs) fun db' hdb' => ?_
      rcases linkWorkflow_cases hdb' with rfl | ⟨job, job', hw, hsame⟩
      · exact .refl hs
      · exact .same hs hw hsame
  | finish i outcome now =>
      obtain ⟨e, he, hs'⟩ := Option.map_eq_some_iff.mp h
      obtain ⟨he', hphase⟩ := Option.filter_eq_some_iff.mp he
      split at hs'
      · rename_i db' hdb'
        subst hs'
        obtain ⟨job, job', rows, hw, -, hmoves, -, hrows⟩ := writeOutcome_writes hdb'
        have hallowed := hmoves.mono (q := allowedMoves settings s (.finish i outcome now)
          e.jobId) fun m hm => ⟨e, he', by simpa using hphase, rfl, hm⟩
        rcases hrows with ⟨rfl, -⟩ | ⟨hretries, hreleased⟩
        · exact ⟨hs.writes_nil hw hmoves, .inl (.of_writes hw hallowed)⟩
        · exact ⟨hs.writes_retry hw hmoves hretries hreleased, .inl (.of_writes hw hallowed)⟩
      · subst hs'
        exact .refl hs
  | failAfter i now =>
      obtain ⟨e, he, hs'⟩ := Option.bind_eq_some_iff.mp h
      obtain ⟨he', hprogress⟩ := inProgress_eq_some.mp he
      split at hs'
      · obtain rfl := Option.some.inj hs'
        refine commitOr_db (s := s.setPhase i .finished) (.refl hs) fun db' hdb' => ?_
        obtain ⟨job, job', hw, -, hmoves, -⟩ := JobExecutor.fail_writes hdb'
        exact .writes hs hw hmoves fun m hm => ⟨e, he', hprogress, rfl, hm⟩
      · exact absurd hs' (by simp)
  | crash i =>
      obtain ⟨e, -, rfl⟩ := Option.map_eq_some_iff.mp h
      exact .refl hs
  | recoverExpired now =>
      obtain rfl := Option.some.inj h
      exact commitOr_db (.refl hs) fun db' hdb' => (recoverExpired_change hs hdb').imp id .inl
  | environment projects chapters workflowRuns =>
      obtain rfl := Option.some.inj h
      exact ⟨⟨hs.lifecycles, hs.addressed, hs.attempts⟩, .inl (.refl _)⟩

/-- Every reachable database is sound. -/
theorem sound_of_reachable {ok : JobSystem → Action → Prop}
    (hs : (machine settings).ReachableUnder ok s) : s.db.Sound := by
  refine hs.invariant (I := fun s => s.db.Sound) (fun s hinit => ?_)
    fun s a s' _ hsound _ hnext => (next_change hsound hnext).1
  obtain ⟨hjobs, -, houtbox, -, -⟩ := hinit
  exact ⟨by simp [hjobs], by simp [houtbox], by simp [houtbox]⟩

/-! ### Executions -/

/-- The executions after an action: unchanged, or one of those in progress entered another
phase by its own action, or a claim started a new one. -/
theorem next_executions (h : next settings s a = some s') :
    s'.executions = s.executions ∨
      (∃ i phase, a.Ends i ∧ (∃ e, s.executions[i]? = some e ∧ e.InProgress) ∧
        s'.executions = s.executions.modify i fun e => { e with phase }) ∨
      ∃ jobId workerId now db', a = .claim jobId workerId now ∧
        JobExecutor.claim settings jobId workerId now s.db = .ok (some db') ∧
        s' = s.startExecution db' jobId workerId := by
  cases a with
  | published dispatch now =>
      obtain ⟨rowId, -, rfl⟩ := Option.map_eq_some_iff.mp h
      exact .inl rfl
  | publishFailed dispatch error now =>
      obtain ⟨rowId, -, rfl⟩ := Option.map_eq_some_iff.mp h
      exact .inl (by simp)
  | claim jobId workerId now =>
      simp only [next] at h
      split at h
      · rename_i db' hdb'
        obtain rfl := Option.some.inj h
        exact .inr (.inr ⟨jobId, workerId, now, db', rfl, hdb', rfl⟩)
      · obtain rfl := Option.some.inj h
        exact .inl rfl
  | heartbeat i now =>
      obtain ⟨e, -, rfl⟩ := Option.map_eq_some_iff.mp h
      exact .inl rfl
  | recordEvent i event =>
      obtain ⟨e, -, rfl⟩ := Option.map_eq_some_iff.mp h
      exact .inl (by simp)
  | linkWorkflow i workflowRunId =>
      obtain ⟨e, -, rfl⟩ := Option.map_eq_some_iff.mp h
      exact .inl (by simp)
  | finish i outcome now =>
      obtain ⟨e, he, hs'⟩ := Option.map_eq_some_iff.mp h
      obtain ⟨he', hphase⟩ := Option.filter_eq_some_iff.mp he
      have hprogress : e.InProgress := by
        simp only [decide_eq_true_eq] at hphase
        simp [Execution.InProgress, hphase]
      refine .inr (.inl ?_)
      split at hs'
      · subst hs'
        exact ⟨i, .finished, rfl, ⟨e, he', hprogress⟩, rfl⟩
      · subst hs'
        exact ⟨i, _, rfl, ⟨e, he', hprogress⟩, rfl⟩
  | failAfter i now =>
      obtain ⟨e, he, hs'⟩ := Option.bind_eq_some_iff.mp h
      obtain ⟨he', hprogress⟩ := inProgress_eq_some.mp he
      split at hs'
      · obtain rfl := Option.some.inj hs'
        exact .inr (.inl ⟨i, .finished, rfl, ⟨e, he', hprogress⟩, by simp [setPhase]⟩)
      · exact absurd hs' (by simp)
  | crash i =>
      obtain ⟨e, he, rfl⟩ := Option.map_eq_some_iff.mp h
      exact .inr (.inl ⟨i, .crashed, rfl, ⟨e, inProgress_eq_some.mp he⟩, rfl⟩)
  | environment projects chapters workflowRuns =>
      obtain rfl := Option.some.inj h
      exact .inl rfl
  | _ =>
      obtain rfl := Option.some.inj h
      exact .inl (by simp)

/-- An execution goes on through every step that is not its own outcome or crash. -/
theorem execution_persists (h : next settings s a = some s') {i : ℕ} {e : Execution}
    (he : s.executions[i]? = some e) (hends : ¬ a.Ends i) : s'.executions[i]? = some e := by
  rcases next_executions h with heq | ⟨k, phase, hk, -, heq⟩ | ⟨_, _, _, _, _, _, rfl⟩
  · rw [heq]
    exact he
  · have hki : k ≠ i := by
      rintro rfl
      exact hends hk
    rw [heq, List.getElem?_modify_ne _ _ hki]
    exact he
  · exact List.getElem?_append_left (List.getElem?_eq_some_iff.mp he).1 ▸ he

/-- An execution in progress was in progress before, under the same identity, or was just
claimed. -/
theorem execution_origin (h : next settings s a = some s') {i : ℕ} {e' : Execution}
    (he' : s'.executions[i]? = some e') (hprogress : e'.InProgress) :
    (∃ e, s.executions[i]? = some e ∧ e.InProgress ∧ e'.jobId = e.jobId ∧
        e'.workerId = e.workerId ∧ e'.attempt = e.attempt) ∨
      ∃ jobId workerId now db', a = .claim jobId workerId now ∧
        JobExecutor.claim settings jobId workerId now s.db = .ok (some db') ∧
        s' = s.startExecution db' jobId workerId ∧ i = s.executions.length := by
  rcases next_executions h with heq | ⟨k, phase, -, ⟨e, he, hp⟩, heq⟩ |
    ⟨jobId, workerId, now, db', ha, hclaim, rfl⟩
  · exact .inl ⟨e', heq ▸ he', hprogress, rfl, rfl, rfl⟩
  · rw [heq] at he'
    by_cases hki : k = i
    · subst hki
      rw [List.getElem?_modify_eq, he] at he'
      obtain rfl := Option.some.inj he'
      exact .inl ⟨e, he, hp, rfl, rfl, rfl⟩
    · rw [List.getElem?_modify_ne _ _ hki] at he'
      exact .inl ⟨e', he', hprogress, rfl, rfl, rfl⟩
  · rcases Nat.lt_trichotomy i s.executions.length with hlt | heq | hgt
    · rw [startExecution, List.getElem?_append_left hlt] at he'
      exact .inl ⟨e', he', hprogress, rfl, rfl, rfl⟩
    · exact .inr ⟨jobId, workerId, now, db', ha, hclaim, rfl, heq⟩
    · have hlen := (List.getElem?_eq_some_iff.mp he').1
      simp only [startExecution, List.length_append, List.length_singleton] at hlen
      omega

end JobSystem

end StoryForge
