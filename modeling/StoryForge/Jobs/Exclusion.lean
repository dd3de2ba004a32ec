import StoryForge.Jobs.Outcomes

/-!
# One execution a job

As long as the sweep of expired leases takes a job away only from workers that have stopped,
a job has at most one execution in progress, and that execution holds it. Whatever else
happens (requests, duplicate deliveries, other executions) leaves the claim where it is.

## Main results

* `JobSystem.heldAlone_next` — at most one execution of a job is in progress, and the job's
  row is in its hands;
* `JobSystem.running_next` — without requests the job keeps running until that execution ends.
-/

namespace StoryForge

open Lifecycle

/-- The moves by which workers record outcomes. -/
def Move.isOutcome : Move → Bool
  | succeed _ | confirmCancel _ | confirmPause _ | pause _ | retry _ | exhaust _ | fail _ => true
  | _ => false

/-- A move on a job in a worker's hands: a request or a heartbeat, the outcome of a worker,
or recovery. -/
theorem Move.of_owned {m : Move} {c : Lifecycle} (hguard : m.guard c)
    (hst : c.status ∈ ownedStatuses) (hstarted : c.startedAt.isSome) :
    ((m.apply c).status ∈ ownedStatuses ∧ (m.apply c).workerId = c.workerId ∧
        (m.apply c).attempt = c.attempt ∧ (m.apply c).startedAt = c.startedAt) ∨
      m.isOutcome = true ∨ m ∈ [.recover, .recoverExhausted] := by
  simp only [ownedStatuses, List.mem_cons, List.not_mem_nil, or_false] at hst ⊢
  cases m <;> rcases hst with hst | hst | hst <;>
    simp_all [Move.guard, Move.apply, Move.isOutcome, JobStatus.allowed]

/-- The sweep leaves the jobs alone that it does not select. -/
theorem JobExecutor.recoverExpired_other {j : ℕ} {now : Time} {db db' : Database}
    (h : recoverExpired now db = .ok db')
    (hj : j ∉ JobRepository.expiredLeases now recoveryLimit db) :
    db'.jobs[j]? = db.jobs[j]? := by
  refine recoverExpired_induction (I := fun b => b.jobs[j]? = db.jobs[j]?) rfl ?_ h
  intro b b' i job job' rows hi hb _ hw _ _
  have hij : j ≠ i := by
    rintro rfl
    exact hj hi
  exact (hw.other hij).trans hb

namespace JobSystem

variable {settings : Settings} {s s' : JobSystem} {a : Action} {j : ℕ}

/-- The condition on a step: the sweep does not take job `j` from a worker that is
executing it. -/
def LeaseKept (j : ℕ) (s : JobSystem) (a : Action) : Prop :=
  match a with
  | .recoverExpired now =>
      j ∈ JobRepository.expiredLeases now JobExecutor.recoveryLimit s.db →
        ∀ e ∈ s.executions, e.jobId = j → ¬ e.InProgress
  | _ => True

instance (j : ℕ) (s : JobSystem) (a : Action) : Decidable (LeaseKept j s a) := by
  unfold LeaseKept; split <;> infer_instance

/-- An execution in progress of job `j`. -/
def Executing (s : JobSystem) (j i : ℕ) (e : Execution) : Prop :=
  s.executions[i]? = some e ∧ e.InProgress ∧ e.jobId = j

/-- At most one execution of job `j` is in progress, and it holds the job. -/
structure HeldAlone (s : JobSystem) (j : ℕ) : Prop where
  unique : ∀ i k e f, s.Executing j i e → s.Executing j k f → i = k
  held : ∀ i e, s.Executing j i e → ∃ job, s.db.jobs[j]? = some job ∧ e.Holds job ∧
    job.status ∈ ownedStatuses ∧ job.startedAt.isSome

/-- Jobs persist, and move. -/
theorem exists_row_next (hs : s.db.Sound) (hnext : next settings s a = some s') {job : Job}
    (hjob : s.db.jobs[j]? = some job) :
    ∃ job', s'.db.jobs[j]? = some job' ∧
      Moves (allowedMoves settings s a j) job.lifecycle job'.lifecycle := by
  have hlt := (List.getElem?_eq_some_iff.mp hjob).1
  rcases (next_change hs hnext).2 with hmove | ⟨_, _, new, -, hset, -⟩
  · have hjob' := List.getElem?_eq_getElem (l := s'.db.jobs) (hmove.length ▸ hlt)
    obtain ⟨old, hold, hmoves⟩ := hmove.moves _ _ hjob'
    obtain rfl := Option.some.inj (hold.symm.trans hjob)
    exact ⟨_, hjob', hmoves⟩
  · exact ⟨job, by rw [hset, List.getElem?_append_left hlt, hjob], .refl _⟩

/-- The moves of an outcome are made by the execution that ends. -/
theorem ends_of_isOutcome {m : Move} (hm : m.isOutcome = true)
    (hallowed : allowedMoves settings s a j m) : ∃ k e, a.Ends k ∧ s.Executing j k e := by
  cases a with
  | finish k outcome' now =>
      obtain ⟨e, he, hphase, hj, -⟩ := hallowed
      exact ⟨k, e, rfl, he, by simp [Execution.InProgress, hphase], hj.symm⟩
  | failAfter k now =>
      obtain ⟨e, he, hprogress, hj, -⟩ := hallowed
      exact ⟨k, e, rfl, he, hprogress, hj.symm⟩
  | _ => cases m <;> simp_all [allowedMoves, Move.isOutcome]

/-- Jobs are recovered by the sweep of expired leases. -/
theorem action_of_recover {m : Move} (hm : m ∈ [.recover, .recoverExhausted])
    (hallowed : allowedMoves settings s a j m) : ∃ now, a = .recoverExpired now := by
  simp only [List.mem_cons, List.not_mem_nil, or_false] at hm
  cases a with
  | recoverExpired now => exact ⟨now, rfl⟩
  | finish k outcome now =>
      obtain ⟨e, -, -, -, hm'⟩ := hallowed
      rcases hm with rfl | rfl <;> cases outcome <;> simp [Outcome.moves] at hm'
  | _ => rcases hm with rfl | rfl <;> simp [allowedMoves] at hallowed

/-- An execution that has written is over. -/
theorem not_inProgress_of_ends {k : ℕ} {e : Execution} (hnext : next settings s a = some s')
    (hends : a.Ends k) (he : s'.executions[k]? = some e) (hcommitted : s'.db ≠ s.db) :
    ¬ e.InProgress := by
  cases a with
  | finish i outcome now =>
      obtain rfl : i = k := hends
      exact not_inProgress_of_finish hnext he hcommitted
  | failAfter i now =>
      obtain rfl : i = k := hends
      obtain ⟨e₀, he₀, hs'⟩ := Option.bind_eq_some_iff.mp hnext
      split at hs'
      · obtain rfl := Option.some.inj hs'
        rw [commitOr_executions, setPhase, List.getElem?_modify_eq,
          (inProgress_eq_some.mp he₀).1] at he
        obtain rfl := Option.some.inj he
        exact id
      · exact absurd hs' (by simp)
  | crash i =>
      obtain ⟨e₀, -, rfl⟩ := Option.map_eq_some_iff.mp hnext
      exact absurd rfl hcommitted
  | _ => exact absurd hends id

/-- What a step does to a job in the hands of an execution: nothing, the end of that
execution, a request or a heartbeat. -/
theorem moves_of_executing {i : ℕ} {e : Execution} {job : Job} (hs : s.db.Sound)
    (h : s.HeldAlone j) (hsafe : LeaseKept j s a) (hnext : next settings s a = some s')
    (he : s.Executing j i e) (hjob : s.db.jobs[j]? = some job) :
    ∃ job', s'.db.jobs[j]? = some job' ∧
      (job'.lifecycle = job.lifecycle ∨ a.Ends i ∨
        ∃ m, allowedMoves settings s a j m ∧ m.guard job.lifecycle ∧
          job'.lifecycle = m.apply job.lifecycle ∧ m.isOutcome = false ∧
          m ∉ [.recover, .recoverExhausted]) := by
  obtain ⟨job', hjob', hmoves⟩ := exists_row_next hs hnext hjob
  refine ⟨job', hjob', ?_⟩
  rcases hmoves with hsame | ⟨m, hallowed, hguard, happly⟩
  · exact .inl hsame
  cases hm : m.isOutcome with
  | true =>
      obtain ⟨k, f, hends, hf⟩ := ends_of_isOutcome hm hallowed
      exact .inr (.inl (h.unique k i f e hf he ▸ hends))
  | false =>
      by_cases hrecover : m ∈ [.recover, .recoverExhausted]
      · obtain ⟨now, rfl⟩ := action_of_recover hrecover hallowed
        obtain rfl := Option.some.inj hnext
        by_cases hj : j ∈ JobRepository.expiredLeases now JobExecutor.recoveryLimit s.db
        · exact absurd he.2.1 (hsafe hj e (List.mem_of_getElem? he.1) he.2.2)
        · have hkept := commitOr_db (s := s) (P := fun db => db.jobs[j]? = s.db.jobs[j]?) rfl
            fun _ hdb' => JobExecutor.recoverExpired_other hdb' hj
          obtain rfl := Option.some.inj ((hkept.trans hjob).symm.trans hjob')
          exact .inl rfl
      · exact .inr (.inr ⟨m, hallowed, hguard, happly, hm, hrecover⟩)

/-- Under the condition, a row in the hands of an execution that goes on stays there. -/
theorem held_next {i : ℕ} {e e' : Execution} {job : Job} (hs : s.db.Sound) (h : s.HeldAlone j)
    (hsafe : LeaseKept j s a) (hnext : next settings s a = some s') (he : s.Executing j i e)
    (he' : s'.Executing j i e') (hjob : s.db.jobs[j]? = some job)
    (hst : job.status ∈ ownedStatuses) (hstarted : job.startedAt.isSome) :
    ∃ job', s'.db.jobs[j]? = some job' ∧ job'.status ∈ ownedStatuses ∧
      job'.workerId = job.workerId ∧ job'.attempt = job.attempt ∧ job'.startedAt.isSome := by
  by_cases hdb : s'.db = s.db
  · exact ⟨job, by rw [hdb, hjob], hst, rfl, rfl, hstarted⟩
  obtain ⟨job', hjob', hmoves⟩ := moves_of_executing hs h hsafe hnext he hjob
  refine ⟨job', hjob', ?_⟩
  rcases hmoves with hsame | hends | ⟨m, -, hguard, happly, houtcome, hrecover⟩
  · have hstatus : job'.status = job.status := congrArg Lifecycle.status hsame
    have hstart : job'.startedAt = job.startedAt := congrArg Lifecycle.startedAt hsame
    exact ⟨hstatus ▸ hst, congrArg Lifecycle.workerId hsame, congrArg Lifecycle.attempt hsame,
      hstart ▸ hstarted⟩
  · exact absurd he'.2.1 (not_inProgress_of_ends hnext hends he'.1 hdb)
  · rcases Move.of_owned hguard hst hstarted with ⟨hst', hworker, hattempt, hstart⟩ | hm | hm
    · rw [← happly] at hst' hworker hattempt hstart
      refine ⟨hst', hworker, hattempt, ?_⟩
      rw [← Job.lifecycle_startedAt, hstart]
      exact hstarted
    · exact absurd (houtcome.symm.trans hm) (by simp)
    · exact absurd hm hrecover

/-- Without a request, a job that is being executed keeps running. -/
theorem running_next {i : ℕ} {e : Execution} {job : Job} (hs : s.db.Sound) (h : s.HeldAlone j)
    (hsafe : LeaseKept j s a) (hnext : next settings s a = some s') (he : s.Executing j i e)
    (hjob : s.db.jobs[j]? = some job) (hst : job.status = .running) (hends : ¬ a.Ends i)
    (hrequest : ∀ now, a ≠ .requestPause j now ∧ a ≠ .requestCancel j now) :
    ∃ job', s'.db.jobs[j]? = some job' ∧ job'.status = .running := by
  obtain ⟨row, hrow, -, -, hstarted⟩ := h.held i e he
  obtain rfl := Option.some.inj (hrow.symm.trans hjob)
  obtain ⟨job', hjob', hmoves⟩ := moves_of_executing hs h hsafe hnext he hjob
  refine ⟨job', hjob', ?_⟩
  rw [← Job.lifecycle_status]
  rcases hmoves with hsame | hend | ⟨m, hallowed, hguard, happly, houtcome, hrecover⟩
  · rw [hsame]
    exact hst
  · exact absurd hend hends
  · cases m with
    | requestPause =>
        obtain ⟨now, rfl⟩ := action_of_requestPause hallowed
        exact absurd rfl (hrequest now).1
    | requestCancel =>
        obtain ⟨now, rfl⟩ := action_of_requestCancel hallowed
        exact absurd rfl (hrequest now).2
    | heartbeat worker lease =>
        rw [happly]
        exact hst
    | _ => simp_all [Move.guard, Move.isOutcome]

/-- Nothing happens to a job that has succeeded. -/
theorem succeeded_next {job : Job} (hs : s.db.Sound) (hnext : next settings s a = some s')
    (hjob : s.db.jobs[j]? = some job) (hst : job.status = .succeeded) :
    ∃ job', s'.db.jobs[j]? = some job' ∧ job'.status = .succeeded := by
  obtain ⟨job', hjob', hmoves⟩ := exists_row_next hs hnext hjob
  refine ⟨job', hjob', ?_⟩
  rcases hmoves with hsame | ⟨m, -, hguard, -⟩
  · exact (congrArg Lifecycle.status hsame : job'.status = job.status).trans hst
  · cases m <;> simp_all [Move.guard, MayReach, JobStatus.allowed]

/-- **One step keeps a job in one execution's hands.** -/
theorem heldAlone_next (hs : s.db.Sound) (h : s.HeldAlone j) (hsafe : LeaseKept j s a)
    (hnext : next settings s a = some s') : s'.HeldAlone j := by
  have hold : ∀ i e', s'.Executing j i e' → (∃ e, s.Executing j i e ∧ e'.workerId = e.workerId ∧
      e'.attempt = e.attempt) ∨ ∃ worker now db', a = .claim j worker now ∧
        JobExecutor.claim settings j worker now s.db = .ok (some db') ∧
        s' = s.startExecution db' j worker ∧ i = s.executions.length := by
    rintro i e' ⟨he', hprogress, hj⟩
    rcases execution_origin hnext he' hprogress with ⟨e, he, hp, hej, hew, hea⟩ |
      ⟨k, worker, now, db', ha, hclaim, rfl, hi⟩
    · exact .inl ⟨e, ⟨he, hp, hej.symm.trans hj⟩, hew, hea⟩
    · right
      subst hi
      rw [startExecution_getElem?] at he'
      obtain rfl := Option.some.inj he'
      obtain rfl : k = j := hj
      exact ⟨worker, now, db', ha, hclaim, rfl, rfl⟩
  -- a job that is being executed is not claimed
  have hfree : ∀ i e worker now db', s.Executing j i e →
      JobExecutor.claim settings j worker now s.db ≠ .ok (some db') := by
    intro i e worker now db' he hclaim
    obtain ⟨job, hjob, -, hst, -⟩ := h.held i e he
    obtain ⟨row, _, hw, hguard, -⟩ := JobExecutor.claim_writes hclaim
    obtain rfl := Option.some.inj (hw.found.symm.trans hjob)
    simp only [Move.guard, Job.lifecycle_status, ownedStatuses, List.mem_cons, List.not_mem_nil,
      or_false] at hguard hst
    rcases hst with hst | hst | hst <;> simp [hst] at hguard
  constructor
  · intro i k e' f' he' hf'
    rcases hold i e' he' with ⟨e, he, -⟩ | ⟨worker, now, db', -, hclaim, -, hi⟩
    · rcases hold k f' hf' with ⟨f, hf, -⟩ | ⟨worker, now, db', -, hclaim, -, -⟩
      · exact h.unique i k e f he hf
      · exact absurd hclaim (hfree i e worker now db' he)
    · rcases hold k f' hf' with ⟨f, hf, -⟩ | ⟨_, _, _, -, -, -, hk⟩
      · exact absurd hclaim (hfree k f worker now db' hf)
      · exact hi.trans hk.symm
  · intro i e' he'
    rcases hold i e' he' with ⟨e, he, hworker, hattempt⟩ | ⟨worker, now, db', -, hclaim, rfl, rfl⟩
    · obtain ⟨job, hjob, hholds, hst, hstarted⟩ := h.held i e he
      obtain ⟨job', hjob', hst', hworker', hattempt', hstarted'⟩ :=
        held_next hs h hsafe hnext he he' hjob hst hstarted
      refine ⟨job', hjob', ⟨?_, ?_⟩, hst', hstarted'⟩
      · rw [hworker', hworker]
        exact hholds.1
      · rw [hattempt', hattempt]
        exact hholds.2
    · obtain ⟨job, job', hw, -, happly⟩ := JobExecutor.claim_writes hclaim
      obtain rfl := Option.some.inj (startExecution_getElem?.symm.trans he'.1)
      have hstatus : job'.status = .running := congrArg Lifecycle.status happly
      have hstarted : job'.startedAt = job.startedAt.or (some now) :=
        congrArg Lifecycle.startedAt happly
      refine ⟨job', hw.self, ⟨congrArg Lifecycle.workerId happly, ?_⟩, ?_, ?_⟩
      · rw [hw.self, Option.map_some, Option.getD_some]
      · rw [hstatus]
        simp [ownedStatuses]
      · rw [hstarted]
        simp

end JobSystem

end StoryForge
