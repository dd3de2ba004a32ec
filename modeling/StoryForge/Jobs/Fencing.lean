import StoryForge.Jobs.Recovery

/-!
# Lease fencing

An execution owns its job from its claim until the claim is released: by its own outcome,
by lease recovery, or by anything else that takes the job out of the worker-owned
statuses. Which execution that is, is not in the database: rows carry the worker id of the
claiming process, and the outcome writers compare nothing else. Here the owner is a
history variable of the machine, so that "held under this claim" is independent of what
the code compares.

The comparison is enough when one process never runs two executions of one job at once.
Otherwise an execution whose lease was recovered passes the check of its successor in the
same process. Events and workflow links are not checked at all.

## Main results

* `JobSystem.fenced_next` — the row names an execution's worker id only while that
  execution holds the job;
* `JobSystem.writes_fenced` — in runs without such overlaps, only the holder writes;
* `JobSystem.writes_fenced_fails` — an execution whose lease was recovered writes the
  outcome of the next claim.
-/

namespace StoryForge

open Lifecycle

/-- Whether an action is a write of execution `i`: an outcome, an event, a workflow link
or a heartbeat. -/
def Action.By (a : Action) (i : ℕ) : Prop :=
  match a with
  | .finish k _ _ | .failAfter k _ | .recordEvent k _ | .linkWorkflow k _ | .heartbeat k _ =>
      k = i
  | _ => False

/-- A move on a held job that leaves its worker id on the row is a claim, a pause at the
end of an execution, or keeps the job held at the same attempt. -/
theorem Move.keeps_claim {m : Move} {c : Lifecycle} {worker : String} (hs : c.Sound)
    (hguard : m.guard c) (hheld : c.status ∈ JobExecutor.heldStatuses)
    (hworker : (m.apply c).workerId = some worker) :
    m = .confirmPause worker ∨
      (m.apply c).attempt = c.attempt ∧ (m.apply c).status ∈ JobExecutor.heldStatuses := by
  have hrunning := hs.running
  simp only [JobExecutor.heldStatuses, List.mem_cons, List.not_mem_nil, or_false] at hheld ⊢
  cases m <;> rcases hheld with hst | hst | hst | hst <;>
    simp_all [Move.guard, Move.apply, JobStatus.allowed]

/-- Only a claim puts a worker id on a row, or changes the attempt. -/
theorem Move.worker_of_apply {m : Move} {c : Lifecycle} {worker : String}
    (hworker : (m.apply c).workerId = some worker) :
    (∃ now lease, m = .claim worker now lease) ∨ c.workerId = some worker := by
  cases m <;> simp_all [Move.apply]

namespace JobSystem

/-! ### The holder of a job -/

/-- The execution that holds each job, if any. -/
abbrev Holders := ℕ → Option ℕ

/-- A committed claim makes the execution it starts the holder; a job that is in no
worker-owned status has none. -/
def recordHolder (holder : Holders) (s : JobSystem) (_ : Action) (s' : JobSystem) : Holders :=
  fun j =>
    if (s'.executions[s.executions.length]?).any (·.jobId = j) then some s.executions.length
    else if (s'.db.jobs[j]?).any (·.status ∈ JobExecutor.heldStatuses) then holder j
    else none

/-- The job system with the holders as history. -/
def fencedMachine (settings : Settings) : Machine (JobSystem × Holders) Action :=
  (machine settings).withHistory (fun _ _ => none) recordHolder

theorem fencedMachine_init_empty (settings : Settings) :
    (fencedMachine settings).init (empty, fun _ => none) :=
  ⟨machine_init_empty settings, rfl⟩

/-- Execution `i` holds the job it claimed: its claim has not been released, and the job is
still at the attempt the claim was given. -/
def HeldBy (s : JobSystem) (holder : Holders) (i : ℕ) (e : Execution) : Prop :=
  holder e.jobId = some i ∧
    ∃ job ∈ s.db.jobs[e.jobId]?, job.attempt = e.attempt ∧ job.status ∈ JobExecutor.heldStatuses

instance (s : JobSystem) (holder : Holders) (i : ℕ) (e : Execution) :
    Decidable (s.HeldBy holder i e) :=
  inferInstanceAs (Decidable (_ ∧ _))

/-- The row of the job an execution claimed names the worker id of the execution. -/
def Named (s : JobSystem) (e : Execution) : Prop :=
  ∀ job ∈ s.db.jobs[e.jobId]?, job.workerId = some e.workerId

instance (s : JobSystem) (e : Execution) : Decidable (s.Named e) := by
  unfold Named; infer_instance

/-- The condition on a step: a process does not claim a job that an execution of the same
process is still running, and events and workflow links are written only where the check
of the outcome writers would pass. -/
def FenceSafe (s : JobSystem) (a : Action) : Prop :=
  match a with
  | .claim j worker _ =>
      ∀ e ∈ s.executions, e.InProgress → e.jobId = j → e.workerId ≠ worker
  | .recordEvent i _ | .linkWorkflow i _ => ∀ e ∈ s.executions[i]?, s.Named e
  | _ => True

instance (s : JobSystem) (a : Action) : Decidable (s.FenceSafe a) := by
  unfold FenceSafe; split <;> infer_instance

/-- Executions in progress on one job run under different worker ids, and one whose worker
id is on the row holds the job. -/
structure Fenced (s : JobSystem) (holder : Holders) : Prop where
  apart : ∀ (i k : ℕ) (e f : Execution), s.executions[i]? = some e → s.executions[k]? = some f →
    e.InProgress → f.InProgress → e.jobId = f.jobId → e.workerId = f.workerId → i = k
  held : ∀ (i : ℕ) (e : Execution) (job : Job), s.executions[i]? = some e → e.InProgress →
    s.db.jobs[e.jobId]? = some job → job.workerId = some e.workerId → s.HeldBy holder i e

variable {settings : Settings} {s s' : JobSystem} {holder : Holders} {a : Action}
  {i k : ℕ} {e f : Execution} {job job' : Job}

/-- The execution a claim starts. -/
theorem startExecution_getElem? {db' : Database} {jobId : ℕ} {workerId : String} :
    (s.startExecution db' jobId workerId).executions[s.executions.length]? =
      some ⟨jobId, workerId, (db'.jobs[jobId]?.map (·.attempt)).getD 0, .running⟩ := by
  simp [startExecution]

/-- A safe claim starts an execution apart from those in progress. -/
theorem apart_of_claim {jobId : ℕ} {workerId : String} {now : Time}
    (hsafe : s.FenceSafe (.claim jobId workerId now)) (he : s.executions[i]? = some e)
    (hprogress : e.InProgress) (hjob : e.jobId = jobId) : e.workerId ≠ workerId :=
  hsafe e (List.mem_of_getElem? he) hprogress hjob

/-- Executions stay apart. -/
theorem apart_next (hf : s.Fenced holder) (hsafe : s.FenceSafe a)
    (hnext : next settings s a = some s') (he : s'.executions[i]? = some e)
    (hk : s'.executions[k]? = some f) (hpe : e.InProgress) (hpf : f.InProgress)
    (hjob : e.jobId = f.jobId) (hworker : e.workerId = f.workerId) : i = k := by
  rcases execution_origin hnext he hpe with ⟨e₀, he₀, hpe₀, hej, hew, -⟩ |
      ⟨j, w, now, db', rfl, -, rfl, rfl⟩ <;>
    rcases execution_origin hnext hk hpf with ⟨f₀, hf₀, hpf₀, hfj, hfw, -⟩ | hnew
  · exact hf.apart i k e₀ f₀ he₀ hf₀ hpe₀ hpf₀ (by rw [← hej, ← hfj, hjob])
      (by rw [← hew, ← hfw, hworker])
  · obtain ⟨j, w, now, db', rfl, -, rfl, rfl⟩ := hnew
    obtain rfl := Option.some.inj (startExecution_getElem?.symm.trans hk)
    exact absurd (hew.symm.trans hworker) (apart_of_claim hsafe he₀ hpe₀ (hej.symm.trans hjob))
  · obtain rfl := Option.some.inj (startExecution_getElem?.symm.trans he)
    exact absurd (hfw.symm.trans hworker.symm)
      (apart_of_claim hsafe hf₀ hpf₀ (hfj.symm.trans hjob.symm))
  · obtain ⟨_, _, _, _, _, _, _, rfl⟩ := hnew
    rfl

/-- Only the outcome of an execution confirms a pause. -/
theorem action_of_confirmPause {j : ℕ} {worker : String}
    (h : allowedMoves settings s a j (.confirmPause worker)) :
    ∃ k outcome now, a = .finish k outcome now ∧
      ∃ e, s.executions[k]? = some e ∧ e.InProgress ∧ e.jobId = j ∧ e.workerId = worker := by
  cases a with
  | finish k outcome now =>
      obtain ⟨e, he, hphase, hj, hm⟩ := h
      refine ⟨k, outcome, now, rfl, e, he, by simp [Execution.InProgress, hphase], hj.symm, ?_⟩
      cases outcome <;> simp_all [Outcome.moves]
  | _ => simp_all [allowedMoves]

/-- The execution whose outcome was written is over. -/
theorem not_inProgress_of_finish {outcome : Outcome} {now : Time}
    (hnext : next settings s (.finish k outcome now) = some s')
    (he : s'.executions[k]? = some e) (hcommitted : s'.db ≠ s.db) : ¬ e.InProgress := by
  obtain ⟨e₀, he₀, hs'⟩ := Option.map_eq_some_iff.mp hnext
  have hk := (Option.filter_eq_some_iff.mp he₀).1
  split at hs'
  · subst hs'
    rw [setPhase, List.getElem?_modify_eq, hk] at he
    obtain rfl := Option.some.inj he
    exact id
  · subst hs'
    exact absurd rfl hcommitted

/-- The holder of a job that stays held, and is not claimed, does not change. -/
theorem recordHolder_kept {j : ℕ} (hjob : s'.db.jobs[j]? = some job)
    (hheld : job.status ∈ JobExecutor.heldStatuses)
    (hnew : ∀ f, s'.executions[s.executions.length]? = some f → f.jobId ≠ j) :
    recordHolder holder s a s' j = holder j := by
  unfold recordHolder
  rw [if_neg, if_pos (by simp [hjob, hheld])]
  rw [Option.any_eq_true]
  rintro ⟨f, hf, hj⟩
  exact hnew f hf (of_decide_eq_true hj)

/-- A claim that committed advanced the attempt of its job. -/
theorem attempt_of_started (hnext : next settings s a = some s')
    (hf : s'.executions[s.executions.length]? = some f) :
    ∃ old new, s.db.jobs[f.jobId]? = some old ∧ s'.db.jobs[f.jobId]? = some new ∧
      new.attempt = old.attempt + 1 := by
  rcases next_executions hnext with heq | ⟨_, _, -, -, heq⟩ | ⟨j, w, now, db', rfl, hclaim, rfl⟩
  · simp [heq] at hf
  · simp [heq] at hf
  · obtain rfl := Option.some.inj (startExecution_getElem?.symm.trans hf)
    obtain ⟨old, new, hw, -, happly⟩ := JobExecutor.claim_writes hclaim
    exact ⟨old, new, hw.found, hw.self, congrArg Lifecycle.attempt happly⟩

/-- An execution that held its job before a step, and whose worker id is still on the row,
holds it after the step. -/
theorem held_of_kept (hjob : s.db.jobs[e.jobId]? = some job)
    (hjob' : s'.db.jobs[e.jobId]? = some job') (hheld : s.HeldBy holder i e)
    (hnext : next settings s a = some s') (hattempt : job'.attempt = job.attempt)
    (hst : job'.status ∈ JobExecutor.heldStatuses) :
    s'.HeldBy (recordHolder holder s a s') i e := by
  obtain ⟨hholder, old, hold, hat, -⟩ := hheld
  obtain rfl := Option.some.inj (hold.symm.trans hjob)
  refine ⟨?_, job', hjob', hattempt.trans hat, hst⟩
  rw [recordHolder_kept hjob' hst, hholder]
  intro f hf hj
  obtain ⟨before, after, hbefore, hafter, hgrew⟩ := attempt_of_started hnext hf
  rw [hj] at hbefore hafter
  obtain rfl := Option.some.inj (hbefore.symm.trans hjob)
  obtain rfl := Option.some.inj (hafter.symm.trans hjob')
  omega

/-- **One step keeps the job system fenced** under `FenceSafe`. -/
theorem fenced_next (hs : s.db.Sound) (hf : s.Fenced holder) (hsafe : s.FenceSafe a)
    (hnext : next settings s a = some s') : s'.Fenced (recordHolder holder s a s') := by
  refine ⟨fun i k e f he hk hpe hpf => apart_next hf hsafe hnext he hk hpe hpf, ?_⟩
  intro i e job' he hprogress hjob' hworker
  rcases execution_origin hnext he hprogress with ⟨e₀, he₀, hp₀, hj, hw, hn⟩ |
    ⟨j, w, now, db', rfl, hclaim, rfl, rfl⟩
  swap
  · -- the execution the claim started
    obtain rfl := Option.some.inj (startExecution_getElem?.symm.trans he)
    obtain ⟨old, new, hwrites, -, happly⟩ := JobExecutor.claim_writes hclaim
    have hnew : new.status = .running := congrArg Lifecycle.status happly
    refine ⟨by simp [recordHolder, startExecution_getElem?], new, hwrites.self, ?_, ?_⟩
    · simp [hwrites.self]
    · simp [hnew, JobExecutor.heldStatuses]
  obtain ⟨job, hjob, hmoves⟩ | ⟨-, hnone⟩ := JobsStep.cases (next_change hs hnext).2 hjob'
  swap
  · simp [hnone] at hworker
  have hheld (hbefore : job.workerId = some e.workerId) : s.HeldBy holder i e := by
    have h := hf.held i e₀ job he₀ hp₀ (hj ▸ hjob) (hw ▸ hbefore)
    unfold HeldBy at h ⊢
    rwa [hj, hn]
  have hstatus (h : s.HeldBy holder i e) : job.status ∈ JobExecutor.heldStatuses := by
    obtain ⟨-, old, hold, -, hst⟩ := h
    exact Option.some.inj (hold.symm.trans hjob) ▸ hst
  rcases hmoves with hsame | ⟨m, hallowed, hguard, happly⟩
  · have hst : job'.status = job.status := congrArg Lifecycle.status hsame
    have hbefore := hheld ((congrArg Lifecycle.workerId hsame).symm.trans hworker)
    exact held_of_kept hjob hjob' hbefore hnext (congrArg Lifecycle.attempt hsame)
      (hst ▸ hstatus hbefore)
  have hworker' : (m.apply job.lifecycle).workerId = some e.workerId :=
    (congrArg Lifecycle.workerId happly).symm.trans hworker
  rcases Move.worker_of_apply hworker' with ⟨now, lease, rfl⟩ | hbefore
  · -- a claim by the process of an execution in progress
    obtain rfl := action_of_claim hallowed
    exact absurd hw.symm (apart_of_claim hsafe he₀ hp₀ hj.symm)
  have hbefore := hheld hbefore
  rcases Move.keeps_claim (hs.lifecycles _ job hjob) hguard (hstatus hbefore) hworker' with
    rfl | ⟨hattempt, hst⟩
  · -- the pause of the execution itself, which is over
    obtain ⟨k, outcome, now, rfl, f, hk, hpf, hfj, hfw⟩ := action_of_confirmPause hallowed
    obtain rfl := hf.apart i k e₀ f he₀ hk hp₀ hpf (hj.symm.trans hfj.symm) (hw.symm.trans hfw.symm)
    refine absurd hprogress (not_inProgress_of_finish hnext he fun hdb => ?_)
    obtain rfl := Option.some.inj ((hdb ▸ hjob').symm.trans hjob)
    have hpaused := (congrArg Lifecycle.status happly).symm.trans hguard.2
    simp [Move.apply] at hpaused
  · rw [← happly] at hattempt hst
    exact held_of_kept hjob hjob' hbefore hnext hattempt hst

/-- **The row names an execution only while it holds the job**, in runs under `FenceSafe`. -/
theorem fenced_of_reachable {p : JobSystem × Holders}
    (hp : (fencedMachine settings).ReachableUnder (fun p a => p.1.FenceSafe a) p) :
    p.1.Fenced p.2 := by
  refine hp.invariant (I := fun p => p.1.Fenced p.2) (fun p hinit => ?_)
    fun p a p' hp hf hsafe hnext => ?_
  · obtain ⟨⟨hjobs, -, -, hexecutions, -⟩, -⟩ := hinit
    exact ⟨by simp [hexecutions], by simp [hjobs]⟩
  · obtain ⟨hstep, hholder⟩ := Machine.withHistory_next.mp hnext
    rw [hholder]
    exact fenced_next (sound_of_reachable (Machine.withHistory_fst hp)) hf hsafe hstep

/-- A write of an execution that changes the database is made while the row names its
worker id. -/
theorem named_of_write (hsafe : s.FenceSafe a) (hnext : next settings s a = some s')
    (he : s.executions[i]? = some e) (hby : a.By i) :
    s'.db = s.db ∨ ∃ job, s.db.jobs[e.jobId]? = some job ∧ job.workerId = some e.workerId := by
  have hunchecked {t : Except Error Database} (hnamed : s.Named e)
      (hs' : s.commitOr t = s')
      (hwrites : ∀ db', t = .ok db' → db' = s.db ∨ ∃ job, s.db.jobs[e.jobId]? = some job) :
      s'.db = s.db ∨ ∃ job, s.db.jobs[e.jobId]? = some job ∧ job.workerId = some e.workerId := by
    subst hs'
    refine commitOr_db (P := fun db => db = s.db ∨ _) (.inl rfl) fun db' hdb' => ?_
    exact (hwrites db' hdb').imp id fun ⟨job, hjob⟩ => ⟨job, hjob, hnamed job hjob⟩
  cases a with
  | recordEvent k event =>
      obtain rfl : k = i := hby
      obtain ⟨e₁, he₁, hs'⟩ := Option.map_eq_some_iff.mp hnext
      obtain rfl := Option.some.inj (he.symm.trans (inProgress_eq_some.mp he₁).1)
      refine hunchecked (hsafe e he) hs' fun db' hdb' => ?_
      obtain ⟨job, _, hw, -⟩ := JobService.recordEvent_writes hdb'
      exact .inr ⟨job, hw.found⟩
  | linkWorkflow k workflowRunId =>
      obtain rfl : k = i := hby
      obtain ⟨e₁, he₁, hs'⟩ := Option.map_eq_some_iff.mp hnext
      obtain rfl := Option.some.inj (he.symm.trans (inProgress_eq_some.mp he₁).1)
      refine hunchecked (hsafe e he) hs' fun db' hdb' => ?_
      exact (linkWorkflow_cases hdb').imp id fun ⟨job, _, hw, _⟩ => ⟨job, hw.found⟩
  | heartbeat k now =>
      obtain rfl : k = i := hby
      obtain ⟨e₁, he₁, rfl⟩ := Option.map_eq_some_iff.mp hnext
      obtain rfl := Option.some.inj (he.symm.trans (Option.filter_eq_some_iff.mp he₁).1)
      exact (JobExecutor.heartbeat_cases settings e.jobId e.workerId now s.db).imp id
        fun ⟨job, _, hw, hguard, _⟩ => ⟨job, hw.found, hguard.1⟩
  | finish k outcome now =>
      obtain rfl : k = i := hby
      obtain ⟨e₁, he₁, hs'⟩ := Option.map_eq_some_iff.mp hnext
      obtain rfl := Option.some.inj (he.symm.trans (Option.filter_eq_some_iff.mp he₁).1)
      split at hs'
      · rename_i db' hdb'
        obtain ⟨job, _, _, hw, hworker, -⟩ := writeOutcome_writes hdb'
        exact .inr ⟨job, hw.found, hworker⟩
      · subst hs'
        exact .inl rfl
  | failAfter k now =>
      obtain rfl : k = i := hby
      obtain ⟨e₁, he₁, hs'⟩ := Option.bind_eq_some_iff.mp hnext
      obtain rfl := Option.some.inj (he.symm.trans (inProgress_eq_some.mp he₁).1)
      split at hs'
      · obtain rfl := Option.some.inj hs'
        refine commitOr_db (P := fun db => db = s.db ∨ _) (.inl rfl) fun db' hdb' => ?_
        obtain ⟨job, _, hw, hworker, -⟩ := JobExecutor.fail_writes hdb'
        exact .inr ⟨job, hw.found, hworker⟩
      · exact absurd hs' (by simp)
  | _ => exact absurd hby id

/-- **Lease fencing.** In every run in which no process claims a job that it is still
executing, and events and links are written only by executions whose worker id is on the
row, a write of an execution in progress changes nothing or is made while that execution
holds the job: its claim is not released and the job is at the attempt it was given. -/
theorem writes_fenced {p : JobSystem × Holders}
    (hp : (fencedMachine settings).ReachableUnder (fun p a => p.1.FenceSafe a) p)
    (hsafe : p.1.FenceSafe a) (hnext : next settings p.1 a = some s')
    (he : p.1.executions[i]? = some e) (hprogress : e.InProgress) (hby : a.By i) :
    s'.db = p.1.db ∨ p.1.HeldBy p.2 i e := by
  rcases named_of_write hsafe hnext he hby with hsame | ⟨job, hjob, hworker⟩
  · exact .inl hsame
  · exact .inr ((fenced_of_reachable hp).held i e job he hprogress hjob hworker)

/-! ### Two executions of one process -/

/-- The lease of an execution runs out; the process claims the job again while the first
execution is still going. -/
def claimedTwice : List Action :=
  [.create sampleRequest 0, .claim 0 "w" 1, .recoverExpired (seconds 60),
    .claim 0 "w" (seconds 120)]

/-- One execution, running. -/
def claimedOnce : List Action :=
  [.create sampleRequest 0, .claim 0 "w" 1]

/-- The execution whose lease was recovered finishes the job under the next claim. -/
theorem writes_fenced_fails :
    ¬ ∀ p, (fencedMachine Settings.defaults).Reachable p → ∀ (a : Action) (s' : JobSystem),
      next Settings.defaults p.1 a = some s' → ∀ (i : ℕ) (e : Execution),
      p.1.executions[i]? = some e → e.InProgress → a.By i →
        s'.db = p.1.db ∨ p.1.HeldBy p.2 i e := by
  intro h
  obtain ⟨p, hp, ⟨e, he, hprogress, hlost⟩, hwritten⟩ :=
    (fencedMachine Settings.defaults).exists_reachable claimedTwice
      (fun p => (∃ e ∈ p.1.executions[0]?, e.InProgress ∧ ¬ p.1.HeldBy p.2 0 e) ∧
        ∃ s' ∈ next Settings.defaults p.1 (.finish 0 (.returned "{}") (seconds 121)),
          s'.db.jobs.map (·.status) ≠ p.1.db.jobs.map (·.status))
      (fencedMachine_init_empty _) (by decide)
  obtain ⟨s', hs', hchanged⟩ := hwritten
  rcases h p hp _ s' hs' 0 e he hprogress rfl with hsame | hheld
  · exact hchanged (by rw [hsame])
  · exact hlost hheld

/-- The outcome of the only execution of a job is written under its claim. -/
theorem writes_fenced_claimedOnce :
    ∃ p, (fencedMachine Settings.defaults).Reachable p ∧
      ∃ e ∈ p.1.executions[0]?, p.1.HeldBy p.2 0 e := by
  obtain ⟨p, hp, ⟨e, he, hprogress⟩, s', hs', hchanged⟩ :=
    (fencedMachine Settings.defaults).exists_reachableUnder (fun p a => p.1.FenceSafe a)
      claimedOnce
      (fun p => (∃ e ∈ p.1.executions[0]?, e.InProgress) ∧
        ∃ s' ∈ next Settings.defaults p.1 (.finish 0 (.returned "{}") 2),
          s'.db.jobs.map (·.status) ≠ p.1.db.jobs.map (·.status))
      (fencedMachine_init_empty _) (by decide)
  refine ⟨p, hp.reachable, e, he, ?_⟩
  refine (writes_fenced (a := .finish 0 (.returned "{}") 2) hp trivial hs' he hprogress
    rfl).resolve_left fun hsame => ?_
  exact hchanged (by rw [hsame])

end JobSystem

end StoryForge
