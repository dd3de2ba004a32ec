import StoryForge.Jobs.Fencing

/-!
# Outcomes of an execution

What `execute` leaves behind once its handler ended: `conclude` runs the outcome writer of
the `try` statement and counts the outcome transactions that committed and the exception
that escapes. Only what `_succeed` raises is caught again, by `_fail`.

The writers share one transition table, and a control request may have changed the status
under them. `_succeed`, `_cancel` and `_fail` find an edge from every status a held job can
have. `_retry_or_dead_letter` finds none from a requested pause or cancellation while
attempts are left, and `_pause` none from a requested cancellation.

## Main results

* `JobSystem.held_reachable` — the execution that holds a job is the one whose worker id and
  attempt are on the row, whatever else happens;
* `JobSystem.heldBy_of_request` — pause and cancel requests leave the lease where it is;
* `JobSystem.outcome_settles_iff` — an execution that holds its job records one outcome
  and settles the job exactly when the table does not refuse the outcome;
* `JobSystem.outcome_settles_fails` — an infrastructure error after a pause request escapes.
-/

namespace StoryForge

open Lifecycle

/-! ### The end of `execute` -/

/-- What is left when `execute` is done with a handler's ending: the database, the number of
outcome transactions that committed, the exception that escapes. -/
structure Conclusion where
  db : Database
  committed : ℕ
  escaped : Option Error

namespace Conclusion

/-- An outcome writer outside the `try` body: it commits, or its exception escapes. -/
def ofWriter (db : Database) (transaction : Except Error Database) : Conclusion :=
  match transaction with
  | .ok db' => ⟨db', 1, none⟩
  | .error error => ⟨db, 0, some error⟩

/-- One outcome transaction committed, nothing escaped, and job `j` is settled. -/
def Settles (c : Conclusion) (j : ℕ) : Prop :=
  c.committed = 1 ∧ c.escaped = none ∧ ∃ job ∈ c.db.jobs[j]?, job.status ∈ settledStatuses

instance (c : Conclusion) (j : ℕ) : Decidable (c.Settles j) :=
  inferInstanceAs (Decidable (_ ∧ _))

theorem ofWriter_ok {db db' : Database} :
    ofWriter db (.ok db') = ⟨db', 1, none⟩ := rfl

theorem ofWriter_error {db : Database} {error : Error} :
    ofWriter db (.error error) = ⟨db, 0, some error⟩ := rfl

end Conclusion

/-- The `try` statement of `execute` from the end of the handler on. -/
def JobExecutor.conclude (settings : Settings) (e : Execution) (outcome : Outcome) (now : Time)
    (db : Database) : Conclusion :=
  match outcome with
  | .returned result =>
      match succeed e.jobId e.workerId result now db with
      | .ok db' => ⟨db', 1, none⟩
      | .error error =>
          .ofWriter db (fail settings e.jobId e.workerId error.raised now db)
  | outcome => .ofWriter db (JobSystem.writeOutcome settings e outcome now db)

namespace JobSystem

variable {settings : Settings} {s s' : JobSystem} {holder : Holders} {a : Action}
  {i : ℕ} {e : Execution} {job job' : Job} {outcome : Outcome} {now : Time} {db db' : Database}

/-- An outcome that is recorded concludes the execution. -/
theorem conclude_of_ok (h : writeOutcome settings e outcome now db = .ok db') :
    JobExecutor.conclude settings e outcome now db = ⟨db', 1, none⟩ := by
  cases outcome with
  | returned result =>
      have hsucceed : JobExecutor.succeed e.jobId e.workerId result now db = .ok db' := h
      simp only [JobExecutor.conclude, hsucceed]
  | _ => simp only [JobExecutor.conclude, h, Conclusion.ofWriter_ok]

/-- An outcome that is refused escapes, unless it was a success. -/
theorem conclude_of_error {error : Error} (hreturned : ∀ result, outcome ≠ .returned result)
    (h : writeOutcome settings e outcome now db = .error error) :
    JobExecutor.conclude settings e outcome now db = ⟨db, 0, some error⟩ := by
  cases outcome with
  | returned result => exact absurd rfl (hreturned result)
  | _ => simp only [JobExecutor.conclude, h, Conclusion.ofWriter_error]

/-- The machine takes the same steps: a finished execution is concluded by its outcome
transaction, or, when `_succeed` raised, by the `_fail` that follows. -/
theorem next_conclude (hnext : next settings s (.finish i outcome now) = some s')
    (he : s.executions[i]? = some e) :
    s'.db = (JobExecutor.conclude settings e outcome now s.db).db ∨
      ∃ s'', next settings s' (.failAfter i now) = some s'' ∧
        s''.db = (JobExecutor.conclude settings e outcome now s.db).db := by
  obtain ⟨e₁, he₁, hs'⟩ := Option.map_eq_some_iff.mp hnext
  obtain rfl := Option.some.inj (he.symm.trans (Option.filter_eq_some_iff.mp he₁).1)
  split at hs'
  · rename_i db' hdb'
    subst hs'
    rw [conclude_of_ok hdb']
    exact .inl rfl
  · rename_i error herror
    subst hs'
    by_cases hreturned : ∃ result, outcome = .returned result
    swap
    · rw [conclude_of_error (fun result heq => hreturned ⟨result, heq⟩) herror]
      exact .inl rfl
    obtain ⟨result, rfl⟩ := hreturned
    have hsucceed : JobExecutor.succeed e.jobId e.workerId result now s.db = .error error := herror
    have hphase : (s.setPhase i (phaseAfterError (.returned result) error)).inProgress i =
        some { e with phase := .failing error.raised } := by
      rw [inProgress_eq_some, setPhase, List.getElem?_modify_eq, he]
      exact ⟨rfl, trivial⟩
    refine .inr ⟨_, by simp only [next, hphase, Option.bind_some]; rfl, ?_⟩
    simp only [JobExecutor.conclude, hsucceed]
    cases hfail : JobExecutor.fail settings e.jobId e.workerId error.raised now s.db with
    | ok db' => simp [commitOr, hfail, Conclusion.ofWriter]
    | error error' => simp [commitOr, hfail, Conclusion.ofWriter]

/-! ### The row of a held job -/

/-- A move that leaves a held job held is no claim: worker, attempt and start stay. -/
theorem Move.keeps_holder {m : Move} {c : Lifecycle} (hguard : m.guard c)
    (hheld : c.status ∈ JobExecutor.heldStatuses)
    (hheld' : (m.apply c).status ∈ JobExecutor.heldStatuses) :
    (m.apply c).workerId = c.workerId ∧ (m.apply c).attempt = c.attempt ∧
      (m.apply c).startedAt = c.startedAt := by
  simp only [JobExecutor.heldStatuses, List.mem_cons, List.not_mem_nil, or_false] at hheld hheld'
  cases m <;> rcases hheld with hst | hst | hst | hst <;> simp_all [Move.guard, Move.apply]

/-- The holder of a job is an execution whose worker id and attempt are on its row. -/
def HolderOnRow (s : JobSystem) (holder : Holders) : Prop :=
  ∀ j i, holder j = some i → ∃ e job, s.executions[i]? = some e ∧ e.jobId = j ∧
    s.db.jobs[j]? = some job ∧ e.Holds job ∧ job.status ∈ JobExecutor.heldStatuses ∧
    job.startedAt.isSome

/-- Executions keep their job, worker id and attempt. -/
theorem execution_identity (hnext : next settings s a = some s') (he : s.executions[i]? = some e) :
    ∃ phase, s'.executions[i]? = some { e with phase } := by
  rcases next_executions hnext with heq | ⟨k, phase, -, -, heq⟩ | ⟨_, _, _, _, -, -, rfl⟩
  · exact ⟨e.phase, heq ▸ he⟩
  · by_cases hki : k = i
    · subst hki
      exact ⟨phase, by rw [heq, List.getElem?_modify_eq, he]; rfl⟩
    · exact ⟨e.phase, by rw [heq, List.getElem?_modify_ne _ _ hki]; exact he⟩
  · refine ⟨e.phase, ?_⟩
    rw [startExecution, List.getElem?_append_left (List.getElem?_eq_some_iff.mp he).1]
    exact he

/-- The holder of a job after a step was started by it, or held the job before. -/
theorem recordHolder_cases {j : ℕ} (h : recordHolder holder s a s' j = some i) :
    (∃ f, s'.executions[s.executions.length]? = some f ∧ f.jobId = j ∧ i = s.executions.length) ∨
      holder j = some i ∧
        ∃ job, s'.db.jobs[j]? = some job ∧ job.status ∈ JobExecutor.heldStatuses := by
  unfold recordHolder at h
  split at h
  · rename_i hnew
    obtain ⟨f, hf, hj⟩ := (Option.any_eq_true _ _).mp hnew
    exact .inl ⟨f, hf, of_decide_eq_true hj, (Option.some.inj h).symm⟩
  · split at h
    · rename_i hheld
      obtain ⟨job, hjob, hst⟩ := (Option.any_eq_true _ _).mp hheld
      exact .inr ⟨h, job, hjob, of_decide_eq_true hst⟩
    · exact absurd h (by simp)

/-- **One step keeps holders on their rows.** -/
theorem holderOnRow_next (hs : s.db.Sound) (hh : s.HolderOnRow holder)
    (hnext : next settings s a = some s') : s'.HolderOnRow (recordHolder holder s a s') := by
  intro j i hholder
  rcases recordHolder_cases hholder with ⟨f, hf, rfl, rfl⟩ | ⟨hbefore, job', hjob', hst'⟩
  · -- a claim committed
    rcases next_executions hnext with heq | ⟨_, _, -, -, heq⟩ | ⟨k, w, t, db', -, hclaim, rfl⟩
    · simp [heq] at hf
    · simp [heq] at hf
    obtain rfl := Option.some.inj (startExecution_getElem?.symm.trans hf)
    obtain ⟨old, new, hw, -, happly⟩ := JobExecutor.claim_writes hclaim
    have hattempt : (db'.jobs[k]?.map (·.attempt)).getD 0 = new.attempt := by
      rw [hw.self, Option.map_some, Option.getD_some]
    have hstatus : new.status = .running := congrArg Lifecycle.status happly
    have hworker : new.workerId = some w := congrArg Lifecycle.workerId happly
    have hstarted : new.startedAt = old.startedAt.or (some t) :=
      congrArg Lifecycle.startedAt happly
    refine ⟨_, new, startExecution_getElem?, rfl, hw.self, ⟨hworker, hattempt⟩, ?_, ?_⟩
    · rw [hstatus]
      simp [JobExecutor.heldStatuses]
    · rw [hstarted]
      simp
  · obtain ⟨e, job, he, rfl, hjob, hholds, hst, hstarted⟩ := hh j i hbefore
    obtain ⟨phase, he'⟩ := execution_identity hnext he
    rcases JobsStep.cases (next_change hs hnext).2 hjob' with ⟨old, hold, hmoves⟩ | ⟨hnew, -⟩
    swap
    · rw [hnew] at hst'
      simp [JobExecutor.heldStatuses] at hst'
    obtain rfl := Option.some.inj (hold.symm.trans hjob)
    have hkept : job'.workerId = old.workerId ∧ job'.attempt = old.attempt ∧
        job'.startedAt = old.startedAt := by
      rcases hmoves with hsame | ⟨m, -, hguard, happly⟩
      · exact ⟨congrArg Lifecycle.workerId hsame, congrArg Lifecycle.attempt hsame,
          congrArg Lifecycle.startedAt hsame⟩
      · have hst₁ : (m.apply old.lifecycle).status ∈ JobExecutor.heldStatuses := happly ▸ hst'
        obtain ⟨hworker, hattempt, hstart⟩ := Move.keeps_holder hguard hst hst₁
        rw [← happly] at hworker hattempt hstart
        exact ⟨hworker, hattempt, hstart⟩
    refine ⟨_, job', he', rfl, hjob', ⟨?_, ?_⟩, hst', ?_⟩
    · rw [hkept.1]
      exact hholds.1
    · rw [hkept.2.1]
      exact hholds.2
    · rw [hkept.2.2]
      exact hstarted

/-- The execution that holds a job is the one on its row, in every run. -/
theorem held_reachable {p : JobSystem × Holders} (hp : (fencedMachine settings).Reachable p) :
    p.1.HolderOnRow p.2 := by
  refine hp.invariant (I := fun p => p.1.HolderOnRow p.2) (fun p hinit => ?_)
    fun p a p' hp hh _ hnext => ?_
  · intro j i hholder
    rw [hinit.2] at hholder
    exact absurd hholder (by simp)
  · obtain ⟨hstep, hholder⟩ := Machine.withHistory_next.mp hnext
    have hfst : (machine settings).Reachable p.1 := Machine.withHistory_fst hp
    rw [hholder]
    exact holderOnRow_next (sound_of_reachable hfst) hh hstep

/-- A pause or cancel request does not take the lease away: it comes back done at once only
on a job that never started or is paused. -/
theorem heldBy_of_request {p : JobSystem × Holders} (hp : (fencedMachine settings).Reachable p)
    {j : ℕ} (hrequest : a = .requestPause j now ∨ a = .requestCancel j now)
    (hheld : p.1.HeldBy p.2 i e) (hnext : next settings p.1 a = some s') :
    s'.HeldBy (recordHolder p.2 p.1 a s') i e := by
  have hfst : (machine settings).Reachable p.1 := Machine.withHistory_fst hp
  have hs := sound_of_reachable hfst
  obtain ⟨hholder, job, hjob, hattempt, hst⟩ := hheld
  obtain ⟨e₀, row, -, -, hrow, -, -, hstarted⟩ := held_reachable hp _ _ hholder
  obtain rfl := Option.some.inj (hrow.symm.trans hjob)
  have hmove : JobsMove (allowedMoves settings p.1 a) p.1.db.jobs s'.db.jobs := by
    rcases (next_change hs hnext).2 with hmove | ⟨_, _, _, ha, -⟩
    · exact hmove
    · rcases hrequest with rfl | rfl <;> exact absurd ha (by simp)
  have hlt : e.jobId < s'.db.jobs.length :=
    hmove.length ▸ (List.getElem?_eq_some_iff.mp hrow).1
  have hjob' := List.getElem?_eq_getElem hlt
  obtain ⟨old, hold, hmoves⟩ := hmove.moves _ _ hjob'
  obtain rfl := Option.some.inj (hold.symm.trans hrow)
  have hheld : p.1.HeldBy p.2 i e := ⟨hholder, old, hrow, hattempt, hst⟩
  rcases hmoves with hsame | ⟨m, hm, hguard, happly⟩
  · have hstatus : (s'.db.jobs[e.jobId]).status = old.status := congrArg Lifecycle.status hsame
    exact held_of_kept hrow hjob' hheld hnext (congrArg Lifecycle.attempt hsame) (hstatus ▸ hst)
  have hrecorded : m = .requestPause ∨ m = .requestCancel := by
    rcases hrequest with rfl | rfl
    · obtain ⟨-, hm⟩ := hm
      simp only [List.mem_cons, List.not_mem_nil, or_false] at hm
      refine .inl (hm.resolve_left ?_)
      rintro rfl
      exact absurd hstarted (by simp [show old.startedAt = none from hguard.2])
    · obtain ⟨-, hm⟩ := hm
      simp only [List.mem_cons, List.not_mem_nil, or_false] at hm
      refine .inr (hm.resolve_left ?_)
      rintro rfl
      rcases hguard.2 with hnone | hpaused
      · exact absurd hstarted (by simp [show old.startedAt = none from hnone])
      · rw [show old.status = .paused from hpaused] at hst
        simp [JobExecutor.heldStatuses] at hst
  have hstatus : (s'.db.jobs[e.jobId]).status = (m.apply old.lifecycle).status :=
    congrArg Lifecycle.status happly
  have hattempt' : (s'.db.jobs[e.jobId]).attempt = (m.apply old.lifecycle).attempt :=
    congrArg Lifecycle.attempt happly
  rcases hrecorded with rfl | rfl
  · exact held_of_kept hrow hjob' hheld hnext (by simpa [Move.apply] using hattempt')
      (by simp [hstatus, Move.apply, JobExecutor.heldStatuses])
  · exact held_of_kept hrow hjob' hheld hnext (by simpa [Move.apply] using hattempt')
      (by simp [hstatus, Move.apply, JobExecutor.heldStatuses])

/-! ### Outcomes that settle the job -/

/-- The table has no edge for a refused outcome. -/
theorem writeOutcome_ne_ok (hjob : db.jobs[e.jobId]? = some job) (hrefused : outcome.Refused job) :
    writeOutcome settings e outcome now db ≠ .ok db' := by
  intro h
  cases outcome with
  | paused =>
      obtain ⟨row, _, hw, -, ⟨-, hreach⟩, -⟩ := JobExecutor.pause_writes h
      obtain rfl := Option.some.inj (hw.found.symm.trans hjob)
      have hst : row.status = .cancelRequested := hrefused
      simp [MayReach, hst, JobStatus.allowed] at hreach
  | retryable error =>
      obtain ⟨hleft, hst⟩ := hrefused
      obtain ⟨row, _, rows, hw, -, ⟨m, hm, hguard, -⟩, -⟩ :=
        JobExecutor.retryOrDeadLetter_writes h
      obtain rfl := Option.some.inj (hw.found.symm.trans hjob)
      simp only [List.mem_cons, List.not_mem_nil, or_false] at hm hst
      rcases hm with rfl | rfl
      · obtain ⟨-, hreach, -⟩ := hguard
        rcases hst with hst | hst <;> simp [MayReach, hst, JobStatus.allowed] at hreach
      · exact absurd hguard.2.2 (Nat.not_le.mpr hleft)
  | _ => exact hrefused

/-- A success is never refused. -/
theorem not_returned_of_refused (hrefused : outcome.Refused job) (result : String) :
    outcome ≠ .returned result := by
  rintro rfl
  exact hrefused

/-- A recorded outcome settles the job. -/
theorem settles_of_ok (h : writeOutcome settings e outcome now db = .ok db') :
    (JobExecutor.conclude settings e outcome now db).Settles e.jobId := by
  obtain ⟨_, job', _, hw, -, -, hst, -⟩ := writeOutcome_writes h
  rw [conclude_of_ok h]
  exact ⟨rfl, rfl, job', hw.self, hst⟩

/-- **Outcomes settle the job.** In every run, whatever was requested or recorded since the
claim, an execution that still holds its job commits exactly one outcome transaction, lets
no exception escape and settles the job if and only if the outcome is not a retry with
attempts left under a requested pause or cancellation, nor a pause under a requested
cancellation. -/
theorem outcome_settles_iff {p : JobSystem × Holders}
    (hp : (fencedMachine settings).Reachable p) (he : p.1.executions[i]? = some e)
    (hheld : p.1.HeldBy p.2 i e) (outcome : Outcome) (now : Time) :
    (JobExecutor.conclude settings e outcome now p.1.db).Settles e.jobId ↔
      ∀ job ∈ p.1.db.jobs[e.jobId]?, ¬ outcome.Refused job := by
  have hfst : (machine settings).Reachable p.1 := Machine.withHistory_fst hp
  have hs := sound_of_reachable hfst
  obtain ⟨hholder, job, hjob, hattempt, hst⟩ := hheld
  obtain ⟨f, row, hf, -, hrow, ⟨hworker, -⟩, -, -⟩ := held_reachable hp _ _ hholder
  obtain rfl := Option.some.inj (hrow.symm.trans hjob)
  obtain rfl : e = f := Option.some.inj (he.symm.trans hf)
  constructor
  · intro hsettles job hjob hrefused
    obtain rfl := Option.some.inj (hrow.symm.trans hjob)
    cases h : writeOutcome settings e outcome now p.1.db with
    | ok db' => exact writeOutcome_ne_ok hrow hrefused h
    | error error =>
        rw [conclude_of_error (not_returned_of_refused hrefused) h] at hsettles
        exact absurd hsettles.1 (by simp)
  · intro haccepted
    have howned : row.status ∈ [JobStatus.running, .pauseRequested, .cancelRequested] := by
      have hleased := (hs.lifecycles _ row hrow).not_leased
      rw [Job.lifecycle_status] at hleased
      simp only [JobExecutor.heldStatuses, List.mem_cons, List.not_mem_nil, or_false] at hst ⊢
      exact hst.resolve_left hleased
    obtain ⟨db', hdb'⟩ :=
      writeOutcome_ok settings now hs hrow hworker howned (haccepted row hrow)
    exact settles_of_ok hdb'

/-! ### Requests before the outcome -/

/-- A request is committed while the handler runs. -/
def requestedWhileRunning (request : Action) : List Action :=
  [.create sampleRequest 0, .claim 0 "w" 1, request]

/-- A job that was asked to pause is left `PAUSE_REQUESTED` by an infrastructure error, and the
exception of the outcome writer escapes. -/
theorem outcome_settles_fails :
    ¬ ∀ p, (fencedMachine Settings.defaults).Reachable p → ∀ (i : ℕ) (e : Execution),
      p.1.executions[i]? = some e → p.1.HeldBy p.2 i e → ∀ (outcome : Outcome) (now : Time),
        (JobExecutor.conclude Settings.defaults e outcome now p.1.db).Settles e.jobId := by
  intro h
  obtain ⟨p, hp, e, he, hheld, hfails⟩ :=
    (fencedMachine Settings.defaults).exists_reachable (requestedWhileRunning (.requestPause 0 2))
      (fun p => ∃ e ∈ p.1.executions[0]?, p.1.HeldBy p.2 0 e ∧
        ¬ (JobExecutor.conclude Settings.defaults e (.retryable ⟨"OperationalError", ""⟩) 3
          p.1.db).Settles e.jobId)
      (fencedMachine_init_empty _) (by decide)
  exact hfails (h p hp 0 e he hheld _ 3)

/-- A job that was asked to stop is cancelled when its handler notices. -/
theorem outcome_settles_cancelled :
    ∃ p, (fencedMachine Settings.defaults).Reachable p ∧ ∃ e ∈ p.1.executions[0]?,
      (JobExecutor.conclude Settings.defaults e .cancelled 3 p.1.db).Settles e.jobId := by
  obtain ⟨p, hp, e, he, hheld⟩ :=
    (fencedMachine Settings.defaults).exists_reachable (requestedWhileRunning (.requestCancel 0 2))
      (fun p => ∃ e ∈ p.1.executions[0]?, p.1.HeldBy p.2 0 e)
      (fencedMachine_init_empty _) (by decide)
  exact ⟨p, hp, e, he, (outcome_settles_iff hp he hheld .cancelled 3).mpr fun _ _ hrefused =>
    hrefused⟩

end JobSystem

end StoryForge
