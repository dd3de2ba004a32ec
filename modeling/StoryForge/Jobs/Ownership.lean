import StoryForge.Jobs.Control

/-!
# Claims of outbox rows

A dispatcher claims rows in one transaction, calls the broker, and reports on each row in a
transaction of its own. A claim that is older than the lease may be taken over by the next
`claim_batch`. The reports look the row up by id and compare no claim: `_record_published`
only stops at a row that is `PUBLISHED`, and `_record_failure` at nothing. So a slow
dispatcher can reopen or fail a row that another one has taken over and published.

The round that holds a row is a history variable here, as the holder of a job is in
`Fencing`. A second way to lose a delivery needs no slow dispatcher: a job that was queued
through an older row keeps its status when its latest row uses up its attempts.

## Main results

* `JobSystem.next_outbox` — what each action does to each outbox row;
* `JobSystem.claimed_of_reachable` — a row still to be reported on by the round that claimed
  it last is `CLAIMED` by its dispatcher;
* `JobSystem.claims_owned` — ownership of reports, reopening of published rows and
  recoverability of queued jobs, in runs without late reports and without such failures;
* `JobSystem.claims_owned_fails` — a late failure report reopens a published row.
-/

namespace StoryForge

open Lifecycle

/-! ### How the outbox changes -/

/-- Every row of `rows` is still there in `rows'`, as it was or changed as `allowed` says,
and the other rows of `rows'` are pending. -/
structure OutboxMoves (allowed : ℕ → OutboxMessage → OutboxMessage → Prop)
    (rows rows' : List OutboxMessage) : Prop where
  moves : ∀ (r : ℕ) (row : OutboxMessage), rows[r]? = some row →
    ∃ row', rows'[r]? = some row' ∧ row.SameIntent row' ∧ (row' = row ∨ allowed r row row')
  fresh : ∀ (r : ℕ) (row' : OutboxMessage), rows'[r]? = some row' → rows[r]? = none →
    row'.status = .pending

namespace OutboxMoves

variable {allowed : ℕ → OutboxMessage → OutboxMessage → Prop} {rows rows' : List OutboxMessage}
  {db db' : Database} {r : ℕ} {row row' : OutboxMessage}

theorem refl (rows : List OutboxMessage) : OutboxMoves allowed rows rows where
  moves _ row hrow := ⟨row, hrow, .refl row, .inl rfl⟩
  fresh _ row' hrow' hnone := absurd (hrow'.symm.trans hnone) (by simp)

theorem of_eq (h : rows' = rows) : OutboxMoves allowed rows rows' := h ▸ refl _

/-- Pending rows are appended. -/
theorem of_append {new : List OutboxMessage} (h : rows' = rows ++ new)
    (hnew : ∀ row ∈ new, row.status = .pending) : OutboxMoves allowed rows rows' where
  moves r row hrow := by
    refine ⟨row, ?_, .refl row, .inl rfl⟩
    rw [h, List.getElem?_append_left (List.getElem?_eq_some_iff.mp hrow).1]
    exact hrow
  fresh r row' hrow' hnone := by
    rw [h, List.getElem?_append_right (List.getElem?_eq_none_iff.mp hnone)] at hrow'
    exact hnew row' (List.mem_of_getElem? hrow')

/-- One row changes. -/
theorem of_delivers (hd : Delivers db db' r row row') (hallowed : allowed r row row') :
    OutboxMoves allowed db.outbox db'.outbox where
  moves k old hold := by
    by_cases hk : k = r
    · subst hk
      obtain rfl := Option.some.inj (hd.found.symm.trans hold)
      exact ⟨row', hd.self, hd.intent, .inr hallowed⟩
    · exact ⟨old, (hd.other hk).trans hold, .refl old, .inl rfl⟩
  fresh k new hnew hnone := by
    rcases hd.cases hnew with ⟨rfl, -⟩ | ⟨-, hold⟩
    · exact absurd (hd.found.symm.trans hnone) (by simp)
    · exact absurd (hold.symm.trans hnone) (by simp)

/-- One more transaction appends pending rows. -/
theorem append {new : List OutboxMessage} (h : OutboxMoves allowed rows rows')
    (hnew : ∀ row ∈ new, row.status = .pending) : OutboxMoves allowed rows (rows' ++ new) where
  moves k row hrow := by
    obtain ⟨row', hrow', hsame, hchange⟩ := h.moves k row hrow
    refine ⟨row', ?_, hsame, hchange⟩
    rw [List.getElem?_append_left (List.getElem?_eq_some_iff.mp hrow').1]
    exact hrow'
  fresh k row' hrow' hnone := by
    rw [List.getElem?_append] at hrow'
    split at hrow'
    · exact h.fresh k row' hrow' hnone
    · exact hnew row' (List.mem_of_getElem? hrow')

/-- One more transaction changes one row, which makes it pending. -/
theorem delivers (h : OutboxMoves allowed rows db.outbox) (hd : Delivers db db' r row row')
    (hpending : row'.status = .pending)
    (hallowed : ∀ old, row = old ∨ allowed r old row → allowed r old row') :
    OutboxMoves allowed rows db'.outbox where
  moves k old hold := by
    obtain ⟨mid, hmid, hsame, hchange⟩ := h.moves k old hold
    by_cases hk : k = r
    · subst hk
      obtain rfl := Option.some.inj (hd.found.symm.trans hmid)
      exact ⟨row', hd.self, ⟨hd.intent.1.trans hsame.1, hd.intent.2.trans hsame.2⟩,
        .inr (hallowed old hchange)⟩
    · exact ⟨mid, (hd.other hk).trans hmid, hsame, hchange⟩
  fresh k new hnew hnone := by
    rcases hd.cases hnew with ⟨-, rfl⟩ | ⟨-, hold⟩
    · exact hpending
    · exact h.fresh k new hold hnone

end OutboxMoves

/-- Rows requesting a delivery are pending. -/
theorem Enqueues.pending {db : Database} {j : ℕ} {reason : EnqueueReason}
    {rows : List OutboxMessage} (h : Enqueues db j reason rows) :
    ∀ row ∈ rows, row.status = .pending := by
  intro row hrow
  rcases h with ⟨rfl, -⟩ | ⟨row₀, rfl, hreq⟩
  · exact absurd hrow (by simp)
  · rw [List.mem_singleton.mp hrow]
    exact hreq.status

theorem Retries.pending {j : ℕ} {job job' : Job} {rows : List OutboxMessage}
    (h : Retries j job job' rows) : ∀ row ∈ rows, row.status = .pending := by
  intro row hrow
  rcases h with ⟨-, rfl⟩ | ⟨-, row₀, rfl, hreq⟩
  · exact absurd hrow (by simp)
  · rw [List.mem_singleton.mp hrow]
    exact hreq.status

/-- Claiming a batch claims the rows it returns and touches no other. -/
theorem OutboxDispatcher.claim_getElem? (settings : Settings) (dispatcherId : String)
    (now : Time) (db : Database) (r : ℕ) :
    (claim settings dispatcherId now db).2.outbox[r]? =
      if r ∈ (claim settings dispatcherId now db).1 then
        db.outbox[r]?.map (OutboxRepository.claimRow dispatcherId now)
      else db.outbox[r]? :=
  Rows.getElem?_foldl_modify Rows.selectBy_nodup _ _ _

theorem OutboxDispatcher.claim_rowIds (settings : Settings) (dispatcherId : String) (now : Time)
    (db : Database) : (claim settings dispatcherId now db).1 =
      OutboxRepository.claimCandidates (staleClaimCutoff now settings.jobLease) now
        settings.outboxBatchSize db := rfl

/-- A batch lists existing rows, none twice. -/
theorem OutboxDispatcher.claim_nodup (settings : Settings) (dispatcherId : String) (now : Time)
    (db : Database) : (claim settings dispatcherId now db).1.Nodup := by
  rw [claim_rowIds]
  exact Rows.selectBy_nodup

theorem OutboxDispatcher.mem_claim {settings : Settings} {dispatcherId : String} {now : Time}
    {db : Database} {r : ℕ} (h : r ∈ (claim settings dispatcherId now db).1) :
    ∃ row, db.outbox[r]? = some row := by
  rw [claim_rowIds] at h
  exact (Rows.mem_selectBy h).imp fun _ hrow => hrow.1

/-- No published row is claimed. -/
theorem OutboxDispatcher.claimable_of_mem {settings : Settings} {dispatcherId : String}
    {now : Time} {db : Database} {r : ℕ} {row : OutboxMessage}
    (h : r ∈ (claim settings dispatcherId now db).1) (hrow : db.outbox[r]? = some row) :
    row.status ≠ .published := by
  rw [claim_rowIds] at h
  obtain ⟨old, hold, hclaimable⟩ := Rows.mem_selectBy h
  obtain rfl := Option.some.inj (hold.symm.trans hrow)
  intro hpublished
  simp [OutboxRepository.claimable, hpublished] at hclaimable

theorem OutboxDispatcher.claim_moves (settings : Settings) (dispatcherId : String)
    (now : Time) (db : Database) :
    OutboxMoves (fun r row row' => r ∈ (claim settings dispatcherId now db).1 ∧
        row' = OutboxRepository.claimRow dispatcherId now row)
      db.outbox (claim settings dispatcherId now db).2.outbox where
  moves r row hrow := by
    rw [claim_getElem?, hrow]
    split
    · rename_i hmem
      exact ⟨_, rfl, ⟨rfl, rfl⟩, .inr ⟨hmem, rfl⟩⟩
    · exact ⟨row, rfl, .refl row, .inl rfl⟩
  fresh r row' hrow' hnone := by
    rw [claim_getElem?, hnone] at hrow'
    split at hrow' <;> exact absurd hrow' (by simp)

/-- The latest row of a job is the last one addressed to it. -/
theorem OutboxRepository.latestForJob_eq_some {db : Database} {j r : ℕ} :
    latestForJob db j = some r ↔
      (∃ row : OutboxMessage, db.outbox[r]? = some row ∧ row.aggregateId = j) ∧
        ∀ (k : ℕ) (row : OutboxMessage), db.outbox[k]? = some row → row.aggregateId = j →
          k ≤ r := by
  unfold latestForJob
  rw [Rows.getLast?_idsWhere]
  simp only [Rows.mem_idsWhere, beq_iff_eq]
  constructor
  · rintro ⟨hself, hmax⟩
    exact ⟨hself, fun k row hrow haddr => hmax k ⟨row, hrow, haddr⟩⟩
  · rintro ⟨hself, hmax⟩
    refine ⟨hself, ?_⟩
    rintro k ⟨row, hrow, haddr⟩
    exact hmax k row hrow haddr

/-- The reports of a dispatch round: a publication or a failed one. -/
def Action.Reports (a : Action) (i : ℕ) : Prop :=
  match a with
  | .published k _ | .publishFailed k _ _ => k = i
  | _ => False

namespace JobSystem

variable {settings : Settings} {s s' : JobSystem} {a : Action} {i j r : ℕ}

/-- What an action may make of an outbox row. -/
def allowedDeliveries (settings : Settings) (s : JobSystem) (a : Action) (r : ℕ)
    (row row' : OutboxMessage) : Prop :=
  match a with
  | .claimBatch dispatcherId now =>
      r ∈ (OutboxDispatcher.claim settings dispatcherId now s.db).1 ∧
        row' = OutboxRepository.claimRow dispatcherId now row
  | .published i _ => s.nextRow i = some r ∧ row.status ≠ .published ∧ row'.status = .published
  | .publishFailed i _ _ => s.nextRow i = some r ∧
      (row'.status = .pending ∨ row'.status = .failed ∧ settings.jobMaxAttempts ≤ row.attempt)
  | .recoverStranded _ => row.status = .published ∧ row'.status = .pending
  | _ => False

/-- What a step makes of the outbox, when it committed `db'`. -/
abbrev OutboxStep (settings : Settings) (s : JobSystem) (a : Action) (db' : Database) : Prop :=
  OutboxMoves (allowedDeliveries settings s a) s.db.outbox db'.outbox

theorem outboxStep_of_writes {db' : Database} {job job' : Job} {rows : List OutboxMessage}
    (hw : Writes s.db db' j job job' rows) (hrows : ∀ row ∈ rows, row.status = .pending) :
    OutboxStep settings s a db' := .of_append hw.outbox hrows

theorem outboxStep_of_writes_nil {db' : Database} {job job' : Job}
    (hw : Writes s.db db' j job job' []) : OutboxStep settings s a db' :=
  outboxStep_of_writes hw (by simp)

/-- **One step, seen from the outbox.** -/
theorem next_outbox (h : next settings s a = some s') :
    OutboxStep settings s a s'.db := by
  cases a with
  | create request now =>
      obtain rfl := Option.some.inj h
      refine commitOr_db (.refl _) fun db' hdb' => ?_
      obtain ⟨r, hr, rfl⟩ := Except.map_eq_ok.mp hdb'
      obtain ⟨job, rows, -, houtbox, hrows, -, -⟩ := JobService.insert_eq_ok hr
      exact .of_append houtbox hrows.pending
  | requestCancel jobId now =>
      obtain rfl := Option.some.inj h
      refine commitOr_db (.refl _) fun db' hdb' => ?_
      obtain ⟨job, job', hw, -, -⟩ := JobService.requestCancel_writes hdb'
      exact outboxStep_of_writes_nil hw
  | requestPause jobId now =>
      obtain rfl := Option.some.inj h
      refine commitOr_db (.refl _) fun db' hdb' => ?_
      obtain ⟨job, job', hw, -, -⟩ := JobService.requestPause_writes hdb'
      exact outboxStep_of_writes_nil hw
  | resume jobId now =>
      obtain rfl := Option.some.inj h
      refine commitOr_db (.refl _) fun db' hdb' => ?_
      obtain ⟨job, job', rows, hw, hrows, -, -⟩ := JobService.resume_writes hdb'
      exact outboxStep_of_writes hw hrows.pending
  | retryDeadLetter jobId now =>
      obtain rfl := Option.some.inj h
      refine commitOr_db (.refl _) fun db' hdb' => ?_
      obtain ⟨job, job', rows, hw, hrows, -, -⟩ := JobService.retryDeadLetter_writes hdb'
      exact outboxStep_of_writes hw hrows.pending
  | discardDeadLetter jobId =>
      obtain rfl := Option.some.inj h
      refine commitOr_db (.refl _) fun db' hdb' => ?_
      obtain ⟨job, job', hw, -⟩ := JobService.discardDeadLetter_writes hdb'
      exact outboxStep_of_writes_nil hw
  | claimBatch dispatcherId now =>
      obtain rfl := Option.some.inj h
      exact OutboxDispatcher.claim_moves settings dispatcherId now s.db
  | published dispatch now =>
      obtain ⟨rowId, hrow, rfl⟩ := Option.map_eq_some_iff.mp h
      rcases OutboxDispatcher.recordPublished_cases rowId now s.db with
        heq | ⟨row, row', hd, hstatus, -⟩
      · exact .of_eq (by dsimp only; rw [heq])
      · exact .of_delivers hd ⟨hrow, hstatus⟩
  | publishFailed dispatch error now =>
      obtain ⟨rowId, hrow, rfl⟩ := Option.map_eq_some_iff.mp h
      refine commitOr_db (.refl _) fun db' hdb' => ?_
      rcases OutboxDispatcher.recordFailure_cases hdb' with rfl | ⟨row, row', hd, hstatus, -⟩
      · exact .refl _
      · exact .of_delivers hd ⟨hrow, hstatus⟩
  | recoverStranded now =>
      obtain rfl := Option.some.inj h
      refine commitOr_db (.refl _) fun db' hdb' => recoverStranded_induction
        (I := fun b => OutboxStep settings s (.recoverStranded now) b) (.refl _) ?_ hdb'
      rintro b b' i r row row' hb - hd - ⟨hpublished, hpending⟩ -
      refine hb.delivers hd hpending fun old hchange => ?_
      rcases hchange with rfl | ⟨-, hst⟩
      · exact ⟨hpublished, hpending⟩
      · exact absurd (hst.symm.trans hpublished) (by simp)
  | claim jobId workerId now =>
      simp only [next] at h
      split at h
      · rename_i db' hdb'
        obtain rfl := Option.some.inj h
        obtain ⟨job, job', hw, -, -⟩ := JobExecutor.claim_writes hdb'
        exact outboxStep_of_writes_nil hw
      · obtain rfl := Option.some.inj h
        exact .refl _
  | heartbeat i now =>
      obtain ⟨e, -, rfl⟩ := Option.map_eq_some_iff.mp h
      rcases JobExecutor.heartbeat_cases settings e.jobId e.workerId now s.db with
        heq | ⟨job, job', hw, -, -⟩
      · exact .of_eq (by dsimp only; rw [heq])
      · exact outboxStep_of_writes_nil hw
  | recordEvent i event =>
      obtain ⟨e, -, rfl⟩ := Option.map_eq_some_iff.mp h
      refine commitOr_db (.refl _) fun db' hdb' => ?_
      obtain ⟨job, job', hw, -⟩ := JobService.recordEvent_writes hdb'
      exact outboxStep_of_writes_nil hw
  | linkWorkflow i workflowRunId =>
      obtain ⟨e, -, rfl⟩ := Option.map_eq_some_iff.mp h
      refine commitOr_db (.refl _) fun db' hdb' => ?_
      rcases linkWorkflow_cases hdb' with rfl | ⟨job, job', hw, -⟩
      · exact .refl _
      · exact outboxStep_of_writes_nil hw
  | finish i outcome now =>
      obtain ⟨e, -, hs'⟩ := Option.map_eq_some_iff.mp h
      split at hs'
      · rename_i db' hdb'
        subst hs'
        obtain ⟨job, job', rows, hw, -, -, -, hrows⟩ := writeOutcome_writes hdb'
        rcases hrows with ⟨rfl, -⟩ | ⟨hretries, -⟩
        · exact outboxStep_of_writes_nil hw
        · exact outboxStep_of_writes hw hretries.pending
      · subst hs'
        exact .refl _
  | failAfter i now =>
      obtain ⟨e, -, hs'⟩ := Option.bind_eq_some_iff.mp h
      split at hs'
      · obtain rfl := Option.some.inj hs'
        refine commitOr_db (s := s.setPhase i .finished) (.refl _) fun db' hdb' => ?_
        obtain ⟨job, job', hw, -, -, -⟩ := JobExecutor.fail_writes hdb'
        exact outboxStep_of_writes_nil hw
      · exact absurd hs' (by simp)
  | crash i =>
      obtain ⟨e, -, rfl⟩ := Option.map_eq_some_iff.mp h
      exact .refl _
  | recoverExpired now =>
      obtain rfl := Option.some.inj h
      refine commitOr_db (.refl _) fun db' hdb' => recoverExpired_induction
        (I := fun b => OutboxStep settings s (.recoverExpired now) b) (.refl _) ?_ hdb'
      rintro b b' i job job' rows - hb - hw - hrows
      rw [OutboxStep, hw.outbox]
      exact hb.append hrows.pending
  | environment projects chapters workflowRuns =>
      obtain rfl := Option.some.inj h
      exact .refl _

/-! ### Rounds and their claims -/

/-- The rounds after an action: a claim starts one, a report takes the next row of its own. -/
def roundsAfter (settings : Settings) (s : JobSystem) (a : Action) : List Dispatch :=
  match a with
  | .claimBatch dispatcherId now =>
      s.dispatches ++ [⟨dispatcherId, (OutboxDispatcher.claim settings dispatcherId now s.db).1⟩]
  | .published i _ | .publishFailed i _ _ => (s.dropRow i).dispatches
  | _ => s.dispatches

theorem next_dispatches (h : next settings s a = some s') :
    s'.dispatches = roundsAfter settings s a := by
  have hcommit (t : JobSystem) (x : Except Error Database) :
      (t.commitOr x).dispatches = t.dispatches := by
    unfold commitOr
    split <;> rfl
  cases a with
  | claimBatch dispatcherId now =>
      obtain rfl := Option.some.inj h
      rfl
  | published i now =>
      obtain ⟨rowId, -, rfl⟩ := Option.map_eq_some_iff.mp h
      rfl
  | publishFailed i error now =>
      obtain ⟨rowId, -, rfl⟩ := Option.map_eq_some_iff.mp h
      exact hcommit _ _
  | claim jobId workerId now =>
      simp only [next] at h
      split at h <;> obtain rfl := Option.some.inj h <;> rfl
  | heartbeat i now =>
      obtain ⟨e, -, rfl⟩ := Option.map_eq_some_iff.mp h
      rfl
  | recordEvent i event =>
      obtain ⟨e, -, rfl⟩ := Option.map_eq_some_iff.mp h
      exact hcommit _ _
  | linkWorkflow i workflowRunId =>
      obtain ⟨e, -, rfl⟩ := Option.map_eq_some_iff.mp h
      exact hcommit _ _
  | finish i outcome now =>
      obtain ⟨e, -, hs'⟩ := Option.map_eq_some_iff.mp h
      split at hs' <;> subst hs' <;> rfl
  | failAfter i now =>
      obtain ⟨e, -, hs'⟩ := Option.bind_eq_some_iff.mp h
      split at hs'
      · obtain rfl := Option.some.inj hs'
        exact hcommit _ _
      · exact absurd hs' (by simp)
  | crash i =>
      obtain ⟨e, -, rfl⟩ := Option.map_eq_some_iff.mp h
      rfl
  | environment projects chapters workflowRuns =>
      obtain rfl := Option.some.inj h
      rfl
  | _ =>
      obtain rfl := Option.some.inj h
      exact hcommit _ _

/-- The round that claimed each row last. -/
abbrev Claimants := ℕ → Option ℕ

/-- A claim makes its round the claimant of the rows it took. -/
def recordClaimant (claimant : Claimants) (s : JobSystem) (_ : Action) (s' : JobSystem) :
    Claimants :=
  fun r =>
    if (s'.dispatches[s.dispatches.length]?).any (r ∈ ·.rowIds) then some s.dispatches.length
    else claimant r

/-- The job system with the claimants as history. -/
def ownedMachine (settings : Settings) : Machine (JobSystem × Claimants) Action :=
  (machine settings).withHistory (fun _ _ => none) recordClaimant

theorem ownedMachine_init_empty (settings : Settings) :
    (ownedMachine settings).init (empty, fun _ => none) :=
  ⟨machine_init_empty settings, rfl⟩

/-- Round `i` holds row `r`: nobody claimed the row after it, and the row is still claimed
under its dispatcher. -/
def HoldsRow (s : JobSystem) (claimant : Claimants) (i r : ℕ) : Prop :=
  claimant r = some i ∧ ∃ d ∈ s.dispatches[i]?, ∃ row ∈ s.db.outbox[r]?,
    row.status = .claimed ∧ row.claimedBy = some d.dispatcherId

instance (s : JobSystem) (claimant : Claimants) (i r : ℕ) :
    Decidable (s.HoldsRow claimant i r) :=
  inferInstanceAs (Decidable (_ ∧ _))

/-- Rounds list no row twice, and a row that the round which claimed it last has still to
report on is held by that round. -/
structure Claimed (s : JobSystem) (claimant : Claimants) : Prop where
  nodup : ∀ (i : ℕ) (d : Dispatch), s.dispatches[i]? = some d → d.rowIds.Nodup
  known : ∀ r i, claimant r = some i → i < s.dispatches.length
  held : ∀ (i : ℕ) (d : Dispatch) (r : ℕ), s.dispatches[i]? = some d → r ∈ d.rowIds →
    claimant r = some i → ∃ row ∈ s.db.outbox[r]?,
      row.status = .claimed ∧ row.claimedBy = some d.dispatcherId

/-- A report is in time when nobody claimed its row after the round that reports. A late
publication of a row that is published by then is harmless. -/
def Timely (s : JobSystem) (claimant : Claimants) (a : Action) : Prop :=
  match a with
  | .published i _ => ∀ r ∈ s.nextRow i, claimant r = some i ∨
      ∃ row ∈ s.db.outbox[r]?, row.status = .published
  | .publishFailed i _ _ => ∀ r ∈ s.nextRow i, claimant r = some i
  | _ => True

instance (s : JobSystem) (claimant : Claimants) (a : Action) :
    Decidable (s.Timely claimant a) := by
  unfold Timely; split <;> infer_instance

variable {claimant : Claimants} {d : Dispatch} {row row' : OutboxMessage}

/-- The row a round reports on next is one of its rows. -/
theorem mem_of_nextRow (h : s.nextRow i = some r) :
    ∃ d, s.dispatches[i]? = some d ∧ d.rowIds = r :: d.rowIds.tail := by
  obtain ⟨d, hd, hhead⟩ := Option.bind_eq_some_iff.mp h
  exact ⟨d, hd, (List.cons_head?_tail hhead).symm⟩

/-- The rows a round still has to report on after its report. -/
theorem dropRow_getElem? (h : (s.dropRow i).dispatches[j]? = some d) :
    ∃ d₀, s.dispatches[j]? = some d₀ ∧ d.dispatcherId = d₀.dispatcherId ∧
      d.rowIds = if i = j then d₀.rowIds.tail else d₀.rowIds := by
  rw [dropRow, List.getElem?_modify] at h
  obtain ⟨d₀, hd₀, rfl⟩ := Option.map_eq_some_iff.mp h
  refine ⟨d₀, hd₀, ?_, ?_⟩ <;> split <;> rfl

/-- Without a claim of a batch the claimants stay. -/
theorem recordClaimant_of_length (h : s'.dispatches.length ≤ s.dispatches.length) :
    recordClaimant claimant s a s' = claimant := by
  funext r
  unfold recordClaimant
  rw [List.getElem?_eq_none h, if_neg (by simp)]

/-- A row that stays claimed by the same dispatcher through a step that does not change it. -/
theorem row_of_unchanged (hnext : next settings s a = some s') (hrow : s.db.outbox[r]? = some row)
    (hsame : ∀ row', ¬ allowedDeliveries settings s a r row row') : s'.db.outbox[r]? = some row := by
  obtain ⟨row', hrow', -, heq | hallowed⟩ := (next_outbox hnext).moves r row hrow
  · exact heq ▸ hrow'
  · exact absurd hallowed (hsame row')

/-- Reports keep rounds and claims in order when they are in time. -/
theorem claimed_of_report (hc : s.Claimed claimant) (hnext : next settings s a = some s')
    (hrounds : s'.dispatches = (s.dropRow i).dispatches)
    (htimely : ∀ r ∈ s.nextRow i, claimant r = some i ∨
      ∃ row ∈ s.db.outbox[r]?, row.status = .published)
    (hallowed : ∀ r row row', allowedDeliveries settings s a r row row' → s.nextRow i = some r) :
    s'.Claimed (recordClaimant claimant s a s') := by
  have hlength : s'.dispatches.length = s.dispatches.length := by
    rw [hrounds, dropRow, List.length_modify]
  rw [recordClaimant_of_length (Nat.le_of_eq hlength)]
  refine ⟨fun k d hd => ?_, fun r k hr => hlength ▸ hc.known r k hr, fun k d r hd hmem hr => ?_⟩
  · rw [hrounds] at hd
    obtain ⟨d₀, hd₀, -, hrows⟩ := dropRow_getElem? hd
    rw [hrows]
    split
    · exact (hc.nodup k d₀ hd₀).tail
    · exact hc.nodup k d₀ hd₀
  · rw [hrounds] at hd
    obtain ⟨d₀, hd₀, hdispatcher, hrows⟩ := dropRow_getElem? hd
    have hmem₀ : r ∈ d₀.rowIds := by
      rw [hrows] at hmem
      split at hmem
      · exact List.mem_of_mem_tail hmem
      · exact hmem
    obtain ⟨row, hrow, hst, hby⟩ := hc.held k d₀ r hd₀ hmem₀ hr
    refine ⟨row, row_of_unchanged hnext hrow fun row' hchange => ?_, hst, hdispatcher ▸ hby⟩
    have hhead := hallowed r row row' hchange
    by_cases hik : i = k
    · subst hik
      obtain ⟨d₁, hd₁, hcons⟩ := mem_of_nextRow hhead
      obtain rfl := Option.some.inj (hd₀.symm.trans hd₁)
      have hnodup := hc.nodup i d₀ hd₀
      rw [hcons] at hnodup
      rw [hrows, if_pos rfl] at hmem
      exact (List.nodup_cons.mp hnodup).1 hmem
    · rcases htimely r hhead with hclaimant | ⟨old, hold, hpublished⟩
      · exact hik (Option.some.inj (hclaimant.symm.trans hr))
      · obtain rfl := Option.some.inj (hold.symm.trans hrow)
        exact absurd (hst.symm.trans hpublished) (by simp)

/-- Steps without a claim or a report change no claimed row. -/
theorem claimed_of_other (hc : s.Claimed claimant) (hnext : next settings s a = some s')
    (hrounds : s'.dispatches = s.dispatches)
    (hallowed : ∀ r row row', allowedDeliveries settings s a r row row' → row.status ≠ .claimed) :
    s'.Claimed (recordClaimant claimant s a s') := by
  rw [recordClaimant_of_length (Nat.le_of_eq (by rw [hrounds]))]
  refine ⟨hrounds ▸ hc.nodup, hrounds ▸ hc.known, fun k d r hd hmem hr => ?_⟩
  obtain ⟨row, hrow, hst, hby⟩ := hc.held k d r (hrounds ▸ hd) hmem hr
  exact ⟨row, row_of_unchanged hnext hrow fun row' hchange => hallowed r row row' hchange hst,
    hst, hby⟩

/-- A claim starts a round that holds the rows it lists. -/
theorem claimed_of_claimBatch (hc : s.Claimed claimant) {dispatcherId : String} {now : Time}
    (hnext : next settings s (.claimBatch dispatcherId now) = some s') :
    s'.Claimed (recordClaimant claimant s (.claimBatch dispatcherId now) s') := by
  have hrounds := next_dispatches hnext
  simp only [roundsAfter] at hrounds
  have hclaimant (r : ℕ) : recordClaimant claimant s (.claimBatch dispatcherId now) s' r =
      if r ∈ (OutboxDispatcher.claim settings dispatcherId now s.db).1 then
        some s.dispatches.length
      else claimant r := by
    simp [recordClaimant, hrounds]
  have hcases {k : ℕ} {d : Dispatch} (hd : s'.dispatches[k]? = some d) :
      s.dispatches[k]? = some d ∨ k = s.dispatches.length ∧
        d = ⟨dispatcherId, (OutboxDispatcher.claim settings dispatcherId now s.db).1⟩ := by
    rw [hrounds, List.getElem?_append] at hd
    split at hd
    · exact .inl hd
    · rw [List.getElem?_singleton] at hd
      split at hd
      · exact .inr ⟨by omega, (Option.some.inj hd).symm⟩
      · exact absurd hd (by simp)
  refine ⟨fun k d hd => ?_, fun r k hr => ?_, fun k d r hd hmem hr => ?_⟩
  · rcases hcases hd with hold | ⟨-, rfl⟩
    · exact hc.nodup k d hold
    · exact OutboxDispatcher.claim_nodup settings dispatcherId now s.db
  · rw [hrounds, List.length_append, List.length_singleton]
    rw [hclaimant] at hr
    split at hr
    · obtain rfl := Option.some.inj hr
      omega
    · exact Nat.lt_succ_of_lt (hc.known r k hr)
  · rw [hclaimant] at hr
    rcases hcases hd with hold | ⟨rfl, rfl⟩
    · have hlt := (List.getElem?_eq_some_iff.mp hold).1
      split at hr
      · have := Option.some.inj hr
        omega
      · rename_i hnot
        obtain ⟨row, hrow, hst, hby⟩ := hc.held k d r hold hmem hr
        exact ⟨row, row_of_unchanged hnext hrow fun row' hchange => hnot hchange.1, hst, hby⟩
    · dsimp only at hmem
      obtain ⟨row, hrow⟩ := OutboxDispatcher.mem_claim hmem
      obtain rfl := Option.some.inj hnext
      refine ⟨OutboxRepository.claimRow dispatcherId now row, ?_, rfl, rfl⟩
      have hget := OutboxDispatcher.claim_getElem? settings dispatcherId now s.db r
      rw [if_pos hmem, hrow] at hget
      exact hget

/-- **One step keeps the claims in order** when its report, if it is one, is in time. -/
theorem claimed_next (hc : s.Claimed claimant) (htimely : s.Timely claimant a)
    (hnext : next settings s a = some s') : s'.Claimed (recordClaimant claimant s a s') := by
  cases a with
  | claimBatch dispatcherId now => exact claimed_of_claimBatch hc hnext
  | published i now =>
      exact claimed_of_report hc hnext (next_dispatches hnext) htimely fun _ _ _ h => h.1
  | publishFailed i error now =>
      exact claimed_of_report hc hnext (next_dispatches hnext) (fun r hr => .inl (htimely r hr))
        fun _ _ _ h => h.1
  | recoverStranded now =>
      exact claimed_of_other hc hnext (next_dispatches hnext) fun _ _ _ h => by simp [h.1]
  | _ => exact claimed_of_other hc hnext (next_dispatches hnext) fun _ _ _ h => absurd h id

/-- **A row still to be reported on is held by the round that claimed it last**, in runs with
reports in time. -/
theorem claimed_of_reachable {p : JobSystem × Claimants}
    {ok : JobSystem × Claimants → Action → Prop}
    (hok : ∀ p a, ok p a → p.1.Timely p.2 a) (hp : (ownedMachine settings).ReachableUnder ok p) :
    p.1.Claimed p.2 := by
  refine hp.invariant (I := fun p => p.1.Claimed p.2) (fun p hinit => ?_)
    fun p a p' _ hc hsafe hnext => ?_
  · obtain ⟨⟨-, -, -, -, hdispatches⟩, hclaimant⟩ := hinit
    exact ⟨by simp [hdispatches], by simp [hclaimant], by simp [hdispatches]⟩
  · obtain ⟨hstep, hclaimant⟩ := Machine.withHistory_next.mp hnext
    rw [hclaimant]
    exact claimed_next hc (hok p a hsafe) hstep

end JobSystem

/-! ### The latest row of a queued job -/

namespace OutboxRepository

variable {db db' : Database} {j r : ℕ} {row : OutboxMessage}

/-- A job with a row has a latest one. -/
theorem exists_latestForJob (hrow : db.outbox[r]? = some row) (haddr : row.aggregateId = j) :
    ∃ k, latestForJob db j = some k := by
  have hmem : r ∈ Rows.idsWhere db.outbox fun row => row.aggregateId == j :=
    Rows.mem_idsWhere.mpr ⟨row, hrow, beq_iff_eq.mpr haddr⟩
  exact ⟨_, List.getLast?_eq_some_getLast (List.ne_nil_of_mem hmem)⟩

/-- After a step, the latest row of a job is a new one, which is pending, or the one that was
the latest before. -/
theorem latestForJob_after {allowed : ℕ → OutboxMessage → OutboxMessage → Prop}
    (hmoves : OutboxMoves allowed db.outbox db'.outbox) (hrow : db.outbox[r]? = some row)
    (haddr : row.aggregateId = j) :
    ∃ k row', latestForJob db' j = some k ∧ db'.outbox[k]? = some row' ∧
      (row'.status = .pending ∨ ∃ old, latestForJob db j = some k ∧ db.outbox[k]? = some old ∧
        (row' = old ∨ allowed k old row')) := by
  obtain ⟨row₁, hrow₁, hsame₁, -⟩ := hmoves.moves r row hrow
  obtain ⟨k, hk⟩ := exists_latestForJob hrow₁ (hsame₁.aggregateId.trans haddr)
  obtain ⟨⟨row', hrow', haddr'⟩, hmax⟩ := latestForJob_eq_some.mp hk
  refine ⟨k, row', hk, hrow', ?_⟩
  cases hold : db.outbox[k]? with
  | none => exact .inl (hmoves.fresh k row' hrow' hold)
  | some old =>
      obtain ⟨row₂, hrow₂, hsame₂, hchange⟩ := hmoves.moves k old hold
      obtain rfl := Option.some.inj (hrow₂.symm.trans hrow')
      refine .inr ⟨old, latestForJob_eq_some.mpr ⟨⟨old, hold, ?_⟩, ?_⟩, rfl, hchange⟩
      · exact hsame₂.aggregateId.symm.trans haddr'
      · intro i earlier hearlier haddr₀
        obtain ⟨later, hlater, hsame, -⟩ := hmoves.moves i earlier hearlier
        exact hmax i later hlater (hsame.aggregateId.trans haddr₀)

end OutboxRepository

/-- A lost delivery of any queued job can be recovered: its latest row has not failed. -/
def Database.Recoverable (db : Database) : Prop :=
  ∀ (j : ℕ) (job : Job), db.jobs[j]? = some job → job.status = .queued →
    ∃ r row, OutboxRepository.latestForJob db j = some r ∧ db.outbox[r]? = some row ∧
      row.status ∈ [OutboxStatus.published, .pending, .claimed]

/-- Only a publication queues a job. -/
theorem Move.publish_of_queued {m : Move} {c : Lifecycle} (hguard : m.guard c)
    (hst : (m.apply c).status = .queued) : m = .publish := by
  cases m <;> simp_all [Move.guard, Move.apply]

namespace JobSystem

variable {settings : Settings} {s s' : JobSystem} {a : Action} {i j r : ℕ}
  {claimant : Claimants} {d : Dispatch} {row row' : OutboxMessage} {job' : Job}

/-- The latest row of a queued job is not given up, and no job is queued whose latest row was
given up: a failure on the last attempt does not meet the latest row of a `QUEUED` job, and
a publication that queues a job does not meet a later row that has `FAILED`. -/
def KeepsDelivery (settings : Settings) (s : JobSystem) (a : Action) : Prop :=
  match a with
  | .published i _ => ∀ r ∈ s.nextRow i, ∀ row ∈ s.db.outbox[r]?,
      ∀ job ∈ s.db.jobs[row.aggregateId]?, job.status ∈ waitingStatuses →
        ∀ k ∈ OutboxRepository.latestForJob s.db row.aggregateId, k ≠ r →
          ∀ last ∈ s.db.outbox[k]?, last.status ≠ .failed
  | .publishFailed i _ _ => ∀ r ∈ s.nextRow i, ∀ row ∈ s.db.outbox[r]?,
      settings.jobMaxAttempts ≤ row.attempt →
        OutboxRepository.latestForJob s.db row.aggregateId = some r →
          ∀ job ∈ s.db.jobs[row.aggregateId]?, job.status ≠ .queued
  | _ => True

instance (settings : Settings) (s : JobSystem) (a : Action) :
    Decidable (s.KeepsDelivery settings a) := by
  unfold KeepsDelivery; split <;> infer_instance

/-- The status of a row that has not failed. -/
theorem status_of_ne_failed {status : OutboxStatus} (h : status ≠ .failed) :
    status ∈ [OutboxStatus.published, .pending, .claimed] := by
  cases status <;> simp_all

/-- A job that stays queued stays recoverable. -/
theorem recoverable_of_queued (hc : s.db.Recoverable) (hsafe : s.KeepsDelivery settings a)
    (hnext : next settings s a = some s') {job : Job} (hjob : s.db.jobs[j]? = some job)
    (hqueued : job.status = .queued) :
    ∃ r row, OutboxRepository.latestForJob s'.db j = some r ∧ s'.db.outbox[r]? = some row ∧
      row.status ∈ [OutboxStatus.published, .pending, .claimed] := by
  obtain ⟨r, row, hlatest, hrow, hst⟩ := hc j job hjob hqueued
  have haddr := OutboxDispatcher.latestForJob_aggregateId hlatest hrow
  obtain ⟨k, row', hk, hrow', hpending | ⟨old, hkold, hold, hchange⟩⟩ :=
    OutboxRepository.latestForJob_after (next_outbox hnext) hrow haddr
  · exact ⟨k, row', hk, hrow', by simp [hpending]⟩
  obtain rfl := Option.some.inj (hlatest.symm.trans hkold)
  obtain rfl := Option.some.inj (hrow.symm.trans hold)
  refine ⟨r, row', hk, hrow', ?_⟩
  rcases hchange with rfl | hallowed
  · exact hst
  cases a with
  | claimBatch dispatcherId now =>
      rw [hallowed.2]
      simp [OutboxRepository.claimRow]
  | published i now => simp [hallowed.2.2]
  | publishFailed i error now =>
      obtain ⟨hhead, hpending | ⟨-, hspent⟩⟩ := hallowed
      · simp [hpending]
      · subst haddr
        exact absurd hqueued (hsafe r hhead row hrow hspent hlatest job hjob)
  | recoverStranded now => simp [hallowed.2]
  | _ => exact absurd hallowed id

/-- Only a published row queues a job. -/
theorem action_of_publish (h : allowedMoves settings s a j .publish) :
    ∃ i now, a = .published i now := by
  cases a with
  | finish k outcome now' =>
      obtain ⟨e, -, -, -, hm⟩ := h
      cases outcome <;> simp [Outcome.moves] at hm
  | _ => simp_all [allowedMoves]

/-- A job that is queued by a publication is recoverable. -/
theorem recoverable_of_publish {now : Time}
    (hsafe : s.KeepsDelivery settings (.published i now))
    (hnext : next settings s (.published i now) = some s') {job : Job}
    (hjob : s.db.jobs[j]? = some job) (hjob' : s'.db.jobs[j]? = some job')
    (hwaiting : job.status ∈ waitingStatuses) (hqueued : job'.status = .queued) :
    ∃ r row, OutboxRepository.latestForJob s'.db j = some r ∧ s'.db.outbox[r]? = some row ∧
      row.status ∈ [OutboxStatus.published, .pending, .claimed] := by
  have hmoves := next_outbox hnext
  obtain ⟨rowId, hhead, rfl⟩ := Option.map_eq_some_iff.mp hnext
  have hne : job'.status ≠ job.status := by
    rw [hqueued]
    intro heq
    rw [← heq] at hwaiting
    simp [waitingStatuses] at hwaiting
  rcases OutboxDispatcher.recordPublished_cases rowId now s.db with
    heq | ⟨row, row', hd, ⟨-, hpublished⟩, ⟨hjobs, -⟩ | ⟨old, new, hold, hset, -, -⟩⟩
  · dsimp only at hjob'
    rw [heq] at hjob'
    obtain rfl := Option.some.inj (hjob.symm.trans hjob')
    exact absurd rfl hne
  · dsimp only at hjob'
    rw [hjobs] at hjob'
    obtain rfl := Option.some.inj (hjob.symm.trans hjob')
    exact absurd rfl hne
  by_cases hj : j = row.aggregateId
  swap
  · dsimp only at hjob'
    rw [hset, List.getElem?_set_ne (Ne.symm hj)] at hjob'
    obtain rfl := Option.some.inj (hjob.symm.trans hjob')
    exact absurd rfl hne
  subst hj
  obtain ⟨k, last', hk, hlast', hpending | ⟨last, hklast, hlast, -⟩⟩ :=
    OutboxRepository.latestForJob_after hmoves hd.found rfl
  · exact ⟨k, last', hk, hlast', by simp [hpending]⟩
  refine ⟨k, last', hk, hlast', ?_⟩
  rcases hd.cases hlast' with ⟨-, rfl⟩ | ⟨hkr, hsame⟩
  · simp [hpublished]
  · obtain rfl := Option.some.inj (hlast.symm.trans hsame)
    exact status_of_ne_failed
      (hsafe rowId hhead row hd.found job hjob hwaiting k hklast hkr last hlast)

/-- **One step keeps queued jobs recoverable** under `KeepsDelivery`. -/
theorem recoverable_next (hs : s.db.Sound) (hc : s.db.Recoverable)
    (hsafe : s.KeepsDelivery settings a) (hnext : next settings s a = some s') :
    s'.db.Recoverable := by
  intro j job' hjob' hqueued
  rcases JobsStep.cases (next_change hs hnext).2 hjob' with ⟨job, hjob, hmoves⟩ | ⟨hnew, -⟩
  swap
  · exact absurd (hnew.symm.trans hqueued) (by simp)
  rcases hmoves with hsame | ⟨m, hallowed, hguard, happly⟩
  · have hst : job'.status = job.status := congrArg Lifecycle.status hsame
    exact recoverable_of_queued hc hsafe hnext hjob (hst.symm.trans hqueued)
  · have hst : (m.apply job.lifecycle).status = .queued :=
      (congrArg Lifecycle.status happly).symm.trans hqueued
    obtain rfl := Move.publish_of_queued hguard hst
    obtain ⟨i, now, rfl⟩ := action_of_publish hallowed
    exact recoverable_of_publish hsafe hnext hjob hjob' hguard hqueued

/-! ### The result -/

/-- The steps of a run without late reports and without failures that give up the delivery of
a queued job. -/
def ClaimSafe (settings : Settings) (p : JobSystem × Claimants) (a : Action) : Prop :=
  p.1.Timely p.2 a ∧ p.1.KeepsDelivery settings a

instance (settings : Settings) (p : JobSystem × Claimants) (a : Action) :
    Decidable (ClaimSafe settings p a) :=
  inferInstanceAs (Decidable (_ ∧ _))

variable {p : JobSystem × Claimants}

theorem recoverable_of_reachable (hp : (ownedMachine settings).ReachableUnder
    (ClaimSafe settings) p) : p.1.db.Recoverable := by
  refine hp.invariant (I := fun p => p.1.db.Recoverable) (fun p hinit => ?_)
    fun p a p' hp hc hsafe hnext => ?_
  · obtain ⟨⟨hjobs, -⟩, -⟩ := hinit
    intro j job hjob
    simp [hjobs] at hjob
  · have hreach : (machine settings).Reachable p.1 := Machine.withHistory_fst hp.reachable
    exact recoverable_next (sound_of_reachable hreach) hc hsafe.2
      (Machine.withHistory_next.mp hnext).1

/-- A report changes only the row its round reports on. -/
theorem row_of_report (hnext : next settings s a = some s') (hreports : a.Reports i)
    (hrow : s.db.outbox[r]? = some row) (hrow' : s'.db.outbox[r]? = some row')
    (hne : row' ≠ row) :
    s.nextRow i = some r ∧ allowedDeliveries settings s a r row row' := by
  obtain ⟨after, hafter, -, hchange⟩ := (next_outbox hnext).moves r row hrow
  obtain rfl := Option.some.inj (hafter.symm.trans hrow')
  have hallowed := hchange.resolve_left hne
  refine ⟨?_, hallowed⟩
  cases a with
  | published k now =>
      obtain rfl : k = i := hreports
      exact hallowed.1
  | publishFailed k error now =>
      obtain rfl : k = i := hreports
      exact hallowed.1
  | _ => exact absurd hreports id

/-- A report in time that changes a row is made by the round that claimed it last. -/
theorem claimant_of_report (htimely : s.Timely claimant a) (hreports : a.Reports i)
    (hhead : s.nextRow i = some r) (hrow : s.db.outbox[r]? = some row)
    (hallowed : allowedDeliveries settings s a r row row') : claimant r = some i := by
  cases a with
  | published k now =>
      obtain rfl : k = i := hreports
      refine (htimely r hhead).resolve_right ?_
      rintro ⟨old, hold, hpublished⟩
      obtain rfl := Option.some.inj (hold.symm.trans hrow)
      exact hallowed.2.1 hpublished
  | publishFailed k error now =>
      obtain rfl : k = i := hreports
      exact htimely r hhead
  | _ => exact absurd hreports id

/-- A row that a report in time changes is held by its round. -/
theorem holdsRow_of_report (hc : s.Claimed claimant) (htimely : s.Timely claimant a)
    (hnext : next settings s a = some s') (hreports : a.Reports i)
    (hrow : s.db.outbox[r]? = some row) (hrow' : s'.db.outbox[r]? = some row')
    (hne : row' ≠ row) : s.HoldsRow claimant i r := by
  obtain ⟨hhead, hallowed⟩ := row_of_report hnext hreports hrow hrow' hne
  have hclaimant := claimant_of_report htimely hreports hhead hrow hallowed
  obtain ⟨d, hd, hcons⟩ := mem_of_nextRow hhead
  have hmem : r ∈ d.rowIds := by
    rw [hcons]
    exact List.mem_cons_self
  exact ⟨hclaimant, d, hd, hc.held i d r hd hmem hclaimant⟩

/-- A published row stays published in a step with a report in time that is no sweep. -/
theorem published_stays (hc : s.Claimed claimant) (htimely : s.Timely claimant a)
    (hnext : next settings s a = some s') (hrow : s.db.outbox[r]? = some row)
    (hpublished : row.status = .published) (hrow' : s'.db.outbox[r]? = some row')
    (hreopened : row'.status ≠ .published) : ∃ now, a = .recoverStranded now := by
  obtain ⟨after, hafter, -, hchange⟩ := (next_outbox hnext).moves r row hrow
  obtain rfl := Option.some.inj (hafter.symm.trans hrow')
  have hne : after ≠ row := by
    rintro rfl
    exact hreopened hpublished
  have hallowed := hchange.resolve_left hne
  cases a with
  | recoverStranded now => exact ⟨now, rfl⟩
  | claimBatch dispatcherId now =>
      have hclaimable := OutboxDispatcher.claimable_of_mem hallowed.1 hrow
      exact absurd hpublished hclaimable
  | published k now => exact absurd hpublished hallowed.2.1
  | publishFailed k error now =>
      obtain ⟨-, d, -, old, hold, hclaimed, -⟩ :=
        holdsRow_of_report (i := k) hc htimely hnext rfl hrow hrow' hne
      obtain rfl := Option.some.inj (hold.symm.trans hrow)
      exact absurd (hclaimed.symm.trans hpublished) (by simp)
  | _ => exact absurd hallowed id

/-- **Claims are owned.** In every run without late reports and without failures that give
up the delivery of a queued job: a dispatcher changes a row only while it holds its claim,
only `recover_stranded` reopens a published row, and a lost delivery of a queued job can
always be recovered. -/
theorem claims_owned (hp : (ownedMachine settings).ReachableUnder (ClaimSafe settings) p) :
    (∀ (a : Action) (s' : JobSystem), ClaimSafe settings p a →
        next settings p.1 a = some s' →
        ∀ (r : ℕ) (row row' : OutboxMessage), p.1.db.outbox[r]? = some row →
          s'.db.outbox[r]? = some row' →
          (∀ i, a.Reports i → row' ≠ row → p.1.HoldsRow p.2 i r) ∧
            (row.status = .published → row'.status ≠ .published →
              ∃ now, a = .recoverStranded now)) ∧
      p.1.db.Recoverable := by
  have hc : p.1.Claimed p.2 := claimed_of_reachable (fun _ _ h => h.1) hp
  refine ⟨fun a s' hsafe hnext r row row' hrow hrow' => ⟨?_, ?_⟩,
    recoverable_of_reachable hp⟩
  · intro i hreports hne
    exact holdsRow_of_report hc hsafe.1 hnext hreports hrow hrow' hne
  · intro hpublished hreopened
    exact published_stays hc hsafe.1 hnext hrow hpublished hrow' hreopened

/-! ### A failure reported too late -/

/-- The first dispatcher is slow: its claim is taken over and the row published. -/
def takenOver : List Action :=
  [.create sampleRequest 0, .claimBatch "first" 1, .claimBatch "second" (seconds 120),
    .published 1 (seconds 121)]

/-- One dispatcher, whose broker call is in progress. -/
def claimedInTime : List Action :=
  [.create sampleRequest 0, .claimBatch "first" 1]

/-- The slow dispatcher reports a failure and reopens the published row. -/
theorem claims_owned_fails :
    ¬ ∀ p, (ownedMachine Settings.defaults).Reachable p → ∀ (a : Action) (s' : JobSystem),
      next Settings.defaults p.1 a = some s' →
      ∀ (r : ℕ) (row row' : OutboxMessage), p.1.db.outbox[r]? = some row →
        s'.db.outbox[r]? = some row' →
        (∀ i, a.Reports i → row' ≠ row → p.1.HoldsRow p.2 i r) ∧
          (row.status = .published → row'.status ≠ .published →
            ∃ now, a = .recoverStranded now) := by
  intro h
  obtain ⟨p, hp, s', hs', row, hrow, row', hrow', hpublished, hreopened⟩ :=
    (ownedMachine Settings.defaults).exists_reachable takenOver
      (fun p => ∃ s' ∈ next Settings.defaults p.1
          (.publishFailed 0 ⟨"ConnectionError", ""⟩ (seconds 122)),
        ∃ row ∈ p.1.db.outbox[0]?, ∃ row' ∈ s'.db.outbox[0]?,
          row.status = .published ∧ row'.status ≠ .published)
      (ownedMachine_init_empty _) (by decide)
  obtain ⟨now, hsweep⟩ := (h p hp _ s' hs' 0 row row' hrow hrow').2 hpublished hreopened
  exact absurd hsweep (by simp)

/-- A publication in time is recorded under the claim of its round. -/
theorem claims_owned_claimedInTime :
    ∃ p, (ownedMachine Settings.defaults).ReachableUnder (ClaimSafe Settings.defaults) p ∧
      p.1.HoldsRow p.2 0 0 ∧ p.1.db.Recoverable := by
  obtain ⟨p, hp, hsafe, s', hs', row, hrow, row', hrow', hne⟩ :=
    (ownedMachine Settings.defaults).exists_reachableUnder (ClaimSafe Settings.defaults)
      claimedInTime
      (fun p => ClaimSafe Settings.defaults p (.published 0 2) ∧
        ∃ s' ∈ next Settings.defaults p.1 (.published 0 2),
          ∃ row ∈ p.1.db.outbox[0]?, ∃ row' ∈ s'.db.outbox[0]?, row'.status ≠ row.status)
      (ownedMachine_init_empty _) (by decide)
  obtain ⟨howned, hrecoverable⟩ := claims_owned hp
  have hchanged : row' ≠ row := fun heq => hne (by rw [heq])
  exact ⟨p, hp, (howned _ s' hsafe hs' 0 row row' hrow hrow').1 0 rfl hchanged, hrecoverable⟩

end JobSystem

end StoryForge
