import StoryForge.Jobs.Effects

/-!
# What the dispatcher does to outbox rows and their jobs

The counterpart of `Effects` for the transactions of the dispatcher: which outbox row
changes, to which status, and what happens to the job it is addressed to.

## Main results

* `OutboxDispatcher.claim_intents` — claiming a batch keeps every row addressed to its job
  and open rows open;
* `OutboxDispatcher.recordPublished_cases`, `recordFailure_cases`,
  `recoverStrandedJob_cases` — the transactions on one row and its job.
-/

namespace StoryForge

open Lifecycle

/-- Whether a dispatcher can still publish a row. -/
def OutboxMessage.Dispatchable (row : OutboxMessage) : Prop :=
  row.status = .pending ∨ row.status = .claimed

instance (row : OutboxMessage) : Decidable row.Dispatchable :=
  inferInstanceAs (Decidable (_ ∨ _))

/-- Two versions of a row are the same intent. -/
structure OutboxMessage.SameIntent (row row' : OutboxMessage) : Prop where
  aggregateId : row'.aggregateId = row.aggregateId
  deduplicationKey : row'.deduplicationKey = row.deduplicationKey

theorem OutboxMessage.SameIntent.refl (row : OutboxMessage) : row.SameIntent row := ⟨rfl, rfl⟩

/-- `db'` is `db` with outbox row `r` changed from `row` to `row'`. -/
structure Delivers (db db' : Database) (r : ℕ) (row row' : OutboxMessage) : Prop where
  found : db.outbox[r]? = some row
  outbox : db'.outbox = db.outbox.set r row'
  intent : row.SameIntent row'

namespace Delivers

variable {db db' : Database} {r : ℕ} {row row' : OutboxMessage}

theorem self (h : Delivers db db' r row row') : db'.outbox[r]? = some row' := by
  rw [h.outbox, List.getElem?_set_self (List.getElem?_eq_some_iff.mp h.found).1]

theorem other (h : Delivers db db' r row row') {i : ℕ} (hi : i ≠ r) :
    db'.outbox[i]? = db.outbox[i]? := by
  rw [h.outbox, List.getElem?_set_ne (Ne.symm hi)]

/-- A row after the change is the changed one or an untouched one. -/
theorem cases (h : Delivers db db' r row row') {i : ℕ} {row₁ : OutboxMessage}
    (hi : db'.outbox[i]? = some row₁) :
    i = r ∧ row₁ = row' ∨ i ≠ r ∧ db.outbox[i]? = some row₁ := by
  rcases eq_or_ne i r with rfl | hne
  · exact .inl ⟨rfl, Option.some.inj (hi.symm.trans h.self)⟩
  · exact .inr ⟨hne, h.other hne ▸ hi⟩

end Delivers

/-- The job `j` makes the move `m` from `db` to `db'`; no other job changes. -/
def MovesJob (db db' : Database) (j : ℕ) (m : Move) : Prop :=
  ∃ job job', db.jobs[j]? = some job ∧ db'.jobs = db.jobs.set j job' ∧
    m.guard job.lifecycle ∧ job'.lifecycle = m.apply job.lifecycle

/-! ### Claiming a batch -/

/-- Every row after a claim is a row before it, still open if it was. -/
def KeepsIntents (rows rows' : List OutboxMessage) : Prop :=
  rows'.length = rows.length ∧
    ∀ (r : ℕ) (row : OutboxMessage), rows[r]? = some row →
      ∃ row' : OutboxMessage, rows'[r]? = some row' ∧ row.SameIntent row' ∧
        (row.Dispatchable → row'.Dispatchable)

theorem KeepsIntents.refl (rows : List OutboxMessage) : KeepsIntents rows rows :=
  ⟨rfl, fun _ row hrow => ⟨row, hrow, .refl row, id⟩⟩

theorem KeepsIntents.trans {rows rows₁ rows₂ : List OutboxMessage}
    (h₁ : KeepsIntents rows rows₁) (h₂ : KeepsIntents rows₁ rows₂) :
    KeepsIntents rows rows₂ := by
  refine ⟨h₂.1.trans h₁.1, fun r row hrow => ?_⟩
  obtain ⟨row₁, hrow₁, hsame₁, hopen₁⟩ := h₁.2 r row hrow
  obtain ⟨row₂, hrow₂, hsame₂, hopen₂⟩ := h₂.2 r row₁ hrow₁
  exact ⟨row₂, hrow₂,
    ⟨hsame₂.1.trans hsame₁.1, hsame₂.2.trans hsame₁.2⟩, hopen₂ ∘ hopen₁⟩

/-- Read backwards: every row after the claim comes from a row before it. -/
theorem KeepsIntents.back {rows rows' : List OutboxMessage} (h : KeepsIntents rows rows')
    {r : ℕ} {row' : OutboxMessage} (hrow' : rows'[r]? = some row') :
    ∃ row, rows[r]? = some row ∧ row.SameIntent row' := by
  have hlt : r < rows.length := h.1 ▸ (List.getElem?_eq_some_iff.mp hrow').1
  obtain ⟨row₁, hrow₁, hsame, -⟩ := h.2 r rows[r] (List.getElem?_eq_getElem hlt)
  obtain rfl := Option.some.inj (hrow'.symm.trans hrow₁)
  exact ⟨rows[r], List.getElem?_eq_getElem hlt, hsame⟩

namespace OutboxDispatcher

theorem claimRow_intents (rows : List OutboxMessage) (id : ℕ) (dispatcherId : String)
    (now : Time) :
    KeepsIntents rows (rows.modify id (OutboxRepository.claimRow dispatcherId now)) := by
  refine ⟨by simp, fun r row hrow => ?_⟩
  rw [List.getElem?_modify, hrow]
  by_cases hid : id = r
  · exact ⟨OutboxRepository.claimRow dispatcherId now row, by simp [hid], ⟨rfl, rfl⟩,
      fun _ => .inr rfl⟩
  · exact ⟨row, by simp [hid], .refl row, fun hopen => hopen⟩

/-- Claiming a batch changes no job and keeps every intent. -/
theorem claim_intents (settings : Settings) (dispatcherId : String) (now : Time)
    (db : Database) :
    (claim settings dispatcherId now db).2.jobs = db.jobs ∧
      KeepsIntents db.outbox (claim settings dispatcherId now db).2.outbox := by
  refine ⟨rfl, ?_⟩
  unfold claim OutboxRepository.claimBatch
  dsimp only
  generalize OutboxRepository.claimCandidates _ _ _ _ = rowIds
  generalize db.outbox = rows
  induction rowIds generalizing rows with
  | nil => exact .refl rows
  | cons id rowIds ih => exact (claimRow_intents rows id dispatcherId now).trans (ih _)

/-! ### Recording a publication -/

variable {settings : Settings} {rowId j : ℕ} {now : Time} {db db' : Database}

/-- A publication closes the row, and queues its job if that is still waiting. -/
theorem recordPublished_cases (rowId : ℕ) (now : Time) (db : Database) :
    recordPublished rowId now db = db ∨
      ∃ row row', Delivers db (recordPublished rowId now db) rowId row row' ∧
        (row.status ≠ .published ∧ row'.status = .published) ∧
        ((recordPublished rowId now db).jobs = db.jobs ∧
            (∀ job, db.jobs[row.aggregateId]? = some job →
              job.status ∉ [JobStatus.outboxPending, .retryScheduled]) ∨
          MovesJob db (recordPublished rowId now db) row.aggregateId .publish) := by
  unfold recordPublished
  split
  · exact .inl rfl
  rename_i row hrow
  split
  · exact .inl rfl
  rename_i hopen
  dsimp only
  split
  · rename_i hnone
    exact .inr ⟨row, publishedRow now row, ⟨hrow, rfl, rfl, rfl⟩, ⟨hopen, rfl⟩,
      .inl ⟨rfl, fun job hjob => absurd (hjob.symm.trans hnone) (by simp)⟩⟩
  rename_i job hjob
  split
  · rename_i hwaiting
    exact .inr ⟨row, publishedRow now row, ⟨hrow, rfl, rfl, rfl⟩, ⟨hopen, rfl⟩,
      .inr ⟨job, _, hjob, rfl, hwaiting, rfl⟩⟩
  · rename_i hidle
    refine .inr ⟨row, publishedRow now row, ⟨hrow, rfl, rfl, rfl⟩, ⟨hopen, rfl⟩,
      .inl ⟨rfl, ?_⟩⟩
    intro job' hjob'
    obtain rfl := Option.some.inj (hjob.symm.trans hjob')
    exact hidle

/-- A waiting job whose row failed for good ends in the dead letters. -/
theorem tracks_failUnpublished {c : Lifecycle} {rows : List OutboxMessage}
    {s s₁ s₂ : JobSession} (t : Tracks db j c rows s)
    (hwaiting : c.status ∈ [JobStatus.outboxPending, .retryScheduled])
    (h₁ : failUnpublished s now = .ok s₁) (h₂ : s₁.transition .deadLettered now = .ok s₂) :
    Tracks db j (c.enter .deadLettered) rows s₂ := by
  unfold failUnpublished at h₁
  split at h₁
  · exact (t.deadLetter h₁ h₂).2
  · obtain rfl := Except.ok.inj h₁
    have hne : c.status ≠ .deadLettered := by
      intro hst
      simp [hst] at hwaiting
    exact (t.transition_of_ne hne h₂).2

/-- A failed publication reopens the row, or closes it together with a job that is still
waiting for it. -/
theorem recordFailure_cases {error : JobService.Raised}
    (h : recordFailure settings rowId error now db = .ok db') :
    db' = db ∨ ∃ row row', Delivers db db' rowId row row' ∧
      (row'.status = .pending ∨ row'.status = .failed ∧ settings.jobMaxAttempts ≤ row.attempt) ∧
      (row'.status = .pending ∧ db'.jobs = db.jobs ∨
        db'.jobs = db.jobs ∧ (∀ job, db.jobs[row.aggregateId]? = some job →
            job.status ∉ [JobStatus.outboxPending, .retryScheduled]) ∨
        MovesJob db db' row.aggregateId .undeliverable) := by
  unfold recordFailure at h
  dsimp only at h
  split at h
  · exact .inl (Except.ok.inj h).symm
  rename_i row hrow
  refine .inr ?_
  split at h
  swap
  · obtain rfl := Except.ok.inj h
    exact ⟨row, _, ⟨hrow, rfl, rfl, rfl⟩, .inl rfl, .inl ⟨rfl, rfl⟩⟩
  rename_i hspent
  split at h
  · rename_i hnone
    obtain rfl := Except.ok.inj h
    exact ⟨row, _, ⟨hrow, rfl, rfl, rfl⟩, .inr ⟨rfl, hspent⟩,
      .inr (.inl ⟨rfl, fun job hjob => absurd (hjob.symm.trans hnone) (by simp)⟩)⟩
  rename_i job hjob
  split at h
  swap
  · rename_i hidle
    obtain rfl := Except.ok.inj h
    refine ⟨row, _, ⟨hrow, rfl, rfl, rfl⟩, .inr ⟨rfl, hspent⟩, .inr (.inl ⟨rfl, ?_⟩)⟩
    intro job' hjob'
    obtain rfl := Option.some.inj (hjob.symm.trans hjob')
    exact hidle
  rename_i hwaiting
  obtain ⟨s₁, hs₁, h⟩ := Except.bind_eq_ok.mp h
  obtain ⟨s₂, hs₂, h⟩ := Except.map_eq_ok.mp h
  subst h
  have t₂ := tracks_failUnpublished .start hwaiting hs₁ hs₂
  obtain ⟨job', hw, hc⟩ :=
    ((t₂.updateSame Job.lifecycle_publishFailed).addOrdered _ _ _ _ _).commit hjob
  exact ⟨row, _, ⟨hrow, hw.outbox.trans (List.append_nil _), rfl, rfl⟩, .inr ⟨rfl, hspent⟩,
    .inr (.inr ⟨job, job', hjob, hw.jobs, hwaiting, hc⟩)⟩

/-! ### Reopening a lost delivery -/

/-- The latest row of a job is addressed to it. -/
theorem latestForJob_aggregateId {row : OutboxMessage}
    (h : OutboxRepository.latestForJob db j = some rowId)
    (hrow : db.outbox[rowId]? = some row) : row.aggregateId = j := by
  obtain ⟨row', hrow', hp⟩ := Rows.mem_idsWhere.mp (List.mem_of_getLast? h)
  obtain rfl := Option.some.inj (hrow.symm.trans hrow')
  exact eq_of_beq hp

/-- Recovery of a stranded job reopens its latest row and schedules the job again. -/
theorem recoverStrandedJob_cases (h : recoverStrandedJob now db j = .ok db')
    (hqueued : ∀ job, db.jobs[j]? = some job → job.status = .queued) :
    db' = db ∨ ∃ r row row', Delivers db db' r row row' ∧ row.aggregateId = j ∧
      (row.status = .published ∧ row'.status = .pending) ∧ MovesJob db db' j .strand := by
  unfold recoverStrandedJob at h
  split at h
  · exact .inl (Except.pure_eq_ok.mp h).symm
  rename_i rowId hlatest
  split at h
  · exact .inl (Except.pure_eq_ok.mp h).symm
  rename_i row hrow
  split at h
  · exact .inl (Except.pure_eq_ok.mp h).symm
  rename_i hpublished
  obtain ⟨s, hs, h⟩ := Except.bind_eq_ok.mp h
  obtain ⟨job, hjob, rfl⟩ := JobSession.requireLocked_eq_ok.mp hs
  have hst := hqueued job hjob
  have t₀ : Tracks db j job.lifecycle [] ⟨db, j, job⟩ := .start
  obtain ⟨s₁, hs₁, h⟩ := Except.map_eq_ok.mp h
  obtain ⟨-, t₁⟩ := t₀.transition (by simp) hs₁
  have t₂ := t₁.updateSame (Job.lifecycle_availableFrom · now)
  subst h
  refine .inr ⟨rowId, row, restoredRow now row, ⟨hrow, ?_, rfl, rfl⟩,
    latestForJob_aggregateId hlatest hrow, ⟨not_not.mp hpublished, rfl⟩, job, _, hjob, ?_, hst,
    (Job.lifecycle_allocateSequence _).trans t₂.lifecycle⟩
  · show s₁.db.outbox.set rowId _ = _
    rw [t₁.outbox, List.append_nil]
  · show s₁.db.jobs.set s₁.jobId _ = _
    rw [t₁.jobs, t₁.jobId]
    rfl

end OutboxDispatcher

end StoryForge
