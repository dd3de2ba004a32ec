import StoryForge.Jobs.Transitions

/-!
# The lifecycle of a job, abstractly

What the job system does to a job, stripped of timestamps, events and error texts: a
`Lifecycle` is the part of a row that decides what may happen next, and a `Move` is one
thing that can happen to it, with the condition under which it happens (`Move.guard`) and
its effect (`Move.apply`). Requests, deliveries, claims, outcomes, recovery and
publication are moves; everything else leaves the lifecycle alone.

The transactions of the service, the dispatcher and the worker are shown to be moves
(`Effects`), so an invariant of the lifecycle is proved once per move.

## Main results

* `Job.lifecycle_enter` — the projection commutes with entering a status;
* `Lifecycle.Moves.mono` — what is done by some of the moves is done by more of them.
-/

namespace StoryForge

/-- The part of a job row that decides what may happen to it. -/
structure Lifecycle where
  status : JobStatus
  attempt : ℕ
  maxAttempts : ℕ
  workerId : Option String
  leaseExpiresAt : Option Time
  startedAt : Option Time
  deriving DecidableEq, Repr

/-- The lifecycle of a job row. -/
def Job.lifecycle (job : Job) : Lifecycle where
  status := job.status
  attempt := job.attempt
  maxAttempts := job.maxAttempts
  workerId := job.workerId
  leaseExpiresAt := job.leaseExpiresAt
  startedAt := job.startedAt

section Projections

variable (job : Job)

@[simp] theorem Job.lifecycle_status : job.lifecycle.status = job.status := rfl

@[simp] theorem Job.lifecycle_attempt : job.lifecycle.attempt = job.attempt := rfl

@[simp] theorem Job.lifecycle_maxAttempts : job.lifecycle.maxAttempts = job.maxAttempts := rfl

@[simp] theorem Job.lifecycle_workerId : job.lifecycle.workerId = job.workerId := rfl

@[simp] theorem Job.lifecycle_leaseExpiresAt :
    job.lifecycle.leaseExpiresAt = job.leaseExpiresAt := rfl

@[simp] theorem Job.lifecycle_startedAt : job.lifecycle.startedAt = job.startedAt := rfl

end Projections

namespace Lifecycle

/-- Enter a status; a terminal one drops the lease. -/
def enter (c : Lifecycle) (target : JobStatus) : Lifecycle :=
  if target ∈ terminalJobStatuses then
    { c with status := target, workerId := none, leaseExpiresAt := none }
  else { c with status := target }

/-- Drop the lease. -/
def release (c : Lifecycle) : Lifecycle := { c with workerId := none, leaseExpiresAt := none }

/-- Whether a status can be left for `target`, or is `target` already. -/
def MayReach (c : Lifecycle) (target : JobStatus) : Prop :=
  c.status = target ∨ target ∈ c.status.allowed

instance (c : Lifecycle) (target : JobStatus) : Decidable (c.MayReach target) :=
  inferInstanceAs (Decidable (_ ∨ _))

section Enter

variable (c : Lifecycle) (target : JobStatus)

@[simp] theorem enter_status : (c.enter target).status = target := by
  unfold enter; split <;> rfl

@[simp] theorem enter_attempt : (c.enter target).attempt = c.attempt := by
  unfold enter; split <;> rfl

@[simp] theorem enter_maxAttempts : (c.enter target).maxAttempts = c.maxAttempts := by
  unfold enter; split <;> rfl

@[simp] theorem enter_startedAt : (c.enter target).startedAt = c.startedAt := by
  unfold enter; split <;> rfl

@[simp] theorem enter_workerId :
    (c.enter target).workerId = if target ∈ terminalJobStatuses then none else c.workerId := by
  unfold enter; split <;> rfl

@[simp] theorem enter_leaseExpiresAt :
    (c.enter target).leaseExpiresAt =
      if target ∈ terminalJobStatuses then none else c.leaseExpiresAt := by
  unfold enter; split <;> rfl

@[simp] theorem enter_enter (target' : JobStatus)
    (h : target ∈ terminalJobStatuses → target' ∈ terminalJobStatuses) :
    (c.enter target).enter target' = c.enter target' := by
  unfold enter
  by_cases h₁ : target ∈ terminalJobStatuses
  · simp [h₁, h h₁]
  · by_cases h₂ : target' ∈ terminalJobStatuses <;> simp [h₁, h₂]

@[simp] theorem release_status : c.release.status = c.status := rfl

@[simp] theorem release_attempt : c.release.attempt = c.attempt := rfl

@[simp] theorem release_startedAt : c.release.startedAt = c.startedAt := rfl

@[simp] theorem release_workerId : c.release.workerId = none := rfl

@[simp] theorem release_leaseExpiresAt : c.release.leaseExpiresAt = none := rfl

end Enter

end Lifecycle

/-- Entering a status commutes with the projection. -/
@[simp] theorem Job.lifecycle_enter (job : Job) (target : JobStatus) (now : Time) :
    (job.enter target now).lifecycle = job.lifecycle.enter target := by
  unfold Job.enter Lifecycle.enter Job.lifecycle
  split <;> split <;> rfl

/-! ### Moves -/

/-- One thing that can happen to a job. Worker moves name the worker id they require. -/
inductive Move
  | cancelAtOnce
  | requestCancel
  | pauseAtOnce
  | requestPause
  | resume
  | retryDeadLetter (attempts : ℕ)
  | claim (worker : String) (now lease : Time)
  | heartbeat (worker : String) (lease : Time)
  | succeed (worker : String)
  | confirmCancel (worker : String)
  | confirmPause (worker : String)
  | pause (worker : String)
  | retry (worker : String)
  | exhaust (worker : String)
  | fail (worker : String)
  | recover
  | recoverExhausted
  | publish
  | undeliverable
  | strand
  deriving DecidableEq, Repr

namespace Move

/-- When a move can happen. -/
def guard : Move → Lifecycle → Prop
  | cancelAtOnce, c =>
      .cancelRequested ∈ c.status.allowed ∧ (c.startedAt = none ∨ c.status = .paused)
  | requestCancel, c =>
      .cancelRequested ∈ c.status.allowed ∧ c.startedAt ≠ none ∧ c.status ≠ .paused
  | pauseAtOnce, c => .pauseRequested ∈ c.status.allowed ∧ c.startedAt = none
  | requestPause, c => .pauseRequested ∈ c.status.allowed ∧ c.startedAt ≠ none
  | resume, c => c.status = .paused
  | retryDeadLetter _, c => c.status = .deadLettered
  | claim _ _ _, c => c.status ∈ [.outboxPending, .queued, .retryScheduled]
  | heartbeat worker _, c => c.workerId = some worker ∧ c.status ∈ [.leased, .running]
  | succeed worker, c => c.workerId = some worker ∧ c.status = .running
  | confirmCancel worker, c => c.workerId = some worker ∧ c.MayReach .cancelRequested
  | confirmPause worker, c => c.workerId = some worker ∧ c.status = .pauseRequested
  | pause worker, c => c.workerId = some worker ∧ c.MayReach .pauseRequested
  | retry worker, c =>
      c.workerId = some worker ∧ c.MayReach .retryScheduled ∧ c.attempt < c.maxAttempts
  | exhaust worker, c =>
      c.workerId = some worker ∧ c.MayReach .failed ∧ c.maxAttempts ≤ c.attempt
  | fail worker, c => c.workerId = some worker ∧ .failed ∈ c.status.allowed
  | recover, c => c.status ∈ [.leased, .running] ∧ c.attempt < c.maxAttempts
  | recoverExhausted, c => c.status = .running ∧ c.maxAttempts ≤ c.attempt
  | publish, c => c.status ∈ [.outboxPending, .retryScheduled]
  | undeliverable, c => c.status ∈ [.outboxPending, .retryScheduled]
  | strand, c => c.status = .queued

/-- What a move does. -/
def apply : Move → Lifecycle → Lifecycle
  | cancelAtOnce, c => c.enter .cancelled
  | requestCancel, c => c.enter .cancelRequested
  | pauseAtOnce, c => c.enter .paused
  | requestPause, c => c.enter .pauseRequested
  | resume, c => c.enter .outboxPending
  | retryDeadLetter attempts, c =>
      { c.enter .outboxPending with maxAttempts := c.attempt + attempts }
  | claim worker now lease, c =>
      { c with
        status := .running
        attempt := c.attempt + 1
        workerId := some worker
        leaseExpiresAt := some lease
        startedAt := c.startedAt.or (some now) }
  | heartbeat _ lease, c => { c with leaseExpiresAt := some lease }
  | succeed _, c => c.enter .succeeded
  | confirmCancel _, c => c.enter .cancelled
  | confirmPause _, c => c.enter .paused
  | pause _, c => (c.enter .paused).release
  | retry _, c => (c.enter .retryScheduled).release
  | exhaust _, c => c.enter .deadLettered
  | fail _, c => c.enter .failed
  | recover, c => (c.enter .retryScheduled).release
  | recoverExhausted, c => c.enter .deadLettered
  | publish, c => c.enter .queued
  | undeliverable, c => c.enter .deadLettered
  | strand, c => c.enter .retryScheduled

instance (m : Move) (c : Lifecycle) : Decidable (m.guard c) := by
  cases m <;> unfold guard <;> infer_instance

end Move

namespace Lifecycle

/-- `c` becomes `c'` by one of the moves in `allowed`. -/
def Makes (allowed : Move → Prop) (c c' : Lifecycle) : Prop :=
  ∃ m, allowed m ∧ m.guard c ∧ c' = m.apply c

/-- `c` becomes `c'` by nothing or by one of the moves in `allowed`. -/
def Moves (allowed : Move → Prop) (c c' : Lifecycle) : Prop :=
  c' = c ∨ Makes allowed c c'

theorem Makes.moves {allowed : Move → Prop} {c c' : Lifecycle} (h : Makes allowed c c') :
    Moves allowed c c' := .inr h

theorem Moves.refl {allowed : Move → Prop} (c : Lifecycle) : Moves allowed c c := .inl rfl

theorem Moves.move {allowed : Move → Prop} {c c' : Lifecycle} (m : Move) (hm : allowed m)
    (hguard : m.guard c) (happly : c' = m.apply c) : Moves allowed c c' :=
  .inr ⟨m, hm, hguard, happly⟩

theorem Moves.mono {p q : Move → Prop} {c c' : Lifecycle}
    (himp : ∀ m, p m → q m) (h : Moves p c c') : Moves q c c' := by
  rcases h with rfl | ⟨m, hm, hrest⟩
  · exact .refl _
  · exact .inr ⟨m, himp m hm, hrest⟩

end Lifecycle

end StoryForge
