import Mathlib.Logic.Relation
import StoryForge.Jobs.Coverage
import StoryForge.Jobs.Exclusion

/-!
# Legal status changes

`transition_job` checks a change of status against the table; the claim of a job, the record
of a publication and the sweeps write statuses of their own. This module shows that the
table holds of the whole system: what any transaction makes of a status can be made of it by
edges of the table, so a job that succeeded or was cancelled keeps its status for good.

## Main results

* `Move.path` — the edges of each move;
* `JobSystem.statuses_legal` — statuses in a run.
-/

namespace StoryForge

/-! ### Paths in the table -/

/-- A status that can be reached by edges of the table. -/
def JobStatus.Leads : JobStatus → JobStatus → Prop :=
  Relation.ReflTransGen fun source target => target ∈ source.allowed

namespace JobStatus

theorem Leads.edge {source target : JobStatus} (h : target ∈ source.allowed) :
    source.Leads target :=
  .single h

/-- Staying in a status, or one edge. -/
theorem Leads.of_mayReach {c : Lifecycle} {target : JobStatus} (h : c.MayReach target) :
    c.status.Leads target := by
  rcases h with rfl | hedge
  · exact .refl
  · exact .edge hedge

/-- A job that is claimed is queued and leased on the way. -/
theorem leads_running {status : JobStatus}
    (h : status ∈ [.outboxPending, .queued, .retryScheduled]) : status.Leads .running := by
  have hqueued : JobStatus.queued.Leads .running :=
    (Leads.edge (by decide) : Leads .queued .leased).tail (by decide)
  simp only [List.mem_cons, List.not_mem_nil, or_false] at h
  rcases h with rfl | rfl | rfl
  · exact Relation.ReflTransGen.head (by decide) hqueued
  · exact hqueued
  · exact Relation.ReflTransGen.head (by decide) hqueued

/-- No edge leaves these statuses. -/
theorem Leads.eq_of_final {status target : JobStatus} (hfinal : status ∈ [.succeeded, .cancelled])
    (h : status.Leads target) : target = status := by
  have hnone : status.allowed = [] := by
    simp only [List.mem_cons, List.not_mem_nil, or_false] at hfinal
    rcases hfinal with rfl | rfl <;> rfl
  rcases Relation.ReflTransGen.cases_head h with heq | ⟨next, hedge, -⟩
  · exact heq.symm
  · rw [hnone] at hedge
    exact absurd hedge (by simp)

end JobStatus

open JobStatus Lifecycle

/-- **What a move makes of a status** can be made by edges of the table. -/
theorem Move.path {m : Move} {c : Lifecycle} (hguard : m.guard c) :
    c.status.Leads (m.apply c).status := by
  cases m with
  | cancelAtOnce =>
      rw [apply, enter_status]
      exact (Leads.edge hguard.1).tail (by decide)
  | requestCancel =>
      rw [apply, enter_status]
      exact .edge hguard.1
  | pauseAtOnce =>
      rw [apply, enter_status]
      exact (Leads.edge hguard.1).tail (by decide)
  | requestPause =>
      rw [apply, enter_status]
      exact .edge hguard.1
  | resume =>
      have hpaused : c.status = .paused := hguard
      rw [apply, enter_status, hpaused]
      exact .edge (by decide)
  | retryDeadLetter attempts =>
      have hdead : c.status = .deadLettered := hguard
      show c.status.Leads (c.enter .outboxPending).status
      rw [enter_status, hdead]
      exact .edge (by decide)
  | claim worker now lease => exact leads_running hguard
  | heartbeat worker lease => exact .refl
  | succeed worker =>
      rw [apply, enter_status, hguard.2]
      exact .edge (by decide)
  | confirmCancel worker =>
      rw [apply, enter_status]
      exact (Leads.of_mayReach hguard.2).tail (by decide)
  | confirmPause worker =>
      rw [apply, enter_status, hguard.2]
      exact .edge (by decide)
  | pause worker =>
      rw [apply, release_status, enter_status]
      exact (Leads.of_mayReach hguard.2).tail (by decide)
  | retry worker =>
      rw [apply, release_status, enter_status]
      exact .of_mayReach hguard.2.1
  | exhaust worker =>
      rw [apply, enter_status]
      exact (Leads.of_mayReach hguard.2.1).tail (by decide)
  | fail worker =>
      rw [apply, enter_status]
      exact .edge hguard.2
  | recover =>
      rw [apply, release_status, enter_status]
      have hheld := hguard.1
      simp only [List.mem_cons, List.not_mem_nil, or_false] at hheld
      rcases hheld with hst | hst <;> rw [hst] <;> exact .edge (by decide)
  | recoverExhausted =>
      rw [apply, enter_status, hguard.1]
      exact (Leads.edge (by decide) : Leads _ .failed).tail (by decide)
  | publish =>
      rw [apply, enter_status]
      have hwaiting : c.status ∈ [.outboxPending, .retryScheduled] := hguard
      simp only [List.mem_cons, List.not_mem_nil, or_false] at hwaiting
      rcases hwaiting with hst | hst <;> rw [hst] <;> exact .edge (by decide)
  | undeliverable =>
      rw [apply, enter_status]
      have hwaiting : c.status ∈ [.outboxPending, .retryScheduled] := hguard
      simp only [List.mem_cons, List.not_mem_nil, or_false] at hwaiting
      rcases hwaiting with hst | hst <;> rw [hst]
      · exact (Leads.edge (by decide) : Leads _ .failed).tail (by decide)
      · exact .edge (by decide)
  | strand =>
      have hqueued : c.status = .queued := hguard
      rw [apply, enter_status, hqueued]
      exact .edge (by decide)

theorem Lifecycle.Moves.path {allowed : Move → Prop} {c c' : Lifecycle} (h : Moves allowed c c') :
    c.status.Leads c'.status := by
  rcases h with rfl | ⟨m, -, hguard, rfl⟩
  · exact .refl
  · exact m.path hguard

namespace JobSystem

variable {settings : Settings} {s s' : JobSystem} {a : Action} {j : ℕ} {job : Job}

/-- One step: a job that is there stays there, and its status goes along the table. -/
theorem leads_next (hs : s.db.Sound) (hnext : next settings s a = some s')
    (hjob : s.db.jobs[j]? = some job) :
    ∃ job', s'.db.jobs[j]? = some job' ∧ job.status.Leads job'.status := by
  obtain ⟨job', hjob', hmoves⟩ := exists_row_next hs hnext hjob
  exact ⟨job', hjob', hmoves.path⟩

/-- The rest of a run: the same for any number of steps. -/
theorem leads_of_later (hs : (machine settings).Reachable s) (hjob : s.db.jobs[j]? = some job)
    (hlater : ((machine settings).startingAt s).Reachable s') :
    ∃ job', s'.db.jobs[j]? = some job' ∧ job.status.Leads job'.status := by
  refine hlater.invariant (I := fun s' => ∃ job', s'.db.jobs[j]? = some job' ∧
    job.status.Leads job'.status) (fun s' hstart => ?_) fun mid a s'' hmid hI _ hnext => ?_
  · obtain rfl : s' = s := hstart
    exact ⟨job, hjob, .refl⟩
  · obtain ⟨between, hbetween, hfirst⟩ := hI
    have hsound := sound_of_reachable (hs.goesOn hmid)
    obtain ⟨job', hjob', hlast⟩ := leads_next hsound hnext hbetween
    exact ⟨job', hjob', hfirst.trans hlast⟩

/-- **Legal status changes.** In every run each change of the status of a job is a path of
edges of the table, and a job that succeeded or was cancelled keeps its status. -/
theorem statuses_legal (hs : (machine settings).Reachable s) (hjob : s.db.jobs[j]? = some job) :
    (∀ a s', (machine settings).next s a = some s' →
      ∃ job', s'.db.jobs[j]? = some job' ∧ job.status.Leads job'.status) ∧
    (job.status ∈ [.succeeded, .cancelled] →
      ∀ s', ((machine settings).startingAt s).Reachable s' →
        ∃ job', s'.db.jobs[j]? = some job' ∧ job'.status = job.status) := by
  constructor
  · intro a s' hnext
    exact leads_next (sound_of_reachable hs) hnext hjob
  · intro hfinal s' hlater
    obtain ⟨job', hjob', hleads⟩ := leads_of_later hs hjob hlater
    exact ⟨job', hjob', hleads.eq_of_final hfinal⟩

/-! ### A job that succeeds -/

/-- A job is claimed before its row is published, and succeeds. -/
def claimedUnpublished : List Action :=
  [.create sampleRequest 0, .claim 0 "w" 1, .finish 0 (.returned "{}") 2]

/-- The claim takes it from `outbox_pending` to `running`; afterwards it stays succeeded. -/
theorem statuses_legal_claimedUnpublished :
    ∃ s job, (machine Settings.defaults).Reachable s ∧ s.db.jobs[0]? = some job ∧
      job.status = .succeeded ∧
      ∀ s', ((machine Settings.defaults).startingAt s).Reachable s' →
        ∃ job', s'.db.jobs[0]? = some job' ∧ job'.status = .succeeded := by
  obtain ⟨s, hs, hstatus⟩ := (machine Settings.defaults).exists_reachable claimedUnpublished
    (fun s => s.db.jobs.map (·.status) = [.succeeded]) (machine_init_empty _) (by decide)
  obtain ⟨job, hjob, hsucceeded⟩ : ∃ job, s.db.jobs[0]? = some job ∧ job.status = .succeeded := by
    have hfirst := congrArg (·[0]?) hstatus
    rw [List.getElem?_map] at hfirst
    obtain ⟨job, hjob, hsucceeded⟩ := Option.map_eq_some_iff.mp hfirst
    exact ⟨job, hjob, hsucceeded⟩
  refine ⟨s, job, hs, hjob, hsucceeded, fun s' hlater => ?_⟩
  obtain ⟨job', hjob', hsame⟩ := (statuses_legal hs hjob).2 (by simp [hsucceeded]) s' hlater
  exact ⟨job', hjob', hsame.trans hsucceeded⟩

end JobSystem

end StoryForge
