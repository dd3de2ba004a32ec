import StoryForge.Workflows.System

/-!
# Cancelled and failed runs are final

`accept_version` and `mark_needs_review` complete a run whatever its status is, and the
other transactions on the status trust what they read without a lock. In the runs where

* nobody changes the status of a run between the reading and the commit of a transaction
  that reads it,
* a run is not cancelled while a call is between the start of a node that completes it and
  the commit of that node, or between the two halves of the handling of a blocked budget,
* the lease of a job is recovered only after the call on its run has stopped,

every change of a status follows the table. The invariant is that at most one call is busy
with a run, and that the status of the run is one its phase allows.

## Main results

* `advance_spec` — what one step of a call does to the status of its run;
* `exclusive_perform` — one busy call a run, in a status its phase allows;
* `final_of_reachable` — cancelled and failed runs are final;
* `final_fails` — a cancellation that falls between the start of `accept_version` and its
  commit is overwritten.
-/

namespace StoryForge

open ChapterWorkflowService GraphExecution

/-! ### One step of a call -/

/-- The nodes after which the graph ends. -/
def endNodes : List WorkflowNode := [.acceptVersion, .markNeedsHumanReview, .failWorkflow]

/-- The statuses a run has while an undisturbed call on it is in a phase. -/
def GraphPhase.Allows : GraphPhase → WorkflowRunStatus → Prop
  | .entering _, status => status = .running ∨ status = .cancelled
  | .acting node _, status => status = .running ∨ node ∉ finishingNodes ∧ status = .cancelled
  | .leaving node _, status =>
      status = .running ∨ status = .cancelled ∨
        node ∈ endNodes ∧ status ≠ .paused ∧ status ≠ .pending
  | .reviewing, status => status = .running
  | _, status => status ≠ .paused ∧ status ≠ .pending

/-- A run with a busy call is neither paused nor pending. -/
theorem GraphPhase.Allows.live {phase : GraphPhase} {status : WorkflowRunStatus}
    (h : phase.Allows status) : status ≠ .paused ∧ status ≠ .pending := by
  cases phase with
  | entering node => rcases h with rfl | rfl <;> simp
  | acting node stage => rcases h with rfl | ⟨-, rfl⟩ <;> simp
  | leaving node state =>
      rcases h with rfl | rfl | ⟨-, h⟩
      · simp
      · simp
      · exact h
  | reviewing => rw [h]; simp
  | interrupted node => exact h
  | pausing => exact h
  | cancelling => exact h
  | blocked => exact h
  | noting => exact h
  | failing message => exact h
  | returning => exact h
  | ended result => exact h
  | crashed => exact h

/-- The phases that do not notice a cancellation. -/
def GraphPhase.finishing : GraphPhase → Bool
  | .acting node _ => finishingNodes.contains node
  | .reviewing => true
  | _ => false

/-- A call that does not notice a cancellation. -/
def GraphExecution.Finishing (g : GraphExecution) : Prop := g.phase.finishing = true

instance (g : GraphExecution) : Decidable g.Finishing :=
  inferInstanceAs (Decidable (_ = true))

/-- A call that is not finishing may find its run cancelled. -/
theorem GraphExecution.allows_cancelled {g : GraphExecution} (hfinishing : ¬ g.Finishing) :
    g.phase.Allows .cancelled := by
  unfold GraphExecution.Finishing at hfinishing
  cases hphase : g.phase with
  | entering node => exact .inr rfl
  | acting node stage =>
      exact .inr ⟨by simpa [GraphPhase.finishing, hphase] using hfinishing, rfl⟩
  | leaving node state => exact .inr (.inl rfl)
  | reviewing => simp [GraphPhase.finishing, hphase] at hfinishing
  | interrupted node => simp [GraphPhase.Allows]
  | pausing => simp [GraphPhase.Allows]
  | cancelling => simp [GraphPhase.Allows]
  | blocked => simp [GraphPhase.Allows]
  | noting => simp [GraphPhase.Allows]
  | failing message => simp [GraphPhase.Allows]
  | returning => simp [GraphPhase.Allows]
  | ended result => simp [GraphPhase.Allows]
  | crashed => simp [GraphPhase.Allows]

namespace WorkflowSystem

variable {services : StoryServices} {db db' : StoryDatabase} {g : GraphExecution} {r : ℕ}
  {status : WorkflowRunStatus} {result : StepResult} {input : NodeInput}

/-- What a step may do to the run `r` of its call: it changes the status along the table,
or not at all, and goes on in a phase that allows the new status. -/
structure Steps (db : StoryDatabase) (r : ℕ) (status : WorkflowRunStatus) (g : GraphExecution)
    (result : StepResult) : Prop where
  runId : result.graph.runId = some r
  busy : result.graph.Busy → g.Busy
  moves : ∃ target, (target = status ∨ target ∈ status.allowed) ∧
    result.db.statuses = db.statuses.set r target ∧
      (result.graph.Busy → result.graph.phase.Allows target)

/-- A step that changes no status. -/
theorem Steps.quiet (hstatus : db.statuses[r]? = some status)
    (hstatuses : result.db.statuses = db.statuses) (hrun : result.graph.runId = some r)
    (hbusy : result.graph.Busy → g.Busy)
    (hallows : result.graph.Busy → result.graph.phase.Allows status) :
    Steps db r status g result := by
  refine ⟨hrun, hbusy, status, .inl rfl, ?_, hallows⟩
  obtain ⟨hlt, hget⟩ := List.getElem?_eq_some_iff.mp hstatus
  rw [hstatuses, ← hget, List.set_getElem_self]

/-- Whatever is raised, the run keeps its status. -/
theorem Steps.raised {error : Error} {checkpoint : Option Checkpoint}
    (hstatus : db.statuses[r]? = some status) (hstatuses : db'.statuses = db.statuses)
    (hrun : g.runId = some r) (hbusy : g.Busy) (hallows : g.phase.Allows status) :
    Steps db r status g ⟨g.raise error, db', checkpoint⟩ := by
  refine .quiet hstatus hstatuses hrun (fun _ => hbusy) fun _ => ?_
  unfold raise
  split
  · exact hallows.live
  · split_ifs
    · exact hallows.live
    · exact hallows.live
    · exact hallows.live

/-- A call that ends without writing. -/
theorem Steps.stopped {error : Error} (hstatus : db.statuses[r]? = some status)
    (hrun : g.runId = some r) : Steps db r status g ⟨g.stop error, db, none⟩ :=
  .quiet hstatus rfl hrun (fun h => h.elim) fun h => h.elim

/-- A transaction of a call on the status of its run. -/
theorem Steps.attempted {transaction : Except Error StoryDatabase} {after : GraphExecution}
    {recover : Error → GraphExecution}
    (hok : ∀ db', transaction = .ok db' → Steps db r status g ⟨after, db', none⟩)
    (herror : ∀ error, Steps db r status g ⟨recover error, db, none⟩) :
    Steps db r status g (attempt db transaction after recover) := by
  cases transaction with
  | ok db' => exact hok db' rfl
  | error error => exact herror error

/-- A run is marked as paused by its call, which is at its end. -/
theorem Steps.paused {node : String} (hstatus : db.statuses[r]? = some status)
    (hrun : g.runId = some r) (h : markPaused r node db = .ok db') :
    Steps db r status g ⟨g.goto .returning, db', none⟩ := by
  obtain ⟨found, hfound, hcases⟩ := markPaused_eq_ok h
  obtain rfl : found = status := Option.some.inj (hfound.symm.trans hstatus)
  rcases hcases with ⟨-, rfl⟩ | ⟨hedge, hset⟩
  · exact .quiet hstatus rfl hrun (fun h => h.elim) fun h => h.elim
  · exact ⟨hrun, fun h => h.elim, .paused, hedge.imp_left Eq.symm, hset, fun h => h.elim⟩

/-- A run is marked as failed by its call. -/
theorem Steps.failed {after : GraphExecution} (hstatus : db.statuses[r]? = some status)
    (hrun : g.runId = some r) (hafter : after.runId = some r) (hbusy : after.Busy → g.Busy)
    (hallows : ∀ target, target = status ∨ target = .failed →
      after.Busy → after.phase.Allows target)
    (h : markFailed g.runId db = .ok db') : Steps db r status g ⟨after, db', none⟩ := by
  rcases markFailed_eq_ok h with rfl | ⟨r', found, hr', hfound, hedge, hset⟩
  · exact .quiet hstatus rfl hafter hbusy (hallows status (.inl rfl))
  · obtain rfl : r' = r := Option.some.inj (hr'.symm.trans hrun)
    obtain rfl : found = status := Option.some.inj (hfound.symm.trans hstatus)
    exact ⟨hafter, hbusy, .failed, hedge.imp_left Eq.symm, hset, hallows .failed (.inr rfl)⟩

/-- The start of a node. -/
theorem enter_spec {node : WorkflowNode} (h : enter g node input db = some result)
    (hphase : g.phase = .entering node) (hrun : g.runId = some r)
    (hstatus : db.statuses[r]? = some status) (hallows : g.phase.Allows status) :
    Steps db r status g result := by
  have hbusy : g.Busy := by simp [Busy, hphase]
  have hentering : status = .running ∨ status = .cancelled := by
    rw [hphase] at hallows
    exact hallows
  unfold enter at h
  split at h
  · obtain rfl := Option.some.inj h
    unfold beginRun
    cases hinit : initializeWorkflow g.state g.runId db with
    | error error => exact .raised hstatus rfl hrun hbusy hallows
    | ok begun =>
        obtain ⟨runId, state, db'⟩ := begun
        have hlt : r < db.runs.length := by
          simpa using (List.getElem?_eq_some_iff.mp hstatus).1
        rcases initializeWorkflow_eq_ok hinit with ⟨hid, -, rfl⟩ | ⟨hnone, -, -⟩
        · refine .quiet hstatus rfl (hid.symm.trans hrun) (fun _ => hbusy) fun _ => ?_
          exact hentering.imp_right .inl
        · have hle := hnone r hrun
          omega
  · obtain rfl := Option.some.inj h
    exact .raised hstatus rfl hrun hbusy hallows
  · exact absurd h (by simp)
  · obtain rfl := Option.some.inj h
    refine .attempted (fun db' hok => ?_) fun error => .raised hstatus rfl hrun hbusy hallows
    refine .failed hstatus hrun hrun (fun _ => hbusy) ?_ hok
    rintro target (rfl | rfl) -
    · exact hentering.imp_right .inl
    · exact .inr (.inr ⟨by simp [endNodes], by simp, by simp⟩)
  · obtain rfl := Option.some.inj h
    exact .raised hstatus rfl hrun hbusy hallows
  · exact absurd h (by simp)
  · rw [hrun] at h
    obtain rfl := Option.some.inj h
    refine .attempted (fun db' hok => ?_) fun error => .raised hstatus rfl hrun hbusy hallows
    obtain ⟨hstatuses, hne⟩ := nodeStarted_eq_ok hok
    rw [hstatus] at hne
    refine .quiet hstatus hstatuses hrun (fun _ => hbusy) fun _ => ?_
    rcases hentering with rfl | rfl
    · exact .inl rfl
    · exact absurd rfl hne
  · obtain rfl := Option.some.inj h
    exact .quiet hstatus rfl hrun (fun _ => hbusy) fun _ => hallows.live
  · obtain rfl := Option.some.inj h
    exact .quiet hstatus rfl hrun (fun _ => hbusy) fun _ => hallows.live
  · obtain rfl := Option.some.inj h
    exact .raised hstatus rfl hrun hbusy hallows
  · exact absurd h (by simp)

/-- A step inside a node. -/
theorem act_spec {node : WorkflowNode} {stage : Stage}
    (h : act services g node stage input db = some result)
    (hphase : g.phase = .acting node stage) (hrun : g.runId = some r)
    (hstatus : db.statuses[r]? = some status) (hallows : g.phase.Allows status) :
    Steps db r status g result := by
  have hbusy : g.Busy := by simp [Busy, hphase]
  have hacting : status = .running ∨ node ∉ finishingNodes ∧ status = .cancelled := by
    rw [hphase] at hallows
    exact hallows
  unfold act at h
  split at h
  · obtain rfl := Option.some.inj h
    exact .raised hstatus rfl hrun hbusy hallows
  · rw [hrun, Option.bind_some] at h
    obtain ⟨written, hwritten, rfl⟩ := Option.map_eq_some_iff.mp h
    by_cases hnode : node ∈ finishingNodes
    · have hrunning : status = .running := hacting.resolve_right fun h => h.1 hnode
      have hend : node ∈ endNodes := by
        revert hnode
        cases node <;> simp [finishingNodes, endNodes]
      rcases actionStep_of_finishing hnode hwritten with ⟨error, rfl⟩ | ⟨state', found, hdone, hfound, hcases⟩
      · exact .raised hstatus rfl hrun hbusy hallows
      · obtain rfl : found = status := Option.some.inj (hfound.symm.trans hstatus)
        obtain ⟨written, db'⟩ := written
        obtain rfl : written = .done state' := hdone
        rcases hcases with ⟨hcompleted, -⟩ | ⟨target, htarget, hset⟩
        · rw [hrunning] at hcompleted
          exact absurd hcompleted (by simp)
        · refine ⟨hrun, fun _ => hbusy, target, .inr ?_, hset, fun _ => .inr (.inr ⟨hend, ?_⟩)⟩
          · rw [hrunning]
            revert htarget
            cases target <;> simp [completedStatuses, WorkflowRunStatus.allowed]
          · revert htarget
            cases target <;> simp [completedStatuses]
    · have hstatuses := actionStep_of_quiet hnode hwritten
      obtain ⟨written, db'⟩ := written
      have hlive : status = .running ∨ status = .cancelled := hacting.imp_right And.right
      cases written with
      | next stage => exact .quiet hstatus hstatuses hrun (fun _ => hbusy) fun _ => hacting
      | done state =>
          exact .quiet hstatus hstatuses hrun (fun _ => hbusy) fun _ => hlive.imp_right .inl
      | raised error => exact .raised hstatus hstatuses hrun hbusy hallows

/-- The end of a node. -/
theorem leave_spec {node : WorkflowNode} {state : ChapterWorkflowState}
    (hphase : g.phase = .leaving node state) (hrun : g.runId = some r)
    (hstatus : db.statuses[r]? = some status) (hallows : g.phase.Allows status) :
    Steps db r status g ⟨(g.leave node state).1, db, (g.leave node state).2⟩ := by
  have hbusy : g.Busy := by simp [Busy, hphase]
  unfold leave
  cases hnext : afterNode state node with
  | error error => exact .raised hstatus rfl hrun hbusy hallows
  | ok next =>
      cases next with
      | none => exact .quiet hstatus rfl hrun (fun h => h.elim) fun h => h.elim
      | some following =>
          have hgoesOn : node ∉ endNodes := by
            revert hnext
            cases node <;> simp [afterNode, endNodes]
          have hlive : status = .running ∨ status = .cancelled := by
            rw [hphase] at hallows
            exact hallows.imp_right fun h => h.resolve_right fun hend => hgoesOn hend.1
          refine .quiet hstatus rfl hrun (fun _ => hbusy) fun _ => ?_
          dsimp only
          split_ifs
          · exact hallows.live
          · exact hlive

/-- A step outside of the graph. -/
theorem conclude_spec (h : conclude g db = some result) (hrun : g.runId = some r)
    (hstatus : db.statuses[r]? = some status) (hallows : g.Busy → g.phase.Allows status) :
    Steps db r status g result := by
  unfold conclude at h
  split at h
  · rename_i node runId hphase hid
    obtain rfl : runId = r := Option.some.inj (hid.symm.trans hrun)
    have hbusy : g.Busy := by simp [Busy, hphase]
    obtain rfl := Option.some.inj h
    exact .attempted (fun _ => .paused hstatus hrun)
      fun error => .raised hstatus rfl hrun hbusy (hallows hbusy)
  · rename_i runId hphase hid
    obtain rfl : runId = r := Option.some.inj (hid.symm.trans hrun)
    obtain rfl := Option.some.inj h
    exact .attempted (fun _ => .paused hstatus hrun) fun error => .stopped hstatus hrun
  · rename_i hnone
    exact absurd (hnone.symm.trans hrun) (by simp)
  · rename_i runId hphase hid
    obtain rfl : runId = r := Option.some.inj (hid.symm.trans hrun)
    obtain rfl := Option.some.inj h
    refine .attempted (fun db' hok => ?_) fun error => .stopped hstatus hrun
    obtain ⟨found, hfound, hedge, hset⟩ := cancel_eq_ok hok
    obtain rfl : found = status := Option.some.inj (hfound.symm.trans hstatus)
    exact ⟨hrun, fun h => h.elim, .cancelled, hedge.imp_left Eq.symm, hset, fun h => h.elim⟩
  · rename_i hnone
    exact absurd (hnone.symm.trans hrun) (by simp)
  · rename_i runId hphase
    have hbusy : g.Busy := by simp [Busy, hphase]
    have hlive := (hallows hbusy).live
    split at h
    · rename_i blocked hblocked
      obtain rfl := Option.some.inj h
      obtain ⟨hid, found, hfound, hopen⟩ := budgetBlocked_eq_some hblocked
      obtain rfl : blocked = r := Option.some.inj (hid.symm.trans hrun)
      obtain rfl : found = status := Option.some.inj (hfound.symm.trans hstatus)
      refine .quiet hstatus rfl hrun (fun _ => hbusy) fun _ => ?_
      show found = .running
      revert hopen hlive
      cases found <;> simp [terminalStatuses]
    · obtain rfl := Option.some.inj h
      exact .quiet hstatus rfl hrun (fun _ => hbusy) fun _ => hlive
  · rename_i runId hphase hid
    obtain rfl : runId = r := Option.some.inj (hid.symm.trans hrun)
    have hbusy : g.Busy := by simp [Busy, hphase]
    have hrunning : status = .running := by
      have h := hallows hbusy
      rw [hphase] at h
      exact h
    obtain rfl := Option.some.inj h
    refine .attempted (fun db' hok => ?_) fun error => .stopped hstatus hrun
    obtain ⟨found, hfound, hset⟩ := ChapterVersionService.markNeedsReview_eq_ok hok
    refine ⟨hrun, fun _ => hbusy, .completedNeedsReview, .inr ?_, hset, fun _ => ?_⟩
    · rw [hrunning]
      decide
    · exact ⟨by simp, by simp⟩
  · obtain rfl := Option.some.inj h
    exact .quiet hstatus rfl hrun (fun h => h.elim) fun h => h.elim
  · rename_i message runId hphase
    have hbusy : g.Busy := by simp [Busy, hphase]
    obtain rfl := Option.some.inj h
    refine .attempted (fun db' hok => ?_) fun error => .stopped hstatus hrun
    exact .failed hstatus hrun hrun (fun h => h.elim) (fun _ _ h => h.elim) hok
  · obtain rfl := Option.some.inj h
    exact .quiet hstatus rfl hrun (fun h => h.elim) fun h => h.elim
  · exact absurd h (by simp)

/-- **One step of a call** changes the status of its run along the table, or not at all. -/
theorem advance_spec (h : advance services g input db = some result) (hrun : g.runId = some r)
    (hstatus : db.statuses[r]? = some status) (hallows : g.Busy → g.phase.Allows status) :
    Steps db r status g result := by
  unfold advance at h
  split at h
  · rename_i node hphase
    exact enter_spec h hphase hrun hstatus (hallows (by simp [Busy, hphase]))
  · rename_i node stage hphase
    exact act_spec h hphase hrun hstatus (hallows (by simp [Busy, hphase]))
  · rename_i node state hphase
    obtain rfl := Option.some.inj h
    exact leave_spec hphase hrun hstatus (hallows (by simp [Busy, hphase]))
  · rename_i node state error hphase
    have hbusy : g.Busy := by simp [Busy, hphase]
    obtain rfl := Option.some.inj h
    exact .raised hstatus rfl hrun hbusy (hallows hbusy)
  · exact absurd h (by simp)
  · rename_i node error hphase
    have hbusy : g.Busy := by simp [Busy, hphase]
    obtain rfl := Option.some.inj h
    exact .raised hstatus rfl hrun hbusy (hallows hbusy)
  · exact absurd h (by simp)
  · exact absurd h (by simp)
  · obtain rfl := Option.some.inj h
    exact .stopped hstatus hrun
  · exact conclude_spec h hrun hstatus hallows
  · exact absurd h (by simp)

@[simp] theorem leave_runId (g : GraphExecution) (node : WorkflowNode)
    (state : ChapterWorkflowState) : (g.leave node state).1.runId = g.runId := by
  unfold leave
  split
  · rfl
  · rfl

/-- A step of a call whose thread has no run yet: it writes no status, or begins the run. -/
theorem advance_spec_of_none (h : advance services g input db = some result)
    (hrun : g.runId = none) :
    result.graph.runId = none ∧ result.db.statuses = db.statuses ∨
      (g.phase = .entering .initializeWorkflow ∧ input = .proceed) ∧
        result.graph.runId = some db.statuses.length ∧
          result.db.statuses = db.statuses ++ [.running] ∧
            result.graph.phase.Allows .running := by
  unfold advance at h
  split at h
  · rename_i hphase
    unfold enter at h
    split at h
    · obtain rfl := Option.some.inj h
      unfold beginRun
      cases hinit : initializeWorkflow g.state g.runId db with
      | error error => exact .inl ⟨hrun, rfl⟩
      | ok begun =>
          obtain ⟨runId, state, db'⟩ := begun
          rcases initializeWorkflow_eq_ok hinit with ⟨hid, -, -⟩ | ⟨-, hid, hset⟩
          · exact absurd (hrun.symm.trans hid) (by simp)
          · exact .inr ⟨⟨hphase, rfl⟩, by simp [hid], hset, .inl rfl⟩
    · obtain rfl := Option.some.inj h
      exact .inl ⟨hrun, rfl⟩
    · exact absurd h (by simp)
    · obtain rfl := Option.some.inj h
      rw [hrun]
      exact .inl ⟨hrun, rfl⟩
    · obtain rfl := Option.some.inj h
      exact .inl ⟨hrun, rfl⟩
    · exact absurd h (by simp)
    · exact absurd h (by simp [hrun])
    · obtain rfl := Option.some.inj h
      exact .inl ⟨hrun, rfl⟩
    · obtain rfl := Option.some.inj h
      exact .inl ⟨hrun, rfl⟩
    · obtain rfl := Option.some.inj h
      exact .inl ⟨hrun, rfl⟩
    · exact absurd h (by simp)
  · unfold act at h
    split at h
    · obtain rfl := Option.some.inj h
      exact .inl ⟨hrun, rfl⟩
    · exact absurd h (by simp [hrun])
  · rename_i node state hphase
    obtain rfl := Option.some.inj h
    exact .inl ⟨(leave_runId g node state).trans hrun, rfl⟩
  · obtain rfl := Option.some.inj h
    exact .inl ⟨hrun, rfl⟩
  · exact absurd h (by simp)
  · obtain rfl := Option.some.inj h
    exact .inl ⟨hrun, rfl⟩
  · exact absurd h (by simp)
  · exact absurd h (by simp)
  · obtain rfl := Option.some.inj h
    exact .inl ⟨hrun, rfl⟩
  · unfold conclude at h
    rw [hrun] at h
    split at h
    · exact absurd ‹none = some _› (by simp)
    · exact absurd ‹none = some _› (by simp)
    · obtain rfl := Option.some.inj h
      exact .inl ⟨hrun, rfl⟩
    · exact absurd ‹none = some _› (by simp)
    · obtain rfl := Option.some.inj h
      exact .inl ⟨hrun, rfl⟩
    · obtain rfl := Option.some.inj h
      exact .inl ⟨hrun, rfl⟩
    · exact absurd ‹none = some _› (by simp)
    · obtain rfl := Option.some.inj h
      exact .inl ⟨hrun, rfl⟩
    · obtain rfl := Option.some.inj h
      exact .inl ⟨hrun, rfl⟩
    · obtain rfl := Option.some.inj h
      exact .inl ⟨hrun, rfl⟩
    · exact absurd h (by simp)
  · exact absurd h (by simp)

/-- A call that is not busy only reads. -/
theorem advance_of_not_busy (h : advance services g input db = some result)
    (hbusy : ¬ g.Busy) :
    result.graph.runId = g.runId ∧ result.db = db ∧ ¬ result.graph.Busy := by
  cases hphase : g.phase with
  | returning =>
      cases input with
      | proceed =>
          simp only [advance, hphase, conclude] at h
          obtain rfl := Option.some.inj h
          exact ⟨rfl, rfl, fun h => h.elim⟩
      | failed error =>
          simp only [advance, hphase] at h
          obtain rfl := Option.some.inj h
          exact ⟨rfl, rfl, fun h => h.elim⟩
      | _ => simp [advance, hphase] at h
  | ended result => simp [advance, hphase] at h
  | crashed => simp [advance, hphase] at h
  | _ => exact absurd (by simp [Busy, hphase]) hbusy

/-! ### The invariant -/

/-- Every status is kept or changed along the table. -/
def Follows (before after : List WorkflowRunStatus) : Prop :=
  ∀ (r : ℕ) (status target : WorkflowRunStatus), before[r]? = some status →
    after[r]? = some target → target = status ∨ target ∈ status.allowed

theorem Follows.refl (statuses : List WorkflowRunStatus) : Follows statuses statuses := by
  intro r status target hstatus htarget
  exact .inl (Option.some.inj (htarget.symm.trans hstatus))

theorem Follows.append (statuses : List WorkflowRunStatus) (status : WorkflowRunStatus) :
    Follows statuses (statuses ++ [status]) := by
  intro r old new hold hnew
  rw [List.getElem?_append_left (List.getElem?_eq_some_iff.mp hold).1] at hnew
  exact .inl (Option.some.inj (hnew.symm.trans hold))

theorem Follows.set {statuses : List WorkflowRunStatus} {target : WorkflowRunStatus}
    (hstatus : statuses[r]? = some status) (hedge : target = status ∨ target ∈ status.allowed) :
    Follows statuses (statuses.set r target) := by
  intro i old new hold hnew
  by_cases hi : r = i
  · subst hi
    rw [List.getElem?_set_self (List.getElem?_eq_some_iff.mp hold).1] at hnew
    obtain rfl := Option.some.inj hnew
    obtain rfl := Option.some.inj (hold.symm.trans hstatus)
    exact hedge
  · rw [List.getElem?_set_ne hi] at hnew
    exact .inl (Option.some.inj (hnew.symm.trans hold))

/-- **One busy call a run**, which has a status that the phase of the call allows. -/
structure Exclusive (graphs : List GraphExecution) (statuses : List WorkflowRunStatus) :
    Prop where
  unique : ∀ (i j : ℕ) (g h : GraphExecution) (r : ℕ), graphs[i]? = some g →
    graphs[j]? = some h → g.Busy → h.Busy → g.runId = some r → h.runId = some r → i = j
  allows : ∀ g ∈ graphs, ∀ r, g.runId = some r →
    ∃ status, statuses[r]? = some status ∧ (g.Busy → g.phase.Allows status)

variable {graphs : List GraphExecution} {statuses : List WorkflowRunStatus} {i : ℕ}
  {g' : GraphExecution} {target : WorkflowRunStatus}

/-- The status of one run changes under the busy call on it. -/
theorem Exclusive.write (h : Exclusive graphs statuses)
    (hallows : ∀ g ∈ graphs, g.runId = some r → g.Busy → g.phase.Allows target) :
    Exclusive graphs (statuses.set r target) := by
  refine ⟨h.unique, ?_⟩
  intro g hg r' hr'
  obtain ⟨status, hstatus, hold⟩ := h.allows g hg r' hr'
  by_cases heq : r = r'
  · subst heq
    exact ⟨target, List.getElem?_set_self (List.getElem?_eq_some_iff.mp hstatus).1,
      hallows g hg hr'⟩
  · exact ⟨status, by rw [List.getElem?_set_ne heq, hstatus], hold⟩

/-- A new run is nobody's yet. -/
theorem Exclusive.grow (h : Exclusive graphs statuses) (status : WorkflowRunStatus) :
    Exclusive graphs (statuses ++ [status]) := by
  refine ⟨h.unique, ?_⟩
  intro g hg r hr
  obtain ⟨status, hstatus, hold⟩ := h.allows g hg r hr
  exact ⟨status, by rw [List.getElem?_append_left (List.getElem?_eq_some_iff.mp hstatus).1, hstatus],
    hold⟩

/-- A call goes on, or a call on a run without a busy one. -/
theorem Exclusive.setGraph (h : Exclusive graphs statuses)
    (hfree : ∀ r, g'.runId = some r → g'.Busy → ∀ (j : ℕ) (g : GraphExecution),
      graphs[j]? = some g → g.Busy → g.runId = some r → j = i)
    (hallows : ∀ r, g'.runId = some r →
      ∃ status, statuses[r]? = some status ∧ (g'.Busy → g'.phase.Allows status)) :
    Exclusive (graphs.set i g') statuses := by
  constructor
  · intro a b g₁ g₂ r h₁ h₂ hb₁ hb₂ hr₁ hr₂
    rcases Rows.getElem?_set_cases h₁ with ⟨rfl, rfl⟩ | ⟨ha, h₁⟩ <;>
      rcases Rows.getElem?_set_cases h₂ with ⟨rfl, rfl⟩ | ⟨hb, h₂⟩
    · rfl
    · exact (hfree r hr₁ hb₁ b g₂ h₂ hb₂ hr₂).symm
    · exact hfree r hr₂ hb₂ a g₁ h₁ hb₁ hr₁
    · exact h.unique a b g₁ g₂ r h₁ h₂ hb₁ hb₂ hr₁ hr₂
  · intro g hg r hr
    rcases List.mem_or_eq_of_mem_set hg with hg | rfl
    · exact h.allows g hg r hr
    · exact hallows r hr

/-- A new call, on a run without a busy one. -/
theorem Exclusive.begin (h : Exclusive graphs statuses)
    (hfree : ∀ r, g'.runId = some r → ∀ g ∈ graphs, g.runId = some r → ¬ g.Busy)
    (hallows : ∀ r, g'.runId = some r →
      ∃ status, statuses[r]? = some status ∧ (g'.Busy → g'.phase.Allows status)) :
    Exclusive (graphs ++ [g']) statuses := by
  constructor
  · intro a b g₁ g₂ r h₁ h₂ hb₁ hb₂ hr₁ hr₂
    rcases Rows.getElem?_concat_cases h₁ with h₁ | ⟨rfl, rfl⟩ <;>
      rcases Rows.getElem?_concat_cases h₂ with h₂ | ⟨rfl, rfl⟩
    · exact h.unique a b g₁ g₂ r h₁ h₂ hb₁ hb₂ hr₁ hr₂
    · exact absurd hb₁ (hfree r hr₂ g₁ (List.mem_of_getElem? h₁) hr₁)
    · exact absurd hb₂ (hfree r hr₁ g₂ (List.mem_of_getElem? h₂) hr₂)
    · rfl
  · intro g hg r hr
    rcases List.mem_append.mp hg with hg | hg
    · exact h.allows g hg r hr
    · obtain rfl := List.mem_singleton.mp hg
      exact hallows r hr

/-! ### Orderly runs -/

/-- What an action on the run of a call may not find the call at. -/
def Spares (g : GraphExecution) : WorkflowAction → Prop
  | .cancel _ | .cancelLinked _ _ => ¬ g.Finishing
  | .recoverLease _ => ¬ g.Busy
  | _ => True

instance (g : GraphExecution) (action : WorkflowAction) : Decidable (Spares g action) := by
  unfold Spares
  split <;> infer_instance

/-- What an orderly run leaves out: statuses changed between the reading and the commit of
another transaction, cancellations that a finishing call does not notice, and recoveries of
leases whose holder is still at work. -/
def Orderly (s : WorkflowSystem) (a : WorkflowAction × Option WorkflowRunStatus) : Prop :=
  a.2 = none ∧ ∀ g ∈ s.graphs, g.runId.isSome → g.runId = s.target a.1 → Spares g a.1

instance (s : WorkflowSystem) (a : WorkflowAction × Option WorkflowRunStatus) :
    Decidable (s.Orderly a) := by
  unfold Orderly
  infer_instance

variable {s s' : WorkflowSystem} {action : WorkflowAction}

theorem save_graphs (s : WorkflowSystem) (runId : Option ℕ) (checkpoint : Option Checkpoint) :
    (s.save runId checkpoint).graphs = s.graphs := by
  unfold save
  split
  · rfl
  · rfl

/-- A step of a call keeps the invariant, and follows the table. -/
theorem exclusive_step {g : GraphExecution} (h : Exclusive graphs db.statuses)
    (hg : graphs[i]? = some g) (hadvance : advance services g input db = some result) :
    Exclusive (graphs.set i result.graph) result.db.statuses ∧
      Follows db.statuses result.db.statuses := by
  have hmem : g ∈ graphs := List.mem_of_getElem? hg
  by_cases hbusy : g.Busy
  · cases hrun : g.runId with
    | none =>
        rcases advance_spec_of_none hadvance hrun with ⟨hnone, hset⟩ | ⟨-, hid, hset, hallows⟩
        · rw [hset]
          refine ⟨h.setGraph (fun r hr => ?_) fun r hr => ?_, .refl _⟩
          · exact absurd (hnone.symm.trans hr) (by simp)
          · exact absurd (hnone.symm.trans hr) (by simp)
        · rw [hset]
          refine ⟨(h.grow .running).setGraph (fun r hr _ j g hj _ hgr => ?_) fun r hr => ?_,
            .append _ _⟩
          · obtain rfl : db.statuses.length = r := Option.some.inj (hid.symm.trans hr)
            obtain ⟨status, hstatus, -⟩ := h.allows g (List.mem_of_getElem? hj) _ hgr
            exact absurd (List.getElem?_eq_some_iff.mp hstatus).1 (Nat.lt_irrefl _)
          · obtain rfl : db.statuses.length = r := Option.some.inj (hid.symm.trans hr)
            exact ⟨.running, by simp, fun _ => hallows⟩
    | some r =>
        obtain ⟨status, hstatus, hallows⟩ := h.allows g hmem r hrun
        obtain ⟨hid, -, target, hedge, hset, hgo⟩ := advance_spec hadvance hrun hstatus hallows
        rw [hset]
        refine ⟨?_, .set hstatus hedge⟩
        -- no call is busy with the run while this one is between its phases
        have hgone : Exclusive (graphs.set i (g.goto .crashed)) db.statuses :=
          h.setGraph (fun _ _ hb => hb.elim) fun r' hr' => by
            obtain ⟨status, hstatus, -⟩ := h.allows g hmem r' hr'
            exact ⟨status, hstatus, fun hb => hb.elim⟩
        have hfree : ∀ (j : ℕ) (g₂ : GraphExecution),
            (graphs.set i (g.goto .crashed))[j]? = some g₂ → g₂.Busy → g₂.runId = some r →
              j = i := by
          intro j g₂ hj hb hr
          rcases Rows.getElem?_set_cases hj with ⟨rfl, -⟩ | ⟨-, hj⟩
          · rfl
          · exact h.unique j i g₂ g r hj hg hb hbusy hr hrun
        have hwritten : Exclusive (graphs.set i (g.goto .crashed)) (db.statuses.set r target) := by
          refine hgone.write fun g₂ hg₂ hr hb => ?_
          obtain ⟨j, hj⟩ := List.mem_iff_getElem?.mp hg₂
          obtain rfl := hfree j g₂ hj hb hr
          rcases Rows.getElem?_set_cases hj with ⟨-, rfl⟩ | ⟨hne, -⟩
          · exact hb.elim
          · exact absurd rfl hne
        rw [← List.set_set (g.goto .crashed)]
        refine hwritten.setGraph (fun r' hr' _ j g₂ hj hb hr => ?_) fun r' hr' => ?_
        · obtain rfl : r = r' := Option.some.inj (hid.symm.trans hr')
          exact hfree j g₂ hj hb hr
        · obtain rfl : r = r' := Option.some.inj (hid.symm.trans hr')
          exact ⟨target, List.getElem?_set_self (List.getElem?_eq_some_iff.mp hstatus).1, hgo⟩
  · obtain ⟨hid, hdb, hidle⟩ := advance_of_not_busy hadvance hbusy
    rw [hdb]
    refine ⟨h.setGraph (fun r _ hb => absurd hb hidle) fun r hr => ?_, .refl _⟩
    obtain ⟨status, hstatus, -⟩ := h.allows g hmem r (hid.symm.trans hr)
    exact ⟨status, hstatus, fun hb => absurd hb hidle⟩

/-- **Every orderly action** keeps the invariant and follows the table. -/
theorem exclusive_perform (h : Exclusive s.graphs s.db.statuses) (hok : s.Orderly (action, none))
    (hperform : s.perform services action = some s') :
    Exclusive s'.graphs s'.db.statuses ∧ Follows s.db.statuses s'.db.statuses := by
  have hspares : ∀ g ∈ s.graphs, ∀ r, g.runId = some r → s.target action = some r →
      Spares g action := by
    intro g hg r hr htarget
    exact hok.2 g hg (by simp [hr]) (hr.trans htarget.symm)
  cases action with
  | run request =>
      obtain rfl := Option.some.inj hperform
      exact ⟨h.begin (fun r hr => absurd hr (by simp [GraphExecution.start]))
        (fun r hr => absurd hr (by simp [GraphExecution.start])), .refl _⟩
  | resume r =>
      simp only [perform] at hperform
      split at hperform
      · rename_i db checkpoint hresume hcheckpoint
        obtain rfl := Option.some.inj hperform
        obtain ⟨hpaused, hset⟩ := resume_eq_ok hresume
        have hidle : ∀ g ∈ s.graphs, g.runId = some r → ¬ g.Busy := by
          intro g hg hr hb
          obtain ⟨status, hstatus, hallows⟩ := h.allows g hg r hr
          obtain rfl : status = .paused := Option.some.inj (hstatus.symm.trans hpaused)
          exact (hallows hb).live.1 rfl
        rw [hset]
        refine ⟨(h.write fun g hg hr hb => absurd hb (hidle g hg hr)).begin
          (fun r' hr' g hg hr => ?_) fun r' hr' => ?_, .set hpaused (.inr (by decide))⟩
        · obtain rfl : r = r' := Option.some.inj hr'
          exact hidle g hg hr
        · obtain rfl : r = r' := Option.some.inj hr'
          refine ⟨.running, List.getElem?_set_self (List.getElem?_eq_some_iff.mp hpaused).1,
            fun _ => ?_⟩
          unfold restart
          cases checkpoint.next with
          | none => simp [GraphPhase.Allows]
          | some node => exact .inl rfl
      · obtain rfl := Option.some.inj hperform
        exact ⟨h, .refl _⟩
  | step i input =>
      obtain ⟨g, hg, hstep⟩ := Option.bind_eq_some_iff.mp hperform
      obtain ⟨result, hresult, rfl⟩ := Option.map_eq_some_iff.mp hstep
      have hgraphs : ((s.setGraph i result.graph).save result.graph.runId
          result.checkpoint).graphs = s.graphs.set i result.graph := by
        rw [save_graphs]
        rfl
      rw [show ({ (s.setGraph i result.graph).save result.graph.runId result.checkpoint with
        db := result.db } : WorkflowSystem).graphs = _ from hgraphs]
      exact exclusive_step h hg hresult
  | crash i =>
      obtain ⟨g, hg, rfl⟩ := Option.map_eq_some_iff.mp hperform
      have hmem := List.mem_of_getElem? (Option.filter_eq_some_iff.mp hg).1
      refine ⟨h.setGraph (fun _ _ hb => hb.elim) fun r hr => ?_, .refl _⟩
      obtain ⟨status, hstatus, -⟩ := h.allows g hmem r hr
      exact ⟨status, hstatus, fun hb => hb.elim⟩
  | cancel r =>
      obtain rfl := Option.some.inj hperform
      unfold commitOr
      cases hcancel : ChapterWorkflowService.cancel r s.db with
      | error error => exact ⟨h, .refl _⟩
      | ok db =>
          obtain ⟨status, hstatus, hedge, hset⟩ := cancel_eq_ok hcancel
          dsimp only
          rw [hset]
          exact ⟨h.write fun g hg hr hb => allows_cancelled (hspares g hg r hr rfl),
            .set hstatus (hedge.imp_left Eq.symm)⟩
  | cancelLinked job now =>
      obtain rfl := Option.some.inj hperform
      unfold commitOr
      cases hcancel : ChapterWorkflowService.cancelLinked job now s.db with
      | error error => exact ⟨h, .refl _⟩
      | ok db =>
          dsimp only
          rcases cancelLinked_eq_ok hcancel with hset | ⟨r, status, hr, hstatus, hedge, hset⟩
          · rw [hset]
            exact ⟨h, .refl _⟩
          · rw [hset]
            exact ⟨h.write fun g hg hgr hb => allows_cancelled (hspares g hg r hgr hr),
              .set hstatus (.inr hedge)⟩
  | recoverLease job =>
      obtain rfl := Option.some.inj hperform
      unfold commitOr
      cases hrecover : ChapterWorkflowService.recoverLease job s.db with
      | error error => exact ⟨h, .refl _⟩
      | ok db =>
          dsimp only
          rcases recoverLease_eq_ok hrecover with hset | ⟨r, hr, hstatus, hset⟩
          · rw [hset]
            exact ⟨h, .refl _⟩
          · rw [hset]
            exact ⟨h.write fun g hg hgr hb => absurd hb (hspares g hg r hgr hr),
              .set hstatus (.inr (by decide))⟩
  | otherCode db =>
      simp only [perform] at hperform
      split at hperform
      · rename_i hsame
        obtain rfl := Option.some.inj hperform
        dsimp only
        rw [hsame]
        exact ⟨h, .refl _⟩
      · exact absurd hperform (by simp)

/-! ### The log -/

/-- A recorded change is one. -/
theorem mem_statusChanges {before after : List WorkflowRunStatus} {change : StatusChange}
    (h : change ∈ statusChanges before after) :
    before[change.runId]? = some change.before ∧ after[change.runId]? = some change.after ∧
      change.before ≠ change.after := by
  obtain ⟨⟨⟨old, new⟩, r⟩, hmem, hchange⟩ := List.mem_filterMap.mp h
  dsimp only at hchange
  split at hchange
  · exact absurd hchange (by simp)
  · rename_i hne
    obtain rfl := Option.some.inj hchange
    have hget := List.mem_zipIdx_iff_getElem?.mp hmem
    rw [List.getElem?_zip_eq_some] at hget
    exact ⟨hget.1, hget.2, hne⟩

/-- A recorded acceptance is one of a call at its acceptance. -/
theorem acceptance_eq_some {g g' : GraphExecution} {accepted : Acceptance}
    (h : acceptance db g g' = some accepted) :
    ∃ stage, g.phase = .acting .acceptVersion stage ∧ g.runId = some accepted.runId ∧
      db.statuses[accepted.runId]? = some accepted.status := by
  unfold acceptance at h
  split at h
  · rename_i stage _ _ runId versionId hphase _ hrun _
    split at h
    · rename_i run hget
      split at h
      · exact absurd h (by simp)
      · obtain rfl := Option.some.inj h
        exact ⟨stage, hphase, hrun, by rw [StoryDatabase.getElem?_statuses, hget]; rfl⟩
    · exact absurd h (by simp)
  · exact absurd h (by simp)

/-- **Cancelled and failed runs are final**: every committed change of a status follows the
table, none begins at a cancelled or failed run, and nothing is accepted for such a run. -/
structure Final (s : WorkflowSystem) : Prop where
  changes : ∀ change ∈ s.changes, change.after ∈ change.before.allowed ∧
    change.before ∉ [.cancelled, .failed]
  acceptances : ∀ accepted ∈ s.acceptances, accepted.status ∉ [.cancelled, .failed]

instance (s : WorkflowSystem) : Decidable s.Final :=
  decidable_of_iff
    ((∀ change ∈ s.changes, change.after ∈ change.before.allowed ∧
        change.before ∉ [.cancelled, .failed]) ∧
      ∀ accepted ∈ s.acceptances, accepted.status ∉ [.cancelled, .failed])
    ⟨fun h => ⟨h.1, h.2⟩, fun h => ⟨h.1, h.2⟩⟩

/-- Every orderly step keeps the invariant, and records nothing that is not final. -/
theorem final_next {a : WorkflowAction × Option WorkflowRunStatus}
    (h : Exclusive s.graphs s.db.statuses ∧ s.Final) (hok : s.Orderly a)
    (hnext : next services s a = some s') :
    Exclusive s'.graphs s'.db.statuses ∧ s'.Final := by
  obtain ⟨action, seen⟩ := a
  obtain rfl : seen = none := hok.1
  obtain ⟨mid, hmid, rfl⟩ := Option.map_eq_some_iff.mp hnext
  obtain ⟨hexclusive, hfollows⟩ := exclusive_perform h.1 hok hmid
  refine ⟨hexclusive, ?_, ?_⟩
  · intro change hchange
    rcases List.mem_append.mp hchange with hold | hnew
    · exact h.2.changes change hold
    · obtain ⟨hbefore, hafter, hne⟩ := mem_statusChanges hnew
      have hedge : change.after ∈ change.before.allowed :=
        (hfollows _ _ _ hbefore hafter).resolve_left hne.symm
      refine ⟨hedge, ?_⟩
      revert hedge
      cases change.before <;> simp [WorkflowRunStatus.allowed]
  · intro accepted haccepted
    rcases List.mem_append.mp haccepted with hold | hnew
    · exact h.2.acceptances accepted hold
    · obtain ⟨⟨g, g'⟩, hpair, hsome⟩ := List.mem_filterMap.mp hnew
      obtain ⟨stage, hphase, hrun, hstatus⟩ := acceptance_eq_some hsome
      obtain ⟨status, hfound, hallows⟩ := h.1.allows g (List.of_mem_zip hpair).1 _ hrun
      dsimp only at hphase
      have hrunning := hallows (by simp [Busy, hphase])
      rw [hphase] at hrunning
      obtain rfl : status = accepted.status := Option.some.inj (hfound.symm.trans hstatus)
      rcases hrunning with heq | ⟨hnot, -⟩
      · simp [heq]
      · exact absurd hnot (by simp [finishingNodes])

/-- **Cancelled and failed runs are final** in every orderly run. -/
theorem final_of_reachable (hs : (machine services).ReachableUnder Orderly s) : s.Final := by
  have hinvariant : Exclusive s.graphs s.db.statuses ∧ s.Final := by
    refine hs.invariant (I := fun s => Exclusive s.graphs s.db.statuses ∧ s.Final) ?_ ?_
    · rintro s ⟨-, hgraphs, hchanges, hacceptances⟩
      exact ⟨⟨by simp [hgraphs], by simp [hgraphs]⟩, ⟨by simp [hchanges], by simp [hacceptances]⟩⟩
    · intro s a s' _ h hok hnext
      exact final_next h hok hnext
  exact hinvariant.2

/-! ### A cancellation that is overwritten -/

/-- A story with one planned chapter. -/
def sampleDatabase : StoryDatabase where
  projects := [⟨.planned⟩]
  chapters := [⟨0, 1, .planned, 1, "", "", "", none, none, none⟩]
  versions := []
  facts := []
  evaluations := []
  revisions := []
  comparisons := []
  runs := []

/-- A workflow system with one planned chapter. -/
def sample : WorkflowSystem := ⟨sampleDatabase, fun _ => none, [], [], []⟩

/-- The generation of the chapter. -/
def sampleRequest : ChapterWorkflowRequest := ⟨0, 1, .generate, 2, none, by decide⟩

/-- Services whose scores let the draft pass. -/
def sampleServices : StoryServices := ⟨(·.subject), fun _ _ _ => "accept_new"⟩

/-- Scores that let a version pass. -/
def passingScores : CombinedScores := ⟨⟨9, 0, 0⟩, 9, 9, [], "accept", true⟩

/-- The next `n` transactions of the only call. -/
def proceeds (n : ℕ) : List (WorkflowAction × Option WorkflowRunStatus) :=
  List.replicate n (.step 0 .proceed, none)

/-- A run of the graph up to the transaction of `accept_version`. -/
def untilAcceptance : List (WorkflowAction × Option WorkflowRunStatus) :=
  [(.run sampleRequest, none)] ++ proceeds 7 ++ [(.step 0 (.drafted ⟨"Title", "Text", ""⟩), none)] ++
    proceeds 3 ++ [(.step 0 (.extracted ⟨[], [], []⟩), none)] ++ proceeds 4 ++
    [(.step 0 (.evaluated passingScores), none)] ++ proceeds 6

/-- A cancellation between the start of `accept_version` and its commit is overwritten: the
chapter is accepted for a cancelled run. -/
theorem final_fails :
    ¬ ∀ (services : StoryServices) (s : WorkflowSystem),
      (machine services).Reachable s → s.Final := by
  intro h
  obtain ⟨s, hs, hnot⟩ := (machine sampleServices).exists_reachable
    (untilAcceptance ++ [(.cancel 0, none)] ++ proceeds 1) (fun s => ¬ s.Final) (s := sample)
    ⟨rfl, rfl, rfl, rfl⟩ (by decide +kernel)
  exact hnot (h _ s hs)

/-- Without the cancellation the chapter is accepted by a running call, and the run has
followed the table. -/
theorem final_of_reachable_accepted :
    ∃ s : WorkflowSystem, (machine sampleServices).ReachableUnder Orderly s ∧
      (s.db.statuses = [.completed] ∧ s.acceptances ≠ []) ∧ s.Final := by
  obtain ⟨s, hs, hdone⟩ := (machine sampleServices).exists_reachableUnder Orderly
    (untilAcceptance ++ proceeds 1)
    (fun s => s.db.statuses = [.completed] ∧ s.acceptances ≠ []) (s := sample)
    ⟨rfl, rfl, rfl, rfl⟩ (by decide +kernel)
  exact ⟨s, hs, hdone, final_of_reachable hs⟩

end WorkflowSystem

end StoryForge
