import StoryForge.Books.System

/-!
# What a book run spends

The budget gate admits a chapter against an estimate of its calls and tokens, and the usage of
a chapter is recorded after it. This module shows that calls, tokens and cost stay within the
limits of the book run, and that the book run records what was spent, as long as every call is
made by the workflow of a chapter and its usage is recorded before the execution does anything
else. The critic of the whole book is such a call that no chapter makes.

## Main results

* `BookExecution.accounts_next` — what every step keeps under the condition;
* `BookExecution.spending_within` — the limits hold, and the usage is recorded;
* `BookExecution.spending_exceeded` — they do not when the book is reviewed.
-/

namespace StoryForge

open BookWorkflowApplicationService

/-! ### The budget of a book run -/

/-- A book run has room for one more chapter of the estimated size. -/
def BookRun.Fits (run : BookRun) : Prop :=
  run.providerCalls + estimatedCalls ≤ run.maxProviderCalls ∧
    run.usedTokens + estimatedTokens ≤ run.maxTotalTokens

instance (run : BookRun) : Decidable run.Fits := by unfold BookRun.Fits; infer_instance

/-- A usage that a chapter is estimated to have. -/
def BookUsage.Estimated (usage : BookUsage) : Prop :=
  usage.calls ≤ estimatedCalls ∧ usage.tokens ≤ estimatedTokens

instance (usage : BookUsage) : Decidable usage.Estimated := by
  unfold BookUsage.Estimated; infer_instance

/-- A usage within the limits of a book run. -/
def BookUsage.Within (usage : BookUsage) (run : BookRun) : Prop :=
  usage.calls ≤ run.maxProviderCalls ∧ usage.tokens ≤ run.maxTotalTokens ∧
    usage.cost ≤ run.maxEstimatedCost

instance (usage : BookUsage) (run : BookRun) : Decidable (usage.Within run) := by
  unfold BookUsage.Within; infer_instance

/-- Two rows that agree on the budget. -/
structure BookRun.SameBudget (run run' : BookRun) : Prop where
  recorded : run'.recorded = run.recorded
  calls : run'.maxProviderCalls = run.maxProviderCalls
  tokens : run'.maxTotalTokens = run.maxTotalTokens
  cost : run'.maxEstimatedCost = run.maxEstimatedCost

namespace BookRun

variable {run run' : BookRun}

theorem SameBudget.of_lasting (h : run'.lasting = run.lasting) : run.SameBudget run' := by
  constructor
  · exact (congrArg BookRun.recorded h : run'.lasting.recorded = run.lasting.recorded)
  · exact (congrArg BookRun.maxProviderCalls h : run'.lasting.maxProviderCalls = _)
  · exact (congrArg BookRun.maxTotalTokens h : run'.lasting.maxTotalTokens = _)
  · exact (congrArg BookRun.maxEstimatedCost h : run'.lasting.maxEstimatedCost = _)

theorem workflowRunId_of_lasting (h : run'.lasting = run.lasting) :
    run'.workflowRunId = run.workflowRunId :=
  (congrArg BookRun.workflowRunId h : run'.lasting.workflowRunId = _)

theorem SameBudget.fits (h : run.SameBudget run') : run'.Fits ↔ run.Fits := by
  have hcalls : run'.providerCalls = run.providerCalls := congrArg BookUsage.calls h.recorded
  have htokens : run'.usedTokens = run.usedTokens := congrArg BookUsage.tokens h.recorded
  rw [Fits, Fits, hcalls, htokens, h.calls, h.tokens]

theorem SameBudget.within (h : run.SameBudget run') {usage : BookUsage} :
    usage.Within run' ↔ usage.Within run := by
  rw [BookUsage.Within, BookUsage.Within, h.calls, h.tokens, h.cost]

/-- What the gate lets pass has room. -/
theorem fits_of_overBudget (h : overBudget run = false) : run.Fits := by
  have hnot := of_decide_eq_false h
  unfold Fits
  omega

/-- An estimated usage on top of what is recorded stays within the limits. -/
theorem Fits.within (h : run.Fits) {more : BookUsage} (hmore : more.Estimated)
    (hcost : (run.recorded + more).cost ≤ run.maxEstimatedCost) :
    (run.recorded + more).Within run := by
  obtain ⟨hcalls, htokens⟩ := h
  obtain ⟨hmoreCalls, hmoreTokens⟩ := hmore
  refine ⟨?_, ?_, hcost⟩
  · simp only [BookUsage.add_calls, recorded]
    omega
  · simp only [BookUsage.add_tokens, recorded]
    omega

end BookRun

/-- A request to resume keeps what is recorded, and the limits that it sets are not below that. -/
theorem BookRunService.resumeRun_budget {request : Option BookRunResumeRequest} {run run' : BookRun}
    (h : resumeRun request run = .ok run') :
    run'.recorded = run.recorded ∧ run'.workflowRunId = run.workflowRunId ∧
      run'.currentChapterNumber = run.currentChapterNumber ∧
      (run.recorded.Within run → run.recorded.Within run') := by
  obtain ⟨limited, hlasting, hlimited⟩ := resumeRun_eq_ok h
  have hbudget : limited.SameBudget run' := .of_lasting hlasting
  have hlink := BookRun.workflowRunId_of_lasting hlasting
  have hcurrent : run'.currentChapterNumber = limited.currentChapterNumber :=
    (congrArg BookRun.currentChapterNumber hlasting : run'.lasting.currentChapterNumber = _)
  rcases hlimited with rfl | ⟨limits, -, hlimits⟩
  · exact ⟨hbudget.recorded, hlink, hcurrent, hbudget.within.mpr⟩
  · obtain ⟨rfl, hcost, htokens, hcalls⟩ := resumeLimits_eq_ok hlimits
    refine ⟨hbudget.recorded, hlink, hcurrent, fun ⟨hoverCalls, hoverTokens, hoverCost⟩ =>
      hbudget.within.mpr ⟨?_, ?_, ?_⟩⟩
    · cases hlimit : limits.maxProviderCalls with
      | none => exact hoverCalls
      | some limit => exact hcalls limit hlimit
    · cases hlimit : limits.maxTotalTokens with
      | none => exact hoverTokens
      | some limit => exact htokens limit hlimit
    · cases hlimit : limits.maxEstimatedCost with
      | none => exact hoverCost
      | some limit => exact hcost limit hlimit

namespace BookWorkflowApplicationService

/-- Whose calls are counted depends on what the workflow runs are only. -/
theorem isOf_congr {ids ids' : List ℕ} (h : ∀ id, id ∈ ids' ↔ id ∈ ids) :
    SucceededCall.isOf ids' = SucceededCall.isOf ids := by
  funext call
  unfold SucceededCall.isOf
  congr 1
  funext id
  exact Bool.eq_iff_iff.mpr (by simp [h])

/-- A call that is attributed to none of some workflow runs. -/
theorem isOf_eq_false {ids : List ℕ} {call : SucceededCall}
    (h : ∀ id ∈ call.workflowRunId, id ∉ ids) : SucceededCall.isOf ids call = false := by
  unfold SucceededCall.isOf
  cases hid : call.workflowRunId with
  | none => rfl
  | some id => simpa using h id hid

/-- One more workflow run that a call is not attributed to. -/
theorem isOf_concat {ids : List ℕ} {call : SucceededCall} {id : ℕ}
    (h : ∀ r ∈ call.workflowRunId, r ≠ id) :
    SucceededCall.isOf (ids ++ [id]) call = SucceededCall.isOf (ids ++ []) call := by
  unfold SucceededCall.isOf
  cases hcall : call.workflowRunId with
  | none => rfl
  | some r => simp [h r hcall]

/-- The child job of a completion is the one of its workflow run. -/
theorem childJob_ids {chapterNumber workflowRunId projectId childId : ℕ}
    {status : WorkflowRunStatus} {story : StoryDatabase} {children children' : List BookChildJob}
    (h : childJob chapterNumber workflowRunId status projectId story children =
      .ok (childId, children')) (id : ℕ) :
    id ∈ children'.map (·.workflowRunId) ↔
      id ∈ children.map (·.workflowRunId) ∨ id = workflowRunId := by
  unfold childJob at h
  split at h
  · rename_i found hfound
    obtain ⟨rfl, rfl⟩ := Prod.mk.inj (Except.ok.inj h)
    obtain ⟨hlt, hchild, -⟩ := List.findIdx?_eq_some_iff_getElem.mp hfound
    simp only [Bool.and_eq_true, beq_iff_eq] at hchild
    have hmem : workflowRunId ∈ children.map (·.workflowRunId) :=
      List.mem_map.mpr ⟨_, List.getElem_mem hlt, hchild.2⟩
    constructor
    · exact .inl
    · rintro (hin | rfl)
      · exact hin
      · exact hmem
  · split at h
    · exact absurd h (by simp)
    · obtain ⟨-, rfl⟩ := Prod.mk.inj (Except.ok.inj h)
      simp

end BookWorkflowApplicationService

namespace BookExecution

/-! ### Usage -/

/-- What the executions of the book run have spent. -/
def spent (s : BookExecution) : BookUsage := usageWhere (·.forRun) s.calls

/-- The workflow run of the chapter in progress. -/
def workflow (s : BookExecution) : Option ℕ :=
  match s.phase with
  | .executing _ graph => graph.runId
  | .recording _ id _ | .accounting _ id _ => some id
  | _ => none

/-- The workflow runs of the child jobs. -/
def recordedIds (s : BookExecution) : List ℕ := s.children.map (·.workflowRunId)

/-- The workflow runs of the book run. -/
def ownIds (s : BookExecution) : List ℕ := s.recordedIds ++ s.run.workflowRunId.toList

/-- The workflow run whose usage is not recorded yet. -/
def unrecordedIds (s : BookExecution) : List ℕ :=
  match s.phase with
  | .accounting _ id _ => [id]
  | _ => s.run.workflowRunId.toList

/-- The usage that is not recorded yet. -/
def unrecorded (s : BookExecution) : BookUsage :=
  usageWhere (SucceededCall.isOf s.unrecordedIds) s.calls

/-! ### The condition -/

instance : (phase : BookPhase) → Decidable phase.Plain
  | .scheduled _ | .marking _ | .finding _ => .isFalse id
  | .executing _ _ | .recording _ _ _ | .accounting _ _ _ => .isFalse id
  | .idle _ | .entering | .initializing | .syncing | .deciding | .gating _ => .isTrue trivial
  | .checking | .reviewing | .snapshotting _ | .requesting _ _ => .isTrue trivial
  | .criticizing _ _ _ | .persisting _ _ _ | .accepting _ _ | .completing => .isTrue trivial
  | .closing _ | .routing _ _ | .planning | .revisionsEnded | .stopping _ => .isTrue trivial

/-- Whether the book run has a chapter in progress. -/
def InChapter (s : BookExecution) : Prop := s.run.workflowRunId.isSome = true ∨ ¬ s.phase.Plain

instance (s : BookExecution) : Decidable s.InChapter := by unfold InChapter; infer_instance

/-- A phase that is not plain has a chapter in progress. -/
theorem InChapter.of_phase {s : BookExecution} {phase : BookPhase} (hphase : s.phase = phase)
    (hnot : ¬ phase.Plain) : s.InChapter :=
  .inr (hphase ▸ hnot)

/-- The usage of a provider call. -/
def callUsage (totalTokens : ℕ) (estimatedCost : Option ℕ) : BookUsage :=
  (SucceededCall.new none totalTokens estimatedCost true).usage

/-- Every chapter stays within the estimate of the budget gate. -/
def Estimated (s : BookExecution) : BookAction → Prop
  | .call _ totalTokens estimatedCost =>
      (s.unrecorded + callUsage totalTokens estimatedCost).Estimated
  | _ => True

instance (s : BookExecution) : (a : BookAction) → Decidable (s.Estimated a)
  | .call _ totalTokens estimatedCost =>
      inferInstanceAs (Decidable (s.unrecorded + callUsage totalTokens estimatedCost).Estimated)
  | .start | .step _ | .crash | .otherCall _ _ _ | .resume _ => .isTrue trivial
  | .requestCancel | .confirmCancel | .markPaused | .otherCode _ => .isTrue trivial

/-- An execution leaves a chapter only after it has recorded the usage of the chapter, or when
the chapter has none, and the critic makes no call. -/
def Leaves (settings : BookWorkflowSettings) (s : BookExecution) (input : BookInput) : Prop :=
  match s.phase, input with
  | .accounting _ _ _, .proceed => True
  | _, .criticized _ _ _ => False
  | _, input => ∀ s' ∈ step settings s input,
      s.workflow = none ∨ s'.workflow ≠ none ∨ s.unrecorded = 0

/-- An execution that goes on after a chapter has its usage read. -/
def Accounted : BookPhase → BookInput → Bool
  | .accounting _ _ _, .proceed => true
  | _, _ => false

/-- The critic has made a call. -/
def Criticized : BookInput → Bool
  | .criticized _ _ _ => true
  | _ => false

theorem leaves_iff (settings : BookWorkflowSettings) (s : BookExecution) (input : BookInput) :
    s.Leaves settings input ↔ Accounted s.phase input = true ∨ Criticized input = false ∧
      ∀ s' ∈ step settings s input,
        s.workflow = none ∨ s'.workflow ≠ none ∨ s.unrecorded = 0 := by
  unfold Leaves
  cases s.phase <;> cases input <;> simp [Accounted, Criticized]

instance (settings : BookWorkflowSettings) (s : BookExecution) (input : BookInput) :
    Decidable (s.Leaves settings input) :=
  decidable_of_iff _ (leaves_iff settings s input).symm

/-- The calls of a chapter are made by its workflow, and cost no more than what is left. -/
def Attributed (s : BookExecution) (purpose : CallPurpose) (totalTokens : ℕ)
    (estimatedCost : Option ℕ) : Prop :=
  match s.phase with
  | .executing task graph =>
      graph.runId ≠ none ∧ s.effectiveWorkflow task purpose = graph.runId ∧
        (s.spent + callUsage totalTokens estimatedCost).cost ≤ s.run.maxEstimatedCost
  | _ => True

/-- The workflow of the chapter that an execution is in. -/
def executed : BookPhase → Option (ChapterTask × GraphExecution)
  | .executing task graph => some (task, graph)
  | _ => none

theorem attributed_iff (s : BookExecution) (purpose : CallPurpose) (totalTokens : ℕ)
    (estimatedCost : Option ℕ) :
    s.Attributed purpose totalTokens estimatedCost ↔ ∀ chapter ∈ executed s.phase,
      chapter.2.runId ≠ none ∧ s.effectiveWorkflow chapter.1 purpose = chapter.2.runId ∧
        (s.spent + callUsage totalTokens estimatedCost).cost ≤ s.run.maxEstimatedCost := by
  unfold Attributed
  cases s.phase <;> simp [executed]

instance (s : BookExecution) (purpose : CallPurpose) (totalTokens : ℕ)
    (estimatedCost : Option ℕ) : Decidable (s.Attributed purpose totalTokens estimatedCost) :=
  decidable_of_iff _ (attributed_iff s purpose totalTokens estimatedCost).symm

/-- What a step must meet: a chapter is left with its usage recorded, calls are made by the
workflow of the chapter in progress and by nobody else in its name, and limits are not lowered
below the estimate of a chapter in progress. -/
def Metered (settings : BookWorkflowSettings) (s : BookExecution) : BookAction → Prop
  | .step input => s.Leaves settings input
  | .crash => s.unrecorded = 0
  | .call purpose totalTokens estimatedCost => s.Attributed purpose totalTokens estimatedCost
  | .otherCall workflowRunId _ _ => ∀ id ∈ workflowRunId, id ∉ s.ownIds
  | .resume request => ∀ run ∈ (BookRunService.resumeRun request s.run).toOption,
      ¬ s.InChapter ∨ run.Fits ∧ s.spent.cost ≤ run.maxEstimatedCost
  | _ => True

instance (settings : BookWorkflowSettings) (s : BookExecution) :
    (a : BookAction) → Decidable (s.Metered settings a)
  | .step input => inferInstanceAs (Decidable (s.Leaves settings input))
  | .crash => inferInstanceAs (Decidable (s.unrecorded = 0))
  | .call purpose totalTokens estimatedCost =>
      inferInstanceAs (Decidable (s.Attributed purpose totalTokens estimatedCost))
  | .otherCall workflowRunId _ _ =>
      inferInstanceAs (Decidable (∀ id ∈ workflowRunId, id ∉ s.ownIds))
  | .resume request =>
      inferInstanceAs (Decidable (∀ run ∈ (BookRunService.resumeRun request s.run).toOption,
        ¬ s.InChapter ∨ run.Fits ∧ s.spent.cost ≤ run.maxEstimatedCost))
  | .start | .requestCancel | .confirmCancel | .markPaused | .otherCode _ => .isTrue trivial

/-! ### The invariant -/

/-- How the workflow run of the chapter in progress is linked. -/
def Placed (s : BookExecution) : Prop :=
  match s.phase with
  | .finding chapterNumber => s.run.currentChapterNumber = some chapterNumber
  | .executing _ graph => s.run.workflowRunId = graph.runId
  | .recording _ id _ => s.run.workflowRunId = some id
  | .accounting _ id _ => s.run.workflowRunId = none ∧ id ∈ s.recordedIds
  | _ => True

/-- What holds in every state under the condition. -/
structure Accounts (s : BookExecution) : Prop where
  early : ¬ s.phase.Late
  cached : s.cached = []
  placed : s.Placed
  known : ∀ id ∈ s.ownIds, id < s.story.runs.length
  calls_known : ∀ call ∈ s.calls, ∀ id ∈ call.workflowRunId, id < s.story.runs.length
  owned : ∀ call ∈ s.calls, call.forRun = SucceededCall.isOf s.ownIds call
  recorded : s.run.recorded + s.unrecorded = s.spent
  quiet : s.workflow = none → s.unrecorded = 0
  estimated : s.unrecorded.Estimated
  admitted : s.InChapter → s.run.Fits
  ceiling : s.spent.Within s.run

section Invariant

variable {settings : BookWorkflowSettings} {s s' : BookExecution}

/-- A step that adds no call and links no other workflow run. -/
theorem Accounts.keep (hs : s.Accounts) (hcalls : s'.calls = s.calls)
    (hown : ∀ id, id ∈ s'.ownIds ↔ id ∈ s.ownIds)
    (hruns : s.story.runs.length ≤ s'.story.runs.length) (hcached : s'.cached = s.cached)
    (hrun : s.run.SameBudget s'.run) (hunrecorded : s'.unrecorded = s.unrecorded)
    (hearly : ¬ s'.phase.Late) (hplaced : s'.Placed)
    (hquiet : s'.workflow = none → s.unrecorded = 0) (hadmitted : s'.InChapter → s.run.Fits) :
    s'.Accounts where
  early := hearly
  cached := hcached.trans hs.cached
  placed := hplaced
  known id hid := (hs.known id ((hown id).mp hid)).trans_le hruns
  calls_known := by
    rw [hcalls]
    exact fun call hcall id hid => (hs.calls_known call hcall id hid).trans_le hruns
  owned := by
    rw [hcalls, isOf_congr hown]
    exact hs.owned
  recorded := by
    have hspent : s'.spent = s.spent := by rw [spent, spent, hcalls]
    rw [hrun.recorded, hunrecorded, hspent, hs.recorded]
  quiet hnone := hunrecorded.trans (hquiet hnone)
  estimated := hunrecorded ▸ hs.estimated
  admitted hin := hrun.fits.mpr (hadmitted hin)
  ceiling := by
    have hspent : s'.spent = s.spent := by rw [spent, spent, hcalls]
    rw [hspent]
    exact hrun.within.mpr hs.ceiling

/-- A step out of the chapters, or up to the workflow run of a chapter. -/
theorem Accounts.move (hs : s.Accounts) (hzero : s.unrecorded = 0) (hcalls : s'.calls = s.calls)
    (hchildren : s'.children = s.children)
    (hlink : s'.run.workflowRunId = s.run.workflowRunId)
    (hruns : s.story.runs.length ≤ s'.story.runs.length) (hcached : s'.cached = s.cached)
    (hrun : s.run.SameBudget s'.run) (hearly : ¬ s'.phase.Late) (hplaced : s'.Placed)
    (haccounting : ∀ task id status, s'.phase ≠ .accounting task id status)
    (hadmitted : s'.InChapter → s.run.Fits) : s'.Accounts := by
  have hids : s'.unrecordedIds = s.run.workflowRunId.toList := by
    unfold unrecordedIds
    split
    · rename_i task id status hphase
      exact absurd hphase (haccounting task id status)
    · rw [hlink]
  have hunrecorded : s'.unrecorded = s.unrecorded := by
    rw [hzero, unrecorded, hids, hcalls]
    by_cases hphase : ∃ task id status, s.phase = .accounting task id status
    · obtain ⟨task, id, status, hphase⟩ := hphase
      have hplaced := hs.placed
      rw [Placed, hphase] at hplaced
      rw [hplaced.1]
      exact usageWhere_eq_zero fun call _ => isOf_eq_false (by simp)
    · have heq : s.unrecordedIds = s.run.workflowRunId.toList := by
        unfold unrecordedIds
        split
        · rename_i task id status heq
          exact absurd ⟨task, id, status, heq⟩ hphase
        · rfl
      rw [← heq]
      exact hzero
  refine hs.keep hcalls (fun id => ?_) hruns hcached hrun hunrecorded hearly hplaced
    (fun _ => hzero) hadmitted
  rw [ownIds, ownIds, recordedIds, recordedIds, hchildren, hlink]

/-- A transaction outside of the chapters. -/
theorem Accounts.plain (hs : s.Accounts) (hzero : s.unrecorded = 0) {run : BookRun}
    {phase : BookPhase} {snapshots : List StoredSnapshot} {critiques : List String}
    (hrun : run.lasting = s.run.lasting) (hphase : phase.Plain)
    (hlate : phase.Late → s.phase.Late) :
    Accounts { s with run, phase, snapshots, critiques } := by
  have hlink : run.workflowRunId = s.run.workflowRunId := BookRun.workflowRunId_of_lasting hrun
  refine hs.move hzero rfl rfl hlink (le_refl _) rfl (.of_lasting hrun)
    (fun h => hs.early (hlate h)) ?_ ?_ ?_
  · unfold Placed
    cases phase <;> trivial
  · rintro task id status rfl
    exact hphase
  · rintro (hsome | hnot)
    · exact hs.admitted (.inl (hlink ▸ hsome))
    · exact absurd hphase hnot

/-- Whoever leaves a chapter has nothing left to record. -/
theorem Accounts.zero {input : BookInput} (hs : s.Accounts) (hleaves : s.Leaves settings input)
    (h : step settings s input = some s') (hnone : s'.workflow = none)
    (hnot : ∀ task id status, s.phase = .accounting task id status → input ≠ .proceed) :
    s.unrecorded = 0 := by
  by_cases hworkflow : s.workflow = none
  · exact hs.quiet hworkflow
  · unfold Leaves at hleaves
    split at hleaves
    · rename_i task id status hphase
      exact absurd rfl (hnot task id status hphase)
    · exact hleaves.elim
    · rcases hleaves s' h with hold | hnew | hzero
      · exact absurd hold hworkflow
      · exact absurd hnone hnew
      · exact hzero

/-- Synchronizing the accepted chapters leaves the budget alone. -/
theorem Accounts.synced (hs : s.Accounts) (hphase : s.phase = .syncing) :
    Accounts { s with
      run := syncAlreadyAccepted settings s.story s.run
      phase := .deciding } := by
  have hzero : s.unrecorded = 0 := hs.quiet (by rw [workflow, hphase])
  refine hs.move hzero rfl rfl rfl (le_refl _) rfl ⟨rfl, rfl, rfl, rfl⟩ (fun h => h.elim) trivial
    (fun _ _ _ h => by cases h) ?_
  rintro (hsome | hnot)
  · exact hs.admitted (.inl hsome)
  · exact absurd trivial hnot

/-- A chapter is approached with room for it. -/
theorem Accounts.approach (hs : s.Accounts) {phase : BookPhase} (hnone : s.workflow = none)
    (hfits : s.run.Fits) (hearly : ¬ phase.Late)
    (hplaced : (s.goto phase).Placed)
    (haccounting : ∀ task id status, phase ≠ .accounting task id status) :
    (s.goto phase).Accounts :=
  hs.move (hs.quiet hnone) rfl rfl rfl (le_refl _) rfl ⟨rfl, rfl, rfl, rfl⟩ hearly hplaced
    haccounting fun _ => hfits

/-- A chapter that is marked as running is the current one. -/
theorem Accounts.marked (hs : s.Accounts) {chapterNumber : ℕ}
    (hphase : s.phase = .marking chapterNumber) :
    Accounts { s with
      run := markChapterRunning chapterNumber s.run
      phase := .finding chapterNumber } := by
  have hzero : s.unrecorded = 0 := hs.quiet (by rw [workflow, hphase])
  have hin : s.InChapter := .of_phase hphase not_false
  exact hs.move hzero rfl rfl rfl (le_refl _) rfl ⟨rfl, rfl, rfl, rfl⟩ (fun h => h.elim) rfl
    (fun _ _ _ h => by cases h) fun _ => hs.admitted hin

/-- The workflow run that `_current_workflow` finds is the one that is linked. -/
theorem Accounts.link_eq (hs : s.Accounts) {chapterNumber : ℕ} {id : Option ℕ}
    (hphase : s.phase = .finding chapterNumber)
    (hcurrent : currentWorkflow chapterNumber s.run = id) : s.run.workflowRunId = id := by
  have hplaced := hs.placed
  rw [Placed, hphase] at hplaced
  rw [← hcurrent, currentWorkflow, if_pos hplaced]

/-- A workflow run that is resumed stays the row it is. -/
theorem Accounts.resumed (hs : s.Accounts) {chapterNumber id : ℕ} {checkpoint : Checkpoint}
    {story : StoryDatabase} (hphase : s.phase = .finding chapterNumber)
    (hcurrent : currentWorkflow chapterNumber s.run = some id)
    (hresume : ChapterWorkflowService.resume id s.story = .ok story) :
    Accounts { s with
      story
      phase := .executing ⟨chapterNumber, none⟩ (.restart id checkpoint) } := by
  have hzero : s.unrecorded = 0 := hs.quiet (by rw [workflow, hphase])
  have hin : s.InChapter := .of_phase hphase not_false
  have hlength : story.runs.length = s.story.runs.length := by
    rw [← StoryDatabase.length_statuses, (ChapterWorkflowService.resume_eq_ok hresume).2,
      List.length_set, StoryDatabase.length_statuses]
  exact hs.move hzero rfl rfl rfl hlength.ge rfl ⟨rfl, rfl, rfl, rfl⟩ (by simp [BookPhase.Late])
    (hs.link_eq hphase hcurrent) (fun _ _ _ h => by cases h) fun _ => hs.admitted hin

/-- A step of the graph of a chapter that begins no run. -/
theorem Accounts.advanced (hs : s.Accounts) {task : ChapterTask} {graph : GraphExecution}
    {input : NodeInput} {result : WorkflowSystem.StepResult}
    (hphase : s.phase = .executing task graph)
    (hadvance : WorkflowSystem.advance settings.services graph input s.story = some result)
    (hbegun : WorkflowJobSystem.begun graph input result = none) :
    (s.advanced task result).Accounts := by
  have hplaced := hs.placed
  rw [Placed, hphase] at hplaced
  have hknown : ∀ r ∈ graph.runId, r < s.story.runs.length := fun r hr =>
    hs.known r (List.mem_append_right _ (Option.mem_toList.mpr (hplaced ▸ hr)))
  have hrunId : result.graph.runId = graph.runId := by
    cases hgraph : graph.runId with
    | none =>
        rcases begun_of_none hadvance hgraph with ⟨-, heq, -⟩ | ⟨hsome, -, -⟩
        · exact heq
        · rw [hbegun] at hsome
          exact absurd hsome (by simp)
    | some r => exact (advance_statuses hadvance hgraph (hknown r hgraph)).runId
  refine hs.keep rfl (fun _ => .rfl) (length_runs_le_advance hadvance hknown) rfl
    ⟨rfl, rfl, rfl, rfl⟩ ?_ ?_ (hplaced.trans hrunId.symm) ?_ fun _ => ?_
  · rw [unrecorded, unrecorded, unrecordedIds, unrecordedIds, hphase]
    rfl
  · have hearly := hs.early
    rw [hphase] at hearly
    exact hearly
  · intro hnone
    refine hs.quiet ?_
    rw [workflow, hphase]
    exact hrunId.symm.trans hnone
  · exact hs.admitted (.of_phase hphase not_false)

/-- Two states with the same usage to record. -/
theorem unrecorded_congr (hids : s'.unrecordedIds = s.unrecordedIds) (hcalls : s'.calls = s.calls) :
    s'.unrecorded = s.unrecorded := by
  rw [unrecorded, unrecorded, hids, hcalls]

/-- A step of the graph of a chapter that begins a run, or goes on with it. -/
theorem Accounts.linked (hs : s.Accounts) {task : ChapterTask} {graph : GraphExecution} {id : ℕ}
    {input : NodeInput} {result : WorkflowSystem.StepResult}
    (hphase : s.phase = .executing task graph)
    (hadvance : WorkflowSystem.advance settings.services graph input s.story = some result)
    (hbegun : WorkflowJobSystem.begun graph input result = some id) :
    ((s.advanced task result).link id).Accounts := by
  have hplaced := hs.placed
  have hearly := hs.early
  rw [Placed, hphase] at hplaced
  rw [hphase] at hearly
  have hknown : ∀ r ∈ graph.runId, r < s.story.runs.length := fun r hr =>
    hs.known r (List.mem_append_right _ (Option.mem_toList.mpr (hplaced ▸ hr)))
  have hlength := length_runs_le_advance hadvance hknown
  have hin : s.InChapter := .of_phase hphase not_false
  cases hgraph : graph.runId with
  | some r =>
      obtain rfl := begun_of_some hadvance hgraph (hknown r hgraph) hbegun
      have hrunId := (advance_statuses hadvance hgraph (hknown id hgraph)).runId
      have hlink : s.run.workflowRunId = some id := hplaced.trans hgraph
      refine hs.keep rfl (fun other => ?_) hlength rfl ⟨rfl, rfl, rfl, rfl⟩ ?_ hearly
        hrunId.symm ?_ fun _ => hs.admitted hin
      · rw [ownIds, ownIds, hlink]
        rfl
      · refine unrecorded_congr ?_ rfl
        rw [unrecordedIds, unrecordedIds, hphase, hlink]
        rfl
      · intro hnone
        exact absurd (hrunId.symm.trans hnone) (by simp)
  | none =>
      rcases begun_of_none hadvance hgraph with ⟨hnone, -, -⟩ | ⟨hsome, hrunId, hstatuses⟩
      · rw [hbegun] at hnone
        exact absurd hnone (by simp)
      obtain rfl : id = s.story.runs.length := Option.some.inj (hbegun.symm.trans hsome)
      have hlink : s.run.workflowRunId = none := hplaced.trans hgraph
      have hzero : s.unrecorded = 0 := hs.quiet (by rw [workflow, hphase]; exact hgraph)
      have hnew : s.story.runs.length < result.db.runs.length := by
        rw [← StoryDatabase.length_statuses result.db, hstatuses]
        simp
      have hnot : ∀ call ∈ s.calls, ∀ r ∈ call.workflowRunId, r ≠ s.story.runs.length :=
        fun call hcall r hr => (hs.calls_known call hcall r hr).ne
      have hunrecorded : ((s.advanced task result).link s.story.runs.length).unrecorded = 0 :=
        usageWhere_eq_zero fun call hcall => isOf_eq_false fun r hr hmem =>
          hnot call hcall r hr (List.mem_singleton.mp hmem)
      exact {
        early := hearly
        cached := hs.cached
        placed := hrunId.symm
        known := by
          intro r hr
          rcases List.mem_append.mp hr with hr | hr
          · exact (hs.known r (List.mem_append_left _ hr)).trans_le hlength
          · obtain rfl : r = s.story.runs.length := by simpa [BookExecution.link] using hr
            exact hnew
        calls_known := fun call hcall r hr => (hs.calls_known call hcall r hr).trans_le hlength
        owned := by
          intro call hcall
          rw [hs.owned call hcall, ownIds, ownIds, hlink]
          exact (isOf_concat (hnot call hcall)).symm
        recorded := by
          have hrecorded := hs.recorded
          rw [hzero] at hrecorded
          rw [hunrecorded]
          exact hrecorded
        quiet := fun _ => hunrecorded
        estimated := by rw [hunrecorded, ← hzero]; exact hs.estimated
        admitted := fun _ => hs.admitted hin
        ceiling := hs.ceiling }

/-- The workflow of a chapter returns. -/
theorem Accounts.returned (hs : s.Accounts) {task : ChapterTask} {graph : GraphExecution} {id : ℕ}
    {status : WorkflowRunStatus} (hphase : s.phase = .executing task graph)
    (hgraph : graph.runId = some id) : (s.goto (.recording task id status)).Accounts := by
  have hplaced := hs.placed
  have hearly := hs.early
  rw [Placed, hphase] at hplaced
  rw [hphase] at hearly
  refine hs.keep rfl (fun _ => .rfl) (le_refl _) rfl ⟨rfl, rfl, rfl, rfl⟩ ?_ hearly
    (hplaced.trans hgraph) (fun hnone => absurd hnone (by simp [workflow, goto])) fun _ => ?_
  · refine unrecorded_congr ?_ rfl
    rw [unrecordedIds, unrecordedIds, hphase]
    rfl
  · exact hs.admitted (.of_phase hphase not_false)

/-- The completion of a chapter is recorded with its workflow run. -/
theorem Accounts.record (hs : s.Accounts) {task : ChapterTask} {id childId : ℕ}
    {status : WorkflowRunStatus} {children : List BookChildJob}
    (hphase : s.phase = .recording task id status)
    (hchild : childJob task.chapterNumber id status s.run.projectId s.story s.children =
      .ok (childId, children)) :
    Accounts { s with
      run := recordCompletion settings task.chapterNumber childId status s.run
      topWorkflow := if s.run.jobId.isSome then none else s.topWorkflow
      children
      phase := .accounting task id status } := by
  have hplaced := hs.placed
  have hearly := hs.early
  rw [Placed, hphase] at hplaced
  rw [hphase] at hearly
  have hids := childJob_ids hchild
  refine hs.keep rfl (fun other => ?_) (le_refl _) rfl ⟨rfl, rfl, rfl, rfl⟩ ?_ hearly
    ⟨rfl, (hids id).mpr (.inr rfl)⟩ (fun hnone => absurd hnone (by simp [workflow]))
    fun _ => hs.admitted (.of_phase hphase not_false)
  · rw [ownIds, ownIds, hplaced]
    simpa [recordedIds, recordCompletion, eq_comm] using hids other
  · refine unrecorded_congr ?_ rfl
    rw [unrecordedIds, unrecordedIds, hphase, hplaced]
    rfl

/-- `_update_usage` records what was spent. -/
theorem Accounts.accounted (hs : s.Accounts) {task : ChapterTask} {id : ℕ}
    {status : WorkflowRunStatus} {phase : BookPhase}
    (hphase : s.phase = .accounting task id status) (hplain : phase.Plain)
    (hearly : ¬ phase.Late) :
    Accounts { s with run := updateUsage id s.children s.calls s.run, phase } := by
  have hplaced := hs.placed
  rw [Placed, hphase] at hplaced
  obtain ⟨hlink, hid⟩ := hplaced
  have hids : workflowIds id s.children = s.ownIds := by
    have hown : s.ownIds = s.recordedIds := by rw [ownIds, hlink]; exact List.append_nil _
    rw [hown]
    exact if_pos (List.contains_iff_mem.mpr hid)
  have hspent : (updateUsage id s.children s.calls s.run).recorded = s.spent := by
    rw [updateUsage_recorded, hids, spent]
    exact usageWhere_congr fun call hcall => (hs.owned call hcall).symm
  have hzero : unrecorded { s with run := updateUsage id s.children s.calls s.run, phase } = 0 := by
    refine usageWhere_eq_zero fun call _ => isOf_eq_false fun r _ hmem => ?_
    unfold unrecordedIds at hmem
    split at hmem
    · rename_i hphase
      obtain rfl : phase = _ := hphase
      exact hplain
    · rw [show (updateUsage id s.children s.calls s.run).workflowRunId = none from hlink] at hmem
      exact absurd hmem (by simp)
  exact {
    early := hearly
    cached := hs.cached
    placed := by
      unfold Placed
      cases phase <;> trivial
    known := hs.known
    calls_known := hs.calls_known
    owned := hs.owned
    recorded := by rw [hzero, hspent]; exact add_zero _
    quiet := fun _ => hzero
    estimated := by rw [hzero]; exact ⟨Nat.zero_le _, Nat.zero_le _⟩
    admitted := by
      rintro (hsome | hnot)
      · rw [show (updateUsage id s.children s.calls s.run).workflowRunId = none from hlink] at hsome
        exact absurd hsome (by simp)
      · exact absurd hplain hnot
    ceiling := hs.ceiling }

/-- `_update_usage`, and the step to the next chapter. -/
theorem Accounts.account (hs : s.Accounts) {task : ChapterTask} {id : ℕ}
    {status : WorkflowRunStatus} (hphase : s.phase = .accounting task id status) :
    (s.account settings task id status).Accounts := by
  have hearly := hs.early
  rw [hphase] at hearly
  cases hrevision : task.revision with
  | some rest => exact absurd (by rw [BookPhase.Late, hrevision]; rfl) hearly
  | none =>
      unfold BookExecution.account
      rw [hrevision]
      refine hs.accounted hphase ?_ ?_
      · unfold afterChapter
        split <;> try trivial
        split <;> trivial
      · unfold afterChapter
        split <;> try exact fun h => h.elim
        split <;> exact fun h => h.elim

/-- **The step rule**: a transaction that meets the condition keeps the accounts. -/
theorem Accounts.step {input : BookInput} (hs : s.Accounts) (hleaves : s.Leaves settings input)
    (h : step settings s input = some s') : s'.Accounts := by
  by_cases haccount : ∃ task id status, s.phase = .accounting task id status ∧ input = .proceed
  · obtain ⟨task, id, status, hphase, rfl⟩ := haccount
    unfold BookExecution.step at h
    rw [hphase] at h
    obtain rfl := Option.some.inj h
    exact hs.account hphase
  have hnot : ∀ task id status, s.phase = .accounting task id status → input ≠ .proceed :=
    fun task id status hphase hinput => haccount ⟨task, id, status, hphase, hinput⟩
  have hzero := hs.zero hleaves h
  have hearly := hs.early
  cases step_cases h with
  | plain run phase snapshots critiques hrun hphase hlate =>
      refine hs.plain (hzero ?_ hnot) hrun hphase hlate
      unfold workflow
      cases phase <;> first | rfl | exact hphase.elim
  | judged verdict hphase hcached =>
      rw [hs.cached] at hcached
      exact absurd hcached (by simp)
  | criticized totalTokens estimatedCost verdict hphase =>
      unfold Leaves at hleaves
      rw [hphase] at hleaves
      exact hleaves.elim
  | synced hphase => exact hs.synced hphase
  | resuming hphase hresuming =>
      have hlink : s.run.workflowRunId.isSome = true := by
        unfold resumingChapter at hresuming
        split at hresuming
        · assumption
        · exact absurd hresuming (by simp)
      exact hs.approach (by rw [workflow, hphase]) (hs.admitted (.inl hlink)) (fun h => h) trivial
        fun _ _ _ h => by cases h
  | gated hphase hbudget =>
      exact hs.approach (by rw [workflow, hphase]) (BookRun.fits_of_overBudget hbudget)
        (fun h => h) trivial fun _ _ _ h => by cases h
  | approached hphase =>
      have hin : s.InChapter := .of_phase hphase not_false
      exact hs.approach (by rw [workflow, hphase]) (hs.admitted hin) (fun h => h) trivial
        fun _ _ _ h => by cases h
  | marked hphase => exact hs.marked hphase
  | began hphase hcurrent _ _ =>
      have hin : s.InChapter := .of_phase hphase not_false
      exact hs.approach (by rw [workflow, hphase]) (hs.admitted hin) (by simp [BookPhase.Late])
        (hs.link_eq hphase hcurrent) fun _ _ _ h => by cases h
  | resumed hphase hcurrent hresume hcheckpoint => exact hs.resumed hphase hcurrent hresume
  | @found chapterNumber id status _ hphase hcurrent hstatus =>
      have hin : s.InChapter := .of_phase hphase not_false
      exact hs.approach (by rw [workflow, hphase]) (hs.admitted hin) (by simp [BookPhase.Late])
        (hs.link_eq hphase hcurrent) fun _ _ _ h => by cases h
  | revising hphase =>
      rw [hphase] at hearly
      exact absurd trivial hearly
  | advanced hphase hadvance hbegun => exact hs.advanced hphase hadvance hbegun
  | linked hphase hadvance hbegun => exact hs.linked hphase hadvance hbegun
  | returned hphase _ hid => exact hs.returned hphase hid
  | recorded hphase hchild => exact hs.record hphase hchild
  | accounted phase hphase => exact absurd rfl (hnot _ _ _ hphase)

/-- A provider call that succeeds, of the chapter in progress or of somebody else. -/
theorem Accounts.concat (hs : s.Accounts) {call : SucceededCall}
    (hknown : ∀ id ∈ call.workflowRunId, id < s.story.runs.length)
    (howned : SucceededCall.isOf s.ownIds call = call.forRun)
    (hunrecorded : SucceededCall.isOf s.unrecordedIds call = call.forRun)
    (hbudget : call.forRun = true → s.workflow ≠ none ∧ (s.unrecorded + call.usage).Estimated ∧
      (s.spent + call.usage).Within s.run) :
    Accounts { s with calls := s.calls ++ [call] } := by
  have hspent : spent { s with calls := s.calls ++ [call] } =
      s.spent + if call.forRun then call.usage else 0 := usageWhere_concat _ _ _
  have hmore : unrecorded { s with calls := s.calls ++ [call] } =
      s.unrecorded + if call.forRun then call.usage else 0 :=
    hunrecorded ▸ usageWhere_concat _ _ _
  exact {
    early := hs.early
    cached := hs.cached
    placed := hs.placed
    known := hs.known
    calls_known := by
      intro other hother
      rcases List.mem_append.mp hother with hother | hother
      · exact hs.calls_known other hother
      · exact List.mem_singleton.mp hother ▸ hknown
    owned := by
      intro other hother
      rcases List.mem_append.mp hother with hother | hother
      · exact hs.owned other hother
      · exact List.mem_singleton.mp hother ▸ howned.symm
    recorded := by
      rw [hspent, hmore, ← hs.recorded]
      exact (add_assoc _ _ _).symm
    quiet := by
      intro hnone
      rw [hmore, hs.quiet hnone]
      cases hrun : call.forRun with
      | true => exact absurd hnone (hbudget hrun).1
      | false => rfl
    estimated := by
      rw [hmore]
      cases hrun : call.forRun with
      | true => exact (hbudget hrun).2.1
      | false => exact (add_zero s.unrecorded).symm ▸ hs.estimated
    admitted := hs.admitted
    ceiling := by
      rw [hspent]
      cases hrun : call.forRun with
      | true => exact (hbudget hrun).2.2
      | false => exact (add_zero s.spent).symm ▸ hs.ceiling }

/-- A call of the chapter in progress stays within the estimate, which the gate left room for. -/
theorem Accounts.call (hs : s.Accounts) {purpose : CallPurpose} {totalTokens : ℕ}
    {estimatedCost : Option ℕ} (h : s.call purpose totalTokens estimatedCost = some s')
    (hestimated : (s.unrecorded + callUsage totalTokens estimatedCost).Estimated)
    (hattributed : s.Attributed purpose totalTokens estimatedCost) : s'.Accounts := by
  unfold BookExecution.call at h
  split at h
  · rename_i task graph hphase
    obtain rfl := Option.some.inj h
    rw [Attributed, hphase] at hattributed
    obtain ⟨hsome, hworkflow, hcost⟩ := hattributed
    obtain ⟨r, hgraph⟩ := Option.ne_none_iff_exists'.mp hsome
    have hplaced := hs.placed
    rw [Placed, hphase] at hplaced
    have hlink : s.run.workflowRunId = some r := hplaced.trans hgraph
    have hmem : r ∈ s.ownIds := List.mem_append_right _ (by rw [hlink]; exact .head _)
    have hids : s.unrecordedIds = [r] := by
      rw [unrecordedIds, hphase, hlink]
      rfl
    rw [hworkflow, hgraph]
    refine hs.concat ?_ ?_ ?_ fun _ => ⟨?_, hestimated, ?_⟩
    · rintro id hid
      obtain rfl := Option.some.inj hid
      exact hs.known r hmem
    · exact List.contains_iff_mem.mpr hmem
    · rw [hids]
      exact List.contains_iff_mem.mpr (.head _)
    · rw [workflow, hphase]
      exact hsome
    · have hfits : s.run.Fits := hs.admitted (.of_phase hphase not_false)
      have hsum : s.spent + callUsage totalTokens estimatedCost =
          s.run.recorded + (s.unrecorded + callUsage totalTokens estimatedCost) := by
        rw [← hs.recorded, add_assoc]
      rw [hsum] at hcost
      exact hsum ▸ hfits.within hestimated hcost
  · exact absurd h (by simp)

/-- The workflow runs that are not recorded yet are workflow runs of the book run. -/
theorem Accounts.unrecordedIds_subset (hs : s.Accounts) {id : ℕ} (h : id ∈ s.unrecordedIds) :
    id ∈ s.ownIds := by
  have hplaced := hs.placed
  unfold unrecordedIds at h
  split at h
  · rename_i task r status hphase
    rw [Placed, hphase] at hplaced
    obtain rfl := List.mem_singleton.mp h
    exact List.mem_append_left _ hplaced.2
  · exact List.mem_append_right _ h

/-- Where the chapter in progress is linked, after a write to the book run. -/
theorem Placed.write (h : s.Placed) {run : BookRun}
    (hlink : run.workflowRunId = s.run.workflowRunId)
    (hcurrent : run.currentChapterNumber = s.run.currentChapterNumber) :
    Placed { s with run } := by
  unfold Placed at h ⊢
  dsimp only
  rw [hlink, hcurrent]
  exact h

/-- A transaction of a user that leaves the limits alone. -/
theorem Accounts.change (hs : s.Accounts) {result : Except Error BookRun}
    (h : ∀ run, result = .ok run → run.lasting = s.run.lasting) : (s.change result).Accounts := by
  cases result with
  | error error => exact hs
  | ok run =>
      have hlasting := h run rfl
      have hlink : run.workflowRunId = s.run.workflowRunId := BookRun.workflowRunId_of_lasting hlasting
      have hcurrent : run.currentChapterNumber = s.run.currentChapterNumber :=
        (congrArg BookRun.currentChapterNumber hlasting : run.lasting.currentChapterNumber = _)
      have hids : unrecordedIds { s with run } = s.unrecordedIds := by
        simp only [unrecordedIds, hlink]
      have hown : ownIds { s with run } = s.ownIds := by
        rw [ownIds, ownIds, hlink]
        rfl
      have hin : InChapter { s with run } ↔ s.InChapter := by rw [InChapter, InChapter, hlink]
      exact hs.keep rfl (fun id => by rw [BookExecution.change, hown]) (le_refl _) rfl
        (.of_lasting hlasting) (unrecorded_congr hids rfl) hs.early (hs.placed.write hlink hcurrent)
        hs.quiet fun h => hs.admitted (hin.mp h)

/-- A request to resume does not lower the limits below what a chapter in progress needs. -/
theorem Accounts.resume (hs : s.Accounts) {request : Option BookRunResumeRequest}
    (hlimits : ∀ run ∈ (BookRunService.resumeRun request s.run).toOption,
      ¬ s.InChapter ∨ run.Fits ∧ s.spent.cost ≤ run.maxEstimatedCost) :
    (s.change (BookRunService.resumeRun request s.run)).Accounts := by
  unfold BookExecution.change
  split
  · rename_i run hrun
    rw [hrun] at hlimits
    have hlimits := fun hin : s.InChapter => (hlimits run rfl).resolve_left (not_not.mpr hin)
    obtain ⟨hrecorded, hlink, hcurrent, hwithin⟩ := BookRunService.resumeRun_budget hrun
    have hids : unrecordedIds { s with run } = s.unrecordedIds := by
      simp only [unrecordedIds, hlink]
    have hown : ownIds { s with run } = s.ownIds := by
      rw [ownIds, ownIds, hlink]
      rfl
    have hin : InChapter { s with run } ↔ s.InChapter := by rw [InChapter, InChapter, hlink]
    have hsum : s.spent = run.recorded + s.unrecorded := by rw [hrecorded, hs.recorded]
    exact {
      early := hs.early
      cached := hs.cached
      placed := hs.placed.write hlink hcurrent
      known := hown ▸ hs.known
      calls_known := hs.calls_known
      owned := hown ▸ hs.owned
      recorded := by
        rw [unrecorded_congr hids rfl]
        exact hsum.symm
      quiet := fun hnone => (unrecorded_congr hids rfl).trans (hs.quiet hnone)
      estimated := (unrecorded_congr hids rfl).symm ▸ hs.estimated
      admitted := fun h => (hlimits (hin.mp h)).1
      ceiling := by
        change s.spent.Within run
        by_cases hchapter : s.InChapter
        · obtain ⟨hfits, hcost⟩ := hlimits hchapter
          rw [hsum] at hcost ⊢
          exact hfits.within hs.estimated hcost
        · have hzero : s.unrecorded = 0 := by
            refine hs.quiet ?_
            unfold workflow
            split
            · rename_i hphase
              exact absurd (.of_phase hphase not_false) hchapter
            · rename_i hphase
              exact absurd (.of_phase hphase not_false) hchapter
            · rename_i hphase
              exact absurd (.of_phase hphase not_false) hchapter
            · rfl
          have hspent : s.spent = s.run.recorded := by rw [hsum, hrecorded, hzero, add_zero]
          exact hspent ▸ hwithin (hspent ▸ hs.ceiling) }
  · exact hs

/-- Without an execution there is no chapter in progress. -/
theorem workflow_of_not_active (h : ¬ s.Active) : s.workflow = none := by
  unfold Active at h
  unfold workflow
  split at h
  · rename_i outcome hphase
    rw [hphase]
  · exact absurd trivial h

/-- Other code removes no workflow run. -/
theorem length_runs_le_of_continues {story story' : StoryDatabase}
    (h : continues story story' = true) : story.runs.length ≤ story'.runs.length := by
  simp only [continues, Bool.and_eq_true] at h
  simpa using (List.isPrefixOf_iff_prefix.mp h.1.1.1).length_le

/-- **The step rule of the machine**: what every step keeps under the condition. -/
theorem accounts_next {a : BookAction} (hs : s.Accounts) (h : next settings s a = some s')
    (hestimated : s.Estimated a) (hmetered : s.Metered settings a) : s'.Accounts := by
  cases a with
  | start =>
      rw [next] at h
      split at h
      · exact absurd h (by simp)
      rename_i hidle
      obtain rfl := Option.some.inj h
      have hzero : s.unrecorded = 0 := hs.quiet (workflow_of_not_active hidle)
      refine hs.move hzero rfl rfl rfl (le_refl _) hs.cached.symm ⟨rfl, rfl, rfl, rfl⟩
        (fun h => h.elim) trivial (fun _ _ _ h => by cases h) ?_
      rintro (hsome | hnot)
      · exact hs.admitted (.inl hsome)
      · exact absurd trivial hnot
  | step input => exact hs.step hmetered h
  | crash =>
      rw [next] at h
      split at h
      · obtain rfl := Option.some.inj h
        exact hs.plain hmetered rfl trivial fun h => h.elim
      · exact absurd h (by simp)
  | call purpose totalTokens estimatedCost => exact hs.call h hestimated hmetered
  | otherCall workflowRunId totalTokens estimatedCost =>
      rw [next] at h
      split at h
      · rename_i hknown
        obtain rfl := Option.some.inj h
        refine hs.concat ?_ ?_ ?_ fun h => absurd h (by simp [SucceededCall.new])
        · intro id hid
          exact of_decide_eq_true (Option.all_eq_true _ _ |>.mp hknown id hid)
        · exact isOf_eq_false hmetered
        · exact isOf_eq_false fun id hid hmem => hmetered id hid (hs.unrecordedIds_subset hmem)
      · exact absurd h (by simp)
  | resume request =>
      obtain rfl := Option.some.inj h
      exact hs.resume hmetered
  | requestCancel =>
      obtain rfl := Option.some.inj h
      exact hs.change fun run hrun => BookRunService.requestCancelRun_lasting hrun
  | confirmCancel =>
      obtain rfl := Option.some.inj h
      exact hs.change fun run hrun => BookRunService.confirmCancelRun_lasting hrun
  | markPaused =>
      obtain rfl := Option.some.inj h
      exact hs.change fun run hrun => BookRunService.markPaused_lasting hrun
  | otherCode story =>
      rw [next] at h
      split at h
      · rename_i hcontinues
        obtain rfl := Option.some.inj h
        exact hs.keep rfl (fun _ => .rfl) (length_runs_le_of_continues hcontinues) rfl
          ⟨rfl, rfl, rfl, rfl⟩ rfl hs.early hs.placed hs.quiet hs.admitted
      · exact absurd h (by simp)

/-- A book run that was just created has spent nothing. -/
theorem accounts_fresh (h : Fresh s) : s.Accounts := by
  have hcalls : ∀ call ∈ s.calls, SucceededCall.isOf s.ownIds call = false := by
    intro call _
    refine isOf_eq_false fun id _ hmem => ?_
    rw [ownIds, recordedIds, h.children, h.workflow] at hmem
    exact absurd hmem (by simp)
  have hspent : s.spent = 0 := usageWhere_eq_zero fun call hcall => (h.calls call hcall).1
  have hzero : s.unrecorded = 0 := by
    refine usageWhere_eq_zero fun call _ => isOf_eq_false fun id _ hmem => ?_
    rw [unrecordedIds, h.phase, h.workflow] at hmem
    exact absurd hmem (by simp)
  exact {
    early := by rw [h.phase]; exact fun h => h
    cached := h.cached
    placed := by rw [Placed, h.phase]; trivial
    known := by
      rw [ownIds, recordedIds, h.children, h.workflow]
      simp
    calls_known := fun call hcall => (h.calls call hcall).2
    owned := fun call hcall => (h.calls call hcall).1.trans (hcalls call hcall).symm
    recorded := by rw [h.recorded, hzero, hspent]; rfl
    quiet := fun _ => hzero
    estimated := by rw [hzero]; exact ⟨Nat.zero_le _, Nat.zero_le _⟩
    admitted := by
      rw [InChapter, h.workflow, h.phase]
      rintro (hsome | hnot)
      · exact absurd hsome (by simp)
      · exact absurd trivial hnot
    ceiling := by
      rw [hspent]
      exact ⟨Nat.zero_le _, Nat.zero_le _, h.limits⟩ }

end Invariant

/-! ### The budget over a run -/

/-- **The budget of a book run**: under the condition, what was spent stays within the limits,
and is recorded whenever no execution is in progress. -/
theorem spending_within (settings : BookWorkflowSettings) {s : BookExecution}
    (hs : (machine settings).ReachableUnder
      (fun s a => s.Estimated a ∧ s.Metered settings a) s) :
    s.spent.Within s.run ∧ (¬ s.Active → s.run.recorded = s.spent) := by
  have haccounts : s.Accounts := hs.invariant (I := Accounts) (fun _ h => accounts_fresh h)
    fun _ _ _ _ h hguard hnext => accounts_next h hnext hguard.1 hguard.2
  refine ⟨haccounts.ceiling, fun hidle => ?_⟩
  have hzero : s.unrecorded = 0 := haccounts.quiet (workflow_of_not_active hidle)
  rw [← haccounts.recorded, hzero, add_zero]

/-- A book of one chapter that makes five calls, up to the review of the book. -/
def untilReview : List BookAction :=
  untilChapter ++ drafting ++ List.replicate 5 (.call .language 6000 (some 20)) ++ accepting ++
    proceeds 4

/-- The critic makes a call that the budget has no room for, and that is never recorded. -/
theorem spending_exceeded :
    (¬ ∀ (settings : BookWorkflowSettings) (s : BookExecution),
      (machine settings).ReachableUnder Estimated s → s.spent.Within s.run) ∧
    ¬ ∀ (settings : BookWorkflowSettings) (s : BookExecution),
      (machine settings).ReachableUnder Estimated s → ¬ s.Active →
        s.run.recorded = s.spent := by
  obtain ⟨s, hs, hover, hidle, hmissing⟩ :=
    (machine sampleSettings).exists_reachableUnder Estimated
      (untilReview ++ proceeds 3 ++ [.step (.criticized 1000 (some 5) ⟨true, "accept", []⟩)] ++
        proceeds 3)
      (fun s => ¬ s.spent.Within s.run ∧ ¬ s.Active ∧ s.run.recorded ≠ s.spent) (s := sample 1)
      (fresh_sample 1) (by decide +kernel)
  exact ⟨fun h => hover (h _ s hs), fun h => hmissing (h _ s hs hidle)⟩

/-- An execution that is paused before the review of the book has recorded the five calls. -/
theorem spending_within_paused :
    ∃ s : BookExecution, (machine sampleSettings).ReachableUnder
        (fun s a => s.Estimated a ∧ s.Metered sampleSettings a) s ∧
      (s.spent.calls = 5 ∧ ¬ s.Active) ∧
      s.spent.Within s.run ∧ (¬ s.Active → s.run.recorded = s.spent) := by
  obtain ⟨s, hs, hstate⟩ :=
    (machine sampleSettings).exists_reachableUnder
      (fun s a => s.Estimated a ∧ s.Metered sampleSettings a)
      (untilReview ++ [.step .pauseRequested] ++ proceeds 1)
      (fun s => s.spent.calls = 5 ∧ ¬ s.Active) (s := sample 1) (fresh_sample 1) (by decide +kernel)
  exact ⟨s, hs, hstate, spending_within sampleSettings hs⟩

end BookExecution

end StoryForge
