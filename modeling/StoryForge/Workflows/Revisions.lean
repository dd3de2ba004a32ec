import StoryForge.Workflows.Nodes

/-!
# The revision loop

The graph as it runs when no node raises. What the services answer to a node is given from
outside, anew at every execution of a node; the nodes turn it into the next state, and the
edges are followed until a node has none.

## Main results

* `Stage.recalls_of_actionStep`, `NodeAnswer.of_actionStep` — a node that returns does what
  some answer makes it do;
* `Ends.unique` — a run ends in one way;
* `bounded_iff` — every run ends, and within its limit of revisions unless it is a targeted
  revision that may make none;
* `bounded_fails` — such a revision is made all the same.
-/

namespace StoryForge

open ChapterWorkflowService

/-! ### Answers -/

/-- What the services answer at one execution of a node: the chapter a run begins with, the
version a node has written or found, an evaluation, a comparison, and the best version of
the run. -/
structure NodeAnswer where
  chapter : StoryChapter
  versionId : ℕ
  evaluation : Evaluation
  decision : String
  bestVersionId : ℕ
  deriving DecidableEq, Repr

/-- The state after a node. -/
def NodeAnswer.answered (answer : NodeAnswer) (state : ChapterWorkflowState) :
    WorkflowNode → Except Error ChapterWorkflowState
  | .initializeWorkflow =>
      .ok (runState (newRun state.projectId 0 answer.chapter) answer.chapter.chapterNumber state)
  | .loadContext | .failWorkflow => .ok state
  | .generateDraft => .ok (drafted state answer.versionId)
  | .extractFacts | .extractRevisionFacts => do
      let _ ← requiredId state.currentVersionId "current_version_id"
      return state
  | .evaluateDraft | .evaluateRevision => do
      let _ ← requiredId state.currentVersionId "current_version_id"
      return evaluated state answer.evaluation
  | .decideAfterEvaluation => do
      let evaluation ← requiredKey state.currentEvaluation "current_evaluation"
      return { state with route := some (decideAfterEvaluation state evaluation) }
  | .buildRevisionBrief =>
      match state.bestVersionId.or state.currentVersionId with
      | none => .error (.invalidStateError "No source version is available for revision")
      | some source =>
          .ok { state with
            currentVersionId := some source
            briefAttempt := some (state.revisionAttempt + 1) }
  | .reviseDraft => do
      let attempt ← requiredKey state.briefAttempt "revision_brief"
      let source ← requiredId state.currentVersionId "current_version_id"
      return revised state source answer.versionId attempt
  | .compareVersions => do
      let _ ← requiredId state.comparisonBaseVersionId "comparison_base_version_id"
      let _ ← requiredId state.currentVersionId "current_version_id"
      return { state with
        decision := some answer.decision
        bestVersionId := some answer.bestVersionId }
  | .decideAfterComparison => do
      let decision ← requiredKey state.decision "comparison"
      return { state with route := some (decideAfterComparison state decision) }
  | .rejectRevision => do
      let _ ← requiredId state.currentVersionId "current_version_id"
      let _ ← requiredId state.bestVersionId "best_version_id"
      return { state with currentVersionId := some answer.versionId }
  | .acceptVersion => do
      let versionId ← requiredId state.currentVersionId "current_version_id"
      return { state with
        acceptedVersionId := some versionId
        bestVersionId := some versionId }
  | .markNeedsHumanReview =>
      .ok { state with
        currentVersionId := some answer.bestVersionId
        bestVersionId := some answer.bestVersionId }

/-! ### What a node does -/

/-- An answer that accepts. -/
def NodeAnswer.sample : NodeAnswer where
  chapter :=
    { projectId := 0, chapterNumber := 1, status := .accepted, version := 1, title := "One"
      content := "Once", summary := "", score := none, currentVersionId := some 0
      acceptedVersionId := some 0 }
  versionId := 0
  evaluation :=
    { chapterId := 0, chapterVersionId := 0, workflowRunId := some 0, idempotencyKey := none
      evaluationVersion := 1, status := .completed, overallScore := 9, consistencyScore := 9
      outlineAdherenceScore := 9, criticalConflicts := 0, highConflicts := 0
      blockingReasons := [], recommendedAction := "accept", passed := true }
  decision := "accept_new"
  bestVersionId := 1

/-- What a node remembers between its transactions comes from the state it runs on. -/
def Stage.Recalls (state : ChapterWorkflowState) : Stage → Prop
  | .revising source attempt =>
      state.currentVersionId = some source ∧ state.briefAttempt = some attempt
  | .extracting _ => state.currentVersionId.isSome
  | _ => True

section

variable {services : StoryServices} {state state' : ChapterWorkflowState} {runId : ℕ}
  {node : WorkflowNode} {stage stage' : Stage} {input : NodeInput} {db db' : StoryDatabase}

theorem requiredId_eq_ok {value : Option ℕ} {key : String} {id : ℕ} :
    requiredId value key = .ok id ↔ value = some id := by
  cases value <;> simp [requiredId]

theorem requiredKey_eq_ok {α : Type} {value : Option α} {key : String} {a : α} :
    requiredKey value key = .ok a ↔ value = some a := by
  cases value <;> simp [requiredKey]

/-- A step that does not raise. -/
def ActionResult.Returns : ActionResult → Prop
  | .raised _ => False
  | _ => True

theorem commit_eq_ok {outcome : Except Error (ActionResult × StoryDatabase)}
    {result : ActionResult} (h : commit db outcome = (result, db'))
    (hresult : result.Returns := by trivial) : outcome = .ok (result, db') := by
  cases outcome with
  | error error =>
      obtain rfl := congrArg Prod.fst h
      exact hresult.elim
  | ok written => exact congrArg Except.ok h

/-- A step that only reads, when it does not raise. -/
theorem reading_eq_some {read : Except Error ActionResult} {result : ActionResult}
    (h : reading db read = (result, db')) (hresult : result.Returns) :
    read = .ok result ∧ db' = db := by
  obtain ⟨result', hread, hpair⟩ := Except.map_eq_ok.mp (commit_eq_ok h hresult)
  obtain ⟨rfl, rfl⟩ := Prod.mk.inj hpair
  exact ⟨hread, rfl⟩

/-- A node with one transaction, when it returns. -/
theorem once_eq_ok {outcome : Except Error (ActionResult × StoryDatabase)}
    {result : ActionResult} (h : once db stage input outcome = some (result, db'))
    (hresult : result.Returns := by trivial) : outcome = .ok (result, db') :=
  commit_eq_ok (once_eq_some h).symm hresult

/-- **What `generate_draft` does** when it returns. -/
theorem generateDraft_outcome {result : ActionResult}
    (h : ChapterWorkflowService.generateDraft state runId stage input db = some (result, db'))
    (hresult : result.Returns) :
    (stage = .start ∧ input = .proceed ∧ db' = db ∧
      ((∃ id, ChapterVersionService.reusableVersion state.projectId state.chapterNumber runId db =
          .ok (some id) ∧ result = .done (drafted state id)) ∨
        ChapterVersionService.reusableVersion state.projectId state.chapterNumber runId db =
          .ok none ∧ result = .next .drafting)) ∨
    (stage = .drafting ∧ ∃ draft id, input = .drafted draft ∧
      ChapterVersionService.ensureInitialVersion state.projectId state.chapterNumber runId draft
        db = .ok db' ∧
      versionOf db' (ChapterVersionService.draftKey runId) = .ok id ∧
      result = .done (drafted state id)) := by
  unfold ChapterWorkflowService.generateDraft at h
  split at h
  · obtain ⟨hread, rfl⟩ := reading_eq_some (Option.some.inj h) hresult
    obtain ⟨_, -, hread⟩ := Except.bind_eq_ok.mp hread
    obtain ⟨found, hfound, hread⟩ := Except.bind_eq_ok.mp hread
    refine .inl ⟨rfl, rfl, rfl, ?_⟩
    cases found with
    | none => exact .inr ⟨hfound, (Except.ok.inj hread).symm⟩
    | some id => exact .inl ⟨id, hfound, (Except.ok.inj hread).symm⟩
  · rename_i draft
    obtain ⟨written, hwritten, h⟩ :=
      Except.bind_eq_ok.mp (commit_eq_ok (Option.some.inj h) hresult)
    obtain ⟨id, hid, h⟩ := Except.bind_eq_ok.mp h
    obtain ⟨rfl, rfl⟩ := Prod.mk.inj (Except.ok.inj h)
    exact .inr ⟨rfl, draft, id, rfl, hwritten, hid, rfl⟩
  · exact absurd h (by simp)

theorem generateDraft_done
    (h : ChapterWorkflowService.generateDraft state runId stage input db =
      some (.done state', db')) : ∃ versionId, state' = drafted state versionId := by
  rcases generateDraft_outcome h trivial with
    ⟨-, -, -, ⟨id, -, hdone⟩ | ⟨-, hnext⟩⟩ | ⟨-, draft, id, -, -, -, hdone⟩
  · exact ⟨id, ActionResult.done.inj hdone⟩
  · exact absurd hnext (by simp)
  · exact ⟨id, ActionResult.done.inj hdone⟩

/-- **What `revise_draft` does** when it returns. -/
theorem reviseDraft_outcome {result : ActionResult}
    (h : ChapterWorkflowService.reviseDraft state runId stage input db = some (result, db'))
    (hresult : result.Returns) :
    (stage = .start ∧ input = .proceed ∧ db' = db ∧ ∃ source attempt,
      state.currentVersionId = some source ∧ state.briefAttempt = some attempt ∧
      ((ChapterVersionService.revisionDue runId source attempt db = .ok true ∧
          result = .next (.revising source attempt)) ∨
        ∃ id, ChapterVersionService.revisionDue runId source attempt db = .ok false ∧
          versionOf db (ChapterVersionService.revisionKey runId attempt) = .ok id ∧
          result = .done (revised state source id attempt))) ∨
    (∃ source attempt draft id, stage = .revising source attempt ∧ input = .drafted draft ∧
      ChapterVersionService.revise runId source attempt draft db = .ok db' ∧
      versionOf db' (ChapterVersionService.revisionKey runId attempt) = .ok id ∧
      result = .done (revised state source id attempt)) := by
  unfold ChapterWorkflowService.reviseDraft at h
  split at h
  · obtain ⟨hread, rfl⟩ := reading_eq_some (Option.some.inj h) hresult
    obtain ⟨attempt, hattempt, hread⟩ := Except.bind_eq_ok.mp hread
    obtain ⟨source, hsource, hread⟩ := Except.bind_eq_ok.mp hread
    obtain ⟨_, -, hread⟩ := Except.bind_eq_ok.mp hread
    obtain ⟨due, hdue, hread⟩ := Except.bind_eq_ok.mp hread
    refine .inl ⟨rfl, rfl, rfl, source, attempt, requiredId_eq_ok.mp hsource,
      requiredKey_eq_ok.mp hattempt, ?_⟩
    cases due with
    | true => exact .inl ⟨hdue, (Except.ok.inj hread).symm⟩
    | false =>
        obtain ⟨id, hid, hread⟩ := Except.bind_eq_ok.mp hread
        exact .inr ⟨id, hdue, hid, (Except.ok.inj hread).symm⟩
  · rename_i source attempt draft
    obtain ⟨written, hwritten, h⟩ :=
      Except.bind_eq_ok.mp (commit_eq_ok (Option.some.inj h) hresult)
    obtain ⟨id, hid, h⟩ := Except.bind_eq_ok.mp h
    obtain ⟨rfl, rfl⟩ := Prod.mk.inj (Except.ok.inj h)
    exact .inr ⟨source, attempt, draft, id, rfl, rfl, hwritten, hid, rfl⟩
  · exact absurd h (by simp)

theorem reviseDraft_done (hstage : stage.Recalls state)
    (h : ChapterWorkflowService.reviseDraft state runId stage input db =
      some (.done state', db')) :
    ∃ source attempt versionId, state.currentVersionId = some source ∧
      state.briefAttempt = some attempt ∧ state' = revised state source versionId attempt := by
  rcases reviseDraft_outcome h trivial with
    ⟨-, -, -, source, attempt, hsource, hattempt, ⟨-, hnext⟩ | ⟨id, -, -, hdone⟩⟩ |
    ⟨source, attempt, draft, id, rfl, -, -, -, hdone⟩
  · exact absurd hnext (by simp)
  · exact ⟨source, attempt, id, hsource, hattempt, ActionResult.done.inj hdone⟩
  · exact ⟨source, attempt, id, hstage.1, hstage.2, ActionResult.done.inj hdone⟩

/-- **What `extract_facts` does** when it returns. -/
theorem extractFacts_outcome {result : ActionResult}
    (h : ChapterWorkflowService.extractFacts services state runId stage input db =
      some (result, db')) (hresult : result.Returns) :
    (stage = .start ∧ input = .proceed ∧ db' = db ∧ ∃ versionId,
      state.currentVersionId = some versionId ∧
      ((ChapterVersionService.extractionDue versionId db = .ok true ∧
          result = .next (.extracting versionId)) ∨
        ChapterVersionService.extractionDue versionId db = .ok false ∧ result = .done state)) ∨
    (∃ versionId extraction, stage = .extracting versionId ∧ input = .extracted extraction ∧
      ChapterVersionService.extractCandidateFacts services.normalizer versionId runId extraction
        db = .ok db' ∧
      result = .done state) := by
  unfold ChapterWorkflowService.extractFacts at h
  split at h
  · obtain ⟨hread, rfl⟩ := reading_eq_some (Option.some.inj h) hresult
    obtain ⟨versionId, hversion, hread⟩ := Except.bind_eq_ok.mp hread
    obtain ⟨due, hdue, hread⟩ := Except.bind_eq_ok.mp hread
    refine .inl ⟨rfl, rfl, rfl, versionId, requiredId_eq_ok.mp hversion, ?_⟩
    cases due with
    | true => exact .inl ⟨hdue, (Except.ok.inj hread).symm⟩
    | false => exact .inr ⟨hdue, (Except.ok.inj hread).symm⟩
  · rename_i versionId extraction
    obtain ⟨written, hwritten, h⟩ :=
      Except.bind_eq_ok.mp (commit_eq_ok (Option.some.inj h) hresult)
    obtain ⟨rfl, rfl⟩ := Prod.mk.inj (Except.ok.inj h)
    exact .inr ⟨versionId, extraction, rfl, rfl, hwritten, rfl⟩
  · exact absurd h (by simp)

theorem extractFacts_done (hstage : stage.Recalls state)
    (h : ChapterWorkflowService.extractFacts services state runId stage input db =
      some (.done state', db')) : state.currentVersionId.isSome ∧ state' = state := by
  rcases extractFacts_outcome h trivial with
    ⟨-, -, -, versionId, hversion, ⟨-, hnext⟩ | ⟨-, hdone⟩⟩ |
    ⟨versionId, extraction, rfl, -, -, hdone⟩
  · exact absurd hnext (by simp)
  · exact ⟨by rw [hversion]; rfl, ActionResult.done.inj hdone⟩
  · exact ⟨hstage, ActionResult.done.inj hdone⟩

/-- What follows a transaction that saves an attempt, when it does not raise. -/
theorem saved_outcome {loaded : LoadedEvaluation} {saves : Except Error StoryDatabase}
    {after : StoryDatabase → Except Error ActionResult} {result : ActionResult}
    (h : saved loaded db saves after = (result, db')) (hresult : result.Returns) :
    (saves = .ok db' ∧ after db' = .ok result) ∨
      db' = db ∧ result = .next (.markFailed loaded (.other "EvaluationError"
        "Evaluation persistence failed")) := by
  unfold saved at h
  cases saves with
  | ok written =>
      dsimp only at h
      cases hafter : after written with
      | ok answer =>
          rw [hafter] at h
          obtain ⟨rfl, rfl⟩ := Prod.mk.inj h
          exact .inl ⟨rfl, hafter⟩
      | error error =>
          rw [hafter] at h
          exact ((Prod.mk.inj h).1 ▸ hresult : (ActionResult.raised error).Returns).elim
  | error error =>
      dsimp only at h
      by_cases herror : StorySystem.isDatabaseError error
      · rw [if_pos herror] at h
        obtain ⟨rfl, rfl⟩ := Prod.mk.inj h
        exact .inr ⟨rfl, rfl⟩
      · rw [if_neg herror] at h
        exact ((Prod.mk.inj h).1 ▸ hresult : (ActionResult.raised error).Returns).elim

/-- **What `_evaluate_node` does** when it does not raise. -/
theorem evaluateNode_outcome {result : ActionResult}
    (h : evaluateNode state runId node stage input db = some (result, db'))
    (hresult : result.Returns) :
    (stage = .start ∧ input = .proceed ∧ db' = db ∧ ∃ versionId,
      state.currentVersionId = some versionId ∧
      ((∃ evaluation, EvaluationService.existingResult
            (evaluationRequest state runId versionId node) db = some evaluation ∧
          result = .next (.recording evaluation)) ∨
        ∃ loaded, EvaluationService.existingResult
            (evaluationRequest state runId versionId node) db = none ∧
          EvaluationService.loadContext (evaluationRequest state runId versionId node) db =
            .ok loaded ∧
          result = .next (.markEvaluating (evaluationRequest state runId versionId node)
            loaded))) ∨
    (∃ request loaded, stage = .markEvaluating request loaded ∧ input = .proceed ∧
      EvaluationService.markEvaluating loaded db = .ok db' ∧
      result = .next (.evaluating request loaded)) ∨
    (∃ request loaded scores evaluation, stage = .evaluating request loaded ∧
      input = .evaluated scores ∧ EvaluationService.persistComplete loaded scores db = .ok db' ∧
      savedEvaluation request db' = .ok evaluation ∧ result = .next (.recording evaluation)) ∨
    (∃ request loaded error, stage = .evaluating request loaded ∧ db' = db ∧
      result = .next (.markFailed loaded error)) ∨
    (∃ versionId evaluation, stage = .recording evaluation ∧ input = .proceed ∧
      state.currentVersionId = some versionId ∧ db' = recordEvaluation runId versionId db ∧
      result = .done (evaluated state evaluation)) := by
  unfold evaluateNode at h
  split at h
  · obtain ⟨hread, rfl⟩ := reading_eq_some (Option.some.inj h) hresult
    obtain ⟨versionId, hversion, hread⟩ := Except.bind_eq_ok.mp hread
    dsimp only at hread
    refine .inl ⟨rfl, rfl, rfl, versionId, requiredId_eq_ok.mp hversion, ?_⟩
    cases hfound : EvaluationService.existingResult
        (evaluationRequest state runId versionId node) db' with
    | some evaluation =>
        rw [hfound] at hread
        exact .inl ⟨evaluation, rfl, (Except.ok.inj hread).symm⟩
    | none =>
        rw [hfound] at hread
        obtain ⟨loaded, hloaded, hread⟩ := Except.bind_eq_ok.mp hread
        exact .inr ⟨loaded, rfl, hloaded, (Except.ok.inj hread).symm⟩
  · rename_i request loaded
    obtain ⟨written, hwritten, h⟩ :=
      Except.bind_eq_ok.mp (commit_eq_ok (Option.some.inj h) hresult)
    obtain ⟨rfl, rfl⟩ := Prod.mk.inj (Except.ok.inj h)
    exact .inr (.inl ⟨request, loaded, rfl, rfl, hwritten, rfl⟩)
  · rename_i request loaded scores
    rcases saved_outcome (Option.some.inj h) hresult with ⟨hsaved, hafter⟩ | ⟨hdb, hnext⟩
    · obtain ⟨evaluation, hevaluation, hafter⟩ := Except.bind_eq_ok.mp hafter
      exact .inr (.inr (.inl ⟨request, loaded, scores, evaluation, rfl, rfl, hsaved, hevaluation,
        (Except.ok.inj hafter).symm⟩))
    · exact .inr (.inr (.inr (.inl ⟨request, loaded, _, rfl, hdb, hnext⟩)))
  · rename_i request loaded scores
    rcases saved_outcome (Option.some.inj h) hresult with ⟨-, hafter⟩ | ⟨hdb, hnext⟩
    · exact ((Except.ok.inj hafter) ▸ hresult : (ActionResult.raised _).Returns).elim
    · exact .inr (.inr (.inr (.inl ⟨request, loaded, _, rfl, hdb, hnext⟩)))
  · rename_i request loaded
    obtain ⟨rfl, rfl⟩ := Prod.mk.inj (Option.some.inj h)
    exact .inr (.inr (.inr (.inl ⟨request, loaded, _, rfl, rfl, rfl⟩)))
  · obtain ⟨rfl, -⟩ := Prod.mk.inj (Option.some.inj h)
    exact hresult.elim
  · rename_i evaluation
    obtain ⟨versionId, hversion, h⟩ :=
      Except.bind_eq_ok.mp (commit_eq_ok (Option.some.inj h) hresult)
    obtain ⟨rfl, rfl⟩ := Prod.mk.inj (Except.ok.inj h)
    exact .inr (.inr (.inr (.inr ⟨versionId, evaluation, rfl, rfl, requiredId_eq_ok.mp hversion,
      rfl, rfl⟩)))
  · exact absurd h (by simp)

theorem evaluateNode_done
    (h : evaluateNode state runId node stage input db = some (.done state', db')) :
    state.currentVersionId.isSome ∧ ∃ evaluation, state' = evaluated state evaluation := by
  rcases evaluateNode_outcome h trivial with
    ⟨-, -, -, versionId, -, ⟨evaluation, -, hnext⟩ | ⟨loaded, -, -, hnext⟩⟩ |
    ⟨request, loaded, -, -, -, hnext⟩ | ⟨request, loaded, scores, evaluation, -, -, -, -, hnext⟩ |
    ⟨request, loaded, error, -, -, hnext⟩ |
    ⟨versionId, evaluation, -, -, hversion, -, hdone⟩
  · exact absurd hnext (by simp)
  · exact absurd hnext (by simp)
  · exact absurd hnext (by simp)
  · exact absurd hnext (by simp)
  · exact absurd hnext (by simp)
  · exact ⟨by rw [hversion]; rfl, evaluation, ActionResult.done.inj hdone⟩

theorem evaluateNode_next
    (h : evaluateNode state runId node stage input db = some (.next stage', db')) :
    stage'.Recalls state := by
  rcases evaluateNode_outcome h trivial with
    ⟨-, -, -, versionId, -, ⟨evaluation, -, hnext⟩ | ⟨loaded, -, -, hnext⟩⟩ |
    ⟨request, loaded, -, -, -, hnext⟩ | ⟨request, loaded, scores, evaluation, -, -, -, -, hnext⟩ |
    ⟨request, loaded, error, -, -, hnext⟩ | ⟨versionId, evaluation, -, -, -, -, hdone⟩
  · exact ActionResult.next.inj hnext ▸ trivial
  · exact ActionResult.next.inj hnext ▸ trivial
  · exact ActionResult.next.inj hnext ▸ trivial
  · exact ActionResult.next.inj hnext ▸ trivial
  · exact ActionResult.next.inj hnext ▸ trivial
  · exact absurd hdone (by simp)

theorem buildRevisionBrief_eq_ok {result : ActionResult}
    (h : ChapterWorkflowService.buildRevisionBrief state runId db = .ok result) :
    ∃ source, state.bestVersionId.or state.currentVersionId = some source ∧
      result = .done { state with
        currentVersionId := some source
        briefAttempt := some (state.revisionAttempt + 1) } := by
  unfold ChapterWorkflowService.buildRevisionBrief at h
  cases hsource : state.bestVersionId.or state.currentVersionId with
  | none =>
      rw [hsource] at h
      exact absurd h (by simp [throw, throwThe, MonadExceptOf.throw])
  | some source =>
      rw [hsource] at h
      obtain ⟨_, -, h⟩ := Except.bind_eq_ok.mp h
      split at h
      · split at h
        · exact absurd h (by simp [throw, throwThe, MonadExceptOf.throw])
        · exact ⟨source, rfl, (Except.ok.inj h).symm⟩
      · exact absurd h (by simp [throw, throwThe, MonadExceptOf.throw])

theorem compareVersions_done {services : StoryServices} {result : ActionResult}
    (h : ChapterWorkflowService.compareVersions services state runId db = .ok (result, db')) :
    ∃ base current, state.comparisonBaseVersionId = some base ∧
      state.currentVersionId = some current ∧
      ChapterVersionService.compareVersions services.acceptance runId base current db = .ok db' ∧
      result = .done { state with
        decision := storedDecision runId current db'
        bestVersionId :=
          match db'.runs[runId]? with
          | some run => run.bestVersionId
          | none => state.bestVersionId } := by
  obtain ⟨base, hbase, h⟩ := Except.bind_eq_ok.mp h
  obtain ⟨current, hcurrent, h⟩ := Except.bind_eq_ok.mp h
  obtain ⟨db'', hdb'', h⟩ := Except.bind_eq_ok.mp h
  obtain ⟨rfl, rfl⟩ := Prod.mk.inj (Except.ok.inj h)
  exact ⟨base, current, requiredId_eq_ok.mp hbase, requiredId_eq_ok.mp hcurrent, hdb'', rfl⟩

/-- A comparison that returns has stored a decision. -/
theorem exists_storedDecision {acceptance : ChapterVersionService.AcceptanceEvaluator}
    {base current : ℕ}
    (h : ChapterVersionService.compareVersions acceptance runId base current db = .ok db') :
    ∃ decision, storedDecision runId current db' = some decision := by
  have hmem : ∃ comparison ∈ db'.comparisons,
      comparison.workflowRunId = runId ∧ comparison.newVersionId = current := by
    unfold ChapterVersionService.compareVersions at h
    split at h
    · rename_i hany
      obtain rfl := Except.ok.inj h
      obtain ⟨comparison, hmem, hcomparison⟩ := List.any_eq_true.mp hany
      exact ⟨comparison, hmem, by simpa using hcomparison⟩
    · dsimp only at h
      split at h
      · obtain rfl := Except.ok.inj h
        exact ⟨_, List.mem_append_right _ (List.mem_singleton_self _), rfl, rfl⟩
      · exact absurd h (by simp)
  obtain ⟨comparison, hmem, hrun, hnew⟩ := hmem
  have hsome : (db'.comparisons.find? fun comparison =>
      comparison.workflowRunId == runId && comparison.newVersionId == current).isSome :=
    List.find?_isSome.mpr ⟨comparison, hmem, by simp [hrun, hnew]⟩
  obtain ⟨found, hfound⟩ := Option.isSome_iff_exists.mp hsome
  exact ⟨found.decision, by rw [storedDecision, hfound]; rfl⟩

theorem generateDraft_next
    (h : ChapterWorkflowService.generateDraft state runId stage input db =
      some (.next stage', db')) : stage'.Recalls state := by
  rcases generateDraft_outcome h trivial with
    ⟨-, -, -, ⟨id, -, hdone⟩ | ⟨-, hnext⟩⟩ | ⟨-, draft, id, -, -, -, hdone⟩
  · exact absurd hdone (by simp)
  · exact ActionResult.next.inj hnext ▸ trivial
  · exact absurd hdone (by simp)

theorem reviseDraft_next
    (h : ChapterWorkflowService.reviseDraft state runId stage input db =
      some (.next stage', db')) : stage'.Recalls state := by
  rcases reviseDraft_outcome h trivial with
    ⟨-, -, -, source, attempt, hsource, hattempt, ⟨-, hnext⟩ | ⟨id, -, -, hdone⟩⟩ |
    ⟨source, attempt, draft, id, -, -, -, -, hdone⟩
  · obtain rfl := ActionResult.next.inj hnext
    exact ⟨hsource, hattempt⟩
  · exact absurd hdone (by simp)
  · exact absurd hdone (by simp)

theorem extractFacts_next
    (h : ChapterWorkflowService.extractFacts services state runId stage input db =
      some (.next stage', db')) : stage'.Recalls state := by
  rcases extractFacts_outcome h trivial with
    ⟨-, -, -, versionId, hversion, ⟨-, hnext⟩ | ⟨-, hdone⟩⟩ |
    ⟨versionId, extraction, -, -, -, hdone⟩
  · obtain rfl := ActionResult.next.inj hnext
    show state.currentVersionId.isSome
    rw [hversion]
    rfl
  · exact absurd hdone (by simp)
  · exact absurd hdone (by simp)

/-- A node that goes on remembers what its state says. -/
theorem Stage.recalls_of_actionStep
    (h : actionStep services state runId node stage input db = some (.next stage', db')) :
    stage'.Recalls state := by
  cases node with
  | initializeWorkflow | failWorkflow => exact absurd h (by simp [actionStep])
  | loadContext | decideAfterEvaluation | decideAfterComparison =>
      obtain ⟨_, -, hdone⟩ := Except.map_eq_ok.mp (once_eq_ok h)
      exact absurd (Prod.mk.inj hdone).1 (by simp)
  | generateDraft => exact generateDraft_next h
  | extractFacts | extractRevisionFacts => exact extractFacts_next h
  | reviseDraft => exact reviseDraft_next h
  | evaluateDraft | evaluateRevision => exact evaluateNode_next h
  | buildRevisionBrief =>
      obtain ⟨result, hresult, hnext⟩ := Except.map_eq_ok.mp (once_eq_ok h)
      obtain rfl := (Prod.mk.inj hnext).1
      obtain ⟨source, -, hdone⟩ := buildRevisionBrief_eq_ok hresult
      exact absurd hdone (by simp)
  | compareVersions =>
      obtain ⟨_, _, -, -, -, hdone⟩ := compareVersions_done (once_eq_ok h)
      exact absurd hdone (by simp)
  | rejectRevision =>
      obtain ⟨_, -, h⟩ := Except.bind_eq_ok.mp (once_eq_ok h)
      obtain ⟨_, -, h⟩ := Except.bind_eq_ok.mp h
      obtain ⟨_, -, h⟩ := Except.bind_eq_ok.mp h
      have hresult := (Prod.mk.inj (Except.ok.inj h)).1
      unfold rejectionResult at hresult
      split at hresult <;> simp at hresult
  | acceptVersion =>
      obtain ⟨_, -, h⟩ := Except.bind_eq_ok.mp (once_eq_ok h)
      obtain ⟨_, -, h⟩ := Except.bind_eq_ok.mp h
      exact absurd (Prod.mk.inj (Except.ok.inj h)).1 (by simp)
  | markNeedsHumanReview =>
      obtain ⟨_, -, h⟩ := Except.bind_eq_ok.mp (once_eq_ok h)
      exact absurd (Prod.mk.inj (Except.ok.inj h)).1 (by simp)

/-- **A node that returns does what some answer makes it do**, provided the comparison of a
run has a best version to return. -/
theorem NodeAnswer.of_actionStep (hstage : stage.Recalls state)
    (h : actionStep services state runId node stage input db = some (.done state', db'))
    (hbest : node = .compareVersions → state'.bestVersionId.isSome) :
    ∃ answer : NodeAnswer, answer.answered state node = .ok state' := by
  cases node with
  | initializeWorkflow => exact absurd h (by simp [actionStep])
  | failWorkflow => exact absurd h (by simp [actionStep])
  | loadContext =>
      obtain ⟨_, -, hdone⟩ := Except.map_eq_ok.mp (once_eq_ok h)
      exact ⟨.sample, congrArg Except.ok (ActionResult.done.inj (Prod.mk.inj hdone).1)⟩
  | generateDraft =>
      obtain ⟨versionId, rfl⟩ := generateDraft_done h
      exact ⟨{ NodeAnswer.sample with versionId }, rfl⟩
  | extractFacts | extractRevisionFacts =>
      obtain ⟨hcurrent, rfl⟩ := extractFacts_done hstage h
      obtain ⟨current, hcurrent⟩ := Option.isSome_iff_exists.mp hcurrent
      exact ⟨.sample, by simp only [answered, hcurrent]; rfl⟩
  | evaluateDraft | evaluateRevision =>
      obtain ⟨hcurrent, evaluation, rfl⟩ := evaluateNode_done h
      obtain ⟨current, hcurrent⟩ := Option.isSome_iff_exists.mp hcurrent
      exact ⟨{ NodeAnswer.sample with evaluation }, by simp only [answered, hcurrent]; rfl⟩
  | decideAfterEvaluation =>
      obtain ⟨evaluation, hevaluation, hdone⟩ := Except.map_eq_ok.mp (once_eq_ok h)
      obtain rfl := ActionResult.done.inj (Prod.mk.inj hdone).1
      exact ⟨.sample, by simp only [answered, hevaluation]; rfl⟩
  | buildRevisionBrief =>
      obtain ⟨result, hresult, hdone⟩ := Except.map_eq_ok.mp (once_eq_ok h)
      obtain rfl := (Prod.mk.inj hdone).1
      obtain ⟨source, hsource, hdone⟩ := buildRevisionBrief_eq_ok hresult
      obtain rfl := ActionResult.done.inj hdone
      exact ⟨.sample, by simp only [answered, hsource]⟩
  | reviseDraft =>
      obtain ⟨source, attempt, versionId, hcurrent, hbrief, rfl⟩ := reviseDraft_done hstage h
      refine ⟨{ NodeAnswer.sample with versionId }, ?_⟩
      simp only [answered, hcurrent, hbrief]
      rfl
  | compareVersions =>
      obtain ⟨base, current, hbase, hcurrent, hcompared, hdone⟩ :=
        compareVersions_done (once_eq_ok h)
      obtain ⟨decision, hdecision⟩ := exists_storedDecision hcompared
      obtain rfl := ActionResult.done.inj hdone
      obtain ⟨best, hbest⟩ := Option.isSome_iff_exists.mp (hbest rfl)
      refine ⟨{ NodeAnswer.sample with decision, bestVersionId := best }, ?_⟩
      dsimp only at hbest
      simp only [answered, hbase, hcurrent, hdecision, hbest]
      rfl
  | decideAfterComparison =>
      obtain ⟨decision, hdecision, hdone⟩ := Except.map_eq_ok.mp (once_eq_ok h)
      obtain rfl := ActionResult.done.inj (Prod.mk.inj hdone).1
      exact ⟨.sample, by simp only [answered, hdecision]; rfl⟩
  | rejectRevision =>
      obtain ⟨current, hcurrent, h⟩ := Except.bind_eq_ok.mp (once_eq_ok h)
      obtain ⟨best, hbest', h⟩ := Except.bind_eq_ok.mp h
      obtain ⟨db'', -, h⟩ := Except.bind_eq_ok.mp h
      have hresult := (Prod.mk.inj (Except.ok.inj h)).1
      unfold rejectionResult at hresult
      split at hresult
      · obtain rfl := ActionResult.done.inj hresult
        refine ⟨{ NodeAnswer.sample with versionId := currentAfter runId current best db'' }, ?_⟩
        simp only [answered, hcurrent, hbest']
        rfl
      · exact absurd hresult (by simp)
  | acceptVersion =>
      obtain ⟨versionId, hversion, h⟩ := Except.bind_eq_ok.mp (once_eq_ok h)
      obtain ⟨db'', -, h⟩ := Except.bind_eq_ok.mp h
      obtain rfl := ActionResult.done.inj (Prod.mk.inj (Except.ok.inj h)).1
      exact ⟨.sample, by simp only [answered, hversion]; rfl⟩
  | markNeedsHumanReview =>
      obtain ⟨db'', hdb'', h⟩ := Except.bind_eq_ok.mp (once_eq_ok h)
      obtain rfl := ActionResult.done.inj (Prod.mk.inj (Except.ok.inj h)).1
      unfold ChapterVersionService.markNeedsReview at hdb''
      cases hbest' : db.runs[runId]?.bind (·.bestVersionId) with
      | none =>
          rw [hbest'] at hdb''
          exact absurd hdb'' (by simp)
      | some best => exact ⟨{ NodeAnswer.sample with bestVersionId := best }, rfl⟩

end

/-! ### Runs -/

/-- The nodes that end a run. -/
def terminalNodes : List WorkflowNode := [.acceptVersion, .markNeedsHumanReview, .failWorkflow]

/-- Where a graph is: the node it executes next and its state. -/
abbrev Position := WorkflowNode × ChapterWorkflowState

/-- The `k`-th execution of a node: what is executed next. -/
def follow (answers : ℕ → NodeAnswer) (k : ℕ) (position : Position) :
    Except Error (Option Position) := do
  let state ← (answers k).answered position.2 position.1
  let next ← afterNode state position.1
  return next.map (·, state)

/-- The run from a position, where `k` nodes were executed before, ends with the terminal
node after some number of revisions. -/
inductive Ends (answers : ℕ → NodeAnswer) : ℕ → Position → WorkflowNode → ℕ → Prop
  | terminal {k : ℕ} {node : WorkflowNode} {state : ChapterWorkflowState}
      (hnode : node ∈ terminalNodes) (hend : follow answers k (node, state) = .ok none) :
      Ends answers k (node, state) node 0
  | step {k : ℕ} {position next : Position} {last : WorkflowNode} {revisions : ℕ}
      (hnode : position.1 ∉ terminalNodes) (hnext : follow answers k position = .ok (some next))
      (hends : Ends answers (k + 1) next last revisions) :
      Ends answers k position last (revisions + if position.1 = .reviseDraft then 1 else 0)

/-- A run reaches exactly one of the terminal nodes, within its limit of revisions. -/
def Bounded (request : ChapterWorkflowRequest) (answers : ℕ → NodeAnswer) : Prop :=
  ∃ revisions ≤ request.maxRevisionAttempts,
    ∃! last, Ends answers 0 (.initializeWorkflow, request.initialState) last revisions

/-- A run ends in one way. -/
theorem Ends.unique {answers : ℕ → NodeAnswer} {k : ℕ} {position : Position}
    {last last' : WorkflowNode} {revisions revisions' : ℕ}
    (h : Ends answers k position last revisions) (h' : Ends answers k position last' revisions') :
    last = last' ∧ revisions = revisions' := by
  induction h generalizing last' revisions' with
  | terminal hnode hend =>
      cases h' with
      | terminal => exact ⟨rfl, rfl⟩
      | step hnode' => exact absurd hnode hnode'
  | step hnode hnext _ ih =>
      cases h' with
      | terminal hnode' => exact absurd hnode' hnode
      | step _ hnext' hends' =>
          obtain rfl := Option.some.inj (Except.ok.inj (hnext.symm.trans hnext'))
          obtain ⟨hlast, hrevisions⟩ := ih hends'
          exact ⟨hlast, by rw [hrevisions]⟩

/-- What a run has made of its state when it enters the loop. -/
structure Looping (request : ChapterWorkflowRequest) (state : ChapterWorkflowState) : Prop where
  errors : state.errors = []
  operation : state.operation = request.operation
  maximum : state.maxRevisionAttempts = request.maxRevisionAttempts
  source : (state.bestVersionId.or state.currentVersionId).isSome

section

variable {request : ChapterWorkflowRequest} {answers : ℕ → NodeAnswer} {k : ℕ}
  {state : ChapterWorkflowState}

/-- A terminal node ends a run that has a version. -/
theorem ends_of_terminal {node : WorkflowNode} (hnode : node ∈ terminalNodes)
    (hcurrent : state.currentVersionId.isSome) : Ends answers k (node, state) node 0 := by
  obtain ⟨versionId, hversion⟩ := Option.isSome_iff_exists.mp hcurrent
  refine .terminal hnode ?_
  simp only [terminalNodes, List.mem_cons, List.not_mem_nil, or_false] at hnode
  rcases hnode with rfl | rfl | rfl
  · simp only [follow, NodeAnswer.answered, hversion]
    rfl
  · rfl
  · rfl

/-- A node that makes no revision passes the run on. -/
theorem Ends.pass {next : Position} {last : WorkflowNode} {revisions : ℕ}
    (hends : Ends answers (k + 1) next last revisions) (node : WorkflowNode)
    (state : ChapterWorkflowState) (hnode : node ∉ terminalNodes ∧ node ≠ .reviseDraft)
    (hnext : follow answers k (node, state) = .ok (some next)) :
    Ends answers k (node, state) last revisions := by
  have h := Ends.step hnode.1 hnext hends
  rwa [if_neg hnode.2, Nat.add_zero] at h

/-- `revise_draft` makes one. -/
theorem Ends.revise {next : Position} {last : WorkflowNode} {revisions : ℕ}
    (hends : Ends answers (k + 1) next last revisions) (state : ChapterWorkflowState)
    (hnext : follow answers k (.reviseDraft, state) = .ok (some next)) :
    Ends answers k (.reviseDraft, state) last (revisions + 1) :=
  .step (show WorkflowNode.reviseDraft ∉ terminalNodes by decide) hnext hends

/-- The decision after a comparison only retries below the limit. -/
theorem lt_of_retry {decision : String} (h : decideAfterComparison state decision = .retry) :
    state.revisionAttempt < state.maxRevisionAttempts := by
  unfold decideAfterComparison at h
  split_ifs at h with _ _ _ hmax
  omega

/-- The version that a brief is built from. -/
theorem Looping.exists_source (h : Looping request state) :
    ∃ source, state.bestVersionId.or state.currentVersionId = some source :=
  Option.isSome_iff_exists.mp h.source

/-- **One round of the loop** makes one revision; it ends the run, or goes on within the
limit. -/
theorem round (h : Looping request state) (answers : ℕ → NodeAnswer) (k : ℕ) :
    ∃ node next, Looping request next ∧ next.currentVersionId.isSome ∧
      next.revisionAttempt = state.revisionAttempt + 1 ∧
      (node ∈ terminalNodes ∨
        node = .buildRevisionBrief ∧ next.revisionAttempt < request.maxRevisionAttempts) ∧
      ∃ k', ∀ last revisions, Ends answers k' (node, next) last revisions →
        Ends answers k (.buildRevisionBrief, state) last (revisions + 1) := by
  obtain ⟨source, hsource⟩ := h.exists_source
  let attempt := state.revisionAttempt + 1
  let brief : ChapterWorkflowState :=
    { state with currentVersionId := some source, briefAttempt := some attempt }
  let draft := revised brief source (answers (k + 1)).versionId attempt
  let scored := evaluated draft (answers (k + 3)).evaluation
  let compared : ChapterWorkflowState :=
    { scored with
      decision := some (answers (k + 4)).decision
      bestVersionId := some (answers (k + 4)).bestVersionId }
  let route := decideAfterComparison compared (answers (k + 4)).decision
  let decided : ChapterWorkflowState := { compared with route := some route }
  have hlooping : Looping request decided := ⟨h.errors, h.operation, h.maximum, rfl⟩
  have hbrief : follow answers k (.buildRevisionBrief, state) = .ok (some (.reviseDraft, brief)) := by
    simp only [follow, NodeAnswer.answered, hsource]
    rfl
  -- from the brief to the decision there is one way
  have hloop : ∀ {node next last revisions k'}, k' = k + 6 →
      follow answers (k + 5) (.decideAfterComparison, compared) = .ok (some (node, next)) →
      Ends answers k' (node, next) last revisions →
      Ends answers k (.buildRevisionBrief, state) last (revisions + 1) := by
    rintro node next last revisions _ rfl hdecided hends
    have hcompared := hends.pass .decideAfterComparison compared (by decide) hdecided
    have hscored := hcompared.pass .compareVersions scored (by decide) rfl
    have hextracted := hscored.pass .evaluateRevision draft (by decide) rfl
    have hdraft := hextracted.pass .extractRevisionFacts draft (by decide) rfl
    have hrevised := hdraft.revise brief rfl
    exact hrevised.pass .buildRevisionBrief state (by decide) hbrief
  have hdecide : follow answers (k + 5) (.decideAfterComparison, compared) =
      (followRoute comparisonEdges (some route)).map fun next => next.map (·, decided) := rfl
  by_cases hretry : route = .retry
  · -- a retry passes through the rejection
    have hlimit : attempt < request.maxRevisionAttempts :=
      lt_of_lt_of_eq (lt_of_retry hretry) h.maximum
    rw [hretry] at hdecide
    let rejected : ChapterWorkflowState :=
      { decided with currentVersionId := some (answers (k + 6)).versionId }
    refine ⟨.buildRevisionBrief, rejected, ⟨h.errors, h.operation, h.maximum, rfl⟩, rfl, rfl,
      .inr ⟨rfl, hlimit⟩, k + 7, fun last revisions hends => ?_⟩
    exact hloop rfl hdecide (hends.pass .rejectRevision decided (by decide) rfl)
  · -- every other route ends the run
    have hterminal : ∃ node ∈ terminalNodes, comparisonEdges route = some node := by
      have hne := decideAfterComparison_ne_revise compared (answers (k + 4)).decision
      cases hroute : route with
      | accept => exact ⟨.acceptVersion, by decide, rfl⟩
      | humanReview => exact ⟨.markNeedsHumanReview, by decide, rfl⟩
      | fail => exact ⟨.failWorkflow, by decide, rfl⟩
      | retry => exact absurd hroute hretry
      | revise => exact absurd hroute hne
    obtain ⟨node, hnode, hedge⟩ := hterminal
    simp only [followRoute, hedge] at hdecide
    exact ⟨node, decided, hlooping, rfl, rfl, .inl hnode, k + 6,
      fun last revisions hends => hloop rfl hdecide hends⟩

/-- **The loop ends**, after at least one revision and as many as the limit leaves. -/
theorem ends_of_looping (h : Looping request state) (answers : ℕ → NodeAnswer) (k : ℕ) :
    ∃ last revisions, Ends answers k (.buildRevisionBrief, state) last revisions ∧
      1 ≤ revisions ∧
      revisions ≤ max 1 (request.maxRevisionAttempts - state.revisionAttempt) := by
  induction hleft : request.maxRevisionAttempts - state.revisionAttempt
    using Nat.strong_induction_on generalizing state k with
  | _ left ih =>
      obtain ⟨node, next, hlooping, hcurrent, hattempt, hnode, k', hround⟩ := round h answers k
      rcases hnode with hnode | ⟨rfl, hlimit⟩
      · exact ⟨node, 1, hround node 0 (ends_of_terminal hnode hcurrent), le_rfl, by omega⟩
      · obtain ⟨last, revisions, hends, hone, hmax⟩ :=
          ih (request.maxRevisionAttempts - next.revisionAttempt) (by omega) hlooping k' rfl
        exact ⟨last, revisions + 1, hround last revisions hends, by omega, by omega⟩

/-- The decision after an evaluation only revises below the limit, unless a targeted revision
has made none yet. -/
theorem lt_of_revise {evaluation : EvaluationPayload}
    (h : decideAfterEvaluation state evaluation = .revise) :
    state.operation = .targetedRevision ∧ state.revisionAttempt = 0 ∨
      state.revisionAttempt < state.maxRevisionAttempts := by
  unfold decideAfterEvaluation at h
  split_ifs at h with _ htargeted _ _ _ hlimit
  · exact .inl htargeted
  · exact .inr hlimit

/-- A targeted revision begins with one. -/
theorem revise_of_targeted {evaluation : EvaluationPayload} (herrors : state.errors = [])
    (hoperation : state.operation = .targetedRevision) (hattempt : state.revisionAttempt = 0) :
    decideAfterEvaluation state evaluation = .revise := by
  unfold decideAfterEvaluation
  rw [if_neg (not_not.mpr herrors), if_pos ⟨hoperation, hattempt⟩]

/-- **Every run ends**, within the limit of its request; a targeted revision makes at least
one revision. -/
theorem ends_of_request (request : ChapterWorkflowRequest) (answers : ℕ → NodeAnswer) :
    ∃ last revisions,
      Ends answers 0 (.initializeWorkflow, request.initialState) last revisions ∧
      (request.operation = .targetedRevision → 1 ≤ revisions) ∧
      (revisions ≤ request.maxRevisionAttempts ∨
        request.operation = .targetedRevision ∧ revisions ≤ 1) := by
  let begun := runState (newRun request.projectId 0 (answers 0).chapter)
    (answers 0).chapter.chapterNumber request.initialState
  let draft := drafted begun (answers 2).versionId
  let scored := evaluated draft (answers 4).evaluation
  let route := decideAfterEvaluation scored (answers 4).evaluation.payload
  let decided : ChapterWorkflowState := { scored with route := some route }
  have hlooping : Looping request decided := by
    refine ⟨rfl, rfl, rfl, ?_⟩
    show ((begun.bestVersionId.or (some (answers 2).versionId)).or
      (some (answers 2).versionId)).isSome
    simp
  have hstart : ∀ {node last revisions},
      follow answers 5 (.decideAfterEvaluation, scored) = .ok (some (node, decided)) →
      Ends answers 6 (node, decided) last revisions →
      Ends answers 0 (.initializeWorkflow, request.initialState) last revisions := by
    intro node last revisions hdecided hends
    have hscored := hends.pass .decideAfterEvaluation scored (by decide) hdecided
    have hextracted := hscored.pass .evaluateDraft draft (by decide) rfl
    have hdraft := hextracted.pass .extractFacts draft (by decide) rfl
    have hloaded := hdraft.pass .generateDraft begun (by decide) rfl
    have hbegun := hloaded.pass .loadContext begun (by decide) rfl
    exact hbegun.pass .initializeWorkflow request.initialState (by decide) rfl
  have hdecide : follow answers 5 (.decideAfterEvaluation, scored) =
      (followRoute evaluationEdges (some route)).map fun next => next.map (·, decided) := rfl
  by_cases hrevise : route = .revise
  · rw [hrevise] at hdecide
    obtain ⟨last, revisions, hends, hone, hmax⟩ := ends_of_looping hlooping answers 6
    refine ⟨last, revisions, hstart hdecide hends, fun _ => hone, ?_⟩
    have hmax' : revisions ≤ max 1 (request.maxRevisionAttempts - 0) := hmax
    rcases lt_of_revise hrevise with ⟨htargeted, -⟩ | hlimit
    · have hoperation : request.operation = .targetedRevision := htargeted
      by_cases hzero : request.maxRevisionAttempts = 0
      · exact .inr ⟨hoperation, by omega⟩
      · exact .inl (by omega)
    · have hpos : 0 < request.maxRevisionAttempts := hlimit
      exact .inl (by omega)
  · have hterminal : ∃ node ∈ terminalNodes, evaluationEdges route = some node := by
      have hne := decideAfterEvaluation_ne_retry scored (answers 4).evaluation.payload
      cases hroute : route with
      | accept => exact ⟨.acceptVersion, by decide, rfl⟩
      | humanReview => exact ⟨.markNeedsHumanReview, by decide, rfl⟩
      | fail => exact ⟨.failWorkflow, by decide, rfl⟩
      | revise => exact absurd hroute hrevise
      | retry => exact absurd hroute hne
    obtain ⟨node, hnode, hedge⟩ := hterminal
    simp only [followRoute, hedge] at hdecide
    refine ⟨node, 0, hstart hdecide (ends_of_terminal hnode rfl), fun htargeted => ?_,
      .inl (Nat.zero_le _)⟩
    exact absurd (revise_of_targeted rfl htargeted rfl) hrevise

end

/-- **The revision loop is bounded** exactly when the request is not a targeted revision that
may make none. -/
theorem bounded_iff (request : ChapterWorkflowRequest) (answers : ℕ → NodeAnswer) :
    Bounded request answers ↔
      (request.operation = .targetedRevision → 0 < request.maxRevisionAttempts) := by
  obtain ⟨last, revisions, hends, hone, hmax⟩ := ends_of_request request answers
  constructor
  · rintro ⟨revisions', hle, last', hends', -⟩ htargeted
    obtain ⟨-, rfl⟩ := hends.unique hends'
    exact lt_of_lt_of_le (hone htargeted) hle
  · intro hlimit
    refine ⟨revisions, ?_, last, hends, fun last' hends' => (hends'.unique hends).1⟩
    rcases hmax with hmax | ⟨htargeted, hmax⟩
    · exact hmax
    · exact le_trans hmax (hlimit htargeted)

/-- A targeted revision that may make no revision makes one. -/
theorem bounded_fails :
    ¬ ∀ request answers, Bounded request answers := by
  intro h
  let request : ChapterWorkflowRequest :=
    { projectId := 0
      chapterNumber := 1
      operation := .targetedRevision
      maxRevisionAttempts := 0
      pauseAfter := none
      maxRevisionAttempts_le := by decide }
  obtain ⟨revisions, hle, last, hends, -⟩ := h request fun _ => .sample
  obtain ⟨last', revisions', hends', hone, -⟩ := ends_of_request request fun _ => .sample
  obtain ⟨-, rfl⟩ := hends.unique hends'
  have hpos := hone rfl
  have hzero : revisions ≤ 0 := hle
  omega

end StoryForge
