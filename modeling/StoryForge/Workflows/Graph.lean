import StoryForge.Chapters.Models

/-!
# The chapter graph

The nodes of the durable chapter workflow, the state a checkpoint keeps between them, the
two decisions and the edges. A node that returns updates the state; `afterNode` is the node
that runs next, `none` at the end of the graph.

## Main results

* `decideAfterEvaluation_ne_retry`, `decideAfterComparison_ne_revise` — what the two
  decisions never select;
* `afterNode_of_decided` — the decisions only select routes that have an edge.
-/

namespace StoryForge

/-- The nodes of the graph. -/
inductive WorkflowNode
  | initializeWorkflow
  | loadContext
  | generateDraft
  | extractFacts
  | evaluateDraft
  | decideAfterEvaluation
  | buildRevisionBrief
  | reviseDraft
  | extractRevisionFacts
  | evaluateRevision
  | compareVersions
  | decideAfterComparison
  | rejectRevision
  | acceptVersion
  | markNeedsHumanReview
  | failWorkflow
  deriving DecidableEq, Repr

/-- The name of a node. -/
def WorkflowNode.value : WorkflowNode → String
  | .initializeWorkflow => "initialize_workflow"
  | .loadContext => "load_context"
  | .generateDraft => "generate_draft"
  | .extractFacts => "extract_facts"
  | .evaluateDraft => "evaluate_draft"
  | .decideAfterEvaluation => "decide_after_evaluation"
  | .buildRevisionBrief => "build_revision_brief"
  | .reviseDraft => "revise_draft"
  | .extractRevisionFacts => "extract_revision_facts"
  | .evaluateRevision => "evaluate_revision"
  | .compareVersions => "compare_versions"
  | .decideAfterComparison => "decide_after_comparison"
  | .rejectRevision => "reject_revision"
  | .acceptVersion => "accept_version"
  | .markNeedsHumanReview => "mark_needs_human_review"
  | .failWorkflow => "fail_workflow"

/-- `_PAUSABLE_NODES`. -/
def pausableNodes : List WorkflowNode :=
  [.initializeWorkflow, .loadContext, .generateDraft, .extractFacts, .evaluateDraft,
    .decideAfterEvaluation, .buildRevisionBrief, .reviseDraft, .extractRevisionFacts,
    .evaluateRevision, .compareVersions, .decideAfterComparison, .rejectRevision]

/-- What a workflow is started for. -/
inductive WorkflowOperation
  | generate
  | evaluateExisting
  | targetedRevision
  deriving DecidableEq, Repr

/-- The routes out of a decision. -/
inductive Route
  | accept
  | revise
  | humanReview
  | fail
  | retry
  deriving DecidableEq, Repr

/-- The stored form of a route. -/
def Route.value : Route → String
  | .accept => "accept"
  | .revise => "revise"
  | .humanReview => "human_review"
  | .fail => "fail"
  | .retry => "retry"

/-- What the decision reads of an evaluation. -/
structure EvaluationPayload where
  passed : Bool
  recommendedAction : String
  criticalConflicts : ℕ
  deriving DecidableEq, Repr

/-- `_evaluation_payload`. -/
def Evaluation.payload (evaluation : Evaluation) : EvaluationPayload :=
  ⟨evaluation.passed, evaluation.recommendedAction, evaluation.criticalConflicts⟩

/-- The state stored by the checkpointer. `briefAttempt` is the attempt number in the
revision brief and `decision` the decision of the comparison, the parts of these documents
that later nodes read. The id of the run, which `initialize_workflow` adds to the state, is
the run of the thread; calls carry it themselves. -/
structure ChapterWorkflowState where
  projectId : ℕ
  chapterNumber : ℕ
  operation : WorkflowOperation
  originalVersionId : Option ℕ
  currentVersionId : Option ℕ
  bestVersionId : Option ℕ
  acceptedVersionId : Option ℕ
  comparisonBaseVersionId : Option ℕ
  currentEvaluation : Option EvaluationPayload
  briefAttempt : Option ℕ
  decision : Option String
  revisionAttempt : ℕ
  maxRevisionAttempts : ℕ
  errors : List String
  blockingReasons : List String
  route : Option Route
  deriving DecidableEq, Repr

/-- Start one generation, evaluation or revision workflow. -/
structure ChapterWorkflowRequest where
  projectId : ℕ
  chapterNumber : ℕ
  operation : WorkflowOperation
  maxRevisionAttempts : ℕ
  pauseAfter : Option WorkflowNode
  maxRevisionAttempts_le : maxRevisionAttempts ≤ 10
  deriving DecidableEq, Repr

/-- The input of the graph. -/
def ChapterWorkflowRequest.initialState (request : ChapterWorkflowRequest) :
    ChapterWorkflowState where
  projectId := request.projectId
  chapterNumber := request.chapterNumber
  operation := request.operation
  originalVersionId := none
  currentVersionId := none
  bestVersionId := none
  acceptedVersionId := none
  comparisonBaseVersionId := none
  currentEvaluation := none
  briefAttempt := none
  decision := none
  revisionAttempt := 0
  maxRevisionAttempts := request.maxRevisionAttempts
  errors := []
  blockingReasons := []
  route := none

/-! ### Decisions -/

/-- `_required_id`. -/
def requiredId (value : Option ℕ) (key : String) : Except Error ℕ :=
  match value with
  | some id => .ok id
  | none => .error (.invalidStateError ("Workflow state is missing " ++ key))

/-- The route chosen by `_decide_after_evaluation`. -/
def decideAfterEvaluation (state : ChapterWorkflowState) (evaluation : EvaluationPayload) :
    Route :=
  if state.errors ≠ [] then .fail
  else if state.operation = .targetedRevision ∧ state.revisionAttempt = 0 then .revise
  else if evaluation.passed ∧ state.blockingReasons = [] then .accept
  else if evaluation.recommendedAction = "reject" then .humanReview
  else if evaluation.recommendedAction = "human_review" ∧ evaluation.criticalConflicts = 0 then
    .humanReview
  else if state.revisionAttempt < state.maxRevisionAttempts then .revise
  else .humanReview

/-- The route chosen by `_decide_after_comparison`. -/
def decideAfterComparison (state : ChapterWorkflowState) (decision : String) : Route :=
  if state.errors ≠ [] then .fail
  else if decision = "accept_new" then .accept
  else if decision = "human_review" ∨ decision = "keep_old_stop" then .humanReview
  else if state.revisionAttempt ≥ state.maxRevisionAttempts then .humanReview
  else .retry

/-! ### Edges -/

/-- The conditional edges of `decide_after_evaluation`. -/
def evaluationEdges : Route → Option WorkflowNode
  | .accept => some .acceptVersion
  | .revise => some .buildRevisionBrief
  | .humanReview => some .markNeedsHumanReview
  | .fail => some .failWorkflow
  | .retry => none

/-- The conditional edges of `decide_after_comparison`. -/
def comparisonEdges : Route → Option WorkflowNode
  | .accept => some .acceptVersion
  | .retry => some .rejectRevision
  | .humanReview => some .markNeedsHumanReview
  | .fail => some .failWorkflow
  | .revise => none

/-- Follow a conditional edge. -/
def followRoute (edges : Route → Option WorkflowNode) (route : Option Route) :
    Except Error (Option WorkflowNode) :=
  match route with
  | none => .error (.other "KeyError" "route")
  | some route =>
      match edges route with
      | some node => .ok (some node)
      | none => .error (.other "KeyError" route.value)

/-- The node after a node, given the state that the node left. -/
def afterNode (state : ChapterWorkflowState) : WorkflowNode → Except Error (Option WorkflowNode)
  | .initializeWorkflow => .ok (some .loadContext)
  | .loadContext => .ok (some .generateDraft)
  | .generateDraft => .ok (some .extractFacts)
  | .extractFacts => .ok (some .evaluateDraft)
  | .evaluateDraft => .ok (some .decideAfterEvaluation)
  | .decideAfterEvaluation => followRoute evaluationEdges state.route
  | .buildRevisionBrief => .ok (some .reviseDraft)
  | .reviseDraft => .ok (some .extractRevisionFacts)
  | .extractRevisionFacts => .ok (some .evaluateRevision)
  | .evaluateRevision => .ok (some .compareVersions)
  | .compareVersions => .ok (some .decideAfterComparison)
  | .decideAfterComparison => followRoute comparisonEdges state.route
  | .rejectRevision => .ok (some .buildRevisionBrief)
  | .acceptVersion | .markNeedsHumanReview | .failWorkflow => .ok none

/-- The decision after an evaluation never selects `retry`. -/
theorem decideAfterEvaluation_ne_retry (state : ChapterWorkflowState)
    (evaluation : EvaluationPayload) : decideAfterEvaluation state evaluation ≠ .retry := by
  unfold decideAfterEvaluation
  split_ifs <;> simp

/-- The decision after a comparison never selects `revise`. -/
theorem decideAfterComparison_ne_revise (state : ChapterWorkflowState) (decision : String) :
    decideAfterComparison state decision ≠ .revise := by
  unfold decideAfterComparison
  split_ifs <;> simp

/-- The decisions only select routes that have an edge. -/
theorem afterNode_of_decided {state : ChapterWorkflowState} {evaluation : EvaluationPayload}
    {decision : String} :
    (state.route = some (decideAfterEvaluation state evaluation) →
        ∃ node, afterNode state .decideAfterEvaluation = .ok (some node)) ∧
      (state.route = some (decideAfterComparison state decision) →
        ∃ node, afterNode state .decideAfterComparison = .ok (some node)) := by
  constructor
  · intro hroute
    have hne := decideAfterEvaluation_ne_retry state evaluation
    simp only [afterNode, hroute, followRoute]
    cases hselected : decideAfterEvaluation state evaluation with
    | retry => exact absurd hselected hne
    | accept => exact ⟨_, rfl⟩
    | revise => exact ⟨_, rfl⟩
    | humanReview => exact ⟨_, rfl⟩
    | fail => exact ⟨_, rfl⟩
  · intro hroute
    have hne := decideAfterComparison_ne_revise state decision
    simp only [afterNode, hroute, followRoute]
    cases hselected : decideAfterComparison state decision with
    | revise => exact absurd hselected hne
    | accept => exact ⟨_, rfl⟩
    | humanReview => exact ⟨_, rfl⟩
    | fail => exact ⟨_, rfl⟩
    | retry => exact ⟨_, rfl⟩

end StoryForge
