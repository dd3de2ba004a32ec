import StoryForge.Library.Program
import StoryForge.Library.Rows
import StoryForge.Reliability.Idempotency
import StoryForge.Usage.Budget

/-!
# `GovernedLLMProvider.generate`

The governed entry to every model. A call claims the idempotency record of its request,
walks the candidate models of its route and retries each a bounded number of times; an
attempt passes the circuit breaker, the workflow ceilings and the project budget, opens an
audit row, calls the provider and then closes the row, settles the reservation, reports to
the breaker and closes the idempotency record. Each of these commits on its own. Whatever
raises inside an attempt lands in one handler, which releases the reservation and closes
the row as failed.

Everything outside the database is decided by an `Environment`: whether the deadline has
passed, what the limiter, the provider and the breaker do, and whether a transaction fails
to commit. `none` stands for a step that goes through.

The log of a call is history: the program writes it and never reads it.
-/

namespace StoryForge

/-! ### Requests and configuration -/

/-- Client-selectable model profiles. -/
inductive ModelProfile
  | offline
  | economy
  | balanced
  | quality
  deriving DecidableEq, Repr

/-- Data-egress policy applied before provider calls. -/
inductive PrivacyPolicy
  | offline
  | strict
  | standard
  deriving DecidableEq, Repr

/-- A rendered prompt; a message is a role and a content. -/
structure PromptRequest where
  promptName : String
  promptVersion : String
  messages : List (String × String)
  deriving DecidableEq, Repr

/-- Validated provider output; `output` is its JSON text. -/
structure LLMResponse where
  output : String
  provider : String
  model : String
  promptName : String
  attempts : ℕ
  usage : Option TokenUsage
  requestId : Option String
  deriving DecidableEq, Repr

/-- Small business identifiers of a call. -/
structure ProviderCallContext where
  projectId : Option ℕ
  workflowRunId : Option ℕ
  chapterId : Option ℕ
  chapterVersionId : Option ℕ
  idempotencyScope : Option String
  profile : ModelProfile
  privacyPolicy : PrivacyPolicy
  deriving DecidableEq, Repr

/-- What an idempotency key is the digest of. -/
structure RequestIdentity where
  project : Option ℕ
  workflow : Option ℕ
  chapter : Option ℕ
  version : Option ℕ
  scope : Option String
  task : String
  profile : ModelProfile
  requestHash : String
  deriving DecidableEq, Repr

/-- The predefined route of a task: the models to try in order. -/
structure ModelRoute where
  task : String
  candidates : List ModelReference
  maxOutputTokens : ℕ

/-- A provider instance. `route` is the router applied to the task of a prompt, which has
looked every candidate up in the registry; `available` tells which providers have a
runtime. -/
structure Gateway where
  settings : Settings
  context : ProviderCallContext
  route : String → Except Error ModelRoute
  capability : ModelReference → ModelCapability
  available : ModelReference → Bool
  maxRetries : ℕ
  hashRequest : PromptRequest → String
  hashIdentity : RequestIdentity → String
  hashOutput : String → String

/-! ### The environment -/

/-- What the outside does to one attempt. -/
structure AttemptEnv where
  deadlinePassed : Bool := false
  beforeCall : Option Error := none
  checkWorkflow : Option Error := none
  openBudget : Option Error := none
  reserve : Option Error := none
  startCall : Option Error := none
  acquire : Option Error := none
  provider : Except Error LLMResponse
  latencyMs : ℕ := 0
  finishCall : Option Error := none
  settle : Option Error := none
  recordSuccess : Option Error := none
  succeed : Option Error := none
  release : Option Error := none
  startFailedCall : Option Error := none
  finishFailedCall : Option Error := none
  recordFailure : Option Error := none
  sleep : Option Error := none

/-- What the outside does to a call. -/
structure Environment where
  claim : Option Error := none
  attempt : ℕ → AttemptEnv
  fail : Option Error := none

/-! ### State -/

/-- The history of one attempt: what it reserved, how often that was given back, what the
provider answered, and whether its row was closed as succeeded and at what cost. -/
structure AttemptTrace where
  attempt : ℕ
  fallbackIndex : ℕ
  reserved : Amount := 0
  settles : ℕ := 0
  releases : ℕ := 0
  responded : Option LLMResponse := none
  completed : Bool := false
  cost : Amount := 0
  deriving DecidableEq, Repr

/-- The database, the cache of the provider instance, and the history of the call, newest
attempt first. -/
structure CallState where
  db : UsageDatabase
  cache : String → Option LLMResponse
  log : List AttemptTrace

/-- Code of a call. -/
abbrev Call := Program CallState Error

namespace Call

/-- A committed transaction, unless it raises or the outside makes it fail. -/
def transaction {α : Type} (fault : Option Error)
    (run : UsageDatabase → Except Error (α × UsageDatabase)) : Call α :=
  .act fun g =>
    match fault with
    | some e => (.error e, g)
    | none =>
        match run g.db with
        | .ok (a, db) => (.ok a, { g with db })
        | .error e => (.error e, g)

/-- Write history of the attempt in progress. -/
def note (f : AttemptTrace → AttemptTrace) : Call Unit :=
  .update fun g => { g with log := g.log.modifyHead f }

end Call

/-! ### Errors -/

namespace RetryPolicy

/-- `retryable`. -/
def retryable : Error → Bool
  | .llmError .timeout _ _ | .llmError .rateLimit _ _ | .llmError .service _ _ => true
  | _ => false

end RetryPolicy

/-- `_status_for_error`. -/
def statusForError : Error → ProviderCallStatus
  | .budgetBlockedError _ => .budgetBlocked
  | .providerRateLimitError _ | .llmError .rateLimit _ _ => .rateLimited
  | .llmError .timeout _ _ => .timedOut
  | .circuitOpenError _ => .circuitOpen
  | _ => .failed

/-- The failures the breaker counts. -/
def breakerFailure : Error → Bool
  | .llmError .timeout _ _ | .llmError .service _ _ => true
  | _ => false

/-- The errors that end the walk over the candidates. -/
def stopsFallback : Error → Bool
  | .llmError .authentication _ _ | .llmError .refusal _ _ => true
  | .budgetBlockedError _ | .privacyPolicyError _ => true
  | _ => false

/-! ### Audit rows -/

/-- A new audit row. -/
def newProviderCall (context : ProviderCallContext) (workflowRunId : Option ℕ)
    (reference : ModelReference) (key : String) (attempt fallbackIndex : ℕ) : ProviderCall where
  projectId := context.projectId
  workflowRunId := workflowRunId
  reference := reference
  idempotencyKey := key
  status := .running
  attempt := attempt
  fallbackIndex := fallbackIndex
  inputTokens := 0
  outputTokens := 0
  cachedInputTokens := 0
  totalTokens := 0
  usageSource := .unknown
  estimatedCost := none
  latencyMs := 0
  providerRequestId := none
  errorCode := none

/-- Whether two rows have the same identity. -/
def ProviderCall.sameIdentity (row other : ProviderCall) : Bool :=
  row.idempotencyKey == other.idempotencyKey && row.attempt == other.attempt &&
    row.fallbackIndex == other.fallbackIndex

/-- `_start_call`: insert an audit row. -/
def insertCall (row : ProviderCall) (db : UsageDatabase) : Except Error (ℕ × UsageDatabase) :=
  if row.projectId.any fun id => db.projects[id]?.isNone then
    .error (.integrityError "fk_provider_calls_project_id_projects")
  else if row.workflowRunId.any fun id => db.workflowRuns[id]?.isNone then
    .error (.integrityError "fk_provider_calls_workflow_run_id_workflow_runs")
  else if db.providerCalls.any row.sameIdentity then
    .error (.integrityError "provider_call_attempt_identity")
  else
    .ok (db.providerCalls.length, { db with providerCalls := db.providerCalls ++ [row] })

/-- How an attempt ended, as its audit row records it. -/
structure CallEnd where
  status : ProviderCallStatus
  usage : Option TokenUsage
  estimatedCost : Option Amount
  latencyMs : ℕ
  requestId : Option String
  errorCode : Option String

/-- The end of a failed attempt. -/
def CallEnd.failure (e : Error) : CallEnd :=
  ⟨statusForError e, none, none, 0, none, some e.className⟩

/-- The columns `_finish_call` writes: without a usage, token and cost columns stay. -/
def ProviderCall.close (row : ProviderCall) (result : CallEnd) : ProviderCall :=
  let row :=
    { row with
      status := result.status
      latencyMs := result.latencyMs
      providerRequestId := result.requestId
      errorCode := result.errorCode }
  match result.usage with
  | none => row
  | some usage =>
      { row with
        inputTokens := usage.inputTokens
        outputTokens := usage.outputTokens
        cachedInputTokens := usage.cachedInputTokens
        totalTokens := usage.totalTokens
        usageSource := usage.source
        estimatedCost := result.estimatedCost }

/-- The counters `_finish_call` adds to. -/
def WorkflowUsage.add (workflow : WorkflowUsage) (row : ProviderCall) (result : CallEnd) :
    WorkflowUsage :=
  { workflow with
    providerCallCount := workflow.providerCallCount + 1
    providerInputTokens :=
      workflow.providerInputTokens + (result.usage.map (·.inputTokens)).getD 0
    providerOutputTokens :=
      workflow.providerOutputTokens + (result.usage.map (·.outputTokens)).getD 0
    providerEstimatedCost := workflow.providerEstimatedCost + result.estimatedCost.getD 0
    providerFallbackCount := workflow.providerFallbackCount + if row.fallbackIndex > 0 then 1 else 0
    providerRateLimitCount :=
      workflow.providerRateLimitCount + if result.status = .rateLimited then 1 else 0 }

/-- `_finish_call`: close an audit row and count it for its workflow run. -/
def closeCall (callId : ℕ) (result : CallEnd) (db : UsageDatabase) :
    Except Error (Unit × UsageDatabase) :=
  match db.providerCalls[callId]? with
  | none => .error (.runtimeError "Provider call audit row disappeared")
  | some row =>
      .ok ((), { db with
        providerCalls := db.providerCalls.set callId (row.close result)
        workflowRuns :=
          match row.workflowRunId with
          | none => db.workflowRuns
          | some runId => db.workflowRuns.modify runId (·.add row result) })

/-! ### Preflight -/

/-- What is known of a call before it is made: the text sent, and its estimated tokens and
price. -/
structure Preflight where
  inputText : String
  tokens : ℕ
  price : PriceEstimate

/-- `ProviderDataPolicy.prepare`: the contents sent to a candidate. -/
def prepare (gateway : Gateway) (request : PromptRequest) (external : Bool) :
    Except Error (List String) :=
  let contents := request.messages.map (·.2)
  if gateway.context.privacyPolicy = .offline ∧ external then
    .error (.privacyPolicyError "Offline privacy policy blocks external providers")
  else if gateway.context.privacyPolicy ≠ .strict ∨ external = false then .ok contents
  else .ok (contents.map gateway.settings.redact)

/-- The policy and pricing steps before the attempts on a candidate. -/
def preflight (gateway : Gateway) (route : ModelRoute) (request : PromptRequest)
    (reference : ModelReference) : Except Error Preflight := do
  let capability := gateway.capability reference
  let contents ← prepare gateway request capability.external
  let inputText := "\n".intercalate contents
  let usage :=
    PricingService.estimatedUsage (PricingService.estimateTokens inputText) route.maxOutputTokens
  return ⟨inputText, usage.totalTokens, PricingService.estimate capability usage⟩

/-- `_normalize_usage`. -/
def normalizeUsage (response : LLMResponse) (inputText : String) : TokenUsage :=
  response.usage.getD (PricingService.localUsage inputText response.output)

/-! ### One attempt -/

/-- What is fixed while a call runs. -/
structure CallSite where
  gateway : Gateway
  env : Environment
  request : PromptRequest
  route : ModelRoute
  workflowRunId : Option ℕ
  key : String

/-- What is fixed while an attempt runs. -/
structure Attempt where
  site : CallSite
  reference : ModelReference
  fallbackIndex : ℕ
  preflight : Preflight
  number : ℕ

namespace Attempt

/-- What the outside does to this attempt. -/
def env (a : Attempt) : AttemptEnv := a.site.env.attempt a.number

/-- The audit row of this attempt. -/
def row (a : Attempt) : ProviderCall :=
  newProviderCall a.site.gateway.context a.site.workflowRunId a.reference a.site.key a.number
    a.fallbackIndex

/-- `check_workflow`, a transaction that only reads. -/
def checkWorkflow (a : Attempt) : Call Unit :=
  .transaction a.env.checkWorkflow fun db => do
    BudgetService.checkWorkflow a.site.gateway.settings a.site.workflowRunId
      a.preflight.price.amount a.preflight.tokens db
    return ((), db)

/-- `reserve`, for calls of a project. -/
def reserve (a : Attempt) : Call Amount :=
  match a.site.gateway.context.projectId with
  | none => pure 0
  | some projectId => do
      let cost ← .ofExcept
        (BudgetService.knownCost a.site.gateway.settings a.preflight.price.amount)
      let _ ← .transaction a.env.openBudget
        (BudgetService.getOrCreate a.site.gateway.settings projectId)
      let decision ← .transaction a.env.reserve (BudgetService.reserveLocked projectId cost)
      Call.note ({ · with reserved := decision.reservedAmount })
      return decision.reservedAmount

/-- Call the provider under the limiter. -/
def callProvider (a : Attempt) : Call LLMResponse := do
  .raising a.env.acquire
  let response ← .ofExcept a.env.provider
  Call.note ({ · with responded := some response })
  return response

/-- Close the row of a response as succeeded; the cost is that of the usage reported. -/
def closeSucceeded (a : Attempt) (callId : ℕ) (response : LLMResponse) : Call (Option Amount) := do
  let usage := normalizeUsage response a.preflight.inputText
  let price := PricingService.estimate (a.site.gateway.capability a.reference) usage
  .transaction a.env.finishCall
    (closeCall callId
      ⟨.succeeded, some usage, price.amount, a.env.latencyMs, response.requestId, none⟩)
  Call.note ({ · with completed := true, cost := price.amount.getD 0 })
  return price.amount

/-- `settle`, for calls of a project. -/
def settle (a : Attempt) (reserved : Amount) (cost : Option Amount) : Call Unit :=
  match a.site.gateway.context.projectId with
  | none => pure ()
  | some projectId => do
      .transaction a.env.settle fun db =>
        .ok ((), BudgetService.settle projectId reserved cost none db)
      Call.note fun t => { t with settles := t.settles + 1 }

/-- The response a caller gets. -/
def govern (a : Attempt) (response : LLMResponse) : LLMResponse :=
  { response with
    provider := a.reference.provider
    model := a.reference.model
    attempts := a.number }

/-- From the provider call on: the part of an attempt that has an audit row. -/
def complete (a : Attempt) (reserved : Amount) (callId : ℕ) : Call LLMResponse := do
  let response ← a.callProvider
  let cost ← a.closeSucceeded callId response
  a.settle reserved cost
  .raising a.env.recordSuccess
  .transaction a.env.succeed
    (IdempotencyService.succeed a.site.key callId (a.site.gateway.hashOutput response.output))
  let governed := a.govern response
  .update fun g => { g with cache := Function.update g.cache a.site.key (some governed) }
  return governed

/-- What the handler of an attempt finds in its local variables. -/
structure Failure where
  reserved : Amount
  callId : Option ℕ
  error : Error

/-- The `try` body of an attempt. -/
def body (a : Attempt) : Program CallState Failure LLMResponse := do
  Program.tag (Failure.mk 0 none) (.raising a.env.beforeCall)
  Program.tag (Failure.mk 0 none) a.checkWorkflow
  let reserved ← Program.tag (Failure.mk 0 none) a.reserve
  let callId ← Program.tag (Failure.mk reserved none)
    (Call.transaction a.env.startCall (insertCall a.row))
  Program.tag (Failure.mk reserved (some callId)) (a.complete reserved callId)

/-- `release`, when something was reserved. -/
def release (a : Attempt) (reserved : Amount) : Call Unit :=
  match a.site.gateway.context.projectId with
  | none => pure ()
  | some projectId =>
      if reserved = 0 then pure ()
      else do
        .transaction a.env.release fun db =>
          .ok ((), BudgetService.release projectId reserved db)
        Call.note fun t => { t with releases := t.releases + 1 }

/-- The row the handler closes: that of the attempt, or a new one. -/
def failedCallId (a : Attempt) (callId : Option ℕ) : Call ℕ :=
  match callId with
  | some callId => pure callId
  | none => .transaction a.env.startFailedCall (insertCall a.row)

/-- The `except` branch of an attempt, up to the decision to retry. -/
def handle (a : Attempt) (failure : Failure) : Call Unit := do
  a.release failure.reserved
  let callId ← a.failedCallId failure.callId
  .transaction a.env.finishFailedCall (closeCall callId (.failure failure.error))
  .raising (if breakerFailure failure.error then a.env.recordFailure else none)

/-- One attempt: the response, or the exception its handler dealt with. -/
def run (a : Attempt) : Call (Except Error LLMResponse) := do
  .update fun g =>
    { g with log := { attempt := a.number, fallbackIndex := a.fallbackIndex } :: g.log }
  Program.rescue (do return .ok (← a.body)) fun failure => do
    a.handle failure
    return .error failure.error

end Attempt

/-! ### Retries and fallbacks -/

/-- How the attempts end: with a response, or with the last error and the number of the
last attempt. -/
inductive Ending
  | returned (response : LLMResponse)
  | exhausted (error : Option Error) (attempt : ℕ)

namespace CallSite

variable (site : CallSite)

/-- The attempts on one candidate: at most `retries` after the first. -/
def attempts (reference : ModelReference) (fallbackIndex : ℕ) (preflight : Preflight) :
    ℕ → ℕ → Call Ending
  | retries, attempt =>
      if (site.env.attempt (attempt + 1)).deadlinePassed then
        pure (.exhausted
          (some (.llmError .timeout "Provider total deadline was exhausted" (attempt + 1)))
          (attempt + 1))
      else do
        match ← (Attempt.mk site reference fallbackIndex preflight (attempt + 1)).run with
        | .ok response => return .returned response
        | .error e =>
            match retries with
            | 0 => return .exhausted (some e) (attempt + 1)
            | retries + 1 =>
                if RetryPolicy.retryable e then do
                  .raising (site.env.attempt (attempt + 1)).sleep
                  attempts reference fallbackIndex preflight retries (attempt + 1)
                else return .exhausted (some e) (attempt + 1)

/-- The audit of a candidate that policy or pricing refused. -/
def auditRefusal (reference : ModelReference) (fallbackIndex attempt : ℕ) (e : Error) :
    Call Unit := do
  .update fun g => { g with log := { attempt, fallbackIndex } :: g.log }
  let callId ← .transaction (site.env.attempt attempt).startFailedCall
    (insertCall (newProviderCall site.gateway.context site.workflowRunId reference site.key
      attempt fallbackIndex))
  .transaction (site.env.attempt attempt).finishFailedCall (closeCall callId (.failure e))

/-- The walk over the candidates. -/
def candidates : List ModelReference → ℕ → ℕ → Option Error → Call Ending
  | [], _, attempt, error => pure (.exhausted error attempt)
  | reference :: rest, fallbackIndex, attempt, _ =>
      if site.gateway.available reference = false then
        candidates rest (fallbackIndex + 1) attempt
          (some (.llmError .service "Registered provider runtime is unavailable" (max 1 attempt)))
      else
        match preflight site.gateway site.route site.request reference with
        | .error e => do
            site.auditRefusal reference fallbackIndex (attempt + 1) e
            return .exhausted (some e) (attempt + 1)
        | .ok preflight => do
            match ← site.attempts reference fallbackIndex preflight site.gateway.maxRetries
              attempt with
            | .returned response => return .returned response
            | .exhausted error attempt =>
                if error.any stopsFallback then return .exhausted error attempt
                else candidates rest (fallbackIndex + 1) attempt error

/-- Everything after the claim. -/
def serve : Call LLMResponse := do
  match ← site.candidates site.route.candidates 0 0 none with
  | .returned response => return response
  | .exhausted error attempt => do
      .transaction site.env.fail
        (IdempotencyService.fail site.key ((error.map (·.className)).getD "provider_failed"))
      throw (error.getD
        (.llmError .provider "All registered providers failed" (max 1 attempt)))

end CallSite

namespace Gateway

variable (gateway : Gateway)

/-- `_effective_workflow_run_id`: the run of the context, or the latest active run of its
chapter. -/
def effectiveWorkflowRunId (db : UsageDatabase) : Option ℕ :=
  match gateway.context.workflowRunId, gateway.context.projectId, gateway.context.chapterId with
  | some runId, _, _ => some runId
  | none, some projectId, some chapterId =>
      (Rows.idsWhere db.workflowRuns fun run =>
        run.projectId == projectId && run.chapterId == chapterId &&
          decide (run.status ∈ [.pending, .running, .paused])).getLast?
  | none, _, _ => none

/-- `_idempotency_key`. -/
def idempotencyKey (request : PromptRequest) (route : ModelRoute) (workflowRunId : Option ℕ) :
    String :=
  gateway.hashIdentity
    { project := gateway.context.projectId
      workflow := workflowRunId
      chapter := gateway.context.chapterId
      version := gateway.context.chapterVersionId
      scope := gateway.context.idempotencyScope
      task := route.task
      profile := gateway.context.profile
      requestHash := gateway.hashRequest request }

/-- The site of a call. -/
def site (env : Environment) (request : PromptRequest) (route : ModelRoute)
    (db : UsageDatabase) : CallSite where
  gateway := gateway
  env := env
  request := request
  route := route
  workflowRunId := gateway.effectiveWorkflowRunId db
  key := gateway.idempotencyKey request route (gateway.effectiveWorkflowRunId db)

/-- Claim the record of a request and serve it. -/
def claimThenServe (site : CallSite) : Call LLMResponse := do
  let replay ← .transaction site.env.claim (IdempotencyService.claim site.key)
  if replay then
    throw (.idempotencyConflictError
      "Completed provider result must be reused through its persisted domain artifact")
  else site.serve

/-- `generate`, run in a state with an empty log. -/
def generate (env : Environment) (request : PromptRequest) (g : CallState) :
    Except Error LLMResponse × CallState :=
  match gateway.route request.promptName with
  | .error e => (.error e, { g with log := [] })
  | .ok route =>
      let site := gateway.site env request route g.db
      match g.cache site.key with
      | some cached => (.ok { cached with promptName := request.promptName }, { g with log := [] })
      | none => (claimThenServe site).exec { g with log := [] }

end Gateway

/-! ### An instance -/

/-- A priced model without egress. -/
def ModelCapability.sample : ModelCapability where
  inputCostPerMillion := some 1
  outputCostPerMillion := some 2
  cachedInputCostPerMillion := none
  external := false
  input_nonneg := by simp
  output_nonneg := by simp
  cached_nonneg := by simp

/-- A route of one model, tried once, called for the first workflow run of a project. -/
def Gateway.sample : Gateway where
  settings := Settings.defaults
  context := ⟨some 0, some 0, none, none, none, .balanced, .standard⟩
  route task := .ok ⟨task, [⟨"local", "model"⟩], 100⟩
  capability _ := .sample
  available _ := true
  maxRetries := 0
  hashRequest request := request.promptName
  hashIdentity identity := identity.task ++ ":" ++ identity.requestHash
  hashOutput output := output

/-- A request without text. -/
def PromptRequest.sample : PromptRequest := ⟨"draft", "1", []⟩

/-- An answer of a hundred tokens. -/
def LLMResponse.sample : LLMResponse where
  output := "{}"
  provider := "local"
  model := "model"
  promptName := "draft"
  attempts := 1
  usage := some ⟨40, 60, 0, 100, .providerReported, rfl, by decide⟩
  requestId := none

/-- The provider answers and every other step goes through. -/
def AttemptEnv.answering : AttemptEnv := { provider := .ok .sample }

/-- A project with a running workflow run and no calls. -/
def CallState.sample : CallState where
  db :=
    { projects := [⟨"project"⟩]
      workflowRuns := [⟨0, 0, .running, 0, 0, 0, 0, 0, 0⟩]
      projectBudgets := fun _ => none
      providerCalls := []
      idempotencyRecords := fun _ => none }
  cache := fun _ => none
  log := []

end StoryForge
