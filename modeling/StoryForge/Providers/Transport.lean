import Mathlib.Algebra.BigOperators.Group.List.Basic
import Mathlib.Algebra.Order.Ring.Rat
import Mathlib.Tactic.Linarith
import Mathlib.Tactic.Positivity
import StoryForge.Library.Rounds
import StoryForge.Providers.Walk

/-!
# `OpenAICompatibleProvider.generate`

The provider behind a governed call sends requests to an endpoint: it waits and sends again
after a failure of the transport, and asks again, with an instruction, after an answer that
does not match the schema. The two kinds of retries have limits of their own.

The endpoint is decided from outside and may answer every request as it likes; so may the
sleeper. What was sent, what came back and how long was waited is history.

## Main results

* `OpenAICompatibleProvider.round_spec` — what an iteration of the loop does;
* `OpenAICompatibleProvider.generate_settled` — all exchanges but the last are retried, no more
  than the limits allow, and the last one decides the result;
* `OpenAICompatibleProvider.generate_sent` — every request carries the prompt and one instruction
  for each answer before it that did not match;
* `OpenAICompatibleProvider.generate_delays` — how long is waited in all.
-/

namespace StoryForge

/-! ### Configuration -/

/-- How JSON is asked for; `auto` chooses by the endpoint. -/
inductive StructuredOutputMode
  | auto
  | jsonSchema
  | jsonObject
  deriving DecidableEq, Repr

/-- Validated configuration for one endpoint; `host` is the host of its address, case-folded. -/
structure OpenAICompatibleConfig where
  model : String
  host : String
  maxRetries : ℕ := 2
  repairRetries : ℕ := 1
  retryBaseDelaySeconds : ℚ := 1 / 2
  structuredOutputMode : StructuredOutputMode := .auto
  maxOutputTokens : ℕ := 8192
  providerName : String := "openai-compatible"
  retryBaseDelay_nonneg : 0 ≤ retryBaseDelaySeconds

/-- The default limits. -/
def OpenAICompatibleConfig.sample : OpenAICompatibleConfig where
  model := "model"
  host := "localhost"
  retryBaseDelay_nonneg := by norm_num

/-- `_structured_output_mode`. -/
def OpenAICompatibleConfig.mode (config : OpenAICompatibleConfig) : StructuredOutputMode :=
  if config.structuredOutputMode ≠ .auto then config.structuredOutputMode
  else if config.host = "api.deepseek.com" then .jsonObject
  else .jsonSchema

/-- `STRUCTURED_OUTPUT_REPAIR_INSTRUCTION`. -/
def structuredOutputRepairInstruction : String :=
  "The previous response did not match the required JSON schema. " ++
    "Return only a valid response that strictly matches that schema."

/-- The message that asks for a repair. -/
def repairMessage : String × String := ("system", structuredOutputRepairInstruction)

/-! ### The endpoint -/

/-- What a request carries; `jsonSchema` stands for the schema of the response model. -/
structure ChatRequest where
  model : String
  messages : List (String × String)
  responseFormat : StructuredOutputMode
  maxTokens : ℕ
  deriving DecidableEq, Repr

/-- The usage an endpoint reports; a count that is missing is zero. -/
structure CompletionUsage where
  promptTokens : ℤ
  completionTokens : ℤ
  totalTokens : ℤ
  cachedTokens : ℤ
  promptCacheHitTokens : ℤ
  deriving DecidableEq, Repr

/-- The message of a choice; `J` is decoded JSON. -/
structure ChatMessage (J : Type) where
  refusal : Option String
  parsed : Option J
  content : Option String

/-- The answer of an endpoint. -/
structure ChatCompletion (J : Type) where
  choices : List (ChatMessage J)
  model : String
  requestId : Option String
  id : String
  usage : Option CompletionUsage

/-- What `_request` can raise: its own two exceptions, those of the client by status, those of
decoding and validation, and any other. `normalized` is the case-folded text of an error. -/
inductive RequestFailure
  | llmRefusal (message : String)
  | llmInvalidResponse (message : String)
  | contentFilterFinishReason
  | apiTimeout
  | authentication (statusCode : ℕ)
  | permissionDenied (statusCode : ℕ)
  | rateLimit (statusCode : ℕ) (retryAfterHeader : Option String)
  | apiStatus (statusCode : ℕ) (normalized : String)
  | apiConnection
  | jsonDecode
  | validation
  | lengthFinishReason
  | openAI
  | exception
  deriving DecidableEq, Repr

/-- Everything outside: what the endpoint answers to its `n`-th request, `json.loads`, the
validation of the response model (the output by its JSON text), `float`, none where it raises,
and whether the sleeper raises when it is asked for a delay after the `n`-th request. -/
structure Endpoint (J : Type) where
  answer : ℕ → ChatRequest → Except RequestFailure (ChatCompletion J)
  loads : String → Except RequestFailure J
  modelValidate : J → Except RequestFailure String
  float : String → Option ℚ
  sleepRaises : ℕ → ℚ → Bool

/-- What `generate` raises. -/
structure ProviderFailure where
  kind : LLMErrorKind
  message : String
  attempts : ℕ
  statusCode : Option ℕ := none
  retryAfter : Option ℚ := none
  deriving DecidableEq, Repr

/-- The exception. -/
def ProviderFailure.toError (failure : ProviderFailure) : Error :=
  .llmError failure.kind failure.message failure.attempts

/-- A request, and what came of it. -/
structure Exchange where
  request : ChatRequest
  outcome : Except RequestFailure LLMResponse

/-- The local variables of `generate`, and its history, oldest first. -/
structure Conversation where
  messages : List (String × String)
  transportRetries : ℕ := 0
  repairRetries : ℕ := 0
  exchanges : List Exchange := []
  delays : List ℚ := []

/-- The result of `generate` and its history. -/
structure Generated where
  result : Except ProviderFailure LLMResponse
  exchanges : List Exchange
  delays : List ℚ

namespace OpenAICompatibleProvider

/-! ### One request -/

/-- `TokenUsage`, none where its validation raises. -/
def tokenUsage (inputTokens outputTokens totalTokens cachedInputTokens : ℤ) :
    Option TokenUsage :=
  if h : 0 ≤ inputTokens ∧ 0 ≤ outputTokens ∧ 0 ≤ cachedInputTokens ∧
      totalTokens = inputTokens + outputTokens ∧ cachedInputTokens ≤ inputTokens then
    some
      { inputTokens := inputTokens.toNat
        outputTokens := outputTokens.toNat
        cachedInputTokens := cachedInputTokens.toNat
        totalTokens := totalTokens.toNat
        source := .providerReported
        total := by omega
        cached_le := by omega }
  else none

/-- `_cached_tokens`. -/
def cachedTokens (usage : CompletionUsage) : ℤ :=
  if usage.cachedTokens = 0 then usage.promptCacheHitTokens else usage.cachedTokens

/-- The usage of an answer; a `ValueError` of its validation is none of the client's. -/
def usageOf (completion : Option CompletionUsage) :
    Except RequestFailure (Option TokenUsage) :=
  match completion with
  | none => .ok none
  | some usage =>
      match tokenUsage usage.promptTokens usage.completionTokens usage.totalTokens
        (cachedTokens usage) with
      | some usage => .ok (some usage)
      | none => .error .exception

/-- The output of the first choice. -/
def outputOf {J : Type} (endpoint : Endpoint J) (message : ChatMessage J) :
    Except RequestFailure String := do
  let parsed ←
    match message.parsed with
    | some parsed => pure parsed
    | none =>
        match message.content with
        | none | some "" =>
            throw (.llmInvalidResponse "LLM response contained no structured output")
        | some content => endpoint.loads content
  endpoint.modelValidate parsed

/-- `_request`, from the answer on. -/
def respond {J : Type} (config : OpenAICompatibleConfig) (endpoint : Endpoint J)
    (promptName : String) (attempts : ℕ) (completion : ChatCompletion J) :
    Except RequestFailure LLMResponse := do
  match completion.choices with
  | [] => throw (.llmInvalidResponse "LLM response contained no choices")
  | message :: _ =>
      if message.refusal.any (· ≠ "") then
        throw (.llmRefusal "LLM provider refused the request")
      let output ← outputOf endpoint message
      let usage ← usageOf completion.usage
      return {
        output := output
        provider := config.providerName
        model := completion.model
        promptName := promptName
        attempts := attempts
        usage := usage
        requestId := some ((completion.requestId.filter (· ≠ "")).getD completion.id) }

/-- The request for some messages. -/
def chatRequest (config : OpenAICompatibleConfig) (messages : List (String × String)) :
    ChatRequest :=
  ⟨config.model, messages, config.mode, config.maxOutputTokens⟩

/-- `_request`, sent as request number `attempts`. -/
def exchange {J : Type} (config : OpenAICompatibleConfig) (endpoint : Endpoint J)
    (promptName : String) (attempts : ℕ) (messages : List (String × String)) : Exchange where
  request := chatRequest config messages
  outcome :=
    endpoint.answer attempts (chatRequest config messages) >>=
      respond config endpoint promptName attempts

/-! ### What is done about a failure -/

/-- `_is_retryable_status`. -/
def isRetryableStatus (statusCode : ℕ) : Bool :=
  statusCode ∈ [408, 409, 425, 429] ∨ statusCode ≥ 500

/-- The texts `_is_context_length_error` looks for. -/
def contextLengthMarkers : List String :=
  ["context_length", "context window", "maximum context", "too many tokens"]

/-- `_is_context_length_error`. -/
def isContextLengthError (statusCode : ℕ) (normalized : String) : Bool :=
  statusCode ∈ [400, 413] ∧
    contextLengthMarkers.any fun marker => marker.toList <:+: normalized.toList

/-- `_retry_after`. -/
def retryAfter (float : String → Option ℚ) (header : Option String) : Option ℚ :=
  (header.bind float).map (max 0)

/-- What a clause of the handler does: raise, ask for a repair, or wait. -/
inductive Reaction
  | raise (failure : ProviderFailure)
  | repair
  | backoff (retryAfter : Option ℚ)

/-- The clauses that retry the transport, until `exhausted` is raised. -/
def retryTransport (config : OpenAICompatibleConfig) (transportRetries : ℕ)
    (retryAfter : Option ℚ) (exhausted : ProviderFailure) : Reaction :=
  if transportRetries ≥ config.maxRetries then .raise exhausted else .backoff retryAfter

/-- The clauses that ask for a repair, until a last one raises. -/
def retryRepair (config : OpenAICompatibleConfig) (repairRetries attempts : ℕ) : Reaction :=
  if repairRetries ≥ config.repairRetries then
    .raise ⟨.invalidResponse, "LLM response did not match the required schema", attempts, none, none⟩
  else .repair

/-- The `except` clauses of `generate`. -/
def react (config : OpenAICompatibleConfig) (float : String → Option ℚ)
    (transportRetries repairRetries attempts : ℕ) : RequestFailure → Reaction
  | .llmRefusal message => .raise ⟨.refusal, message, attempts, none, none⟩
  | .llmInvalidResponse _ => retryRepair config repairRetries attempts
  | .contentFilterFinishReason =>
      .raise ⟨.refusal, "LLM provider filtered the response", attempts, none, none⟩
  | .apiTimeout =>
      retryTransport config transportRetries none
        ⟨.timeout, "LLM request timed out", attempts, none, none⟩
  | .authentication statusCode | .permissionDenied statusCode =>
      .raise ⟨.authentication, "LLM provider rejected the configured credentials", attempts,
        some statusCode, none⟩
  | .rateLimit statusCode header =>
      retryTransport config transportRetries (retryAfter float header)
        ⟨.rateLimit, "LLM provider rate limit retries exhausted", attempts, some statusCode,
          retryAfter float header⟩
  | .apiStatus statusCode normalized =>
      if isContextLengthError statusCode normalized then
        .raise ⟨.contextLength, "LLM provider context length was exceeded", attempts,
          some statusCode, none⟩
      else if isRetryableStatus statusCode then
        retryTransport config transportRetries none
          ⟨.service, "LLM provider returned a non-success status", attempts, some statusCode, none⟩
      else
        .raise ⟨.service, "LLM provider returned a non-success status", attempts,
          some statusCode, none⟩
  | .apiConnection =>
      retryTransport config transportRetries none
        ⟨.service, "LLM provider connection retries exhausted", attempts, none, none⟩
  | .jsonDecode | .validation | .lengthFinishReason => retryRepair config repairRetries attempts
  | .openAI => .raise ⟨.service, "LLM provider call failed", attempts, none, none⟩
  | .exception => .raise ⟨.provider, "Unexpected LLM provider failure", attempts, none, none⟩

/-- The delay of `_backoff`. -/
def backoffDelay (config : OpenAICompatibleConfig) (retryIndex : ℕ) (retryAfter : Option ℚ) : ℚ :=
  retryAfter.getD (config.retryBaseDelaySeconds * 2 ^ retryIndex)

/-! ### The loop -/

section Loop

variable {J : Type} (config : OpenAICompatibleConfig) (endpoint : Endpoint J) (promptName : String)

/-- One iteration. -/
def round (s : Conversation) : Generated ⊕ Conversation :=
  let attempts := s.exchanges.length + 1
  let sent := exchange config endpoint promptName attempts s.messages
  let exchanges := s.exchanges ++ [sent]
  match sent.outcome with
  | .ok response => .inl ⟨.ok response, exchanges, s.delays⟩
  | .error e =>
      match react config endpoint.float s.transportRetries s.repairRetries attempts e with
      | .raise failure => .inl ⟨.error failure, exchanges, s.delays⟩
      | .repair =>
          .inr { s with
            messages := s.messages ++ [repairMessage]
            repairRetries := s.repairRetries + 1
            exchanges := exchanges }
      | .backoff retryAfter =>
          let delay := backoffDelay config s.transportRetries retryAfter
          if endpoint.sleepRaises attempts delay then
            .inl ⟨.error ⟨.provider, "LLM retry scheduling failed", attempts, none, none⟩,
              exchanges, s.delays ++ [delay]⟩
          else
            .inr { s with
              transportRetries := s.transportRetries + 1
              exchanges := exchanges
              delays := s.delays ++ [delay] }

end Loop

/-! ### Failures that are retried -/

/-- The failures the transport is retried after. -/
def transient : RequestFailure → Bool
  | .apiTimeout | .rateLimit _ _ | .apiConnection => true
  | .apiStatus statusCode normalized =>
      !isContextLengthError statusCode normalized && isRetryableStatus statusCode
  | _ => false

/-- The failures a repair is asked for after. -/
def malformed : RequestFailure → Bool
  | .llmInvalidResponse _ | .jsonDecode | .validation | .lengthFinishReason => true
  | _ => false

/-- The delay a failure asks for. -/
def requestedDelay (float : String → Option ℚ) : RequestFailure → Option ℚ
  | .rateLimit _ header => retryAfter float header
  | _ => none

variable {J : Type} {config : OpenAICompatibleConfig} {endpoint : Endpoint J} {promptName : String}
  {float : String → Option ℚ} {transportRetries repairRetries attempts : ℕ} {e : RequestFailure}

/-- The exception a failure becomes when it is not retried. -/
def kindOf : RequestFailure → LLMErrorKind
  | .llmRefusal _ | .contentFilterFinishReason => .refusal
  | .llmInvalidResponse _ | .jsonDecode | .validation | .lengthFinishReason => .invalidResponse
  | .apiTimeout => .timeout
  | .authentication _ | .permissionDenied _ => .authentication
  | .rateLimit _ _ => .rateLimit
  | .apiStatus statusCode normalized =>
      if isContextLengthError statusCode normalized then .contextLength else .service
  | .apiConnection | .openAI => .service
  | .exception => .provider

/-- A failure is retried in one way at most. -/
theorem malformed_eq_false_of_transient (h : transient e = true) : malformed e = false := by
  cases e <;> first | rfl | exact absurd h (by simp [transient])

/-- What a handler may do: raise when the limit of a retry is reached or there is no retry, ask
again after a malformed answer, and wait after a transient failure. -/
inductive Handles (config : OpenAICompatibleConfig) (float : String → Option ℚ)
    (transportRetries repairRetries attempts : ℕ) (e : RequestFailure) : Reaction → Prop
  | raise {failure : ProviderFailure} (hattempts : failure.attempts = attempts)
      (hkind : failure.kind = kindOf e)
      (htransient : transient e = true → config.maxRetries ≤ transportRetries)
      (hmalformed : malformed e = true → config.repairRetries ≤ repairRetries) :
      Handles config float transportRetries repairRetries attempts e (.raise failure)
  | repair (hmalformed : malformed e = true) (hlt : repairRetries < config.repairRetries) :
      Handles config float transportRetries repairRetries attempts e .repair
  | backoff (htransient : transient e = true) (hlt : transportRetries < config.maxRetries) :
      Handles config float transportRetries repairRetries attempts e
        (.backoff (requestedDelay float e))

theorem handles_retryTransport {retryAfter : Option ℚ} {exhausted : ProviderFailure}
    (hattempts : exhausted.attempts = attempts) (hkind : exhausted.kind = kindOf e)
    (htransient : transient e = true) (hdelay : requestedDelay float e = retryAfter) :
    Handles config float transportRetries repairRetries attempts e
      (retryTransport config transportRetries retryAfter exhausted) := by
  rw [retryTransport]
  split
  case isTrue hlimit =>
      refine .raise hattempts hkind (fun _ => hlimit) fun hmalformed => ?_
      rw [malformed_eq_false_of_transient htransient] at hmalformed
      exact absurd hmalformed (by simp)
  case isFalse hlimit =>
      rw [← hdelay]
      exact .backoff htransient (by omega)

theorem handles_retryRepair (hkind : .invalidResponse = kindOf e) (hmalformed : malformed e = true) :
    Handles config float transportRetries repairRetries attempts e
      (retryRepair config repairRetries attempts) := by
  rw [retryRepair]
  split
  case isTrue hlimit =>
      refine .raise rfl hkind (fun htransient => ?_) fun _ => hlimit
      rw [malformed_eq_false_of_transient htransient] at hmalformed
      exact absurd hmalformed (by simp)
  case isFalse hlimit => exact .repair hmalformed (by omega)

/-- **What the handler does** about a failure. -/
theorem handles_react (config : OpenAICompatibleConfig) (float : String → Option ℚ)
    (transportRetries repairRetries attempts : ℕ) (e : RequestFailure) :
    Handles config float transportRetries repairRetries attempts e
      (react config float transportRetries repairRetries attempts e) := by
  cases e with
  | llmRefusal message => exact .raise rfl rfl nofun nofun
  | llmInvalidResponse message => exact handles_retryRepair rfl rfl
  | contentFilterFinishReason => exact .raise rfl rfl nofun nofun
  | apiTimeout => exact handles_retryTransport rfl rfl rfl rfl
  | authentication statusCode => exact .raise rfl rfl nofun nofun
  | permissionDenied statusCode => exact .raise rfl rfl nofun nofun
  | rateLimit statusCode header => exact handles_retryTransport rfl rfl rfl rfl
  | apiStatus statusCode normalized =>
      rw [react]
      split
      case isTrue hcontext =>
          refine .raise rfl (by rw [kindOf, if_pos hcontext]) (fun h => ?_) nofun
          simp [transient, hcontext] at h
      case isFalse hcontext =>
          split
          case isTrue hstatus =>
              exact handles_retryTransport rfl (by rw [kindOf, if_neg hcontext])
                (by simp [transient, hcontext, hstatus]) rfl
          case isFalse hstatus =>
              refine .raise rfl (by rw [kindOf, if_neg hcontext]) (fun h => ?_) nofun
              simp [transient, hstatus] at h
  | apiConnection => exact handles_retryTransport rfl rfl rfl rfl
  | jsonDecode => exact handles_retryRepair rfl rfl
  | validation => exact handles_retryRepair rfl rfl
  | lengthFinishReason => exact handles_retryRepair rfl rfl
  | openAI => exact .raise rfl rfl nofun nofun
  | exception => exact .raise rfl rfl nofun nofun

/-! ### One iteration -/

/-- What the next request comes to. -/
def next (config : OpenAICompatibleConfig) (endpoint : Endpoint J) (promptName : String)
    (s : Conversation) : Exchange :=
  exchange config endpoint promptName (s.exchanges.length + 1) s.messages

/-- The iterations that go on. -/
inductive GoesOn (config : OpenAICompatibleConfig) (endpoint : Endpoint J) (promptName : String)
    (s : Conversation) : Conversation → Prop
  | repair {e : RequestFailure}
      (houtcome : (next config endpoint promptName s).outcome = .error e)
      (hmalformed : malformed e = true) (hlt : s.repairRetries < config.repairRetries) :
      GoesOn config endpoint promptName s
        { s with
          messages := s.messages ++ [repairMessage]
          repairRetries := s.repairRetries + 1
          exchanges := s.exchanges ++ [next config endpoint promptName s] }
  | backoff {e : RequestFailure}
      (houtcome : (next config endpoint promptName s).outcome = .error e)
      (htransient : transient e = true) (hlt : s.transportRetries < config.maxRetries) :
      GoesOn config endpoint promptName s
        { s with
          transportRetries := s.transportRetries + 1
          exchanges := s.exchanges ++ [next config endpoint promptName s]
          delays := s.delays ++
            [backoffDelay config s.transportRetries (requestedDelay endpoint.float e)] }

/-- The iterations that end the loop: with an answer, with a failure, or because the sleeper
raised. -/
inductive Ends (config : OpenAICompatibleConfig) (endpoint : Endpoint J) (promptName : String)
    (s : Conversation) : Generated → Prop
  | answered {response : LLMResponse}
      (houtcome : (next config endpoint promptName s).outcome = .ok response) :
      Ends config endpoint promptName s
        ⟨.ok response, s.exchanges ++ [next config endpoint promptName s], s.delays⟩
  | raised {e : RequestFailure} {failure : ProviderFailure}
      (houtcome : (next config endpoint promptName s).outcome = .error e)
      (hreact : react config endpoint.float s.transportRetries s.repairRetries
        (s.exchanges.length + 1) e = .raise failure) :
      Ends config endpoint promptName s
        ⟨.error failure, s.exchanges ++ [next config endpoint promptName s], s.delays⟩
  | unscheduled {e : RequestFailure}
      (houtcome : (next config endpoint promptName s).outcome = .error e)
      (htransient : transient e = true) (hlt : s.transportRetries < config.maxRetries)
      (hraises : endpoint.sleepRaises (s.exchanges.length + 1)
        (backoffDelay config s.transportRetries (requestedDelay endpoint.float e)) = true) :
      Ends config endpoint promptName s
        ⟨.error ⟨.provider, "LLM retry scheduling failed", s.exchanges.length + 1, none, none⟩,
          s.exchanges ++ [next config endpoint promptName s],
          s.delays ++ [backoffDelay config s.transportRetries (requestedDelay endpoint.float e)]⟩

/-- **What an iteration does.** -/
theorem round_spec (config : OpenAICompatibleConfig) (endpoint : Endpoint J) (promptName : String)
    (s : Conversation) :
    (∃ out, round config endpoint promptName s = .inl out ∧
        Ends config endpoint promptName s out) ∨
      ∃ s', round config endpoint promptName s = .inr s' ∧
        GoesOn config endpoint promptName s s' := by
  have hnext : exchange config endpoint promptName (s.exchanges.length + 1) s.messages =
      next config endpoint promptName s := rfl
  simp only [round, hnext]
  cases houtcome : (next config endpoint promptName s).outcome with
  | ok response => exact .inl ⟨_, rfl, .answered houtcome⟩
  | error e =>
      have hhandles := handles_react config endpoint.float s.transportRetries s.repairRetries
        (s.exchanges.length + 1) e
      dsimp only
      cases hreact : react config endpoint.float s.transportRetries s.repairRetries
        (s.exchanges.length + 1) e with
      | raise failure => exact .inl ⟨_, rfl, .raised houtcome hreact⟩
      | repair =>
          rw [hreact] at hhandles
          cases hhandles with
          | repair hmalformed hlt => exact .inr ⟨_, rfl, .repair houtcome hmalformed hlt⟩
      | backoff retryAfter =>
          rw [hreact] at hhandles
          cases hhandles with
          | backoff htransient hlt =>
              dsimp only
              split
              case isTrue hraises =>
                  exact .inl ⟨_, rfl, .unscheduled houtcome htransient hlt hraises⟩
              case isFalse => exact .inr ⟨_, rfl, .backoff houtcome htransient hlt⟩

/-- Every iteration that goes on uses up a retry of its kind. -/
theorem GoesOn.spare_lt {s s' : Conversation} (h : GoesOn config endpoint promptName s s') :
    config.maxRetries - s'.transportRetries + (config.repairRetries - s'.repairRetries) <
      config.maxRetries - s.transportRetries + (config.repairRetries - s.repairRetries) := by
  cases h with
  | repair _ _ hlt =>
      dsimp only
      omega
  | backoff _ _ hlt =>
      dsimp only
      omega

theorem goesOn_of_round {s s' : Conversation}
    (h : round config endpoint promptName s = .inr s') :
    GoesOn config endpoint promptName s s' := by
  rcases round_spec config endpoint promptName s with
    ⟨out, hout, -⟩ | ⟨s'', hs'', hgoes⟩
  · exact absurd (hout.symm.trans h) (by simp)
  · exact Sum.inr.inj (hs''.symm.trans h) ▸ hgoes

theorem ends_of_round {s : Conversation} {out : Generated}
    (h : round config endpoint promptName s = .inl out) :
    Ends config endpoint promptName s out := by
  rcases round_spec config endpoint promptName s with
    ⟨out', hout, hends⟩ | ⟨s'', hs'', -⟩
  · exact Sum.inl.inj (hout.symm.trans h) ▸ hends
  · exact absurd (hs''.symm.trans h) (by simp)

/-- The loop of `generate`. -/
def loop (config : OpenAICompatibleConfig) (endpoint : Endpoint J) (promptName : String) :
    Rounds Conversation Generated where
  round := round config endpoint promptName
  spare s := config.maxRetries - s.transportRetries + (config.repairRetries - s.repairRetries)
  spare_lt h := (goesOn_of_round h).spare_lt

/-- `generate`. -/
def generate (config : OpenAICompatibleConfig) (endpoint : Endpoint J) (request : PromptRequest) :
    Generated :=
  (loop config endpoint request.promptName).run { messages := request.messages }

end OpenAICompatibleProvider

/-! ### Histories -/

namespace Exchange

open OpenAICompatibleProvider

/-- The failure an exchange ended in. -/
def failure (x : Exchange) : Option RequestFailure :=
  match x.outcome with
  | .ok _ => none
  | .error e => some e

/-- It ended in a failure of the transport. -/
def isTransient (x : Exchange) : Bool := x.failure.any transient

/-- It ended in an answer that does not match. -/
def isMalformed (x : Exchange) : Bool := x.failure.any malformed

/-- The messages sent after a history. -/
def messagesAfter (request : PromptRequest) (history : List Exchange) : List (String × String) :=
  request.messages ++ List.replicate (history.countP isMalformed) repairMessage

/-- The delays after a history: one for each failure of the transport. -/
def delaysAfter (config : OpenAICompatibleConfig) (float : String → Option ℚ)
    (history : List Exchange) : List ℚ :=
  ((history.filter isTransient).zipIdx).map fun row =>
    backoffDelay config row.2 (row.1.failure.bind (requestedDelay float))

/-- The delay that a failed exchange asks for. -/
def requested (float : String → Option ℚ) (x : Exchange) : ℚ :=
  (x.failure.bind (requestedDelay float)).getD 0

variable {x : Exchange} {e : RequestFailure} {history : List Exchange}

theorem failure_of_outcome (h : x.outcome = .error e) : x.failure = some e := by
  simp only [failure, h]

theorem outcome_of_failure (h : x.failure = some e) : x.outcome = .error e := by
  rw [failure] at h
  split at h
  · exact absurd h (by simp)
  · rename_i raised hraised
    rw [hraised, Option.some.inj h]

theorem isTransient_of_outcome (h : x.outcome = .error e) : x.isTransient = transient e := by
  rw [isTransient, failure_of_outcome h, Option.any_some]

theorem isMalformed_of_outcome (h : x.outcome = .error e) : x.isMalformed = malformed e := by
  rw [isMalformed, failure_of_outcome h, Option.any_some]

theorem isMalformed_eq_false_of_isTransient (h : x.isTransient = true) :
    x.isMalformed = false := by
  rw [isTransient, Option.any_eq_true] at h
  obtain ⟨e, he, htransient⟩ := h
  rw [isMalformed, he, Option.any_some]
  exact malformed_eq_false_of_transient htransient

/-- A malformed answer adds an instruction to the messages. -/
theorem messagesAfter_append_malformed (request : PromptRequest) (h : x.isMalformed = true) :
    messagesAfter request (history ++ [x]) = messagesAfter request history ++ [repairMessage] := by
  simp [messagesAfter, List.countP_append, h, List.replicate_succ', List.append_assoc]

/-- Everything else leaves them as they are. -/
theorem messagesAfter_append_of_not (request : PromptRequest) (h : x.isMalformed = false) :
    messagesAfter request (history ++ [x]) = messagesAfter request history := by
  simp [messagesAfter, List.countP_append, h]

/-- A failure of the transport adds a delay. -/
theorem delaysAfter_append_transient (config : OpenAICompatibleConfig) (float : String → Option ℚ)
    (houtcome : x.outcome = .error e) (h : transient e = true) :
    delaysAfter config float (history ++ [x]) = delaysAfter config float history ++
      [backoffDelay config (history.countP isTransient) (requestedDelay float e)] := by
  have hx : x.isTransient = true := (isTransient_of_outcome houtcome).trans h
  simp [delaysAfter, hx, List.zipIdx_append, failure_of_outcome houtcome, List.countP_eq_length_filter]

theorem delaysAfter_append_of_not (config : OpenAICompatibleConfig) (float : String → Option ℚ)
    (h : x.isTransient = false) :
    delaysAfter config float (history ++ [x]) = delaysAfter config float history := by
  simp [delaysAfter, h]

/-- Delays follow one another with the exchanges. -/
theorem delaysAfter_prefix (config : OpenAICompatibleConfig) (float : String → Option ℚ)
    (history rest : List Exchange) :
    delaysAfter config float history <+: delaysAfter config float (history ++ rest) := by
  rw [delaysAfter, delaysAfter, List.filter_append, List.zipIdx_append, List.map_append]
  exact List.prefix_append _ _

theorem length_delaysAfter (config : OpenAICompatibleConfig) (float : String → Option ℚ) :
    (delaysAfter config float history).length = history.countP isTransient := by
  simp [delaysAfter, List.countP_eq_length_filter]

end Exchange

namespace OpenAICompatibleProvider

variable {request : PromptRequest} {s s' : Conversation} {out : Generated}

/-- Every exchange of a history is what its request comes to: the prompt, with an instruction
for each malformed answer before. -/
def Sent (config : OpenAICompatibleConfig) (endpoint : Endpoint J) (request : PromptRequest)
    (history : List Exchange) : Prop :=
  ∀ i (h : i < history.length), history[i] =
    exchange config endpoint request.promptName (i + 1)
      (Exchange.messagesAfter request (history.take i))

theorem Sent.append {history : List Exchange} (h : Sent config endpoint request history) :
    Sent config endpoint request (history ++
      [exchange config endpoint request.promptName (history.length + 1)
        (Exchange.messagesAfter request history)]) := by
  intro i hi
  rcases Nat.lt_or_ge i history.length with hlt | hge
  · rw [List.getElem_append_left hlt, h i hlt, List.take_append_of_le_length (by omega)]
  · have hlength : i = history.length := by
      simp only [List.length_append, List.length_singleton] at hi
      omega
    subst hlength
    rw [List.getElem_append_right (by omega), List.take_left]
    simp

/-- The sense of the local variables: they summarize a history of exchanges that were retried. -/
structure Summarizes (config : OpenAICompatibleConfig) (endpoint : Endpoint J)
    (request : PromptRequest) (s : Conversation) : Prop where
  messages : s.messages = Exchange.messagesAfter request s.exchanges
  transportRetries : s.transportRetries = s.exchanges.countP Exchange.isTransient
  transportRetries_le : s.transportRetries ≤ config.maxRetries
  repairRetries : s.repairRetries = s.exchanges.countP Exchange.isMalformed
  repairRetries_le : s.repairRetries ≤ config.repairRetries
  delays : s.delays = Exchange.delaysAfter config endpoint.float s.exchanges
  retried : ∀ x ∈ s.exchanges, x.isTransient = true ∨ x.isMalformed = true
  sent : Sent config endpoint request s.exchanges

theorem Summarizes.start (config : OpenAICompatibleConfig) (endpoint : Endpoint J)
    (request : PromptRequest) :
    Summarizes config endpoint request { messages := request.messages } where
  messages := by simp [Exchange.messagesAfter]
  transportRetries := rfl
  transportRetries_le := Nat.zero_le _
  repairRetries := rfl
  repairRetries_le := Nat.zero_le _
  delays := rfl
  retried := by simp
  sent := by simp [Sent]

/-- The next exchange, in terms of the history. -/
theorem Summarizes.next_eq (h : Summarizes config endpoint request s) :
    next config endpoint request.promptName s =
      exchange config endpoint request.promptName (s.exchanges.length + 1)
        (Exchange.messagesAfter request s.exchanges) := by
  rw [next, h.messages]

theorem Summarizes.sent_append (h : Summarizes config endpoint request s) :
    Sent config endpoint request (s.exchanges ++ [next config endpoint request.promptName s]) := by
  rw [h.next_eq]
  exact h.sent.append

/-- **One iteration** keeps the sense of the variables. -/
theorem Summarizes.step (h : Summarizes config endpoint request s)
    (hgoes : GoesOn config endpoint request.promptName s s') :
    Summarizes config endpoint request s' := by
  cases hgoes with
  | repair houtcome hmalformed hlt =>
      have hx := (Exchange.isMalformed_of_outcome houtcome).trans hmalformed
      have hnot : (next config endpoint request.promptName s).isTransient = false := by
        rw [Exchange.isTransient_of_outcome houtcome, Bool.eq_false_iff]
        intro htransient
        rw [malformed_eq_false_of_transient htransient] at hmalformed
        exact absurd hmalformed (by simp)
      exact {
        messages := by rw [Exchange.messagesAfter_append_malformed request hx, h.messages]
        transportRetries := by simp [List.countP_append, hnot, h.transportRetries]
        transportRetries_le := h.transportRetries_le
        repairRetries := by simp [List.countP_append, hx, h.repairRetries]
        repairRetries_le := hlt
        delays := by rw [Exchange.delaysAfter_append_of_not config _ hnot, h.delays]
        retried := List.forall_mem_append.mpr ⟨h.retried, by simp [hx]⟩
        sent := h.sent_append }
  | backoff houtcome htransient hlt =>
      have hx := (Exchange.isTransient_of_outcome houtcome).trans htransient
      have hnot := (Exchange.isMalformed_of_outcome houtcome).trans
        (malformed_eq_false_of_transient htransient)
      exact {
        messages := by rw [Exchange.messagesAfter_append_of_not request hnot, h.messages]
        transportRetries := by simp [List.countP_append, hx, h.transportRetries]
        transportRetries_le := hlt
        repairRetries := by simp [List.countP_append, hnot, h.repairRetries]
        repairRetries_le := h.repairRetries_le
        delays := by
          rw [Exchange.delaysAfter_append_transient config _ houtcome htransient, h.delays,
            h.transportRetries]
        retried := List.forall_mem_append.mpr ⟨h.retried, by simp [hx]⟩
        sent := h.sent_append }

/-- **How `generate` ends**: in an iteration whose variables summarize what came before. -/
theorem exists_ends (config : OpenAICompatibleConfig) (endpoint : Endpoint J)
    (request : PromptRequest) :
    ∃ s, Summarizes config endpoint request s ∧
      Ends config endpoint request.promptName s (generate config endpoint request) := by
  obtain ⟨last, hlast, hround⟩ := (loop config endpoint request.promptName).exists_last_of_invariant
    (Summarizes.start config endpoint request) fun s s' hs hround =>
      hs.step (goesOn_of_round hround)
  exact ⟨last, hlast, ends_of_round hround⟩

/-- A history of retried exchanges is as long as its retries. -/
theorem Summarizes.length_eq (h : Summarizes config endpoint request s) :
    s.exchanges.length = s.transportRetries + s.repairRetries := by
  rw [h.transportRetries, h.repairRetries, List.length_eq_countP_add_countP Exchange.isTransient]
  congr 1
  refine List.countP_congr fun x hx => ?_
  rcases h.retried x hx with htransient | hmalformed
  · simp [htransient, Exchange.isMalformed_eq_false_of_isTransient htransient]
  · have htransient : x.isTransient = false := by
      rw [Bool.eq_false_iff]
      intro htransient
      rw [Exchange.isMalformed_eq_false_of_isTransient htransient] at hmalformed
      exact absurd hmalformed (by simp)
    simp [htransient, hmalformed]

/-- How a last exchange decides the result: its answer is returned, and its failure is raised
when it is one that is not retried, when the retries of its kind are used up, or when the
sleeper raised. -/
def Settles (config : OpenAICompatibleConfig) (endpoint : Endpoint J) (history : List Exchange)
    (last : Exchange) (result : Except ProviderFailure LLMResponse) : Prop :=
  match last.outcome with
  | .ok response => result = .ok response
  | .error e => ∃ failure, result = .error failure ∧ failure.attempts = history.length + 1 ∧
      (failure.kind = kindOf e ∧
          (transient e = true → history.countP Exchange.isTransient = config.maxRetries) ∧
          (malformed e = true → history.countP Exchange.isMalformed = config.repairRetries) ∨
        failure.kind = .provider ∧ transient e = true ∧
          ∃ delay, endpoint.sleepRaises (history.length + 1) delay = true)

/-- The exchanges of a call are those of its last iteration and one more, which decides the
result. -/
theorem exists_settles (config : OpenAICompatibleConfig) (endpoint : Endpoint J)
    (request : PromptRequest) :
    ∃ s, Summarizes config endpoint request s ∧
      (generate config endpoint request).exchanges =
        s.exchanges ++ [next config endpoint request.promptName s] ∧
      Settles config endpoint s.exchanges (next config endpoint request.promptName s)
        (generate config endpoint request).result := by
  obtain ⟨s, hs, hends⟩ := exists_ends config endpoint request
  generalize generate config endpoint request = out at hends ⊢
  refine ⟨s, hs, ?_, ?_⟩
  · cases hends <;> rfl
  · rw [Settles]
    cases hends with
    | answered houtcome => rw [houtcome]
    | @raised e failure houtcome hreact =>
        rw [houtcome]
        have hhandles := handles_react config endpoint.float s.transportRetries s.repairRetries
          (s.exchanges.length + 1) e
        rw [hreact] at hhandles
        cases hhandles with
        | raise hattempts hkind htransient hmalformed =>
            refine ⟨failure, rfl, hattempts, .inl ⟨hkind, fun h => ?_, fun h => ?_⟩⟩
            · exact hs.transportRetries ▸ le_antisymm hs.transportRetries_le (htransient h)
            · exact hs.repairRetries ▸ le_antisymm hs.repairRetries_le (hmalformed h)
    | unscheduled houtcome htransient _ hraises =>
        rw [houtcome]
        exact ⟨_, rfl, rfl, .inr ⟨rfl, htransient, _, hraises⟩⟩

theorem Summarizes.length_le (h : Summarizes config endpoint request s) :
    s.exchanges.length ≤ config.maxRetries + config.repairRetries :=
  h.length_eq.trans_le (Nat.add_le_add h.transportRetries_le h.repairRetries_le)

/-- **What ends a call.** All exchanges but the last are failures of the transport or malformed
answers, no more of each than may be retried; the last one decides the result. -/
theorem generate_settled (config : OpenAICompatibleConfig) (endpoint : Endpoint J)
    (request : PromptRequest) :
    ∃ history last, (generate config endpoint request).exchanges = history ++ [last] ∧
      (∀ x ∈ history, x.isTransient = true ∨ x.isMalformed = true) ∧
      history.countP Exchange.isTransient ≤ config.maxRetries ∧
      history.countP Exchange.isMalformed ≤ config.repairRetries ∧
      history.length ≤ config.maxRetries + config.repairRetries ∧
      Settles config endpoint history last (generate config endpoint request).result := by
  obtain ⟨s, hs, hexchanges, hsettles⟩ := exists_settles config endpoint request
  have htransport := hs.transportRetries ▸ hs.transportRetries_le
  have hrepair := hs.repairRetries ▸ hs.repairRetries_le
  exact ⟨_, _, hexchanges, hs.retried, htransport, hrepair, hs.length_le, hsettles⟩

/-- **What is sent.** Request number `i + 1` carries the prompt, and after it one instruction for
each of the `i` answers before that was malformed. -/
theorem generate_sent (config : OpenAICompatibleConfig) (endpoint : Endpoint J)
    (request : PromptRequest) :
    Sent config endpoint request (generate config endpoint request).exchanges := by
  obtain ⟨s, hs, hends⟩ := exists_ends config endpoint request
  have hsent := hs.sent_append
  generalize generate config endpoint request = out at hends ⊢
  cases hends with
  | answered _ => exact hsent
  | raised _ _ => exact hsent
  | unscheduled _ _ _ _ => exact hsent

/-! ### Delays -/

theorem requestedDelay_nonneg {d : ℚ} (h : requestedDelay float e = some d) : 0 ≤ d := by
  cases e with
  | rateLimit statusCode header =>
      obtain ⟨value, -, rfl⟩ := Option.map_eq_some_iff.mp h
      exact le_max_left 0 value
  | _ => exact absurd h (by simp [requestedDelay])

theorem requested_nonneg (float : String → Option ℚ) (x : Exchange) :
    0 ≤ x.requested float := by
  rw [Exchange.requested]
  cases hdelay : x.failure.bind (requestedDelay float) with
  | none => simp
  | some d =>
      obtain ⟨e, -, he⟩ := Option.bind_eq_some_iff.mp hdelay
      exact requestedDelay_nonneg he

/-- A delay is at most what is planned for its retry and what the endpoint asks for. -/
theorem backoffDelay_le (config : OpenAICompatibleConfig) (retryIndex : ℕ)
    (retryAfter : Option ℚ) :
    backoffDelay config retryIndex retryAfter ≤
      config.retryBaseDelaySeconds * 2 ^ retryIndex + retryAfter.getD 0 := by
  have hplanned : 0 ≤ config.retryBaseDelaySeconds * 2 ^ retryIndex :=
    mul_nonneg config.retryBaseDelay_nonneg (by positivity)
  cases retryAfter with
  | none => simp [backoffDelay]
  | some d => simpa [backoffDelay] using hplanned

/-- **How long is waited**, as far as the failures of a history go. -/
theorem sum_delaysAfter_le (config : OpenAICompatibleConfig) (float : String → Option ℚ)
    (history : List Exchange) :
    (Exchange.delaysAfter config float history).sum ≤
      config.retryBaseDelaySeconds * (2 ^ history.countP Exchange.isTransient - 1) +
        (history.map (Exchange.requested float)).sum := by
  induction history using List.reverseRecOn with
  | nil => simp [Exchange.delaysAfter]
  | append_singleton history x ih =>
      cases hx : x.isTransient with
      | false =>
          have hnonneg := requested_nonneg float x
          rw [Exchange.delaysAfter_append_of_not config float hx]
          simp only [List.countP_append, List.countP_singleton, hx, Bool.false_eq_true, if_false,
            add_zero, List.map_append, List.sum_append, List.map_singleton, List.sum_singleton]
          linarith
      | true =>
          obtain ⟨e, he, htransient⟩ := (Option.any_eq_true _ _).mp hx
          have houtcome := Exchange.outcome_of_failure he
          have hdelay := backoffDelay_le config (history.countP Exchange.isTransient)
            (requestedDelay float e)
          have hrequested : x.requested float = (requestedDelay float e).getD 0 := by
            rw [Exchange.requested, he, Option.bind_some]
          rw [Exchange.delaysAfter_append_transient config float houtcome htransient]
          simp only [List.countP_append, List.countP_singleton, hx, if_true, List.map_append,
            List.sum_append, List.map_singleton, List.sum_singleton, hrequested, pow_succ]
          linarith

/-- The delays of a call are those after a beginning of its history. -/
theorem exists_delaysAfter (config : OpenAICompatibleConfig) (endpoint : Endpoint J)
    (request : PromptRequest) :
    let out := generate config endpoint request
    ∃ waited, out.delays = Exchange.delaysAfter config endpoint.float waited ∧
      waited <+: out.exchanges ∧ waited.countP Exchange.isTransient ≤ config.maxRetries ∧
      out.exchanges.length ≤ waited.length + 1 := by
  intro out
  obtain ⟨s, hs, hends⟩ := exists_ends config endpoint request
  have hle := hs.transportRetries ▸ hs.transportRetries_le
  generalize hout : generate config endpoint request = generated at hends
  subst out
  rw [hout]
  cases hends with
  | answered _ => exact ⟨s.exchanges, hs.delays, ⟨_, rfl⟩, hle, by simp⟩
  | raised _ _ => exact ⟨s.exchanges, hs.delays, ⟨_, rfl⟩, hle, by simp⟩
  | unscheduled houtcome htransient hlt _ =>
      refine ⟨_, ?_, List.prefix_rfl, ?_, by simp⟩
      · rw [Exchange.delaysAfter_append_transient config _ houtcome htransient, hs.delays,
          hs.transportRetries]
      · have hx := (Exchange.isTransient_of_outcome houtcome).trans htransient
        simpa [List.countP_append, hx, ← hs.transportRetries] using Nat.succ_le_of_lt hlt

/-- **Delays.** One delay follows each failure of the transport but a last one that is not
retried. Together they are at most the doubled base delays of `max_retries` retries and what the
endpoint asked for. -/
theorem generate_delays (config : OpenAICompatibleConfig) (endpoint : Endpoint J)
    (request : PromptRequest) :
    let out := generate config endpoint request
    out.delays <+: Exchange.delaysAfter config endpoint.float out.exchanges ∧
      out.exchanges.countP Exchange.isTransient ≤ out.delays.length + 1 ∧
      out.delays.length ≤ config.maxRetries ∧
      out.delays.sum ≤ config.retryBaseDelaySeconds * (2 ^ config.maxRetries - 1) +
        (out.exchanges.map (Exchange.requested endpoint.float)).sum := by
  intro out
  obtain ⟨waited, hdelays, ⟨rest, hrest⟩, hle, hlength⟩ :=
    exists_delaysAfter config endpoint request
  have hshort : rest.length ≤ 1 := by
    rw [← hrest, List.length_append] at hlength
    omega
  refine ⟨?_, ?_, ?_, ?_⟩
  · rw [hdelays, ← hrest]
    exact Exchange.delaysAfter_prefix config endpoint.float waited rest
  · have hcount : rest.countP Exchange.isTransient ≤ rest.length := List.countP_le_length
    rw [hdelays, Exchange.length_delaysAfter, ← hrest, List.countP_append]
    omega
  · rw [hdelays, Exchange.length_delaysAfter]
    exact hle
  · have hpow : (2 : ℚ) ^ waited.countP Exchange.isTransient ≤ 2 ^ config.maxRetries :=
      pow_le_pow_right₀ (by norm_num) hle
    have hplanned := mul_le_mul_of_nonneg_left (sub_le_sub_right hpow 1)
      config.retryBaseDelay_nonneg
    have hrequested : 0 ≤ (rest.map (Exchange.requested endpoint.float)).sum :=
      List.sum_nonneg (by simpa using fun x _ => requested_nonneg endpoint.float x)
    have hsum := sum_delaysAfter_le config endpoint.float waited
    rw [hdelays, ← hrest, List.map_append, List.sum_append]
    linarith

end OpenAICompatibleProvider

end StoryForge
