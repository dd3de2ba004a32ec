import Mathlib.Data.Rat.Floor
import StoryForge.Models

/-!
# Usage rows and prices

The tables of the provider layer (budgets, provider calls, the counters of workflow runs
and idempotency records) and the price of a call. Money is an integer number of 10⁻⁸
units: every price is rounded to that scale before it reaches a row, so sums of money are
exact.

A project has at most one budget and a request key at most one record, by unique
constraints; those tables are partial functions. The id of a provider call or of a
workflow run is its position.
-/

namespace StoryForge

/-- Token accounting of one call. -/
structure TokenUsage where
  inputTokens : ℕ
  outputTokens : ℕ
  cachedInputTokens : ℕ
  totalTokens : ℕ
  source : TokenUsageSource
  total : totalTokens = inputTokens + outputTokens
  cached_le : cachedInputTokens ≤ inputTokens
  deriving DecidableEq, Repr

/-- Registry identity of one model. -/
structure ModelReference where
  provider : String
  model : String
  deriving DecidableEq, Repr

/-- The part of a registry entry that policy and pricing read; the validation of the
registry keeps rates non-negative. -/
structure ModelCapability where
  inputCostPerMillion : Option ℚ
  outputCostPerMillion : Option ℚ
  cachedInputCostPerMillion : Option ℚ
  external : Bool
  input_nonneg : ∀ rate ∈ inputCostPerMillion, 0 ≤ rate
  output_nonneg : ∀ rate ∈ outputCostPerMillion, 0 ≤ rate
  cached_nonneg : ∀ rate ∈ cachedInputCostPerMillion, 0 ≤ rate

/-- A price, when the rates it needs are known. -/
structure PriceEstimate where
  amount : Option Amount
  nonneg : ∀ value ∈ amount, 0 ≤ value

/-- The budget of a project. -/
structure ProjectBudget where
  currency : String
  softLimit : Amount
  hardLimit : Amount
  period : BudgetPeriod
  spentEstimated : Amount
  spentBilled : Amount
  reservedEstimated : Amount
  enabled : Bool
  deriving DecidableEq, Repr

/-- The answer to a reservation. -/
structure BudgetDecision where
  allowed : Bool
  warning : Bool
  reason : String
  reservedAmount : Amount
  deriving DecidableEq, Repr

/-- The audit row of one provider attempt. -/
structure ProviderCall where
  projectId : Option ℕ
  workflowRunId : Option ℕ
  reference : ModelReference
  idempotencyKey : String
  status : ProviderCallStatus
  attempt : ℕ
  fallbackIndex : ℕ
  inputTokens : ℕ
  outputTokens : ℕ
  cachedInputTokens : ℕ
  totalTokens : ℕ
  usageSource : TokenUsageSource
  estimatedCost : Option Amount
  latencyMs : ℕ
  providerRequestId : Option String
  errorCode : Option String
  deriving DecidableEq, Repr

/-- The columns of a workflow run that provider calls find it by and add to. -/
structure WorkflowUsage where
  projectId : ℕ
  chapterId : ℕ
  status : WorkflowRunStatus
  providerCallCount : ℕ
  providerInputTokens : ℕ
  providerOutputTokens : ℕ
  providerEstimatedCost : Amount
  providerFallbackCount : ℕ
  providerRateLimitCount : ℕ
  deriving DecidableEq, Repr

/-- Ownership of one normalized provider request. -/
structure ProviderIdempotencyRecord where
  status : IdempotencyStatus
  providerCallId : Option ℕ
  responseHash : Option String
  errorCode : Option String
  deriving DecidableEq, Repr

/-- The committed state of the provider layer. -/
structure UsageDatabase where
  projects : List Project
  workflowRuns : List WorkflowUsage
  projectBudgets : ℕ → Option ProjectBudget
  providerCalls : List ProviderCall
  idempotencyRecords : String → Option ProviderIdempotencyRecord

/-! ### Pricing -/

namespace PricingService

/-- Conservative local estimate of a token count: a CJK character is a token, four other
characters are. -/
def estimateTokens (text : String) : ℕ :=
  let cjk := text.toList.countP fun c => 0x3400 ≤ c.toNat ∧ c.toNat ≤ 0x9fff
  let other := text.length - cjk
  if text.isEmpty then 0 else max 1 (cjk + (other + 3) / 4)

/-- Usage estimated locally. -/
def estimatedUsage (inputTokens outputTokens : ℕ) : TokenUsage where
  inputTokens := inputTokens
  outputTokens := outputTokens
  cachedInputTokens := 0
  totalTokens := inputTokens + outputTokens
  source := .localEstimate
  total := rfl
  cached_le := Nat.zero_le _

/-- `local_usage`. -/
def localUsage (inputText outputText : String) : TokenUsage :=
  estimatedUsage (estimateTokens inputText) (estimateTokens outputText)

/-- Round a non-negative amount to the scale of the columns, halves up. -/
def quantize (amount : ℚ) : Amount := ⌊amount * 100000000 + 1 / 2⌋

theorem quantize_nonneg {amount : ℚ} (h : 0 ≤ amount) : 0 ≤ quantize amount :=
  Int.floor_nonneg.mpr (by positivity)

/-- The exact price at given rates. -/
def exactPrice (usage : TokenUsage) (inputRate cachedRate outputRate : ℚ) : ℚ :=
  ((usage.inputTokens - usage.cachedInputTokens : ℕ) : ℚ) * inputRate / 1000000 +
    (usage.cachedInputTokens : ℚ) * cachedRate / 1000000 +
    (usage.outputTokens : ℚ) * outputRate / 1000000

theorem exactPrice_nonneg (usage : TokenUsage) {inputRate cachedRate outputRate : ℚ}
    (hinput : 0 ≤ inputRate) (hcached : 0 ≤ cachedRate) (houtput : 0 ≤ outputRate) :
    0 ≤ exactPrice usage inputRate cachedRate outputRate := by
  unfold exactPrice
  positivity

/-- The rate of cached input: its own, or that of other input when it has none and some
input was cached. -/
def cachedRate (capability : ModelCapability) (usage : TokenUsage) (inputRate : ℚ) : ℚ :=
  if usage.cachedInputTokens ≠ 0 ∧ capability.cachedInputCostPerMillion = none then inputRate
  else capability.cachedInputCostPerMillion.getD 0

/-- `estimate`. Without the rates it needs the price is unknown. -/
def amount (capability : ModelCapability) (usage : TokenUsage) : Option Amount :=
  match capability.inputCostPerMillion with
  | none => none
  | some inputRate =>
      if usage.outputTokens ≠ 0 ∧ capability.outputCostPerMillion = none then none
      else some (quantize (exactPrice usage inputRate (cachedRate capability usage inputRate)
        (capability.outputCostPerMillion.getD 0)))

theorem amount_nonneg {capability : ModelCapability} {usage : TokenUsage} {value : Amount}
    (h : amount capability usage = some value) : 0 ≤ value := by
  unfold amount at h
  split at h
  · exact absurd h (by simp)
  rename_i inputRate hinput
  split at h
  · exact absurd h (by simp)
  obtain rfl := Option.some.inj h
  have hin := capability.input_nonneg inputRate hinput
  refine quantize_nonneg (exactPrice_nonneg usage hin ?_ ?_)
  · unfold cachedRate
    split
    · exact hin
    · cases hrate : capability.cachedInputCostPerMillion with
      | none => simp
      | some rate => exact capability.cached_nonneg rate hrate
  · cases hrate : capability.outputCostPerMillion with
    | none => simp
    | some rate => exact capability.output_nonneg rate hrate

/-- The price of a call. -/
def estimate (capability : ModelCapability) (usage : TokenUsage) : PriceEstimate where
  amount := amount capability usage
  nonneg _ h := amount_nonneg h

end PricingService

end StoryForge
