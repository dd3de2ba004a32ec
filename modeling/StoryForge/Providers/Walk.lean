import Mathlib.Data.List.Chain
import StoryForge.Providers.Gateway

/-!
# The walk over the candidate models

`GovernedLLMProvider.generate` seen from the providers: which models are called, in which
order, and what ends the walk. What an attempt finds in the database appears here as what
its steps raise, so that every outcome of every attempt is possible; an attempt writes down
what it did, and the log of a call is its history, newest entry first.

## Main results

* `AttemptEnv.exec_tryBody_of_fault`, `exec_tryBody_of_lateFault`, `exec_tryBody_of_answer` —
  what the `try` body of an attempt does, by the first step that raises;
* `AttemptEnv.exec_except` — what its handler does.
-/

namespace StoryForge

/-! ### The log -/

/-- What the breaker was told. -/
inductive Report
  | success
  | failure
  deriving DecidableEq, Repr

/-- What was done about a candidate: an attempt, or a reason not to make one. -/
structure WalkEntry where
  candidate : ℕ
  attempt : ℕ
  attempted : Bool := false
  invoked : Bool := false
  response : Option LLMResponse := none
  reports : List Report := []
  error : Option Error := none
  deriving DecidableEq, Repr

/-- Code that writes the log. -/
abbrev Walk := Program (List WalkEntry) Error

namespace Walk

/-- Begin an entry. -/
def push (entry : WalkEntry) : Walk Unit := .update (entry :: ·)

/-- Write to the entry in progress. -/
def note (f : WalkEntry → WalkEntry) : Walk Unit := .update fun log => log.modifyHead f

/-- Tell the breaker. -/
def report (report : Report) : Walk Unit :=
  note fun entry => { entry with reports := entry.reports ++ [report] }

end Walk

/-! ### One attempt -/

namespace AttemptEnv

/-- The `try` body of an attempt; `govern` makes the response of it that the caller gets. -/
def tryBody (e : AttemptEnv) (govern : LLMResponse → LLMResponse) : Walk LLMResponse := do
  .raising e.beforeCall
  .raising e.checkWorkflow
  .raising e.openBudget
  .raising e.reserve
  .raising e.startCall
  .raising e.acquire
  Walk.note ({ · with invoked := true })
  let response ← .ofExcept e.provider
  Walk.note ({ · with response := some response })
  .raising e.finishCall
  .raising e.settle
  .raising e.recordSuccess
  Walk.report .success
  .raising e.succeed
  return govern response

/-- The `except` branch: `counts` are the exceptions the breaker is told of. -/
def except (e : AttemptEnv) (counts : Error → Bool) (error : Error) : Walk Unit := do
  Walk.note ({ · with error := some error })
  .raising e.release
  .raising e.startFailedCall
  .raising e.finishFailedCall
  if counts error then do
    .raising e.recordFailure
    Walk.report .failure

/-- One attempt: the response, or the exception that its handler dealt with. -/
def attempt (e : AttemptEnv) (counts : Error → Bool) (govern : LLMResponse → LLMResponse) :
    Walk (Except Error LLMResponse) := do
  Walk.note ({ · with attempted := true })
  Program.rescue (do return .ok (← e.tryBody govern)) fun error => do
    e.except counts error
    return .error error

end AttemptEnv

/-! ### Retries and fallbacks -/

/-- A call: the gateway, the route of the request, and what the outside does. -/
structure GovernedCall where
  gateway : Gateway
  route : ModelRoute
  request : PromptRequest
  env : Environment

namespace GovernedCall

variable (call : GovernedCall)

/-- The response a caller gets. -/
def govern (reference : ModelReference) (attempt : ℕ) (response : LLMResponse) : LLMResponse :=
  { response with
    provider := reference.provider
    model := reference.model
    attempts := attempt }

/-- The attempts on one candidate: at most `retries` after the first. -/
def attempts (reference : ModelReference) (candidate : ℕ) : ℕ → ℕ → Walk Ending
  | retries, attempt => do
      Walk.push { candidate, attempt := attempt + 1 }
      if (call.env.attempt (attempt + 1)).deadlinePassed then do
        let error := Error.llmError .timeout "Provider total deadline was exhausted" (attempt + 1)
        Walk.note ({ · with error := some error })
        return .exhausted (some error) (attempt + 1)
      else do
        match ← (call.env.attempt (attempt + 1)).attempt breakerFailure
            (govern reference (attempt + 1)) with
        | .ok response => return .returned response
        | .error e =>
            match retries with
            | 0 => return .exhausted (some e) (attempt + 1)
            | retries + 1 =>
                if RetryPolicy.retryable e then do
                  .raising (call.env.attempt (attempt + 1)).sleep
                  attempts reference candidate retries (attempt + 1)
                else return .exhausted (some e) (attempt + 1)

/-- The walk over the candidates. -/
def candidates : List ModelReference → ℕ → ℕ → Option Error → Walk Ending
  | [], _, attempt, error => return .exhausted error attempt
  | reference :: rest, candidate, attempt, _ =>
      if call.gateway.available reference = false then do
        let error :=
          Error.llmError .service "Registered provider runtime is unavailable" (max 1 attempt)
        Walk.push { candidate, attempt, error := some error }
        candidates rest (candidate + 1) attempt (some error)
      else
        match preflight call.gateway call.route call.request reference with
        | .error e => do
            Walk.push { candidate, attempt := attempt + 1, error := some e }
            .raising (call.env.attempt (attempt + 1)).startFailedCall
            .raising (call.env.attempt (attempt + 1)).finishFailedCall
            return .exhausted (some e) (attempt + 1)
        | .ok _ => do
            match ← call.attempts reference candidate call.gateway.maxRetries attempt with
            | .returned response => return .returned response
            | .exhausted error attempt =>
                if error.any stopsFallback then return .exhausted error attempt
                else candidates rest (candidate + 1) attempt error

/-- `generate`, after the claim of the record. -/
def generate : Walk LLMResponse := do
  match ← call.candidates call.route.candidates 0 0 none with
  | .returned response => return response
  | .exhausted error attempt => do
      .raising call.env.fail
      throw (error.getD (.llmError .provider "All registered providers failed" (max 1 attempt)))

/-- The result of the call and its log, oldest entry first. -/
def outcome : Except Error LLMResponse × List WalkEntry :=
  let (result, log) := call.generate.exec []
  (result, log.reverse)

end GovernedCall

/-! ### What an attempt does -/

namespace AttemptEnv

/-- The exception that ends an attempt before the provider has answered. -/
def fault (e : AttemptEnv) : Option Error :=
  e.beforeCall.or <| e.checkWorkflow.or <| e.openBudget.or <| e.reserve.or <| e.startCall.or <|
    e.acquire.or <|
      match e.provider with
      | .error error => some error
      | .ok _ => none

/-- The exception that ends an attempt after the answer and before the report of success. -/
def lateFault (e : AttemptEnv) : Option Error :=
  e.finishCall.or <| e.settle.or e.recordSuccess

/-- The breaker takes what the attempt reports to it. -/
def Reports (e : AttemptEnv) (counts : Error → Bool) : Prop :=
  match e.fault with
  | none => e.recordSuccess = none
  | some error => counts error → e.recordFailure = none

instance (e : AttemptEnv) (counts : Error → Bool) : Decidable (e.Reports counts) := by
  unfold Reports; split <;> infer_instance

/-- The writes of the ledger and of the idempotency record succeed. -/
structure Writes (e : AttemptEnv) : Prop where
  startCall : e.startCall = none
  finishCall : e.finishCall = none
  settle : e.settle = none
  succeed : e.succeed = none
  release : e.release = none
  startFailedCall : e.startFailedCall = none
  finishFailedCall : e.finishFailedCall = none
  sleep : e.sleep = none

variable {e : AttemptEnv} {counts : Error → Bool} {govern : LLMResponse → LLMResponse}
  {entry : WalkEntry} {log : List WalkEntry} {error : Error}

@[simp] theorem exec_note (f : WalkEntry → WalkEntry) (entry : WalkEntry)
    (log : List WalkEntry) : (Walk.note f).exec (entry :: log) = (.ok (), f entry :: log) := rfl

@[simp] theorem exec_report (report : Report) (entry : WalkEntry) (log : List WalkEntry) :
    (Walk.report report).exec (entry :: log) =
      (.ok (), { entry with reports := entry.reports ++ [report] } :: log) := rfl

/-- A fault before the answer is raised. -/
theorem exec_tryBody_of_fault (h : e.fault = some error) (govern : LLMResponse → LLMResponse)
    (entry : WalkEntry) (log : List WalkEntry) : ∃ invoked,
    (e.tryBody govern).exec (entry :: log) = (.error error, { entry with invoked } :: log) := by
  unfold fault at h
  unfold tryBody
  cases hbefore : e.beforeCall with
  | some raised =>
      rw [hbefore] at h
      obtain rfl := Option.some.inj h
      exact ⟨entry.invoked, by simp [Program.exec_bind]⟩
  | none =>
  cases hcheck : e.checkWorkflow with
  | some raised =>
      rw [hbefore, hcheck] at h
      obtain rfl := Option.some.inj h
      exact ⟨entry.invoked, by simp [Program.exec_bind]⟩
  | none =>
  cases hopen : e.openBudget with
  | some raised =>
      rw [hbefore, hcheck, hopen] at h
      obtain rfl := Option.some.inj h
      exact ⟨entry.invoked, by simp [Program.exec_bind]⟩
  | none =>
  cases hreserve : e.reserve with
  | some raised =>
      rw [hbefore, hcheck, hopen, hreserve] at h
      obtain rfl := Option.some.inj h
      exact ⟨entry.invoked, by simp [Program.exec_bind]⟩
  | none =>
  cases hstart : e.startCall with
  | some raised =>
      rw [hbefore, hcheck, hopen, hreserve, hstart] at h
      obtain rfl := Option.some.inj h
      exact ⟨entry.invoked, by simp [Program.exec_bind]⟩
  | none =>
  cases hacquire : e.acquire with
  | some raised =>
      rw [hbefore, hcheck, hopen, hreserve, hstart, hacquire] at h
      obtain rfl := Option.some.inj h
      exact ⟨entry.invoked, by simp [Program.exec_bind]⟩
  | none =>
  cases hprovider : e.provider with
  | error raised =>
      rw [hbefore, hcheck, hopen, hreserve, hstart, hacquire, hprovider] at h
      obtain rfl := Option.some.inj h
      exact ⟨true, by simp [Program.exec_bind]⟩
  | ok response =>
      simp [hbefore, hcheck, hopen, hreserve, hstart, hacquire, hprovider] at h

/-- Without one the provider has answered; then a fault may follow. -/
theorem exec_tryBody_of_lateFault (h : e.fault = none) (hlate : e.lateFault = some error)
    (govern : LLMResponse → LLMResponse) (entry : WalkEntry) (log : List WalkEntry) :
    ∃ response, (e.tryBody govern).exec (entry :: log) =
      (.error error, { entry with invoked := true, response := some response } :: log) := by
  unfold fault at h
  simp only [Option.or_eq_none_iff] at h
  obtain ⟨hbefore, hcheck, hopen, hreserve, hstart, hacquire, hprovider⟩ := h
  unfold lateFault at hlate
  cases hanswer : e.provider with
  | error raised => simp [hanswer] at hprovider
  | ok response =>
      refine ⟨response, ?_⟩
      unfold tryBody
      rw [hbefore, hcheck, hopen, hreserve, hstart, hacquire, hanswer]
      cases hfinish : e.finishCall with
      | some raised =>
          rw [hfinish] at hlate
          obtain rfl := Option.some.inj hlate
          simp [Program.exec_bind]
      | none =>
      cases hsettle : e.settle with
      | some raised =>
          rw [hfinish, hsettle] at hlate
          obtain rfl := Option.some.inj hlate
          simp [Program.exec_bind]
      | none =>
          rw [hfinish, hsettle] at hlate
          rw [show e.recordSuccess = some error from hlate]
          simp [Program.exec_bind]

/-- Without that the success is reported. -/
theorem exec_tryBody_of_answer (h : e.fault = none) (hlate : e.lateFault = none)
    (govern : LLMResponse → LLMResponse) (entry : WalkEntry) (log : List WalkEntry) :
    ∃ response, (e.tryBody govern).exec (entry :: log) =
      (match e.succeed with | some raised => .error raised | none => .ok (govern response),
        { entry with
          invoked := true
          response := some response
          reports := entry.reports ++ [.success] } :: log) := by
  unfold fault at h
  simp only [Option.or_eq_none_iff] at h
  obtain ⟨hbefore, hcheck, hopen, hreserve, hstart, hacquire, hprovider⟩ := h
  unfold lateFault at hlate
  simp only [Option.or_eq_none_iff] at hlate
  obtain ⟨hfinish, hsettle, hsuccess⟩ := hlate
  cases hanswer : e.provider with
  | error raised => simp [hanswer] at hprovider
  | ok response =>
      refine ⟨response, ?_⟩
      unfold tryBody
      rw [hbefore, hcheck, hopen, hreserve, hstart, hacquire, hanswer, hfinish, hsettle, hsuccess]
      cases e.succeed <;>
        simp only [Program.exec_bind, Program.exec_raising_none, Program.exec_raising_some,
          Program.exec_ofExcept, Program.exec_pure, exec_note, exec_report]

/-- The handler notes the exception, and reports it if the breaker counts it. -/
theorem exec_except (hrelease : e.release = none) (hstart : e.startFailedCall = none)
    (hfinish : e.finishFailedCall = none) :
    (e.except counts error).exec (entry :: log) =
      if counts error then
        match e.recordFailure with
        | some raised => (.error raised, { entry with error := some error } :: log)
        | none => (.ok (), { entry with
            error := some error
            reports := entry.reports ++ [.failure] } :: log)
      else (.ok (), { entry with error := some error } :: log) := by
  unfold AttemptEnv.except
  rw [hrelease, hstart, hfinish]
  cases hcounts : counts error with
  | false => simp [Program.exec_bind]
  | true => cases e.recordFailure <;> simp [Program.exec_bind]

end AttemptEnv

end StoryForge
