import StoryForge.Chapters.Evaluation
import StoryForge.Chapters.Generation
import StoryForge.Library.Program
import StoryForge.Memory.Indexing

/-!
# The calls of the chapter services, exception by exception

`generate` and `evaluate` set the status of the chapter in a transaction of its own, and then
call agents and the database, any of which can raise. Each step after that has a handler for one
or two classes of exceptions, or none. A handler writes a final status, in one more transaction,
and raises in turn. What a step raises, and which commits are refused, is up to the outside.

## Main results

* `ChapterGenerationService.generate_eq`, `EvaluationService.evaluateNew_eq` — a call is its
  start, its steps, and one handler for what the steps raise.
-/

namespace StoryForge

/-! ### Classes of exceptions -/

/-- The subclasses of `LLMError`, and itself. -/
def llmErrors : List String :=
  ["LLMError", "LLMConfigurationError", "PromptRegistryError", "LLMProviderError",
    "LLMTimeoutError", "LLMAuthenticationError", "LLMRateLimitError", "LLMServiceError",
    "LLMInvalidResponseError", "LLMContextLengthError", "LLMRefusalError"]

/-- `isinstance(exc, LLMError)`. -/
def isLLMError (e : Error) : Bool := llmErrors.contains e.className

/-- `isinstance(exc, AgentExecutionError)`. -/
def isAgentExecutionError (e : Error) : Bool := e.className == "AgentExecutionError"

/-- `isinstance(exc, EvaluationError)`. -/
def isEvaluationError (e : Error) : Bool := e.className == "EvaluationError"

/-- Which exceptions are of `SQLAlchemyError`: refused writes are. -/
structure SQLAlchemy where
  isError : Error → Bool
  integrity : ∀ constraint, isError (.integrityError constraint) = true

/-! ### Agents -/

/-- An invocation of an agent: what rendering its prompt raises, and what its provider answers
or raises. -/
structure Invocation (α : Type) where
  prompt : Option Error
  response : Except Error α

/-- `StructuredAgent._invoke`. -/
def StructuredAgent.invoke {α : Type} (promptName : String) (call : Invocation α) :
    Except Error α :=
  match call.prompt with
  | some e => .error e
  | none =>
      match call.response with
      | .ok output => .ok output
      | .error e =>
          if isLLMError e then
            .error (.other "AgentExecutionError"
              (promptName ++ " agent failed to produce valid structured output"))
          else .error e

/-- The critic's answer: the evidence of its issues, and what it says of the chapter. -/
structure Critique where
  evidence : List String
  outlineAdherenceScore : ℚ

/-- `CriticAgent.critique`. -/
def CriticAgent.critique (content : String) (call : Invocation Critique) :
    Except Error Critique :=
  if isBlank content then
    .error (.other "EvaluationError" "A chapter without content cannot be critiqued")
  else
    match StructuredAgent.invoke "critic" call with
    | .error e => .error e
    | .ok critique =>
        if critique.evidence.any fun evidence =>
            evidence != "" && !Memory.contains content evidence then
          .error (.other "EvaluationError" "Critic evidence is not present in chapter content")
        else .ok critique

/-! ### Transactions -/

/-- A transaction of its own: refused, rolled back or committed. -/
def transact {α : Type} (refused : Option Error)
    (f : StoryDatabase → Except Error (α × StoryDatabase)) : Program StoryDatabase Error α :=
  Program.act fun db =>
    match refused with
    | some e => (.error e, db)
    | none =>
        match f db with
        | .ok (a, db') => (.ok a, db')
        | .error e => (.error e, db)

/-- A transaction without a result. -/
def write (refused : Option Error) (f : StoryDatabase → Except Error StoryDatabase) :
    Program StoryDatabase Error Unit :=
  transact refused fun db => (f db).map ((), ·)

/-- A session that only reads. -/
def read {α : Type} (f : StoryDatabase → Except Error α) : Program StoryDatabase Error α :=
  Program.act fun db => (f db, db)

/-! ### Generation -/

namespace ChapterGenerationService

/-- What the outside does to a call of `generate`, in order: what building the context raises,
the commit of `_set_running`, the writer, what describing the draft raises, the commit of the
draft, what the request for facts raises, the extractor, what describing the facts raises, the
commit of the facts, and the commit of `_mark_failure`. -/
structure Outside where
  context : Option Error
  running : Option Error
  writer : Invocation Draft
  draftMetadata : Option Error
  draft : Option Error
  extractionRequest : Option Error
  extractor : Invocation Extraction
  metadata : Option Error
  extraction : Option Error
  failure : Option Error

variable (sqlAlchemy : SQLAlchemy) (normalizer : FactNormalizer) (outside : Outside)
  (request : GenerationRequest)

/-- `_mark_failure`, and `ChapterGenerationError`. -/
def fail (status : ChapterStatus) (message : String) : Program StoryDatabase Error Empty := do
  write outside.failure fun db => .ok (markFailure request status db)
  throw (.other "ChapterGenerationError" message)

/-- What `generate` does before its status is set, and setting it. -/
def start : Program StoryDatabase Error Unit := do
  read (validateStart request)
  Program.raising outside.context
  write outside.running (setRunning request)

/-- `generate`. -/
def generate : Program StoryDatabase Error ℕ := do
  start outside request
  let draft ← (Program.ofExcept (StructuredAgent.invoke "writer" outside.writer)).escalate fun e =>
    if isAgentExecutionError e then fail outside request .failed "WriterAgent failed"
    else throw e
  Program.raising outside.draftMetadata
  let version ← (transact outside.draft (persistDraft request draft)).escalate fun e =>
    if sqlAlchemy.isError e then
      fail outside request .failed "Draft persistence failed and was rolled back"
    else throw e
  Program.raising outside.extractionRequest
  let extraction ←
    (Program.ofExcept (StructuredAgent.invoke "fact_extractor" outside.extractor)).escalate fun e =>
      if isAgentExecutionError e then
        fail outside request .factExtractionFailed
          "FactExtractorAgent failed; the generated draft was preserved"
      else throw e
  Program.raising outside.metadata
  (write outside.extraction (persistExtraction normalizer request extraction version)).escalate
    fun e =>
      if sqlAlchemy.isError e then
        fail outside request .factExtractionFailed "Fact persistence failed and was rolled back"
      else throw e
  return version

end ChapterGenerationService

/-! ### Evaluation -/

namespace EvaluationService

/-- What the outside does to a call of `evaluate`, in order: what loading raises, the commit of
`_mark_evaluating`, what the local evaluators find, what building the critic's context raises,
the critic, what the scorer makes of it, the commits of the partial and of the complete attempt,
and the commit of `_mark_failed`. -/
structure Outside where
  loading : Option Error
  evaluating : Option Error
  localScores : Except Error LocalScores
  criticContext : Option Error
  critic : Invocation Critique
  combined : LocalScores → Critique → Except Error CombinedScores
  attempt : Option Error
  complete : Option Error
  failure : Option Error

variable (sqlAlchemy : SQLAlchemy) (outside : Outside) (request : EvaluationRequest)

/-- `_load_context`, with the text that is evaluated. -/
def load (db : StoryDatabase) : Except Error (LoadedEvaluation × String) :=
  match loadContext request db with
  | .error e => .error e
  | .ok loaded =>
      .ok (loaded, ((db.versions[loaded.chapterVersionId]?).map (·.text.content)).getD "")

/-- `_mark_failed`, which does not raise `SQLAlchemyError`. -/
def close (loaded : LoadedEvaluation) : Program StoryDatabase Error Unit :=
  (write outside.failure fun db => .ok (markFailed loaded db)).rescue fun e =>
    if sqlAlchemy.isError e then pure () else throw e

/-- `_mark_failed`, and `EvaluationError`. -/
def fail (loaded : LoadedEvaluation) (message : String) : Program StoryDatabase Error Empty := do
  close sqlAlchemy outside loaded
  throw (.other "EvaluationError" message)

/-- What `evaluate` does before its status is set, and setting it. -/
def start : Program StoryDatabase Error (LoadedEvaluation × String) := do
  Program.raising outside.loading
  let (loaded, content) ← read (load request)
  write outside.evaluating (markEvaluating loaded)
  return (loaded, content)

/-- The handler of a failed critic. -/
def preserve (loaded : LoadedEvaluation) (scores : LocalScores) :
    Program StoryDatabase Error Empty := do
  (write outside.attempt (persistPartial loaded scores)).escalate fun e =>
    if sqlAlchemy.isError e then fail sqlAlchemy outside loaded "Evaluation persistence failed"
    else throw e
  throw (.other "EvaluationError" "CriticAgent failed; local evaluation results were preserved")

/-- `evaluate`, where there is no result under the key of the request. -/
def evaluateNew : Program StoryDatabase Error Unit := do
  let (loaded, content) ← start outside request
  let scores ← (Program.ofExcept outside.localScores).escalate fun _ =>
    fail sqlAlchemy outside loaded "Local chapter evaluation failed"
  Program.raising outside.criticContext
  let critique ← (Program.ofExcept (CriticAgent.critique content outside.critic)).escalate fun e =>
    if isAgentExecutionError e || isEvaluationError e then preserve sqlAlchemy outside loaded scores
    else throw e
  let combined ← Program.ofExcept (outside.combined scores critique)
  (write outside.complete (persistComplete loaded combined)).escalate fun e =>
    if sqlAlchemy.isError e then fail sqlAlchemy outside loaded "Evaluation persistence failed"
    else throw e

/-- `evaluate`. -/
def evaluate : Program StoryDatabase Error Unit := do
  let existing ← read fun db => .ok (existingResult request db)
  match existing with
  | some _ => return ()
  | none => evaluateNew sqlAlchemy outside request

end EvaluationService

/-! ### Which step raises -/

namespace ChapterGenerationService

/-- The steps of `generate` after its status is set. -/
inductive Step
  | writing
  | describingDraft
  | savingDraft
  | requestingFacts
  | extracting
  | describingFacts
  | savingFacts
  deriving DecidableEq, Repr

section Steps

variable (sqlAlchemy : SQLAlchemy) (normalizer : FactNormalizer) (outside : Outside)
  (request : GenerationRequest)

/-- The steps without their handlers. -/
def steps : Program StoryDatabase (Step × Error) ℕ := do
  let draft ←
    (Program.ofExcept (StructuredAgent.invoke "writer" outside.writer)).tag (Step.writing, ·)
  (Program.raising outside.draftMetadata).tag (Step.describingDraft, ·)
  let version ← (transact outside.draft (persistDraft request draft)).tag (Step.savingDraft, ·)
  (Program.raising outside.extractionRequest).tag (Step.requestingFacts, ·)
  let extraction ←
    (Program.ofExcept (StructuredAgent.invoke "fact_extractor" outside.extractor)).tag
      (Step.extracting, ·)
  (Program.raising outside.metadata).tag (Step.describingFacts, ·)
  (write outside.extraction (persistExtraction normalizer request extraction version)).tag
    (Step.savingFacts, ·)
  return version

/-- What a step catches. -/
def catches : Step → Error → Bool
  | .writing, e | .extracting, e => isAgentExecutionError e
  | .savingDraft, e | .savingFacts, e => sqlAlchemy.isError e
  | .describingDraft, _ | .requestingFacts, _ | .describingFacts, _ => false

/-- The status that the handler of a step writes. -/
def failedStatus : Step → ChapterStatus
  | .writing | .describingDraft | .savingDraft => .failed
  | .requestingFacts | .extracting | .describingFacts | .savingFacts => .factExtractionFailed

/-- The message of the handler of a step. -/
def failedMessage : Step → String
  | .savingDraft => "Draft persistence failed and was rolled back"
  | .extracting => "FactExtractorAgent failed; the generated draft was preserved"
  | .savingFacts => "Fact persistence failed and was rolled back"
  | _ => "WriterAgent failed"

/-- The handlers of the steps. -/
def handle (raised : Step × Error) : Program StoryDatabase Error Empty :=
  if catches sqlAlchemy raised.1 raised.2 then
    fail outside request (failedStatus raised.1) (failedMessage raised.1)
  else throw raised.2

/-- **Generation** is its steps, and one handler for what they raise. -/
theorem generate_eq : generate sqlAlchemy normalizer outside request =
    start outside request >>= fun _ =>
      (steps normalizer outside request).escalate (handle sqlAlchemy outside request) := by
  have huncaught {step : Step} (hstep : ∀ e, catches sqlAlchemy step e = false) (e : Error) :
      handle sqlAlchemy outside request (step, e) = throw e := by
    rw [handle, if_neg (by simp [hstep])]
  refine bind_congr fun _ => ?_
  refine Program.escalate_bind (fun _ => rfl) fun draft => ?_
  refine Program.escalate_bind_uncaught (huncaught fun _ => rfl) fun _ => ?_
  refine Program.escalate_bind (fun _ => rfl) fun version => ?_
  refine Program.escalate_bind_uncaught (huncaught fun _ => rfl) fun _ => ?_
  refine Program.escalate_bind (fun _ => rfl) fun extraction => ?_
  refine Program.escalate_bind_uncaught (huncaught fun _ => rfl) fun _ => ?_
  refine Program.escalate_bind (fun _ => rfl) fun _ => ?_
  rfl

end Steps

end ChapterGenerationService

namespace EvaluationService

/-- The steps of `evaluate` after its status is set. -/
inductive Step
  | checking
  | preparing
  | criticizing (scores : LocalScores)
  | combining
  | saving
  deriving DecidableEq, Repr

variable {sqlAlchemy : SQLAlchemy} {outside : Outside} {request : EvaluationRequest}

/-- The steps without their handlers. -/
def steps (outside : Outside) (loaded : LoadedEvaluation) (content : String) :
    Program StoryDatabase (Step × Error) Unit := do
  let scores ← (Program.ofExcept outside.localScores).tag (Step.checking, ·)
  (Program.raising outside.criticContext).tag (Step.preparing, ·)
  let critique ← (Program.ofExcept (CriticAgent.critique content outside.critic)).tag
    (Step.criticizing scores, ·)
  let combined ← (Program.ofExcept (outside.combined scores critique)).tag (Step.combining, ·)
  (write outside.complete (persistComplete loaded combined)).tag (Step.saving, ·)

/-- The handlers of the steps. -/
def handle (sqlAlchemy : SQLAlchemy) (outside : Outside) (loaded : LoadedEvaluation) :
    Step × Error → Program StoryDatabase Error Empty
  | (.checking, _) => fail sqlAlchemy outside loaded "Local chapter evaluation failed"
  | (.criticizing scores, e) =>
      if isAgentExecutionError e || isEvaluationError e then
        preserve sqlAlchemy outside loaded scores
      else throw e
  | (.saving, e) =>
      if sqlAlchemy.isError e then fail sqlAlchemy outside loaded "Evaluation persistence failed"
      else throw e
  | (.preparing, e) | (.combining, e) => throw e

/-- **An evaluation** is its steps, and one handler for what they raise. -/
theorem evaluateNew_eq : evaluateNew sqlAlchemy outside request =
    start outside request >>= fun loaded =>
      (steps outside loaded.1 loaded.2).escalate (handle sqlAlchemy outside loaded.1) := by
  refine bind_congr fun loaded => ?_
  refine Program.escalate_bind (fun _ => rfl) fun scores => ?_
  refine Program.escalate_bind_uncaught (fun _ => rfl) fun _ => ?_
  refine Program.escalate_bind (fun _ => rfl) fun critique => ?_
  refine Program.escalate_bind_uncaught (fun _ => rfl) fun combined => ?_
  exact Program.escalate_tag fun _ => rfl

end EvaluationService

end StoryForge
