import Mathlib.Algebra.Group.Basic
import Mathlib.Logic.Function.Basic
import Mathlib.Order.Lattice
import StoryForge.Library.Transducer
import StoryForge.Enums

/-!
# `CircuitBreaker`

The circuit of a provider and model. It is closed as long as fewer failures than the
threshold follow each other; once open it refuses every call until the cooldown has passed,
and then takes one call as a probe. A success forgets everything; a failure gives the probe
back and starts the cooldown again.

An operation reads the clock once, at `now`. Times are elements of any ordered group, so
nothing is lost to rounding.
-/

namespace StoryForge

inductive CircuitState
  | closed
  | «open»
  | halfOpen
  deriving DecidableEq, Repr

structure CircuitSnapshot where
  state : CircuitState
  failures : ℕ
  deriving DecidableEq, Repr

/-- What a breaker is built with. -/
structure CircuitConfig (τ : Type) where
  failureThreshold : ℤ
  cooldown : τ

/-- The tables of a breaker, by key. -/
structure CircuitBreaker (τ : Type) where
  failures : String → Option ℕ
  openedAt : String → Option τ
  halfOpenProbe : String → Bool

/-- The operations of a breaker. -/
inductive CircuitOperation
  | beforeCall (key : String)
  | recordSuccess (key : String)
  | recordFailure (key : String)
  | snapshot (key : String)
  deriving DecidableEq, Repr

/-- What an operation answers. -/
inductive CircuitAnswer
  | admitted
  | refused
  | recorded
  | reported (snapshot : CircuitSnapshot)
  deriving DecidableEq, Repr

/-- A call is admitted unless `before_call` raises. -/
def CircuitAnswer.ofCall {α : Type} : Except Error α → CircuitAnswer
  | .ok _ => .admitted
  | .error _ => .refused

namespace CircuitBreaker

variable {τ : Type} [AddCommGroup τ] [LinearOrder τ]

/-- A new breaker. -/
def new : CircuitBreaker τ := ⟨fun _ => none, fun _ => none, fun _ => false⟩

/-- The failures of a key since its last success. -/
def failureCount (b : CircuitBreaker τ) (key : String) : ℕ := (b.failures key).getD 0

/-- `before_call`. -/
def beforeCall (config : CircuitConfig τ) (key : String) (now : τ) (b : CircuitBreaker τ) :
    Except Error (CircuitBreaker τ) :=
  if (b.failureCount key : ℤ) < config.failureThreshold then .ok b
  else if now - (b.openedAt key).getD now < config.cooldown then
    .error (.circuitOpenError "Provider circuit is open")
  else if b.halfOpenProbe key then
    .error (.circuitOpenError "Provider circuit half-open probe is already active")
  else .ok { b with halfOpenProbe := Function.update b.halfOpenProbe key true }

/-- `record_success`. -/
def recordSuccess (key : String) (b : CircuitBreaker τ) : CircuitBreaker τ where
  failures := Function.update b.failures key none
  openedAt := Function.update b.openedAt key none
  halfOpenProbe := Function.update b.halfOpenProbe key false

/-- `record_failure`. -/
def recordFailure (config : CircuitConfig τ) (key : String) (now : τ) (b : CircuitBreaker τ) :
    CircuitBreaker τ where
  failures := Function.update b.failures key (some (b.failureCount key + 1))
  openedAt :=
    if config.failureThreshold ≤ (b.failureCount key + 1 : ℕ) then
      Function.update b.openedAt key (some now)
    else b.openedAt
  halfOpenProbe := Function.update b.halfOpenProbe key false

/-- `snapshot`. -/
def snapshot (config : CircuitConfig τ) (key : String) (now : τ) (b : CircuitBreaker τ) :
    CircuitSnapshot where
  state :=
    if (b.failureCount key : ℤ) < config.failureThreshold then .closed
    else if config.cooldown ≤ now - (b.openedAt key).getD 0 then .halfOpen
    else .open
  failures := b.failureCount key

/-- The breaker as an object that is called at some time. -/
def object (config : CircuitConfig τ) :
    Transducer (CircuitBreaker τ) (CircuitOperation × τ) CircuitAnswer where
  start := new
  step b call :=
    match call.1 with
    | .beforeCall key =>
        let result := beforeCall config key call.2 b
        (.ofCall result, result.toOption.getD b)
    | .recordSuccess key => (.recorded, recordSuccess key b)
    | .recordFailure key => (.recorded, recordFailure config key call.2 b)
    | .snapshot key => (.reported (snapshot config key call.2 b), b)

end CircuitBreaker

end StoryForge
