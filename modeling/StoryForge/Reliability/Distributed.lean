import StoryForge.Reliability.CircuitBreaker

/-!
# `RedisCircuitBreaker`

The circuit shared by all replicas: a hash in Redis for every key, read and written by
scripts that run as one step. The fields of a hash are optional; a hash without fields does
not exist.

## Main results

* `redisCircuitBreaker_run_eq` — the shared breaker answers every sequence of operations as
  the breaker in memory does.
-/

namespace StoryForge

/-- The hash of a circuit. -/
structure CircuitHash (τ : Type) where
  failures : Option ℕ
  openedAt : Option τ
  probe : Option String

/-- A Redis server, as far as the breaker uses it. -/
abbrev RedisStore (τ : Type) := String → CircuitHash τ

/-- `RedisCircuitBreaker`: the prefix of its keys, and the value it marks a probe with. -/
structure RedisCircuitBreaker (τ : Type) extends CircuitConfig τ where
  keyPrefix : String
  probeToken : τ → String

/-- The hash that does not exist. -/
def CircuitHash.absent {τ : Type} : CircuitHash τ := ⟨none, none, none⟩

namespace RedisCircuitBreaker

variable {τ : Type} [AddCommGroup τ] [LinearOrder τ] (breaker : RedisCircuitBreaker τ)

/-- `_key`. -/
def key (key : String) : String := breaker.keyPrefix ++ ":circuit:" ++ key

/-- The script of `before_call`: what it returns, and the hash it leaves. -/
def admitScript (now : τ) (hash : CircuitHash τ) : ℕ × CircuitHash τ :=
  if (hash.failures.getD 0 : ℕ) < breaker.failureThreshold then (1, hash)
  else if now - hash.openedAt.getD now < breaker.cooldown then (0, hash)
  else
    match hash.probe with
    | some _ => (0, hash)
    | none => (1, { hash with probe := some (breaker.probeToken now) })

/-- The script of `record_failure`. -/
def failureScript (now : τ) (hash : CircuitHash τ) : CircuitHash τ where
  failures := some (hash.failures.getD 0 + 1)
  openedAt :=
    if breaker.failureThreshold ≤ (hash.failures.getD 0 + 1 : ℕ) then some now else hash.openedAt
  probe := none

/-- `before_call`. -/
def beforeCall (name : String) (now : τ) (store : RedisStore τ) :
    Except Error Unit × RedisStore τ :=
  let result := breaker.admitScript now (store (breaker.key name))
  (if result.1 = 1 then .ok () else .error (.circuitOpenError "Provider circuit is open"),
    Function.update store (breaker.key name) result.2)

/-- `record_success`. -/
def recordSuccess (name : String) (store : RedisStore τ) : RedisStore τ :=
  Function.update store (breaker.key name) .absent

/-- `record_failure`. -/
def recordFailure (name : String) (now : τ) (store : RedisStore τ) : RedisStore τ :=
  Function.update store (breaker.key name)
    (breaker.failureScript now (store (breaker.key name)))

/-- `snapshot`. -/
def snapshot (name : String) (now : τ) (store : RedisStore τ) : CircuitSnapshot :=
  let values := store (breaker.key name)
  { state :=
      if (values.failures.getD 0 : ℕ) < breaker.failureThreshold then .closed
      else if breaker.cooldown ≤ now - values.openedAt.getD 0 then .halfOpen
      else .open
    failures := values.failures.getD 0 }

/-- The breaker as an object that is called at some time. -/
def object : Transducer (RedisStore τ) (CircuitOperation × τ) CircuitAnswer where
  start _ := .absent
  step store call :=
    match call.1 with
    | .beforeCall name =>
        let result := breaker.beforeCall name call.2 store
        (.ofCall result.1, result.2)
    | .recordSuccess name => (.recorded, breaker.recordSuccess name store)
    | .recordFailure name => (.recorded, breaker.recordFailure name call.2 store)
    | .snapshot name => (.reported (breaker.snapshot name call.2 store), store)

/-! ### Refinement -/

/-- The hash of a name holds what the breaker in memory has for it. -/
structure Holds (hash : CircuitHash τ) (b : CircuitBreaker τ) (name : String) : Prop where
  failures : hash.failures = b.failures name
  openedAt : hash.openedAt = b.openedAt name
  probe : hash.probe.isSome = b.halfOpenProbe name

/-- Every hash does. -/
def Represents (store : RedisStore τ) (b : CircuitBreaker τ) : Prop :=
  ∀ name, Holds (store (breaker.key name)) b name

variable {breaker} {store : RedisStore τ} {b : CircuitBreaker τ} {name : String} {now : τ}

omit [AddCommGroup τ] [LinearOrder τ] in
theorem key_injective : Function.Injective breaker.key := by
  intro a b h
  simpa [key] using h

omit [AddCommGroup τ] [LinearOrder τ] in
theorem Holds.failureCount {hash : CircuitHash τ} (h : Holds hash b name) :
    hash.failures.getD 0 = b.failureCount name := by
  rw [h.failures, CircuitBreaker.failureCount]

omit [AddCommGroup τ] [LinearOrder τ] in
/-- One hash is written, and the tables of the name with it. -/
theorem Represents.update {hash : CircuitHash τ} {b' : CircuitBreaker τ}
    (h : breaker.Represents store b) (hself : Holds hash b' name)
    (hother : ∀ other, other ≠ name → b'.failures other = b.failures other ∧
      b'.openedAt other = b.openedAt other ∧ b'.halfOpenProbe other = b.halfOpenProbe other) :
    breaker.Represents (Function.update store (breaker.key name) hash) b' := by
  intro other
  by_cases hname : other = name
  · subst hname
    rw [Function.update_self]
    exact hself
  · rw [Function.update_of_ne fun heq => hname (key_injective heq)]
    obtain ⟨hfailures, hopened, hprobe⟩ := hother other hname
    obtain ⟨hf, ho, hp⟩ := h other
    exact ⟨hf.trans hfailures.symm, ho.trans hopened.symm, hp.trans hprobe.symm⟩

/-- The script admits exactly the calls that the breaker in memory admits. -/
theorem represents_beforeCall (h : breaker.Represents store b) :
    CircuitAnswer.ofCall (breaker.beforeCall name now store).1 =
        .ofCall (CircuitBreaker.beforeCall breaker.toCircuitConfig name now b) ∧
      breaker.Represents (breaker.beforeCall name now store).2
        ((CircuitBreaker.beforeCall breaker.toCircuitConfig name now b).toOption.getD b) := by
  obtain ⟨hfailures, hopened, hprobe⟩ := h name
  have hkept : breaker.Represents
      (Function.update store (breaker.key name) (store (breaker.key name))) b := by
    rw [Function.update_eq_self]
    exact h
  have hcount := (h name).failureCount
  unfold RedisCircuitBreaker.beforeCall
  by_cases hclosed : (b.failureCount name : ℤ) < breaker.failureThreshold
  · have hscript : breaker.admitScript now (store (breaker.key name)) =
        (1, store (breaker.key name)) := if_pos (by rw [hcount]; exact hclosed)
    have hmemory : CircuitBreaker.beforeCall breaker.toCircuitConfig name now b = .ok b :=
      if_pos hclosed
    rw [hscript, hmemory]
    exact ⟨rfl, hkept⟩
  by_cases hopen : now - (store (breaker.key name)).openedAt.getD now < breaker.cooldown
  · have hscript : breaker.admitScript now (store (breaker.key name)) =
        (0, store (breaker.key name)) := by
      rw [admitScript, if_neg (by rw [hcount]; exact hclosed), if_pos hopen]
    have hmemory : CircuitBreaker.beforeCall breaker.toCircuitConfig name now b =
        .error (.circuitOpenError "Provider circuit is open") := by
      rw [CircuitBreaker.beforeCall, if_neg hclosed, ← hopened, if_pos hopen]
    rw [hscript, hmemory]
    exact ⟨rfl, hkept⟩
  cases hp : (store (breaker.key name)).probe with
  | some token =>
      have hscript : breaker.admitScript now (store (breaker.key name)) =
          (0, store (breaker.key name)) := by
        rw [admitScript, if_neg (by rw [hcount]; exact hclosed), if_neg hopen, hp]
      have hbusy : b.halfOpenProbe name = true := by rw [← hprobe, hp]; rfl
      have hmemory : CircuitBreaker.beforeCall breaker.toCircuitConfig name now b =
          .error (.circuitOpenError "Provider circuit half-open probe is already active") := by
        rw [CircuitBreaker.beforeCall, if_neg hclosed, ← hopened, if_neg hopen, if_pos hbusy]
      rw [hscript, hmemory]
      exact ⟨rfl, hkept⟩
  | none =>
      have hscript : breaker.admitScript now (store (breaker.key name)) =
          (1, { store (breaker.key name) with probe := some (breaker.probeToken now) }) := by
        rw [admitScript, if_neg (by rw [hcount]; exact hclosed), if_neg hopen, hp]
      have hfree : ¬ b.halfOpenProbe name = true := by rw [← hprobe, hp]; simp
      have hmemory : CircuitBreaker.beforeCall breaker.toCircuitConfig name now b =
          .ok { b with halfOpenProbe := Function.update b.halfOpenProbe name true } := by
        rw [CircuitBreaker.beforeCall, if_neg hclosed, ← hopened, if_neg hopen, if_neg hfree]
      rw [hscript, hmemory]
      refine ⟨rfl, h.update ⟨hfailures, hopened, ?_⟩ fun other hother => ⟨rfl, rfl, ?_⟩⟩
      · exact (Function.update_self name true b.halfOpenProbe).symm
      · exact Function.update_of_ne hother _ _

omit [AddCommGroup τ] [LinearOrder τ] in
theorem represents_recordSuccess (h : breaker.Represents store b) :
    breaker.Represents (breaker.recordSuccess name store) (b.recordSuccess name) := by
  refine h.update ?_ fun other hother => ⟨?_, ?_, ?_⟩
  · simp only [CircuitHash.absent, CircuitBreaker.recordSuccess]
    constructor <;> simp
  · exact Function.update_of_ne hother _ _
  · exact Function.update_of_ne hother _ _
  · exact Function.update_of_ne hother _ _

omit [AddCommGroup τ] [LinearOrder τ] in
theorem represents_recordFailure (h : breaker.Represents store b) :
    breaker.Represents (breaker.recordFailure name now store)
      (b.recordFailure breaker.toCircuitConfig name now) := by
  obtain ⟨hfailures, hopened, -⟩ := h name
  have hcount := (h name).failureCount
  refine h.update ⟨?_, ?_, ?_⟩ fun other hother => ⟨?_, ?_, ?_⟩
  · simp only [failureScript, CircuitBreaker.recordFailure, CircuitBreaker.failureCount,
      hfailures, Function.update_self]
  · by_cases hreached : breaker.failureThreshold ≤ (b.failureCount name + 1 : ℕ)
    · rw [failureScript, CircuitBreaker.recordFailure]
      dsimp only
      rw [if_pos hreached, hcount, if_pos hreached, Function.update_self]
    · rw [failureScript, CircuitBreaker.recordFailure]
      dsimp only
      rw [if_neg hreached, hcount, if_neg hreached, hopened]
  · exact (Function.update_self name false b.halfOpenProbe).symm
  · exact Function.update_of_ne hother _ _
  · by_cases hreached : breaker.failureThreshold ≤ (b.failureCount name + 1 : ℕ)
    · rw [CircuitBreaker.recordFailure]
      dsimp only
      rw [if_pos hreached, Function.update_of_ne hother]
    · rw [CircuitBreaker.recordFailure]
      dsimp only
      rw [if_neg hreached]
  · exact Function.update_of_ne hother _ _

theorem snapshot_eq (h : breaker.Represents store b) :
    breaker.snapshot name now store = b.snapshot breaker.toCircuitConfig name now := by
  obtain ⟨hfailures, hopened, -⟩ := h name
  have hcount := (h name).failureCount
  rw [RedisCircuitBreaker.snapshot, CircuitBreaker.snapshot]
  rw [hcount, hopened]

variable (breaker)

/-- **The shared breaker refines the one in memory**: whatever the threshold, the cooldown,
the keys and the clock, both admit the same calls and report the same snapshots. -/
theorem redisCircuitBreaker_run_eq (calls : List (CircuitOperation × τ)) :
    breaker.object.run calls = (CircuitBreaker.object breaker.toCircuitConfig).run calls := by
  refine Transducer.run_eq_of_simulation breaker.Represents ?_ ?_ calls
  · intro name
    exact ⟨rfl, rfl, rfl⟩
  · rintro store b ⟨operation, now⟩ h
    cases operation with
    | beforeCall name => exact represents_beforeCall h
    | recordSuccess name => exact ⟨rfl, represents_recordSuccess h⟩
    | recordFailure name => exact ⟨rfl, represents_recordFailure h⟩
    | snapshot name => exact ⟨congrArg CircuitAnswer.reported (snapshot_eq h), h⟩

end RedisCircuitBreaker

end StoryForge
