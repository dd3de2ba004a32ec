import StoryForge.Library.Machine
import StoryForge.Providers.Walk
import StoryForge.Reliability.CircuitBreaker

/-!
# The half-open probe

A breaker that is shared by calls of the language models and of the embeddings. An attempt
asks it first; what the attempt ends with decides whether the breaker hears of it again. An
attempt that was let through as the probe and ends without a report keeps the probe, and the
breaker takes no call any more.

Attempts overlap in any order; only the question and the reports touch the breaker.

## Main results

* `AttemptEnv.reports_ne_nil_iff` — which attempts report;
* `ProbeSystem.probe_of_reachable` — when every probe reports, the probe is free unless one
  is under way, and the breaker takes a call once the cooldown has passed;
* `ProbeSystem.probe_fails` — a probe that is rate limited is never given back.
-/

namespace StoryForge

/-- The two callers of a breaker. -/
inductive Caller
  | languageModel
  | embedding
  deriving DecidableEq, Repr

/-- The embedding exceptions that the breaker counts: `EmbeddingTimeoutError`,
`EmbeddingProviderError` and its subclasses. -/
def embeddingFailure (error : Error) : Bool :=
  error.className ∈ ["EmbeddingTimeoutError", "EmbeddingProviderError",
    "EmbeddingInvalidResponseError", "EmbeddingDimensionError"]

/-- The exceptions that a caller reports as failures. -/
def Caller.counts : Caller → Error → Bool
  | .languageModel => breakerFailure
  | .embedding => embeddingFailure

/-- An attempt that the breaker has let through. An attempt on embeddings closes no
idempotency record. -/
def AttemptEnv.admitted (e : AttemptEnv) : Caller → AttemptEnv
  | .languageModel => { e with beforeCall := none }
  | .embedding => { e with beforeCall := none, succeed := none }

/-- What an attempt that was let through tells the breaker, in order. -/
def AttemptEnv.reports (e : AttemptEnv) (caller : Caller) : List Report :=
  ((((e.admitted caller).attempt caller.counts id).exec
    [{ candidate := 0, attempt := 0 }]).2.map (·.reports)).flatten

/-- Tell a breaker. -/
def CircuitBreaker.tell {τ : Type} (config : CircuitConfig τ) (key : String) (now : τ)
    (b : CircuitBreaker τ) : Report → CircuitBreaker τ
  | .success => b.recordSuccess key
  | .failure => b.recordFailure config key now

/-! ### Attempts that report -/

namespace AttemptEnv

/-- The exception that ends an attempt before it has reported a success. -/
def raised (e : AttemptEnv) (caller : Caller) : Option Error :=
  (e.admitted caller).fault.or (e.admitted caller).lateFault

/-- The breaker counts the exception, and the handler gets as far as the report of it. -/
abbrev TellsFailure (e : AttemptEnv) (counts : Error → Bool) (error : Error) : Prop :=
  counts error ∧ e.release = none ∧ e.startFailedCall = none ∧ e.finishFailedCall = none ∧
    e.recordFailure = none

/-- The attempt reports a success, or the failure that it ends with. -/
def GivesBack (e : AttemptEnv) (caller : Caller) : Prop :=
  match e.raised caller with
  | none => True
  | some error => e.TellsFailure caller.counts error

instance (e : AttemptEnv) (caller : Caller) : Decidable (e.GivesBack caller) := by
  unfold GivesBack; split <;> infer_instance

variable {e : AttemptEnv} {counts : Error → Bool} {error : Error} {entry : WalkEntry}
  {log : List WalkEntry} {caller : Caller}

/-- What a handler leaves in the log. -/
theorem exec_except_snd : ((e.except counts error).exec (entry :: log)).2 =
    { entry with
      error := some error
      reports := entry.reports ++ if e.TellsFailure counts error then [.failure] else [] }
        :: log := by
  unfold AttemptEnv.except TellsFailure
  cases hrelease : e.release with
  | some raised => simp [Program.exec_bind]
  | none =>
  cases hstart : e.startFailedCall with
  | some raised => simp [Program.exec_bind]
  | none =>
  cases hfinish : e.finishFailedCall with
  | some raised => simp [Program.exec_bind]
  | none =>
  cases hcounts : counts error with
  | false => simp [Program.exec_bind]
  | true => cases hfailure : e.recordFailure <;> simp [Program.exec_bind]

/-- The log of an attempt whose body raises. -/
theorem exec_attempt_snd_of_error {govern : LLMResponse → LLMResponse} {entry' : WalkEntry}
    (h : (e.tryBody govern).exec ({ entry with attempted := true } :: log) =
      (.error error, entry' :: log)) :
    ((e.attempt counts govern).exec (entry :: log)).2 =
      { entry' with
        error := some error
        reports := entry'.reports ++ if e.TellsFailure counts error then [.failure] else [] }
          :: log := by
  unfold attempt
  simp only [Program.exec_bind, exec_note, Program.exec_rescue, h]
  rw [← exec_except_snd]
  rcases (e.except counts error).exec (entry' :: log) with ⟨_ | _, log'⟩ <;> rfl

/-- An attempt that raises before it has reported a success reports at most a failure. -/
theorem reports_of_raised (h : e.raised caller = some error) :
    e.reports caller = if e.TellsFailure caller.counts error then [.failure] else [] := by
  have hadmitted : (e.admitted caller).TellsFailure caller.counts error =
      e.TellsFailure caller.counts error := by cases caller <;> rfl
  unfold raised at h
  unfold reports
  cases hfault : (e.admitted caller).fault with
  | some raised =>
      rw [hfault] at h
      obtain rfl := Option.some.inj h
      obtain ⟨invoked, hbody⟩ := exec_tryBody_of_fault hfault id
        { candidate := 0, attempt := 0, attempted := true } []
      rw [exec_attempt_snd_of_error hbody]
      simp only [hadmitted]
      simp
  | none =>
      rw [hfault, Option.none_or] at h
      obtain ⟨response, hbody⟩ := exec_tryBody_of_lateFault hfault h id
        { candidate := 0, attempt := 0, attempted := true } []
      rw [exec_attempt_snd_of_error hbody]
      simp only [hadmitted]
      simp

/-- An attempt that raises nothing before that reports a success first. -/
theorem reports_of_answer (h : e.raised caller = none) :
    .success ∈ e.reports caller := by
  unfold raised at h
  rw [Option.or_eq_none_iff] at h
  obtain ⟨response, hbody⟩ := exec_tryBody_of_answer h.1 h.2 id
    { candidate := 0, attempt := 0, attempted := true } []
  unfold reports
  cases hsucceed : (e.admitted caller).succeed with
  | some raised =>
      rw [hsucceed] at hbody
      rw [exec_attempt_snd_of_error hbody]
      simp
  | none =>
      rw [hsucceed] at hbody
      unfold attempt
      simp only [Program.exec_bind, exec_note, Program.exec_rescue, hbody, Program.exec_pure]
      simp

/-- **Which attempts report.** -/
theorem reports_ne_nil_iff : e.reports caller ≠ [] ↔ e.GivesBack caller := by
  unfold GivesBack
  cases h : e.raised caller with
  | none => simp [List.ne_nil_of_mem (reports_of_answer h)]
  | some error => simp [reports_of_raised h]

end AttemptEnv

/-! ### The machine -/

/-- An attempt that the breaker has let through. -/
structure ProbeAttempt where
  key : String
  probe : Bool
  inProgress : Bool
  deriving DecidableEq, Repr

/-- The breaker and the attempts it let through. -/
structure ProbeSystem (τ : Type) where
  breaker : CircuitBreaker τ
  attempts : List ProbeAttempt

/-- An attempt asks the breaker, or ends. -/
inductive ProbeAction (τ : Type)
  | beforeCall (key : String) (now : τ)
  | finish (attempt : ℕ) (caller : Caller) (env : AttemptEnv) (now : τ)

namespace ProbeSystem

variable {τ : Type} [AddCommGroup τ] [LinearOrder τ]

/-- The effect of an action. An attempt that is refused ends there: neither caller counts
`CircuitOpenError`. -/
def next (config : CircuitConfig τ) (s : ProbeSystem τ) : ProbeAction τ → Option (ProbeSystem τ)
  | .beforeCall key now =>
      match s.breaker.beforeCall config key now with
      | .ok breaker =>
          let probe := breaker.halfOpenProbe key && !s.breaker.halfOpenProbe key
          some ⟨breaker, s.attempts ++ [⟨key, probe, true⟩]⟩
      | .error _ => some s
  | .finish i caller env now =>
      (s.attempts[i]?.filter (·.inProgress)).map fun attempt =>
        { breaker := (env.reports caller).foldl (·.tell config attempt.key now) s.breaker
          attempts := s.attempts.set i { attempt with inProgress := false } }

/-- A breaker and its callers. Runs start with a new breaker. -/
def machine (config : CircuitConfig τ) : Machine (ProbeSystem τ) (ProbeAction τ) where
  init s := s = ⟨.new, []⟩
  next := next config

/-- An attempt is under way and holds the probe of a key. -/
def Probing (s : ProbeSystem τ) (key : String) : Prop :=
  ∃ attempt ∈ s.attempts, attempt.key = key ∧ attempt.probe ∧ attempt.inProgress

instance (s : ProbeSystem τ) (key : String) : Decidable (s.Probing key) := by
  unfold Probing; infer_instance

/-- An attempt that ends as a probe gives the probe back. -/
def Reporting (s : ProbeSystem τ) : ProbeAction τ → Prop
  | .beforeCall .. => True
  | .finish i caller env _ => ∀ attempt ∈ s.attempts[i]?, attempt.probe → env.GivesBack caller

instance (s : ProbeSystem τ) (action : ProbeAction τ) : Decidable (s.Reporting action) := by
  unfold Reporting; split <;> infer_instance

/-! ### What a report does -/

variable {config : CircuitConfig τ} {s s' : ProbeSystem τ} {now : τ} {key k : String}

omit [AddCommGroup τ] [LinearOrder τ] in
theorem halfOpenProbe_tell (b : CircuitBreaker τ) (report : Report) :
    (b.tell config key now report).halfOpenProbe = Function.update b.halfOpenProbe key false := by
  cases report <;> rfl

omit [AddCommGroup τ] [LinearOrder τ] in
/-- Any report gives the probe of its key back, and touches no other. -/
theorem halfOpenProbe_foldl_tell (b : CircuitBreaker τ) (reports : List Report) :
    (reports.foldl (·.tell config key now) b).halfOpenProbe k =
      (b.halfOpenProbe k && (decide (reports = []) || decide (k ≠ key))) := by
  induction reports generalizing b with
  | nil => simp
  | cons report reports ih =>
      rw [List.foldl_cons, ih, halfOpenProbe_tell]
      by_cases hk : k = key
      · simp [hk]
      · simp [hk]

/-- A key that has failed often enough has been opened. -/
def Opened (config : CircuitConfig τ) (b : CircuitBreaker τ) : Prop :=
  ∀ key, config.failureThreshold ≤ b.failureCount key → ∃ opened, b.openedAt key = some opened

omit [AddCommGroup τ] [LinearOrder τ] in
theorem opened_tell (hthreshold : 0 < config.failureThreshold) {b : CircuitBreaker τ}
    (h : Opened config b) (report : Report) : Opened config (b.tell config key now report) := by
  intro k hk
  by_cases hkey : k = key
  · subst hkey
    cases report with
    | success =>
        exfalso
        simp only [CircuitBreaker.tell, CircuitBreaker.recordSuccess, CircuitBreaker.failureCount,
          Function.update_self, Option.getD_none, Nat.cast_zero] at hk
        omega
    | failure =>
        have hcount : (b.recordFailure config k now).failureCount k = b.failureCount k + 1 := by
          simp [CircuitBreaker.recordFailure, CircuitBreaker.failureCount]
        refine ⟨now, ?_⟩
        simp only [CircuitBreaker.tell, hcount] at hk
        simp only [CircuitBreaker.tell, CircuitBreaker.recordFailure]
        rw [if_pos hk, Function.update_self]
  · have hcount : (b.tell config key now report).failureCount k = b.failureCount k := by
      cases report <;> simp [CircuitBreaker.tell, CircuitBreaker.recordSuccess,
        CircuitBreaker.recordFailure, CircuitBreaker.failureCount, hkey]
    have hopened : (b.tell config key now report).openedAt k = b.openedAt k := by
      cases report with
      | success => simp [CircuitBreaker.tell, CircuitBreaker.recordSuccess, hkey]
      | failure =>
          simp only [CircuitBreaker.tell, CircuitBreaker.recordFailure]
          split <;> simp [hkey]
    rw [hopened]
    exact h k (hcount ▸ hk)

omit [AddCommGroup τ] [LinearOrder τ] in
theorem opened_foldl_tell (hthreshold : 0 < config.failureThreshold) {b : CircuitBreaker τ}
    (h : Opened config b) (reports : List Report) :
    Opened config (reports.foldl (·.tell config key now) b) := by
  induction reports generalizing b with
  | nil => exact h
  | cons report reports ih => exact ih (opened_tell hthreshold h report)

/-- The question changes the probe of its key and nothing else. -/
theorem beforeCall_spec {b b' : CircuitBreaker τ} (h : b.beforeCall config key now = .ok b') :
    b'.failures = b.failures ∧ b'.openedAt = b.openedAt ∧
      (b' = b ∨ b'.halfOpenProbe = Function.update b.halfOpenProbe key true ∧
        b.halfOpenProbe key = false) := by
  unfold CircuitBreaker.beforeCall at h
  split at h
  · obtain rfl := Except.ok.inj h
    exact ⟨rfl, rfl, .inl rfl⟩
  · split at h
    · cases h
    · split at h
      · cases h
      · rename_i hfree
        obtain rfl := Except.ok.inj h
        exact ⟨rfl, rfl, .inr ⟨rfl, by simpa using hfree⟩⟩

/-- A free probe is given out once the cooldown has passed. -/
theorem beforeCall_of_free {b : CircuitBreaker τ} (hopened : Opened config b)
    (hfree : b.halfOpenProbe key = false)
    (hcooldown : ∀ opened, b.openedAt key = some opened → config.cooldown ≤ now - opened) :
    ∃ b', b.beforeCall config key now = .ok b' := by
  unfold CircuitBreaker.beforeCall
  by_cases hcount : (b.failureCount key : ℤ) < config.failureThreshold
  · rw [if_pos hcount]
    exact ⟨_, rfl⟩
  · obtain ⟨opened, hsome⟩ := hopened key (not_lt.mp hcount)
    rw [if_neg hcount, hsome, Option.getD_some,
      if_neg (not_lt.mpr (hcooldown opened hsome)), hfree]
    exact ⟨_, rfl⟩

/-! ### The invariant -/

/-- The probe of a key is out only while an attempt holds it. -/
structure Guarded (config : CircuitConfig τ) (s : ProbeSystem τ) : Prop where
  probing : ∀ key, s.breaker.halfOpenProbe key → s.Probing key
  opened : Opened config s.breaker

/-- A probe attempt that ends under the guard gives its probe back. -/
theorem free_of_finish {i : ℕ} {caller : Caller} {env : AttemptEnv} {attempt : ProbeAttempt}
    (hok : s.Reporting (.finish i caller env now)) (hattempt : s.attempts[i]? = some attempt)
    (hprobe : attempt.probe) (hnext : next config s (.finish i caller env now) = some s') :
    s'.breaker.halfOpenProbe attempt.key = false := by
  have hreports := AttemptEnv.reports_ne_nil_iff.mpr (hok attempt hattempt hprobe)
  simp only [next, Option.map_eq_some_iff] at hnext
  obtain ⟨ended, hfilter, rfl⟩ := hnext
  obtain ⟨hended, -⟩ := Option.filter_eq_some_iff.mp hfilter
  obtain rfl := Option.some.inj (hended.symm.trans hattempt)
  rw [halfOpenProbe_foldl_tell]
  simp [hreports]

theorem guarded_next (hthreshold : 0 < config.failureThreshold) {action : ProbeAction τ}
    (h : Guarded config s) (hok : s.Reporting action) (hnext : next config s action = some s') :
    Guarded config s' := by
  cases action with
  | beforeCall key now =>
      simp only [next] at hnext
      cases hcall : s.breaker.beforeCall config key now with
      | error e =>
          rw [hcall] at hnext
          obtain rfl := Option.some.inj hnext
          exact h
      | ok b =>
          rw [hcall] at hnext
          obtain rfl := Option.some.inj hnext
          obtain ⟨hfailures, hopened, hprobe⟩ := beforeCall_spec hcall
          constructor
          · intro k hk
            by_cases hold : s.breaker.halfOpenProbe k
            · obtain ⟨attempt, hmem, hattempt⟩ := h.probing k hold
              exact ⟨attempt, List.mem_append_left _ hmem, hattempt⟩
            · rcases hprobe with rfl | ⟨hprobe, hfree⟩
              · exact absurd hk hold
              · have hkey : k = key := by
                  by_contra hne
                  rw [hprobe, Function.update_of_ne hne] at hk
                  exact hold hk
                subst hkey
                refine ⟨_, List.mem_append_right _ (List.mem_singleton_self _), rfl, ?_, rfl⟩
                simp [hprobe, hfree]
          · intro k hk
            simp only [CircuitBreaker.failureCount, hfailures] at hk
            simp only [hopened]
            exact h.opened k hk
  | finish i caller env now =>
      have hnext' := hnext
      simp only [next, Option.map_eq_some_iff] at hnext
      obtain ⟨ended, hfilter, hs'⟩ := hnext
      obtain ⟨hended, -⟩ := Option.filter_eq_some_iff.mp hfilter
      constructor
      · intro k hk
        have hfree := fun hprobe => free_of_finish hok hended hprobe hnext'
        subst hs'
        rw [halfOpenProbe_foldl_tell] at hk
        obtain ⟨attempt, hmem, rfl, hprobe, hprogress⟩ :=
          h.probing k (Bool.and_elim_left hk)
        obtain ⟨j, hj⟩ := List.mem_iff_getElem?.mp hmem
        by_cases hij : i = j
        · -- the attempt that held the probe is the one that ends, so it was given back
          subst hij
          obtain rfl := Option.some.inj (hended.symm.trans hj)
          have hfalse := hfree hprobe
          rw [halfOpenProbe_foldl_tell] at hfalse
          rw [hfalse] at hk
          exact absurd hk (by simp)
        · refine ⟨attempt, List.mem_of_getElem? (i := j) ?_, rfl, hprobe, hprogress⟩
          rw [List.getElem?_set_ne hij]
          exact hj
      · subst hs'
        exact opened_foldl_tell hthreshold h.opened _

/-- **The half-open probe is always given back.** In a run in which every attempt that ends as
a probe reports, an attempt that ends frees its probe; no probe is out unless an attempt that
holds it is under way; and a breaker without one takes a call once the cooldown has passed. -/
theorem probe_of_reachable (config : CircuitConfig τ) (hthreshold : 0 < config.failureThreshold)
    {s : ProbeSystem τ} (hs : (machine config).ReachableUnder Reporting s) (key : String) :
    (∀ i caller env now attempt s', s.Reporting (.finish i caller env now) →
        s.attempts[i]? = some attempt → attempt.probe →
        next config s (.finish i caller env now) = some s' →
        s'.breaker.halfOpenProbe attempt.key = false) ∧
      (s.breaker.halfOpenProbe key → s.Probing key) ∧
      (¬ s.Probing key → ∀ now,
        (∀ opened, s.breaker.openedAt key = some opened → config.cooldown ≤ now - opened) →
        ∃ b, s.breaker.beforeCall config key now = .ok b) := by
  have hguarded : Guarded config s := hs.invariant (I := Guarded config)
    (by
      rintro _ rfl
      refine ⟨fun key h => absurd h (by simp [CircuitBreaker.new]), fun key h => ?_⟩
      simp only [CircuitBreaker.failureCount, CircuitBreaker.new, Option.getD_none,
        Nat.cast_zero] at h
      omega)
    (fun s a s' _ h hok hnext => guarded_next hthreshold h hok hnext)
  refine ⟨fun i caller env now attempt s' hok hattempt hprobe hnext =>
    free_of_finish hok hattempt hprobe hnext, hguarded.probing key, fun hfree now hcooldown => ?_⟩
  refine beforeCall_of_free hguarded.opened ?_ hcooldown
  by_contra hprobe
  exact hfree (hguarded.probing key (by simpa using hprobe))

/-! ### A probe that is lost -/

/-- The breaker of the default settings. -/
def circuit : CircuitConfig ℤ where
  failureThreshold := 3
  cooldown := 30

/-- An attempt on which the provider raises. -/
def providerRaises (kind : LLMErrorKind) : AttemptEnv where
  provider := .error (.llmError kind "provider" 1)

/-- Three attempts that the provider fails open the circuit; after the cooldown a fourth one
is let through and ends with `last`. -/
def probed (last : LLMErrorKind) : List (ProbeAction ℤ) :=
  let key := "openai/gpt"
  [.beforeCall key 0, .finish 0 .languageModel (providerRaises .service) 1,
    .beforeCall key 2, .finish 1 .languageModel (providerRaises .service) 3,
    .beforeCall key 4, .finish 2 .languageModel (providerRaises .service) 5,
    .beforeCall key 40, .finish 3 .languageModel (providerRaises last) 41]

/-- A probe that is rate limited is kept: no attempt is under way, and the breaker refuses
every call from then on. -/
theorem probe_fails : ∃ s, (machine circuit).Reachable s ∧ (∀ key, ¬ s.Probing key) ∧
    s.breaker.halfOpenProbe "openai/gpt" ∧
    ∀ now, ∃ e, s.breaker.beforeCall circuit "openai/gpt" now = .error e := by
  obtain ⟨s, hs, hidle, hprobe, hcount⟩ :=
    (machine circuit).exists_reachable (probed .rateLimit)
      (fun s => (∀ attempt ∈ s.attempts, attempt.inProgress = false) ∧
        s.breaker.halfOpenProbe "openai/gpt" ∧
        circuit.failureThreshold ≤ s.breaker.failureCount "openai/gpt")
      (s := ⟨.new, []⟩) rfl (by decide +kernel)
  refine ⟨s, hs, ?_, hprobe, fun now => ?_⟩
  · rintro key ⟨attempt, hmem, -, -, hprogress⟩
    exact absurd hprogress (by simp [hidle attempt hmem])
  · unfold CircuitBreaker.beforeCall
    rw [if_neg (not_lt.mpr hcount), if_pos hprobe]
    split <;> exact ⟨_, rfl⟩

/-- A probe that times out is given back: after the next cooldown a call is taken. -/
theorem probe_of_reachable_timedOut : ∃ s, (machine circuit).ReachableUnder Reporting s ∧
    s.breaker.failureCount "openai/gpt" = 4 ∧
    ∃ b, s.breaker.beforeCall circuit "openai/gpt" 71 = .ok b := by
  obtain ⟨s, hs, hcount, hidle, hopened⟩ :=
    (machine circuit).exists_reachableUnder Reporting (probed .timeout)
      (fun s => s.breaker.failureCount "openai/gpt" = 4 ∧ ¬ s.Probing "openai/gpt" ∧
        s.breaker.openedAt "openai/gpt" = some 41)
      (s := ⟨.new, []⟩) rfl (by decide +kernel)
  refine ⟨s, hs, hcount, (probe_of_reachable circuit (by decide) hs "openai/gpt").2.2 hidle 71 ?_⟩
  intro opened h
  obtain rfl := Option.some.inj (hopened.symm.trans h)
  decide

end ProbeSystem

end StoryForge
