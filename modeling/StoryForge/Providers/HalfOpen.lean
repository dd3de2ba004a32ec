import StoryForge.Library.Rows
import StoryForge.Providers.Probes

/-!
# One probe at a time

Calls of a breaker in any order. `before_call` admits a call, and the call reports its end
once, as late as it likes. A call that is admitted while the circuit is open is a probe. The
mark of a probe does not say whose it is, and every report takes it away.

## Main results

* `BreakerSystem.singleProbe_of_reachable` — when no other call of a key reports while a probe
  of it is out, a circuit that is half open has at most one probe out;
* `BreakerSystem.singleProbe_fails` — the late failure of an older call makes room for a
  second one.
-/

namespace StoryForge

/-- A call that the breaker has admitted. -/
structure BreakerCall where
  key : String
  probe : Bool
  outstanding : Bool
  deriving DecidableEq, Repr

/-- The call is a probe of a key and has not reported yet. -/
def BreakerCall.probes (call : BreakerCall) (key : String) : Bool :=
  call.key == key && (call.probe && call.outstanding)

/-- The breaker, the calls it has admitted, and the last time its clock was read. -/
structure BreakerSystem (τ : Type) where
  clock : τ
  breaker : CircuitBreaker τ
  calls : List BreakerCall

/-- A call asks the breaker, or reports its end to it. -/
inductive BreakerAction (τ : Type)
  | beforeCall (key : String) (now : τ)
  | report (call : ℕ) (report : Report) (now : τ)

namespace BreakerSystem

variable {τ : Type} [AddCommGroup τ] [LinearOrder τ]

/-- The effect of an action. The clock never goes back. -/
def next (config : CircuitConfig τ) (s : BreakerSystem τ) :
    BreakerAction τ → Option (BreakerSystem τ)
  | .beforeCall key now =>
      if s.clock ≤ now then
        match s.breaker.beforeCall config key now with
        | .ok breaker =>
            let probe := decide (config.failureThreshold ≤ s.breaker.failureCount key)
            some ⟨now, breaker, s.calls ++ [⟨key, probe, true⟩]⟩
        | .error _ => some { s with clock := now }
      else none
  | .report i report now =>
      if s.clock ≤ now then
        (s.calls[i]?.filter (·.outstanding)).map fun call =>
          { clock := now
            breaker := s.breaker.tell config call.key now report
            calls := s.calls.set i { call with outstanding := false } }
      else none

/-- A breaker and its callers. Runs start with a new breaker, at any time. -/
def machine (config : CircuitConfig τ) : Machine (BreakerSystem τ) (BreakerAction τ) where
  init s := s = ⟨s.clock, .new, []⟩
  next := next config

/-- The probes of a key that have not reported. -/
def outstandingProbes (s : BreakerSystem τ) (key : String) : ℕ :=
  s.calls.countP (·.probes key)

/-- At any time at which a circuit is open and its cooldown has passed, at most one probe of it
is outstanding. -/
def SingleProbe (config : CircuitConfig τ) (s : BreakerSystem τ) : Prop :=
  ∀ key now, s.clock ≤ now → (s.breaker.snapshot config key now).state = .halfOpen →
    s.outstandingProbes key ≤ 1

/-- A call that reports while a probe of its key is outstanding is a probe itself. -/
def ProbeReports (s : BreakerSystem τ) : BreakerAction τ → Prop
  | .beforeCall .. => True
  | .report i _ _ => ∀ call ∈ s.calls[i]?, 0 < s.outstandingProbes call.key → call.probe

instance (s : BreakerSystem τ) (action : BreakerAction τ) : Decidable (s.ProbeReports action) :=
  match action with
  | .beforeCall .. => instDecidableTrue
  | .report i _ _ => inferInstanceAs
      (Decidable (∀ call ∈ s.calls[i]?, 0 < s.outstandingProbes call.key → call.probe))

/-! ### The mark of a probe -/

variable {config : CircuitConfig τ} {s s' : BreakerSystem τ} {key : String} {now : τ}

/-- A call is admitted by a closed circuit, or takes the free mark of an open one. -/
theorem beforeCall_ok {b b' : CircuitBreaker τ} (h : b.beforeCall config key now = .ok b') :
    (b.failureCount key : ℤ) < config.failureThreshold ∧ b' = b ∨
      config.failureThreshold ≤ b.failureCount key ∧ b.halfOpenProbe key = false ∧
        b'.halfOpenProbe = Function.update b.halfOpenProbe key true := by
  unfold CircuitBreaker.beforeCall at h
  split at h
  · rename_i hclosed
    exact .inl ⟨hclosed, (Except.ok.inj h).symm⟩
  · rename_i hopen
    split at h
    · cases h
    · split at h
      · cases h
      · rename_i hfree
        obtain rfl := Except.ok.inj h
        exact .inr ⟨not_lt.mp hopen, by simpa using hfree, rfl⟩

theorem probes_admitted (key k : String) (probe : Bool) :
    (BreakerCall.mk key probe true).probes k = (key == k && probe) := by
  simp [BreakerCall.probes]

/-- The mark of a key is set while a probe of it is outstanding, which is the only one. -/
def Marked (s : BreakerSystem τ) : Prop :=
  ∀ key, s.outstandingProbes key = (s.breaker.halfOpenProbe key).toNat

/-- A call that is admitted keeps the marks right. -/
theorem marked_beforeCall (h : Marked s)
    (hnext : next config s (.beforeCall key now) = some s') : Marked s' := by
  simp only [next] at hnext
  split at hnext
  case isFalse => cases hnext
  case isTrue =>
    cases hcall : s.breaker.beforeCall config key now with
    | error e =>
        rw [hcall] at hnext
        obtain rfl := Option.some.inj hnext
        exact h
    | ok b =>
        rw [hcall] at hnext
        obtain rfl := Option.some.inj hnext
        intro k
        have hk := h k
        simp only [outstandingProbes] at hk
        simp only [outstandingProbes, Rows.countP_concat, hk, probes_admitted]
        rcases beforeCall_ok hcall with ⟨hclosed, rfl⟩ | ⟨hopen, hfree, hmark⟩
        · rw [decide_eq_false (not_le.mpr hclosed)]
          simp
        · rw [hmark, decide_eq_true hopen]
          by_cases hkey : k = key
          · subst hkey
            simp [hfree]
          · have hne : key ≠ k := fun heq => hkey heq.symm
            simp [hkey, hne]

/-- So does a report that takes no other call's mark. -/
theorem marked_report {i : ℕ} {report : Report} (h : Marked s)
    (hok : s.ProbeReports (.report i report now))
    (hnext : next config s (.report i report now) = some s') : Marked s' := by
  simp only [next] at hnext
  split at hnext
  case isFalse => cases hnext
  case isTrue =>
    obtain ⟨call, hfilter, rfl⟩ := Option.map_eq_some_iff.mp hnext
    obtain ⟨hcall, hout⟩ := Option.filter_eq_some_iff.mp hfilter
    intro k
    have hended : ({ call with outstanding := false } : BreakerCall).probes k = false := by
      simp [BreakerCall.probes]
    have hset := Rows.countP_set_add (p := (·.probes k))
      (y := { call with outstanding := false }) hcall
    rw [hended, Bool.toNat_false, Nat.add_zero] at hset
    have hk := (h k).symm.trans hset.symm
    simp only [outstandingProbes, ProbeSystem.halfOpenProbe_tell]
    by_cases hkey : k = call.key
    · subst hkey
      rw [Function.update_self, Bool.toNat_false]
      cases hmark : s.breaker.halfOpenProbe call.key with
      | false =>
          rw [hmark, Bool.toNat_false] at hk
          omega
      | true =>
          -- the mark is set, so a probe is out, and by the guard it is the call that reports
          have hprobe : call.probe := by
            refine hok call hcall ?_
            rw [h call.key, hmark]
            exact Nat.one_pos
          have hprobes : call.probes call.key = true := by
            simp [BreakerCall.probes, hprobe, hout]
          rw [hmark, hprobes, Bool.toNat_true] at hk
          omega
    · have hother : call.probes k = false := by
        simp [BreakerCall.probes, Ne.symm hkey]
      rw [hother, Bool.toNat_false, Nat.add_zero] at hk
      rw [Function.update_of_ne hkey, hk]

/-! ### Single probes -/

/-- **Single half-open probe.** In a run in which no other call of a key reports while a probe
of it is outstanding, a circuit that is open and whose cooldown has passed has at most one
outstanding probe. -/
theorem singleProbe_of_reachable (config : CircuitConfig τ) {s : BreakerSystem τ}
    (hs : (machine config).ReachableUnder ProbeReports s) : SingleProbe config s := by
  have hmarked : Marked s := hs.invariant (I := Marked)
    (by
      intro s hinit key
      rw [hinit]
      rfl)
    (by
      intro s action s' _ h hok hnext
      cases action with
      | beforeCall key now => exact marked_beforeCall h hnext
      | report i report now => exact marked_report h hok hnext)
  intro key now _ _
  rw [hmarked key]
  exact Bool.toNat_le _

/-- A circuit that opens at the first failure, for thirty seconds. -/
def thirtySeconds : CircuitConfig ℤ := ⟨1, 30⟩

/-- A probe that is refused after another, and a second one after its failure. -/
theorem singleProbe_retried : ∃ s, (machine thirtySeconds).ReachableUnder ProbeReports s ∧
    s.breaker.failureCount "llm" = 2 ∧ SingleProbe thirtySeconds s := by
  obtain ⟨s, hs, hcount⟩ := (machine thirtySeconds).exists_reachableUnder ProbeReports
    [.beforeCall "llm" 0, .report 0 .failure 0, .beforeCall "llm" 30, .beforeCall "llm" 31,
      .report 1 .failure 31, .beforeCall "llm" 61]
    (fun s => s.breaker.failureCount "llm" = 2) (s := ⟨0, .new, []⟩) rfl (by decide +kernel)
  exact ⟨s, hs, hcount, singleProbe_of_reachable thirtySeconds hs⟩

/-- The late failure of an older call takes the mark of the first probe away and starts the
cooldown again, and after it there is a second probe. -/
theorem singleProbe_fails : ¬ ∀ s, (machine thirtySeconds).Reachable s →
    SingleProbe thirtySeconds s := by
  intro h
  obtain ⟨s, hs, hclock, hopen, hprobes⟩ := (machine thirtySeconds).exists_reachable
    [.beforeCall "llm" 0, .beforeCall "llm" 0, .report 0 .failure 0, .beforeCall "llm" 30,
      .report 1 .failure 31, .beforeCall "llm" 61]
    (fun s => s.clock ≤ 61 ∧
      (s.breaker.snapshot thirtySeconds "llm" 61).state = .halfOpen ∧
      s.outstandingProbes "llm" = 2)
    (s := ⟨0, .new, []⟩) rfl (by decide +kernel)
  have htwo := h s hs "llm" 61 hclock hopen
  omega

end BreakerSystem

end StoryForge
