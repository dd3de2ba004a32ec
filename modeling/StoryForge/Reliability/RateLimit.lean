import Mathlib.Algebra.Order.BigOperators.Group.List
import Mathlib.Algebra.Order.Ring.Nat
import Mathlib.Algebra.Order.Ring.Rat
import Mathlib.Logic.Function.Basic
import StoryForge.Enums
import StoryForge.Library.Machine
import StoryForge.Library.Rows
import StoryForge.Library.Windows

/-!
# `ProviderRateLimiter`

Admission of calls to a provider within a number of requests and tokens in any minute and a
number of calls at once. `acquire` reads the clock first and takes the lock later, so the
stamps of a deque need not be in order, and a thread can remove what another one, with an
earlier reading, still has to count.

## Main results

* `RateSystem.withinLimits_of_reachable` — when no thread finds an admission gone that it has
  to count, the limits hold in every window;
* `RateSystem.withinLimits_fails` — a thread that reads the clock before another and takes the
  lock after it.
-/

namespace StoryForge

/-- What a limiter is built with. -/
structure ProviderRateLimiter where
  requestsPerMinute : ℕ
  tokensPerMinute : ℕ
  maxConcurrency : ℕ
  deriving DecidableEq, Repr

/-- The tables of a limiter, by key. -/
structure RateTables where
  requests : String → List ℚ
  tokens : String → List (ℚ × ℕ)
  active : String → ℕ

namespace RateTables

/-- New tables. -/
def new : RateTables := ⟨fun _ => [], fun _ => [], fun _ => 0⟩

/-- The loops that remove what is older than a minute. -/
def purged (tables : RateTables) (key : String) (now : ℚ) : RateTables where
  requests := Function.update tables.requests key
    (Windows.purge id (now - 60) (tables.requests key))
  tokens := Function.update tables.tokens key
    (Windows.purge Prod.fst (now - 60) (tables.tokens key))
  active := tables.active

@[simp]
theorem tokens_purged (tables : RateTables) (key : String) (now : ℚ) :
    (tables.purged key now).tokens key =
      Windows.purge Prod.fst (now - 60) (tables.tokens key) :=
  Function.update_self ..

/-- The entries of an admitted call. -/
def appended (tables : RateTables) (key : String) (estimatedTokens : ℕ) (now : ℚ) :
    RateTables where
  requests := Function.update tables.requests key (tables.requests key ++ [now])
  tokens := Function.update tables.tokens key (tables.tokens key ++ [(now, estimatedTokens)])
  active := Function.update tables.active key (tables.active key + 1)

/-- The end of an admitted call. -/
def release (tables : RateTables) (key : String) : RateTables :=
  { tables with active := Function.update tables.active key (tables.active key - 1) }

end RateTables

/-- What `acquire` does under the lock, with the time that it has read before. -/
def ProviderRateLimiter.admit (limiter : ProviderRateLimiter) (key : String)
    (estimatedTokens : ℕ) (now : ℚ) (tables : RateTables) : Except Error Unit × RateTables :=
  let purged := tables.purged key now
  if limiter.requestsPerMinute ≤ (purged.requests key).length then
    (.error (.providerRateLimitError "Provider requests-per-minute limit exceeded"), purged)
  else if limiter.tokensPerMinute < ((purged.tokens key).map Prod.snd).sum + estimatedTokens then
    (.error (.providerRateLimitError "Provider tokens-per-minute limit exceeded"), purged)
  else if limiter.maxConcurrency ≤ purged.active key then
    (.error (.providerRateLimitError "Provider concurrency limit exceeded"), purged)
  else (.ok (), purged.appended key estimatedTokens now)

/-! ### The machine -/

/-- How far a call is. -/
inductive RatePhase
  /-- It has read the clock and has not taken the lock yet. -/
  | waiting
  | admitted
  | refused
  | released
  deriving DecidableEq, Repr

/-- A call of `acquire`, with the time that it has read. -/
structure RateCall where
  key : String
  estimatedTokens : ℕ
  now : ℚ
  phase : RatePhase
  deriving DecidableEq, Repr

/-- The call is admitted under a key and not released. -/
def RateCall.holds (call : RateCall) (key : String) : Bool :=
  call.key == key && decide (call.phase = .admitted)

/-- A limiter and its threads: the clock, the tables, the calls, and the history of the
admissions of each key with their stamps and tokens, in the order of the lock. -/
structure RateSystem where
  clock : ℚ
  tables : RateTables
  calls : List RateCall
  admissions : String → List (ℚ × ℕ)

/-- A thread reads the clock, takes the lock, or leaves the block of an admitted call. -/
inductive RateAction
  | readClock (key : String) (estimatedTokens : ℕ) (now : ℚ)
  | lock (call : ℕ)
  | release (call : ℕ)
  deriving DecidableEq, Repr

namespace RateSystem

/-- The effect of an action. The clock never goes back. -/
def next (limiter : ProviderRateLimiter) (s : RateSystem) : RateAction → Option RateSystem
  | .readClock key estimatedTokens now =>
      if s.clock ≤ now then
        some { s with clock := now, calls := s.calls ++ [⟨key, estimatedTokens, now, .waiting⟩] }
      else none
  | .lock i =>
      (s.calls[i]?.filter (·.phase = .waiting)).map fun call =>
        match limiter.admit call.key call.estimatedTokens call.now s.tables with
        | (.ok _, tables) =>
            { s with
              tables := tables
              calls := s.calls.set i { call with phase := .admitted }
              admissions := Function.update s.admissions call.key
                (s.admissions call.key ++ [(call.now, call.estimatedTokens)]) }
        | (.error _, tables) =>
            { s with tables := tables, calls := s.calls.set i { call with phase := .refused } }
  | .release i =>
      (s.calls[i]?.filter (·.phase = .admitted)).map fun call =>
        { s with
          tables := s.tables.release call.key
          calls := s.calls.set i { call with phase := .released } }

/-- A limiter and its threads. Runs start with new tables, at any time. -/
def machine (limiter : ProviderRateLimiter) : Machine RateSystem RateAction where
  init s := s = ⟨s.clock, .new, [], fun _ => []⟩
  next := next limiter

/-- The admissions of a key that are stamped in `(t - 60, t]`. -/
def window (s : RateSystem) (key : String) (t : ℚ) : List (ℚ × ℕ) :=
  Windows.inWindow Prod.fst 60 t (s.admissions key)

/-- The admitted calls of a key that are not released. -/
def outstanding (s : RateSystem) (key : String) : ℕ := s.calls.countP (·.holds key)

/-- The admissions of a key that its deques have lost. -/
def removed (s : RateSystem) (key : String) : List (ℚ × ℕ) :=
  (s.admissions key).take ((s.admissions key).length - (s.tables.tokens key).length)

/-- The limits hold for every key, in every window and now. -/
structure WithinLimits (limiter : ProviderRateLimiter) (s : RateSystem) : Prop where
  requests : ∀ key t, (s.window key t).length ≤ limiter.requestsPerMinute
  tokens : ∀ key t, ((s.window key t).map Prod.snd).sum ≤ limiter.tokensPerMinute
  concurrency : ∀ key, s.outstanding key ≤ limiter.maxConcurrency

/-- When a thread takes the lock, no admission of the minute before its reading has been
removed. -/
def MinuteKept (s : RateSystem) : RateAction → Prop
  | .lock i => ∀ call ∈ s.calls[i]?, ∀ entry ∈ s.removed call.key, entry.1 ≤ call.now - 60
  | _ => True

instance (s : RateSystem) (action : RateAction) : Decidable (s.MinuteKept action) :=
  match action with
  | .lock i => inferInstanceAs (Decidable
      (∀ call ∈ s.calls[i]?, ∀ entry ∈ s.removed call.key, entry.1 ≤ call.now - 60))
  | .readClock .. | .release _ => instDecidableTrue

/-! ### What `acquire` does -/

variable {limiter : ProviderRateLimiter} {s s' : RateSystem}

/-- A call is refused with nothing but its purge done, or admitted within the limits. -/
theorem admit_cases (limiter : ProviderRateLimiter) (key : String) (estimatedTokens : ℕ)
    (now : ℚ) (tables : RateTables) :
    (∃ error, limiter.admit key estimatedTokens now tables =
        (.error error, tables.purged key now)) ∨
      limiter.admit key estimatedTokens now tables =
          (.ok (), (tables.purged key now).appended key estimatedTokens now) ∧
        ((tables.purged key now).requests key).length < limiter.requestsPerMinute ∧
        (((tables.purged key now).tokens key).map Prod.snd).sum + estimatedTokens ≤
          limiter.tokensPerMinute ∧
        tables.active key < limiter.maxConcurrency := by
  dsimp only [ ProviderRateLimiter.admit]
  split
  · exact .inl ⟨_, rfl⟩
  · rename_i hrequests
    split
    · exact .inl ⟨_, rfl⟩
    · rename_i htokens
      split
      · exact .inl ⟨_, rfl⟩
      · rename_i hactive
        exact .inr ⟨rfl, not_le.mp hrequests, not_lt.mp htokens, not_le.mp hactive⟩

/-- The deques hold the end of the history, `_active` counts the calls that are out, and the
limits hold. -/
structure Counted (limiter : ProviderRateLimiter) (s : RateSystem) : Prop where
  requests : ∀ key, s.tables.requests key = (s.tables.tokens key).map Prod.fst
  tokens : ∀ key, s.tables.tokens key <:+ s.admissions key
  active : ∀ key, s.tables.active key = s.outstanding key
  within : WithinLimits limiter s

/-- The history is what the deques have lost and what they hold. -/
theorem Counted.removed_append (h : Counted limiter s) (key : String) :
    s.removed key ++ s.tables.tokens key = s.admissions key := by
  obtain ⟨lost, hlost⟩ := h.tokens key
  rw [removed, ← hlost, List.length_append, Nat.add_sub_cancel, List.take_left]

/-- The window of a key after an admission: as before, or among what the deque holds then. -/
theorem Counted.window_admitted (h : Counted limiter s) {key : String} {now : ℚ}
    (hkept : ∀ old ∈ s.removed key, old.1 ≤ now - 60) (estimatedTokens : ℕ) (t : ℚ) :
    Windows.inWindow Prod.fst 60 t (s.admissions key ++ [(now, estimatedTokens)]) =
        s.window key t ∨
      (Windows.inWindow Prod.fst 60 t (s.admissions key ++ [(now, estimatedTokens)])).Sublist
        ((s.tables.purged key now).tokens key ++ [(now, estimatedTokens)]) := by
  rw [window, ← h.removed_append key, RateTables.tokens_purged]
  exact Windows.inWindow_concat hkept

/-- A purge leaves an end of the history in the deques. -/
theorem Counted.purged (h : Counted limiter s) (key k : String) (now : ℚ) :
    (s.tables.purged key now).requests k =
        ((s.tables.purged key now).tokens k).map Prod.fst ∧
      (s.tables.purged key now).tokens k <:+ s.admissions k := by
  by_cases hkey : k = key
  · subst hkey
    simp only [RateTables.purged, Function.update_self, h.requests k, Windows.purge_map]
    exact ⟨rfl, (List.dropWhile_suffix _).trans (h.tokens k)⟩
  · simp only [RateTables.purged, Function.update_of_ne hkey]
    exact ⟨h.requests k, h.tokens k⟩

/-- An admission that the guard and the checks let through fits into every window. -/
theorem Counted.limits_admitted (h : Counted limiter s) {key : String} {estimatedTokens : ℕ}
    {now : ℚ} (hkept : ∀ old ∈ s.removed key, old.1 ≤ now - 60)
    (hrequests : ((s.tables.purged key now).requests key).length < limiter.requestsPerMinute)
    (htokens : (((s.tables.purged key now).tokens key).map Prod.snd).sum + estimatedTokens ≤
      limiter.tokensPerMinute) (t : ℚ) :
    (Windows.inWindow Prod.fst 60 t (s.admissions key ++ [(now, estimatedTokens)])).length ≤
        limiter.requestsPerMinute ∧
      ((Windows.inWindow Prod.fst 60 t (s.admissions key ++ [(now, estimatedTokens)])).map
        Prod.snd).sum ≤ limiter.tokensPerMinute := by
  rcases h.window_admitted hkept estimatedTokens t with hwindow | hwindow
  · rw [hwindow]
    exact ⟨h.within.requests key t, h.within.tokens key t⟩
  · constructor
    · have hlength := hwindow.length_le
      rw [(h.purged key key now).1, List.length_map] at hrequests
      rw [List.length_append, List.length_singleton] at hlength
      omega
    · have hsum := (hwindow.map Prod.snd).sum_le_sum fun _ _ => Nat.zero_le _
      rw [List.map_append, List.sum_append, List.map_singleton, List.sum_singleton] at hsum
      omega

/-! ### One step at a time -/

/-- A call that changes its phase. -/
theorem outstanding_set {i : ℕ} {call : RateCall} (hcall : s.calls[i]? = some call)
    (phase : RatePhase) (key : String) :
    (s.calls.set i { call with phase := phase }).countP (·.holds key) +
        (call.holds key).toNat =
      s.outstanding key + (call.key == key && decide (phase = .admitted)).toNat :=
  Rows.countP_set_add (p := (·.holds key)) hcall

/-- Reading the clock changes nothing that is counted. -/
theorem counted_readClock {key : String} {estimatedTokens : ℕ} {now : ℚ}
    (h : Counted limiter s)
    (hnext : next limiter s (.readClock key estimatedTokens now) = some s') :
    Counted limiter s' := by
  simp only [next] at hnext
  split at hnext
  case isFalse => cases hnext
  case isTrue =>
    obtain rfl := Option.some.inj hnext
    have houtstanding : ∀ k, (s.calls ++ [RateCall.mk key estimatedTokens now .waiting]).countP
        (·.holds k) = s.outstanding k := by
      intro k
      rw [Rows.countP_concat]
      simp [RateCall.holds, outstanding]
    refine ⟨h.requests, h.tokens, ?_, h.within.requests, h.within.tokens, ?_⟩
    · intro k
      exact (h.active k).trans (houtstanding k).symm
    · intro k
      exact (houtstanding k).trans_le (h.within.concurrency k)

/-- A call that takes the lock under the guard is admitted within the limits. -/
theorem counted_lock {i : ℕ} (h : Counted limiter s) (hok : s.MinuteKept (.lock i))
    (hnext : next limiter s (.lock i) = some s') : Counted limiter s' := by
  obtain ⟨call, hfilter, hs'⟩ := Option.map_eq_some_iff.mp hnext
  obtain ⟨hcall, hwaiting⟩ := Option.filter_eq_some_iff.mp hfilter
  have hholds : ∀ k, call.holds k = false := by
    intro k
    simp [RateCall.holds, of_decide_eq_true hwaiting]
  rcases admit_cases limiter call.key call.estimatedTokens call.now s.tables with
    ⟨error, hresult⟩ | ⟨hresult, hrequests, htokens, hactive⟩
  · rw [hresult] at hs'
    subst hs'
    have houtstanding : ∀ k, (s.calls.set i { call with phase := .refused }).countP
        (·.holds k) = s.outstanding k := by
      intro k
      have hset := outstanding_set hcall .refused k
      rw [hholds k] at hset
      simpa using hset
    refine ⟨fun k => (h.purged call.key k call.now).1, fun k => (h.purged call.key k call.now).2,
      ?_, h.within.requests, h.within.tokens, ?_⟩
    · intro k
      exact (h.active k).trans (houtstanding k).symm
    · intro k
      exact (houtstanding k).trans_le (h.within.concurrency k)
  · rw [hresult] at hs'
    subst hs'
    have houtstanding : ∀ k, (s.calls.set i { call with phase := .admitted }).countP
        (·.holds k) = s.outstanding k + (call.key == k).toNat := by
      intro k
      have hset := outstanding_set hcall .admitted k
      rw [hholds k] at hset
      simpa using hset
    have hpurged := fun k => h.purged call.key k call.now
    have hlimits := h.limits_admitted (hok call hcall) hrequests htokens
    constructor
    · intro k
      by_cases hkey : k = call.key
      · subst hkey
        simp only [RateTables.appended, Function.update_self, (hpurged call.key).1, List.map_append,
          List.map_cons, List.map_nil]
      · simp only [RateTables.appended, Function.update_of_ne hkey]
        exact (hpurged k).1
    · intro k
      by_cases hkey : k = call.key
      · subst hkey
        simp only [RateTables.appended, Function.update_self]
        obtain ⟨lost, hlost⟩ := (hpurged call.key).2
        exact ⟨lost, by rw [← hlost, List.append_assoc]⟩
      · simp only [RateTables.appended, Function.update_of_ne hkey]
        exact (hpurged k).2
    · intro k
      have hk := h.active k
      rw [outstanding, houtstanding]
      by_cases hkey : k = call.key
      · subst hkey
        simp only [RateTables.appended, RateTables.purged, Function.update_self, hk,
          beq_self_eq_true, Bool.toNat_true]
      · have hne : (call.key == k) = false := beq_false_of_ne (Ne.symm hkey)
        simp only [RateTables.appended, RateTables.purged, Function.update_of_ne hkey, hk, hne,
          Bool.toNat_false, Nat.add_zero]
    · constructor
      · intro k t
        by_cases hkey : k = call.key
        · subst hkey
          simp only [window, Function.update_self]
          exact (hlimits t).1
        · simp only [window, Function.update_of_ne hkey]
          exact h.within.requests k t
      · intro k t
        by_cases hkey : k = call.key
        · subst hkey
          simp only [window, Function.update_self]
          exact (hlimits t).2
        · simp only [window, Function.update_of_ne hkey]
          exact h.within.tokens k t
      · intro k
        rw [outstanding, houtstanding]
        by_cases hkey : k = call.key
        · subst hkey
          have hk := h.active call.key
          simp only [beq_self_eq_true, Bool.toNat_true]
          omega
        · have hne : (call.key == k) = false := beq_false_of_ne (Ne.symm hkey)
          simp only [hne, Bool.toNat_false, Nat.add_zero]
          exact h.within.concurrency k

/-- A call that leaves its block makes room for one. -/
theorem counted_release {i : ℕ} (h : Counted limiter s)
    (hnext : next limiter s (.release i) = some s') : Counted limiter s' := by
  obtain ⟨call, hfilter, rfl⟩ := Option.map_eq_some_iff.mp hnext
  obtain ⟨hcall, hadmitted⟩ := Option.filter_eq_some_iff.mp hfilter
  have houtstanding : ∀ k, (s.calls.set i { call with phase := .released }).countP
      (·.holds k) + (call.key == k).toNat = s.outstanding k := by
    intro k
    have hset := outstanding_set hcall .released k
    simpa [RateCall.holds, of_decide_eq_true hadmitted] using hset
  refine ⟨h.requests, h.tokens, ?_, h.within.requests, h.within.tokens, ?_⟩
  · intro k
    have hk := h.active k
    have hout := houtstanding k
    rw [outstanding]
    by_cases hkey : k = call.key
    · subst hkey
      simp only [beq_self_eq_true, Bool.toNat_true] at hout
      simp only [RateTables.release, Function.update_self]
      omega
    · rw [beq_false_of_ne (Ne.symm hkey)] at hout
      simp only [RateTables.release, Function.update_of_ne hkey]
      exact hk.trans hout.symm
  · intro k
    exact (Nat.le.intro (houtstanding k)).trans (h.within.concurrency k)

/-! ### All windows -/

/-- **Sliding-window admission.** In a run in which no thread takes the lock after an admission
of the minute before its reading has been removed, every window of every key keeps the limits,
and so does the number of calls that are out. -/
theorem withinLimits_of_reachable (limiter : ProviderRateLimiter)
    (hs : (machine limiter).ReachableUnder MinuteKept s) : WithinLimits limiter s := by
  have hcounted : Counted limiter s := hs.invariant (I := Counted limiter)
    (by
      intro s hinit
      rw [hinit]
      exact ⟨fun _ => rfl, fun _ => List.nil_suffix, fun _ => rfl, fun _ _ => Nat.zero_le _,
        fun _ _ => Nat.zero_le _, fun _ => Nat.zero_le _⟩)
    (by
      intro s action s' _ h hok hnext
      cases action with
      | readClock key estimatedTokens now => exact counted_readClock h hnext
      | lock i => exact counted_lock h hok hnext
      | release i => exact counted_release h hnext)
  exact hcounted.within

/-- Two requests and ten tokens a minute. -/
def twoPerMinute : ProviderRateLimiter := ⟨2, 10, 4⟩

/-- Two admissions, a refusal, and a third admission when the first two are a minute old. -/
theorem withinLimits_full : ∃ s, (machine twoPerMinute).ReachableUnder MinuteKept s ∧
    s.admissions "llm" = [(0, 1), (0, 1), (60, 1)] ∧ WithinLimits twoPerMinute s := by
  obtain ⟨s, hs, hadmissions⟩ := (machine twoPerMinute).exists_reachableUnder MinuteKept
    [.readClock "llm" 1 0, .readClock "llm" 1 0, .readClock "llm" 1 0, .lock 0, .lock 1, .lock 2,
      .release 0, .readClock "llm" 1 60, .lock 3]
    (fun s => s.admissions "llm" = [(0, 1), (0, 1), (60, 1)])
    (s := ⟨0, .new, [], fun _ => []⟩) rfl (by decide +kernel)
  exact ⟨s, hs, hadmissions, withinLimits_of_reachable twoPerMinute hs⟩

/-- A thread reads 59, another one 60. The second takes the lock first and removes the two
admissions of time 0, and the first one is admitted as the third of a minute. -/
theorem withinLimits_fails : ¬ ∀ s, (machine twoPerMinute).Reachable s →
    WithinLimits twoPerMinute s := by
  intro h
  obtain ⟨s, hs, hthree⟩ := (machine twoPerMinute).exists_reachable
    [.readClock "llm" 1 0, .lock 0, .readClock "llm" 1 0, .lock 1, .release 0, .release 1,
      .readClock "llm" 1 59, .readClock "llm" 1 60, .lock 3, .lock 2]
    (fun s => (s.window "llm" 59).length = 3)
    (s := ⟨0, .new, [], fun _ => []⟩) rfl (by decide +kernel)
  have htwo : (s.window "llm" 59).length ≤ 2 := (h s hs).requests "llm" 59
  omega

end RateSystem

end StoryForge
