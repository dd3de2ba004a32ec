import Mathlib.Algebra.Order.Ring.Rat
import Mathlib.Tactic.Linarith
import StoryForge.Library.Expiring
import StoryForge.Library.Machine
import StoryForge.Library.Rows
import StoryForge.Reliability.RateLimit

/-!
# `RedisProviderRateLimiter`

Admission of the calls of all replicas through three counters in Redis for every key: the
requests and the tokens of a window, which expire a minute after it began, and the calls that
are out, which expire two minutes after the last `acquire` of any of them. A script runs as one
step. An admitted call ends with a release, or is lost: its process crashed, or its release
did not reach the server.

## Main results

* `RateReplicas.capped_of_reachable` — when calls end before their time has passed and lost
  calls do not fill a counter that is renewed, a key has no more calls than its limit, and takes
  a new one once all are released or out of time;
* `RateReplicas.capped_fails` — a call that runs for two minutes, and a lost call whose time is
  renewed by a call that it keeps out.
-/

namespace StoryForge

/-- The counters of a server. -/
abbrev RedisCounters := Expiring.Store String ℚ

/-- What a shared limiter is built with. The settings take positive limits only. -/
structure RedisProviderRateLimiter extends ProviderRateLimiter where
  keyPrefix : String
  maxConcurrency_pos : 0 < maxConcurrency

namespace RedisProviderRateLimiter

variable (limiter : RedisProviderRateLimiter)

/-- `base`. -/
def base (key : String) : String := limiter.keyPrefix ++ ":rate:" ++ key

/-- The names of the three counters. -/
def rpm (key : String) : String := limiter.base key ++ ":rpm"

def tpm (key : String) : String := limiter.base key ++ ":tpm"

def active (key : String) : String := limiter.base key ++ ":active"

/-- Count an amount in a window, which begins with the first amount. -/
def countInWindow (name : String) (amount : ℤ) (now : ℚ) (store : RedisCounters) :
    ℤ × RedisCounters :=
  let counted := Expiring.incrBy name amount now store
  (counted.1,
    if counted.1 = amount then Expiring.expire name (now + 60) now counted.2 else counted.2)

/-- `_ADMIT`. -/
def admitScript (key : String) (estimatedTokens : ℕ) (now : ℚ) (store : RedisCounters) :
    ℕ × RedisCounters :=
  let requests := countInWindow (limiter.rpm key) 1 now store
  let tokens := countInWindow (limiter.tpm key) estimatedTokens now requests.2
  let running := Expiring.incrBy (limiter.active key) 1 now tokens.2
  let renewed := Expiring.expire (limiter.active key) (now + 120) now running.2
  if limiter.requestsPerMinute < requests.1 ∨ limiter.tokensPerMinute < tokens.1 ∨
      limiter.maxConcurrency < running.1 then
    (0, (Expiring.incrBy (limiter.active key) (-1) now renewed).2)
  else (1, renewed)

/-- `acquire`, up to its `yield`. -/
def acquire (key : String) (estimatedTokens : ℕ) (reachable : Bool) (now : ℚ)
    (store : RedisCounters) : Except Error Unit × RedisCounters :=
  if reachable then
    let admitted := limiter.admitScript key estimatedTokens now store
    if admitted.1 = 1 then (.ok (), admitted.2)
    else (.error (.providerRateLimitError "Distributed provider capacity is exhausted"),
      admitted.2)
  else (.error (.providerRateLimitError "Distributed rate limiter is unavailable"), store)

/-- The script of a release. -/
def releaseScript (key : String) (now : ℚ) (store : RedisCounters) : RedisCounters :=
  if 0 < Expiring.value store now (limiter.active key) then
    (Expiring.incrBy (limiter.active key) (-1) now store).2
  else store

/-! ### What the scripts do -/

variable {limiter} {key other name : String} {estimatedTokens : ℕ} {now : ℚ}
  {store : RedisCounters}

theorem active_injective : Function.Injective limiter.active := by
  intro a b h
  simpa [active, base] using h

theorem active_ne_rpm : limiter.active key ≠ limiter.rpm other := by
  intro h
  have hlast := congrArg (·.toList.getLast?) h
  simp [active, rpm, String.toList_append] at hlast

theorem active_ne_tpm : limiter.active key ≠ limiter.tpm other := by
  intro h
  have hlast := congrArg (·.toList.getLast?) h
  simp [active, tpm, String.toList_append] at hlast

theorem tpm_ne_rpm : limiter.tpm key ≠ limiter.rpm other := by
  intro h
  have hlast := congrArg (·.toList.reverse[2]?) h
  simp [tpm, rpm, String.toList_append] at hlast

theorem countInWindow_fst {amount : ℤ} :
    (countInWindow name amount now store).1 = Expiring.value store now name + amount :=
  Expiring.incrBy_fst

theorem countInWindow_of_ne {amount : ℤ} (hne : other ≠ name) :
    (countInWindow name amount now store).2 other = store other := by
  unfold countInWindow
  dsimp only
  split
  · rw [Expiring.expire_of_ne hne, Expiring.incrBy_of_ne hne]
  · exact Expiring.incrBy_of_ne hne

/-- The counters of the calls that are out are not those of the windows. -/
theorem countInWindow_active {first second : ℤ} :
    (countInWindow (limiter.tpm key) second now
      (countInWindow (limiter.rpm key) first now store).2).2 (limiter.active other) =
      store (limiter.active other) := by
  rw [countInWindow_of_ne active_ne_tpm, countInWindow_of_ne active_ne_rpm]

/-- `acquire` admits a call within all three limits and counts it, or refuses it; in both cases
it renews the counter of its key. -/
theorem acquire_spec (limiter : RedisProviderRateLimiter) (key : String) (estimatedTokens : ℕ)
    (now : ℚ) (store : RedisCounters) :
    let result := limiter.acquire key estimatedTokens true now store
    let count := Expiring.value store now (limiter.active key)
    (result.1 = .ok () ∧ count + 1 ≤ limiter.maxConcurrency ∧
        result.2 (limiter.active key) = some ⟨count + 1, some (now + 120)⟩) ∨
      (∃ error, result.1 = .error error) ∧
        (Expiring.value store now (limiter.rpm key) + 1 ≤ limiter.requestsPerMinute →
          Expiring.value store now (limiter.tpm key) + estimatedTokens ≤
            limiter.tokensPerMinute →
          limiter.maxConcurrency ≤ count) ∧
        result.2 (limiter.active key) = some ⟨count, some (now + 120)⟩ := by
  have hrequests : (countInWindow (limiter.rpm key) 1 now store).1 =
      Expiring.value store now (limiter.rpm key) + 1 := countInWindow_fst
  have htokens : (countInWindow (limiter.tpm key) estimatedTokens now
      (countInWindow (limiter.rpm key) 1 now store).2).1 =
      Expiring.value store now (limiter.tpm key) + estimatedTokens := by
    rw [countInWindow_fst, Expiring.value_congr (countInWindow_of_ne tpm_ne_rpm)]
  have hactive : ∀ store' : RedisCounters,
      store' (limiter.active key) = store (limiter.active key) →
      (Expiring.incrBy (limiter.active key) 1 now store').1 =
          Expiring.value store now (limiter.active key) + 1 ∧
        Expiring.expire (limiter.active key) (now + 120) now
            (Expiring.incrBy (limiter.active key) 1 now store').2 (limiter.active key) =
          some ⟨Expiring.value store now (limiter.active key) + 1, some (now + 120)⟩ := by
    intro store' hstore'
    rw [Expiring.incrBy_fst, Expiring.expire_incrBy, Expiring.value_congr hstore']
    exact ⟨rfl, rfl⟩
  obtain ⟨hrunning, hrenewed⟩ := hactive
    (countInWindow (limiter.tpm key) estimatedTokens now
      (countInWindow (limiter.rpm key) 1 now store).2).2 countInWindow_active
  dsimp only [acquire, admitScript]
  rw [if_pos rfl, hrequests, htokens, hrunning]
  split
  · rename_i hrefused
    rw [if_neg Nat.zero_ne_one]
    refine .inr ⟨⟨_, rfl⟩, fun hr ht => by omega, ?_⟩
    dsimp only
    rw [Expiring.incrBy_self hrenewed (by linarith), Int.add_neg_cancel_right]
  · rename_i hadmitted
    rw [if_pos rfl]
    exact .inl ⟨rfl, by omega, hrenewed⟩

/-- It leaves the counters of other keys alone. -/
theorem acquire_of_ne {reachable : Bool} (hne : other ≠ key) :
    (limiter.acquire key estimatedTokens reachable now store).2 (limiter.active other) =
      store (limiter.active other) := by
  have hactive : limiter.active other ≠ limiter.active key := active_injective.ne hne
  cases reachable with
  | false => rfl
  | true =>
      have hstore : ((limiter.admitScript key estimatedTokens now store).2)
          (limiter.active other) = store (limiter.active other) := by
        dsimp only [admitScript]
        split
        · rw [Expiring.incrBy_of_ne hactive, Expiring.expire_of_ne hactive,
            Expiring.incrBy_of_ne hactive, countInWindow_active]
        · dsimp only
          rw [Expiring.expire_of_ne hactive, Expiring.incrBy_of_ne hactive, countInWindow_active]
      dsimp only [acquire]
      rw [if_pos rfl]
      split <;> exact hstore

theorem releaseScript_of_ne (hne : other ≠ key) :
    limiter.releaseScript key now store (limiter.active other) =
      store (limiter.active other) := by
  unfold releaseScript
  split
  · exact Expiring.incrBy_of_ne (active_injective.ne hne)
  · rfl

end RedisProviderRateLimiter

/-! ### The machine -/

/-- How an admitted call ended. -/
inductive HoldPhase
  | running
  | released
  | lost
  deriving DecidableEq, Repr

/-- A call that the server has admitted. -/
structure DistributedCall where
  key : String
  admittedAt : ℚ
  phase : HoldPhase
  deriving DecidableEq, Repr

/-- The server, its clock, and the calls of all replicas. -/
structure RateReplicas where
  now : ℚ
  store : RedisCounters
  calls : List DistributedCall

/-- Time passes, or a replica acts. -/
inductive ReplicaAction
  | tick (now : ℚ)
  | acquire (key : String) (estimatedTokens : ℕ) (reachable : Bool)
  | release (call : ℕ)
  | lose (call : ℕ)
  deriving DecidableEq, Repr

namespace RateReplicas

variable (limiter : RedisProviderRateLimiter)

/-- The effect of an action. -/
def next (s : RateReplicas) : ReplicaAction → Option RateReplicas
  | .tick now => if s.now ≤ now then some { s with now := now } else none
  | .acquire key estimatedTokens reachable =>
      match limiter.acquire key estimatedTokens reachable s.now s.store with
      | (.ok _, store) =>
          some { s with store := store, calls := s.calls ++ [⟨key, s.now, .running⟩] }
      | (.error _, store) => some { s with store := store }
  | .release i =>
      (s.calls[i]?.filter (·.phase = .running)).map fun call =>
        { s with
          store := limiter.releaseScript call.key s.now s.store
          calls := s.calls.set i { call with phase := .released } }
  | .lose i =>
      (s.calls[i]?.filter (·.phase = .running)).map fun call =>
        { s with calls := s.calls.set i { call with phase := .lost } }

/-- A server and its replicas. Runs start with no counters, at any time. -/
def machine : Machine RateReplicas ReplicaAction where
  init s := s = ⟨s.now, fun _ => none, []⟩
  next := next limiter

/-- The calls that were admitted under a key. -/
def callsOf (s : RateReplicas) (key : String) : List DistributedCall :=
  s.calls.filter (·.key = key)

/-- How many of them are still running. -/
def running (s : RateReplicas) (key : String) : ℕ :=
  (s.callsOf key).countP (·.phase = .running)

/-- What the counter of the calls that are out says. -/
def counted (s : RateReplicas) (key : String) : ℤ :=
  Expiring.value s.store s.now (limiter.active key)

/-- The counter of a key is still there at a time, if nobody calls until then. -/
def lasts (s : RateReplicas) (key : String) (time : ℚ) : Bool :=
  (Expiring.get s.store time (limiter.active key)).isSome

/-- Every call of a key is released, or its time has passed. -/
def Over (s : RateReplicas) (key : String) : Prop :=
  ∀ call ∈ s.callsOf key, call.phase = .released ∨ call.admittedAt + 120 ≤ s.now

/-- A call keeps the limits of its window. -/
def InWindow (s : RateReplicas) (key : String) (estimatedTokens : ℕ) : Prop :=
  Expiring.value s.store s.now (limiter.rpm key) + 1 ≤ limiter.requestsPerMinute ∧
    Expiring.value s.store s.now (limiter.tpm key) + estimatedTokens ≤ limiter.tokensPerMinute

/-- The cap of a key holds, and the key takes calls again when all are over. -/
structure Capped (s : RateReplicas) (key : String) : Prop where
  cap : s.running key ≤ limiter.maxConcurrency
  reopens : s.Over key → ∀ estimatedTokens, s.InWindow limiter key estimatedTokens →
    (limiter.acquire key estimatedTokens true s.now s.store).1 = .ok ()

/-- Time does not run out under a call: a call is running for less than two minutes, or others
have renewed its counter and left room in it. Lost calls do not fill a counter that is renewed:
when the last place is lost, the counter ends with the time of one of the lost calls, and nobody
calls until then. -/
def InTime (s : RateReplicas) : ReplicaAction → Prop
  | .tick now => ∀ call ∈ s.calls, call.phase = .running →
      now < call.admittedAt + 120 ∨
        s.lasts limiter call.key now ∧ s.counted limiter call.key < limiter.maxConcurrency
  | .acquire key _ reachable =>
      reachable → s.counted limiter key - s.running key < limiter.maxConcurrency
  | .release _ => True
  | .lose i => ∀ call ∈ s.calls[i]?,
      s.counted limiter call.key - s.running call.key + 1 < limiter.maxConcurrency ∨
        ∃ other ∈ s.callsOf call.key, (other.phase = .lost ∨ other = call) ∧
          s.lasts limiter call.key (other.admittedAt + 120) = false

instance (s : RateReplicas) (action : ReplicaAction) : Decidable (s.InTime limiter action) :=
  match action with
  | .tick now => inferInstanceAs (Decidable (∀ call ∈ s.calls, call.phase = .running →
      now < call.admittedAt + 120 ∨
        s.lasts limiter call.key now ∧ s.counted limiter call.key < limiter.maxConcurrency))
  | .acquire key _ reachable => inferInstanceAs (Decidable
      (reachable → s.counted limiter key - s.running key < limiter.maxConcurrency))
  | .release _ => instDecidableTrue
  | .lose i => inferInstanceAs (Decidable (∀ call ∈ s.calls[i]?,
      s.counted limiter call.key - s.running call.key + 1 < limiter.maxConcurrency ∨
        ∃ other ∈ s.callsOf call.key, (other.phase = .lost ∨ other = call) ∧
          s.lasts limiter call.key (other.admittedAt + 120) = false))

instance (s : RateReplicas) (key : String) : Decidable (s.Over key) :=
  inferInstanceAs (Decidable
    (∀ call ∈ s.callsOf key, call.phase = .released ∨ call.admittedAt + 120 ≤ s.now))

instance (s : RateReplicas) (key : String) (estimatedTokens : ℕ) :
    Decidable (s.InWindow limiter key estimatedTokens) :=
  inferInstanceAs (Decidable (_ ∧ _))

/-! ### The counter of a key -/

variable {limiter} {s s' : RateReplicas} {key : String} {call : DistributedCall} {i : ℕ}

/-- What holds of a key: the counter covers the calls that are running and lasts until their
time has passed; when lost calls fill it, it ends with the time of one of them; and when calls
run on after their time, it leaves room. -/
structure Sound (limiter : RedisProviderRateLimiter) (s : RateReplicas) (key : String) :
    Prop where
  past : ∀ call ∈ s.callsOf key, call.admittedAt ≤ s.now
  covers : (s.running key : ℤ) ≤ s.counted limiter key
  cap : s.counted limiter key ≤ limiter.maxConcurrency
  lasting : ∀ call ∈ s.callsOf key, call.phase = .running →
    ∀ time, time < call.admittedAt + 120 → s.lasts limiter key time
  ending : limiter.maxConcurrency ≤ s.counted limiter key - s.running key →
    ∃ call ∈ s.callsOf key, call.phase = .lost ∧
      s.lasts limiter key (call.admittedAt + 120) = false
  roomy : 0 < s.running key → s.Over key → s.counted limiter key < limiter.maxConcurrency

/-- It depends on the clock, the counter and the calls of the key. -/
theorem Sound.congr (h : Sound limiter s key) (hnow : s'.now = s.now)
    (hcounter : s'.store (limiter.active key) = s.store (limiter.active key))
    (hcalls : s'.callsOf key = s.callsOf key) : Sound limiter s' key := by
  have hrunning : s'.running key = s.running key := by rw [running, running, hcalls]
  have hcounted : s'.counted limiter key = s.counted limiter key := by
    rw [counted, counted, hnow, Expiring.value_congr hcounter]
  have hlasts : ∀ time, s'.lasts limiter key time = s.lasts limiter key time := by
    intro time
    rw [lasts, lasts, Expiring.get, Expiring.get, hcounter]
  refine ⟨?_, ?_, ?_, ?_, ?_, ?_⟩
  · rw [hnow, hcalls]
    exact h.past
  · rw [hrunning, hcounted]
    exact h.covers
  · rw [hcounted]
    exact h.cap
  · simp only [hcalls, hlasts]
    exact h.lasting
  · simp only [hrunning, hcounted, hcalls, hlasts]
    exact h.ending
  · rw [Over, hrunning, hcounted, hcalls, hnow]
    exact h.roomy

theorem exists_running (h : 0 < s.running key) :
    ∃ call ∈ s.callsOf key, call.phase = .running := by
  simpa [running, List.countP_pos_iff] using h

theorem running_pos (hcall : call ∈ s.callsOf key) (hrunning : call.phase = .running) :
    0 < s.running key :=
  List.countP_pos_iff.mpr ⟨call, hcall, by simpa using hrunning⟩

theorem mem_callsOf : call ∈ s.callsOf key ↔ call ∈ s.calls ∧ call.key = key := by
  simp [callsOf]

theorem lasts_of_later {time later : ℚ} (hle : time ≤ later)
    (h : s.lasts limiter key later) : s.lasts limiter key time := by
  rw [lasts, Expiring.get_of_later hle h]
  exact h

/-- A counter that is gone counts nothing. -/
theorem counted_of_gone (h : s.lasts limiter key s.now = false) :
    s.counted limiter key = 0 := by
  rw [lasts, Option.isSome_eq_false_iff, Option.isNone_iff_eq_none] at h
  rw [counted, Expiring.value, h]
  rfl

/-- A counter that is there after some time counts what it did. -/
theorem counted_of_lasts {now : ℚ} (hle : s.now ≤ now) (h : s.lasts limiter key now) :
    ({ s with now := now } : RateReplicas).counted limiter key = s.counted limiter key := by
  rw [counted, counted, Expiring.value, Expiring.value, Expiring.get_of_later hle h]

/-- The open cap: a key that is over has room for a call. -/
theorem Sound.room (h : Sound limiter s key) (hover : s.Over key) :
    s.counted limiter key < limiter.maxConcurrency := by
  by_cases hrunning : 0 < s.running key
  · exact h.roomy hrunning hover
  · by_contra hfull
    obtain ⟨call, hcall, hlost, hends⟩ := h.ending (by omega)
    have htime : call.admittedAt + 120 ≤ s.now := by
      rcases hover call hcall with hreleased | htime
      · rw [hlost] at hreleased
        cases hreleased
      · exact htime
    have hzero : s.counted limiter key = 0 := by
      refine counted_of_gone ?_
      by_contra hlasts
      rw [lasts_of_later htime (by simpa using hlasts)] at hends
      cases hends
    have hpos := limiter.maxConcurrency_pos
    omega

/-- A sound key keeps its cap, and takes calls again when all are over. -/
theorem Sound.capped (h : Sound limiter s key) : Capped limiter s key := by
  constructor
  · have hcovers := h.covers
    have hcap := h.cap
    omega
  · intro hover estimatedTokens hwindow
    have hroom := h.room hover
    rcases limiter.acquire_spec key estimatedTokens s.now s.store with
      ⟨hok, -, -⟩ | ⟨-, hfull, -⟩
    · exact hok
    · have hcount := hfull hwindow.1 hwindow.2
      rw [counted] at hroom
      omega

/-! ### One step at a time -/

/-- Time passes. -/
theorem sound_tick {now : ℚ} (h : Sound limiter s key) (hok : s.InTime limiter (.tick now))
    (hnext : next limiter s (.tick now) = some s') : Sound limiter s' key := by
  simp only [next] at hnext
  split at hnext
  case isFalse => cases hnext
  case isTrue hle =>
    obtain rfl := Option.some.inj hnext
    have hrunning : ∀ call ∈ s.callsOf key, call.phase = .running →
        s.lasts limiter key now := by
      intro call hcall hphase
      obtain ⟨hmem, rfl⟩ := mem_callsOf.mp hcall
      rcases hok call hmem hphase with htime | ⟨hlasts, -⟩
      · exact h.lasting call hcall hphase now htime
      · exact hlasts
    have hcovers := h.covers
    have hcap := h.cap
    have hpos := limiter.maxConcurrency_pos
    by_cases hlasts : s.lasts limiter key now
    · have hcounted := counted_of_lasts hle hlasts
      refine ⟨fun call hcall => (h.past call hcall).trans hle, hcovers.trans_eq hcounted.symm,
        hcounted.trans_le hcap, h.lasting, ?_, ?_⟩
      · intro hfull
        rw [hcounted] at hfull
        exact h.ending hfull
      · intro hsome hover
        rw [hcounted]
        obtain ⟨call, hcall, hphase⟩ := exists_running hsome
        obtain ⟨hmem, rfl⟩ := mem_callsOf.mp hcall
        rcases hok call hmem hphase with htime | ⟨-, hroom⟩
        · rcases hover call hcall with hreleased | hpassed
          · rw [hphase] at hreleased
            cases hreleased
          · exact absurd hpassed (not_le.mpr htime)
        · exact hroom
    · have hnone : s.running key = 0 := by
        by_contra hsome
        obtain ⟨call, hcall, hphase⟩ := exists_running (Nat.pos_of_ne_zero hsome)
        exact hlasts (hrunning call hcall hphase)
      have hzero : ({ s with now := now } : RateReplicas).counted limiter key = 0 :=
        counted_of_gone (by simpa [lasts] using hlasts)
      have hnone' : ({ s with now := now } : RateReplicas).running key = 0 := hnone
      refine ⟨fun call hcall => (h.past call hcall).trans hle, ?_, ?_, h.lasting, ?_, ?_⟩
      · rw [hzero, hnone']
        rfl
      · rw [hzero]
        omega
      · intro hfull
        rw [hzero, hnone'] at hfull
        omega
      · intro _ _
        rw [hzero]
        omega

/-- The counter of a key after an `acquire` that has reached the server. -/
theorem lasts_of_renewed {count : ℤ} {store : RedisCounters} (calls : List DistributedCall)
    (h : store (limiter.active key) = some ⟨count, some (s.now + 120)⟩) :
    (∀ time, time < s.now + 120 →
        (RateReplicas.mk s.now store calls).lasts limiter key time) ∧
      (RateReplicas.mk s.now store calls).counted limiter key = count := by
  constructor
  · intro time htime
    rw [lasts, Expiring.get_of_live h htime]
    rfl
  · exact Expiring.value_of_live h (by linarith)

/-- A replica calls `acquire`. -/
theorem sound_acquire {name : String} {estimatedTokens : ℕ} {reachable : Bool}
    (h : Sound limiter s key) (hok : s.InTime limiter (.acquire name estimatedTokens reachable))
    (hnext : next limiter s (.acquire name estimatedTokens reachable) = some s') :
    Sound limiter s' key := by
  by_cases hkey : key = name
  case neg =>
    have hcounter : (limiter.acquire name estimatedTokens reachable s.now s.store).2
        (limiter.active key) = s.store (limiter.active key) :=
      RedisProviderRateLimiter.acquire_of_ne hkey
    simp only [next] at hnext
    split at hnext
    · rename_i store hacquire
      obtain rfl := Option.some.inj hnext
      refine h.congr rfl (by simpa [hacquire] using hcounter) ?_
      simp [callsOf, Ne.symm hkey]
    · rename_i store hacquire
      obtain rfl := Option.some.inj hnext
      exact h.congr rfl (by simpa [hacquire] using hcounter) rfl
  case pos =>
    subst hkey
    cases reachable with
    | false =>
        obtain rfl : s = s' := Option.some.inj hnext
        exact h
    | true =>
        have hroom : s.counted limiter key - s.running key < limiter.maxConcurrency := hok rfl
        have hcap := h.cap
        have hcovers := h.covers
        have hspec := limiter.acquire_spec key estimatedTokens s.now s.store
        rcases hresult : limiter.acquire key estimatedTokens true s.now s.store with ⟨answer, store⟩
        simp only [hresult] at hspec
        simp only [next, hresult] at hnext
        rcases hspec with ⟨rfl, hless, hcounter⟩ | ⟨⟨error, rfl⟩, -, hcounter⟩
        · obtain rfl := Option.some.inj hnext
          obtain ⟨hlasts, hcounted⟩ :=
            lasts_of_renewed (s.calls ++ [⟨key, s.now, .running⟩]) hcounter
          have hcalls : (RateReplicas.mk s.now store
              (s.calls ++ [⟨key, s.now, .running⟩])).callsOf key =
              s.callsOf key ++ [⟨key, s.now, .running⟩] := by
            simp [callsOf]
          have hrunning : (RateReplicas.mk s.now store
              (s.calls ++ [⟨key, s.now, .running⟩])).running key = s.running key + 1 := by
            rw [running, hcalls, Rows.countP_concat]
            rfl
          refine ⟨?_, ?_, ?_, ?_, ?_, ?_⟩
          · rw [hcalls, List.forall_mem_append, List.forall_mem_singleton]
            exact ⟨h.past, le_rfl⟩
          · rw [hrunning, hcounted, Nat.cast_succ]
            exact Int.add_le_add_right hcovers 1
          · rw [hcounted]
            exact hless
          · rw [hcalls, List.forall_mem_append, List.forall_mem_singleton]
            refine ⟨fun call hcall _ time htime => ?_, fun _ => hlasts⟩
            have hpast := h.past call hcall
            exact hlasts time (by linarith)
          · intro hfull
            rw [hrunning, hcounted, Nat.cast_succ, Int.add_sub_add_right] at hfull
            exact absurd hroom (not_lt.mpr hfull)
          · -- the new call is neither released nor out of time
            intro _ hover
            rw [Over, hcalls, List.forall_mem_append, List.forall_mem_singleton] at hover
            rcases hover.2 with hreleased | hpassed
            · cases hreleased
            · exact absurd hpassed (by simp)
        · obtain rfl := Option.some.inj hnext
          obtain ⟨hlasts, hcounted⟩ := lasts_of_renewed s.calls hcounter
          refine ⟨h.past, hcovers.trans_eq hcounted.symm, hcounted.trans_le hcap, ?_, ?_, ?_⟩
          · intro call hcall _ time htime
            have hpast := h.past call hcall
            exact hlasts time (by linarith)
          · intro hfull
            rw [hcounted] at hfull
            exact absurd hroom (not_lt.mpr hfull)
          · intro hsome hover
            rw [hcounted]
            exact h.roomy hsome hover

/-- The state after a call has ended. -/
def ended (s : RateReplicas) (i : ℕ) (call : DistributedCall) (phase : HoldPhase)
    (store : RedisCounters) : RateReplicas :=
  { s with store := store, calls := s.calls.set i { call with phase := phase } }

variable {phase : HoldPhase} {store : RedisCounters}

/-- The end of a call of another key. -/
theorem Sound.ended_of_ne (h : Sound limiter s key) (hcall : s.calls[i]? = some call)
    (hkey : key ≠ call.key) (hcounter : store (limiter.active key) = s.store (limiter.active key)) :
    Sound limiter (s.ended i call phase store) key :=
  h.congr rfl hcounter (Rows.filter_set hcall (by simp [Ne.symm hkey])
    (by simp [Ne.symm hkey]))

/-- One call less is running. -/
theorem running_ended (hcall : s.calls[i]? = some call) (hrunning : call.phase = .running)
    (hphase : phase ≠ .running) :
    (s.ended i call phase store).running call.key + 1 = s.running call.key := by
  have hset := Rows.countP_set_add (y := { call with phase := phase })
    (p := fun other => decide (other.phase = .running) && decide (other.key = call.key)) hcall
  simp only [running, callsOf, List.countP_filter]
  simpa [hrunning, hphase, ended] using hset

theorem mem_callsOf_ended {other : DistributedCall}
    (h : other ∈ (s.ended i call phase store).callsOf key) :
    other ∈ s.callsOf key ∨ other = { call with phase := phase } := by
  obtain ⟨hmem, hkey⟩ := mem_callsOf.mp h
  rcases List.mem_or_eq_of_mem_set hmem with hold | hnew
  · exact .inl (mem_callsOf.mpr ⟨hold, hkey⟩)
  · exact .inr hnew

theorem mem_callsOf_ended_of_ne {other : DistributedCall} (hcall : s.calls[i]? = some call)
    (hother : other ∈ s.callsOf key) (hne : other ≠ call) :
    other ∈ (s.ended i call phase store).callsOf key := by
  obtain ⟨hmem, hkey⟩ := mem_callsOf.mp hother
  exact mem_callsOf.mpr ⟨Rows.mem_set_of_ne hcall hmem hne, hkey⟩

/-- A call is released. -/
theorem sound_release (h : Sound limiter s key) (hnext : next limiter s (.release i) = some s') :
    Sound limiter s' key := by
  obtain ⟨call, hfilter, rfl⟩ := Option.map_eq_some_iff.mp hnext
  obtain ⟨hcall, hphase⟩ := Option.filter_eq_some_iff.mp hfilter
  have hphase : call.phase = .running := of_decide_eq_true hphase
  have hmem := List.mem_of_getElem? hcall
  set store := limiter.releaseScript call.key s.now s.store with hstore
  change Sound limiter (s.ended i call .released store) key
  by_cases hkey : key = call.key
  case neg => exact h.ended_of_ne hcall hkey (RedisProviderRateLimiter.releaseScript_of_ne hkey)
  case pos =>
    subst hkey
    have hone := running_pos (mem_callsOf.mpr ⟨hmem, rfl⟩) hphase
    have hrunning : (s.ended i call .released store).running call.key + 1 =
        s.running call.key := running_ended hcall hphase (by simp)
    have hcovers := h.covers
    have hcap := h.cap
    have hpositive : 0 < s.counted limiter call.key := by omega
    have hlive : (Expiring.get s.store s.now (limiter.active call.key)).isSome := by
      by_contra hgone
      have hzero : s.counted limiter call.key = 0 := counted_of_gone (by simpa [lasts] using hgone)
      omega
    have hdecr : store = (Expiring.incrBy (limiter.active call.key) (-1) s.now s.store).2 := by
      rw [hstore, RedisProviderRateLimiter.releaseScript]
      exact if_pos hpositive
    have hcounted : (s.ended i call .released store).counted limiter call.key =
        s.counted limiter call.key - 1 := by
      rw [counted, ended, hdecr]
      exact Expiring.value_incrBy
    have hlasts : ∀ time, (s.ended i call .released store).lasts limiter call.key time =
        s.lasts limiter call.key time := by
      intro time
      rw [lasts, ended, hdecr]
      exact Expiring.isSome_get_incrBy hlive
    refine ⟨?_, by omega, by omega, ?_, ?_, fun _ _ => by omega⟩
    · intro other hother
      rcases mem_callsOf_ended hother with hold | rfl
      · exact h.past other hold
      · exact h.past call (mem_callsOf.mpr ⟨hmem, rfl⟩)
    · intro other hother hother'
      simp only [hlasts]
      rcases mem_callsOf_ended hother with hold | rfl
      · exact h.lasting other hold hother'
      · cases hother'
    · intro hfull
      obtain ⟨lost, hlost, hlostphase, hends⟩ := h.ending (by omega)
      refine ⟨lost, mem_callsOf_ended_of_ne hcall hlost ?_, hlostphase, ?_⟩
      · rintro rfl
        rw [hphase] at hlostphase
        cases hlostphase
      · rw [hlasts]
        exact hends

/-- A call is lost. -/
theorem sound_lose (h : Sound limiter s key) (hok : s.InTime limiter (.lose i))
    (hnext : next limiter s (.lose i) = some s') : Sound limiter s' key := by
  obtain ⟨call, hfilter, rfl⟩ := Option.map_eq_some_iff.mp hnext
  obtain ⟨hcall, hphase⟩ := Option.filter_eq_some_iff.mp hfilter
  have hphase : call.phase = .running := of_decide_eq_true hphase
  have hmem := List.mem_of_getElem? hcall
  change Sound limiter (s.ended i call .lost s.store) key
  by_cases hkey : key = call.key
  case neg => exact h.ended_of_ne hcall hkey rfl
  case pos =>
    subst hkey
    have hrunning : (s.ended i call .lost s.store).running call.key + 1 =
        s.running call.key := running_ended hcall hphase (by simp)
    have hcounted : (s.ended i call .lost s.store).counted limiter call.key =
        s.counted limiter call.key := rfl
    have hcovers := h.covers
    have hcap := h.cap
    have hnew : { call with phase := .lost } ∈ (s.ended i call .lost s.store).callsOf call.key := by
      obtain ⟨hi, -⟩ := List.getElem?_eq_some_iff.mp hcall
      exact mem_callsOf.mpr ⟨List.mem_set hi _, rfl⟩
    refine ⟨?_, by omega, by omega, ?_, ?_, ?_⟩
    · intro other hother
      rcases mem_callsOf_ended hother with hold | rfl
      · exact h.past other hold
      · exact h.past call (mem_callsOf.mpr ⟨hmem, rfl⟩)
    · intro other hother hother'
      rcases mem_callsOf_ended hother with hold | rfl
      · exact h.lasting other hold hother'
      · cases hother'
    · intro hfull
      rcases hok call hcall with hroom | ⟨other, hother, hlost, hends⟩
      · omega
      · by_cases hsame : other = call
        · exact ⟨_, hnew, rfl, hsame ▸ hends⟩
        · exact ⟨other, mem_callsOf_ended_of_ne hcall hother hsame,
            hlost.resolve_right hsame, hends⟩
    · intro _ hover
      refine h.roomy (by omega) fun other hother => ?_
      by_cases hsame : other = call
      · right
        subst hsame
        rcases hover _ hnew with hreleased | hpassed
        · cases hreleased
        · exact hpassed
      · exact hover other (mem_callsOf_ended_of_ne hcall hother hsame)

/-! ### All runs -/

/-- **Distributed concurrency cap.** In a run in which time does not run out under a call and
lost calls do not fill a counter that is renewed, no key has more running calls than its limit,
and a key whose calls are all released or out of time takes a new one. -/
theorem capped_of_reachable (limiter : RedisProviderRateLimiter)
    (hs : (machine limiter).ReachableUnder (InTime limiter) s) (key : String) :
    Capped limiter s key := by
  have hsound : Sound limiter s key := hs.invariant (I := fun s => Sound limiter s key)
    (by
      intro s hinit
      rw [hinit]
      have hcounted : (RateReplicas.mk s.now (fun _ => none) []).counted limiter key = 0 :=
        Expiring.value_of_absent rfl
      have hrunning : (RateReplicas.mk s.now (fun _ => none) []).running key = 0 := rfl
      have hpos := limiter.maxConcurrency_pos
      refine ⟨fun _ hcall => ?_, by omega, by omega, fun _ hcall => ?_, fun hfull => ?_,
        fun hsome => ?_⟩
      · cases hcall
      · cases hcall
      · omega
      · omega)
    (by
      intro s action s' _ h hok hnext
      cases action with
      | tick now => exact sound_tick h hok hnext
      | acquire name estimatedTokens reachable => exact sound_acquire h hok hnext
      | release i => exact sound_release h hnext
      | lose i => exact sound_lose h hok hnext)
  exact hsound.capped

/-- One call at a time. -/
def oneAtATime : RedisProviderRateLimiter where
  requestsPerMinute := 10
  tokensPerMinute := 10
  maxConcurrency := 1
  keyPrefix := "storyforge"
  maxConcurrency_pos := Nat.one_pos

/-- A call that is released, one that is lost, and one after its time has passed. -/
theorem capped_after_loss : ∃ s, (machine oneAtATime).ReachableUnder (InTime oneAtATime) s ∧
    s.running "llm" = 1 ∧ Capped oneAtATime s "llm" := by
  obtain ⟨s, hs, hone⟩ := (machine oneAtATime).exists_reachableUnder (InTime oneAtATime)
    [.acquire "llm" 1 true, .acquire "llm" 1 true, .tick 10, .release 0, .acquire "llm" 1 true,
      .lose 1, .tick 130, .acquire "llm" 1 true]
    (fun s => s.running "llm" = 1) (s := ⟨0, fun _ => none, []⟩) rfl (by decide +kernel)
  exact ⟨s, hs, hone, capped_of_reachable oneAtATime hs "llm"⟩

/-- Neither half of the cap holds of all runs. A call that runs for two minutes loses its place
to a second one. A lost call keeps its place for longer than that when a call that is refused
renews the counter. -/
theorem capped_fails :
    (¬ ∀ s, (machine oneAtATime).Reachable s → s.running "llm" ≤ oneAtATime.maxConcurrency) ∧
      ¬ ∀ s, (machine oneAtATime).Reachable s → s.Over "llm" →
        s.InWindow oneAtATime "llm" 1 →
        (oneAtATime.acquire "llm" 1 true s.now s.store).1 = .ok () := by
  constructor
  · intro h
    obtain ⟨s, hs, htwo⟩ := (machine oneAtATime).exists_reachable
      [.acquire "llm" 1 true, .tick 120, .acquire "llm" 1 true]
      (fun s => s.running "llm" = 2) (s := ⟨0, fun _ => none, []⟩) rfl (by decide +kernel)
    have hone : s.running "llm" ≤ 1 := h s hs
    omega
  · intro h
    obtain ⟨s, hs, hover, hwindow, hrefused⟩ := (machine oneAtATime).exists_reachable
      [.acquire "llm" 1 true, .lose 0, .tick 100, .acquire "llm" 1 true, .tick 200]
      (fun s => s.Over "llm" ∧ s.InWindow oneAtATime "llm" 1 ∧
        (oneAtATime.acquire "llm" 1 true s.now s.store).1.isOk = false)
      (s := ⟨0, fun _ => none, []⟩) rfl (by decide +kernel)
    rw [h s hs hover hwindow] at hrefused
    cases hrefused

end RateReplicas

end StoryForge
