import StoryForge.Providers.StopConditions
import StoryForge.Providers.Transport

/-!
# The requests of a governed call

A governed call retries on top of a provider that retries by itself. Whatever the ledger, the
breaker and the endpoint do, the requests sent are bounded by the product of the limits, and
nothing is sent after the endpoint has refused the prompt or rejected the credentials.

## Main results

* `AttemptEnv.attempt_stops` — an attempt whose provider raised ends in what was raised;
* `GovernedCall.attempts_stops`, `candidates_stops` — a failure that rules out a fallback is the
  last one;
* `GovernedCall.requests_bounded`, `requests_stop` — what is sent in all.
-/

namespace StoryForge

/-! ### One attempt -/

namespace AttemptEnv

variable {e : AttemptEnv} {counts : Error → Bool} {govern : LLMResponse → LLMResponse}
  {entry : WalkEntry} {log : List WalkEntry}

/-- The log after a part of an attempt: its entry has changed, to one with a property. -/
def Onto (entry : WalkEntry) (log : List WalkEntry) (p : WalkEntry → Prop)
    (log' : List WalkEntry) : Prop :=
  ∃ entry', log' = entry' :: log ∧ entry'.candidate = entry.candidate ∧
    entry'.attempt = entry.attempt ∧ p entry'

/-- A note that leaves alone what a property is about. -/
theorem Onto.note {p q : WalkEntry → Prop} {f : WalkEntry → WalkEntry} {E : Error → _ → Prop}
    (hcandidate : ∀ w, (f w).candidate = w.candidate) (hattempt : ∀ w, (f w).attempt = w.attempt)
    (hpq : ∀ w, p w → q (f w)) :
    Program.Triple (Onto entry log p) (Walk.note f) (fun _ => Onto entry log q) E := by
  rintro s ⟨entry', rfl, hsame, hsame', hp⟩
  exact ⟨f entry', rfl, (hcandidate _).trans hsame, (hattempt _).trans hsame', hpq _ hp⟩

/-- What the provider raised is what the `try` body raises. -/
def RaisesProvider (e : AttemptEnv) (error : Error) (w : WalkEntry) : Prop :=
  w.invoked = true → ∀ raised, e.provider = .error raised → error = raised

/-- A step before the call of the provider. -/
theorem tryBody_raising {fault : Option Error} :
    Program.Triple (Onto entry log fun w => w.invoked = false) (.raising fault)
      (fun _ => Onto entry log fun w => w.invoked = false)
      fun error => Onto entry log (e.RaisesProvider error) := by
  refine .raising (fun _ s hs => hs) fun error _ s hs => ?_
  obtain ⟨entry', hs, hcandidate, hattempt, hinvoked⟩ := hs
  exact ⟨entry', hs, hcandidate, hattempt, fun h => absurd (hinvoked.symm.trans h) (by simp)⟩

/-- A step after its answer. -/
theorem tryBody_raising_late {fault : Option Error} (h : ∀ raised, e.provider ≠ .error raised) :
    Program.Triple (Onto entry log fun _ => True) (.raising fault)
      (fun _ => Onto entry log fun _ => True)
      fun error => Onto entry log (e.RaisesProvider error) := by
  refine .raising (fun _ s hs => hs) fun error _ s hs => ?_
  obtain ⟨entry', hs, hcandidate, hattempt, -⟩ := hs
  exact ⟨entry', hs, hcandidate, hattempt, fun _ raised hraised => absurd hraised (h raised)⟩

/-- **The `try` body** returns only with an answer of the provider, and raises what the provider
raised once that was called. -/
theorem tryBody_stops (e : AttemptEnv) (govern : LLMResponse → LLMResponse) (entry : WalkEntry)
    (log : List WalkEntry) :
    Program.Triple (Onto entry log fun w => w.invoked = false) (e.tryBody govern)
      (fun _ => Onto entry log fun _ => ∀ raised, e.provider ≠ .error raised)
      fun error => Onto entry log (e.RaisesProvider error) := by
  unfold tryBody
  refine .bind tryBody_raising fun _ => .bind tryBody_raising fun _ => ?_
  refine .bind tryBody_raising fun _ => .bind tryBody_raising fun _ => ?_
  refine .bind tryBody_raising fun _ => .bind tryBody_raising fun _ => ?_
  refine .bind (Onto.note (q := fun _ => True) (fun _ => rfl) (fun _ => rfl) fun _ _ => trivial)
    fun _ => ?_
  cases hprovider : e.provider with
  | error raised =>
      rintro s ⟨entry', rfl, hcandidate, hattempt, -⟩
      refine ⟨entry', rfl, hcandidate, hattempt, fun _ raised' hraised => ?_⟩
      exact Except.error.inj (hprovider.symm.trans hraised)
  | ok response =>
      have hanswer : ∀ raised, e.provider ≠ .error raised := by simp [hprovider]
      refine .bind (R := fun _ => Onto entry log fun _ => True) (fun s hs => hs) fun _ => ?_
      refine .bind (Onto.note (q := fun _ => True) (fun _ => rfl) (fun _ => rfl) fun _ _ => trivial)
        fun _ => ?_
      refine .bind (tryBody_raising_late hanswer) fun _ => ?_
      refine .bind (tryBody_raising_late hanswer) fun _ => ?_
      refine .bind (tryBody_raising_late hanswer) fun _ => ?_
      refine .bind (Onto.note (q := fun _ => True) (fun _ => rfl) (fun _ => rfl) fun _ _ => trivial)
        fun _ => ?_
      refine .bind (tryBody_raising_late hanswer) fun _ => ?_
      refine .pure fun s hs => ?_
      obtain ⟨entry', hs, hcandidate, hattempt, -⟩ := hs
      exact ⟨entry', hs, hcandidate, hattempt, by simp⟩

/-- The handler changes nothing of what `tryBody_stops` speaks of. -/
theorem except_keeps (e : AttemptEnv) (counts : Error → Bool) (error : Error) (entry : WalkEntry)
    (log : List WalkEntry) :
    Program.Triple (Onto entry log (e.RaisesProvider error)) (e.except counts error)
      (fun _ => Onto entry log (e.RaisesProvider error)) fun _ => Onto entry log fun _ => True := by
  have hraising : ∀ fault : Option Error,
      Program.Triple (Onto entry log (e.RaisesProvider error)) (.raising fault)
        (fun _ => Onto entry log (e.RaisesProvider error)) fun _ => Onto entry log fun _ => True := by
    intro fault
    refine .raising (fun _ s hs => hs) fun _ _ s hs => ?_
    obtain ⟨entry', hs, hcandidate, hattempt, -⟩ := hs
    exact ⟨entry', hs, hcandidate, hattempt, trivial⟩
  unfold AttemptEnv.except
  refine .bind (R := fun _ => Onto entry log (e.RaisesProvider error))
    (Onto.note (fun _ => rfl) (fun _ => rfl) fun _ h => h) fun _ => ?_
  refine .bind (hraising _) fun _ => .bind (hraising _) fun _ => .bind (hraising _) fun _ => ?_
  refine .ite (fun _ => ?_) fun _ => .pure fun s hs => hs
  exact .bind (hraising _) fun _ => Onto.note (fun _ => rfl) (fun _ => rfl) fun _ h => h

/-- **An attempt** that called a provider that raised ends in what it raised, unless its handler
raises. -/
theorem attempt_stops (e : AttemptEnv) (counts : Error → Bool) (govern : LLMResponse → LLMResponse)
    (entry : WalkEntry) (log : List WalkEntry) :
    Program.Triple (Onto entry log fun w => w.invoked = false) (e.attempt counts govern)
      (fun result => Onto entry log fun w => w.invoked = true →
        ∀ raised, e.provider = .error raised → result = .error raised)
      fun _ => Onto entry log fun _ => True := by
  unfold attempt
  refine .bind (R := fun _ => Onto entry log fun w => w.invoked = false)
    (Onto.note (fun _ => rfl) (fun _ => rfl) fun _ h => h) fun _ => ?_
  refine .rescue (R := fun error => Onto entry log (e.RaisesProvider error)) ?_ fun error => ?_
  · refine .bind (tryBody_stops e govern entry log) fun response => .pure fun s hs => ?_
    obtain ⟨entry', hs, hcandidate, hattempt, hanswer⟩ := hs
    exact ⟨entry', hs, hcandidate, hattempt, fun _ raised hraised => absurd hraised (hanswer raised)⟩
  · refine .bind (except_keeps e counts error entry log) fun _ => .pure fun s hs => ?_
    obtain ⟨entry', hs, hcandidate, hattempt, hraises⟩ := hs
    exact ⟨entry', hs, hcandidate, hattempt,
      fun hinvoked raised hraised => by rw [hraises hinvoked raised hraised]⟩

end AttemptEnv

/-! ### The walk -/

namespace GovernedCall

variable {call : GovernedCall} {reference : ModelReference} {log : List WalkEntry} {n : ℕ}

/-- An entry whose provider was called and raised what rules out a fallback. -/
def Refused (call : GovernedCall) (w : WalkEntry) : Prop :=
  w.invoked = true ∧
    ∃ raised, (call.env.attempt w.attempt).provider = .error raised ∧ stopsFallback raised = true

/-- What holds of a log while the walk goes on: nothing was refused, and at most `n` providers
were called. -/
structure Going (call : GovernedCall) (n : ℕ) (log : List WalkEntry) : Prop where
  count : log.countP (·.invoked) ≤ n
  notRefused : ∀ w ∈ log, ¬ call.Refused w

/-- What holds of it when the walk has ended: at most the newest entry was refused. -/
structure Ended (call : GovernedCall) (n : ℕ) (log : List WalkEntry) : Prop where
  count : log.countP (·.invoked) ≤ n
  notRefused : ∀ w ∈ log.tail, ¬ call.Refused w

theorem Going.ended {m : ℕ} (h : Going call n log) (hle : n ≤ m) : Ended call m log :=
  ⟨h.count.trans hle, fun w hw => h.notRefused w (List.mem_of_mem_tail hw)⟩

theorem Going.mono {m : ℕ} (h : Going call n log) (hle : n ≤ m) : Going call m log :=
  ⟨h.count.trans hle, h.notRefused⟩

theorem Ended.mono {m : ℕ} (h : Ended call n log) (hle : n ≤ m) : Ended call m log :=
  ⟨h.count.trans hle, h.notRefused⟩

/-- A new entry, whatever became of it. -/
theorem Going.push (h : Going call n log) (w : WalkEntry) : Ended call (n + 1) (w :: log) where
  count := by
    have hcount := h.count
    rw [List.countP_cons]
    split <;> omega
  notRefused := h.notRefused

/-- A new entry that was not refused. -/
theorem Going.push_of_not (h : Going call n log) {w : WalkEntry} (hw : ¬ call.Refused w) :
    Going call (n + 1) (w :: log) where
  count := (h.push w).count
  notRefused := by
    intro w' hw'
    rcases List.mem_cons.mp hw' with rfl | hw'
    · exact hw
    · exact h.notRefused w' hw'

/-- A new entry without a call. -/
theorem Going.push_quiet (h : Going call n log) {w : WalkEntry} (hw : w.invoked = false) :
    Going call n (w :: log) where
  count := by
    have hcount := h.count
    simpa [List.countP_cons, hw] using hcount
  notRefused := (h.push_of_not fun hrefused => absurd (hw.symm.trans hrefused.1) (by simp)).notRefused

/-- An attempt that ended in an error that allows for a fallback was not refused. -/
theorem not_refused_of_result {w : WalkEntry} {error : Error}
    (hresult : w.invoked = true → ∀ raised,
      (call.env.attempt w.attempt).provider = .error raised →
        (Except.error error : Except Error LLMResponse) = .error raised)
    (hgoes : stopsFallback error = false) : ¬ call.Refused w := by
  rintro ⟨hinvoked, raised, hprovider, hstops⟩
  rw [← Except.error.inj (hresult hinvoked raised hprovider), hgoes] at hstops
  exact absurd hstops (by simp)

/-- How the attempts on a candidate leave the log. -/
def AfterAttempts (call : GovernedCall) (n : ℕ) (ending : Ending) (log : List WalkEntry) : Prop :=
  Ended call n log ∧
    ∀ error attempt, ending = .exhausted error attempt →
      error.any stopsFallback = false → Going call n log

/-- The log after an attempt that ended in an error. -/
def AfterFailure (call : GovernedCall) (n : ℕ) (error : Error) (log : List WalkEntry) : Prop :=
  Ended call n log ∧ (stopsFallback error = false → Going call n log)

/-- One pass of the retry loop, whatever follows an error. -/
theorem pass_stops {m : ℕ} (reference : ModelReference) (candidate attempt n : ℕ)
    {next : Error → Walk Ending} (hle : n + 1 ≤ m)
    (hnext : ∀ error, Program.Triple (AfterFailure call (n + 1) error) (next error)
      (AfterAttempts call m) fun _ => Ended call m) :
    Program.Triple (Going call n)
      (do
        Walk.push { candidate, attempt }
        if (call.env.attempt attempt).deadlinePassed then do
          let error := Error.llmError .timeout "Provider total deadline was exhausted" attempt
          Walk.note ({ · with error := some error })
          return .exhausted (some error) attempt
        else do
          match ← (call.env.attempt attempt).attempt breakerFailure
              (govern reference attempt) with
          | .ok response => return .returned response
          | .error e => next e)
      (AfterAttempts call m) fun _ => Ended call m := by
  intro log hlog
  let entry : WalkEntry := { candidate, attempt }
  refine Program.Triple.bind (P := (· = log)) (R := fun _ => AttemptEnv.Onto entry log
    fun w => w.invoked = false) ?_ (fun _ => ?_) log rfl
  · rintro _ rfl
    exact ⟨entry, rfl, rfl, rfl, rfl⟩
  refine .ite (fun _ => ?_) fun _ => ?_
  · refine .bind (AttemptEnv.Onto.note (q := fun w => w.invoked = false) (fun _ => rfl)
      (fun _ => rfl) fun _ h => h) fun _ => .pure ?_
    rintro s ⟨w, rfl, -, -, hinvoked⟩
    have hgoing := (hlog.push_quiet hinvoked).mono ((Nat.le_succ n).trans hle)
    exact ⟨hgoing.ended le_rfl, fun _ _ _ _ => hgoing⟩
  · refine .bind (R := fun result => AttemptEnv.Onto entry log fun w => w.invoked = true →
        ∀ raised, (call.env.attempt attempt).provider = .error raised → result = .error raised)
      ((AttemptEnv.attempt_stops _ _ _ entry log).conseq (fun _ h => h) (fun _ _ h => h) ?_)
      fun result => ?_
    · rintro _ s ⟨w, rfl, -, -, -⟩
      exact (hlog.push w).mono hle
    · cases result with
      | ok response =>
          refine .pure ?_
          rintro s ⟨w, rfl, -, -, -⟩
          exact ⟨(hlog.push w).mono hle, fun _ _ hending => absurd hending (by simp)⟩
      | error e =>
          refine (hnext e).conseq ?_ (fun _ _ h => h) fun _ _ h => h
          rintro s ⟨w, rfl, -, hattempt, hresult⟩
          refine ⟨hlog.push w, fun hgoes => hlog.push_of_not ?_⟩
          exact not_refused_of_result (hattempt ▸ hresult) hgoes

/-- The end of the attempts with an error. -/
theorem exhausted_stops {m : ℕ} (error : Error) (attempt : ℕ) (hle : n ≤ m) :
    Program.Triple (AfterFailure call n error)
      (return .exhausted (some error) attempt : Walk Ending)
      (AfterAttempts call m) fun _ => Ended call m := by
  rintro log ⟨hended, hgoing⟩
  refine ⟨hended.mono hle, ?_⟩
  rintro _ _ ⟨⟩ hgoes
  exact (hgoing hgoes).mono hle

/-- **The attempts on a candidate** call its provider once for each, and a refusal is the last. -/
theorem attempts_stops (reference : ModelReference) (candidate retries attempt n : ℕ) :
    Program.Triple (Going call n) (call.attempts reference candidate retries attempt)
      (AfterAttempts call (n + retries + 1)) fun _ => Ended call (n + retries + 1) := by
  induction retries generalizing attempt n with
  | zero =>
      unfold attempts
      exact pass_stops reference candidate (attempt + 1) n le_rfl fun error =>
        exhausted_stops error (attempt + 1) le_rfl
  | succ retries ih =>
      have hcount : n + 1 + retries + 1 = n + (retries + 1) + 1 := by omega
      unfold attempts
      refine pass_stops reference candidate (attempt + 1) n (by omega) fun error => ?_
      refine .ite (fun hretryable => ?_) fun _ => exhausted_stops error (attempt + 1) (by omega)
      refine .bind (R := fun _ => Going call (n + 1)) (.raising ?_ ?_) fun _ => ?_
      · exact fun _ log hlog => hlog.2 (not_stops_of_retryable hretryable)
      · exact fun _ _ log hlog => hlog.1.mono (by omega)
      · rw [← hcount]
        exact ih (attempt + 1) (n + 1)

/-- **The walk over the candidates.** -/
theorem candidates_stops (rest : List ModelReference) (candidate attempt n : ℕ)
    (error : Option Error) :
    Program.Triple (Going call n) (call.candidates rest candidate attempt error)
      (fun _ => Ended call (n + rest.length * (call.gateway.maxRetries + 1)))
      fun _ => Ended call (n + rest.length * (call.gateway.maxRetries + 1)) := by
  induction rest generalizing candidate attempt n error with
  | nil => exact .pure fun log hlog => hlog.ended (Nat.le_add_right n _)
  | cons reference rest ih =>
      have hlength : n + (call.gateway.maxRetries + 1) +
          rest.length * (call.gateway.maxRetries + 1) =
            n + (reference :: rest).length * (call.gateway.maxRetries + 1) := by
        rw [List.length_cons]
        ring
      unfold candidates
      refine .ite (fun _ => ?_) fun _ => ?_
      · -- no runtime
        refine .bind (R := fun _ => Going call n)
          (fun log hlog => hlog.push_quiet rfl) fun _ => ?_
        refine (ih (candidate + 1) attempt n _).conseq (fun _ h => h) (fun _ _ h => ?_)
          fun _ _ h => ?_
        all_goals exact h.mono (by rw [← hlength]; omega)
      · split
        · -- refused by policy or pricing
          refine .bind (R := fun _ => Going call n)
            (fun log hlog => hlog.push_quiet rfl) fun _ => ?_
          refine .bind (R := fun _ => Going call n) (.raising (fun _ _ h => h) ?_) fun _ => ?_
          · exact fun _ _ _ h => h.ended (Nat.le_add_right n _)
          refine .bind (R := fun _ => Going call n) (.raising (fun _ _ h => h) ?_) fun _ => ?_
          · exact fun _ _ _ h => h.ended (Nat.le_add_right n _)
          exact .pure fun _ h => h.ended (Nat.le_add_right n _)
        · refine .bind ((attempts_stops reference candidate call.gateway.maxRetries attempt
            n).conseq (fun _ h => h) (fun _ _ h => h) fun _ _ h => h.mono ?_) fun ending => ?_
          · rw [← hlength]
            omega
          cases ending with
          | returned response =>
              refine .pure fun log hlog => hlog.1.mono ?_
              rw [← hlength]
              omega
          | exhausted error attempt =>
              refine .ite (fun _ => .pure fun log hlog => hlog.1.mono ?_) fun hgoes => ?_
              · rw [← hlength]
                omega
              · rw [← hlength]
                refine (ih (candidate + 1) attempt _ error).conseq (fun log hlog => ?_)
                  (fun _ _ h => h) fun _ _ h => h
                exact hlog.2 error attempt rfl (by simpa using hgoes)

/-- A whole call. -/
theorem outcome_stops (call : GovernedCall) :
    Ended call (call.route.candidates.length * (call.gateway.maxRetries + 1))
      call.outcome.2.reverse := by
  have htriple : Program.Triple (Going call 0) call.generate
      (fun _ => Ended call (0 + call.route.candidates.length * (call.gateway.maxRetries + 1)))
      fun _ => Ended call (0 + call.route.candidates.length * (call.gateway.maxRetries + 1)) := by
    unfold generate
    refine .bind (candidates_stops call.route.candidates 0 0 0 none) fun ending => ?_
    cases ending with
    | returned response => exact .pure fun _ h => h
    | exhausted error attempt =>
        exact .bind (.raising (fun _ _ h => h) fun _ _ _ h => h) fun _ => .throw fun _ h => h
  have hpost := htriple.of_exec (s := []) ⟨by simp, by simp⟩
  rw [Nat.zero_add] at hpost
  unfold outcome
  revert hpost
  rcases call.generate.exec [] with ⟨result, log⟩
  rw [List.reverse_reverse]
  cases result <;> exact id

/-! ### Over an endpoint -/

section Endpoint

open OpenAICompatibleProvider

variable {J : Type} (call : GovernedCall) (config : ℕ → OpenAICompatibleConfig)
  (endpoint : ℕ → Endpoint J) (prepared : ℕ → PromptRequest)

/-- What the provider of an attempt does with the prepared request. -/
def generated (attempt : ℕ) : Generated :=
  OpenAICompatibleProvider.generate (config attempt) (endpoint attempt) (prepared attempt)

/-- The call, with these providers. -/
def onEndpoints : GovernedCall :=
  { call with
    env := { call.env with
      attempt := fun n => { call.env.attempt n with
        provider := (generated config endpoint prepared n).result.mapError
          ProviderFailure.toError } } }

/-- Everything that is exchanged with an endpoint in the call, oldest first. -/
def exchanges : List Exchange :=
  ((call.onEndpoints config endpoint prepared).outcome.2.filter (·.invoked)).flatMap fun w =>
    (generated config endpoint prepared w.attempt).exchanges

/-- The endpoint refused the prompt or rejected the credentials. -/
def rejected : RequestFailure → Bool
  | .llmRefusal _ | .contentFilterFinishReason => true
  | .authentication _ | .permissionDenied _ => true
  | _ => false

variable {call config endpoint prepared} {e : RequestFailure}

/-- Such a failure is not retried. -/
theorem not_retried_of_rejected {x : Exchange} (h : x.failure.any rejected = true) :
    x.isTransient = false ∧ x.isMalformed = false := by
  obtain ⟨e, he, hrejected⟩ := (Option.any_eq_true _ _).mp h
  rw [Exchange.isTransient, Exchange.isMalformed, he, Option.any_some, Option.any_some]
  cases e <;> first | exact ⟨rfl, rfl⟩ | exact absurd hrejected (by simp [rejected])

/-- It rules out a fallback. -/
theorem stopsFallback_of_rejected {failure : ProviderFailure} (h : rejected e = true)
    (hkind : failure.kind = kindOf e) : stopsFallback failure.toError = true := by
  rw [ProviderFailure.toError, hkind]
  cases e <;> first | rfl | exact absurd h (by simp [rejected])

/-- A provider that is refused is refused last, and raises what rules out a fallback. -/
theorem generated_rejected (attempt : ℕ) :
    (∀ x ∈ (generated config endpoint prepared attempt).exchanges.dropLast,
        x.failure.any rejected = false) ∧
      ((∃ x ∈ (generated config endpoint prepared attempt).exchanges,
          x.failure.any rejected = true) →
        ∃ failure, (generated config endpoint prepared attempt).result = .error failure ∧
          stopsFallback failure.toError = true) := by
  obtain ⟨s, hs, hexchanges, hsettles⟩ :=
    exists_settles (config attempt) (endpoint attempt) (prepared attempt)
  have hhistory : ∀ x ∈ s.exchanges, x.failure.any rejected = false := by
    intro x hx
    rw [Bool.eq_false_iff]
    intro hrejected
    obtain ⟨htransient, hmalformed⟩ := not_retried_of_rejected hrejected
    rcases hs.retried x hx with h | h
    · exact absurd (htransient.symm.trans h) (by simp)
    · exact absurd (hmalformed.symm.trans h) (by simp)
  rw [generated, hexchanges, List.dropLast_concat]
  refine ⟨hhistory, ?_⟩
  rintro ⟨x, hx, hrejected⟩
  rcases List.mem_append.mp hx with hx | hx
  · exact absurd ((hhistory x hx).symm.trans hrejected) (by simp)
  · obtain rfl := List.mem_singleton.mp hx
    obtain ⟨e, he, hrejected'⟩ := (Option.any_eq_true _ _).mp hrejected
    have htransient := (not_retried_of_rejected hrejected).1
    rw [Exchange.isTransient, he, Option.any_some] at htransient
    have houtcome := Exchange.outcome_of_failure he
    rw [Settles, houtcome] at hsettles
    obtain ⟨failure, hresult, -, ⟨hkind, -, -⟩ | ⟨-, htransient', -⟩⟩ := hsettles
    · exact ⟨failure, hresult, stopsFallback_of_rejected hrejected' hkind⟩
    · exact absurd (htransient.symm.trans htransient') (by simp)

/-- **Nothing is sent after a refusal** of the prompt or of the credentials, whatever the ledger,
the breaker and the limiter do. -/
theorem requests_stop (call : GovernedCall) (config : ℕ → OpenAICompatibleConfig)
    (endpoint : ℕ → Endpoint J) (prepared : ℕ → PromptRequest) :
    (call.exchanges config endpoint prepared).dropLast.any (fun x => x.failure.any rejected) =
      false := by
  simp only [List.any_eq_false, Bool.not_eq_true]
  have hended := outcome_stops (call.onEndpoints config endpoint prepared)
  rw [exchanges]
  generalize (call.onEndpoints config endpoint prepared).outcome.2 = log at hended ⊢
  rcases List.eq_nil_or_concat log with rfl | ⟨before, w, rfl⟩
  · simp
  have hbefore : ∀ x ∈ (before.filter (·.invoked)).flatMap fun w =>
      (generated config endpoint prepared w.attempt).exchanges, x.failure.any rejected = false := by
    intro x hx
    obtain ⟨w', hw', hx⟩ := List.mem_flatMap.mp hx
    obtain ⟨hw', hinvoked⟩ := List.mem_filter.mp hw'
    rw [Bool.eq_false_iff]
    intro hrejected
    obtain ⟨failure, hresult, hstops⟩ := (generated_rejected w'.attempt).2 ⟨x, hx, hrejected⟩
    refine hended.notRefused w' (by simpa using hw') ⟨hinvoked, failure.toError, ?_, hstops⟩
    simp only [onEndpoints, hresult, Except.mapError]
  rw [List.concat_eq_append, List.filter_append, List.flatMap_append]
  cases hinvoked : w.invoked with
  | false =>
      rw [List.filter_cons_of_neg (by simp [hinvoked]), List.filter_nil, List.flatMap_nil,
        List.append_nil]
      exact fun x hx => hbefore x (List.mem_of_mem_dropLast hx)
  | true =>
      rw [List.filter_cons_of_pos hinvoked, List.filter_nil, List.flatMap_singleton]
      have hne : (generated config endpoint prepared w.attempt).exchanges ≠ [] := by
        obtain ⟨s, -, hexchanges, -⟩ :=
          exists_settles (config w.attempt) (endpoint w.attempt) (prepared w.attempt)
        rw [generated, hexchanges]
        simp
      rw [List.dropLast_append_of_ne_nil hne]
      exact List.forall_mem_append.mpr ⟨hbefore, (generated_rejected w.attempt).1⟩

/-- **What a call sends in all**: at most the product of the limits, whatever fails. -/
theorem requests_bounded (call : GovernedCall) (config : ℕ → OpenAICompatibleConfig)
    (endpoint : ℕ → Endpoint J) (prepared : ℕ → PromptRequest) (limit : ℕ)
    (hlimit : ∀ n, (config n).maxRetries + (config n).repairRetries ≤ limit) :
    (call.exchanges config endpoint prepared).length ≤
      call.route.candidates.length * (call.gateway.maxRetries + 1) * (limit + 1) := by
  have hcount := (outcome_stops (call.onEndpoints config endpoint prepared)).count
  rw [List.countP_reverse, List.countP_eq_length_filter] at hcount
  have hone : ∀ w : WalkEntry,
      (generated config endpoint prepared w.attempt).exchanges.length ≤ limit + 1 := by
    intro w
    obtain ⟨s, hs, hexchanges, -⟩ :=
      exists_settles (config w.attempt) (endpoint w.attempt) (prepared w.attempt)
    have hlength := hs.length_le
    have hle := hlimit w.attempt
    rw [generated, hexchanges, List.length_append, List.length_singleton]
    omega
  have hsum : ∀ log : List WalkEntry, (log.flatMap fun w =>
      (generated config endpoint prepared w.attempt).exchanges).length ≤
        log.length * (limit + 1) := by
    intro log
    induction log with
    | nil => simp
    | cons w log ih =>
        have hw := hone w
        rw [List.flatMap_cons, List.length_append, List.length_cons, Nat.succ_mul]
        omega
  exact (hsum _).trans (Nat.mul_le_mul_right _ hcount)

/-- An endpoint that never answers in time. -/
def silent : Endpoint Unit where
  answer _ _ := .error .apiTimeout
  loads _ := .error .jsonDecode
  modelValidate _ := .ok "\x7b\x7d"
  float _ := none
  sleepRaises _ _ := false

/-- Two candidates, tried once each, over an endpoint that never answers in time. -/
theorem requests_bounded_silent :
    ((sample fallenBack).exchanges (fun _ => .sample) (fun _ => silent)
      fun _ => PromptRequest.sample).length ≤ 8 :=
  requests_bounded (sample fallenBack) (fun _ => .sample) (fun _ => silent)
    (fun _ => PromptRequest.sample) 3 fun _ => le_rfl

end Endpoint

end GovernedCall

end StoryForge
