import StoryForge.Providers.Walk

/-!
# What ends a walk over the candidates

A call tries its candidates in the order of the route, each as often as the retry policy
allows, and stops at the first response and at the failures that rule out a fallback.

## Main results

* `AttemptEnv.attempt_ends` — how one attempt ends;
* `GovernedCall.attempts_ends`, `candidates_ends` — what the log says of the attempts on one
  candidate, and of the walk;
* `GovernedCall.stopsProperly_iff` — the stop conditions hold exactly when the breaker takes
  the reports of every attempt;
* `GovernedCall.stopsProperly_fails` — an answer is lost when it does not.
-/

namespace StoryForge

/-! ### One attempt -/

namespace AttemptEnv

variable {e : AttemptEnv} {counts : Error → Bool} {entry : WalkEntry}

/-- How an attempt ends: with the response; with an exception that was dealt with; or with
one that the breaker raised in the handler. -/
inductive Ends (e : AttemptEnv) (counts : Error → Bool) (govern : LLMResponse → LLMResponse) :
    Except Error (Except Error LLMResponse) → WalkEntry → Prop
  | returned {entry : WalkEntry} {response : LLMResponse} (hresponse : entry.response = some response)
      (herror : entry.error = none) (hreports : e.Reports counts) :
      Ends e counts govern (.ok (.ok (govern response))) entry
  | failed {entry : WalkEntry} {error : Error} (herror : entry.error = some error)
      (hreports : e.Reports counts ∧ entry.response = none ∨
        ¬ e.Reports counts ∧ entry.response.isSome) :
      Ends e counts govern (.ok (.error error)) entry
  | escaped {entry : WalkEntry} {error raised : Error} (herror : entry.error = some error)
      (hne : raised ≠ error) (hreports : ¬ e.Reports counts) :
      Ends e counts govern (.error raised) entry

/-- **How an attempt ends**, when the writes succeed and the breaker raises nothing that it
counts itself. -/
theorem attempt_ends (hwrites : e.Writes) (hentry : entry.response = none ∧ entry.error = none)
    (hbreaker : ∀ raised, e.recordSuccess = some raised ∨ e.recordFailure = some raised →
      counts raised = false) (govern : LLMResponse → LLMResponse) (log : List WalkEntry) :
    ∃ result entry', (e.attempt counts govern).exec (entry :: log) = (result, entry' :: log) ∧
      entry'.candidate = entry.candidate ∧ entry'.attempt = entry.attempt ∧
        entry'.attempted = true ∧ Ends e counts govern result entry' := by
  unfold attempt
  simp only [Program.exec_bind, exec_note, Program.exec_rescue]
  cases hfault : e.fault with
  | some error =>
      obtain ⟨invoked, hbody⟩ :=
        exec_tryBody_of_fault hfault govern { entry with attempted := true } log
      simp only [hbody,
        exec_except hwrites.release hwrites.startFailedCall hwrites.finishFailedCall]
      cases hcounts : counts error with
      | false =>
          simp only [Bool.false_eq_true, if_false, Program.exec_pure]
          refine ⟨_, _, rfl, rfl, rfl, rfl, .failed rfl (.inl ⟨?_, hentry.1⟩)⟩
          simp [Reports, hfault, hcounts]
      | true =>
          simp only [if_true]
          cases hfailure : e.recordFailure with
          | none =>
              refine ⟨_, _, rfl, rfl, rfl, rfl, .failed rfl (.inl ⟨?_, hentry.1⟩)⟩
              simp [Reports, hfault, hfailure]
          | some raised =>
              refine ⟨_, _, rfl, rfl, rfl, rfl, .escaped rfl ?_ ?_⟩
              · rintro rfl
                exact absurd (hcounts.symm.trans (hbreaker _ (.inr hfailure))) (by simp)
              · simp [Reports, hfault, hcounts, hfailure]
  | none =>
      have hlate : e.lateFault = e.recordSuccess := by
        rw [lateFault, hwrites.finishCall, hwrites.settle, Option.none_or, Option.none_or]
      cases hsuccess : e.recordSuccess with
      | none =>
          obtain ⟨response, hbody⟩ :=
            exec_tryBody_of_answer hfault (hlate.trans hsuccess) govern
              { entry with attempted := true } log
          simp only [hwrites.succeed] at hbody
          simp only [hbody, Program.exec_pure]
          refine ⟨_, _, rfl, rfl, rfl, rfl, .returned rfl hentry.2 ?_⟩
          simp [Reports, hfault, hsuccess]
      | some raised =>
          obtain ⟨response, hbody⟩ :=
            exec_tryBody_of_lateFault hfault (hlate.trans hsuccess) govern
              { entry with attempted := true } log
          have hcounts := hbreaker raised (.inl hsuccess)
          simp only [hbody,
            exec_except hwrites.release hwrites.startFailedCall hwrites.finishFailedCall,
            hcounts, Bool.false_eq_true, if_false, Program.exec_pure]
          refine ⟨_, _, rfl, rfl, rfl, rfl, .failed rfl (.inr ⟨?_, rfl⟩)⟩
          simp [Reports, hfault, hsuccess]

end AttemptEnv

/-! ### The walk -/

namespace GovernedCall

variable {call : GovernedCall} {log : List WalkEntry} {w : WalkEntry} {i attempt : ℕ}
  {reference : ModelReference} {error : Error}

/-- The candidates that may be called: those with a runtime, and under the offline policy
none that is external. -/
def MayInvoke (call : GovernedCall) (candidate : ℕ) : Prop :=
  ∃ reference, call.route.candidates[candidate]? = some reference ∧
    call.gateway.available reference = true ∧
      (call.gateway.context.privacyPolicy = .offline →
        (call.gateway.capability reference).external = false)

/-- The breaker took the reports of the attempt of an entry. -/
def Reported (call : GovernedCall) (w : WalkEntry) : Prop :=
  w.attempted = true → (call.env.attempt w.attempt).Reports breakerFailure

/-- An entry that ended in an error. Its provider has answered only if the breaker did not
take the success. -/
structure FailedWith (call : GovernedCall) (w : WalkEntry) (error : Error) : Prop where
  error : w.error = some error
  response : call.Reported w ∧ w.response = none ∨ ¬ call.Reported w ∧ w.response.isSome

/-- What holds of a log, newest entry first. -/
structure Walked (call : GovernedCall) (log : List WalkEntry) : Prop where
  ordered : log.Pairwise fun later earlier => earlier.candidate ≤ later.candidate
  bounded : ∀ i, log.countP (·.candidate == i) ≤ call.gateway.maxRetries + 1
  retried : log.IsChain fun later earlier =>
    later.candidate = earlier.candidate → earlier.error.any RetryPolicy.retryable
  allowed : ∀ w ∈ log, w.invoked = true → call.MayInvoke w.candidate

/-- What holds of a log while the walk goes on. -/
structure Open (call : GovernedCall) (log : List WalkEntry) : Prop extends Walked call log where
  failed : ∀ w ∈ log, ∃ error, call.FailedWith w error ∧ stopsFallback error = false

theorem Open.nil : Open call [] :=
  ⟨⟨.nil, by simp, .nil, by simp⟩, by simp⟩

/-- A new entry. -/
theorem Open.push (h : Open call log) (hbelow : ∀ e ∈ log, e.candidate ≤ w.candidate)
    (hretry : ∀ e ∈ log.head?, e.candidate = w.candidate → e.error.any RetryPolicy.retryable)
    (hcount : log.countP (·.candidate == w.candidate) ≤ call.gateway.maxRetries)
    (hallowed : w.invoked = true → call.MayInvoke w.candidate) : Walked call (w :: log) where
  ordered := List.pairwise_cons.mpr ⟨hbelow, h.ordered⟩
  bounded j := by
    rw [List.countP_cons]
    by_cases hj : w.candidate = j
    · subst hj
      simp only [beq_self_eq_true, if_true]
      omega
    · have hbound := h.bounded j
      simp only [beq_iff_eq, hj, if_false]
      omega
  retried := List.isChain_cons.mpr ⟨fun e he heq => hretry e he heq.symm, h.retried⟩
  allowed e he hinvoked := by
    rcases List.mem_cons.mp he with rfl | he
    · exact hallowed hinvoked
    · exact h.allowed e he hinvoked

/-- A failure that allows for going on. -/
theorem Open.cons (h : Open call log) (hwalked : Walked call (w :: log))
    (hfailed : call.FailedWith w error) (hgoes : stopsFallback error = false) :
    Open call (w :: log) where
  toWalked := hwalked
  failed e he := by
    rcases List.mem_cons.mp he with rfl | he
    · exact ⟨error, hfailed, hgoes⟩
    · exact h.failed e he

/-- The log as it was before its newest entry. -/
theorem Open.tail (h : Open call (w :: log)) : Open call log where
  ordered := (List.pairwise_cons.mp h.ordered).2
  bounded i := (List.countP_cons ▸ Nat.le_add_right _ _ : _ ≤ _).trans (h.bounded i)
  retried := (List.isChain_cons.mp h.retried).2
  allowed e he := h.allowed e (List.mem_cons_of_mem _ he)
  failed e he := h.failed e (List.mem_cons_of_mem _ he)

/-- How a walk ends. -/
inductive WalkEnds (call : GovernedCall) : Except Error Ending → List WalkEntry → Prop
  | unrouted : WalkEnds call (.ok (.exhausted none 0)) []
  | returned {w : WalkEntry} {log : List WalkEntry} {reference : ModelReference}
      {response : LLMResponse} (hopen : Open call log) (hwalked : Walked call (w :: log))
      (hreference : call.route.candidates[w.candidate]? = some reference)
      (hresponse : w.response = some response) (herror : w.error = none)
      (hreported : call.Reported w) :
      WalkEnds call (.ok (.returned (govern reference w.attempt response))) (w :: log)
  | exhausted {w : WalkEntry} {log : List WalkEntry} {error : Error} {attempt : ℕ}
      (hopen : Open call log) (hwalked : Walked call (w :: log))
      (hfailed : call.FailedWith w error) :
      WalkEnds call (.ok (.exhausted (some error) attempt)) (w :: log)
  | escaped {w : WalkEntry} {log : List WalkEntry} {error raised : Error}
      (hopen : Open call log) (hwalked : Walked call (w :: log)) (herror : w.error = some error)
      (hne : raised ≠ error) (hreported : ¬ call.Reported w) :
      WalkEnds call (.error raised) (w :: log)

/-- What is retried does not end the walk. -/
theorem not_stops_of_retryable (h : RetryPolicy.retryable error = true) :
    stopsFallback error = false := by
  unfold RetryPolicy.retryable at h
  split at h
  · rfl
  · rfl
  · rfl
  · exact absurd h (by simp)

/-- The ledger and the idempotency record are written whenever the call writes to them. -/
structure Writes (call : GovernedCall) : Prop where
  attempts : ∀ n, (call.env.attempt n).Writes
  fail : call.env.fail = none

/-- What the breaker raises when it cannot take a report. -/
def BreakerRaises (call : GovernedCall) : Prop :=
  ∀ n raised, (call.env.attempt n).recordSuccess = some raised ∨
    (call.env.attempt n).recordFailure = some raised → ∃ message, raised = .circuitOpenError message

/-- The entry of an attempt that the deadline prevents. -/
def deadlineEntry (i attempt : ℕ) : WalkEntry where
  candidate := i
  attempt := attempt
  error := some (.llmError .timeout "Provider total deadline was exhausted" attempt)

theorem exec_attempts_of_deadline {retries : ℕ}
    (h : (call.env.attempt (attempt + 1)).deadlinePassed = true) :
    (call.attempts reference i retries attempt).exec log =
      (.ok (.exhausted (deadlineEntry i (attempt + 1)).error (attempt + 1)),
        deadlineEntry i (attempt + 1) :: log) := by
  unfold attempts
  rw [h]
  rfl

/-- What follows an attempt. -/
theorem exec_attempts {retries : ℕ} (hwrites : (call.env.attempt (attempt + 1)).Writes)
    (h : (call.env.attempt (attempt + 1)).deadlinePassed = false) :
    (call.attempts reference i retries attempt).exec log =
      match ((call.env.attempt (attempt + 1)).attempt breakerFailure
          (govern reference (attempt + 1))).exec
            ({ candidate := i, attempt := attempt + 1 } :: log) with
      | (.ok (.ok response), log') => (.ok (.returned response), log')
      | (.ok (.error e), log') =>
          match retries with
          | 0 => (.ok (.exhausted (some e) (attempt + 1)), log')
          | retries + 1 =>
              if RetryPolicy.retryable e then
                (call.attempts reference i retries (attempt + 1)).exec log'
              else (.ok (.exhausted (some e) (attempt + 1)), log')
      | (.error raised, log') => (.error raised, log') := by
  rw [attempts, Program.exec_bind]
  simp only [Walk.push, Program.exec_update, h, Bool.false_eq_true, if_false, Program.exec_bind]
  rcases ((call.env.attempt (attempt + 1)).attempt breakerFailure
    (govern reference (attempt + 1))).exec ({ candidate := i, attempt := attempt + 1 } :: log) with
    ⟨raised | ⟨e | response⟩, log'⟩
  · rfl
  · cases retries with
    | zero => rfl
    | succ retries =>
        dsimp only
        split
        · rw [hwrites.sleep, Program.exec_bind, Program.exec_raising_none]
        · rfl
  · rfl

/-- What one attempt adds to the walk. -/
inductive AttemptEnds (call : GovernedCall) (log : List WalkEntry) (w : WalkEntry) :
    Except Error (Except Error LLMResponse) → Prop
  | returned {response : LLMResponse} (hends : WalkEnds call (.ok (.returned response)) (w :: log)) :
      AttemptEnds call log w (.ok (.ok response))
  | failed {error : Error} (hfailed : call.FailedWith w error) :
      AttemptEnds call log w (.ok (.error error))
  | escaped {raised : Error} (hends : WalkEnds call (.error raised) (w :: log)) :
      AttemptEnds call log w (.error raised)

theorem attempt_walked (hwrites : call.Writes) (hbreaker : call.BreakerRaises)
    (hreference : call.route.candidates[i]? = some reference) (hallowed : call.MayInvoke i)
    (hopen : Open call log) (hbelow : ∀ e ∈ log, e.candidate ≤ i)
    (hretry : ∀ e ∈ log.head?, e.candidate = i → e.error.any RetryPolicy.retryable)
    (hcount : log.countP (·.candidate == i) ≤ call.gateway.maxRetries) (attempt : ℕ) :
    ∃ result w, ((call.env.attempt attempt).attempt breakerFailure (govern reference attempt)).exec
        ({ candidate := i, attempt } :: log) = (result, w :: log) ∧
      w.candidate = i ∧ Walked call (w :: log) ∧ AttemptEnds call log w result := by
  have hcircuit : ∀ raised, (call.env.attempt attempt).recordSuccess = some raised ∨
      (call.env.attempt attempt).recordFailure = some raised → breakerFailure raised = false := by
    intro raised hraised
    obtain ⟨message, rfl⟩ := hbreaker attempt raised hraised
    rfl
  obtain ⟨result, w, hexec, hcandidate, hattempt, hattempted, hends⟩ :=
    AttemptEnv.attempt_ends (hwrites.attempts attempt)
      (show ({ candidate := i, attempt } : WalkEntry).response = none ∧
        ({ candidate := i, attempt } : WalkEntry).error = none from ⟨rfl, rfl⟩) hcircuit (govern reference attempt) log
  dsimp only at hcandidate hattempt
  have hwalked : Walked call (w :: log) :=
    hopen.push (by rw [hcandidate]; exact hbelow) (by rw [hcandidate]; exact hretry)
      (by rw [hcandidate]; exact hcount) (by rw [hcandidate]; exact fun _ => hallowed)
  have hreported : call.Reported w ↔ (call.env.attempt attempt).Reports breakerFailure := by
    simp [Reported, hattempted, hattempt]
  refine ⟨result, w, hexec, hcandidate, hwalked, ?_⟩
  cases hends with
  | returned hresponse herror hreports =>
      refine .returned ?_
      rw [← hattempt]
      exact .returned hopen hwalked (by rw [hcandidate]; exact hreference) hresponse herror
        (hreported.mpr hreports)
  | failed herror hreports =>
      rw [← hreported] at hreports
      exact .failed ⟨herror, hreports⟩
  | escaped herror hne hreports =>
      rw [← hreported] at hreports
      exact .escaped (.escaped hopen hwalked herror hne hreports)

/-- One pass of the retry loop: the walk ends, or an error that may be retried is. -/
theorem attempts_pass (hwrites : call.Writes) (hbreaker : call.BreakerRaises)
    (hreference : call.route.candidates[i]? = some reference) (hallowed : call.MayInvoke i)
    (hopen : Open call log) (hbelow : ∀ e ∈ log, e.candidate ≤ i)
    (hretry : ∀ e ∈ log.head?, e.candidate = i → e.error.any RetryPolicy.retryable)
    (hcount : log.countP (·.candidate == i) ≤ call.gateway.maxRetries) (retries attempt : ℕ) :
    ∃ w, w.candidate = i ∧
      ((∃ result, (call.attempts reference i retries attempt).exec log = (result, w :: log) ∧
          WalkEnds call result (w :: log)) ∨
        ∃ error left, retries = left + 1 ∧ RetryPolicy.retryable error = true ∧
          w.error = some error ∧ Open call (w :: log) ∧
            (call.attempts reference i retries attempt).exec log =
              (call.attempts reference i left (attempt + 1)).exec (w :: log)) := by
  cases hdeadline : (call.env.attempt (attempt + 1)).deadlinePassed with
  | true =>
      refine ⟨deadlineEntry i (attempt + 1), rfl,
        .inl ⟨_, exec_attempts_of_deadline hdeadline, .exhausted hopen ?_ ?_⟩⟩
      · exact hopen.push hbelow hretry hcount (by simp [deadlineEntry])
      · exact ⟨rfl, .inl ⟨by simp [Reported, deadlineEntry], rfl⟩⟩
  | false =>
      obtain ⟨result, w, hexec, hcandidate, hwalked, hends⟩ :=
        attempt_walked hwrites hbreaker hreference hallowed hopen hbelow hretry hcount (attempt + 1)
      refine ⟨w, hcandidate, ?_⟩
      rw [exec_attempts (hwrites.attempts _) hdeadline, hexec]
      cases hends with
      | returned hends => exact .inl ⟨_, rfl, hends⟩
      | escaped hends => exact .inl ⟨_, rfl, hends⟩
      | @failed error hfailed =>
          cases retries with
          | zero => exact .inl ⟨_, rfl, .exhausted hopen hwalked hfailed⟩
          | succ left =>
              dsimp only
              split
              · rename_i hretryable
                exact .inr ⟨error, left, rfl, hretryable, hfailed.error,
                  hopen.cons hwalked hfailed (not_stops_of_retryable hretryable), rfl⟩
              · exact .inl ⟨_, rfl, .exhausted hopen hwalked hfailed⟩

/-- The attempts on one candidate. -/
theorem attempts_ends (hwrites : call.Writes) (hbreaker : call.BreakerRaises)
    (hreference : call.route.candidates[i]? = some reference) (hallowed : call.MayInvoke i)
    (retries attempt : ℕ) (log : List WalkEntry) (hopen : Open call log)
    (hbelow : ∀ e ∈ log, e.candidate ≤ i)
    (hretry : ∀ e ∈ log.head?, e.candidate = i → e.error.any RetryPolicy.retryable)
    (hcount : log.countP (·.candidate == i) + retries ≤ call.gateway.maxRetries) :
    ∃ result w log', (call.attempts reference i retries attempt).exec log =
      (result, w :: log') ∧ WalkEnds call result (w :: log') ∧ w.candidate = i := by
  induction retries generalizing attempt log with
  | zero =>
      obtain ⟨w, hcandidate, ⟨result, hexec, hends⟩ | ⟨_, left, hleft, -⟩⟩ :=
        attempts_pass hwrites hbreaker hreference hallowed hopen hbelow hretry (by omega) 0 attempt
      · exact ⟨result, w, log, hexec, hends, hcandidate⟩
      · exact absurd hleft (by omega)
  | succ retries ih =>
      obtain ⟨w, hcandidate, ⟨result, hexec, hends⟩ |
        ⟨error, left, hleft, hretryable, herror, hopen', hexec⟩⟩ :=
        attempts_pass hwrites hbreaker hreference hallowed hopen hbelow hretry (by omega)
          (retries + 1) attempt
      · exact ⟨result, w, log, hexec, hends, hcandidate⟩
      · obtain rfl : left = retries := by omega
        rw [hexec]
        refine ih (attempt + 1) (w :: log) hopen' ?_ ?_ ?_
        · intro e he
          rcases List.mem_cons.mp he with rfl | he
          · exact hcandidate.le
          · exact hbelow e he
        · intro e he _
          obtain rfl : w = e := by simpa using he
          rw [herror]
          exact hretryable
        · rw [List.countP_cons, hcandidate]
          simp only [beq_self_eq_true, if_true]
          omega

/-- A candidate that is called may be called. -/
theorem mayInvoke_of_preflight {preflight' : Preflight}
    (hreference : call.route.candidates[i]? = some reference)
    (havailable : call.gateway.available reference ≠ false)
    (hpreflight : preflight call.gateway call.route call.request reference = .ok preflight') :
    call.MayInvoke i := by
  refine ⟨reference, hreference, by simpa using havailable, fun hoffline => ?_⟩
  obtain ⟨contents, hprepare, -⟩ := Except.bind_eq_ok.mp hpreflight
  unfold prepare at hprepare
  by_contra hexternal
  rw [if_pos ⟨hoffline, by simpa using hexternal⟩] at hprepare
  exact absurd hprepare (by simp)

/-- **The walk over the candidates.** -/
theorem candidates_ends (hwrites : call.Writes) (hbreaker : call.BreakerRaises)
    (rest : List ModelReference) (i attempt : ℕ) (error : Option Error) (log : List WalkEntry)
    (hrest : call.route.candidates.drop i = rest) (hopen : Open call log)
    (hbelow : ∀ e ∈ log, e.candidate < i)
    (herror : error = log.head?.bind (·.error)) (hnone : log = [] → attempt = 0) :
    ∃ result log', (call.candidates rest i attempt error).exec log = (result, log') ∧
      WalkEnds call result log' := by
  induction rest generalizing i attempt error log with
  | nil =>
      refine ⟨_, log, rfl, ?_⟩
      cases log with
      | nil =>
          obtain rfl := hnone rfl
          obtain rfl := herror
          exact .unrouted
      | cons w log =>
          obtain ⟨failure, hfailed, -⟩ := hopen.failed w List.mem_cons_self
          obtain rfl := herror
          simp only [List.head?_cons, Option.bind_some, hfailed.error]
          exact .exhausted hopen.tail hopen.toWalked hfailed
  | cons reference rest ih =>
      have hreference : call.route.candidates[i]? = some reference := by
        rw [← List.head?_drop, hrest, List.head?_cons]
      have hrest' : call.route.candidates.drop (i + 1) = rest := by
        rw [← List.tail_drop, hrest, List.tail_cons]
      have hle : ∀ e ∈ log, e.candidate ≤ i := fun e he => (hbelow e he).le
      have hretry : ∀ e ∈ log.head?, e.candidate = i → e.error.any RetryPolicy.retryable := by
        intro e he heq
        exact absurd heq (hbelow e (List.mem_of_mem_head? he)).ne
      have hcount : log.countP (·.candidate == i) = 0 := by
        rw [List.countP_eq_zero]
        intro e he
        simpa using (hbelow e he).ne
      unfold candidates
      split
      · -- no runtime
        rw [Program.exec_bind]
        simp only [Walk.push, Program.exec_update]
        refine ih (i + 1) attempt _ _ hrest' (hopen.cons ?_ ⟨rfl, .inl ⟨?_, rfl⟩⟩ rfl)
          ?_ rfl (by simp)
        · exact hopen.push hle hretry (hcount.le.trans (Nat.zero_le _)) (by simp)
        · simp [Reported]
        · intro e he
          rcases List.mem_cons.mp he with rfl | he
          · exact Nat.lt_succ_self i
          · exact (hbelow e he).trans (Nat.lt_succ_self i)
      · rename_i havailable
        split
        · -- refused by policy or pricing
          rename_i refusal _
          rw [(hwrites.attempts _).startFailedCall, (hwrites.attempts _).finishFailedCall]
          refine ⟨_, _, rfl, .exhausted hopen ?_ ⟨rfl, .inl ⟨?_, rfl⟩⟩⟩
          · exact hopen.push hle hretry (hcount.le.trans (Nat.zero_le _)) (by simp)
          · simp [Reported]
        · rename_i hpreflight
          obtain ⟨result, w, log', hexec, hends, hcandidate⟩ :=
            attempts_ends hwrites hbreaker hreference
              (mayInvoke_of_preflight hreference havailable hpreflight) call.gateway.maxRetries
              attempt log hopen hle hretry (by omega)
          rw [Program.exec_bind, hexec]
          cases hends with
          | returned hopen' hwalked hreference' hresponse herror' hreported =>
              exact ⟨_, _, rfl, .returned hopen' hwalked hreference' hresponse herror' hreported⟩
          | escaped hopen' hwalked herror' hne hreported =>
              exact ⟨_, _, rfl, .escaped hopen' hwalked herror' hne hreported⟩
          | @exhausted _ _ failure attempt hopen' hwalked hfailed =>
              cases hstops : stopsFallback failure with
              | true =>
                  simp only [Option.any_some, hstops, if_true]
                  exact ⟨_, _, rfl, .exhausted hopen' hwalked hfailed⟩
              | false =>
                  simp only [Option.any_some, hstops, Bool.false_eq_true, if_false]
                  refine ih (i + 1) attempt _ _ hrest' (hopen'.cons hwalked hfailed hstops) ?_
                    hfailed.error.symm (by simp)
                  intro e he
                  have hordered := List.pairwise_cons.mp hwalked.ordered
                  rcases List.mem_cons.mp he with rfl | he
                  · omega
                  · have hbefore := hordered.1 e he
                    omega

/-! ### Whole calls -/

/-- What `generate` makes of the end of the walk. -/
def resultOf : Except Error Ending → Except Error LLMResponse
  | .ok (.returned response) => .ok response
  | .ok (.exhausted error attempt) =>
      .error (error.getD (.llmError .provider "All registered providers failed" (max 1 attempt)))
  | .error raised => .error raised

theorem outcome_ends (hwrites : call.Writes) (hbreaker : call.BreakerRaises) :
    ∃ ending log, WalkEnds call ending log ∧ call.outcome = (resultOf ending, log.reverse) := by
  obtain ⟨ending, log, hexec, hends⟩ :=
    candidates_ends hwrites hbreaker call.route.candidates 0 0 none [] rfl .nil (by simp) rfl
      fun _ => rfl
  refine ⟨ending, log, hends, ?_⟩
  unfold outcome generate
  rw [Program.exec_bind, hexec]
  rcases ending with raised | ⟨response | ⟨error, attempt⟩⟩
  · rfl
  · rfl
  · simp only [Program.exec_bind, hwrites.fail, Program.exec_raising_none, Program.exec_throw,
      resultOf]

/-- The stop conditions, of a result and a log with the oldest entry first. -/
structure StopsProperly (call : GovernedCall) (result : Except Error LLMResponse)
    (log : List WalkEntry) : Prop where
  /-- No candidate is called more often than the retry policy allows. -/
  bounded : ∀ i, (log.countP fun w => w.candidate == i && w.invoked) ≤
    call.gateway.maxRetries + 1
  /-- The candidates are called in the order of the route, and only those that may be. -/
  ordered : log.Pairwise fun earlier later => earlier.candidate ≤ later.candidate
  allowed : ∀ w ∈ log, w.invoked = true → call.MayInvoke w.candidate
  /-- An error that is followed by another attempt on the candidate may be retried. -/
  retried : log.IsChain fun earlier later =>
    earlier.candidate = later.candidate → earlier.error.any RetryPolicy.retryable
  /-- Nothing follows a failure that rules out a fallback. -/
  stopped : ∀ k w, log[k]? = some w → w.error.any stopsFallback → k + 1 = log.length
  /-- Nothing follows a response, and it is returned. -/
  answered : ∀ k w response, log[k]? = some w → w.response = some response →
    k + 1 = log.length ∧ ∃ reference, call.route.candidates[w.candidate]? = some reference ∧
      result = .ok (govern reference w.attempt response)
  /-- What is returned is the response of the last attempt. -/
  returned : ∀ response, result = .ok response →
    ∃ w, log.getLast? = some w ∧ w.response.isSome
  /-- What is raised is the last error. -/
  raised : ∀ error, result = .error error → error = (log.getLast?.bind (·.error)).getD
    (.llmError .provider "All registered providers failed" 1)

/-- An entry of the log is the last one or an earlier one. -/
theorem getElem?_reverse_cons {prev : List WalkEntry} {k : ℕ} {e : WalkEntry}
    (h : (w :: prev).reverse[k]? = some e) :
    k + 1 = (w :: prev).reverse.length ∧ e = w ∨ e ∈ prev := by
  rw [List.reverse_cons] at h
  rcases Nat.lt_or_ge k prev.reverse.length with hlt | hge
  · rw [List.getElem?_append_left hlt] at h
    exact .inr (List.mem_reverse.mp (List.mem_of_getElem? h))
  · rw [List.getElem?_append_right hge] at h
    obtain ⟨hk, rfl⟩ := List.getElem?_eq_some_iff.mp h
    left
    simp only [List.length_reverse, List.length_singleton] at hge hk
    refine ⟨by simp; omega, ?_⟩
    simp

/-- What the conditions have in common however the walk ended. -/
theorem Walked.stopsProperly {prev : List WalkEntry} {result : Except Error LLMResponse}
    (hwalked : Walked call (w :: prev)) (hopen : Open call prev)
    (hreported : ∀ e ∈ prev, call.Reported e)
    (hlast : ∀ response, w.response = some response →
      ∃ reference, call.route.candidates[w.candidate]? = some reference ∧
        result = .ok (govern reference w.attempt response))
    (hreturned : ∀ response, result = .ok response → w.response.isSome)
    (hraised : ∀ error, result = .error error → w.error = some error) :
    StopsProperly call result (w :: prev).reverse where
  bounded i := by
    rw [List.countP_reverse]
    refine (List.countP_mono_left fun e _ he => ?_).trans (hwalked.bounded i)
    exact (Bool.and_eq_true _ _ ▸ he).1
  ordered := List.pairwise_reverse.mpr hwalked.ordered
  allowed e he := hwalked.allowed e (List.mem_reverse.mp he)
  retried := by
    rw [List.isChain_reverse]
    exact hwalked.retried.imp fun later earlier h heq => h heq.symm
  stopped k e he hstops := by
    rcases getElem?_reverse_cons he with ⟨hk, -⟩ | hmem
    · exact hk
    · obtain ⟨error, hfailed, hgoes⟩ := hopen.failed e hmem
      rw [hfailed.error, Option.any_some, hgoes] at hstops
      exact absurd hstops (by simp)
  answered k e response he hresponse := by
    rcases getElem?_reverse_cons he with ⟨hk, rfl⟩ | hmem
    · exact ⟨hk, hlast response hresponse⟩
    · obtain ⟨error, hfailed, -⟩ := hopen.failed e hmem
      rcases hfailed.response with ⟨-, hnone⟩ | ⟨hnot, -⟩
      · exact absurd (hnone.symm.trans hresponse) (by simp)
      · exact absurd (hreported e hmem) hnot
  returned response hresult := ⟨w, by simp, hreturned response hresult⟩
  raised error hresult := by simp [hraised error hresult]

/-- An unreported entry breaks the conditions unless the walk ends with it. -/
theorem reported_of_stopsProperly {prev : List WalkEntry} {result : Except Error LLMResponse}
    (h : StopsProperly call result (w :: prev).reverse) (hopen : Open call prev)
    {e : WalkEntry} (he : e ∈ prev) : call.Reported e := by
  by_contra hnot
  obtain ⟨error, hfailed, -⟩ := hopen.failed e he
  obtain ⟨response, hresponse⟩ := Option.isSome_iff_exists.mp
    (hfailed.response.resolve_left fun hgood => hnot hgood.1).2
  obtain ⟨k, hk⟩ := List.mem_iff_getElem?.mp (List.mem_reverse.mpr he)
  have hlt := (List.getElem?_eq_some_iff.mp hk).1
  have hget : (w :: prev).reverse[k]? = some e := by
    rw [List.reverse_cons, List.getElem?_append_left hlt, hk]
  have hlength := (h.answered k e response hget hresponse).1
  simp only [List.length_reverse, List.length_cons] at hlength hlt
  omega

/-- **Stop conditions.** A call keeps them exactly when the breaker takes the reports of all
of its attempts. -/
theorem stopsProperly_iff (hwrites : call.Writes) (hbreaker : call.BreakerRaises) :
    StopsProperly call call.outcome.1 call.outcome.2 ↔
      ∀ w ∈ call.outcome.2, call.Reported w := by
  obtain ⟨ending, log, hends, houtcome⟩ := outcome_ends hwrites hbreaker
  rw [houtcome]
  cases hends with
  | unrouted =>
      refine ⟨fun _ w hw => absurd hw (by simp), fun _ => ?_⟩
      refine ⟨by simp, .nil, by simp, .nil, by simp, by simp, by simp [resultOf], ?_⟩
      intro error herror
      exact (Except.error.inj herror).symm
  | returned hopen hwalked hreference hresponse herror hreported =>
      constructor
      · intro h e he
        rcases List.mem_cons.mp (List.mem_reverse.mp he) with rfl | he
        · exact hreported
        · exact reported_of_stopsProperly h hopen he
      · intro h
        refine hwalked.stopsProperly hopen (fun e he => h e (by simp [he])) ?_ ?_ ?_
        · intro response' hresponse'
          obtain rfl := Option.some.inj (hresponse.symm.trans hresponse')
          exact ⟨_, hreference, rfl⟩
        · intro _ _
          rw [hresponse]
          rfl
        · intro error hresult
          exact absurd hresult (by simp [resultOf])
  | @exhausted w prev error attempt hopen hwalked hfailed =>
      constructor
      · intro h e he
        rcases List.mem_cons.mp (List.mem_reverse.mp he) with rfl | he
        · by_contra hnot
          obtain ⟨response, hresponse⟩ := Option.isSome_iff_exists.mp
            (hfailed.response.resolve_left fun hgood => hnot hgood.1).2
          obtain ⟨k, hk⟩ := List.mem_iff_getElem?.mp he
          obtain ⟨_, _, _, hresult⟩ := h.answered k _ response hk hresponse
          exact absurd hresult (by simp [resultOf])
        · exact reported_of_stopsProperly h hopen he
      · intro h
        refine hwalked.stopsProperly hopen (fun e he => h e (by simp [he])) ?_ ?_ ?_
        · intro response hresponse
          rcases hfailed.response with ⟨-, hnone⟩ | ⟨hnot, -⟩
          · exact absurd (hnone.symm.trans hresponse) (by simp)
          · exact absurd (h w (by simp)) hnot
        · intro response hresult
          exact absurd hresult (by simp [resultOf])
        · intro raised hresult
          rw [hfailed.error]
          exact congrArg some (Except.error.inj hresult)
  | @escaped w prev error raised hopen hwalked herror hne hreported =>
      constructor
      · intro h
        have hlast := h.raised raised rfl
        simp only [List.getLast?_reverse, List.head?_cons, Option.bind_some, herror,
          Option.getD_some] at hlast
        exact absurd hlast hne
      · intro h
        exact absurd (h w (by simp)) hreported

/-! ### A response that is not returned -/

/-- A call for a model and a fallback, each tried once. -/
def sample (env : Environment) : GovernedCall where
  gateway := Gateway.sample
  route := ⟨"draft", [⟨"local", "model"⟩, ⟨"local", "fallback"⟩], 100⟩
  request := PromptRequest.sample
  env := env

/-- Both models answer, but the breaker does not take the success of the first. -/
def unreportedSuccess : Environment where
  attempt n :=
    if n = 1 then
      { AttemptEnv.answering with
        recordSuccess := some (.circuitOpenError "Distributed circuit state is unavailable") }
    else .answering

/-- The first model times out, and the fallback answers. -/
def fallenBack : Environment where
  attempt n :=
    if n = 1 then { provider := .error (.llmError .timeout "Provider timed out" 1) }
    else .answering

/-- The fallback is called after the response of the first model. -/
theorem stopsProperly_fails :
    ¬ ∀ call : GovernedCall, call.Writes → call.BreakerRaises →
      StopsProperly call call.outcome.1 call.outcome.2 := by
  intro h
  have hwrites : (sample unreportedSuccess).Writes := by
    refine ⟨fun n => ?_, rfl⟩
    by_cases hn : n = 1 <;> simp only [sample, unreportedSuccess, hn, if_true, if_false] <;>
      constructor <;> rfl
  have hbreaker : (sample unreportedSuccess).BreakerRaises := by
    intro n raised hraised
    by_cases hn : n = 1
    · simp only [sample, unreportedSuccess, hn, if_true, AttemptEnv.answering] at hraised
      rcases hraised with hraised | hraised
      · exact ⟨_, (Option.some.inj hraised).symm⟩
      · exact absurd hraised (by simp)
    · simp [sample, unreportedSuccess, hn, AttemptEnv.answering] at hraised
  have hlog : (sample unreportedSuccess).outcome.2.length = 2 ∧
      (sample unreportedSuccess).outcome.2[0]?.bind (·.response) = some .sample := by
    decide +kernel
  obtain ⟨w, hw, hresponse⟩ := Option.bind_eq_some_iff.mp hlog.2
  have hlast := ((h _ hwrites hbreaker).answered 0 w _ hw hresponse).1
  rw [hlog.1] at hlast
  omega

/-- A call that falls back after a timeout. -/
theorem stopsProperly_iff_fallenBack :
    (sample fallenBack).outcome.2.map (fun w => (w.candidate, w.invoked, w.response.isSome)) =
        [(0, true, false), (1, true, true)] ∧
      StopsProperly (sample fallenBack) (sample fallenBack).outcome.1
        (sample fallenBack).outcome.2 := by
  have hwrites : (sample fallenBack).Writes := by
    refine ⟨fun n => ?_, rfl⟩
    by_cases hn : n = 1 <;> simp only [sample, fallenBack, hn, if_true, if_false] <;>
      constructor <;> rfl
  have hbreaker : (sample fallenBack).BreakerRaises := by
    intro n raised hraised
    by_cases hn : n = 1 <;>
      simp [sample, fallenBack, hn, AttemptEnv.answering] at hraised
  refine ⟨by decide +kernel, (stopsProperly_iff hwrites hbreaker).mpr ?_⟩
  intro w _ _
  by_cases hn : w.attempt = 1 <;>
    simp [sample, fallenBack, hn, AttemptEnv.Reports, AttemptEnv.fault, AttemptEnv.answering]

end GovernedCall

end StoryForge
