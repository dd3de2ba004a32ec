import StoryForge.Library.Machine
import StoryForge.Providers.Effects

/-!
# The life of an idempotency record

A call opens the record of its request before its attempts and closes it behind them: as
succeeded with the response, as failed when the candidates are exhausted. In between, the
record stays active if an exception escapes the loop. Two things let one escape: a step of
the handler itself that raises, and an audit row that the table refuses. Rows are unique
per request, attempt number and fallback index, and every call counts its attempts from
one, so a repeated call meets the rows of the call that failed.

## Main results

* `Attempt.triple_run` — an attempt keeps the request in progress, answers it, or collides
  with a row of an earlier call;
* `CallSite.triple_candidates` — so do the loops;
* `ProviderRuns.record_lifecycle` — without collisions and with handlers that do not raise,
  no record is left active, and a failed request is served again;
* `ProviderRuns.record_lifecycle_fails` — a repeated call collides and leaves the record
  active.
-/

namespace StoryForge

open Program

/-- The steps that deal with an error do not raise. -/
structure Environment.HandlersReliable (env : Environment) : Prop where
  release : ∀ n, (env.attempt n).release = none
  startFailedCall : ∀ n, (env.attempt n).startFailedCall = none
  finishFailedCall : ∀ n, (env.attempt n).finishFailedCall = none
  recordFailure : ∀ n, (env.attempt n).recordFailure = none
  sleep : ∀ n, (env.attempt n).sleep = none
  fail : env.fail = none

/-- The steps after an answer go through. -/
def AttemptEnv.Bookkept (env : AttemptEnv) : Prop :=
  env.finishCall = none ∧ env.settle = none ∧ env.recordSuccess = none ∧ env.succeed = none

/-- A row of the request has the attempt number and fallback index of an attempt. -/
def UsageDatabase.Used (db : UsageDatabase) (key : String) (t : AttemptTrace) : Prop :=
  ∃ row ∈ db.providerCalls, row.idempotencyKey = key ∧ row.attempt = t.attempt ∧
    row.fallbackIndex = t.fallbackIndex

/-- A response is an answer of a provider, under the model that gave it. -/
def LLMResponse.SameAnswer (response answer : LLMResponse) : Prop :=
  ∃ provider model attempts, response = { answer with provider, model, attempts }

theorem ProviderCall.sameIdentity_iff {row other : ProviderCall} :
    row.sameIdentity other = true ↔ row.idempotencyKey = other.idempotencyKey ∧
      row.attempt = other.attempt ∧ row.fallbackIndex = other.fallbackIndex := by
  simp [sameIdentity, and_assoc]

/-- Closing a row keeps its identity. -/
theorem ProviderCall.sameIdentity_close {row other : ProviderCall} {result : CallEnd} :
    (row.close result).sameIdentity other = row.sameIdentity other := by
  unfold close
  dsimp only
  split <;> rfl

theorem ProviderCall.attempt_close (row : ProviderCall) (result : CallEnd) :
    (row.close result).attempt = row.attempt := by
  unfold close
  dsimp only
  split <;> rfl

namespace CallSite

variable (site : CallSite)

/-- The rows that an audit row refers to exist. -/
def Linked (db : UsageDatabase) : Prop :=
  (∀ p, site.gateway.context.projectId = some p → db.projects[p]?.isSome) ∧
    ∀ w, site.workflowRunId = some w → db.workflowRuns[w]?.isSome

/-- **A request in progress**: its record is active, and besides the rows that were there
when the call began the table holds only rows of attempts below `bound`. -/
structure InProgress (g₀ : CallState) (bound : ℕ) (g : CallState) : Prop where
  active : g.db.recordStatus site.key = some .active
  others : ∀ key, key ≠ site.key → g.db.recordStatus key = g₀.db.recordStatus key
  linked : site.Linked g.db
  calls : ∀ row ∈ g.db.providerCalls,
    row.attempt < bound ∨ ∃ old ∈ g₀.db.providerCalls, row.sameIdentity old = true

/-- No attempt was answered whose bookkeeping went through. -/
def Unanswered (log : List AttemptTrace) : Prop :=
  ∀ t ∈ log, (site.env.attempt t.attempt).Bookkept → t.responded = none

/-- An attempt met a row that was there when the call began. -/
def Collided (g₀ g : CallState) : Prop := ∃ t ∈ g.log, g₀.db.Used site.key t

variable {site} {g₀ g : CallState} {bound : ℕ}

theorem InProgress.mono {bound' : ℕ} (h : site.InProgress g₀ bound g) (hle : bound ≤ bound') :
    site.InProgress g₀ bound' g :=
  { h with calls := fun row hrow => (h.calls row hrow).imp_left fun hlt => hlt.trans_le hle }

/-- The request is in progress whatever is written to budgets and history. -/
theorem InProgress.budgets {db' : UsageDatabase} (h : site.InProgress g₀ bound g)
    (hsame : UsageDatabase.SameButBudgets g.db db') :
    site.InProgress g₀ bound { g with db := db' } := by
  obtain ⟨budgets, rfl⟩ := hsame
  exact { h with }

/-- Closing an existing row succeeds and keeps the request in progress. -/
theorem InProgress.close {callId : ℕ} (h : site.InProgress g₀ bound g)
    (hid : callId < g.db.providerCalls.length) (result : CallEnd) :
    ∃ db', closeCall callId result g.db = .ok ((), db') ∧
      db'.providerCalls.length = g.db.providerCalls.length ∧
      site.InProgress g₀ bound { g with db := db' } := by
  have hrow : g.db.providerCalls[callId]? = some g.db.providerCalls[callId] := by simp [hid]
  unfold closeCall
  rw [hrow]
  refine ⟨_, rfl, by simp, ?_⟩
  refine { h with linked := ⟨h.linked.1, fun w hw => ?_⟩, calls := fun row hmem => ?_ }
  · have hrun := h.linked.2 w hw
    dsimp only
    split
    · exact hrun
    · rw [List.getElem?_modify]
      simpa using hrun
  · rcases List.mem_or_eq_of_mem_set hmem with hmem | rfl
    · exact h.calls row hmem
    · simp only [ProviderCall.attempt_close, ProviderCall.sameIdentity_close]
      exact h.calls _ (List.getElem_mem hid)

/-- A request in progress none of whose attempts was answered. -/
def Serving (site : CallSite) (g₀ : CallState) (bound : ℕ) (g : CallState) : Prop :=
  site.InProgress g₀ bound g ∧ site.Unanswered g.log

/-- **A request that was answered**: its record is closed, and the response is the answer of
the last attempt. -/
structure Answered (site : CallSite) (g₀ : CallState) (response : LLMResponse) (g : CallState) :
    Prop where
  succeeded : g.db.recordStatus site.key = some .succeeded
  others : ∀ key, key ≠ site.key → g.db.recordStatus key = g₀.db.recordStatus key
  answer : ∃ t log r, g.log = t :: log ∧ t.responded = some r ∧ response.SameAnswer r ∧
    site.Unanswered log

end CallSite

/-! ### One attempt -/

namespace Attempt

variable (a : Attempt)

/-- The attempt is the last one of the history; `responded` is what its provider answered. -/
def Head (responded : Option LLMResponse) (g : CallState) : Prop :=
  ∃ t log, g.log = t :: log ∧ t.attempt = a.number ∧ t.fallbackIndex = a.fallbackIndex ∧
    t.responded = responded ∧ a.site.Unanswered log

/-- An attempt without an audit row. -/
def Rowless (g₀ g : CallState) : Prop :=
  a.site.InProgress g₀ a.number g ∧ a.Head none g

/-- An attempt with an audit row. -/
def Recorded (g₀ : CallState) (callId : ℕ) (responded : Option LLMResponse) (g : CallState) :
    Prop :=
  a.site.InProgress g₀ (a.number + 1) g ∧ callId < g.db.providerCalls.length ∧
    a.Head responded g

/-- What the handler finds: an attempt with or without its row, which was not answered or
whose bookkeeping raised. -/
def Raised (g₀ : CallState) (callId : Option ℕ) (g : CallState) : Prop :=
  (∃ responded, a.Head responded g ∧ (a.env.Bookkept → responded = none)) ∧
    match callId with
    | none => a.site.InProgress g₀ a.number g
    | some callId =>
        a.site.InProgress g₀ (a.number + 1) g ∧ callId < g.db.providerCalls.length

variable {a} {g₀ g : CallState} {callId : ℕ} {responded : Option LLMResponse}

theorem Rowless.raised (h : a.Rowless g₀ g) : a.Raised g₀ none g :=
  ⟨⟨none, h.2, fun _ => rfl⟩, h.1⟩

theorem Recorded.raised (h : a.Recorded g₀ callId responded g)
    (hunanswered : a.env.Bookkept → responded = none) : a.Raised g₀ (some callId) g :=
  ⟨⟨responded, h.2.2, hunanswered⟩, h.1, h.2.1⟩

/-- History of the attempt in progress. -/
theorem Head.note {responded' : Option LLMResponse} {f : AttemptTrace → AttemptTrace}
    (h : a.Head responded g) (hattempt : ∀ t, (f t).attempt = t.attempt)
    (hfallback : ∀ t, (f t).fallbackIndex = t.fallbackIndex)
    (hresponded : ∀ t, t.responded = responded → (f t).responded = responded') :
    a.Head responded' { g with log := g.log.modifyHead f } := by
  obtain ⟨t, log, hlog, hnumber, hindex, hr, hlogged⟩ := h
  refine ⟨f t, log, by simp [hlog], ?_, ?_, hresponded t hr, hlogged⟩
  · rw [hattempt, hnumber]
  · rw [hfallback, hindex]

/-- The attempt of the history is not answered. -/
theorem Head.unanswered (h : a.Head responded g)
    (hunanswered : a.env.Bookkept → responded = none) : a.site.Unanswered g.log := by
  obtain ⟨t, log, hlog, hnumber, -, hr, hlogged⟩ := h
  rw [hlog]
  intro t' ht'
  rcases List.mem_cons.mp ht' with rfl | ht'
  · rw [hnumber, hr]
    exact hunanswered
  · exact hlogged t' ht'

/-- **The row of an attempt** is inserted, unless an earlier call left a row in its place. -/
theorem insert_or_collided (h : a.Raised g₀ none g) :
    (∃ db', insertCall a.row g.db = .ok (g.db.providerCalls.length, db') ∧
      db'.providerCalls.length = g.db.providerCalls.length + 1 ∧
      a.site.InProgress g₀ (a.number + 1) { g with db := db' }) ∨
    (∃ e, insertCall a.row g.db = .error e) ∧ a.site.Collided g₀ g := by
  obtain ⟨⟨responded, hhead, -⟩, hprogress⟩ := h
  obtain ⟨hproject, hrun⟩ := hprogress.linked
  have hproject : ¬ (a.row.projectId.any fun id => g.db.projects[id]?.isNone) = true := by
    simpa [row, newProviderCall, Option.any_eq_true, ← Option.isSome_iff_ne_none] using hproject
  have hrun : ¬ (a.row.workflowRunId.any fun id => g.db.workflowRuns[id]?.isNone) = true := by
    simpa [row, newProviderCall, Option.any_eq_true, ← Option.isSome_iff_ne_none] using hrun
  unfold insertCall
  rw [if_neg hproject, if_neg hrun]
  by_cases hany : g.db.providerCalls.any a.row.sameIdentity = true
  · right
    refine ⟨⟨_, if_pos hany⟩, ?_⟩
    obtain ⟨row, hrow, hsame⟩ := List.any_eq_true.mp hany
    obtain ⟨hkey, hattempt, hindex⟩ := ProviderCall.sameIdentity_iff.mp hsame
    obtain ⟨t, log, hlog, hnumber, hfallback, -⟩ := hhead
    refine ⟨t, by simp [hlog], ?_⟩
    rcases hprogress.calls row hrow with hlt | ⟨old, hold, hsame'⟩
    · exact absurd hattempt.symm hlt.ne
    · obtain ⟨hkey', hattempt', hindex'⟩ := ProviderCall.sameIdentity_iff.mp hsame'
      refine ⟨old, hold, ?_, ?_, ?_⟩
      · rw [← hkey', ← hkey]
        rfl
      · rw [← hattempt', ← hattempt, hnumber]
        rfl
      · rw [← hindex', ← hindex, hfallback]
        rfl
  · left
    refine ⟨{ g.db with providerCalls := g.db.providerCalls ++ [a.row] }, if_neg hany, by simp,
      { hprogress.mono (Nat.le_succ _) with calls := fun row hrow => ?_ }⟩
    rcases List.mem_append.mp hrow with hrow | hrow
    · exact (hprogress.mono (Nat.le_succ _)).calls row hrow
    · obtain rfl := List.mem_singleton.mp hrow
      exact .inl (Nat.lt_succ_self a.number)

/-! ### The handler -/

theorem Raised.budgets {callId : Option ℕ} {db' : UsageDatabase} (h : a.Raised g₀ callId g)
    (hsame : UsageDatabase.SameButBudgets g.db db') :
    a.Raised g₀ callId { g with db := db' } := by
  obtain ⟨hhead, hrow⟩ := h
  refine ⟨hhead, ?_⟩
  cases callId with
  | none => exact CallSite.InProgress.budgets hrow hsame
  | some callId =>
      refine ⟨hrow.1.budgets hsame, ?_⟩
      obtain ⟨budgets, rfl⟩ := hsame
      exact hrow.2

theorem Raised.note {callId : Option ℕ} {f : AttemptTrace → AttemptTrace}
    (h : a.Raised g₀ callId g) (hattempt : ∀ t, (f t).attempt = t.attempt)
    (hfallback : ∀ t, (f t).fallbackIndex = t.fallbackIndex)
    (hresponded : ∀ t, (f t).responded = t.responded) :
    a.Raised g₀ callId { g with log := g.log.modifyHead f } := by
  obtain ⟨⟨responded, hhead, hunanswered⟩, hrow⟩ := h
  refine ⟨⟨responded, hhead.note hattempt hfallback fun t ht => (hresponded t).trans ht,
    hunanswered⟩, ?_⟩
  cases callId with
  | none => exact { (hrow : a.site.InProgress g₀ a.number g) with }
  | some callId => exact ⟨{ hrow.1 with }, hrow.2⟩

theorem triple_release_raised (hreliable : a.site.env.HandlersReliable) (callId : Option ℕ)
    (reserved : Amount) {E : Error → CallState → Prop} :
    Triple (a.Raised g₀ callId) (a.release reserved) (fun _ g => a.Raised g₀ callId g) E := by
  unfold release
  cases a.site.gateway.context.projectId with
  | none => exact Triple.pure fun _ h => h
  | some p =>
      refine Triple.ite (fun _ => Triple.pure fun _ h => h) fun _ => ?_
      refine Triple.bind (R := fun _ g => a.Raised g₀ callId g) ?_ fun _ => ?_
      · refine Call.triple_commit (hreliable.release a.number) fun g h => ?_
        exact ⟨(), _, rfl, h.budgets (UsageDatabase.sameButBudgets_settle _ _)⟩
      · exact Call.triple_note fun g h => h.note (fun _ => rfl) (fun _ => rfl) fun _ => rfl

theorem triple_failedCallId_raised (hreliable : a.site.env.HandlersReliable) (callId : Option ℕ) :
    Triple (a.Raised g₀ callId) (a.failedCallId callId)
      (fun callId g => a.Raised g₀ (some callId) g) (fun _ g => a.site.Collided g₀ g) := by
  cases callId with
  | some callId => exact Triple.pure fun _ h => h
  | none =>
      refine Call.triple_transaction (fun g h _ callId db hrun => ?_) fun g h e he => ?_
      all_goals rcases insert_or_collided h with
        ⟨db', hinsert, hlength, hprogress⟩ | ⟨⟨refusal, hrefused⟩, hcollided⟩
      · obtain ⟨rfl, rfl⟩ := Prod.mk.inj (Except.ok.inj (hrun.symm.trans hinsert))
        exact ⟨h.1, hprogress, by simp [hlength]⟩
      · exact absurd (hrun.symm.trans hrefused) (by simp)
      · rcases he with he | he
        · exact absurd ((hreliable.startFailedCall a.number).symm.trans he) (by simp)
        · exact absurd (he.symm.trans hinsert) (by simp)
      · exact hcollided

/-- Closing the row of a failure. -/
theorem triple_closeFailed_raised (hreliable : a.site.env.HandlersReliable) (callId : ℕ)
    (e : Error) {E : Error → CallState → Prop} :
    Triple (a.Raised g₀ (some callId))
      (Call.transaction a.env.finishFailedCall (closeCall callId (.failure e)))
      (fun _ g => a.site.Serving g₀ (a.number + 1) g) E := by
  refine Call.triple_commit (hreliable.finishFailedCall a.number) ?_
  rintro g ⟨⟨responded, hhead, hunanswered⟩, hprogress, hid⟩
  obtain ⟨db', hclose, -, hprogress'⟩ := hprogress.close hid (.failure e)
  exact ⟨(), db', hclose, hprogress', hhead.unanswered hunanswered⟩

/-- The handler of an attempt keeps the request in progress, or collides. -/
theorem triple_handle_raised (hreliable : a.site.env.HandlersReliable) (failure : Failure) :
    Triple (a.Raised g₀ failure.callId) (a.handle failure)
      (fun _ g => a.site.Serving g₀ (a.number + 1) g) (fun _ g => a.site.Collided g₀ g) := by
  unfold handle
  refine (triple_release_raised hreliable failure.callId failure.reserved).bind fun _ => ?_
  refine (triple_failedCallId_raised hreliable failure.callId).bind fun callId => ?_
  refine (triple_closeFailed_raised hreliable callId failure.error).bind fun _ => ?_
  refine Triple.raising (fun _ _ h => h) fun e he => ?_
  split at he
  · exact absurd ((hreliable.recordFailure a.number).symm.trans he) (by simp)
  · exact absurd he (by simp)

/-! ### The `try` body -/

/-- The steps before the audit row leave an attempt without one. -/
theorem triple_reserve_rowless :
    Triple (a.Rowless g₀) a.reserve (fun _ g => a.Rowless g₀ g) (fun _ g => a.Rowless g₀ g) := by
  unfold reserve
  cases a.site.gateway.context.projectId with
  | none => exact Triple.pure fun _ h => h
  | some p =>
      refine Triple.bind (R := fun _ g => a.Rowless g₀ g) (Triple.act fun g h => ?_) fun cost => ?_
      · cases BudgetService.knownCost a.site.gateway.settings a.preflight.price.amount <;> exact h
      refine Triple.bind (R := fun _ g => a.Rowless g₀ g) ?_ fun _ => ?_
      · refine Call.triple_transaction (fun g h _ budget db hrun => ?_) fun g h e _ => h
        exact ⟨h.1.budgets (UsageDatabase.spent_getOrCreate hrun).1, h.2⟩
      refine Triple.bind (R := fun _ g => a.Rowless g₀ g) ?_ fun decision => ?_
      · refine Call.triple_transaction (fun g h _ decision db hrun => ?_) fun g h e _ => h
        exact ⟨h.1.budgets (UsageDatabase.spent_reserveLocked hrun).1, h.2⟩
      · refine Triple.bind (R := fun _ g => a.Rowless g₀ g) (Call.triple_note ?_) fun _ =>
          Triple.pure fun _ h => h
        exact fun g h => ⟨{ h.1 with }, h.2.note (fun _ => rfl) (fun _ => rfl) fun _ ht => ht⟩

/-- The provider answers, or the attempt stays unanswered. -/
theorem triple_callProvider_recorded (callId : ℕ) :
    Triple (a.Recorded g₀ callId none) a.callProvider
      (fun response g => a.Recorded g₀ callId (some response) g)
      (fun _ g => a.Raised g₀ (some callId) g) := by
  unfold callProvider
  refine Triple.bind (R := fun _ g => a.Recorded g₀ callId none g) (Triple.raising
    (fun _ _ h => h) fun _ _ _ h => h.raised fun _ => rfl) fun _ => ?_
  refine Triple.bind (R := fun _ g => a.Recorded g₀ callId none g)
    (Triple.act fun g h => ?_) fun response => ?_
  · cases a.env.provider with
    | ok response => exact h
    | error e => exact h.raised fun _ => rfl
  · refine Triple.bind (R := fun _ g => a.Recorded g₀ callId (some response) g)
      (Call.triple_note ?_) fun _ => Triple.pure fun _ h => h
    rintro g ⟨hprogress, hid, hhead⟩
    exact ⟨{ hprogress with }, hid, hhead.note (fun _ => rfl) (fun _ => rfl) fun _ _ => rfl⟩

theorem triple_closeSucceeded_recorded (callId : ℕ) (response : LLMResponse) :
    Triple (a.Recorded g₀ callId (some response)) (a.closeSucceeded callId response)
      (fun _ g => a.Recorded g₀ callId (some response) g)
      (fun _ g => a.Raised g₀ (some callId) g) := by
  unfold closeSucceeded
  dsimp only
  refine Triple.bind (R := fun _ g => a.Recorded g₀ callId (some response) g) ?_ fun _ => ?_
  · refine Call.triple_transaction (fun g h _ _ db hclose => ?_) fun g h e he => ?_
    · obtain ⟨db', hclose', hlength, hprogress⟩ := h.1.close h.2.1 _
      obtain ⟨-, rfl⟩ := Prod.mk.inj (Except.ok.inj (hclose.symm.trans hclose'))
      exact ⟨hprogress, hlength ▸ h.2.1, h.2.2⟩
    · rcases he with he | he
      · exact h.raised fun hkept => absurd (hkept.1.symm.trans he) (by simp)
      · obtain ⟨db', hclose', -⟩ := h.1.close h.2.1 _
        exact absurd (he.symm.trans hclose') (by simp)
  · refine Triple.bind (R := fun _ g => a.Recorded g₀ callId (some response) g)
      (Call.triple_note ?_) fun _ => Triple.pure fun _ h => h
    rintro g ⟨hprogress, hid, hhead⟩
    exact ⟨{ hprogress with }, hid, hhead.note (fun _ => rfl) (fun _ => rfl) fun _ ht => ht⟩

theorem triple_settle_recorded (callId : ℕ) (response : LLMResponse) (reserved : Amount)
    (cost : Option Amount) :
    Triple (a.Recorded g₀ callId (some response)) (a.settle reserved cost)
      (fun _ g => a.Recorded g₀ callId (some response) g)
      (fun _ g => a.Raised g₀ (some callId) g) := by
  unfold settle
  cases a.site.gateway.context.projectId with
  | none => exact Triple.pure fun _ h => h
  | some p =>
      refine Triple.bind (R := fun _ g => a.Recorded g₀ callId (some response) g) ?_ fun _ => ?_
      · refine Call.triple_transaction (fun g h _ _ db hrun => ?_) fun g h e he => ?_
        · obtain ⟨-, rfl⟩ := Prod.mk.inj (Except.ok.inj hrun)
          have hsame : UsageDatabase.SameButBudgets g.db
              (BudgetService.settle p reserved cost none g.db) :=
            UsageDatabase.sameButBudgets_settle reserved cost
          refine ⟨h.1.budgets hsame, ?_, h.2.2⟩
          obtain ⟨budgets, hbudgets⟩ := hsame
          rw [hbudgets]
          exact h.2.1
        · rcases he with he | he
          · exact h.raised fun hkept => absurd (hkept.2.1.symm.trans he) (by simp)
          · exact absurd he (by simp)
      · refine Call.triple_note ?_
        rintro g ⟨hprogress, hid, hhead⟩
        exact ⟨{ hprogress with }, hid, hhead.note (fun _ => rfl) (fun _ => rfl) fun _ ht => ht⟩

/-- From the provider call on an attempt is answered, or raises what the handler can deal
with. -/
theorem triple_complete_recorded (reserved : Amount) (callId : ℕ) :
    Triple (a.Recorded g₀ callId none) (a.complete reserved callId)
      (fun response g => a.site.Answered g₀ response g)
      (fun _ g => a.Raised g₀ (some callId) g) := by
  unfold complete
  refine (triple_callProvider_recorded callId).bind fun response => ?_
  refine (triple_closeSucceeded_recorded callId response).bind fun cost => ?_
  refine (triple_settle_recorded callId response reserved cost).bind fun _ => ?_
  refine Triple.bind (R := fun _ g => a.Recorded g₀ callId (some response) g) (Triple.raising
    (fun _ _ h => h) fun e he g h => h.raised fun hkept => ?_) fun _ => ?_
  · exact absurd (hkept.2.2.1.symm.trans he) (by simp)
  refine Triple.bind (R := fun _ g => a.site.Answered g₀ (a.govern response) g) ?_ fun _ => ?_
  · refine Call.triple_transaction (fun g h _ _ db hrun => ?_) fun g h e he => ?_
    · obtain ⟨hprogress, -, t, log, hlog, -, -, hr, hlogged⟩ := h
      rw [IdempotencyService.succeed, IdempotencyService.finish_of_isSome _
        (by simp [hprogress.active])] at hrun
      obtain ⟨-, rfl⟩ := Prod.mk.inj (Except.ok.inj hrun)
      refine ⟨by simp, fun key hkey => ?_, t, log, response, hlog, hr, ⟨_, _, _, rfl⟩, hlogged⟩
      exact (UsageDatabase.recordStatus_setRecord_of_ne _ _ _ hkey).trans (hprogress.others key hkey)
    · refine h.raised fun hkept => ?_
      rcases he with he | he
      · exact absurd (hkept.2.2.2.symm.trans he) (by simp)
      · rw [IdempotencyService.succeed, IdempotencyService.finish_of_isSome _
          (by simp [h.1.active])] at he
        exact absurd he (by simp)
  · refine Triple.bind (R := fun _ g => a.site.Answered g₀ (a.govern response) g)
      (Triple.update fun g h => ?_) fun _ => Triple.pure fun _ h => h
    exact { h with }

theorem triple_body_rowless :
    Triple (a.Rowless g₀) a.body (fun response g => a.site.Answered g₀ response g)
      (fun failure g => a.Raised g₀ failure.callId g) := by
  unfold body
  refine Triple.bind (R := fun _ g => a.Rowless g₀ g) (Triple.tag (Triple.raising
    (fun _ _ h => h) fun _ _ _ h => h.raised)) fun _ => ?_
  refine Triple.bind (R := fun _ g => a.Rowless g₀ g) (Triple.tag ?_) fun _ => ?_
  · refine Call.triple_transaction (fun g h _ _ db hrun => ?_) fun g h _ _ => h.raised
    obtain ⟨_, -, hrun⟩ := Except.bind_eq_ok.mp hrun
    obtain ⟨-, rfl⟩ := Prod.mk.inj (Except.ok.inj hrun)
    exact h
  refine Triple.bind (Triple.tag (triple_reserve_rowless.conseq (fun _ h => h) (fun _ _ h => h)
    fun _ _ h => h.raised)) fun reserved => ?_
  refine Triple.bind (R := fun callId g => a.Recorded g₀ callId none g) (Triple.tag ?_)
    fun callId => Triple.tag (triple_complete_recorded reserved callId)
  refine Call.triple_transaction (fun g h _ callId db hrun => ?_) fun g h _ _ => h.raised
  rcases insert_or_collided h.raised with ⟨db', hinsert, hlength, hprogress⟩ | ⟨⟨e, hrefused⟩, -⟩
  · obtain ⟨rfl, rfl⟩ := Prod.mk.inj (Except.ok.inj (hrun.symm.trans hinsert))
    exact ⟨hprogress, by simp [hlength], h.2⟩
  · exact absurd (hrun.symm.trans hrefused) (by simp)

/-- The history of a new attempt begins. -/
theorem rowless_of_serving (h : a.site.Serving g₀ a.number g) :
    a.Rowless g₀
      { g with log := { attempt := a.number, fallbackIndex := a.fallbackIndex } :: g.log } :=
  ⟨{ h.1 with }, _, g.log, rfl, rfl, rfl, rfl, h.2⟩

/-- What an attempt leaves: an answered request, or one that goes on with the next number. -/
def Left (a : Attempt) (g₀ : CallState) (result : Except Error LLMResponse) (g : CallState) :
    Prop :=
  match result with
  | .ok response => a.site.Answered g₀ response g
  | .error _ => a.site.Serving g₀ (a.number + 1) g

/-- **One attempt** answers the request, leaves it in progress, or collides. -/
theorem triple_run (hreliable : a.site.env.HandlersReliable) :
    Triple (a.site.Serving g₀ a.number) a.run (fun result g => a.Left g₀ result g)
      (fun _ g => a.site.Collided g₀ g) := by
  unfold run
  refine Triple.bind (R := fun _ g => a.Rowless g₀ g)
    (Triple.update fun g h => rowless_of_serving h) fun _ => ?_
  refine Triple.rescue (R := fun failure g => a.Raised g₀ failure.callId g) ?_ fun failure => ?_
  · exact triple_body_rowless.bind fun _ => Triple.pure fun _ h => h
  · exact (triple_handle_raised hreliable failure).bind fun _ => Triple.pure fun _ h => h

end Attempt

/-! ### The loops -/

namespace CallSite

variable {site : CallSite} {g₀ g : CallState}

/-- What the loops leave: an answered request, or one in progress after `attempt`
attempts. -/
def Left (site : CallSite) (g₀ : CallState) (ending : Ending) (g : CallState) : Prop :=
  match ending with
  | .returned response => site.Answered g₀ response g
  | .exhausted _ attempt => site.Serving g₀ (attempt + 1) g

theorem Serving.mono {bound bound' : ℕ} (h : site.Serving g₀ bound g) (hle : bound ≤ bound') :
    site.Serving g₀ bound' g := ⟨h.1.mono hle, h.2⟩

theorem triple_attempts (hreliable : site.env.HandlersReliable) (reference : ModelReference)
    (fallbackIndex : ℕ) (preflight : Preflight) (retries attempt : ℕ) :
    Triple (site.Serving g₀ (attempt + 1))
      (site.attempts reference fallbackIndex preflight retries attempt)
      (fun ending g => site.Left g₀ ending g) (fun _ g => site.Collided g₀ g) := by
  have hrun (attempt : ℕ) :=
    @Attempt.triple_run ⟨site, reference, fallbackIndex, preflight, attempt + 1⟩ g₀ hreliable
  have hdeadline (g : CallState) (h : site.Serving g₀ (attempt + 1) g) :
      site.Serving g₀ (attempt + 2) g := h.mono (Nat.le_succ _)
  induction retries generalizing attempt with
  | zero =>
      unfold attempts
      refine Triple.ite (fun _ => Triple.pure hdeadline) fun _ => ?_
      refine (hrun attempt).bind fun result => ?_
      cases result <;> exact Triple.pure fun _ h => h
  | succ retries ih =>
      unfold attempts
      refine Triple.ite (fun _ => Triple.pure hdeadline) fun _ => ?_
      refine (hrun attempt).bind fun result => ?_
      cases result with
      | ok response => exact Triple.pure fun _ h => h
      | error e =>
          refine Triple.ite (fun _ => ?_) fun _ => Triple.pure fun _ h => h
          refine Triple.bind (R := fun _ g => site.Serving g₀ (attempt + 2) g) (Triple.raising
            (fun _ _ h => h) fun e he => ?_) fun _ => ih (attempt + 1) fun g h => h.mono (Nat.le_succ _)
          exact absurd ((hreliable.sleep (attempt + 1)).symm.trans he) (by simp)

theorem triple_auditRefusal (hreliable : site.env.HandlersReliable) (reference : ModelReference)
    (fallbackIndex attempt : ℕ) (e : Error) :
    Triple (site.Serving g₀ attempt) (site.auditRefusal reference fallbackIndex attempt e)
      (fun _ g => site.Serving g₀ (attempt + 1) g) (fun _ g => site.Collided g₀ g) := by
  let a : Attempt := ⟨site, reference, fallbackIndex, ⟨"", 0, ⟨none, by simp⟩⟩, attempt⟩
  unfold auditRefusal
  refine Triple.bind (R := fun _ g => a.Raised g₀ none g)
    (Triple.update fun g h => (Attempt.rowless_of_serving (a := a) h).raised) fun _ => ?_
  refine (Attempt.triple_failedCallId_raised (a := a) hreliable none).bind fun callId => ?_
  exact Attempt.triple_closeFailed_raised (a := a) hreliable callId e

theorem triple_candidates (hreliable : site.env.HandlersReliable)
    (references : List ModelReference) (fallbackIndex attempt : ℕ) (error : Option Error) :
    Triple (site.Serving g₀ (attempt + 1)) (site.candidates references fallbackIndex attempt error)
      (fun ending g => site.Left g₀ ending g) (fun _ g => site.Collided g₀ g) := by
  induction references generalizing fallbackIndex attempt error with
  | nil => exact Triple.pure fun _ h => h
  | cons reference rest ih =>
      unfold candidates
      refine Triple.ite (fun _ => ih _ _ _) fun _ => ?_
      split
      · exact (triple_auditRefusal hreliable reference fallbackIndex (attempt + 1) _).bind
          fun _ => Triple.pure fun _ h => h
      · refine (triple_attempts hreliable reference fallbackIndex _ _ attempt).bind
          fun ending => ?_
        cases ending with
        | returned response => exact Triple.pure fun _ h => h
        | exhausted error attempt =>
            exact Triple.ite (fun _ => Triple.pure fun _ h => h) fun _ => ih _ _ _

/-- **A call that is over**: its record is not active, no other record changed, and an
answer whose bookkeeping went through was returned. -/
structure Closed (site : CallSite) (g₀ : CallState) (result : Except Error LLMResponse)
    (g : CallState) : Prop where
  closed : g.db.recordStatus site.key ≠ some .active
  others : ∀ key, key ≠ site.key → g.db.recordStatus key = g₀.db.recordStatus key
  answers : ∀ t ∈ g.log, ∀ r, t.responded = some r → (site.env.attempt t.attempt).Bookkept →
    ∃ response, result = .ok response ∧ response.SameAnswer r

theorem Answered.closed {response : LLMResponse} (h : site.Answered g₀ response g) :
    site.Closed g₀ (.ok response) g := by
  refine ⟨by simp [h.succeeded], h.others, fun t ht r hr hkept => ?_⟩
  obtain ⟨t', log, r', hlog, hr', hsame, hlogged⟩ := h.answer
  rw [hlog] at ht
  rcases List.mem_cons.mp ht with rfl | ht
  · obtain rfl : r = r' := Option.some.inj (hr.symm.trans hr')
    exact ⟨response, rfl, hsame⟩
  · exact absurd ((hlogged t ht hkept).symm.trans hr) (by simp)

/-- Everything after the claim closes the record, or collides. -/
theorem triple_serve (hreliable : site.env.HandlersReliable) :
    Triple (site.Serving g₀ 1) site.serve (fun response g => site.Closed g₀ (.ok response) g)
      (fun e g => site.Closed g₀ (.error e) g ∨ site.Collided g₀ g) := by
  unfold serve
  refine Triple.bind ((triple_candidates hreliable site.route.candidates 0 0 none).conseq
    (fun _ h => h) (fun _ _ h => h) fun _ _ h => .inr h) fun ending => ?_
  cases ending with
  | returned response => exact Triple.pure fun _ h => h.closed
  | exhausted error attempt =>
      refine Triple.bind (R := fun _ g => ∀ e, site.Closed g₀ (.error e) g) ?_ fun _ =>
        Triple.throw fun _ h => .inl (h _)
      refine Call.triple_commit hreliable.fail fun g ⟨hprogress, hunanswered⟩ => ?_
      refine ⟨(), _, IdempotencyService.finish_of_isSome _ (by simp [hprogress.active]),
        fun e => ⟨by simp, fun key hkey => ?_, fun t ht r hr hkept => ?_⟩⟩
      · exact (UsageDatabase.recordStatus_setRecord_of_ne _ _ _ hkey).trans
          (hprogress.others key hkey)
      · exact absurd ((hunanswered t ht hkept).symm.trans hr) (by simp)

theorem triple_claimThenServe (hreliable : site.env.HandlersReliable) (hlinked : site.Linked g₀.db)
    (hclosed : g₀.db.recordStatus site.key ≠ some .active) (hlog : g₀.log = []) :
    Triple (fun g => g = g₀) (Gateway.claimThenServe site)
      (fun response g => site.Closed g₀ (.ok response) g)
      (fun e g => site.Closed g₀ (.error e) g ∨ site.Collided g₀ g) := by
  have hunchanged (e : Error) : site.Closed g₀ (.error e) g₀ :=
    ⟨hclosed, fun _ _ => rfl, by simp [hlog]⟩
  unfold Gateway.claimThenServe
  refine Triple.bind (R := fun replay g => (replay = true → g = g₀) ∧
    (replay = false → site.Serving g₀ 1 g)) ?_ fun replay => ?_
  · refine Call.triple_transaction (fun g h _ replay db hrun => ?_) fun g h e _ => by
      subst h
      exact .inl (hunchanged e)
    subst h
    rcases IdempotencyService.claim_eq_ok hrun with ⟨rfl, -, rfl⟩ | ⟨rfl, rfl⟩
    · exact ⟨fun _ => rfl, by simp⟩
    · refine ⟨by simp, fun _ => ⟨⟨by simp [IdempotencyService.activeRecord], fun key hkey => ?_,
        hlinked, fun row hrow => .inr ⟨row, hrow, ?_⟩⟩, by simp [hlog, Unanswered]⟩⟩
      · exact UsageDatabase.recordStatus_setRecord_of_ne _ _ _ hkey
      · exact ProviderCall.sameIdentity_iff.mpr ⟨rfl, rfl, rfl⟩
  · cases replay with
    | true => exact Triple.throw fun _ h => .inl ((h.1 rfl).symm ▸ hunchanged _)
    | false =>
        have hserve : Triple (site.Serving g₀ 1) site.serve
            (fun response g => site.Closed g₀ (.ok response) g)
            (fun e g => site.Closed g₀ (.error e) g ∨ site.Collided g₀ g) := triple_serve hreliable
        exact hserve.conseq (fun g h => h.2 rfl) (fun _ _ h => h) fun _ _ h => h

end CallSite

/-! ### Runs -/

namespace ProviderRuns

/-- What happens to the provider layer: a call is made, the process restarts with an empty
cache, or other code writes projects, workflow runs and budgets. -/
inductive Action
  | generate (gateway : Gateway) (request : PromptRequest) (env : Environment)
  | restart
  | edit (projects : List Project) (workflowRuns : List WorkflowUsage)
      (projectBudgets : ℕ → Option ProjectBudget)

/-- The effect of an action. -/
def next (g : CallState) : Action → CallState
  | .generate gateway request env => (gateway.generate env request g).2
  | .restart => { g with cache := fun _ => none }
  | .edit projects workflowRuns projectBudgets =>
      { g with db := { g.db with projects, workflowRuns, projectBudgets } }

/-- Calls one after another, from a database without provider calls. -/
def machine : Machine CallState Action where
  init g := g.db.providerCalls = [] ∧ g.db.idempotencyRecords = fun _ => none
  next g a := some (next g a)

/-- **A call that cannot be derailed**: no step of its handlers raises, the rows its audit
refers to exist, and none of its attempts meets a row of an earlier call. -/
def Undisturbed (g : CallState) (gateway : Gateway) (request : PromptRequest)
    (env : Environment) : Prop :=
  env.HandlersReliable ∧ ∀ route, gateway.route request.promptName = .ok route →
    (gateway.site env request route g.db).Linked g.db ∧
      ∀ t ∈ (gateway.generate env request g).2.log,
        ¬ g.db.Used (gateway.site env request route g.db).key t

/-- Runs whose calls are undisturbed. -/
def Guarded (g : CallState) : Action → Prop
  | .generate gateway request env => Undisturbed g gateway request env
  | .restart => True
  | .edit _ _ _ => True

/-- No record is active. -/
def AllClosed (g : CallState) : Prop := ∀ key, g.db.recordStatus key ≠ some .active

variable {g : CallState} {gateway : Gateway} {request : PromptRequest} {env : Environment}

/-- **One call** that is undisturbed closes what it opens and returns the answer it got. -/
theorem closed_generate (hsafe : Undisturbed g gateway request env) (hclosed : AllClosed g) :
    AllClosed (gateway.generate env request g).2 ∧
      ∀ t ∈ (gateway.generate env request g).2.log, ∀ r, t.responded = some r →
        (env.attempt t.attempt).Bookkept →
        ∃ response, (gateway.generate env request g).1 = .ok response ∧ response.SameAnswer r := by
  obtain ⟨hreliable, hsite⟩ := hsafe
  unfold Gateway.generate at hsite ⊢
  cases hroute : gateway.route request.promptName with
  | error e => exact ⟨hclosed, by simp⟩
  | ok route =>
      obtain ⟨hlinked, hfree⟩ := hsite route hroute
      rw [hroute] at hfree
      dsimp only at hfree ⊢
      split at hfree
      · exact ⟨hclosed, by simp⟩
      · have hpost := @CallSite.triple_claimThenServe (gateway.site env request route g.db)
          { g with log := [] } hreliable hlinked (hclosed _) rfl { g with log := [] } rfl
        revert hpost hfree
        generalize Program.exec _ _ = result
        intro hfree hpost
        have hover : (gateway.site env request route g.db).Closed { g with log := [] }
            result.1 result.2 := by
          rcases result with ⟨_ | _, g'⟩
          · rcases hpost with hpost | ⟨t, ht, hused⟩
            · exact hpost
            · exact absurd hused (hfree t ht)
          · exact hpost
        refine ⟨fun key => ?_, hover.answers⟩
        by_cases hkey : key = (gateway.site env request route g.db).key
        · rw [hkey]
          exact hover.closed
        · rw [hover.others key hkey]
          exact hclosed key

/-- No undisturbed run leaves a record active. -/
theorem closed_of_reachable (hg : machine.ReachableUnder Guarded g) : AllClosed g := by
  refine Machine.ReachableUnder.invariant (fun g hinit key => ?_)
    (fun g a g' _ hclosed hok hnext => ?_) hg
  · simp [UsageDatabase.recordStatus, hinit.2]
  · obtain rfl := Option.some.inj hnext
    cases a with
    | generate gateway request env => exact (closed_generate hok hclosed).1
    | restart => exact hclosed
    | edit projects workflowRuns projectBudgets => exact hclosed

/-- **The life of a record.** In every undisturbed run no record is active between calls, so
no request is refused as already active. A request that failed is admitted again, and a
call for it returns the answer of its provider, unless the bookkeeping after the answer
raises. -/
theorem record_lifecycle (hg : machine.ReachableUnder Guarded g) :
    (∀ key, g.db.recordStatus key ≠ some .active ∧
      ∃ claim, IdempotencyService.claim key g.db = .ok claim) ∧
    ∀ (gateway : Gateway) (request : PromptRequest) (env : Environment) (route : ModelRoute),
      gateway.route request.promptName = .ok route →
      g.db.recordStatus (gateway.site env request route g.db).key = some .failed →
      Undisturbed g gateway request env →
      (∃ db, IdempotencyService.claim (gateway.site env request route g.db).key g.db =
        .ok (false, db)) ∧
      ∀ t ∈ (gateway.generate env request g).2.log, ∀ r, t.responded = some r →
        (env.attempt t.attempt).Bookkept →
        ∃ response, (gateway.generate env request g).1 = .ok response ∧ response.SameAnswer r := by
  have hclosed := closed_of_reachable hg
  refine ⟨fun key => ⟨hclosed key, IdempotencyService.claim_of_closed (hclosed key)⟩, ?_⟩
  intro gateway request env route hroute hfailed hsafe
  exact ⟨⟨_, IdempotencyService.claim_of_failed hfailed⟩, (closed_generate hsafe hclosed).2⟩

/-! ### A call that failed is repeated -/

/-- The deadline has passed before the first attempt. -/
def late : Environment where
  attempt _ := { AttemptEnv.answering with deadlinePassed := true }

/-- The provider is out of service. -/
def outOfService : Environment where
  attempt _ := { AttemptEnv.answering with
    provider := .error (.llmError .service "Service unavailable" 1) }

/-- The provider answers. -/
def answering : Environment where
  attempt _ := .answering

/-- The request and the environment leave nothing to derail a call on a table without
rows. -/
theorem undisturbed_of_empty {env : Environment} (hreliable : env.HandlersReliable)
    (hprojects : g.db.projects = CallState.sample.db.projects)
    (hruns : g.db.workflowRuns = CallState.sample.db.workflowRuns)
    (hcalls : g.db.providerCalls = []) : Undisturbed g .sample .sample env := by
  refine ⟨hreliable, fun route _ => ⟨⟨?_, ?_⟩, ?_⟩⟩
  · rintro p hp
    obtain rfl := Option.some.inj hp
    rw [hprojects]
    rfl
  · rintro w hw
    obtain rfl := Option.some.inj hw
    rw [hruns]
    rfl
  · rintro t - ⟨row, hrow, -⟩
    rw [hcalls] at hrow
    exact absurd hrow (by simp)

/-- A call that failed before its first attempt is served when it is repeated. -/
theorem record_lifecycle_late :
    (next .sample (.generate .sample .sample late)).db.recordStatus "draft:draft" =
      some .failed ∧
    ∃ response, (Gateway.sample.generate answering .sample
      (next .sample (.generate .sample .sample late))).1 = .ok response ∧
        response.SameAnswer .sample := by
  have hfailed : (next .sample (.generate .sample .sample late)).db.recordStatus "draft:draft" =
      some .failed := by decide +kernel
  have hreached : machine.ReachableUnder Guarded (next .sample (.generate .sample .sample late)) :=
    .step (s := .sample) (a := .generate .sample .sample late) (.start ⟨rfl, rfl⟩)
      (undisturbed_of_empty ⟨fun _ => rfl, fun _ => rfl, fun _ => rfl, fun _ => rfl, fun _ => rfl,
        rfl⟩ rfl rfl rfl) rfl
  have hsafe : Undisturbed (next .sample (.generate .sample .sample late)) .sample .sample
      answering :=
    undisturbed_of_empty ⟨fun _ => rfl, fun _ => rfl, fun _ => rfl, fun _ => rfl, fun _ => rfl,
      rfl⟩ (by decide +kernel) (by decide +kernel) (by decide +kernel)
  have hserved := ((record_lifecycle hreached).2 .sample .sample answering
    ⟨"draft", [⟨"local", "model"⟩], 100⟩ rfl hfailed hsafe).2
  have hanswered : ∃ t ∈ (Gateway.sample.generate answering .sample
      (next .sample (.generate .sample .sample late))).2.log, t.responded = some .sample := by
    decide +kernel
  obtain ⟨t, ht, hr⟩ := hanswered
  exact ⟨hfailed, hserved t ht .sample hr ⟨rfl, rfl, rfl, rfl⟩⟩

/-- The rows of a call that failed are in the way of the next one: its audit row is refused,
twice, and the record stays active. -/
theorem record_lifecycle_fails :
    ¬ ∀ g, machine.Reachable g → ∀ key, g.db.recordStatus key ≠ some .active := by
  intro h
  obtain ⟨g, hg, hactive⟩ := machine.exists_reachable
    [.generate .sample .sample outOfService, .generate .sample .sample answering]
    (fun g => g.db.recordStatus "draft:draft" = some .active) (s := .sample) ⟨rfl, rfl⟩
    (by decide +kernel)
  exact h g hg _ hactive

end ProviderRuns

end StoryForge
