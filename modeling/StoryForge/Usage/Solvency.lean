import StoryForge.Library.Reservation
import StoryForge.Usage.Budget

/-!
# Budget safety

The budget of one project under any interleaving of the transactions of provider calls and
policy edits. A provider call is what it has reserved: a reservation is outstanding until
its call settles or releases it, once. The budget row and the outstanding reservations
refine an account with holds, so the row inherits solvency from the account; the service's
running total `reserved_estimated`, and its clamp at zero, are exact.

## Main results

* `BudgetSystem.next_refines` — every transaction is an account operation or changes
  nothing the account sees, and keeps the running total exact;
* `BudgetSystem.budget_safety` — spent and reserved stay within the hard limit, the total
  is the sum of the outstanding reservations, and neither is negative.
-/

namespace StoryForge

/-- The provider layer's database, and what each provider call of one project has
reserved: an amount while it is outstanding, `none` once it was given back. -/
structure BudgetSystem where
  db : UsageDatabase
  reservations : List (Option Amount)

/-- A price in whole units. -/
def PriceEstimate.known (units : ℕ) : PriceEstimate := ⟨some units, by simp⟩

namespace BudgetSystem

/-- The transactions on the budget of one project. -/
inductive Action
  | getOrCreate
  | set (policy : BudgetPolicy)
  | reserve (price : PriceEstimate)
  | settle (call : ℕ) (price : PriceEstimate)
  | release (call : ℕ)

/-- A transaction of the service that admits no call, or the old state when it raised. -/
def commitOr (s : BudgetSystem) (t : Except Error (ProjectBudget × UsageDatabase)) :
    BudgetSystem :=
  match t with
  | .ok (_, db) => { s with db }
  | .error _ => s

/-- A reservation for an estimate: the call is admitted with what was reserved for it. -/
def admitted (s : BudgetSystem) (projectId : ℕ) (cost : Amount) : BudgetSystem :=
  match BudgetService.reserveLocked projectId cost s.db with
  | .ok (decision, db) => ⟨db, s.reservations ++ [some decision.reservedAmount]⟩
  | .error _ => s

/-- A call gives its reservation back. -/
def giveBack (s : BudgetSystem) (projectId call : ℕ) (cost : Option Amount) :
    Option BudgetSystem :=
  match s.reservations[call]? with
  | some (some reserved) =>
      some ⟨BudgetService.settle projectId reserved cost none s.db, s.reservations.set call none⟩
  | _ => none

/-- The effect of a transaction. -/
def next (settings : Settings) (projectId : ℕ) (s : BudgetSystem) : Action → Option BudgetSystem
  | .getOrCreate => some (s.commitOr (BudgetService.getOrCreate settings projectId s.db))
  | .set policy => some (s.commitOr (BudgetService.set projectId policy s.db))
  | .reserve price =>
      match BudgetService.knownCost settings price.amount with
      | .ok cost => some (s.admitted projectId cost)
      | .error _ => some s
  | .settle call price => s.giveBack projectId call price.amount
  | .release call => s.giveBack projectId call none

/-- The budget of a project. Runs start without a budget row and without calls. -/
def machine (settings : Settings) (projectId : ℕ) : Machine BudgetSystem Action where
  init s := s.db.projectBudgets projectId = none ∧ s.reservations = []
  next := next settings projectId

/-- No settled cost exceeds the amount reserved for its call. -/
def Fair (s : BudgetSystem) (a : Action) : Prop :=
  match a with
  | .settle call price =>
      ∀ reserved, s.reservations[call]? = some (some reserved) → price.amount.getD 0 ≤ reserved
  | _ => True

/-! ### The account behind a budget -/

/-- The account a project has: its hard limit, what it spent, its calls' reservations. -/
def account (s : BudgetSystem) (projectId : ℕ) : Account Amount where
  limit := ((s.db.projectBudgets projectId).map (·.hardLimit)).getD 0
  spent := ((s.db.projectBudgets projectId).map (·.spentEstimated)).getD 0
  holds := s.reservations

/-- The running total of a budget row is the sum of the outstanding reservations; without
a row there are none. -/
def Exact (s : BudgetSystem) (projectId : ℕ) : Prop :=
  match s.db.projectBudgets projectId with
  | none => s.reservations = []
  | some budget => budget.reservedEstimated = Account.total s.reservations

/-- A state and its account. -/
def Refines (projectId : ℕ) (s : BudgetSystem) (a : Account Amount) : Prop :=
  s.account projectId = a ∧ s.Exact projectId

variable {settings : Settings} {projectId : ℕ} {s s' : BudgetSystem}

/-- A step of a system seen by the account: it keeps the total exact, and is an operation
of the account or none. -/
def Seen (projectId : ℕ) (s s' : BudgetSystem) : Prop :=
  s'.Exact projectId ∧ (s'.account projectId = s.account projectId ∨
    ∃ op, (s.account projectId).Fair op ∧
      (s.account projectId).apply op = some (s'.account projectId))

theorem Seen.refl (h : s.Exact projectId) : Seen projectId s s := ⟨h, .inl rfl⟩

/-- The first budget row opens the account's limit. -/
theorem seen_newBudget {policy : BudgetPolicy} (h : s.Exact projectId)
    (hnone : s.db.projectBudgets projectId = none) (hpos : 0 < policy.hardLimit) :
    Seen projectId s
      { s with db := s.db.setBudget projectId (BudgetService.newBudget policy) } := by
  have hempty : s.reservations = [] := by simpa [Exact, hnone] using h
  refine ⟨by simp [Exact, BudgetService.newBudget, hempty], .inr ⟨.relimit policy.hardLimit, ?_⟩⟩
  refine ⟨trivial, ?_⟩
  simp [Account.apply, account, Account.held, hnone, hempty, BudgetService.newBudget, hpos.le]

theorem seen_getOrCreate (h : s.Exact projectId) :
    Seen projectId s (s.commitOr (BudgetService.getOrCreate settings projectId s.db)) := by
  unfold BudgetService.getOrCreate
  split
  · exact .refl h
  · split
    · exact .refl h
    · rename_i hnone
      exact seen_newBudget h hnone settings.projectHardBudget_pos

/-- A policy edit moves the limit above current usage. -/
theorem seen_set {policy : BudgetPolicy} (h : s.Exact projectId) :
    Seen projectId s (s.commitOr (BudgetService.set projectId policy s.db)) := by
  unfold BudgetService.set
  split
  · exact .refl h
  rename_i hvalid
  split
  · rename_i hnone
    split
    · exact .refl h
    · exact seen_newBudget h hnone (not_le.mp fun hle => hvalid (.inr (.inl hle)))
  · rename_i budget hbudget
    split
    · exact .refl h
    · rename_i hroom
      have hexact : budget.reservedEstimated = Account.total s.reservations := by
        simpa [Exact, hbudget] using h
      refine ⟨by simpa [Exact, commitOr] using hexact, .inr ⟨.relimit policy.hardLimit, ?_⟩⟩
      refine ⟨trivial, ?_⟩
      rw [hexact] at hroom
      simp only [Account.apply, account, Account.held, hbudget, commitOr,
        UsageDatabase.setBudget_self, Option.map_some, Option.getD_some]
      rw [if_pos (not_lt.mp hroom)]

/-- An admission takes a hold: of the estimate, or of nothing when the budget is
disabled. -/
theorem seen_admitted {cost : Amount} (hcost : 0 ≤ cost) (h : s.Exact projectId)
    (hsolvent : (s.account projectId).Solvent) : Seen projectId s (s.admitted projectId cost) := by
  unfold admitted
  split
  swap
  · exact .refl h
  rename_i decision db' hdecision
  obtain ⟨budget, hbudget, hcases⟩ := BudgetService.reserveLocked_eq_ok hdecision
  have hexact : budget.reservedEstimated = Account.total s.reservations := by
    simpa [Exact, hbudget] using h
  rcases hcases with ⟨hamount, rfl⟩ | ⟨hamount, hroom, rfl⟩
  · have hwithin := hsolvent.within
    simp only [account, Account.held, hbudget, Option.map_some, Option.getD_some] at hwithin
    refine ⟨by simpa [Exact, hbudget, hamount] using hexact, .inr ⟨.take 0, le_rfl, ?_⟩⟩
    simp [Account.apply, account, Account.held, hbudget, hamount, hwithin]
  · rw [hexact] at hroom
    refine ⟨by simp [Exact, hexact, hamount], .inr ⟨.take cost, hcost, ?_⟩⟩
    simp [Account.apply, account, Account.held, hbudget, hamount, hroom]

/-- Giving a reservation back closes its hold; the clamp at zero never applies. -/
theorem seen_giveBack {call : ℕ} {price : Option Amount} (hprice : 0 ≤ price.getD 0)
    (hfair : ∀ reserved, s.reservations[call]? = some (some reserved) → price.getD 0 ≤ reserved)
    (h : s.Exact projectId) (hsolvent : (s.account projectId).Solvent)
    (hnext : s.giveBack projectId call price = some s') : Seen projectId s s' := by
  unfold giveBack at hnext
  split at hnext
  · rename_i reserved hcall
    obtain rfl := Option.some.inj hnext
    cases hbudget : s.db.projectBudgets projectId with
    | none =>
        have hempty : s.reservations = [] := by simpa [Exact, hbudget] using h
        simp [hempty] at hcall
    | some budget =>
        have hexact : budget.reservedEstimated = Account.total s.reservations := by
          simpa [Exact, hbudget] using h
        have hle : reserved ≤ Account.total s.reservations :=
          Account.le_total hsolvent.holds_nonneg hcall
        refine ⟨?_, .inr ⟨.close call (price.getD 0), ⟨hprice, hfair⟩, ?_⟩⟩
        · simp only [Exact, BudgetService.settle, hbudget, UsageDatabase.setBudget_self]
          rw [Account.total_set_none hcall, hexact]
          exact max_eq_right (sub_nonneg.mpr hle)
        · simp [Account.apply, account, hcall, BudgetService.settle, hbudget]
  · exact absurd hnext (by simp)

/-- **Every transaction refines the account.** -/
theorem next_refines {a : Action} (h : s.Exact projectId)
    (hsolvent : (s.account projectId).Solvent) (hfair : s.Fair a)
    (hnext : next settings projectId s a = some s') : Seen projectId s s' := by
  cases a with
  | getOrCreate =>
      obtain rfl := Option.some.inj hnext
      exact seen_getOrCreate h
  | set policy =>
      obtain rfl := Option.some.inj hnext
      exact seen_set h
  | reserve price =>
      simp only [next] at hnext
      split at hnext
      · rename_i cost hcost
        obtain rfl := Option.some.inj hnext
        refine seen_admitted ?_ h hsolvent
        unfold BudgetService.knownCost at hcost
        split at hcost
        · rename_i value hvalue
          obtain rfl := Except.ok.inj hcost
          exact price.nonneg value hvalue
        · split at hcost
          · obtain rfl := Except.ok.inj hcost
            exact le_rfl
          · exact absurd hcost (by simp)
      · obtain rfl := Option.some.inj hnext
        exact .refl h
  | settle call price =>
      refine seen_giveBack ?_ hfair h hsolvent hnext
      cases hprice : price.amount with
      | none => exact le_rfl
      | some value => exact price.nonneg value hprice
  | release call =>
      refine seen_giveBack le_rfl (fun reserved hcall => ?_) h hsolvent hnext
      exact hsolvent.holds_nonneg reserved (List.mem_of_getElem? hcall)

/-- Every reachable budget has a reachable account behind it. -/
theorem refines_of_reachable (hs : (machine settings projectId).ReachableUnder Fair s) :
    ∃ a, (Account.machine Amount).ReachableUnder Account.Fair a ∧ Refines projectId s a := by
  refine hs.simulation (fun s hinit => ?_) fun s a act s' hs ha hrel hfair hnext => ?_
  · obtain ⟨hnone, hempty⟩ := hinit
    exact ⟨_, rfl, by simp [account, hnone, hempty], by simp [Exact, hnone, hempty]⟩
  · obtain ⟨rfl, hexact⟩ := hrel
    obtain ⟨hexact', hsame | ⟨op, hop, happly⟩⟩ :=
      next_refines hexact (Account.solvent_of_reachable ha) hfair hnext
    · exact .inl ⟨hsame, hexact'⟩
    · exact .inr ⟨op, _, hop, happly, rfl, hexact'⟩

/-- **Budget safety.** In every state reached by transactions in which no settled cost
exceeds its reservation, a project's spent and reserved totals fit its hard limit, the
reserved total is the sum of the outstanding reservations, and neither is negative. -/
theorem budget_safety (hs : (machine settings projectId).ReachableUnder Fair s)
    {budget : ProjectBudget} (hbudget : s.db.projectBudgets projectId = some budget) :
    budget.spentEstimated + budget.reservedEstimated ≤ budget.hardLimit ∧
      budget.reservedEstimated = Account.total s.reservations ∧
      0 ≤ budget.spentEstimated ∧ 0 ≤ budget.reservedEstimated := by
  obtain ⟨a, ha, rfl, hexact⟩ := refines_of_reachable hs
  have hsolvent := Account.solvent_of_reachable ha
  have hexact : budget.reservedEstimated = Account.total s.reservations := by
    simpa [Exact, hbudget] using hexact
  have hwithin := hsolvent.within
  have hspent := hsolvent.spent_nonneg
  have hheld := hsolvent.held_nonneg
  simp only [account, Account.held, hbudget, Option.map_some, Option.getD_some]
    at hwithin hspent hheld
  rw [hexact]
  exact ⟨hwithin, rfl, hspent, hheld⟩

/-! ### Two calls and a policy edit -/

/-- A policy with a hard limit of ten units. -/
def samplePolicy (enabled : Bool) : BudgetPolicy := ⟨0, 10, "USD", .lifetime, enabled⟩

/-- Two calls reserve; one settles below its reservation while the budget is disabled. -/
def twoCalls : List Action :=
  [.set (samplePolicy true), .reserve (.known 6), .reserve (.known 4),
    .set (samplePolicy false), .settle 0 (.known 5), .set (samplePolicy true)]

instance (s : BudgetSystem) (a : Action) : Decidable (s.Fair a) := by
  unfold Fair
  split
  · rename_i call price
    cases h : s.reservations[call]? with
    | none => exact .isTrue (by simp)
    | some hold =>
        cases hold with
        | none => exact .isTrue (by simp)
        | some r => exact decidable_of_iff (price.amount.getD 0 ≤ r) (by simp)
  · infer_instance

/-- The second reservation is still outstanding and the budget is within its limit. -/
theorem budget_safety_twoCalls :
    ∃ s, (machine Settings.defaults 0).ReachableUnder Fair s ∧
      ∃ budget, s.db.projectBudgets 0 = some budget ∧ budget.spentEstimated = 5 ∧
        s.reservations = [none, some 4] ∧
        budget.spentEstimated + budget.reservedEstimated ≤ budget.hardLimit := by
  obtain ⟨s, hs, ⟨budget, hbudget, hspent⟩, hreservations⟩ :=
    (machine Settings.defaults 0).exists_reachableUnder Fair twoCalls
      (fun s => (∃ budget ∈ s.db.projectBudgets 0, budget.spentEstimated = 5) ∧
        s.reservations = [none, some 4])
      (s := ⟨⟨[⟨"project"⟩], [], fun _ => none, [], fun _ => none⟩, []⟩) ⟨rfl, rfl⟩ (by decide)
  exact ⟨s, hs, budget, hbudget, hspent, hreservations, (budget_safety hs hbudget).1⟩

end BudgetSystem

end StoryForge
