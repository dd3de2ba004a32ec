import Mathlib.Data.Int.Notation
import Mathlib.Logic.Function.Basic
import Mathlib.Order.Lattice

/-!
# Counters that expire

A store of integer counters, each with an optional deadline. A counter that has reached its
deadline is gone: the next increment starts again at zero and without a deadline. An increment
keeps the deadline of a counter that is there.

## Main results

* `value_of_live`, `value_of_expired` — a counter counts until its deadline;
* `expire_incrBy` — an increment that renews the deadline.
-/

universe u v

namespace Expiring

/-- A counter and the time at which it is deleted. -/
structure Counter (τ : Type v) where
  value : ℤ
  expiresAt : Option τ

/-- A store of counters. -/
abbrev Store (κ : Type u) (τ : Type v) := κ → Option (Counter τ)

variable {κ : Type u} {τ : Type v} [DecidableEq κ] [LinearOrder τ]

/-- The counter is not deleted yet. -/
def Counter.live (counter : Counter τ) (now : τ) : Bool :=
  counter.expiresAt.all fun deadline => decide (now < deadline)

/-- The counter of a key, if it has one at a time. -/
def get (store : Store κ τ) (now : τ) (key : κ) : Option (Counter τ) :=
  (store key).filter (·.live now)

/-- What is counted under a key. -/
def value (store : Store κ τ) (now : τ) (key : κ) : ℤ :=
  ((get store now key).map (·.value)).getD 0

/-- Add to a counter: the new value, and the store. -/
def incrBy (key : κ) (amount : ℤ) (now : τ) (store : Store κ τ) : ℤ × Store κ τ :=
  let counter := (get store now key).getD ⟨0, none⟩
  (counter.value + amount,
    Function.update store key (some { counter with value := counter.value + amount }))

/-- Give a counter a deadline. -/
def expire (key : κ) (deadline now : τ) (store : Store κ τ) : Store κ τ :=
  Function.update store key
    ((get store now key).map fun counter => { counter with expiresAt := some deadline })

variable {store : Store κ τ} {key other : κ} {now later deadline : τ} {amount count : ℤ}

omit [DecidableEq κ] in
theorem get_of_live (h : store key = some ⟨count, some deadline⟩) (hlive : now < deadline) :
    get store now key = some ⟨count, some deadline⟩ := by
  rw [get, h, Option.filter_some, if_pos (by simpa [Counter.live] using hlive)]

omit [DecidableEq κ] in
theorem get_of_expired (h : store key = some ⟨count, some deadline⟩) (hdead : deadline ≤ now) :
    get store now key = none := by
  rw [get, h, Option.filter_some, if_neg (by simpa [Counter.live] using hdead)]

omit [DecidableEq κ] in
/-- A counter with a deadline counts until then. -/
theorem value_of_live (h : store key = some ⟨count, some deadline⟩) (hlive : now < deadline) :
    value store now key = count := by
  rw [value, get_of_live h hlive, Option.map_some, Option.getD_some]

omit [DecidableEq κ] in
theorem value_of_expired (h : store key = some ⟨count, some deadline⟩) (hdead : deadline ≤ now) :
    value store now key = 0 := by
  rw [value, get_of_expired h hdead, Option.map_none, Option.getD_none]

omit [DecidableEq κ] in
theorem value_of_absent (h : store key = none) : value store now key = 0 := by
  rw [value, get, h, Option.filter_none, Option.map_none, Option.getD_none]

omit [DecidableEq κ] in
/-- What is there later is there now. -/
theorem get_of_later (hle : now ≤ later) (h : (get store later key).isSome) :
    get store now key = get store later key := by
  obtain ⟨counter, hcounter⟩ := Option.isSome_iff_exists.mp h
  obtain ⟨hstore, hlive⟩ := Option.filter_eq_some_iff.mp hcounter
  rw [hcounter, get, hstore, Option.filter_some, if_pos]
  cases hdeadline : counter.expiresAt with
  | none => simp [Counter.live, hdeadline]
  | some deadline =>
      have hlater : later < deadline := by simpa [Counter.live, hdeadline] using hlive
      simpa [Counter.live, hdeadline] using lt_of_le_of_lt hle hlater

theorem incrBy_fst : (incrBy key amount now store).1 = value store now key + amount := by
  simp only [incrBy, value]
  cases get store now key <;> rfl

theorem incrBy_of_ne (hne : other ≠ key) :
    (incrBy key amount now store).2 other = store other := by
  simp only [incrBy, Function.update_of_ne hne]

theorem expire_of_ne (hne : other ≠ key) : expire key deadline now store other = store other := by
  simp only [expire, Function.update_of_ne hne]

omit [DecidableEq κ] in
theorem value_congr {store' : Store κ τ} (h : store' key = store key) :
    value store' now key = value store now key := by
  simp only [value, get, h]

/-- An increment of a counter with a deadline. -/
theorem incrBy_self (h : store key = some ⟨count, some deadline⟩) (hlive : now < deadline) :
    (incrBy key amount now store).2 key = some ⟨count + amount, some deadline⟩ := by
  simp only [incrBy, get_of_live h hlive, Function.update_self, Option.getD_some]

/-- The counter that an increment leaves is there. -/
theorem get_incrBy : get (incrBy key amount now store).2 now key =
    some { (get store now key).getD ⟨0, none⟩ with value := value store now key + amount } := by
  have hlive : ((get store now key).getD ⟨0, none⟩).live now := by
    cases hget : get store now key with
    | none => rfl
    | some counter => exact (Option.filter_eq_some_iff.mp hget).2
  have hvalue : ((get store now key).getD ⟨0, none⟩).value = value store now key := by
    rw [value]
    cases get store now key <;> rfl
  rw [← hvalue]
  simp only [incrBy]
  rw [get, Function.update_self, Option.filter_some]
  exact if_pos hlive

theorem value_incrBy :
    value (incrBy key amount now store).2 now key = value store now key + amount := by
  rw [value, get_incrBy, Option.map_some, Option.getD_some]

/-- An increment keeps the deadline of a counter that is there. -/
theorem isSome_get_incrBy (h : (get store now key).isSome) :
    (get (incrBy key amount now store).2 later key).isSome = (get store later key).isSome := by
  obtain ⟨counter, hcounter⟩ := Option.isSome_iff_exists.mp h
  have hstore : store key = some counter := (Option.filter_eq_some_iff.mp hcounter).1
  simp only [incrBy, hcounter, Option.getD_some]
  simp only [get, Function.update_self, hstore, Option.isSome_filter, Option.any_some,
    Counter.live]

/-- **An increment that renews the deadline.** -/
theorem expire_incrBy :
    expire key deadline now (incrBy key amount now store).2 key =
      some ⟨value store now key + amount, some deadline⟩ := by
  rw [expire, Function.update_self, get_incrBy]
  rfl

end Expiring
