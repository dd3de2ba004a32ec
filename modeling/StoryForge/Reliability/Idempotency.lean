import Mathlib.Logic.Function.Basic
import StoryForge.Usage.Models

/-!
# `IdempotencyService`

One record per normalized provider request: `claim` makes it active, `succeed` and `fail`
close it. A successful record is a replay, an active one a conflict; a failed one is
claimed again.
-/

namespace StoryForge

/-- Write the record of a key. -/
def UsageDatabase.setRecord (db : UsageDatabase) (key : String)
    (record : ProviderIdempotencyRecord) : UsageDatabase :=
  { db with idempotencyRecords := Function.update db.idempotencyRecords key (some record) }

/-- The status of the record of a key. -/
def UsageDatabase.recordStatus (db : UsageDatabase) (key : String) : Option IdempotencyStatus :=
  (db.idempotencyRecords key).map (·.status)

section SetRecord

variable (db : UsageDatabase) (key : String) (record : ProviderIdempotencyRecord)

@[simp] theorem UsageDatabase.setRecord_providerCalls :
    (db.setRecord key record).providerCalls = db.providerCalls := rfl

@[simp] theorem UsageDatabase.setRecord_projects :
    (db.setRecord key record).projects = db.projects := rfl

@[simp] theorem UsageDatabase.setRecord_workflowRuns :
    (db.setRecord key record).workflowRuns = db.workflowRuns := rfl

@[simp] theorem UsageDatabase.setRecord_projectBudgets :
    (db.setRecord key record).projectBudgets = db.projectBudgets := rfl

@[simp] theorem UsageDatabase.recordStatus_setRecord_self :
    (db.setRecord key record).recordStatus key = some record.status := by
  simp [recordStatus, setRecord]

theorem UsageDatabase.recordStatus_setRecord_of_ne {key' : String} (h : key' ≠ key) :
    (db.setRecord key record).recordStatus key' = db.recordStatus key' := by
  simp [recordStatus, setRecord, Function.update_of_ne h]

end SetRecord

namespace IdempotencyService

/-- An open record. -/
def activeRecord : ProviderIdempotencyRecord := ⟨.active, none, none, none⟩

/-- `claim`: whether the request is a replay. -/
def claim (key : String) (db : UsageDatabase) : Except Error (Bool × UsageDatabase) :=
  match db.idempotencyRecords key with
  | none => .ok (false, db.setRecord key activeRecord)
  | some current =>
      match current.status with
      | .succeeded => .ok (true, db)
      | .active =>
          .error (.idempotencyConflictError "Identical provider request is already active")
      | .failed => .ok (false, db.setRecord key activeRecord)

/-- `_finish`. -/
def finish (key : String) (record : ProviderIdempotencyRecord) (db : UsageDatabase) :
    Except Error (Unit × UsageDatabase) :=
  match db.idempotencyRecords key with
  | none => .error (.runtimeError "Provider idempotency record disappeared")
  | some _ => .ok ((), db.setRecord key record)

/-- `succeed`. -/
def succeed (key : String) (providerCallId : ℕ) (responseHash : String) (db : UsageDatabase) :
    Except Error (Unit × UsageDatabase) :=
  finish key ⟨.succeeded, some providerCallId, some responseHash, none⟩ db

/-- `fail`. -/
def fail (key : String) (errorCode : String) (db : UsageDatabase) :
    Except Error (Unit × UsageDatabase) :=
  finish key ⟨.failed, none, none, some errorCode⟩ db

variable {key : String} {db db' : UsageDatabase} {replay : Bool}

/-- A granted claim opens the record; a replay finds it closed with success. -/
theorem claim_eq_ok (h : claim key db = .ok (replay, db')) :
    replay = true ∧ db.recordStatus key = some .succeeded ∧ db' = db ∨
      replay = false ∧ db' = db.setRecord key activeRecord := by
  unfold claim at h
  split at h
  · obtain ⟨rfl, rfl⟩ := Prod.mk.inj (Except.ok.inj h)
    exact .inr ⟨rfl, rfl⟩
  · rename_i current hcurrent
    split at h
    · rename_i hstatus
      obtain ⟨rfl, rfl⟩ := Prod.mk.inj (Except.ok.inj h)
      exact .inl ⟨rfl, by simp [UsageDatabase.recordStatus, hcurrent, hstatus], rfl⟩
    · exact absurd h (by simp)
    · obtain ⟨rfl, rfl⟩ := Prod.mk.inj (Except.ok.inj h)
      exact .inr ⟨rfl, rfl⟩

/-- A failed request can be claimed again. -/
theorem claim_of_failed (h : db.recordStatus key = some .failed) :
    claim key db = .ok (false, db.setRecord key activeRecord) := by
  obtain ⟨current, hcurrent, hstatus⟩ := Option.map_eq_some_iff.mp h
  simp [claim, hcurrent, hstatus]

/-- A request whose record is not active can be claimed. -/
theorem claim_of_closed (h : db.recordStatus key ≠ some .active) :
    ∃ granted, claim key db = .ok granted := by
  unfold claim
  cases hcurrent : db.idempotencyRecords key with
  | none => exact ⟨_, rfl⟩
  | some current =>
      dsimp only
      cases hstatus : current.status with
      | succeeded => exact ⟨_, rfl⟩
      | active => exact absurd (by simp [UsageDatabase.recordStatus, hcurrent, hstatus]) h
      | failed => exact ⟨_, rfl⟩

/-- An existing record is always closed. -/
theorem finish_of_isSome (record : ProviderIdempotencyRecord) (h : (db.recordStatus key).isSome) :
    finish key record db = .ok ((), db.setRecord key record) := by
  rw [UsageDatabase.recordStatus, Option.isSome_map] at h
  obtain ⟨current, hcurrent⟩ := Option.isSome_iff_exists.mp h
  simp [finish, hcurrent]

end IdempotencyService

end StoryForge
