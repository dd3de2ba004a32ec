import StoryForge.Library.SequencedLog
import StoryForge.Jobs.Transactions

/-!
# The event log of a job

`add_ordered` is two statements: an `UPDATE` of the job row that raises `event_sequence` and
returns it, and the `INSERT` of the event under that number. Every writer of job events goes
through it, whatever else its transaction does and whether or not it locked the job first.
The log is a `SequencedLog` here: keys are jobs, counters their `event_sequence`, and the
statements of any number of transactions interleave, commit and roll back freely. The lock
that an update takes and the order of ids are what the database promises.

The job system runs one transaction at a time. Each of its transactions is a run of
statements of this log, so what holds of the log holds of it.

## Main results

* `JobSystem.next_appends` — what each action does to the events and their counters;
* `JobSystem.log_of_reachable` — the job system takes the steps of the log;
* `JobSystem.events_sequenced` — the committed events of a job are numbered from one to its
  `event_sequence`, in the order of the commits and of their ids.
-/

namespace StoryForge

open SequencedLog

/-! ### Statements of the event log -/

/-- The event log: a counter for every job, and the events of all jobs. -/
abbrev EventLog := Log ℕ JobEvent

/-- The log under the statements of the transactions of all processes. -/
abbrev eventLog : Machine EventLog (ℕ × Statement ℕ JobEvent) := machine ℕ JobEvent

namespace EventLog

/-- The row an entry stands for: `event.sequence` is set to the number that was returned. -/
def row (e : Entry ℕ JobEvent) : JobEvent :=
  { e.payload with jobId := e.key, sequence := e.sequence }

/-- `event_sequence` of a committed job. -/
def eventSequence (log : EventLog) (j : ℕ) : Option ℕ := log.counters j

/-- The committed events of a job, in the order of their commits. -/
def eventsOf (log : EventLog) (j : ℕ) : List (Entry ℕ JobEvent) := ofKey j log.entries

/-- The statements of `add_ordered` in transaction `t`. -/
def addOrdered (t : ℕ) (event : JobEvent) : List (ℕ × Statement ℕ JobEvent) :=
  [(t, .allocate event.jobId), (t, .insert event)]

end EventLog

/-- The events of a job, in the order of the table. -/
def Database.eventsOf (db : Database) (j : ℕ) : List JobEvent :=
  db.jobEvents.filter (·.jobId = j)

/-! ### The job system as a writer of the log -/

namespace JobSystem

variable {settings : Settings} {s s' : JobSystem} {a : Action}

/-- **One step, seen from the event log.** -/
theorem next_appends (h : next settings s a = some s') :
    Appends s.db.logView s'.db.logView := by
  by_cases hservices : ∃ projects chapters runs, a = .environment projects chapters runs
  · obtain ⟨projects, chapters, runs, rfl⟩ := hservices
    obtain rfl := Option.some.inj h
    exact .refl
  · refine (next_transacts h fun projects chapters runs ha => hservices ?_).appends
    exact ⟨projects, chapters, runs, ha⟩

/-- Every event is of a job that exists. -/
theorem events_known (hs : (machine settings).Reachable s) :
    ∀ e ∈ s.db.jobEvents, e.jobId < s.db.jobs.length := by
  refine hs.invariant (I := fun s => ∀ e ∈ s.db.jobEvents, e.jobId < s.db.jobs.length)
    (fun s hinit => ?_) fun s a s' _ hknown _ hnext => ?_
  · obtain ⟨-, hevents, -⟩ := hinit
    simp [hevents]
  · have happends := (next_appends hnext).known
      (by simpa [Database.logView] using hknown)
    simpa [Database.logView] using happends

end JobSystem

/-! ### The job system takes the steps of the log -/

namespace EventLog

variable {log log' : EventLog} {v v' : LogView}

/-- The log with transaction 0 in progress, and no other: as that transaction sees them, the
counters and events are those of `v`. -/
structure Shows (log : EventLog) (v : LogView) : Prop where
  sequences : ∀ j, log.visible 0 j = v.sequences[j]?
  events : (log.entries ++ log.written 0).map row = v.events
  inserted : log.allocated 0 = none
  alone : ∀ j t n, log.locks j = some (t, n) → t = 0

/-- The log at rest: nothing is in progress, and the committed counters and events are those
of `db`. -/
structure Represents (log : EventLog) (db : Database) : Prop where
  sequences : ∀ j, log.eventSequence j = db.jobs[j]?.map (·.eventSequence)
  events : log.entries.map row = db.jobEvents
  free : ∀ j, log.locks j = none
  written : log.written 0 = []
  inserted : log.allocated 0 = none

theorem Represents.shows {db : Database} (h : log.Represents db) : log.Shows db.logView where
  sequences j := by
    rw [Log.visible, h.free j, Database.logView, List.getElem?_map]
    exact h.sequences j
  events := by
    rw [h.written, List.append_nil]
    exact h.events
  inserted := h.inserted
  alone j t n hlock := absurd ((h.free j).symm.trans hlock) (by simp)

/-- A counter that a transaction sees may be locked and set by it. -/
theorem visible_hold (log : EventLog) (j k n : ℕ) :
    (log.hold 0 k n).visible 0 j = if j = k then some n else log.visible 0 j := by
  unfold Log.visible Log.hold
  dsimp only
  by_cases hj : j = k
  · simp [hj]
  · rw [Function.update_of_ne hj, if_neg hj]

/-- One more job, in the transaction in progress. -/
theorem Shows.create (h : log.Shows v) :
    ∃ log', log.next 0 (.create v.sequences.length) = some log' ∧
      Shows log' ⟨v.sequences ++ [0], v.events⟩ := by
  have hvisible : log.visible 0 v.sequences.length = none := by
    rw [h.sequences, List.getElem?_eq_none (Nat.le_refl _)]
  have hfree : log.locks v.sequences.length = none := by
    cases hlock : log.locks v.sequences.length with
    | none => rfl
    | some holder =>
        obtain ⟨t, n⟩ := holder
        obtain rfl := h.alone _ t n hlock
        simp [Log.visible, hlock] at hvisible
  have hnone : log.counters v.sequences.length = none := by
    simpa only [Log.visible, hfree] using hvisible
  refine ⟨_, if_pos ⟨hnone, hfree⟩, fun j => ?_, h.events, h.inserted, fun j t n hlock => ?_⟩
  · rw [visible_hold, h.sequences, List.getElem?_append]
    rcases Nat.lt_trichotomy j v.sequences.length with hj | rfl | hj
    · rw [if_neg (by omega), if_pos hj]
    · simp
    · rw [if_neg (by omega), if_neg (by omega), List.getElem?_eq_none (by omega),
        List.getElem?_eq_none (by simp; omega)]
  · by_cases hj : j = v.sequences.length
    · subst hj
      simp only [Log.hold, Function.update_self, Option.some.injEq, Prod.mk.injEq] at hlock
      exact hlock.1.symm
    · simp only [Log.hold, Function.update_of_ne hj] at hlock
      exact h.alone j t n hlock

/-- One more event, by the two statements of `add_ordered`. -/
theorem Shows.addOrdered (h : log.Shows v) {event : JobEvent} {n : ℕ}
    (hcount : v.sequences[event.jobId]? = some n) (hnext : event.sequence = n + 1) :
    ∃ log', eventLog.guardedRun (fun _ _ => True) log (EventLog.addOrdered 0 event) = some log' ∧
      log'.Shows ⟨v.sequences.set event.jobId (n + 1), v.events ++ [event]⟩ := by
  have hvisible : log.visible 0 event.jobId = some n := (h.sequences _).trans hcount
  have hlt : event.jobId < v.sequences.length := (List.getElem?_eq_some_iff.mp hcount).1
  let mid : EventLog := { log.hold 0 event.jobId (n + 1) with
    allocated := Function.update log.allocated 0 (some (event.jobId, n + 1)) }
  have hallocate : eventLog.next log (0, .allocate event.jobId) = some mid := by
    simp only [machine, Log.next]
    rw [if_pos h.inserted, hvisible, Option.map_some]
  have hgiven : mid.allocated 0 = some (event.jobId, n + 1) := by
    simp only [mid, Function.update_self]
  let after : EventLog := { mid with
    nextId := mid.nextId + 1
    written := Function.update mid.written 0
      (mid.written 0 ++ [⟨mid.nextId, event.jobId, n + 1, event⟩])
    allocated := Function.update mid.allocated 0 none }
  have hinsert : eventLog.next mid (0, .insert event) = some after := by
    simp only [machine, Log.next]
    rw [hgiven, Option.map_some]
  have hrun : eventLog.guardedRun (fun _ _ => True) log (EventLog.addOrdered 0 event) = some after := by
    simp only [EventLog.addOrdered, Machine.guardedRun, if_true, hallocate, hinsert, Option.bind_some]
  refine ⟨after, hrun, fun j => ?_, ?_, by simp only [after, Function.update_self],
    fun j t m hlock => ?_⟩
  · have hhold := visible_hold log j event.jobId (n + 1)
    refine hhold.trans ?_
    rw [h.sequences, List.getElem?_set]
    by_cases hj : j = event.jobId
    · simp [hj, hlt]
    · rw [if_neg hj, if_neg (Ne.symm hj)]
  · simp only [after, mid, Log.hold, Function.update_self]
    rw [← List.append_assoc, List.map_append, List.map_singleton, row, ← hnext]
    exact congrArg (· ++ [event]) h.events
  · by_cases hj : j = event.jobId
    · subst hj
      simp only [after, mid, Log.hold, Function.update_self, Option.some.injEq,
        Prod.mk.injEq] at hlock
      exact hlock.1.symm
    · simp only [after, mid, Log.hold, Function.update_of_ne hj] at hlock
      exact h.alone j t m hlock

/-- What a transaction appends, it appends by statements of the log. -/
theorem exists_of_appends (hlog : eventLog.Reachable log) (h : log.Shows v)
    (happends : Appends v v') : ∃ log', eventLog.Reachable log' ∧ log'.Shows v' := by
  induction happends with
  | refl => exact ⟨log, hlog, h⟩
  | create _ ih =>
      obtain ⟨mid, hmid, hshows⟩ := ih
      obtain ⟨log', hnext, hshows'⟩ := hshows.create
      exact ⟨log', .step (a := (0, .create _)) hmid trivial hnext, hshows'⟩
  | event _ _ hcount hnumber ih =>
      obtain ⟨mid, hmid, hshows⟩ := ih
      obtain ⟨log', hrun, hshows'⟩ := hshows.addOrdered hcount hnumber
      exact ⟨log', hmid.of_guardedRun hrun, hshows'⟩

/-- The commit of the transaction in progress. -/
theorem Shows.commit {db : Database} (h : log.Shows db.logView) :
    ∃ log', log.next 0 .commit = some log' ∧ Represents log' db := by
  have hheld {j : ℕ} (hnone : log.heldBy 0 j = false) : log.locks j = none := by
    cases hlock : log.locks j with
    | none => rfl
    | some holder =>
        obtain ⟨t, n⟩ := holder
        obtain rfl := h.alone j t n hlock
        simp [Log.heldBy, hlock] at hnone
  refine ⟨_, if_pos h.inserted, fun j => ?_, h.events, fun j => ?_, by simp [Log.release],
    by simp [Log.release]⟩
  · have hvisible := h.sequences j
    rw [Database.logView, List.getElem?_map] at hvisible
    rw [← hvisible]
    simp only [eventSequence, Log.release, Log.publish, Log.visible]
    cases hlock : log.locks j with
    | none => simp [Log.heldBy, hlock]
    | some holder =>
        obtain ⟨t, n⟩ := holder
        obtain rfl := h.alone j t n hlock
        simp [Log.heldBy, hlock]
  · simp only [Log.release]
    cases hholds : (log.publish 0).heldBy 0 j
    · rw [if_neg (by simp)]
      exact hheld hholds
    · rw [if_pos rfl]

end EventLog

namespace JobSystem

variable {settings : Settings} {s : JobSystem}

/-- **The job system takes the steps of the log.** Every reachable state is represented by a
reachable state of the log, with every transaction run from its first statement to its
commit. -/
theorem log_of_reachable (hs : (machine settings).Reachable s) :
    ∃ log, eventLog.Reachable log ∧ log.Represents s.db := by
  induction hs with
  | @start s hinit =>
      obtain ⟨hjobs, hevents, -⟩ := hinit
      exact ⟨.idle (fun _ => none) [] 0, .start rfl, by simp [EventLog.eventSequence, Log.idle,
        hjobs], by simp [Log.idle, hevents], fun _ => rfl, rfl, rfl⟩
  | step _ _ hnext ih =>
      obtain ⟨log, hlog, hrepresents⟩ := ih
      obtain ⟨mid, hmid, hshows⟩ :=
        EventLog.exists_of_appends hlog hrepresents.shows (next_appends hnext)
      obtain ⟨log', hcommit, hrepresents'⟩ := hshows.commit
      exact ⟨log', .step (a := (0, .commit)) hmid trivial hcommit, hrepresents'⟩

/-- The events of a job, from the entries that represent them. -/
theorem eventsOf_of_represents {log : EventLog} {db : Database} (h : log.Represents db)
    (j : ℕ) : (db.eventsOf j).map (·.sequence) = (log.eventsOf j).map (·.sequence) := by
  rw [Database.eventsOf, ← h.events, List.filter_map, List.map_map]
  rfl

/-- **The event log of every job is in order.** However the statements of the transactions
interleave and whichever of them roll back, the committed events of a job have the numbers
from one to its `event_sequence`, each once, in the order of the commits and of their ids.
So do the events of a job in every state of the job system. -/
theorem events_sequenced (settings : Settings) :
    (∀ log : EventLog, eventLog.Reachable log → ∀ j n, log.eventSequence j = some n →
        (log.eventsOf j).map (·.sequence) = List.range' 1 n ∧
          (log.eventsOf j).Pairwise (·.id < ·.id)) ∧
      ∀ s, (machine settings).Reachable s → ∀ (j : ℕ) (job : Job), s.db.jobs[j]? = some job →
        (s.db.eventsOf j).map (·.sequence) = List.range' 1 job.eventSequence := by
  constructor
  · intro log hlog j n hcount
    have hnumbered := numbered_of_reachable hlog j
    rw [show log.counters j = some n from hcount] at hnumbered
    exact hnumbered
  · intro s hs j job hjob
    obtain ⟨log, hlog, hrepresents⟩ := log_of_reachable hs
    have hcount : log.counters j = some job.eventSequence := by
      have hsequences := hrepresents.sequences j
      rwa [hjob] at hsequences
    have hnumbered := numbered_of_reachable hlog j
    rw [hcount] at hnumbered
    rw [eventsOf_of_represents hrepresents j]
    exact hnumbered.1

/-- An event of the job that is created first. -/
def sampleEvent (messageCode : String) : JobEvent where
  jobId := 0
  sequence := 0
  eventType := .jobCreated
  status := .outboxPending
  step := none
  progress := 0
  messageCode
  message := messageCode
  attempt := 0
  workerId := none
  workflowEventId := none

/-- Transaction 2 rolls back what it wrote before transaction 3 finds the counter free;
transaction 4 commits events of another job in between. -/
def interleavedWriters : List (ℕ × Statement ℕ JobEvent) :=
  [(1, .create 0)] ++ EventLog.addOrdered 1 (sampleEvent "job.created") ++ [(1, .commit)] ++
    EventLog.addOrdered 2 (sampleEvent "job.leased") ++ [(4, .create 1), (2, .rollback),
      (3, .allocate 0), (4, .allocate 1), (4, .insert (sampleEvent "job.created")),
      (3, .insert (sampleEvent "job.queued")), (3, .commit), (4, .commit)]

/-- The number that was rolled back is given again. -/
theorem events_sequenced_interleaved :
    ∃ log : EventLog, eventLog.Reachable log ∧
      (log.eventsOf 0).map (·.sequence) = [1, 2] ∧ (log.eventsOf 0).map (·.id) = [0, 3] := by
  obtain ⟨log, hlog, hcount, hids⟩ := eventLog.exists_reachable interleavedWriters
    (fun log => EventLog.eventSequence log 0 = some 2 ∧
      (EventLog.eventsOf log 0).map (·.id) = [0, 3]) (s := .idle (fun _ => none) [] 0) rfl
      (by decide)
  exact ⟨log, hlog, ((events_sequenced Settings.defaults).1 log hlog 0 2 hcount).1, hids⟩

end JobSystem

end StoryForge
