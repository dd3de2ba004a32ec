import StoryForge.Jobs.Coverage
import StoryForge.Jobs.EventLog

/-!
# Following the events of a job

`stream_job_events` replays the events of a job after a cursor and follows them until the
job is terminal: read at most 500 events after the cursor, yield them one by one, read the
status of the job, and start over unless it is terminal. Every read is a transaction of its
own, and any number of other transactions commit in between. The wait for a notification
between two rounds only delays the next read.

Ids of events are positions in the table, from one on. By `events_sequenced` the events of
a job are committed in the order of their ids.

## Main results

* `StreamSystem.follows_of_reachable` — what a stream has yielded is the beginning of what
  lies after its cursor, each event once and in order;
* `StreamSystem.stream_complete` — a stream that ends with the job has yielded everything
  up to the terminal status, when it read the events after that status was committed and
  found no more than one batch;
* `StreamSystem.stream_complete_fails` — a stream that reads the events before the job ends
  and the status afterwards misses the last events.
-/

namespace StoryForge

/-! ### Events after a cursor -/

namespace JobEventRepository

/-- The events of a job with an id above `afterId`, with their ids and in their order. -/
def eventsAfter (db : Database) (jobId : ℕ) (afterId : Option ℕ) : List (JobEvent × ℕ) :=
  (db.jobEvents.zipIdx 1).filter fun row => row.1.jobId = jobId ∧ afterId.all (· < row.2)

/-- `list_after`. -/
def listAfter (db : Database) (jobId : ℕ) (afterId : Option ℕ) (limit : ℕ) :
    List (JobEvent × ℕ) :=
  (eventsAfter db jobId afterId).take limit

variable {db db' : Database} {j c : ℕ} {afterId : Option ℕ} {x : JobEvent × ℕ}
  {es rest : List (JobEvent × ℕ)}

/-- Ids increase along the list. -/
theorem pairwise_eventsAfter (db : Database) (j : ℕ) (afterId : Option ℕ) :
    (eventsAfter db j afterId).Pairwise (·.2 < ·.2) := by
  refine List.Pairwise.filter _ ?_
  have hids : ((db.jobEvents.zipIdx 1).map (·.2)).Pairwise (· < ·) := by
    rw [List.zipIdx_map_snd]
    exact List.pairwise_lt_range'
  rwa [List.pairwise_map] at hids

theorem mem_eventsAfter :
    x ∈ eventsAfter db j afterId ↔
      x ∈ db.jobEvents.zipIdx 1 ∧ x.1.jobId = j ∧ afterId.all (· < x.2) := by
  simp [eventsAfter]

/-- Events that are appended come after those that are there. -/
theorem eventsAfter_append (h : db.jobEvents <+: db'.jobEvents) (j : ℕ)
    (afterId : Option ℕ) :
    ∃ new, eventsAfter db' j afterId = eventsAfter db j afterId ++ new ∧
      ∀ x ∈ new, db.jobEvents.length < x.2 := by
  obtain ⟨events, hevents⟩ := h
  refine ⟨_, by rw [eventsAfter, ← hevents, List.zipIdx_append, List.filter_append]; rfl, ?_⟩
  intro x hx
  obtain ⟨hle, -⟩ := List.mem_zipIdx (List.mem_filter.mp hx).1
  omega

/-- An event is read by everyone who reads after it was committed. -/
theorem id_le_length (h : x ∈ eventsAfter db j afterId) : x.2 ≤ db.jobEvents.length := by
  obtain ⟨-, hlt, -⟩ := List.mem_zipIdx (mem_eventsAfter.mp h).1
  omega

/-- A later cursor leaves out what lies before it. -/
theorem eventsAfter_filter (hc : afterId.all (· < c)) :
    eventsAfter db j (some c) = (eventsAfter db j afterId).filter (c < ·.2) := by
  rw [eventsAfter, eventsAfter, List.filter_filter]
  refine List.filter_congr fun row _ => ?_
  rw [Bool.eq_iff_iff]
  simp only [decide_eq_true_eq, Bool.and_eq_true, Option.all_some]
  constructor
  · rintro ⟨hj, hlt⟩
    refine ⟨hlt, hj, ?_⟩
    cases afterId with
    | none => rfl
    | some a =>
        simp only [Option.all_some, decide_eq_true_eq] at hc ⊢
        omega
  · rintro ⟨hlt, hj, -⟩
    exact ⟨hj, hlt⟩

/-- The cursor after a reader has yielded `es`. -/
def cursorAfter (afterId : Option ℕ) (es : List (JobEvent × ℕ)) : Option ℕ :=
  (es.getLast?.map (·.2)).or afterId

/-- **Resuming at the last id yielded** neither repeats nor skips an event. -/
theorem eventsAfter_cursorAfter (h : eventsAfter db j afterId = es ++ rest) :
    eventsAfter db j (cursorAfter afterId es) = rest := by
  rcases List.eq_nil_or_concat es with rfl | ⟨before, last, rfl⟩
  · simpa [cursorAfter] using h
  have hlast : last ∈ eventsAfter db j afterId := by
    rw [h]
    simp
  have hsorted := pairwise_eventsAfter db j afterId
  have hcursor : cursorAfter afterId (before.concat last) = some last.2 := by
    simp [cursorAfter]
  rw [hcursor, eventsAfter_filter (mem_eventsAfter.mp hlast).2.2, h, List.concat_eq_append,
    List.filter_append, List.filter_append]
  rw [h, List.concat_eq_append, List.append_assoc, List.pairwise_append] at hsorted
  obtain ⟨-, hrest, hbefore⟩ := hsorted
  have hnone : before.filter (last.2 < ·.2) = [] := by
    rw [List.filter_eq_nil_iff]
    intro x hx
    have hlt := hbefore x hx last (by simp)
    simp only [decide_eq_true_eq]
    omega
  have hall : rest.filter (last.2 < ·.2) = rest := by
    rw [List.filter_eq_self]
    intro x hx
    simpa using (List.pairwise_cons.mp hrest).1 x hx
  rw [hnone, hall]
  simp

end JobEventRepository

/-! ### The stream -/

/-- Where the loop of a stream stands. `following batch` yields what is left of a batch and
then reads the status of the job. -/
inductive StreamPhase
  | reading
  | following (batch : List (JobEvent × ℕ))
  | ended
  | disconnected
  deriving DecidableEq, Repr

/-- A call of `stream_job_events`: the job, the header it was opened with, the cursor of the
loop and what was yielded. -/
structure EventStream where
  jobId : ℕ
  lastEventId : Option ℕ
  cursor : Option ℕ
  emitted : List (JobEvent × ℕ)
  phase : StreamPhase
  deriving DecidableEq, Repr

/-- The number of events `list_after` returns at most. -/
def eventBatchLimit : ℕ := 500

/-- The job system with a reader. -/
structure StreamSystem where
  jobs : JobSystem
  stream : Option EventStream

/-- The steps of the stream, between transactions of the job system. The client may go away
at any time. -/
inductive StreamAction
  | system (action : Action)
  | connect (jobId : ℕ) (lastEventId : Option ℕ)
  | readEvents
  | emit
  | readStatus
  | disconnect
  deriving DecidableEq, Repr

namespace EventStream

/-- `events_after`. -/
def readEvents (db : Database) (stream : EventStream) : Option EventStream :=
  if stream.phase = .reading then
    some { stream with
      phase := .following
        (JobEventRepository.listAfter db stream.jobId stream.cursor eventBatchLimit) }
  else none

/-- Move the cursor to the next event of the batch, and yield it. -/
def emit (stream : EventStream) : Option EventStream :=
  match stream.phase with
  | .following (row :: batch) =>
      some { stream with
        cursor := some row.2
        emitted := stream.emitted ++ [row]
        phase := .following batch }
  | _ => none

/-- The status after a batch: the stream ends with the job. -/
def readStatus (db : Database) (stream : EventStream) : Option EventStream :=
  if stream.phase = .following [] then
    db.jobs[stream.jobId]?.map fun job =>
      { stream with
        phase := if job.status ∈ terminalJobStatuses then .ended else .reading }
  else none

/-- The client is gone. -/
def disconnect (stream : EventStream) : Option EventStream :=
  if stream.phase = .ended then none else some { stream with phase := .disconnected }

end EventStream

namespace StreamSystem

/-- The effect of a step. -/
def next (settings : Settings) (s : StreamSystem) : StreamAction → Option StreamSystem
  | .system action => (s.jobs.next settings action).map fun jobs => { s with jobs }
  | .connect jobId lastEventId =>
      if s.stream = none ∧ s.jobs.db.jobs[jobId]?.isSome then
        some { s with stream := some ⟨jobId, lastEventId, lastEventId, [], .reading⟩ }
      else none
  | .readEvents =>
      (s.stream.bind (·.readEvents s.jobs.db)).map fun stream => { s with stream := some stream }
  | .emit => (s.stream.bind (·.emit)).map fun stream => { s with stream := some stream }
  | .readStatus =>
      (s.stream.bind (·.readStatus s.jobs.db)).map fun stream => { s with stream := some stream }
  | .disconnect => (s.stream.bind (·.disconnect)).map fun stream => { s with stream := some stream }

/-- When things happened, counted in committed events: for every job, how many there were
when its status last changed; how many there were at the last read of the stream, and how
many of them lay after its cursor; and `closed` of the job when the stream ended with it. -/
structure History where
  closed : ℕ → ℕ
  seen : ℕ
  backlog : ℕ
  final : ℕ

/-- The status of a job. -/
def statusOf (s : StreamSystem) (j : ℕ) : Option JobStatus := s.jobs.db.jobs[j]?.map (·.status)

/-- Update the history. -/
def record (h : History) (s : StreamSystem) (a : StreamAction) (s' : StreamSystem) : History :=
  match a with
  | .system _ =>
      { h with closed := fun j =>
          if s'.statusOf j = s.statusOf j then h.closed j else s'.jobs.db.jobEvents.length }
  | .readEvents =>
      { h with
        seen := s.jobs.db.jobEvents.length
        backlog := (s.stream.map fun stream => (JobEventRepository.eventsAfter s.jobs.db
          stream.jobId stream.cursor).length).getD 0 }
  | .readStatus => { h with final := (s.stream.map fun stream => h.closed stream.jobId).getD 0 }
  | _ => h

/-- The machine: a job system from its start, and a stream that may be opened at any time. -/
def machine (settings : Settings) : Machine (StreamSystem × History) StreamAction :=
  Machine.withHistory
    { init := fun s => (JobSystem.machine settings).init s.jobs ∧ s.stream = none
      next := next settings }
    (fun _ => ⟨fun _ => 0, 0, 0, 0⟩) record

theorem machine_init_empty (settings : Settings) :
    (machine settings).init (⟨.empty, none⟩, ⟨fun _ => 0, 0, 0, 0⟩) :=
  ⟨⟨JobSystem.machine_init_empty settings, rfl⟩, rfl⟩

/-- A stream does not end on a status that was committed after it last read the events, nor
on a read that did not return them all. -/
def StreamSafe (p : StreamSystem × History) (a : StreamAction) : Prop :=
  match a with
  | .readStatus => ∀ stream ∈ p.1.stream, ∀ job ∈ p.1.jobs.db.jobs[stream.jobId]?,
      job.status ∈ terminalJobStatuses →
        p.2.closed stream.jobId ≤ p.2.seen ∧ p.2.backlog ≤ eventBatchLimit
  | _ => True

instance (p : StreamSystem × History) (a : StreamAction) : Decidable (StreamSafe p a) := by
  unfold StreamSafe; split <;> infer_instance

/-! ### What a stream has yielded -/

end StreamSystem

/-- What a stream has read and not yet yielded. -/
def EventStream.batch (stream : EventStream) : List (JobEvent × ℕ) :=
  match stream.phase with
  | .following batch => batch
  | _ => []

/-- Reading the status ends a batch: with the job, or for another round. -/
theorem EventStream.readStatus_cases {db : Database} {stream stream' : EventStream}
    (h : stream.readStatus db = some stream') :
    stream.phase = .following [] ∧ ∃ job ∈ db.jobs[stream.jobId]?,
      job.status ∈ terminalJobStatuses ∧ stream' = { stream with phase := .ended } ∨
        stream' = { stream with phase := .reading } := by
  unfold readStatus at h
  split at h
  swap
  · exact absurd h (by simp)
  rename_i hphase
  obtain ⟨job, hjob, rfl⟩ := Option.map_eq_some_iff.mp h
  refine ⟨hphase, job, hjob, ?_⟩
  split
  · rename_i hterminal
    exact .inl ⟨hterminal, rfl⟩
  · exact .inr rfl

namespace StreamSystem

open JobEventRepository

variable {settings : Settings} {p p' : StreamSystem × History} {stream stream' : EventStream}
  {db : Database} {history : History}

/-- What a stream has yielded and read is the beginning of what lies after its header; it is
all that was there at the last read, if one batch was enough; and when the stream ended, all
that was there at the terminal status. -/
structure Replays (db : Database) (history : History) (stream : EventStream) : Prop where
  replayed : ∃ rest, eventsAfter db stream.jobId stream.lastEventId =
    stream.emitted ++ stream.batch ++ rest
  cursor : stream.cursor = cursorAfter stream.lastEventId stream.emitted
  following : ∀ batch, stream.phase = .following batch → history.backlog ≤ eventBatchLimit →
    ∀ x ∈ eventsAfter db stream.jobId stream.lastEventId, x.2 ≤ history.seen →
      x ∈ stream.emitted ++ batch
  ended : stream.phase = .ended →
    ∀ x ∈ eventsAfter db stream.jobId stream.lastEventId, x.2 ≤ history.final →
      x ∈ stream.emitted

/-- The history counts committed events, and the stream is where it should be. -/
structure Follows (p : StreamSystem × History) : Prop where
  closed : ∀ j, p.2.closed j ≤ p.1.jobs.db.jobEvents.length
  seen : p.2.seen ≤ p.1.jobs.db.jobEvents.length
  final : p.2.final ≤ p.1.jobs.db.jobEvents.length
  replays : ∀ stream ∈ p.1.stream, Replays p.1.jobs.db p.2 stream

namespace Replays

/-- Events committed meanwhile lie behind everything read. -/
theorem append {db' : Database} {history' : History} (h : Replays db history stream)
    (hevents : db.jobEvents <+: db'.jobEvents) (hseen : history.seen ≤ db.jobEvents.length)
    (hfinal : history.final ≤ db.jobEvents.length) (hbacklog : history'.backlog = history.backlog)
    (hseen' : history'.seen = history.seen) (hfinal' : history'.final = history.final) :
    Replays db' history' stream := by
  obtain ⟨new, hnew, hids⟩ := eventsAfter_append hevents stream.jobId stream.lastEventId
  obtain ⟨rest, hrest⟩ := h.replayed
  have hold {x : JobEvent × ℕ} {n : ℕ}
      (hx : x ∈ eventsAfter db' stream.jobId stream.lastEventId) (hxn : x.2 ≤ n)
      (hn : n ≤ db.jobEvents.length) : x ∈ eventsAfter db stream.jobId stream.lastEventId := by
    rw [hnew, List.mem_append] at hx
    refine hx.resolve_right fun hlate => ?_
    have := hids x hlate
    omega
  refine ⟨⟨rest ++ new, by rw [hnew, hrest, List.append_assoc]⟩, h.cursor, ?_, ?_⟩
  · rw [hbacklog, hseen']
    intro batch hphase hlimit x hx hle
    exact h.following batch hphase hlimit x (hold hx hle hseen) hle
  · rw [hfinal']
    intro hphase x hx hle
    exact h.ended hphase x (hold hx hle hfinal) hle

/-- A new stream has yielded nothing. -/
theorem connect (db : Database) (history : History) (jobId : ℕ) (lastEventId : Option ℕ) :
    Replays db history ⟨jobId, lastEventId, lastEventId, [], .reading⟩ :=
  ⟨⟨_, rfl⟩, rfl, by simp, by simp⟩

/-- A read returns what lies after everything yielded, up to its limit. -/
theorem readEvents {history' : History} (h : Replays db history stream)
    (hread : stream.readEvents db = some stream')
    (hbacklog : history'.backlog = (eventsAfter db stream.jobId stream.cursor).length) :
    Replays db history' stream' := by
  unfold EventStream.readEvents at hread
  split at hread
  swap
  · exact absurd hread (by simp)
  rename_i hphase
  obtain rfl := Option.some.inj hread
  obtain ⟨rest, hrest⟩ := h.replayed
  have hbatch : stream.batch = [] := by simp [EventStream.batch, hphase]
  rw [hbatch, List.append_nil] at hrest
  have hafter : eventsAfter db stream.jobId stream.cursor = rest := by
    rw [h.cursor]
    exact eventsAfter_cursorAfter hrest
  rw [hafter] at hbacklog
  refine ⟨⟨rest.drop eventBatchLimit, ?_⟩, h.cursor, ?_, by simp⟩
  · simp only [EventStream.batch, listAfter]
    rw [hafter, List.append_assoc, List.take_append_drop]
    exact hrest
  · intro batch hfollowing hlimit x hx _
    obtain rfl := StreamPhase.following.inj hfollowing
    rw [hbacklog] at hlimit
    rw [listAfter, hafter, List.take_of_length_le hlimit, ← hrest]
    exact hx

/-- Yielding an event moves it and the cursor. -/
theorem emit (h : Replays db history stream) (hemit : stream.emit = some stream') :
    Replays db history stream' := by
  unfold EventStream.emit at hemit
  split at hemit
  swap
  · exact absurd hemit (by simp)
  rename_i row batch hphase
  obtain rfl := Option.some.inj hemit
  obtain ⟨rest, hrest⟩ := h.replayed
  refine ⟨⟨rest, ?_⟩, by simp [cursorAfter], ?_, by simp⟩
  · simp only [EventStream.batch, hphase] at hrest ⊢
    rw [hrest]
    simp
  · intro left hfollowing hlimit x hx hle
    obtain rfl := StreamPhase.following.inj hfollowing
    have hmem := h.following _ hphase hlimit x hx hle
    simpa using hmem

/-- After a batch the stream starts over, or it ends having yielded all it had read. -/
theorem readStatus {history' : History} (h : Replays db history stream)
    (hread : stream.readStatus db = some stream')
    (hsafe : ∀ job ∈ db.jobs[stream.jobId]?, job.status ∈ terminalJobStatuses →
      history'.final ≤ history.seen ∧ history.backlog ≤ eventBatchLimit) :
    Replays db history' stream' := by
  obtain ⟨hphase, job, hjob, hcases⟩ := EventStream.readStatus_cases hread
  obtain ⟨rest, hrest⟩ := h.replayed
  simp only [EventStream.batch, hphase] at hrest
  rcases hcases with ⟨hterminal, rfl⟩ | rfl
  · refine ⟨⟨rest, hrest⟩, h.cursor, by simp, fun _ x hx hle => ?_⟩
    obtain ⟨hfinal, hlimit⟩ := hsafe job hjob hterminal
    have hmem := h.following [] hphase hlimit x hx (Nat.le_trans hle hfinal)
    rwa [List.append_nil] at hmem
  · exact ⟨⟨rest, hrest⟩, h.cursor, by simp, by simp⟩

/-- A stream whose client is gone has yielded what it had. -/
theorem disconnect (h : Replays db history stream)
    (hgone : stream.disconnect = some stream') : Replays db history stream' := by
  unfold EventStream.disconnect at hgone
  split at hgone
  · exact absurd hgone (by simp)
  obtain rfl := Option.some.inj hgone
  obtain ⟨rest, hrest⟩ := h.replayed
  refine ⟨⟨stream.batch ++ rest, ?_⟩, h.cursor, by simp, by simp⟩
  simpa [EventStream.batch] using hrest

end Replays

/-- **One step keeps the stream where it should be.** -/
theorem follows_next {a : StreamAction} (h : Follows p) (hsafe : StreamSafe p a)
    (hnext : (machine settings).next p a = some p') : Follows p' := by
  obtain ⟨hstep, hrecord⟩ := Machine.withHistory_next.mp hnext
  obtain ⟨s', history'⟩ := p'
  dsimp only at hstep hrecord
  subst hrecord
  cases a with
  | system action =>
      obtain ⟨jobs, hjobs, rfl⟩ := Option.map_eq_some_iff.mp hstep
      have hevents := (JobSystem.next_appends hjobs).events_extend
      have hlength := hevents.length_le
      refine ⟨fun j => ?_, Nat.le_trans h.seen hlength, Nat.le_trans h.final hlength,
        fun stream hstream => (h.replays stream hstream).append hevents h.seen h.final rfl rfl rfl⟩
      simp only [record]
      split
      · exact Nat.le_trans (h.closed j) hlength
      · exact Nat.le_refl _
  | connect jobId lastEventId =>
      simp only [next] at hstep
      split at hstep
      swap
      · exact absurd hstep (by simp)
      obtain rfl := Option.some.inj hstep
      refine ⟨h.closed, h.seen, h.final, fun stream hstream => ?_⟩
      obtain rfl := Option.some.inj hstream
      exact .connect _ _ _ _
  | readEvents =>
      obtain ⟨stream', hread, rfl⟩ := Option.map_eq_some_iff.mp hstep
      obtain ⟨stream, hstream, hread⟩ := Option.bind_eq_some_iff.mp hread
      refine ⟨h.closed, Nat.le_refl _, h.final, fun stream₁ hstream₁ => ?_⟩
      obtain rfl := Option.some.inj hstream₁
      refine (h.replays stream hstream).readEvents hread ?_
      simp only [record, hstream, Option.map_some, Option.getD_some]
  | emit =>
      obtain ⟨stream', hemit, rfl⟩ := Option.map_eq_some_iff.mp hstep
      obtain ⟨stream, hstream, hemit⟩ := Option.bind_eq_some_iff.mp hemit
      refine ⟨h.closed, h.seen, h.final, fun stream₁ hstream₁ => ?_⟩
      obtain rfl := Option.some.inj hstream₁
      exact (h.replays stream hstream).emit hemit
  | readStatus =>
      obtain ⟨stream', hread, rfl⟩ := Option.map_eq_some_iff.mp hstep
      obtain ⟨stream, hstream, hread⟩ := Option.bind_eq_some_iff.mp hread
      have hfinal : (record p.2 p.1 .readStatus
          { p.1 with stream := some stream' }).final = p.2.closed stream.jobId := by
        simp only [record, hstream, Option.map_some, Option.getD_some]
      refine ⟨h.closed, h.seen, by rw [hfinal]; exact h.closed _, fun stream₁ hstream₁ => ?_⟩
      obtain rfl := Option.some.inj hstream₁
      refine (h.replays stream hstream).readStatus hread ?_
      rw [hfinal]
      exact hsafe stream hstream
  | disconnect =>
      obtain ⟨stream', hgone, rfl⟩ := Option.map_eq_some_iff.mp hstep
      obtain ⟨stream, hstream, hgone⟩ := Option.bind_eq_some_iff.mp hgone
      refine ⟨h.closed, h.seen, h.final, fun stream₁ hstream₁ => ?_⟩
      obtain rfl := Option.some.inj hstream₁
      exact (h.replays stream hstream).disconnect hgone

/-- Under the condition, a stream is where it should be. -/
theorem follows_of_reachable (hp : (machine settings).ReachableUnder StreamSafe p) :
    Follows p := by
  refine hp.invariant (I := Follows) (fun p hinit => ?_)
    fun p a p' _ h hsafe hnext => follows_next h hsafe hnext
  obtain ⟨⟨-, hstream⟩, hhistory⟩ := hinit
  obtain ⟨s, history⟩ := p
  dsimp only at hstream hhistory
  subst hhistory
  exact ⟨fun _ => Nat.zero_le _, Nat.zero_le _, Nat.zero_le _, by simp [hstream]⟩

/-- **Streams are complete.** In every run in which no stream ends on a status committed
after its last read of the events, nor on a read of more than a batch: a stream that ended
with the job has yielded the events of the job after its header, in the order of their ids
and each once, and all of them up to the terminal status. -/
theorem stream_complete (hp : (machine settings).ReachableUnder StreamSafe p)
    (hstream : p.1.stream = some stream) (hended : stream.phase = .ended) :
    stream.emitted <+: eventsAfter p.1.jobs.db stream.jobId stream.lastEventId ∧
      stream.emitted.Pairwise (·.2 < ·.2) ∧
      ∀ x ∈ eventsAfter p.1.jobs.db stream.jobId stream.lastEventId,
        x.2 ≤ p.2.final → x ∈ stream.emitted := by
  have h := (follows_of_reachable hp).replays stream hstream
  obtain ⟨rest, hrest⟩ := h.replayed
  have hbegins : stream.emitted <+: eventsAfter p.1.jobs.db stream.jobId stream.lastEventId := by
    rw [hrest, List.append_assoc]
    exact List.prefix_append _ _
  exact ⟨hbegins, (pairwise_eventsAfter _ _ _).sublist hbegins.sublist, h.ended hended⟩

/-! ### A job that ends between the two reads -/

/-- A job is created and followed from the start; it runs and succeeds after the stream has
read its events. -/
def endedBetween : List StreamAction :=
  [.system (.create JobSystem.sampleRequest 0), .connect 0 none, .readEvents, .emit,
    .system (.claim 0 "w" 1), .system (.finish 0 (.returned "{}") 2), .readStatus]

/-- The same, with one more round before the status is read. -/
def endedBefore : List StreamAction :=
  [.system (.create JobSystem.sampleRequest 0), .connect 0 none,
    .system (.claim 0 "w" 1), .system (.finish 0 (.returned "{}") 2), .readEvents, .emit, .emit,
    .emit, .emit, .readStatus]

/-- The stream ends without the events that its job ended with. -/
theorem stream_complete_fails :
    ¬ ∀ p, (machine Settings.defaults).Reachable p → ∀ stream, p.1.stream = some stream →
      stream.phase = .ended →
      ∀ x ∈ eventsAfter p.1.jobs.db stream.jobId stream.lastEventId,
        x.2 ≤ p.2.final → x ∈ stream.emitted := by
  intro h
  obtain ⟨p, hp, stream, hstream, hended, hmissed⟩ :=
    (machine Settings.defaults).exists_reachable endedBetween
      (fun p => ∃ stream ∈ p.1.stream, stream.phase = .ended ∧
        ∃ x ∈ eventsAfter p.1.jobs.db stream.jobId stream.lastEventId,
          x.2 ≤ p.2.final ∧ x ∉ stream.emitted)
      (machine_init_empty _) (by decide)
  obtain ⟨x, hx, hle, hnot⟩ := hmissed
  exact hnot (h p hp stream hstream hended x hx hle)

/-- The other stream has yielded all four events. -/
theorem stream_complete_endedBefore :
    ∃ p, (machine Settings.defaults).ReachableUnder StreamSafe p ∧
      ∃ stream ∈ p.1.stream, ∃ x ∈ stream.emitted, x.2 = 4 := by
  obtain ⟨p, hp, stream, hstream, hended, x, hx, hle, hid⟩ :=
    (machine Settings.defaults).exists_reachableUnder StreamSafe endedBefore
      (fun p => ∃ stream ∈ p.1.stream, stream.phase = .ended ∧
        ∃ x ∈ eventsAfter p.1.jobs.db stream.jobId stream.lastEventId,
          x.2 ≤ p.2.final ∧ x.2 = 4)
      (machine_init_empty _) (by decide)
  exact ⟨p, hp, stream, hstream, x, (stream_complete hp hstream hended).2.2 x hx hle, hid⟩

end StreamSystem

end StoryForge
