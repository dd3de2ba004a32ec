import StoryForge.Jobs.EventStream
import StoryForge.Library.Json
import StoryForge.Library.ServerSentEvents

/-!
# Subscribing to the events of a job

The events that `stream_job_events` yields are sent as text, and a browser follows them: it
reads the text as it arrives and dispatches an event at its end. The connection can break at
any character, also in the middle of an event, and the stream can end; the browser then opens
another one, with the identifier of the last event it dispatched in the `Last-Event-ID`
header. The job system goes on all the time.

## Main results

* `sendable_frame` — the text of an event keeps the format of the stream;
* `SubscribedSystem.subscribed_next` — what every step keeps;
* `SubscribedSystem.dispatched_of_reachable` — over all its connections a subscriber gets the
  events of the job in their order, each once and none left out.
-/

namespace StoryForge

open ServerSentEvents

/-! ### The text of an event -/

/-- The stored form of a type. -/
def JobEventType.value : JobEventType → String
  | .jobCreated => "job_created"
  | .jobQueued => "job_queued"
  | .jobLeased => "job_leased"
  | .jobStarted => "job_started"
  | .progressUpdated => "progress_updated"
  | .workflowNodeStarted => "workflow_node_started"
  | .workflowNodeCompleted => "workflow_node_completed"
  | .retryScheduled => "retry_scheduled"
  | .pauseRequested => "pause_requested"
  | .jobPaused => "job_paused"
  | .resumeRequested => "resume_requested"
  | .cancelRequested => "cancel_requested"
  | .jobCancelled => "job_cancelled"
  | .jobSucceeded => "job_succeeded"
  | .jobFailed => "job_failed"
  | .jobDeadLettered => "job_dead_lettered"
  | .jobDiscarded => "job_discarded"

/-- `JobEventResponse`, with the identifier once more; `createdAt` is the time of an event. -/
def eventPayload (createdAt : ℕ → String) (row : JobEvent × ℕ) : Json :=
  .object
    [("id", .int row.2), ("job_id", .int row.1.jobId), ("sequence", .int row.1.sequence),
      ("event_type", .string row.1.eventType.value), ("status", .string row.1.status.value),
      ("step", .optional .string row.1.step), ("progress", .int row.1.progress),
      ("message_code", .string row.1.messageCode), ("message", .string row.1.message),
      ("attempt", .int row.1.attempt), ("worker_id", .optional .string row.1.workerId),
      ("workflow_event_id", .optional (fun id => .int id) row.1.workflowEventId),
      ("created_at", .string (createdAt row.2)), ("event_id", .int row.2)]

/-- The text of an identifier. -/
def eventIdText (id : ℕ) : List Char := Nat.toDigits 10 id

/-- What the stream sends of an event. -/
def frame (createdAt : ℕ → String) (row : JobEvent × ℕ) : Message where
  id := eventIdText row.2
  event := row.1.eventType.value.toList
  data := Json.write false (eventPayload createdAt row)

/-- The comment that keeps a connection open. -/
def heartbeat : Item := .comment " heartbeat".toList

/-- The `Last-Event-ID` header of a client that has dispatched an event. -/
def headerOf (lastId : List Char) : Option ℕ :=
  if lastId = [] then none else some (Nat.ofDigitChars 10 lastId 0)

/-- The identifier a client has after some events. -/
def lastIdText (events : List (JobEvent × ℕ)) : List Char :=
  (events.getLast?.map fun row => eventIdText row.2).getD []

theorem headerOf_eventIdText (id : ℕ) : headerOf (eventIdText id) = some id := by
  rw [headerOf, eventIdText, if_neg Nat.toDigits_ne_nil, Nat.ofDigitChars_ten_toDigits]

/-- The header names the last event. -/
theorem headerOf_lastIdText (events : List (JobEvent × ℕ)) :
    headerOf (lastIdText events) = JobEventRepository.cursorAfter none events := by
  rw [lastIdText, JobEventRepository.cursorAfter, Option.or_none]
  cases events.getLast? with
  | none => rfl
  | some row => exact headerOf_eventIdText row.2

/-- Characters from the blank on are on one line. -/
theorem onLine_of_le {line : List Char} (h : ∀ c ∈ line, 0x20 ≤ c.toNat) : OnLine line := by
  intro c hc
  have hle := h c hc
  constructor
  all_goals
    rintro rfl
    exact absurd hle (by decide)

theorem le_of_mem_eventIdText {id : ℕ} {c : Char} (h : c ∈ eventIdText id) : 0x20 ≤ c.toNat :=
  Json.le_of_isDigit (Nat.isDigit_of_mem_toDigits (by decide) (by decide) h)

theorem value_onLine (eventType : JobEventType) :
    eventType.value.toList ≠ [] ∧ OnLine eventType.value.toList := by
  have hall : eventType.value.toList.all (fun c => 0x20 ≤ c.toNat) = true := by
    cases eventType <;> decide
  refine ⟨?_, onLine_of_le fun c hc => by simpa using List.all_eq_true.mp hall c hc⟩
  cases eventType <;> simp [JobEventType.value]

/-- **An event keeps the format**: its identifier, its type and its data are on one line each. -/
theorem sendable_frame (createdAt : ℕ → String) (row : JobEvent × ℕ) :
    (Item.message (frame createdAt row)).Sendable := by
  obtain ⟨hne, honLine⟩ := value_onLine row.1.eventType
  refine ⟨onLine_of_le fun c hc => le_of_mem_eventIdText hc, fun hnull => ?_, honLine, hne,
    onLine_of_le fun c hc => Json.le_of_mem_write _ hc⟩
  exact absurd (le_of_mem_eventIdText hnull) (by decide)

theorem sendable_heartbeat : heartbeat.Sendable := by
  have hall : " heartbeat".toList.all (fun c => 0x20 ≤ c.toNat) = true := by decide
  exact onLine_of_le fun c hc => by simpa using List.all_eq_true.mp hall c hc

/-! ### The machine -/

/-- A connection: the stream behind it, what it has sent, and how many characters of that have
arrived. -/
structure Connection where
  stream : EventStream
  sent : List Item
  arrived : ℕ

/-- A browser that follows a job: the identifier and the events that its earlier connections
left it with. -/
structure Subscriber where
  jobId : ℕ
  lastId : List Char
  dispatched : List Message

/-- The job system with a subscriber. -/
structure SubscribedSystem where
  jobs : JobSystem
  subscriber : Subscriber
  connection : Option Connection

/-- The steps: transactions of the job system; a connection is opened, its stream reads, sends an
event or a comment, or looks at the status; characters arrive; the connection breaks. -/
inductive SubscriptionAction
  | system (action : Action)
  | connect
  | readEvents
  | emit
  | heartbeat
  | readStatus
  | arrive (characters : ℕ)
  | close
  deriving DecidableEq, Repr

namespace Connection

/-- What has arrived. -/
def received (connection : Connection) : List Char := (text connection.sent).take connection.arrived

/-- Send the next event of the batch. -/
def emit (createdAt : ℕ → String) (connection : Connection) : Option Connection :=
  connection.stream.emit.map fun stream =>
    { connection with
      stream := stream
      sent := connection.sent ++
        (stream.emitted.getLast?.map fun row => Item.message (frame createdAt row)).toList }

/-- Send a comment, between two rounds of the loop. -/
def heartbeat (connection : Connection) : Option Connection :=
  if connection.stream.phase = .reading then
    some { connection with sent := connection.sent ++ [StoryForge.heartbeat] }
  else none

/-- More characters arrive. -/
def arrive (characters : ℕ) (connection : Connection) : Option Connection :=
  if connection.arrived + characters ≤ (text connection.sent).length then
    some { connection with arrived := connection.arrived + characters }
  else none

end Connection

/-- What a client knows with a connection open. -/
def Subscriber.reader (subscriber : Subscriber) (connection : Connection) : Reader :=
  (Reader.between subscriber.lastId subscriber.dispatched).read connection.received

namespace SubscribedSystem

/-- Open a connection to a job that exists. -/
def connect (s : SubscribedSystem) : Option SubscribedSystem :=
  if s.connection.isNone ∧ s.jobs.db.jobs[s.subscriber.jobId]?.isSome then
    let header := headerOf s.subscriber.lastId
    some { s with
      connection := some ⟨⟨s.subscriber.jobId, header, header, [], .reading⟩, [], 0⟩ }
  else none

/-- The connection is gone; the client keeps what it has dispatched. -/
def close (s : SubscribedSystem) (connection : Connection) : SubscribedSystem :=
  let fields := (s.subscriber.reader connection).fields
  { s with
    subscriber := { s.subscriber with lastId := fields.lastId, dispatched := fields.dispatched }
    connection := none }

/-- The effect of a step. -/
def next (settings : Settings) (createdAt : ℕ → String) (s : SubscribedSystem) :
    SubscriptionAction → Option SubscribedSystem
  | .system action => (s.jobs.next settings action).map fun jobs => { s with jobs }
  | .connect => s.connect
  | .readEvents =>
      s.connection.bind fun connection =>
        (connection.stream.readEvents s.jobs.db).map fun stream =>
          { s with connection := some { connection with stream } }
  | .emit => (s.connection.bind (·.emit createdAt)).map fun c => { s with connection := some c }
  | .heartbeat => (s.connection.bind (·.heartbeat)).map fun c => { s with connection := some c }
  | .readStatus =>
      s.connection.bind fun connection =>
        (connection.stream.readStatus s.jobs.db).map fun stream =>
          { s with connection := some { connection with stream } }
  | .arrive characters =>
      (s.connection.bind (·.arrive characters)).map fun c => { s with connection := some c }
  | .close => s.connection.map s.close

/-- The machine: a job system from its start, and a subscriber to a job that has got nothing. -/
def machine (settings : Settings) (createdAt : ℕ → String) :
    Machine SubscribedSystem SubscriptionAction where
  init s := (JobSystem.machine settings).init s.jobs ∧ s.subscriber.lastId = [] ∧
    s.subscriber.dispatched = [] ∧ s.connection = none
  next := next settings createdAt

/-- The events a subscriber has dispatched. -/
def dispatched (s : SubscribedSystem) : List Message :=
  match s.connection with
  | none => s.subscriber.dispatched
  | some connection => (s.subscriber.reader connection).fields.dispatched

/-! ### What a connection has sent -/

variable {settings : Settings} {createdAt : ℕ → String} {db db' : Database} {lastId : List Char}
  {connection connection' : Connection} {stream : EventStream} {j : ℕ}

open JobEventRepository

/-- A connection resumes after the last identifier: what its stream has yielded and read is the
beginning of what lies after that, and what it has sent are the events yielded. -/
structure Resumes (createdAt : ℕ → String) (db : Database) (j : ℕ) (lastId : List Char)
    (connection : Connection) : Prop where
  jobId : connection.stream.jobId = j
  replayed : ∃ rest, eventsAfter db j (headerOf lastId) =
    connection.stream.emitted ++ connection.stream.batch ++ rest
  cursor : connection.stream.cursor = cursorAfter (headerOf lastId) connection.stream.emitted
  sendable : ∀ item ∈ connection.sent, item.Sendable
  messages : messages connection.sent = connection.stream.emitted.map (frame createdAt)

namespace Resumes

/-- Events committed meanwhile lie behind everything read. -/
theorem append (h : Resumes createdAt db j lastId connection)
    (hevents : db.jobEvents <+: db'.jobEvents) : Resumes createdAt db' j lastId connection := by
  obtain ⟨rest, hrest⟩ := h.replayed
  obtain ⟨new, hnew, -⟩ := eventsAfter_append hevents j (headerOf lastId)
  exact { h with replayed := ⟨rest ++ new, by rw [hnew, hrest, List.append_assoc]⟩ }

/-- A new connection has sent nothing. -/
theorem connect (createdAt : ℕ → String) (db : Database) (j : ℕ) (lastId : List Char) :
    Resumes createdAt db j lastId
      ⟨⟨j, headerOf lastId, headerOf lastId, [], .reading⟩, [], 0⟩ :=
  ⟨rfl, ⟨_, rfl⟩, rfl, by simp, rfl⟩

/-- What lies after the cursor. -/
theorem eventsAfter_cursor (h : Resumes createdAt db j lastId connection)
    (hbatch : connection.stream.batch = []) :
    eventsAfter db j (headerOf lastId) =
      connection.stream.emitted ++ eventsAfter db j connection.stream.cursor := by
  obtain ⟨rest, hrest⟩ := h.replayed
  rw [hbatch, List.append_nil] at hrest
  rw [h.cursor, eventsAfter_cursorAfter hrest, hrest]

/-- A read returns what lies after everything yielded, up to its limit. -/
theorem readEvents (h : Resumes createdAt db j lastId connection)
    (hread : connection.stream.readEvents db = some stream) :
    Resumes createdAt db j lastId { connection with stream } := by
  unfold EventStream.readEvents at hread
  split at hread
  case isFalse => exact absurd hread (by simp)
  case isTrue hphase =>
      obtain rfl := Option.some.inj hread
      have hafter := h.eventsAfter_cursor (by simp [EventStream.batch, hphase])
      refine { h with replayed := ⟨(eventsAfter db j connection.stream.cursor).drop
        eventBatchLimit, ?_⟩ }
      simp only [EventStream.batch, listAfter, h.jobId]
      rw [List.append_assoc, List.take_append_drop, hafter]

/-- Looking at the status changes neither what was yielded nor what is left. -/
theorem readStatus (h : Resumes createdAt db j lastId connection)
    (hread : connection.stream.readStatus db = some stream) :
    Resumes createdAt db j lastId { connection with stream } := by
  obtain ⟨hphase, job, -, hcases⟩ := EventStream.readStatus_cases hread
  obtain ⟨rest, hrest⟩ := h.replayed
  rw [show connection.stream.batch = [] by simp [EventStream.batch, hphase]] at hrest
  rcases hcases with ⟨-, rfl⟩ | rfl
  · exact { h with replayed := ⟨rest, hrest⟩ }
  · exact { h with replayed := ⟨rest, hrest⟩ }

/-- Sending an event moves it from the batch to what was yielded. -/
theorem emit (h : Resumes createdAt db j lastId connection)
    (hemit : connection.emit createdAt = some connection') :
    Resumes createdAt db j lastId connection' := by
  obtain ⟨stream, hstream, rfl⟩ := Option.map_eq_some_iff.mp hemit
  unfold EventStream.emit at hstream
  split at hstream
  case h_2 => exact absurd hstream (by simp)
  case h_1 row batch hphase =>
      obtain rfl := Option.some.inj hstream
      obtain ⟨rest, hrest⟩ := h.replayed
      rw [show connection.stream.batch = row :: batch by
        simp [EventStream.batch, hphase]] at hrest
      refine ⟨h.jobId, ⟨rest, ?_⟩, by simp [cursorAfter], ?_, ?_⟩
      · rw [hrest]
        simp [EventStream.batch]
      · have hframe := sendable_frame createdAt row
        exact List.forall_mem_append.mpr ⟨h.sendable, by simpa using hframe⟩
      · rw [messages_append, h.messages, List.map_append]
        simp [ServerSentEvents.messages]

/-- A comment is no event. -/
theorem heartbeat (h : Resumes createdAt db j lastId connection)
    (hbeat : connection.heartbeat = some connection') :
    Resumes createdAt db j lastId connection' := by
  unfold Connection.heartbeat at hbeat
  split at hbeat
  case isFalse => exact absurd hbeat (by simp)
  case isTrue =>
      obtain rfl := Option.some.inj hbeat
      refine { h with sendable := ?_, messages := ?_ }
      · exact List.forall_mem_append.mpr ⟨h.sendable, by simpa using sendable_heartbeat⟩
      · rw [messages_append, h.messages]
        simp [ServerSentEvents.messages, StoryForge.heartbeat]

/-- Neither is what arrives of it. -/
theorem arrive {characters : ℕ} (h : Resumes createdAt db j lastId connection)
    (harrive : connection.arrive characters = some connection') :
    Resumes createdAt db j lastId connection' := by
  unfold Connection.arrive at harrive
  split at harrive
  case isFalse => exact absurd harrive (by simp)
  case isTrue =>
      obtain rfl := Option.some.inj harrive
      exact { h with }

end Resumes

/-! ### What a subscriber has dispatched -/

/-- The first events of a job were dispatched, and the last identifier is that of the last of
them. -/
structure Delivered (createdAt : ℕ → String) (db : Database) (j : ℕ) (lastId : List Char)
    (dispatched : List Message) (got : List (JobEvent × ℕ)) : Prop where
  first : ∃ rest, eventsAfter db j none = got ++ rest
  dispatched : dispatched = got.map (frame createdAt)
  lastId : lastId = lastIdText got

variable {got : List (JobEvent × ℕ)} {dispatched : List Message}

/-- What lies after the last identifier. -/
theorem Delivered.eventsAfter_header (h : Delivered createdAt db j lastId dispatched got) :
    eventsAfter db j none = got ++ eventsAfter db j (headerOf lastId) := by
  obtain ⟨rest, hrest⟩ := h.first
  rw [h.lastId, headerOf_lastIdText, eventsAfter_cursorAfter hrest, hrest]

theorem Delivered.append (h : Delivered createdAt db j lastId dispatched got)
    (hevents : db.jobEvents <+: db'.jobEvents) :
    Delivered createdAt db' j lastId dispatched got := by
  obtain ⟨rest, hrest⟩ := h.first
  obtain ⟨new, hnew, -⟩ := eventsAfter_append hevents j none
  exact { h with first := ⟨rest ++ new, by rw [hnew, hrest, List.append_assoc]⟩ }

/-- The identifier after some more events. -/
theorem lastIdText_append (got more : List (JobEvent × ℕ)) :
    lastIdText (got ++ more) =
      (((more.map (frame createdAt)).getLast?).map (·.id)).getD (lastIdText got) := by
  rw [List.getLast?_map]
  rcases List.eq_nil_or_concat more with rfl | ⟨before, row, rfl⟩
  · simp
  · simp [lastIdText, frame]

/-- **With a connection open**, whatever part of what it sent has arrived, the events dispatched
are the first of the job. -/
theorem Delivered.reader (h : Delivered createdAt db j lastId dispatched got)
    (hresumes : Resumes createdAt db j lastId connection) :
    ∃ more, more <+: connection.stream.emitted ∧
      Delivered createdAt db j
        ((Reader.between lastId dispatched).read connection.received).fields.lastId
        ((Reader.between lastId dispatched).read connection.received).fields.dispatched
        (got ++ more) := by
  obtain ⟨done, ⟨left, hleft⟩, hdispatched, hlast⟩ := exists_read_of_prefix connection.sent
    hresumes.sendable (List.take_prefix connection.arrived _) lastId dispatched
  have hmessages := hresumes.messages
  rw [← hleft, messages_append] at hmessages
  obtain ⟨more, others, hemitted, hmore, -⟩ := List.map_eq_append_iff.mp hmessages.symm
  obtain ⟨rest, hrest⟩ := hresumes.replayed
  refine ⟨more, ⟨others, hemitted.symm⟩, ⟨⟨others ++ connection.stream.batch ++ rest, ?_⟩, ?_, ?_⟩⟩
  · rw [h.eventsAfter_header, hrest, hemitted]
    simp only [List.append_assoc]
  · rw [Connection.received, hdispatched, h.dispatched, ← hmore, List.map_append]
  · rw [Connection.received, hlast, idAfter_eq, ← hmore, h.lastId, ← lastIdText_append]

/-- What holds of a subscribed system: the earlier connections have dispatched the first events,
and an open one goes on after them. -/
structure Subscribed (createdAt : ℕ → String) (s : SubscribedSystem) : Prop where
  delivered : ∃ got, Delivered createdAt s.jobs.db s.subscriber.jobId s.subscriber.lastId
    s.subscriber.dispatched got
  resumes : ∀ connection ∈ s.connection,
    Resumes createdAt s.jobs.db s.subscriber.jobId s.subscriber.lastId connection

variable {s s' : SubscribedSystem}

/-- A step of the connection alone. -/
theorem Subscribed.with_connection (h : Subscribed createdAt s)
    (hconnection : Resumes createdAt s.jobs.db s.subscriber.jobId s.subscriber.lastId connection) :
    Subscribed createdAt { s with connection := some connection } where
  delivered := h.delivered
  resumes connection' h' := by
    obtain rfl := Option.some.inj h'
    exact hconnection

/-- **One step.** -/
theorem subscribed_next {a : SubscriptionAction} (h : Subscribed createdAt s)
    (hnext : next settings createdAt s a = some s') : Subscribed createdAt s' := by
  cases a with
  | system action =>
      obtain ⟨jobs, hjobs, rfl⟩ := Option.map_eq_some_iff.mp hnext
      have hevents := (JobSystem.next_appends hjobs).events_extend
      obtain ⟨got, hgot⟩ := h.delivered
      exact ⟨⟨got, hgot.append hevents⟩,
        fun connection hconnection => (h.resumes connection hconnection).append hevents⟩
  | connect =>
      simp only [next, connect] at hnext
      split at hnext
      case isFalse => exact absurd hnext (by simp)
      case isTrue =>
          obtain rfl := Option.some.inj hnext
          exact h.with_connection (.connect _ _ _ _)
  | readEvents =>
      obtain ⟨connection, hconnection, hread⟩ := Option.bind_eq_some_iff.mp hnext
      obtain ⟨stream, hstream, rfl⟩ := Option.map_eq_some_iff.mp hread
      exact h.with_connection ((h.resumes connection hconnection).readEvents hstream)
  | emit =>
      obtain ⟨connection', hemit, rfl⟩ := Option.map_eq_some_iff.mp hnext
      obtain ⟨connection, hconnection, hemit⟩ := Option.bind_eq_some_iff.mp hemit
      exact h.with_connection ((h.resumes connection hconnection).emit hemit)
  | heartbeat =>
      obtain ⟨connection', hbeat, rfl⟩ := Option.map_eq_some_iff.mp hnext
      obtain ⟨connection, hconnection, hbeat⟩ := Option.bind_eq_some_iff.mp hbeat
      exact h.with_connection ((h.resumes connection hconnection).heartbeat hbeat)
  | readStatus =>
      obtain ⟨connection, hconnection, hread⟩ := Option.bind_eq_some_iff.mp hnext
      obtain ⟨stream, hstream, rfl⟩ := Option.map_eq_some_iff.mp hread
      exact h.with_connection ((h.resumes connection hconnection).readStatus hstream)
  | arrive characters =>
      obtain ⟨connection', harrive, rfl⟩ := Option.map_eq_some_iff.mp hnext
      obtain ⟨connection, hconnection, harrive⟩ := Option.bind_eq_some_iff.mp harrive
      exact h.with_connection ((h.resumes connection hconnection).arrive harrive)
  | close =>
      obtain ⟨connection, hconnection, rfl⟩ := Option.map_eq_some_iff.mp hnext
      obtain ⟨got, hgot⟩ := h.delivered
      obtain ⟨more, -, hmore⟩ := hgot.reader (h.resumes connection hconnection)
      exact ⟨⟨got ++ more, hmore⟩, by simp [close]⟩

/-- Every reachable system is as it should be. -/
theorem subscribed_of_reachable (hs : (machine settings createdAt).Reachable s) :
    Subscribed createdAt s := by
  refine hs.invariant (I := Subscribed createdAt) (fun s hinit => ?_)
    fun s a s' _ h _ hnext => subscribed_next h hnext
  obtain ⟨-, hlast, hdispatched, hconnection⟩ := hinit
  exact ⟨⟨[], ⟨_, rfl⟩, hdispatched, hlast⟩, by simp [hconnection]⟩

/-- The client has got everything: no character is under way, and no event lies after the cursor
of the stream. -/
def CaughtUp (s : SubscribedSystem) : Prop :=
  ∃ connection ∈ s.connection, connection.arrived = (text connection.sent).length ∧
    connection.stream.batch = [] ∧
    eventsAfter s.jobs.db connection.stream.jobId connection.stream.cursor = []

instance (s : SubscribedSystem) : Decidable s.CaughtUp :=
  inferInstanceAs (Decidable (∃ connection ∈ s.connection, _))

/-- **A subscriber misses nothing and gets nothing twice.** In every run of the job system with
connections that break anywhere, the events dispatched over all connections are the first of the
job, in the order of their ids; and they are all of them when the client has caught up. -/
theorem dispatched_of_reachable (hs : (machine settings createdAt).Reachable s) :
    let events := eventsAfter s.jobs.db s.subscriber.jobId none
    s.dispatched <+: events.map (frame createdAt) ∧ events.Pairwise (·.2 < ·.2) ∧
      (s.CaughtUp → s.dispatched = events.map (frame createdAt)) := by
  intro events
  obtain ⟨got, hgot⟩ := (subscribed_of_reachable hs).delivered
  have hresumes := (subscribed_of_reachable hs).resumes
  refine ⟨?_, pairwise_eventsAfter _ _ _, ?_⟩
  · have hdelivered : ∃ lastId all, Delivered createdAt s.jobs.db s.subscriber.jobId lastId
        s.dispatched all := by
      unfold SubscribedSystem.dispatched
      cases hconnection : s.connection with
      | none => exact ⟨_, got, hgot⟩
      | some connection =>
          obtain ⟨more, -, hmore⟩ := hgot.reader (hresumes connection hconnection)
          exact ⟨_, got ++ more, hmore⟩
    obtain ⟨lastId, all, ⟨rest, hrest⟩, hall, -⟩ := hdelivered
    rw [hall, show events = all ++ rest from hrest, List.map_append]
    exact List.prefix_append _ _
  · rintro ⟨connection, hconnection, harrived, hbatch, hrest⟩
    have hconnection' : s.connection = some connection := hconnection
    have h := hresumes connection hconnection
    rw [h.jobId] at hrest
    have hafter := h.eventsAfter_cursor hbatch
    rw [hrest, List.append_nil] at hafter
    have hreceived : connection.received = text connection.sent := by
      rw [Connection.received, harrived, List.take_length]
    simp only [SubscribedSystem.dispatched, hconnection', Subscriber.reader]
    rw [hreceived, read_text _ h.sendable]
    simp only [Reader.between]
    rw [h.messages, hgot.dispatched, ← List.map_append, ← hafter, ← hgot.eventsAfter_header]

/-- The first connection breaks in the middle of the second event; the second one delivers that
event again and the rest. -/
theorem dispatched_of_reachable_reconnected :
    ∃ s, (machine Settings.defaults fun _ => "noon").Reachable s ∧ s.subscriber.lastId ≠ [] ∧
      (eventsAfter s.jobs.db s.subscriber.jobId none).length = 4 ∧
      s.dispatched = (eventsAfter s.jobs.db s.subscriber.jobId none).map (frame fun _ => "noon") := by
  obtain ⟨s, hs, hlast, hlength, hcaught⟩ :=
    (machine Settings.defaults fun _ => "noon").exists_reachable
      [.system (.create JobSystem.sampleRequest 0), .system (.claim 0 "w" 1), .connect,
        .readEvents, .emit, .emit, .arrive 300, .close,
        .system (.finish 0 (.returned "\x7b\x7d") 2), .connect, .readEvents, .emit, .emit, .emit,
        .arrive 860]
      (fun s => s.subscriber.lastId ≠ [] ∧
        (eventsAfter s.jobs.db s.subscriber.jobId none).length = 4 ∧ s.CaughtUp)
      (s := ⟨JobSystem.empty, ⟨0, [], []⟩, none⟩)
      ⟨JobSystem.machine_init_empty _, rfl, rfl, rfl⟩ (by decide +kernel)
  exact ⟨s, hs, hlast, hlength, (dispatched_of_reachable hs).2.2 hcaught⟩

end SubscribedSystem

end StoryForge
