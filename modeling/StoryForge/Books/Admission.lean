import StoryForge.Books.Service
import StoryForge.Library.Machine

/-!
# Admission of book runs

Any number of calls of `BookRunService.create` on one database, statement by statement, while
book runs move along their table and other code changes projects and chapters.

## Main results

* `BookAdmission.sound_of_reachable` — at most one book run of a project is active, keys are
  unique, and every book run has one top job, one creation event and one outbox row;
* `BookAdmission.admission` — this, and whose book run a reused answer names;
* `BookAdmission.reused_for_another_key` — it may name one of another external key.
-/

namespace StoryForge

/-- A call of `create`, with its arguments. -/
structure BookRunCall where
  arguments : BookRunArguments
  phase : BookRunPhase
  deriving DecidableEq, Repr

/-- The committed state and the calls. -/
structure BookAdmission where
  db : BookDatabase
  calls : List BookRunCall
  deriving DecidableEq, Repr

/-- A call begins, or executes its next statement; a book run moves; other code writes
projects and chapters. -/
inductive BookAdmissionAction
  | create (arguments : BookRunArguments)
  | advance (call : ℕ) (now : Time)
  | transition (runId : ℕ) (target : BookRunStatus)
  | otherCode (projects : List BookProject) (chapters : List Chapter)

namespace BookAdmission

open BookRunService BookRunPhase

/-- A book run moves along its table, or stays. -/
def moveRun (db : BookDatabase) (runId : ℕ) (target : BookRunStatus) : BookDatabase :=
  match db.bookRuns[runId]? with
  | none => db
  | some run =>
      match transitionBookRun run target with
      | .ok run' => { db with bookRuns := db.bookRuns.set runId run' }
      | .error _ => db

/-- The effect of an action. -/
def next (settings : BookSettings) (s : BookAdmission) :
    BookAdmissionAction → Option BookAdmission
  | .create arguments => some { s with calls := s.calls ++ [⟨arguments, .lookup⟩] }
  | .advance i now =>
      s.calls[i]?.bind fun call =>
        (call.phase.advance settings call.arguments now s.db).map fun r =>
          ⟨r.2, s.calls.set i { call with phase := r.1 }⟩
  | .transition runId target => some { s with db := moveRun s.db runId target }
  | .otherCode projects chapters =>
      some { s with db := { s.db with bookProjects := projects, chapters := chapters } }

/-- Admission, from a database without book runs whose events and outbox rows are those of its
jobs. -/
def machine (settings : BookSettings) : Machine BookAdmission BookAdmissionAction where
  init s := s.db.bookRuns = [] ∧ s.db.jobLinks = s.db.jobs.map (fun _ => ⟨none, none⟩) ∧
    (∀ event ∈ s.db.jobEvents, event.jobId < s.db.jobs.length) ∧
    (∀ row ∈ s.db.outbox, row.deduplicationKey.jobId < s.db.jobs.length) ∧ s.calls = []
  next := next settings

/-! ### Invariants -/

/-- The creation events of a job. -/
def creationEvents (db : BookDatabase) (j : ℕ) : List JobEvent :=
  db.jobEvents.filter fun event => event.jobId == j && event.eventType == .jobCreated

/-- The outbox rows that request the first delivery of a job. -/
def creationRows (db : BookDatabase) (j : ℕ) : List OutboxMessage :=
  db.outbox.filter fun row => row.deduplicationKey == ⟨j, .create⟩

/-- A book run has exactly one top job, with one creation event and one outbox row. -/
def Equipped (db : BookDatabase) (runId : ℕ) (run : BookRun) : Prop :=
  ∃ j, run.jobId = some j ∧ db.topJobs runId = [j] ∧ (creationEvents db j).length = 1 ∧
    (creationRows db j).length = 1

/-- The call created the book run. -/
def Creator (call : BookRunCall) (runId : ℕ) : Prop :=
  ∃ response, call.phase = .returned response ∧ response.reused = false ∧
    response.bookRunId = runId

/-- What holds of the tables in every reachable state. -/
structure Consistent (db : BookDatabase) : Prop where
  links : db.jobLinks.length = db.jobs.length
  linked : ∀ link ∈ db.jobLinks, ∀ runId ∈ link.bookRunId, runId < db.bookRuns.length
  events : ∀ event ∈ db.jobEvents, event.jobId < db.jobs.length
  rows : ∀ row ∈ db.outbox, row.deduplicationKey.jobId < db.jobs.length
  oneActive : ∀ (i k : ℕ) (run run' : BookRun), db.bookRuns[i]? = some run →
    db.bookRuns[k]? = some run' → run.projectId = run'.projectId →
    run.status ∈ activeBookRunStatuses → run'.status ∈ activeBookRunStatuses → i = k
  equipped : ∀ (r : ℕ) (run : BookRun), db.bookRuns[r]? = some run → Equipped db r run

/-- Every book run was created by a call that has its key. -/
def Traced (settings : BookSettings) (s : BookAdmission) : Prop :=
  ∀ (r : ℕ) (run : BookRun), s.db.bookRuns[r]? = some run →
    ∃ call ∈ s.calls, Creator call r ∧
      run.idempotencyKey = idempotencyKey settings call.arguments

variable {settings : BookSettings} {s s' : BookAdmission} {db db' : BookDatabase}

theorem Consistent.topJob_lt (h : Consistent db) {r j : ℕ} (htop : db.topJobs r = [j]) :
    j < db.jobs.length := by
  have hmem : j ∈ db.topJobs r := by simp [htop]
  obtain ⟨link, hlink, -⟩ := Rows.mem_idsWhere.mp hmem
  rw [← h.links]
  exact (List.getElem?_eq_some_iff.mp hlink).1

/-- The book runs that were there keep their top job. -/
theorem topJobs_inserted {arguments : BookRunArguments} {run : BookRun}
    (hinserted : Inserted settings arguments db run db') {r : ℕ} (hr : r < db.bookRuns.length) :
    db'.topJobs r = db.topJobs r := by
  have hne : (some db.bookRuns.length == some r) = false := by
    simp only [beq_eq_false_iff_ne, ne_eq, Option.some.injEq]
    omega
  simp [BookDatabase.topJobs, hinserted.jobLinks, Rows.idsWhere_concat, hne]

/-- The new book run has the new job. -/
theorem topJobs_inserted_self {arguments : BookRunArguments} {run : BookRun}
    (hinserted : Inserted settings arguments db run db') (h : Consistent db) :
    db'.topJobs db.bookRuns.length = [db.jobs.length] := by
  have hnone : Rows.idsWhere db.jobLinks (fun link =>
      link.bookRunId == some db.bookRuns.length && link.parentJobId.isNone) = [] := by
    refine List.eq_nil_iff_forall_not_mem.mpr fun j hj => ?_
    obtain ⟨link, hlink, htop⟩ := Rows.mem_idsWhere.mp hj
    simp only [Bool.and_eq_true, beq_iff_eq] at htop
    have hlt := h.linked link (List.mem_of_getElem? hlink) db.bookRuns.length htop.1
    omega
  simp [BookDatabase.topJobs, hinserted.jobLinks, Rows.idsWhere_concat, hnone, h.links]

/-- What is written for the new job is not for another one. -/
theorem creation_inserted {arguments : BookRunArguments} {run : BookRun}
    (hinserted : Inserted settings arguments db run db') {j : ℕ} (hj : j < db.jobs.length) :
    creationEvents db' j = creationEvents db j ∧ creationRows db' j = creationRows db j := by
  obtain ⟨event, hevent, -, hevents⟩ := hinserted.jobEvents
  obtain ⟨row, hrow, hrows⟩ := hinserted.outbox
  have hne : db.jobs.length ≠ j := by omega
  constructor
  · simp [creationEvents, hevents, List.filter_append, hevent, hne]
  · simp [creationRows, hrows, List.filter_append, hrow, hne]

/-- The new job has one creation event and one outbox row. -/
theorem creation_inserted_self {arguments : BookRunArguments} {run : BookRun}
    (hinserted : Inserted settings arguments db run db') (h : Consistent db) :
    (creationEvents db' db.jobs.length).length = 1 ∧
      (creationRows db' db.jobs.length).length = 1 := by
  obtain ⟨event, hevent, htype, hevents⟩ := hinserted.jobEvents
  obtain ⟨row, hrow, hrows⟩ := hinserted.outbox
  have hnoEvent : creationEvents db db.jobs.length = [] := by
    refine List.filter_eq_nil_iff.mpr fun other hother hcreation => ?_
    simp only [Bool.and_eq_true, beq_iff_eq] at hcreation
    have hlt := h.events other hother
    omega
  have hnoRow : creationRows db db.jobs.length = [] := by
    refine List.filter_eq_nil_iff.mpr fun other hother hcreation => ?_
    exact hinserted.newOutbox other hother (beq_iff_eq.mp hcreation)
  rw [creationEvents] at hnoEvent
  rw [creationRows] at hnoRow
  constructor
  · simp [creationEvents, hevents, List.filter_append, hevent, htype, hnoEvent]
  · simp [creationRows, hrows, List.filter_append, hrow, hnoRow]

/-- A book run that is inserted is equipped, and the others stay so. -/
theorem Consistent.inserted {arguments : BookRunArguments} {run : BookRun} (h : Consistent db)
    (hinserted : Inserted settings arguments db run db') : Consistent db' := by
  obtain ⟨event, hevent, htype, hevents⟩ := hinserted.jobEvents
  obtain ⟨row, hrow, hrows⟩ := hinserted.outbox
  have hjobs := hinserted.jobs
  have hlinks := h.links
  constructor
  · simp only [hinserted.jobLinks, List.length_append, List.length_singleton, hjobs, hlinks]
  · intro link hlink runId hrunId
    rw [hinserted.bookRuns, List.length_append, List.length_singleton]
    rw [hinserted.jobLinks] at hlink
    rcases List.mem_append.mp hlink with hold | hnew
    · have hlt := h.linked link hold runId hrunId
      omega
    · obtain rfl := List.mem_singleton.mp hnew
      obtain rfl := Option.mem_some.mp hrunId
      omega
  · intro other hother
    rw [hevents] at hother
    rcases List.mem_append.mp hother with hold | hnew
    · have hlt := h.events other hold
      omega
    · obtain rfl := List.mem_singleton.mp hnew
      omega
  · intro other hother
    rw [hrows] at hother
    rcases List.mem_append.mp hother with hold | hnew
    · have hlt := h.rows other hold
      omega
    · obtain rfl := List.mem_singleton.mp hnew
      rw [hrow]
      show db.jobs.length < db'.jobs.length
      omega
  · intro i k first second hfirst hsecond hproject hactive hactive'
    rw [hinserted.bookRuns] at hfirst hsecond
    rcases Rows.getElem?_concat_cases hfirst with hold | ⟨rfl, rfl⟩
    · rcases Rows.getElem?_concat_cases hsecond with hold' | ⟨rfl, rfl⟩
      · exact h.oneActive i k first second hold hold' hproject hactive hactive'
      · exact absurd hactive (hinserted.noneActive first (List.mem_of_getElem? hold)
          (hproject.trans hinserted.project))
    · rcases Rows.getElem?_concat_cases hsecond with hold' | ⟨rfl, rfl⟩
      · exact absurd hactive' (hinserted.noneActive second (List.mem_of_getElem? hold')
          (hproject.symm.trans hinserted.project))
      · rfl
  · intro r other hother
    rw [hinserted.bookRuns] at hother
    rcases Rows.getElem?_concat_cases hother with hold | ⟨rfl, rfl⟩
    · obtain ⟨j, hjob, htop, hevent, hrow⟩ := h.equipped r other hold
      obtain ⟨hsameEvents, hsameRows⟩ := creation_inserted hinserted (h.topJob_lt htop)
      have hr := (List.getElem?_eq_some_iff.mp hold).1
      refine ⟨j, hjob, ?_, ?_, ?_⟩
      · rw [topJobs_inserted hinserted hr, htop]
      · rw [hsameEvents, hevent]
      · rw [hsameRows, hrow]
    · exact ⟨db.jobs.length, hinserted.topJob, topJobs_inserted_self hinserted h,
        creation_inserted_self hinserted h⟩

/-- A book run after another one moved: the same one, active only if it was before. -/
theorem moveRun_cases {runId : ℕ} {target : BookRunStatus} {r : ℕ} {run : BookRun}
    (h : (moveRun db runId target).bookRuns[r]? = some run) :
    ∃ old, db.bookRuns[r]? = some old ∧ run = { old with status := run.status } ∧
      (run.status ∈ activeBookRunStatuses → old.status ∈ activeBookRunStatuses) := by
  unfold moveRun at h
  split at h
  · exact ⟨run, h, rfl, id⟩
  · rename_i before hbefore
    split at h
    · rename_i moved hmoved
      obtain ⟨rfl, hedge⟩ := transitionBookRun_eq_ok.mp hmoved
      rcases Rows.getElem?_set_cases h with ⟨rfl, rfl⟩ | ⟨-, hold⟩
      · refine ⟨before, hbefore, rfl, fun hactive => ?_⟩
        rcases hedge with heq | hallowed
        · exact heq ▸ hactive
        · exact BookRunStatus.active_of_mem_allowed hallowed
      · exact ⟨run, hold, rfl, id⟩
    · exact ⟨run, h, rfl, id⟩

/-- A move changes nothing but a book run. -/
theorem moveRun_frame (db : BookDatabase) (runId : ℕ) (target : BookRunStatus) :
    (moveRun db runId target).toDatabase = db.toDatabase ∧
      (moveRun db runId target).jobLinks = db.jobLinks ∧
      (moveRun db runId target).bookRuns.length = db.bookRuns.length := by
  unfold moveRun
  split
  · exact ⟨rfl, rfl, rfl⟩
  · split
    · exact ⟨rfl, rfl, List.length_set⟩
    · exact ⟨rfl, rfl, rfl⟩

/-- A move keeps the tables consistent. -/
theorem Consistent.moveRun (h : Consistent db) (runId : ℕ) (target : BookRunStatus) :
    Consistent (moveRun db runId target) := by
  obtain ⟨hdb, hlinks, hlength⟩ := moveRun_frame db runId target
  constructor
  · rw [hlinks, hdb]
    exact h.links
  · rw [hlinks, hlength]
    exact h.linked
  · rw [hdb]
    exact h.events
  · rw [hdb]
    exact h.rows
  · intro i k first second hfirst hsecond hproject hactive hactive'
    obtain ⟨old, hold, hsame, hwas⟩ := moveRun_cases hfirst
    obtain ⟨old', hold', hsame', hwas'⟩ := moveRun_cases hsecond
    rw [hsame, hsame'] at hproject
    exact h.oneActive i k old old' hold hold' hproject (hwas hactive) (hwas' hactive')
  · intro r run hrun
    obtain ⟨old, hold, hsame, -⟩ := moveRun_cases hrun
    obtain ⟨j, hjob, htop, hevent, hrow⟩ := h.equipped r old hold
    refine ⟨j, ?_, ?_, ?_, ?_⟩
    · rw [hsame]
      exact hjob
    · rw [BookDatabase.topJobs, hlinks]
      exact htop
    · rw [creationEvents, hdb]
      exact hevent
    · rw [creationRows, hdb]
      exact hrow

/-! ### Steps -/

/-- Every step keeps the tables consistent. -/
theorem consistent_next {a : BookAdmissionAction} (h : Consistent s.db)
    (hnext : next settings s a = some s') : Consistent s'.db := by
  cases a with
  | create arguments =>
      obtain rfl := Option.some.inj hnext
      exact h
  | advance i now =>
      obtain ⟨call, -, hmap⟩ := Option.bind_eq_some_iff.mp hnext
      obtain ⟨⟨phase, db⟩, hadvance, rfl⟩ := Option.map_eq_some_iff.mp hmap
      rcases advance_cases hadvance with ⟨rfl, -⟩ | ⟨rfl, -⟩ | ⟨run, hinserted, -⟩
      · exact h
      · exact h
      · exact h.inserted hinserted
  | transition runId target =>
      obtain rfl := Option.some.inj hnext
      exact h.moveRun runId target
  | otherCode projects chapters =>
      obtain rfl := Option.some.inj hnext
      exact ⟨h.links, h.linked, h.events, h.rows, h.oneActive, h.equipped⟩

/-- A call that has been answered stays as it is. -/
theorem creator_next {a : BookAdmissionAction} (hnext : next settings s a = some s')
    {call : BookRunCall} (hcall : call ∈ s.calls) {r : ℕ} (hcreator : Creator call r) :
    call ∈ s'.calls := by
  cases a with
  | create arguments =>
      obtain rfl := Option.some.inj hnext
      exact List.mem_append_left _ hcall
  | advance i now =>
      obtain ⟨other, hother, hmap⟩ := Option.bind_eq_some_iff.mp hnext
      obtain ⟨⟨phase, db⟩, hadvance, rfl⟩ := Option.map_eq_some_iff.mp hmap
      obtain ⟨k, hk⟩ := List.getElem?_of_mem hcall
      by_cases hik : i = k
      · subst hik
        obtain rfl := Option.some.inj (hother.symm.trans hk)
        obtain ⟨response, hphase, -, -⟩ := hcreator
        rw [hphase] at hadvance
        exact absurd hadvance (by simp [BookRunPhase.advance])
      · refine List.mem_of_getElem? (i := k) ?_
        rw [List.getElem?_set_ne hik]
        exact hk
  | transition runId target =>
      obtain rfl := Option.some.inj hnext
      exact hcall
  | otherCode projects chapters =>
      obtain rfl := Option.some.inj hnext
      exact hcall

/-- Every step leaves every book run with the call that created it. -/
theorem traced_next {a : BookAdmissionAction} (h : Traced settings s)
    (hnext : next settings s a = some s') : Traced settings s' := by
  have hkeeps {r : ℕ} {run run' : BookRun} (hrun : s.db.bookRuns[r]? = some run)
      (hkey : run'.idempotencyKey = run.idempotencyKey) : ∃ call ∈ s'.calls, Creator call r ∧
        run'.idempotencyKey = idempotencyKey settings call.arguments := by
    obtain ⟨call, hcall, hcreator, hsame⟩ := h r run hrun
    exact ⟨call, creator_next hnext hcall hcreator, hcreator, hkey.trans hsame⟩
  cases a with
  | create arguments =>
      obtain rfl := Option.some.inj hnext
      exact fun r run hrun => hkeeps hrun rfl
  | advance i now =>
      obtain ⟨call, hcall, hmap⟩ := Option.bind_eq_some_iff.mp hnext
      obtain ⟨⟨phase, db⟩, hadvance, rfl⟩ := Option.map_eq_some_iff.mp hmap
      rcases advance_cases hadvance with ⟨rfl, -⟩ | ⟨rfl, -⟩ | ⟨new, hinserted, hphase⟩
      · exact fun r run hrun => hkeeps hrun rfl
      · exact fun r run hrun => hkeeps hrun rfl
      · intro r run hrun
        have hrun' : (s.db.bookRuns ++ [new])[r]? = some run := by
          rw [← hinserted.bookRuns]
          exact hrun
        rcases Rows.getElem?_concat_cases hrun' with hold | ⟨rfl, rfl⟩
        · exact hkeeps hold rfl
        · refine ⟨{ call with phase }, ?_, ?_, hinserted.key⟩
          · refine List.mem_of_getElem? (i := i) ?_
            exact List.getElem?_set_self (List.getElem?_eq_some_iff.mp hcall).1
          · rw [accepted, hinserted.topJob] at hphase
            exact ⟨_, hphase, rfl, rfl⟩
  | transition runId target =>
      obtain rfl := Option.some.inj hnext
      intro r run hrun
      obtain ⟨old, hold, hsame, -⟩ := moveRun_cases hrun
      exact hkeeps hold (by rw [hsame])
  | otherCode projects chapters =>
      obtain rfl := Option.some.inj hnext
      exact fun r run hrun => hkeeps hrun rfl

/-- **What holds in every reachable state.** -/
theorem sound_of_reachable (hs : (machine settings).Reachable s) :
    Consistent s.db ∧ Traced settings s := by
  refine hs.invariant (I := fun s => Consistent s.db ∧ Traced settings s) ?_ ?_
  · rintro s ⟨hruns, hlinks, hevents, hrows, -⟩
    refine ⟨⟨?_, ?_, hevents, hrows, ?_, ?_⟩, ?_⟩
    · rw [hlinks, List.length_map]
    · rw [hlinks]
      intro link hlink runId hrunId
      obtain ⟨job, -, rfl⟩ := List.mem_map.mp hlink
      exact absurd hrunId (by simp)
    · intro i k first second hfirst
      exact absurd hfirst (by simp [hruns])
    · intro r run hrun
      exact absurd hrun (by simp [hruns])
    · intro r run hrun
      exact absurd hrun (by simp [hruns])
  · intro s a s' _ hI _ hnext
    exact ⟨consistent_next hI.1 hnext, traced_next hI.2 hnext⟩

/-! ### Reused answers -/

/-- The keys of the calls do not collide. -/
def NoCollision (settings : BookSettings) (s : BookAdmission) : Prop :=
  ∀ call ∈ s.calls, ∀ other ∈ s.calls,
    idempotencyKey settings call.arguments = idempotencyKey settings other.arguments →
      call.arguments.body = other.arguments.body

instance (settings : BookSettings) (s : BookAdmission) : Decidable (NoCollision settings s) := by
  unfold NoCollision; infer_instance

instance (call : BookRunCall) (runId : ℕ) : Decidable (Creator call runId) :=
  match hphase : call.phase with
  | .returned response =>
      decidable_of_iff (response.reused = false ∧ response.bookRunId = runId)
        ⟨fun h => ⟨response, hphase, h⟩, fun ⟨other, hother, h⟩ => by
          obtain rfl := BookRunPhase.returned.inj (hphase.symm.trans hother)
          exact h⟩
  | .lookup | .check | .insert _ _ | .recover | .raised _ =>
      isFalse fun ⟨_, hother, _⟩ => by rw [hphase] at hother; exact absurd hother (by simp)

/-- A call with the same body created the book run: the same request for the same project with
the same external key, where an empty key is none. -/
def SameOrigin (s : BookAdmission) (call : BookRunCall) (runId : ℕ) : Prop :=
  ∃ creator ∈ s.calls, Creator creator runId ∧ creator.arguments.body = call.arguments.body

instance (s : BookAdmission) (call : BookRunCall) (runId : ℕ) :
    Decidable (SameOrigin s call runId) := by
  unfold SameOrigin; infer_instance

/-- The book run of the project is active. -/
def ActiveRun (db : BookDatabase) (projectId runId : ℕ) : Prop :=
  ∃ run, db.bookRuns[runId]? = some run ∧ run.projectId = projectId ∧
    run.status ∈ activeBookRunStatuses

theorem byKey_eq_some {key : String} {r : ℕ} {run : BookRun} (h : byKey db key = some (r, run)) :
    db.bookRuns[r]? = some run ∧ run.idempotencyKey = key := by
  obtain ⟨id, hid, hget⟩ := Option.bind_eq_some_iff.mp h
  obtain ⟨row, hrow, hpair⟩ := Option.map_eq_some_iff.mp hget
  obtain ⟨rfl, rfl⟩ := Prod.mk.inj hpair
  obtain ⟨found, hfound, hkey⟩ := Rows.mem_idsWhere.mp (List.mem_of_head? hid)
  obtain rfl := Option.some.inj (hrow.symm.trans hfound)
  exact ⟨hrow, beq_iff_eq.mp hkey⟩

theorem activeRun_eq_some {projectId r : ℕ} {run : BookRun}
    (h : activeRun db projectId = some (r, run)) : ActiveRun db projectId r := by
  obtain ⟨id, hid, hget⟩ := Option.bind_eq_some_iff.mp h
  obtain ⟨row, hrow, hpair⟩ := Option.map_eq_some_iff.mp hget
  obtain ⟨rfl, rfl⟩ := Prod.mk.inj hpair
  obtain ⟨found, hfound, hactive⟩ := Rows.mem_idsWhere.mp (List.mem_of_getLast? hid)
  obtain rfl := Option.some.inj (hrow.symm.trans hfound)
  simp only [BookDatabase.isActiveFor, Bool.and_eq_true, beq_iff_eq,
    List.contains_iff_mem] at hactive
  exact ⟨row, hrow, hactive.1, hactive.2⟩

theorem answer_accepted_eq {r : ℕ} {run : BookRun} {reused : Bool}
    {response : BookRunAcceptedResponse}
    (h : answer (accepted r run reused) = .returned response) :
    response.bookRunId = r ∧ response.reused = reused ∧ run.jobId = some response.jobId := by
  unfold accepted at h
  split at h
  · exact absurd h (by simp [answer])
  · rename_i jobId hjob
    obtain rfl := BookRunPhase.returned.inj h
    exact ⟨rfl, rfl, hjob⟩

/-- A step answers a call with the book run that has its key, or with the active one of its
project if it has an external key, or with the one it inserts. -/
theorem answered_next {a : BookAdmissionAction} (hnext : next settings s a = some s') {i : ℕ}
    {call : BookRunCall} {response : BookRunAcceptedResponse} (hcall : s'.calls[i]? = some call)
    (hphase : call.phase = .returned response) (hnew : s.calls[i]? ≠ some call)
    (hreused : response.reused = true) :
    ∃ run, s.db.bookRuns[response.bookRunId]? = some run ∧
      (run.idempotencyKey = idempotencyKey settings call.arguments ∨
        call.arguments.hasKey = true ∧
          ActiveRun s.db call.arguments.projectId response.bookRunId) := by
  cases a with
  | create arguments =>
      obtain rfl := Option.some.inj hnext
      rcases Rows.getElem?_concat_cases hcall with hold | ⟨-, rfl⟩
      · exact absurd hold hnew
      · exact absurd hphase (by simp)
  | advance k now =>
      obtain ⟨other, hother, hmap⟩ := Option.bind_eq_some_iff.mp hnext
      obtain ⟨⟨phase, db⟩, hadvance, rfl⟩ := Option.map_eq_some_iff.mp hmap
      rcases Rows.getElem?_set_cases hcall with ⟨rfl, rfl⟩ | ⟨-, hold⟩
      · rcases advance_cases hadvance with ⟨-, hnone⟩ | ⟨-, r, run, hanswer, hfound⟩ |
          ⟨run, -, hanswer⟩
        · exact absurd hphase (hnone response)
        · obtain ⟨rfl, -, -⟩ := answer_accepted_eq (hanswer.symm.trans hphase)
          rcases hfound with hkey | ⟨hhas, hactive⟩
          · obtain ⟨hrun, hsame⟩ := byKey_eq_some hkey
            exact ⟨run, hrun, .inl hsame⟩
          · obtain ⟨row, hrow, hproject⟩ := activeRun_eq_some hactive
            exact ⟨row, hrow, .inr ⟨hhas, row, hrow, hproject⟩⟩
        · obtain ⟨-, hfresh, -⟩ := answer_accepted_eq (hanswer.symm.trans hphase)
          exact absurd (hreused.symm.trans hfresh) (by simp)
      · exact absurd hold hnew
  | transition runId target =>
      obtain rfl := Option.some.inj hnext
      exact absurd hcall hnew
  | otherCode projects chapters =>
      obtain rfl := Option.some.inj hnext
      exact absurd hcall hnew

/-- **Admission.** In every reachable state at most one book run of a project is active and
every book run has exactly one top job, one creation event and one outbox row. A step that
answers a call with `reused` names the book run that the same request with the same external
key created; or the call has an external key, and it names the book run of its project that is
active. -/
theorem admission (hs : (machine settings).Reachable s) :
    (∀ (i k : ℕ) (run run' : BookRun), s.db.bookRuns[i]? = some run →
      s.db.bookRuns[k]? = some run' → run.projectId = run'.projectId →
      run.status ∉ terminalBookRunStatuses → run'.status ∉ terminalBookRunStatuses → i = k) ∧
    (∀ (r : ℕ) (run : BookRun), s.db.bookRuns[r]? = some run → Equipped s.db r run) ∧
    ∀ (a : BookAdmissionAction) (s' : BookAdmission), (machine settings).next s a = some s' →
      NoCollision settings s' → ∀ (i : ℕ) (call : BookRunCall)
        (response : BookRunAcceptedResponse), s'.calls[i]? = some call →
        call.phase = .returned response → s.calls[i]? ≠ some call → response.reused = true →
        SameOrigin s' call response.bookRunId ∨
          call.arguments.hasKey = true ∧
            ActiveRun s.db call.arguments.projectId response.bookRunId := by
  obtain ⟨hconsistent, htraced⟩ := sound_of_reachable hs
  refine ⟨fun i k run run' hrun hrun' hproject hactive hactive' => ?_, hconsistent.equipped, ?_⟩
  · exact hconsistent.oneActive i k run run' hrun hrun' hproject
      (run.status.active_or_terminal.mpr hactive) (run'.status.active_or_terminal.mpr hactive')
  · intro a s' hnext hdigest i call response hcall hphase hnew hreused
    obtain ⟨run, hrun, hkey | hactive⟩ := answered_next hnext hcall hphase hnew hreused
    · obtain ⟨creator, hcreator, hcreated, hsame⟩ := htraced _ run hrun
      have hmem := creator_next hnext hcreator hcreated
      exact .inl ⟨creator, hmem, hcreated, hdigest creator hmem call
        (List.mem_of_getElem? hcall) (hsame.symm.trans hkey)⟩
    · exact .inr hactive

/-! ### A call with another key -/

/-- A request that leaves everything to the settings. -/
def plainRequest : BookRunCreateRequest := ⟨.sequential, none, none, none, none, none, none, none⟩

/-- The settings of the sample, in which a digest is a text that tells the keys apart. -/
def sampleBookSettings : BookSettings where
  toSettings := Settings.defaults
  bookMaxChapterRetries := 4
  bookMaxGlobalRevisionRounds := 2
  bookMaxCost := 500000000
  bookMaxTokens := 1000000
  bookMaxProviderCalls := 250
  bookDigest body := toString body.projectId ++ ":" ++ body.externalKey
  bookJobDigest := id
  bookMaxChapterRetries_range := by decide
  bookMaxGlobalRevisionRounds_range := by decide
  bookMaxCost_pos := by decide
  bookMaxTokens_pos := by decide
  bookMaxProviderCalls_pos := by decide

/-- A project with one planned chapter. -/
def planned : BookAdmission where
  db :=
    { Database.empty with
      projects := [⟨"t"⟩]
      chapters := [⟨0, 1, .planned, none⟩]
      bookProjects := [⟨1, .offline, .offline⟩]
      bookRuns := []
      jobLinks := [] }
  calls := []

theorem machine_init_planned : (machine sampleBookSettings).init planned :=
  ⟨rfl, rfl, by simp [planned, Database.empty], by simp [planned, Database.empty], rfl⟩

/-- A call with an external key. -/
def sampleArguments (key : String) : BookRunArguments := ⟨0, plainRequest, some key⟩

/-- The answer to a call that reuses the first book run. -/
def reusedAnswer : BookRunAcceptedResponse where
  bookRunId := 0
  jobId := 0
  reused := true
  status := .pending
  statusUrl := "/api/v1/book-runs/" ++ toString 0
  eventsUrl := "/api/v1/book-runs/" ++ toString 0 ++ "/events/stream"

/-- A call that was answered so. -/
def reusedCall (key : String) : BookRunCall := ⟨sampleArguments key, .returned reusedAnswer⟩

/-- The first call is executed; then a second one begins. -/
def secondCall (key : String) : List BookAdmissionAction :=
  [.create (sampleArguments "a"), .advance 0 0, .advance 0 0, .advance 0 0,
    .create (sampleArguments key)]

/-- A second call with the same key is answered with the book run of the first. -/
theorem admission_replayed :
    ∃ (s s' : BookAdmission), (machine sampleBookSettings).Reachable s ∧
      (machine sampleBookSettings).next s (.advance 1 0) = some s' ∧
      s'.calls[1]? = some (reusedCall "a") ∧
      (SameOrigin s' (reusedCall "a") 0 ∨
        (sampleArguments "a").hasKey = true ∧ ActiveRun s.db 0 0) := by
  obtain ⟨s, hs, hanswered⟩ := (machine sampleBookSettings).exists_reachable
    (secondCall "a")
    (fun s => (next sampleBookSettings s (.advance 1 0)).any (fun s' => decide
      (NoCollision sampleBookSettings s' ∧
        s'.calls[1]? = some (reusedCall "a") ∧ s.calls[1]? ≠ some (reusedCall "a"))) = true)
    machine_init_planned (by decide)
  obtain ⟨s', hnext, hchecks⟩ := Option.any_eq_true _ _ |>.mp hanswered
  obtain ⟨hdigest, hcall, hnew⟩ := of_decide_eq_true hchecks
  exact ⟨s, s', hs, hnext, hcall,
    (admission hs).2.2 (.advance 1 0) s' hnext hdigest 1 _ reusedAnswer hcall rfl hnew rfl⟩

/-- A second call with another external key is answered with the book run of the first. -/
theorem reused_for_another_key :
    ¬ ∀ s : BookAdmission, (machine sampleBookSettings).Reachable s → ∀ call ∈ s.calls,
      ∀ response, call.phase = .returned response → response.reused = true →
        SameOrigin s call response.bookRunId := by
  intro hsame
  obtain ⟨s, hs, hcall, hother⟩ := (machine sampleBookSettings).exists_reachable
    (secondCall "b" ++ [.advance 1 0, .advance 1 0])
    (fun s => reusedCall "b" ∈ s.calls ∧
      ¬ SameOrigin s (reusedCall "b") 0)
    machine_init_planned (by decide)
  exact hother (hsame s hs _ hcall reusedAnswer rfl rfl)

end BookAdmission

end StoryForge
