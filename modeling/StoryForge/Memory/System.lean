import StoryForge.Chapters.Accepted
import StoryForge.Library.Machine
import StoryForge.Memory.Indexing

/-!
# Acceptances and indexing runs

Versions are accepted, and versions are indexed, by calls that run side by side on one
database. An indexing run goes on one transaction at a time: it reads what it indexes, makes
sure that there is a record, marks the record, asks for the vectors, and writes. A run that
never goes on is a crash. An acceptance is one transaction and starts an indexing run, whose
errors it keeps to itself.

Workflows write new versions, their facts and evaluations beside this; `otherWork` lets them.
It accepts nothing and takes nothing back.

## Main results

* `MemorySystem.next_cases` — what a step does;
* `Phase.Moves.snapshot_cases` — where the snapshot of a run comes from.
-/

namespace StoryForge.Memory

/-! ### Calls -/

/-- An indexing run, by the transaction it is about to make. -/
inductive Phase
  | loadSnapshot
  | ensurePending (snapshot : IndexSnapshot)
  | markIndexing (snapshot : IndexSnapshot)
  | embed (snapshot : IndexSnapshot)
  | persist (snapshot : IndexSnapshot) (drafts : List SourceDraft)
  | markFailed
  | done
  deriving DecidableEq, Repr

/-- What a run has read. -/
def Phase.snapshot : Phase → Option IndexSnapshot
  | .ensurePending snapshot | .markIndexing snapshot | .embed snapshot
  | .persist snapshot _ => some snapshot
  | .loadSnapshot | .markFailed | .done => none

/-- What a run is about to store. -/
def Phase.stored : Phase → Option IndexSnapshot
  | .persist snapshot _ => some snapshot
  | _ => none

/-- A call of `index_accepted_chapter_version`. -/
structure IndexCall where
  versionId : ℕ
  force : Bool
  afterAcceptance : Bool
  phase : Phase
  deriving DecidableEq, Repr

/-- What follows an exception: after an acceptance the record is marked, else the caller gets
the exception. -/
def IndexCall.failed (call : IndexCall) : Phase :=
  if call.afterAcceptance && call.phase != .markFailed then .markFailed else .done

/-- What workflows write in the meantime. -/
structure OtherWork where
  projects : List StoryProject
  newChapters : List StoryChapter
  newVersions : List ChapterVersion
  statuses : ℕ → ChapterVersionStatus
  newFacts : List Fact
  evaluations : List Evaluation
  revisions : List Revision
  comparisons : List VersionComparison
  runs : List StoryRun
  characters : List Character
  locations : List Location
  rules : List StoryRule
  foreshadowings : List Foreshadowing

/-- Versions stay accepted or not, and what is new is not accepted. -/
def OtherWork.write (work : OtherWork) (db : MemoryDatabase) : MemoryDatabase :=
  { db with
    projects := work.projects
    chapters := db.chapters ++ work.newChapters.map ({ · with acceptedVersionId := none })
    versions := (db.versions.mapIdx fun id version =>
        if version.status = .accepted ∨ work.statuses id = .accepted then version
        else { version with status := work.statuses id }) ++
      work.newVersions.map ({ · with status := .draft })
    facts := db.facts ++ work.newFacts.map ({ · with status := .candidate })
    evaluations := work.evaluations
    revisions := work.revisions
    comparisons := work.comparisons
    runs := work.runs
    characters := work.characters
    locations := work.locations
    rules := work.rules
    foreshadowings := work.foreshadowings }

/-- What happens. -/
inductive IndexAction
  | acceptVersion (workflowRunId versionId : ℕ)
  | supersedeVersion (versionId : ℕ)
  | index (versionId : ℕ) (force : Bool)
  | proceed (call : ℕ)
  | embeddingFailed (call : ℕ)
  | interrupted (call : ℕ)
  | crashed (call : ℕ)
  | otherWork (work : OtherWork)

/-- The committed state and the indexing runs. -/
structure MemorySystem where
  db : MemoryDatabase
  calls : List IndexCall

/-- Whether no indexing run is in progress. -/
def MemorySystem.Idle (s : MemorySystem) : Prop := ∀ call ∈ s.calls, call.phase = .done

instance (s : MemorySystem) : Decidable s.Idle := by unfold MemorySystem.Idle; infer_instance

/-- `_mark_failed`. -/
def MemoryDatabase.markFailed (versionId : ℕ) (db : MemoryDatabase) : MemoryDatabase :=
  match db.indexRecords versionId with
  | none => db
  | some _ => db.markRecord versionId .failed

namespace IndexCall

variable (service : MemoryIndexService) (db : MemoryDatabase) (call : IndexCall)

/-- The next transaction of a run. -/
def advance : Option (Phase × MemoryDatabase) :=
  match call.phase with
  | .loadSnapshot =>
      match db.loadSnapshot call.versionId with
      | .ok snapshot => some (.ensurePending snapshot, db)
      | .error _ => some (call.failed, db)
  | .ensurePending snapshot => some (.markIndexing snapshot, db.ensurePending call.versionId)
  | .markIndexing snapshot =>
      if db.indexRecords call.versionId = some .completed ∧ call.force = false then
        some (.done, db)
      else some (.embed snapshot, db.markRecord call.versionId .indexing)
  | .embed snapshot =>
      match service.buildSources snapshot with
      | .ok drafts => some (.persist snapshot drafts, db)
      | .error _ => some (call.failed, db)
  | .persist snapshot drafts =>
      match service.persistIndex snapshot drafts db with
      | .ok db' => some (.done, db')
      | .error _ => some (call.failed, db)
  | .markFailed => some (.done, db.markFailed call.versionId)
  | .done => none

/-- The provider of the vectors fails. -/
def embeddingFailed : Option (Phase × MemoryDatabase) :=
  match call.phase with
  | .embed snapshot =>
      match service.buildSources snapshot with
      | .ok _ => some (.markFailed, db)
      | .error _ => some (call.failed, db)
  | _ => none

end IndexCall

namespace MemorySystem

/-- A run goes on. -/
def goOn (s : MemorySystem) (id : ℕ)
    (f : IndexCall → Option (Phase × MemoryDatabase)) : Option MemorySystem :=
  match s.calls[id]? with
  | none => none
  | some call =>
      (f call).map fun (phase, db) => ⟨db, s.calls.set id { call with phase := phase }⟩

/-- The effect of an action. -/
def next (service : MemoryIndexService) (s : MemorySystem) : IndexAction → Option MemorySystem
  | .acceptVersion workflowRunId versionId =>
      match s.db.acceptVersion workflowRunId versionId with
      | .ok (some db) => some ⟨db, s.calls ++ [⟨versionId, false, true, .loadSnapshot⟩]⟩
      | _ => some s
  | .supersedeVersion versionId => some { s with db := s.db.hide [versionId] }
  | .index versionId force =>
      some { s with calls := s.calls ++ [⟨versionId, force, false, .loadSnapshot⟩] }
  | .proceed id => s.goOn id (·.advance service s.db)
  | .embeddingFailed id => s.goOn id (·.embeddingFailed service s.db)
  | .interrupted id => s.goOn id fun call => some (call.failed, s.db)
  | .crashed id => s.goOn id fun _ => some (.done, s.db)
  | .otherWork work => some { s with db := work.write s.db }

/-- The index at work. A run starts with an empty index, on a story in which versions and
chapters agree on what is accepted. -/
def machine (service : MemoryIndexService) : Machine MemorySystem IndexAction where
  init s := s.db.selection.Agrees ∧ s.db.chunks = [] ∧ s.db.relations = [] ∧
    s.db.entities = [] ∧ s.calls = []
  next := next service

end MemorySystem

/-! ### What a step does -/

/-- What a run does with its next transaction. Unless it writes, it leaves the tables as they
are, up to its record. -/
inductive Phase.Moves (service : MemoryIndexService) (db : MemoryDatabase) (call : IndexCall) :
    Phase → MemoryDatabase → Prop
  | loaded {snapshot : IndexSnapshot} (h : db.loadSnapshot call.versionId = .ok snapshot) :
      Moves service db call (.ensurePending snapshot) db
  | kept {phase : Phase} {snapshot : IndexSnapshot} (records : ℕ → Option MemoryIndexStatus)
      (hcall : call.phase.snapshot = some snapshot) (hphase : phase.snapshot = some snapshot)
      (hstored : phase.stored = none) :
      Moves service db call phase { db with indexRecords := records }
  | embedded {snapshot : IndexSnapshot} {drafts : List SourceDraft}
      (hcall : call.phase.snapshot = some snapshot)
      (h : service.buildSources snapshot = .ok drafts) :
      Moves service db call (.persist snapshot drafts) db
  | persisted {snapshot : IndexSnapshot} {drafts : List SourceDraft} {db' : MemoryDatabase}
      (hcall : call.phase = .persist snapshot drafts)
      (h : service.persistIndex snapshot drafts db = .ok db') :
      Moves service db call .done db'
  | ended {phase : Phase} (records : ℕ → Option MemoryIndexStatus) (hphase : phase.snapshot = none)
      (hstored : phase.stored = none) :
      Moves service db call phase { db with indexRecords := records }

section Moves

variable {service : MemoryIndexService} {db db' : MemoryDatabase} {call : IndexCall}
  {phase : Phase}

theorem Phase.Moves.failed : Phase.Moves service db call call.failed db := by
  refine .ended db.indexRecords ?_ ?_
  · unfold IndexCall.failed
    split <;> rfl
  · unfold IndexCall.failed
    split <;> rfl

/-- The next transaction of a run. -/
theorem Phase.Moves.of_advance (h : call.advance service db = some (phase, db')) :
    Phase.Moves service db call phase db' := by
  unfold IndexCall.advance at h
  cases hphase : call.phase with
  | loadSnapshot =>
      simp only [hphase] at h
      cases hload : db.loadSnapshot call.versionId with
      | error e =>
          simp only [hload, Option.some.injEq, Prod.mk.injEq] at h
          obtain ⟨rfl, rfl⟩ := h
          exact .failed
      | ok snapshot =>
          simp only [hload, Option.some.injEq, Prod.mk.injEq] at h
          obtain ⟨rfl, rfl⟩ := h
          exact .loaded hload
  | ensurePending snapshot =>
      simp only [hphase, Option.some.injEq, Prod.mk.injEq] at h
      obtain ⟨rfl, rfl⟩ := h
      unfold MemoryDatabase.ensurePending
      have hcall : call.phase.snapshot = some snapshot := by rw [hphase]; rfl
      split
      · exact .kept db.indexRecords hcall rfl rfl
      · exact .kept _ hcall rfl rfl
  | markIndexing snapshot =>
      simp only [hphase] at h
      split at h
      · obtain ⟨rfl, rfl⟩ := Prod.mk.inj (Option.some.inj h)
        exact .ended db.indexRecords rfl rfl
      · obtain ⟨rfl, rfl⟩ := Prod.mk.inj (Option.some.inj h)
        exact .kept _ (by rw [hphase]; rfl) rfl rfl
  | embed snapshot =>
      simp only [hphase] at h
      cases hbuild : service.buildSources snapshot with
      | error e =>
          simp only [hbuild, Option.some.injEq, Prod.mk.injEq] at h
          obtain ⟨rfl, rfl⟩ := h
          exact .failed
      | ok drafts =>
          simp only [hbuild, Option.some.injEq, Prod.mk.injEq] at h
          obtain ⟨rfl, rfl⟩ := h
          exact .embedded (by rw [hphase]; rfl) hbuild
  | persist snapshot drafts =>
      simp only [hphase] at h
      cases hpersist : service.persistIndex snapshot drafts db with
      | error e =>
          simp only [hpersist, Option.some.injEq, Prod.mk.injEq] at h
          obtain ⟨rfl, rfl⟩ := h
          exact .failed
      | ok written =>
          simp only [hpersist, Option.some.injEq, Prod.mk.injEq] at h
          obtain ⟨rfl, rfl⟩ := h
          exact .persisted hphase hpersist
  | markFailed =>
      simp only [hphase, Option.some.injEq, Prod.mk.injEq] at h
      obtain ⟨rfl, rfl⟩ := h
      unfold MemoryDatabase.markFailed
      split
      · exact .ended db.indexRecords rfl rfl
      · exact .ended _ rfl rfl
  | done =>
      simp only [hphase] at h
      exact absurd h (by simp)

theorem Phase.Moves.of_embeddingFailed (h : call.embeddingFailed service db = some (phase, db')) :
    Phase.Moves service db call phase db' := by
  unfold IndexCall.embeddingFailed at h
  split at h
  · split at h
    · obtain ⟨rfl, rfl⟩ := Prod.mk.inj (Option.some.inj h)
      exact .ended db.indexRecords rfl rfl
    · obtain ⟨rfl, rfl⟩ := Prod.mk.inj (Option.some.inj h)
      exact .failed
  · exact absurd h (by simp)

/-- A snapshot that a run goes on with was just read, or the run had it before. -/
theorem Phase.Moves.snapshot_cases (h : Phase.Moves service db call phase db')
    {snapshot : IndexSnapshot} (hsnapshot : phase.snapshot = some snapshot) :
    db.loadSnapshot call.versionId = .ok snapshot ∨ call.phase.snapshot = some snapshot := by
  cases h with
  | loaded hload =>
      obtain rfl := Option.some.inj hsnapshot
      exact .inl hload
  | kept _ hcall hphase _ =>
      rw [hphase] at hsnapshot
      obtain rfl := Option.some.inj hsnapshot
      exact .inr hcall
  | embedded hcall _ =>
      obtain rfl := Option.some.inj hsnapshot
      exact .inr hcall
  | persisted _ _ => exact absurd hsnapshot (by simp [Phase.snapshot])
  | ended _ hphase _ =>
      rw [hphase] at hsnapshot
      exact absurd hsnapshot (by simp)

end Moves

namespace MemorySystem

variable {service : MemoryIndexService} {s s' : MemorySystem} {a : IndexAction}

/-- What a step does. -/
inductive Steps (service : MemoryIndexService) (s : MemorySystem) :
    IndexAction → MemorySystem → Prop
  | unchanged (a : IndexAction) : Steps service s a s
  | accepted {workflowRunId versionId : ℕ} {db : MemoryDatabase}
      (h : s.db.acceptVersion workflowRunId versionId = .ok (some db)) :
      Steps service s (.acceptVersion workflowRunId versionId)
        ⟨db, s.calls ++ [⟨versionId, false, true, .loadSnapshot⟩]⟩
  | superseded (versionId : ℕ) :
      Steps service s (.supersedeVersion versionId) { s with db := s.db.hide [versionId] }
  | began (versionId : ℕ) (force : Bool) :
      Steps service s (.index versionId force)
        { s with calls := s.calls ++ [⟨versionId, force, false, .loadSnapshot⟩] }
  | wentOn {a : IndexAction} {id : ℕ} {call : IndexCall} {phase : Phase} {db : MemoryDatabase}
      (hcall : s.calls[id]? = some call) (hmoves : Phase.Moves service s.db call phase db)
      (hpersist : ∀ snapshot drafts, call.phase = .persist snapshot drafts →
        a = .proceed id ∨ db = s.db) :
      Steps service s a ⟨db, s.calls.set id { call with phase := phase }⟩
  | worked (work : OtherWork) :
      Steps service s (.otherWork work) { s with db := work.write s.db }

theorem goOn_eq_some {id : ℕ} {f : IndexCall → Option (Phase × MemoryDatabase)}
    (h : s.goOn id f = some s') :
    ∃ call phase db, s.calls[id]? = some call ∧ f call = some (phase, db) ∧
      s' = ⟨db, s.calls.set id { call with phase := phase }⟩ := by
  unfold goOn at h
  cases hcall : s.calls[id]? with
  | none =>
      simp only [hcall] at h
      exact absurd h (by simp)
  | some call =>
      simp only [hcall] at h
      obtain ⟨⟨phase, db⟩, hf, rfl⟩ := Option.map_eq_some_iff.mp h
      exact ⟨call, phase, db, rfl, hf, rfl⟩

/-- **What a step does.** -/
theorem next_cases (h : (machine service).next s a = some s') : Steps service s a s' := by
  cases a with
  | acceptVersion workflowRunId versionId =>
      change (match s.db.acceptVersion workflowRunId versionId with
        | .ok (some db) => _
        | _ => _) = _ at h
      split at h
      · rename_i db haccept
        obtain rfl := Option.some.inj h
        exact .accepted haccept
      · obtain rfl := Option.some.inj h
        exact .unchanged _
  | supersedeVersion versionId =>
      obtain rfl := Option.some.inj h
      exact .superseded versionId
  | index versionId force =>
      obtain rfl := Option.some.inj h
      exact .began versionId force
  | proceed id =>
      obtain ⟨call, phase, db, hcall, hmove, rfl⟩ := goOn_eq_some h
      exact .wentOn hcall (.of_advance hmove) fun _ _ _ => .inl rfl
  | embeddingFailed id =>
      obtain ⟨call, phase, db, hcall, hmove, rfl⟩ := goOn_eq_some h
      refine .wentOn hcall (.of_embeddingFailed hmove) fun snapshot drafts hphase => ?_
      rw [IndexCall.embeddingFailed, hphase] at hmove
      exact absurd hmove (by simp)
  | interrupted id =>
      obtain ⟨call, phase, db, hcall, hmove, rfl⟩ := goOn_eq_some h
      obtain ⟨rfl, rfl⟩ := Prod.mk.inj (Option.some.inj hmove)
      exact .wentOn hcall .failed fun _ _ _ => .inr rfl
  | crashed id =>
      obtain ⟨call, phase, db, hcall, hmove, rfl⟩ := goOn_eq_some h
      obtain ⟨rfl, rfl⟩ := Prod.mk.inj (Option.some.inj hmove)
      exact .wentOn hcall (.ended s.db.indexRecords rfl rfl) fun _ _ _ => .inr rfl
  | otherWork work =>
      obtain rfl := Option.some.inj h
      exact .worked work

end MemorySystem

end StoryForge.Memory
