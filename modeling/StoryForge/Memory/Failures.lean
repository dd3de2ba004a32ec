import Mathlib.Data.Prod.Lex
import StoryForge.Memory.Reindex
import StoryForge.Providers.Gateway

/-!
# Failed indexing runs

The record of a version is marked as indexing in a transaction of its own. What follows may
raise: the texts may not be cut, the governed provider may refuse to embed them or fail, and
the last transaction may not go through. A run catches embedding errors and value errors that
are raised while the texts are embedded and marks its record as failed. Everything else is
raised to the caller: an acceptance catches it and marks the record, the other callers hand it
on and leave the record as it is.

## Main results

* `GovernedEmbeddingProvider.embedTexts_eq_error` — what the governed provider raises was
  raised by one of its parts;
* `MemoryIndexService.indexSnapshot_cases` — how a run ends;
* `MemoryIndexService.recorded_iff` — when the failure of a run is recorded;
* `MemoryIndexService.indexAll_eq_error` — loops over versions hand on what a run raises;
* `MemoryIndexService.left_indexing` — it is not when the budget is exhausted and a version is
  indexed again;
* `MemoryIndexService.reachable_index` — a run is one of the runs of `MemorySystem.machine`.
-/

namespace StoryForge.Memory

/-! ### What is raised -/

/-- The classes of embedding failures. -/
inductive EmbeddingErrorKind
  | embedding
  | configuration
  | provider
  | timeout
  | invalidResponse
  | dimension
  deriving DecidableEq, Repr

/-- The name of a class. -/
def EmbeddingErrorKind.className : EmbeddingErrorKind → String
  | .embedding => "EmbeddingError"
  | .configuration => "EmbeddingConfigurationError"
  | .provider => "EmbeddingProviderError"
  | .timeout => "EmbeddingTimeoutError"
  | .invalidResponse => "EmbeddingInvalidResponseError"
  | .dimension => "EmbeddingDimensionError"

/-- What a run may raise. -/
inductive IndexException
  | embeddingError (kind : EmbeddingErrorKind) (message : String)
  | error (e : Error)
  deriving DecidableEq, Repr

namespace IndexException

/-- `type(exc).__name__`. -/
def className : IndexException → String
  | embeddingError kind _ => kind.className
  | error e => e.className

/-- The classes derived from `ValueError` that have no constructor of their own. -/
def valueErrors : List String :=
  ["ValidationError", "JSONDecodeError", "UnicodeDecodeError", "UnicodeEncodeError"]

/-- `isinstance(exc, (EmbeddingError, ValueError))`. -/
def isCaught : IndexException → Bool
  | embeddingError _ _ => true
  | error (.valueError _) => true
  | error (.other className _) => valueErrors.contains className
  | error _ => false

/-- `_retryable`. -/
def retryable : IndexException → Bool
  | embeddingError .provider _ | embeddingError .timeout _ => true
  | _ => false

end IndexException

/-! ### `GovernedEmbeddingProvider` -/

/-- The vector of a text. -/
abbrev Embedding := List ℚ

/-- `DATABASE_EMBEDDING_DIMENSIONS`. -/
def databaseEmbeddingDimensions : ℕ := 64

/-- An embedding provider with what governs it. `workflowRun` looks up the run that is charged.
`call` is an attempt up to the answer: the circuit, the ceilings and the budget let it pass, and
the provider answers. `settle` closes an attempt that has succeeded, and `release` one that has
failed. -/
structure GovernedEmbeddingProvider where
  dimensions : ℕ
  privacyPolicy : PrivacyPolicy
  external : Bool
  maxRetries : ℕ
  redact : String → String
  workflowRun : Except IndexException Unit
  call : ℕ → List String → Except IndexException (List Embedding)
  settle : ℕ → Except IndexException Unit
  release : ℕ → IndexException → Except IndexException Unit

namespace GovernedEmbeddingProvider

variable (provider : GovernedEmbeddingProvider)

/-- `_prepare`. -/
def prepare (texts : List String) : Except IndexException (List String) :=
  if provider.privacyPolicy = .offline ∧ provider.external = true then
    .error (.error (.privacyPolicyError "Offline privacy policy blocks external providers"))
  else if provider.privacyPolicy ≠ .strict ∨ provider.external = false then .ok texts
  else .ok (texts.map provider.redact)

/-- One attempt. -/
def attempt (number : ℕ) (prepared : List String) : Except IndexException (List Embedding) := do
  let vectors ← provider.call number prepared
  if vectors.length ≠ prepared.length ∨ ∃ vector ∈ vectors, vector.length ≠ provider.dimensions then
    .error (.embeddingError .dimension "Embedding response shape is invalid")
  else do
    provider.settle number
    .ok vectors

/-- The attempts from one on, when some more are allowed. -/
def attempts (prepared : List String) : ℕ → ℕ → Except IndexException (List Embedding)
  | retries, number =>
      match provider.attempt number prepared with
      | .ok vectors => .ok vectors
      | .error e =>
          match provider.release number e with
          | .error e' => .error e'
          | .ok () =>
              match retries with
              | 0 => .error e
              | retries + 1 =>
                  if e.retryable then attempts prepared retries (number + 1) else .error e

/-- `embed_texts`. -/
def embedTexts (texts : List String) : Except IndexException (List Embedding) :=
  if texts = [] then .ok []
  else do
    provider.workflowRun
    match provider.prepare texts with
    | .error e => do
        provider.release 1 e
        .error e
    | .ok prepared => provider.attempts prepared provider.maxRetries 1

/-- What the parts of a provider raise. -/
inductive Raises : IndexException → Prop
  | workflowRun {e : IndexException} (h : provider.workflowRun = .error e) : Raises e
  | prepare {e : IndexException} (texts : List String) (h : provider.prepare texts = .error e) :
      Raises e
  | attempt {e : IndexException} (number : ℕ) (prepared : List String)
      (h : provider.attempt number prepared = .error e) : Raises e
  | release {e e' : IndexException} (number : ℕ) (h : provider.release number e = .error e') :
      Raises e'

variable {provider}

theorem attempts_eq_error {prepared : List String} {retries number : ℕ} {e : IndexException}
    (h : provider.attempts prepared retries number = .error e) : provider.Raises e := by
  induction retries generalizing number with
  | zero =>
      unfold attempts at h
      split at h
      · exact absurd h (by simp)
      · rename_i raised hattempt
        split at h
        · rename_i hrelease
          obtain rfl := Except.error.inj h
          exact .release number hrelease
        · obtain rfl := Except.error.inj h
          exact .attempt number prepared hattempt
  | succ retries ih =>
      unfold attempts at h
      split at h
      · exact absurd h (by simp)
      · rename_i raised hattempt
        split at h
        · rename_i hrelease
          obtain rfl := Except.error.inj h
          exact .release number hrelease
        · dsimp only at h
          split at h
          · exact ih h
          · obtain rfl := Except.error.inj h
            exact .attempt number prepared hattempt

/-- **What the governed provider raises was raised by one of its parts**: it translates
nothing. -/
theorem embedTexts_eq_error {texts : List String} {e : IndexException}
    (h : provider.embedTexts texts = .error e) : provider.Raises e := by
  unfold embedTexts at h
  split at h
  · exact absurd h (by simp)
  cases hrun : provider.workflowRun with
  | error raised =>
      rw [hrun] at h
      obtain rfl := Except.error.inj h
      exact .workflowRun hrun
  | ok found =>
      rw [hrun] at h
      change (match provider.prepare texts with | .error e => _ | .ok prepared => _) = _ at h
      cases hprepare : provider.prepare texts with
      | error raised =>
          rw [hprepare] at h
          dsimp only at h
          cases hrelease : provider.release 1 raised with
          | error again =>
              rw [hrelease] at h
              obtain rfl := Except.error.inj h
              exact .release 1 hrelease
          | ok closed =>
              rw [hrelease] at h
              obtain rfl := Except.error.inj h
              exact .prepare texts hprepare
      | ok prepared =>
          rw [hprepare] at h
          exact attempts_eq_error h

end GovernedEmbeddingProvider

/-! ### Records -/

/-- What the record of a version says besides its status. -/
structure RecordDetails where
  attemptCount : ℕ
  errorCode : Option String
  errorMessage : Option String
  deriving DecidableEq, Repr

/-- The committed state with the records in full. -/
structure RecordedDatabase extends MemoryDatabase where
  details : ℕ → RecordDetails

namespace RecordedDatabase

variable (db : RecordedDatabase) (versionId : ℕ)

/-- `ensure_pending`. -/
def ensureRecord : RecordedDatabase :=
  match db.indexRecords versionId with
  | some _ => db
  | none =>
      { db with
        toMemoryDatabase := db.ensurePending versionId
        details := Function.update db.details versionId ⟨0, none, none⟩ }

/-- The record is marked when the run starts. -/
def markIndexing : RecordedDatabase :=
  { db with
    toMemoryDatabase := db.markRecord versionId .indexing
    details := Function.update db.details versionId
      ⟨(db.details versionId).attemptCount + 1, none, none⟩ }

/-- `_mark_failed`. -/
def markFailed (errorCode : String) : RecordedDatabase :=
  match db.indexRecords versionId with
  | none => db
  | some _ =>
      { db with
        toMemoryDatabase := db.markRecord versionId .failed
        details := Function.update db.details versionId
          ⟨(db.details versionId).attemptCount, some (truncate 100 errorCode),
            some "Embedding or indexing failed; retry is available"⟩ }

end RecordedDatabase

/-! ### `index_accepted_chapter_version` -/

/-- What decides how a run goes: what the provider factory yields, and whether the last
transaction goes through. -/
structure IndexEnvironment where
  providerFactory : Except IndexException GovernedEmbeddingProvider
  transaction : Except IndexException Unit

/-- Small indexing result; embeddings and source text are deliberately excluded. -/
structure MemoryIndexResult where
  chapterVersionId : ℕ
  status : String
  degraded : Bool
  deriving DecidableEq, Repr

/-- `_result`. -/
def MemoryIndexResult.of (versionId : ℕ) (failed : Bool) : MemoryIndexResult :=
  ⟨versionId, if failed then "failed" else "completed", failed⟩

/-- The texts are embedded and the answer is checked. -/
def IndexEnvironment.embed (env : IndexEnvironment) (drafts : List SourceDraft) :
    Except IndexException (List Embedding) := do
  let provider ← env.providerFactory
  if provider.dimensions ≠ databaseEmbeddingDimensions then
    .error (.error (.valueError "Embedding provider dimension does not match database"))
  else do
    let vectors ← provider.embedTexts (drafts.map (·.content))
    if vectors.length ≠ drafts.length ∨
        ∃ vector ∈ vectors, vector.length ≠ databaseEmbeddingDimensions then
      .error (.error (.valueError "Embedding response shape does not match index input"))
    else .ok vectors

namespace MemoryIndexService

variable (service : MemoryIndexService) (env : IndexEnvironment) (versionId : ℕ)

/-- The run from where its record is marked. -/
def indexSnapshot (snapshot : IndexSnapshot) (db : RecordedDatabase) :
    Except IndexException MemoryIndexResult × RecordedDatabase :=
  match service.buildSources snapshot with
  | .error e => (.error (.error e), db)
  | .ok drafts =>
      match env.embed drafts with
      | .error e =>
          if e.isCaught then (.ok (.of versionId true), db.markFailed versionId e.className)
          else (.error e, db)
      | .ok _ =>
          match env.transaction with
          | .error e => (.error e, db)
          | .ok () =>
              match service.persistIndex snapshot drafts db.toMemoryDatabase with
              | .error e => (.error (.error e), db)
              | .ok written => (.ok (.of versionId false), { db with toMemoryDatabase := written })

/-- `index_accepted_chapter_version`. -/
def indexAcceptedChapterVersion (force : Bool) (db : RecordedDatabase) :
    Except IndexException MemoryIndexResult × RecordedDatabase :=
  match db.loadSnapshot versionId with
  | .error e => (.error (.error e), db)
  | .ok snapshot =>
      let pending := db.ensureRecord versionId
      if pending.indexRecords versionId = some .completed ∧ force = false then
        (.ok (.of versionId false), pending)
      else service.indexSnapshot env versionId snapshot (pending.markIndexing versionId)

/-- Who starts a run: an acceptance, or somebody who hands on what it raises. -/
inductive Caller
  | acceptance
  | direct
  deriving DecidableEq, Repr

/-- What a caller leaves of a run: an acceptance marks the record of a run that has raised. -/
def Caller.leaves (caller : Caller) (versionId : ℕ) :
    Except IndexException MemoryIndexResult × RecordedDatabase → RecordedDatabase
  | (.ok _, db) => db
  | (.error _, db) =>
      match caller with
      | .acceptance => db.markFailed versionId "index_persistence_error"
      | .direct => db

/-- A run and its caller. -/
def index (caller : Caller) (force : Bool) (db : RecordedDatabase) : RecordedDatabase :=
  caller.leaves versionId (service.indexAcceptedChapterVersion env versionId force db)

/-- Runs one after the other; the first one that raises ends them. -/
def indexAll (env : ℕ → IndexEnvironment) (force : Bool) :
    List ℕ → RecordedDatabase → Except IndexException (List MemoryIndexResult) × RecordedDatabase
  | [], db => (.ok [], db)
  | versionId :: rest, db =>
      match service.indexAcceptedChapterVersion (env versionId) versionId force db with
      | (.error e, after) => (.error e, after)
      | (.ok result, after) =>
          match indexAll env force rest after with
          | (.error e, last) => (.error e, last)
          | (.ok results, last) => (.ok (result :: results), last)

/-- `index_project_entities`. -/
def indexProjectEntities (env : ℕ → IndexEnvironment) (projectId : ℕ) (db : RecordedDatabase) :
    Except IndexException (List MemoryIndexResult) × RecordedDatabase :=
  let versions := Rows.select db.versions fun version => version.status == .accepted &&
    db.chapters[version.chapterId]?.any (·.projectId == projectId)
  let place : ChapterVersion × ℕ → ℕ ×ₗ ℕ := fun (version, _) =>
    toLex ((db.chapters[version.chapterId]?.map (·.chapterNumber)).getD 0, version.version)
  service.indexAll env true ((versions.insertionSort fun a b => place a ≤ place b).map (·.2)) db

/-- `reindex_source`. -/
def reindexSource (env : ℕ → IndexEnvironment) (projectId : ℕ) (sourceType : SourceType)
    (sourceId : ℕ) (db : RecordedDatabase) :
    Except IndexException (List MemoryIndexResult) × RecordedDatabase :=
  service.indexAll env true
    ((db.chunks.filter fun row => row.projectId == projectId && row.sourceType == sourceType &&
      row.sourceId == sourceId).filterMap (·.chapterVersionId)).dedup db

/-! ### How a run ends -/

variable {service env versionId}

/-- **How a run ends** once its record is marked: it catches what is raised while the texts are
embedded and marks its record, or it raises and leaves everything as it is, or it writes. -/
theorem indexSnapshot_cases (snapshot : IndexSnapshot) (db : RecordedDatabase) :
    (∃ drafts e, service.buildSources snapshot = .ok drafts ∧ env.embed drafts = .error e ∧
      e.isCaught = true ∧ service.indexSnapshot env versionId snapshot db =
        (.ok (.of versionId true), db.markFailed versionId e.className)) ∨
    ((∀ drafts e, service.buildSources snapshot = .ok drafts → env.embed drafts = .error e →
        e.isCaught = false) ∧
      ∃ e, service.indexSnapshot env versionId snapshot db = (.error e, db)) ∨
    ∃ drafts vectors written, service.buildSources snapshot = .ok drafts ∧
      env.embed drafts = .ok vectors ∧ env.transaction = .ok () ∧
      service.persistIndex snapshot drafts db.toMemoryDatabase = .ok written ∧
      service.indexSnapshot env versionId snapshot db =
        (.ok (.of versionId false), { db with toMemoryDatabase := written }) := by
  unfold indexSnapshot
  cases hbuild : service.buildSources snapshot with
  | error e => exact .inr (.inl ⟨fun _ _ h => absurd h (by simp), _, rfl⟩)
  | ok drafts =>
      dsimp only
      cases hembed : env.embed drafts with
      | error e =>
          cases hcaught : e.isCaught with
          | true => exact .inl ⟨drafts, e, rfl, hembed, hcaught, by simp only [hcaught, if_true]⟩
          | false =>
              refine .inr (.inl ⟨fun other raised hother hraised => ?_, e, ?_⟩)
              · obtain rfl := Except.ok.inj hother
                obtain rfl := Except.error.inj (hembed.symm.trans hraised)
                exact hcaught
              · simp [hcaught]
      | ok vectors =>
          have hnone : ∀ (other : List SourceDraft) (raised : IndexException),
              Except.ok drafts = (.ok other : Except Error (List SourceDraft)) →
              env.embed other = .error raised → raised.isCaught = false := by
            intro other raised hother hraised
            obtain rfl := Except.ok.inj hother
            exact absurd (hembed.symm.trans hraised) (by simp)
          dsimp only
          cases htransaction : env.transaction with
          | error e => exact .inr (.inl ⟨hnone, e, rfl⟩)
          | ok done =>
              cases hpersist : service.persistIndex snapshot drafts db.toMemoryDatabase with
              | error e => exact .inr (.inl ⟨hnone, _, rfl⟩)
              | ok written =>
                  exact .inr (.inr ⟨drafts, vectors, written, rfl, hembed, rfl, hpersist, rfl⟩)

/-! ### Where a run starts -/

/-- A run that has marked its record. -/
def marked (versionId : ℕ) (db : RecordedDatabase) : RecordedDatabase :=
  (db.ensureRecord versionId).markIndexing versionId

theorem toMemoryDatabase_marked (versionId : ℕ) (db : RecordedDatabase) :
    (marked versionId db).toMemoryDatabase = db.markRecord versionId .indexing := by
  have hpending : (db.ensureRecord versionId).toMemoryDatabase = db.ensurePending versionId := by
    cases hrecord : db.indexRecords versionId with
    | none => simp only [RecordedDatabase.ensureRecord, hrecord]
    | some status =>
        simp only [RecordedDatabase.ensureRecord, MemoryDatabase.ensurePending, hrecord]
  change (db.ensureRecord versionId).toMemoryDatabase.markRecord versionId .indexing = _
  rw [hpending, MemoryDatabase.markRecord_ensurePending]

/-- A run is the run of what it has read, unless the version is indexed already. -/
theorem indexAcceptedChapterVersion_eq {force : Bool} {db : RecordedDatabase}
    {snapshot : IndexSnapshot} (hload : db.loadSnapshot versionId = .ok snapshot)
    (hruns : db.indexRecords versionId = some .completed → force = true) :
    service.indexAcceptedChapterVersion env versionId force db =
      service.indexSnapshot env versionId snapshot (marked versionId db) := by
  have hgoes : ¬((db.ensureRecord versionId).indexRecords versionId = some .completed ∧
      force = false) := by
    rintro ⟨hcompleted, hforce⟩
    have hbefore : db.indexRecords versionId = some .completed := by
      unfold RecordedDatabase.ensureRecord at hcompleted
      split at hcompleted
      · exact hcompleted
      · exact MemoryDatabase.completed_ensurePending hcompleted
    rw [hruns hbefore] at hforce
    exact absurd hforce (by simp)
  simp only [indexAcceptedChapterVersion, hload, if_neg hgoes, marked]

/-- A record that is marked as failed says so, with an error code, and nothing else is
written. -/
theorem markFailed_eq {db : RecordedDatabase} {status : MemoryIndexStatus}
    (h : db.indexRecords versionId = some status) (errorCode : String) :
    (db.markFailed versionId errorCode).toMemoryDatabase = db.markRecord versionId .failed ∧
      ((db.markFailed versionId errorCode).details versionId).errorCode =
        some (truncate 100 errorCode) := by
  unfold RecordedDatabase.markFailed
  rw [h]
  exact ⟨rfl, by simp⟩

/-- Whether a run completes. -/
def Completes (service : MemoryIndexService) (env : IndexEnvironment) (versionId : ℕ)
    (force : Bool) (db : RecordedDatabase) : Prop :=
  (service.indexAcceptedChapterVersion env versionId force db).2.indexRecords versionId =
    some .completed

instance (service : MemoryIndexService) (env : IndexEnvironment) (versionId : ℕ) (force : Bool)
    (db : RecordedDatabase) : Decidable (service.Completes env versionId force db) := by
  unfold Completes; infer_instance

/-- **When a run completes**: every part of it succeeds. -/
theorem completes_iff {force : Bool} {db : RecordedDatabase} {snapshot : IndexSnapshot}
    (hload : db.loadSnapshot versionId = .ok snapshot)
    (hruns : db.indexRecords versionId = some .completed → force = true) :
    service.Completes env versionId force db ↔
      ∃ drafts vectors written, service.buildSources snapshot = .ok drafts ∧
        env.embed drafts = .ok vectors ∧ env.transaction = .ok () ∧
        service.persistIndex snapshot drafts (db.markRecord versionId .indexing) =
          .ok written := by
  have hmarked : (marked versionId db).indexRecords versionId = some .indexing := by
    rw [toMemoryDatabase_marked, MemoryDatabase.indexRecords_markRecord]
  unfold Completes
  rw [indexAcceptedChapterVersion_eq hload hruns]
  constructor
  · intro h
    rcases indexSnapshot_cases snapshot (marked versionId db) with
      ⟨drafts, e, -, -, -, heq⟩ | ⟨-, e, heq⟩ |
      ⟨drafts, vectors, written, hbuild, hembed, htransaction, hpersist, -⟩
    · rw [heq] at h
      dsimp only at h
      rw [(markFailed_eq hmarked e.className).1, MemoryDatabase.indexRecords_markRecord] at h
      exact absurd h (by simp)
    · rw [heq] at h
      exact absurd (hmarked.symm.trans h) (by simp)
    · rw [toMemoryDatabase_marked] at hpersist
      exact ⟨drafts, vectors, written, hbuild, hembed, htransaction, hpersist⟩
  · rintro ⟨drafts, vectors, written, hbuild, hembed, htransaction, hpersist⟩
    rw [← toMemoryDatabase_marked] at hpersist
    have hversion := (MemoryDatabase.owned_of_loadSnapshot hload).1
    simp only [indexSnapshot, hbuild, hembed, htransaction, hpersist]
    obtain ⟨entities, relations, -, rfl⟩ := persistIndex_eq_ok hpersist
    rw [hversion, MemoryDatabase.indexRecords_markRecord]

/-! ### When a failure is recorded -/

/-- The failure of a run is recorded: the record says so, with an error code, nothing that the
run has made is visible, and a later run completes whenever the parts of it succeed. -/
structure FailureRecorded (service : MemoryIndexService) (versionId : ℕ)
    (before after : RecordedDatabase) : Prop where
  failed : after.indexRecords versionId = some .failed
  coded : (after.details versionId).errorCode.isSome = true
  hidden : after.chunks = before.chunks ∧ after.entities = before.entities ∧
    after.relations = before.relations
  retried : ∀ env force, service.Completes env versionId true before →
    service.Completes env versionId force after

variable {before : RecordedDatabase} {snapshot : IndexSnapshot} {caller : Caller} {force : Bool}

/-- A run that has failed leaves the marked record, or marks it as failed. -/
theorem index_of_fails (caller : Caller) (hload : before.loadSnapshot versionId = .ok snapshot)
    (hruns : before.indexRecords versionId = some .completed → force = true)
    (hfails : ¬service.Completes env versionId force before) :
    (∃ drafts e, service.buildSources snapshot = .ok drafts ∧ env.embed drafts = .error e ∧
      e.isCaught = true ∧ service.index env versionId caller force before =
        (marked versionId before).markFailed versionId e.className) ∨
    (∀ drafts e, service.buildSources snapshot = .ok drafts → env.embed drafts = .error e →
        e.isCaught = false) ∧
      service.index env versionId caller force before =
        match caller with
        | .acceptance => (marked versionId before).markFailed versionId "index_persistence_error"
        | .direct => marked versionId before := by
  have heq : service.indexAcceptedChapterVersion env versionId force before =
      service.indexSnapshot env versionId snapshot (marked versionId before) :=
    indexAcceptedChapterVersion_eq hload hruns
  unfold index
  rw [heq]
  rcases indexSnapshot_cases snapshot (marked versionId before) with
    ⟨drafts, e, hbuild, hembed, hcaught, hends⟩ | ⟨hnone, e, hends⟩ |
    ⟨drafts, vectors, written, hbuild, hembed, htransaction, hpersist, -⟩
  · rw [hends]
    exact .inl ⟨drafts, e, hbuild, hembed, hcaught, rfl⟩
  · rw [hends]
    exact .inr ⟨hnone, rfl⟩
  · rw [toMemoryDatabase_marked] at hpersist
    exact absurd ((completes_iff hload hruns).mpr
      ⟨drafts, vectors, written, hbuild, hembed, htransaction, hpersist⟩) hfails

/-- **A record that is marked as failed** is a failure that is recorded. -/
theorem failureRecorded_markFailed (hload : before.loadSnapshot versionId = .ok snapshot)
    (errorCode : String) :
    FailureRecorded service versionId before
      ((marked versionId before).markFailed versionId errorCode) := by
  have hmarked : (marked versionId before).indexRecords versionId = some .indexing := by
    rw [toMemoryDatabase_marked, MemoryDatabase.indexRecords_markRecord]
  obtain ⟨htables, hcode⟩ := markFailed_eq hmarked errorCode
  rw [toMemoryDatabase_marked] at htables
  have hfailed : ((marked versionId before).markFailed versionId errorCode).indexRecords
      versionId = some .failed := by
    rw [htables, MemoryDatabase.indexRecords_markRecord]
  refine ⟨hfailed, by rw [hcode]; rfl, ⟨by rw [htables]; rfl, by rw [htables]; rfl,
    by rw [htables]; rfl⟩, fun env force hcompletes => ?_⟩
  obtain ⟨drafts, vectors, written, hbuild, hembed, htransaction, hpersist⟩ :=
    (completes_iff hload fun _ => rfl).mp hcompletes
  refine (completes_iff (by rw [htables]; exact hload) fun hcompleted => ?_).mpr
    ⟨drafts, vectors, written, hbuild, hembed, htransaction, ?_⟩
  · exact absurd (hfailed.symm.trans hcompleted) (by simp)
  · rw [htables, MemoryDatabase.markRecord_markRecord, MemoryDatabase.markRecord_markRecord]
    exact hpersist

/-- **When the failure of a run is recorded**: it is an embedding error or a value error raised
while the texts are embedded, or the run was started by an acceptance. -/
theorem recorded_iff (hload : before.loadSnapshot versionId = .ok snapshot)
    (hruns : before.indexRecords versionId = some .completed → force = true)
    (hfails : ¬service.Completes env versionId force before) :
    FailureRecorded service versionId before (service.index env versionId caller force before) ↔
      caller = .acceptance ∨
        ∃ drafts e, service.buildSources snapshot = .ok drafts ∧ env.embed drafts = .error e ∧
          e.isCaught = true := by
  rcases index_of_fails caller hload hruns hfails with
    ⟨drafts, e, hbuild, hembed, hcaught, heq⟩ | ⟨hnone, heq⟩
  · rw [heq]
    exact iff_of_true (failureRecorded_markFailed hload _)
      (.inr ⟨drafts, e, hbuild, hembed, hcaught⟩)
  · rw [heq]
    cases caller with
    | acceptance => exact iff_of_true (failureRecorded_markFailed hload _) (.inl rfl)
    | direct =>
        refine iff_of_false (fun h => ?_) ?_
        · have hfailed := h.failed
          dsimp only at hfailed
          rw [toMemoryDatabase_marked, MemoryDatabase.indexRecords_markRecord] at hfailed
          exact absurd hfailed (by simp)
        · rintro (hcaller | ⟨drafts, e, hbuild, hembed, hcaught⟩)
          · exact absurd hcaller (by simp)
          · exact absurd (hnone drafts e hbuild hembed) (by simp [hcaught])

/-- **What a loop raises was raised by one of its runs**, and everything is as that run has left
it: the callers that hand on what a run raises leave its record alone. -/
theorem indexAll_eq_error {env : ℕ → IndexEnvironment} {versionIds : List ℕ}
    {db after : RecordedDatabase} {e : IndexException}
    (h : service.indexAll env force versionIds db = (.error e, after)) :
    ∃ versionId ∈ versionIds, ∃ before,
      service.indexAcceptedChapterVersion (env versionId) versionId force before =
        (.error e, after) ∧
      service.index (env versionId) versionId .direct force before = after := by
  induction versionIds generalizing db with
  | nil => exact absurd (congrArg Prod.fst h) (by simp [indexAll])
  | cons versionId rest ih =>
      unfold indexAll at h
      split at h
      · rename_i raised mid hrun
        obtain ⟨hraised, rfl⟩ := Prod.mk.inj h
        obtain rfl := Except.error.inj hraised
        exact ⟨versionId, List.mem_cons_self, db, hrun, by rw [index, hrun]; rfl⟩
      · split at h
        · rename_i raised last hrest
          obtain ⟨hraised, rfl⟩ := Prod.mk.inj h
          obtain rfl := Except.error.inj hraised
          obtain ⟨later, hlater, before, hrun⟩ := ih hrest
          exact ⟨later, List.mem_cons_of_mem _ hlater, before, hrun⟩
        · exact absurd (congrArg Prod.fst h) (by simp)

/-! ### Runs of the machine -/

/-- A run as a call of the machine. -/
def Caller.call (caller : Caller) (versionId : ℕ) (force : Bool) (phase : Phase) : IndexCall :=
  ⟨versionId, force, caller == .acceptance, phase⟩

theorem toMemoryDatabase_markFailed (db : RecordedDatabase) (errorCode : String) :
    (db.markFailed versionId errorCode).toMemoryDatabase =
      db.toMemoryDatabase.markFailed versionId := by
  cases hrecord : db.indexRecords versionId with
  | none => simp only [RecordedDatabase.markFailed, MemoryDatabase.markFailed, hrecord]
  | some status => simp only [RecordedDatabase.markFailed, MemoryDatabase.markFailed, hrecord]

section Runs

variable {start : MemorySystem} {calls : List IndexCall} {phase phase' : Phase}
  {db db' : MemoryDatabase}

/-- The run makes its next transaction. -/
theorem reachable_proceed
    (h : ((MemorySystem.machine service).startingAt start).Reachable
      ⟨db, calls ++ [caller.call versionId force phase]⟩)
    (hadvance : (caller.call versionId force phase).advance service db = some (phase', db')) :
    ((MemorySystem.machine service).startingAt start).Reachable
      ⟨db', calls ++ [caller.call versionId force phase']⟩ := by
  refine .step (a := .proceed calls.length) h trivial ?_
  change MemorySystem.goOn _ calls.length (·.advance service db) = _
  rw [MemorySystem.goOn_concat, hadvance]
  rfl

/-- The run raises. -/
theorem reachable_raise {db : RecordedDatabase} (hphase : phase ≠ .markFailed)
    (h : ((MemorySystem.machine service).startingAt start).Reachable
      ⟨db.toMemoryDatabase, calls ++ [caller.call versionId force phase]⟩) (e : IndexException) :
    ((MemorySystem.machine service).startingAt start).Reachable
      ⟨(caller.leaves versionId (.error e, db)).toMemoryDatabase,
        calls ++ [caller.call versionId force .done]⟩ := by
  have hraises : ((MemorySystem.machine service).startingAt start).Reachable
      ⟨db.toMemoryDatabase,
        calls ++ [caller.call versionId force (caller.call versionId force phase).failed]⟩ := by
    refine .step (a := .interrupted calls.length) h trivial ?_
    change MemorySystem.goOn _ calls.length (fun call => some (call.failed, _)) = _
    rw [MemorySystem.goOn_concat]
    rfl
  cases caller with
  | direct => exact hraises
  | acceptance =>
      have hfailed : (Caller.acceptance.call versionId force phase).failed = .markFailed := by
        simp [IndexCall.failed, Caller.call, hphase]
      rw [hfailed] at hraises
      have hmarks := reachable_proceed hraises rfl
      dsimp only [Caller.leaves]
      rw [toMemoryDatabase_markFailed]
      exact hmarks

/-- The run goes on from where its record is marked. -/
theorem reachable_indexSnapshot {db : RecordedDatabase}
    (h : ((MemorySystem.machine service).startingAt start).Reachable
      ⟨db.toMemoryDatabase, calls ++ [caller.call versionId force (.embed snapshot)]⟩) :
    ((MemorySystem.machine service).startingAt start).Reachable
      ⟨(caller.leaves versionId
          (service.indexSnapshot env versionId snapshot db)).toMemoryDatabase,
        calls ++ [caller.call versionId force .done]⟩ := by
  rcases @indexSnapshot_cases service env versionId snapshot db with
    ⟨drafts, e, hbuild, hembed, hcaught, hends⟩ | ⟨hnone, e, hends⟩ |
    ⟨drafts, vectors, written, hbuild, hembed, htransaction, hpersist, hends⟩
  · have hcatches : ((MemorySystem.machine service).startingAt start).Reachable
        ⟨db.toMemoryDatabase, calls ++ [caller.call versionId force .markFailed]⟩ := by
      refine .step (a := .embeddingFailed calls.length) h trivial ?_
      change MemorySystem.goOn _ calls.length (·.embeddingFailed service _) = _
      rw [MemorySystem.goOn_concat]
      simp only [Caller.call, IndexCall.embeddingFailed, hbuild, Option.map_some]
    rw [hends, Caller.leaves, toMemoryDatabase_markFailed]
    exact reachable_proceed hcatches rfl
  · rw [hends]
    exact reachable_raise (by simp) h e
  · have hembeds : (caller.call versionId force (.embed snapshot)).advance service
        db.toMemoryDatabase = some (.persist snapshot drafts, db.toMemoryDatabase) := by
      simp only [Caller.call, IndexCall.advance, hbuild]
    have hwrites : (caller.call versionId force (.persist snapshot drafts)).advance service
        db.toMemoryDatabase = some (.done, written) := by
      simp only [Caller.call, IndexCall.advance, hpersist]
    rw [hends]
    exact reachable_proceed (reachable_proceed h hembeds) hwrites

/-- **A run is one of the runs of the machine.** -/
theorem reachable_index (env : IndexEnvironment) (db : RecordedDatabase) :
    ((MemorySystem.machine service).startingAt
        ⟨db.toMemoryDatabase, calls ++ [caller.call versionId force .loadSnapshot]⟩).Reachable
      ⟨(service.index env versionId caller force db).toMemoryDatabase,
        calls ++ [caller.call versionId force .done]⟩ := by
  have hstart : ((MemorySystem.machine service).startingAt
      ⟨db.toMemoryDatabase, calls ++ [caller.call versionId force .loadSnapshot]⟩).Reachable
      ⟨db.toMemoryDatabase, calls ++ [caller.call versionId force .loadSnapshot]⟩ := .start rfl
  unfold index
  cases hload : db.loadSnapshot versionId with
  | error e =>
      simp only [indexAcceptedChapterVersion, hload]
      exact reachable_raise (by simp) hstart _
  | ok snapshot =>
      have hloads : (caller.call versionId force .loadSnapshot).advance service
          db.toMemoryDatabase = some (.ensurePending snapshot, db.toMemoryDatabase) := by
        simp only [Caller.call, IndexCall.advance, hload]
      have hpending := reachable_proceed (reachable_proceed hstart hloads) rfl
      by_cases hruns : db.indexRecords versionId = some .completed → force = true
      · have hgoes : ¬((db.ensurePending versionId).indexRecords versionId = some .completed ∧
            force = false) := by
          rintro ⟨hcompleted, hforce⟩
          rw [hruns (MemoryDatabase.completed_ensurePending hcompleted)] at hforce
          exact absurd hforce (by simp)
        have hmarks : (caller.call versionId force (.markIndexing snapshot)).advance service
            (db.ensurePending versionId) =
            some (.embed snapshot, (marked versionId db).toMemoryDatabase) := by
          rw [toMemoryDatabase_marked]
          simp only [Caller.call, IndexCall.advance, if_neg hgoes,
            MemoryDatabase.markRecord_ensurePending]
        rw [indexAcceptedChapterVersion_eq hload hruns]
        exact reachable_indexSnapshot (reachable_proceed hpending hmarks)
      · -- the version is indexed already
        obtain ⟨hcompleted, hforce⟩ := Classical.not_imp.mp hruns
        have hpresent : db.ensureRecord versionId = db := by
          simp only [RecordedDatabase.ensureRecord, hcompleted]
        have hkept : db.ensurePending versionId = db.toMemoryDatabase := by
          simp only [MemoryDatabase.ensurePending, hcompleted]
        have hskip : db.indexRecords versionId = some .completed ∧ force = false :=
          ⟨hcompleted, Bool.not_eq_true _ ▸ hforce⟩
        have hskips : (caller.call versionId force (.markIndexing snapshot)).advance service
            (db.ensurePending versionId) = some (.done, db.toMemoryDatabase) := by
          rw [hkept]
          exact if_pos hskip
        simp only [indexAcceptedChapterVersion, hload, hpresent, if_pos hskip]
        exact reachable_proceed hpending hskips

end Runs

/-! ### Instances -/

/-- A version that is accepted and not indexed yet. -/
def acceptedVersion : RecordedDatabase :=
  { MemorySystem.twoVersions.db with
    chapters := [⟨0, 1, .accepted, 1, "One", "First", "Summary", some 90, some 0, some 0⟩]
    versions := [⟨0, 1, ⟨"One", "First", "Summary"⟩, .accepted, "generated", none, some 0, [], [],
      true, none⟩]
    indexRecords := fun _ => some .pending
    details := fun _ => ⟨0, none, none⟩ }

/-- A provider that raises when it is called. -/
def raising (e : IndexException) : IndexEnvironment where
  providerFactory := .ok
    { dimensions := 64
      privacyPolicy := .standard
      external := false
      maxRetries := 0
      redact := id
      workflowRun := .ok ()
      call := fun _ _ => .error e
      settle := fun _ => .ok ()
      release := fun _ _ => .ok () }
  transaction := .ok ()

/-- The budget of the project does not allow another call. -/
def exhausted : IndexEnvironment :=
  raising (.error (.budgetBlockedError "Project hard budget would be exceeded"))

/-- What is read of the version. -/
def acceptedSnapshot : IndexSnapshot where
  projectId := 0
  chapterId := 0
  chapterNumber := 1
  outlineNames := []
  versionId := 0
  text := ⟨"One", "First", "Summary"⟩
  facts := []
  characters := []
  locations := []
  rules := []
  foreshadowing := []

/-- The provider times out, and the record says so. -/
theorem recorded_timeout :
    acceptedVersion.loadSnapshot 0 = .ok acceptedSnapshot ∧
      FailureRecorded MemorySystem.wholeTexts 0 acceptedVersion
        (MemorySystem.wholeTexts.index (raising (.embeddingError .timeout "timed out")) 0 .direct
          false acceptedVersion) := by
  have hload : acceptedVersion.loadSnapshot 0 = .ok acceptedSnapshot := by rfl
  refine ⟨hload, (recorded_iff hload (by decide) (by decide +kernel)).mpr (.inr ?_)⟩
  exact ⟨_, .embeddingError .timeout "timed out", rfl, by decide +kernel, rfl⟩

/-- **The budget is exhausted when a version is indexed again**, and its record is left as
indexing. -/
theorem left_indexing :
    acceptedVersion.loadSnapshot 0 = .ok acceptedSnapshot ∧
      (MemorySystem.wholeTexts.index exhausted 0 .direct false acceptedVersion).indexRecords 0 =
        some .indexing ∧
      ¬FailureRecorded MemorySystem.wholeTexts 0 acceptedVersion
        (MemorySystem.wholeTexts.index exhausted 0 .direct false acceptedVersion) := by
  have hindexing : (MemorySystem.wholeTexts.index exhausted 0 .direct false
      acceptedVersion).indexRecords 0 = some .indexing := by decide +kernel
  refine ⟨rfl, hindexing, fun h => ?_⟩
  exact absurd (hindexing.symm.trans h.failed) (by simp)

end MemoryIndexService

end StoryForge.Memory
