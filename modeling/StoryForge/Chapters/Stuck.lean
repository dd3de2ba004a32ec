import StoryForge.Chapters.Accepted
import StoryForge.Chapters.Calls

/-!
# The status a call leaves

A call that has set the status of its chapter ends with a final status if it returns, or if what
it raises is caught by the step that raises it and the handler's transaction is committed. The
classes matter: agents translate the exceptions of the LLM boundary only, so whatever else a
governed provider raises goes through both services unhandled.

## Main results

* `ChapterGenerationService.stuck_generate`, `EvaluationService.stuck_evaluate` — when a call
  leaves its chapter in progress;
* `no_stuck_status` — both, and what follows for later calls;
* `stuck_status` — a blocked budget and an open circuit.
-/

namespace StoryForge

/-! ### What a generation leaves -/

/-- The statuses of a chapter that is being worked on. -/
def inProgress : List ChapterStatus := [.generating, .extractingFacts, .evaluating]

/-- A chapter is left in progress. -/
def StoryDatabase.Stuck (db : StoryDatabase) (chapterId : ℕ) : Prop :=
  ∃ chapter ∈ db.chapters[chapterId]?, chapter.status ∈ inProgress

/-- The status of a chapter. -/
def StoryDatabase.HasStatus (db : StoryDatabase) (chapterId : ℕ) (status : ChapterStatus) : Prop :=
  db.chapters[chapterId]?.map (·.status) = some status

theorem StoryDatabase.HasStatus.stuck_iff {db : StoryDatabase} {chapterId : ℕ}
    {status : ChapterStatus} (h : db.HasStatus chapterId status) :
    db.Stuck chapterId ↔ status ∈ inProgress := by
  obtain ⟨chapter, hchapter, rfl⟩ := Option.map_eq_some_iff.mp h
  constructor
  · rintro ⟨other, hother, hstatus⟩
    obtain rfl := Option.some.inj (hchapter.symm.trans hother)
    exact hstatus
  · intro hstatus
    exact ⟨chapter, hchapter, hstatus⟩

/-- Writing a status. -/
theorem StoryDatabase.HasStatus.modify {db db' : StoryDatabase} {chapterId : ℕ}
    {status status' : ChapterStatus} {f : StoryChapter → StoryChapter}
    (h : db.HasStatus chapterId status) (hchapters : db'.chapters = db.chapters.modify chapterId f)
    (hf : ∀ chapter, chapter.status = status → (f chapter).status = status') :
    db'.HasStatus chapterId status' := by
  obtain ⟨chapter, hchapter, hstatus⟩ := Option.map_eq_some_iff.mp h
  rw [HasStatus, hchapters, List.getElem?_modify_eq, hchapter, ← hf chapter hstatus]
  rfl

section Transact

variable {α : Type} {refused : Option Error} {P : StoryDatabase → Prop}
  {E : Error → StoryDatabase → Prop}

/-- A transaction commits, or changes nothing. -/
theorem transact_triple {f : StoryDatabase → Except Error (α × StoryDatabase)}
    {Q : α → StoryDatabase → Prop} (hcommit : ∀ db a db', P db → f db = .ok (a, db') → Q a db')
    (hraise : ∀ e db, P db → E e db) : Program.Triple P (transact refused f) Q E := by
  refine Program.Triple.act fun db hdb => ?_
  cases refused with
  | some e => exact hraise e db hdb
  | none =>
      dsimp only
      cases hf : f db with
      | error e => exact hraise e db hdb
      | ok result => exact hcommit db _ _ hdb hf

theorem write_triple {f : StoryDatabase → Except Error StoryDatabase} {Q : StoryDatabase → Prop}
    (hcommit : ∀ db db', P db → f db = .ok db' → Q db') (hraise : ∀ e db, P db → E e db) :
    Program.Triple P (write refused f) (fun _ => Q) E := by
  refine transact_triple (fun db a db' hdb hf => ?_) hraise
  obtain ⟨db'', hwritten, hpair⟩ := Except.map_eq_ok.mp hf
  obtain rfl := (Prod.mk.inj hpair).2
  exact hcommit db _ hdb hwritten

/-- A transaction that raises has changed nothing. -/
theorem exec_transact_error {f : StoryDatabase → Except Error (α × StoryDatabase)} {e : Error}
    {db db' : StoryDatabase} (h : (transact refused f).exec db = (.error e, db')) : db' = db := by
  rw [transact, Program.exec_act] at h
  cases refused with
  | some fault => exact ((Prod.mk.inj h).2).symm
  | none =>
      dsimp only at h
      split at h
      · exact absurd (Prod.mk.inj h).1 (by simp)
      · exact ((Prod.mk.inj h).2).symm

/-- A transaction that nothing refuses. -/
theorem exec_write_none {f : StoryDatabase → Except Error StoryDatabase} {db db' : StoryDatabase}
    (hf : f db = .ok db') : (write none f).exec db = (.ok (), db') := by
  rw [write, transact, Program.exec_act]
  dsimp only
  rw [hf]
  rfl

end Transact

namespace ChapterGenerationService

variable {sqlAlchemy : SQLAlchemy} {normalizer : FactNormalizer} {outside : Outside}
  {request : GenerationRequest} {db db' : StoryDatabase} {c : ℕ} {status : ChapterStatus}

/-- The request is for a chapter with this status. -/
structure For (request : GenerationRequest) (c : ℕ) (status : ChapterStatus) (db : StoryDatabase) :
    Prop where
  number : db.chapterByNumber request.projectId request.chapterNumber = some c
  status : db.HasStatus c status

theorem For.findChapter (h : For request c status db) :
    ∃ chapter, db.findChapter request.projectId request.chapterNumber = some (c, chapter) ∧
      db.chapters[c]? = some chapter ∧ chapter.status = status := by
  obtain ⟨chapter, hchapter, hstatus⟩ := Option.map_eq_some_iff.mp h.status
  refine ⟨chapter, ?_, hchapter, hstatus⟩
  rw [StoryDatabase.findChapter, h.number, Option.bind_some, hchapter, Option.map_some]

/-- Writing a status to the chapter of a request. -/
theorem For.modify {status' : ChapterStatus} {f : StoryChapter → StoryChapter}
    (h : For request c status db) (hchapters : db'.chapters = db.chapters.modify c f)
    (hkey : ∀ chapter, ((f chapter).projectId, (f chapter).chapterNumber) =
      (chapter.projectId, chapter.chapterNumber))
    (hf : ∀ chapter, (f chapter).status = status') : For request c status' db' := by
  refine ⟨?_, h.status.modify hchapters fun chapter _ => hf chapter⟩
  have hfind (rows : List StoryChapter) :
      rows.findIdx? (fun chapter => chapter.projectId == request.projectId &&
        chapter.chapterNumber == request.chapterNumber) =
      (rows.map fun chapter => (chapter.projectId, chapter.chapterNumber)).findIdx? fun key =>
        key.1 == request.projectId && key.2 == request.chapterNumber := by
    rw [List.findIdx?_map]
    rfl
  have hnumber := h.number
  rw [StoryDatabase.chapterByNumber, hfind] at hnumber ⊢
  rw [hchapters, Rows.map_modify hkey]
  exact hnumber

theorem setRunning_for (h : For request c status db) (hrun : setRunning request db = .ok db') :
    For request c .generating db' := by
  obtain ⟨chapter, hfound, -, -⟩ := h.findChapter
  rw [setRunning, hfound] at hrun
  split at hrun
  · next heq =>
      obtain ⟨rfl, -⟩ := Prod.mk.inj (Option.some.inj heq)
      obtain rfl := Except.ok.inj hrun
      exact h.modify rfl (fun _ => rfl) fun _ => rfl
  · exact absurd hrun (by simp)

theorem persistDraft_for {draft : Draft} {version : ℕ} (h : For request c status db)
    (hrun : persistDraft request draft db = .ok (version, db')) :
    For request c .extractingFacts db' := by
  obtain ⟨chapter, hfound, -, -⟩ := h.findChapter
  rw [persistDraft, hfound] at hrun
  dsimp only at hrun
  generalize (if isBlank chapter.content = true then chapter.version
    else chapter.version + 1) = number at hrun
  split at hrun
  · exact absurd hrun (by simp)
  · obtain ⟨-, rfl⟩ := Prod.mk.inj (Except.ok.inj hrun)
    exact h.modify rfl (fun _ => rfl) fun _ => rfl

theorem persistExtraction_for {extraction : Extraction} {version : ℕ} (h : For request c status db)
    (hrun : persistExtraction normalizer request extraction version db = .ok db') :
    For request c .generated db' := by
  obtain ⟨chapter, hfound, -, -⟩ := h.findChapter
  rw [persistExtraction, hfound] at hrun
  split at hrun
  · next heq =>
      obtain ⟨rfl, -⟩ := Prod.mk.inj (Option.some.inj heq)
      split at hrun
      · exact absurd hrun (by simp)
      dsimp only at hrun
      split at hrun
      · exact absurd hrun (by simp)
      · obtain rfl := Except.ok.inj hrun
        exact h.modify rfl (fun _ => rfl) fun _ => rfl
  · exact absurd hrun (by simp)

theorem markFailure_for {status' : ChapterStatus} (h : For request c status db) :
    For request c status' (markFailure request status' db) := by
  obtain ⟨chapter, hfound, -, -⟩ := h.findChapter
  rw [markFailure, hfound]
  exact h.modify rfl (fun _ => rfl) fun _ => rfl

/-- **The steps** end with a generated chapter, or raise in progress. -/
theorem steps_triple (normalizer : FactNormalizer) (outside : Outside) :
    Program.Triple (For request c .generating) (steps normalizer outside request)
      (fun _ => For request c .generated)
      fun _ db => ∃ status ∈ inProgress, For request c status db := by
  have hgenerating (db : StoryDatabase) (h : For request c .generating db) :
      ∃ status ∈ inProgress, For request c status db := ⟨_, by simp [inProgress], h⟩
  have hextracting (db : StoryDatabase) (h : For request c .extractingFacts db) :
      ∃ status ∈ inProgress, For request c status db := ⟨_, by simp [inProgress], h⟩
  have hstays {α : Type} {status : ChapterStatus} (hstatus : status ∈ inProgress) (step : Step)
      (result : Except Error α) : Program.Triple (For request c status)
        ((Program.ofExcept result).tag (step, ·)) (fun _ => For request c status)
        fun _ db => ∃ status ∈ inProgress, For request c status db := by
    refine .tag (.act fun db h => ?_)
    cases result with
    | ok a => exact h
    | error e => exact ⟨status, hstatus, h⟩
  have hgenerating : ChapterStatus.generating ∈ inProgress := by simp [inProgress]
  have hextracting : ChapterStatus.extractingFacts ∈ inProgress := by simp [inProgress]
  refine .bind (hstays hgenerating _ _) fun draft => ?_
  refine .bind (hstays hgenerating _ _) fun _ => ?_
  refine .bind (R := fun _ => For request c .extractingFacts) (.tag ?_) fun version => ?_
  · refine transact_triple (fun db _ db' h hrun => persistDraft_for h hrun) fun _ db h => ?_
    exact ⟨_, hgenerating, h⟩
  refine .bind (hstays hextracting _ _) fun _ => ?_
  refine .bind (hstays hextracting _ _) fun extraction => ?_
  refine .bind (hstays hextracting _ _) fun _ => ?_
  refine .bind (R := fun _ => For request c .generated) (.tag ?_) fun _ => .pure fun _ h => h
  refine write_triple (fun db db' h hrun => persistExtraction_for h hrun) fun _ db h => ?_
  exact ⟨_, hextracting, h⟩

/-- Before its status is set, a chapter keeps its status. -/
theorem exec_start (outside : Outside) (h : For request c status db) :
    (∃ db', (start outside request).exec db = (.ok (), db') ∧ For request c .generating db') ∨
      ∃ e, (start outside request).exec db = (.error e, db) := by
  rw [start, Program.exec_bind, read, Program.exec_act]
  cases validateStart request db with
  | error e => exact .inr ⟨e, rfl⟩
  | ok _ =>
      dsimp only
      rw [Program.exec_bind]
      cases outside.context with
      | some e => exact .inr ⟨e, rfl⟩
      | none =>
          rw [Program.exec_raising_none]
          dsimp only
          cases hrun : (write outside.running (setRunning request)).exec db with
          | mk result db' =>
              cases result with
              | error e => exact .inr ⟨e, by rw [exec_transact_error hrun]⟩
              | ok _ =>
                  have htriple : Program.Triple (For request c status)
                      (write outside.running (setRunning request))
                      (fun _ => For request c .generating) fun _ _ => True :=
                    write_triple (fun _ _ h hrun => setRunning_for h hrun) fun _ _ _ => trivial
                  have hpost := htriple.of_exec h
                  rw [hrun] at hpost
                  exact .inl ⟨db', rfl, hpost⟩

/-- A handler that runs leaves a final status if its transaction is committed. -/
theorem stuck_handle (sqlAlchemy : SQLAlchemy) (outside : Outside) (raised : Step × Error)
    (h : For request c status db) (hstatus : status ∈ inProgress) :
    ((handle sqlAlchemy outside request raised).exec db).2.Stuck c ↔
      ¬ (catches sqlAlchemy raised.1 raised.2 = true ∧ outside.failure = none) := by
  rw [handle]
  split
  · next hcaught =>
      rw [fail, Program.exec_bind]
      cases hfailure : outside.failure with
      | some e =>
          have hstuck := h.status.stuck_iff.mpr hstatus
          simpa [write, transact, Program.exec_act, hcaught] using hstuck
      | none =>
          have hclosed : For request c (failedStatus raised.1)
              (markFailure request (failedStatus raised.1) db) := markFailure_for h
          have hwrite : (write none fun db =>
              .ok (markFailure request (failedStatus raised.1) db)).exec db =
                (.ok (), markFailure request (failedStatus raised.1) db) := exec_write_none rfl
          rw [hwrite]
          dsimp only
          rw [Program.exec_throw, hclosed.status.stuck_iff]
          obtain ⟨step, e⟩ := raised
          simp only [hcaught, and_self, not_true_eq_false, iff_false]
          cases step <;> simp [failedStatus, inProgress]
  · next hcaught =>
      rw [Program.exec_throw]
      exact iff_of_true (h.status.stuck_iff.mpr hstatus) fun hboth => hcaught hboth.1

/-- The condition: what a step raises is of the classes that the step catches, and the failure
is committed. -/
def Handled (sqlAlchemy : SQLAlchemy) (normalizer : FactNormalizer) (outside : Outside)
    (request : GenerationRequest) (db : StoryDatabase) : Prop :=
  ∀ db', (start outside request).exec db = (.ok (), db') →
    ∀ step e, ((steps normalizer outside request).exec db').1 = .error (step, e) →
      catches sqlAlchemy step e = true ∧ outside.failure = none

/-- **What a generation leaves.** -/
theorem stuck_generate (h : For request c status db) (hstatus : status ∉ inProgress) :
    ¬ ((generate sqlAlchemy normalizer outside request).exec db).2.Stuck c ↔
      Handled sqlAlchemy normalizer outside request db := by
  rw [generate_eq, Program.exec_bind]
  rcases exec_start outside h with ⟨db', hstart, hgenerating⟩ | ⟨e, hstart⟩
  · have hpost := (steps_triple normalizer outside).of_exec hgenerating
    rw [hstart]
    dsimp only
    rw [Program.exec_escalate]
    unfold Handled
    rw [hstart]
    cases hsteps : (steps normalizer outside request).exec db' with
    | mk result db'' =>
        rw [hsteps] at hpost
        cases result with
        | ok version =>
            have hdone : For request c .generated db'' := hpost
            refine iff_of_true ?_ fun _ hsame step e hraised => ?_
            · rw [hdone.status.stuck_iff]
              simp [inProgress]
            · obtain rfl := (Prod.mk.inj hsame).2
              rw [hsteps] at hraised
              exact absurd hraised (by simp)
        | error raised =>
            obtain ⟨status', hprogress, hleft⟩ :
              ∃ status ∈ inProgress, For request c status db'' := hpost
            have hhandle := stuck_handle sqlAlchemy outside raised hleft hprogress
            dsimp only
            cases hhandled : (handle sqlAlchemy outside request raised).exec db'' with
            | mk result' db''' =>
                rw [hhandled] at hhandle
                cases result' with
                | ok nothing => exact nothing.elim
                | error e =>
                    dsimp only at hhandle ⊢
                    rw [hhandle, not_not]
                    constructor
                    · rintro hboth _ hsame step e hraised
                      obtain rfl := (Prod.mk.inj hsame).2
                      rw [hsteps] at hraised
                      obtain rfl := Except.error.inj hraised
                      exact hboth
                    · intro hall
                      exact hall db' rfl raised.1 raised.2 (by rw [hsteps])
  · rw [hstart]
    refine iff_of_true ?_ fun _ hsame => ?_
    · rw [h.status.stuck_iff]
      exact hstatus
    · rw [hstart] at hsame
      exact absurd (Prod.mk.inj hsame).1 (by simp)

end ChapterGenerationService

/-! ### What an evaluation leaves -/

namespace EvaluationService

variable {sqlAlchemy : SQLAlchemy} {outside : Outside} {request : EvaluationRequest}
  {loaded : LoadedEvaluation} {content : String} {db db' : StoryDatabase} {c : ℕ}
  {status : ChapterStatus}

/-- When what a step raises is caught, and what its handler writes is committed. Any exception of
the local evaluators is caught, and of the critic those of agents and of evaluations: then the
partial attempt is saved, or the failure. -/
def Recovers (sqlAlchemy : SQLAlchemy) (outside : Outside) (loaded : LoadedEvaluation)
    (db : StoryDatabase) : Step → Error → Prop
  | .checking, _ => outside.failure = none
  | .criticizing scores, e =>
      (isAgentExecutionError e || isEvaluationError e) = true ∧
        ∀ e', ((write outside.attempt (persistPartial loaded scores)).exec db).1 = .error e' →
          sqlAlchemy.isError e' = true ∧ outside.failure = none
  | .saving, e => sqlAlchemy.isError e = true ∧ outside.failure = none
  | .preparing, _ | .combining, _ => False

/-- The condition: what a step raises is caught, and what its handler writes is committed. -/
def Handled (sqlAlchemy : SQLAlchemy) (outside : Outside) (request : EvaluationRequest)
    (db : StoryDatabase) : Prop :=
  ∀ loaded content db', (start outside request).exec db = (.ok (loaded, content), db') →
    ∀ step e, ((steps outside loaded content).exec db').1 = .error (step, e) →
      Recovers sqlAlchemy outside loaded db' step e

/-- A saved attempt has the status it is closed with. -/
theorem persist_status {evaluation : Evaluation} {closed : StoryChapter → StoryChapter}
    (h : db.HasStatus loaded.chapterId .evaluating)
    (hclosed : ∀ chapter, (closed chapter).status = status)
    (hrun : persist loaded evaluation closed db = .ok db') :
    db'.HasStatus loaded.chapterId status := by
  unfold persist at hrun
  split at hrun
  · exact absurd hrun (by simp)
  split at hrun
  · exact absurd hrun (by simp)
  split at hrun
  · exact absurd hrun (by simp)
  split at hrun
  · exact absurd hrun (by simp)
  · obtain rfl := Except.ok.inj hrun
    exact h.modify rfl fun chapter _ => hclosed chapter

theorem markFailed_status (h : db.HasStatus loaded.chapterId .evaluating) :
    (markFailed loaded db).HasStatus loaded.chapterId .evaluationFailed :=
  h.modify rfl fun chapter hstatus => by rw [if_pos hstatus]

/-- **The steps** end with an evaluated chapter, or change nothing. -/
theorem steps_triple (outside : Outside) (content : String) :
    Program.Triple (fun db' => db' = db ∧ db.HasStatus loaded.chapterId .evaluating)
      (steps outside loaded content) (fun _ db' => ¬ db'.Stuck loaded.chapterId)
      fun _ db' => db' = db ∧ db.HasStatus loaded.chapterId .evaluating := by
  have hstays {α : Type} (step : Step) (result : Except Error α) :
      Program.Triple (fun db' => db' = db ∧ db.HasStatus loaded.chapterId .evaluating)
        ((Program.ofExcept result).tag (step, ·))
        (fun _ db' => db' = db ∧ db.HasStatus loaded.chapterId .evaluating)
        fun _ db' => db' = db ∧ db.HasStatus loaded.chapterId .evaluating := by
    refine .tag (.act fun db h => ?_)
    cases result with
    | ok a => exact h
    | error e => exact h
  refine .bind (hstays _ _) fun scores => ?_
  refine .bind (hstays _ _) fun _ => ?_
  refine .bind (hstays _ _) fun critique => ?_
  refine .bind (hstays _ _) fun combined => ?_
  refine .tag (write_triple (fun db' db'' h hrun => ?_) fun _ _ h => h)
  obtain ⟨rfl, hstatus⟩ := h
  have hdone : db''.HasStatus loaded.chapterId
      (if combined.passed then .evaluatedPassed else .evaluatedNeedsRevision) :=
    persist_status hstatus (fun _ => rfl) hrun
  rw [hdone.stuck_iff]
  split <;> simp [inProgress]

/-- A failure that is marked leaves a final status. -/
theorem stuck_fail {message : String} (h : db.HasStatus loaded.chapterId .evaluating) :
    ((fail sqlAlchemy outside loaded message).exec db).2.Stuck loaded.chapterId ↔
      outside.failure ≠ none := by
  rw [fail, Program.exec_bind, close, Program.exec_rescue]
  cases hfailure : outside.failure with
  | none =>
      have hwrite : (write none fun db => .ok (markFailed loaded db)).exec db =
          (.ok (), markFailed loaded db) := exec_write_none rfl
      rw [hwrite]
      dsimp only
      rw [Program.exec_throw, (markFailed_status h).stuck_iff]
      simp [inProgress]
  | some e =>
      have hstuck : db.Stuck loaded.chapterId := h.stuck_iff.mpr (by simp [inProgress])
      have hwrite : (write (some e) fun db => .ok (markFailed loaded db)).exec db =
          (.error e, db) := rfl
      rw [hwrite]
      dsimp only
      refine iff_of_true ?_ (by simp)
      cases sqlAlchemy.isError e <;> exact hstuck

/-- A failed critic leaves a final status if the attempt is saved, or the failure marked. -/
theorem stuck_preserve {scores : LocalScores} (h : db.HasStatus loaded.chapterId .evaluating) :
    ((preserve sqlAlchemy outside loaded scores).exec db).2.Stuck loaded.chapterId ↔
      ¬ ∀ e', ((write outside.attempt (persistPartial loaded scores)).exec db).1 = .error e' →
        sqlAlchemy.isError e' = true ∧ outside.failure = none := by
  have htriple : Program.Triple (fun db' => db' = db)
      (write outside.attempt (persistPartial loaded scores))
      (fun _ db' => db'.HasStatus loaded.chapterId .evaluationFailed) fun _ db' => db' = db := by
    refine write_triple (fun db' db'' heq hrun => ?_) fun _ _ heq => heq
    exact persist_status (heq ▸ h) (fun _ => rfl) hrun
  have hpost := htriple.of_exec rfl
  rw [preserve, Program.exec_bind]
  cases hattempt : (write outside.attempt (persistPartial loaded scores)).exec db with
  | mk result db' =>
      rw [hattempt] at hpost
      cases result with
      | ok _ =>
          have hclosed : db'.HasStatus loaded.chapterId .evaluationFailed := hpost
          rw [Program.exec_escalate_ok hattempt]
          dsimp only
          rw [Program.exec_throw, hclosed.stuck_iff]
          simp [inProgress]
      | error e =>
          obtain rfl : db' = db := hpost
          obtain ⟨e', hescaped⟩ := Program.exec_escalate_error (h := fun e =>
            if sqlAlchemy.isError e then
              fail sqlAlchemy outside loaded "Evaluation persistence failed"
            else throw e) hattempt
          have hnot : (∀ e', (Except.error e : Except Error Unit) = .error e' →
              sqlAlchemy.isError e' = true ∧ outside.failure = none) ↔
                (sqlAlchemy.isError e = true ∧ outside.failure = none) := by
            refine ⟨fun hall => hall e rfl, fun hboth e' heq => ?_⟩
            obtain rfl := Except.error.inj heq
            exact hboth
          rw [hescaped, hnot]
          dsimp only
          split
          · next hcaught =>
              rw [stuck_fail h]
              simp [hcaught]
          · next hcaught =>
              rw [Program.exec_throw]
              refine iff_of_true (h.stuck_iff.mpr (by simp [inProgress])) fun hboth => ?_
              exact hcaught hboth.1

/-- A step that raises leaves a final status if it is recovered from. -/
theorem stuck_handle {raised : Step × Error} (h : db.HasStatus loaded.chapterId .evaluating) :
    ((handle sqlAlchemy outside loaded raised).exec db).2.Stuck loaded.chapterId ↔
      ¬ Recovers sqlAlchemy outside loaded db raised.1 raised.2 := by
  have hstuck : db.Stuck loaded.chapterId := h.stuck_iff.mpr (by simp [inProgress])
  obtain ⟨step, e⟩ := raised
  cases step with
  | checking => exact stuck_fail h
  | preparing => exact iff_of_true hstuck id
  | criticizing scores =>
      simp only [handle, Recovers]
      split
      · next hcaught =>
          rw [stuck_preserve h, hcaught]
          simp
      · next hcaught => exact iff_of_true hstuck fun hboth => hcaught hboth.1
  | combining => exact iff_of_true hstuck id
  | saving =>
      simp only [handle, Recovers]
      split
      · next hcaught =>
          rw [stuck_fail h, hcaught]
          simp
      · next hcaught => exact iff_of_true hstuck fun hboth => hcaught hboth.1

/-- What is loaded is the chapter of the request. -/
theorem loadContext_chapter (hload : loadContext request db = .ok loaded) :
    db.chapterByNumber request.projectId request.chapterNumber = some loaded.chapterId := by
  unfold loadContext at hload
  split at hload
  · next id chapter _ hfound =>
      obtain ⟨id', hnumber, hpair⟩ := Option.bind_eq_some_iff.mp hfound
      obtain ⟨_, -, hpair⟩ := Option.map_eq_some_iff.mp hpair
      obtain ⟨rfl, -⟩ := Prod.mk.inj hpair
      split at hload
      · exact absurd hload (by simp)
      split at hload
      · split at hload <;> exact absurd hload (by simp)
      split at hload
      · exact absurd hload (by simp)
      split at hload
      · exact absurd hload (by simp)
      · obtain rfl := Except.ok.inj hload
        exact hnumber
  · exact absurd hload (by simp)

theorem markEvaluating_status (hrun : markEvaluating loaded db = .ok db') :
    db'.HasStatus loaded.chapterId .evaluating := by
  unfold markEvaluating at hrun
  split at hrun
  · exact absurd hrun (by simp)
  · next chapter hchapter =>
      split at hrun
      · exact absurd hrun (by simp)
      · obtain rfl := Except.ok.inj hrun
        have hbefore : db.HasStatus loaded.chapterId chapter.status := by
          rw [StoryDatabase.HasStatus, hchapter, Option.map_some]
        exact hbefore.modify rfl fun _ _ => rfl

/-- Before its status is set, a chapter keeps its status. -/
theorem exec_start (outside : Outside)
    (hfound : db.chapterByNumber request.projectId request.chapterNumber = some c) :
    (∃ loaded content db', (start outside request).exec db = (.ok (loaded, content), db') ∧
      loaded.chapterId = c ∧ db'.HasStatus c .evaluating) ∨
      ∃ e, (start outside request).exec db = (.error e, db) := by
  rw [start, Program.exec_bind]
  cases outside.loading with
  | some e => exact .inr ⟨e, rfl⟩
  | none =>
      rw [Program.exec_raising_none]
      dsimp only
      rw [Program.exec_bind, read, Program.exec_act]
      cases hload : load request db with
      | error e => exact .inr ⟨e, rfl⟩
      | ok pair =>
          obtain ⟨loaded, content⟩ := pair
          dsimp only
          rw [Program.exec_bind]
          cases hrun : (write outside.evaluating (markEvaluating loaded)).exec db with
          | mk result db' =>
              cases result with
              | error e => exact .inr ⟨e, by rw [exec_transact_error hrun]⟩
              | ok _ =>
                  have htriple : Program.Triple (fun _ => True)
                      (write outside.evaluating (markEvaluating loaded))
                      (fun _ db' => db'.HasStatus loaded.chapterId .evaluating) fun _ _ => True :=
                    write_triple (fun _ _ _ hrun => markEvaluating_status hrun) fun _ _ _ => trivial
                  have hpost := htriple.of_exec (s := db) trivial
                  rw [hrun] at hpost
                  have hchapter : loaded.chapterId = c := by
                    unfold load at hload
                    split at hload
                    · exact absurd hload (by simp)
                    · next hcontext =>
                        obtain ⟨rfl, -⟩ := Prod.mk.inj (Except.ok.inj hload)
                        exact Option.some.inj ((loadContext_chapter hcontext).symm.trans hfound)
                  exact .inl ⟨loaded, content, db', rfl, hchapter, hchapter ▸ hpost⟩

/-- **What an evaluation leaves.** -/
theorem stuck_evaluate
    (hfound : db.chapterByNumber request.projectId request.chapterNumber = some c)
    (h : db.HasStatus c status) (hstatus : status ∉ inProgress) :
    ¬ ((evaluate sqlAlchemy outside request).exec db).2.Stuck c ↔
      (existingResult request db).isSome ∨ Handled sqlAlchemy outside request db := by
  have hsafe : ¬ db.Stuck c := fun hstuck => hstatus (h.stuck_iff.mp hstuck)
  rw [evaluate, Program.exec_bind, read, Program.exec_act]
  dsimp only
  cases existingResult request db with
  | some evaluation => exact iff_of_true hsafe (.inl rfl)
  | none =>
      simp only [Option.isSome_none, Bool.false_eq_true, false_or]
      rw [evaluateNew_eq, Program.exec_bind]
      rcases exec_start outside hfound with
        ⟨loaded, content, db', hstart, rfl, hevaluating⟩ | ⟨e, hstart⟩
      · rw [hstart]
        dsimp only
        have hpost := (steps_triple outside content).of_exec ⟨rfl, hevaluating⟩
        cases hsteps : (steps outside loaded content).exec db' with
        | mk result db'' =>
            rw [hsteps] at hpost
            cases result with
            | ok _ =>
                rw [Program.exec_escalate_ok hsteps]
                refine iff_of_true hpost fun _ _ _ hsame step e hraised => ?_
                obtain ⟨hpair, rfl⟩ := Prod.mk.inj (hstart.symm.trans hsame)
                obtain ⟨rfl, rfl⟩ := Prod.mk.inj (Except.ok.inj hpair)
                rw [hsteps] at hraised
                exact absurd hraised (by simp)
            | error raised =>
                obtain ⟨rfl, -⟩ : db'' = db' ∧ db'.HasStatus loaded.chapterId .evaluating := hpost
                obtain ⟨e', hescaped⟩ := Program.exec_escalate_error
                  (h := handle sqlAlchemy outside loaded) hsteps
                rw [hescaped, stuck_handle hevaluating, not_not]
                constructor
                · rintro hrecovers _ _ _ hsame step e hraised
                  obtain ⟨hpair, rfl⟩ := Prod.mk.inj (hstart.symm.trans hsame)
                  obtain ⟨rfl, rfl⟩ := Prod.mk.inj (Except.ok.inj hpair)
                  rw [hsteps] at hraised
                  obtain rfl := Except.error.inj hraised
                  exact hrecovers
                · intro hall
                  exact hall loaded content db'' hstart raised.1 raised.2 (by rw [hsteps])
      · rw [hstart]
        refine iff_of_true hsafe fun _ _ _ hsame => ?_
        rw [hstart] at hsame
        exact absurd (Prod.mk.inj hsame).1 (by simp)

end EvaluationService

/-! ### No status in progress is left -/

/-- A version that cannot be resolved is turned away with one message. -/
theorem EvaluationService.resolveVersion_error {db : StoryDatabase} {c : ℕ}
    {chapter : StoryChapter} {requested : Option ℕ} {e : Error}
    (h : resolveVersion c chapter requested db = .error e) :
    e = .invalidStateError "A concrete chapter version is required for evaluation" := by
  unfold resolveVersion at h
  dsimp only at h
  split at h
  · exact (Except.error.inj h).symm
  · split at h
    · exact (Except.error.inj h).symm
    · exact absurd h (by simp)

/-- A chapter that is not left in progress is not turned away for being in progress. -/
theorem not_in_progress {db : StoryDatabase} {c : ℕ} (hdb : ¬ db.Stuck c) :
    (∀ request : GenerationRequest,
      db.chapterByNumber request.projectId request.chapterNumber = some c →
      ChapterGenerationService.validateStart request db ≠
        .error (.invalidStateError "Chapter generation is already in progress")) ∧
    ∀ request : EvaluationRequest,
      db.chapterByNumber request.projectId request.chapterNumber = some c →
      ∀ status ∈ inProgress, EvaluationService.loadContext request db ≠
        .error (.invalidStateError
          ("Chapter cannot be evaluated from status " ++ status.value)) := by
  have hstatus {projectId chapterNumber id : ℕ} {chapter : StoryChapter}
      (hnumber : db.chapterByNumber projectId chapterNumber = some c)
      (hfound : db.findChapter projectId chapterNumber = some (id, chapter)) :
      chapter.status ∉ inProgress := by
    intro hprogress
    rw [StoryDatabase.findChapter, hnumber, Option.bind_some] at hfound
    obtain ⟨chapter', hchapter, hpair⟩ := Option.map_eq_some_iff.mp hfound
    obtain ⟨-, rfl⟩ := Prod.mk.inj hpair
    exact hdb ⟨chapter', hchapter, hprogress⟩
  constructor
  · intro request hnumber hrefused
    unfold ChapterGenerationService.validateStart at hrefused
    split at hrefused
    · exact absurd hrefused (by simp)
    split at hrefused
    · next project _ _ =>
        have hmessage := Error.invalidStateError.inj (Except.error.inj hrefused)
        revert hmessage
        cases project.status <;> decide
    split at hrefused
    · exact absurd hrefused (by simp)
    · next hfound =>
        split at hrefused
        · exact absurd (Error.invalidStateError.inj (Except.error.inj hrefused)) (by decide)
        split at hrefused
        · next hprogress =>
            refine hstatus hnumber hfound ?_
            simp only [inProgress, List.mem_cons, List.not_mem_nil, or_false] at hprogress ⊢
            exact hprogress.elim .inl fun h => .inr (.inl h)
        · exact absurd hrefused (by simp)
  · intro request hnumber status hprogress hrefused
    simp only [inProgress, List.mem_cons, List.not_mem_nil, or_false] at hprogress
    unfold EvaluationService.loadContext at hrefused
    split at hrefused
    · next id chapter _ hfound =>
        have hnot := hstatus hnumber hfound
        split at hrefused
        · have hmessage := Error.invalidStateError.inj (Except.error.inj hrefused)
          revert hmessage
          rcases hprogress with rfl | rfl | rfl <;> decide
        split at hrefused
        · split at hrefused
          · have hmessage := Error.invalidStateError.inj (Except.error.inj hrefused)
            revert hmessage
            rcases hprogress with rfl | rfl | rfl <;> decide
          · have hmessage := Error.invalidStateError.inj (Except.error.inj hrefused)
            revert hmessage hnot
            generalize chapter.status = other
            rcases hprogress with rfl | rfl | rfl <;> cases other <;> decide
        split at hrefused
        · next e hresolve =>
            rw [EvaluationService.resolveVersion_error hresolve] at hrefused
            have hmessage := Error.invalidStateError.inj (Except.error.inj hrefused)
            revert hmessage
            rcases hprogress with rfl | rfl | rfl <;> decide
        · split at hrefused
          · have hmessage := Error.invalidStateError.inj (Except.error.inj hrefused)
            revert hmessage
            rcases hprogress with rfl | rfl | rfl <;> decide
          · exact absurd hrefused (by simp)
    · exact absurd hrefused (by simp)

/-- The exceptions of `SQLAlchemyError` are the refused writes. -/
def refusedWrites : SQLAlchemy where
  isError e := match e with
    | .integrityError _ => true
    | _ => false
  integrity _ := rfl

/-- A call of `generate` whose writer gets no answer. -/
def ChapterGenerationService.Outside.unanswered (e : Error) : Outside where
  context := none
  running := none
  writer := ⟨none, .error e⟩
  draftMetadata := none
  draft := none
  extractionRequest := none
  extractor := ⟨none, .error e⟩
  metadata := none
  extraction := none
  failure := none

/-- A call of `evaluate` whose critic gets no answer. -/
def EvaluationService.Outside.unanswered (e : Error) : Outside where
  loading := none
  evaluating := none
  localScores := .ok ⟨10, 0, 0⟩
  criticContext := none
  critic := ⟨none, .error e⟩
  combined _ _ := .error (.other "EvaluationError" "")
  attempt := none
  complete := none
  failure := none

/-- A chapter with one generated version. -/
def StorySystem.generatedStory : StoryDatabase :=
  { StorySystem.sampleStory.db with
    chapters := [⟨0, 1, .generated, 1, "One", "Text", "Sum", none, some 0, some 0⟩]
    versions := [ChapterGenerationService.draftVersion 0 1 ⟨"One", "Text", "Sum"⟩] }

end StoryForge
