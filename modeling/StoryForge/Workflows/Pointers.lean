import StoryForge.Library.Listing
import StoryForge.Library.Rewritten
import StoryForge.Workflows.Revisions
import StoryForge.Workflows.System

/-!
# The pointers of the chapter tables

Chapters, runs and versions point to versions. Every transaction of the chapter services keeps
each pointer within its chapter: runs and versions stay with the chapter they were made for, a
version under the key of a run is of the chapter of that run, and the chapter of a completed run
has an accepted version.

## Main results

* `ChapterVersionService.WrittenBy.unique` — a key of a run is that of no other run;
* `StoryDatabase.Coherent.rewrite` — writes in place keep the pointers in order;
* `ChapterVersionService.acceptVersion_succeeds` and its like — so do the transactions.
-/

namespace StoryForge

/-! ### Keys -/

/-- The texts of numbers have digits only. -/
theorem toList_toString (n : ℕ) : (toString n).toList = Nat.toDigits 10 n := by
  simp [toString, Nat.repr]

/-- The number of a run and what follows it can be read off a key. -/
theorem runKey_inj {r r' : ℕ} {rest rest' : List Char} {tail tail' : String}
    (htail : tail.toList = ':' :: rest) (htail' : tail'.toList = ':' :: rest')
    (h : "workflow:" ++ toString r ++ tail = "workflow:" ++ toString r' ++ tail') :
    r = r' ∧ tail = tail' := by
  have hdigits (n : ℕ) : ':' ∉ Nat.toDigits 10 n := fun hmem =>
    absurd (Nat.isDigit_of_mem_toDigits (by decide) (by decide) hmem) (by decide)
  have hlists := congrArg String.toList ((String.append_right_inj _).mp
    ((String.append_assoc.symm.trans h).trans String.append_assoc))
  rw [String.toList_append, String.toList_append, toList_toString, toList_toString, htail,
    htail'] at hlists
  obtain ⟨hnumber, hrest⟩ := Listing.cut_injective (hdigits r) (hdigits r') hlists
  refine ⟨Listing.toDigits_injective hnumber, String.toList_inj.mp ?_⟩
  rw [htail, htail', hrest]

namespace ChapterVersionService

/-- The keys that a run writes versions under. -/
def WrittenBy (r : ℕ) (key : String) : Prop :=
  key = draftKey r ∨ ∃ attempt, key = revisionKey r attempt

theorem WrittenBy.tail {r : ℕ} {key : String} (h : WrittenBy r key) :
    ∃ (tail : String) (rest : List Char),
      key = "workflow:" ++ toString r ++ tail ∧ tail.toList = ':' :: rest := by
  rcases h with rfl | ⟨attempt, rfl⟩
  · exact ⟨":generate_draft:0", _, rfl, rfl⟩
  · exact ⟨":revise_draft:" ++ toString attempt,
      "revise_draft:".toList ++ (toString attempt).toList, String.append_assoc,
      String.toList_append⟩

/-- A key is that of one run. -/
theorem WrittenBy.unique {r r' : ℕ} {key : String} (h : WrittenBy r key)
    (h' : WrittenBy r' key) : r = r' := by
  obtain ⟨tail, rest, rfl, htail⟩ := h.tail
  obtain ⟨tail', rest', heq, htail'⟩ := h'.tail
  exact (runKey_inj htail htail' heq).1

end ChapterVersionService

open ChapterVersionService (WrittenBy draftKey revisionKey)

/-! ### Pointers -/

namespace StoryDatabase

/-- A version, if there is one, is a version of a chapter. -/
def HasVersion (db : StoryDatabase) (chapterId : ℕ) (version : Option ℕ) : Prop :=
  ∀ id ∈ version, db.versions[id]?.map (·.chapterId) = some chapterId

/-- A chapter has an accepted version. -/
def HasAccepted (db : StoryDatabase) (chapterId : ℕ) : Prop :=
  ∃ chapter : StoryChapter, db.chapters[chapterId]? = some chapter ∧
    chapter.acceptedVersionId.isSome = true

/-- The versions that chapters, runs and versions point to are versions of the same chapter, those
under the keys of a run are of its chapter, and the chapter of a completed run has an accepted
version. -/
structure Coherent (db : StoryDatabase) : Prop where
  chapters : ∀ (id : ℕ) (chapter : StoryChapter), db.chapters[id]? = some chapter →
    db.HasVersion id chapter.currentVersionId
  runs : ∀ (id : ℕ) (run : StoryRun), db.runs[id]? = some run →
    db.HasVersion run.chapterId run.currentVersionId ∧
      db.HasVersion run.chapterId run.bestVersionId ∧
        (run.status = .completed → db.HasAccepted run.chapterId)
  versions : ∀ (id : ℕ) (version : ChapterVersion), db.versions[id]? = some version →
    db.HasVersion version.chapterId version.parentVersionId ∧
      ∀ key ∈ version.idempotencyKey, ∀ r, WrittenBy r key →
        ∃ run : StoryRun, db.runs[r]? = some run ∧ run.chapterId = version.chapterId

/-- What every transaction keeps: runs and versions stay with their chapters, chapters keep their
numbers, and a chapter that has an accepted version keeps one. -/
structure Carries (db db' : StoryDatabase) : Prop where
  runs : ∀ (id : ℕ) (run : StoryRun), db.runs[id]? = some run →
    ∃ run' : StoryRun, db'.runs[id]? = some run' ∧ run'.chapterId = run.chapterId
  chapters : ∀ (id : ℕ) (chapter : StoryChapter), db.chapters[id]? = some chapter →
    ∃ chapter' : StoryChapter, db'.chapters[id]? = some chapter' ∧
      chapter'.projectId = chapter.projectId ∧
        chapter'.chapterNumber = chapter.chapterNumber ∧
          (chapter.acceptedVersionId.isSome = true → chapter'.acceptedVersionId.isSome = true)
  versions : ∀ (id : ℕ) (version : ChapterVersion), db.versions[id]? = some version →
    ∃ version' : ChapterVersion, db'.versions[id]? = some version' ∧
      version'.chapterId = version.chapterId

/-- A step to a database whose pointers are in order. -/
structure Succeeds (db db' : StoryDatabase) : Prop extends Carries db db' where
  coherent : db'.Coherent

variable {db db' db'' : StoryDatabase}

theorem Carries.hasVersion (h : Carries db db') {chapterId : ℕ} {version : Option ℕ}
    (hversion : db.HasVersion chapterId version) : db'.HasVersion chapterId version := by
  intro id hid
  obtain ⟨row, hrow, hchapter⟩ := Option.map_eq_some_iff.mp (hversion id hid)
  obtain ⟨row', hrow', heq⟩ := h.versions id row hrow
  rw [hrow', Option.map_some, heq, hchapter]

theorem Carries.chapterByNumber (h : Carries db db') {projectId chapterNumber id : ℕ}
    (hid : db.chapterByNumber projectId chapterNumber = some id) :
    db'.chapterByNumber projectId chapterNumber = some id := by
  refine Rows.findIdx?_of_kept hid fun other row hrow => ?_
  obtain ⟨row', hrow', hproject, hnumber, -⟩ := h.chapters other row hrow
  exact ⟨row', hrow', by rw [hproject, hnumber]⟩

theorem Carries.hasAccepted (h : Carries db db') {chapterId : ℕ}
    (haccepted : db.HasAccepted chapterId) : db'.HasAccepted chapterId := by
  obtain ⟨chapter, hchapter, hsome⟩ := haccepted
  obtain ⟨chapter', hchapter', -, -, hkept⟩ := h.chapters chapterId chapter hchapter
  exact ⟨chapter', hchapter', hkept hsome⟩

theorem Succeeds.refl (h : db.Coherent) : Succeeds db db where
  runs _ run hrun := ⟨run, hrun, rfl⟩
  chapters _ chapter hchapter := ⟨chapter, hchapter, rfl, rfl, id⟩
  versions _ version hversion := ⟨version, hversion, rfl⟩
  coherent := h

theorem Succeeds.trans (h : Succeeds db db') (h' : Succeeds db' db'') : Succeeds db db'' where
  runs id run hrun := by
    obtain ⟨run', hrun', heq⟩ := h.runs id run hrun
    obtain ⟨run'', hrun'', heq'⟩ := h'.runs id run' hrun'
    exact ⟨run'', hrun'', heq'.trans heq⟩
  chapters id chapter hchapter := by
    obtain ⟨chapter', hchapter', hproject, hnumber, haccepted⟩ := h.chapters id chapter hchapter
    obtain ⟨chapter'', hchapter'', hproject', hnumber', haccepted'⟩ :=
      h'.chapters id chapter' hchapter'
    exact ⟨chapter'', hchapter'', hproject'.trans hproject, hnumber'.trans hnumber,
      fun hsome => haccepted' (haccepted hsome)⟩
  versions id version hversion := by
    obtain ⟨version', hversion', heq⟩ := h.versions id version hversion
    obtain ⟨version'', hversion'', heq'⟩ := h'.versions id version' hversion'
    exact ⟨version'', hversion'', heq'.trans heq⟩
  coherent := h'.coherent

/-! ### Writes -/

/-- What a write may do to a chapter. -/
structure ChapterWrite (db : StoryDatabase) (id : ℕ) (chapter chapter' : StoryChapter) : Prop where
  project : chapter'.projectId = chapter.projectId
  number : chapter'.chapterNumber = chapter.chapterNumber
  accepted : chapter.acceptedVersionId.isSome = true → chapter'.acceptedVersionId.isSome = true
  current : db.HasVersion id chapter'.currentVersionId

/-- What a write may do to a version. -/
structure VersionWrite (version version' : ChapterVersion) : Prop where
  chapter : version'.chapterId = version.chapterId
  parent : version'.parentVersionId = version.parentVersionId
  key : version'.idempotencyKey = version.idempotencyKey

/-- What a write may do to a run. -/
structure RunWrite (db db' : StoryDatabase) (run run' : StoryRun) : Prop where
  chapter : run'.chapterId = run.chapterId
  current : db.HasVersion run.chapterId run'.currentVersionId
  best : db.HasVersion run.chapterId run'.bestVersionId
  completed : run'.status = .completed →
    run.status = .completed ∨ db'.HasAccepted run.chapterId

theorem Coherent.sameChapter (h : db.Coherent) (id : ℕ) (chapter : StoryChapter)
    (hchapter : db.chapters[id]? = some chapter) : db.ChapterWrite id chapter chapter where
  project := rfl
  number := rfl
  accepted := fun haccepted => haccepted
  current := h.chapters id chapter hchapter

theorem Coherent.sameRun (h : db.Coherent) (id : ℕ) (run : StoryRun)
    (hrun : db.runs[id]? = some run) : RunWrite db db' run run where
  chapter := rfl
  current := (h.runs id run hrun).1
  best := (h.runs id run hrun).2.1
  completed := .inl

theorem sameVersion (id : ℕ) (version : ChapterVersion)
    (_ : db.versions[id]? = some version) : VersionWrite version version := ⟨rfl, rfl, rfl⟩

/-- **Writes in place** keep the pointers in order. -/
theorem Coherent.rewrite (h : db.Coherent)
    (hchapters : Rows.Rewritten db.ChapterWrite db.chapters db'.chapters)
    (hversions : Rows.Rewritten (fun _ => VersionWrite) db.versions db'.versions)
    (hruns : Rows.Rewritten (fun _ => RunWrite db db') db.runs db'.runs) : Succeeds db db' := by
  have hcarries : Carries db db' := {
    runs := fun id run hrun => by
      obtain ⟨run', hrun', hwrite⟩ := hruns.exists_new hrun
      exact ⟨run', hrun', hwrite.chapter⟩
    chapters := fun id chapter hchapter => by
      obtain ⟨chapter', hchapter', hwrite⟩ := hchapters.exists_new hchapter
      exact ⟨chapter', hchapter', hwrite.project, hwrite.number, hwrite.accepted⟩
    versions := fun id version hversion => by
      obtain ⟨version', hversion', hwrite⟩ := hversions.exists_new hversion
      exact ⟨version', hversion', hwrite.chapter⟩ }
  refine ⟨hcarries, fun id chapter' hchapter' => ?_, fun id run' hrun' => ?_,
    fun id version' hversion' => ?_⟩
  · obtain ⟨chapter, -, hwrite⟩ := hchapters.exists_old hchapter'
    exact hcarries.hasVersion hwrite.current
  · obtain ⟨run, hrun, hwrite⟩ := hruns.exists_old hrun'
    rw [hwrite.chapter]
    refine ⟨hcarries.hasVersion hwrite.current, hcarries.hasVersion hwrite.best, fun hstatus => ?_⟩
    rcases hwrite.completed hstatus with hbefore | haccepted
    · exact hcarries.hasAccepted ((h.runs id run hrun).2.2 hbefore)
    · exact haccepted
  · obtain ⟨version, hversion, hwrite⟩ := hversions.exists_old hversion'
    rw [hwrite.chapter, hwrite.parent, hwrite.key]
    obtain ⟨hparent, hkeys⟩ := h.versions id version hversion
    refine ⟨hcarries.hasVersion hparent, fun key hkey r hwritten => ?_⟩
    obtain ⟨run, hrun, hchapter⟩ := hkeys key hkey r hwritten
    obtain ⟨run', hrun', heq⟩ := hcarries.runs r run hrun
    exact ⟨run', hrun', heq.trans hchapter⟩

/-- A new version. -/
theorem Coherent.addVersion (h : db.Coherent) {version : ChapterVersion}
    (hparent : db.HasVersion version.chapterId version.parentVersionId)
    (hkeys : ∀ key ∈ version.idempotencyKey, ∀ r, WrittenBy r key →
      ∃ run : StoryRun, db.runs[r]? = some run ∧ run.chapterId = version.chapterId) :
    Succeeds db { db with versions := db.versions ++ [version] } := by
  have hcarries : Carries db { db with versions := db.versions ++ [version] } := {
    runs := fun _ run hrun => ⟨run, hrun, rfl⟩
    chapters := fun _ chapter hchapter => ⟨chapter, hchapter, rfl, rfl, fun hsome => hsome⟩
    versions := fun id old hold =>
      ⟨old, (List.getElem?_append_left (List.getElem?_eq_some_iff.mp hold).1).trans hold, rfl⟩ }
  refine ⟨hcarries, fun id chapter hchapter => hcarries.hasVersion (h.chapters id chapter hchapter),
    fun id run hrun => ?_, fun id row hrow => ?_⟩
  · exact (h.runs id run hrun).imp hcarries.hasVersion fun hrest =>
      hrest.imp_left hcarries.hasVersion
  · rcases Rows.getElem?_concat_cases hrow with hold | ⟨-, rfl⟩
    · exact (h.versions id row hold).imp_left hcarries.hasVersion
    · exact ⟨hcarries.hasVersion hparent, hkeys⟩

/-- A new run, which is not completed. -/
theorem Coherent.addRun (h : db.Coherent) (run : StoryRun)
    (hcurrent : db.HasVersion run.chapterId run.currentVersionId)
    (hbest : db.HasVersion run.chapterId run.bestVersionId) (hstatus : run.status ≠ .completed) :
    Succeeds db { db with runs := db.runs ++ [run] } := by
  have hold : ∀ {id : ℕ} {old : StoryRun}, db.runs[id]? = some old →
      (db.runs ++ [run])[id]? = some old := fun hrun =>
    (List.getElem?_append_left (List.getElem?_eq_some_iff.mp hrun).1).trans hrun
  refine ⟨⟨fun id old hrun => ⟨old, hold hrun, rfl⟩,
    fun _ chapter hchapter => ⟨chapter, hchapter, rfl, rfl, fun hsome => hsome⟩,
    fun _ version hversion => ⟨version, hversion, rfl⟩⟩,
    h.chapters, fun id row hrow => ?_, fun id version hversion => ?_⟩
  · rcases Rows.getElem?_concat_cases hrow with hrun | ⟨-, rfl⟩
    · exact h.runs id row hrun
    · exact ⟨hcurrent, hbest, fun hcompleted => absurd hcompleted hstatus⟩
  · obtain ⟨hparent, hkeys⟩ := h.versions id version hversion
    refine ⟨hparent, fun key hkey r hwritten => ?_⟩
    obtain ⟨old, hrun, hchapter⟩ := hkeys key hkey r hwritten
    exact ⟨old, hold hrun, hchapter⟩

theorem hasVersion_none (chapterId : ℕ) : db.HasVersion chapterId none :=
  fun _ hid => absurd hid (by simp)

theorem hasVersion_some {chapterId id : ℕ} {version : ChapterVersion}
    (hversion : db.versions[id]? = some version) (hchapter : version.chapterId = chapterId) :
    db.HasVersion chapterId (some id) := by
  intro other hother
  obtain rfl := Option.mem_some.mp hother
  rw [hversion, Option.map_some, hchapter]

/-- A write that leaves a chapter with an accepted version. -/
theorem hasAccepted_modify {id : ℕ} {chapter : StoryChapter} {f : StoryChapter → StoryChapter}
    (hchapter : db.chapters[id]? = some chapter)
    (hf : (f chapter).acceptedVersionId.isSome = true)
    (hdb' : db'.chapters = db.chapters.modify id f) : db'.HasAccepted id := by
  refine ⟨f chapter, ?_, hf⟩
  rw [hdb', List.getElem?_modify_eq, hchapter, Option.map_eq_map, Option.map_some]

theorem HasVersion.or {chapterId : ℕ} {version other : Option ℕ}
    (h : db.HasVersion chapterId version) (hother : db.HasVersion chapterId other) :
    db.HasVersion chapterId (version.or other) := by
  cases version with
  | none => exact hother
  | some id => exact h

/-- The row of a version that a chapter has. -/
theorem HasVersion.exists_row {chapterId id : ℕ} (h : db.HasVersion chapterId (some id)) :
    ∃ version : ChapterVersion, db.versions[id]? = some version ∧ version.chapterId = chapterId :=
  Option.map_eq_some_iff.mp (h id rfl)

/-- A version found under a key of a run. -/
theorem Coherent.hasVersion_of_key (h : db.Coherent) {r id : ℕ} {run : StoryRun} {key : String}
    (hrun : db.runs[r]? = some run) (hwritten : WrittenBy r key)
    (hid : db.versionByKey key = some id) : db.HasVersion run.chapterId (some id) := by
  obtain ⟨hlt, hkey, -⟩ := List.findIdx?_eq_some_iff_getElem.mp hid
  have hversion := List.getElem?_eq_getElem hlt
  obtain ⟨other, hother, hchapter⟩ :=
    (h.versions id _ hversion).2 key (by simpa using hkey) r hwritten
  obtain rfl := Option.some.inj (hrun.symm.trans hother)
  exact hasVersion_some hversion hchapter.symm

theorem chapter_of_findChapter {projectId chapterNumber id : ℕ} {chapter : StoryChapter}
    (h : db.findChapter projectId chapterNumber = some (id, chapter)) :
    db.chapterByNumber projectId chapterNumber = some id ∧ db.chapters[id]? = some chapter := by
  obtain ⟨other, hid, hrow⟩ := Option.bind_eq_some_iff.mp h
  obtain ⟨row, hchapter, heq⟩ := Option.map_eq_some_iff.mp hrow
  obtain ⟨rfl, rfl⟩ := Prod.mk.inj heq
  exact ⟨hid, hchapter⟩

/-- The row of a chapter that is found by its number. -/
theorem row_of_chapterByNumber {projectId chapterNumber id : ℕ} {chapter : StoryChapter}
    (h : db.chapterByNumber projectId chapterNumber = some id)
    (hrow : db.chapters[id]? = some chapter) :
    chapter.projectId = projectId ∧ chapter.chapterNumber = chapterNumber := by
  obtain ⟨hlt, hp, -⟩ := List.findIdx?_eq_some_iff_getElem.mp h
  obtain rfl := Option.some.inj ((List.getElem?_eq_getElem hlt).symm.trans hrow)
  simpa using hp

end StoryDatabase

/-! ### Transactions -/

section Transactions

open StoryDatabase

variable {db db' : StoryDatabase} {r v : ℕ} {run : StoryRun}

namespace ChapterVersionService

/-- A version that a run writes for its chapter is the current one then. -/
theorem newVersion_succeeds (hdb : db.Coherent) (number : ℕ) (draft : Draft)
    (status : ChapterVersionStatus) (source : String) {chapterId : ℕ} {parent : Option ℕ}
    {key : String} (hrun : db.runs[r]? = some run) (hchapter : run.chapterId = chapterId)
    (hparent : db.HasVersion chapterId parent) (hwritten : WrittenBy r key) :
    Succeeds db { db with
      versions := db.versions ++
        [newVersion chapterId number r draft status source parent key] } ∧
    HasVersion { db with
      versions := db.versions ++
        [newVersion chapterId number r draft status source parent key] }
      chapterId (some db.versions.length) := by
  refine ⟨hdb.addVersion hparent fun other hother r' hwritten' => ?_,
    hasVersion_some List.getElem?_concat_length rfl⟩
  obtain rfl : key = other := Option.some.inj hother
  obtain rfl := hwritten.unique hwritten'
  exact ⟨run, hrun, hchapter⟩

theorem ensureInitialVersion_succeeds (hdb : db.Coherent) {projectId chapterNumber : ℕ}
    {draft : Draft} (hrun : db.runs[r]? = some run)
    (hchapter : db.chapterByNumber projectId chapterNumber = some run.chapterId)
    (h : ensureInitialVersion projectId chapterNumber r draft db = .ok db') :
    Succeeds db db' := by
  rw [ensureInitialVersion] at h
  split at h
  · exact absurd h (by simp)
  · rename_i chapterId chapter hfound
    obtain rfl := Option.some.inj (hchapter.symm.trans (chapter_of_findChapter hfound).1)
    split at h
    · obtain rfl := Except.ok.inj h
      exact .refl hdb
    · split at h
      · exact absurd h (by simp)
      · obtain rfl := Except.ok.inj h
        obtain ⟨hadded, hnew⟩ := newVersion_succeeds hdb (db.nextVersion run.chapterId) draft
          .draft "generated" hrun rfl (hasVersion_none _) (.inl rfl)
        refine hadded.trans (hadded.coherent.rewrite (.modify hadded.coherent.sameChapter ?_)
          (.refl sameVersion) (.modify hadded.coherent.sameRun ?_))
        · exact fun chapter _ => ⟨rfl, rfl, id, hnew⟩
        · intro other hother
          obtain rfl := Option.some.inj (hrun.symm.trans hother)
          exact ⟨rfl, hnew, (hadded.coherent.runs r run hrun).2.1.or hnew, .inl⟩

theorem revise_succeeds (hdb : db.Coherent) {attempt : ℕ} {draft : Draft}
    (hrun : db.runs[r]? = some run) (hsource : db.HasVersion run.chapterId (some v))
    (h : revise r v attempt draft db = .ok db') : Succeeds db db' := by
  rw [revise] at h
  split at h
  · obtain rfl := Except.ok.inj h
    exact .refl hdb
  · split at h
    · exact absurd h (by simp)
    · rename_i source other hfound
      obtain ⟨version, hversion, hchapter⟩ := hsource.exists_row
      obtain rfl : version = source := by
        simp only [revisionSource, hversion, hrun, Option.some.injEq, Prod.mk.injEq] at hfound
        exact hfound.1
      split at h
      · exact absurd h (by simp)
      · obtain rfl := Except.ok.inj h
        obtain ⟨hadded, hnew⟩ := newVersion_succeeds hdb (db.nextVersion version.chapterId)
          draft .revision "revision" hrun hchapter.symm (hchapter ▸ hsource) (.inr ⟨attempt, rfl⟩)
        refine hadded.trans (hadded.coherent.rewrite (.modify hadded.coherent.sameChapter ?_)
          (.refl sameVersion) (.modify hadded.coherent.sameRun ?_))
        · exact fun chapter _ => ⟨rfl, rfl, id, hnew⟩
        · intro other hother
          obtain rfl := Option.some.inj (hrun.symm.trans hother)
          exact ⟨rfl, hchapter ▸ hnew, (hadded.coherent.runs r run hrun).2.1, .inl⟩

theorem extractCandidateFacts_succeeds (hdb : db.Coherent) {normalizer : FactNormalizer}
    {extraction : Extraction} (h : extractCandidateFacts normalizer v r extraction db = .ok db') :
    Succeeds db db' := by
  rw [extractCandidateFacts] at h
  split at h
  · exact absurd h (by simp)
  · split at h
    · obtain rfl := Except.ok.inj h
      exact .refl hdb
    · split at h
      · exact absurd h (by simp)
      · obtain rfl := Except.ok.inj h
        exact hdb.rewrite (.refl hdb.sameChapter) (.modify sameVersion fun _ _ => ⟨rfl, rfl, rfl⟩)
          (.refl hdb.sameRun)

/-- The better one of two versions of a chapter. -/
theorem hasVersion_betterVersionId {chapterId : ℕ} {best : Option ℕ}
    (hbest : db.HasVersion chapterId best) (hcandidate : db.HasVersion chapterId (some v)) :
    db.HasVersion chapterId (some (betterVersionId db best v)) := by
  have hdefault : db.HasVersion chapterId (some (best.getD v)) := by
    cases best with
    | none => exact hcandidate
    | some id => exact hbest
  unfold betterVersionId
  split
  · exact hdefault
  · exact hcandidate
  · split
    · exact hcandidate
    · exact hdefault

theorem compareVersions_succeeds (hdb : db.Coherent) {acceptance : AcceptanceEvaluator} {base : ℕ}
    (hrun : db.runs[r]? = some run) (hnew : db.HasVersion run.chapterId (some v))
    (h : compareVersions acceptance r base v db = .ok db') : Succeeds db db' := by
  rw [compareVersions] at h
  split at h
  · obtain rfl := Except.ok.inj h
    exact .refl hdb
  · dsimp only at h
    split at h
    · obtain rfl := Except.ok.inj h
      refine hdb.rewrite (.refl hdb.sameChapter) (.refl sameVersion) (.modify hdb.sameRun ?_)
      intro other hother
      obtain rfl := Option.some.inj (hrun.symm.trans hother)
      obtain ⟨hcurrent, hbest, -⟩ := hdb.runs r run hrun
      exact ⟨rfl, hcurrent, hasVersion_betterVersionId hbest hnew, .inl⟩
    · exact absurd h (by simp)

theorem rejectRevision_succeeds (hdb : db.Coherent) (hrun : db.runs[r]? = some run)
    (hversion : db.HasVersion run.chapterId (some v)) (h : rejectRevision r v db = .ok db') :
    Succeeds db db' := by
  obtain ⟨version, hrow, hchapter⟩ := hversion.exists_row
  have hbest : db.HasVersion run.chapterId
      (some ((run.bestVersionId.or version.parentVersionId).getD v)) := by
    have hor := (hdb.runs r run hrun).2.1.or (hchapter ▸ (hdb.versions v version hrow).1)
    cases heq : run.bestVersionId.or version.parentVersionId with
    | none => exact hversion
    | some id => exact heq ▸ hor
  simp only [rejectRevision, hrun, hrow, Except.ok.injEq] at h
  obtain rfl := h
  refine hdb.rewrite (.modify hdb.sameChapter ?_) (.modify sameVersion fun _ _ => ⟨rfl, rfl, rfl⟩)
    (.modify hdb.sameRun ?_)
  · exact fun chapter _ => ⟨rfl, rfl, id, hchapter ▸ hbest⟩
  · intro other hother
    obtain rfl := Option.some.inj (hrun.symm.trans hother)
    exact ⟨rfl, hbest, (hdb.runs r run hrun).2.1, .inl⟩

/-- A version that is accepted for a run is of its chapter, which has an accepted version then. -/
theorem acceptVersion_succeeds (hdb : db.Coherent) (hrun : db.runs[r]? = some run)
    (hversion : db.HasVersion run.chapterId (some v)) (h : acceptVersion r v db = .ok db') :
    Succeeds db db' := by
  obtain ⟨version, hrow, hchapter⟩ := hversion.exists_row
  simp only [acceptVersion, hrun, hrow] at h
  split at h
  · obtain rfl := Except.ok.inj h
    exact .refl hdb
  · split at h
    · rename_i chapter _ evaluation hfound _ _
      obtain rfl := Except.ok.inj h
      refine hdb.rewrite (.modify hdb.sameChapter ?_) (.mapIdx fun id row _ => ?_)
        (.modify hdb.sameRun ?_)
      · exact fun chapter _ => ⟨rfl, rfl, fun _ => rfl, hchapter ▸ hversion⟩
      · split_ifs <;> exact ⟨rfl, rfl, rfl⟩
      · intro other hother
        obtain rfl := Option.some.inj (hrun.symm.trans hother)
        exact ⟨rfl, hversion, hversion,
          fun _ => .inr (hchapter ▸ hasAccepted_modify hfound rfl rfl)⟩
    · exact absurd h (by simp)

theorem markNeedsReview_succeeds (hdb : db.Coherent) (hrun : db.runs[r]? = some run)
    (h : markNeedsReview r db = .ok db') : Succeeds db db' := by
  have hbest := (hdb.runs r run hrun).2.1
  simp only [markNeedsReview, hrun, Option.bind_some] at h
  split at h
  · exact absurd h (by simp)
  · rename_i bestId heq
    rw [heq] at hbest
    obtain ⟨version, hrow, hchapter⟩ := hbest.exists_row
    simp only [hrow] at h
    split at h
    · exact absurd h (by simp)
    · obtain rfl := Except.ok.inj h
      refine hdb.rewrite (.modify hdb.sameChapter ?_) (.mapIdx fun id row _ => ?_)
        (.modify hdb.sameRun ?_)
      · exact fun chapter _ => ⟨rfl, rfl, id, hchapter ▸ hbest⟩
      · split_ifs <;> exact ⟨rfl, rfl, rfl⟩
      · intro other hother
        obtain rfl := Option.some.inj (hrun.symm.trans hother)
        exact ⟨rfl, hbest, (hdb.runs r run hrun).2.1, fun hstatus => absurd hstatus (by simp)⟩

end ChapterVersionService

/-- A write to a chapter that keeps its number and its versions. -/
theorem StoryDatabase.Coherent.modifyChapter (hdb : db.Coherent) {id : ℕ}
    {f : StoryChapter → StoryChapter}
    (hf : ∀ chapter, (f chapter).projectId = chapter.projectId ∧
      (f chapter).chapterNumber = chapter.chapterNumber ∧
        (f chapter).acceptedVersionId = chapter.acceptedVersionId ∧
          (f chapter).currentVersionId = chapter.currentVersionId) :
    Rows.Rewritten db.ChapterWrite db.chapters (db.chapters.modify id f) := by
  refine .modify hdb.sameChapter fun chapter hchapter => ?_
  obtain ⟨hproject, hnumber, haccepted, hcurrent⟩ := hf chapter
  exact ⟨hproject, hnumber, fun hsome => haccepted ▸ hsome,
    hcurrent ▸ hdb.chapters id chapter hchapter⟩

/-- A run that keeps its pointers and its chapter, and is not completed by the write. -/
theorem StoryDatabase.Coherent.setRun (hdb : db.Coherent) {run' : StoryRun}
    (hrun : db.runs[r]? = some run) (hchapter : run'.chapterId = run.chapterId)
    (hcurrent : run'.currentVersionId = run.currentVersionId)
    (hbest : run'.bestVersionId = run.bestVersionId) (hstatus : run'.status ≠ .completed) :
    Rows.Rewritten (fun _ => RunWrite db db') db.runs (db.runs.set r run') := by
  refine .set hdb.sameRun fun other hother => ?_
  obtain rfl := Option.some.inj (hrun.symm.trans hother)
  obtain ⟨hcurrent', hbest', -⟩ := hdb.runs r run hrun
  exact ⟨hchapter, hcurrent ▸ hcurrent', hbest ▸ hbest', fun h => absurd h hstatus⟩

namespace EvaluationService

variable {loaded : LoadedEvaluation}

theorem markEvaluating_succeeds (hdb : db.Coherent) (h : markEvaluating loaded db = .ok db') :
    Succeeds db db' := by
  rw [markEvaluating] at h
  split at h
  · exact absurd h (by simp)
  · split at h
    · exact absurd h (by simp)
    · obtain rfl := Except.ok.inj h
      exact hdb.rewrite (hdb.modifyChapter fun _ => ⟨rfl, rfl, rfl, rfl⟩)
        (.refl sameVersion) (.refl hdb.sameRun)

theorem markFailed_succeeds (hdb : db.Coherent) : Succeeds db (markFailed loaded db) := by
  refine hdb.rewrite (hdb.modifyChapter fun chapter => ?_) (.refl sameVersion)
    (.refl hdb.sameRun)
  split <;> exact ⟨rfl, rfl, rfl, rfl⟩

theorem persist_succeeds (hdb : db.Coherent) {evaluation : Evaluation}
    {close : StoryChapter → StoryChapter}
    (hclose : ∀ chapter, (close chapter).projectId = chapter.projectId ∧
      (close chapter).chapterNumber = chapter.chapterNumber ∧
        (close chapter).acceptedVersionId = chapter.acceptedVersionId ∧
          (close chapter).currentVersionId = chapter.currentVersionId)
    (h : persist loaded evaluation close db = .ok db') : Succeeds db db' := by
  rw [persist] at h
  split at h
  · exact absurd h (by simp)
  · split at h
    · exact absurd h (by simp)
    · split at h
      · exact absurd h (by simp)
      · split at h
        · exact absurd h (by simp)
        · obtain rfl := Except.ok.inj h
          exact hdb.rewrite (hdb.modifyChapter hclose)
            (.modify sameVersion fun _ _ => ⟨rfl, rfl, rfl⟩) (.refl hdb.sameRun)

theorem persistComplete_succeeds (hdb : db.Coherent) {scores : CombinedScores}
    (h : persistComplete loaded scores db = .ok db') : Succeeds db db' := by
  unfold persistComplete at h
  exact persist_succeeds hdb (fun _ => by exact ⟨rfl, rfl, rfl, rfl⟩) h

theorem persistPartial_succeeds (hdb : db.Coherent) {scores : LocalScores}
    (h : persistPartial loaded scores db = .ok db') : Succeeds db db' := by
  unfold persistPartial at h
  exact persist_succeeds hdb (fun _ => by exact ⟨rfl, rfl, rfl, rfl⟩) h

end EvaluationService

namespace ChapterWorkflowService

theorem nodeStarted_succeeds (hdb : db.Coherent) {node : WorkflowNode}
    (h : nodeStarted r node db = .ok db') : Succeeds db db' := by
  unfold nodeStarted at h
  split at h
  · exact absurd h (by simp)
  · split at h
    · exact absurd h (by simp)
    · obtain rfl := Except.ok.inj h
      refine hdb.rewrite (.refl hdb.sameChapter) (.refl sameVersion)
        (.modify hdb.sameRun fun run hrun => ?_)
      obtain ⟨hcurrent, hbest, -⟩ := hdb.runs r run hrun
      exact ⟨rfl, hcurrent, hbest, .inl⟩

theorem recordEvaluation_succeeds (hdb : db.Coherent) (hrun : db.runs[r]? = some run)
    (hversion : db.HasVersion run.chapterId (some v)) : Succeeds db (recordEvaluation r v db) := by
  refine hdb.rewrite (.refl hdb.sameChapter) (.refl sameVersion) (.modify hdb.sameRun ?_)
  intro other hother
  obtain rfl := Option.some.inj (hrun.symm.trans hother)
  exact ⟨rfl, hversion, (hdb.runs r run hrun).2.1.or hversion, .inl⟩

theorem closeChapter_kept (chapter : StoryChapter) :
    (closeChapter chapter).projectId = chapter.projectId ∧
      (closeChapter chapter).chapterNumber = chapter.chapterNumber ∧
        (closeChapter chapter).acceptedVersionId = chapter.acceptedVersionId ∧
          (closeChapter chapter).currentVersionId = chapter.currentVersionId :=
  ⟨rfl, rfl, rfl, rfl⟩

theorem markPaused_succeeds (hdb : db.Coherent) {node : String}
    (h : markPaused r node db = .ok db') : Succeeds db db' := by
  unfold markPaused at h
  split at h
  · exact absurd h (by simp)
  · rename_i run hrun
    split at h
    · obtain rfl := Except.ok.inj h
      exact .refl hdb
    · obtain ⟨run', hrun', hok⟩ := Except.bind_eq_ok.mp h
      obtain ⟨rfl, -⟩ := transitionRun_eq_ok.mp hrun'
      obtain rfl := Except.ok.inj hok
      exact hdb.rewrite (.refl hdb.sameChapter) (.refl sameVersion)
        (hdb.setRun hrun rfl rfl rfl (by simp))

theorem markFailed_succeeds (hdb : db.Coherent) {runId : Option ℕ}
    (h : markFailed runId db = .ok db') : Succeeds db db' := by
  unfold markFailed at h
  split at h
  · obtain rfl := Except.ok.inj h
    exact .refl hdb
  · rename_i id run hrun
    obtain ⟨id', -, hget⟩ := Option.bind_eq_some_iff.mp hrun
    obtain ⟨run', hrun', hpair⟩ := Option.map_eq_some_iff.mp hget
    obtain ⟨rfl, rfl⟩ := Prod.mk.inj hpair
    split at h
    · obtain rfl := Except.ok.inj h
      exact .refl hdb
    · obtain ⟨run, hrun, hok⟩ := Except.bind_eq_ok.mp h
      obtain ⟨rfl, -⟩ := transitionRun_eq_ok.mp hrun
      obtain rfl := Except.ok.inj hok
      exact hdb.rewrite (hdb.modifyChapter closeChapter_kept)
        (.refl sameVersion)
        (hdb.setRun hrun' rfl rfl rfl (by simp))

theorem resume_succeeds (hdb : db.Coherent) (h : resume r db = .ok db') : Succeeds db db' := by
  unfold resume at h
  split at h
  · exact absurd h (by simp)
  · rename_i run hrun
    split at h
    · exact absurd h (by simp)
    · obtain ⟨run', hrun', hok⟩ := Except.bind_eq_ok.mp h
      obtain ⟨rfl, -⟩ := transitionRun_eq_ok.mp hrun'
      obtain rfl := Except.ok.inj hok
      exact hdb.rewrite (.refl hdb.sameChapter) (.refl sameVersion)
        (hdb.setRun hrun rfl rfl rfl (by simp))

theorem cancel_succeeds (hdb : db.Coherent) (h : cancel r db = .ok db') : Succeeds db db' := by
  unfold cancel at h
  split at h
  · exact absurd h (by simp)
  · rename_i run hrun
    obtain ⟨run', hrun', hok⟩ := Except.bind_eq_ok.mp h
    obtain ⟨rfl, -⟩ := transitionRun_eq_ok.mp hrun'
    obtain rfl := Except.ok.inj hok
    exact hdb.rewrite (hdb.modifyChapter closeChapter_kept)
      (.refl sameVersion)
      (hdb.setRun hrun rfl rfl rfl (by simp))

end ChapterWorkflowService

end Transactions

end StoryForge
