import Mathlib.Algebra.Order.Ring.Unbundled.Rat
import Mathlib.Data.List.Sort
import StoryForge.Chapters.Models
import StoryForge.Library.Keys

/-!
# What the analysis of a book snapshot reads

A snapshot maps the chapters of a book to versions. The analysis loads the texts of these
versions, but it finds the evaluation of a chapter through the version that is accepted at the
moment, and of the facts of the versions those whose status is accepted at the moment.

## Main results

* `SnapshotDatabase.contents_eq_ok` — what is loaded for a snapshot whose versions are there;
* `SnapshotDatabase.load_same_iff` — two states that agree on a snapshot load the same exactly
  when the evaluations of what is accepted and the statuses of the facts agree too;
* `SnapshotDatabase.sameScores_of_accepted` — the evaluations do as long as the versions of the
  snapshot are the accepted ones;
* `SnapshotDatabase.load_differs` — after a later acceptance they need not.
-/

namespace StoryForge

/-! ### Rows -/

/-- What the analysis reads of a version beside its text. -/
structure VersionDetails where
  wordCount : ℕ
  keyEvents : List String
  charactersPresent : List String
  locationsPresent : List String
  deriving DecidableEq, Repr

/-- What the analysis reads of a fact beside its content. -/
structure FactDetails where
  confidence : ℚ
  sourceQuote : String
  validFromChapter : ℕ
  validToChapter : Option ℕ
  deriving DecidableEq, Repr

/-- A map from logical chapters to versions. -/
structure BookSnapshot where
  projectId : ℕ
  chapterVersionMap : List (ℕ × ℕ)
  deriving DecidableEq, Repr

/-- A character as the analysis sees it. -/
structure CharacterProfileData where
  id : ℕ
  name : String
  role : String
  goals : List String
  personality : String
  currentState : String
  initialKnowledge : List String
  deriving DecidableEq, Repr

/-- A foreshadowing as the analysis sees it. -/
structure ForeshadowingItemData where
  id : ℕ
  description : String
  importance : String
  setupChapter : ℕ
  expectedPayoffChapter : ℕ
  payoffChapter : Option ℕ
  status : String
  deriving DecidableEq, Repr

/-- A chapter of a snapshot. -/
structure SnapshotChapter where
  chapterId : ℕ
  chapterNumber : ℕ
  chapterVersionId : ℕ
  version : ℕ
  title : String
  summary : String
  wordCount : ℕ
  content : String
  evaluationScore : ℚ
  outlineAdherence : ℚ
  dialogueRatio : ℚ
  keyEvents : List String
  charactersPresent : List String
  locationsPresent : List String
  deriving DecidableEq, Repr

/-- A fact of a snapshot. -/
structure AcceptedFactData where
  id : ℕ
  chapterId : ℕ
  chapterVersionId : ℕ
  chapterNumber : ℕ
  subject : String
  predicate : String
  object : String
  confidence : ℚ
  evidence : String
  validFromChapter : ℕ
  validToChapter : Option ℕ
  deriving DecidableEq, Repr

/-- The story tables with the snapshots and what the analysis reads beside them. The details
of versions and facts and the dialogue ratios of evaluations are given by id, the profiles of
characters and the foreshadowings with their project. -/
structure SnapshotDatabase extends StoryDatabase where
  snapshots : List BookSnapshot
  versionDetails : ℕ → VersionDetails
  factDetails : ℕ → FactDetails
  dialogueRatio : ℕ → ℚ
  characters : List (ℕ × CharacterProfileData)
  foreshadowings : List (ℕ × ForeshadowingItemData)

/-- A chapter that a snapshot maps, and to which version. -/
structure MappedChapter where
  chapterId : ℕ
  chapterNumber : ℕ
  versionId : ℕ
  deriving DecidableEq, Repr

/-- A fact with its id and the number of its chapter. -/
structure FactRow where
  id : ℕ
  chapterNumber : ℕ
  fact : Fact
  deriving DecidableEq, Repr

/-- The columns of an evaluation that go into a snapshot chapter. -/
structure ChapterScores where
  evaluationScore : ℚ
  outlineAdherence : ℚ
  dialogueRatio : ℚ
  deriving DecidableEq, Repr

/-- What `_load` returns. -/
structure LoadedSnapshot where
  snapshot : BookSnapshot
  project : StoryProject
  chapters : List SnapshotChapter
  facts : List AcceptedFactData
  characters : List CharacterProfileData
  foreshadowings : List ForeshadowingItemData
  deriving DecidableEq, Repr

/-- A row without the status of its fact. -/
def FactRow.extracted (row : FactRow) : FactRow :=
  { row with fact := { row.fact with status := .accepted } }

namespace BookSnapshot

/-- `chapter_version_map.get`. -/
def versionOf (snapshot : BookSnapshot) (chapterNumber : ℕ) : Option ℕ :=
  (snapshot.chapterVersionMap.find? (·.1 == chapterNumber)).map (·.2)

/-- The versions of a snapshot. -/
def versionIds (snapshot : BookSnapshot) : List ℕ := snapshot.chapterVersionMap.map (·.2)

end BookSnapshot

/-! ### `_load` -/

namespace SnapshotDatabase

variable (db : SnapshotDatabase) (snapshot : BookSnapshot)

/-- The chapters of the project that the snapshot maps, in order. -/
def mappedChapters : List MappedChapter :=
  (db.chapters.zipIdx.filterMap fun (chapter, id) =>
    if chapter.projectId = snapshot.projectId then
      (snapshot.versionOf chapter.chapterNumber).map (⟨id, chapter.chapterNumber, ·⟩)
    else none).insertionSort fun a b => a.chapterNumber ≤ b.chapterNumber

/-- The latest evaluation of a version of a chapter. -/
def latestEvaluation (chapterId versionId : ℕ) : Option ℕ :=
  (Rows.selectBy db.evaluations
    (fun row => row.chapterId == chapterId && row.chapterVersionId == versionId)
    (fun row => -(row.evaluationVersion : ℤ)) 1).head?

/-- The scores of a chapter: those of the version that is accepted. -/
def scores (chapterId : ℕ) : ChapterScores :=
  match (db.chapters[chapterId]?.bind (·.acceptedVersionId)).bind (db.latestEvaluation chapterId)
  with
  | none => ⟨0, 0, 0⟩
  | some id =>
      match db.evaluations[id]? with
      | none => ⟨0, 0, 0⟩
      | some evaluation =>
          ⟨min 10 evaluation.overallScore, evaluation.outlineAdherenceScore, db.dialogueRatio id⟩

/-- A chapter of the snapshot, from its version and the scores. -/
def chapterData (row : MappedChapter) (version : ChapterVersion) (scores : ChapterScores) :
    SnapshotChapter where
  chapterId := row.chapterId
  chapterNumber := row.chapterNumber
  chapterVersionId := row.versionId
  version := version.version
  title := version.text.title
  summary := version.text.summary
  wordCount := (db.versionDetails row.versionId).wordCount
  content := version.text.content
  evaluationScore := scores.evaluationScore
  outlineAdherence := scores.outlineAdherence
  dialogueRatio := scores.dialogueRatio
  keyEvents := (db.versionDetails row.versionId).keyEvents
  charactersPresent := (db.versionDetails row.versionId).charactersPresent
  locationsPresent := (db.versionDetails row.versionId).locationsPresent

/-- The version that the snapshot has of a chapter. -/
def versionAt (row : MappedChapter) : Option ChapterVersion :=
  db.versions[row.versionId]?.filter (·.chapterId == row.chapterId)

/-- One turn of the loop over the chapters. -/
def snapshotChapter (row : MappedChapter) : Except Error SnapshotChapter :=
  match db.versionAt row with
  | none => .error (.invalidStateError "Snapshot references a missing chapter version")
  | some version => .ok (db.chapterData row version (db.scores row.chapterId))

/-- The facts extracted from the versions of the snapshot, whatever their status. -/
def extractedFacts : List FactRow :=
  (db.facts.zipIdx.filterMap fun (fact, id) =>
    if fact.chapterVersionId ∈ snapshot.versionIds then
      (db.chapters[fact.chapterId]?).map (⟨id, ·.chapterNumber, fact⟩)
    else none).insertionSort fun a b =>
      a.chapterNumber < b.chapterNumber ∨ a.chapterNumber = b.chapterNumber ∧ a.id ≤ b.id

/-- The accepted ones. -/
def acceptedFacts : List FactRow :=
  (db.extractedFacts snapshot).filter fun row => row.fact.status == .accepted

/-- A fact of the snapshot with the number of its chapter. -/
def factData (row : FactRow) (chapterNumber : ℕ) : AcceptedFactData where
  id := row.id
  chapterId := row.fact.chapterId
  chapterVersionId := row.fact.chapterVersionId
  chapterNumber := chapterNumber
  subject := row.fact.content.subject
  predicate := row.fact.content.predicate
  object := row.fact.content.object
  confidence := (db.factDetails row.id).confidence
  evidence := (db.factDetails row.id).sourceQuote
  validFromChapter := (db.factDetails row.id).validFromChapter
  validToChapter := (db.factDetails row.id).validToChapter

/-- `number_by_id`. -/
def numberById (rows : List MappedChapter) (chapterId : ℕ) : Option ℕ :=
  (rows.find? (·.chapterId == chapterId)).map (·.chapterNumber)

/-- One turn of the loop over the facts. -/
def acceptedFactData (rows : List MappedChapter) (row : FactRow) : Except Error AcceptedFactData :=
  match numberById rows row.fact.chapterId with
  | none => .error (.other "KeyError" (toString row.fact.chapterId))
  | some chapterNumber => .ok (db.factData row chapterNumber)

/-- `_load`. -/
def load (snapshotId : ℕ) : Except Error LoadedSnapshot :=
  match db.snapshots[snapshotId]? with
  | none =>
      .error (.entityNotFoundError ("Book snapshot " ++ toString snapshotId ++ " was not found"))
  | some snapshot =>
      match db.projects[snapshot.projectId]? with
      | none => .error (.entityNotFoundError "Book snapshot project was not found")
      | some project => do
          let chapters ← (db.mappedChapters snapshot).mapM db.snapshotChapter
          let facts ← (db.acceptedFacts snapshot).mapM
            (db.acceptedFactData (db.mappedChapters snapshot))
          return {
            snapshot
            project
            chapters
            facts
            characters := (db.characters.filter (·.1 == snapshot.projectId)).map (·.2)
            foreshadowings := (db.foreshadowings.filter (·.1 == snapshot.projectId)).map (·.2) }

/-! ### What is loaded -/

variable {db} {snapshot} {db' : SnapshotDatabase} {snapshotId : ℕ}

/-- The ids of the facts of a snapshot are distinct. -/
theorem nodup_extractedFacts : ((db.extractedFacts snapshot).map (·.id)).Nodup := by
  unfold extractedFacts
  rw [((List.perm_insertionSort _ _).map _).nodup_iff, List.map_filterMap]
  refine List.Nodup.sublist (Rows.filterMap_sublist_map (g := (·.2)) ?_ _) ?_
  · rintro ⟨fact, id⟩ value hvalue
    obtain ⟨row, hrow, rfl⟩ := Option.map_eq_some_iff.mp hvalue
    dsimp only at hrow
    by_cases hversion : fact.chapterVersionId ∈ snapshot.versionIds
    · rw [if_pos hversion] at hrow
      obtain ⟨chapter, -, rfl⟩ := Option.map_eq_some_iff.mp hrow
      rfl
    · rw [if_neg hversion] at hrow
      exact absurd hrow (by simp)
  · rw [List.zipIdx_map_snd]
    exact List.nodup_range'

/-- The versions of a snapshot are there, and its facts are of chapters that it maps. -/
structure Intact (db : SnapshotDatabase) (snapshot : BookSnapshot) : Prop where
  project : (db.projects[snapshot.projectId]?).isSome = true
  versions : ∀ row ∈ db.mappedChapters snapshot, (db.versionAt row).isSome = true
  facts : ∀ row ∈ db.extractedFacts snapshot,
    (numberById (db.mappedChapters snapshot) row.fact.chapterId).isSome = true

/-- The chapters and the facts that are loaded. -/
def contents (db : SnapshotDatabase) (snapshotId : ℕ) :
    Except Error (List SnapshotChapter × List AcceptedFactData) :=
  (db.load snapshotId).map fun loaded => (loaded.chapters, loaded.facts)

/-- **What an intact snapshot loads**: the mapped chapters and the accepted facts. -/
theorem contents_eq_ok (h : Intact db snapshot)
    (hsnapshot : db.snapshots[snapshotId]? = some snapshot) :
    ∃ chapters facts, db.contents snapshotId = .ok (chapters, facts) ∧
      List.Forall₂ (fun row chapter => db.snapshotChapter row = .ok chapter)
        (db.mappedChapters snapshot) chapters ∧
      List.Forall₂ (fun row fact =>
          db.acceptedFactData (db.mappedChapters snapshot) row = .ok fact)
        (db.acceptedFacts snapshot) facts := by
  obtain ⟨project, hproject⟩ := Option.isSome_iff_exists.mp h.project
  have hchapters : ∃ chapters, List.Forall₂ (fun row chapter =>
      db.snapshotChapter row = .ok chapter) (db.mappedChapters snapshot) chapters := by
    refine Rows.exists_forall₂ fun row hrow => ?_
    obtain ⟨version, hversion⟩ := Option.isSome_iff_exists.mp (h.versions row hrow)
    exact ⟨_, by rw [snapshotChapter, hversion]⟩
  have hfacts : ∃ facts, List.Forall₂ (fun row fact =>
      db.acceptedFactData (db.mappedChapters snapshot) row = .ok fact)
      (db.acceptedFacts snapshot) facts := by
    refine Rows.exists_forall₂ fun row hrow => ?_
    obtain ⟨number, hnumber⟩ :=
      Option.isSome_iff_exists.mp (h.facts row (List.mem_of_mem_filter hrow))
    exact ⟨_, by rw [acceptedFactData, hnumber]⟩
  obtain ⟨chapters, hchapters⟩ := hchapters
  obtain ⟨facts, hfacts⟩ := hfacts
  refine ⟨chapters, facts, ?_, hchapters, hfacts⟩
  have hmapped := Except.mapM_eq_ok.mpr hchapters
  have haccepted := Except.mapM_eq_ok.mpr hfacts
  simp only [contents, load, hsnapshot, hproject, hmapped, haccepted]
  rfl

/-! ### Two states -/

/-- Two states have the same snapshot, and agree on the chapters and versions that it maps to,
on the evaluations of these versions and on the facts extracted from them: on all but the
statuses. -/
structure AgreeOn (snapshotId : ℕ) (snapshot : BookSnapshot) (db db' : SnapshotDatabase) :
    Prop where
  found : db.snapshots[snapshotId]? = some snapshot
  found' : db'.snapshots[snapshotId]? = some snapshot
  chapters : db.mappedChapters snapshot = db'.mappedChapters snapshot
  versions : ∀ row ∈ db.mappedChapters snapshot,
    (db.versionAt row).map (fun version => (version.version, version.text)) =
      (db'.versionAt row).map fun version => (version.version, version.text)
  versionDetails : ∀ row ∈ db.mappedChapters snapshot,
    db.versionDetails row.versionId = db'.versionDetails row.versionId
  evaluations : ∀ row ∈ db.mappedChapters snapshot,
    Rows.select db.evaluations (·.chapterVersionId == row.versionId) =
      Rows.select db'.evaluations (·.chapterVersionId == row.versionId)
  dialogueRatios : ∀ row ∈ db.mappedChapters snapshot, ∀ id,
    (db.evaluations[id]?.any (·.chapterVersionId == row.versionId)) = true →
      db.dialogueRatio id = db'.dialogueRatio id
  facts : (db.extractedFacts snapshot).map FactRow.extracted =
    (db'.extractedFacts snapshot).map FactRow.extracted
  factDetails : ∀ row ∈ db.extractedFacts snapshot, db.factDetails row.id = db'.factDetails row.id

/-- The chapters that the snapshot maps have the same scores. -/
def SameScores (snapshot : BookSnapshot) (db db' : SnapshotDatabase) : Prop :=
  ∀ row ∈ db.mappedChapters snapshot, db.scores row.chapterId = db'.scores row.chapterId

/-- The same facts of the snapshot are accepted. -/
def SameAccepted (snapshot : BookSnapshot) (db db' : SnapshotDatabase) : Prop :=
  (db.extractedFacts snapshot).map (fun row => row.fact.status == .accepted) =
    (db'.extractedFacts snapshot).map fun row => row.fact.status == .accepted

/-- A chapter of the snapshot is the same when its scores are. -/
theorem snapshotChapter_eq_iff (hagree : AgreeOn snapshotId snapshot db db') {row : MappedChapter}
    (hrow : row ∈ db.mappedChapters snapshot) (hversion : (db.versionAt row).isSome = true) :
    db.snapshotChapter row = db'.snapshotChapter row ↔
      db.scores row.chapterId = db'.scores row.chapterId := by
  obtain ⟨version, hversion⟩ := Option.isSome_iff_exists.mp hversion
  have hsame := hagree.versions row hrow
  rw [hversion] at hsame
  obtain ⟨version', hversion', hpair⟩ := Option.map_eq_some_iff.mp hsame.symm
  obtain ⟨hnumber, htext⟩ := Prod.mk.inj hpair
  have hdetails := hagree.versionDetails row hrow
  simp only [snapshotChapter, hversion, hversion', Except.ok.injEq, chapterData, hnumber, htext,
    hdetails, SnapshotChapter.mk.injEq, true_and, and_true]
  constructor
  · rintro ⟨hscore, houtline, hratio⟩
    cases hs : db.scores row.chapterId
    cases hs' : db'.scores row.chapterId
    simp only [hs, hs'] at hscore houtline hratio
    rw [hscore, houtline, hratio]
  · intro heq
    rw [heq]
    exact ⟨rfl, rfl, rfl⟩

/-- The loaded chapters are the same when the scores are. -/
theorem chapters_same_iff (hagree : AgreeOn snapshotId snapshot db db')
    (hintact : Intact db snapshot) {chapters chapters' : List SnapshotChapter}
    (hchapters : List.Forall₂ (fun row chapter => db.snapshotChapter row = .ok chapter)
      (db.mappedChapters snapshot) chapters)
    (hchapters' : List.Forall₂ (fun row chapter => db'.snapshotChapter row = .ok chapter)
      (db'.mappedChapters snapshot) chapters') :
    chapters = chapters' ↔ SameScores snapshot db db' := by
  rw [← hagree.chapters] at hchapters'
  have hiff : SameScores snapshot db db' ↔
      ∀ row ∈ db.mappedChapters snapshot, db'.snapshotChapter row = db.snapshotChapter row := by
    refine forall₂_congr fun row hrow => ?_
    rw [eq_comm (a := db'.snapshotChapter row),
      snapshotChapter_eq_iff hagree hrow (hintact.versions row hrow)]
  rw [hiff, ← Except.forall₂_ok_iff hchapters]
  constructor
  · rintro rfl
    exact hchapters'
  · intro hsame
    refine List.right_unique_forall₂' (fun row chapter other hone htwo => ?_) hsame hchapters'
    exact Except.ok.inj (hone.symm.trans htwo)

/-- A loaded fact has the id of its row. -/
theorem ids_of_forall₂ {rows : List MappedChapter} {accepted : List FactRow}
    {facts : List AcceptedFactData}
    (hfacts : List.Forall₂ (fun row fact => db.acceptedFactData rows row = .ok fact)
      accepted facts) : facts.map (·.id) = accepted.map (·.id) := by
  induction hfacts with
  | nil => rfl
  | @cons row fact accepted facts hfact _ ih =>
      unfold acceptedFactData at hfact
      split at hfact
      · exact absurd hfact (by simp)
      · obtain rfl := Except.ok.inj hfact
        simp only [List.map_cons, ih]
        rfl

/-- The loaded facts are the same when the accepted ones are. -/
theorem facts_same_iff (hagree : AgreeOn snapshotId snapshot db db')
    {facts facts' : List AcceptedFactData}
    (hfacts : List.Forall₂ (fun row fact =>
      db.acceptedFactData (db.mappedChapters snapshot) row = .ok fact)
      (db.acceptedFacts snapshot) facts)
    (hfacts' : List.Forall₂ (fun row fact =>
      db'.acceptedFactData (db'.mappedChapters snapshot) row = .ok fact)
      (db'.acceptedFacts snapshot) facts') :
    facts = facts' ↔ SameAccepted snapshot db db' := by
  have hids : (db.extractedFacts snapshot).map (·.id) =
      (db'.extractedFacts snapshot).map (·.id) := by
    have hmap := congrArg (List.map (·.id)) hagree.facts
    simpa [Function.comp_def, FactRow.extracted] using hmap
  rw [← hagree.chapters] at hfacts'
  constructor
  · rintro rfl
    refine (Rows.filter_map_key_eq_iff hids nodup_extractedFacts).mp ?_
    exact (ids_of_forall₂ hfacts).symm.trans (ids_of_forall₂ hfacts')
  · intro hsame
    have hnodup : ((db.extractedFacts snapshot).map FactRow.extracted).Nodup := by
      refine List.Nodup.of_map (·.id) ?_
      rw [List.map_map]
      exact nodup_extractedFacts
    have hselected : (db.acceptedFacts snapshot).map FactRow.extracted =
        (db'.acceptedFacts snapshot).map FactRow.extracted :=
      (Rows.filter_map_key_eq_iff hagree.facts hnodup).mpr hsame
    -- a row is loaded without its status, so the first state's facts are those of the second's rows
    have hmapped : List.Forall₂ (fun row fact =>
        db.acceptedFactData (db.mappedChapters snapshot) row = .ok fact)
        ((db.acceptedFacts snapshot).map FactRow.extracted) facts :=
      List.forall₂_map_left_iff.mpr hfacts
    rw [hselected, List.forall₂_map_left_iff] at hmapped
    have hloaded : List.Forall₂ (fun row fact =>
        db'.acceptedFactData (db.mappedChapters snapshot) row = .ok fact)
        (db'.acceptedFacts snapshot) facts := by
      refine (Except.forall₂_ok_iff hmapped).mpr fun row hrow => ?_
      have hid : row.id ∈ (db.extractedFacts snapshot).map (·.id) := by
        rw [hids]
        exact List.mem_map_of_mem (List.mem_of_mem_filter hrow)
      obtain ⟨other, hother, heq⟩ := List.mem_map.mp hid
      have hdetails := hagree.factDetails other hother
      rw [heq] at hdetails
      simp only [acceptedFactData, factData, FactRow.extracted, hdetails]
    refine List.right_unique_forall₂' (fun row fact other hone htwo => ?_) hloaded hfacts'
    exact Except.ok.inj (hone.symm.trans htwo)

/-- A state that agrees on an intact snapshot has it intact. -/
theorem Intact.of_agreeOn (hintact : Intact db snapshot)
    (hagree : AgreeOn snapshotId snapshot db db')
    (hproject : (db'.projects[snapshot.projectId]?).isSome = true) : Intact db' snapshot := by
  refine ⟨hproject, fun row hrow => ?_, fun row hrow => ?_⟩
  · rw [← hagree.chapters] at hrow
    have hsame := congrArg Option.isSome (hagree.versions row hrow)
    simp only [Option.isSome_map] at hsame
    rw [← hsame]
    exact hintact.versions row hrow
  · have hmem := List.mem_map_of_mem (f := FactRow.extracted) hrow
    rw [← hagree.facts] at hmem
    obtain ⟨other, hother, heq⟩ := List.mem_map.mp hmem
    have hchapter : other.fact.chapterId = row.fact.chapterId :=
      congrArg (fun row => row.fact.chapterId) heq
    rw [← hagree.chapters, ← hchapter]
    exact hintact.facts other hother

/-- The chapter has an evaluation of the snapshot's version, as long as that one is accepted. -/
theorem scores_of_accepted {row : MappedChapter}
    (hevaluations : Rows.select db.evaluations (·.chapterVersionId == row.versionId) =
      Rows.select db'.evaluations (·.chapterVersionId == row.versionId))
    (hratios : ∀ id, (db.evaluations[id]?.any (·.chapterVersionId == row.versionId)) = true →
      db.dialogueRatio id = db'.dialogueRatio id)
    (haccepted : db.chapters[row.chapterId]?.bind (·.acceptedVersionId) = some row.versionId)
    (haccepted' : db'.chapters[row.chapterId]?.bind (·.acceptedVersionId) = some row.versionId) :
    db.scores row.chapterId = db'.scores row.chapterId := by
  have hselect (rows : List Evaluation) : Rows.select rows (fun evaluation =>
      evaluation.chapterId == row.chapterId && evaluation.chapterVersionId == row.versionId) =
      (Rows.select rows (·.chapterVersionId == row.versionId)).filter
        (·.1.chapterId == row.chapterId) := by
    simp only [Rows.select, List.filter_filter]
  have hlatest : db.latestEvaluation row.chapterId row.versionId =
      db'.latestEvaluation row.chapterId row.versionId := by
    simp only [latestEvaluation, Rows.selectBy, hselect, hevaluations]
  simp only [scores, haccepted, haccepted', Option.bind_some, ← hlatest]
  cases hid : db.latestEvaluation row.chapterId row.versionId with
  | none => rfl
  | some id =>
      obtain ⟨evaluation, hevaluation, hselected⟩ :=
        Rows.mem_selectBy (List.mem_of_head? hid)
      have hversion : (evaluation.chapterVersionId == row.versionId) = true :=
        (Bool.and_eq_true_iff.mp hselected).2
      have hmem : (evaluation, id) ∈
          Rows.select db'.evaluations (·.chapterVersionId == row.versionId) := by
        rw [← hevaluations]
        exact Rows.mem_select.mpr ⟨hevaluation, hversion⟩
      have hratio := hratios id (by rw [hevaluation]; exact hversion)
      simp only [hevaluation, (Rows.mem_select.mp hmem).1, hratio]

/-- The scores are the same as long as the versions of the snapshot are accepted. -/
theorem sameScores_of_accepted (hagree : AgreeOn snapshotId snapshot db db')
    (haccepted : ∀ row ∈ db.mappedChapters snapshot,
      db.chapters[row.chapterId]?.bind (·.acceptedVersionId) = some row.versionId ∧
        db'.chapters[row.chapterId]?.bind (·.acceptedVersionId) = some row.versionId) :
    SameScores snapshot db db' := by
  intro row hrow
  obtain ⟨hhere, hthere⟩ := haccepted row hrow
  exact scores_of_accepted (hagree.evaluations row hrow) (hagree.dialogueRatios row hrow) hhere
    hthere

/-- **What the analysis reads of a snapshot.** Two states that agree on a snapshot load the
same chapters and facts for it exactly when the evaluations of what is accepted now give the
same scores and the same facts are accepted now. -/
theorem load_same_iff (hagree : AgreeOn snapshotId snapshot db db') (hintact : Intact db snapshot)
    (hproject : (db'.projects[snapshot.projectId]?).isSome = true) :
    db.contents snapshotId = db'.contents snapshotId ↔
      SameScores snapshot db db' ∧ SameAccepted snapshot db db' := by
  obtain ⟨chapters, facts, hload, hchapters, hfacts⟩ := contents_eq_ok hintact hagree.found
  obtain ⟨chapters', facts', hload', hchapters', hfacts'⟩ :=
    contents_eq_ok (hintact.of_agreeOn hagree hproject) hagree.found'
  rw [hload, hload', Except.ok.injEq, Prod.mk.injEq,
    chapters_same_iff hagree hintact hchapters hchapters', facts_same_iff hagree hfacts hfacts']

/-! ### A later acceptance -/

/-- A version of the sample chapter. -/
def sampleVersion (version : ℕ) (status : ChapterVersionStatus) : ChapterVersion where
  chapterId := 0
  version := version
  text := ⟨"t", "c", "s"⟩
  status := status
  source := "revision"
  parentVersionId := none
  workflowRunId := none
  candidateCharacterUpdates := []
  candidateForeshadowingUpdates := []
  factExtraction := false
  idempotencyKey := none

/-- An evaluation of a version of the sample chapter. -/
def sampleEvaluation (versionId : ℕ) (score : ℚ) : Evaluation where
  chapterId := 0
  chapterVersionId := versionId
  workflowRunId := none
  idempotencyKey := none
  evaluationVersion := versionId + 1
  status := .completed
  overallScore := score
  consistencyScore := score
  outlineAdherenceScore := score
  criticalConflicts := 0
  highConflicts := 0
  blockingReasons := []
  recommendedAction := "accept"
  passed := true

/-- A chapter with two versions, of which one is accepted, and a snapshot with the first one. -/
def twoAccepted (accepted : ℕ) (first second : ChapterVersionStatus) (fact : FactStatus) :
    SnapshotDatabase where
  projects := [⟨.generating⟩]
  chapters :=
    [{ projectId := 0
       chapterNumber := 1
       status := .accepted
       version := 2
       title := "t"
       content := "c"
       summary := "s"
       score := none
       currentVersionId := some accepted
       acceptedVersionId := some accepted }]
  versions := [sampleVersion 1 first, sampleVersion 2 second]
  facts := [⟨0, 0, none, fact, ⟨"Ann", "status", "dead"⟩, "h"⟩]
  evaluations := [sampleEvaluation 0 8, sampleEvaluation 1 9]
  revisions := []
  comparisons := []
  runs := []
  snapshots := [⟨0, [(1, 0)]⟩]
  versionDetails _ := ⟨1, [], [], []⟩
  factDetails _ := ⟨1, "q", 1, none⟩
  dialogueRatio _ := 0
  characters := []
  foreshadowings := []

/-- The state in which the snapshot was taken. -/
def whenTaken : SnapshotDatabase := twoAccepted 0 .accepted .draft .accepted

/-- The state after the second version was accepted. -/
def afterAcceptance : SnapshotDatabase := twoAccepted 1 .superseded .accepted .superseded

theorem agreeOn_afterAcceptance : AgreeOn 0 ⟨0, [(1, 0)]⟩ whenTaken afterAcceptance where
  found := rfl
  found' := rfl
  chapters := rfl
  versions := by decide
  versionDetails _ _ := rfl
  evaluations _ _ := rfl
  dialogueRatios _ _ _ _ := rfl
  facts := by decide
  factDetails _ _ := rfl

theorem intact_whenTaken : Intact whenTaken ⟨0, [(1, 0)]⟩ := ⟨by decide, by decide, by decide⟩

/-- The two states agree on the snapshot, and neither the scores nor the facts are the same. -/
theorem load_same_iff_afterAcceptance :
    whenTaken.contents 0 = afterAcceptance.contents 0 ↔
      SameScores ⟨0, [(1, 0)]⟩ whenTaken afterAcceptance ∧
        SameAccepted ⟨0, [(1, 0)]⟩ whenTaken afterAcceptance :=
  load_same_iff agreeOn_afterAcceptance intact_whenTaken (by decide)

/-- What is loaded for a snapshot changes with a later acceptance. -/
theorem load_differs :
    ¬ ∀ (snapshotId : ℕ) (snapshot : BookSnapshot) (db db' : SnapshotDatabase),
      AgreeOn snapshotId snapshot db db' → Intact db snapshot →
        (db'.projects[snapshot.projectId]?).isSome = true →
        db.contents snapshotId = db'.contents snapshotId := by
  intro hsame
  have hcontents := hsame 0 ⟨0, [(1, 0)]⟩ whenTaken afterAcceptance agreeOn_afterAcceptance
    intact_whenTaken (by decide)
  exact absurd hcontents (by decide)

end SnapshotDatabase

end StoryForge
