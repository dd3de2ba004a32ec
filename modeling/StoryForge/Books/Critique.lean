import Mathlib.Algebra.Order.Field.Rat
import Mathlib.Data.List.Dedup
import StoryForge.Library.Dict
import StoryForge.Library.Listing
import StoryForge.Library.Rows
import StoryForge.Revision.Brief

/-!
# Critiques of a book

The global critic reports issues, and so do the rules that look at the timeline, at characters,
at foreshadowing, at the pace, at transitions and at repetitions. All issues are merged into one
critique, in which the last issue stands for all that have its code and its chapters.

Texts of a critique that the merge only copies are kept with it.

## Main results

* `issueKey_eq_iff` — the key of an issue is its code and its chapters;
* `exists_merged_iff` — a merge succeeds if there are no chapters below the first;
* `severitiesKept_iff` — when no severity is lowered;
* `critical_lowered` — a critical issue that is merged into a high one.
-/

namespace StoryForge

/-! ### Issues -/

/-- A global issue. -/
structure BookIssue where
  code : String
  category : String
  severity : ConflictSeverity
  description : String
  chapterNumbers : List ℤ
  evidence : List String
  suggestion : String
  deriving DecidableEq, Repr

/-- A conflict of the timeline. -/
structure TimelineConflict where
  code : String
  severity : ConflictSeverity
  chapterNumbers : List ℤ
  description : String
  evidence : List String
  suggestedResolution : String
  deriving DecidableEq, Repr

/-- An issue of a character. -/
structure CharacterArcIssue where
  code : String
  severity : ConflictSeverity
  chapterNumbers : List ℤ
  description : String
  evidence : List String
  deriving DecidableEq, Repr

/-- An issue of foreshadowing. -/
structure ForeshadowingIssue where
  code : String
  severity : ConflictSeverity
  chapterNumbers : List ℤ
  description : String
  evidence : List String
  deriving DecidableEq, Repr

/-- An issue of the pace. -/
structure PacingIssue where
  code : String
  severity : ConflictSeverity
  chapterNumbers : List ℤ
  description : String
  deriving DecidableEq, Repr

/-- An issue of a transition. -/
structure TransitionIssue where
  code : String
  severity : ConflictSeverity
  description : String
  evidence : Option String
  deriving DecidableEq, Repr

/-- A transition, with its issues. -/
structure ChapterTransitionResult where
  fromChapter : ℤ
  toChapter : ℤ
  issues : List TransitionIssue
  one_le_fromChapter : 1 ≤ fromChapter
  one_le_toChapter : 1 ≤ toChapter
  deriving DecidableEq, Repr

/-- A passage that may be a repetition. -/
structure RepetitionCandidate where
  code : String
  severity : ConflictSeverity
  chapterNumbers : List ℤ
  evidence : List String
  legitimateCallback : Bool
  deriving DecidableEq, Repr

/-- What the rules found, of which the issues are merged: `timeline.conflicts`,
`character_arcs.issues`, `foreshadowing.issues`, `pacing.issues`, `transitions` and
`repetition.candidates`. -/
structure BookAnalysisBundle where
  timeline : List TimelineConflict
  characterArcs : List CharacterArcIssue
  foreshadowing : List ForeshadowingIssue
  pacing : List PacingIssue
  transitions : List ChapterTransitionResult
  repetition : List RepetitionCandidate
  deriving DecidableEq, Repr

/-! ### Critiques -/

/-- A score with its reason. -/
structure DimensionScore where
  score : ℚ
  rationale : String
  nonneg : 0 ≤ score
  le_ten : score ≤ 10
  deriving DecidableEq, Repr

/-- A chapter to revise. -/
structure ChapterRevisionPriority where
  chapterNumber : ℤ
  priority : ℕ
  issueCodes : List String
  objective : String
  one_le_chapterNumber : 1 ≤ chapterNumber
  one_le_priority : 1 ≤ priority
  deriving DecidableEq, Repr

/-- The fields of a critique. -/
structure CritiqueFields where
  premiseFulfillment : DimensionScore
  plotCoherence : DimensionScore
  characterArcs : DimensionScore
  pacing : DimensionScore
  worldConsistency : DimensionScore
  thematicCoherence : DimensionScore
  foreshadowing : DimensionScore
  endingQuality : DimensionScore
  overallScore : ℚ
  strengths : List String
  globalIssues : List BookIssue
  chapterPriorities : List ChapterRevisionPriority
  passRecommendation : Bool
  overallScore_nonneg : 0 ≤ overallScore
  overallScore_le_ten : overallScore ≤ 10
  deriving DecidableEq, Repr

/-- An issue of a list is critical. -/
def anyCritical (issues : List BookIssue) : Bool := issues.any (·.severity == .critical)

/-- The priorities of a critique name its issues. -/
def CritiqueFields.knownCodes (fields : CritiqueFields) : Bool :=
  fields.chapterPriorities.all fun priority =>
    priority.issueCodes.all (fields.globalIssues.map (·.code)).contains

/-- A critique. With a critical issue it does not recommend to pass. -/
structure BookCritique extends CritiqueFields where
  critical_blocks : (passRecommendation && anyCritical globalIssues) = false
  known : toCritiqueFields.knownCodes = true
  deriving DecidableEq, Repr

/-- `BookCritique.model_validate`, for valid fields. -/
def BookCritique.modelValidate (fields : CritiqueFields) : Except Error BookCritique :=
  if hcritical : (fields.passRecommendation && anyCritical fields.globalIssues) = false then
    if hknown : fields.knownCodes = true then .ok ⟨fields, hcritical, hknown⟩
    else .error (.other "ValidationError" "Chapter priority references an unknown global issue")
  else .error (.other "ValidationError" "A critical global issue cannot recommend passing")

/-! ### Merging -/

/-- A priority, whose chapter must not be below the first. -/
def priorityFor (merged : List BookIssue) (entry : ℤ × ℕ) :
    Except Error ChapterRevisionPriority :=
  if h : 1 ≤ entry.1 then
    .ok {
      chapterNumber := entry.1
      priority := entry.2 + 1
      issueCodes := Revision.sortedSet
        ((merged.filter fun item => item.chapterNumbers.contains entry.1).map (·.code))
      objective := "Resolve the chapter's highest-severity global issues."
      one_le_chapterNumber := h
      one_le_priority := Nat.le_add_left 1 entry.2 }
  else .error (.other "ValidationError" "chapter_number")

namespace BookAnalysisService

/-- The issues that the rules found. -/
def ruleIssues (analysis : BookAnalysisBundle) : List BookIssue :=
  (analysis.timeline.map fun issue =>
    { code := issue.code
      category := "timeline"
      severity := issue.severity
      description := issue.description
      chapterNumbers := issue.chapterNumbers
      evidence := issue.evidence
      suggestion := issue.suggestedResolution }) ++
  (analysis.characterArcs.map fun issue =>
    { code := issue.code
      category := "character"
      severity := issue.severity
      description := issue.description
      chapterNumbers := issue.chapterNumbers
      evidence := issue.evidence
      suggestion := "Add an accepted event that explains the state change." }) ++
  (analysis.foreshadowing.map fun issue =>
    { code := issue.code
      category := "foreshadowing"
      severity := issue.severity
      description := issue.description
      chapterNumbers := issue.chapterNumbers
      evidence := issue.evidence
      suggestion := "Revise the setup/payoff order or explicitly leave it open." }) ++
  (analysis.pacing.map fun issue =>
    { code := issue.code
      category := "pacing"
      severity := issue.severity
      description := issue.description
      chapterNumbers := issue.chapterNumbers
      evidence := []
      suggestion := "Rebalance the selected chapter without changing accepted canon." }) ++
  (analysis.transitions.flatMap fun transition => transition.issues.map fun issue =>
    { code := issue.code
      category := "transition"
      severity := issue.severity
      description := issue.description
      chapterNumbers := [transition.fromChapter, transition.toChapter]
      evidence := (issue.evidence.filter (· != "")).toList
      suggestion := "Add a brief, evidence-consistent transition." }) ++
  ((analysis.repetition.filter fun issue => !issue.legitimateCallback).map fun issue =>
    { code := issue.code
      category := "repetition"
      severity := issue.severity
      description := "A high-similarity passage or scene requires review."
      chapterNumbers := issue.chapterNumbers
      evidence := issue.evidence
      suggestion := "Differentiate the scene or document the intentional callback." })

/-- All issues, those of the critic first. -/
def allIssues (critique : BookCritique) (analysis : BookAnalysisBundle) : List BookIssue :=
  critique.globalIssues ++ ruleIssues analysis

/-- `f"{item.code}:{item.chapter_numbers}"`. -/
def issueKey (issue : BookIssue) : List Char :=
  issue.code.toList ++ ':' :: Listing.text issue.chapterNumbers

/-- `list({key: item for item in issues}.values())`. -/
def mergedIssues (issues : List BookIssue) : List BookIssue :=
  (Dict.ofList (issues.map fun item => (issueKey item, item))).map (·.2)

/-- The chapters of issues, in order. -/
def chaptersOf (issues : List BookIssue) : List ℤ :=
  (issues.flatMap (·.chapterNumbers)).dedup.insertionSort (· ≤ ·)

/-- `_merge_rule_issues`. -/
def mergeRuleIssues (critique : BookCritique) (analysis : BookAnalysisBundle) :
    Except Error BookCritique := do
  let merged := mergedIssues (allIssues critique analysis)
  let priorities ← (chaptersOf merged).zipIdx.mapM (priorityFor merged)
  BookCritique.modelValidate { critique.toCritiqueFields with
    globalIssues := merged
    chapterPriorities := priorities
    passRecommendation := critique.passRecommendation && !anyCritical merged }

/-! ### Keys -/

/-- The key of an issue is its code and its chapters. -/
theorem issueKey_eq_iff {issue other : BookIssue} :
    issueKey issue = issueKey other ↔
      issue.code = other.code ∧ issue.chapterNumbers = other.chapterNumbers := by
  constructor
  · intro h
    -- the last colon of a key is the one between the code and the chapters
    have hreverse := congrArg List.reverse h
    rw [issueKey, issueKey, List.reverse_append, List.reverse_append, List.reverse_cons,
      List.reverse_cons, List.append_assoc, List.append_assoc] at hreverse
    obtain ⟨htext, hcode⟩ := Listing.cut_injective
      (fun hmem => Listing.colon_not_mem_text _ (List.mem_reverse.mp hmem))
      (fun hmem => Listing.colon_not_mem_text _ (List.mem_reverse.mp hmem)) hreverse
    exact ⟨String.toList_inj.mp (List.reverse_injective hcode),
      Listing.text_injective (List.reverse_injective htext)⟩
  · rintro ⟨hcode, hchapters⟩
    rw [issueKey, issueKey, hcode, hchapters]

/-- Of the issues with one code and one list of chapters, the last is merged. -/
def lastLike (issues : List BookIssue) (issue : BookIssue) : Option BookIssue :=
  issues.reverse.find? fun other =>
    other.code = issue.code ∧ other.chapterNumbers = issue.chapterNumbers

variable {issues : List BookIssue} {issue last : BookIssue}

theorem mem_mergedIssues : issue ∈ mergedIssues issues ↔ lastLike issues issue = some issue := by
  rw [mergedIssues, Dict.mem_values_ofList, lastLike]
  simp only [issueKey_eq_iff]

theorem lastLike_eq_some (h : lastLike issues issue = some last) :
    last ∈ issues ∧ last.code = issue.code ∧ last.chapterNumbers = issue.chapterNumbers := by
  refine ⟨List.mem_reverse.mp (List.mem_of_find?_eq_some h), ?_⟩
  simpa using List.find?_some h

/-- The last issue is the last for all that are like it. -/
theorem lastLike_congr {other : BookIssue} (hcode : issue.code = other.code)
    (hchapters : issue.chapterNumbers = other.chapterNumbers) :
    lastLike issues issue = lastLike issues other := by
  rw [lastLike, lastLike, hcode, hchapters]

/-- Every issue has a last one that is like it, which is merged. -/
theorem exists_lastLike (h : issue ∈ issues) :
    ∃ last, lastLike issues issue = some last ∧ last ∈ mergedIssues issues := by
  cases hlast : lastLike issues issue with
  | none =>
      have hnot := List.find?_eq_none.mp hlast issue (List.mem_reverse.mpr h)
      simp at hnot
  | some last =>
      obtain ⟨-, hcode, hchapters⟩ := lastLike_eq_some hlast
      refine ⟨last, rfl, mem_mergedIssues.mpr ?_⟩
      rw [lastLike_congr hcode hchapters, hlast]

/-- What is merged is the last of those that are like it. -/
theorem eq_of_mem_mergedIssues (h : last ∈ mergedIssues issues) (hcode : last.code = issue.code)
    (hchapters : last.chapterNumbers = issue.chapterNumbers) :
    lastLike issues issue = some last := by
  rw [← lastLike_congr hcode hchapters]
  exact mem_mergedIssues.mp h

/-! ### Results of a merge -/

variable {critique merged : BookCritique} {analysis : BookAnalysisBundle}

theorem mem_chaptersOf {chapter : ℤ} :
    chapter ∈ chaptersOf issues ↔ ∃ issue ∈ issues, chapter ∈ issue.chapterNumbers := by
  rw [chaptersOf, List.mem_insertionSort, List.mem_dedup, List.mem_flatMap]

/-- The chapters of what is merged are the chapters of all issues. -/
theorem mem_chaptersOf_mergedIssues {chapter : ℤ} :
    chapter ∈ chaptersOf (mergedIssues issues) ↔
      ∃ issue ∈ issues, chapter ∈ issue.chapterNumbers := by
  rw [mem_chaptersOf]
  constructor
  · rintro ⟨issue, hissue, hchapter⟩
    exact ⟨issue, (lastLike_eq_some (mem_mergedIssues.mp hissue)).1, hchapter⟩
  · rintro ⟨issue, hissue, hchapter⟩
    obtain ⟨last, hlast, hmerged⟩ := exists_lastLike hissue
    exact ⟨last, hmerged, (lastLike_eq_some hlast).2.2 ▸ hchapter⟩

theorem priorityFor_eq_ok {entry : ℤ × ℕ} {priority : ChapterRevisionPriority}
    (h : priorityFor issues entry = .ok priority) :
    1 ≤ entry.1 ∧ ∀ code ∈ priority.issueCodes, code ∈ issues.map (·.code) := by
  unfold priorityFor at h
  split at h
  · next hchapter =>
      obtain rfl := Except.ok.inj h
      refine ⟨hchapter, fun code hcode => ?_⟩
      have hmem := List.mem_dedup.mp ((List.mem_insertionSort _).mp hcode)
      obtain ⟨issue, hissue, rfl⟩ := List.mem_map.mp hmem
      exact List.mem_map_of_mem (List.mem_filter.mp hissue).1
  · contradiction

/-- A merge succeeds exactly where no issue names a chapter below the first. -/
theorem exists_merged_iff :
    (∃ merged, mergeRuleIssues critique analysis = .ok merged) ↔
      ∀ issue ∈ allIssues critique analysis, ∀ chapter ∈ issue.chapterNumbers, 1 ≤ chapter := by
  have hpriorities : (∃ priorities, (chaptersOf (mergedIssues
      (allIssues critique analysis))).zipIdx.mapM (priorityFor (mergedIssues
        (allIssues critique analysis))) = .ok priorities) ↔
      ∀ issue ∈ allIssues critique analysis, ∀ chapter ∈ issue.chapterNumbers, 1 ≤ chapter := by
    rw [Except.exists_mapM_ok]
    constructor
    · intro h issue hissue chapter hchapter
      obtain ⟨i, hi⟩ := List.getElem?_of_mem
        (mem_chaptersOf_mergedIssues.mpr ⟨issue, hissue, hchapter⟩)
      obtain ⟨priority, hok⟩ := h (chapter, i) (List.mem_zipIdx_iff_getElem?.mpr hi)
      exact (priorityFor_eq_ok hok).1
    · rintro h ⟨chapter, i⟩ hentry
      obtain ⟨issue, hissue, hchapter⟩ := mem_chaptersOf_mergedIssues.mp
        (List.mem_of_getElem? (List.mem_zipIdx_iff_getElem?.mp hentry))
      exact ⟨_, dif_pos (h issue hissue chapter hchapter)⟩
  rw [← hpriorities]
  constructor
  · rintro ⟨merged, h⟩
    obtain ⟨priorities, hok, -⟩ := Except.bind_eq_ok.mp h
    exact ⟨priorities, hok⟩
  · rintro ⟨priorities, hok⟩
    have hcritical : ((critique.passRecommendation && !anyCritical (mergedIssues
        (allIssues critique analysis))) && anyCritical (mergedIssues
          (allIssues critique analysis))) = false := by
      rw [Bool.and_assoc, Bool.not_and_self, Bool.and_false]
    have hknown : ∀ priority ∈ priorities, ∀ code ∈ priority.issueCodes,
        code ∈ (mergedIssues (allIssues critique analysis)).map (·.code) := by
      intro priority hpriority
      obtain ⟨entry, -, hentry⟩ := Except.exists_of_mem_mapM hok hpriority
      exact (priorityFor_eq_ok hentry).2
    refine Except.exists_ok_bind hok ⟨_, (dif_pos hcritical).trans (dif_pos ?_)⟩
    rw [CritiqueFields.knownCodes, List.all_eq_true]
    intro priority hpriority
    rw [List.all_eq_true]
    intro code hcode
    rw [List.contains_iff_mem]
    exact hknown priority hpriority code hcode

/-- What a merge returns. -/
theorem merged_eq (h : mergeRuleIssues critique analysis = .ok merged) :
    merged.globalIssues = mergedIssues (allIssues critique analysis) ∧
      merged.passRecommendation = (critique.passRecommendation &&
        !anyCritical (mergedIssues (allIssues critique analysis))) := by
  obtain ⟨priorities, -, hvalid⟩ := Except.bind_eq_ok.mp h
  unfold BookCritique.modelValidate at hvalid
  split at hvalid
  · split at hvalid
    · obtain rfl := Except.ok.inj hvalid
      exact ⟨rfl, rfl⟩
    · contradiction
  · contradiction

/-! ### Severities -/

/-- `_SEVERITY_RANK`. -/
def severityRank : ConflictSeverity → ℕ
  | .critical => 0
  | .high => 1
  | .medium => 2
  | .low => 3

/-- A critique has for every issue one like it that is not less severe; so a critical issue
stays, and the book is not recommended to pass. -/
structure SeveritiesKept (issues : List BookIssue) (merged : BookCritique) : Prop where
  kept : ∀ issue ∈ issues, ∃ item ∈ merged.globalIssues, item.code = issue.code ∧
    item.chapterNumbers = issue.chapterNumbers ∧
      severityRank item.severity ≤ severityRank issue.severity
  critical : (∃ issue ∈ issues, issue.severity = .critical) →
    (∃ item ∈ merged.globalIssues, item.severity = .critical) ∧ merged.passRecommendation = false

/-- The last of the issues that are alike is the severest of them. -/
def LastSeverest (issues : List BookIssue) : Prop :=
  ∀ issue ∈ issues, ∀ last ∈ lastLike issues issue,
    severityRank last.severity ≤ severityRank issue.severity

theorem eq_critical {severity : ConflictSeverity}
    (h : severityRank severity ≤ severityRank .critical) : severity = .critical := by
  cases severity <;> first | rfl | exact absurd h (by decide)

/-- **A merge keeps the severities** of all issues exactly if no issue names a chapter below the
first and the last of the issues that are alike is the severest. -/
theorem severitiesKept_iff :
    (∃ merged, mergeRuleIssues critique analysis = .ok merged ∧
      SeveritiesKept (allIssues critique analysis) merged) ↔
      (∀ issue ∈ allIssues critique analysis, ∀ chapter ∈ issue.chapterNumbers, 1 ≤ chapter) ∧
        LastSeverest (allIssues critique analysis) := by
  rw [← exists_merged_iff]
  constructor
  · rintro ⟨merged, h, hkept⟩
    refine ⟨⟨merged, h⟩, fun issue hissue last hlast => ?_⟩
    obtain ⟨item, hitem, hcode, hchapters, hrank⟩ := hkept.kept issue hissue
    rw [(merged_eq h).1] at hitem
    rw [eq_of_mem_mergedIssues hitem hcode hchapters] at hlast
    obtain rfl := Option.some.inj hlast
    exact hrank
  · rintro ⟨⟨merged, h⟩, hlast⟩
    have hkept : ∀ issue ∈ allIssues critique analysis, ∃ item ∈ merged.globalIssues,
        item.code = issue.code ∧ item.chapterNumbers = issue.chapterNumbers ∧
          severityRank item.severity ≤ severityRank issue.severity := by
      intro issue hissue
      obtain ⟨last, hlike, hmerged⟩ := exists_lastLike hissue
      obtain ⟨-, hcode, hchapters⟩ := lastLike_eq_some hlike
      rw [(merged_eq h).1]
      exact ⟨last, hmerged, hcode, hchapters, hlast issue hissue last hlike⟩
    refine ⟨merged, h, hkept, ?_⟩
    rintro ⟨issue, hissue, hcritical⟩
    obtain ⟨item, hitem, -, -, hrank⟩ := hkept issue hissue
    rw [hcritical] at hrank
    have hitemCritical := eq_critical hrank
    refine ⟨⟨item, hitem, hitemCritical⟩, ?_⟩
    rw [(merged_eq h).1] at hitem
    have hany : anyCritical (mergedIssues (allIssues critique analysis)) = true :=
      List.any_eq_true.mpr ⟨item, hitem, beq_iff_eq.mpr hitemCritical⟩
    rw [(merged_eq h).2, hany, Bool.not_true, Bool.and_false]

/-! ### Instances -/

/-- A score without a reason. -/
def plainScore : DimensionScore := ⟨8, "", by decide, by decide⟩

/-- A critique with issues of the critic, which does not recommend to pass. -/
def plainCritique (issues : List BookIssue) : BookCritique where
  premiseFulfillment := plainScore
  plotCoherence := plainScore
  characterArcs := plainScore
  pacing := plainScore
  worldConsistency := plainScore
  thematicCoherence := plainScore
  foreshadowing := plainScore
  endingQuality := plainScore
  overallScore := plainScore.score
  strengths := []
  globalIssues := issues
  chapterPriorities := []
  passRecommendation := false
  overallScore_nonneg := plainScore.nonneg
  overallScore_le_ten := plainScore.le_ten
  critical_blocks := rfl
  known := rfl

/-- A dead character acts in the third chapter, more or less certainly. -/
def deadAction (severity : ConflictSeverity) (description : String) : TimelineConflict where
  code := "timeline.dead_character_action"
  severity := severity
  chapterNumbers := [1, 3]
  description := description
  evidence := []
  suggestedResolution := "Add an explicit resurrection/flashback rule or revise the later action."

/-- What was found of two actions of the dead. -/
def twoDeadActions (first second : ConflictSeverity) : BookAnalysisBundle where
  timeline := [deadAction first "Ann performs a new action after a recorded death.",
    deadAction second "Bob performs a new action after a recorded death."]
  characterArcs := []
  foreshadowing := []
  pacing := []
  transitions := []
  repetition := []

/-- A critical action is merged into one that is less certain. -/
theorem critical_lowered :
    ¬∃ merged, mergeRuleIssues (plainCritique []) (twoDeadActions .critical .high) = .ok merged ∧
      SeveritiesKept (allIssues (plainCritique []) (twoDeadActions .critical .high)) merged := by
  rintro ⟨merged, h, hkept⟩
  obtain ⟨item, hitem, hcritical⟩ := (hkept.critical (by decide)).1
  rw [(merged_eq h).1] at hitem
  revert item
  decide +kernel

end BookAnalysisService

end StoryForge
