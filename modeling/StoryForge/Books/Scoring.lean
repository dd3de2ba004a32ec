import Mathlib.Data.Finset.Card
import StoryForge.Books.Critique
import StoryForge.Library.Decimal

/-!
# Scores of a book

The scores of the chapters, of the rules and of the critic are weighted into one, and reasons
that block a book are looked for beside the score. One of them is a number of high issues.

The scorer counts the issues of the timeline, of characters and of foreshadowing, and with them
all issues of the critique. The critique it gets has been merged with what the rules found, so
these issues are counted once more.

## Main results

* `card_distinctHigh` — the distinct high issues are those of the merged critique and those that
  the merge lowered;
* `highBlocked_iff` — when the number of high issues blocks a book;
* `countsOnce_iff` — when that is where more distinct issues are high than the maximum;
* `countsOnce_fails` — two high issues are counted as four.
-/

namespace StoryForge

/-! ### Configuration -/

/-- A value for each dimension of a score. -/
structure ScoreDimensions where
  chapterAverage : ℚ
  chapterMinimum : ℚ
  timeline : ℚ
  characterArcs : ℚ
  foreshadowing : ℚ
  pacing : ℚ
  transitions : ℚ
  repetition : ℚ
  bookCritic : ℚ
  deriving DecidableEq, Repr

/-- `sum(values.values())`. -/
def ScoreDimensions.sum (values : ScoreDimensions) : ℚ :=
  values.chapterAverage + values.chapterMinimum + values.timeline + values.characterArcs +
    values.foreshadowing + values.pacing + values.transitions + values.repetition +
    values.bookCritic

/-- The values of two scores, dimension by dimension. -/
def ScoreDimensions.zipWith (f : ℚ → ℚ → ℚ) (values others : ScoreDimensions) :
    ScoreDimensions where
  chapterAverage := f values.chapterAverage others.chapterAverage
  chapterMinimum := f values.chapterMinimum others.chapterMinimum
  timeline := f values.timeline others.timeline
  characterArcs := f values.characterArcs others.characterArcs
  foreshadowing := f values.foreshadowing others.foreshadowing
  pacing := f values.pacing others.pacing
  transitions := f values.transitions others.transitions
  repetition := f values.repetition others.repetition
  bookCritic := f values.bookCritic others.bookCritic

/-- Score weights and acceptance thresholds. -/
structure BookScoringConfig where
  weights : ScoreDimensions
  passScore : ℚ
  minimumEndingScore : ℚ
  minimumCharacterArcScore : ℚ
  minimumForeshadowingPayoffRate : ℚ
  maximumHighIssues : ℕ
  weights_sum : |weights.sum - 1| ≤ 1 / 10 ^ 9
  passScore_mem : 0 ≤ passScore ∧ passScore ≤ 10
  minimumEndingScore_mem : 0 ≤ minimumEndingScore ∧ minimumEndingScore ≤ 10
  minimumCharacterArcScore_mem : 0 ≤ minimumCharacterArcScore ∧ minimumCharacterArcScore ≤ 10
  minimumForeshadowingPayoffRate_mem :
    0 ≤ minimumForeshadowingPayoffRate ∧ minimumForeshadowingPayoffRate ≤ 1

/-- The default configuration. -/
def BookScoringConfig.default : BookScoringConfig where
  weights := ⟨15 / 100, 10 / 100, 15 / 100, 10 / 100, 10 / 100, 10 / 100, 10 / 100, 5 / 100,
    15 / 100⟩
  passScore := 7
  minimumEndingScore := 13 / 2
  minimumCharacterArcScore := 6
  minimumForeshadowingPayoffRate := 6 / 10
  maximumHighIssues := 2
  weights_sum := by norm_num [ScoreDimensions.sum]
  passScore_mem := by norm_num
  minimumEndingScore_mem := by norm_num
  minimumCharacterArcScore_mem := by norm_num
  minimumForeshadowingPayoffRate_mem := by norm_num

/-- What the rules found, with their scores: `timeline.score`, `character_arcs.score`,
`foreshadowing.score`, `foreshadowing.payoff_rate`, `pacing.score`, the `score` of each
transition and `repetition.score`. -/
structure ScoredAnalysis extends BookAnalysisBundle where
  timelineScore : ℚ
  characterArcsScore : ℚ
  foreshadowingScore : ℚ
  payoffRate : ℚ
  pacingScore : ℚ
  transitionScores : List ℚ
  repetitionScore : ℚ
  length_transitionScores : transitionScores.length = transitions.length
  deriving DecidableEq, Repr

/-- What an evaluation recommends. -/
inductive RecommendedAction
  | accept
  | targetedRevision
  | humanReview
  | reject
  deriving DecidableEq, Repr

/-- The evaluation of a book. -/
structure BookEvaluationResult where
  finalScore : ℚ
  passed : Bool
  dimensionScores : ScoreDimensions
  weightedScores : ScoreDimensions
  blockingReasons : List String
  recommendedAction : RecommendedAction
  priorityChapters : List ℤ
  finalScore_nonneg : 0 ≤ finalScore
  finalScore_le_ten : finalScore ≤ 10

/-! ### Scoring -/

namespace BookEvaluationScorer

/-- The text of the reason that too many issues are high. -/
def tooManyHigh : String := "Too many high-severity global issues remain unresolved"

/-- `sum(values) / len(values) if values else default`. -/
def average (values : List ℚ) (default : ℚ) : ℚ :=
  if values = [] then default else values.sum / values.length

variable (config : BookScoringConfig) (chapterScores : List ℚ) (endingScore : ℚ)
  (analysis : ScoredAnalysis) (critique : BookCritique)

/-- `raw`. -/
def raw : ScoreDimensions where
  chapterAverage := Decimal.roundTo 4 (average chapterScores 0)
  chapterMinimum := Decimal.roundTo 4 (chapterScores.min?.getD 0)
  timeline := analysis.timelineScore
  characterArcs := analysis.characterArcsScore
  foreshadowing := analysis.foreshadowingScore
  pacing := analysis.pacingScore
  transitions := Decimal.roundTo 4 (average analysis.transitionScores 10)
  repetition := analysis.repetitionScore
  bookCritic := critique.overallScore

/-- `weighted`. -/
def weighted : ScoreDimensions :=
  (raw chapterScores analysis critique).zipWith
    (fun value weight => Decimal.roundTo 4 (value * weight)) config.weights

/-- `all_severities`. -/
def allSeverities : List ConflictSeverity :=
  analysis.timeline.map (·.severity) ++ analysis.characterArcs.map (·.severity) ++
    analysis.foreshadowing.map (·.severity) ++ critique.globalIssues.map (·.severity)

/-- `high_count`. -/
def highCount : ℕ := (allSeverities analysis critique).count .high

/-- The reasons that may block a book, with whether they do, in order. -/
def reasons : List (Bool × String) :=
  [(chapterScores = [], "No accepted chapter evaluations are available"),
    ((allSeverities analysis critique).contains .critical,
      "At least one critical global issue remains unresolved"),
    (config.maximumHighIssues < highCount analysis critique, tooManyHigh),
    (endingScore < config.minimumEndingScore,
      "The ending chapter is below the configured minimum score"),
    (analysis.characterArcsScore < config.minimumCharacterArcScore,
      "Key character arcs are below the configured minimum score"),
    (analysis.payoffRate < config.minimumForeshadowingPayoffRate,
      "Important foreshadowing payoff rate is below the configured minimum"),
    (!critique.passRecommendation, "The global critic does not recommend acceptance")]

/-- `blockers`. -/
def blockers : List String :=
  ((reasons config chapterScores endingScore analysis critique).filter (·.1)).map (·.2)

/-- `final`: the sum of the weighted scores, of which a critical issue leaves at most a half. -/
def final : ℚ :=
  let total := Decimal.roundTo 2
    (max 0 (min 10 (weighted config chapterScores analysis critique).sum))
  if (allSeverities analysis critique).contains .critical then min total 5 else total

/-- `priority`. -/
def priority : List ℤ :=
  (critique.globalIssues.flatMap (·.chapterNumbers) ++
    critique.chapterPriorities.map (·.chapterNumber)).dedup.insertionSort (· ≤ ·)

/-- A final score is between zero and ten. -/
theorem final_mem : 0 ≤ final config chapterScores analysis critique ∧
    final config chapterScores analysis critique ≤ 10 := by
  have htotal : max 0 (min 10 (weighted config chapterScores analysis critique).sum) ≤
      ((10 : ℕ) : ℚ) := max_le (by norm_num) (min_le_left _ _)
  obtain ⟨hnonneg, hle⟩ := @Decimal.roundTo_mem 2 10 _ (le_max_left 0 _) htotal
  simp only [final]
  split
  · exact ⟨le_min hnonneg (by norm_num), (min_le_right _ _).trans (by norm_num)⟩
  · exact ⟨hnonneg, hle⟩

/-- `score`. -/
def score : BookEvaluationResult :=
  let blocking := blockers config chapterScores endingScore analysis critique
  let passed := decide (config.passScore ≤ final config chapterScores analysis critique) &&
    blocking.isEmpty
  { finalScore := final config chapterScores analysis critique
    passed := passed
    dimensionScores := raw chapterScores analysis critique
    weightedScores := weighted config chapterScores analysis critique
    blockingReasons := blocking
    recommendedAction :=
      if passed then .accept
      else if priority critique ≠ [] then .targetedRevision
      else if final config chapterScores analysis critique < 4 then .reject
      else .humanReview
    priorityChapters := priority critique
    finalScore_nonneg := (final_mem config chapterScores analysis critique).1
    finalScore_le_ten := (final_mem config chapterScores analysis critique).2 }

/-- When the number of high issues blocks a book. -/
theorem highBlocked_iff :
    tooManyHigh ∈ (score config chapterScores endingScore analysis critique).blockingReasons ↔
      config.maximumHighIssues < highCount analysis critique := by
  simp [score, blockers, reasons, tooManyHigh]

end BookEvaluationScorer

namespace BookAnalysisService

/-- The evaluation of `analyze`: the scorer gets the merged critique and what the rules found. -/
def evaluation (config : BookScoringConfig) (critique : BookCritique) (analysis : ScoredAnalysis)
    (scores : List ℚ) : Except Error BookEvaluationResult := do
  let merged ← mergeRuleIssues critique analysis.toBookAnalysisBundle
  return BookEvaluationScorer.score config scores (scores.getLast?.getD 0) analysis merged

/-! ### Distinct issues -/

/-- An issue is high. -/
def isHigh (issue : BookIssue) : Bool := issue.severity == .high

/-- The code and the chapters of an issue. -/
def identity (issue : BookIssue) : String × List ℤ := (issue.code, issue.chapterNumbers)

/-- The distinct high issues, by code and chapters. -/
def distinctHigh (issues : List BookIssue) : Finset (String × List ℤ) :=
  ((issues.filter isHigh).map identity).toFinset

/-- The distinct high issues whose last issue is not high, so that no high issue is merged for
them. -/
def overwrittenHigh (issues : List BookIssue) : Finset (String × List ℤ) :=
  ((issues.filter fun issue => isHigh issue && !(lastLike issues issue).any isHigh).map
    identity).toFinset

/-- The high issues that the scorer counts besides those of the critique. -/
def countedBeside (analysis : BookAnalysisBundle) : ℕ :=
  analysis.timeline.countP (·.severity == .high) +
    analysis.characterArcs.countP (·.severity == .high) +
      analysis.foreshadowing.countP (·.severity == .high)

variable {issues : List BookIssue} {critique merged : BookCritique} {analysis : ScoredAnalysis}

theorem mem_distinctHigh {name : String × List ℤ} :
    name ∈ distinctHigh issues ↔ ∃ issue ∈ issues, isHigh issue = true ∧ identity issue = name := by
  simp only [distinctHigh, List.mem_toFinset, List.mem_map, List.mem_filter, and_assoc]

theorem mem_overwrittenHigh {name : String × List ℤ} :
    name ∈ overwrittenHigh issues ↔ ∃ issue ∈ issues, isHigh issue = true ∧
      (lastLike issues issue).any isHigh = false ∧ identity issue = name := by
  simp only [overwrittenHigh, List.mem_toFinset, List.mem_map, List.mem_filter,
    Bool.and_eq_true, Bool.not_eq_true', and_assoc]

/-- Issues with one identity have one last issue. -/
theorem lastLike_of_identity {issue other : BookIssue} (h : identity issue = identity other) :
    lastLike issues issue = lastLike issues other := by
  obtain ⟨hcode, hchapters⟩ := Prod.mk.inj h
  exact lastLike_congr hcode hchapters

/-- No two merged issues have one identity. -/
theorem nodup_mergedIssues : ((mergedIssues issues).map identity).Nodup := by
  have hkeys : ((mergedIssues issues).map issueKey).Nodup :=
    Dict.nodup_map_values_ofList issueKey issues
  rw [List.Nodup, List.pairwise_map] at hkeys ⊢
  refine hkeys.imp fun hne heq => hne (issueKey_eq_iff.mpr ?_)
  exact Prod.mk.inj heq

/-- The distinct high issues are those that are merged as high and those that are overwritten. -/
theorem distinctHigh_eq :
    distinctHigh issues = distinctHigh (mergedIssues issues) ∪ overwrittenHigh issues := by
  ext name
  rw [Finset.mem_union, mem_distinctHigh, mem_distinctHigh, mem_overwrittenHigh]
  constructor
  · rintro ⟨issue, hissue, hhigh, rfl⟩
    obtain ⟨last, hlast, hmerged⟩ := exists_lastLike hissue
    obtain ⟨-, hcode, hchapters⟩ := lastLike_eq_some hlast
    cases hkept : isHigh last with
    | true => exact .inl ⟨last, hmerged, hkept, Prod.ext hcode hchapters⟩
    | false => exact .inr ⟨issue, hissue, hhigh, by rw [hlast]; exact hkept, rfl⟩
  · rintro (⟨issue, hissue, hhigh, rfl⟩ | ⟨issue, hissue, hhigh, -, rfl⟩)
    · exact ⟨issue, (lastLike_eq_some (mem_mergedIssues.mp hissue)).1, hhigh, rfl⟩
    · exact ⟨issue, hissue, hhigh, rfl⟩

/-- What is merged as high is not overwritten. -/
theorem disjoint_overwrittenHigh :
    Disjoint (distinctHigh (mergedIssues issues)) (overwrittenHigh issues) := by
  rw [Finset.disjoint_left]
  intro name hmerged hoverwritten
  obtain ⟨last, hlast, hhigh, rfl⟩ := mem_distinctHigh.mp hmerged
  obtain ⟨issue, -, -, hlow, heq⟩ := mem_overwrittenHigh.mp hoverwritten
  rw [lastLike_of_identity heq, mem_mergedIssues.mp hlast, Option.any_some, hhigh] at hlow
  contradiction

/-- A merged list has as many high issues as distinct ones. -/
theorem card_distinctHigh_mergedIssues :
    (distinctHigh (mergedIssues issues)).card = (mergedIssues issues).countP isHigh := by
  have hnodup : (((mergedIssues issues).filter isHigh).map identity).Nodup :=
    nodup_mergedIssues.sublist (List.filter_sublist.map identity)
  rw [distinctHigh, List.toFinset_card_of_nodup hnodup, List.length_map,
    List.countP_eq_length_filter]

/-- **The distinct high issues** are as many as those that are merged as high and those that are
overwritten. -/
theorem card_distinctHigh :
    (distinctHigh issues).card =
      (mergedIssues issues).countP isHigh + (overwrittenHigh issues).card := by
  rw [distinctHigh_eq, Finset.card_union_of_disjoint disjoint_overwrittenHigh,
    card_distinctHigh_mergedIssues]

/-- The scorer counts the merged issues that are high, and the issues of the timeline, of
characters and of foreshadowing beside them. -/
theorem highCount_eq (h : mergeRuleIssues critique analysis.toBookAnalysisBundle = .ok merged) :
    BookEvaluationScorer.highCount analysis merged =
      countedBeside analysis.toBookAnalysisBundle +
        (mergedIssues (allIssues critique analysis.toBookAnalysisBundle)).countP isHigh := by
  simp only [BookEvaluationScorer.highCount, BookEvaluationScorer.allSeverities,
    List.count_eq_countP, List.countP_append, List.countP_map, (merged_eq h).1, countedBeside]
  rfl

/-! ### The blocker -/

variable {config : BookScoringConfig} {scores : List ℚ} {result : BookEvaluationResult}

/-- The number of high issues blocks a book where more distinct issues are high than the
maximum. -/
def CountsOnce (config : BookScoringConfig) (issues : List BookIssue)
    (result : BookEvaluationResult) : Prop :=
  BookEvaluationScorer.tooManyHigh ∈ result.blockingReasons ↔
    config.maximumHighIssues < (distinctHigh issues).card

/-- The issues that are counted beside the critique and those that are overwritten do not carry
the number of high issues over the maximum, or down to it. -/
structure WithinRoom (maximum distinct beside overwritten : ℕ) : Prop where
  room : distinct ≤ maximum → beside ≤ (maximum - distinct) + overwritten
  excess : maximum < distinct → overwritten < (distinct - maximum) + beside

theorem withinRoom_iff {maximum distinct beside overwritten : ℕ} :
    WithinRoom maximum distinct beside overwritten ↔
      (maximum + overwritten < beside + distinct ↔ maximum < distinct) := by
  constructor
  · rintro ⟨hroom, hexcess⟩
    omega
  · intro h
    exact ⟨by omega, by omega⟩

/-- **The blocker counts each high issue once** exactly if the issues that are counted beside the
critique and those that are overwritten leave the number on its side of the maximum. -/
theorem countsOnce_iff (h : evaluation config critique analysis scores = .ok result) :
    CountsOnce config (allIssues critique analysis.toBookAnalysisBundle) result ↔
      WithinRoom config.maximumHighIssues
        (distinctHigh (allIssues critique analysis.toBookAnalysisBundle)).card
        (countedBeside analysis.toBookAnalysisBundle)
        (overwrittenHigh (allIssues critique analysis.toBookAnalysisBundle)).card := by
  obtain ⟨merged, hmerged, hscore⟩ := Except.bind_eq_ok.mp h
  obtain rfl := Except.ok.inj hscore
  rw [CountsOnce, BookEvaluationScorer.highBlocked_iff, highCount_eq hmerged, withinRoom_iff,
    card_distinctHigh]
  have hcount : config.maximumHighIssues < countedBeside analysis.toBookAnalysisBundle +
        (mergedIssues (allIssues critique analysis.toBookAnalysisBundle)).countP isHigh ↔
      config.maximumHighIssues +
          (overwrittenHigh (allIssues critique analysis.toBookAnalysisBundle)).card <
        countedBeside analysis.toBookAnalysisBundle +
          ((mergedIssues (allIssues critique analysis.toBookAnalysisBundle)).countP isHigh +
            (overwrittenHigh (allIssues critique analysis.toBookAnalysisBundle)).card) := by
    omega
  rw [hcount]

/-! ### Instances -/

/-- What the rules found, if it is conflicts of the timeline. -/
def onlyTimeline (timeline : List TimelineConflict) : ScoredAnalysis where
  timeline := timeline
  characterArcs := []
  foreshadowing := []
  pacing := []
  transitions := []
  repetition := []
  timelineScore := 6
  characterArcsScore := 10
  foreshadowingScore := 10
  payoffRate := 1
  pacingScore := 10
  transitionScores := []
  repetitionScore := 10
  length_transitionScores := rfl

/-- An action of the dead, in chapters. -/
def highAction (chapterNumbers : List ℤ) : TimelineConflict :=
  { deadAction .high "Ann performs a new action after a recorded death." with
    chapterNumbers := chapterNumbers }

/-- Evaluations succeed where no issue names a chapter below the first. -/
theorem exists_evaluation (h : ∀ issue ∈ allIssues critique analysis.toBookAnalysisBundle,
    ∀ chapter ∈ issue.chapterNumbers, 1 ≤ chapter) :
    ∃ result, evaluation config critique analysis scores = .ok result := by
  obtain ⟨merged, hmerged⟩ := exists_merged_iff.mpr h
  exact ⟨_, Except.bind_eq_ok.mpr ⟨merged, hmerged, rfl⟩⟩

/-- One high action, which is counted twice, does not pass a maximum of two. -/
theorem countsOnce_oneAction :
    ∃ result, evaluation .default (plainCritique []) (onlyTimeline [highAction [1, 3]]) [8] =
      .ok result ∧ CountsOnce .default (allIssues (plainCritique [])
        (onlyTimeline [highAction [1, 3]]).toBookAnalysisBundle) result := by
  obtain ⟨result, hresult⟩ : ∃ result, evaluation .default (plainCritique [])
      (onlyTimeline [highAction [1, 3]]) [8] = .ok result := exists_evaluation (by decide)
  exact ⟨result, hresult, (countsOnce_iff hresult).mpr
    (withinRoom_iff.mpr (by decide +kernel))⟩

/-- Two high actions block a book that may have two. -/
theorem countsOnce_fails :
    ¬∀ (config : BookScoringConfig) (critique : BookCritique) (analysis : ScoredAnalysis)
        (scores : List ℚ) (result : BookEvaluationResult),
      evaluation config critique analysis scores = .ok result →
        CountsOnce config (allIssues critique analysis.toBookAnalysisBundle) result := by
  intro h
  obtain ⟨merged, hmerged⟩ : ∃ merged, mergeRuleIssues (plainCritique [])
      (onlyTimeline [highAction [1, 3], highAction [2, 4]]).toBookAnalysisBundle = .ok merged :=
    exists_merged_iff.mpr (by decide)
  have honce := h .default (plainCritique [])
    (onlyTimeline [highAction [1, 3], highAction [2, 4]]) [8] _
    (Except.bind_eq_ok.mpr ⟨merged, hmerged, rfl⟩)
  rw [CountsOnce, BookEvaluationScorer.highBlocked_iff, highCount_eq hmerged] at honce
  revert honce
  decide +kernel

end BookAnalysisService

end StoryForge
