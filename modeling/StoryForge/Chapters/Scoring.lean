import Mathlib.Algebra.Order.BigOperators.Group.List
import StoryForge.Chapters.Evaluation
import StoryForge.Library.Decimal

/-!
# Scores of a chapter

The mechanical score, the scores of the critic and the consistency score are weighted into one.
Conflicts lower it, and reasons that block a chapter are looked for beside it. A chapter without a
reason passes, and the others are revised, left to a human or rejected.

## Main results

* `EvaluationScorer.combine_mono` — a chapter that is better in every respect gets no lower score,
  no other reasons and no worse recommendation;
* `EvaluationScorer.passed_iff` — when a chapter passes.
-/

namespace StoryForge

/-! ### Configuration -/

/-- The dimensions that have a weight. -/
inductive ScoringDimension
  | mechanical
  | prose
  | plot
  | character
  | pacing
  | dialogue
  | emotionalImpact
  | consistency
  | outlineAdherence
  deriving DecidableEq, Repr

/-- All of them, in the order of `_default_weights`. -/
def ScoringDimension.all : List ScoringDimension :=
  [.mechanical, .prose, .plot, .character, .pacing, .dialogue, .emotionalImpact, .consistency,
    .outlineAdherence]

/-- `isclose(a, b, abs_tol=1e-9)`. -/
def isClose (a b : ℚ) : Prop := |a - b| ≤ max (max |a| |b| / 10 ^ 9) (1 / 10 ^ 9)

/-- Validated score weights and hard pass gates. -/
structure EvaluationScoringConfig where
  weights : ScoringDimension → ℚ
  passThreshold : ℚ
  criticalScoreCap : ℚ
  highConflictPenalty : ℚ
  maxHighConflicts : ℕ
  minConsistencyScore : ℚ
  minOutlineAdherenceScore : ℚ
  weights_nonneg : ∀ dimension, 0 ≤ weights dimension
  weights_sum : isClose (ScoringDimension.all.map weights).sum 1
  passThreshold_mem : 0 ≤ passThreshold ∧ passThreshold ≤ 10
  criticalScoreCap_mem : 0 ≤ criticalScoreCap ∧ criticalScoreCap ≤ 10
  highConflictPenalty_mem : 0 ≤ highConflictPenalty ∧ highConflictPenalty ≤ 10
  minConsistencyScore_mem : 0 ≤ minConsistencyScore ∧ minConsistencyScore ≤ 10
  minOutlineAdherenceScore_mem : 0 ≤ minOutlineAdherenceScore ∧ minOutlineAdherenceScore ≤ 10

/-- `_default_weights`. -/
def ScoringDimension.defaultWeight : ScoringDimension → ℚ
  | .mechanical => 20 / 100
  | .prose => 15 / 100
  | .plot => 15 / 100
  | .character => 10 / 100
  | .pacing => 10 / 100
  | .dialogue => 5 / 100
  | .emotionalImpact => 5 / 100
  | .consistency => 15 / 100
  | .outlineAdherence => 5 / 100

/-- The default thresholds are scores. -/
theorem defaultPassThreshold_mem : 0 ≤ (7 : ℚ) ∧ (7 : ℚ) ≤ 10 := by norm_num

theorem defaultMinConsistencyScore_mem : 0 ≤ (13 / 2 : ℚ) ∧ (13 / 2 : ℚ) ≤ 10 := by norm_num

theorem defaultMinOutlineAdherenceScore_mem : 0 ≤ (6 : ℚ) ∧ (6 : ℚ) ≤ 10 := by norm_num

/-- The default configuration. -/
def EvaluationScoringConfig.default : EvaluationScoringConfig where
  weights := ScoringDimension.defaultWeight
  passThreshold := 7
  criticalScoreCap := 5
  highConflictPenalty := 1 / 2
  maxHighConflicts := 0
  minConsistencyScore := 13 / 2
  minOutlineAdherenceScore := 6
  weights_nonneg dimension := by cases dimension <;> norm_num [ScoringDimension.defaultWeight]
  weights_sum := by norm_num [ScoringDimension.all, ScoringDimension.defaultWeight, isClose]
  passThreshold_mem := defaultPassThreshold_mem
  criticalScoreCap_mem := by norm_num
  highConflictPenalty_mem := by norm_num
  minConsistencyScore_mem := defaultMinConsistencyScore_mem
  minOutlineAdherenceScore_mem := defaultMinOutlineAdherenceScore_mem

/-! ### The critic -/

/-- `TenScore`. -/
abbrev TenScore := {score : ℚ // 0 ≤ score ∧ score ≤ 10}

/-- The scores of a critic. -/
structure CriticScores where
  prose : TenScore
  plot : TenScore
  character : TenScore
  pacing : TenScore
  dialogue : TenScore
  emotionalImpact : TenScore
  consistency : TenScore
  outlineAdherence : TenScore
  deriving DecidableEq

/-- `mean_score`. -/
def CriticScores.mean (scores : CriticScores) : ℚ :=
  (scores.prose + scores.plot + scores.character + scores.pacing + scores.dialogue +
    scores.emotionalImpact + scores.consistency + scores.outlineAdherence) / 8

/-- A literary or narrative issue. -/
structure CriticIssue where
  code : String
  category : String
  severity : ConflictSeverity
  deriving DecidableEq, Repr

/-- What a critic says of a chapter, as far as it is scored or checked. `casefold` is that of
`str`. -/
structure ChapterCritique (casefold : String → String) extends CriticScores where
  overallScore : TenScore
  issues : List CriticIssue
  revisionPriorities : List String
  passRecommendation : Bool
  overallScore_aligned : |(overallScore : ℚ) - toCriticScores.mean| ≤ 2
  codes_nodup : (issues.map (·.code)).Nodup
  revisionPriorities_mem : ∀ code ∈ revisionPriorities, code ∈ issues.map (·.code)
  not_recommended : (issues.any fun issue =>
      issue.severity == .critical && casefold issue.category == "consistency") = true →
    passRecommendation = false

/-! ### Scoring -/

/-- `bounded_score`. -/
def boundedScore (value : ℚ) : ℚ := Decimal.roundTo 2 (min 10 (max 0 value))

theorem boundedScore_mem (value : ℚ) : 0 ≤ boundedScore value ∧ boundedScore value ≤ 10 := by
  have hnonneg : 0 ≤ min 10 (max 0 value) := le_min (by norm_num) (le_max_left 0 value)
  exact @Decimal.roundTo_mem 2 10 _ hnonneg (min_le_left _ _)

theorem boundedScore_mono {x y : ℚ} (h : x ≤ y) : boundedScore x ≤ boundedScore y :=
  Decimal.roundTo_mono (le_min (by norm_num) (le_max_left 0 x))
    (min_le_min_left 10 (max_le_max_left 0 h))

theorem boundedScore_zero : boundedScore 0 = 0 := by decide +kernel

namespace EvaluationScorer

/-- What an evaluation recommends. -/
inductive RecommendedAction
  | accept
  | revise
  | humanReview
  | reject
  deriving DecidableEq, Repr

/-- The stored form of a recommendation. -/
def RecommendedAction.value : RecommendedAction → String
  | .accept => "accept"
  | .revise => "revise"
  | .humanReview => "human_review"
  | .reject => "reject"

/-- How good a recommendation is. -/
def RecommendedAction.rank : RecommendedAction → ℕ
  | .accept => 3
  | .revise => 2
  | .humanReview => 1
  | .reject => 0

/-- The arguments of `combine`. -/
structure Input (casefold : String → String) where
  mechanicalScore : ℚ
  critique : ChapterCritique casefold
  consistencyScore : ℚ
  criticalConflicts : ℕ
  highConflicts : ℕ
  contentEmpty : Bool

/-- Auditable deterministic score combination and gate decision. `rawScores` are those that have a
weight; those of the critic for the whole and for consistency are kept beside them. -/
structure CombinedEvaluationResult where
  finalScore : TenScore
  passed : Bool
  rawScores : ScoringDimension → TenScore
  criticOverall : TenScore
  criticConsistency : TenScore
  weightedScores : ScoringDimension → ℚ
  blockingReasons : List String
  recommendedAction : RecommendedAction

variable {casefold : String → String} (config : EvaluationScoringConfig) (input : Input casefold)

/-- `raw_scores`. -/
def rawScores : ScoringDimension → TenScore
  | .mechanical => ⟨boundedScore input.mechanicalScore, boundedScore_mem _⟩
  | .prose => input.critique.prose
  | .plot => input.critique.plot
  | .character => input.critique.character
  | .pacing => input.critique.pacing
  | .dialogue => input.critique.dialogue
  | .emotionalImpact => input.critique.emotionalImpact
  | .consistency => ⟨boundedScore input.consistencyScore, boundedScore_mem _⟩
  | .outlineAdherence => input.critique.outlineAdherence

/-- `weighted_scores`. -/
def weightedScores (dimension : ScoringDimension) : ℚ :=
  Decimal.roundTo 4 (rawScores input dimension * config.weights dimension)

/-- The sum of the weighted scores, lowered by the high conflicts. -/
def total : ℚ :=
  (ScoringDimension.all.map (weightedScores config input)).sum -
    input.highConflicts * config.highConflictPenalty

/-- `final_score`. A critical conflict caps it, and an empty chapter has none. -/
def finalScore : TenScore :=
  let capped := if input.criticalConflicts ≠ 0 then
    min (total config input) config.criticalScoreCap else total config input
  let score := if input.contentEmpty then 0 else capped
  ⟨boundedScore score, boundedScore_mem score⟩

/-- The reasons that may block a chapter, with whether they do, in order. -/
def reasons : List (Bool × String) :=
  [(input.contentEmpty, "chapter_content_empty"),
    (input.criticalConflicts ≠ 0, "critical_conflict_present"),
    (config.maxHighConflicts < input.highConflicts, "too_many_high_conflicts"),
    (input.consistencyScore < config.minConsistencyScore, "consistency_score_below_minimum"),
    ((input.critique.outlineAdherence : ℚ) < config.minOutlineAdherenceScore,
      "outline_adherence_below_minimum"),
    (!input.critique.passRecommendation, "critic_does_not_recommend_pass"),
    ((finalScore config input : ℚ) < config.passThreshold, "final_score_below_threshold")]

/-- `blocking_reasons`. -/
def blockingReasons : List String := ((reasons config input).filter (·.1)).map (·.2)

/-- `passed`. -/
def passed : Bool := blockingReasons config input = []

/-- `action`. -/
def recommendedAction : RecommendedAction :=
  if passed config input then .accept
  else if input.contentEmpty ∨ 1 < input.criticalConflicts ∨ (finalScore config input : ℚ) < 3 then
    .reject
  else if input.criticalConflicts ≠ 0 ∨ config.maxHighConflicts < input.highConflicts then
    .humanReview
  else .revise

/-- `combine`. -/
def combine : CombinedEvaluationResult where
  finalScore := finalScore config input
  passed := passed config input
  rawScores := rawScores input
  criticOverall := input.critique.overallScore
  criticConsistency := input.critique.consistency
  weightedScores := weightedScores config input
  blockingReasons := blockingReasons config input
  recommendedAction := recommendedAction config input

variable {config input} {other : Input casefold}

/-! ### When a chapter passes -/

theorem passed_iff_reasons : passed config input = true ↔ ∀ reason ∈ reasons config input,
    reason.1 = false := by
  simp only [passed, decide_eq_true_eq, blockingReasons, List.map_eq_nil_iff,
    List.filter_eq_nil_iff, Bool.not_eq_true]

/-- The conditions on a chapter that passes. -/
structure Passing (config : EvaluationScoringConfig) (input : Input casefold) : Prop where
  content : input.contentEmpty = false
  critical : input.criticalConflicts = 0
  high : input.highConflicts ≤ config.maxHighConflicts
  consistency : config.minConsistencyScore ≤ input.consistencyScore
  outline : config.minOutlineAdherenceScore ≤ (input.critique.outlineAdherence : ℚ)
  recommended : input.critique.passRecommendation = true
  threshold : config.passThreshold ≤ (finalScore config input : ℚ)

theorem passed_iff : passed config input = true ↔ Passing config input := by
  rw [passed_iff_reasons]
  constructor
  · intro h
    simp only [reasons, List.forall_mem_cons, List.not_mem_nil, false_implies, implies_true,
      and_true, decide_eq_false_iff_not, not_lt, not_not, Bool.not_eq_false'] at h
    obtain ⟨hcontent, hcritical, hhigh, hconsistency, houtline, hrecommended, hthreshold⟩ := h
    exact ⟨hcontent, hcritical, hhigh, hconsistency, houtline, hrecommended, hthreshold⟩
  · intro h
    simp only [reasons, List.forall_mem_cons, List.not_mem_nil, false_implies, implies_true,
      and_true, decide_eq_false_iff_not, not_lt, not_not, Bool.not_eq_false']
    exact ⟨h.content, h.critical, h.high, h.consistency, h.outline, h.recommended, h.threshold⟩

/-- The critic of a chapter that passes has found no critical issue of consistency. -/
theorem Passing.no_critical_issue (h : Passing config input) {issue : CriticIssue}
    (hissue : issue ∈ input.critique.issues) (hcritical : issue.severity = .critical) :
    casefold issue.category ≠ "consistency" := by
  intro hcategory
  have hany := input.critique.not_recommended (List.any_eq_true.mpr
    ⟨issue, hissue, by rw [hcritical, hcategory]; rfl⟩)
  rw [h.recommended] at hany
  exact absurd hany (by decide)

/-! ### Better chapters -/

/-- A chapter that is better than another in every respect. -/
structure AtMost (input other : Input casefold) : Prop where
  mechanical : input.mechanicalScore ≤ other.mechanicalScore
  prose : input.critique.prose ≤ other.critique.prose
  plot : input.critique.plot ≤ other.critique.plot
  character : input.critique.character ≤ other.critique.character
  pacing : input.critique.pacing ≤ other.critique.pacing
  dialogue : input.critique.dialogue ≤ other.critique.dialogue
  emotionalImpact : input.critique.emotionalImpact ≤ other.critique.emotionalImpact
  outline : input.critique.outlineAdherence ≤ other.critique.outlineAdherence
  consistency : input.consistencyScore ≤ other.consistencyScore
  critical : other.criticalConflicts ≤ input.criticalConflicts
  high : other.highConflicts ≤ input.highConflicts
  content : other.contentEmpty = true → input.contentEmpty = true
  recommended : input.critique.passRecommendation = true → other.critique.passRecommendation = true

theorem AtMost.rawScores (h : AtMost input other) (dimension : ScoringDimension) :
    rawScores input dimension ≤ EvaluationScorer.rawScores other dimension := by
  cases dimension with
  | mechanical => exact boundedScore_mono h.mechanical
  | prose => exact h.prose
  | plot => exact h.plot
  | character => exact h.character
  | pacing => exact h.pacing
  | dialogue => exact h.dialogue
  | emotionalImpact => exact h.emotionalImpact
  | consistency => exact boundedScore_mono h.consistency
  | outlineAdherence => exact h.outline

theorem AtMost.weightedScores (h : AtMost input other) (dimension : ScoringDimension) :
    weightedScores config input dimension ≤
      EvaluationScorer.weightedScores config other dimension := by
  have hweight := config.weights_nonneg dimension
  exact Decimal.roundTo_mono (mul_nonneg (EvaluationScorer.rawScores input dimension).2.1 hweight)
    (mul_le_mul_of_nonneg_right (h.rawScores dimension) hweight)

theorem AtMost.total (h : AtMost input other) :
    total config input ≤ EvaluationScorer.total config other := by
  have hsum : (ScoringDimension.all.map (EvaluationScorer.weightedScores config input)).sum ≤
      (ScoringDimension.all.map (EvaluationScorer.weightedScores config other)).sum :=
    List.sum_le_sum fun dimension _ => h.weightedScores dimension
  have hpenalty : (other.highConflicts : ℚ) * config.highConflictPenalty ≤
      input.highConflicts * config.highConflictPenalty :=
    mul_le_mul_of_nonneg_right (Nat.cast_le.mpr h.high) config.highConflictPenalty_mem.1
  rw [EvaluationScorer.total, EvaluationScorer.total]
  linarith

theorem AtMost.finalScore (h : AtMost input other) :
    finalScore config input ≤ EvaluationScorer.finalScore config other := by
  have htotal : EvaluationScorer.total config input ≤ EvaluationScorer.total config other := h.total
  refine Subtype.mk_le_mk.mpr ?_
  by_cases hempty : input.contentEmpty = true
  · rw [if_pos hempty]
    rw [boundedScore_zero]
    exact (boundedScore_mem _).1
  · have hother : ¬ other.contentEmpty = true := fun hother => hempty (h.content hother)
    rw [if_neg hempty, if_neg hother]
    apply boundedScore_mono
    by_cases hcritical : other.criticalConflicts ≠ 0
    · have hinput : input.criticalConflicts ≠ 0 := by
        have := h.critical
        omega
      rw [if_pos hcritical, if_pos hinput]
      exact min_le_min_right _ htotal
    · rw [if_neg hcritical]
      split
      · exact (min_le_left _ _).trans htotal
      · exact htotal

/-- What blocks the better chapter blocks the other. -/
theorem AtMost.reasons (h : AtMost input other) :
    List.Forall₂ (fun worse better => worse.2 = better.2 ∧ (better.1 = true → worse.1 = true))
      (reasons config input) (EvaluationScorer.reasons config other) := by
  have hfinal : (EvaluationScorer.finalScore config input : ℚ) ≤
      EvaluationScorer.finalScore config other := h.finalScore
  have houtline : (input.critique.outlineAdherence : ℚ) ≤ other.critique.outlineAdherence :=
    h.outline
  have hconsistency := h.consistency
  have hcritical := h.critical
  have hhigh := h.high
  unfold EvaluationScorer.reasons
  refine .cons ⟨rfl, h.content⟩ (.cons ⟨rfl, ?_⟩ (.cons ⟨rfl, ?_⟩ (.cons ⟨rfl, ?_⟩
    (.cons ⟨rfl, ?_⟩ (.cons ⟨rfl, ?_⟩ (.cons ⟨rfl, ?_⟩ .nil))))))
  · simp only [decide_eq_true_eq]
    omega
  · simp only [decide_eq_true_eq]
    omega
  · simp only [decide_eq_true_eq]
    exact hconsistency.trans_lt
  · simp only [decide_eq_true_eq]
    exact houtline.trans_lt
  · simp only [Bool.not_eq_true']
    intro hother
    by_contra hinput
    rw [h.recommended (by simpa using hinput)] at hother
    exact absurd hother (by decide)
  · simp only [decide_eq_true_eq]
    exact hfinal.trans_lt

/-- Filtered lists of which one is weaker at each place. -/
theorem sublist_of_forall₂ {worse better : List (Bool × String)}
    (h : List.Forall₂ (fun a b => a.2 = b.2 ∧ (b.1 = true → a.1 = true)) worse better) :
    ((better.filter (·.1)).map (·.2)).Sublist ((worse.filter (·.1)).map (·.2)) := by
  induction h with
  | nil => exact List.Sublist.slnil
  | @cons a b worse better hab _ ih =>
      by_cases hb : b.1 = true
      · rw [List.filter_cons_of_pos hb, List.filter_cons_of_pos (hab.2 hb), List.map_cons,
          List.map_cons, hab.1]
        exact ih.cons_cons b.2
      · rw [List.filter_cons_of_neg hb]
        by_cases ha : a.1 = true
        · rw [List.filter_cons_of_pos ha, List.map_cons]
          exact ih.cons a.2
        · rwa [List.filter_cons_of_neg ha]

theorem AtMost.blockingReasons (h : AtMost input other) :
    (blockingReasons config other).Sublist (EvaluationScorer.blockingReasons config input) :=
  sublist_of_forall₂ h.reasons

theorem AtMost.passed (h : AtMost input other) (hpassed : passed config input = true) :
    EvaluationScorer.passed config other = true := by
  rw [EvaluationScorer.passed, decide_eq_true_eq] at hpassed ⊢
  exact List.sublist_nil.mp (hpassed ▸ h.blockingReasons)

theorem AtMost.recommendedAction (h : AtMost input other) :
    (recommendedAction config input).rank ≤
      (EvaluationScorer.recommendedAction config other).rank := by
  have hfinal : (EvaluationScorer.finalScore config input : ℚ) ≤
      EvaluationScorer.finalScore config other := h.finalScore
  have hcritical := h.critical
  have hhigh := h.high
  unfold EvaluationScorer.recommendedAction
  by_cases hother : EvaluationScorer.passed config other = true
  · rw [if_pos hother]
    split_ifs <;> decide
  · have hinput : ¬ EvaluationScorer.passed config input = true :=
      fun hinput => hother (h.passed hinput)
    rw [if_neg hother, if_neg hinput]
    by_cases hrejected : other.contentEmpty ∨ 1 < other.criticalConflicts ∨
        (EvaluationScorer.finalScore config other : ℚ) < 3
    · have : input.contentEmpty ∨ 1 < input.criticalConflicts ∨
          (EvaluationScorer.finalScore config input : ℚ) < 3 := by
        rcases hrejected with hempty | hmany | hlow
        · exact .inl (h.content hempty)
        · exact .inr (.inl (by omega))
        · exact .inr (.inr (hfinal.trans_lt hlow))
      rw [if_pos hrejected, if_pos this]
    · rw [if_neg hrejected]
      by_cases hreview : other.criticalConflicts ≠ 0 ∨
          config.maxHighConflicts < other.highConflicts
      · have : input.criticalConflicts ≠ 0 ∨ config.maxHighConflicts < input.highConflicts := by
          omega
        rw [if_pos hreview, if_pos this]
        split_ifs <;> decide
      · rw [if_neg hreview]
        split_ifs <;> decide

/-- **A better chapter is not judged worse.** -/
theorem combine_mono (h : AtMost input other) :
    (combine config input).finalScore ≤ (combine config other).finalScore ∧
      (combine config other).blockingReasons.Sublist (combine config input).blockingReasons ∧
      ((combine config input).passed = true → (combine config other).passed = true) ∧
      (combine config input).recommendedAction.rank ≤
        (combine config other).recommendedAction.rank :=
  ⟨h.finalScore, h.blockingReasons, h.passed, h.recommendedAction⟩

/-- A critic that scores everything alike and has no issue. -/
def evenCritique (score : TenScore) : ChapterCritique id where
  prose := score
  plot := score
  character := score
  pacing := score
  dialogue := score
  emotionalImpact := score
  consistency := score
  outlineAdherence := score
  overallScore := score
  issues := []
  revisionPriorities := []
  passRecommendation := true
  overallScore_aligned := by
    have hmean : (score : ℚ) - (score + score + score + score + score + score + score + score) / 8
        = 0 := by ring
    rw [CriticScores.mean, hmean]
    norm_num
  codes_nodup := List.nodup_nil
  revisionPriorities_mem := by simp
  not_recommended := by simp

/-- A good chapter with a number of high conflicts. -/
def goodInput (highConflicts : ℕ) : Input id :=
  ⟨9, evenCritique ⟨8, by norm_num⟩, 8, 0, highConflicts, false⟩

/-- A chapter whose only high conflict is resolved. -/
theorem combine_mono_resolved :
    (combine .default (goodInput 1)).recommendedAction = .humanReview ∧
      (combine .default (goodInput 0)).recommendedAction = .accept ∧
      (combine .default (goodInput 1)).finalScore ≤ (combine .default (goodInput 0)).finalScore ∧
      (combine .default (goodInput 0)).blockingReasons.Sublist
        (combine .default (goodInput 1)).blockingReasons ∧
      ((combine .default (goodInput 1)).passed = true →
        (combine .default (goodInput 0)).passed = true) ∧
      (combine .default (goodInput 1)).recommendedAction.rank ≤
        (combine .default (goodInput 0)).recommendedAction.rank :=
  ⟨by decide +kernel, by decide +kernel, combine_mono
    ⟨le_rfl, le_rfl, le_rfl, le_rfl, le_rfl, le_rfl, le_rfl, le_rfl, le_rfl, le_rfl,
      Nat.zero_le 1, id, id⟩⟩

end EvaluationScorer

end StoryForge
