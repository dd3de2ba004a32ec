import StoryForge.Books.Completion
import StoryForge.Books.Scoring

/-!
# The quality gate of a book

A book passes its evaluation if its score reaches the pass score and nothing blocks it. A book
run is completed only after the evaluation of its accepted snapshot has passed, so nothing that
blocks a book is left in a completed one.

## Main results

* `BookEvaluationScorer.passed_iff` — when an evaluation passes;
* `BookExecution.cleared_of_completed` — what the scorer found in a completed book.
-/

namespace StoryForge

/-! ### Evaluations that pass -/

/-- The stored form of a recommendation. -/
def RecommendedAction.value : RecommendedAction → String
  | .accept => "accept"
  | .targetedRevision => "targeted_revision"
  | .humanReview => "human_review"
  | .reject => "reject"

/-- What an execution reads of an evaluation. -/
def BookEvaluationResult.verdict (result : BookEvaluationResult) : BookVerdict :=
  ⟨result.passed, result.recommendedAction.value, result.blockingReasons⟩

namespace BookEvaluationScorer

variable {config : BookScoringConfig} {chapterScores : List ℚ} {endingScore : ℚ}
  {analysis : ScoredAnalysis} {critique : BookCritique}

/-- Nothing blocks a book, and its score reaches the pass score. -/
structure Cleared (config : BookScoringConfig) (chapterScores : List ℚ) (endingScore : ℚ)
    (analysis : ScoredAnalysis) (critique : BookCritique) : Prop where
  score : config.passScore ≤ final config chapterScores analysis critique
  chapters : chapterScores ≠ []
  critical : ∀ severity ∈ allSeverities analysis critique, severity ≠ .critical
  high : highCount analysis critique ≤ config.maximumHighIssues
  ending : config.minimumEndingScore ≤ endingScore
  characters : config.minimumCharacterArcScore ≤ analysis.characterArcsScore
  payoff : config.minimumForeshadowingPayoffRate ≤ analysis.payoffRate
  recommended : critique.passRecommendation = true

/-- No reason blocks a book exactly if none holds. -/
theorem blockers_eq_nil_iff :
    blockers config chapterScores endingScore analysis critique = [] ↔
      ∀ reason ∈ reasons config chapterScores endingScore analysis critique, reason.1 = false := by
  rw [blockers, List.map_eq_nil_iff, List.filter_eq_nil_iff]
  simp only [Bool.not_eq_true]

/-- **When an evaluation passes.** -/
theorem passed_iff :
    (score config chapterScores endingScore analysis critique).passed = true ↔
      Cleared config chapterScores endingScore analysis critique := by
  have hpassed : (score config chapterScores endingScore analysis critique).passed =
      (decide (config.passScore ≤ final config chapterScores analysis critique) &&
        (blockers config chapterScores endingScore analysis critique).isEmpty) := rfl
  rw [hpassed, Bool.and_eq_true, decide_eq_true_eq, List.isEmpty_iff, blockers_eq_nil_iff]
  simp only [reasons, List.forall_mem_cons, List.not_mem_nil, false_implies, implies_true,
    and_true, decide_eq_false_iff_not, not_lt, Bool.not_eq_false']
  have hcritical : (allSeverities analysis critique).contains .critical = false ↔
      ∀ severity ∈ allSeverities analysis critique, severity ≠ .critical := by
    rw [Bool.eq_false_iff, Ne, List.contains_iff_mem]
    constructor
    · rintro hnot severity hmem rfl
      exact hnot hmem
    · intro h hmem
      exact h .critical hmem rfl
  constructor
  · rintro ⟨hscore, hchapters, hsevere, hhigh, hending, hcharacters, hpayoff, hrecommended⟩
    exact ⟨hscore, hchapters, hcritical.mp hsevere, hhigh, hending, hcharacters, hpayoff,
      hrecommended⟩
  · rintro ⟨hscore, hchapters, hsevere, hhigh, hending, hcharacters, hpayoff, hrecommended⟩
    exact ⟨hscore, hchapters, hcritical.mpr hsevere, hhigh, hending, hcharacters, hpayoff,
      hrecommended⟩

end BookEvaluationScorer

/-! ### Runs that are judged by the scorer -/

namespace BookExecution

open BookAnalysisService (evaluation mergeRuleIssues onlyTimeline plainCritique)

/-- A verdict is that of the scorer on an analysis, a critique and the scores of the chapters. -/
def IsScored (config : BookScoringConfig) (verdict : BookVerdict) : Prop :=
  ∃ (critique : BookCritique) (analysis : ScoredAnalysis) (scores : List ℚ)
    (result : BookEvaluationResult),
    evaluation config critique analysis scores = .ok result ∧ verdict = result.verdict

/-- All that an action says of the book is what the scorer says. -/
def IsJudged (config : BookScoringConfig) (action : BookAction) : Prop :=
  ∀ verdict ∈ action.verdicts, IsScored config verdict

/-- What the scorer found in a book that has passed. -/
structure Passes (config : BookScoringConfig) (verdict : BookVerdict)
    (critique merged : BookCritique) (analysis : ScoredAnalysis) (scores : List ℚ) : Prop where
  merge : mergeRuleIssues critique analysis.toBookAnalysisBundle = .ok merged
  score : verdict =
    (BookEvaluationScorer.score config scores (scores.getLast?.getD 0) analysis merged).verdict
  cleared : BookEvaluationScorer.Cleared config scores (scores.getLast?.getD 0) analysis merged

variable {settings : BookWorkflowSettings} {config : BookScoringConfig} {verdict : BookVerdict}
  {verdicts : List BookVerdict} {s s' : BookExecution}

theorem IsScored.passes (h : IsScored config verdict) (hpassed : verdict.passed = true) :
    ∃ (critique merged : BookCritique) (analysis : ScoredAnalysis) (scores : List ℚ),
      Passes config verdict critique merged analysis scores := by
  obtain ⟨critique, analysis, scores, result, hevaluation, rfl⟩ := h
  obtain ⟨merged, hmerged, hscore⟩ := Except.bind_eq_ok.mp hevaluation
  obtain rfl := Except.ok.inj hscore
  exact ⟨critique, merged, analysis, scores, hmerged, rfl,
    BookEvaluationScorer.passed_iff.mp hpassed⟩

/-- A verdict that is persisted next is the scorer's. -/
def Persists (config : BookScoringConfig) (s : BookExecution) : Prop :=
  ∀ (revised : Bool) (id : ℕ) (verdict : BookVerdict), s.phase = .persisting revised id verdict →
    IsScored config verdict

theorem Persists.step (hs : Persists config s) (h : Shifts verdicts s s')
    (hverdicts : ∀ verdict ∈ verdicts, IsScored config verdict) : Persists config s' := by
  intro revised id verdict hphase
  cases h with
  | drifted _ _ hcertifying | froze _ _ _ hcertifying =>
      rw [hphase] at hcertifying
      exact absurd trivial hcertifying
  | outside _ _ hsame => exact hs revised id verdict (hsame.symm.trans hphase)
  | judged _ hverdict hjudged =>
      obtain ⟨-, -, rfl⟩ := BookPhase.persisting.inj (hjudged.symm.trans hphase)
      exact hverdicts _ hverdict
  | passed _ _ haccepting => exact absurd (haccepting.symm.trans hphase) (by simp)
  | accepted _ _ _ hcompleting =>
      have hcertifying : s'.phase.Certifying := by
        rw [hphase]
        trivial
      exact absurd ((hcompleting hcertifying).2.symm.trans hphase) (by simp)
  | completed _ _ _ hcalm =>
      rw [hphase] at hcalm
      exact hcalm.elim

/-- In a run that is judged by the scorer every verdict is the scorer's. -/
theorem persists_past {p : BookExecution × List BookExecution}
    (hs : (remembering settings).ReachableUnder (fun _ action => IsJudged config action) p) :
    Persists config p.1 ∧ ∀ earlier ∈ p.2, Persists config earlier := by
  refine hs.invariant (I := fun p => Persists config p.1 ∧ ∀ earlier ∈ p.2, Persists config earlier)
    ?_ ?_
  · rintro p ⟨⟨hfresh, -⟩, hpast⟩
    constructor
    · intro revised id verdict hphase
      exact absurd (hfresh.phase.symm.trans hphase) (by simp)
    · intro earlier hearlier
      rw [hpast] at hearlier
      exact absurd hearlier List.not_mem_nil
  · rintro p action p' - ⟨hnow, hpast⟩ hjudged hnext
    obtain ⟨hstep, hrecord⟩ := Machine.withHistory_next.mp hnext
    refine ⟨hnow.step (next_shifts hstep) hjudged, ?_⟩
    rw [hrecord]
    intro earlier hearlier
    rcases List.mem_append.mp hearlier with hold | hnew
    · exact hpast earlier hold
    · rw [List.mem_singleton.mp hnew]
      exact hnow

/-- **The quality gate of a book**: what the scorer found in the accepted snapshot of a completed
book run. -/
theorem cleared_of_completed {past : List BookExecution}
    (hs : (remembering settings).ReachableUnder (fun _ action => IsJudged config action) (s, past))
    (hstatus : s.run.status = .completed) :
    ∃ (id : ℕ) (snapshot : StoredSnapshot), s.snapshots[id]? = some snapshot ∧
      snapshot.status = .accepted ∧
      snapshot.chapterVersionMap.length = s.run.totalChapters ∧
      ∃ judged ∈ past, ∃ (revised : Bool) (verdict : BookVerdict),
        judged.phase = .persisting revised id verdict ∧
        ∃ (critique merged : BookCritique) (analysis : ScoredAnalysis) (scores : List ℚ),
          Passes config verdict critique merged analysis scores := by
  obtain ⟨-, -, id, snapshot, hsnapshot, haccepted, -, hlength, -, judged, hjudged, revised,
    verdict, hphase, hpassed⟩ := certified_of_completed hs.reachable hstatus
  obtain ⟨-, hpast⟩ := persists_past hs
  exact ⟨id, snapshot, hsnapshot, haccepted, hlength, judged, hjudged, revised, verdict, hphase,
    (hpast judged hjudged revised id verdict hphase).passes hpassed⟩

/-- A critique that recommends to accept a book. -/
def approving : BookCritique :=
  { plainCritique [] with
    passRecommendation := true
    overallScore := 8
    overallScore_nonneg := by norm_num
    overallScore_le_ten := by norm_num
    critical_blocks := rfl }

/-- The evaluation of a book without issues passes. -/
theorem isScored_accept : IsScored .default ⟨true, "accept", []⟩ := by
  have hverdict : (evaluation .default approving (onlyTimeline []) [8]).toOption.map (·.verdict) =
      some ⟨true, "accept", []⟩ := by decide +kernel
  obtain ⟨result, hresult, hverdict⟩ := Except.exists_of_toOption hverdict
  exact ⟨approving, onlyTimeline [], [8], result, hresult, hverdict.symm⟩

theorem cleared_of_completed_sample :
    ∃ (s : BookExecution) (past : List BookExecution),
      (remembering sampleSettings).ReachableUnder (fun _ action => IsJudged .default action)
        (s, past) ∧ s.run.status = .completed ∧
      ∃ (verdict : BookVerdict) (critique merged : BookCritique) (analysis : ScoredAnalysis)
        (scores : List ℚ),
        Passes .default verdict critique merged analysis scores := by
  obtain ⟨⟨s, past⟩, hs, hstatus⟩ := (remembering sampleSettings).exists_reachableUnder
    (fun _ action => ∀ verdict ∈ action.verdicts, verdict = ⟨true, "accept", []⟩) completing
    (fun p => p.1.run.status = .completed) (s := (sample 1, [])) ⟨⟨fresh_sample 1, rfl⟩, rfl⟩
    (by decide +kernel)
  have hjudged : (remembering sampleSettings).ReachableUnder
      (fun _ action => IsJudged .default action) (s, past) :=
    hs.mono fun _ action haccept verdict hverdict => haccept verdict hverdict ▸ isScored_accept
  obtain ⟨id, snapshot, -, -, -, judged, -, revised, verdict, -, hpasses⟩ :=
    cleared_of_completed hjudged hstatus
  exact ⟨s, past, hjudged, hstatus, verdict, hpasses⟩

end BookExecution

end StoryForge
