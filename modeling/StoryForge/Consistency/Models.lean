import Mathlib.Data.List.TakeWhile
import StoryForge.Memory.Indexing

/-!
# Consistency contracts

The evidence a chapter is checked with, the conflicts that the check reports, and what the rules
are configured with. Texts of requests are stripped when they are built, and some of them must
not be empty then.

## Main results

* `FactEvidence.subject_inked`, `FactEvidence.object_inked`, `FactEvidence.quote_inked` — what
  is reported of a fact is not blank.
-/

namespace StoryForge.Consistency

open Memory

/-! ### Evidence -/

/-- Raw fact evidence. -/
structure FactEvidence where
  factId : Option ℕ
  subject : String
  predicate : String
  object : String
  factType : String
  confidence : ℚ
  sourceQuote : String
  chapterNumber : ℕ
  validFromChapter : ℕ
  validToChapter : Option ℕ
  stripped : ∀ text ∈ [subject, predicate, object, factType, sourceQuote], strip text = text
  filled : ∀ text ∈ [subject, predicate, object], text ≠ ""
  deriving DecidableEq

/-- A structured character state update. -/
structure CharacterStateUpdateEvidence where
  characterName : String
  value : String
  deriving DecidableEq, Repr

/-- Character state and knowledge boundary. -/
structure CharacterEvidence where
  name : String
  currentState : String
  knowledge : List String
  secrets : List String
  deriving DecidableEq, Repr

/-- A story rule, and what is read of its metadata: whether it allows resurrection, the texts
of the predicates it forbids, if these are a list, and the text of its location. -/
structure StoryRuleEvidence where
  statement : String
  allowsResurrection : Bool
  forbiddenPredicates : List String
  location : Option String
  deriving DecidableEq, Repr

/-- What the outline of the chapter asks for. -/
structure ChapterOutlineEvidence where
  keyEvents : List String
  forbiddenReveals : List String
  payoffForeshadowing : List String
  deriving DecidableEq, Repr

/-- Persisted foreshadowing. -/
structure ForeshadowingEvidence where
  foreshadowingId : ℕ
  description : String
  setupChapter : ℕ
  payoffChapter : Option ℕ
  status : ForeshadowingStatus
  deriving DecidableEq, Repr

/-- A setup or payoff of the chapter. -/
structure ForeshadowingUpdateEvidence where
  action : String
  description : String
  foreshadowingId : Option ℕ
  confidence : ℚ
  deriving DecidableEq, Repr

/-- The evidence for one check. -/
structure ConsistencyCheckRequest where
  chapterNumber : ℕ
  content : String
  newFacts : List FactEvidence
  characterUpdates : List CharacterStateUpdateEvidence
  historicalFacts : List FactEvidence
  characters : List CharacterEvidence
  storyRules : List StoryRuleEvidence
  outline : ChapterOutlineEvidence
  activeForeshadowing : List ForeshadowingEvidence
  foreshadowingUpdates : List ForeshadowingUpdateEvidence

/-! ### Rules -/

/-- The rules that conflicts name. -/
inductive Rule
  | factContradiction
  | deadCharacterAction
  | locationConflict
  | knowledgeLeak
  | storyRule
  | objectDestroyed
  | objectPossession
  | futureFact
  | eventOrder
  | outlineMissing
  | forbiddenReveal
  | foreshadowEarly
  | foreshadowRepeat
  | foreshadowMissing
  | foreshadowUnset
  deriving DecidableEq, Repr

/-- `RULE_FACT_CONTRADICTION` and so on. -/
def Rule.code : Rule → String
  | .factContradiction => "fact.direct_contradiction"
  | .deadCharacterAction => "character.dead_action"
  | .locationConflict => "location.simultaneous"
  | .knowledgeLeak => "character.knowledge_leak"
  | .storyRule => "story_rule.structured_violation"
  | .objectDestroyed => "object.destroyed_use"
  | .objectPossession => "object.possession_without_transfer"
  | .futureFact => "timeline.future_fact"
  | .eventOrder => "timeline.event_order"
  | .outlineMissing => "outline.key_event_missing"
  | .forbiddenReveal => "outline.forbidden_reveal"
  | .foreshadowEarly => "foreshadowing.payoff_before_setup"
  | .foreshadowRepeat => "foreshadowing.repeated_payoff"
  | .foreshadowMissing => "foreshadowing.planned_payoff_missing"
  | .foreshadowUnset => "foreshadowing.payoff_without_setup"

/-- Rules can be told apart by their codes. -/
theorem Rule.code_injective : Function.Injective Rule.code := by
  intro a b h
  cases a <;> cases b <;> first | rfl | exact absurd h (by decide)

/-- Penalties and the confidence floor. -/
structure ConsistencyRuleConfig where
  version : String
  severityPenalties : ConflictSeverity → ℚ
  criticalConfidenceMin : ℚ

/-- The default configuration. -/
def ConsistencyRuleConfig.default : ConsistencyRuleConfig where
  version := "m4-consistency-v1"
  severityPenalties
    | .low => 1 / 2
    | .medium => 1
    | .high => 2
    | .critical => 4
  criticalConfidenceMin := 4 / 5

/-! ### Results -/

/-- Explainable conflict ready for persistence. -/
structure ConsistencyConflict where
  conflictType : ConflictType
  severity : ConflictSeverity
  subject : String
  description : String
  newEvidence : String
  existingEvidence : Option String
  existingFactId : Option ℕ
  chapterNumber : ℕ
  suggestedResolution : String
  confidence : ℚ
  ruleCode : Rule
  deriving DecidableEq, Repr

/-- Bounded consistency score and severity summary. -/
structure ConsistencyCheckResult where
  score : ℚ
  conflicts : List ConsistencyConflict
  checkedRuleCount : ℕ
  criticalCount : ℕ
  highCount : ℕ
  mediumCount : ℕ
  lowCount : ℕ
  checkerVersion : String
  deriving DecidableEq, Repr

/-! ### Texts of evidence -/

/-- A stripped text that is not empty is not blank. -/
theorem isBlank_eq_false {text : String} (hstrip : strip text = text) (hne : text ≠ "") :
    isBlank text = false := by
  rw [Bool.eq_false_iff]
  intro hblank
  refine hne ?_
  have hdrop : text.toList.dropWhile isSpace = [] :=
    List.dropWhile_eq_nil_iff.mpr fun c hc => List.all_eq_true.mp hblank c hc
  rw [← hstrip, strip, hdrop]
  rfl

namespace FactEvidence

variable (fact : FactEvidence)

theorem subject_inked : isBlank fact.subject = false :=
  isBlank_eq_false (fact.stripped _ (by simp)) (fact.filled _ (by simp))

theorem object_inked : isBlank fact.object = false :=
  isBlank_eq_false (fact.stripped _ (by simp)) (fact.filled _ (by simp))

/-- `source_quote or fallback`. -/
def quoteOr (fallback : String) : String :=
  if fact.sourceQuote = "" then fallback else fact.sourceQuote

/-- A quote, or what stands for it, is not blank. -/
theorem quote_inked {fallback : String} (h : isBlank fallback = false) :
    isBlank (fact.quoteOr fallback) = false := by
  unfold quoteOr
  split
  · exact h
  · next hquote => exact isBlank_eq_false (fact.stripped _ (by simp)) hquote

/-- A fact of a chapter, without a quote. -/
def plain (chapterNumber : ℕ) (subject predicate object : String)
    (stripped : ∀ text ∈ [subject, predicate, object, "event", ""], strip text = text)
    (filled : ∀ text ∈ [subject, predicate, object], text ≠ "") : FactEvidence :=
  ⟨none, subject, predicate, object, "event", 1, "", chapterNumber, chapterNumber, none, stripped,
    filled⟩

end FactEvidence

/-- A request with facts only. -/
def ConsistencyCheckRequest.ofFacts (chapterNumber : ℕ)
    (newFacts historicalFacts : List FactEvidence) : ConsistencyCheckRequest where
  chapterNumber := chapterNumber
  content := ""
  newFacts := newFacts
  characterUpdates := []
  historicalFacts := historicalFacts
  characters := []
  storyRules := []
  outline := ⟨[], [], []⟩
  activeForeshadowing := []
  foreshadowingUpdates := []

end StoryForge.Consistency
