import StoryForge.Consistency.Models
import StoryForge.Consistency.Normalizer
import StoryForge.Library.Dict
import StoryForge.Library.Firsts
import StoryForge.Library.Rows

/-!
# `ConsistencyChecker`

A chapter is checked against what was accepted before it. Ten groups of rules compare normalized
facts and report what they find; a finding of low confidence is not critical. Findings become
conflicts, of which the first is kept for each rule, folded subject and description, and the
score falls with the severities of those kept.

The normalizer is the one the checker is given. Where the texts of two objects are read as
floating point numbers, their comparison is a parameter, and so is the text of a fact that has
no quote.

## Main results

* `findings_filter` — what is found, rule by rule;
* `check_eq_ok` — a check succeeds if all that is found can be written as a conflict;
* `mem_deduplicate` — of the conflicts of a rule, the first of each key is kept;
* `writable_newFacts` — the new facts do not decide if a check succeeds.
-/

namespace StoryForge.Consistency

open Memory

/-! ### The checker -/

/-- A checker. `dump` is `str(fact.model_dump())`, and `floatLess` tells if the number of a text
is less than that of another, which it is not if one of them has none. -/
structure ConsistencyChecker where
  normalizer : FactNormalizer
  config : ConsistencyRuleConfig
  dump : FactEvidence → String
  floatLess : String → String → Bool
  dump_inked : ∀ fact, isBlank (dump fact) = false

/-- Comparison-only normalized values with original evidence retained. -/
structure NormalizedFact where
  subject : String
  predicate : String
  object : String
  raw : FactEvidence
  deriving DecidableEq

/-- `normalize`. -/
def FactNormalizer.normalize (normalizer : FactNormalizer) (fact : FactEvidence) :
    NormalizedFact where
  subject := normalizer.subject fact.subject
  predicate := normalizer.predicate fact.predicate
  object := normalizer.object fact.object
  raw := fact

/-- What a rule group finds: the arguments of `_conflict`. -/
structure Finding where
  conflictType : ConflictType
  severity : ConflictSeverity
  subject : String
  description : String
  newEvidence : String
  ruleCode : Rule
  confidence : ℚ
  suggestedResolution : String
  existing : Option FactEvidence := none
  deriving DecidableEq

/-- `bounded_score`. -/
def boundedScore (value : ℚ) : ℚ := Decimal.roundHalfEven (min 10 (max 0 value) * 100) / 100

/-- A text that must not be empty is. -/
def tooShortError (field : String) : Error := .other "ValidationError" field

/-- `_ACTION_PREDICATES`. -/
def actionPredicates : List String := ["walk", "speak", "attack", "arrive", "move", "use"]

/-- `_TRANSITION_PREDICATES`. -/
def transitionPredicates : List String := ["move", "arrive", "depart", "transfer"]

/-- `_MEMORY_FACT_TYPES`. -/
def memoryFactTypes : List String := ["memory", "dream", "quotation", "corpse", "flashback"]

namespace ConsistencyChecker

variable (checker : ConsistencyChecker)

/-! ### Facts -/

/-- `_direct_fact_conflicts`, for a new fact and an earlier one. -/
def directFactConflict (current existing : NormalizedFact) : Option Finding :=
  if current.subject = existing.subject ∧ current.predicate = existing.predicate ∧
      current.object ≠ existing.object then
    some {
      conflictType := .factContradiction
      severity := .high
      subject := current.raw.subject
      description := "A new fact directly contradicts an earlier fact."
      newEvidence := current.raw.quoteOr (checker.dump current.raw)
      existing := some existing.raw
      confidence := min current.raw.confidence existing.raw.confidence
      ruleCode := .factContradiction
      suggestedResolution := "Verify which fact is canonical and update the chapter." }
  else none

/-- `_direct_fact_conflicts`. -/
def directFactConflicts (new history : List NormalizedFact) : List Finding :=
  new.flatMap fun current => history.filterMap (checker.directFactConflict current)

/-! ### Characters -/

/-- The normalized names of the dead. -/
def dead (request : ConsistencyCheckRequest) (history : List NormalizedFact) : List String :=
  ((history.filter fun item => ["alive", "state"].contains item.predicate &&
    item.object == "dead").map (·.subject)) ++
  ((request.characterUpdates.filter fun item =>
    checker.normalizer.object item.value == "dead").map fun item =>
      checker.normalizer.subject item.characterName) ++
  ((request.characters.filter fun character =>
    contains (checker.normalizer.object character.currentState) "dead" ||
      contains character.currentState "死亡" || contains character.currentState "已死").map
        fun character => checker.normalizer.subject character.name)

/-- `_dead_character_actions`, for a new fact. -/
def deadCharacterAction (dead : List String) (item : NormalizedFact) : Option Finding :=
  if dead.contains item.subject ∧ actionPredicates.contains item.predicate ∧
      ¬ memoryFactTypes.contains (checker.normalizer.casefold item.raw.factType) ∧
      item.predicate ≠ "corpse_moved" then
    some {
      conflictType := .characterState
      severity := .critical
      subject := item.raw.subject
      description := "A character marked dead performs a new action."
      newEvidence := item.raw.quoteOr (checker.dump item.raw)
      confidence := item.raw.confidence
      ruleCode := .deadCharacterAction
      suggestedResolution := "Mark the scene as memory/dream or establish resurrection." }
  else none

/-- `_dead_character_actions`. -/
def deadCharacterActions (request : ConsistencyCheckRequest) (new history : List NormalizedFact) :
    List Finding :=
  if request.storyRules.any (·.allowsResurrection) then []
  else new.filterMap (checker.deadCharacterAction (checker.dead request history))

/-- `all_secrets`. -/
def allSecrets (request : ConsistencyCheckRequest) : List String :=
  request.characters.flatMap fun character => character.secrets.map checker.normalizer.object

/-- `known`: of several characters of one name, what the last knows. -/
def known (request : ConsistencyCheckRequest) (subject : String) : List String :=
  match (Dict.ofList (request.characters.map fun character =>
      (checker.normalizer.subject character.name, character))).lookup subject with
  | some character => character.knowledge.map checker.normalizer.object
  | none => []

/-- `acquired`. -/
def acquired (history : List NormalizedFact) (item : NormalizedFact) : Bool :=
  history.any fun previous => previous.subject == item.subject &&
    previous.object == item.object && ["knowledge", "reveal"].contains previous.predicate

/-- `_knowledge_leaks`, for a new fact. -/
def knowledgeLeak (request : ConsistencyCheckRequest) (history : List NormalizedFact)
    (item : NormalizedFact) : Option Finding :=
  if item.predicate = "knowledge" ∧ (checker.allSecrets request).contains item.object ∧
      ¬ (checker.known request item.subject).contains item.object ∧ ¬ acquired history item then
    some {
      conflictType := .characterKnowledge
      severity := .high
      subject := item.raw.subject
      description := "A character knows an unrevealed secret without an acquisition event."
      newEvidence := item.raw.quoteOr item.raw.object
      confidence := item.raw.confidence
      ruleCode := .knowledgeLeak
      suggestedResolution := "Add a reveal/learning event or remove the knowledge." }
  else none

/-- `_knowledge_leaks`. -/
def knowledgeLeaks (request : ConsistencyCheckRequest) (new history : List NormalizedFact) :
    List Finding :=
  new.filterMap (checker.knowledgeLeak request history)

/-! ### Locations -/

/-- The facts that locate a subject. -/
def locations (new : List NormalizedFact) (subject : String) : List NormalizedFact :=
  new.filter fun item => item.predicate == "location" && item.subject == subject

/-- `_location_conflicts`, for the facts that locate a subject. -/
def locationConflict (items : List NormalizedFact) : Option Finding :=
  match items with
  | [] => none
  | first :: rest =>
      if rest.any fun item => item.object != first.object then
        some {
          conflictType := .location
          severity := .high
          subject := first.raw.subject
          description := "A character is placed in incompatible locations without movement."
          newEvidence := String.intercalate "; " (items.map fun item =>
            item.raw.quoteOr item.raw.object)
          confidence := (rest.map (·.raw.confidence)).foldl min first.raw.confidence
          ruleCode := .locationConflict
          suggestedResolution := "Add a movement transition or correct one location fact." }
      else none

/-- `_location_conflicts`. -/
def locationConflicts (new : List NormalizedFact) : List Finding :=
  if new.any fun item => transitionPredicates.contains item.predicate then []
  else
    ((new.filter fun item => item.predicate == "location").map (·.subject)).eraseDups.filterMap
      fun subject => locationConflict (locations new subject)

/-! ### Story rules -/

/-- `_story_rule_conflicts`, for a rule and a new fact. -/
def storyRuleConflict (currentLocations : List String) (rule : StoryRuleEvidence)
    (item : NormalizedFact) : Option Finding :=
  if (rule.forbiddenPredicates.map checker.normalizer.predicate).contains item.predicate ∧
      (rule.location.map checker.normalizer.object).all currentLocations.contains then
    some {
      conflictType := .storyRule
      severity := .high
      subject := item.raw.subject
      description := "A structured story rule is violated: " ++ rule.statement
      newEvidence := item.raw.quoteOr item.raw.object
      confidence := item.raw.confidence
      ruleCode := .storyRule
      suggestedResolution := "Revise the action or explicitly change the story rule." }
  else none

/-- `_story_rule_conflicts`. -/
def storyRuleConflicts (request : ConsistencyCheckRequest) (new : List NormalizedFact) :
    List Finding :=
  let currentLocations := (new.filter fun item => item.predicate == "location").map (·.object)
  request.storyRules.flatMap fun rule =>
    new.filterMap (checker.storyRuleConflict currentLocations rule)

/-! ### Objects -/

/-- A fact that names its object by what someone does with it. -/
def acquires (item : NormalizedFact) : Bool := ["use", "possession"].contains item.predicate

/-- `_object_state_conflicts`, for a new fact of an object that may be destroyed. -/
def destroyedUse (destroyed : List (String × NormalizedFact)) (item : NormalizedFact) :
    Option Finding :=
  match destroyed.lookup (if acquires item then item.object else item.subject) with
  | none => none
  | some existing =>
      if acquires item then
        some {
          conflictType := .objectState
          severity := .high
          subject := item.raw.object
          description := "An object previously destroyed is used or possessed again."
          newEvidence := item.raw.quoteOr item.raw.object
          existing := some existing.raw
          confidence := min item.raw.confidence existing.raw.confidence
          ruleCode := .objectDestroyed
          suggestedResolution := "Establish repair/replacement or use a different object." }
      else none

/-- `_object_state_conflicts`, for a new fact and the fact that named the holder before. -/
def possessionConflict (item : NormalizedFact) : Option NormalizedFact → Option Finding
  | none => none
  | some existing =>
      if item.predicate = "possession" ∧ existing.subject ≠ item.subject then
        some {
          conflictType := .objectState
          severity := .medium
          subject := item.raw.object
          description := "Possession changes owner without a transfer event."
          newEvidence := item.raw.quoteOr item.raw.subject
          existing := some existing.raw
          confidence := min item.raw.confidence existing.raw.confidence
          ruleCode := .objectPossession
          suggestedResolution := "Add a transfer event or correct the owner." }
      else none

/-- `destroyed`. -/
def destroyed (history : List NormalizedFact) : List (String × NormalizedFact) :=
  Dict.ofList ((history.filter fun item => item.predicate == "state" &&
    ["destroyed", "销毁", "损毁"].contains item.object).map fun item => (item.subject, item))

/-- `old_holders`. -/
def oldHolders (history : List NormalizedFact) : List (String × NormalizedFact) :=
  Dict.ofList ((history.filter fun item => item.predicate == "possession").map fun item =>
    (item.object, item))

/-- The part of `_object_state_conflicts` that looks at holders. -/
def possessionConflicts (new history : List NormalizedFact) : List Finding :=
  if new.any fun item => item.predicate == "transfer" then []
  else new.filterMap fun item => possessionConflict item ((oldHolders history).lookup item.object)

/-- `_object_state_conflicts`. -/
def objectStateConflicts (new history : List NormalizedFact) : List Finding :=
  new.filterMap (destroyedUse (destroyed history)) ++ possessionConflicts new history

/-! ### The timeline -/

/-- `_timeline_conflicts`, for a fact that may be valid later only. -/
def futureFact (request : ConsistencyCheckRequest) (history : List NormalizedFact)
    (item : NormalizedFact) : Option Finding :=
  if request.chapterNumber < item.raw.validFromChapter then
    some {
      conflictType := .timeline
      severity := .high
      subject := item.raw.subject
      description := "A fact from a future validity interval is used now."
      newEvidence := item.raw.quoteOr item.raw.object
      existing := if item ∈ history then some item.raw else none
      confidence := item.raw.confidence
      ruleCode := .futureFact
      suggestedResolution := "Exclude future facts from the current chapter context." }
  else none

/-- `history_status`. -/
def historyStatus (history : List NormalizedFact) : List (String × NormalizedFact) :=
  Dict.ofList ((history.filter fun item => item.predicate == "event_status").map fun item =>
    (item.subject, item))

/-- `history_order`. -/
def historyOrder (history : List NormalizedFact) : List (String × NormalizedFact) :=
  Dict.ofList ((history.filter fun item => item.predicate == "timeline_order").map fun item =>
    (item.subject, item))

/-- `_timeline_conflicts`, for a new fact and the status its event had before. -/
def statusConflict (item : NormalizedFact) : Option NormalizedFact → Option Finding
  | none => none
  | some existing =>
      if existing.object = "ended" ∧ item.predicate = "event_status" ∧
          ["notstarted", "尚未开始"].contains item.object then
        some {
          conflictType := .timeline
          severity := .high
          subject := item.raw.subject
          description := "An ended event is marked as not started."
          newEvidence := item.raw.quoteOr item.raw.object
          existing := some existing.raw
          confidence := min item.raw.confidence existing.raw.confidence
          ruleCode := .eventOrder
          suggestedResolution := "Correct the event status chronology." }
      else none

/-- `_timeline_conflicts`, for a new fact and the place its event had before. -/
def orderConflict (item : NormalizedFact) : Option NormalizedFact → Option Finding
  | none => none
  | some previous =>
      if item.predicate = "timeline_order" ∧ checker.floatLess item.object previous.object then
        some {
          conflictType := .timeline
          severity := .medium
          subject := item.raw.subject
          description := "An explicit timeline sequence moves backwards."
          newEvidence := item.raw.quoteOr item.raw.object
          existing := some previous.raw
          confidence := min item.raw.confidence previous.raw.confidence
          ruleCode := .eventOrder
          suggestedResolution := "Restore monotonic event order." }
      else none

/-- `_timeline_conflicts`. -/
def timelineConflicts (request : ConsistencyCheckRequest) (new history : List NormalizedFact) :
    List Finding :=
  (new ++ history).filterMap (futureFact request history) ++
    new.flatMap fun item =>
      (statusConflict item ((historyStatus history).lookup item.subject)).toList ++
        (checker.orderConflict item ((historyOrder history).lookup item.subject)).toList

/-! ### The outline -/

/-- `_outline_conflicts`. -/
def outlineConflicts (request : ConsistencyCheckRequest) (new : List NormalizedFact) :
    List Finding :=
  let searchable := checker.normalizer.object (request.content ++ " " ++
    String.intercalate " " (new.map fun item =>
      item.raw.subject ++ item.raw.predicate ++ item.raw.object))
  (request.outline.keyEvents.filter fun event =>
    !contains searchable (checker.normalizer.object event)).map fun event => {
      conflictType := .outlineViolation
      severity := .medium
      subject := event
      description := "A planned key event is not evidenced in the chapter."
      newEvidence := "No matching content or fact evidence."
      confidence := 1
      ruleCode := .outlineMissing
      suggestedResolution := "Add the planned event or update the chapter outline." }

/-- `_forbidden_reveals`. -/
def forbiddenReveals (request : ConsistencyCheckRequest) (new : List NormalizedFact) :
    List Finding :=
  let searchable := checker.normalizer.object (request.content ++ " " ++
    String.intercalate " " (new.map fun item => item.raw.object))
  (request.outline.forbiddenReveals.filter fun reveal =>
    contains searchable (checker.normalizer.object reveal)).map fun reveal => {
      conflictType := .outlineViolation
      severity := .high
      subject := reveal
      description := "The chapter exposes content explicitly forbidden by its outline."
      newEvidence := reveal
      confidence := 1
      ruleCode := .forbiddenReveal
      suggestedResolution := "Remove or defer the forbidden reveal." }

/-! ### Foreshadowing -/

/-- `_foreshadowing_conflicts`, for active foreshadowing. -/
def earlyPayoff (item : ForeshadowingEvidence) : Option Finding :=
  match item.payoffChapter with
  | none => none
  | some payoffChapter =>
      if payoffChapter < item.setupChapter then
        some {
          conflictType := .foreshadowing
          severity := .high
          subject := item.description
          description := "Foreshadowing payoff occurs before setup."
          newEvidence := toString payoffChapter
          confidence := 1
          ruleCode := .foreshadowEarly
          suggestedResolution := "Move payoff after setup." }
      else none

/-- `_foreshadowing_conflicts`, for a planned payoff that was paid off before. -/
def repeatedPayoff (request : ConsistencyCheckRequest) (planned : String) : Option Finding :=
  let resolvedDescriptions := (request.activeForeshadowing.filter fun item =>
    item.status == .resolved &&
      item.payoffChapter.all fun payoff => decide (payoff < request.chapterNumber)).map fun item =>
        checker.normalizer.object item.description
  if resolvedDescriptions.contains (checker.normalizer.object planned) then
    some {
      conflictType := .foreshadowing
      severity := .medium
      subject := planned
      description := "An already resolved foreshadowing is paid off again."
      newEvidence := planned
      confidence := 1
      ruleCode := .foreshadowRepeat
      suggestedResolution := "Remove the duplicate payoff." }
  else none

/-- `_foreshadowing_conflicts`, for a planned payoff without a resolution. -/
def missingPayoff (request : ConsistencyCheckRequest) (planned : String) : Option Finding :=
  let resolvedNow := (request.foreshadowingUpdates.filter fun item =>
    item.action == "resolve").filterMap (·.foreshadowingId)
  let matching := request.activeForeshadowing.filter fun item =>
    contains (checker.normalizer.object item.description) (checker.normalizer.object planned)
  if matching ≠ [] ∧ ¬ (matching.any fun item =>
      resolvedNow.contains item.foreshadowingId || item.status == .resolved) then
    some {
      conflictType := .foreshadowing
      severity := .medium
      subject := planned
      description := "A planned payoff has no resolution update."
      newEvidence := planned
      confidence := 1
      ruleCode := .foreshadowMissing
      suggestedResolution := "Add the payoff event or update the plan." }
  else none

/-- `_foreshadowing_conflicts`, for a payoff of the chapter. -/
def unsetPayoff (request : ConsistencyCheckRequest) (update : ForeshadowingUpdateEvidence) :
    Option Finding :=
  let records := request.activeForeshadowing.map (·.foreshadowingId)
  if update.action = "resolve" ∧ ¬ update.foreshadowingId.any records.contains then
    some {
      conflictType := .foreshadowing
      severity := .high
      subject := update.description
      description := "A payoff references foreshadowing that was never set up."
      newEvidence := update.description
      confidence := update.confidence
      ruleCode := .foreshadowUnset
      suggestedResolution := "Add a prior setup or remove the payoff." }
  else none

/-- `_foreshadowing_conflicts`. -/
def foreshadowingConflicts (request : ConsistencyCheckRequest) : List Finding :=
  request.activeForeshadowing.filterMap earlyPayoff ++
    (request.outline.payoffForeshadowing.flatMap fun planned =>
      (checker.repeatedPayoff request planned).toList ++
        (checker.missingPayoff request planned).toList) ++
    request.foreshadowingUpdates.filterMap (unsetPayoff request)

/-! ### Checking -/

/-- What all rule groups find. -/
def findings (request : ConsistencyCheckRequest) : List Finding :=
  let new := request.newFacts.map checker.normalizer.normalize
  let history := request.historicalFacts.map checker.normalizer.normalize
  checker.directFactConflicts new history ++
    checker.deadCharacterActions request new history ++
    locationConflicts new ++
    checker.knowledgeLeaks request new history ++
    checker.storyRuleConflicts request new ++
    objectStateConflicts new history ++
    checker.timelineConflicts request new history ++
    checker.outlineConflicts request new ++
    checker.forbiddenReveals request new ++
    checker.foreshadowingConflicts request

/-- The severity of a finding: one of low confidence is not critical. -/
def severity (finding : Finding) : ConflictSeverity :=
  if finding.severity = .critical ∧ finding.confidence < checker.config.criticalConfidenceMin then
    .high
  else finding.severity

/-- The conflict that a finding is written as. -/
def written (request : ConsistencyCheckRequest) (finding : Finding) : ConsistencyConflict where
  conflictType := finding.conflictType
  severity := checker.severity finding
  subject := strip finding.subject
  description := strip finding.description
  newEvidence := strip finding.newEvidence
  existingEvidence := finding.existing.map fun fact => strip (fact.quoteOr (checker.dump fact))
  existingFactId := finding.existing.bind (·.factId)
  chapterNumber := request.chapterNumber
  suggestedResolution := finding.suggestedResolution
  confidence := finding.confidence
  ruleCode := finding.ruleCode

/-- `_conflict`. The other texts of a conflict are never empty. -/
def conflict (request : ConsistencyCheckRequest) (finding : Finding) :
    Except Error ConsistencyConflict :=
  if isBlank finding.subject then .error (tooShortError "subject")
  else if isBlank finding.newEvidence then .error (tooShortError "new_evidence")
  else .ok (checker.written request finding)

/-- What `_deduplicate` tells conflicts apart by. -/
def key (conflict : ConsistencyConflict) : Rule × String × String :=
  (conflict.ruleCode, checker.normalizer.casefold conflict.subject, conflict.description)

/-- `_deduplicate`. -/
def deduplicate (conflicts : List ConsistencyConflict) : List ConsistencyConflict :=
  Firsts.keep checker.key [] conflicts

/-- A counter of `CounterBySeverity`. -/
def countBySeverity (severity : ConflictSeverity) (conflicts : List ConsistencyConflict) : ℕ :=
  conflicts.countP fun item => item.severity == severity

/-- The result for the conflicts that are kept. -/
def result (conflicts : List ConsistencyConflict) : ConsistencyCheckResult where
  score := boundedScore
    (10 - (conflicts.map fun item => checker.config.severityPenalties item.severity).sum)
  conflicts := conflicts
  checkedRuleCount := 10
  criticalCount := countBySeverity .critical conflicts
  highCount := countBySeverity .high conflicts
  mediumCount := countBySeverity .medium conflicts
  lowCount := countBySeverity .low conflicts
  checkerVersion := checker.config.version

/-- `check`. -/
def check (request : ConsistencyCheckRequest) : Except Error ConsistencyCheckResult := do
  let conflicts ← (checker.findings request).mapM (checker.conflict request)
  return checker.result (checker.deduplicate conflicts)

variable {checker : ConsistencyChecker} {request : ConsistencyCheckRequest}
  {new history : List NormalizedFact} {finding : Finding} {item : NormalizedFact}

/-! ### What a group finds -/

/-- Texts that are joined are not blank if the first is not. -/
theorem isBlank_intercalate {text : String} (h : isBlank text = false) (rest : List String) :
    isBlank (String.intercalate "; " (text :: rest)) = false := by
  cases rest with
  | nil => simpa [String.intercalate_singleton] using h
  | cons next rest =>
      rw [String.intercalate_cons_cons, isBlank, String.toList_append, String.toList_append,
        List.all_append, List.all_append]
      rw [isBlank] at h
      rw [h, Bool.false_and, Bool.false_and]

/-- A finding of a rule about a subject that can be written as a conflict. -/
structure Reports (finding : Finding) (rule : Rule) (severity : ConflictSeverity)
    (subject description : String) : Prop where
  ruleCode : finding.ruleCode = rule
  severity : finding.severity = severity
  subject : finding.subject = subject
  description : finding.description = description
  evidence : isBlank finding.newEvidence = false

theorem directFactConflict_reports {existing : NormalizedFact}
    (h : checker.directFactConflict item existing = some finding) :
    Reports finding .factContradiction .high item.raw.subject
      "A new fact directly contradicts an earlier fact." := by
  unfold directFactConflict at h
  split at h
  · obtain rfl := Option.some.inj h
    exact ⟨rfl, rfl, rfl, rfl, item.raw.quote_inked (checker.dump_inked _)⟩
  · contradiction

theorem deadCharacterAction_reports {dead : List String}
    (h : checker.deadCharacterAction dead item = some finding) :
    Reports finding .deadCharacterAction .critical item.raw.subject
      "A character marked dead performs a new action." := by
  unfold deadCharacterAction at h
  split at h
  · obtain rfl := Option.some.inj h
    exact ⟨rfl, rfl, rfl, rfl, item.raw.quote_inked (checker.dump_inked _)⟩
  · contradiction

theorem knowledgeLeak_reports (h : checker.knowledgeLeak request history item = some finding) :
    Reports finding .knowledgeLeak .high item.raw.subject
      "A character knows an unrevealed secret without an acquisition event." := by
  unfold knowledgeLeak at h
  split at h
  · obtain rfl := Option.some.inj h
    exact ⟨rfl, rfl, rfl, rfl, item.raw.quote_inked item.raw.object_inked⟩
  · contradiction

theorem storyRuleConflict_reports {places : List String} {rule : StoryRuleEvidence}
    (h : checker.storyRuleConflict places rule item = some finding) :
    Reports finding .storyRule .high item.raw.subject
      ("A structured story rule is violated: " ++ rule.statement) := by
  unfold storyRuleConflict at h
  split at h
  · obtain rfl := Option.some.inj h
    exact ⟨rfl, rfl, rfl, rfl, item.raw.quote_inked item.raw.object_inked⟩
  · contradiction

theorem destroyedUse_reports {things : List (String × NormalizedFact)}
    (h : destroyedUse things item = some finding) :
    Reports finding .objectDestroyed .high item.raw.object
      "An object previously destroyed is used or possessed again." := by
  unfold destroyedUse at h
  split at h
  · contradiction
  · split at h
    · obtain rfl := Option.some.inj h
      exact ⟨rfl, rfl, rfl, rfl, item.raw.quote_inked item.raw.object_inked⟩
    · contradiction

theorem possessionConflict_reports {holder : Option NormalizedFact}
    (h : possessionConflict item holder = some finding) :
    Reports finding .objectPossession .medium item.raw.object
      "Possession changes owner without a transfer event." := by
  unfold possessionConflict at h
  split at h
  · contradiction
  · split at h
    · obtain rfl := Option.some.inj h
      exact ⟨rfl, rfl, rfl, rfl, item.raw.quote_inked item.raw.subject_inked⟩
    · contradiction

theorem futureFact_reports (h : futureFact request history item = some finding) :
    Reports finding .futureFact .high item.raw.subject
      "A fact from a future validity interval is used now." := by
  unfold futureFact at h
  split at h
  · obtain rfl := Option.some.inj h
    exact ⟨rfl, rfl, rfl, rfl, item.raw.quote_inked item.raw.object_inked⟩
  · contradiction

theorem statusConflict_reports {before : Option NormalizedFact}
    (h : statusConflict item before = some finding) :
    Reports finding .eventOrder .high item.raw.subject
      "An ended event is marked as not started." := by
  unfold statusConflict at h
  split at h
  · contradiction
  · split at h
    · obtain rfl := Option.some.inj h
      exact ⟨rfl, rfl, rfl, rfl, item.raw.quote_inked item.raw.object_inked⟩
    · contradiction

theorem orderConflict_reports {before : Option NormalizedFact}
    (h : checker.orderConflict item before = some finding) :
    Reports finding .eventOrder .medium item.raw.subject
      "An explicit timeline sequence moves backwards." := by
  unfold orderConflict at h
  split at h
  · contradiction
  · split at h
    · obtain rfl := Option.some.inj h
      exact ⟨rfl, rfl, rfl, rfl, item.raw.quote_inked item.raw.object_inked⟩
    · contradiction

theorem locationConflict_reports {items : List NormalizedFact}
    (h : locationConflict items = some finding) :
    ∃ first ∈ items.head?, Reports finding .locationConflict .high first.raw.subject
      "A character is placed in incompatible locations without movement." := by
  unfold locationConflict at h
  split at h
  · contradiction
  · next first rest =>
      split at h
      · obtain rfl := Option.some.inj h
        refine ⟨first, rfl, rfl, rfl, rfl, rfl, ?_⟩
        have hquote := first.raw.quote_inked first.raw.object_inked
        rw [List.map_cons]
        exact isBlank_intercalate hquote _
      · contradiction

/-- A finding that can be written as a conflict. -/
def Writable (finding : Finding) : Prop :=
  isBlank finding.subject = false ∧ isBlank finding.newEvidence = false

/-- What is found of the subject of a fact can be written. -/
theorem Reports.writable_subject {rule : Rule} {severity : ConflictSeverity} {fact : FactEvidence}
    {description : String} (h : Reports finding rule severity fact.subject description) :
    Writable finding :=
  ⟨h.subject ▸ fact.subject_inked, h.evidence⟩

/-- What is found of the object of a fact can be written. -/
theorem Reports.writable_object {rule : Rule} {severity : ConflictSeverity} {fact : FactEvidence}
    {description : String} (h : Reports finding rule severity fact.object description) :
    Writable finding :=
  ⟨h.subject ▸ fact.object_inked, h.evidence⟩

/-! ### What groups find -/

theorem mem_directFactConflicts (h : finding ∈ checker.directFactConflicts new history) :
    ∃ item ∈ new, Reports finding .factContradiction .high item.raw.subject
      "A new fact directly contradicts an earlier fact." := by
  obtain ⟨item, hitem, hmem⟩ := List.mem_flatMap.mp h
  obtain ⟨existing, -, hfound⟩ := List.mem_filterMap.mp hmem
  exact ⟨item, hitem, directFactConflict_reports hfound⟩

theorem mem_deadCharacterActions (h : finding ∈ checker.deadCharacterActions request new history) :
    ∃ item ∈ new, Reports finding .deadCharacterAction .critical item.raw.subject
      "A character marked dead performs a new action." := by
  unfold deadCharacterActions at h
  split at h
  · contradiction
  · obtain ⟨item, hitem, hfound⟩ := List.mem_filterMap.mp h
    exact ⟨item, hitem, deadCharacterAction_reports hfound⟩

/-- What is found of locations is found of a subject without movements. -/
theorem mem_locationConflicts :
    finding ∈ locationConflicts new ↔
      (∀ item ∈ new, transitionPredicates.contains item.predicate = false) ∧
        ∃ subject, locationConflict (locations new subject) = some finding := by
  unfold locationConflicts
  split
  · next htransition =>
      obtain ⟨item, hitem, hpredicate⟩ := List.any_eq_true.mp htransition
      constructor
      · intro h
        contradiction
      · rintro ⟨hnone, -⟩
        rw [hnone item hitem] at hpredicate
        contradiction
  · next htransition =>
      rw [List.mem_filterMap]
      constructor
      · rintro ⟨subject, -, hfound⟩
        refine ⟨fun item hitem => ?_, subject, hfound⟩
        rw [Bool.eq_false_iff]
        intro hpredicate
        exact htransition (List.any_eq_true.mpr ⟨item, hitem, hpredicate⟩)
      · rintro ⟨-, subject, hfound⟩
        refine ⟨subject, ?_, hfound⟩
        obtain ⟨first, hfirst, -⟩ := locationConflict_reports hfound
        have hmem := List.mem_of_mem_head? hfirst
        simp only [locations, List.mem_filter, Bool.and_eq_true, beq_iff_eq] at hmem
        rw [List.mem_eraseDups, List.mem_map]
        exact ⟨first, List.mem_filter.mpr ⟨hmem.1, by simpa using hmem.2.1⟩, hmem.2.2⟩

/-- A conflict of locations is reported of the first fact that locates its subject. -/
theorem locationConflict_locations {subject : String}
    (h : locationConflict (locations new subject) = some finding) :
    ∃ item ∈ new, item.subject = subject ∧
      Reports finding .locationConflict .high item.raw.subject
        "A character is placed in incompatible locations without movement." := by
  obtain ⟨first, hfirst, hreports⟩ := locationConflict_reports h
  have hmem := List.mem_of_mem_head? hfirst
  simp only [locations, List.mem_filter, Bool.and_eq_true, beq_iff_eq] at hmem
  exact ⟨first, hmem.1, hmem.2.2, hreports⟩

theorem mem_knowledgeLeaks (h : finding ∈ checker.knowledgeLeaks request new history) :
    ∃ item ∈ new, Reports finding .knowledgeLeak .high item.raw.subject
      "A character knows an unrevealed secret without an acquisition event." := by
  obtain ⟨item, hitem, hfound⟩ := List.mem_filterMap.mp h
  exact ⟨item, hitem, knowledgeLeak_reports hfound⟩

theorem mem_storyRuleConflicts (h : finding ∈ checker.storyRuleConflicts request new) :
    ∃ rule ∈ request.storyRules, ∃ item ∈ new,
      Reports finding .storyRule .high item.raw.subject
        ("A structured story rule is violated: " ++ rule.statement) := by
  obtain ⟨rule, hrule, hmem⟩ := List.mem_flatMap.mp h
  obtain ⟨item, hitem, hfound⟩ := List.mem_filterMap.mp hmem
  exact ⟨rule, hrule, item, hitem, storyRuleConflict_reports hfound⟩

theorem mem_destroyedUses {things : List (String × NormalizedFact)}
    (h : finding ∈ new.filterMap (destroyedUse things)) :
    ∃ item ∈ new, Reports finding .objectDestroyed .high item.raw.object
      "An object previously destroyed is used or possessed again." := by
  obtain ⟨item, hitem, hfound⟩ := List.mem_filterMap.mp h
  exact ⟨item, hitem, destroyedUse_reports hfound⟩

/-- What is found of holders is found of a new holder, where nothing is transferred. -/
theorem mem_possessionConflicts :
    finding ∈ possessionConflicts new history ↔
      (∀ item ∈ new, item.predicate ≠ "transfer") ∧
        ∃ item ∈ new,
          possessionConflict item ((oldHolders history).lookup item.object) = some finding := by
  unfold possessionConflicts
  split
  · next htransfer =>
      obtain ⟨item, hitem, hpredicate⟩ := List.any_eq_true.mp htransfer
      constructor
      · intro h
        contradiction
      · rintro ⟨hnone, -⟩
        exact absurd (beq_iff_eq.mp hpredicate) (hnone item hitem)
  · next htransfer =>
      rw [List.mem_filterMap]
      constructor
      · intro h
        refine ⟨fun item hitem hpredicate => ?_, h⟩
        exact htransfer (List.any_eq_true.mpr ⟨item, hitem, beq_iff_eq.mpr hpredicate⟩)
      · rintro ⟨-, h⟩
        exact h

theorem mem_futureFacts {items : List NormalizedFact}
    (h : finding ∈ items.filterMap (futureFact request history)) :
    ∃ item ∈ items, Reports finding .futureFact .high item.raw.subject
      "A fact from a future validity interval is used now." := by
  obtain ⟨item, hitem, hfound⟩ := List.mem_filterMap.mp h
  exact ⟨item, hitem, futureFact_reports hfound⟩

/-- What is found of an event, by its old status or its old place. -/
theorem mem_eventConflicts {status order : NormalizedFact → Option NormalizedFact}
    (h : finding ∈ new.flatMap fun item => (statusConflict item (status item)).toList ++
      (checker.orderConflict item (order item)).toList) :
    ∃ item ∈ new,
      Reports finding .eventOrder .high item.raw.subject
        "An ended event is marked as not started." ∨
      Reports finding .eventOrder .medium item.raw.subject
        "An explicit timeline sequence moves backwards." := by
  obtain ⟨item, hitem, hmem⟩ := List.mem_flatMap.mp h
  refine ⟨item, hitem, ?_⟩
  rcases List.mem_append.mp hmem with hstatus | horder
  · exact .inl (statusConflict_reports (Option.mem_toList.mp hstatus))
  · exact .inr (orderConflict_reports (Option.mem_toList.mp horder))

/-- Every text has the empty text in it. -/
theorem contains_empty (text : String) : contains text "" = true := by
  unfold contains
  exact decide_eq_true (List.nil_infix)

/-- A key event that is not found can be written. -/
theorem mem_outlineConflicts (h : finding ∈ checker.outlineConflicts request new) :
    finding.ruleCode = .outlineMissing ∧ finding.severity = .medium ∧ Writable finding := by
  obtain ⟨event, hevent, rfl⟩ := List.mem_map.mp h
  refine ⟨rfl, rfl, ?_, by simp [isBlank, isSpace]⟩
  rw [Bool.eq_false_iff]
  intro hblank
  have hmissing := (List.mem_filter.mp hevent).2
  rw [checker.normalizer.object_blank event hblank, contains_empty] at hmissing
  contradiction

/-- A blank reveal is always found. -/
theorem mem_forbiddenReveals (h : finding ∈ checker.forbiddenReveals request new) :
    finding.ruleCode = .forbiddenReveal ∧ finding.severity = .high ∧
      (Writable finding ∨ ∀ facts : List NormalizedFact,
        finding ∈ checker.forbiddenReveals request facts) := by
  obtain ⟨reveal, hreveal, rfl⟩ := List.mem_map.mp h
  refine ⟨rfl, rfl, ?_⟩
  cases hblank : isBlank reveal with
  | false => exact .inl ⟨hblank, hblank⟩
  | true =>
      right
      intro facts
      have hmem := (List.mem_filter.mp hreveal).1
      refine List.mem_map.mpr ⟨reveal, List.mem_filter.mpr ⟨hmem, ?_⟩, rfl⟩
      rw [checker.normalizer.object_blank reveal hblank, contains_empty]

theorem mem_foreshadowingConflicts (h : finding ∈ checker.foreshadowingConflicts request) :
    finding.ruleCode ∈ [.foreshadowEarly, .foreshadowRepeat, .foreshadowMissing, .foreshadowUnset] ∧
      finding.severity ≠ .critical := by
  rcases List.mem_append.mp h with hplanned | hunset
  · rcases List.mem_append.mp hplanned with hearly | hpayoff
    · obtain ⟨item, -, hfound⟩ := List.mem_filterMap.mp hearly
      unfold earlyPayoff at hfound
      split at hfound
      · contradiction
      · split at hfound
        · obtain rfl := Option.some.inj hfound
          simp
        · contradiction
    · obtain ⟨planned, -, hmem⟩ := List.mem_flatMap.mp hpayoff
      rcases List.mem_append.mp hmem with hfound | hfound
      · simp only [repeatedPayoff, Option.mem_toList, Option.ite_none_right_eq_some,
          Option.some.injEq] at hfound
        obtain ⟨-, rfl⟩ := hfound
        simp
      · simp only [missingPayoff, Option.mem_toList, Option.ite_none_right_eq_some,
          Option.some.injEq] at hfound
        obtain ⟨-, rfl⟩ := hfound
        simp
  · obtain ⟨update, -, hfound⟩ := List.mem_filterMap.mp hunset
    simp only [unsetPayoff, Option.ite_none_right_eq_some, Option.some.injEq] at hfound
    obtain ⟨-, rfl⟩ := hfound
    simp

/-- What is found for one rule. -/
def findingsOf (checker : ConsistencyChecker) (request : ConsistencyCheckRequest) (rule : Rule) :
    List Finding :=
  let new := request.newFacts.map checker.normalizer.normalize
  let history := request.historicalFacts.map checker.normalizer.normalize
  match rule with
  | .factContradiction => checker.directFactConflicts new history
  | .deadCharacterAction => checker.deadCharacterActions request new history
  | .locationConflict => locationConflicts new
  | .knowledgeLeak => checker.knowledgeLeaks request new history
  | .storyRule => checker.storyRuleConflicts request new
  | .objectDestroyed => new.filterMap (destroyedUse (destroyed history))
  | .objectPossession => possessionConflicts new history
  | .futureFact => (new ++ history).filterMap (futureFact request history)
  | .eventOrder => new.flatMap fun item =>
      (statusConflict item ((historyStatus history).lookup item.subject)).toList ++
        (checker.orderConflict item ((historyOrder history).lookup item.subject)).toList
  | .outlineMissing => checker.outlineConflicts request new
  | .forbiddenReveal => checker.forbiddenReveals request new
  | _ => (checker.foreshadowingConflicts request).filter fun finding => finding.ruleCode == rule

/-- A group of one rule is found for that rule only. -/
theorem filter_rule {group : List Finding} {rule : Rule}
    (h : ∀ finding ∈ group, finding.ruleCode = rule) (other : Rule) :
    group.filter (fun finding => finding.ruleCode == other) = if rule = other then group else [] := by
  split
  · next heq => exact List.filter_eq_self.mpr fun finding hmem => by simp [h finding hmem, heq]
  · next hne => exact List.filter_eq_nil_iff.mpr fun finding hmem => by simp [h finding hmem, hne]

/-- What is found for a rule names it. -/
theorem rule_of_mem_findingsOf {rule : Rule} (h : finding ∈ checker.findingsOf request rule) :
    finding.ruleCode = rule := by
  cases rule with
  | factContradiction =>
      obtain ⟨_, -, hreports⟩ := mem_directFactConflicts h
      exact hreports.ruleCode
  | deadCharacterAction =>
      obtain ⟨_, -, hreports⟩ := mem_deadCharacterActions h
      exact hreports.ruleCode
  | locationConflict =>
      obtain ⟨-, subject, hfound⟩ := mem_locationConflicts.mp h
      obtain ⟨_, -, -, hreports⟩ := locationConflict_locations hfound
      exact hreports.ruleCode
  | knowledgeLeak =>
      obtain ⟨_, -, hreports⟩ := mem_knowledgeLeaks h
      exact hreports.ruleCode
  | storyRule =>
      obtain ⟨_, -, _, -, hreports⟩ := mem_storyRuleConflicts h
      exact hreports.ruleCode
  | objectDestroyed =>
      obtain ⟨_, -, hreports⟩ := mem_destroyedUses h
      exact hreports.ruleCode
  | objectPossession =>
      obtain ⟨-, item, -, hfound⟩ := mem_possessionConflicts.mp h
      exact (possessionConflict_reports hfound).ruleCode
  | futureFact =>
      obtain ⟨_, -, hreports⟩ := mem_futureFacts h
      exact hreports.ruleCode
  | eventOrder =>
      obtain ⟨_, -, hreports⟩ := mem_eventConflicts h
      exact hreports.elim (·.ruleCode) (·.ruleCode)
  | outlineMissing => exact (mem_outlineConflicts h).1
  | forbiddenReveal => exact (mem_forbiddenReveals h).1
  | foreshadowEarly => exact beq_iff_eq.mp (List.mem_filter.mp h).2
  | foreshadowRepeat => exact beq_iff_eq.mp (List.mem_filter.mp h).2
  | foreshadowMissing => exact beq_iff_eq.mp (List.mem_filter.mp h).2
  | foreshadowUnset => exact beq_iff_eq.mp (List.mem_filter.mp h).2

/-- The groups find what is found for the rules, one rule after the other. -/
theorem findings_eq (checker : ConsistencyChecker) (request : ConsistencyCheckRequest) :
    checker.findings request =
      ([.factContradiction, .deadCharacterAction, .locationConflict, .knowledgeLeak, .storyRule,
        .objectDestroyed, .objectPossession, .futureFact, .eventOrder, .outlineMissing,
        .forbiddenReveal].flatMap (checker.findingsOf request)) ++
      checker.foreshadowingConflicts request := by
  simp only [findings, findingsOf, objectStateConflicts, timelineConflicts, List.flatMap_cons,
    List.flatMap_nil, List.append_assoc, List.nil_append]

/-- The findings of a rule are what is found for it. -/
theorem findings_filter (checker : ConsistencyChecker) (request : ConsistencyCheckRequest)
    (rule : Rule) :
    (checker.findings request).filter (fun finding => finding.ruleCode == rule) =
      checker.findingsOf request rule := by
  have hgroup : ∀ other, (checker.findingsOf request other).filter
      (fun finding => finding.ruleCode == rule) =
        if other = rule then checker.findingsOf request other else [] := fun other =>
    filter_rule (fun _ h => rule_of_mem_findingsOf h) rule
  have hforeshadowing : rule ∉ [.foreshadowEarly, .foreshadowRepeat, .foreshadowMissing,
      .foreshadowUnset] → (checker.foreshadowingConflicts request).filter
        (fun finding => finding.ruleCode == rule) = [] := by
    intro hrule
    refine List.filter_eq_nil_iff.mpr fun finding h heq => hrule ?_
    rw [← beq_iff_eq.mp heq]
    exact (mem_foreshadowingConflicts h).1
  rw [findings_eq]
  simp only [List.filter_append, List.flatMap_cons, List.flatMap_nil, hgroup]
  by_cases hrule : rule ∈ [.foreshadowEarly, .foreshadowRepeat, .foreshadowMissing,
      .foreshadowUnset]
  · simp only [List.mem_cons, List.not_mem_nil, or_false] at hrule
    rcases hrule with rfl | rfl | rfl | rfl <;> simp [findingsOf]
  · rw [hforeshadowing hrule]
    cases rule <;> simp at hrule ⊢

/-! ### Results -/

/-- A finding becomes a conflict if it can be written. -/
theorem conflict_eq_ok {conflict : ConsistencyConflict} :
    checker.conflict request finding = .ok conflict ↔
      Writable finding ∧ conflict = checker.written request finding := by
  unfold ConsistencyChecker.conflict Writable
  cases isBlank finding.subject <;> cases isBlank finding.newEvidence <;> simp [eq_comm]

/-- A check succeeds if all that is found can be written, and keeps the first of each key. -/
theorem check_eq_ok {result : ConsistencyCheckResult} :
    checker.check request = .ok result ↔
      (∀ finding ∈ checker.findings request, Writable finding) ∧
        result = checker.result
          (checker.deduplicate ((checker.findings request).map (checker.written request))) := by
  have hall : ∀ {found : List Finding} {conflicts : List ConsistencyConflict},
      List.Forall₂ (fun finding conflict => checker.conflict request finding = .ok conflict)
        found conflicts ↔
      (∀ finding ∈ found, Writable finding) ∧ conflicts = found.map (checker.written request) := by
    intro found
    induction found with
    | nil => simp
    | cons first rest ih =>
        intro conflicts
        rw [List.forall₂_cons_left_iff, List.forall_mem_cons, List.map_cons]
        constructor
        · rintro ⟨conflict, tail, hfirst, hrest, rfl⟩
          obtain ⟨hwritable, rfl⟩ := conflict_eq_ok.mp hfirst
          obtain ⟨hall, rfl⟩ := ih.mp hrest
          exact ⟨⟨hwritable, hall⟩, rfl⟩
        · rintro ⟨⟨hwritable, hall⟩, rfl⟩
          exact ⟨_, _, conflict_eq_ok.mpr ⟨hwritable, rfl⟩, ih.mpr ⟨hall, rfl⟩, rfl⟩
  rw [check, Except.bind_eq_ok]
  constructor
  · rintro ⟨conflicts, hmap, hresult⟩
    obtain ⟨hwritable, rfl⟩ := hall.mp (Except.mapM_eq_ok.mp hmap)
    exact ⟨hwritable, (Except.pure_eq_ok.mp hresult).symm⟩
  · rintro ⟨hwritable, rfl⟩
    exact ⟨_, Except.mapM_eq_ok.mpr (hall.mpr ⟨hwritable, rfl⟩), rfl⟩

/-- Of the conflicts of a rule, those that are kept are the first of their keys. -/
theorem mem_deduplicate {conflict : ConsistencyConflict} :
    conflict ∈ checker.deduplicate ((checker.findings request).map (checker.written request)) ↔
      ((checker.findingsOf request conflict.ruleCode).map (checker.written request)).find?
        (fun other => checker.key other = checker.key conflict) = some conflict := by
  have hrule : ∀ found : Finding, decide ((found.ruleCode == conflict.ruleCode) = true ∧
      decide (checker.key (checker.written request found) = checker.key conflict) = true) =
        decide (checker.key (checker.written request found) = checker.key conflict) := by
    intro found
    rw [decide_eq_decide, beq_iff_eq, decide_eq_true_eq, and_iff_right_iff_imp]
    exact fun hkey => congrArg Prod.fst hkey
  rw [deduplicate, Firsts.mem_keep, ← findings_filter, List.find?_map, List.find?_map,
    List.find?_filter]
  simp only [List.not_mem_nil, not_false_iff, true_and, Function.comp_def, hrule]

/-- Whether all that is found can be written does not depend on the new facts. -/
theorem writable_newFacts {facts : List FactEvidence}
    (h : ∀ finding ∈ checker.findings request, Writable finding) :
    ∀ finding ∈ checker.findings { request with newFacts := facts }, Writable finding := by
  intro finding hmem
  rw [findings_eq, List.mem_append, List.mem_flatMap] at hmem
  rcases hmem with ⟨rule, hrule, hfound⟩ | hforeshadowing
  · have hmem' : ∀ finding ∈ checker.findingsOf request rule, Writable finding :=
      fun finding hfinding => h finding <| by
        rw [findings_eq]
        exact List.mem_append_left _ (List.mem_flatMap.mpr ⟨rule, hrule, hfinding⟩)
    cases rule with
    | factContradiction =>
        obtain ⟨_, -, hreports⟩ := mem_directFactConflicts hfound
        exact hreports.writable_subject
    | deadCharacterAction =>
        obtain ⟨_, -, hreports⟩ := mem_deadCharacterActions hfound
        exact hreports.writable_subject
    | locationConflict =>
        obtain ⟨-, subject, hlocation⟩ := mem_locationConflicts.mp hfound
        obtain ⟨_, -, -, hreports⟩ := locationConflict_locations hlocation
        exact hreports.writable_subject
    | knowledgeLeak =>
        obtain ⟨_, -, hreports⟩ := mem_knowledgeLeaks hfound
        exact hreports.writable_subject
    | storyRule =>
        obtain ⟨_, -, _, -, hreports⟩ := mem_storyRuleConflicts hfound
        exact hreports.writable_subject
    | objectDestroyed =>
        obtain ⟨_, -, hreports⟩ := mem_destroyedUses hfound
        exact hreports.writable_object
    | objectPossession =>
        obtain ⟨-, item, -, hpossession⟩ := mem_possessionConflicts.mp hfound
        exact (possessionConflict_reports hpossession).writable_object
    | futureFact =>
        obtain ⟨_, -, hreports⟩ := mem_futureFacts hfound
        exact hreports.writable_subject
    | eventOrder =>
        obtain ⟨_, -, hreports⟩ := mem_eventConflicts hfound
        exact hreports.elim (·.writable_subject) (·.writable_subject)
    | outlineMissing => exact (mem_outlineConflicts hfound).2.2
    | forbiddenReveal =>
        rcases (mem_forbiddenReveals hfound).2.2 with hwritable | hall
        · exact hwritable
        · exact hmem' finding (hall _)
    | foreshadowEarly => simp at hrule
    | foreshadowRepeat => simp at hrule
    | foreshadowMissing => simp at hrule
    | foreshadowUnset => simp at hrule
  · refine h finding ?_
    rw [findings_eq]
    exact List.mem_append_right _ hforeshadowing

/-! ### Instances -/

/-- The default checker for lower-case English texts, which compares no floating point numbers. -/
def plain : ConsistencyChecker where
  normalizer := CharacterTable.plain.factNormalizer
  config := .default
  dump := fun fact => fact.subject
  floatLess := fun _ _ => false
  dump_inked := FactEvidence.subject_inked

end ConsistencyChecker

end StoryForge.Consistency
