import Mathlib.Data.List.Lex
import Mathlib.Data.String.Basic
import StoryForge.Books.Analysis
import StoryForge.Books.Critique
import StoryForge.Library.Decimal
import StoryForge.Library.Keys
import StoryForge.Library.LastRecord

/-!
# Conflicts of the timeline

The analyzer of the timeline walks over the facts of a book in the order of chapters and ids and
looks for the actions of dead characters, for characters in two places, for the use of destroyed
objects, for times that move backward and for causes that come after their effects. Conflicts with
one code, one list of chapters and the same events are found once.

For each character the analyzer remembers one death, the last one. An action in the chapter of
that death is not reported, also if the character died in an earlier chapter before.

## Main results

* `TimelineAnalyzer.reported_iff` — which actions of dead characters are reported;
* `TimelineAnalyzer.reported_of_clear` — an action is reported if no death of the character comes
  before it in its own chapter;
* `TimelineAnalyzer.detectsDeaths_iff` — when all actions of dead characters are reported, and
  still are after facts are added;
* `TimelineAnalyzer.detectsDeaths_fails` — a second death hides an action.
-/

namespace StoryForge

/-! ### Findings -/

/-- A conflict of the timeline with the keys of its events. -/
structure TimelineFinding extends TimelineConflict where
  eventKeys : List String
  deriving DecidableEq, Repr

/-- What the analyzer of the timeline returns. -/
structure TimelineAnalysisResult where
  score : ℚ
  events : List TimelineEventData
  conflicts : List TimelineFinding
  checkerVersion : String
  deriving DecidableEq, Repr

/-- A fact with its event. -/
abbrev ToldFact := AcceptedFactData × TimelineEventData

namespace TimelineAnalyzer

/-- `_ACTION_PREDICATES`. -/
def actionPredicates : List String :=
  ["acts", "arrives", "attacks", "decides", "does", "leaves", "meets", "moves", "says", "travels",
    "uses", "walks", "行动", "到达", "攻击", "决定", "移动", "说话", "使用", "离开", "行走"]

/-- `_DEATH_VALUES`. -/
def deathValues : List String := ["dead", "death", "died", "死亡", "已死"]

/-- `_DESTROYED_VALUES`. -/
def destroyedValues : List String := ["destroyed", "broken", "毁坏", "销毁", "已毁"]

variable (text : AnalysisText)

/-- The facts in the order of the story, with their events. -/
def told (facts : List AcceptedFactData) : List ToldFact :=
  (ordered facts).mapIdx fun index fact => (fact, event text index fact)

/-- A set of texts has a normalized text. -/
def isOneOf (values : List String) (value : String) : Bool :=
  (values.map text.normalized).contains (text.normalized value)

/-- The name of the subject of a fact. -/
def subjectOf (item : ToldFact) : String := text.normalized item.1.subject

/-! ### The rules -/

/-- A fact that says that its subject is dead. -/
def isDeathRecord (fact : AcceptedFactData) : Bool :=
  ["status", "state", "alive", "生命状态", "状态"].contains (text.normalized fact.predicate) &&
    isOneOf text deathValues fact.object

/-- A fact that says that its subject acts. -/
def isAction (fact : AcceptedFactData) : Bool :=
  !isDeathRecord text fact && isOneOf text actionPredicates fact.predicate

/-- The conflict of an action after a death. -/
def deathConflict (death action : ToldFact) : TimelineFinding where
  code := "timeline.dead_character_action"
  severity := if 8 / 10 ≤ min death.1.confidence action.1.confidence then .critical else .high
  chapterNumbers := [death.1.chapterNumber, action.1.chapterNumber]
  eventKeys := [death.2.eventKey, action.2.eventKey]
  description := action.1.subject ++ " performs a new action after a recorded death."
  evidence := [bounded death.1.evidence 160, bounded action.1.evidence 160]
  suggestedResolution := "Add an explicit resurrection/flashback rule or revise the later action."

/-- An item is reported with the death that is remembered, if it is an action in a later
chapter. -/
def reportDeath (death item : ToldFact) : Option TimelineFinding :=
  if isAction text item.1 = true ∧ death.1.chapterNumber < item.1.chapterNumber then
    some (deathConflict death item)
  else none

/-- `_death_conflicts`. -/
def deathConflicts (items : List ToldFact) : List TimelineFinding :=
  LastRecord.scan (subjectOf text) (fun item => isDeathRecord text item.1) (reportDeath text) items

/-- The conflict of the places in a group of facts. -/
def locationConflict (group : List ToldFact) : Option TimelineFinding :=
  if (group.map fun item => text.normalized item.1.object).dedup.length ≤ 1 then none
  else
    some
      { code := "timeline.simultaneous_locations"
        severity :=
          if 8 / 10 ≤ (group.map (·.1.confidence)).min?.getD 0 then .high else .medium
        chapterNumbers :=
          (group.map fun item => (item.1.chapterNumber : ℤ)).dedup.insertionSort (· ≤ ·)
        eventKeys := group.map (·.2.eventKey)
        description := "A character is recorded in incompatible locations without a transition."
        evidence := group.map fun item => bounded item.1.evidence 160
        suggestedResolution := "Add a travel transition or correct one location fact." }

/-- `_location_conflicts`. -/
def locationConflicts (items : List ToldFact) : List TimelineFinding :=
  let placed := items.filter fun item => isOneOf text locationPredicates item.1.predicate
  (Dict.group (placed.map fun item =>
    ((subjectOf text item, item.1.chapterNumber), item))).filterMap fun entry =>
      locationConflict text entry.2

/-- A fact that says that its subject is destroyed. -/
def isDestruction (fact : AcceptedFactData) : Bool :=
  ["status", "state", "objectstate", "状态"].contains (text.normalized fact.predicate) &&
    isOneOf text destroyedValues fact.object

/-- An item is reported with the destruction that is remembered, if it is a use in a later
chapter. -/
def reportUse (earlier item : ToldFact) : Option TimelineFinding :=
  if ["used", "uses", "使用"].contains (text.normalized item.1.predicate) = true ∧
      earlier.1.chapterNumber < item.1.chapterNumber then
    some
      { code := "timeline.destroyed_object_reused"
        severity := .medium
        chapterNumbers := [earlier.1.chapterNumber, item.1.chapterNumber]
        eventKeys := [earlier.2.eventKey, item.2.eventKey]
        description := item.1.subject ++ " is used after being destroyed."
        evidence := [bounded earlier.1.evidence 160, bounded item.1.evidence 160]
        suggestedResolution := "Explain a repair/replacement or remove the later use." }
  else none

/-- `_object_conflicts`. -/
def objectConflicts (items : List ToldFact) : List TimelineFinding :=
  LastRecord.scan (subjectOf text) (fun item => isDestruction text item.1) (reportUse text) items

/-- The severity of a conflict of two confidences, if it is no death. -/
def severityOf (first second : ℚ) : ConflictSeverity :=
  if 8 / 10 ≤ min first second then .high else .medium

/-- Two events of which the later has the smaller number. -/
def regression (old new : ℕ × TimelineEventData) : Option TimelineFinding :=
  if old.1 ≤ new.1 then none
  else
    some
      { code := "timeline.explicit_time_regression"
        severity := severityOf old.2.confidence new.2.confidence
        chapterNumbers := [old.2.chapterNumber, new.2.chapterNumber]
        eventKeys := [old.2.eventKey, new.2.eventKey]
        description := "An explicit story-time ordinal moves backward without explanation."
        evidence := [old.2.evidence, new.2.evidence]
        suggestedResolution := "Mark a flashback explicitly or correct the time ordinal." }

/-- `_numeric_time_conflicts`, with the number that a story time contains after a day, a month or
a year. -/
def numericTimeConflicts (ordinal : String → Option ℕ) (events : List TimelineEventData) :
    List TimelineFinding :=
  let timed := events.filterMap fun item =>
    ((item.storyTime.filter (· != "")).bind ordinal).map fun number => (number, item)
  (timed.zip timed.tail).filterMap fun adjacent => regression adjacent.1 adjacent.2

/-- The conflict of an effect with its cause. -/
def causeConflict (items : List ToldFact) (item : ToldFact) : Option TimelineFinding :=
  if ["causedby", "原因是", "由导致"].contains (text.normalized item.1.predicate) then
    (items.find? fun cause => subjectOf text cause = text.normalized item.1.object).bind
      fun cause =>
        if cause.1.chapterNumber ≤ item.1.chapterNumber then none
        else
          some
            { code := "timeline.cause_after_effect"
              severity := severityOf cause.1.confidence item.1.confidence
              chapterNumbers := [item.1.chapterNumber, cause.1.chapterNumber]
              eventKeys := [item.2.eventKey, cause.2.eventKey]
              description := "An event is recorded before its stated cause."
              evidence := [bounded item.1.evidence 160, bounded cause.1.evidence 160]
              suggestedResolution :=
                "Reorder the events or make retrospective causality explicit." }
  else none

/-- `_cause_conflicts`. -/
def causeConflicts (items : List ToldFact) : List TimelineFinding :=
  items.filterMap (causeConflict text items)

/-! ### The analysis -/

/-- The key of a conflict: its code, its chapters and its events in order. -/
def findingKey (conflict : TimelineFinding) : String × List ℤ × List String :=
  (conflict.code, conflict.chapterNumbers, conflict.eventKeys.insertionSort (· ≤ ·))

/-- The order of keys. -/
def keyLe (a b : String × List ℤ × List String) : Prop :=
  a.1 < b.1 ∨ a.1 = b.1 ∧ (a.2.1 < b.2.1 ∨ a.2.1 = b.2.1 ∧ a.2.2 ≤ b.2.2)

instance : DecidableRel keyLe := fun a b =>
  inferInstanceAs (Decidable
    (a.1 < b.1 ∨ a.1 = b.1 ∧ (a.2.1 < b.2.1 ∨ a.2.1 = b.2.1 ∧ a.2.2 ≤ b.2.2)))

/-- `_deduplicate_conflicts`. -/
def deduplicateConflicts (conflicts : List TimelineFinding) : List TimelineFinding :=
  ((Dict.ofList (conflicts.map fun conflict => (findingKey conflict, conflict))).insertionSort
    fun a b => keyLe a.1 b.1).map (·.2)

/-- What a conflict takes from the score. -/
def penaltyOf : ConflictSeverity → ℚ
  | .critical => 4
  | .high => 2
  | .medium => 8 / 10
  | .low => 25 / 100

/-- The conflicts of facts in order, before conflicts with one key are found once. -/
def allConflicts (ordinal : String → Option ℕ) (items : List ToldFact) : List TimelineFinding :=
  deathConflicts text items ++ locationConflicts text items ++ objectConflicts text items ++
    numericTimeConflicts ordinal (items.map (·.2)) ++ causeConflicts text items

/-- `analyze`, with its conflicts and its score. -/
def result (ordinal : String → Option ℕ) (facts : List AcceptedFactData) :
    TimelineAnalysisResult :=
  let conflicts := deduplicateConflicts (allConflicts text ordinal (told text facts))
  { score := Decimal.roundTo 2
      (max 0 (min 10 (10 - (conflicts.map fun item => penaltyOf item.severity).sum)))
    events := analyze text facts
    conflicts := conflicts
    checkerVersion := "timeline-rules-v1" }

/-! ### Facts in order -/

/-- The event key of a fact. -/
def keyOf (fact : AcceptedFactData) : String := text.digest (raw fact)

/-- The last death of a character. -/
def lastDeath (items : List ToldFact) (subject : String) : Option ToldFact :=
  LastRecord.lastRecord (subjectOf text) (fun item => isDeathRecord text item.1) items subject

variable {text} {facts : List AcceptedFactData} {items before after : List ToldFact}
  {item action death : ToldFact} {conflict : TimelineFinding} {ordinal : String → Option ℕ}

theorem map_told : (told text facts).map (·.1) = ordered facts := by
  refine List.ext_getElem? fun i => ?_
  rw [told, List.getElem?_map, List.getElem?_mapIdx, Option.map_map]
  exact Option.map_id'

theorem eventKey_of_mem_told (h : item ∈ told text facts) :
    item.2.eventKey = keyOf text item.1 := by
  obtain ⟨i, hi, rfl⟩ := List.mem_mapIdx.mp h
  rfl

/-- All facts are told. -/
theorem exists_mem_told {fact : AcceptedFactData} (h : fact ∈ facts) :
    ∃ item ∈ told text facts, item.1 = fact := by
  have hmem : fact ∈ (told text facts).map (·.1) := by
    rw [map_told, ordered, List.mem_insertionSort]
    exact h
  exact List.mem_map.mp hmem

/-- Facts are told chapter by chapter. -/
theorem pairwise_told :
    (told text facts).Pairwise fun a b => a.1.chapterNumber ≤ b.1.chapterNumber := by
  have hsorted : (ordered facts).Pairwise fun a b => a.chapterNumber ≤ b.chapterNumber := by
    have hpairs : facts.Pairwise fun _ _ => True := List.pairwise_of_forall fun _ _ => trivial
    refine (Rows.pairwise_insertionSort_of_pairwise ?_ ?_ hpairs).imp ?_
    · intro a b
      omega
    · intro a b c
      omega
    · intro a b h
      omega
  rw [← map_told, List.pairwise_map] at hsorted
  exact hsorted

/-! ### What is reported -/

theorem mem_of_mem_deduplicateConflicts {conflicts : List TimelineFinding}
    (h : conflict ∈ deduplicateConflicts conflicts) : conflict ∈ conflicts := by
  refine @Dict.mem_of_mem_values_ofList _ _ _ findingKey _ _ ?_
  obtain ⟨entry, hentry, rfl⟩ := List.mem_map.mp h
  exact List.mem_map_of_mem ((List.mem_insertionSort _).mp hentry)

/-- Every conflict has one of its key that is found. -/
theorem exists_mem_deduplicateConflicts {conflicts : List TimelineFinding}
    (h : conflict ∈ conflicts) :
    ∃ found ∈ deduplicateConflicts conflicts, findingKey found = findingKey conflict := by
  obtain ⟨found, hfound, -, hkey⟩ := @Dict.exists_mem_values_ofList _ _ _ findingKey _ _ h
  obtain ⟨entry, hentry, rfl⟩ := List.mem_map.mp hfound
  exact ⟨entry.2, List.mem_map_of_mem ((List.mem_insertionSort _).mpr hentry), hkey⟩

/-- A conflict reports the action of a dead character in a chapter, as one of its events. -/
def Reports (text : AnalysisText) (conflict : TimelineFinding) (action : AcceptedFactData) : Prop :=
  conflict.code = "timeline.dead_character_action" ∧
    conflict.chapterNumbers.getLast? = some (action.chapterNumber : ℤ) ∧
      keyOf text action ∈ conflict.eventKeys

/-- Conflicts with one key report the same actions. -/
theorem reports_congr {found : TimelineFinding} (h : findingKey found = findingKey conflict)
    {action : AcceptedFactData} : Reports text found action ↔ Reports text conflict action := by
  obtain ⟨hcode, hrest⟩ := Prod.mk.inj h
  obtain ⟨hchapters, hkeys⟩ := Prod.mk.inj hrest
  have hmem : keyOf text action ∈ found.eventKeys ↔ keyOf text action ∈ conflict.eventKeys := by
    rw [← List.mem_insertionSort (· ≤ ·), hkeys, List.mem_insertionSort]
  rw [Reports, Reports, hcode, hchapters, hmem]

/-- An action is reported with the last death before it, if that is in an earlier chapter. -/
theorem mem_deathConflicts :
    conflict ∈ deathConflicts text items ↔
      ∃ before action after, items = before ++ action :: after ∧ isAction text action.1 = true ∧
        ∃ death ∈ lastDeath text before (subjectOf text action),
          death.1.chapterNumber < action.1.chapterNumber ∧
            conflict = deathConflict death action := by
  rw [deathConflicts, LastRecord.mem_scan]
  constructor
  · rintro ⟨before, action, after, hitems, -, death, hdeath, hreport⟩
    unfold reportDeath at hreport
    split at hreport
    · next h => exact ⟨before, action, after, hitems, h.1, death, hdeath, h.2,
        (Option.some.inj hreport).symm⟩
    · contradiction
  · rintro ⟨before, action, after, hitems, haction, death, hdeath, hlater, rfl⟩
    have hrecord : isDeathRecord text action.1 = false := by
      rw [isAction, Bool.and_eq_true, Bool.not_eq_true'] at haction
      exact haction.1
    exact ⟨before, action, after, hitems, hrecord, death, hdeath, if_pos ⟨haction, hlater⟩⟩

theorem code_of_locationConflict {group : List ToldFact}
    (h : locationConflict text group = some conflict) :
    conflict.code = "timeline.simultaneous_locations" := by
  unfold locationConflict at h
  split at h
  · contradiction
  · rw [← Option.some.inj h]

theorem code_of_reportUse (h : reportUse text item action = some conflict) :
    conflict.code = "timeline.destroyed_object_reused" := by
  unfold reportUse at h
  split at h
  · rw [← Option.some.inj h]
  · contradiction

theorem code_of_regression {old new : ℕ × TimelineEventData}
    (h : regression old new = some conflict) :
    conflict.code = "timeline.explicit_time_regression" := by
  unfold regression at h
  split at h
  · contradiction
  · rw [← Option.some.inj h]

theorem code_of_causeConflict (h : causeConflict text items item = some conflict) :
    conflict.code = "timeline.cause_after_effect" := by
  unfold causeConflict at h
  split at h
  · obtain ⟨cause, -, hcause⟩ := Option.bind_eq_some_iff.mp h
    split at hcause
    · contradiction
    · rw [← Option.some.inj hcause]
  · contradiction

/-- Only deaths are reported with the code of a dead character's action. -/
theorem mem_allConflicts (hcode : conflict.code = "timeline.dead_character_action") :
    conflict ∈ allConflicts text ordinal items ↔ conflict ∈ deathConflicts text items := by
  have hlocation : conflict ∉ locationConflicts text items := by
    intro h
    obtain ⟨entry, -, hfound⟩ := List.mem_filterMap.mp h
    rw [code_of_locationConflict hfound] at hcode
    exact absurd hcode (by decide)
  have hobject : conflict ∉ objectConflicts text items := by
    intro h
    obtain ⟨-, item, -, -, -, earlier, -, hfound⟩ := LastRecord.mem_scan.mp h
    rw [code_of_reportUse hfound] at hcode
    exact absurd hcode (by decide)
  have htime : conflict ∉ numericTimeConflicts ordinal (items.map (·.2)) := by
    intro h
    obtain ⟨adjacent, -, hfound⟩ := List.mem_filterMap.mp h
    rw [code_of_regression hfound] at hcode
    exact absurd hcode (by decide)
  have hcause : conflict ∉ causeConflicts text items := by
    intro h
    obtain ⟨item, -, hfound⟩ := List.mem_filterMap.mp h
    rw [code_of_causeConflict hfound] at hcode
    exact absurd hcode (by decide)
  simp only [allConflicts, List.mem_append, hlocation, hobject, htime, hcause, or_false]

/-- An action of a dead character is reported. -/
def Reported (text : AnalysisText) (ordinal : String → Option ℕ) (facts : List AcceptedFactData)
    (action : AcceptedFactData) : Prop :=
  ∃ conflict ∈ (result text ordinal facts).conflicts, Reports text conflict action

/-- A character died before an item, and no death of the character before the item is in the
chapter of the item. -/
structure Clear (text : AnalysisText) (before : List ToldFact) (item : ToldFact) : Prop where
  died : ∃ death ∈ before, isDeathRecord text death.1 = true ∧
    subjectOf text death = subjectOf text item
  apart : ∀ death ∈ before, isDeathRecord text death.1 = true →
    subjectOf text death = subjectOf text item →
      death.1.chapterNumber ≠ item.1.chapterNumber

/-- In facts in order, an item is clear exactly if the last death before it is in an earlier
chapter. -/
theorem clear_iff (hitems : told text facts = before ++ item :: after) :
    Clear text before item ↔ ∃ death ∈ lastDeath text before (subjectOf text item),
      death.1.chapterNumber < item.1.chapterNumber := by
  have hsorted := @pairwise_told text facts
  rw [hitems, List.pairwise_append] at hsorted
  obtain ⟨hbefore, -, hbelow⟩ := hsorted
  rw [lastDeath, LastRecord.lt_iff hbefore]
  constructor
  · rintro ⟨hdied, hapart⟩
    refine ⟨hdied, fun death hdeath hrecord hsubject => ?_⟩
    exact lt_of_le_of_ne (hbelow death hdeath item List.mem_cons_self)
      (hapart death hdeath hrecord hsubject)
  · rintro ⟨hdied, hbelow⟩
    exact ⟨hdied, fun death hdeath hrecord hsubject =>
      (hbelow death hdeath hrecord hsubject).ne⟩

/-- A clear action of the chapter of an action is told, whose event, or the event of the last
death before it, has the key of that action. -/
def Shown (text : AnalysisText) (facts : List AcceptedFactData) (action : AcceptedFactData) :
    Prop :=
  ∃ before item after, told text facts = before ++ item :: after ∧
    isAction text item.1 = true ∧ Clear text before item ∧
      item.1.chapterNumber = action.chapterNumber ∧
        (keyOf text action = keyOf text item.1 ∨
          ∃ death ∈ lastDeath text before (subjectOf text item),
            keyOf text action = keyOf text death.1)

/-- What is found reports what all conflicts report. -/
theorem reported_iff_exists {fact : AcceptedFactData} :
    Reported text ordinal facts fact ↔
      ∃ conflict ∈ deathConflicts text (told text facts), Reports text conflict fact := by
  constructor
  · rintro ⟨conflict, hfound, hreports⟩
    exact ⟨conflict, (mem_allConflicts hreports.1).mp (mem_of_mem_deduplicateConflicts hfound),
      hreports⟩
  · rintro ⟨conflict, hmem, hreports⟩
    obtain ⟨found, hfound, hkey⟩ :=
      exists_mem_deduplicateConflicts ((mem_allConflicts hreports.1).mpr hmem)
    exact ⟨found, hfound, (reports_congr hkey).mpr hreports⟩

/-- What the conflict of a death reports. -/
theorem reports_deathConflict {fact : AcceptedFactData} (hdeath : death ∈ told text facts)
    (haction : action ∈ told text facts) :
    Reports text (deathConflict death action) fact ↔
      action.1.chapterNumber = fact.chapterNumber ∧
        (keyOf text fact = keyOf text action.1 ∨ keyOf text fact = keyOf text death.1) := by
  simp only [Reports, deathConflict, List.getLast?_cons_cons, List.getLast?_singleton,
    Option.some.injEq, Nat.cast_inj, List.mem_cons, List.not_mem_nil, or_false, true_and,
    eventKey_of_mem_told hdeath, eventKey_of_mem_told haction]
  rw [or_comm]

/-- **Reported actions of dead characters** are those for which a clear action stands. -/
theorem reported_iff {fact : AcceptedFactData} :
    Reported text ordinal facts fact ↔ Shown text facts fact := by
  rw [reported_iff_exists]
  constructor
  · rintro ⟨conflict, hmem, hreports⟩
    obtain ⟨before, action, after, hitems, haction, death, hdeath, hlater, rfl⟩ :=
      mem_deathConflicts.mp hmem
    have hbefore := (LastRecord.mem_of_lastRecord hdeath).1
    rw [reports_deathConflict (by rw [hitems]; simp [hbefore]) (by rw [hitems]; simp)] at hreports
    obtain ⟨hchapter, hkey⟩ := hreports
    refine ⟨before, action, after, hitems, haction,
      (clear_iff hitems).mpr ⟨death, hdeath, hlater⟩, hchapter, ?_⟩
    exact hkey.imp id fun heq => ⟨death, hdeath, heq⟩
  · rintro ⟨before, action, after, hitems, haction, hclear, hchapter, hkey⟩
    obtain ⟨death, hdeath, hlater⟩ := (clear_iff hitems).mp hclear
    have hbefore := (LastRecord.mem_of_lastRecord hdeath).1
    refine ⟨_, mem_deathConflicts.mpr
      ⟨before, action, after, hitems, haction, death, hdeath, hlater, rfl⟩, ?_⟩
    rw [reports_deathConflict (by rw [hitems]; simp [hbefore]) (by rw [hitems]; simp)]
    refine ⟨hchapter, hkey.imp id ?_⟩
    rintro ⟨last, hlast, heq⟩
    rw [Option.mem_unique hlast hdeath] at heq
    exact heq

/-! ### Completeness -/

/-- A character dies in a chapter and acts in a later one. -/
structure ActsAfterDeath (text : AnalysisText) (death action : AcceptedFactData) : Prop where
  dies : isDeathRecord text death = true
  acts : isAction text action = true
  subject : text.normalized death.subject = text.normalized action.subject
  later : death.chapterNumber < action.chapterNumber

/-- All actions of dead characters are reported, and still are after facts are added. -/
def DetectsDeaths (text : AnalysisText) (ordinal : String → Option ℕ)
    (facts added : List AcceptedFactData) : Prop :=
  ∀ death ∈ facts, ∀ action ∈ facts, ActsAfterDeath text death action →
    Reported text ordinal facts action ∧ Reported text ordinal (facts ++ added) action

/-- An action after a death is reported if no death of the character comes before it in its own
chapter. -/
theorem reported_of_clear {deathFact : AcceptedFactData}
    (hdeath : deathFact ∈ facts) (h : ActsAfterDeath text deathFact item.1)
    (hitems : told text facts = before ++ item :: after)
    (hapart : ∀ death ∈ before, isDeathRecord text death.1 = true →
      subjectOf text death = subjectOf text item →
        death.1.chapterNumber ≠ item.1.chapterNumber) :
    Reported text ordinal facts item.1 := by
  obtain ⟨death, hmem, rfl⟩ := exists_mem_told hdeath
  have hsorted := @pairwise_told text facts
  rw [hitems, List.pairwise_append, List.pairwise_cons] at hsorted
  -- the death is told before the action, since its chapter is earlier
  have hbefore : death ∈ before := by
    rw [hitems, List.mem_append, List.mem_cons] at hmem
    rcases hmem with hbefore | rfl | hafter
    · exact hbefore
    · exact absurd h.later (lt_irrefl _)
    · exact absurd h.later (not_lt.mpr (hsorted.2.1.1 death hafter))
  exact reported_iff.mpr ⟨before, item, after, hitems, h.acts,
    ⟨⟨death, hbefore, h.dies, h.subject⟩, hapart⟩, rfl, .inl rfl⟩

/-- **All actions of dead characters are reported**, and still are after facts are added, exactly
if a clear action stands for each of them. -/
theorem detectsDeaths_iff (text : AnalysisText) (ordinal : String → Option ℕ)
    (facts added : List AcceptedFactData) :
    DetectsDeaths text ordinal facts added ↔
      ∀ death ∈ facts, ∀ action ∈ facts, ActsAfterDeath text death action →
        Shown text facts action ∧ Shown text (facts ++ added) action := by
  simp only [DetectsDeaths, reported_iff]

/-! ### Instances -/

/-- A fact about Ann. -/
def factOfAnn (id chapterNumber : ℕ) (predicate object : String) : AcceptedFactData where
  id := id
  chapterId := chapterNumber
  chapterVersionId := chapterNumber
  chapterNumber := chapterNumber
  subject := "Ann"
  predicate := predicate
  object := object
  confidence := 1
  evidence := "e"
  validFromChapter := chapterNumber
  validToChapter := none

/-- Ann dies in the first chapter and attacks in the fifth. -/
def deathAndAction : List AcceptedFactData :=
  [factOfAnn 0 1 "status" "dead", factOfAnn 2 5 "attacks" "Bob"]

/-- In the fifth chapter it is said again that she is dead, before she attacks. -/
def secondDeath : AcceptedFactData := factOfAnn 1 5 "status" "dead"

/-- An attack is not reported any more when a death is recorded again in its chapter. -/
theorem detectsDeaths_fails :
    ¬∀ (text : AnalysisText) (ordinal : String → Option ℕ) (facts added : List AcceptedFactData),
      DetectsDeaths text ordinal facts added := by
  intro h
  have hreported := (h AnalysisInput.sampleText (fun _ => none) deathAndAction [secondDeath]
    (factOfAnn 0 1 "status" "dead") (by decide) (factOfAnn 2 5 "attacks" "Bob") (by decide)
    ⟨by decide +kernel, by decide +kernel, rfl, by decide⟩).2
  obtain ⟨conflict, hmem, -⟩ := reported_iff_exists.mp hreported
  revert conflict
  decide +kernel

end TimelineAnalyzer

end StoryForge
