import Mathlib.Algebra.BigOperators.Group.List.Basic
import StoryForge.Consistency.Order

/-!
# What a check tells

A fact violates a story rule together with the facts that name its location, and of story rules
with one description the first that is violated tells of a subject. Texts of the outline are
searched in all facts, one after the other. Where all this is found alike in every order of the
new facts, a check tells the same.

## Main results

* `firstOf_storyRule` — what is told of story rules;
* `mem_labels` — what a check tells is what it tells first under a key;
* `Unambiguous.agrees` — results agree for all orders if what is found is alike;
* `FactsAlike.critical` — and no critical finding is hidden then.
-/

namespace StoryForge.Consistency

open Memory

namespace ConsistencyChecker

variable {checker : ConsistencyChecker} {request : ConsistencyCheckRequest}
  {facts : List FactEvidence} {rule : Rule} {finding : Finding} {k : Rule × String × String}

/-! ### Story rules -/

/-- The locations that new facts name. -/
def places (checker : ConsistencyChecker) (request : ConsistencyCheckRequest) : List String :=
  ((newItems checker request).filter fun item => item.predicate == "location").map (·.object)

/-- A fact violates a story rule. -/
def violates (checker : ConsistencyChecker) (places : List String) (rule : StoryRuleEvidence)
    (fact : FactEvidence) : Bool :=
  (rule.forbiddenPredicates.map checker.normalizer.predicate).contains
      (checker.normalizer.predicate fact.predicate) &&
    (rule.location.map checker.normalizer.object).all places.contains

/-- What is written of the facts that violate a story rule. -/
def statementOf (rule : StoryRuleEvidence) : String :=
  strip ("A structured story rule is violated: " ++ rule.statement)

/-- A fact of a folded subject violates a story rule. -/
def accuses (checker : ConsistencyChecker) (places : List String) (folded : String)
    (rule : StoryRuleEvidence) (fact : FactEvidence) : Bool :=
  checker.normalizer.casefold fact.subject == folded && violates checker places rule fact

/-- The first story rule of a description that a fact of a folded subject violates. -/
def leader (checker : ConsistencyChecker) (request : ConsistencyCheckRequest)
    (folded description : String) : Option StoryRuleEvidence :=
  request.storyRules.find? fun rule => statementOf rule == description &&
    request.newFacts.any (accuses checker (places checker request) folded rule)

/-- A subject that is named by a fact which violates the first rule of a description is named by
all such facts for one description. -/
def RulesAlike (checker : ConsistencyChecker) (request : ConsistencyCheckRequest) : Prop :=
  ∀ rule, ∀ x ∈ request.newFacts,
    violates checker (places checker request) rule x →
    leader checker request (checker.normalizer.casefold x.subject) (statementOf rule) = some rule →
      ∃ rule', leader checker request (checker.normalizer.casefold x.subject) (statementOf rule') =
          some rule' ∧
        ∀ y ∈ request.newFacts,
          accuses checker (places checker request) (checker.normalizer.casefold x.subject) rule' y →
            y.subject = x.subject

theorem storyRuleConflict_isSome (checker : ConsistencyChecker) (among : List String)
    (rule : StoryRuleEvidence) (fact : FactEvidence) :
    (checker.storyRuleConflict among rule (checker.normalizer.normalize fact)).isSome =
      violates checker among rule fact := by
  rw [storyRuleConflict]
  split
  · next h => exact (Bool.and_eq_true_iff.mpr h).symm
  · next h =>
      refine Eq.symm (Bool.eq_false_iff.mpr fun hviolates => h ?_)
      exact Bool.and_eq_true_iff.mp hviolates

/-- The first fact of a folded subject that violates a rule is what the rule tells of. -/
theorem find?_storyRule (among : List String) (rule : StoryRuleEvidence)
    (facts : List FactEvidence) (folded description : String) :
    ((((facts.map checker.normalizer.normalize).filterMap
      (checker.storyRuleConflict among rule)).map (checker.written request)).find? fun conflict =>
        checker.key conflict = (.storyRule, folded, description)).map (·.label) =
    if statementOf rule = description then
      (facts.find? (accuses checker among folded rule)).map fun fact =>
        (.storyRule, fact.subject, .high)
    else none := by
  induction facts with
  | nil => simp
  | cons fact rest ih =>
      rw [List.map_cons, List.find?_cons]
      have hsome := storyRuleConflict_isSome checker among rule fact
      cases hfound : checker.storyRuleConflict among rule (checker.normalizer.normalize fact) with
      | none =>
          rw [hfound] at hsome
          have haccuses : accuses checker among folded rule fact = false := by
            rw [accuses, ← hsome]
            exact Bool.and_false _
          rw [List.filterMap_cons_none hfound, haccuses]
          exact ih
      | some finding =>
          rw [hfound] at hsome
          have hreports := storyRuleConflict_reports hfound
          have hsubject : strip finding.subject = fact.subject := by
            rw [hreports.subject]
            exact fact.stripped fact.subject (by simp)
          have hseverity : checker.severity finding = .high := by
            rw [severity_eq (by simp [hreports.severity]), hreports.severity]
          have hkey : checker.key (checker.written request finding) =
              (.storyRule, checker.normalizer.casefold fact.subject, statementOf rule) :=
            Prod.ext hreports.ruleCode (Prod.ext (congrArg checker.normalizer.casefold hsubject)
              (congrArg strip hreports.description))
          have hlabel : (checker.written request finding).label =
              (.storyRule, fact.subject, .high) :=
            Prod.ext hreports.ruleCode (Prod.ext hsubject hseverity)
          have haccuses : accuses checker among folded rule fact =
              (checker.normalizer.casefold fact.subject == folded) := by
            rw [accuses, ← hsome]
            exact Bool.and_true _
          rw [List.filterMap_cons_some hfound, List.map_cons, List.find?_cons, hkey, haccuses]
          by_cases hsame : checker.normalizer.casefold fact.subject = folded
          · by_cases hstatement : statementOf rule = description
            · rw [hsame, hstatement, decide_eq_true rfl, if_pos rfl, BEq.rfl]
              exact congrArg some hlabel
            · have hne : (Rule.storyRule, checker.normalizer.casefold fact.subject,
                  statementOf rule) ≠ (.storyRule, folded, description) := fun h =>
                hstatement (congrArg (·.2.2) h)
              rw [decide_eq_false hne, if_neg hstatement]
              rwa [if_neg hstatement] at ih
          · have hne : (Rule.storyRule, checker.normalizer.casefold fact.subject,
                statementOf rule) ≠ (.storyRule, folded, description) := fun h =>
              hsame (congrArg (·.2.1) h)
            rw [decide_eq_false hne, beq_false_of_ne hsame]
            exact ih

theorem leader_statement {folded description : String} {rule : StoryRuleEvidence}
    (h : leader checker request folded description = some rule) :
    statementOf rule = description := by
  have hrule := List.find?_some h
  rw [Bool.and_eq_true, beq_iff_eq] at hrule
  exact hrule.1

/-- What is told under a key of story rules: the first rule that is violated, and of it the first
fact. -/
theorem firstOf_storyRule (checker : ConsistencyChecker) (request : ConsistencyCheckRequest)
    (folded description : String) :
    (checker.firstOf request .storyRule (.storyRule, folded, description)).map (·.label) =
      (leader checker request folded description).bind fun rule =>
        (request.newFacts.find? (accuses checker (places checker request) folded rule)).map
          fun fact => (.storyRule, fact.subject, .high) := by
  have hflat : (checker.firstOf request .storyRule (.storyRule, folded, description)).map
      (·.label) = request.storyRules.findSome? fun rule =>
        if statementOf rule = description then
          (request.newFacts.find? (accuses checker (places checker request) folded rule)).map
            fun fact => (.storyRule, fact.subject, .high)
        else none := by
    rw [firstOf, findingsOf, storyRuleConflicts, List.map_flatMap, List.find?_flatMap,
      List.map_findSome?]
    exact congrArg (List.findSome? · _) (funext fun rule =>
      find?_storyRule (places checker request) rule request.newFacts folded description)
  have hsome : ∀ rule, Option.isSome (
      if statementOf rule = description then
        (request.newFacts.find? (accuses checker (places checker request) folded rule)).map
          fun fact => (Rule.storyRule, fact.subject, ConflictSeverity.high)
      else none) = (statementOf rule == description &&
        request.newFacts.any (accuses checker (places checker request) folded rule)) := by
    intro rule
    by_cases hstatement : statementOf rule = description
    · rw [if_pos hstatement, Option.isSome_map, hstatement, BEq.rfl, Bool.true_and,
        List.isSome_find?]
    · rw [if_neg hstatement, beq_false_of_ne hstatement]
      rfl
  rw [hflat, Firsts.findSome?_eq_bind hsome]
  exact Option.bind_congr fun rule hleader => if_pos (leader_statement hleader)

theorem violates_perm {among among' : List String} (h : among'.Perm among)
    (rule : StoryRuleEvidence) (fact : FactEvidence) :
    violates checker among' rule fact = violates checker among rule fact := by
  rw [violates, violates]
  refine congrArg (_ && ·) (congrArg (Option.all · _) (funext fun place => ?_))
  rw [Bool.eq_iff_iff, List.contains_iff_mem, List.contains_iff_mem, h.mem_iff]

theorem accuses_reorder (hperm : facts.Perm request.newFacts) (folded : String) :
    accuses checker (places checker (request.reorder facts)) folded =
      accuses checker (places checker request) folded := by
  have hplaces : (places checker (request.reorder facts)).Perm (places checker request) :=
    ((newItems_perm checker hperm).filter _).map _
  funext rule fact
  rw [accuses, accuses, violates_perm hplaces]

/-- The first rule that is violated does not depend on the order of the facts. -/
theorem leader_reorder (hperm : facts.Perm request.newFacts) (folded description : String) :
    leader checker (request.reorder facts) folded description =
      leader checker request folded description := by
  rw [leader, leader, accuses_reorder hperm]
  refine congrArg (List.find? · _) (funext fun rule => congrArg (_ && ·) ?_)
  exact hperm.any_eq

/-- A rule that is violated is violated by a fact. -/
theorem leader_accuses {folded description : String} {rule : StoryRuleEvidence}
    (h : leader checker request folded description = some rule) :
    ∃ fact ∈ request.newFacts, accuses checker (places checker request) folded rule fact := by
  have hrule := List.find?_some h
  rw [Bool.and_eq_true] at hrule
  exact List.any_eq_true.mp hrule.2

theorem storyRule_severity (folded description : String) :
    (checker.firstOf request .storyRule (.storyRule, folded, description)).map (·.severity) =
      (leader checker request folded description).map fun _ => .high := by
  have hlabel := congrArg (Option.map (·.2.2))
    (firstOf_storyRule checker request folded description)
  rw [Option.map_map] at hlabel
  refine hlabel.trans ?_
  rw [Option.map_bind, Option.map_eq_bind]
  refine Option.bind_congr fun rule hleader => ?_
  obtain ⟨fact, hfact, haccuses⟩ := leader_accuses hleader
  have hfound : (request.newFacts.find?
      (accuses checker (places checker request) folded rule)).isSome :=
    List.find?_isSome.mpr ⟨fact, hfact, haccuses⟩
  obtain ⟨first, hfirst⟩ := Option.isSome_iff_exists.mp hfound
  rw [Function.comp_apply, hfirst]
  rfl

/-! ### What is told -/

/-- What a check tells is what it tells first under a key. -/
theorem mem_labels {label : Rule × String × ConflictSeverity} :
    label ∈ (checker.kept request).map (·.label) ↔
      ∃ k, (checker.firstOf request label.1 k).map (·.label) = some label := by
  constructor
  · intro h
    obtain ⟨conflict, hkept, rfl⟩ := List.mem_map.mp h
    refine ⟨checker.key conflict, ?_⟩
    rw [ConsistencyConflict.label, mem_kept.mp hkept]
    rfl
  · rintro ⟨k, h⟩
    obtain ⟨conflict, hfirst, rfl⟩ := Option.map_eq_some_iff.mp h
    exact List.mem_map_of_mem (mem_kept_of_firstOf hfirst)

/-- What is told of story rules. -/
theorem storyRule_told {subject : String} {severity : ConflictSeverity} :
    (.storyRule, subject, severity) ∈ (checker.kept request).map (·.label) ↔
      severity = .high ∧ ∃ folded description rule fact,
        leader checker request folded description = some rule ∧
        request.newFacts.find? (accuses checker (places checker request) folded rule) = some fact ∧
        fact.subject = subject := by
  rw [mem_labels]
  constructor
  · rintro ⟨⟨code, folded, description⟩, h⟩
    obtain ⟨conflict, hfirst, -⟩ := Option.map_eq_some_iff.mp h
    obtain ⟨hkey, hcode, -⟩ := key_of_firstOf hfirst
    obtain rfl : code = .storyRule := (congrArg Prod.fst hkey).symm.trans hcode
    rw [firstOf_storyRule] at h
    obtain ⟨rule, hleader, hrule⟩ := Option.bind_eq_some_iff.mp h
    obtain ⟨fact, hfact, hlabel⟩ := Option.map_eq_some_iff.mp hrule
    obtain ⟨-, hpair⟩ := Prod.mk.inj hlabel
    obtain ⟨hsubject, hseverity⟩ := Prod.mk.inj hpair
    exact ⟨hseverity.symm, folded, description, rule, fact, hleader, hfact, hsubject⟩
  · rintro ⟨rfl, folded, description, rule, fact, hleader, hfact, rfl⟩
    refine ⟨(.storyRule, folded, description), ?_⟩
    rw [firstOf_storyRule, hleader, Option.bind_some, hfact]
    rfl

/-- What is told of story rules in one order is told in every other. -/
theorem RulesAlike.told (halike : RulesAlike checker request) (facts facts' : List FactEvidence)
    (hperm : facts.Perm request.newFacts) (hperm' : facts'.Perm request.newFacts)
    {subject : String} {severity : ConflictSeverity}
    (h : (.storyRule, subject, severity) ∈ (checker.kept (request.reorder facts)).map (·.label)) :
    (.storyRule, subject, severity) ∈ (checker.kept (request.reorder facts')).map (·.label) := by
  obtain ⟨rfl, folded, description, rule, x, hleader, hx, rfl⟩ := storyRule_told.mp h
  rw [leader_reorder hperm] at hleader
  rw [accuses_reorder hperm] at hx
  have haccuses := List.find?_some hx
  rw [accuses, Bool.and_eq_true, beq_iff_eq] at haccuses
  obtain ⟨rfl, hviolates⟩ := haccuses
  obtain rfl := leader_statement hleader
  obtain ⟨rule', hleader', hsame⟩ :=
    halike rule x (hperm.mem_iff.mp (List.mem_of_find?_eq_some hx)) hviolates hleader
  refine storyRule_told.mpr
    ⟨rfl, checker.normalizer.casefold x.subject, statementOf rule', rule', ?_⟩
  obtain ⟨fact, hfact, haccuses'⟩ := leader_accuses hleader'
  have hfound : (facts'.find? (accuses checker (places checker request)
      (checker.normalizer.casefold x.subject) rule')).isSome :=
    List.find?_isSome.mpr ⟨fact, hperm'.mem_iff.mpr hfact, haccuses'⟩
  obtain ⟨first, hfirst⟩ := Option.isSome_iff_exists.mp hfound
  refine ⟨first, ?_, ?_, ?_⟩
  · rw [leader_reorder hperm', hleader']
  · rw [accuses_reorder hperm']
    exact hfirst
  · exact hsame first (hperm'.mem_iff.mp (List.mem_of_find?_eq_some hfirst))
      (List.find?_some hfirst)

/-! ### The outline -/

/-- The rules that look for texts of the outline. -/
def outlineRules : List Rule := [.outlineMissing, .forbiddenReveal]

/-- The texts that a rule looks for. -/
def outlineTexts (request : ConsistencyCheckRequest) : Rule → List String
  | .outlineMissing => request.outline.keyEvents
  | .forbiddenReveal => request.outline.forbiddenReveals
  | _ => []

/-- A text that a rule looks for is reported. -/
def reported (checker : ConsistencyChecker) (request : ConsistencyCheckRequest) :
    Rule → String → Bool
  | .outlineMissing, event =>
      !contains (checker.normalizer.object (request.content ++ " " ++
        String.intercalate " " ((newItems checker request).map fun item =>
          item.raw.subject ++ item.raw.predicate ++ item.raw.object)))
        (checker.normalizer.object event)
  | .forbiddenReveal, reveal =>
      contains (checker.normalizer.object (request.content ++ " " ++
        String.intercalate " " ((newItems checker request).map fun item => item.raw.object)))
        (checker.normalizer.object reveal)
  | _, _ => false

/-- What is told of a text of the outline. -/
def toldOf (rule : Rule) (text : String) : Rule × String × ConflictSeverity :=
  (rule, strip text, if rule = .outlineMissing then .medium else .high)

theorem findingsOf_outline (checker : ConsistencyChecker) (request : ConsistencyCheckRequest)
    (hrule : rule ∈ outlineRules) :
    ∃ describedAs : String, ∀ facts : List FactEvidence,
      ((checker.findingsOf (request.reorder facts) rule).map (checker.written request)).map
        (fun conflict => (conflict.label, checker.key conflict)) =
      ((outlineTexts request rule).filter (reported checker (request.reorder facts) rule)).map
        fun text => (toldOf rule text, rule, checker.normalizer.casefold (strip text),
          strip describedAs) := by
  simp only [outlineRules, List.mem_cons, List.not_mem_nil, or_false] at hrule
  rcases hrule with rfl | rfl
  · refine ⟨"A planned key event is not evidenced in the chapter.", fun facts => ?_⟩
    rw [findingsOf, outlineConflicts, List.map_map, List.map_map]
    refine List.map_congr_left fun event _ => Prod.ext (Prod.ext rfl (Prod.ext rfl ?_)) rfl
    simp only [Function.comp_apply, ConsistencyConflict.label, written]
    exact severity_eq (by simp)
  · refine ⟨"The chapter exposes content explicitly forbidden by its outline.", fun facts => ?_⟩
    rw [findingsOf, forbiddenReveals, List.map_map, List.map_map]
    refine List.map_congr_left fun reveal _ => Prod.ext (Prod.ext rfl (Prod.ext rfl ?_)) rfl
    simp only [Function.comp_apply, ConsistencyConflict.label, written]
    exact severity_eq (by simp)

/-- A text of the outline is told if it is reported. -/
theorem outline_told (hrule : rule ∈ outlineRules) {text : String}
    (htext : text ∈ outlineTexts request rule)
    (hreported : reported checker (request.reorder facts) rule text) :
    ∃ first ∈ outlineTexts request rule,
      checker.normalizer.casefold (strip first) = checker.normalizer.casefold (strip text) ∧
      toldOf rule first ∈ (checker.kept (request.reorder facts)).map (·.label) := by
  obtain ⟨describedAs, hall⟩ := findingsOf_outline checker request hrule
  have hpair : (toldOf rule text, rule, checker.normalizer.casefold (strip text),
      strip describedAs) ∈ ((checker.findingsOf (request.reorder facts) rule).map
        (checker.written request)).map fun conflict => (conflict.label, checker.key conflict) := by
    rw [hall facts]
    exact List.mem_map_of_mem (List.mem_filter.mpr ⟨htext, hreported⟩)
  obtain ⟨conflict, hconflict, heq⟩ := List.mem_map.mp hpair
  obtain ⟨finding, hfinding, rfl⟩ := List.mem_map.mp hconflict
  obtain ⟨first, hfirst⟩ := exists_firstOf hfinding
  obtain ⟨hkey, hcode, -⟩ := key_of_firstOf hfirst
  have hmem := List.mem_map_of_mem (f := fun conflict => (conflict.label, checker.key conflict))
    (List.mem_of_find?_eq_some hfirst)
  rw [show checker.written (request.reorder facts) = checker.written request from rfl,
    hall facts] at hmem
  obtain ⟨other, hother, hsame⟩ := List.mem_map.mp hmem
  obtain ⟨hlabel, hkey'⟩ := Prod.mk.inj hsame
  refine ⟨other, (List.mem_filter.mp hother).1, ?_, ?_⟩
  · have hfold := congrArg (·.2.1) (hkey'.trans (hkey.trans (Prod.mk.inj heq).2))
    exact hfold
  · rw [hlabel]
    exact List.mem_map_of_mem (mem_kept_of_firstOf hfirst)

/-- What is told of a text of the outline was reported of a text. -/
theorem reported_of_told (hrule : rule ∈ outlineRules) {text : String}
    (h : toldOf rule text ∈ (checker.kept (request.reorder facts)).map (·.label)) :
    ∃ other ∈ outlineTexts request rule, strip other = strip text ∧
      reported checker (request.reorder facts) rule other := by
  obtain ⟨describedAs, hall⟩ := findingsOf_outline checker request hrule
  obtain ⟨k, hk⟩ := mem_labels.mp h
  obtain ⟨first, hfirst, hlabel⟩ := Option.map_eq_some_iff.mp hk
  have hmem := List.mem_map_of_mem (f := fun conflict => (conflict.label, checker.key conflict))
    (List.mem_of_find?_eq_some hfirst)
  rw [show checker.written (request.reorder facts) = checker.written request from rfl,
    show (toldOf rule text).1 = rule from rfl, hall facts] at hmem
  obtain ⟨other, hother, hsame⟩ := List.mem_map.mp hmem
  obtain ⟨htexts, hreported⟩ := List.mem_filter.mp hother
  refine ⟨other, htexts, ?_, hreported⟩
  exact congrArg (·.2.1) ((Prod.mk.inj hsame).1.trans hlabel)

/-- Texts that are read alike are reported alike. -/
theorem reported_congr {text text' : String}
    (h : checker.normalizer.casefold text = checker.normalizer.casefold text') :
    reported checker request rule text = reported checker request rule text' := by
  have hobject := checker.normalizer.object_congr _ _ h
  cases rule with
  | outlineMissing => rw [reported, reported, hobject]
  | forbiddenReveal => rw [reported, reported, hobject]
  | _ => rfl

/-- Texts of the outline are reported alike in every order. -/
def OutlineAlike (checker : ConsistencyChecker) (request : ConsistencyCheckRequest) : Prop :=
  ∀ rule ∈ outlineRules, ∀ text ∈ outlineTexts request rule,
    ∀ facts : List FactEvidence, facts.Perm request.newFacts →
      reported checker (request.reorder facts) rule text = reported checker request rule text

/-- Nothing is found of the outline in one order only. -/
theorem OutlineAlike.findings (halike : OutlineAlike checker request)
    (hperm : facts.Perm request.newFacts) (hrule : rule ∈ outlineRules) :
    checker.findingsOf (request.reorder facts) rule = checker.findingsOf request rule := by
  have htexts := fun text htext => halike rule hrule text htext facts hperm
  simp only [outlineRules, List.mem_cons, List.not_mem_nil, or_false] at hrule
  rcases hrule with rfl | rfl
  · exact congrArg (List.map _) (List.filter_congr htexts)
  · exact congrArg (List.map _) (List.filter_congr htexts)

/-! ### Requests with one result -/

/-- Whatever the order of the new facts, a check finds alike. -/
structure Unambiguous (checker : ConsistencyChecker) (request : ConsistencyCheckRequest) :
    Prop where
  factsAlike : FactsAlike checker request
  placesAlike : PlacesAlike checker request
  rulesAlike : RulesAlike checker request
  outlineAlike : OutlineAlike checker request

/-- All but what is told of story rules is told under the same keys. -/
theorem Unambiguous.firstOf (h : Unambiguous checker request) (hperm : facts.Perm request.newFacts)
    (hrule : rule ≠ .storyRule) :
    (checker.firstOf request rule k).map (·.label) =
      (checker.firstOf (request.reorder facts) rule k).map (·.label) := by
  cases rule with
  | storyRule => contradiction
  | locationConflict => exact firstOf_places hperm h.placesAlike
  | outlineMissing =>
      rw [ConsistencyChecker.firstOf, ConsistencyChecker.firstOf,
        h.outlineAlike.findings hperm (by simp [outlineRules])]
      rfl
  | forbiddenReveal =>
      rw [ConsistencyChecker.firstOf, ConsistencyChecker.firstOf,
        h.outlineAlike.findings hperm (by simp [outlineRules])]
      rfl
  | foreshadowEarly => rfl
  | foreshadowRepeat => rfl
  | foreshadowMissing => rfl
  | foreshadowUnset => rfl
  | _ => exact firstOf_facts hperm h.factsAlike (by simp [factRules])

theorem Unambiguous.severity (h : Unambiguous checker request)
    (hperm : facts.Perm request.newFacts) (rule : Rule) (k : Rule × String × String) :
    (checker.firstOf request rule k).map (·.severity) =
      (checker.firstOf (request.reorder facts) rule k).map (·.severity) := by
  by_cases hrule : rule = .storyRule
  · subst hrule
    obtain ⟨code, folded, description⟩ := k
    by_cases hcode : code = .storyRule
    · subst hcode
      rw [storyRule_severity, storyRule_severity, leader_reorder hperm]
    · have hnone : ∀ request : ConsistencyCheckRequest,
          checker.firstOf request .storyRule (code, folded, description) = none := by
        intro request
        refine Option.eq_none_iff_forall_ne_some.mpr fun conflict hfirst => hcode ?_
        obtain ⟨hkey, hrule, -⟩ := key_of_firstOf hfirst
        exact (congrArg Prod.fst hkey).symm.trans hrule
      rw [hnone, hnone]
  · have hlabel := congrArg (Option.map (·.2.2)) (h.firstOf (k := k) hperm hrule)
    rwa [Option.map_map, Option.map_map] at hlabel

/-- The severities that are kept, by their keys. -/
theorem mem_severities {severity : ConflictSeverity} :
    (k, severity) ∈ (checker.kept request).map (fun conflict =>
      (checker.key conflict, conflict.severity)) ↔
      (checker.firstOf request k.1 k).map (·.severity) = some severity := by
  rw [List.mem_map, Option.map_eq_some_iff]
  constructor
  · rintro ⟨conflict, hkept, heq⟩
    obtain ⟨rfl, rfl⟩ := Prod.mk.inj heq
    exact ⟨conflict, mem_kept.mp hkept, rfl⟩
  · rintro ⟨conflict, hfirst, rfl⟩
    exact ⟨conflict, mem_kept_of_firstOf hfirst, by rw [(key_of_firstOf hfirst).1]⟩

theorem nodup_severities : ((checker.kept request).map (fun conflict =>
    (checker.key conflict, conflict.severity))).Nodup := by
  refine List.Nodup.of_map Prod.fst ?_
  rw [List.map_map]
  exact Firsts.nodup_keys_keep [] _

theorem Unambiguous.severities (h : Unambiguous checker request)
    (hperm : facts.Perm request.newFacts) :
    ((checker.kept request).map (·.severity)).Perm
      ((checker.kept (request.reorder facts)).map (·.severity)) := by
  have hpairs : ((checker.kept request).map (fun conflict =>
      (checker.key conflict, conflict.severity))).Perm
      ((checker.kept (request.reorder facts)).map (fun conflict =>
        (checker.key conflict, conflict.severity))) := by
    refine (List.perm_ext_iff_of_nodup nodup_severities nodup_severities).mpr ?_
    rintro ⟨k, severity⟩
    rw [mem_severities, mem_severities, h.severity hperm]
  have hseverities := hpairs.map Prod.snd
  rwa [List.map_map, List.map_map] at hseverities

theorem Unambiguous.told (h : Unambiguous checker request) (hperm : facts.Perm request.newFacts)
    (label : Rule × String × ConflictSeverity) :
    label ∈ (checker.kept request).map (·.label) ↔
      label ∈ (checker.kept (request.reorder facts)).map (·.label) := by
  obtain ⟨rule, subject, severity⟩ := label
  by_cases hrule : rule = .storyRule
  · subst hrule
    constructor
    · exact h.rulesAlike.told request.newFacts facts (List.Perm.refl _) hperm
    · exact h.rulesAlike.told facts request.newFacts hperm (List.Perm.refl _)
  · rw [mem_labels, mem_labels]
    exact exists_congr fun k => by rw [h.firstOf hperm hrule]

/-- Results agree if their conflicts have the same severities and labels. -/
theorem agrees_result {conflicts conflicts' : List ConsistencyConflict}
    (hseverities : (conflicts.map (·.severity)).Perm (conflicts'.map (·.severity)))
    (hlabels : ∀ label, label ∈ conflicts.map (·.label) ↔ label ∈ conflicts'.map (·.label)) :
    (checker.result conflicts).Agrees (checker.result conflicts') := by
  have hcount : ∀ severity, countBySeverity severity conflicts =
      countBySeverity severity conflicts' := by
    intro severity
    have hcountP := hseverities.countP_eq (· == severity)
    rw [List.countP_map, List.countP_map] at hcountP
    exact hcountP
  refine ⟨?_, hcount .critical, hcount .high, hcount .medium, hcount .low, hlabels⟩
  have hsum := (hseverities.map checker.config.severityPenalties).sum_eq
  rw [List.map_map, List.map_map] at hsum
  exact congrArg (fun penalties => boundedScore (10 - penalties)) hsum

/-- The results of unambiguous requests agree. -/
theorem Unambiguous.agrees (h : Unambiguous checker request)
    (hperm : facts.Perm request.newFacts) :
    (checker.result (checker.kept request)).Agrees
      (checker.result (checker.kept (request.reorder facts))) :=
  agrees_result (h.severities hperm) (h.told hperm)

/-- Only what the dead do is critical. -/
theorem deadCharacterAction_of_critical (h : finding ∈ checker.findings request)
    (hcritical : checker.severity finding = .critical) :
    finding ∈ checker.findingsOf request .deadCharacterAction := by
  have hmem : finding ∈ checker.findingsOf request finding.ruleCode := by
    rw [← findings_filter]
    exact List.mem_filter.mpr ⟨h, beq_self_eq_true _⟩
  have hseverity : finding.severity = .critical := by
    by_contra hne
    exact hne ((severity_eq hne).symm.trans hcritical)
  have hnot {rule : Rule} {severity : ConflictSeverity} {subject description : String}
      (hreports : Reports finding rule severity subject description)
      (hne : severity ≠ .critical) : False :=
    hne (hreports.severity.symm.trans hseverity)
  cases hrule : finding.ruleCode with
  | deadCharacterAction => rwa [hrule] at hmem
  | factContradiction =>
      rw [hrule] at hmem
      obtain ⟨_, -, hreports⟩ := mem_directFactConflicts hmem
      exact (hnot hreports (by simp)).elim
  | locationConflict =>
      rw [hrule] at hmem
      obtain ⟨-, _, hfound⟩ := mem_locationConflicts.mp hmem
      obtain ⟨_, -, -, hreports⟩ := locationConflict_locations hfound
      exact (hnot hreports (by simp)).elim
  | knowledgeLeak =>
      rw [hrule] at hmem
      obtain ⟨_, -, hreports⟩ := mem_knowledgeLeaks hmem
      exact (hnot hreports (by simp)).elim
  | storyRule =>
      rw [hrule] at hmem
      obtain ⟨_, -, _, -, hreports⟩ := mem_storyRuleConflicts hmem
      exact (hnot hreports (by simp)).elim
  | objectDestroyed =>
      rw [hrule] at hmem
      obtain ⟨_, -, hreports⟩ := mem_destroyedUses hmem
      exact (hnot hreports (by simp)).elim
  | objectPossession =>
      rw [hrule] at hmem
      obtain ⟨-, _, -, hfound⟩ := mem_possessionConflicts.mp hmem
      exact (hnot (possessionConflict_reports hfound) (by simp)).elim
  | futureFact =>
      rw [hrule] at hmem
      obtain ⟨_, -, hreports⟩ := mem_futureFacts hmem
      exact (hnot hreports (by simp)).elim
  | eventOrder =>
      rw [hrule] at hmem
      obtain ⟨_, -, hreports | hreports⟩ := mem_eventConflicts hmem
      · exact (hnot hreports (by simp)).elim
      · exact (hnot hreports (by simp)).elim
  | outlineMissing =>
      rw [hrule] at hmem
      exact absurd ((mem_outlineConflicts hmem).2.1.symm.trans hseverity) (by simp)
  | forbiddenReveal =>
      rw [hrule] at hmem
      exact absurd ((mem_forbiddenReveals hmem).2.1.symm.trans hseverity) (by simp)
  | _ =>
      rw [hrule] at hmem
      exact absurd hseverity (mem_foreshadowingConflicts (List.mem_filter.mp hmem).1).2

/-- If facts are told of alike, a critical finding is counted. -/
theorem FactsAlike.critical (halike : FactsAlike checker request)
    (h : finding ∈ checker.findings request) (hcritical : checker.severity finding = .critical) :
    1 ≤ countBySeverity .critical (checker.kept request) := by
  have hrule : Rule.deadCharacterAction ∈ factRules := by simp [factRules]
  have hmem := deadCharacterAction_of_critical h hcritical
  obtain ⟨conflict, hfirst⟩ := exists_firstOf hmem
  obtain ⟨hkey, -, other, hother, rfl⟩ := key_of_firstOf hfirst
  rw [findingsOf_eq hrule] at hmem hother
  obtain ⟨_, hnormal, hfound⟩ := List.mem_flatMap.mp (List.append_nil _ ▸ hmem)
  obtain ⟨x, hx, rfl⟩ := List.mem_map.mp hnormal
  obtain ⟨_, hnormal', hfound'⟩ := List.mem_flatMap.mp (List.append_nil _ ▸ hother)
  obtain ⟨y, hy, rfl⟩ := List.mem_map.mp hnormal'
  have hlabel := halike _ hrule y hy x hx other hfound' finding hfound hkey
  refine List.countP_pos_iff.mpr ⟨_, mem_kept_of_firstOf hfirst, ?_⟩
  exact beq_iff_eq.mpr ((congrArg (·.2.2) hlabel).trans hcritical)

end ConsistencyChecker

end StoryForge.Consistency
