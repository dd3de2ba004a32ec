import StoryForge.Consistency.Checker

/-!
# The order of new facts

Of the conflicts that a check finds under one key it keeps the first, and the key has neither the
severity nor the spelling of the subject in it. So the order of the new facts decides what is
kept, unless what is found under a key is alike. Most rules look at one fact at a time, and the
rule of locations at all facts that place a subject.

## Main results

* `findingsOf_eq` — the findings of a rule, fact by fact;
* `label_of_key`, `key_of_label` — of one fact, a rule says one thing under a key;
* `firstOf_facts`, `firstOf_places` — where findings are alike, the first is told alike.
-/

namespace StoryForge.Consistency

open Memory

/-- What the result says of a conflict. -/
def ConsistencyConflict.label (conflict : ConsistencyConflict) :
    Rule × String × ConflictSeverity :=
  (conflict.ruleCode, conflict.subject, conflict.severity)

/-- A request with its facts in another order. -/
def ConsistencyCheckRequest.reorder (request : ConsistencyCheckRequest)
    (facts : List FactEvidence) : ConsistencyCheckRequest :=
  { request with newFacts := facts }

/-- The texts of an outline are stripped. -/
def ChapterOutlineEvidence.Stripped (outline : ChapterOutlineEvidence) : Prop :=
  ∀ text ∈ outline.keyEvents ++ outline.forbiddenReveals, strip text = text

/-- Results that agree: on the score, on the counts, and on the set of what they say of the
conflicts. -/
structure ConsistencyCheckResult.Agrees (result other : ConsistencyCheckResult) : Prop where
  score : result.score = other.score
  critical : result.criticalCount = other.criticalCount
  high : result.highCount = other.highCount
  medium : result.mediumCount = other.mediumCount
  low : result.lowCount = other.lowCount
  labels : ∀ label, label ∈ result.conflicts.map (·.label) ↔
    label ∈ other.conflicts.map (·.label)

namespace ConsistencyChecker

variable {checker : ConsistencyChecker} {request : ConsistencyCheckRequest}
  {facts : List FactEvidence} {rule : Rule} {finding other : Finding} {k : Rule × String × String}

/-! ### What a rule finds of a fact -/

/-- The rules that look at one new fact at a time. -/
def factRules : List Rule :=
  [.factContradiction, .deadCharacterAction, .knowledgeLeak, .objectDestroyed, .objectPossession,
    .futureFact, .eventOrder]

/-- What a rule finds of a new fact. -/
def found (checker : ConsistencyChecker) (request : ConsistencyCheckRequest) (rule : Rule)
    (item : NormalizedFact) : List Finding :=
  let history := request.historicalFacts.map checker.normalizer.normalize
  match rule with
  | .factContradiction => history.filterMap (checker.directFactConflict item)
  | .deadCharacterAction =>
      if request.storyRules.any (·.allowsResurrection) then []
      else (checker.deadCharacterAction (checker.dead request history) item).toList
  | .knowledgeLeak => (checker.knowledgeLeak request history item).toList
  | .objectDestroyed => (destroyedUse (destroyed history) item).toList
  | .objectPossession =>
      if (request.newFacts.map checker.normalizer.normalize).any fun item =>
          item.predicate == "transfer" then []
      else (possessionConflict item ((oldHolders history).lookup item.object)).toList
  | .futureFact => (futureFact request history item).toList
  | .eventOrder =>
      (statusConflict item ((historyStatus history).lookup item.subject)).toList ++
        (checker.orderConflict item ((historyOrder history).lookup item.subject)).toList
  | _ => []

/-- What a rule finds of earlier facts. -/
def foundBefore (checker : ConsistencyChecker) (request : ConsistencyCheckRequest) :
    Rule → List Finding
  | .futureFact =>
      let history := request.historicalFacts.map checker.normalizer.normalize
      history.filterMap (futureFact request history)
  | _ => []

/-- The findings of a rule, fact by fact. -/
theorem findingsOf_eq (hrule : rule ∈ factRules) :
    checker.findingsOf request rule =
      ((request.newFacts.map checker.normalizer.normalize).flatMap (found checker request rule)) ++
        foundBefore checker request rule := by
  simp only [factRules, List.mem_cons, List.not_mem_nil, or_false] at hrule
  rcases hrule with rfl | rfl | rfl | rfl | rfl | rfl | rfl
  · exact (List.append_nil _).symm
  · refine Eq.trans ?_ (List.append_nil _).symm
    rw [findingsOf, deadCharacterActions]
    cases hallowed : request.storyRules.any (·.allowsResurrection) with
    | true => simp [found, hallowed]
    | false =>
        rw [if_neg Bool.false_ne_true, List.filterMap_eq_flatMap_toList]
        refine congrArg (List.flatMap · _) (funext fun item => ?_)
        simp only [found, hallowed, Bool.false_eq_true, if_false]
  · refine Eq.trans ?_ (List.append_nil _).symm
    rw [findingsOf, knowledgeLeaks, List.filterMap_eq_flatMap_toList]
    rfl
  · refine Eq.trans ?_ (List.append_nil _).symm
    rw [findingsOf, List.filterMap_eq_flatMap_toList]
    rfl
  · refine Eq.trans ?_ (List.append_nil _).symm
    rw [findingsOf, possessionConflicts]
    cases htransfer : (request.newFacts.map checker.normalizer.normalize).any fun item =>
        item.predicate == "transfer" with
    | true => simp [found, htransfer]
    | false =>
        rw [if_neg Bool.false_ne_true, List.filterMap_eq_flatMap_toList]
        refine congrArg (List.flatMap · _) (funext fun item => ?_)
        simp only [found, htransfer, Bool.false_eq_true, if_false]
  · rw [findingsOf, List.filterMap_append, List.filterMap_eq_flatMap_toList]
    rfl
  · exact (List.append_nil _).symm

/-- What a rule finds of a fact does not depend on the order of the facts. -/
theorem found_reorder (hperm : facts.Perm request.newFacts) :
    found checker (request.reorder facts) rule = found checker request rule := by
  funext item
  cases rule with
  | objectPossession =>
      have hany := (hperm.map checker.normalizer.normalize).any_eq
        (f := fun item : NormalizedFact => item.predicate == "transfer")
      simp only [found, ConsistencyCheckRequest.reorder, hany]
  | _ => rfl

/-- What a rule says, by the severity. Only the order of events has two descriptions. -/
def described : Rule → ConflictSeverity → String
  | .factContradiction, _ => "A new fact directly contradicts an earlier fact."
  | .deadCharacterAction, _ => "A character marked dead performs a new action."
  | .knowledgeLeak, _ => "A character knows an unrevealed secret without an acquisition event."
  | .objectDestroyed, _ => "An object previously destroyed is used or possessed again."
  | .objectPossession, _ => "Possession changes owner without a transfer event."
  | .futureFact, _ => "A fact from a future validity interval is used now."
  | .eventOrder, .high => "An ended event is marked as not started."
  | .eventOrder, _ => "An explicit timeline sequence moves backwards."
  | _, _ => ""

/-- A severity that is not critical stays. -/
theorem severity_eq (h : finding.severity ≠ .critical) :
    checker.severity finding = finding.severity :=
  if_neg fun hboth => h hboth.1

/-- The description follows from the rule and the severity. -/
theorem description_eq (hrule : rule ∈ factRules) (h : finding ∈ checker.findingsOf request rule) :
    finding.description = described rule (checker.severity finding) := by
  simp only [factRules, List.mem_cons, List.not_mem_nil, or_false] at hrule
  rcases hrule with rfl | rfl | rfl | rfl | rfl | rfl | rfl
  · obtain ⟨_, -, hreports⟩ := mem_directFactConflicts h
    exact hreports.description
  · obtain ⟨_, -, hreports⟩ := mem_deadCharacterActions h
    exact hreports.description
  · obtain ⟨_, -, hreports⟩ := mem_knowledgeLeaks h
    exact hreports.description
  · obtain ⟨_, -, hreports⟩ := mem_destroyedUses h
    exact hreports.description
  · obtain ⟨-, _, -, hfound⟩ := mem_possessionConflicts.mp h
    exact (possessionConflict_reports hfound).description
  · obtain ⟨_, -, hreports⟩ := mem_futureFacts h
    exact hreports.description
  · obtain ⟨_, -, hreports | hreports⟩ := mem_eventConflicts h
    · have hseverity : checker.severity finding = .high := by
        rw [severity_eq (by simp [hreports.severity]), hreports.severity]
      rw [hseverity]
      exact hreports.description
    · have hseverity : checker.severity finding = .medium := by
        rw [severity_eq (by simp [hreports.severity]), hreports.severity]
      rw [hseverity]
      exact hreports.description

/-- What is said of a finding decides its key. -/
theorem key_of_label (hrule : rule ∈ factRules) (h : finding ∈ checker.findingsOf request rule)
    (hother : other ∈ checker.findingsOf request rule)
    (hlabel : (checker.written request finding).label = (checker.written request other).label) :
    checker.key (checker.written request finding) =
      checker.key (checker.written request other) := by
  obtain ⟨hcode, hpair⟩ := Prod.mk.inj hlabel
  obtain ⟨hsubject, hseverity⟩ := Prod.mk.inj hpair
  have hdescription : finding.description = other.description := by
    rw [description_eq hrule h, description_eq hrule hother]
    exact congrArg (described rule) hseverity
  refine Prod.ext hcode (Prod.ext ?_ ?_)
  · exact congrArg checker.normalizer.casefold hsubject
  · exact congrArg strip hdescription

/-- Of one fact, a rule says the same under one key. -/
theorem label_of_key {item : NormalizedFact} (h : finding ∈ found checker request rule item)
    (hother : other ∈ found checker request rule item)
    (hkey : checker.key (checker.written request finding) =
      checker.key (checker.written request other)) :
    (checker.written request finding).label = (checker.written request other).label := by
  have hsame {found : Option Finding} (h : finding ∈ found.toList) (hother : other ∈ found.toList) :
      finding = other := by
    rw [Option.mem_toList] at h hother
    exact Option.some.inj (h.symm.trans hother)
  have hreported {severity : ConflictSeverity} {subject description description' : String}
      (hreports : Reports finding rule severity subject description)
      (hreports' : Reports other rule severity subject description')
      (hseverity : severity ≠ .critical) :
      (checker.written request finding).label = (checker.written request other).label := by
    refine Prod.ext (hreports.ruleCode.trans hreports'.ruleCode.symm) (Prod.ext ?_ ?_)
    · exact congrArg strip (hreports.subject.trans hreports'.subject.symm)
    · change checker.severity finding = checker.severity other
      rw [severity_eq (hreports.severity ▸ hseverity), severity_eq (hreports'.severity ▸ hseverity)]
      exact hreports.severity.trans hreports'.severity.symm
  cases rule with
  | factContradiction =>
      obtain ⟨_, -, hfound⟩ := List.mem_filterMap.mp h
      obtain ⟨_, -, hfound'⟩ := List.mem_filterMap.mp hother
      exact hreported (directFactConflict_reports hfound) (directFactConflict_reports hfound')
        (by simp)
  | deadCharacterAction =>
      simp only [found] at h hother
      split at h
      · contradiction
      · next hallowed =>
          rw [if_neg hallowed] at hother
          rw [hsame h hother]
  | knowledgeLeak => rw [hsame h hother]
  | objectDestroyed => rw [hsame h hother]
  | objectPossession =>
      simp only [found] at h hother
      split at h
      · contradiction
      · next htransfer =>
          rw [if_neg htransfer] at hother
          rw [hsame h hother]
  | futureFact => rw [hsame h hother]
  | eventOrder =>
      have hdescription : strip finding.description = strip other.description :=
        congrArg (·.2.2) hkey
      rcases List.mem_append.mp h with hleft | hright
      · rcases List.mem_append.mp hother with hleft' | hright'
        · rw [hsame hleft hleft']
        · rw [(statusConflict_reports (Option.mem_toList.mp hleft)).description,
            (orderConflict_reports (Option.mem_toList.mp hright')).description] at hdescription
          exact absurd hdescription (by decide +kernel)
      · rcases List.mem_append.mp hother with hleft' | hright'
        · rw [(orderConflict_reports (Option.mem_toList.mp hright)).description,
            (statusConflict_reports (Option.mem_toList.mp hleft')).description] at hdescription
          exact absurd hdescription (by decide +kernel)
        · rw [hsame hright hright']
  | _ => contradiction

/-! ### The first conflict of a key -/

/-- The conflict that a rule keeps for a key. -/
def firstOf (checker : ConsistencyChecker) (request : ConsistencyCheckRequest) (rule : Rule)
    (k : Rule × String × String) : Option ConsistencyConflict :=
  ((checker.findingsOf request rule).map (checker.written request)).find? fun conflict =>
    checker.key conflict = k

/-- The conflicts that a check keeps. -/
def kept (checker : ConsistencyChecker) (request : ConsistencyCheckRequest) :
    List ConsistencyConflict :=
  checker.deduplicate ((checker.findings request).map (checker.written request))

theorem key_of_firstOf {conflict : ConsistencyConflict}
    (h : checker.firstOf request rule k = some conflict) :
    checker.key conflict = k ∧ conflict.ruleCode = rule ∧
      ∃ finding ∈ checker.findingsOf request rule, checker.written request finding = conflict := by
  obtain ⟨finding, hfinding, rfl⟩ := List.mem_map.mp (List.mem_of_find?_eq_some h)
  exact ⟨by simpa using List.find?_some h, rule_of_mem_findingsOf hfinding, finding, hfinding, rfl⟩

/-- What is kept is the first of its key. -/
theorem mem_kept {conflict : ConsistencyConflict} :
    conflict ∈ checker.kept request ↔
      checker.firstOf request conflict.ruleCode (checker.key conflict) = some conflict :=
  mem_deduplicate

theorem mem_kept_of_firstOf {conflict : ConsistencyConflict}
    (h : checker.firstOf request rule k = some conflict) : conflict ∈ checker.kept request := by
  obtain ⟨hkey, hrule, -⟩ := key_of_firstOf h
  rw [mem_kept, hkey, hrule]
  exact h

/-- Every finding has a first conflict of its key. -/
theorem exists_firstOf (h : finding ∈ checker.findingsOf request rule) :
    ∃ conflict, checker.firstOf request rule (checker.key (checker.written request finding)) =
      some conflict := by
  cases hfirst : checker.firstOf request rule (checker.key (checker.written request finding)) with
  | some conflict => exact ⟨conflict, rfl⟩
  | none =>
      have hnot := List.find?_eq_none.mp hfirst _ (List.mem_map_of_mem h)
      simp at hnot

/-! ### Rules that look at one fact -/

/-- Facts of which a rule finds the same are written of alike. -/
def FactsAlike (checker : ConsistencyChecker) (request : ConsistencyCheckRequest) : Prop :=
  ∀ rule ∈ factRules, ∀ x ∈ request.newFacts, ∀ y ∈ request.newFacts,
    ∀ finding ∈ found checker request rule (checker.normalizer.normalize x),
    ∀ other ∈ found checker request rule (checker.normalizer.normalize y),
      checker.key (checker.written request finding) = checker.key (checker.written request other) →
        (checker.written request finding).label = (checker.written request other).label

/-- What is found of earlier facts comes last, whatever the order of the new facts. -/
theorem firstOf_eq (hrule : rule ∈ factRules) :
    checker.firstOf request rule k =
      ((((request.newFacts.map checker.normalizer.normalize).flatMap
        (found checker request rule)).map (checker.written request)).find? fun conflict =>
          checker.key conflict = k).or
      (((foundBefore checker request rule).map (checker.written request)).find? fun conflict =>
        checker.key conflict = k) := by
  rw [firstOf, findingsOf_eq hrule, List.map_append, List.find?_append]

theorem firstOf_facts (hperm : facts.Perm request.newFacts)
    (halike : FactsAlike checker request) (hrule : rule ∈ factRules) :
    (checker.firstOf request rule k).map (·.label) =
      (checker.firstOf (request.reorder facts) rule k).map (·.label) := by
  have hbefore : foundBefore checker (request.reorder facts) rule =
      foundBefore checker request rule := by
    cases rule <;> rfl
  rw [firstOf_eq hrule, firstOf_eq hrule, found_reorder hperm, hbefore, Option.map_or,
    Option.map_or]
  refine congrArg (Option.or · _) ?_
  have hmem : ∀ conflict,
      conflict ∈ ((request.newFacts.map checker.normalizer.normalize).flatMap
        (found checker request rule)).map (checker.written request) ↔
      conflict ∈ ((facts.map checker.normalizer.normalize).flatMap
        (found checker request rule)).map (checker.written request) := fun conflict =>
    (((hperm.map _).flatMap_right _).map _).mem_iff.symm
  refine Firsts.find?_label_congr (fun item hitem => ⟨item, (hmem item).mp hitem, rfl⟩)
    (fun item hitem => ⟨item, (hmem item).mpr hitem, rfl, rfl⟩) ?_ k
  intro item hitem other hother hkey
  obtain ⟨finding, hfinding, rfl⟩ := List.mem_map.mp hitem
  obtain ⟨finding', hfinding', rfl⟩ := List.mem_map.mp hother
  obtain ⟨_, hnormal, hfound⟩ := List.mem_flatMap.mp hfinding
  obtain ⟨x, hx, rfl⟩ := List.mem_map.mp hnormal
  obtain ⟨_, hnormal', hfound'⟩ := List.mem_flatMap.mp hfinding'
  obtain ⟨y, hy, rfl⟩ := List.mem_map.mp hnormal'
  exact halike rule hrule x hx y hy finding hfound finding' hfound' hkey

/-- What is found of the first fact is told before what is found of others. -/
theorem firstOf_cons {x : FactEvidence} (hrule : rule ∈ factRules) {rest : List FactEvidence}
    (hperm : (x :: rest).Perm request.newFacts)
    (h : finding ∈ found checker request rule (checker.normalizer.normalize x)) :
    ∃ conflict, checker.firstOf (request.reorder (x :: rest)) rule
        (checker.key (checker.written request finding)) = some conflict ∧
      conflict.label = (checker.written request finding).label := by
  have hnew : (((found checker request rule (checker.normalizer.normalize x)).map
      (checker.written request)).find? fun conflict =>
        checker.key conflict = checker.key (checker.written request finding)).isSome := by
    rw [List.find?_isSome]
    exact ⟨_, List.mem_map_of_mem h, by simp⟩
  obtain ⟨conflict, hconflict⟩ := Option.isSome_iff_exists.mp hnew
  refine ⟨conflict, ?_, ?_⟩
  · rw [firstOf_eq hrule, found_reorder hperm]
    change Option.or (List.find? _ (List.map (checker.written request) (List.flatMap _
      (checker.normalizer.normalize x :: rest.map checker.normalizer.normalize)))) _ = _
    rw [List.flatMap_cons, List.map_append, List.find?_append, hconflict]
    rfl
  · obtain ⟨other, hother, rfl⟩ := List.mem_map.mp (List.mem_of_find?_eq_some hconflict)
    exact label_of_key hother h (by simpa using List.find?_some hconflict)

/-! ### Locations -/

/-- The new facts, normalized. -/
def newItems (checker : ConsistencyChecker) (request : ConsistencyCheckRequest) :
    List NormalizedFact :=
  request.newFacts.map checker.normalizer.normalize

/-- Without a movement, the facts that place a subject differently name it alike. -/
def PlacesAlike (checker : ConsistencyChecker) (request : ConsistencyCheckRequest) : Prop :=
  (∀ item ∈ newItems checker request, transitionPredicates.contains item.predicate = false) →
    ∀ subject, ∀ a ∈ locations (newItems checker request) subject,
      ∀ b ∈ locations (newItems checker request) subject, a.object ≠ b.object →
        ∀ x ∈ locations (newItems checker request) subject,
          ∀ y ∈ locations (newItems checker request) subject, x.raw.subject = y.raw.subject

theorem mem_newItems {item : NormalizedFact} (h : item ∈ newItems checker request) :
    item.raw ∈ request.newFacts ∧ item = checker.normalizer.normalize item.raw := by
  obtain ⟨fact, hfact, rfl⟩ := List.mem_map.mp h
  exact ⟨hfact, rfl⟩

theorem newItems_perm (checker : ConsistencyChecker) (hperm : facts.Perm request.newFacts) :
    (newItems checker (request.reorder facts)).Perm (newItems checker request) :=
  hperm.map _

theorem mem_locations {new : List NormalizedFact} {subject : String} {item : NormalizedFact} :
    item ∈ locations new subject ↔
      item ∈ new ∧ item.predicate = "location" ∧ item.subject = subject := by
  simp only [locations, List.mem_filter, Bool.and_eq_true, beq_iff_eq]

theorem locations_perm {new new' : List NormalizedFact} (h : new'.Perm new) (subject : String) :
    (locations new' subject).Perm (locations new subject) :=
  h.filter _

/-- Locations conflict if two of them differ. -/
theorem locationConflict_isSome {items : List NormalizedFact} :
    (locationConflict items).isSome ↔ ∃ a ∈ items, ∃ b ∈ items, a.object ≠ b.object := by
  cases items with
  | nil => simp [locationConflict]
  | cons first rest =>
      rw [locationConflict]
      split
      · next hany =>
          obtain ⟨item, hitem, hne⟩ := List.any_eq_true.mp hany
          refine iff_of_true rfl ⟨item, List.mem_cons_of_mem _ hitem, first, List.mem_cons_self, ?_⟩
          simpa using hne
      · next hnone =>
          refine iff_of_false (by simp) ?_
          have hsame : ∀ item ∈ first :: rest, item.object = first.object := by
            intro item hitem
            rcases List.mem_cons.mp hitem with rfl | hrest
            · rfl
            · by_contra hne
              exact hnone (List.any_eq_true.mpr ⟨item, hrest, by simpa using hne⟩)
          rintro ⟨a, ha, b, hb, hne⟩
          exact hne ((hsame a ha).trans (hsame b hb).symm)

/-- A conflict of locations is told of the first fact of its subject. -/
theorem label_locationConflict {first : NormalizedFact} {rest : List NormalizedFact}
    (h : locationConflict (first :: rest) = some finding) :
    (checker.written request finding).label = (.locationConflict, first.raw.subject, .high) ∧
      checker.key (checker.written request finding) =
        (.locationConflict, checker.normalizer.casefold first.raw.subject,
          "A character is placed in incompatible locations without movement.") := by
  obtain ⟨item, hitem, hreports⟩ := locationConflict_reports h
  obtain rfl := Option.some.inj hitem
  have hsubject : strip finding.subject = first.raw.subject := by
    rw [hreports.subject, first.raw.stripped _ (by simp)]
  have hseverity : checker.severity finding = .high := by
    rw [severity_eq (by simp [hreports.severity]), hreports.severity]
  have hdescription : strip finding.description =
      "A character is placed in incompatible locations without movement." := by
    rw [hreports.description]
    decide +kernel
  refine ⟨Prod.ext hreports.ruleCode (Prod.ext hsubject hseverity), ?_⟩
  exact Prod.ext hreports.ruleCode
    (Prod.ext (congrArg checker.normalizer.casefold hsubject) hdescription)

/-- A finding of locations, with the fact it is told of. -/
theorem exists_located (checker : ConsistencyChecker) (request : ConsistencyCheckRequest)
    {new : List NormalizedFact} {subject : String}
    (h : locationConflict (locations new subject) = some finding) :
    ∃ first ∈ locations new subject,
      (checker.written request finding).label = (.locationConflict, first.raw.subject, .high) ∧
      checker.key (checker.written request finding) =
        (.locationConflict, checker.normalizer.casefold first.raw.subject,
          "A character is placed in incompatible locations without movement.") := by
  cases hitems : locations new subject with
  | nil =>
      rw [hitems] at h
      contradiction
  | cons first rest =>
      rw [hitems] at h
      exact ⟨first, List.mem_cons_self, label_locationConflict h⟩

/-- The subject of a located fact follows from the folded text. -/
theorem located_subject {subject subject' : String} {x y : NormalizedFact}
    (hx : x ∈ locations (newItems checker request) subject)
    (hy : y ∈ locations (newItems checker request) subject')
    (hfold : checker.normalizer.casefold x.raw.subject =
      checker.normalizer.casefold y.raw.subject) : subject = subject' := by
  obtain ⟨hmem, -, rfl⟩ := mem_locations.mp hx
  obtain ⟨hmem', -, rfl⟩ := mem_locations.mp hy
  rw [(mem_newItems hmem).2, (mem_newItems hmem').2]
  exact checker.normalizer.subject_congr _ _ hfold

theorem findingsOf_locations {request : ConsistencyCheckRequest} :
    finding ∈ checker.findingsOf request .locationConflict ↔
      (∀ item ∈ newItems checker request,
        transitionPredicates.contains item.predicate = false) ∧
      ∃ subject, locationConflict (locations (newItems checker request) subject) = some finding :=
  mem_locationConflicts

/-- Two findings of locations under one key are one. -/
theorem located_unique (h : finding ∈ checker.findingsOf request .locationConflict)
    (hother : other ∈ checker.findingsOf request .locationConflict)
    (hkey : checker.key (checker.written request finding) =
      checker.key (checker.written request other)) : finding = other := by
  obtain ⟨-, subject, hfound⟩ := findingsOf_locations.mp h
  obtain ⟨-, subject', hfound'⟩ := findingsOf_locations.mp hother
  obtain ⟨first, hfirst, -, hkey₁⟩ := exists_located checker request hfound
  obtain ⟨first', hfirst', -, hkey₂⟩ := exists_located checker request hfound'
  rw [hkey₁, hkey₂] at hkey
  obtain rfl := located_subject hfirst hfirst' (congrArg (·.2.1) hkey)
  exact Option.some.inj (hfound.symm.trans hfound')

/-- The conflict of a subject is told alike in another order. -/
theorem located_reorder (facts : List FactEvidence) (hperm : facts.Perm request.newFacts)
    (halike : PlacesAlike checker request)
    (h : finding ∈ checker.findingsOf request .locationConflict) :
    ∃ other ∈ checker.findingsOf (request.reorder facts) .locationConflict,
      checker.key (checker.written request other) =
        checker.key (checker.written request finding) ∧
      (checker.written request other).label = (checker.written request finding).label := by
  obtain ⟨hstill, subject, hfound⟩ := findingsOf_locations.mp h
  have hitems := newItems_perm checker hperm
  have hlocations := locations_perm hitems subject
  have hdiffer := locationConflict_isSome.mp (Option.isSome_of_eq_some hfound)
  obtain ⟨a, ha, b, hb, hne⟩ := hdiffer
  have hother : (locationConflict
      (locations (newItems checker (request.reorder facts)) subject)).isSome :=
    locationConflict_isSome.mpr
      ⟨a, hlocations.mem_iff.mpr ha, b, hlocations.mem_iff.mpr hb, hne⟩
  obtain ⟨other, hother⟩ := Option.isSome_iff_exists.mp hother
  obtain ⟨first, hfirst, hlabel, hkey⟩ := exists_located checker request hfound
  obtain ⟨first', hfirst', hlabel', hkey'⟩ := exists_located checker request hother
  have hsame : first'.raw.subject = first.raw.subject :=
    halike hstill subject a ha b hb hne first' (hlocations.mem_iff.mp hfirst') first hfirst
  refine ⟨other, findingsOf_locations.mpr ⟨fun item hitem => ?_, subject, hother⟩, ?_, ?_⟩
  · exact hstill item (hitems.mem_iff.mp hitem)
  · rw [hkey, hkey', hsame]
  · rw [hlabel, hlabel', hsame]

/-- Places are alike in every order. -/
theorem PlacesAlike.reorder (hperm : facts.Perm request.newFacts)
    (halike : PlacesAlike checker request) : PlacesAlike checker (request.reorder facts) := by
  have hitems := newItems_perm checker hperm
  intro hstill subject a ha b hb hne x hx y hy
  have hmem := fun item => (locations_perm hitems subject).mem_iff (a := item)
  exact halike (fun item hitem => hstill item (hitems.mem_iff.mpr hitem)) subject
    a ((hmem a).mp ha) b ((hmem b).mp hb) hne x ((hmem x).mp hx) y ((hmem y).mp hy)

theorem firstOf_places (hperm : facts.Perm request.newFacts)
    (halike : PlacesAlike checker request) :
    (checker.firstOf request .locationConflict k).map (·.label) =
      (checker.firstOf (request.reorder facts) .locationConflict k).map (·.label) := by
  refine Firsts.find?_label_congr ?_ ?_ ?_ k
  · intro item hitem
    obtain ⟨finding, hfinding, rfl⟩ := List.mem_map.mp hitem
    obtain ⟨other, hother, hkey, -⟩ := located_reorder facts hperm halike hfinding
    exact ⟨_, List.mem_map_of_mem hother, hkey⟩
  · intro item hitem
    obtain ⟨finding, hfinding, rfl⟩ := List.mem_map.mp hitem
    obtain ⟨other, hother, hkey, hlabel⟩ :=
      located_reorder request.newFacts hperm.symm (halike.reorder hperm) hfinding
    exact ⟨_, List.mem_map_of_mem hother, hkey, hlabel⟩
  · intro item hitem other hother hkey
    obtain ⟨finding, hfinding, rfl⟩ := List.mem_map.mp hitem
    obtain ⟨finding', hfinding', rfl⟩ := List.mem_map.mp hother
    rw [located_unique hfinding hfinding' hkey]

end ConsistencyChecker

end StoryForge.Consistency
