import StoryForge.Consistency.Told

/-!
# Unambiguous requests

A check has one result for all orders of the new facts only if it finds alike in all of them: the
facts of which something else is told are put first, or the facts of one spelling last.

## Main results

* `order_independent` — a critical finding is told, and results agree for all orders, if and only
  if the request is unambiguous;
* `critical_hidden` — a critical finding that the order of two facts hides.
-/

namespace StoryForge.Consistency

open Memory

namespace ConsistencyChecker

variable {checker : ConsistencyChecker} {request : ConsistencyCheckRequest}
  {facts : List FactEvidence} {rule : Rule} {finding : Finding}

/-! ### Only these have one result -/

/-- What is told does not depend on the order. -/
def ToldAlike (checker : ConsistencyChecker) (request : ConsistencyCheckRequest) : Prop :=
  ∀ facts facts' : List FactEvidence, facts.Perm request.newFacts → facts'.Perm request.newFacts →
    ∀ label ∈ (checker.kept (request.reorder facts)).map (·.label),
      label ∈ (checker.kept (request.reorder facts')).map (·.label)

/-- What a rule finds of a fact is among what it finds. -/
theorem mem_findingsOf (hrule : rule ∈ factRules) (hperm : facts.Perm request.newFacts)
    {x : FactEvidence} (hx : x ∈ request.newFacts)
    (h : finding ∈ found checker request rule (checker.normalizer.normalize x)) :
    finding ∈ checker.findingsOf (request.reorder facts) rule := by
  rw [findingsOf_eq hrule, found_reorder hperm]
  refine List.mem_append_left _ (List.mem_flatMap.mpr ⟨_, List.mem_map_of_mem ?_, h⟩)
  exact hperm.mem_iff.mpr hx

theorem ToldAlike.factsAlike (h : ToldAlike checker request) : FactsAlike checker request := by
  intro rule hrule x hx y hy finding hfinding other hother hkey
  have hpermx := (List.perm_cons_erase hx).symm
  have hpermy := (List.perm_cons_erase hy).symm
  obtain ⟨conflict, hfirst, hlabel⟩ := firstOf_cons hrule hpermx hfinding
  obtain ⟨conflict', hfirst', hlabel'⟩ := firstOf_cons hrule hpermy hother
  have htold := h _ _ hpermx hpermy _ (List.mem_map_of_mem (mem_kept_of_firstOf hfirst))
  obtain ⟨third, hthird, hsame⟩ := List.mem_map.mp htold
  have hkept := mem_kept.mp hthird
  have hcode : third.ruleCode = rule :=
    (congrArg Prod.fst (hsame.trans hlabel)).trans
      (rule_of_mem_findingsOf (mem_findingsOf hrule hpermy hx hfinding))
  rw [hcode] at hkept
  obtain ⟨-, -, found, hfound, rfl⟩ := key_of_firstOf hkept
  -- The label decides the key, so the conflict is the first of the key of both.
  have hthirdKey : checker.key (checker.written (request.reorder (y :: request.newFacts.erase y))
      found) = checker.key (checker.written request other) :=
    (key_of_label hrule hfound (mem_findingsOf hrule hpermy hx hfinding)
      (hsame.trans hlabel)).trans hkey
  rw [hthirdKey, hfirst'] at hkept
  obtain rfl := Option.some.inj hkept
  exact (hlabel.symm.trans hsame.symm).trans hlabel'

/-- If places differ, the first of them is told. -/
theorem places_told (hstill : ∀ item ∈ newItems checker request,
      transitionPredicates.contains item.predicate = false) {subject : String}
    {a b x : NormalizedFact} (ha : a ∈ locations (newItems checker request) subject)
    (hb : b ∈ locations (newItems checker request) subject) (hne : a.object ≠ b.object)
    (hx : x ∈ locations (newItems checker request) subject) :
    ∃ finding, locationConflict (locations (newItems checker
        (request.reorder (x.raw :: request.newFacts.erase x.raw))) subject) = some finding ∧
      (checker.written request finding).label = (.locationConflict, x.raw.subject, .high) ∧
      (checker.written request finding).label ∈ (checker.kept
        (request.reorder (x.raw :: request.newFacts.erase x.raw))).map (·.label) := by
  obtain ⟨hmem, hpredicate, hsubject⟩ := mem_locations.mp hx
  obtain ⟨hraw, hnormal⟩ := mem_newItems hmem
  have hperm := (List.perm_cons_erase hraw).symm
  have hitems := newItems_perm checker hperm
  have hlocations := locations_perm hitems subject
  have hconflict := locationConflict_isSome.mpr
    ⟨a, hlocations.mem_iff.mpr ha, b, hlocations.mem_iff.mpr hb, hne⟩
  obtain ⟨finding, hfinding⟩ := Option.isSome_iff_exists.mp hconflict
  have hcons : locations (newItems checker
      (request.reorder (x.raw :: request.newFacts.erase x.raw))) subject =
      x :: locations ((request.newFacts.erase x.raw).map checker.normalizer.normalize) subject := by
    rw [newItems]
    change locations (checker.normalizer.normalize x.raw :: _) subject = _
    rw [← hnormal, locations, List.filter_cons_of_pos (by simp [hpredicate, hsubject])]
    rfl
  have hlabel : (checker.written request finding).label =
      (.locationConflict, x.raw.subject, .high) := by
    rw [hcons] at hfinding
    exact (label_locationConflict hfinding).1
  refine ⟨finding, hfinding, hlabel, ?_⟩
  have hfound : finding ∈ checker.findingsOf
      (request.reorder (x.raw :: request.newFacts.erase x.raw)) .locationConflict :=
    findingsOf_locations.mpr
      ⟨fun item hitem => hstill item (hitems.mem_iff.mp hitem), subject, hfinding⟩
  obtain ⟨conflict, hfirst⟩ := exists_firstOf hfound
  obtain ⟨hkey, -, other, hother, rfl⟩ := key_of_firstOf hfirst
  obtain rfl := located_unique hother hfound hkey
  exact List.mem_map_of_mem (mem_kept_of_firstOf hfirst)

theorem ToldAlike.placesAlike (h : ToldAlike checker request) : PlacesAlike checker request := by
  intro hstill subject a ha b hb hne x hx y hy
  have hpermx := (List.perm_cons_erase (mem_newItems (mem_locations.mp hx).1).1).symm
  have hpermy := (List.perm_cons_erase (mem_newItems (mem_locations.mp hy).1).1).symm
  obtain ⟨finding, -, hlabel, htold⟩ := places_told hstill ha hb hne hx
  obtain ⟨other, hother, hlabel', -⟩ := places_told hstill ha hb hne hy
  obtain ⟨k, hk⟩ := mem_labels.mp (h _ _ hpermx hpermy _ htold)
  rw [hlabel] at hk
  obtain ⟨conflict, hfirst, hsame⟩ := Option.map_eq_some_iff.mp hk
  obtain ⟨-, -, third, hthird, rfl⟩ := key_of_firstOf hfirst
  obtain ⟨-, subject', hfound⟩ := findingsOf_locations.mp hthird
  obtain ⟨first, hmem, hfirstLabel, -⟩ := exists_located checker request hfound
  have hsubject : first.raw.subject = x.raw.subject :=
    congrArg (·.2.1) (hfirstLabel.symm.trans hsame)
  have hlocations := locations_perm (newItems_perm checker hpermy)
  obtain rfl := located_subject ((hlocations subject').mem_iff.mp hmem) hx
    (congrArg checker.normalizer.casefold hsubject)
  rw [hother] at hfound
  obtain rfl := Option.some.inj hfound
  exact congrArg (·.2.1) (hsame.symm.trans hlabel')

/-- If a subject is named last, it is told of story rules only where it is the only one. -/
theorem ToldAlike.rulesAlike (h : ToldAlike checker request) : RulesAlike checker request := by
  intro rule x hx hviolates hleader
  have hperm := (List.perm_cons_erase hx).symm
  have haccuses : accuses checker (places checker request)
      (checker.normalizer.casefold x.subject) rule x := by
    rw [accuses, BEq.rfl, hviolates, Bool.true_and]
  have htold : (.storyRule, x.subject, .high) ∈ (checker.kept
      (request.reorder (x :: request.newFacts.erase x))).map (·.label) := by
    refine storyRule_told.mpr
      ⟨rfl, checker.normalizer.casefold x.subject, statementOf rule, rule, x, ?_, ?_, rfl⟩
    · rw [leader_reorder hperm, hleader]
    · rw [accuses_reorder hperm]
      exact List.find?_cons_of_pos haccuses
  have hlast : ((request.newFacts.filter fun fact => !decide (fact.subject = x.subject)) ++
      request.newFacts.filter fun fact => decide (fact.subject = x.subject)).Perm
        request.newFacts :=
    List.perm_append_comm.trans (List.filter_append_perm _ _)
  obtain ⟨-, folded, description, rule', fact, hleader', hfact, hsubject⟩ :=
    storyRule_told.mp (h _ _ hperm hlast _ htold)
  rw [leader_reorder hlast] at hleader'
  rw [accuses_reorder hlast] at hfact
  have hfold := List.find?_some hfact
  rw [accuses, Bool.and_eq_true, beq_iff_eq, hsubject] at hfold
  obtain ⟨rfl, -⟩ := hfold
  obtain rfl := leader_statement hleader'
  refine ⟨rule', hleader', fun y hy haccuses' => ?_⟩
  -- A fact of another spelling would come first.
  by_contra hne
  have hbefore : ((request.newFacts.filter fun fact => !decide (fact.subject = x.subject)).find?
      (accuses checker (places checker request)
        (checker.normalizer.casefold x.subject) rule')).isSome :=
    List.find?_isSome.mpr ⟨y, List.mem_filter.mpr ⟨hy, by simpa using hne⟩, haccuses'⟩
  obtain ⟨first, hfirst⟩ := Option.isSome_iff_exists.mp hbefore
  have hother := (List.mem_filter.mp (List.mem_of_find?_eq_some hfirst)).2
  change List.find? _ (_ ++ _) = _ at hfact
  rw [List.find?_append, hfirst, Option.some_or, Option.some.injEq] at hfact
  subst hfact
  simp [hsubject] at hother

theorem strip_outlineTexts (h : request.outline.Stripped) {text : String}
    (htext : text ∈ outlineTexts request rule) : strip text = text := by
  cases rule with
  | outlineMissing => exact h text (List.mem_append_left _ htext)
  | forbiddenReveal => exact h text (List.mem_append_right _ htext)
  | _ => contradiction

theorem ToldAlike.outlineAlike (h : ToldAlike checker request)
    (hstripped : request.outline.Stripped) :
    OutlineAlike checker request := by
  intro rule hrule text htext facts hperm
  have himp : ∀ facts facts' : List FactEvidence, facts.Perm request.newFacts →
      facts'.Perm request.newFacts → reported checker (request.reorder facts) rule text →
        reported checker (request.reorder facts') rule text := by
    intro facts facts' hperm hperm' hreported
    obtain ⟨first, hfirst, hfold, htold⟩ := outline_told hrule htext hreported
    obtain ⟨other, hother, hsame, hreported'⟩ :=
      reported_of_told hrule (h facts facts' hperm hperm' _ htold)
    rw [strip_outlineTexts hstripped hfirst, strip_outlineTexts hstripped htext] at hfold
    rw [strip_outlineTexts hstripped hother, strip_outlineTexts hstripped hfirst] at hsame
    rw [← reported_congr hfold, ← hsame]
    exact hreported'
  exact Bool.eq_iff_iff.mpr ⟨himp facts request.newFacts hperm (List.Perm.refl _),
    himp request.newFacts facts (List.Perm.refl _) hperm⟩

/-- The result of a check that succeeds, in any order. -/
theorem check_reorder {result : ConsistencyCheckResult} (h : checker.check request = .ok result)
    (facts : List FactEvidence) :
    checker.check (request.reorder facts) =
      .ok (checker.result (checker.kept (request.reorder facts))) :=
  check_eq_ok.mpr ⟨writable_newFacts (check_eq_ok.mp h).1, rfl⟩

/-- Where texts of the outline are stripped, a check tells a critical finding and has one result
for all orders of the new facts if and only if it finds alike in all of them. -/
theorem order_independent {result : ConsistencyCheckResult}
    (h : checker.check request = .ok result)
    (hstripped : request.outline.Stripped) :
    (((∃ finding ∈ checker.findings request, checker.severity finding = .critical) →
        1 ≤ result.criticalCount) ∧
      ∀ facts : List FactEvidence, facts.Perm request.newFacts →
        ∃ other, checker.check (request.reorder facts) = .ok other ∧ result.Agrees other) ↔
      Unambiguous checker request := by
  have hresult : result = checker.result (checker.kept request) := (check_eq_ok.mp h).2
  subst hresult
  constructor
  · rintro ⟨-, hagrees⟩
    have htold : ToldAlike checker request := by
      intro facts facts' hperm hperm' label hlabel
      obtain ⟨other, hother, hagree⟩ := hagrees facts hperm
      obtain ⟨other', hother', hagree'⟩ := hagrees facts' hperm'
      obtain rfl := Except.ok.inj (hother.symm.trans (check_reorder h facts))
      obtain rfl := Except.ok.inj (hother'.symm.trans (check_reorder h facts'))
      exact (hagree'.labels label).mp ((hagree.labels label).mpr hlabel)
    exact ⟨htold.factsAlike, htold.placesAlike, htold.rulesAlike, htold.outlineAlike hstripped⟩
  · intro hunambiguous
    refine ⟨?_, fun facts hperm => ⟨_, check_reorder h facts, hunambiguous.agrees hperm⟩⟩
    rintro ⟨finding, hfinding, hcritical⟩
    exact hunambiguous.factsAlike.critical hfinding hcritical

/-! ### Instances -/

/-- Cal is dead. -/
def calDied : FactEvidence := .plain 1 "cal" "state" "dead" (by decide +kernel) (by decide +kernel)

/-- Cal speaks in the next chapter, more or less certainly. -/
def calSpeaks (confidence : ℚ) : FactEvidence :=
  { FactEvidence.plain 2 "cal" "speak" "gently" (by decide +kernel) (by decide +kernel) with
    confidence := confidence }

/-- What is certain of the dead is critical, but is not told after what is not. -/
theorem critical_hidden :
    (∃ finding ∈ plain.findings (.ofFacts 2 [calSpeaks (1 / 2), calSpeaks 1] [calDied]),
      plain.severity finding = .critical) ∧
    (plain.check (.ofFacts 2 [calSpeaks (1 / 2), calSpeaks 1] [calDied])).toOption.map
      (·.criticalCount) = some 0 ∧
    (plain.check (.ofFacts 2 [calSpeaks 1, calSpeaks (1 / 2)] [calDied])).toOption.map
      (·.criticalCount) = some 1 := by
  refine ⟨?_, by decide +kernel, by decide +kernel⟩
  decide +kernel

/-- One fact has one order. -/
theorem unambiguous_single (fact : FactEvidence) (history : List FactEvidence) (chapter : ℕ) :
    Unambiguous checker (.ofFacts chapter [fact] history) where
  factsAlike rule _ x hx y hy finding hfinding other hother hkey := by
    rw [List.mem_singleton.mp hx] at hfinding
    rw [List.mem_singleton.mp hy] at hother
    exact label_of_key hfinding hother hkey
  placesAlike _ subject _ _ _ _ _ x hx y hy := by
    have hone {item : NormalizedFact}
        (h : item ∈ locations (newItems checker (.ofFacts chapter [fact] history)) subject) :
        item = checker.normalizer.normalize fact :=
      List.mem_singleton.mp (mem_locations.mp h).1
    rw [hone hx, hone hy]
  rulesAlike _ _ _ _ hleader := by contradiction
  outlineAlike rule _ text htext := by
    cases rule <;> contradiction

theorem stripped_ofFacts (chapter : ℕ) (facts history : List FactEvidence) :
    (ConsistencyCheckRequest.ofFacts chapter facts history).outline.Stripped :=
  fun _ htext => absurd htext List.not_mem_nil

/-- A single action of the dead is told as critical, in the only order there is. -/
theorem order_independent_single :
    1 ≤ (plain.result (plain.kept (.ofFacts 2 [calSpeaks 1] [calDied]))).criticalCount := by
  have hcheck : plain.check (.ofFacts 2 [calSpeaks 1] [calDied]) =
      .ok (plain.result (plain.kept (.ofFacts 2 [calSpeaks 1] [calDied]))) := by
    decide +kernel
  have hsingle := order_independent hcheck (stripped_ofFacts _ _ _)
  have hcritical : ∃ finding ∈ plain.findings (.ofFacts 2 [calSpeaks 1] [calDied]),
      plain.severity finding = .critical := by
    decide +kernel
  exact (hsingle.mpr (unambiguous_single _ _ _)).1 hcritical

end ConsistencyChecker

end StoryForge.Consistency
