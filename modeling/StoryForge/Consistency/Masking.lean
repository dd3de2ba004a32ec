import StoryForge.Consistency.Checker

/-!
# Conflicts and unrelated facts

A chapter that puts a character in two places, or gives an object to another holder, is in
conflict unless something moves or is transferred. The checker looks for such a movement among
all new facts, and not only among those of the character or object. This module shows which
facts make it lose a conflict that they have nothing to do with.

## Main results

* `Extended.filterMap_eq` — unrelated facts change nothing of what is read of related ones;
* `conflict_stays_iff` — when a conflict stays;
* `conflict_masked` — a movement of someone else hides a conflict.
-/

namespace StoryForge.Consistency

open Memory

/-! ### Extensions -/

/-- Some elements are added to a list, all of them unrelated. -/
inductive Extended {α : Type} (unrelated : α → Prop) : List α → List α → Prop
  | nil : Extended unrelated [] []
  | keep (a : α) {as bs : List α} : Extended unrelated as bs →
      Extended unrelated (a :: as) (a :: bs)
  | add {b : α} {as bs : List α} : unrelated b → Extended unrelated as bs →
      Extended unrelated as (b :: bs)

namespace Extended

variable {α β : Type} {unrelated : α → Prop} {as bs : List α}

/-- Elements are mapped one by one. -/
theorem map {unrelated' : β → Prop} {f : α → β} (h : Extended unrelated as bs)
    (hf : ∀ a, unrelated a → unrelated' (f a)) : Extended unrelated' (as.map f) (bs.map f) := by
  induction h with
  | nil => exact .nil
  | keep a _ ih => exact .keep (f a) ih
  | add hb _ ih => exact .add (hf _ hb) ih

/-- What is read of related elements stays the same. -/
theorem filterMap_eq {f : α → Option β} (h : Extended unrelated as bs)
    (hf : ∀ a, unrelated a → f a = none) : bs.filterMap f = as.filterMap f := by
  induction h with
  | nil => rfl
  | keep a _ ih => rw [List.filterMap_cons, List.filterMap_cons, ih]
  | add hb _ ih => rw [List.filterMap_cons_none (hf _ hb), ih]

/-- A selection of related elements stays the same. -/
theorem filter_eq {p : α → Bool} (h : Extended unrelated as bs)
    (hp : ∀ a, unrelated a → p a = false) : bs.filter p = as.filter p := by
  induction h with
  | nil => rfl
  | keep a _ ih => rw [List.filter_cons, List.filter_cons, ih]
  | add hb _ ih => rw [List.filter_cons_of_neg (by simp [hp _ hb]), ih]

end Extended

namespace ConsistencyChecker

variable (checker : ConsistencyChecker)

/-- A fact that is not about the subject of a conflict, which is the object that changes hands
or the character that is in two places. -/
def Unrelated (conflict : ConsistencyConflict) (fact : FactEvidence) : Prop :=
  if conflict.ruleCode = .objectPossession then
    checker.normalizer.object fact.object ≠ checker.normalizer.object conflict.subject
  else checker.normalizer.subject fact.subject ≠ checker.normalizer.subject conflict.subject

/-- A fact that explains a conflict to the checker: a transfer, or for a conflict of locations
any movement. -/
def explains (conflict : ConsistencyConflict) (fact : FactEvidence) : Bool :=
  if conflict.ruleCode = .objectPossession then
    checker.normalizer.predicate fact.predicate == "transfer"
  else transitionPredicates.contains (checker.normalizer.predicate fact.predicate)

instance (conflict : ConsistencyConflict) (fact : FactEvidence) :
    Decidable (checker.Unrelated conflict fact) := by unfold Unrelated; infer_instance

variable {checker} {request : ConsistencyCheckRequest} {finding : Finding}
  {conflict : ConsistencyConflict} {facts : List FactEvidence}

/-! ### What a conflict is about -/

/-- The subject of a fact is written as it is. -/
theorem Reports.written_subject {rule : Rule} {severity : ConflictSeverity} {fact : FactEvidence}
    {description : String} (h : Reports finding rule severity fact.subject description) :
    (checker.written request finding).subject = fact.subject := by
  rw [written, h.subject]
  exact fact.stripped _ (by simp)

/-- The object of a fact is written as it is. -/
theorem Reports.written_object {rule : Rule} {severity : ConflictSeverity} {fact : FactEvidence}
    {description : String} (h : Reports finding rule severity fact.object description) :
    (checker.written request finding).subject = fact.object := by
  rw [written, h.subject]
  exact fact.stripped _ (by simp)

/-- A conflict of locations is about the subject whose locations differ. -/
theorem subject_of_location (request : ConsistencyCheckRequest) {new : List FactEvidence}
    {subject : String}
    (h : locationConflict (locations (new.map checker.normalizer.normalize) subject) =
      some finding) :
    checker.normalizer.subject (checker.written request finding).subject = subject := by
  obtain ⟨item, hitem, hsubject, hreports⟩ := locationConflict_locations h
  obtain ⟨fact, -, rfl⟩ := List.mem_map.mp hitem
  rw [hreports.written_subject]
  exact hsubject

/-- What is found of the holders of an object is about that object. -/
theorem object_of_possession (request : ConsistencyCheckRequest) {fact : FactEvidence}
    {holder : Option NormalizedFact}
    (h : possessionConflict (checker.normalizer.normalize fact) holder = some finding) :
    (checker.written request finding).subject = fact.object :=
  (possessionConflict_reports h).written_object

/-! ### What stays -/

/-- The first conflict of a key among those of a rule. -/
def first (checker : ConsistencyChecker) (request : ConsistencyCheckRequest)
    (conflict : ConsistencyConflict) (found : List Finding) : Option ConsistencyConflict :=
  (found.map (checker.written request)).find? fun other =>
    checker.key other = checker.key conflict

/-- The first conflict of a key was found. -/
theorem mem_of_first {found : List Finding} {other : ConsistencyConflict}
    (h : first checker request conflict found = some other) :
    ∃ finding ∈ found, checker.written request finding = other ∧
      checker.key other = checker.key conflict := by
  obtain ⟨finding, hfinding, hwritten⟩ := List.mem_map.mp (List.mem_of_find?_eq_some h)
  exact ⟨finding, hfinding, hwritten, by simpa using List.find?_some h⟩

/-- A conflict of locations is kept if nothing moves. -/
theorem location_kept {new : List FactEvidence}
    (h : first checker request conflict
      (locationConflicts (new.map checker.normalizer.normalize)) = some conflict)
    (hextended : Extended (fun fact => checker.normalizer.subject fact.subject ≠
      checker.normalizer.subject conflict.subject) new facts) :
    first checker request conflict
        (locationConflicts (facts.map checker.normalizer.normalize)) = some conflict ↔
      ∀ fact ∈ facts,
        transitionPredicates.contains (checker.normalizer.predicate fact.predicate) = false := by
  constructor
  · intro hfirst fact hfact
    obtain ⟨_, hfinding, -⟩ := mem_of_first hfirst
    exact (mem_locationConflicts.mp hfinding).1 _ (List.mem_map_of_mem hfact)
  · intro hstay
    obtain ⟨finding, hfinding, rfl, -⟩ := mem_of_first h
    obtain ⟨-, subject, hlocation⟩ := mem_locationConflicts.mp hfinding
    have hsubject := subject_of_location request hlocation
    -- the facts that locate the subject are the same ones
    have hlocations : locations (facts.map checker.normalizer.normalize) subject =
        locations (new.map checker.normalizer.normalize) subject := by
      have hmapped : Extended (fun item : NormalizedFact => item.subject ≠ subject)
          (new.map checker.normalizer.normalize) (facts.map checker.normalizer.normalize) :=
        hextended.map fun fact hne => hsubject ▸ hne
      refine hmapped.filter_eq fun item hne => ?_
      rw [beq_eq_false_iff_ne.mpr hne, Bool.and_false]
    have hfound : finding ∈ locationConflicts (facts.map checker.normalizer.normalize) := by
      refine mem_locationConflicts.mpr ⟨fun item hitem => ?_, subject, hlocations ▸ hlocation⟩
      obtain ⟨fact, hfact, rfl⟩ := List.mem_map.mp hitem
      exact hstay fact hfact
    cases hfirst : first checker request (checker.written request finding)
        (locationConflicts (facts.map checker.normalizer.normalize)) with
    | none =>
        have hnone := List.find?_eq_none.mp hfirst _ (List.mem_map_of_mem hfound)
        simp at hnone
    | some other =>
        -- another conflict with this key is about the same subject
        obtain ⟨finding', hfinding', rfl, hkey⟩ := mem_of_first hfirst
        obtain ⟨-, subject', hlocation'⟩ := mem_locationConflicts.mp hfinding'
        have hsame : subject' = subject := by
          rw [← hsubject, ← subject_of_location request hlocation']
          exact checker.normalizer.subject_congr _ _ (congrArg (·.2.1) hkey)
        rw [hsame, hlocations, hlocation] at hlocation'
        rw [Option.some.inj hlocation']

/-- A conflict of holders is kept if nothing is transferred. -/
theorem possession_kept {new : List FactEvidence} {history : List NormalizedFact}
    (h : first checker request conflict
      (possessionConflicts (new.map checker.normalizer.normalize) history) = some conflict)
    (hextended : Extended (fun fact => checker.normalizer.object fact.object ≠
      checker.normalizer.object conflict.subject) new facts) :
    first checker request conflict
        (possessionConflicts (facts.map checker.normalizer.normalize) history) = some conflict ↔
      ∀ fact ∈ facts, checker.normalizer.predicate fact.predicate ≠ "transfer" := by
  have hnone : ∀ {facts : List FactEvidence},
      (∀ fact ∈ facts, checker.normalizer.predicate fact.predicate ≠ "transfer") →
        possessionConflicts (facts.map checker.normalizer.normalize) history =
          facts.filterMap fun fact => possessionConflict (checker.normalizer.normalize fact)
            ((oldHolders history).lookup (checker.normalizer.object fact.object)) := by
    intro facts hstay
    rw [possessionConflicts, if_neg, List.filterMap_map]
    · rfl
    · intro htransfer
      obtain ⟨item, hitem, hpredicate⟩ := List.any_eq_true.mp htransfer
      obtain ⟨fact, hfact, rfl⟩ := List.mem_map.mp hitem
      exact hstay fact hfact (beq_iff_eq.mp hpredicate)
  constructor
  · intro hfirst fact hfact
    obtain ⟨_, hfinding, -⟩ := mem_of_first hfirst
    exact (mem_possessionConflicts.mp hfinding).1 _ (List.mem_map_of_mem hfact)
  · intro hstay
    have hnew : ∀ fact ∈ new, checker.normalizer.predicate fact.predicate ≠ "transfer" := by
      intro fact hfact
      obtain ⟨_, hfinding, -⟩ := mem_of_first h
      exact (mem_possessionConflicts.mp hfinding).1 _ (List.mem_map_of_mem hfact)
    rw [hnone hnew] at h
    rw [hnone hstay, ← h, first, first, List.find?_map, List.find?_map, ← List.head?_filter,
      ← List.head?_filter, List.filter_filterMap, List.filter_filterMap]
    rw [hextended.filterMap_eq]
    intro fact hne
    cases hfound : possessionConflict (checker.normalizer.normalize fact)
        ((oldHolders history).lookup (checker.normalizer.object fact.object)) with
    | none => rfl
    | some finding =>
        refine Option.filter_eq_none_iff.mpr fun other hother hkey => hne ?_
        obtain rfl := Option.some.inj hother
        have hfold := congrArg (·.2.1) (of_decide_eq_true hkey)
        rw [← object_of_possession request hfound]
        exact checker.normalizer.object_congr _ _ hfold

/-- A conflict stays exactly when no fact explains it to the checker. -/
theorem conflict_stays_iff {result : ConsistencyCheckResult}
    (hcheck : checker.check request = .ok result) (hmem : conflict ∈ result.conflicts)
    (hrule : conflict.ruleCode = .locationConflict ∨ conflict.ruleCode = .objectPossession)
    (hextended : Extended (checker.Unrelated conflict) request.newFacts facts) :
    (∃ result', checker.check { request with newFacts := facts } = .ok result' ∧
        conflict ∈ result'.conflicts) ↔
      ∀ fact ∈ facts, checker.explains conflict fact = false := by
  obtain ⟨hwritable, rfl⟩ := check_eq_ok.mp hcheck
  have hstays : (∃ result', checker.check { request with newFacts := facts } = .ok result' ∧
      conflict ∈ result'.conflicts) ↔
        first checker request conflict
          (checker.findingsOf { request with newFacts := facts } conflict.ruleCode) =
            some conflict := by
    constructor
    · rintro ⟨result', hcheck', hmem'⟩
      obtain ⟨-, rfl⟩ := check_eq_ok.mp hcheck'
      exact mem_deduplicate.mp hmem'
    · intro hfirst
      exact ⟨_, check_eq_ok.mpr ⟨writable_newFacts hwritable, rfl⟩, mem_deduplicate.mpr hfirst⟩
  have hfirst := mem_deduplicate.mp hmem
  rw [hstays]
  rcases hrule with hlocation | hpossession
  · rw [hlocation] at hfirst ⊢
    have hunrelated : checker.Unrelated conflict = fun fact =>
        checker.normalizer.subject fact.subject ≠
          checker.normalizer.subject conflict.subject := by
      funext fact
      rw [Unrelated, hlocation, if_neg (by decide)]
    rw [hunrelated] at hextended
    refine (location_kept hfirst hextended).trans (forall₂_congr fun fact _ => ?_)
    rw [explains, hlocation, if_neg (by decide)]
  · rw [hpossession] at hfirst ⊢
    have hunrelated : checker.Unrelated conflict = fun fact =>
        checker.normalizer.object fact.object ≠
          checker.normalizer.object conflict.subject := by
      funext fact
      rw [Unrelated, hpossession, if_pos rfl]
    rw [hunrelated] at hextended
    refine (possession_kept hfirst hextended).trans (forall₂_congr fun fact _ => ?_)
    rw [explains, hpossession, if_pos rfl, beq_eq_false_iff_ne]

/-! ### Instances -/

/-- Ann is at home and at the port. -/
def twoPlaces : List FactEvidence :=
  [.plain 2 "ann" "location" "home" (by decide +kernel) (by decide +kernel),
    .plain 2 "ann" "location" "port" (by decide +kernel) (by decide +kernel)]

/-- Someone else moves. -/
def bobMoves : FactEvidence :=
  .plain 2 "bob" "moves" "port" (by decide +kernel) (by decide +kernel)

/-- Someone else speaks. -/
def bobSpeaks : FactEvidence :=
  .plain 2 "bob" "speaks" "softly" (by decide +kernel) (by decide +kernel)

/-- The conflict of the two places. -/
def twoPlacesConflict : ConsistencyConflict where
  conflictType := .location
  severity := .high
  subject := "ann"
  description := "A character is placed in incompatible locations without movement."
  newEvidence := "home; port"
  existingEvidence := none
  existingFactId := none
  chapterNumber := 2
  suggestedResolution := "Add a movement transition or correct one location fact."
  confidence := 1
  ruleCode := .locationConflict

/-- A movement of someone else hides that Ann is in two places. -/
theorem conflict_masked :
    (∃ result, plain.check (.ofFacts 2 twoPlaces []) = .ok result ∧
      twoPlacesConflict ∈ result.conflicts) ∧
    Extended (plain.Unrelated twoPlacesConflict) twoPlaces (twoPlaces ++ [bobMoves]) ∧
    ∃ result', plain.check (.ofFacts 2 (twoPlaces ++ [bobMoves]) []) = .ok result' ∧
      twoPlacesConflict ∉ result'.conflicts := by
  refine ⟨⟨plain.result [twoPlacesConflict], by decide +kernel, List.mem_singleton_self _⟩,
    .keep _ (.keep _ (.add (by decide +kernel) .nil)), plain.result [], by decide +kernel, ?_⟩
  exact List.not_mem_nil

/-- What someone else says does not hide it. -/
theorem conflict_stays_speech :
    ∃ result, plain.check (.ofFacts 2 (twoPlaces ++ [bobSpeaks]) []) = .ok result ∧
      twoPlacesConflict ∈ result.conflicts := by
  have hcheck : plain.check (.ofFacts 2 twoPlaces []) = .ok (plain.result [twoPlacesConflict]) := by
    decide +kernel
  refine (conflict_stays_iff hcheck (List.mem_singleton_self _) (.inl rfl)
    (.keep _ (.keep _ (.add ?_ .nil)))).mpr ?_
  · decide +kernel
  · decide +kernel

end ConsistencyChecker

end StoryForge.Consistency
