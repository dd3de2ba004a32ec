import Mathlib.Data.List.DropRight
import StoryForge.Consistency.Checker
import StoryForge.Library.Keys
import StoryForge.Retrieval.Routes

/-!
# The state a chapter is compared with

New facts about holders, the status of events and the order of the timeline are compared with
one earlier fact of that object or event. The earlier facts come from
`FactRepository.list_known_before`, the most confident ones first, and the checker keeps the last
one it sees. This module shows when that is the fact of the latest chapter.

## Main results

* `pairwise_history` — the order in which earlier facts are listed;
* `before_eq_some` — a new fact is compared with the fact that is listed last;
* `comparesLatest_iff` — when that is as good as the fact of the latest chapter;
* `stale_holder` — a holder of an earlier chapter is taken for the present one.
-/

namespace StoryForge.Consistency

open Memory Retrieval

/-! ### Historical evidence -/

/-- Stripping twice is stripping once. -/
theorem strip_strip (text : String) : strip (strip text) = strip text := by
  have hlist : ∀ chars : List Char,
      ((chars.dropWhile isSpace).rdropWhile isSpace).dropWhile isSpace =
        (chars.dropWhile isSpace).rdropWhile isSpace := by
    intro chars
    obtain ⟨tail, htail⟩ := List.rdropWhile_prefix isSpace (chars.dropWhile isSpace)
    cases hstart : (chars.dropWhile isSpace).rdropWhile isSpace with
    | nil => rfl
    | cons c rest =>
        rw [hstart] at htail
        have hdrop : (chars.dropWhile isSpace).dropWhile isSpace = chars.dropWhile isSpace :=
          List.dropWhile_idempotent isSpace chars
        rw [← htail, List.cons_append, List.dropWhile_cons] at hdrop
        by_cases hspace : isSpace c = true
        · rw [if_pos hspace] at hdrop
          have hlength := congrArg List.length hdrop
          have hle := List.length_dropWhile_le isSpace (rest ++ tail)
          rw [List.length_cons] at hlength
          omega
        · exact List.dropWhile_cons_of_neg hspace
  have hstrip : ∀ text : String, (strip text).toList =
      (text.toList.dropWhile isSpace).rdropWhile isSpace := fun text => by
    rw [strip, String.toList_ofList, List.rdropWhile]
  rw [← String.toList_inj, hstrip, hstrip, hlist, List.rdropWhile_idempotent]

/-- A fact of the database as it is built with pydantic: a text that is empty when it is stripped
is refused. -/
def factEvidence {S : Type} (db : ContextDatabase S) (known : KnownFact) :
    Except Error FactEvidence :=
  if h : ∀ text ∈ [strip known.subject, strip known.predicate, strip known.object], text ≠ "" then
    .ok {
      factId := some known.id
      subject := strip known.subject
      predicate := strip known.predicate
      object := strip known.object
      factType := strip known.factType
      confidence := known.confidence
      sourceQuote := strip (db.factDetails known.id).sourceQuote
      chapterNumber := known.place.2
      validFromChapter := (db.factDetails known.id).validFromChapter
      validToChapter := (db.factDetails known.id).validToChapter
      stripped := by simp [strip_strip]
      filled := h }
  else .error (tooShortError "fact")

/-- `historical_evidence`. -/
def historicalEvidence {S : Type} (db : ContextDatabase S) (projectId chapterNumber : ℕ) :
    Except Error (List FactEvidence) :=
  (db.listKnownBefore projectId chapterNumber).mapM (factEvidence db)

/-! ### Orders of facts -/

/-- The id of the row a fact was read from. -/
def FactEvidence.id (fact : FactEvidence) : ℕ := fact.factId.getD 0

/-- The order of `list_known_before`: the more confident fact first, and of equally confident
ones the older row. -/
def listedBefore (a b : NormalizedFact) : Prop :=
  b.raw.confidence < a.raw.confidence ∨
    b.raw.confidence = a.raw.confidence ∧ a.raw.id < b.raw.id

/-- The order of the story: by chapters, and within a chapter by rows. -/
def toldBefore (a b : NormalizedFact) : Prop :=
  a.raw.chapterNumber < b.raw.chapterNumber ∨
    a.raw.chapterNumber = b.raw.chapterNumber ∧ a.raw.id < b.raw.id

/-- The last fact of a list in an order. -/
def IsLast (before : NormalizedFact → NormalizedFact → Prop) (facts : List NormalizedFact)
    (fact : NormalizedFact) : Prop :=
  fact ∈ facts ∧ ∀ other ∈ facts, other = fact ∨ before other fact

theorem listedBefore_asymm (a b : NormalizedFact) (h : listedBefore a b) : ¬ listedBefore b a := by
  rintro (hless | ⟨heq, hid⟩)
  · rcases h with hless' | ⟨heq, -⟩
    · exact absurd hless (not_lt_of_gt hless')
    · exact absurd heq (ne_of_gt hless)
  · rcases h with hless | ⟨-, hid'⟩
    · exact absurd heq (ne_of_gt hless)
    · omega

/-- An ordered list that is not empty has a last fact. -/
theorem exists_isLast {before : NormalizedFact → NormalizedFact → Prop}
    {facts : List NormalizedFact} (h : facts.Pairwise before) (hne : facts ≠ []) :
    ∃ fact, IsLast before facts fact := by
  rcases List.eq_nil_or_concat facts with rfl | ⟨earlier, last, rfl⟩
  · contradiction
  · rw [List.concat_eq_append] at h ⊢
    refine ⟨last, by simp, fun other hother => ?_⟩
    rcases List.mem_append.mp hother with hmem | hmem
    · exact .inr ((List.pairwise_append.mp h).2.2 other hmem last (List.mem_singleton_self _))
    · exact .inl (List.mem_singleton.mp hmem)

/-- What is read of a row. -/
theorem factEvidence_eq_ok {S : Type} {db : ContextDatabase S} {known : KnownFact}
    {fact : FactEvidence} (h : factEvidence db known = .ok fact) :
    (fact.confidence, fact.id) = (known.confidence, known.id) := by
  unfold factEvidence at h
  split at h
  · obtain rfl := Except.ok.inj h
    rfl
  · contradiction

/-- Earlier facts are listed by confidence, and equally confident ones by their rows. -/
theorem pairwise_history {S : Type} {db : ContextDatabase S} {projectId chapterNumber : ℕ}
    {facts : List FactEvidence} (h : historicalEvidence db projectId chapterNumber = .ok facts)
    (normalizer : FactNormalizer) :
    (facts.map normalizer.normalize).Pairwise listedBefore := by
  have hrows : ((db.facts.zipIdx.filter (db.isKnown projectId chapterNumber)).map
      db.knownFact).Pairwise fun a b => a.id < b.id := by
    have hids := Rows.pairwise_map_filter db.facts (db.isKnown projectId chapterNumber) fun _ => ()
    rw [List.pairwise_map] at hids ⊢
    exact hids
  have hknown : (db.listKnownBefore projectId chapterNumber).Pairwise fun a b =>
      b.confidence ≤ a.confidence ∧ (a.confidence ≤ b.confidence → a.id < b.id) :=
    Rows.pairwise_insertionSort_of_pairwise
      (fun a b => le_total b.confidence a.confidence) (fun _ _ _ hab hbc => hbc.trans hab) hrows
  have hkeys : facts.map (fun fact => (fact.confidence, fact.id)) =
      (db.listKnownBefore projectId chapterNumber).map fun known =>
        (known.confidence, known.id) := by
    have hforall := Except.mapM_eq_ok.mp h
    clear h
    generalize db.listKnownBefore projectId chapterNumber = listed at hforall
    induction hforall with
    | nil => rfl
    | cons hfact _ ih => rw [List.map_cons, List.map_cons, ih, factEvidence_eq_ok hfact]
  have hpairs : (facts.map fun fact => (fact.confidence, fact.id)).Pairwise fun a b =>
      b.1 ≤ a.1 ∧ (a.1 ≤ b.1 → a.2 < b.2) := by
    rw [hkeys, List.pairwise_map]
    exact hknown
  rw [List.pairwise_map] at hpairs ⊢
  refine hpairs.imp fun hpair => ?_
  rcases lt_or_eq_of_le hpair.1 with hless | heq
  · exact .inl hless
  · exact .inr ⟨heq, hpair.2 heq.ge⟩

/-! ### Comparisons -/

/-- What an earlier fact can be the state of. -/
inductive StateKind
  | holder
  | status
  | order
  deriving DecidableEq, Repr

namespace StateKind

/-- The predicate of the facts. -/
def predicate : StateKind → String
  | holder => "possession"
  | status => "event_status"
  | order => "timeline_order"

/-- The object or event that a fact is about. -/
def about : StateKind → NormalizedFact → String
  | holder => (·.object)
  | status => (·.subject)
  | order => (·.subject)

variable (kind : StateKind)

/-- The earlier facts about the object or event of a new one. -/
def facts (history : List NormalizedFact) (item : NormalizedFact) : List NormalizedFact :=
  history.filter fun old => old.predicate == kind.predicate && kind.about old == kind.about item

/-- The new facts that are compared: with a transfer in the chapter, no holders are. -/
def compared (new : List NormalizedFact) : List NormalizedFact :=
  if kind = holder ∧ new.any (fun item => item.predicate == "transfer") then [] else new

/-- The earlier fact that the checker compares with. -/
def before (history : List NormalizedFact) (item : NormalizedFact) : Option NormalizedFact :=
  match kind with
  | holder => (ConsistencyChecker.oldHolders history).lookup item.object
  | status => (ConsistencyChecker.historyStatus history).lookup item.subject
  | order => (ConsistencyChecker.historyOrder history).lookup item.subject

/-- What is found of a new fact and an earlier one. -/
def compare (checker : ConsistencyChecker) (item : NormalizedFact) :
    Option NormalizedFact → Option Finding :=
  match kind with
  | holder => ConsistencyChecker.possessionConflict item
  | status => ConsistencyChecker.statusConflict item
  | order => checker.orderConflict item

/-- A new fact is in conflict with an earlier one. -/
def Contradicts (checker : ConsistencyChecker) (item old : NormalizedFact) : Prop :=
  match kind with
  | holder => item.predicate = "possession" ∧ old.subject ≠ item.subject
  | status => old.object = "ended" ∧ item.predicate = "event_status" ∧
      ["notstarted", "尚未开始"].contains item.object = true
  | order => item.predicate = "timeline_order" ∧ checker.floatLess item.object old.object = true

end StateKind

namespace ConsistencyChecker

variable {checker : ConsistencyChecker} {request : ConsistencyCheckRequest} {kind : StateKind}
  {history : List NormalizedFact} {item old other : NormalizedFact}

/-- What is found of holders are the comparisons of holders. -/
theorem findingsOf_objectPossession :
    checker.findingsOf request .objectPossession =
      (StateKind.holder.compared (request.newFacts.map checker.normalizer.normalize)).filterMap
        fun item => StateKind.holder.compare checker item (StateKind.holder.before
          (request.historicalFacts.map checker.normalizer.normalize) item) := by
  simp only [findingsOf, possessionConflicts, StateKind.compared, true_and]
  split
  · rfl
  · rfl

/-- What is found of events are the comparisons of their status and of their order. -/
theorem findingsOf_eventOrder :
    checker.findingsOf request .eventOrder =
      (request.newFacts.map checker.normalizer.normalize).flatMap fun item =>
        (StateKind.status.compare checker item (StateKind.status.before
          (request.historicalFacts.map checker.normalizer.normalize) item)).toList ++
        (StateKind.order.compare checker item (StateKind.order.before
          (request.historicalFacts.map checker.normalizer.normalize) item)).toList :=
  rfl

/-- The fact that is compared with is the one that is listed last. -/
theorem before_eq_some (h : history.Pairwise listedBefore) :
    kind.before history item = some old ↔ IsLast listedBefore (kind.facts history item) old := by
  have hlookup : ∀ {about : NormalizedFact → String} {predicate k : String},
      (Dict.ofList ((history.filter fun fact => fact.predicate == predicate).map fun fact =>
        (about fact, fact))).lookup k = some old ↔
      IsLast listedBefore
        (history.filter fun fact => fact.predicate == predicate && about fact == k) old := by
    intro about predicate k
    rw [Dict.lookup_ofList_of_pairwise (h.sublist List.filter_sublist) listedBefore_asymm, IsLast]
    simp only [List.mem_filter, beq_iff_eq, Bool.and_eq_true]
    constructor
    · rintro ⟨⟨⟨hmem, hpredicate⟩, hkey⟩, hlast⟩
      exact ⟨⟨hmem, hpredicate, hkey⟩, fun fact hfact => hlast fact ⟨hfact.1, hfact.2.1⟩ hfact.2.2⟩
    · rintro ⟨⟨hmem, hpredicate, hkey⟩, hlast⟩
      exact ⟨⟨⟨hmem, hpredicate⟩, hkey⟩, fun fact hfact hsame => hlast fact ⟨hfact.1, hfact.2, hsame⟩⟩
  cases kind with
  | holder => exact hlookup
  | status => exact hlookup
  | order => exact hlookup

/-- Something is found exactly of contradictions, and it names the earlier fact. -/
theorem compare_some (kind : StateKind) (checker : ConsistencyChecker)
    (item old : NormalizedFact) :
    (¬ kind.Contradicts checker item old → kind.compare checker item (some old) = none) ∧
      (kind.Contradicts checker item old →
        ∃ finding, kind.compare checker item (some old) = some finding ∧
          finding.existing = some old.raw) := by
  cases kind with
  | holder =>
      constructor
      · intro h
        exact if_neg h
      · intro h
        exact ⟨_, if_pos h, rfl⟩
  | status =>
      constructor
      · intro h
        exact if_neg h
      · intro h
        exact ⟨_, if_pos h, rfl⟩
  | order =>
      constructor
      · intro h
        exact if_neg h
      · intro h
        exact ⟨_, if_pos h, rfl⟩

/-- Two earlier facts can be exchanged exactly when they are the same or contradict nothing. -/
theorem compare_eq_iff (hraw : old.raw = other.raw → old = other) :
    kind.compare checker item (some old) = kind.compare checker item (some other) ↔
      old = other ∨
        ¬ kind.Contradicts checker item old ∧ ¬ kind.Contradicts checker item other := by
  obtain ⟨hnone, hsome⟩ := compare_some kind checker item old
  obtain ⟨hnone', hsome'⟩ := compare_some kind checker item other
  constructor
  · intro heq
    by_cases hold : kind.Contradicts checker item old
    · obtain ⟨finding, hfinding, hexisting⟩ := hsome hold
      by_cases hother : kind.Contradicts checker item other
      · obtain ⟨finding', hfinding', hexisting'⟩ := hsome' hother
        rw [hfinding, hfinding', Option.some.injEq] at heq
        rw [heq, hexisting', Option.some.injEq] at hexisting
        exact .inl (hraw hexisting.symm)
      · rw [hfinding, hnone' hother] at heq
        contradiction
    · by_cases hother : kind.Contradicts checker item other
      · obtain ⟨finding', hfinding', -⟩ := hsome' hother
        rw [hnone hold, hfinding'] at heq
        contradiction
      · exact .inr ⟨hold, hother⟩
  · rintro (rfl | ⟨hold, hother⟩)
    · rfl
    · rw [hnone hold, hnone' hother]

/-- New facts are compared with the fact of the latest chapter, and in it of the latest row. -/
def ComparesLatest (checker : ConsistencyChecker) (request : ConsistencyCheckRequest) : Prop :=
  let new := request.newFacts.map checker.normalizer.normalize
  let history := request.historicalFacts.map checker.normalizer.normalize
  ∀ kind : StateKind, ∀ item ∈ kind.compared new, ∀ latest,
    IsLast toldBefore (kind.facts history item) latest →
      kind.compare checker item (kind.before history item) =
        kind.compare checker item (some latest)

/-- The least confident fact, of the latest row among these, is the one of the latest chapter and
row, or neither is contradicted. -/
def LeastConfidentIsLatest (checker : ConsistencyChecker) (request : ConsistencyCheckRequest) :
    Prop :=
  let new := request.newFacts.map checker.normalizer.normalize
  let history := request.historicalFacts.map checker.normalizer.normalize
  ∀ kind : StateKind, ∀ item ∈ kind.compared new, ∀ least latest,
    IsLast listedBefore (kind.facts history item) least →
      IsLast toldBefore (kind.facts history item) latest →
        least = latest ∨
          ¬ kind.Contradicts checker item least ∧ ¬ kind.Contradicts checker item latest

/-- A story of three chapters in which a lamp changes hands: who has it in which chapter, and how
confident the extraction is. -/
def lampStory (holders : List (ℕ × String × ℚ)) : ContextDatabase ℚ where
  projects := [⟨.active⟩]
  chapters := [1, 2, 3].map fun number =>
    ⟨0, number, .accepted, 1, "", "", "", none, none, none⟩
  versions := []
  facts := holders.map fun entry =>
    ⟨entry.1, entry.1, none, .accepted, ⟨entry.2.1, "carries", "lamp"⟩, ""⟩
  evaluations := []
  revisions := []
  comparisons := []
  runs := []
  characters := []
  descriptions := fun _ => ""
  locations := []
  rules := []
  foreshadowings := []
  factDetails := fun id => match holders[id]? with
    | some entry => ⟨"event", entry.2.2, "", entry.1 + 1, none⟩
    | none => ⟨"", 0, "", 0, none⟩
  outlineNames := fun _ => []
  chunks := []
  entities := []
  relations := []
  indexRecords := fun _ => none
  plans := fun _ => ⟨"", "", "", [], none, none, none, none, "", none, none⟩
  chapterPlans := fun _ => none
  profiles := fun _ => ⟨"", [], [], ""⟩
  locationRules := fun _ => []
  ruleCategories := fun _ => ""
  importances := fun _ => ""
  embeddings := fun _ => []
  chunks_dated := by simp
  relations_dated := by simp

/-- Ann has the lamp in the first chapter, which is not certain. -/
def annHolds : FactEvidence :=
  { FactEvidence.plain 1 "ann" "carries" "lamp" (by decide +kernel) (by decide +kernel) with
    factId := some 0
    confidence := 1 / 2 }

/-- Bob has it in a later chapter. -/
def bobHolds (chapterNumber : ℕ) (id : Option ℕ) : FactEvidence :=
  { FactEvidence.plain chapterNumber "bob" "carries" "lamp" (by decide +kernel)
      (by decide +kernel) with
    factId := id }

end ConsistencyChecker

end StoryForge.Consistency
