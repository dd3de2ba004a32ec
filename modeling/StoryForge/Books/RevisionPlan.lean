import Mathlib.Data.Prod.Lex
import Mathlib.Data.Rat.Floor
import Mathlib.Tactic.Linarith
import Mathlib.Tactic.Ring
import StoryForge.Books.Critique
import StoryForge.Library.Ranking

/-!
# `BookRevisionPlanner`

A revision round takes the few chapters with the severest issues. How many it takes is bounded by
what is left of the calls, the tokens and the costs of the run, which may be less than nothing.
A slice with a negative bound then leaves out chapters at the end instead of taking none.

Category names are folded by `casefold`. Costs have few enough digits for exact sums, products and
quotients.

## Main results

* `length_sliceTo` — how many items a slice has;
* `withinLimits_iff` — when a plan keeps within what is left;
* `mem_selected` — the chapters a plan takes;
* `executable_iff` — when a plan can be executed in its order;
* `overdrawn`, `out_of_order` — a plan that is not affordable, and one in the wrong order.
-/

namespace StoryForge

/-! ### Plans -/

/-- A planner. The source builds planners with an estimate of 12,000 tokens only. -/
structure BookRevisionPlanner where
  maximumChapters : ℕ
  estimatedTokensPerChapter : ℕ
  one_le_maximumChapters : 1 ≤ maximumChapters
  estimatedTokens_pos : 0 < estimatedTokensPerChapter

/-- What a plan is built for, but for the critique. -/
structure RevisionPlanRequest where
  snapshotId : ℕ
  revisionRound : ℤ
  totalChapters : ℤ
  blockingReasons : List String
  remainingCalls : ℤ
  remainingTokens : ℤ
  remainingCost : ℚ
  perCallCost : ℚ
  preserveFacts : List String

/-- A chapter to revise. -/
structure ChapterRevisionTaskData where
  chapterNumber : ℤ
  priority : ℕ
  issueCodes : List String
  objective : String
  requiredChanges : List String
  preserveFacts : List String
  affectedFutureChapters : List ℤ
  rerunGlobalChecks : List String
  one_le_chapterNumber : 1 ≤ chapterNumber
  one_le_priority : 1 ≤ priority

/-- A plan. -/
structure BookRevisionPlanData where
  bookSnapshotId : ℕ
  revisionRound : ℤ
  globalObjectives : List String
  chapterTasks : List ChapterRevisionTaskData
  dependencyOrder : List ℤ
  mustPreserve : List String
  globalConstraints : List String
  estimatedCalls : ℕ
  estimatedTokens : ℕ
  estimatedCost : ℚ
  one_le_revisionRound : 1 ≤ revisionRound
  estimatedCost_nonneg : 0 ≤ estimatedCost

namespace BookRevisionPlanner

open BookAnalysisService (severityRank chaptersOf)

/-! ### Building -/

/-- `_CATEGORY_RANK.get(category, 99)`. -/
def categoryRank (category : String) : ℕ :=
  ([("timeline", 1), ("knowledge", 2), ("ending", 3), ("foreshadowing", 4), ("character", 5),
    ("transition", 6), ("pacing", 7), ("repetition", 8)].lookup category).getD 99

/-- The key that issues are sorted by. -/
def sortKey (casefold : String → String) (totalChapters : ℤ) (issue : BookIssue) :
    ℕ ×ₗ ℕ ×ₗ ℤ ×ₗ String :=
  toLex (severityRank issue.severity, toLex (categoryRank (casefold issue.category),
    toLex ((issue.chapterNumbers.min?).getD (totalChapters + 1), issue.code)))

/-- The issues of a critique, the severest first. -/
def sortedIssues (casefold : String → String) (totalChapters : ℤ) (issues : List BookIssue) :
    List BookIssue :=
  issues.insertionSort fun a b =>
    sortKey casefold totalChapters a ≤ sortKey casefold totalChapters b

/-- `grouped`: the chapters of issues, each with the issues that name it. -/
def grouped (issues : List BookIssue) : List (ℤ × List BookIssue) :=
  Dict.group (issues.flatMap fun issue => issue.chapterNumbers.map fun chapter => (chapter, issue))

/-- The severity rank of a chapter: that of its severest issue. -/
def worst (issues : List BookIssue) : ℕ :=
  ((issues.map fun issue => severityRank issue.severity).min?).getD 0

/-- `ordered_chapters`. -/
def orderedChapters (groups : List (ℤ × List BookIssue)) : List ℤ :=
  (groups.map (·.1)).insertionSort fun a b =>
    toLex (worst ((groups.lookup a).getD []), a) ≤ toLex (worst ((groups.lookup b).getD []), b)

/-- `int(a // b)`, which drops the fraction. -/
def wholeQuotient (a b : ℚ) : ℤ := if 0 ≤ a / b then ⌊a / b⌋ else -⌊-(a / b)⌋

/-- `items[:stop]`: a negative bound counts from the end. -/
def sliceTo {α : Type} (stop : ℤ) (items : List α) : List α :=
  items.take (if 0 ≤ stop then stop.toNat else items.length - stop.natAbs)

variable (planner : BookRevisionPlanner) (request : RevisionPlanRequest)

/-- The bound of the chapters that a plan takes: `call_limit`, `token_limit` and `cost_limit`. -/
def limit : ℤ :=
  min (min (planner.maximumChapters : ℤ) (max 0 request.remainingCalls))
    (min (request.remainingTokens / planner.estimatedTokensPerChapter)
      (if 0 < request.perCallCost then wholeQuotient request.remainingCost request.perCallCost
        else planner.maximumChapters))

omit planner request in
/-- Positions are counted from one. -/
theorem one_le_position (entry : ℤ × ℕ) : 1 ≤ entry.2 + 1 := Nat.le_add_left 1 entry.2

/-- The task of a chapter, which must not be below the first. -/
def taskFor (groups : List (ℤ × List BookIssue)) (entry : ℤ × ℕ) :
    Except Error ChapterRevisionTaskData :=
  let issues := (groups.lookup entry.1).getD []
  let categories := Revision.sortedSet (issues.map (·.category))
  if h : 1 ≤ entry.1 then
    .ok {
      chapterNumber := entry.1
      priority := entry.2 + 1
      issueCodes := Revision.sortedSet (issues.map (·.code))
      objective := "; ".intercalate ((issues.take 2).map (·.description))
      requiredChanges := (issues.map (·.suggestion)).take 5
      preserveFacts := request.preserveFacts
      affectedFutureChapters :=
        (List.range (request.totalChapters - entry.1).toNat).map fun i : ℕ =>
          entry.1 + 1 + (i : ℤ)
      rerunGlobalChecks := if categories = [] then ["timeline", "character"] else categories
      one_le_chapterNumber := h
      one_le_priority := one_le_position entry }
  else .error (.other "ValidationError" "chapter_number")

/-- The chapters that a plan takes. -/
def selected (casefold : String → String) (issues : List BookIssue) : List ℤ :=
  sliceTo (limit planner request)
    (orderedChapters (grouped (sortedIssues casefold request.totalChapters issues)))

/-- `build`. -/
def build (casefold : String → String) (critique : BookCritique) :
    Except Error BookRevisionPlanData := do
  let groups := grouped (sortedIssues casefold request.totalChapters critique.globalIssues)
  let tasks ← (selected planner request casefold critique.globalIssues).zipIdx.mapM
    (taskFor request groups)
  let reasons := (request.blockingReasons.filter (· != "")).take 5
  if hround : 1 ≤ request.revisionRound then
    if hcost : 0 ≤ request.perCallCost * tasks.length then
      .ok {
        bookSnapshotId := request.snapshotId
        revisionRound := request.revisionRound
        globalObjectives := if reasons = [] then
            ["Resolve the highest-priority global issues without changing accepted canon."]
          else reasons
        chapterTasks := tasks
        dependencyOrder := tasks.map (·.chapterNumber)
        mustPreserve := request.preserveFacts
        globalConstraints :=
          ["Do not use future chapter facts while revising an earlier chapter.",
            "Do not replace accepted history until the revised version passes evaluation.",
            "Recheck every affected later chapter after an earlier chapter changes."]
        estimatedCalls := tasks.length
        estimatedTokens := tasks.length * planner.estimatedTokensPerChapter
        estimatedCost := request.perCallCost * tasks.length
        one_le_revisionRound := hround
        estimatedCost_nonneg := hcost }
    else .error (.other "ValidationError" "estimated_cost")
  else .error (.other "ValidationError" "revision_round")

/-! ### The chapters of a plan -/

section Chapters

variable {casefold : String → String} {totalChapters : ℤ} {issues : List BookIssue}
  {a b chapter : ℤ}

/-- How many items a slice has. -/
theorem length_sliceTo {α : Type} (stop : ℤ) (items : List α) :
    (sliceTo stop items).length =
      if 0 ≤ stop then min stop.toNat items.length else items.length - stop.natAbs := by
  rw [sliceTo, List.length_take]
  split
  · rfl
  · omega

/-- The severity rank of a chapter that issues name. -/
def chapterRank (issues : List BookIssue) (chapter : ℤ) : ℕ :=
  worst (issues.filter fun issue => issue.chapterNumbers.contains chapter)

/-- A chapter is revised sooner: its issues are severer, or as severe and it comes first. -/
def Sooner (issues : List BookIssue) (a b : ℤ) : Prop :=
  chapterRank issues a < chapterRank issues b ∨
    chapterRank issues a = chapterRank issues b ∧ a < b

instance : DecidableRel (Sooner issues) := fun a b =>
  inferInstanceAs (Decidable (chapterRank issues a < chapterRank issues b ∨
    chapterRank issues a = chapterRank issues b ∧ a < b))

theorem Sooner.asymm (h : Sooner issues a b) : ¬Sooner issues b a := by
  unfold Sooner at *
  omega

/-- The severest issue does not depend on the order of the issues, or on repetitions. -/
theorem worst_congr {issues issues' : List BookIssue}
    (h : ∀ issue, issue ∈ issues ↔ issue ∈ issues') : worst issues = worst issues' := by
  have hranks : ∀ rank, rank ∈ issues.map (fun issue => severityRank issue.severity) ↔
      rank ∈ issues'.map fun issue => severityRank issue.severity := by
    intro rank
    simp only [List.mem_map, h]
  have hmin : ∀ rank, (issues.map fun issue => severityRank issue.severity).min? = some rank ↔
      (issues'.map fun issue => severityRank issue.severity).min? = some rank := by
    intro rank
    rw [List.min?_eq_some_iff, List.min?_eq_some_iff]
    simp only [hranks]
  exact congrArg (Option.getD · 0) (Option.ext hmin)

theorem mem_sortedIssues {issue : BookIssue} :
    issue ∈ sortedIssues casefold totalChapters issues ↔ issue ∈ issues :=
  List.mem_insertionSort _

/-- A chapter has the issues that name it. -/
theorem mem_group {issue : BookIssue} :
    issue ∈ ((grouped issues).lookup chapter).getD [] ↔
      issue ∈ issues ∧ chapter ∈ issue.chapterNumbers := by
  rw [grouped, Dict.lookup_group]
  simp only [List.mem_map, List.mem_filter, List.mem_flatMap, decide_eq_true_eq]
  constructor
  · rintro ⟨entry, ⟨⟨other, hother, number, hnumber, rfl⟩, rfl⟩, rfl⟩
    exact ⟨hother, hnumber⟩
  · rintro ⟨hissue, hchapter⟩
    exact ⟨(chapter, issue), ⟨⟨issue, hissue, chapter, hchapter, rfl⟩, rfl⟩, rfl⟩

theorem worst_group (chapter : ℤ) :
    worst (((grouped (sortedIssues casefold totalChapters issues)).lookup chapter).getD []) =
      chapterRank issues chapter := by
  refine worst_congr fun issue => ?_
  rw [mem_group, mem_sortedIssues, List.mem_filter, List.contains_iff_mem]

/-- The chapters of a plan are taken from those that issues name. -/
theorem orderedChapters_perm (casefold : String → String) (totalChapters : ℤ)
    (issues : List BookIssue) :
    (orderedChapters (grouped (sortedIssues casefold totalChapters issues))).Perm
      (chaptersOf issues) := by
  have hnodup : (orderedChapters (grouped (sortedIssues casefold totalChapters issues))).Nodup :=
    (List.perm_insertionSort _ _).nodup_iff.mpr (Dict.nodup_keys_group _)
  have hnodup' : (chaptersOf issues).Nodup :=
    (List.perm_insertionSort _ _).nodup_iff.mpr (List.nodup_dedup _)
  refine (List.perm_ext_iff_of_nodup hnodup hnodup').mpr fun chapter => ?_
  rw [orderedChapters, List.mem_insertionSort, grouped, Dict.mem_keys_group,
    BookAnalysisService.mem_chaptersOf]
  simp only [List.mem_map, List.mem_flatMap, mem_sortedIssues]
  constructor
  · rintro ⟨entry, ⟨issue, hissue, number, hnumber, rfl⟩, rfl⟩
    exact ⟨issue, hissue, hnumber⟩
  · rintro ⟨issue, hissue, hchapter⟩
    exact ⟨(chapter, issue), ⟨issue, hissue, chapter, hchapter, rfl⟩, rfl⟩

/-- The chapters are in the order of their severities. -/
theorem pairwise_orderedChapters :
    (orderedChapters (grouped (sortedIssues casefold totalChapters issues))).Pairwise
      (Sooner issues) := by
  have hnodup : (orderedChapters (grouped (sortedIssues casefold totalChapters issues))).Nodup :=
    (List.perm_insertionSort _ _).nodup_iff.mpr (Dict.nodup_keys_group _)
  have hsorted := List.pairwise_insertionSort (fun a b : ℤ =>
    toLex (worst (((grouped (sortedIssues casefold totalChapters issues)).lookup a).getD []), a) ≤
      toLex (worst (((grouped (sortedIssues casefold totalChapters issues)).lookup b).getD []), b))
    ((grouped (sortedIssues casefold totalChapters issues)).map (·.1))
  refine (hsorted.and hnodup).imp ?_
  rintro a b ⟨hle, hne⟩
  rw [worst_group, worst_group, Prod.Lex.toLex_le_toLex] at hle
  rcases hle with hlt | ⟨heq, hle⟩
  · exact .inl hlt
  · exact .inr ⟨heq, lt_of_le_of_ne hle hne⟩

end Chapters

/-! ### Limits -/

section Limits

variable {planner : BookRevisionPlanner} {request : RevisionPlanRequest}
  {casefold : String → String} {critique : BookCritique} {issues : List BookIssue}
  {plan : BookRevisionPlanData}

theorem taskFor_eq_ok {groups : List (ℤ × List BookIssue)} {entry : ℤ × ℕ}
    {task : ChapterRevisionTaskData} (h : taskFor request groups entry = .ok task) :
    task.chapterNumber = entry.1 ∧ ∀ future, future ∈ task.affectedFutureChapters ↔
      task.chapterNumber < future ∧ future ≤ request.totalChapters := by
  unfold taskFor at h
  dsimp only at h
  split at h
  · obtain rfl := Except.ok.inj h
    refine ⟨rfl, fun future => ?_⟩
    simp only [List.mem_map, List.mem_range]
    constructor
    · rintro ⟨i, hi, rfl⟩
      omega
    · rintro ⟨hlt, hle⟩
      exact ⟨(future - entry.1 - 1).toNat, by omega, by omega⟩
  · contradiction

/-- What a plan says of the chapters it takes. -/
structure Plans (request : RevisionPlanRequest) (taken : List ℤ) (tokensPerChapter : ℕ)
    (plan : BookRevisionPlanData) : Prop where
  chapters : plan.chapterTasks.map (·.chapterNumber) = taken
  order : plan.dependencyOrder = taken
  calls : plan.estimatedCalls = taken.length
  tokens : plan.estimatedTokens = taken.length * tokensPerChapter
  cost : plan.estimatedCost = request.perCallCost * taken.length
  affected : ∀ task ∈ plan.chapterTasks, ∀ future, future ∈ task.affectedFutureChapters ↔
    task.chapterNumber < future ∧ future ≤ request.totalChapters

theorem build_eq_ok (h : build planner request casefold critique = .ok plan) :
    Plans request (selected planner request casefold critique.globalIssues)
      planner.estimatedTokensPerChapter plan := by
  obtain ⟨tasks, htasks, h⟩ := Except.bind_eq_ok.mp h
  have hchapters : tasks.map (·.chapterNumber) =
      selected planner request casefold critique.globalIssues := by
    rw [Except.map_of_mapM htasks fun entry task htask => (taskFor_eq_ok htask).1,
      List.zipIdx_map_fst]
  have hlength : tasks.length =
      (selected planner request casefold critique.globalIssues).length := by
    rw [← hchapters, List.length_map]
  dsimp only at h
  split at h
  · split at h
    · obtain rfl := Except.ok.inj h
      refine ⟨hchapters, hchapters, hlength, congrArg (· * _) hlength,
        congrArg (fun count : ℕ => request.perCallCost * count) hlength, fun task htask => ?_⟩
      obtain ⟨entry, -, hentry⟩ := Except.exists_of_mem_mapM htasks htask
      exact (taskFor_eq_ok hentry).2
    · contradiction
  · contradiction

/-- How many chapters a plan takes of those that issues name. -/
def room (planner : BookRevisionPlanner) (request : RevisionPlanRequest) (named : ℕ) : ℕ :=
  if 0 ≤ limit planner request then min (limit planner request).toNat named
  else named - (limit planner request).natAbs

theorem length_selected :
    (selected planner request casefold issues).length =
      room planner request (chaptersOf issues).length := by
  rw [selected, length_sliceTo, (orderedChapters_perm _ _ _).length_eq, room]

/-- A quotient without its fraction is that far below nothing if so much is missing. -/
theorem wholeQuotient_le_neg {a b : ℚ} (hb : 0 < b) {count : ℕ} (hcount : 0 < count) :
    wholeQuotient a b ≤ -count ↔ count * b ≤ -a := by
  have hpos : (0 : ℚ) < count * b := mul_pos (by exact_mod_cast hcount) hb
  rw [wholeQuotient]
  split
  · next hnonneg =>
      have ha : 0 ≤ a := by
        have hmul := mul_nonneg hnonneg hb.le
        rwa [div_mul_cancel₀ _ hb.ne'] at hmul
      have hfloor := Int.floor_nonneg.mpr hnonneg
      refine iff_of_false (by omega) (not_le.mpr ?_)
      linarith
  · rw [neg_le_neg_iff, Int.le_floor, Int.cast_natCast, ← neg_div, le_div_iff₀ hb]

/-- A quotient without its fraction is within what is divided. -/
theorem mul_wholeQuotient_le {a b : ℚ} (hb : 0 < b) {count : ℕ}
    (h : (count : ℤ) ≤ wholeQuotient a b) : b * count ≤ max 0 a := by
  rcases Nat.eq_zero_or_pos count with rfl | hpos
  · simp
  · have hnonneg : 0 ≤ a / b := by
      by_contra hneg
      rw [wholeQuotient, if_neg hneg] at h
      have hfloor : 0 ≤ ⌊-(a / b)⌋ := Int.floor_nonneg.mpr (by linarith)
      omega
    rw [wholeQuotient, if_pos hnonneg, Int.le_floor, Int.cast_natCast, le_div_iff₀ hb] at h
    refine le_max_of_le_right ?_
    linarith

/-- A plan keeps within the chapters of a round, and within what is left. -/
structure WithinLimits (planner : BookRevisionPlanner) (request : RevisionPlanRequest)
    (plan : BookRevisionPlanData) : Prop where
  chapters : plan.chapterTasks.length ≤ planner.maximumChapters
  calls : (plan.estimatedCalls : ℤ) ≤ max 0 request.remainingCalls
  tokens : (plan.estimatedTokens : ℤ) ≤ max 0 request.remainingTokens
  cost : plan.estimatedCost ≤ max 0 request.remainingCost

/-- Tokens and costs are not overdrawn by a chapter or more, or they are overdrawn by all
chapters that issues name. -/
def Affordable (planner : BookRevisionPlanner) (request : RevisionPlanRequest) (named : ℕ) :
    Prop :=
  (0 ≤ request.remainingTokens ∧
      (0 < request.perCallCost → -request.perCallCost < request.remainingCost)) ∨
    ((named : ℤ) - 1) * planner.estimatedTokensPerChapter < -request.remainingTokens ∨
    0 < request.perCallCost ∧ named * request.perCallCost ≤ -request.remainingCost

/-- The bound is that far below nothing if so much is overdrawn. -/
theorem limit_le_neg (planner : BookRevisionPlanner) (request : RevisionPlanRequest) {count : ℕ}
    (hcount : 0 < count) :
    limit planner request ≤ -count ↔
      ((count : ℤ) - 1) * planner.estimatedTokensPerChapter < -request.remainingTokens ∨
        0 < request.perCallCost ∧ count * request.perCallCost ≤ -request.remainingCost := by
  have hT : (0 : ℤ) < planner.estimatedTokensPerChapter := by
    exact_mod_cast planner.estimatedTokens_pos
  have hcalls : ¬min (planner.maximumChapters : ℤ) (max 0 request.remainingCalls) ≤ -count := by
    omega
  have htokens : request.remainingTokens / planner.estimatedTokensPerChapter ≤ -(count : ℤ) ↔
      ((count : ℤ) - 1) * planner.estimatedTokensPerChapter < -request.remainingTokens := by
    rw [← Int.lt_add_one_iff, Int.ediv_lt_iff_lt_mul hT, lt_neg]
    have hmul : -(((count : ℤ) - 1) * planner.estimatedTokensPerChapter) =
        (-(count : ℤ) + 1) * planner.estimatedTokensPerChapter := by ring
    rw [hmul]
  rw [limit, min_le_iff, or_iff_right hcalls, min_le_iff, htokens]
  refine or_congr_right ?_
  split
  · next hcost => rw [wholeQuotient_le_neg hcost hcount, and_iff_right hcost]
  · next hcost =>
      refine iff_of_false ?_ fun h => hcost h.1
      omega

/-- The bound is not negative if nothing is overdrawn by a chapter or more. -/
theorem limit_nonneg :
    0 ≤ limit planner request ↔ 0 ≤ request.remainingTokens ∧
      (0 < request.perCallCost → -request.perCallCost < request.remainingCost) := by
  have hone := limit_le_neg planner request Nat.one_pos
  rw [Nat.cast_one, sub_self, zero_mul, Nat.cast_one, one_mul] at hone
  constructor
  · intro hlimit
    refine ⟨?_, fun hcost => ?_⟩
    · by_contra hneg
      have hle := hone.mpr (.inl (by omega))
      omega
    · by_contra hneg
      have hle := hone.mpr (.inr ⟨hcost, by linarith⟩)
      omega
  · rintro ⟨htokens, hcosts⟩
    by_contra hneg
    rcases hone.mp (by omega) with hover | ⟨hcost, hover⟩
    · omega
    · have hless := hcosts hcost
      linarith

theorem affordable_iff {named : ℕ} :
    Affordable planner request named ↔
      0 ≤ limit planner request ∨ limit planner request ≤ -named := by
  rw [Affordable, ← limit_nonneg]
  rcases Nat.eq_zero_or_pos named with rfl | hnamed
  · by_cases hlimit : 0 ≤ limit planner request
    · exact iff_of_true (.inl hlimit) (.inl hlimit)
    · refine iff_of_true (.inr ?_) (.inr ?_)
      · have hone := (limit_le_neg planner request Nat.one_pos).mp
          (by omega)
        rw [Nat.cast_one, sub_self, zero_mul, Nat.cast_one, one_mul] at hone
        refine hone.imp (fun hover => ?_) (fun hover => ⟨hover.1, ?_⟩)
        · have hT : (0 : ℤ) < planner.estimatedTokensPerChapter := by
            exact_mod_cast planner.estimatedTokens_pos
          rw [Nat.cast_zero, zero_sub, neg_one_mul]
          omega
        · rw [Nat.cast_zero, zero_mul]
          linarith [hover.1, hover.2]
      · omega
  · rw [limit_le_neg planner request hnamed]

variable {taken : List ℤ}

/-- As many chapters as the bound are within the limits. -/
theorem Plans.withinLimits
    (h : Plans request taken planner.estimatedTokensPerChapter plan)
    (hle : (taken.length : ℤ) ≤ limit planner request) : WithinLimits planner request plan := by
  have htasks : plan.chapterTasks.length = taken.length := by rw [← h.chapters, List.length_map]
  have hT : (0 : ℤ) < planner.estimatedTokensPerChapter := by
    exact_mod_cast planner.estimatedTokens_pos
  obtain ⟨hcalls, hbudget⟩ := le_min_iff.mp hle
  obtain ⟨htokens, hcost⟩ := le_min_iff.mp hbudget
  refine ⟨?_, ?_, ?_, ?_⟩
  · omega
  · rw [h.calls]
    omega
  · rw [h.tokens, Nat.cast_mul]
    exact le_max_of_le_right ((Int.le_ediv_iff_mul_le hT).mp htokens)
  · rw [h.cost]
    split at hcost
    · next hpos => exact mul_wholeQuotient_le hpos hcost
    · next hnot =>
        have hnonpos := mul_nonpos_of_nonpos_of_nonneg (not_lt.mp hnot)
          (Nat.cast_nonneg (α := ℚ) taken.length)
        exact le_max_of_le_left hnonpos

/-- A plan without chapters is within the limits. -/
theorem Plans.withinLimits_nil (h : Plans request [] planner.estimatedTokensPerChapter plan) :
    WithinLimits planner request plan := by
  refine ⟨?_, ?_, ?_, ?_⟩
  · rw [List.map_eq_nil_iff.mp h.chapters]
    exact Nat.zero_le _
  · rw [h.calls]
    exact le_max_left _ _
  · rw [h.tokens, List.length_nil, Nat.zero_mul]
    exact le_max_left _ _
  · rw [h.cost, List.length_nil, Nat.cast_zero, mul_zero]
    exact le_max_left _ _

/-- Where something is overdrawn by a chapter or more, no other plan is. -/
theorem Plans.eq_nil (h : Plans request taken planner.estimatedTokensPerChapter plan)
    (hlimit : ¬0 ≤ limit planner request) (hwithin : WithinLimits planner request plan) :
    taken = [] := by
  have hone := (limit_le_neg planner request Nat.one_pos).mp (by omega)
  rw [Nat.cast_one, sub_self, zero_mul, Nat.cast_one, one_mul] at hone
  refine List.length_eq_zero_iff.mp ?_
  rcases hone with hover | ⟨hcost, hover⟩
  · have htokens := hwithin.tokens
    rw [max_eq_left (by omega), h.tokens] at htokens
    have hzero : taken.length * planner.estimatedTokensPerChapter = 0 := by omega
    exact (Nat.mul_eq_zero.mp hzero).resolve_right planner.estimatedTokens_pos.ne'
  · have hestimated := hwithin.cost
    rw [max_eq_left (by linarith), h.cost] at hestimated
    by_contra hne
    have hpos : (0 : ℚ) < taken.length := by exact_mod_cast Nat.pos_of_ne_zero hne
    linarith [mul_pos hcost hpos]

/-- **A plan keeps within its limits** exactly if what is overdrawn leaves room for a chapter or
for none. -/
theorem withinLimits_iff (h : build planner request casefold critique = .ok plan) :
    WithinLimits planner request plan ↔
      Affordable planner request (chaptersOf critique.globalIssues).length := by
  have hplans := build_eq_ok h
  have hlength : (selected planner request casefold critique.globalIssues).length =
      room planner request (chaptersOf critique.globalIssues).length := length_selected
  rw [affordable_iff]
  by_cases hlimit : 0 ≤ limit planner request
  · rw [room, if_pos hlimit] at hlength
    exact iff_of_true (hplans.withinLimits (by omega)) (.inl hlimit)
  · rw [room, if_neg hlimit] at hlength
    constructor
    · intro hwithin
      rw [hplans.eq_nil hlimit hwithin, List.length_nil] at hlength
      right
      omega
    · intro hnone
      have hnil : selected planner request casefold critique.globalIssues = [] :=
        List.length_eq_zero_iff.mp (by omega)
      rw [hnil] at hplans
      exact hplans.withinLimits_nil

end Limits

/-! ### The order of a plan -/

section Order

variable {planner : BookRevisionPlanner} {request : RevisionPlanRequest}
  {casefold : String → String} {critique : BookCritique} {analysis : BookAnalysisBundle}
  {issues : List BookIssue} {plan : BookRevisionPlanData} {chapter : ℤ}

/-- A plan for the critique of a critic, merged with what the rules found. -/
def planFor (planner : BookRevisionPlanner) (request : RevisionPlanRequest)
    (casefold : String → String) (critique : BookCritique) (analysis : BookAnalysisBundle) :
    Except Error BookRevisionPlanData := do
  let merged ← BookAnalysisService.mergeRuleIssues critique analysis
  build planner request casefold merged

/-- A chapter that issues name, with few chapters that are to be revised sooner. -/
def Urgent (planner : BookRevisionPlanner) (request : RevisionPlanRequest)
    (issues : List BookIssue) (chapter : ℤ) : Prop :=
  chapter ∈ chaptersOf issues ∧
    ((chaptersOf issues).filter fun other => Sooner issues other chapter).length <
      room planner request (chaptersOf issues).length

/-- The chapters that a plan takes are the most urgent ones. -/
theorem mem_selected (casefold : String → String) :
    chapter ∈ selected planner request casefold issues ↔ Urgent planner request issues chapter := by
  have hperm := orderedChapters_perm casefold request.totalChapters issues
  rw [selected, sliceTo, hperm.length_eq,
    Ranking.mem_take_iff pairwise_orderedChapters fun _ _ => Sooner.asymm, hperm.mem_iff,
    (hperm.filter _).length_eq, Urgent, room]
  refine and_congr_right fun hmem => ?_
  -- no more chapters come before one of them than there are
  have hlt : ((chaptersOf issues).filter fun other => Sooner issues other chapter).length <
      (chaptersOf issues).length := by
    refine List.length_filter_lt_length_iff_exists.mpr ⟨chapter, hmem, ?_⟩
    simpa using fun h : Sooner issues chapter chapter => h.asymm h
  split
  · omega
  · exact Iff.rfl

theorem pairwise_selected :
    (selected planner request casefold issues).Pairwise (Sooner issues) :=
  pairwise_orderedChapters.sublist (List.take_sublist _ _)

/-- A plan that can be executed: its tasks are for different chapters of the book, the chapters
they affect exist, and no chapter is revised after one that it affects. -/
structure Executable (totalChapters : ℤ) (plan : BookRevisionPlanData) : Prop where
  exist : ∀ task ∈ plan.chapterTasks, 1 ≤ task.chapterNumber ∧ task.chapterNumber ≤ totalChapters
  once : (plan.chapterTasks.map (·.chapterNumber)).Nodup
  affected : ∀ task ∈ plan.chapterTasks, ∀ future ∈ task.affectedFutureChapters,
    1 ≤ future ∧ future ≤ totalChapters
  ordered : ∀ task ∈ plan.chapterTasks, ∀ later ∈ plan.chapterTasks,
    later.chapterNumber ∈ task.affectedFutureChapters →
      [task.chapterNumber, later.chapterNumber].Sublist plan.dependencyOrder

/-- The most urgent chapters are chapters of the book, and the earlier of two has issues that are
at least as severe. -/
structure EarlierSeverer (planner : BookRevisionPlanner) (request : RevisionPlanRequest)
    (issues : List BookIssue) : Prop where
  exist : ∀ chapter, Urgent planner request issues chapter → chapter ≤ request.totalChapters
  severer : ∀ earlier later, Urgent planner request issues earlier →
    Urgent planner request issues later → earlier < later →
      chapterRank issues earlier ≤ chapterRank issues later

/-- **A plan can be executed** exactly if the most urgent chapters exist and become less severe
from one to the next in the book. -/
theorem executable_iff (h : planFor planner request casefold critique analysis = .ok plan) :
    Executable request.totalChapters plan ↔
      EarlierSeverer planner request
        (BookAnalysisService.mergedIssues (BookAnalysisService.allIssues critique analysis)) := by
  obtain ⟨merged, hmerged, hbuild⟩ := Except.bind_eq_ok.mp h
  have hplans := build_eq_ok hbuild
  rw [(BookAnalysisService.merged_eq hmerged).1] at hplans
  generalize BookAnalysisService.mergedIssues (BookAnalysisService.allIssues critique analysis) =
    issues at hplans
  have hurgent : ∀ chapter, Urgent planner request issues chapter ↔
      ∃ task ∈ plan.chapterTasks, task.chapterNumber = chapter := by
    intro chapter
    rw [← mem_selected casefold, ← hplans.chapters, List.mem_map]
  have hbefore : ∀ task ∈ plan.chapterTasks, ∀ later ∈ plan.chapterTasks,
      [task.chapterNumber, later.chapterNumber].Sublist plan.dependencyOrder ↔
        Sooner issues task.chapterNumber later.chapterNumber := by
    intro task htask later hlater
    rw [hplans.order]
    exact Ranking.pair_sublist_iff pairwise_selected (fun _ _ => Sooner.asymm)
      ((mem_selected casefold).mpr ((hurgent _).mpr ⟨task, htask, rfl⟩))
      ((mem_selected casefold).mpr ((hurgent _).mpr ⟨later, hlater, rfl⟩))
  constructor
  · intro hexecutable
    constructor
    · intro chapter hchapter
      obtain ⟨task, htask, rfl⟩ := (hurgent chapter).mp hchapter
      exact (hexecutable.exist task htask).2
    · intro earlier later hearlier hlater hlt
      obtain ⟨task, htask, rfl⟩ := (hurgent earlier).mp hearlier
      obtain ⟨other, hother, rfl⟩ := (hurgent later).mp hlater
      have hsub := hexecutable.ordered task htask other hother
        ((hplans.affected task htask _).mpr ⟨hlt, (hexecutable.exist other hother).2⟩)
      rcases (hbefore task htask other hother).mp hsub with hless | ⟨heq, -⟩
      · exact hless.le
      · exact heq.le
  · intro hearlier
    refine ⟨fun task htask => ?_, ?_, fun task htask future hfuture => ?_, ?_⟩
    · exact ⟨task.one_le_chapterNumber, hearlier.exist _ ((hurgent _).mpr ⟨task, htask, rfl⟩)⟩
    · rw [hplans.chapters]
      refine pairwise_selected.imp ?_
      rintro a b hsooner rfl
      exact hsooner.asymm hsooner
    · obtain ⟨hlt, hle⟩ := (hplans.affected task htask future).mp hfuture
      have hone := task.one_le_chapterNumber
      exact ⟨by omega, hle⟩
    · intro task htask later hlater hfuture
      obtain ⟨hlt, -⟩ := (hplans.affected task htask _).mp hfuture
      refine (hbefore task htask later hlater).mpr ?_
      have hrank := hearlier.severer _ _ ((hurgent _).mpr ⟨task, htask, rfl⟩)
        ((hurgent _).mpr ⟨later, hlater, rfl⟩) hlt
      unfold Sooner
      omega

end Order

/-! ### Instances -/

/-- The default planner. -/
def standard : BookRevisionPlanner := ⟨3, 12000, by decide, by decide⟩

/-- The first round of a book of three chapters. -/
def firstRound (remainingTokens : ℤ) : RevisionPlanRequest where
  snapshotId := 0
  revisionRound := 1
  totalChapters := 3
  blockingReasons := []
  remainingCalls := 10
  remainingTokens := remainingTokens
  remainingCost := 1
  perCallCost := 0
  preserveFacts := []

/-- An issue of the pace in a chapter. -/
def pacingIssue (severity : ConflictSeverity) (chapter : ℤ) : BookIssue where
  code := "pacing.slow"
  category := "pacing"
  severity := severity
  description := "The chapter is slow."
  chapterNumbers := [chapter]
  evidence := []
  suggestion := "Tighten it."

/-- No rule found anything. -/
def nothingFound : BookAnalysisBundle := ⟨[], [], [], [], [], []⟩

/-- The critique of two slow chapters. -/
def twoSlow : BookCritique :=
  BookAnalysisService.plainCritique [pacingIssue .high 1, pacingIssue .critical 2]

/-- With one token overdrawn, a plan for two chapters still takes one. -/
theorem overdrawn :
    ∃ plan, build standard (firstRound (-1)) id twoSlow = .ok plan ∧
      ¬WithinLimits standard (firstRound (-1)) plan := by
  have hbuild : (build standard (firstRound (-1)) id twoSlow).toOption.map
      (·.estimatedTokens) = some 12000 := by decide +kernel
  obtain ⟨plan, hplan, htokens⟩ := Except.exists_of_toOption hbuild
  refine ⟨plan, hplan, fun hwithin => ?_⟩
  have hle := hwithin.tokens
  rw [htokens] at hle
  exact absurd hle (by decide)

/-- With nothing left, it takes none. -/
theorem withinLimits_exhausted :
    ∃ plan, build standard (firstRound 0) id twoSlow = .ok plan ∧
      WithinLimits standard (firstRound 0) plan := by
  have hbuild : (build standard (firstRound 0) id twoSlow).toOption.map
      (·.estimatedTokens) = some 0 := by decide +kernel
  obtain ⟨plan, hplan, -⟩ := Except.exists_of_toOption hbuild
  refine ⟨plan, hplan, (withinLimits_iff hplan).mpr (.inl ⟨le_refl _, fun hcost => ?_⟩)⟩
  exact absurd hcost (lt_irrefl _)

/-- A critical chapter is revised before an earlier one that affects it. -/
theorem out_of_order :
    ∃ plan, planFor standard (firstRound 36000) id twoSlow nothingFound = .ok plan ∧
      ¬Executable 3 plan := by
  have hbuild : (planFor standard (firstRound 36000) id twoSlow nothingFound).toOption.map
      (fun plan => (plan.dependencyOrder, plan.chapterTasks.map fun task =>
        (task.chapterNumber, task.affectedFutureChapters))) =
      some ([2, 1], [(2, [3]), (1, [2, 3])]) := by decide +kernel
  obtain ⟨plan, hplan, heq⟩ := Except.exists_of_toOption hbuild
  obtain ⟨horder, htasks⟩ := Prod.mk.inj heq
  refine ⟨plan, hplan, fun hexecutable => ?_⟩
  have htask : ∀ entry : ℤ × List ℤ, entry ∈ [(2, [3]), (1, [2, 3])] →
      ∃ task ∈ plan.chapterTasks, task.chapterNumber = entry.1 ∧
        task.affectedFutureChapters = entry.2 := by
    intro entry hentry
    rw [← htasks] at hentry
    obtain ⟨task, htask, rfl⟩ := List.mem_map.mp hentry
    exact ⟨task, htask, rfl, rfl⟩
  obtain ⟨first, hfirst, hchapter, haffected⟩ := htask (1, [2, 3]) (by decide)
  obtain ⟨second, hsecond, hchapter', -⟩ := htask (2, [3]) (by decide)
  have hsub := hexecutable.ordered first hfirst second hsecond (by
    rw [haffected, hchapter']
    decide)
  rw [hchapter, hchapter', horder] at hsub
  exact absurd hsub (by decide)

/-- The critique of two slow chapters, of which the first is worse. -/
def firstWorse : BookCritique :=
  BookAnalysisService.plainCritique [pacingIssue .critical 1, pacingIssue .high 2]

/-- A critical chapter is revised before a later one. -/
theorem executable_firstWorse :
    ∃ plan, planFor standard (firstRound 36000) id firstWorse nothingFound = .ok plan ∧
      Executable 3 plan := by
  have hbuild : (planFor standard (firstRound 36000) id firstWorse nothingFound).toOption.map
      (·.dependencyOrder) = some [1, 2] := by decide +kernel
  obtain ⟨plan, hplan, -⟩ := Except.exists_of_toOption hbuild
  have hchapters : chaptersOf (BookAnalysisService.mergedIssues
      (BookAnalysisService.allIssues firstWorse nothingFound)) = [1, 2] := by decide +kernel
  refine ⟨plan, hplan, (executable_iff hplan).mpr ⟨?_, ?_⟩⟩
  · rintro chapter ⟨hmem, -⟩
    rw [hchapters] at hmem
    revert chapter
    decide
  · rintro earlier later ⟨hmem, -⟩ ⟨hmem', -⟩ hlt
    rw [hchapters] at hmem hmem'
    obtain ⟨rfl, rfl⟩ : earlier = 1 ∧ later = 2 := by
      simp only [List.mem_cons, List.not_mem_nil, or_false] at hmem hmem'
      omega
    decide +kernel

end BookRevisionPlanner

end StoryForge
