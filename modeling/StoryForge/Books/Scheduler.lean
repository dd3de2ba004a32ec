import StoryForge.Books.Models

/-!
# `BookChapterScheduler`

The scheduler checks the chapter numbers and the dependencies of a plan, and decides from the
marks of the chapters which chapter is next. Marks are the texts that are stored.

## Main results

* `BookChapterScheduler.decide_eq_schedule` — a chapter that is scheduled is planned and not
  done, and no chapter is active.
-/

namespace StoryForge

/-- The stored form of a chapter mark. -/
def ChapterMark.value : ChapterMark → String
  | .planned => "planned"
  | .running => "running"
  | .accepted => "accepted"
  | .failed => "failed"
  | .needsReview => "needs_review"

/-- The actions of a schedule decision. -/
inductive ScheduleAction
  | schedule
  | wait
  | retry
  | pause
  | humanReview
  | complete
  | cancel
  deriving DecidableEq, Repr

/-- The next safe chapter scheduling action. -/
structure ChapterScheduleDecision where
  chapterNumber : Option ℕ
  action : ScheduleAction
  reason : String
  dependencyStatus : List (ℕ × String)
  deriving DecidableEq, Repr

/-- What the scheduler is asked. -/
structure ScheduleRequest where
  mode : BookRunMode
  chapterNumbers : List ℕ
  chapterStatus : List (ℕ × String)
  dependencies : Option (List (ℕ × List ℕ))
  cancelRequested : Bool
  pauseRequested : Bool
  continueAfterNeedsReview : Bool
  deriving DecidableEq, Repr

namespace BookChapterScheduler

/-- `_DONE`. -/
def done : List String := ["accepted", "completed"]

/-- `_ACTIVE`. -/
def active : List String := ["pending", "queued", "leased", "running", "retry_scheduled"]

/-! ### `validate_plan` -/

/-- The dependencies of a plan without a dependency map: each chapter needs the one before. -/
def sequentialGraph (ordered : List ℕ) : List (ℕ × List ℕ) :=
  ordered.map fun chapter => (chapter, if chapter = 1 then [] else [chapter - 1])

/-- The edges of a dependency map, from the chapter that is required. -/
def edges (graph : List (ℕ × List ℕ)) : List (ℕ × ℕ) :=
  graph.flatMap fun entry => entry.2.map (·, entry.1)

/-- `outgoing`: the chapters that require a chapter, once for each time they do. -/
def outgoing (graph : List (ℕ × List ℕ)) (chapter : ℕ) : List ℕ :=
  ((edges graph).filter (·.1 == chapter)).map (·.2)

/-- One round over `outgoing[current]`: the degrees and the queue after it. -/
def release : List ℕ → (ℕ → ℤ) → List ℕ → (ℕ → ℤ) × List ℕ
  | [], indegree, queue => (indegree, queue)
  | child :: children, indegree, queue =>
      let indegree := Function.update indegree child (indegree child - 1)
      release children indegree (if indegree child = 0 then queue ++ [child] else queue)

/-- `while queue`: how many chapters are visited. A chapter enters the queue once, so the loop
is over after as many rounds as there are chapters. -/
def visited (graph : List (ℕ × List ℕ)) : ℕ → (ℕ → ℤ) → List ℕ → ℕ
  | 0, _, _ => 0
  | _ + 1, _, [] => 0
  | rounds + 1, indegree, current :: queue =>
      let (indegree, queue) := release (outgoing graph current) indegree queue
      1 + visited graph rounds indegree queue

/-- The number of dependencies of a chapter. -/
def indegree (graph : List (ℕ × List ℕ)) (chapter : ℕ) : ℤ :=
  ((graph.lookup chapter).getD []).length

/-- Whether the walk from the chapters without dependencies visits all chapters. -/
def acyclic (graph : List (ℕ × List ℕ)) : Bool :=
  let roots := (graph.map (·.1)).filter fun chapter => indegree graph chapter == 0
  visited graph graph.length (indegree graph) roots == graph.length

/-- `dependencies or {..}`. -/
def dependencyGraph (ordered : List ℕ) (dependencies : Option (List (ℕ × List ℕ))) :
    List (ℕ × List ℕ) :=
  match dependencies with
  | none | some [] => sequentialGraph ordered
  | some graph => graph

/-- `validate_plan`. The keys of a dependency map are distinct. -/
def validatePlan (chapterNumbers : List ℕ) (dependencies : Option (List (ℕ × List ℕ))) :
    Except Error (List (ℕ × List ℕ)) :=
  let ordered := chapterNumbers.insertionSort (· ≤ ·)
  let graph := dependencyGraph ordered dependencies
  let chapters := graph.map (·.1)
  if ordered = [] ∨ ordered ≠ List.range' 1 ordered.length then
    .error (.other "DomainValidationError"
      "Book chapter numbers must be continuous and start at one")
  else if (chapters.any fun chapter => !ordered.contains chapter) ||
      ordered.any fun chapter => !chapters.contains chapter then
    .error (.other "DomainValidationError" "Dependency graph must define every planned chapter")
  else if graph.any fun entry =>
      entry.2.contains entry.1 || entry.2.any fun required => !chapters.contains required then
    .error (.other "DomainValidationError" "Dependency graph contains an invalid chapter edge")
  else if !acyclic graph then
    .error (.other "DomainValidationError" "Chapter dependency graph contains a cycle")
  else
    .ok ((graph.insertionSort fun a b => a.1 ≤ b.1).map fun entry =>
      (entry.1, entry.2.insertionSort (· ≤ ·)))

/-! ### `decide` -/

/-- Whether a mark is missing from `_DONE`. -/
def isDone (chapterStatus : List (ℕ × String)) (chapter : ℕ) : Bool :=
  (chapterStatus.lookup chapter).any done.contains

/-- `dict(sorted(chapter_status.items()))`. -/
def sortedStatus (chapterStatus : List (ℕ × String)) : List (ℕ × String) :=
  chapterStatus.insertionSort fun a b => a.1 ≤ b.1

/-- The chapters that may be scheduled. -/
def candidates (concurrency : ℕ) (request : ScheduleRequest) (graph : List (ℕ × List ℕ)) :
    List ℕ :=
  ((request.chapterNumbers.insertionSort (· ≤ ·)).filter fun chapter =>
    !isDone request.chapterStatus chapter &&
      ((graph.lookup chapter).getD []).all (isDone request.chapterStatus)).take
    (match request.mode with
    | .sequential => 1
    | .dependencyAware => concurrency)

/-- The chapters with a mark that needs review. -/
def needingReview (chapterStatus : List (ℕ × String)) : List ℕ :=
  (chapterStatus.filter (·.2 == "needs_review")).map (·.1)

/-- The decision about a valid plan. -/
def decideValid (concurrency : ℕ) (request : ScheduleRequest) (graph : List (ℕ × List ℕ)) :
    Except Error ChapterScheduleDecision :=
  let status := request.chapterStatus
  if request.cancelRequested then .ok ⟨none, .cancel, "Book cancellation was requested", []⟩
  else if request.pauseRequested then .ok ⟨none, .pause, "Book pause was requested", []⟩
  else if status.any fun entry => active.contains entry.2 then
    .ok ⟨none, .wait, "A chapter job is still active", sortedStatus status⟩
  else if request.chapterNumbers.all (isDone status) then
    .ok ⟨none, .complete, "Every planned chapter has an accepted version", sortedStatus status⟩
  else
    match (needingReview status).min?, request.continueAfterNeedsReview with
    | some 0, false => .error (.other "ValidationError" "chapter_number")
    | some chapter, false =>
        .ok ⟨some chapter, .humanReview, "A chapter reached its revision limit",
          sortedStatus status⟩
    | _, _ =>
        match candidates concurrency request graph with
        | [] => .ok ⟨none, .wait, "No chapter has all dependencies accepted",
            sortedStatus status⟩
        | chapter :: _ =>
            .ok ⟨some chapter, .schedule, "All required predecessor chapters are accepted",
              ((graph.lookup chapter).getD []).dedup.map fun required =>
                (required, (status.lookup required).getD "missing")⟩

/-- `decide`. -/
def decide (concurrency : ℕ) (request : ScheduleRequest) : Except Error ChapterScheduleDecision :=
  (validatePlan request.chapterNumbers request.dependencies).bind
    (decideValid concurrency request)

/-- A chapter that is scheduled is planned and not done, and no chapter is active. -/
theorem decide_eq_schedule {concurrency : ℕ} {request : ScheduleRequest}
    {decision : ChapterScheduleDecision} (h : decide concurrency request = .ok decision)
    (haction : decision.action = .schedule) :
    ∃ chapter ∈ request.chapterNumbers, decision.chapterNumber = some chapter ∧
      isDone request.chapterStatus chapter = false ∧
      ∀ entry ∈ request.chapterStatus, entry.2 ∉ active := by
  obtain ⟨graph, -, h⟩ := Except.bind_eq_ok.mp h
  unfold decideValid at h
  dsimp only at h
  split at h
  · cases h; exact absurd haction (by simp)
  split at h
  · cases h; exact absurd haction (by simp)
  split at h
  · cases h; exact absurd haction (by simp)
  rename_i hactive
  split at h
  · cases h; exact absurd haction (by simp)
  split at h
  · exact absurd h (by simp)
  · cases h; exact absurd haction (by simp)
  · split at h
    · cases h; exact absurd haction (by simp)
    · rename_i chapter rest hcandidates
      cases h
      have hmem : chapter ∈ candidates concurrency request graph := by
        rw [hcandidates]; exact List.mem_cons_self
      have hfilter := List.mem_of_mem_take hmem
      rw [List.mem_filter, List.mem_insertionSort, Bool.and_eq_true, Bool.not_eq_true'] at hfilter
      refine ⟨chapter, hfilter.1, rfl, hfilter.2.1, fun entry hentry hin => hactive ?_⟩
      exact List.any_eq_true.mpr ⟨entry, hentry, List.contains_iff_mem.mpr hin⟩

/-- Two chapters in order; a chapter that is running is waited for. -/
example : decide 1 ⟨.sequential, [1, 2], [(1, "accepted"), (2, "planned")], none, false, false,
    false⟩ = .ok ⟨some 2, .schedule, "All required predecessor chapters are accepted",
      [(1, "accepted")]⟩ ∧
    (decide 1 ⟨.sequential, [1, 2], [(1, "running"), (2, "planned")], none, false, false,
      false⟩).map (·.action) = .ok .wait := by
  decide +kernel

end BookChapterScheduler

end StoryForge
