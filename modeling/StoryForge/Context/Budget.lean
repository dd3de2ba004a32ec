import StoryForge.Context.Builder

/-!
# The budget of a context

The project, the outline and the rules are in every context. The other items are considered one
after the other, category by category, and each is included if it fits next to what is included
already. So all categories together are one list that is filled up once.

## Main results

* `fitItems_fitted` — what is included, item by item;
* `applyBudget_optional` — the categories are filled up as one list;
* `budget_kept` — the accounts of a context, and its bound.
-/

namespace StoryForge.Context

/-! ### Items that fit -/

section Fitting

variable {α β : Type} {size : α → ℕ} {maxChars used : ℕ} {items kept : List α}

/-- What is included of items that are considered one after the other: each one that fits, and
no other. -/
inductive Fitted (size : α → ℕ) (maxChars : ℕ) : ℕ → List α → List α → Prop
  | nil {used : ℕ} : Fitted size maxChars used [] []
  | included {used : ℕ} {item : α} {rest kept : List α} (hfits : used + size item ≤ maxChars)
      (hrest : Fitted size maxChars (used + size item) rest kept) :
      Fitted size maxChars used (item :: rest) (item :: kept)
  | omitted {used : ℕ} {item : α} {rest kept : List α} (hover : maxChars < used + size item)
      (hrest : Fitted size maxChars used rest kept) : Fitted size maxChars used (item :: rest) kept

/-- The loop includes what fits. -/
theorem fitItems_fitted (size : α → ℕ) (maxChars used : ℕ) (items : List α) :
    Fitted size maxChars used items (fitItems size maxChars used items).1 := by
  induction items generalizing used with
  | nil => exact .nil
  | cons item rest ih =>
      rw [fitItems]
      split
      · next hfits => exact .included hfits (ih (used + size item))
      · next hover => exact .omitted (Nat.lt_of_not_le hover) (ih used)

/-- The loop counts what it includes. -/
theorem fitItems_used (size : α → ℕ) (maxChars used : ℕ) (items : List α) :
    (fitItems size maxChars used items).2 =
      used + ((fitItems size maxChars used items).1.map size).sum := by
  induction items generalizing used with
  | nil => rfl
  | cons item rest ih =>
      rw [fitItems]
      split
      · have hrest := ih (used + size item)
        dsimp only
        rw [List.map_cons, List.sum_cons]
        omega
      · exact ih used

theorem Fitted.sublist (h : Fitted size maxChars used items kept) : kept.Sublist items := by
  induction h with
  | nil => exact List.Sublist.slnil
  | included _ _ ih => exact ih.cons_cons _
  | omitted _ _ ih => exact ih.cons _

/-- What is included stays within the limit. -/
theorem Fitted.le (h : Fitted size maxChars used items kept) (hused : used ≤ maxChars) :
    used + (kept.map size).sum ≤ maxChars := by
  induction h with
  | nil => exact hused
  | included hfits _ ih =>
      have hrest := ih hfits
      rw [List.map_cons, List.sum_cons]
      omega
  | omitted _ _ ih => exact ih hused

/-- Above the limit nothing is included. -/
theorem Fitted.eq_nil (h : Fitted size maxChars used items kept) (hused : maxChars < used) :
    kept = [] := by
  induction h with
  | nil => rfl
  | included hfits _ _ => omega
  | omitted _ _ ih => exact ih hused

/-- Two lists are filled up one after the other. -/
theorem fitItems_append (size : α → ℕ) (maxChars used : ℕ) (items others : List α) :
    fitItems size maxChars used (items ++ others) =
      ((fitItems size maxChars used items).1 ++
          (fitItems size maxChars (fitItems size maxChars used items).2 others).1,
        (fitItems size maxChars (fitItems size maxChars used items).2 others).2) := by
  induction items generalizing used with
  | nil => rfl
  | cons item rest ih =>
      rw [List.cons_append, fitItems, fitItems]
      split
      · rw [ih (used + size item)]
        rfl
      · exact ih used

/-- Items of a category are considered as items of a context. -/
theorem fitItems_map (size : α → ℕ) (maxChars used : ℕ) (f : β → α) (items : List β) :
    fitItems size maxChars used (items.map f) =
      ((fitItems (size ∘ f) maxChars used items).1.map f,
        (fitItems (size ∘ f) maxChars used items).2) := by
  induction items generalizing used with
  | nil => rfl
  | cons item rest ih =>
      rw [List.map_cons, fitItems, fitItems, Function.comp_apply]
      split
      · rw [ih (used + size (f item))]
        rfl
      · exact ih used

end Fitting

/-! ### All categories -/

variable {S : Type} {size : ContextItem S → ℕ} {request : ContextBuildRequest}
  {candidates : ContextCandidates S}

/-- The candidates of all categories but the rules, in the order they are considered. -/
def ContextCandidates.optional (candidates : ContextCandidates S) : List (ContextItem S) :=
  candidates.characters.map .character ++ candidates.facts.map .fact ++
    candidates.foreshadowing.map .foreshadowing ++ candidates.recent.map .recent ++
    candidates.locations.map .location ++ candidates.memory.map .memory

/-- What must be in a context. -/
def ContextCandidates.mandatory (candidates : ContextCandidates S) : List (ContextItem S) :=
  .project candidates.project :: .outline candidates.outline :: candidates.rules.map .rule

/-- The items of a context but for what must be in it. -/
def ChapterContext.optional (context : ChapterContext S) : List (ContextItem S) :=
  context.characters.map .character ++ context.knownFacts.map .fact ++
    context.activeForeshadowing.map .foreshadowing ++ context.recentChapters.map .recent ++
    context.locations.map .location ++ context.memoryHits.map .memory

/-- All items of a context. -/
def ChapterContext.items (context : ChapterContext S) : List (ContextItem S) :=
  .project context.project :: .outline context.currentOutline :: context.rules.map .rule ++
    context.optional

/-- The sizes of what must be in a context. -/
theorem mandatory_size :
    (candidates.mandatory.map size).sum =
      size (.project candidates.project) + size (.outline candidates.outline) +
        (candidates.rules.map fun rule => size (.rule rule)).sum := by
  simp only [ContextCandidates.mandatory, List.map_cons, List.map_map, List.sum_cons,
    Function.comp_def, Nat.add_assoc]

/-- **One list.** The categories are filled up one after the other, as one list. -/
theorem applyBudget_optional :
    ((applyBudget size request candidates).optional,
      (applyBudget size request candidates).budget.estimatedChars) =
      fitItems size request.maxContextChars (candidates.mandatory.map size).sum
        candidates.optional := by
  rw [mandatory_size]
  simp only [ContextCandidates.optional, fitItems_append, fitItems_map]
  rfl

/-- The accounts of a context are right. -/
structure BudgetKept (size : ContextItem S → ℕ) (request : ContextBuildRequest)
    (candidates : ContextCandidates S) (context : ChapterContext S) : Prop where
  project : context.project = candidates.project
  outline : context.currentOutline = candidates.outline
  rules : context.rules = candidates.rules
  estimated : context.budget.estimatedChars = (context.items.map size).sum
  bounded : (candidates.mandatory.map size).sum ≤ request.maxContextChars →
    context.budget.estimatedChars ≤ request.maxContextChars
  exceeded : request.maxContextChars < (candidates.mandatory.map size).sum → context.optional = []
  characters : context.characters.Sublist candidates.characters
  facts : context.knownFacts.Sublist candidates.facts
  foreshadowing : context.activeForeshadowing.Sublist candidates.foreshadowing
  recent : context.recentChapters.Sublist candidates.recent
  locations : context.locations.Sublist candidates.locations
  memory : context.memoryHits.Sublist candidates.memory
  fitted : Fitted size request.maxContextChars (candidates.mandatory.map size).sum
    candidates.optional context.optional
  candidateItems : context.budget.candidateItems =
    candidates.rules.length + candidates.optional.length
  includedItems : context.budget.includedItems = context.rules.length + context.optional.length
  omittedItems : context.budget.includedItems + context.budget.omittedItems =
    context.budget.candidateItems

/-- **The budget is kept** for every request and all candidates: what must be in the context is,
what may be is considered in order, and the numbers add up. -/
theorem budget_kept (size : ContextItem S → ℕ) (request : ContextBuildRequest)
    (candidates : ContextCandidates S) :
    BudgetKept size request candidates (applyBudget size request candidates) := by
  have hfitted : Fitted size request.maxContextChars (candidates.mandatory.map size).sum
      candidates.optional (applyBudget size request candidates).optional := by
    have hoptional : (applyBudget size request candidates).optional = _ :=
      congrArg Prod.fst applyBudget_optional
    rw [hoptional]
    exact fitItems_fitted _ _ _ _
  have hestimated : (applyBudget size request candidates).budget.estimatedChars =
      (candidates.mandatory.map size).sum +
        ((applyBudget size request candidates).optional.map size).sum := by
    have hused := fitItems_used size request.maxContextChars (candidates.mandatory.map size).sum
      candidates.optional
    rw [← applyBudget_optional] at hused
    exact hused
  have hcandidates : (applyBudget size request candidates).budget.candidateItems =
      candidates.rules.length + candidates.optional.length := by
    simp only [applyBudget, ContextCandidates.optional, List.map_cons, List.map_nil, List.sum_cons,
      List.sum_nil, List.length_append, List.length_map]
    omega
  have hincluded : (applyBudget size request candidates).budget.includedItems =
      candidates.rules.length + (applyBudget size request candidates).optional.length := by
    simp only [applyBudget, ChapterContext.optional, List.map_cons, List.map_nil, List.sum_cons,
      List.sum_nil, List.length_append, List.length_map]
    omega
  refine ⟨rfl, rfl, rfl, ?_, ?_, fun hover => hfitted.eq_nil hover,
    (fitItems_fitted _ _ _ _).sublist, (fitItems_fitted _ _ _ _).sublist,
    (fitItems_fitted _ _ _ _).sublist, (fitItems_fitted _ _ _ _).sublist,
    (fitItems_fitted _ _ _ _).sublist, (fitItems_fitted _ _ _ _).sublist, hfitted, hcandidates,
    hincluded, ?_⟩
  · rw [hestimated, ← List.sum_append, ← List.map_append]
    rfl
  · intro hmandatory
    rw [hestimated]
    exact hfitted.le hmandatory
  · have hle := hfitted.sublist.length_le
    have homitted : (applyBudget size request candidates).budget.omittedItems =
        (applyBudget size request candidates).budget.candidateItems -
          (applyBudget size request candidates).budget.includedItems := rfl
    omega

end StoryForge.Context
