import Mathlib.Algebra.Order.Group.Defs
import Mathlib.Algebra.Order.Sub.Basic
import Mathlib.Data.List.Basic
import Mathlib.Data.List.TakeWhile

/-!
# Sliding windows

Items with a stamp in a log, in the order in which they came, which need not be that of their
stamps. A queue holds the end of the log; `purge` removes from its front what is too old.

## Main results

* `inWindow_concat` — when all that the queue has lost is too old for a new item, the window of
  a log that grows by it is either as before or among what is still in the queue.
-/

universe u v

namespace Windows

variable {α : Type u} {τ : Type v} [AddCommGroup τ] [LinearOrder τ] [IsOrderedAddMonoid τ]
  (stamp : α → τ) (width : τ)

/-- The items with a stamp in `(t - width, t]`. -/
def inWindow (t : τ) (items : List α) : List α :=
  items.filter fun item => decide (t - width < stamp item ∧ stamp item ≤ t)

/-- Remove items from the front while they are not after the cutoff. -/
def purge (cutoff : τ) (items : List α) : List α :=
  items.dropWhile fun item => decide (stamp item ≤ cutoff)

variable {stamp width} {items lost queue : List α} {item : α} {t now cutoff : τ}

omit [AddCommGroup τ] [IsOrderedAddMonoid τ] in
theorem purge_map {β : Type*} (f : β → α) (items : List β) :
    purge stamp cutoff (items.map f) = (purge (stamp ∘ f) cutoff items).map f := by
  simp only [purge, List.dropWhile_map, Function.comp_def]

omit [AddCommGroup τ] [IsOrderedAddMonoid τ] in
/-- What a purge removes, and what it leaves. -/
theorem purge_spec (cutoff : τ) (items : List α) :
    ∃ old, items = old ++ purge stamp cutoff items ∧ ∀ item ∈ old, stamp item ≤ cutoff := by
  refine ⟨items.takeWhile fun item => decide (stamp item ≤ cutoff),
    List.takeWhile_append_dropWhile.symm, fun item hitem => ?_⟩
  simpa using List.mem_takeWhile_imp hitem

omit [IsOrderedAddMonoid τ] in
theorem inWindow_append (items more : List α) :
    inWindow stamp width t (items ++ more) =
      inWindow stamp width t items ++ inWindow stamp width t more :=
  List.filter_append ..

/-- What is too old for a time is too old for every window that contains it. -/
theorem inWindow_of_stale (hstale : ∀ item ∈ items, stamp item ≤ now - width) (hnow : now ≤ t) :
    inWindow stamp width t items = [] := by
  refine List.filter_eq_nil_iff.mpr fun item hitem => ?_
  have hold : stamp item ≤ t - width := (hstale item hitem).trans (sub_le_sub_right hnow width)
  simp [hold]

/-- **The log grows by an item.** -/
theorem inWindow_concat (hlost : ∀ old ∈ lost, stamp old ≤ stamp item - width) :
    inWindow stamp width t (lost ++ queue ++ [item]) = inWindow stamp width t (lost ++ queue) ∨
      (inWindow stamp width t (lost ++ queue ++ [item])).Sublist
        (purge stamp (stamp item - width) queue ++ [item]) := by
  by_cases hitem : stamp item ≤ t
  · right
    obtain ⟨old, hqueue, hold⟩ :
        ∃ old, queue = old ++ purge stamp (stamp item - width) queue ∧
          ∀ other ∈ old, stamp other ≤ stamp item - width := purge_spec _ _
    have hwindow : inWindow stamp width t (lost ++ queue ++ [item]) =
        inWindow stamp width t (purge stamp (stamp item - width) queue ++ [item]) := by
      conv_lhs => rw [hqueue]
      rw [List.append_assoc, List.append_assoc, inWindow_append, inWindow_append old,
        inWindow_of_stale hlost hitem, inWindow_of_stale hold hitem]
      rfl
    rw [hwindow]
    exact List.filter_sublist
  · left
    have hnone : inWindow stamp width t [item] = [] := by
      simp [inWindow, hitem]
    rw [inWindow_append, hnone, List.append_nil]

end Windows
