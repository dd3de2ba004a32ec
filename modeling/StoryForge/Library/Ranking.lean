import Mathlib.Data.List.Basic
import Mathlib.Data.List.Induction
import Mathlib.Data.List.Sort

/-!
# Rankings

In a list that is ordered strictly, an item is among the first few exactly if few items come
before it, and the order of two items in the list is that of the ranking.

## Main results

* `Ranking.mem_take_iff` — the first few of a ranking;
* `Ranking.pair_sublist_iff` — which of two items is listed first;
* `Ranking.last_of_find?_reverse` — the last item of a kind comes after the others.
-/

universe u

namespace Ranking

variable {α : Type u} {before : α → α → Prop} {items : List α}

/-- Of a ranking, the first few are those that few items come before. -/
theorem mem_take_iff [DecidableRel before] {item : α} (h : items.Pairwise before)
    (hasymm : ∀ a b, before a b → ¬before b a)
    (count : ℕ) :
    item ∈ items.take count ↔
      item ∈ items ∧ (items.filter fun other => before other item).length < count := by
  have hirrefl : ∀ a, ¬before a a := fun a haa => hasymm a a haa haa
  induction items generalizing count with
  | nil => simp
  | cons first rest ih =>
      obtain ⟨hfirst, hrest⟩ := List.pairwise_cons.mp h
      cases count with
      | zero => simp
      | succ count =>
          have hrank : item ∈ rest.take count ↔ item ∈ rest ∧
              (rest.filter fun other => before other item).length < count := ih hrest count
          rw [List.take_succ_cons, List.mem_cons, List.mem_cons, hrank]
          by_cases heq : item = first
          · subst heq
            -- nothing comes before the first
            have hnone : (rest.filter fun other => before other item) = [] := by
              refine List.filter_eq_nil_iff.mpr fun other hother => ?_
              simpa using hasymm item other (hfirst other hother)
            simp [hnone, hirrefl item]
          · by_cases hmem : item ∈ rest
            · have hbefore := hfirst item hmem
              simp only [heq, hmem, false_or, true_and, List.filter_cons, hbefore, decide_true,
                if_true, List.length_cons]
              omega
            · simp [heq, hmem]

/-- In a ranking, an item is listed before another if it comes before it. -/
theorem pair_sublist_iff (h : items.Pairwise before) (hasymm : ∀ a b, before a b → ¬before b a)
    {a b : α} (ha : a ∈ items) (hb : b ∈ items) : [a, b].Sublist items ↔ before a b := by
  constructor
  · intro hsub
    exact List.pairwise_iff_forall_sublist.mp h hsub
  · intro hab
    induction items with
    | nil => contradiction
    | cons first rest ih =>
        obtain ⟨hfirst, hrest⟩ := List.pairwise_cons.mp h
        rcases List.mem_cons.mp ha with rfl | harest
        · rcases List.mem_cons.mp hb with rfl | hbrest
          · exact absurd hab (hasymm _ _ hab)
          · exact (List.singleton_sublist.mpr hbrest).cons_cons _
        · rcases List.mem_cons.mp hb with rfl | hbrest
          · exact absurd hab (hasymm _ _ (hfirst a harest))
          · exact (ih hrest harest hbrest).cons _

/-- The last of the items that satisfy a predicate comes after the others. -/
theorem last_of_find?_reverse (h : items.Pairwise before) {p : α → Bool} {item : α}
    (hfind : items.reverse.find? p = some item) :
    (item ∈ items ∧ p item = true) ∧
      ∀ other ∈ items, p other = true → other = item ∨ before other item := by
  refine ⟨⟨List.mem_reverse.mp (List.mem_of_find?_eq_some hfind), List.find?_some hfind⟩, ?_⟩
  intro other hother hp
  induction items using List.reverseRecOn with
  | nil => exact absurd hother List.not_mem_nil
  | append_singleton items last ih =>
      obtain ⟨hitems, -, hlast⟩ := List.pairwise_append.mp h
      rw [List.reverse_append, List.reverse_singleton, List.singleton_append,
        List.find?_cons] at hfind
      split at hfind
      · obtain rfl := Option.some.inj hfind
        rcases List.mem_append.mp hother with hmem | hmem
        · exact .inr (hlast other hmem _ (List.mem_singleton_self _))
        · exact .inl (List.mem_singleton.mp hmem)
      · next hnot =>
          rcases List.mem_append.mp hother with hmem | hmem
          · exact ih hitems hfind hmem
          · rw [List.mem_singleton.mp hmem, hnot] at hp
            exact absurd hp (by decide)

end Ranking
